import LintBook.Proofs.ReadingLimits
import LintBook.Proofs.Uploading
import LintBook.Proofs.Validating
import LintBook.Settings.Basic

/-! Which uploads no answer is prepared for. The limit can lie beyond what a read can be asked for, a
file can exceed the limits of the reader, and validated declarations can put a surrogate into the
book; every other upload is rendered or turned down with a status of its own. -/
namespace LintBook

/-- Declarations whose names can be shown come to a conflict, to a rendering, or to a surrogate in
the book, which one of them shows. -/
theorem render_outcomes (decoding : Option Decoding.Report) {ds : List Declaration}
    (named : ∀ d ∈ ds, d.name.isScalar = true) :
    (¬ (ds.map fun d => displayName d.name).Nodup ∧
        ∃ d, (render decoding ds).value = .rejected (.duplicateName d)) ∨
      (ds.map fun d => displayName d.name).Nodup ∧
        (((∀ d ∈ ds, ∀ t ∈ d.shown, t.isScalar = true) ∧
            ∃ r, (render decoding ds).value = .rendered r) ∨
          (∃ d ∈ ds, ∃ t ∈ d.shown, t.isScalar = false) ∧
            ∃ u, Encoding.Utf8.unencodable? (Book.ofDeclarations ds) = some u ∧
              (render decoding ds).value = .failed (.unencodable u)) := by
  by_cases different : (ds.map fun d => displayName d.name).Nodup
  · refine Or.inr ⟨different, ?_⟩
    have book := Book.isScalar_ofDeclarations_iff named
    rw [render_of_nodup decoding different]
    cases first : Encoding.Utf8.unencodable? (Book.ofDeclarations ds) with
    | none =>
      have scalar := (Encoding.Utf8.unencodable?_eq_none_iff _).mp first
      exact Or.inl ⟨book.mp scalar, _, rfl⟩
    | some u =>
      have surrogate : ¬ (Book.ofDeclarations ds).isScalar = true := by
        rw [← Encoding.Utf8.unencodable?_eq_none_iff, first]
        simp
      rw [book] at surrogate
      simp only [not_forall, exists_prop, Bool.not_eq_true] at surrogate
      exact Or.inr ⟨surrogate, u, rfl, rfl⟩
  · obtain ⟨d, conflict⟩ := render_conflict different
    exact Or.inl ⟨different, d, conflict decoding⟩

/-- The outcome is a rendering, or a rejection with status 409, 413 or 422. -/
def Outcome.IsDocumented : Outcome → Prop
  | .rendered _ => True
  | .rejected r => r.status = 409 ∨ r.status = 413 ∨ r.status = 422
  | .failed _ => False

theorem Outcome.isDocumented_iff (o : Outcome) : o.IsDocumented ↔ ∀ f, o ≠ .failed f := by
  cases o with
  | rendered r => simp [IsDocumented]
  | rejected r => cases r <;> simp [IsDocumented, Rejection.status]
  | failed f => simp [IsDocumented]

namespace Upload

/-- How the text of a file causes a fault: its containers stand too deep inside each other, an
integer in it is too long, or the book of its declarations holds a surrogate. -/
inductive Breaks (t : Text) : Fault → Prop
  | nested {c : Json.Container} (verdict : Json.read t = .error (.tooDeep c))
      (many : Json.nestingLimit < t.countP Json.opensContainer) : Breaks t (.tooDeep c)
  | long {count : Nat} (verdict : Json.read t = .error (.tooManyDigits count))
      (digits : Json.HasLongRun t count) : Breaks t (.tooManyDigits count)
  | surrogate {v : Json} {request : Request} {u : Encoding.Utf8.Unencodable}
      (read : Json.read t = .ok v) (valid : Request.ofUpload v = .ok request)
      (different : (request.declarations.map fun d => displayName d.name).Nodup)
      (first : Encoding.Utf8.unencodable? (Book.ofDeclarations request.declarations) = some u)
      (shows : ∃ d ∈ request.declarations, ∃ t ∈ d.shown, t.isScalar = false) :
      Breaks t (.unencodable u)

section Text

variable {report : Decoding.Report} {t : Text}

theorem renderText_failed_iff {f : Fault} :
    (renderText report t).value = .failed f ↔ Breaks t f := by
  constructor
  · intro failed
    cases verdict : Json.read t with
    | error e =>
      cases e with
      | flaw g position => simp [renderText, verdict] at failed
      | tooDeep c =>
        simp only [renderText, verdict, Logged.value_pure, Outcome.failed.injEq] at failed
        exact failed ▸ .nested verdict (Json.read_tooDeep verdict)
      | tooManyDigits count =>
        simp only [renderText, verdict, Logged.value_pure, Outcome.failed.injEq] at failed
        exact failed ▸ .long verdict (Json.read_tooManyDigits verdict)
    | ok v =>
      cases valid : Request.ofUpload v with
      | error r => simp [renderText, verdict, valid] at failed
      | ok request =>
        rw [renderText_value verdict valid] at failed
        have named := fun d among => (Request.names_of_ofUpload valid d among).2
        rcases render_outcomes (some report) named with
          ⟨_, d, conflict⟩ | ⟨different, ⟨_, r, rendered⟩ | ⟨shows, u, first, broken⟩⟩
        · rw [conflict] at failed
          cases failed
        · rw [rendered] at failed
          cases failed
        · rw [broken] at failed
          cases failed
          exact .surrogate verdict valid different first shows
  · intro breaks
    cases breaks with
    | nested verdict _ => simp only [renderText, verdict, Logged.value_pure]
    | long verdict _ => simp only [renderText, verdict, Logged.value_pure]
    | surrogate verdict valid different first _ =>
      rw [renderText_value verdict valid, render_of_nodup _ different, first]

end Text

/-- How an upload fails. Where the limit is beyond what a read can be asked for, any file with a name
that is accepted does, and else a file that is looked at, by how its text causes a fault. -/
inductive Fails (limit : Int) (detect : Bytes → Option Text) (u : Upload) : Fault → Prop
  | unreadable (named : u.HasJsonName) (huge : readBound ≤ limit + 1) :
      Fails limit detect u .oversizedRead
  | broken {f : Fault} (taken : u.IsTaken limit) (breaks : Breaks (u.text detect) f) :
      Fails limit detect u f

section Process

variable {limit : Int} {detect : Bytes → Option Text} {u : Upload}

theorem process_taken_value (taken : u.IsTaken limit) :
    (process limit detect u).value = (renderText (u.report detect) (u.text detect)).value := by
  rw [process_taken taken, renderContent_value]

theorem process_failed_iff (f : Fault) :
    (process limit detect u).value = .failed f ↔ u.Fails limit detect f := by
  constructor
  · intro failed
    by_cases named : u.HasJsonName
    · by_cases readable : limit + 1 < readBound
      · by_cases fits : u.content.length ≤ limit
        · have taken : u.IsTaken limit := ⟨named, readable, fits⟩
          rw [process_taken_value taken, renderText_failed_iff] at failed
          exact .broken taken failed
        · rw [process_large named readable (Int.not_le.mp fits)] at failed
          cases failed
      · have huge := Int.not_lt.mp readable
        rw [process_unreadable named huge] at failed
        cases failed
        exact .unreadable named huge
    · rw [process_unnamed named] at failed
      cases failed
  · intro fails
    cases fails with
    | unreadable named huge => rw [process_unreadable named huge, Logged.value_pure]
    | broken taken breaks => rw [process_taken_value taken, renderText_failed_iff.mpr breaks]

end Process

/-- An upload is rendered or turned down with status 409, 413 or 422, except exactly where its read
fails or its text breaks the reader or the book. Of the files that are looked at, a text that is no
JSON is turned down with status 422, unless it breaks the reader, and declarations that are accepted
come to a rendering or a conflict, unless they show a surrogate. -/
theorem process_outcomes (limit : Int) (detect : Bytes → Option Text) (u : Upload) :
    let outcome := (process limit detect u).value
    (∀ f, outcome = .failed f ↔ u.Fails limit detect f) ∧
      ((∀ f, ¬ u.Fails limit detect f) → outcome.IsDocumented) ∧
      (u.IsTaken limit → (∀ f, ¬ Breaks (u.text detect) f) →
        ∀ e, Json.read (u.text detect) = .error e →
          ∃ r, outcome = .rejected r ∧ r.status = 422) ∧
      (u.IsTaken limit → ∀ v request, Json.read (u.text detect) = .ok v →
        Request.ofUpload v = .ok request →
        (∀ d ∈ request.declarations, ∀ t ∈ d.shown, t.isScalar = true) →
          (∃ r, outcome = .rendered r) ∨ ∃ d, outcome = .rejected (.duplicateName d)) := by
  intro outcome
  refine ⟨process_failed_iff, ?_, ?_, ?_⟩
  · intro whole
    exact outcome.isDocumented_iff.mpr fun f failed => whole f ((process_failed_iff f).mp failed)
  · intro taken whole e verdict
    have found : outcome = (renderText (u.report detect) (u.text detect)).value :=
      process_taken_value taken
    cases e with
    | flaw f position =>
      have rejected : outcome = .rejected (.malformedJson f) := by
        simp only [found, renderText, verdict, Logged.value_pure]
      exact ⟨_, rejected, rfl⟩
    | tooDeep c => exact (whole _ (.nested verdict (Json.read_tooDeep verdict))).elim
    | tooManyDigits count => exact (whole _ (.long verdict (Json.read_tooManyDigits verdict))).elim
  · intro taken v request verdict valid scalar
    have named := fun d among => (Request.names_of_ofUpload valid d among).2
    have value : outcome = (render (some (u.report detect)) request.declarations).value := by
      rw [← renderText_value verdict valid]
      exact process_taken_value taken
    rw [value]
    rcases render_outcomes (some (u.report detect)) named with
      ⟨_, conflict⟩ | ⟨_, ⟨_, rendered⟩ | ⟨⟨d, among, t, shown, surrogate⟩, _⟩⟩
    · exact Or.inr conflict
    · exact Or.inl rendered
    · rw [scalar d among t shown] at surrogate
      cases surrogate

/-- Surrogates do no harm where no paragraph shows them: in a later word of a lint's name, in a
deprecation reason, and in a comment that is not recognised. -/
theorem process_outcomes_hidden :
    let hidden : Text :=
      "[\x7b\"name\":\"a\",\"config_type\":\"\",\"default\":\"\"," ++
        ("\"doc_comment\":\" Lint: A \\ud800. x\"," : Text) ++
        ("\"deprecation_reason\":\"\\udc00\"\x7d," : Text) ++
        ("\x7b\"name\":\"b\",\"config_type\":\"\",\"default\":\"\"," : Text) ++
        ("\"doc_comment\":\"\\ud800\"\x7d]" : Text)
    let u : Upload := ⟨some "a.json", Encoding.Utf8.encode hidden⟩
    let outcome := (process 1048576 (fun raw => some (Encoding.guess raw)) u).value
    u.IsTaken 1048576 ∧ ((∃ r, outcome = .rendered r) ∨
      ∃ d, outcome = .rejected (.duplicateName d)) := by
  intro hidden u outcome
  let detect : Bytes → Option Text := fun raw => some (Encoding.guess raw)
  have taken : u.IsTaken 1048576 :=
    ⟨(isSupported_iff u).mp (by decide), by decide, by decide +kernel⟩
  have harmless : ((Json.read (u.text detect)).toOption.any fun v =>
      (Request.ofUpload v).toOption.any fun request =>
        request.declarations.all fun d => d.shown.all Text.isScalar) = true := by
    decide +kernel
  obtain ⟨v, read, harmless⟩ := (Option.any_eq_true _ _).mp harmless
  obtain ⟨request, given, harmless⟩ := (Option.any_eq_true _ _).mp harmless
  have verdict : Json.read (u.text detect) = .ok v := by
    cases found : Json.read (u.text detect) with
    | error e => simp [found, Except.toOption] at read
    | ok w => simpa [found, Except.toOption] using read
  have valid : Request.ofUpload v = .ok request := by
    cases found : Request.ofUpload v with
    | error e => simp [found, Except.toOption] at given
    | ok w => simpa [found, Except.toOption] using given
  simp only [List.all_eq_true] at harmless
  obtain ⟨_, _, _, accepted⟩ := process_outcomes 1048576 detect u
  exact ⟨taken, accepted taken v request verdict valid harmless⟩

theorem encode_replicate (n : Nat) :
    Encoding.Utf8.encode (List.replicate n ('[' : CodePoint)) = List.replicate n 0x5B := by
  have bracket : Encoding.Utf8.encodeChar ('[' : CodePoint) = [0x5B] := by decide
  induction n with
  | zero => rfl
  | succ n ih =>
    rw [List.replicate_succ, List.replicate_succ, Encoding.Utf8.encode, List.flatMap_cons, bracket]
    exact congrArg (List.cons 0x5B) ih

/-- However far it is beyond the limit of the reader, a file of opening brackets alone fails. -/
theorem process_brackets {n : Nat} {limit : Int} (deep : Json.nestingLimit < n)
    (readable : limit + 1 < readBound) (fits : (n : Int) ≤ limit) :
    (process limit (fun raw => some (Encoding.guess raw))
      ⟨some "a.json", List.replicate n 0x5B⟩).value = .failed (.tooDeep .array) := by
  have scalar : Text.isScalar (List.replicate n ('[' : CodePoint)) = true :=
    List.all_eq_true.mpr fun c among => List.eq_of_mem_replicate among ▸ by decide
  have taken : IsTaken limit ⟨some "a.json", List.replicate n 0x5B⟩ :=
    ⟨(isSupported_iff _).mp (by decide : Text.endsWith ".json" (Text.lower "a.json") = true),
      readable, by simpa using fits⟩
  have verdict := Json.read_replicate deep
  have brackets := encode_replicate n
  obtain ⟨m, rfl⟩ := Nat.exists_eq_add_one.mpr (Nat.lt_of_le_of_lt (Nat.zero_le _) deep)
  rw [List.replicate_succ] at scalar verdict brackets
  obtain ⟨_, _, decoded⟩ := Decoding.decode_encode (by decide) (by decide) .utf8 scalar
  rw [FileForm.encode, brackets] at decoded
  rw [process_taken_value taken, text, decoded, renderText, verdict]
  exact Logged.value_pure _

/-- Three uploads with no documented outcome: arrays inside each other, a surrogate as a type, and
an empty list under the greatest limit of 64 bits, which the settings accept. -/
theorem process_undocumented :
    let detect := fun raw => some (Encoding.guess raw)
    let nested : Upload := ⟨some "a.json", List.replicate 5000 0x5B⟩
    let surrogate : Upload := ⟨some "a.json", Encoding.Utf8.encode
      ("[\x7b\"name\":\"a\",\"config_type\":\"\\ud800\",\"default\":\"\"," ++
        ("\"doc_comment\":\"\"\x7d]" : Text))⟩
    let empty : Upload := ⟨some "a.json", Encoding.Utf8.encode "[]"⟩
    let limit : Nat := 9223372036854775807
    ¬ (process 1048576 detect nested).value.IsDocumented ∧
      ¬ (process 1048576 detect surrogate).value.IsDocumented ∧
      Settings.read Settings.lead [("CONFDOC_MAX_UPLOAD_BYTES", "9223372036854775807")] =
        .ok ⟨"INFO", limit⟩ ∧
      ¬ (process limit detect empty).value.IsDocumented := by
  intro detect nested surrogate empty limit
  refine ⟨?_, ?_, rfl, ?_⟩
  · rw [process_brackets (by decide) (by decide) (by decide)]
    exact id
  · have broken : (match (process 1048576 detect surrogate).value with
        | .failed _ => true
        | _ => false) = true := by decide +kernel
    split at broken
    case h_1 failed => exact failed ▸ id
    case h_2 => cases broken
  · have named : empty.HasJsonName := (isSupported_iff empty).mp (by decide)
    rw [process_unreadable named (by decide)]
    exact id

end Upload

end LintBook
