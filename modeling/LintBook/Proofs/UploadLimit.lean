import LintBook.Proofs.Scalars
import LintBook.Upload

/-! The limit of an upload. One byte more than the limit is read, which is enough to tell a file
that is too large from one that is not, and a file that is not has been read to its end. So as long
as a read can be asked for that much, the limit decides whether the content is looked at, and has no
part in what comes of it. -/
namespace LintBook

theorem Rejection.status_eq_413_iff (r : Rejection) : r.status = 413 ↔ r = .tooLarge := by
  cases r <;> simp [status]

namespace Upload

/-- The file has a name, and it closes with `.json` in any case. -/
def HasJsonName (u : Upload) : Prop :=
  ∃ name, u.fileName = some name ∧ name ≠ [] ∧ (".json" : Text) <:+ Text.lower name

theorem isSupported_iff (u : Upload) : u.isSupported = true ↔ u.HasJsonName := by
  rw [isSupported, HasJsonName]
  cases u.fileName with
  | none => simp
  | some name =>
    have empty : ¬ (".json" : Text) <:+ Text.lower [] := by decide
    simp only [Option.some.injEq, exists_eq_left', Text.endsWith, List.isSuffixOf_iff_suffix]
    constructor
    · exact fun ends => ⟨fun missing => empty (missing ▸ ends), ends⟩
    · exact And.right

/-- The text that is found in the file. -/
def text (detect : Bytes → Option Text) (u : Upload) : Text :=
  (Decoding.decode (detect u.content) u.content).value.1

/-- How the file was decoded. -/
def report (detect : Bytes → Option Text) (u : Upload) : Decoding.Report :=
  (Decoding.decode (detect u.content) u.content).value.2

/-- What comes of the whole content of a file. -/
def renderContent (detect : Bytes → Option Text) (content : Bytes) : Logged Outcome := do
  let (t, report) ← Decoding.decode (detect content) content
  renderText report t

theorem renderContent_value (detect : Bytes → Option Text) (u : Upload) :
    (renderContent detect u.content).value = (renderText (u.report detect) (u.text detect)).value :=
  rfl

/-- The name of the file is accepted, one byte more than the limit can be asked for, and the file
does not exceed the limit. So its content is looked at. -/
structure IsTaken (limit : Int) (u : Upload) : Prop where
  named : u.HasJsonName
  readable : limit + 1 < readBound
  fits : u.content.length ≤ limit

section Limit

variable {limit : Int} {detect : Bytes → Option Text} {u : Upload}

theorem read_eq_ok (readable : limit + 1 < readBound) (content : Bytes) :
    read (limit + 1) content = .ok (content.take (limit + 1).toNat) := if_pos readable

theorem read_eq_error (huge : readBound ≤ limit + 1) (content : Bytes) :
    read (limit + 1) content = .error .oversizedRead := if_neg (Int.not_lt.mpr huge)

/-- One byte beyond the limit is among the bytes that are read exactly if the file has one. -/
theorem limit_lt_length_take_iff (content : Bytes) :
    limit < ((content.take (limit + 1).toNat).length : Int) ↔ limit < content.length := by
  rw [List.length_take]
  omega

theorem process_unnamed (unnamed : ¬ u.HasJsonName) :
    process limit detect u = pure (.rejected .unsupportedFile) := by
  rw [process, if_neg (mt (isSupported_iff u).mp unnamed)]

/-- A limit beyond what can be asked for makes the read fail before the file has any say. -/
theorem process_unreadable (named : u.HasJsonName) (huge : readBound ≤ limit + 1) :
    process limit detect u = pure (.failed .oversizedRead) := by
  rw [process, if_pos ((isSupported_iff u).mpr named), read_eq_error huge]

theorem process_large (named : u.HasJsonName) (readable : limit + 1 < readBound)
    (large : limit < u.content.length) : process limit detect u = pure (.rejected .tooLarge) := by
  rw [process, if_pos ((isSupported_iff u).mpr named), read_eq_ok readable]
  exact if_pos ((limit_lt_length_take_iff u.content).mpr large)

theorem process_taken (taken : u.IsTaken limit) :
    process limit detect u = renderContent detect u.content := by
  have whole : u.content.take (limit + 1).toNat = u.content :=
    List.take_of_length_le (by have := taken.fits; omega)
  rw [process, if_pos ((isSupported_iff u).mpr taken.named), read_eq_ok taken.readable, whole]
  exact if_neg (Int.not_lt.mpr taken.fits)

end Limit

section Content

variable (report : Decoding.Report) (t : Text)

/-- A text is never turned down for the size of its file, and what is rendered of it keeps the
report of how it was decoded. -/
theorem renderText_cases :
    (∃ r, (renderText report t).value = .rejected r ∧ r ≠ .tooLarge) ∨
      (∃ entries, (renderText report t).value = .rendered (.ofEntries (some report) entries)) ∨
      ∃ f, (renderText report t).value = .failed f := by
  cases read : Json.read t with
  | error e =>
    cases e <;> simp [renderText, read]
  | ok v =>
    cases valid : Request.ofUpload v with
    | error r => simp [renderText, read, valid]
    | ok request =>
      have given : renderText report t = render (some report) request.declarations := by
        simp only [renderText, read, valid]
      rw [given]
      by_cases different : (request.declarations.map fun d => displayName d.name).Nodup
      · rw [render_of_nodup _ different]
        cases Encoding.Utf8.unencodable? (Book.ofDeclarations request.declarations) with
        | none => exact Or.inr (Or.inl ⟨_, rfl⟩)
        | some u => exact Or.inr (Or.inr ⟨_, rfl⟩)
      · obtain ⟨d, conflict⟩ := render_conflict different
        exact Or.inl ⟨_, conflict _, nofun⟩

theorem renderText_ne_tooLarge : (renderText report t).value ≠ .rejected .tooLarge := by
  rcases renderText_cases report t with ⟨r, rejected, other⟩ | ⟨entries, rendered⟩ | ⟨f, failed⟩
  · rw [rejected]
    exact fun same => other (Outcome.rejected.inj same)
  · simp [rendered]
  · simp [failed]

theorem decoding_of_renderText {r : Rendering}
    (rendered : (renderText report t).value = .rendered r) : r.decoding = some report := by
  rcases renderText_cases report t with ⟨r', rejected, _⟩ | ⟨entries, found⟩ | ⟨f, failed⟩
  · simp [rejected] at rendered
  · rw [found] at rendered
    exact Outcome.rendered.inj rendered ▸ rfl
  · simp [failed] at rendered

end Content

theorem digest_decode (detected : Option Text) (raw : Bytes) :
    (Decoding.decode detected raw).value.2.digest = raw.sha256 := by
  rw [Decoding.decode]
  split <;> rfl

/-- A file without a name, with an empty one or with one that does not close with `.json` is turned
down whatever its content and the limit are. Under limits for which the read can be asked, any other
file is turned down for its size exactly if it is longer than the limit. If it is not, its whole
content is decoded, digested and rendered, and under any other limit that it fits the same comes of
it. So what comes of a file that was not too large stays the same when the limit is raised. -/
theorem process_never_truncates (detect : Bytes → Option Text) (u : Upload) (limit limit' : Int) :
    (¬ u.HasJsonName → process limit detect u = pure (.rejected .unsupportedFile) ∧
        Rejection.unsupportedFile.status = 422) ∧
      (u.HasJsonName → limit + 1 < readBound →
        ((∃ r, (process limit detect u).value = .rejected r ∧ r.status = 413) ↔
          limit < u.content.length)) ∧
      (u.IsTaken limit → u.IsTaken limit' →
        process limit detect u = renderContent detect u.content ∧
          process limit' detect u = renderContent detect u.content) ∧
      (u.content.length ≤ limit → ∀ r, (process limit detect u).value = .rendered r →
        ∃ report, r.decoding = some report ∧ report.digest = u.content.sha256) ∧
      (limit ≤ limit' → limit' + 1 < readBound →
        (∀ r, (process limit detect u).value = .rejected r → r.status ≠ 413) →
        process limit' detect u = process limit detect u) := by
  by_cases named : u.HasJsonName
  · have exceeds (readable : limit + 1 < readBound) :
        (∃ r, (process limit detect u).value = .rejected r ∧ r.status = 413) ↔
          limit < u.content.length := by
      constructor
      · rintro ⟨r, rejected, status⟩
        by_contra fits
        rw [Rejection.status_eq_413_iff] at status
        rw [process_taken ⟨named, readable, Int.not_lt.mp fits⟩, status] at rejected
        exact renderText_ne_tooLarge _ _ rejected
      · intro large
        exact ⟨.tooLarge, by rw [process_large named readable large, Logged.value_pure], rfl⟩
    refine ⟨fun unnamed => absurd named unnamed, fun _ => exceeds, ?_, ?_, ?_⟩
    · exact fun taken taken' => ⟨process_taken taken, process_taken taken'⟩
    · intro fits r rendered
      by_cases readable : limit + 1 < readBound
      · rw [process_taken ⟨named, readable, fits⟩] at rendered
        exact ⟨_, decoding_of_renderText _ _ rendered, digest_decode _ _⟩
      · rw [process_unreadable named (Int.not_lt.mp readable)] at rendered
        cases rendered
    · intro raised readable' small
      have readable : limit + 1 < readBound := by omega
      have fits : u.content.length ≤ limit := by
        by_contra large
        obtain ⟨r, rejected, status⟩ := (exceeds readable).mpr (Int.not_le.mp large)
        exact small r rejected status
      rw [process_taken ⟨named, readable, fits⟩,
        process_taken ⟨named, readable', Int.le_trans fits raised⟩]
  · have turnedDown (limit : Int) : process limit detect u = pure (.rejected .unsupportedFile) :=
      process_unnamed named
    refine ⟨fun _ => ⟨turnedDown limit, rfl⟩, fun there => absurd there named,
      fun taken => absurd taken.named named, ?_, ?_⟩
    · intro _ r rendered
      rw [turnedDown] at rendered
      cases rendered
    · intro _ _ _
      rw [turnedDown, turnedDown]

/-- The two and the three bytes at the front of this file are JSON, and the file is not. -/
theorem process_never_truncates_prefix :
    let detect := fun raw => some (Encoding.guess raw)
    let u : Upload := ⟨some "A.Json", Encoding.Utf8.encode "[] ]"⟩
    u.HasJsonName ∧ (∃ v, Json.read "[] " = .ok v) ∧
      (∃ r, (process 2 detect u).value = .rejected r ∧ r.status = 413) ∧
      (∃ r, (process 3 detect u).value = .rejected r ∧ r.status = 413) ∧
      process 5 detect u = renderContent detect u.content ∧
      process 4 detect u = renderContent detect u.content := by
  intro detect u
  have named : u.HasJsonName := (isSupported_iff u).mp (by decide)
  have two := (process_never_truncates detect u 2 0).2.1 named (by decide)
  have three := (process_never_truncates detect u 3 0).2.1 named (by decide)
  have whole := (process_never_truncates detect u 5 4).2.2.1 ⟨named, by decide, by decide⟩
    ⟨named, by decide, by decide⟩
  exact ⟨named, ⟨.arr [], rfl⟩, two.mpr (by decide), three.mpr (by decide), whole⟩

end Upload

end LintBook
