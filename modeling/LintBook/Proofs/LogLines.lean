import LintBook.Proofs.Clashes
import LintBook.Proofs.Faults
import LintBook.Proofs.Malformed
import LintBook.Proofs.UploadLimit

/-! The lines of the log. Declarations are reported on one by one while they are collected, before
anything is put in order and up to the first repeated name; only a book that is written adds a line
of its own. An upload has the same lines, behind the one for a fallback if there was one. -/
namespace LintBook

/-- What the log shows of an event. -/
def Log.Event.line (e : Log.Event) : Log.Level × Text := (e.level, e.message)

def Logged.lines {α : Type} (x : Logged α) : List (Log.Level × Text) := x.events.map Log.Event.line

/-- One warning for each comment that does not follow the convention, in the order of the
declarations. It quotes the name as it was declared. -/
def Declaration.warnings (ds : List Declaration) : List (Log.Level × Text) :=
  (ds.filter fun d => DocComment.IsUnrecognised d.docComment).map fun d =>
    (.warning, ("malformed doc comment for config " : Text) ++ Text.Quoted.encode d.name)

theorem Declaration.lines_events (ds : List Declaration) :
    (ds.flatMap fun d => (Entry.ofDeclaration d).events).map Log.Event.line = warnings ds := by
  induction ds with
  | nil => rfl
  | cons d ds ih =>
    rw [List.flatMap_cons, List.map_append, ih, d.events, warnings, warnings]
    by_cases unread : DocComment.IsUnrecognised d.docComment
    · simp [unread, Log.Event.line, Log.Event.level, Log.Event.message, Json.literal]
    · simp [unread]

/-- The first position whose display name stands at an earlier one too. -/
def FirstClash (ds : List Declaration) (j : Nat) : Prop :=
  (∃ i, Clashes ds i j) ∧ ∀ k l, l < j → ¬ Clashes ds k l

theorem FirstClash.cut {ds : List Declaration} {j : Nat} (first : FirstClash ds j) :
    ∃ before d after, ds = before ++ d :: after ∧ ds.take (j + 1) = before ++ [d] ∧
      (before.map fun d => displayName d.name).Nodup ∧
      displayName d.name ∈ before.map fun d => displayName d.name := by
  obtain ⟨⟨i, clash⟩, none⟩ := first
  have inside : j < ds.length := by
    obtain ⟨_, _, _, _, here, _⟩ := clash
    exact (List.getElem?_eq_some_iff.mp here).1
  have cut : ds.take j ++ ds[j] :: ds.drop (j + 1) = ds := by
    rw [List.getElem_cons_drop, List.take_append_drop]
  have length : (ds.take j).length = j := List.length_take_of_le (Nat.le_of_lt inside)
  refine ⟨ds.take j, ds[j], ds.drop (j + 1), cut.symm, ?_, ?_, ?_⟩
  · exact List.take_succ_eq_append_getElem inside
  · rw [← not_clashes_before_iff (ds.take j) (ds[j] :: ds.drop (j + 1)), cut, length]
    exact none
  · rw [← exists_clashes_iff (ds.take j) ds[j] (ds.drop (j + 1)), cut, length]
    exact ⟨i, clash⟩

theorem renderEntries_events (decoding : Option Decoding.Report) (entries : List Entry) :
    (renderEntries decoding entries).events = [.writingBook entries.length] := by
  rw [renderEntries, Logged.events_bind]
  cases Encoding.Utf8.encodeStrict (Book.write entries).value <;> rfl

theorem render_events (decoding : Option Decoding.Report) (ds : List Declaration) :
    (render decoding ds).events = (Book.collect ds).events ++
      match (Book.collect ds).value with
      | .error _ => []
      | .ok entries => [.writingBook entries.length] := by
  rw [render, Logged.events_bind]
  cases (Book.collect ds).value with
  | error d => rfl
  | ok entries => rw [renderEntries_events]

theorem render_lines_eq (decoding decoding' : Option Decoding.Report) (ds : List Declaration) :
    (render decoding ds).lines = (render decoding' ds).lines := by
  rw [Logged.lines, Logged.lines, render_events, render_events]

theorem render_lines_of_nodup (decoding : Option Decoding.Report) {ds : List Declaration}
    (different : (ds.map fun d => displayName d.name).Nodup) :
    (render decoding ds).lines = Declaration.warnings ds ++
      [(.info, ("rendering configuration book with " : Text) ++ Text.ofNat ds.length ++
        (" configs" : Text))] := by
  have collected := Book.collect_eq_ok_iff.mpr ⟨different, rfl⟩
  have count : (Book.sortByName (ds.map Declaration.entry)).length = ds.length := by
    rw [(Book.sortByName_perm _).length_eq, List.length_map]
  rw [Logged.lines, render_events, collected, Book.collect_events collected, List.map_append,
    Declaration.lines_events]
  simp only [count]
  rfl

theorem render_lines_of_firstClash (decoding : Option Decoding.Report) {ds : List Declaration}
    {j : Nat} (first : FirstClash ds j) :
    (render decoding ds).lines = Declaration.warnings (ds.take (j + 1)) := by
  obtain ⟨before, d, after, whole, front, different, repeated⟩ := first.cut
  have refused : (Book.collect ds).value = .error ⟨displayName d.name⟩ :=
    Book.collect_eq_error_iff.mpr ⟨before, d, after, whole, rfl, different, repeated⟩
  have reported := Book.collect_events_repeated different repeated after
  rw [← whole, ← front] at reported
  rw [Logged.lines, render_events, refused, List.append_nil, reported, Declaration.lines_events]

namespace Upload

/-- The declarations that the text of the file stands for, if it is JSON that validation accepts. -/
def declarations? (detect : Bytes → Option Text) (u : Upload) : Option (List Declaration) := do
  let v ← (Json.read (u.text detect)).toOption
  let request ← (Request.ofUpload v).toOption
  pure request.declarations

/-- The file is looked at, and its text stands for `ds`. -/
structure Submits (limit : Int) (detect : Bytes → Option Text) (u : Upload)
    (ds : List Declaration) : Prop where
  taken : u.IsTaken limit
  text : u.declarations? detect = some ds

variable {limit : Int} {detect : Bytes → Option Text} {u : Upload} {ds : List Declaration}

theorem renderText_of_declarations? (text : u.declarations? detect = some ds)
    (report : Decoding.Report) :
    renderText report (u.text detect) = render (some report) ds := by
  rw [declarations?] at text
  cases read : Json.read (u.text detect) with
  | error e => simp [read, Except.toOption] at text
  | ok v =>
    cases valid : Request.ofUpload v with
    | error r => simp [read, valid, Except.toOption] at text
    | ok request =>
      simp only [read, valid, Except.toOption, Option.bind_eq_bind, Option.bind_some,
        Option.pure_def, Option.some.injEq] at text
      rw [renderText_value read valid, text]

/-- What an upload that reaches rendering reports and comes to. -/
theorem Submits.process_eq (submits : u.Submits limit detect ds) :
    process limit detect u = Decoding.decode (detect u.content) u.content >>= fun _ =>
      render (some (u.report detect)) ds := by
  rw [process_taken submits.taken, renderContent,
    ← renderText_of_declarations? submits.text]
  rfl

end Upload

/-- The line for a fallback, if there was one. -/
def Decoding.Report.warnings (r : Decoding.Report) : List (Log.Level × Text) :=
  if r.fallback then
    [(.warning, ("declarations decoded with fallback " : Text) ++ r.used ++
      (" (detected " : Text) ++ r.detected.getD "None" ++ (")" : Text))]
  else []

theorem Decoding.decode_lines (detected : Option Text) (raw : Bytes) :
    (decode detected raw).lines = (decode detected raw).value.2.warnings := by
  rw [decode]
  split <;> rfl

theorem Upload.Submits.lines {limit : Int} {detect : Bytes → Option Text} {u : Upload}
    {ds : List Declaration} (submits : u.Submits limit detect ds) :
    (process limit detect u).lines =
      (u.report detect).warnings ++ (render (some (u.report detect)) ds).lines := by
  rw [submits.process_eq, Logged.lines, Logged.events_bind, List.map_append]
  exact congrArg (· ++ _) (Decoding.decode_lines (detect u.content) u.content)

/-- The log tells what happened, in order. Where the display names are different, every comment that
does not follow the convention is warned about in the order of the declarations, and then the book
is announced with their number. Where they are not, the warnings go up to the first position whose
name is repeated, that one included, and no book is announced. An upload that reaches rendering has
the same lines, behind a warning exactly if its report owns up to a fallback. -/
theorem render_log (decoding : Option Decoding.Report) (ds : List Declaration) :
    ((∀ i j, ¬ Clashes ds i j) →
        (render decoding ds).lines = Declaration.warnings ds ++
          [(.info, ("rendering configuration book with " : Text) ++ Text.ofNat ds.length ++
            (" configs" : Text))]) ∧
      (∀ j, FirstClash ds j →
        (render decoding ds).lines = Declaration.warnings (ds.take (j + 1))) ∧
      ∀ limit detect (u : Upload), u.Submits limit detect ds →
        (u.process limit detect).lines =
            (u.report detect).warnings ++ (render decoding ds).lines ∧
          ∀ r, (Upload.process limit detect u).value = .rendered r →
            r.decoding = some (u.report detect) := by
  refine ⟨?_, fun j first => render_lines_of_firstClash decoding first, ?_⟩
  · intro none
    exact render_lines_of_nodup decoding ((not_clashes_iff_nodup ds).mp none)
  · intro limit detect u submits
    refine ⟨?_, fun r rendered => ?_⟩
    · rw [submits.lines, render_lines_eq]
    · rw [Upload.process_taken submits.taken] at rendered
      exact Upload.decoding_of_renderText _ _ rendered

/-- The second name without a usable comment clashes with the first, and is warned about; the third
is never read. The file that is uploaded is no ASCII, for which it was taken. -/
theorem render_log_clash :
    let bad (name : Text) : Declaration := ⟨name, "", "", "", none⟩
    let fine : Declaration := ⟨"a", "", "", " Lint: X. Y", none⟩
    let ds := [bad "b_x", fine, bad "b-x", bad "c"]
    let warning (name : Text) : Log.Level × Text :=
      (.warning, ("malformed doc comment for config " : Text) ++ name)
    let fallback : Log.Level × Text :=
      (.warning, "declarations decoded with fallback utf-8 (detected ascii)")
    let book : Log.Level × Text := (.info, "rendering configuration book with 2 configs")
    let detect : Bytes → Option Text := fun _ => some "ascii"
    let u : Upload := ⟨some "a.json", Encoding.Utf8.encode (Json.print .unicode (.arr
      ([bad "é", fine].map Declaration.toJson)))⟩
    FirstClash ds 2 ∧ (render none ds).lines = [warning "'b_x'", warning "'b-x'"] ∧
      u.Submits 1048576 detect [bad "é", fine] ∧
      (u.process 1048576 detect).lines = [fallback, warning "'é'", book] := by
  intro bad fine ds warning fallback book detect u
  have first : FirstClash ds 2 := ⟨⟨0, by decide⟩,
    (not_clashes_before_iff [bad "b_x", fine] _).mpr (by decide)⟩
  have submits : u.Submits 1048576 detect [bad "é", fine] :=
    ⟨⟨(Upload.isSupported_iff u).mp (by decide), by decide, by decide +kernel⟩, by decide +kernel⟩
  have different : ∀ i j, ¬ Clashes [bad "é", fine] i j :=
    (not_clashes_iff_nodup _).mpr (by decide)
  have clashing : Declaration.warnings (ds.take 3) = [warning "'b_x'", warning "'b-x'"] := by
    decide +kernel
  have reported : Declaration.warnings [bad "é", fine] = [warning "'é'"] := by decide +kernel
  have decoded : (u.report detect).warnings = [fallback] := by decide +kernel
  have log := render_log none [bad "é", fine]
  refine ⟨first, ?_, submits, ?_⟩
  · rw [(render_log none ds).2.1 2 first, clashing]
  · rw [(log.2.2 _ _ u submits).1, log.1 different, decoded, reported]
    decide +kernel

end LintBook
