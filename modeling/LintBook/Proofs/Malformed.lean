import LintBook.Proofs.Scalars

/-! Comments that do not follow the convention. The reader of comments, the log and the list of
lints know of them; the entry, the book's look-up and the summary infer it from the description. The
inference misses no such comment, and takes for one exactly the comments that spell out the text
which stands in for a description. -/
namespace LintBook

namespace DocComment

/-- The marker is not in front, or there is no full stop. -/
def IsUnrecognised (comment : Text) : Prop := ¬ marker <+: comment ∨ terminator ∉ comment

instance (comment : Text) : Decidable (IsUnrecognised comment) :=
  inferInstanceAs (Decidable (_ ∨ _))

theorem parse?_eq_none_iff (comment : Text) : parse? comment = none ↔ IsUnrecognised comment := by
  rw [parse?, IsUnrecognised]
  cases begins : Text.after? marker comment with
  | none =>
    have unmarked : ¬ marker <+: comment := by
      rintro ⟨body, whole⟩
      rw [Text.after?_eq_some_iff.mpr whole.symm] at begins
      cases begins
    simp [unmarked]
  | some body =>
    obtain rfl := Text.after?_eq_some_iff.mp begins
    have apart : terminator ∉ marker := by decide
    have through : body.dropWhile (fun c => c ≠ terminator) = [] ↔ terminator ∉ body := by
      simp only [List.dropWhile_eq_nil_iff, decide_eq_true_eq]
      exact ⟨fun each inside => each _ inside rfl,
        fun absent c inside same => absent (same ▸ inside)⟩
    rw [Option.bind_some, List.mem_append, or_iff_right apart]
    split
    case h_1 empty => simpa using through.mp empty
    case h_2 more => simpa using mt through.mpr more

theorem reindent_oneLine {t : Text} (oneLine : ('\n' : CodePoint) ∉ t) : reindent t = t := by
  induction t with
  | nil => rfl
  | cons c t ih =>
    rw [List.mem_cons, not_or] at oneLine
    rw [reindent_cons, ih oneLine.2, nestAfter, if_neg fun h => oneLine.1 h.1.symm]

/-- Re-indentation makes a text of one line from no other text. -/
theorem reindent_eq_iff {t u : Text} (oneLine : ('\n' : CodePoint) ∉ u) :
    reindent t = u ↔ t = u := by
  constructor
  · rintro rfl
    exact (reindent_oneLine (mt (mem_reindent_iff (by decide) t).mpr oneLine)).symm
  · rintro rfl
    exact reindent_oneLine oneLine

/-- The comment follows the convention and describes the option by the text that stands in for a
description, behind any full stops and between any blanks. -/
def SpellsMalformed (comment : Text) : Prop :=
  ∃ names prose, Written comment names prose ∧
    Text.strip (prose.dropWhile fun c => c = ('.' : CodePoint)) = Entry.malformedDoc

theorem description_eq_malformedDoc_iff (prose : Text) :
    description prose = Entry.malformedDoc ↔
      Text.strip (prose.dropWhile fun c => c = ('.' : CodePoint)) = Entry.malformedDoc :=
  reindent_eq_iff (by decide)

theorem exists_doc_malformed_iff (comment : Text) :
    (∃ d, parse? comment = some d ∧ d.doc = Entry.malformedDoc) ↔ SpellsMalformed comment := by
  constructor
  · rintro ⟨d, parsed, doc⟩
    obtain ⟨names, prose, written, rfl⟩ := exists_written_eq parsed
    exact ⟨names, prose, written, (description_eq_malformedDoc_iff prose).mp doc⟩
  · rintro ⟨names, prose, written, doc⟩
    exact ⟨_, parse?_written written, (description_eq_malformedDoc_iff prose).mpr doc⟩

end DocComment

/-- A comment is reported exactly if it does not follow the convention. -/
theorem Entry.readComment_events (name : Json) (comment : Text) :
    (readComment name comment).events =
      if DocComment.IsUnrecognised comment then [.malformedComment name] else [] := by
  simp only [readComment, ← DocComment.parse?_eq_none_iff]
  cases DocComment.parse? comment with
  | none => rfl
  | some c => rfl

namespace Declaration

theorem entry_lints_eq_nil_iff (d : Declaration) :
    d.entry.lints = [] ↔ DocComment.parse? d.docComment = none := by
  rw [entry_lints]
  cases parsed : DocComment.parse? d.docComment with
  | none => simp
  | some c => simpa using (DocComment.canonical_of_parse? parsed).some_lint

theorem entry_isMalformed_iff (d : Declaration) :
    d.entry.isMalformed = true ↔
      DocComment.parse? d.docComment = none ∨ DocComment.SpellsMalformed d.docComment := by
  rw [Entry.isMalformed, decide_eq_true_eq, entry_doc, ← DocComment.exists_doc_malformed_iff]
  cases DocComment.parse? d.docComment with
  | none => simp
  | some c => simp

theorem events (d : Declaration) :
    (Entry.ofDeclaration d).events =
      if DocComment.IsUnrecognised d.docComment then [.malformedComment (.str d.name)] else [] := by
  rw [Entry.ofDeclaration, Logged.events_bind, Logged.events_pure, List.append_nil,
    Entry.readComment_events]

theorem mem_events_iff (d : Declaration) (e : Log.Event) :
    e ∈ (Entry.ofDeclaration d).events ↔
      e = .malformedComment (.str d.name) ∧ DocComment.parse? d.docComment = none := by
  rw [events, DocComment.parse?_eq_none_iff]
  split <;> simp [*]

end Declaration

namespace Book

section Collected

variable {ds : List Declaration} {entries : List Entry}
  (collected : (collect ds).value = .ok entries)

include collected

theorem eq_of_displayName {d d' : Declaration} (first : d ∈ ds) (second : d' ∈ ds)
    (same : displayName d.name = displayName d'.name) : d = d' :=
  List.inj_on_of_nodup_map (collect_eq_ok_iff.mp collected).1 first second same

theorem mem_events_iff {d : Declaration} (declared : d ∈ ds) :
    Log.Event.malformedComment (.str d.name) ∈ (collect ds).events ↔
      DocComment.parse? d.docComment = none := by
  rw [collect_events collected, List.mem_flatMap]
  constructor
  · rintro ⟨d', declared', reported⟩
    obtain ⟨named, unread⟩ := (Declaration.mem_events_iff d' _).mp reported
    -- A report quotes the name as it was declared, and no other declaration has that name.
    have name : d.name = d'.name := Json.str.inj (Log.Event.malformedComment.inj named)
    rwa [eq_of_displayName collected declared declared' (by rw [name])]
  · exact fun unread => ⟨d, declared, (Declaration.mem_events_iff d _).mpr ⟨rfl, unread⟩⟩

theorem mem_malformed_names_iff (n : Text) :
    n ∈ (malformed entries).map Entry.name ↔
      ∃ d ∈ ds, displayName d.name = n ∧ d.entry.isMalformed = true := by
  rw [List.mem_map]
  constructor
  · rintro ⟨e, among, rfl⟩
    obtain ⟨member, flagged⟩ := List.mem_filter.mp among
    obtain ⟨d, declared, rfl⟩ := (mem_collect_iff collected e).mp member
    exact ⟨d, declared, rfl, flagged⟩
  · rintro ⟨d, declared, rfl, flagged⟩
    exact ⟨d.entry, List.mem_filter.mpr ⟨(mem_collect_iff collected _).mpr ⟨d, declared, rfl⟩,
      flagged⟩, rfl⟩

theorem malformed_names_pairwise :
    ((malformed entries).map Entry.name).Pairwise fun a b => Text.le a b = true ∧ a ≠ b :=
  (names_pairwise collected).sublist (List.filter_sublist.map Entry.name)

end Collected

end Book

/-- Reader, log and list of lints agree on the comments that do not follow the convention. The
entry, the look-up and the summary agree with each other: they add the comments that spell out the
text which stands in for a description, and list the names in their order. -/
theorem malformed_reports {ds : List Declaration} {entries : List Entry}
    (collected : (Book.collect ds).value = .ok entries) :
    (∀ d ∈ ds, d.entry ∈ entries ∧
      (DocComment.parse? d.docComment = none ↔
        Log.Event.malformedComment (.str d.name) ∈ (Book.collect ds).events) ∧
      (DocComment.parse? d.docComment = none ↔ d.entry.lints = []) ∧
      (d.entry.isMalformed = true ↔
        DocComment.parse? d.docComment = none ∨ DocComment.SpellsMalformed d.docComment) ∧
      (d.entry.isMalformed = true ↔
        displayName d.name ∈ (Book.malformed entries).map Entry.name)) ∧
    ((Book.malformed entries).map Entry.name).Pairwise (fun a b => Text.le a b = true ∧ a ≠ b) ∧
    (∀ n, n ∈ (Book.malformed entries).map Entry.name ↔
      ∃ d ∈ ds, displayName d.name = n ∧
        (DocComment.IsUnrecognised d.docComment ∨ DocComment.SpellsMalformed d.docComment)) ∧
    ∀ decoding, (∃ r, (render decoding ds).value = .rendered r ∧
        r.malformed = (Book.malformed entries).map Entry.name) ∨
      (Book.write entries).value.isScalar = false ∧
        ∃ u, (render decoding ds).value = .failed (.unencodable u) := by
  refine ⟨fun d declared => ⟨?_, ?_, ?_, ?_, ?_⟩, Book.malformed_names_pairwise collected, ?_, ?_⟩
  · exact (Book.mem_collect_iff collected _).mpr ⟨d, declared, rfl⟩
  · exact (Book.mem_events_iff collected declared).symm
  · exact d.entry_lints_eq_nil_iff.symm
  · exact d.entry_isMalformed_iff
  · rw [Book.mem_malformed_names_iff collected]
    constructor
    · exact fun flagged => ⟨d, declared, rfl, flagged⟩
    · rintro ⟨d', declared', same, flagged⟩
      rwa [Book.eq_of_displayName collected declared declared' same.symm]
  · intro n
    simp only [Book.mem_malformed_names_iff collected, Declaration.entry_isMalformed_iff,
      DocComment.parse?_eq_none_iff]
  · intro decoding
    rw [render_of_collect collected, renderEntries_value]
    cases found : Encoding.Utf8.unencodable? (Book.write entries).value with
    | none => exact Or.inl ⟨_, rfl, rfl⟩
    | some u =>
      refine Or.inr ⟨?_, u, rfl⟩
      rw [← Bool.not_eq_true, ← Encoding.Utf8.unencodable?_eq_none_iff, found]
      simp

/-- Of four declarations one has no marker, one no full stop, and one spells out the text; only the
last one is in order. -/
theorem malformed_reports_spelled :
    let spelled : Declaration :=
      ⟨"b_1", "", "", " Lint: X. ..\t[ERROR] MALFORMED DOC COMMENT \n", some ""⟩
    let unmarked : Declaration := ⟨"a_2", "", "", "Lint: X. Y", none⟩
    let stopless : Declaration := ⟨"c_3", "", "", " Lint: X, Y", none⟩
    let fine : Declaration := ⟨"d_4", "", "", " Lint: . [ERROR] MALFORMED DOC COMMENT.", none⟩
    let ds := [spelled, unmarked, stopless, fine]
    let entries := Book.sortByName (ds.map Declaration.entry)
    (Book.collect ds).value = .ok entries ∧
      (fine.entry.isMalformed = true ↔
        ("d-4" : Text) ∈ (Book.malformed entries).map Entry.name) ∧
      ∀ n, n ∈ (Book.malformed entries).map Entry.name ↔
        ∃ d ∈ ds, displayName d.name = n ∧
          (DocComment.IsUnrecognised d.docComment ∨ DocComment.SpellsMalformed d.docComment) := by
  intro spelled unmarked stopless fine ds entries
  have collected : (Book.collect ds).value = .ok entries :=
    Book.collect_eq_ok_iff.mpr ⟨by decide, rfl⟩
  have reports := malformed_reports collected
  exact ⟨collected, (reports.1 fine (by decide)).2.2.2.2, reports.2.2.1⟩

/-- A comment that is read without a report can make an entry that is taken for malformed. -/
theorem entry_isMalformed_without_report :
    ¬ ∀ (ds : List Declaration) (entries : List Entry), (Book.collect ds).value = .ok entries →
      ∀ d ∈ ds, (DocComment.parse? d.docComment = none ↔ d.entry.isMalformed = true) := by
  intro agree
  let spelled : Declaration :=
    ⟨"a", "b", "c", " Lint: X. [ERROR] MALFORMED DOC COMMENT", none⟩
  have collected : (Book.collect [spelled]).value = .ok (Book.sortByName [spelled.entry]) :=
    Book.collect_eq_ok_iff.mpr ⟨by decide, rfl⟩
  have flagged : spelled.entry.isMalformed = true := by decide
  have unread := (agree _ _ collected spelled (List.mem_singleton_self _)).mpr flagged
  revert unread
  decide

end LintBook
