import LintBook.Proofs.Lookup
import LintBook.Proofs.Validating

/-! Where a surrogate has to stand in a request so that it has no rendering. A paragraph shows the
type, the default value, the description and the first words of the lints; a surrogate in any of
them comes into the book, and the first one that does is what is reported. Reasons of deprecation,
later words of lints and comments that are not recognised are shown nowhere in it. -/
namespace LintBook

namespace Encoding.Utf8

/-- A surrogate at a position of a text, and none before it. -/
structure FirstSurrogate (t : Text) (position : Nat) (c : CodePoint) : Prop where
  here : t[position]? = some c
  surrogate : c.isSurrogate = true
  before : ∀ i < position, ∀ d, t[i]? = some d → d.isSurrogate = false

theorem firstSurrogate_of_unencodable? {t : Text} {u : Unencodable}
    (found : unencodable? t = some u) : FirstSurrogate t u.position u.first := by
  have whole := List.takeWhile_append_dropWhile (p := fun c => !CodePoint.isSurrogate c) (l := t)
  have stopped := List.head?_dropWhile_not (fun c => !CodePoint.isSurrogate c) t
  rw [unencodable?] at found
  generalize front : t.takeWhile (fun c => !c.isSurrogate) = clear at whole found
  cases rest : t.dropWhile fun c => !c.isSurrogate with
  | nil => simp [rest] at found
  | cons c more =>
    rw [rest] at found stopped whole
    obtain rfl := Option.some.inj found
    refine ⟨?_, by simpa using stopped, fun i inside d there => ?_⟩
    · rw [← whole, List.getElem?_append_right (Nat.le_refl _), Nat.sub_self]
      rfl
    · rw [← whole, List.getElem?_append_left inside] at there
      have kept := List.mem_takeWhile_imp (front ▸ List.mem_of_getElem? there)
      simpa using kept

end Encoding.Utf8

namespace Declaration

open DocComment (Written)

/-- A surrogate stands where it is shown: in the type, in the default value, in the description of a
recognised comment, or in the first word of one of its lints. -/
inductive ShowsSurrogate (d : Declaration) : Prop
  | configType (surrogate : d.configType.isScalar = false)
  | defaultValue (surrogate : d.defaultValue.isScalar = false)
  | description {c : DocComment} (read : DocComment.parse? d.docComment = some c)
      (surrogate : c.doc.isScalar = false)
  | lint {names : List Text} {prose n word : Text} (written : Written d.docComment names prose)
      (named : n ∈ names) (found : Text.firstWord? n = some word)
      (surrogate : word.isScalar = false)

/-- Surrogates may stand in the reason of deprecation, behind the first words of lints, and anywhere
in a comment that is not recognised, but nowhere else. -/
structure HidesSurrogates (d : Declaration) : Prop where
  configType : d.configType.isScalar = true
  defaultValue : d.defaultValue.isScalar = true
  comment : ∀ names prose, Written d.docComment names prose → prose.isScalar = true ∧
    ∀ n ∈ names, ∀ word, Text.firstWord? n = some word → word.isScalar = true

theorem shown_unread {d : Declaration} (unread : DocComment.parse? d.docComment = none) :
    d.shown = [d.configType, d.defaultValue, Entry.malformedDoc] := by
  rw [shown, Entry.anchors, entry_doc, entry_lints, unread]
  rfl

theorem shown_written {d : Declaration} {names : List Text} {prose : Text}
    (written : Written d.docComment names prose) :
    d.shown = d.configType :: d.defaultValue :: DocComment.description prose ::
      (names.filterMap Text.firstWord?).map (List.map CodePoint.lowerAscii) := by
  rw [shown, entry_doc, anchors_of_written written, DocComment.parse?_written written]
  rfl

theorem hidesSurrogates_iff (d : Declaration) :
    d.HidesSurrogates ↔ ∀ t ∈ d.shown, t.isScalar = true := by
  cases parsed : DocComment.parse? d.docComment with
  | none =>
    rw [shown_unread parsed]
    simp only [List.forall_mem_cons, Entry.malformedDoc, Text.isScalar_ofString]
    constructor
    · exact fun hides => ⟨hides.configType, hides.defaultValue, trivial, by simp⟩
    · exact fun ⟨type, standard, _⟩ =>
        ⟨type, standard, fun _ _ written => absurd parsed written.parse?_ne_none⟩
  | some c =>
    obtain ⟨names, prose, written⟩ := DocComment.exists_written parsed
    rw [shown_written written]
    simp only [List.forall_mem_cons, DocComment.isScalar_description, List.forall_mem_map,
      Text.isScalar_map_lowerAscii, List.mem_filterMap]
    constructor
    · intro hides
      obtain ⟨described, words⟩ := hides.comment names prose written
      refine ⟨hides.configType, hides.defaultValue, described, ?_⟩
      rintro word ⟨n, named, found⟩
      exact words n named word found
    · rintro ⟨type, standard, described, words⟩
      refine ⟨type, standard, fun others rest again => ?_⟩
      obtain ⟨rfl, rfl⟩ := written.unique again
      exact ⟨described, fun n named word found => words word ⟨n, named, found⟩⟩

theorem showsSurrogate_iff (d : Declaration) : d.ShowsSurrogate ↔ ¬ d.HidesSurrogates := by
  constructor
  · intro shows hides
    cases shows with
    | configType surrogate => simp [hides.configType] at surrogate
    | defaultValue surrogate => simp [hides.defaultValue] at surrogate
    | description read surrogate =>
      obtain ⟨names, prose, written, rfl⟩ := DocComment.exists_written_eq read
      simp [DocComment.isScalar_description, (hides.comment _ _ written).1] at surrogate
    | lint written named found surrogate =>
      simp [(hides.comment _ _ written).2 _ named _ found] at surrogate
  · intro visible
    by_contra none
    refine visible ⟨?_, ?_, fun names prose written => ⟨?_, fun n named word found => ?_⟩⟩
    all_goals
      rw [← Bool.not_eq_false]
      intro surrogate
      apply none
    · exact .configType surrogate
    · exact .defaultValue surrogate
    · refine .description (DocComment.parse?_written written) ?_
      rw [DocComment.isScalar_description, surrogate]
    · exact .lint written named found surrogate

end Declaration

/-- A request is rendered unless one of its declarations shows a surrogate. If one does, the book
cannot be digested, and the first surrogate in it is reported by its position. -/
theorem render_unencodable_exact (decoding : Option Decoding.Report) {v : Json} {request : Request}
    (valid : Request.ofJson v = .ok request)
    (different : (request.declarations.map fun d => displayName d.name).Nodup) :
    let book := Book.ofDeclarations request.declarations
    let outcome := (render decoding request.declarations).value
    ((∃ u, outcome = .failed (.unencodable u)) ↔ ∃ d ∈ request.declarations, d.ShowsSurrogate) ∧
      (∀ u, outcome = .failed (.unencodable u) →
        Encoding.Utf8.FirstSurrogate book u.position u.first) ∧
      ((¬ ∃ d ∈ request.declarations, d.ShowsSurrogate) →
        ∃ r, outcome = .rendered r ∧ r.markdown = book) ∧
      ((∀ d ∈ request.declarations, d.HidesSurrogates) →
        ∃ r, outcome = .rendered r ∧ r.markdown = book) := by
  intro book outcome
  have named := fun d among => (Request.names_of_ofJson valid d among).2
  have hidden : book.isScalar = true ↔ ∀ d ∈ request.declarations, d.HidesSurrogates := by
    simp only [book, Book.isScalar_ofDeclarations_iff named, Declaration.hidesSurrogates_iff]
  have shown : (∃ d ∈ request.declarations, d.ShowsSurrogate) ↔ ¬ book.isScalar = true := by
    simp only [hidden, Declaration.showsSurrogate_iff, not_forall, exists_prop]
  have found := render_of_nodup decoding different
  rw [shown, not_not, ← hidden, ← Encoding.Utf8.unencodable?_eq_none_iff]
  cases first : Encoding.Utf8.unencodable? book with
  | none =>
    have rendered : outcome = .rendered (.ofEntries decoding
        (Book.sortByName (request.declarations.map Declaration.entry))) :=
      found.trans (by rw [first])
    exact ⟨by simp [rendered], by simp [rendered], fun _ => ⟨_, rendered, rfl⟩,
      fun _ => ⟨_, rendered, rfl⟩⟩
  | some u =>
    have failed : outcome = .failed (.unencodable u) := found.trans (by rw [first])
    refine ⟨by simp [failed], fun u' again => ?_, nofun, nofun⟩
    obtain rfl := Fault.unencodable.inj (Outcome.failed.inj (failed.symm.trans again))
    exact Encoding.Utf8.firstSurrogate_of_unencodable? first

/-- Of three declarations with surrogates the last one shows it, behind the tab and before the blank
around the first word of a lint; without it the others are rendered. -/
theorem render_unencodable_exact_word :
    let half : CodePoint := ⟨0xDC00, by decide⟩
    let later : Declaration :=
      ⟨"c_1", "", "", (" Lint: A " : Text) ++ half :: (". x" : Text), some [half]⟩
    let unread : Declaration := ⟨"b", "", "", [half], none⟩
    let shown : Declaration :=
      ⟨"a", "", "", (" Lint: B, \tC" : Text) ++ half :: ("\u3000d. x" : Text), none⟩
    let request : Request := ⟨[later, unread, shown]⟩
    let others : Request := ⟨[later, unread]⟩
    Request.ofJson request.toJson = .ok request ∧ Request.ofJson others.toJson = .ok others ∧
      (∃ u, (render none request.declarations).value = .failed (.unencodable u) ∧
        Encoding.Utf8.FirstSurrogate (Book.ofDeclarations request.declarations) u.position
          u.first) ∧
      ∃ r, (render none others.declarations).value = .rendered r ∧
        r.markdown = Book.ofDeclarations others.declarations := by
  intro half later unread shown request others
  have valid : Request.ofJson request.toJson = .ok request := rfl
  have validOthers : Request.ofJson others.toJson = .ok others := rfl
  let lint : Text := ("\tC" : Text) ++ half :: ("\u3000d" : Text)
  have written : DocComment.Written shown.docComment ["B", lint] " x" :=
    ⟨by decide, by decide, by decide, by decide⟩
  have word : Text.firstWord? lint = some [('C' : CodePoint), half] := by decide
  have shows : shown.ShowsSurrogate := .lint written (by decide) word (by decide)
  have hides : ∀ d ∈ others.declarations, d.HidesSurrogates := by
    simp only [Declaration.hidesSurrogates_iff]
    decide
  have all := render_unencodable_exact none valid (by decide)
  have rest := render_unencodable_exact none validOthers (by decide)
  obtain ⟨u, failed⟩ := all.1.mpr ⟨shown, by decide, shows⟩
  exact ⟨valid, validOthers, ⟨u, failed, all.2.1 u failed⟩, rest.2.2.2 hides⟩

end LintBook
