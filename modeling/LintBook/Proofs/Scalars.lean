import LintBook.Proofs.Collecting
import LintBook.Proofs.Comments
import LintBook.Proofs.Wide

/-! Surrogates in the book come from the declarations alone: all that is written around their texts
is free of them, and no text is changed in a way that makes one. -/
namespace LintBook

namespace CodePoint

theorem isSurrogate_ofChar (c : Char) : (ofChar c).isSurrogate = false := by
  have valid := c.valid
  simp only [UInt32.isValidChar, Nat.isValidChar] at valid
  have value : (ofChar c).val = c.val.toNat := rfl
  simp only [isSurrogate, value, Bool.and_eq_false_iff, decide_eq_false_iff_not]
  omega

theorem isSurrogate_lowerAscii (c : CodePoint) : c.lowerAscii.isSurrogate = c.isSurrogate := by
  refine apply_lowerAscii (fun c capital => ?_) c
  have moved := val_lowerAscii capital
  obtain ⟨low, high⟩ := capital
  rw [Bool.eq_iff_iff]
  simp only [isSurrogate, moved, Bool.and_eq_true, decide_eq_true_eq]
  omega

theorem not_isSurrogate_of_isBlank (c : CodePoint) (blank : c.isBlank = true) :
    c.isSurrogate = false := by
  simp only [isBlank, Bool.or_eq_true, Bool.and_eq_true, decide_eq_true_eq] at blank
  simp only [isSurrogate, Bool.and_eq_false_iff, decide_eq_false_iff_not]
  omega

end CodePoint

namespace Text

@[simp] theorem isScalar_nil : isScalar [] = true := rfl

@[simp] theorem isScalar_append (s t : Text) : (s ++ t).isScalar = (s.isScalar && t.isScalar) :=
  List.all_append

@[simp] theorem isScalar_ofString (s : String) : (ofString s).isScalar = true := by
  simp only [isScalar, ofString, List.all_map, List.all_eq_true, Function.comp_apply,
    CodePoint.isSurrogate_ofChar, Bool.not_false, implies_true]

theorem isScalar_of_subset {s t : Text} (subset : s ⊆ t) (scalar : t.isScalar = true) :
    s.isScalar = true := by
  rw [isScalar, List.all_eq_true] at scalar ⊢
  exact fun c among => scalar c (subset among)

theorem isScalar_flatMap {α : Type} (f : α → Text) (xs : List α) :
    isScalar (xs.flatMap f) = xs.all fun x => (f x).isScalar :=
  List.all_flatMap

theorem isScalar_join {separator : Text} (scalar : separator.isScalar = true) (ts : List Text) :
    (join separator ts).isScalar = ts.all isScalar := by
  induction ts with
  | nil => rfl
  | cons t ts ih =>
    by_cases more : ts = []
    · subst more
      simp [join]
    · rw [join_cons separator t more, isScalar_append, isScalar_append, scalar, ih, List.all_cons,
        Bool.and_true]

theorem isScalar_lines (t : Text) : (lines t).all isScalar = t.isScalar := by
  rw [← isScalar_join (isScalar_ofString "\n") (lines t), join_lines]

theorem isScalar_map_lowerAscii (t : Text) :
    isScalar (t.map CodePoint.lowerAscii) = t.isScalar := by
  simp only [isScalar, List.all_map, Function.comp_def, CodePoint.isSurrogate_lowerAscii]

theorem isScalar_reverse (t : Text) : isScalar t.reverse = t.isScalar := List.all_reverse

/-- Nothing is lost of a text's surrogates where other characters are dropped from its front. -/
theorem isScalar_dropWhile {p : CodePoint → Bool}
    (harmless : ∀ c, p c = true → c.isSurrogate = false) (t : Text) : isScalar (t.dropWhile p) = t.isScalar := by
  have front : isScalar (t.takeWhile p) = true := by
    rw [isScalar, List.all_eq_true]
    intro c among
    rw [harmless c (List.mem_takeWhile_imp among), Bool.not_false]
  conv_rhs => rw [← List.takeWhile_append_dropWhile (p := p) (l := t)]
  rw [isScalar_append, front, Bool.true_and]

theorem isScalar_strip (t : Text) : (strip t).isScalar = t.isScalar := by
  rw [strip, isScalar_reverse, isScalar_dropWhile CodePoint.not_isSurrogate_of_isBlank,
    isScalar_reverse, isScalar_dropWhile CodePoint.not_isSurrogate_of_isBlank]

theorem isScalar_firstWord {t word : Text} (found : firstWord? t = some word)
    (scalar : t.isScalar = true) : word.isScalar = true := by
  refine isScalar_of_subset (fun c among => ?_) scalar
  unfold firstWord? at found
  split at found
  case h_1 => contradiction
  case h_2 first rest later =>
    cases found
    refine (List.dropWhile_sublist CodePoint.isBlank).subset ?_
    rw [later]
    exact List.cons_subset_cons first (List.takeWhile_sublist _).subset among

end Text

theorem isScalar_displayName {name : Text} (scalar : name.isScalar = true) :
    (displayName name).isScalar = true := by
  rw [Text.isScalar, List.all_eq_true] at scalar ⊢
  intro c among
  obtain ⟨b, before, rfl⟩ := List.mem_map.mp among
  split
  · decide
  · exact scalar b before

namespace DocComment

theorem isScalar_reindent (t : Text) : (reindent t).isScalar = t.isScalar := by
  induction t with
  | nil => rfl
  | cons c t ih =>
    rw [reindent_cons, nestAfter]
    have before (u : Text) : Text.isScalar (c :: u) = (!c.isSurrogate && u.isScalar) := rfl
    split <;> simp [before, ih]

theorem isScalar_description (prose : Text) : (description prose).isScalar = prose.isScalar := by
  have harmless : ∀ c, decide (c = terminator) = true → c.isSurrogate = false := by
    intro c same
    rw [of_decide_eq_true same]
    decide
  rw [description, isScalar_reindent, Text.isScalar_strip, Text.isScalar_dropWhile harmless]

theorem isScalar_of_parse? {comment : Text} {d : DocComment} (parsed : parse? comment = some d)
    (scalar : comment.isScalar = true) :
    (∀ lint ∈ d.lints, lint.isScalar = true) ∧ d.doc.isScalar = true := by
  obtain ⟨names, prose, written, rfl⟩ := exists_written_eq parsed
  -- The comment is its names and its prose put together, so both are as free of surrogates.
  simp only [written.text, Text.isScalar_append, Text.isScalar_ofString, Bool.true_and,
    Bool.and_true, Bool.and_eq_true, Text.isScalar_join, List.all_eq_true] at scalar
  obtain ⟨namesScalar, proseScalar⟩ := scalar
  constructor
  · intro lint among
    obtain ⟨name, declared, rfl⟩ := List.mem_map.mp among
    rw [Text.isScalar_map_lowerAscii]
    exact namesScalar name declared
  · rw [isScalar_description]
    exact proseScalar

end DocComment

namespace Entry

theorem isScalar_dropReturn (line : Text) : (dropReturn line).isScalar = line.isScalar := by
  unfold dropReturn
  split
  · rename_i ends
    have whole := List.dropLast_append_getLast? _ ends
    conv_rhs => rw [← whole, Text.isScalar_append]
    have last : Text.isScalar [(('\r' : Char) : CodePoint)] = true := by decide
    rw [last, Bool.and_true]
  · rfl

theorem isScalar_dedent (line : Text) : (dedent line).isScalar = line.isScalar := by
  unfold dedent
  cases stripped : Text.after? DocComment.nestedIndent line with
  | none => rfl
  | some rest =>
    rw [Text.after?_eq_some_iff.mp stripped, Text.isScalar_append, DocComment.nestedIndent,
      Text.isScalar_ofString, Bool.true_and, Option.getD_some]

theorem isScalar_paragraphDoc (doc : Text) : (paragraphDoc doc).isScalar = doc.isScalar := by
  rw [paragraphDoc, Text.isScalar_join (Text.isScalar_ofString "\n"), List.all_map]
  simp only [Function.comp_def, isScalar_dedent, isScalar_dropReturn]
  exact Text.isScalar_lines doc

theorem isScalar_anchorItem (lint : Text) : (anchorItem lint).isScalar = lint.isScalar := by
  simp only [anchorItem, lintIndex, Text.isScalar_append, Text.isScalar_ofString, Bool.true_and,
    Bool.and_true, Bool.and_self]

/-- A paragraph is free of surrogates exactly if the texts that it shows are. -/
theorem isScalar_paragraph (e : Entry) :
    e.paragraph.isScalar = (e.name.isScalar && e.doc.isScalar && e.defaultValue.isScalar &&
      e.configType.isScalar && e.anchors.all Text.isScalar) := by
  simp only [paragraph, Text.isScalar_append, Text.isScalar_ofString, isScalar_paragraphDoc,
    Text.isScalar_join (Text.isScalar_ofString "\n"), List.all_map, Function.comp_def,
    isScalar_anchorItem, Bool.true_and, Bool.and_true]

end Entry

namespace Book

theorem isScalar_write (entries : List Entry) :
    (write entries).value.isScalar = entries.all fun e => e.paragraph.isScalar := by
  rw [write_value, Text.isScalar_append, Text.isScalar_flatMap, header]
  simp only [Text.isScalar_append, Text.isScalar_ofString, Bool.true_and]

end Book

namespace Encoding.Utf8

theorem unencodable?_eq_none_iff (t : Text) : unencodable? t = none ↔ t.isScalar = true := by
  have through : t.dropWhile (fun c => !c.isSurrogate) = [] ↔ t.isScalar = true := by
    rw [List.dropWhile_eq_nil_iff, Text.isScalar, List.all_eq_true]
  rw [← through, unencodable?]
  split <;> simp [*]

end Encoding.Utf8

/-- A declaration that is valid and whose texts are all free of surrogates. -/
structure Declaration.IsProper (d : Declaration) : Prop where
  named : d.name ≠ []
  name : d.name.isScalar = true
  configType : d.configType.isScalar = true
  defaultValue : d.defaultValue.isScalar = true
  docComment : d.docComment.isScalar = true
  deprecationReason : ∀ t ∈ d.deprecationReason, t.isScalar = true

namespace Entry

theorem readComment_value (name : Json) (comment : Text) :
    (readComment name comment).value =
      (DocComment.parse? comment).getD ⟨[], malformedDoc⟩ := by
  rw [readComment]
  cases DocComment.parse? comment <;> rfl

theorem isScalar_readComment (name : Json) {comment : Text} (scalar : comment.isScalar = true) :
    (∀ lint ∈ (readComment name comment).value.lints, lint.isScalar = true) ∧
      (readComment name comment).value.doc.isScalar = true := by
  rw [readComment_value]
  cases parsed : DocComment.parse? comment with
  | none => exact ⟨by simp, Text.isScalar_ofString _⟩
  | some d => exact DocComment.isScalar_of_parse? parsed scalar

end Entry

namespace Declaration

theorem entry_lints (d : Declaration) :
    d.entry.lints = ((DocComment.parse? d.docComment).getD ⟨[], Entry.malformedDoc⟩).lints :=
  congrArg DocComment.lints (Entry.readComment_value (.str d.name) d.docComment)

theorem entry_doc (d : Declaration) :
    d.entry.doc = ((DocComment.parse? d.docComment).getD ⟨[], Entry.malformedDoc⟩).doc :=
  congrArg DocComment.doc (Entry.readComment_value (.str d.name) d.docComment)

/-- The texts of a declaration that its paragraph shows beside the display name. Of the names of its
lints these are the first words only, and its deprecation reason is not among them. -/
def shown (d : Declaration) : List Text :=
  d.configType :: d.defaultValue :: d.entry.doc :: d.entry.anchors

theorem isScalar_paragraph_entry_iff {d : Declaration} (named : d.name.isScalar = true) :
    d.entry.paragraph.isScalar = true ↔ ∀ t ∈ d.shown, t.isScalar = true := by
  have name : d.entry.name.isScalar = true := isScalar_displayName named
  have type : d.entry.configType = d.configType := rfl
  have standard : d.entry.defaultValue = d.defaultValue := rfl
  simp only [Entry.isScalar_paragraph, name, type, standard, shown, List.forall_mem_cons,
    Bool.true_and, Bool.and_eq_true, List.all_eq_true]
  tauto

theorem IsProper.shown {d : Declaration} (proper : d.IsProper) :
    ∀ t ∈ d.shown, t.isScalar = true := by
  obtain ⟨lints, doc⟩ := Entry.isScalar_readComment (.str d.name) proper.docComment
  simp only [Declaration.shown, List.forall_mem_cons]
  refine ⟨proper.configType, proper.defaultValue, doc, fun word among => ?_⟩
  obtain ⟨lint, declared, found⟩ := List.mem_filterMap.mp among
  exact Text.isScalar_firstWord found (lints lint declared)

end Declaration

/-- The book of declarations with different display names. -/
def Book.ofDeclarations (ds : List Declaration) : Text :=
  (Book.write (Book.sortByName (ds.map Declaration.entry))).value

theorem Book.isScalar_ofDeclarations_iff {ds : List Declaration}
    (named : ∀ d ∈ ds, d.name.isScalar = true) :
    (Book.ofDeclarations ds).isScalar = true ↔ ∀ d ∈ ds, ∀ t ∈ d.shown, t.isScalar = true := by
  rw [ofDeclarations, isScalar_write, List.all_eq_true]
  simp only [(sortByName_perm _).mem_iff, List.forall_mem_map]
  exact forall₂_congr fun d among => Declaration.isScalar_paragraph_entry_iff (named d among)

/-- What is rendered of entries whose book is free of surrogates. -/
def Rendering.ofEntries (decoding : Option Decoding.Report) (entries : List Entry) : Rendering where
  digest := (Encoding.Utf8.encode (Book.write entries).value).sha256
  markdown := (Book.write entries).value
  links := Book.links entries
  list := Book.list entries
  deprecated := (entries.filter fun e => e.deprecationReason.isSome).length
  malformed := (Book.malformed entries).map Entry.name
  entries := entries
  decoding := decoding

/-- There is a rendering unless the book holds a surrogate. -/
theorem renderEntries_value (decoding : Option Decoding.Report) (entries : List Entry) :
    (renderEntries decoding entries).value =
      match Encoding.Utf8.unencodable? (Book.write entries).value with
      | none => .rendered (.ofEntries decoding entries)
      | some u => .failed (.unencodable u) := by
  rw [renderEntries, Logged.value_bind, Encoding.Utf8.encodeStrict]
  cases Encoding.Utf8.unencodable? (Book.write entries).value <;> rfl

theorem render_of_collect {ds : List Declaration} {entries : List Entry}
    (collected : (Book.collect ds).value = .ok entries) (decoding : Option Decoding.Report) :
    (render decoding ds).value = (renderEntries decoding entries).value := by
  rw [render, Logged.value_bind, collected]

theorem render_conflict {ds : List Declaration}
    (repeated : ¬ (ds.map fun d => displayName d.name).Nodup) :
    ∃ d, ∀ decoding, (render decoding ds).value = .rejected (.duplicateName d) := by
  cases collected : (Book.collect ds).value with
  | ok entries => exact absurd (Book.collect_eq_ok_iff.mp collected).1 repeated
  | error d =>
    refine ⟨d, fun decoding => ?_⟩
    rw [render, Logged.value_bind, collected]
    rfl

/-- Declarations with different display names are rendered unless their book holds a surrogate. -/
theorem render_of_nodup (decoding : Option Decoding.Report) {ds : List Declaration}
    (different : (ds.map fun d => displayName d.name).Nodup) :
    (render decoding ds).value =
      match Encoding.Utf8.unencodable? (Book.ofDeclarations ds) with
      | none => .rendered (.ofEntries decoding (Book.sortByName (ds.map Declaration.entry)))
      | some u => .failed (.unencodable u) := by
  rw [Book.ofDeclarations, render_of_collect (Book.collect_eq_ok_iff.mpr ⟨different, rfl⟩),
    renderEntries_value]

/-- Without surrogates there is a book, unless two declarations have one display name; how the
declarations were decoded makes no difference to it. -/
theorem render_of_isProper {ds : List Declaration} (proper : ∀ d ∈ ds, d.IsProper) :
    (∃ entries, ∀ decoding, (render decoding ds).value =
      .rendered (.ofEntries decoding entries)) ∨
      ∃ d, ∀ decoding, (render decoding ds).value = .rejected (.duplicateName d) := by
  by_cases different : (ds.map fun d => displayName d.name).Nodup
  · have book : (Book.ofDeclarations ds).isScalar = true :=
      (Book.isScalar_ofDeclarations_iff fun d among => (proper d among).name).mpr
        fun d among => (proper d among).shown
    refine Or.inl ⟨Book.sortByName (ds.map Declaration.entry), fun decoding => ?_⟩
    rw [render_of_nodup decoding different, (Encoding.Utf8.unencodable?_eq_none_iff _).mpr book]
  · exact Or.inr (render_conflict different)

end LintBook
