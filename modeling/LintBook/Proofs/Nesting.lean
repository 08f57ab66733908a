import LintBook.Proofs.LineEndings

/-! Nesting. How far in a line of a description stands, when the comment is read and when the
paragraph is written, depends on its own spaces alone: one to three become three more, four or more
are the nested indentation already and stay. A deeper line is therefore never shown shallower than
one it was under, but where a line with two or three spaces is moved in past one that stays. -/
namespace LintBook

namespace DocComment

/-- How many spaces are in front of a line that is read, by those in front of it in the comment. -/
def nestedSpaces (k : Nat) : Nat := if 1 ≤ k ∧ k ≤ 3 then k + 3 else k

/-- Of two lines the deeper one carries the nested indentation and stays, and the other one is moved
in past it. -/
def Overtakes (k m : Nat) : Prop := k ≤ 3 ∧ 4 ≤ m ∧ m < k + 3

instance (k m : Nat) : Decidable (Overtakes k m) := inferInstanceAs (Decidable (_ ∧ _))

example : ∀ k < 8, ∀ m < 8,
    k < m ∧ Overtakes k m ↔ (k, m) = (2, 4) ∨ (k, m) = (3, 4) ∨ (k, m) = (3, 5) := by decide

theorem nestedSpaces_le_iff {k m : Nat} (deeper : k < m) :
    nestedSpaces k ≤ nestedSpaces m ↔ ¬ Overtakes k m := by
  unfold nestedSpaces Overtakes
  split <;> split <;> omega

/-- Without the nested indentation the order is the same: it is in front of both lines, or the one
has no spaces at all. -/
theorem nestedSpaces_sub_le_iff {k m : Nat} (deeper : k < m) :
    nestedSpaces k - 4 ≤ nestedSpaces m - 4 ↔ ¬ Overtakes k m := by
  unfold nestedSpaces Overtakes
  split <;> split <;> omega

theorem leadingSpaces_nestLine_eq (line : Text) :
    leadingSpaces (nestLine line) = nestedSpaces (leadingSpaces line) := by
  unfold nestLine nestedSpaces
  split
  · exact leadingSpaces_indent line
  · rfl

/-- A text with the lines of another, in which of two lines after the first the deeper one is not
shallower, unless the other one overtakes it. -/
def KeepsNesting (source image : List Text) : Prop :=
  image.length = source.length ∧
    ∀ p ∈ (source.zip image).tail, ∀ q ∈ (source.zip image).tail,
      leadingSpaces p.1 < leadingSpaces q.1 →
        (leadingSpaces p.2 ≤ leadingSpaces q.2 ↔ ¬ Overtakes (leadingSpaces p.1) (leadingSpaces q.1))

theorem keepsNesting_map {move : Text → Text} {depth : Nat → Nat}
    (moves : ∀ line, leadingSpaces (move line) = depth (leadingSpaces line))
    (order : ∀ {k m}, k < m → (depth k ≤ depth m ↔ ¬ Overtakes k m))
    (first first' : Text) (rest : List Text) :
    KeepsNesting (first :: rest) (first' :: rest.map move) := by
  refine ⟨by simp, ?_⟩
  rw [List.zip_cons_cons, List.tail_cons, ← List.map_prod_left_eq_zip]
  intro p amongP q amongQ deeper
  obtain ⟨a, _, rfl⟩ := List.mem_map.mp amongP
  obtain ⟨b, _, rfl⟩ := List.mem_map.mp amongQ
  simp only [moves]
  exact order deeper

end DocComment

namespace Entry

open DocComment

theorem leadingSpaces_dropReturn (line : Text) :
    leadingSpaces (dropReturn line) = leadingSpaces line := by
  induction line with
  | nil => rfl
  | cons c line ih =>
    by_cases back : c = '\r'
    · -- No spaces are in front of a carriage return, and none are left if it is dropped.
      have noSpace : ('\r' : CodePoint) ≠ ' ' := by decide
      cases line with
      | nil => simp [dropReturn, back, noSpace]
      | cons d line =>
        rw [dropReturn]
        split <;> simp [back, noSpace]
    · rw [dropReturn_cons back, leadingSpaces_cons, leadingSpaces_cons, ih]

theorem leadingSpaces_dedent (line : Text) :
    leadingSpaces (dedent line) =
      if 4 ≤ leadingSpaces line then leadingSpaces line - 4 else leadingSpaces line := by
  rw [dedent]
  cases found : Text.after? nestedIndent line with
  | some rest =>
    have whole : leadingSpaces line = leadingSpaces rest + 4 := by
      rw [Text.after?_eq_some_iff.mp found]
      simp [nestedIndent, Text.ofString]
    rw [Option.getD_some, whole, if_pos (Nat.le_add_left 4 _), Nat.add_sub_cancel]
  | none =>
    have shallow : ¬ 4 ≤ leadingSpaces line := by
      rw [← nestedIndent_isPrefixOf]
      intro begins
      rw [Text.after?, if_pos begins] at found
      cases found
    rw [Option.getD_none, if_neg shallow]

theorem dropReturn_subset (line : Text) : dropReturn line ⊆ line := by
  rw [dropReturn]
  split
  · exact List.dropLast_subset line
  · exact List.Subset.refl line

theorem dedent_subset (line : Text) : dedent line ⊆ line := by
  rw [dedent]
  cases found : Text.after? nestedIndent line with
  | some rest => exact (Text.after?_suffix found).subset
  | none => exact List.Subset.refl line

/-- A line of a description as it stands in a paragraph. -/
def shownLine (line : Text) : Text := dedent (dropReturn line)

theorem lines_paragraphDoc (doc : Text) :
    Text.lines (paragraphDoc doc) = (Text.lines doc).map shownLine := by
  refine Text.lines_join (List.cons_ne_nil _ _) ?_
  intro line among inside
  obtain ⟨source, there, rfl⟩ := List.mem_map.mp among
  exact Text.feed_not_mem_of_mem_lines there (dropReturn_subset _ (dedent_subset _ inside))

/-- The lines of a paragraph: its heading, which has the line feeds of the name, the description line
by line, and what follows. -/
theorem lines_paragraph (e : Entry) :
    ∃ above below, Text.lines e.paragraph = above ++ (Text.lines e.doc).map shownLine ++ below ∧
      above.length = (Text.lines e.name).length := by
  obtain ⟨rest, cut⟩ : ∃ rest, e.paragraph =
      (("## `" : Text) ++ e.name ++ ("`" : Text)) ++ ('\n' : CodePoint) ::
        (paragraphDoc e.doc ++ ('\n' : CodePoint) :: rest) := by
    have heading : ("`\n" : Text) = ("`" : Text) ++ [('\n' : CodePoint)] := by decide
    have value : ("\n\n**Default Value:** `" : Text) =
        ('\n' : CodePoint) :: ("\n**Default Value:** `" : Text) := by decide
    simp only [paragraph, heading, value, List.append_assoc, List.cons_append, List.nil_append]
    exact ⟨_, rfl⟩
  refine ⟨Text.lines (("## `" : Text) ++ e.name ++ ("`" : Text)), Text.lines rest, ?_, ?_⟩
  · rw [cut, Text.lines_append_feed, Text.lines_append_feed, lines_paragraphDoc]
    exact (List.append_assoc _ _ _).symm
  · have before : ("## `" : Text).count ('\n' : CodePoint) = 0 := by decide
    have after : ("`" : Text).count ('\n' : CodePoint) = 0 := by decide
    rw [Text.length_lines, Text.length_lines, List.count_append, List.count_append, before, after,
      Nat.zero_add, Nat.add_zero]

theorem leadingSpaces_shownLine_nestLine (line : Text) :
    leadingSpaces (shownLine (nestLine line)) = nestedSpaces (leadingSpaces line) - 4 := by
  have nested := leadingSpaces_nestLine line
  rw [shownLine, leadingSpaces_dedent, leadingSpaces_dropReturn, ← leadingSpaces_nestLine_eq]
  split <;> omega

end Entry

namespace DocComment

/-- The lines of a description as they stand in the comment. -/
def sourceLines (prose : Text) : List Text :=
  Text.lines (Text.strip (prose.dropWhile fun c => c = ('.' : CodePoint)))

theorem lines_description (prose : Text) :
    Text.lines (description prose) = nestLines (sourceLines prose) := by
  rw [description, lines_reindent]
  rfl

/-- Between the comment and what is read of it, and between the comment and the paragraph of any
entry with that description, a line under another one is shown as deep as the other at least, and
no shallower line is shown deeper, except where a line with two or three spaces overtakes one with
four or five. -/
theorem parse?_keepsNesting {comment : Text} {d : DocComment} (parsed : parse? comment = some d) :
    ∃ names prose, Written comment names prose ∧
      KeepsNesting (sourceLines prose) (Text.lines d.doc) ∧
      ∀ e : Entry, e.doc = d.doc → ∃ above shown below,
        Text.lines e.paragraph = above ++ shown ++ below ∧
          above.length = (Text.lines e.name).length ∧
          KeepsNesting (sourceLines prose) shown := by
  obtain ⟨names, prose, written⟩ := exists_written parsed
  obtain rfl := Option.some.inj ((parse?_written written).symm.trans parsed)
  obtain ⟨first, rest, cut⟩ : ∃ first rest, sourceLines prose = first :: rest :=
    Text.exists_lines _
  have read : Text.lines (description prose) = first :: rest.map nestLine := by
    rw [lines_description, cut, nestLines]
  refine ⟨names, prose, written, ?_, ?_⟩
  · rw [cut, read]
    exact keepsNesting_map leadingSpaces_nestLine_eq nestedSpaces_le_iff first first rest
  · intro e same
    obtain ⟨above, below, whole, heading⟩ := Entry.lines_paragraph e
    refine ⟨above, _, below, whole, heading, ?_⟩
    rw [cut, same, read, List.map_cons, List.map_map]
    exact keepsNesting_map Entry.leadingSpaces_shownLine_nestLine nestedSpaces_sub_le_iff first _ rest

/-- A line with two spaces comes to stand beside one with five, and below one with none. -/
theorem parse?_keepsNesting_steps :
    let doc : Text := "Top\n    one\n     two\n\n     five\nend"
    parse? " Lint: X. Top\n one\n  two\n\n     five\nend " = some ⟨["x"], doc⟩ ∧
      ∃ names prose, Written " Lint: X. Top\n one\n  two\n\n     five\nend " names prose ∧
        KeepsNesting (sourceLines prose) (Text.lines doc) := by
  intro doc
  have parsed : parse? " Lint: X. Top\n one\n  two\n\n     five\nend " = some ⟨["x"], doc⟩ := by
    decide
  obtain ⟨names, prose, written, kept, _⟩ := parse?_keepsNesting parsed
  exact ⟨parsed, names, prose, written, kept⟩

/-- A line with three spaces is moved in past the line with four under it. -/
theorem parse?_invertsNesting :
    ¬ ∀ comment names prose d, Written comment names prose → parse? comment = some d →
      ∀ p ∈ ((sourceLines prose).zip (Text.lines d.doc)).tail,
        ∀ q ∈ ((sourceLines prose).zip (Text.lines d.doc)).tail,
          (∃ c ∈ p.1, c.isBlank = false) → (∃ c ∈ q.1, c.isBlank = false) →
            leadingSpaces p.1 < leadingSpaces q.1 → leadingSpaces p.2 ≤ leadingSpaces q.2 := by
  intro keeps
  have written : Written " Lint: X. a\n   b\n    c" ["X"] " a\n   b\n    c" :=
    ⟨by decide, by decide, by decide, by decide⟩
  have parsed : parse? " Lint: X. a\n   b\n    c" = some ⟨["x"], "a\n      b\n    c"⟩ := by decide
  have deeper := keeps _ _ _ _ written parsed ("   b", "      b") (by decide) ("    c", "    c")
    (by decide) ⟨'b', by decide, by decide⟩ ⟨'c', by decide, by decide⟩ (by decide)
  revert deeper
  decide

end DocComment

end LintBook
