import LintBook.Entry
import LintBook.Proofs.Pieces

/-! The list of affected lints at the end of a paragraph. Nothing in a paragraph is escaped, so that
its other texts can hold anything that the list holds. But a word has no blank in it, an item
therefore no line feed, and no item is the line above the list: from its end upwards a paragraph can
be read in one way only. -/
namespace LintBook.Entry

/-- The line above the list. -/
def listHeading : Text := "**Affected lints:**"

/-- The length of an item without its word, which stands in it twice. -/
def itemFrame : Nat := (anchorItem []).length

/-- The word of an item. -/
def itemWord (line : Text) : Text := (line.drop 4).take ((line.length - itemFrame) / 2)

/-- The lines between the last line that is the one above the list and the two empty lines at the
end. -/
def listLines (paragraph : Text) : List Text :=
  (((Text.lines paragraph).reverse.drop 2).takeWhile fun line => line ≠ listHeading).reverse

/-- The words of the list at the end of a paragraph. A list of none is an empty line. -/
def listed (paragraph : Text) : List Text :=
  ((listLines paragraph).filter fun line => line ≠ []).map itemWord

theorem length_anchorItem (word : Text) :
    (anchorItem word).length = itemFrame + 2 * word.length := by
  simp only [itemFrame, anchorItem, List.length_append, List.length_nil]
  omega

theorem itemWord_anchorItem (word : Text) : itemWord (anchorItem word) = word := by
  have half : ((anchorItem word).length - itemFrame) / 2 = word.length := by
    rw [length_anchorItem]
    omega
  have front : ("* [`" : Text).length = 4 := rfl
  rw [itemWord, half, anchorItem]
  simp only [List.append_assoc]
  rw [List.drop_left' front, List.take_left]

/-- The second character of an item is a space, and that of the line above the list is a star. -/
theorem anchorItem_ne_listHeading (word : Text) : anchorItem word ≠ listHeading := by
  intro same
  have second := congrArg (fun item : Text => item[1]?) same
  have apart : (' ' : CodePoint) ≠ '*' := by decide
  simp [anchorItem, listHeading, Text.ofString, apart] at second

theorem anchorItem_ne_nil (word : Text) : anchorItem word ≠ [] := by
  rw [← List.length_pos_iff, length_anchorItem]
  exact Nat.add_pos_left (by decide) _

theorem feed_not_mem_anchorItem {word : Text} (oneLine : ('\n' : CodePoint) ∉ word) :
    ('\n' : CodePoint) ∉ anchorItem word := by
  have frame : ('\n' : CodePoint) ∉ anchorItem [] := by decide
  simp only [anchorItem, List.mem_append, not_or] at frame ⊢
  simp [frame, oneLine]

/-- A list is its items, or an empty line. -/
theorem lines_list {words : List Text} (oneLine : ∀ word ∈ words, ('\n' : CodePoint) ∉ word) :
    Text.lines (Text.join "\n" (words.map anchorItem)) =
      if words = [] then [[]] else words.map anchorItem := by
  by_cases none : words = []
  · rw [none]
    rfl
  · rw [if_neg none]
    refine Text.lines_join (by simpa using none) ?_
    intro line among
    obtain ⟨word, there, rfl⟩ := List.mem_map.mp among
    exact feed_not_mem_anchorItem (oneLine word there)

theorem feed_not_mem_of_mem_anchors {e : Entry} {word : Text} (among : word ∈ e.anchors) :
    ('\n' : CodePoint) ∉ word := by
  obtain ⟨lint, _, found⟩ := List.mem_filterMap.mp among
  intro inside
  exact absurd (Text.not_isBlank_of_firstWord found inside) (by decide)

/-- However many lines are above it, the list has its heading above and two empty lines below. -/
theorem lines_paragraph_list (e : Entry) : ∃ above,
    Text.lines e.paragraph = above ++ listHeading ::
      (Text.lines (Text.join "\n" (e.anchors.map anchorItem)) ++ [[], []]) := by
  obtain ⟨front, whole⟩ : ∃ front, e.paragraph =
      front ++ ("`)\n\n---\n**Affected lints:**\n" : Text) ++
        Text.join "\n" (e.anchors.map anchorItem) ++ ("\n\n" : Text) := ⟨_, rfl⟩
  have heading : ("`)\n\n---\n**Affected lints:**\n" : Text) =
      ("`)\n\n---" : Text) ++ ('\n' : CodePoint) :: (listHeading ++ [('\n' : CodePoint)]) := by
    decide
  have close : ("\n\n" : Text) = [('\n' : CodePoint), ('\n' : CodePoint)] := by decide
  have plain : Text.lines listHeading = [listHeading] := by decide
  have last : Text.lines [('\n' : CodePoint)] = [[], []] := by decide
  refine ⟨Text.lines (front ++ ("`)\n\n---" : Text)), ?_⟩
  rw [whole, heading, close]
  simp only [List.append_assoc, List.cons_append, List.nil_append]
  rw [← List.append_assoc, Text.lines_append_feed, Text.lines_append_feed, plain,
    Text.lines_append_feed, last, List.singleton_append]

/-- What is above the last line that equals the heading does not matter. -/
theorem listLines_eq {paragraph : Text} {above items : List Text}
    (whole : Text.lines paragraph = above ++ listHeading :: (items ++ [[], []]))
    (other : ∀ line ∈ items, line ≠ listHeading) : listLines paragraph = items := by
  have upwards : (Text.lines paragraph).reverse.drop 2 =
      items.reverse ++ listHeading :: above.reverse := by
    simp [whole]
  have kept : ∀ line ∈ items.reverse, decide (line ≠ listHeading) = true :=
    fun line among => decide_eq_true (other line (List.mem_reverse.mp among))
  rw [listLines, upwards, List.takeWhile_append_of_pos kept, List.takeWhile_cons_of_neg (by simp),
    List.append_nil, List.reverse_reverse]

/-- The words of the list at the end of a paragraph are the lints of its entry. -/
theorem listed_paragraph (e : Entry) : listed e.paragraph = e.anchors := by
  obtain ⟨above, whole⟩ := lines_paragraph_list e
  rw [lines_list fun word => feed_not_mem_of_mem_anchors] at whole
  rw [listed]
  by_cases none : e.anchors = []
  · have empty : ([] : Text) ≠ listHeading := by decide
    rw [if_pos none] at whole
    rw [listLines_eq whole (by simpa using empty), none]
    rfl
  · have other : ∀ line ∈ e.anchors.map anchorItem, line ≠ listHeading :=
      List.forall_mem_map.mpr fun word _ => anchorItem_ne_listHeading word
    have full : ∀ line ∈ e.anchors.map anchorItem, decide (line ≠ []) = true :=
      List.forall_mem_map.mpr fun word _ => decide_eq_true (anchorItem_ne_nil word)
    have words : itemWord ∘ anchorItem = id := funext itemWord_anchorItem
    rw [if_neg none] at whole
    rw [listLines_eq whole other, List.filter_eq_self.mpr full, List.map_map, words, List.map_id]

/-- Entries with the same paragraph affect the same lints, in the same order and as often, whatever
their other texts imitate. -/
theorem anchors_eq_of_paragraph_eq {e e' : Entry} (same : e.paragraph = e'.paragraph) :
    e.anchors = e'.anchors :=
  calc
    e.anchors = listed e.paragraph := (listed_paragraph e).symm
    _ = listed e'.paragraph := congrArg listed same
    _ = e'.anchors := listed_paragraph e'

/-- The end of a name in the description of another entry, with a list that is none. -/
theorem anchors_eq_of_paragraph_eq_forged :
    let forged : Text := "\n\n---\n**Affected lints:**\n* [`z`](index.html#z)\n\n"
    let e : Entry := ⟨"a`\nb", "t", "d", ["x\u2003y", " ", "X z", "x"], forged, none⟩
    let e' : Entry :=
      ⟨"a", "t", "d", ["\nx", "X", "", "x \n y"], ("b`\n" : Text) ++ forged, some "r"⟩
    e ≠ e' ∧ e.paragraph = e'.paragraph ∧ e.anchors = e'.anchors := by
  intro forged e e'
  have same : e.paragraph = e'.paragraph := by decide +kernel
  exact ⟨by decide, same, anchors_eq_of_paragraph_eq same⟩

end LintBook.Entry
