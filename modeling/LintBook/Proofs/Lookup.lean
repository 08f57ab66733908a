import LintBook.Proofs.Scalars

/-! Looking lints up by the names that comments give them. A comment's names are read with A to Z in
lower case, a query with every character in lower case; the two agree on exactly the words that have
no other character with a lower case of its own. -/
namespace LintBook

namespace CodePoint

theorem isBlank_lowerAscii (c : CodePoint) : c.lowerAscii.isBlank = c.isBlank := by
  refine apply_lowerAscii (fun c capital => ?_) c
  have moved := val_lowerAscii capital
  obtain ⟨low, high⟩ := capital
  rw [Bool.eq_iff_iff]
  simp only [isBlank, moved, Bool.or_eq_true, Bool.and_eq_true, decide_eq_true_eq]
  omega

theorem lower_ascii {c : CodePoint} (ascii : c.isAscii = true) : c.lower = [c.lowerAscii] := by
  have table : ∀ n : Fin 0x80,
      lower (n.castLE (by decide)) = [lowerAscii (n.castLE (by decide))] := by
    decide +kernel
  exact table ⟨c.val, of_decide_eq_true ascii⟩

theorem lowerAscii_of_not_ascii {c : CodePoint} (wide : ¬ c.isAscii = true) :
    c.lowerAscii = c := by
  refine lowerAscii_eq_self fun capital => wide ?_
  have bound := capital.2
  exact decide_eq_true (by omega)

theorem lower_eq_singleton_iff (c : CodePoint) :
    c.lower = [c.lowerAscii] ↔ c.isAscii = true ∨ c.lower = [c] := by
  by_cases ascii : c.isAscii = true
  · exact iff_of_true (lower_ascii ascii) (Or.inl ascii)
  · rw [lowerAscii_of_not_ascii ascii, or_iff_right ascii]

/-- A number in the tables for lower case moves to a code point. -/
theorem lookup?_lower_lt {n m : Nat} (found : CaseTable.lookup? CaseTable.lower n = some m) :
    m < 0x110000 := by
  have table : ∀ r ∈ CaseTable.lower, (r.last : Int) + r.shift < 0x110000 := by decide +kernel
  obtain ⟨r, among, image⟩ := List.exists_of_findSome?_eq_some found
  have bound := table r among
  rw [CaseTable.Run.image?] at image
  split at image
  · rename_i inside
    obtain rfl := Option.some.inj image
    omega
  · cases image

theorem lower_ne_nil (c : CodePoint) : c.lower ≠ [] := by
  rw [lower, mapCase]
  split
  · rename_i several found
    have special : ∀ m ∈ CaseTable.lowerSpecial, m.2.filterMap ofNat? ≠ [] := by decide
    obtain ⟨before, after, whole, _⟩ := List.lookup_eq_some_iff.mp found
    have among : (c.val, several) ∈ CaseTable.lowerSpecial := by simp [whole]
    exact special _ among
  · split
    · rename_i n found
      change [n].filterMap ofNat? ≠ []
      simp [ofNat?, lookup?_lower_lt found]
    · exact List.cons_ne_nil _ _

end CodePoint

namespace Text

theorem firstWord?_map {f : CodePoint → CodePoint} (blank : ∀ c, (f c).isBlank = c.isBlank)
    (t : Text) : firstWord? (t.map f) = (firstWord? t).map (List.map f) := by
  have front : CodePoint.isBlank ∘ f = CodePoint.isBlank := funext blank
  have dark : (fun c => !c.isBlank) ∘ f = fun c => !c.isBlank :=
    funext fun c => congrArg not (blank c)
  rw [firstWord?, firstWord?, List.dropWhile_map, front]
  cases t.dropWhile CodePoint.isBlank with
  | nil => rfl
  | cons c rest => simp only [List.map_cons, List.takeWhile_map, dark, Option.map_some]

theorem strip_firstWord {t word : Text} (found : firstWord? t = some word) :
    strip word = word := by
  have dark : ∀ c ∈ word, c.isBlank = false := fun c => not_isBlank_of_firstWord found
  refine strip_eq_self ⟨fun c head => dark c (List.mem_of_mem_head? head), fun c last => ?_⟩
  exact dark c (List.mem_of_getLast? last)

/-- No character is lost in lower case. -/
theorem length_le_lowerAfter (before t : Text) : t.length ≤ (lowerAfter before t).length := by
  induction t generalizing before with
  | nil => exact Nat.le_refl 0
  | cons c t ih =>
    have later := ih (c :: before)
    rw [lowerAfter, List.length_append, List.length_cons]
    split
    · rw [List.length_singleton]
      omega
    · have some_char := List.length_pos_iff.mpr c.lower_ne_nil
      omega

theorem lowerAfter_eq_map_iff (before t : Text) :
    lowerAfter before t = t.map CodePoint.lowerAscii ↔
      ∀ c ∈ t, c.isAscii = true ∨ c.lower = [c] := by
  induction t generalizing before with
  | nil => simp [lowerAfter]
  | cons c t ih =>
    rw [lowerAfter, List.map_cons, List.forall_mem_cons, ← ih (c :: before),
      ← c.lower_eq_singleton_iff]
    split
    · rename_i sigma
      -- A capital sigma changes in either of its small forms.
      obtain rfl : c = ⟨0x3A3, by decide⟩ := Fin.ext sigma.1
      constructor
      · intro same
        exact absurd (List.cons.inj same).1 (by decide)
      · intro same
        exact absurd same.1 (by decide +kernel)
    · constructor
      · intro same
        have lengths := congrArg List.length same
        rw [List.length_append, List.length_cons, List.length_map] at lengths
        have some_char := List.length_pos_iff.mpr c.lower_ne_nil
        have later := length_le_lowerAfter (c :: before) t
        -- Each character gives at least one, so here it gives just one.
        have one : c.lower.length = [c.lowerAscii].length := by
          rw [List.length_singleton]
          omega
        exact List.append_inj same one
      · rintro ⟨here, later⟩
        rw [here, later]
        rfl

theorem lower_eq_map_iff (t : Text) :
    lower t = t.map CodePoint.lowerAscii ↔ ∀ c ∈ t, c.isAscii = true ∨ c.lower = [c] :=
  lowerAfter_eq_map_iff [] t

end Text

namespace Declaration

theorem anchors_of_written {d : Declaration} {names : List Text} {prose : Text}
    (written : DocComment.Written d.docComment names prose) :
    d.entry.anchors = (names.filterMap Text.firstWord?).map (List.map CodePoint.lowerAscii) := by
  rw [Entry.anchors, entry_lints, DocComment.parse?_written written, Option.getD_some,
    List.filterMap_map, List.map_filterMap]
  exact List.filterMap_congr fun n _ => Text.firstWord?_map CodePoint.isBlank_lowerAscii n

end Declaration

namespace Book

theorem mem_forLint_iff {entries : List Entry} {e : Entry} {lint : Text} :
    e ∈ forLint entries lint ↔ e ∈ entries ∧ Text.lower (Text.strip lint) ∈ e.anchors := by
  rw [forLint, List.mem_filter, decide_eq_true_eq]

/-- The entry of a declaration is found by the first word of one of its lints, as written, exactly
if some first word of its lints with A to Z in lower case is that word with everything in lower
case. That is so if the word has no character beyond ASCII with a lower case of its own, and where
all its lints have the same first word it is so only then. -/
theorem forLint_declared {ds : List Declaration} {entries : List Entry} {d : Declaration}
    {names : List Text} {prose n word : Text} (collected : (collect ds).value = .ok entries)
    (declared : d ∈ ds) (written : DocComment.Written d.docComment names prose) (named : n ∈ names)
    (found : Text.firstWord? n = some word) :
    (d.entry ∈ forLint entries word ↔
      ∃ other ∈ names, ∃ t, Text.firstWord? other = some t ∧
        t.map CodePoint.lowerAscii = Text.lower word) ∧
    ((∀ c ∈ word, c.isAscii = true ∨ c.lower = [c]) → d.entry ∈ forLint entries word) ∧
    ((∀ other ∈ names, ∀ t, Text.firstWord? other = some t → t = word) →
      d.entry ∈ forLint entries word → ∀ c ∈ word, c.isAscii = true ∨ c.lower = [c]) := by
  have exact : d.entry ∈ forLint entries word ↔
      ∃ other ∈ names, ∃ t, Text.firstWord? other = some t ∧
        t.map CodePoint.lowerAscii = Text.lower word := by
    have member : d.entry ∈ entries := (mem_collect_iff collected _).mpr ⟨d, declared, rfl⟩
    rw [mem_forLint_iff, and_iff_right member, Text.strip_firstWord found,
      Declaration.anchors_of_written written, List.mem_map]
    constructor
    · rintro ⟨t, among, same⟩
      obtain ⟨other, there, first⟩ := List.mem_filterMap.mp among
      exact ⟨other, there, t, first, same⟩
    · rintro ⟨other, there, t, first, same⟩
      exact ⟨t, List.mem_filterMap.mpr ⟨other, there, first⟩, same⟩
  refine ⟨exact, fun plain => exact.mpr ?_, fun alone listed => ?_⟩
  · exact ⟨n, named, word, found, ((Text.lower_eq_map_iff word).mpr plain).symm⟩
  · obtain ⟨other, there, t, first, same⟩ := exact.mp listed
    obtain rfl := alone other there t first
    exact (Text.lower_eq_map_iff t).mp same.symm

/-- A word between blanks of several kinds, with capitals of ASCII and small letters beyond it. -/
theorem forLint_declared_blanks :
    let d : Declaration := ⟨"a_b", "", "", " Lint: \u2003GRöße\u3000É, É. X", none⟩
    let names : List Text := ["\u2003GRöße\u3000É", "É"]
    let entries := sortByName [d.entry]
    (collect [d]).value = .ok entries ∧ DocComment.Written d.docComment names " X" ∧
      Text.firstWord? "\u2003GRöße\u3000É" = some ("GRöße" : Text) ∧
      d.entry ∈ forLint entries ("GRöße" : Text) := by
  intro d names entries
  have collected : (collect [d]).value = .ok entries := collect_eq_ok_iff.mpr ⟨by decide, rfl⟩
  have written : DocComment.Written d.docComment names " X" :=
    ⟨by decide, by decide +kernel, by decide +kernel, by decide +kernel⟩
  have found : Text.firstWord? "\u2003GRöße\u3000É" = some ("GRöße" : Text) := by decide +kernel
  have plain : ∀ c ∈ ("GRöße" : Text), c.isAscii = true ∨ c.lower = [c] := by
    have spelled : ("GRöße" : Text) = [('G' : CodePoint), 'R', 'ö', 'ß', 'e'] := by decide
    have small : CodePoint.lower 'ö' = [('ö' : CodePoint)] := by decide +kernel
    have sharp : CodePoint.lower 'ß' = [('ß' : CodePoint)] := by decide +kernel
    simp only [spelled, List.forall_mem_cons]
    exact ⟨Or.inl rfl, Or.inl rfl, Or.inr small, Or.inr sharp, Or.inl rfl, by simp⟩
  have listed := forLint_declared collected (List.mem_singleton_self d) written
    List.mem_cons_self found
  exact ⟨collected, written, found, listed.2.1 plain⟩

/-- The capital letter of a lint beyond ASCII is kept in the entry and not in the query. -/
theorem forLint_misses_declared :
    ¬ ∀ (ds : List Declaration) (entries : List Entry), (collect ds).value = .ok entries →
      ∀ d ∈ ds, ∀ names prose, DocComment.Written d.docComment names prose →
        ∀ n ∈ names, ∀ word, Text.firstWord? n = some word → d.entry ∈ forLint entries word := by
  intro always
  let d : Declaration := ⟨"a", "b", "c", " Lint: É. x", none⟩
  have collected : (collect [d]).value = .ok (sortByName [d.entry]) :=
    collect_eq_ok_iff.mpr ⟨by decide, rfl⟩
  have written : DocComment.Written d.docComment ["É"] " x" :=
    ⟨by decide, by decide, by decide, by decide⟩
  have listed := always _ _ collected d (List.mem_singleton_self d) _ _ written "É"
    (by decide) "É" (by decide)
  have absent : Text.lower (Text.strip "É") ∉ d.entry.anchors := by decide +kernel
  exact absent (mem_forLint_iff.mp listed).2

end Book

end LintBook
