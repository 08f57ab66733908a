import LintBook.Proofs.Lookup
import LintBook.Proofs.Malformed

/-! Looking lints up is exact with respect to the comments as they are written. Cutting a comment
into names and words commutes with lower case of A to Z, so the entries that are found are those of
the comments that write the queried word; what a query means is indifferent to blanks around it and
to the case of its letters A to Z, although lower case depends on what stands around a character. -/
namespace LintBook

namespace CodePoint

theorem lower_lowerAscii (c : CodePoint) : c.lowerAscii.lower = c.lower := by
  refine apply_lowerAscii (fun c capital => ?_) c
  have bounds := capital
  have moved := val_lowerAscii capital
  rw [IsCapital] at bounds
  have small : c.lowerAscii.isAscii = true := decide_eq_true (by omega)
  have large : c.isAscii = true := decide_eq_true (by omega)
  rw [lower_ascii small, lower_ascii large, lowerAscii_lowerAscii]

theorem isCased_lowerAscii (c : CodePoint) : c.lowerAscii.isCased = c.isCased := by
  refine apply_lowerAscii (fun c capital => ?_) c
  have small : (0x61, 0x7A) ∈ CaseTable.cased := by decide
  have large : (0x41, 0x5A) ∈ CaseTable.cased := by decide
  have moved := val_lowerAscii capital
  rw [isCased, isCased, isIn_iff.mpr ⟨_, large, capital⟩, isIn_iff.mpr ⟨_, small, ?_⟩]
  rw [IsCapital] at capital
  omega

/-- No letter of ASCII is looked through for a cased character. -/
theorem not_isCaseIgnorable {c : CodePoint}
    (letter : 0x41 ≤ c.val ∧ c.val ≤ 0x5A ∨ 0x61 ≤ c.val ∧ c.val ≤ 0x7A) :
    c.isCaseIgnorable = false := by
  have table : ∀ p ∈ CaseTable.ignorable,
      p.2 < 0x41 ∨ 0x5A < p.1 ∧ p.2 < 0x61 ∨ 0x7A < p.1 := by
    decide +kernel
  rw [isCaseIgnorable, ← Bool.not_eq_true, isIn_iff]
  rintro ⟨p, among, inside⟩
  have apart := table p among
  omega

theorem isCaseIgnorable_lowerAscii (c : CodePoint) :
    c.lowerAscii.isCaseIgnorable = c.isCaseIgnorable := by
  refine apply_lowerAscii (fun c capital => ?_) c
  have moved := val_lowerAscii capital
  rw [IsCapital] at capital
  rw [not_isCaseIgnorable (Or.inl capital), not_isCaseIgnorable (Or.inr (by omega))]

/-- A capital sigma is not the lower case of a letter of ASCII. -/
theorem lowerAscii_eq_sigma_iff (c : CodePoint) : c.lowerAscii.val = 0x3A3 ↔ c.val = 0x3A3 := by
  refine iff_of_eq (apply_lowerAscii (f := fun c => c.val = 0x3A3) (fun c capital => ?_) c)
  have moved := val_lowerAscii capital
  rw [IsCapital] at capital
  exact propext (by omega)

/-- No blank is in the tables for lower case. -/
theorem lower_of_isBlank {c : CodePoint} (blank : c.isBlank = true) : c.lower = [c] := by
  have table : ∀ r ∈ CaseTable.lower, 0x20 < r.first ∧ r.last < 0x85 ∨
      0xA0 < r.first ∧ r.last < 0x1680 ∨ 0x1680 < r.first ∧ r.last < 0x2000 ∨
      0x205F < r.first ∧ r.last < 0x3000 ∨ 0x3000 < r.first := by
    decide +kernel
  simp only [isBlank, Bool.or_eq_true, Bool.and_eq_true, decide_eq_true_eq] at blank
  have other : (c.val == 0x130) = false := beq_eq_false_iff_ne.mpr (by omega)
  have special : CaseTable.lowerSpecial.lookup c.val = none := by
    rw [CaseTable.lowerSpecial, List.lookup_cons, other, List.lookup_nil]
  have runs : CaseTable.lookup? CaseTable.lower c.val = none := by
    refine List.findSome?_eq_none_iff.mpr fun r among => if_neg fun inside => ?_
    have apart := table r among
    omega
  rw [lower, mapCase, special, runs]

end CodePoint

namespace Text

theorem firstWord?_ne_nil {t word : Text} (found : firstWord? t = some word) : word ≠ [] := by
  rw [firstWord?] at found
  split at found
  · cases found
  · exact Option.some.inj found ▸ List.cons_ne_nil _ _

section Strip

variable {s t : Text}

theorem strip_eq_nil (blank : ∀ c ∈ t, c.isBlank = true) : strip t = [] := by
  rw [strip, List.dropWhile_eq_nil_iff.mpr blank]
  rfl

theorem strip_append_left (blank : ∀ c ∈ s, c.isBlank = true) : strip (s ++ t) = strip t := by
  rw [strip, List.dropWhile_append_of_pos blank, strip]

theorem strip_append_right (blank : ∀ c ∈ t, c.isBlank = true) : strip (s ++ t) = strip s := by
  have backwards : ∀ c ∈ t.reverse, c.isBlank = true :=
    fun c among => blank c (List.mem_reverse.mp among)
  rw [strip, strip, List.dropWhile_append]
  split
  · rename_i nothing
    rw [List.dropWhile_eq_nil_iff.mpr blank, List.isEmpty_iff.mp nothing]
  · rw [List.reverse_append, List.dropWhile_append_of_pos backwards]

theorem strip_map {f : CodePoint → CodePoint} (blank : ∀ c, (f c).isBlank = c.isBlank) (t : Text) :
    strip (t.map f) = (strip t).map f := by
  have front : CodePoint.isBlank ∘ f = CodePoint.isBlank := funext blank
  rw [strip, strip, List.dropWhile_map, front, ← List.map_reverse, List.dropWhile_map, front,
    ← List.map_reverse]

end Strip

theorem meetsCased_map_lowerAscii (t : Text) :
    meetsCased (t.map CodePoint.lowerAscii) = meetsCased t := by
  have through : CodePoint.isCaseIgnorable ∘ CodePoint.lowerAscii = CodePoint.isCaseIgnorable :=
    funext CodePoint.isCaseIgnorable_lowerAscii
  rw [meetsCased, meetsCased, List.dropWhile_map, through]
  cases t.dropWhile CodePoint.isCaseIgnorable with
  | nil => rfl
  | cons c rest => exact c.isCased_lowerAscii

/-- The letters A to Z count as cased ones in either form, so that a sigma closes the same words. -/
theorem lowerAfter_map_lowerAscii (before t : Text) :
    lowerAfter (before.map CodePoint.lowerAscii) (t.map CodePoint.lowerAscii) =
      lowerAfter before t := by
  induction t generalizing before with
  | nil => rfl
  | cons c t ih =>
    rw [List.map_cons, lowerAfter, lowerAfter, ← List.map_cons, ih]
    simp only [CodePoint.lowerAscii_eq_sigma_iff, meetsCased_map_lowerAscii,
      CodePoint.lower_lowerAscii]

theorem lower_map_lowerAscii (t : Text) : lower (t.map CodePoint.lowerAscii) = lower t :=
  lowerAfter_map_lowerAscii [] t

theorem mem_lowerAfter_of_isBlank {c : CodePoint} (blank : c.isBlank = true) {before t : Text}
    (among : c ∈ t) : c ∈ lowerAfter before t := by
  induction t generalizing before with
  | nil => cases among
  | cons d t ih =>
    rw [lowerAfter, List.mem_append]
    rcases List.mem_cons.mp among with rfl | later
    · have dark : ¬ c.val = 0x3A3 := by
        simp only [CodePoint.isBlank, Bool.or_eq_true, Bool.and_eq_true, decide_eq_true_eq] at blank
        omega
      rw [if_neg fun sigma => dark sigma.1, CodePoint.lower_of_isBlank blank]
      exact Or.inl (List.mem_singleton_self c)
    · exact Or.inr (ih later)

end Text

/-- One of the lints of a comment, as it is written, has a first word that is `wanted` when A to Z
are put in lower case. -/
def Declaration.Declares (d : Declaration) (wanted : Text) : Prop :=
  ∃ names prose, DocComment.Written d.docComment names prose ∧
    ∃ n ∈ names, ∃ word, Text.firstWord? n = some word ∧ word.map CodePoint.lowerAscii = wanted

namespace Declaration

variable {d : Declaration} {wanted : Text}

theorem Declares.recognised (declares : d.Declares wanted) :
    ¬ DocComment.IsUnrecognised d.docComment := by
  obtain ⟨names, prose, written, _⟩ := declares
  rw [← DocComment.parse?_eq_none_iff]
  exact written.parse?_ne_none

theorem Declares.ne_nil (declares : d.Declares wanted) : wanted ≠ [] := by
  obtain ⟨_, _, _, _, _, word, found, rfl⟩ := declares
  rw [ne_eq, List.map_eq_nil_iff]
  exact Text.firstWord?_ne_nil found

theorem Declares.not_isBlank (declares : d.Declares wanted) {c : CodePoint} (among : c ∈ wanted) :
    c.isBlank = false := by
  obtain ⟨_, _, _, _, _, word, found, rfl⟩ := declares
  obtain ⟨b, inside, rfl⟩ := List.mem_map.mp among
  rw [CodePoint.isBlank_lowerAscii, Text.not_isBlank_of_firstWord found inside]

theorem mem_anchors_iff : wanted ∈ d.entry.anchors ↔ d.Declares wanted := by
  constructor
  · intro among
    cases parsed : DocComment.parse? d.docComment with
    | none =>
      rw [Entry.anchors, (entry_lints_eq_nil_iff d).mpr parsed] at among
      cases among
    | some c =>
      obtain ⟨names, prose, written⟩ := DocComment.exists_written parsed
      rw [anchors_of_written written] at among
      obtain ⟨word, there, rfl⟩ := List.mem_map.mp among
      obtain ⟨n, named, found⟩ := List.mem_filterMap.mp there
      exact ⟨names, prose, written, n, named, word, found, rfl⟩
  · rintro ⟨names, prose, written, n, named, word, found, rfl⟩
    rw [anchors_of_written written]
    exact List.mem_map_of_mem (List.mem_filterMap.mpr ⟨n, named, found⟩)

end Declaration

namespace Book

theorem forLint_congr {q q' : Text} (same : Text.lower (Text.strip q) = Text.lower (Text.strip q'))
    (entries : List Entry) : forLint entries q = forLint entries q' := by
  rw [forLint, forLint, same]

section Collected

variable {ds : List Declaration} {entries : List Entry}
  (collected : (collect ds).value = .ok entries)

include collected

theorem mem_forLint_iff_declares (q : Text) (e : Entry) :
    e ∈ forLint entries q ↔
      ∃ d ∈ ds, d.entry = e ∧ d.Declares (Text.lower (Text.strip q)) := by
  rw [mem_forLint_iff, mem_collect_iff collected]
  constructor
  · rintro ⟨⟨d, declared, rfl⟩, among⟩
    exact ⟨d, declared, rfl, Declaration.mem_anchors_iff.mp among⟩
  · rintro ⟨d, declared, rfl, declares⟩
    exact ⟨⟨d, declared, rfl⟩, Declaration.mem_anchors_iff.mpr declares⟩

theorem forLint_eq_nil {q : Text} (none : ∀ d ∈ ds, ¬ d.Declares (Text.lower (Text.strip q))) :
    forLint entries q = [] := by
  rw [List.eq_nil_iff_forall_not_mem]
  intro e listed
  obtain ⟨d, declared, _, declares⟩ := (mem_forLint_iff_declares collected q e).mp listed
  exact none d declared declares

/-- What is found for a query are the entries of the declarations that write a lint with that first
word, up to the case of A to Z, each once and in the order of their names. So nothing is found for
a query without a word or with more than one, nor any entry of a comment that is not recognised; and
the case of A to Z in a query and blanks around it make no difference. -/
theorem forLint_exact (q : Text) :
    (∀ e, e ∈ forLint entries q ↔
        ∃ d ∈ ds, d.entry = e ∧ d.Declares (Text.lower (Text.strip q))) ∧
      ((forLint entries q).map Entry.name).Pairwise (fun a b => Text.le a b = true ∧ a ≠ b) ∧
      ((∀ c ∈ q, c.isBlank = true) → forLint entries q = []) ∧
      ((∃ c ∈ Text.strip q, c.isBlank = true) → forLint entries q = []) ∧
      (∀ d ∈ ds, DocComment.IsUnrecognised d.docComment → d.entry ∉ forLint entries q) ∧
      (∀ q', q'.map CodePoint.lowerAscii = q.map CodePoint.lowerAscii →
        forLint entries q' = forLint entries q) ∧
      ∀ front back, (∀ c ∈ front, c.isBlank = true) → (∀ c ∈ back, c.isBlank = true) →
        forLint entries (front ++ q ++ back) = forLint entries q := by
  refine ⟨mem_forLint_iff_declares collected q, ?_, ?_, ?_, ?_, ?_, ?_⟩
  · exact (names_pairwise collected).sublist (List.filter_sublist.map Entry.name)
  · intro blank
    refine forLint_eq_nil collected fun d _ declares => declares.ne_nil ?_
    rw [Text.strip_eq_nil blank]
    rfl
  · rintro ⟨c, inside, blank⟩
    refine forLint_eq_nil collected fun d _ declares => ?_
    have dark := declares.not_isBlank (Text.mem_lowerAfter_of_isBlank blank inside)
    rw [blank] at dark
    cases dark
  · intro d declared unrecognised listed
    obtain ⟨d', declared', same, declares⟩ := (mem_forLint_iff_declares collected q _).mp listed
    obtain rfl := eq_of_displayName collected declared' declared (congrArg Entry.name same)
    exact declares.recognised unrecognised
  · intro q' same
    refine forLint_congr ?_ entries
    rw [← Text.lower_map_lowerAscii, ← Text.strip_map CodePoint.isBlank_lowerAscii, same,
      Text.strip_map CodePoint.isBlank_lowerAscii, Text.lower_map_lowerAscii]
  · intro front back before behind
    exact forLint_congr (by rw [Text.strip_append_right behind, Text.strip_append_left before]) _

end Collected

/-- A word that ends with a sigma is found in any case of the query, in which the last capital one
alone takes the final form; the comment has it behind one blank and before another. -/
theorem forLint_exact_sigma :
    let spaced : Declaration := ⟨"b_1", "", "", " Lint: X, \u2003Aσς\u3000No. d", none⟩
    let small : Declaration := ⟨"a_2", "", "", " Lint: aσς. e", none⟩
    let unmarked : Declaration := ⟨"c_3", "", "", "Lint: aσς. f", none⟩
    let ds := [spaced, small, unmarked]
    let entries := sortByName (ds.map Declaration.entry)
    (collect ds).value = .ok entries ∧
      spaced.entry ∈ forLint entries "AΣΣ" ∧
      unmarked.entry ∉ forLint entries "AΣΣ" ∧
      forLint entries "aΣΣ" = forLint entries "AΣΣ" ∧
      forLint entries "\t\u3000AΣΣ\x1c" = forLint entries "AΣΣ" ∧
      forLint entries " \n" = [] ∧
      forLint entries "AΣΣ\x85No" = [] := by
  intro spaced small unmarked ds entries
  have collected : (collect ds).value = .ok entries := collect_eq_ok_iff.mpr ⟨by decide, rfl⟩
  have declares : spaced.Declares (Text.lower (Text.strip "AΣΣ")) :=
    ⟨["X", "\u2003Aσς\u3000No"], " d",
      ⟨by decide, by decide +kernel, by decide +kernel, by decide +kernel⟩,
      "\u2003Aσς\u3000No", by decide, "Aσς", by decide +kernel, by decide +kernel⟩
  obtain ⟨found, _, _, _, unrecognised, case, blanks⟩ := forLint_exact collected "AΣΣ"
  obtain ⟨_, _, blank, _⟩ := forLint_exact collected " \n"
  obtain ⟨_, _, _, inside, _⟩ := forLint_exact collected "AΣΣ\x85No"
  refine ⟨collected, (found _).mpr ⟨spaced, by decide, rfl, declares⟩, ?_, ?_, ?_, ?_, ?_⟩
  · exact unrecognised unmarked (by decide) (Or.inl (by decide))
  · exact case "aΣΣ" (by decide +kernel)
  · exact blanks "\t\u3000" "\x1c" (List.all_eq_true.mp (by decide))
      (List.all_eq_true.mp (by decide))
  · exact blank (List.all_eq_true.mp (by decide))
  · exact inside (List.any_eq_true.mp (by decide +kernel))

end Book

end LintBook
