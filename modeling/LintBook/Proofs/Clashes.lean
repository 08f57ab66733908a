import LintBook.Proofs.Collecting

/-! Collecting is exact. Declarations are refused for the first position at which a display name
comes again, and for nothing else; accepted ones are all there, each once, in the strict order of
their names. -/
namespace LintBook

/-- Two positions, the first in front, at which the display names are the same. -/
def Clashes (ds : List Declaration) (i j : Nat) : Prop :=
  i < j ∧ ∃ d ∈ ds[i]?, ∃ d' ∈ ds[j]?, displayName d.name = displayName d'.name

instance (ds : List Declaration) (i j : Nat) : Decidable (Clashes ds i j) :=
  inferInstanceAs (Decidable (_ ∧ _))

theorem underscore_not_mem_displayName (name : Text) : ('_' : CodePoint) ∉ displayName name := by
  rw [displayName, List.mem_map]
  rintro ⟨c, _, shown⟩
  split at shown
  · revert shown
    decide
  · contradiction

theorem not_clashes_iff_nodup (ds : List Declaration) :
    (∀ i j, ¬ Clashes ds i j) ↔ (ds.map fun d => displayName d.name).Nodup := by
  rw [List.nodup_iff_getElem?_ne_getElem?]
  constructor
  · intro none i j before inside same
    rw [List.length_map] at inside
    have left : ds[i]? = some ds[i] := List.getElem?_eq_getElem (Nat.lt_trans before inside)
    have right : ds[j]? = some ds[j] := List.getElem?_eq_getElem inside
    rw [List.getElem?_map, List.getElem?_map, left, right] at same
    exact none i j ⟨before, _, left, _, right, Option.some.inj same⟩
  · rintro different i j ⟨before, d, left, d', right, same⟩
    rw [Option.mem_def] at left right
    have inside : j < ds.length := (List.getElem?_eq_some_iff.mp right).1
    apply different i j before (by rwa [List.length_map])
    rw [List.getElem?_map, List.getElem?_map, left, right, Option.map_some, Option.map_some, same]

section Split

variable (before : List Declaration) (d : Declaration) (after : List Declaration)

theorem clashes_append_iff {i j : Nat} (inside : j < before.length) :
    Clashes (before ++ after) i j ↔ Clashes before i j := by
  rw [Clashes, Clashes]
  refine and_congr_right fun ahead => ?_
  rw [List.getElem?_append_left inside, List.getElem?_append_left (Nat.lt_trans ahead inside)]

/-- No clash in front of a position says that the names in front of it are different. -/
theorem not_clashes_before_iff :
    (∀ i j, j < before.length → ¬ Clashes (before ++ after) i j) ↔
      (before.map fun d => displayName d.name).Nodup := by
  rw [← not_clashes_iff_nodup]
  constructor
  · intro none i j clash
    have inside : j < before.length := by
      obtain ⟨_, _, _, _, right, _⟩ := clash
      exact (List.getElem?_eq_some_iff.mp right).1
    exact none i j inside ((clashes_append_iff before after inside).mpr clash)
  · intro none i j inside clash
    exact none i j ((clashes_append_iff before after inside).mp clash)

theorem exists_clashes_iff :
    (∃ i, Clashes (before ++ d :: after) i before.length) ↔
      displayName d.name ∈ before.map fun d => displayName d.name := by
  have here : (before ++ d :: after)[before.length]? = some d := by simp
  rw [List.mem_map]
  constructor
  · rintro ⟨i, ahead, e, left, d', right, same⟩
    obtain rfl := Option.some.inj (here.symm.trans right)
    rw [List.getElem?_append_left ahead] at left
    exact ⟨e, List.mem_of_getElem? left, same⟩
  · rintro ⟨e, among, same⟩
    obtain ⟨i, ahead, rfl⟩ := List.mem_iff_getElem.mp among
    refine ⟨i, ahead, before[i], ?_, d, here, same⟩
    rw [Option.mem_def, List.getElem?_append_left ahead, List.getElem?_eq_getElem ahead]

end Split

namespace Book

theorem collect_eq_error_iff {ds : List Declaration} {clash : DuplicateName} :
    (collect ds).value = .error clash ↔
      ∃ before d after, ds = before ++ d :: after ∧ clash = ⟨displayName d.name⟩ ∧
        (before.map fun d => displayName d.name).Nodup ∧
        displayName d.name ∈ before.map fun d => displayName d.name := by
  obtain ⟨n⟩ := clash
  have failed : (collect ds).value = .error ⟨n⟩ ↔
      firstRepeat [] (ds.map fun d => displayName d.name) = some n := by
    rw [collect_value]
    cases firstRepeat [] (ds.map fun d => displayName d.name) <;> simp
  rw [failed, firstRepeat_eq_some_iff]
  constructor
  · rintro ⟨names, later, cut, ⟨different, _⟩, repeated⟩
    obtain ⟨before, others, rfl, rfl, tail⟩ := List.map_eq_append_iff.mp cut
    obtain ⟨d, after, rfl, rfl, rfl⟩ := List.map_eq_cons_iff.mp tail
    exact ⟨before, d, after, rfl, rfl, different, repeated.resolve_right List.not_mem_nil⟩
  · rintro ⟨before, d, after, rfl, clash, different, repeated⟩
    obtain rfl := DuplicateName.mk.inj clash
    refine ⟨_, after.map fun d => displayName d.name, ?_, ⟨different, ?_⟩, Or.inl repeated⟩
    · rw [List.map_append, List.map_cons]
    · exact fun _ _ => List.not_mem_nil

/-- Declarations are collected exactly if no two names are the same with hyphens in place of
underscores. What is collected are the entries of the declarations one by one, in another order:
without underscores in their names, which rise strictly by code points. What is refused is named by
the first position whose display name stands at an earlier one too. -/
theorem collect_exact (ds : List Declaration) :
    ((∃ entries, (collect ds).value = .ok entries) ↔ ∀ i j, ¬ Clashes ds i j) ∧
      (∀ entries, (collect ds).value = .ok entries →
        entries.Perm (ds.map fun d => (Entry.ofDeclaration d).value) ∧
          (∀ e ∈ entries, ('_' : CodePoint) ∉ e.name) ∧
          (entries.map Entry.name).Pairwise fun a b => Text.le a b = true ∧ a ≠ b) ∧
      ∀ clash, (collect ds).value = .error clash ↔
        ∃ i j d, Clashes ds i j ∧ (∀ k l, l < j → ¬ Clashes ds k l) ∧ ds[j]? = some d ∧
          clash = ⟨displayName d.name⟩ := by
  refine ⟨?_, ?_, ?_⟩
  · rw [not_clashes_iff_nodup]
    constructor
    · rintro ⟨entries, collected⟩
      exact (collect_eq_ok_iff.mp collected).1
    · exact fun different => ⟨_, collect_eq_ok_iff.mpr ⟨different, rfl⟩⟩
  · intro entries collected
    refine ⟨?_, ?_, names_pairwise collected⟩
    · obtain ⟨_, rfl⟩ := collect_eq_ok_iff.mp collected
      exact sortByName_perm _
    · intro e among
      obtain ⟨d, _, rfl⟩ := (mem_collect_iff collected e).mp among
      exact underscore_not_mem_displayName d.name
  · intro clash
    rw [collect_eq_error_iff]
    constructor
    · rintro ⟨before, d, after, rfl, rfl, different, repeated⟩
      obtain ⟨i, first⟩ := (exists_clashes_iff before d after).mpr repeated
      exact ⟨i, before.length, d, first, (not_clashes_before_iff before (d :: after)).mpr different,
        by simp, rfl⟩
    · rintro ⟨i, j, d, first, none, here, rfl⟩
      obtain ⟨inside, rfl⟩ := List.getElem?_eq_some_iff.mp here
      have cut : ds.take j ++ ds[j] :: ds.drop (j + 1) = ds := by
        rw [List.getElem_cons_drop, List.take_append_drop]
      have length : (ds.take j).length = j := List.length_take_of_le (Nat.le_of_lt inside)
      refine ⟨ds.take j, ds[j], ds.drop (j + 1), cut.symm, rfl, ?_, ?_⟩
      · rw [← not_clashes_before_iff (ds.take j) (ds[j] :: ds.drop (j + 1)), cut, length]
        exact none
      · rw [← exists_clashes_iff (ds.take j) ds[j] (ds.drop (j + 1)), cut, length]
        exact ⟨i, first⟩

/-- Of two clashes the one that ends first is named, though the other begins before it. -/
theorem collect_exact_hyphens :
    let named (name : Text) : Declaration := ⟨name, "", "", " Lint: X. Y", none⟩
    let fine := [named "b_c", named "A", named "a_"]
    let ds := fine ++ [named "a-", named "b-c"]
    Clashes ds 2 3 ∧ Clashes ds 0 4 ∧ (collect ds).value = .error ⟨"a-"⟩ ∧
      (collect fine).value = .ok (sortByName (fine.map Declaration.entry)) ∧
      ∀ e ∈ sortByName (fine.map Declaration.entry), ('_' : CodePoint) ∉ e.name := by
  intro named fine ds
  have first : Clashes ds 2 3 := by decide
  have none : ∀ k l, l < 3 → ¬ Clashes ds k l := (not_clashes_before_iff fine _).mpr (by decide)
  have collected : (collect fine).value = .ok (sortByName (fine.map Declaration.entry)) :=
    collect_eq_ok_iff.mpr ⟨by decide, rfl⟩
  refine ⟨first, by decide, ?_, collected, ((collect_exact fine).2.1 _ collected).2.1⟩
  exact ((collect_exact ds).2.2 _).mpr ⟨2, 3, named "a-", first, none, rfl, rfl⟩

end Book

end LintBook
