import LintBook.Proofs.Collecting

/-! One more declaration. Its entry goes between those whose names are smaller and those whose names
are larger, and these stay as they are; so the book, the list and the link definitions gain one
piece at one place, whatever the comment of the declaration is. -/
namespace LintBook.Book

/-- The entries with names that come before a name. -/
def before (n : Text) (entries : List Entry) : List Entry :=
  entries.filter fun e => Text.le e.name n ∧ e.name ≠ n

/-- The entries with names that come after a name. -/
def after (n : Text) (entries : List Entry) : List Entry :=
  entries.filter fun e => Text.le n e.name ∧ e.name ≠ n

section Around

variable {n : Text} {entries : List Entry}

theorem mem_before {e : Entry} :
    e ∈ before n entries ↔ e ∈ entries ∧ Text.le e.name n = true ∧ e.name ≠ n := by
  rw [before, List.mem_filter, decide_eq_true_eq]

theorem mem_after {e : Entry} :
    e ∈ after n entries ↔ e ∈ entries ∧ Text.le n e.name = true ∧ e.name ≠ n := by
  rw [after, List.mem_filter, decide_eq_true_eq]

theorem before_append_after_perm (fresh : ∀ e ∈ entries, e.name ≠ n) :
    (before n entries ++ after n entries).Perm entries := by
  have rest : after n entries =
      entries.filter fun e => !decide (Text.le e.name n = true ∧ e.name ≠ n) := by
    apply List.filter_congr
    intro e among
    rw [Bool.eq_iff_iff, decide_eq_true_eq, Bool.not_eq_true', decide_eq_false_iff_not]
    constructor
    · rintro ⟨above, other⟩ ⟨below, _⟩
      exact other (Text.le_antisymm below above)
    · intro notBelow
      have above := (Text.le_total e.name n).resolve_left fun h => notBelow ⟨h, fresh e among⟩
      exact ⟨above, fresh e among⟩
  rw [rest]
  exact List.filter_append_perm _ _

theorem pairwise_before_after {e : Entry}
    (sorted : entries.Pairwise fun a b => Text.le a.name b.name = true) :
    (before e.name entries ++ e :: after e.name entries).Pairwise
      fun a b => Text.le a.name b.name = true := by
  rw [List.pairwise_append, List.pairwise_cons]
  refine ⟨sorted.sublist List.filter_sublist, ⟨?_, sorted.sublist List.filter_sublist⟩, ?_⟩
  · intro b above
    exact (mem_after.mp above).2.1
  · intro a below b here
    have low := (mem_before.mp below).2.1
    rcases List.mem_cons.mp here with rfl | above
    · exact low
    · exact Text.le_trans low (mem_after.mp above).2.1

/-- Entries in their order are what sorting makes of them in any order, if no name comes twice. -/
theorem eq_sortByName {others : List Entry}
    (sorted : entries.Pairwise fun a b => Text.le a.name b.name = true)
    (same : entries.Perm others) (different : (others.map Entry.name).Nodup) :
    entries = sortByName others := by
  rw [sortByName_eq_of_perm same.symm different, sortByName, List.mergeSort_of_pairwise sorted]

end Around

section Sorted

variable {e : Entry} {entries : List Entry} (different : ((e :: entries).map Entry.name).Nodup)

include different

theorem before_append_after_sortByName_perm :
    (before e.name (sortByName entries) ++ after e.name (sortByName entries)).Perm entries := by
  rw [List.map_cons, List.nodup_cons] at different
  refine (before_append_after_perm ?_).trans (sortByName_perm entries)
  intro other among same
  have there := (sortByName_perm entries).mem_iff.mp among
  exact different.1 (List.mem_map.mpr ⟨other, there, same⟩)

/-- A new name divides the entries in their order into those before it and those after it. -/
theorem before_append_after_sortByName :
    before e.name (sortByName entries) ++ after e.name (sortByName entries) =
      sortByName entries := by
  have inserted := pairwise_before_after (e := e) (sortByName_pairwise entries)
  refine eq_sortByName (inserted.sublist ?_) (before_append_after_sortByName_perm different)
    (List.nodup_cons.mp different).2
  exact (List.Sublist.refl _).append (List.sublist_cons_self e _)

/-- An entry with a new name goes between them. -/
theorem before_append_cons_after_sortByName :
    before e.name (sortByName entries) ++ e :: after e.name (sortByName entries) =
      sortByName (e :: entries) := by
  refine eq_sortByName (pairwise_before_after (sortByName_pairwise entries)) ?_ different
  exact List.perm_middle.trans ((before_append_after_sortByName_perm different).cons e)

end Sorted

theorem list_append (entries others : List Entry) :
    list (entries ++ others) = list entries ++ list others := by
  rw [list, List.filter_append, List.flatMap_append, list, list]

theorem list_singleton (e : Entry) :
    list [e] = if e.deprecationReason = none then e.item else [] := by
  cases reason : e.deprecationReason <;> simp [list, reason]

/-- What is written of some entries, and of the same entries with one more at the place of its
name. -/
structure Gains (entries others : List Entry) (e : Entry) : Prop where
  without : entries = before e.name entries ++ after e.name entries
  within : others = before e.name entries ++ e :: after e.name entries
  book_without : (write entries).value =
    header ++ (before e.name entries).flatMap Entry.paragraph ++
      (after e.name entries).flatMap Entry.paragraph
  book_within : (write others).value =
    header ++ (before e.name entries).flatMap Entry.paragraph ++ e.paragraph ++
      (after e.name entries).flatMap Entry.paragraph
  list_without : list entries = list (before e.name entries) ++ list (after e.name entries)
  list_within : list others =
    list (before e.name entries) ++ (if e.deprecationReason = none then e.item else []) ++
      list (after e.name entries)
  links_without : links entries =
    Text.join "\n" ((before e.name entries).map Entry.link ++
      (after e.name entries).map Entry.link)
  links_within : links others =
    Text.join "\n" ((before e.name entries).map Entry.link ++
      e.link :: (after e.name entries).map Entry.link)

theorem Gains.of_eq {entries others : List Entry} {e : Entry}
    (without : entries = before e.name entries ++ after e.name entries)
    (within : others = before e.name entries ++ e :: after e.name entries) :
    Gains entries others e where
  without := without
  within := within
  book_without := by
    rw [write_value, List.append_assoc, ← List.flatMap_append, ← without]
  book_within := by
    rw [write_value, within, List.flatMap_append, List.flatMap_cons]
    simp only [List.append_assoc]
  list_without := by
    rw [← list_append, ← without]
  list_within := by
    rw [within, list_append, ← List.singleton_append, list_append, list_singleton,
      List.append_assoc]
  links_without := by
    rw [links, ← List.map_append, ← without]
  links_within := by
    rw [links, within, List.map_append, List.map_cons]

/-- One more declaration with a name of its own is accepted wherever it stands among the others. The
entries of the others stay as they are and in their order; its own entry comes between the smaller
names and the larger ones. The book gains its paragraph there, the link definitions its own, and the
list its item, or nothing if there is a reason of deprecation, be it empty. -/
theorem collect_addition {front back : List Declaration} {d : Declaration} {entries : List Entry}
    (collected : (collect (front ++ back)).value = .ok entries)
    (fresh : ∀ d' ∈ front ++ back, displayName d'.name ≠ displayName d.name) :
    ∃ others, (collect (front ++ d :: back)).value = .ok others ∧
      Gains entries others d.entry := by
  obtain ⟨different, rfl⟩ := collect_eq_ok_iff.mp collected
  have moved : (front ++ d :: back).Perm (d :: (front ++ back)) := List.perm_middle
  have names : ((d :: (front ++ back)).map fun d => displayName d.name).Nodup := by
    refine List.nodup_cons.mpr ⟨fun among => ?_, different⟩
    obtain ⟨d', declared, same⟩ := List.mem_map.mp among
    exact fresh d' declared same
  have accepted : (collect (front ++ d :: back)).value =
      .ok (sortByName ((front ++ d :: back).map Declaration.entry)) :=
    collect_eq_ok_iff.mpr ⟨(moved.map _).nodup_iff.mpr names, rfl⟩
  refine ⟨_, accepted, ?_⟩
  rw [← Declaration.map_entry_name] at names
  rw [← sortByName_eq_of_perm (moved.symm.map Declaration.entry) names]
  exact .of_eq (before_append_after_sortByName names).symm
    (before_append_cons_after_sortByName names).symm

/-- A malformed comment with line feeds, an empty reason and a name between two others that are in
no order. -/
theorem collect_addition_malformed :
    let high : Declaration := ⟨"max_len", "u64", "100", " Lint: LINE_LEN. The most.", none⟩
    let low : Declaration := ⟨"Tabs", "bool", "true", "no marker", some "unused"⟩
    let d : Declaration := ⟨"allow_tabs", "", "\n", "## \n\n* x", some ""⟩
    (collect [high, low]).value = .ok [low.entry, high.entry] ∧
      displayName d.name ∉ [high, low].map (fun d => displayName d.name) ∧
      ∃ others, (collect [high, d, low]).value = .ok others ∧
        Gains [low.entry, high.entry] others d.entry := by
  intro high low d
  have sorted : [low.entry, high.entry] = sortByName [high.entry, low.entry] :=
    eq_sortByName (by decide) (.swap _ _ _) (by decide)
  have collected : (collect ([high] ++ [low])).value = .ok [low.entry, high.entry] :=
    collect_eq_ok_iff.mpr ⟨by decide, sorted⟩
  have fresh : ∀ d' ∈ [high] ++ [low], displayName d'.name ≠ displayName d.name := by decide
  exact ⟨collected, by decide, collect_addition collected fresh⟩

end LintBook.Book
