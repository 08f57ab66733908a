import Mathlib.Data.List.Nodup
import LintBook.Rendering

/-! Collecting declarations as a law about lists: the first repeated display name decides whether
there is a book, and the order of names decides how its entries stand. Both are indifferent to the
order of the declarations, and so is what is rendered. -/
namespace LintBook

/-- The entry of a declaration, without what is reported on the way. -/
def Declaration.entry (d : Declaration) : Entry := (Entry.ofDeclaration d).value

@[simp] theorem Declaration.entry_name (d : Declaration) : d.entry.name = displayName d.name := rfl

theorem Declaration.map_entry_name (ds : List Declaration) :
    (ds.map Declaration.entry).map Entry.name = ds.map fun d => displayName d.name := by
  rw [List.map_map]
  rfl

namespace Book

theorem write_value (entries : List Entry) :
    (write entries).value = header ++ entries.flatMap Entry.paragraph := rfl

section Repeats

variable {α : Type} [DecidableEq α]

/-- The first item of a list that is one of `seen` or of the items before it. -/
def firstRepeat (seen : List α) : List α → Option α
  | [] => none
  | a :: rest => if a ∈ seen then some a else firstRepeat (a :: seen) rest

theorem firstRepeat_eq_none_iff (seen items : List α) :
    firstRepeat seen items = none ↔ items.Nodup ∧ ∀ a ∈ items, a ∉ seen := by
  induction items generalizing seen with
  | nil => simp [firstRepeat]
  | cons a rest ih =>
    by_cases known : a ∈ seen
    · simp [firstRepeat, known]
    · rw [firstRepeat, if_neg known, ih, List.nodup_cons, List.forall_mem_cons]
      constructor
      · rintro ⟨different, fresh⟩
        refine ⟨⟨fun repeated => fresh a repeated List.mem_cons_self, different⟩, known, ?_⟩
        exact fun b member old => fresh b member (List.mem_cons_of_mem a old)
      · rintro ⟨⟨alone, different⟩, _, fresh⟩
        refine ⟨different, fun b member old => ?_⟩
        rcases List.mem_cons.mp old with rfl | old
        · exact alone member
        · exact fresh b member old

/-- The first repeated item comes behind items that are all different and new, and it is one of
them or was known before. -/
theorem firstRepeat_eq_some_iff (seen items : List α) (a : α) :
    firstRepeat seen items = some a ↔
      ∃ before after, items = before ++ a :: after ∧
        (before.Nodup ∧ ∀ b ∈ before, b ∉ seen) ∧ (a ∈ before ∨ a ∈ seen) := by
  induction items generalizing seen with
  | nil => simp [firstRepeat]
  | cons b rest ih =>
    by_cases known : b ∈ seen
    · rw [firstRepeat, if_pos known, Option.some.injEq]
      constructor
      · rintro rfl
        exact ⟨[], rest, rfl, by simp, Or.inr known⟩
      · rintro ⟨before, after, whole, ⟨_, fresh⟩, _⟩
        cases before with
        | nil => exact (List.cons.inj whole).1
        | cons c before =>
          obtain ⟨rfl, _⟩ := List.cons.inj whole
          exact absurd known (fresh b List.mem_cons_self)
    · rw [firstRepeat, if_neg known, ih]
      constructor
      · rintro ⟨before, after, rfl, ⟨different, fresh⟩, repeated⟩
        simp only [List.mem_cons, not_or] at fresh repeated
        refine ⟨b :: before, after, rfl, ⟨?_, ?_⟩, ?_⟩
        · exact List.nodup_cons.mpr ⟨fun among => (fresh b among).1 rfl, different⟩
        · exact List.forall_mem_cons.mpr ⟨known, fun c among => (fresh c among).2⟩
        · rw [List.mem_cons]
          tauto
      · rintro ⟨before, after, whole, ⟨different, fresh⟩, repeated⟩
        cases before with
        | nil =>
          obtain ⟨rfl, _⟩ := List.cons.inj whole
          simp [known] at repeated
        | cons c before =>
          obtain ⟨rfl, rfl⟩ := List.cons.inj whole
          rw [List.nodup_cons] at different
          rw [List.forall_mem_cons] at fresh
          refine ⟨before, after, rfl, ⟨different.2, fun c among => ?_⟩, ?_⟩
          · rw [List.mem_cons, not_or]
            exact ⟨fun same => different.1 (same ▸ among), fresh.2 c among⟩
          · rw [List.mem_cons] at repeated ⊢
            tauto

end Repeats

theorem gather_value (seen : List Text) (ds : List Declaration) :
    (gather (fun d => .ok <$> Entry.ofDeclaration d) id seen ds).value =
      match firstRepeat seen (ds.map fun d => displayName d.name) with
      | none => .ok (ds.map Declaration.entry)
      | some n => .error ⟨n⟩ := by
  induction ds generalizing seen with
  | nil => rfl
  | cons d rest ih =>
    have built : (Except.ok <$> Entry.ofDeclaration d : Logged (Except DuplicateName Entry)).value =
        .ok d.entry := rfl
    by_cases known : displayName d.name ∈ seen
    · simp [gather, built, firstRepeat, known]
    · simp only [gather, Logged.value_bind, built, Declaration.entry_name, known, if_false, ih,
        Logged.value_pure, List.map_cons, firstRepeat]
      cases firstRepeat (displayName d.name :: seen) (rest.map fun d => displayName d.name) <;> rfl

/-- Collecting succeeds exactly when the display names are different; else it names the first that
is repeated. -/
theorem collect_value (ds : List Declaration) :
    (collect ds).value =
      match firstRepeat [] (ds.map fun d => displayName d.name) with
      | none => .ok (sortByName (ds.map Declaration.entry))
      | some n => .error ⟨n⟩ := by
  simp only [collect, Logged.value_bind, Logged.value_pure, gather_value]
  cases firstRepeat [] (ds.map fun d => displayName d.name) <;> rfl

/-- Declarations are accepted exactly if their display names are different, and there is one outcome
then. -/
theorem collect_eq_ok_iff {ds : List Declaration} {entries : List Entry} :
    (collect ds).value = .ok entries ↔
      (ds.map fun d => displayName d.name).Nodup ∧
        entries = sortByName (ds.map Declaration.entry) := by
  have unique := firstRepeat_eq_none_iff [] (ds.map fun d => displayName d.name)
  simp only [List.not_mem_nil, not_false_eq_true, implies_true, and_true] at unique
  rw [collect_value, ← unique]
  cases firstRepeat [] (ds.map fun d => displayName d.name) with
  | none => simp [eq_comm]
  | some n => simp

/-- What is reported while declarations are gathered behind some names. -/
def gatherEvents (seen : List Text) (ds : List Declaration) : List Log.Event :=
  (gather (fun d => .ok <$> Entry.ofDeclaration d) (id : DuplicateName → DuplicateName)
    seen ds).events

theorem built_eq (d : Declaration) :
    (Except.ok <$> Entry.ofDeclaration d : Logged (Except DuplicateName Entry)) =
      ⟨.ok d.entry, (Entry.ofDeclaration d).events⟩ :=
  congrArg (Logged.mk _) (List.append_nil _)

/-- A declaration is reported on before its name is looked for among those in front of it. -/
theorem gatherEvents_known {seen : List Text} {d : Declaration}
    (known : displayName d.name ∈ seen) (rest : List Declaration) :
    gatherEvents seen (d :: rest) = (Entry.ofDeclaration d).events := by
  rw [gatherEvents, gather, built_eq, Logged.events_bind]
  simp only [Declaration.entry_name, known, if_true, Logged.events_pure, List.append_nil]

theorem gatherEvents_fresh {seen : List Text} {d : Declaration}
    (fresh : displayName d.name ∉ seen) (rest : List Declaration) :
    gatherEvents seen (d :: rest) = (Entry.ofDeclaration d).events ++
      gatherEvents (displayName d.name :: seen) rest := by
  rw [gatherEvents, gather, built_eq, Logged.events_bind]
  simp only [Declaration.entry_name, fresh, if_false, Logged.events_bind, Logged.events_pure,
    List.append_nil, gatherEvents]

/-- Declarations whose names are different and new are all reported on, in their order. -/
theorem gatherEvents_append {seen : List Text} {before : List Declaration}
    (different : (before.map fun d => displayName d.name).Nodup)
    (fresh : ∀ d ∈ before, displayName d.name ∉ seen) (rest : List Declaration) :
    gatherEvents seen (before ++ rest) = before.flatMap (fun d => (Entry.ofDeclaration d).events) ++
      gatherEvents ((before.map fun d => displayName d.name).reverse ++ seen) rest := by
  induction before generalizing seen with
  | nil => rfl
  | cons d before ih =>
    obtain ⟨first, fresh⟩ := List.forall_mem_cons.mp fresh
    rw [List.map_cons, List.nodup_cons] at different
    have later : ∀ e ∈ before, displayName e.name ∉ displayName d.name :: seen := by
      intro e among
      rw [List.mem_cons, not_or]
      exact ⟨fun same => different.1 (List.mem_map.mpr ⟨e, among, same⟩), fresh e among⟩
    rw [List.cons_append, gatherEvents_fresh first, ih different.2 later,
      List.flatMap_cons, List.map_cons, List.reverse_cons, List.append_assoc, List.append_assoc]
    rfl

/-- Accepted declarations are all reported on, in the order in which they were declared. -/
theorem collect_events {ds : List Declaration} {entries : List Entry}
    (collected : (collect ds).value = .ok entries) :
    (collect ds).events = ds.flatMap fun d => (Entry.ofDeclaration d).events := by
  have all := gatherEvents_append (collect_eq_ok_iff.mp collected).1
    (fun _ _ => List.not_mem_nil) []
  rw [List.append_nil] at all
  rw [collect, Logged.events_bind, Logged.events_pure, List.append_nil, ← gatherEvents, all]
  exact List.append_nil _

/-- The declaration whose name is repeated is the last one that is reported on. -/
theorem collect_events_repeated {before : List Declaration} {d : Declaration}
    (different : (before.map fun d => displayName d.name).Nodup)
    (repeated : displayName d.name ∈ before.map fun d => displayName d.name)
    (after : List Declaration) :
    (collect (before ++ d :: after)).events =
      (before ++ [d]).flatMap fun d => (Entry.ofDeclaration d).events := by
  have known : displayName d.name ∈ (before.map fun d => displayName d.name).reverse ++ [] := by
    simpa using repeated
  rw [collect, Logged.events_bind, Logged.events_pure, List.append_nil, ← gatherEvents,
    gatherEvents_append different (fun _ _ => List.not_mem_nil), gatherEvents_known known,
    List.flatMap_append, List.flatMap_singleton]

theorem sortByName_perm (entries : List Entry) : (sortByName entries).Perm entries :=
  List.mergeSort_perm _ _

theorem sortByName_pairwise (entries : List Entry) :
    (sortByName entries).Pairwise fun a b => Text.le a.name b.name = true := by
  apply List.pairwise_mergeSort
  · exact fun a b c => Text.le_trans
  · exact fun a b => by simpa only [Bool.or_eq_true] using Text.le_total a.name b.name

/-- The names of the entries follow each other in their order, and no name twice. -/
theorem names_pairwise {ds : List Declaration} {entries : List Entry}
    (collected : (collect ds).value = .ok entries) :
    (entries.map Entry.name).Pairwise fun a b => Text.le a b = true ∧ a ≠ b := by
  obtain ⟨different, rfl⟩ := collect_eq_ok_iff.mp collected
  rw [← Declaration.map_entry_name] at different
  have unique : ((sortByName (ds.map Declaration.entry)).map Entry.name).Nodup :=
    ((sortByName_perm _).map Entry.name).nodup_iff.mpr different
  exact (List.pairwise_map.mpr (sortByName_pairwise _)).and unique

theorem mem_collect_iff {ds : List Declaration} {entries : List Entry}
    (collected : (collect ds).value = .ok entries) (e : Entry) :
    e ∈ entries ↔ ∃ d ∈ ds, d.entry = e := by
  obtain ⟨_, rfl⟩ := collect_eq_ok_iff.mp collected
  rw [(sortByName_perm _).mem_iff, List.mem_map]

/-- Entries with different names have one order only. -/
theorem sortByName_eq_of_perm {entries others : List Entry} (same : entries.Perm others)
    (different : (entries.map Entry.name).Nodup) : sortByName entries = sortByName others := by
  refine List.Perm.eq_of_pairwise ?_ (sortByName_pairwise entries) (sortByName_pairwise others)
    ((sortByName_perm entries).trans (same.trans (sortByName_perm others).symm))
  intro a b left right below above
  have left := (sortByName_perm entries).mem_iff.mp left
  have right := same.mem_iff.mpr ((sortByName_perm others).mem_iff.mp right)
  exact List.inj_on_of_nodup_map different left right (Text.le_antisymm below above)

/-- Either two orders of the declarations give the same entries, or both have a repeated name. -/
theorem collect_perm {ds others : List Declaration} (same : ds.Perm others) :
    (∃ entries, (collect ds).value = .ok entries ∧ (collect others).value = .ok entries) ∨
      ∃ d d', (collect ds).value = .error d ∧ (collect others).value = .error d' := by
  have names : (ds.map fun d => displayName d.name).Perm
      (others.map fun d => displayName d.name) := same.map _
  rw [collect_value, collect_value]
  by_cases different : (ds.map fun d => displayName d.name).Nodup
  · have left := (firstRepeat_eq_none_iff [] _).mpr ⟨different, by simp⟩
    have right := (firstRepeat_eq_none_iff [] _).mpr ⟨names.nodup_iff.mp different, by simp⟩
    rw [← Declaration.map_entry_name] at different
    rw [left, right, ← sortByName_eq_of_perm (same.map Declaration.entry) different]
    exact Or.inl ⟨_, rfl, rfl⟩
  · have left : firstRepeat [] (ds.map fun d => displayName d.name) ≠ none :=
      fun unique => different ((firstRepeat_eq_none_iff _ _).mp unique).1
    have right : firstRepeat [] (others.map fun d => displayName d.name) ≠ none :=
      fun unique => different (names.nodup_iff.mpr ((firstRepeat_eq_none_iff _ _).mp unique).1)
    obtain ⟨n, left⟩ := Option.ne_none_iff_exists'.mp left
    obtain ⟨m, right⟩ := Option.ne_none_iff_exists'.mp right
    rw [left, right]
    exact Or.inr ⟨⟨n⟩, ⟨m⟩, rfl, rfl⟩

end Book

/-- Outcomes of rendering that differ at most in the name that a conflict quotes. -/
inductive Outcome.Agrees : Outcome → Outcome → Prop
  | rendered (r : Rendering) : Agrees (.rendered r) (.rendered r)
  | conflict (d d' : DuplicateName) :
      Agrees (.rejected (.duplicateName d)) (.rejected (.duplicateName d'))
  | unencodable (u : Encoding.Utf8.Unencodable) :
      Agrees (.failed (.unencodable u)) (.failed (.unencodable u))

theorem Outcome.agrees_renderEntries (decoding : Option Decoding.Report) (entries : List Entry) :
    Agrees (renderEntries decoding entries).value (renderEntries decoding entries).value := by
  simp only [renderEntries, Logged.value_bind]
  split
  · exact .unencodable _
  · exact .rendered _

/-- The order in which options are declared shows nowhere: the book, its digest and companions, the
summary, the entries, and even the place of a surrogate are the same in any order. -/
theorem render_order_independent (decoding : Option Decoding.Report) {ds others : List Declaration}
    (same : ds.Perm others) :
    Outcome.Agrees (render decoding ds).value (render decoding others).value := by
  simp only [render, Logged.value_bind]
  rcases Book.collect_perm same with ⟨entries, left, right⟩ | ⟨d, d', left, right⟩
  · rw [left, right]
    exact Outcome.agrees_renderEntries decoding entries
  · rw [left, right]
    exact .conflict d d'

theorem render_swapped :
    let long : Declaration := ⟨"max_len", "u64", "100", " Lint: LINE_LEN, WIDTH. The most.", none⟩
    let tabs : Declaration := ⟨"allow-tabs", "bool", "true", "no marker", some "unused"⟩
    [long, tabs].Perm [tabs, long] ∧
      Outcome.Agrees (render none [long, tabs]).value (render none [tabs, long]).value := by
  intro long tabs
  exact ⟨.swap tabs long [], render_order_independent none (.swap tabs long [])⟩

end LintBook
