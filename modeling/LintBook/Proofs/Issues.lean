import LintBook.Proofs.Validating

/-! What validation reports. The issues of a check of several parts are those of its parts one after
another, so what is reported of a request can be told from its declarations: an issue for each
offence, at its place, in the order of the places. -/
namespace LintBook

namespace Validated

variable {α β : Type}

def issues : Validated α → List Issue
  | valid _ => []
  | invalid issues => issues

def accepts : Validated α → Bool
  | valid _ => true
  | invalid _ => false

@[simp] theorem issues_valid (a : α) : (valid a).issues = [] := rfl

@[simp] theorem issues_invalid (issues : List Issue) :
    (invalid issues : Validated α).issues = issues := rfl

@[simp] theorem issues_refuse (p : Problem) (v : Json) :
    (refuse p v : Validated α).issues = [⟨p, [], v⟩] := rfl

@[simp] theorem accepts_valid (a : α) : (valid a).accepts = true := rfl

@[simp] theorem accepts_invalid (issues : List Issue) :
    (invalid issues : Validated α).accepts = false := rfl

@[simp] theorem accepts_refuse (p : Problem) (v : Json) :
    (refuse p v : Validated α).accepts = false := rfl

theorem accepts_iff {x : Validated α} : x.accepts = true ↔ ∃ a, x = valid a := by
  cases x <;> simp

@[simp] theorem accepts_map (f : α → β) (x : Validated α) : (f <$> x).accepts = x.accepts := by
  cases x <;> rfl

@[simp] theorem accepts_seq (f : Validated (α → β)) (x : Validated α) :
    (f <*> x).accepts = (f.accepts && x.accepts) := by
  cases f <;> cases x <;> rfl

@[simp] theorem accepts_under (s : Step) (x : Validated α) : (x.under s).accepts = x.accepts := by
  cases x <;> rfl

@[simp] theorem issues_map (f : α → β) (x : Validated α) : (f <$> x).issues = x.issues := by
  cases x <;> rfl

@[simp] theorem issues_seq (f : Validated (α → β)) (x : Validated α) :
    (f <*> x).issues = f.issues ++ x.issues := by
  cases f with
  | valid f => cases x <;> rfl
  | invalid issues =>
    cases x with
    | valid a => exact (List.append_nil issues).symm
    | invalid more => rfl

@[simp] theorem issues_under (s : Step) (x : Validated α) :
    (x.under s).issues = x.issues.map (Issue.under s) := by
  cases x <;> rfl

end Validated

namespace Check

variable {α : Type} {check : Check α} {v : Json} {i : Issue}

@[simp] theorem object_obj (form : Form) (members : List (Text × Json)) :
    object form check (.obj members) = check (.obj members) := rfl

section Accepts

theorem accepts_text : (text v).accepts = true ↔ ∃ s, v = .str s := by
  cases v <;> simp [text]

theorem accepts_properText :
    (properText v).accepts = true ↔ ∃ s, v = .str s ∧ s ≠ [] ∧ s.isScalar = true := by
  cases v with
  | str s =>
    by_cases empty : s = []
    · simp [properText, empty]
    · by_cases scalar : s.isScalar = true <;> simp [properText, empty, scalar]
  | _ => simp [properText]

theorem accepts_textOrNull : (textOrNull v).accepts = true ↔ v = .null ∨ ∃ s, v = .str s := by
  cases v <;> simp [textOrNull]

theorem accepts_required {name : String} :
    (required name check v).accepts = true ↔
      ∃ part, v.member? name = some part ∧ (check part).accepts = true := by
  rw [required]
  cases v.member? name <;> simp

theorem accepts_optional {name : String} {absent : α} :
    (optional name absent check v).accepts = true ↔
      ∀ part, v.member? name = some part → (check part).accepts = true := by
  rw [optional]
  cases v.member? name <;> simp

theorem accepts_itemsFrom {n : Nat} {items : List Json} :
    (itemsFrom check n items).accepts = true ↔ ∀ item ∈ items, (check item).accepts = true := by
  induction items generalizing n with
  | nil => simp [itemsFrom, pure]
  | cons item items ih => simp [itemsFrom, ih]

end Accepts

section Issues

theorem mem_issues_text :
    i ∈ (text v).issues ↔ (∀ s, v ≠ .str s) ∧ i = ⟨.notText, [], v⟩ := by
  cases v <;> simp [text]

theorem mem_issues_properText :
    i ∈ (properText v).issues ↔
      ((∀ s, v ≠ .str s) ∧ i = ⟨.notText, [], v⟩) ∨
        (v = .str [] ∧ i = ⟨.emptyText, [], .str []⟩) ∨
        ∃ s, v = .str s ∧ s.isScalar = false ∧ i = ⟨.unpairedSurrogate, [], .str s⟩ := by
  cases v with
  | str s =>
    by_cases empty : s = []
    · simp [properText, empty, Text.isScalar]
    · by_cases scalar : s.isScalar = true <;> simp [properText, empty, scalar]
  | _ => simp [properText]

theorem mem_issues_textOrNull :
    i ∈ (textOrNull v).issues ↔
      v ≠ .null ∧ (∀ s, v ≠ .str s) ∧ i = ⟨.notText, [], v⟩ := by
  cases v <;> simp [textOrNull]

/-- Of a part that must be there an issue says that it is not, or what is wrong with it. -/
theorem mem_issues_required {name : String} :
    i ∈ (required name check v).issues ↔
      (v.member? name = none ∧ i = ⟨.missing, [.field name], v⟩) ∨
        ∃ part, v.member? name = some part ∧ ∃ j ∈ (check part).issues, j.under (.field name) = i := by
  rw [required]
  cases v.member? name <;> simp

theorem mem_issues_optional {name : String} {absent : α} :
    i ∈ (optional name absent check v).issues ↔
      ∃ part, v.member? name = some part ∧ ∃ j ∈ (check part).issues, j.under (.field name) = i := by
  rw [optional]
  cases v.member? name <;> simp

/-- An issue of an item stands under the number of the item. -/
theorem mem_issues_itemsFrom {n : Nat} {items : List Json} :
    i ∈ (itemsFrom check n items).issues ↔
      ∃ k item, items[k]? = some item ∧
        ∃ j ∈ (check item).issues, j.under (.index (n + k)) = i := by
  induction items generalizing n with
  | nil => simp [itemsFrom, pure]
  | cons item items ih =>
    rw [itemsFrom, Validated.issues_seq, Validated.issues_map, Validated.issues_under,
      List.mem_append, List.mem_map, ih]
    constructor
    · rintro (first | ⟨k, other, found, later⟩)
      · exact ⟨0, item, rfl, first⟩
      · refine ⟨k + 1, other, found, ?_⟩
        rwa [Nat.add_assoc, Nat.add_comm 1 k] at later
    · rintro ⟨k, other, found, later⟩
      cases k with
      | zero =>
        obtain rfl := Option.some.inj found
        exact Or.inl later
      | succ k =>
        refine Or.inr ⟨k, other, found, ?_⟩
        rwa [Nat.add_assoc, Nat.add_comm 1 k]

end Issues

/-- A check of one value finds at most one thing wrong with it, and places it at the value. -/
def IsLocal (check : Check α) : Prop :=
  ∀ v, ((check v).issues.map Issue.place).Sublist [[]]

theorem isLocal_text : IsLocal text := by
  intro v
  cases v <;> simp [text]

theorem isLocal_properText : IsLocal properText := by
  intro v
  cases v with
  | str s =>
    by_cases empty : s = []
    · simp [properText, empty]
    · by_cases scalar : s.isScalar = true <;> simp [properText, empty, scalar]
  | _ => simp [properText]

theorem isLocal_textOrNull : IsLocal textOrNull := by
  intro v
  cases v <;> simp [textOrNull]

theorem IsLocal.places_part (isLocal : IsLocal check) (name : Text) (part : Json) :
    (((check part).under (.field name)).issues.map Issue.place).Sublist [[.field name]] := by
  have places : ((check part).under (.field name)).issues.map Issue.place =
      ((check part).issues.map Issue.place).map fun place => .field name :: place := by
    rw [Validated.issues_under, List.map_map, List.map_map]
    rfl
  rw [places]
  exact (isLocal part).map fun place => .field name :: place

theorem IsLocal.places_required (isLocal : IsLocal check) (name : String) (v : Json) :
    ((required name check v).issues.map Issue.place).Sublist [[.field name]] := by
  rw [required]
  cases v.member? name with
  | none => exact .refl _
  | some part => exact isLocal.places_part name part

theorem IsLocal.places_optional (isLocal : IsLocal check) (name : String) (absent : α) (v : Json) :
    ((optional name absent check v).issues.map Issue.place).Sublist [[.field name]] := by
  rw [optional]
  cases v.member? name with
  | none => exact List.nil_sublist _
  | some part => exact isLocal.places_part name part

end Check

/-- Only an object has members. -/
theorem Json.exists_obj_of_member? {v part : Json} {name : Text}
    (present : v.member? name = some part) : ∃ members, v = .obj members := by
  cases v with
  | obj members => exact ⟨members, rfl⟩
  | _ => cases present

namespace Declaration

/-- The members that a declaration must have. -/
def requiredNames : List Text := ["name", "config_type", "default", "doc_comment"]

/-- The members of a declaration, in their order. -/
def memberNames : List Text := requiredNames ++ [("deprecation_reason" : Text)]

/-- The JSON forms of declarations. -/
structure WellFormed (v : Json) : Prop where
  object : ∃ members, v = .obj members
  name : ∃ s, v.member? "name" = some (.str s) ∧ s ≠ [] ∧ s.isScalar = true
  configType : ∃ s, v.member? "config_type" = some (.str s)
  defaultValue : ∃ s, v.member? "default" = some (.str s)
  docComment : ∃ s, v.member? "doc_comment" = some (.str s)
  reason : ∀ part, v.member? "deprecation_reason" = some part →
    part = .null ∨ ∃ s, part = .str s

/-- What is wrong with a value that should be the form of a declaration, and where. -/
inductive Offends (v : Json) : Issue → Prop
  | notObject (other : ∀ members, v ≠ .obj members) : Offends v ⟨.notObject .declaration, [], v⟩
  | missing {members : List (Text × Json)} {name : Text} (object : v = .obj members)
      (needed : name ∈ requiredNames) (absent : v.member? name = none) :
      Offends v ⟨.missing, [.field name], v⟩
  | notText {name : Text} {part : Json} (known : name ∈ memberNames)
      (present : v.member? name = some part) (other : ∀ s, part ≠ .str s)
      (given : name = "deprecation_reason" → part ≠ .null) :
      Offends v ⟨.notText, [.field name], part⟩
  | emptyName (present : v.member? "name" = some (.str [])) :
      Offends v ⟨.emptyText, [.field "name"], .str []⟩
  | surrogateName {s : Text} (present : v.member? "name" = some (.str s))
      (surrogate : s.isScalar = false) :
      Offends v ⟨.unpairedSurrogate, [.field "name"], .str s⟩

theorem accepts_check (v : Json) : (check v).accepts = true ↔ WellFormed v := by
  cases v with
  | obj ms =>
    rw [check, Check.object_obj, members]
    simp only [Validated.accepts_seq, Validated.accepts_map, Bool.and_eq_true,
      Check.accepts_required, Check.accepts_optional, Check.accepts_text, Check.accepts_properText,
      Check.accepts_textOrNull]
    constructor
    · rintro ⟨⟨⟨⟨⟨_, name, s, rfl, proper⟩, ⟨_, type, t, rfl⟩⟩, ⟨_, standard, u, rfl⟩⟩,
        ⟨_, comment, w, rfl⟩⟩, reason⟩
      exact ⟨⟨ms, rfl⟩, ⟨s, name, proper⟩, ⟨t, type⟩, ⟨u, standard⟩, ⟨w, comment⟩, reason⟩
    · rintro ⟨_, ⟨s, name, proper⟩, ⟨t, type⟩, ⟨u, standard⟩, ⟨w, comment⟩, reason⟩
      exact ⟨⟨⟨⟨⟨_, name, s, rfl, proper⟩, ⟨_, type, t, rfl⟩⟩, ⟨_, standard, u, rfl⟩⟩,
        ⟨_, comment, w, rfl⟩⟩, reason⟩
  | _ =>
    refine iff_of_false (by simp [check, Check.object]) ?_
    rintro ⟨⟨_, ⟨⟩⟩, _⟩

section Text

variable {v : Json} {i : Issue}

theorem Offends.of_text {name : String} {ms : List (Text × Json)} (object : v = .obj ms)
    (needed : (name : Text) ∈ requiredNames)
    (among : i ∈ (Check.required name Check.text v).issues) : Offends v i := by
  rcases Check.mem_issues_required.mp among with ⟨absent, rfl⟩ | ⟨part, present, j, found, rfl⟩
  · exact .missing object needed absent
  · obtain ⟨other, rfl⟩ := Check.mem_issues_text.mp found
    refine .notText (List.mem_append_left _ needed) present other fun last => ?_
    rw [last] at needed
    exact absurd needed (by decide)

end Text

theorem offends_iff_of_other {v : Json} {i : Issue} (other : ∀ members, v ≠ .obj members) :
    Offends v i ↔ i = ⟨.notObject .declaration, [], v⟩ := by
  constructor
  · intro offends
    cases offends with
    | notObject => rfl
    | missing object => exact absurd object (other _)
    | notText _ present | emptyName present | surrogateName present =>
      obtain ⟨members, object⟩ := Json.exists_obj_of_member? present
      exact absurd object (other members)
  · rintro rfl
    exact .notObject other

/-- What is reported of a declaration is what is wrong with it. -/
theorem mem_issues_check (v : Json) (i : Issue) : i ∈ (check v).issues ↔ Offends v i := by
  cases v with
  | obj ms =>
    rw [check, Check.object_obj, members]
    simp only [Validated.issues_seq, Validated.issues_map, List.mem_append]
    constructor
    -- The five parts of the report, one for each member.
    · rintro ((((name | type) | standard) | comment) | reason)
      · rcases Check.mem_issues_required.mp name with ⟨absent, rfl⟩ | ⟨part, present, j, found, rfl⟩
        · exact .missing rfl (by decide) absent
        · rcases Check.mem_issues_properText.mp found with
            ⟨other, rfl⟩ | ⟨rfl, rfl⟩ | ⟨s, rfl, surrogate, rfl⟩
          · exact .notText (by decide) present other fun last => absurd last (by decide)
          · exact .emptyName present
          · exact .surrogateName present surrogate
      · exact .of_text rfl (by decide) type
      · exact .of_text rfl (by decide) standard
      · exact .of_text rfl (by decide) comment
      · obtain ⟨part, present, j, found, rfl⟩ := Check.mem_issues_optional.mp reason
        obtain ⟨given, other, rfl⟩ := Check.mem_issues_textOrNull.mp found
        exact .notText (by decide) present other fun _ => given
    · intro offends
      cases offends with
      | notObject other => exact absurd rfl (other ms)
      | missing _ needed absent =>
        simp only [requiredNames, List.mem_cons, List.not_mem_nil, or_false] at needed
        rcases needed with rfl | rfl | rfl | rfl <;> simp [Check.mem_issues_required, absent]
      | notText known present other given =>
        simp only [memberNames, requiredNames, List.mem_append, List.mem_cons, List.not_mem_nil,
          or_false] at known
        rcases known with (rfl | rfl | rfl | rfl) | rfl
        · simp [Check.mem_issues_required, Check.mem_issues_properText, present, other, Issue.under]
        · simp [Check.mem_issues_required, Check.mem_issues_text, present, other, Issue.under]
        · simp [Check.mem_issues_required, Check.mem_issues_text, present, other, Issue.under]
        · simp [Check.mem_issues_required, Check.mem_issues_text, present, other, Issue.under]
        · simp [Check.mem_issues_optional, Check.mem_issues_textOrNull, present, other, given rfl,
            Issue.under]
      | emptyName present =>
        simp [Check.mem_issues_required, Check.mem_issues_properText, present, Issue.under]
      | surrogateName present surrogate =>
        simp [Check.mem_issues_required, Check.mem_issues_properText, present, surrogate,
          Issue.under]
  | _ =>
    rw [offends_iff_of_other (by simp)]
    exact List.mem_singleton

theorem places_check (v : Json) :
    ((check v).issues.map Issue.place).Sublist (memberNames.map fun name => [.field name]) ∨
      (check v).issues.map Issue.place = [[]] := by
  cases v with
  | obj ms =>
    left
    rw [check, Check.object_obj, members]
    simp only [Validated.issues_seq, Validated.issues_map, List.map_append]
    exact ((((Check.isLocal_properText.places_required _ _).append
      (Check.isLocal_text.places_required _ _)).append
      (Check.isLocal_text.places_required _ _)).append
      (Check.isLocal_text.places_required _ _)).append
      (Check.isLocal_textOrNull.places_optional _ _ _)
  | _ => exact Or.inr rfl

end Declaration

/-- Numbers by their size, and names in the order of the members of a declaration. -/
inductive Step.Precedes : Step → Step → Prop
  | index {m n : Nat} (less : m < n) : Precedes (.index m) (.index n)
  | field {a b : Text} (before : [a, b].Sublist Declaration.memberNames) :
      Precedes (.field a) (.field b)

theorem Step.not_precedes_self (s : Step) : ¬ s.Precedes s := by
  rintro (less | before)
  · exact Nat.lt_irrefl _ less
  · have different : Declaration.memberNames.Nodup := by decide
    exact (List.nodup_cons.mp (different.sublist before)).1 List.mem_cons_self

/-- The place of one issue comes in front of that of the other, step by step. -/
def Issue.Precedes (i j : Issue) : Prop := List.Lex Step.Precedes i.place j.place

theorem Issue.Precedes.under {i j : Issue} (before : i.Precedes j) (s : Step) :
    (i.under s).Precedes (j.under s) := List.Lex.cons before

theorem Issue.nodup_of_pairwise {issues : List Issue} (ordered : issues.Pairwise Issue.Precedes) :
    (issues.map Issue.place).Nodup := by
  refine List.pairwise_map.mpr (ordered.imp fun before same => ?_)
  rw [Issue.Precedes, same] at before
  exact List.lex_irrefl Step.not_precedes_self _ before

theorem Declaration.pairwise_check (v : Json) : (check v).issues.Pairwise Issue.Precedes := by
  have names : (memberNames.map fun name => [Step.field name]).Pairwise (List.Lex Step.Precedes) :=
    List.pairwise_map.mpr (List.pairwise_iff_forall_sublist.mpr fun before => .rel (.field before))
  have ordered : ((check v).issues.map Issue.place).Pairwise (List.Lex Step.Precedes) := by
    rcases places_check v with places | places
    · exact names.sublist places
    · rw [places]
      exact List.pairwise_singleton _ _
  rwa [List.pairwise_map] at ordered

theorem Check.pairwise_itemsFrom {α : Type} {check : Check α}
    (ordered : ∀ v, (check v).issues.Pairwise Issue.Precedes) (n : Nat) (items : List Json) :
    (itemsFrom check n items).issues.Pairwise Issue.Precedes := by
  induction items generalizing n with
  | nil => exact List.Pairwise.nil
  | cons item items ih =>
    rw [itemsFrom, Validated.issues_seq, Validated.issues_map, Validated.issues_under,
      List.pairwise_append]
    refine ⟨List.pairwise_map.mpr ((ordered item).imp fun before => before.under _), ih (n + 1), ?_⟩
    -- The issues of the first item stand under `n`, all later ones under a greater number.
    intro i first j later
    obtain ⟨i, _, rfl⟩ := List.mem_map.mp first
    obtain ⟨k, _, _, j, _, rfl⟩ := mem_issues_itemsFrom.mp later
    exact .rel (.index (by omega))

namespace Request

/-- The JSON forms of requests. -/
structure WellFormed (v : Json) : Prop where
  object : ∃ members, v = .obj members
  configs : ∀ part, v.member? "configs" = some part →
    ∃ items, part = .arr items ∧ ∀ item ∈ items, Declaration.WellFormed item

/-- What is wrong with a value that should be the form of a request, and where. -/
inductive Offends (v : Json) : Issue → Prop
  | notObject (other : ∀ members, v ≠ .obj members) : Offends v ⟨.notObject .request, [], v⟩
  | notList {part : Json} (present : v.member? "configs" = some part)
      (other : ∀ items, part ≠ .arr items) : Offends v ⟨.notList, [.field "configs"], part⟩
  | item {items : List Json} {n : Nat} {item : Json} {i : Issue}
      (present : v.member? "configs" = some (.arr items)) (found : items[n]? = some item)
      (offends : Declaration.Offends item i) :
      Offends v ((i.under (.index n)).under (.field "configs"))

theorem accepts_check (v : Json) : (check v).accepts = true ↔ WellFormed v := by
  cases v with
  | obj ms =>
    rw [check, Check.object_obj, members, Validated.accepts_map, Check.accepts_optional]
    constructor
    · intro accepted
      refine ⟨⟨ms, rfl⟩, fun part present => ?_⟩
      have accepted := accepted part present
      cases part with
      | arr items =>
        have each := Check.accepts_itemsFrom.mp accepted
        exact ⟨items, rfl, fun item among => (Declaration.accepts_check item).mp (each item among)⟩
      | _ => cases accepted
    · rintro ⟨_, configs⟩ part present
      obtain ⟨items, rfl, each⟩ := configs part present
      exact Check.accepts_itemsFrom.mpr fun item among =>
        (Declaration.accepts_check item).mpr (each item among)
  | _ =>
    refine iff_of_false (by simp [check, Check.object]) ?_
    rintro ⟨⟨_, ⟨⟩⟩, _⟩

/-- What is reported of a request is what is wrong with it. -/
theorem mem_issues_check (v : Json) (i : Issue) : i ∈ (check v).issues ↔ Offends v i := by
  cases v with
  | obj ms =>
    rw [check, Check.object_obj, members, Validated.issues_map, Check.mem_issues_optional]
    constructor
    · rintro ⟨part, present, j, found, rfl⟩
      cases part with
      | arr items =>
        obtain ⟨n, item, there, i, reported, rfl⟩ := Check.mem_issues_itemsFrom.mp found
        rw [Nat.zero_add]
        exact .item present there ((Declaration.mem_issues_check item i).mp reported)
      | _ =>
        rw [List.mem_singleton.mp found]
        exact .notList present (by simp)
    · intro offends
      cases offends with
      | notObject other => exact absurd rfl (other ms)
      | @notList part present other =>
        refine ⟨part, present, ⟨.notList, [], part⟩, ?_, rfl⟩
        cases part with
        | arr items => exact absurd rfl (other items)
        | _ => exact List.mem_singleton_self _
      | @item items n item i present found offends =>
        refine ⟨.arr items, present, _, Check.mem_issues_itemsFrom.mpr ?_, rfl⟩
        exact ⟨n, item, found, i, (Declaration.mem_issues_check item i).mpr offends,
          by rw [Nat.zero_add]⟩
  | _ =>
    constructor
    · intro found
      rw [List.mem_singleton.mp found]
      exact .notObject (by simp)
    · intro offends
      cases offends with
      | notObject => exact List.mem_singleton_self _
      | notList present | item present => cases present

theorem pairwise_check (v : Json) : (check v).issues.Pairwise Issue.Precedes := by
  cases v with
  | obj ms =>
    rw [check, Check.object_obj, members, Validated.issues_map, Check.optional]
    cases Json.member? "configs" (.obj ms) with
    | none => exact List.Pairwise.nil
    | some part =>
      have ordered : (Check.arrayOf .notList Declaration.check part).issues.Pairwise
          Issue.Precedes := by
        cases part with
        | arr items => exact Check.pairwise_itemsFrom Declaration.pairwise_check 0 items
        | _ => exact List.pairwise_singleton _ _
      rw [Validated.issues_under]
      exact List.pairwise_map.mpr (ordered.imp fun before => before.under _)
  | _ => exact List.pairwise_singleton _ _

end Request

end LintBook
