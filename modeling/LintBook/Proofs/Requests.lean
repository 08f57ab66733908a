import Mathlib.Logic.Relation
import LintBook.Proofs.Issues
import LintBook.Proofs.JsonForms

/-! Validation of requests is exact: it accepts the well-formed ones, names every offence of the
others at its place, and looks at no member that it has no name for. -/
namespace LintBook

/-- What is wrong and where, without the value that is shown. -/
def Issue.kind (i : Issue) : Problem × List Step := (i.problem, i.place)

/-- Two checks came to the same: the same value, or the same issues up to the values they show. -/
inductive Validated.Agrees {α : Type} : Validated α → Validated α → Prop
  | valid (a : α) : Agrees (.valid a) (.valid a)
  | invalid {issues others : List Issue}
      (same : issues.map Issue.kind = others.map Issue.kind) :
      Agrees (.invalid issues) (.invalid others)

namespace Validated.Agrees

variable {α β : Type} {x y z : Validated α}

theorem refl (x : Validated α) : x.Agrees x := by
  cases x with
  | valid a => exact .valid a
  | invalid issues => exact .invalid rfl

theorem symm (same : x.Agrees y) : y.Agrees x := by
  cases same with
  | valid a => exact .valid a
  | invalid same => exact .invalid same.symm

theorem trans (first : x.Agrees y) (second : y.Agrees z) : x.Agrees z := by
  cases first with
  | valid a => exact second
  | invalid first =>
    cases second with
    | invalid second => exact .invalid (first.trans second)

theorem map (f : α → β) (same : x.Agrees y) : (f <$> x).Agrees (f <$> y) := by
  cases same with
  | valid a => exact .valid (f a)
  | invalid same => exact .invalid same

theorem seq {f g : Validated (α → β)} (functions : f.Agrees g) (same : x.Agrees y) :
    (f <*> x).Agrees (g <*> y) := by
  cases functions with
  | valid h =>
    cases same with
    | valid a => exact .valid (h a)
    | invalid same => exact .invalid same
  | invalid first =>
    cases same with
    | valid a => exact .invalid first
    | invalid same => exact .invalid (by rw [List.map_append, List.map_append, first, same])

theorem under (s : Step) (same : x.Agrees y) : (x.under s).Agrees (y.under s) := by
  cases same with
  | valid a => exact .valid a
  | @invalid issues others same =>
    have moved (issues : List Issue) : (issues.map (Issue.under s)).map Issue.kind =
        (issues.map Issue.kind).map fun kind => (kind.1, s :: kind.2) := by
      rw [List.map_map, List.map_map]
      rfl
    exact .invalid (by rw [moved, moved, same])

end Validated.Agrees

namespace Request

/-- The names of members that mean something in an object, by its place in a request. -/
inductive Knows : List Step → Text → Prop
  | configs : Knows [] "configs"
  | member {n : Nat} {name : Text} (known : name ∈ Declaration.memberNames) :
      Knows [.field "configs", .index n] name

/-- The second value is the first one, which stands at `place`, with one more member in some object
at any depth. The name of the member means nothing where it stands. -/
inductive Gains : List Step → Json → Json → Prop
  | here {place : List Step} {before after : List (Text × Json)} {name : Text} {part : Json}
      (unknown : ¬ Knows place name) :
      Gains place (.obj (before ++ after)) (.obj (before ++ (name, part) :: after))
  | inMember {place : List Step} {before after : List (Text × Json)} {name : Text} {v w : Json}
      (inner : Gains (place ++ [.field name]) v w) :
      Gains place (.obj (before ++ (name, v) :: after)) (.obj (before ++ (name, w) :: after))
  | inItem {place : List Step} {before after : List Json} {v w : Json}
      (inner : Gains (place ++ [.index before.length]) v w) :
      Gains place (.arr (before ++ v :: after)) (.arr (before ++ w :: after))

variable {place : List Step} {v w : Json}

theorem Gains.containers (gains : Gains place v w) :
    (∃ members others, v = .obj members ∧ w = .obj others) ∨
      ∃ items others, v = .arr items ∧ w = .arr others := by
  cases gains with
  | here | inMember => exact Or.inl ⟨_, _, rfl, rfl⟩
  | inItem => exact Or.inr ⟨_, _, rfl, rfl⟩

/-- A member whose name means something is there in both or in neither, and at most has gained a
member itself. -/
theorem Gains.member? {name : Text} (gains : Gains place v w) (known : Knows place name) :
    Option.Rel (Relation.ReflGen (Gains (place ++ [.field name]))) (v.member? name)
      (w.member? name) := by
  have same (part : Option Json) :
      Option.Rel (Relation.ReflGen (Gains (place ++ [.field name]))) part part := by
    cases part with
    | none => exact .none
    | some part => exact .some .refl
  cases gains with
  | @here _ before after other part unknown =>
    have different : (name == other) = false :=
      beq_eq_false_iff_ne.mpr fun same => unknown (same ▸ known)
    simp only [Json.member?, List.lookup_append, List.lookup_cons, different]
    exact same _
  | @inMember _ before after other part part' inner =>
    simp only [Json.member?, List.lookup_append]
    -- A member of this name further to the front hides the one that has changed.
    cases before.lookup name with
    | some found => exact .some .refl
    | none =>
      by_cases this : name = other
      · subst this
        rw [List.lookup_cons_self, List.lookup_cons_self]
        exact .some (.single inner)
      · simp only [List.lookup_cons, beq_eq_false_iff_ne.mpr this]
        exact same _
  | inItem => exact .none

end Request

namespace Check

open Request (Gains)

variable {α : Type} {check : Check α} {place : List Step} {v w : Json}

/-- A check that takes no object and no array for what it asks for does not look into them. -/
theorem agrees_of_refuse (check : Check α) {p : Problem}
    (objects : ∀ members, check (.obj members) = .refuse p (.obj members))
    (arrays : ∀ items, check (.arr items) = .refuse p (.arr items))
    (gains : Relation.ReflGen (Gains place) v w) : (check v).Agrees (check w) := by
  cases gains with
  | refl => exact .refl _
  | single gains =>
    rcases gains.containers with ⟨members, others, rfl, rfl⟩ | ⟨items, others, rfl, rfl⟩
    · rw [objects, objects]
      exact .invalid rfl
    · rw [arrays, arrays]
      exact .invalid rfl

section Members

variable {R : Json → Json → Prop} {name : String}
  (found : Option.Rel R (v.member? name) (w.member? name))
  (parts : ∀ {a b}, R a b → (check a).Agrees (check b))

include found parts

theorem required_agrees : (required name check v).Agrees (required name check w) := by
  rw [required, required]
  generalize v.member? name = before, w.member? name = after at found ⊢
  cases found with
  | none => exact .invalid rfl
  | some related => exact (parts related).under _

theorem optional_agrees {absent : α} :
    (optional name absent check v).Agrees (optional name absent check w) := by
  rw [optional, optional]
  generalize v.member? name = before, w.member? name = after at found ⊢
  cases found with
  | none => exact .refl _
  | some related => exact (parts related).under _

end Members

theorem itemsFrom_agrees (same : (check v).Agrees (check w)) (before after : List Json) (n : Nat) :
    (itemsFrom check n (before ++ v :: after)).Agrees
      (itemsFrom check n (before ++ w :: after)) := by
  induction before generalizing n with
  | nil => exact ((same.under _).map _).seq (.refl _)
  | cons item before ih => exact .seq (.refl _) (ih (n + 1))

end Check

open Request (Gains)

theorem Declaration.check_agrees {n : Nat} {v w : Json}
    (gains : Gains [.field "configs", .index n] v w) : (check v).Agrees (check w) := by
  rcases gains.containers with ⟨ms, others, rfl, rfl⟩ | ⟨items, others, rfl, rfl⟩
  · have found {name : Text} (known : name ∈ memberNames) := gains.member? (.member known)
    have name : (Check.required "name" Check.properText (.obj ms)).Agrees
        (Check.required "name" Check.properText (.obj others)) :=
      Check.required_agrees (found (by decide))
        (Check.agrees_of_refuse Check.properText (fun _ => rfl) (fun _ => rfl))
    have text {name : String} (known : (name : Text) ∈ memberNames) :
        (Check.required name Check.text (.obj ms)).Agrees
          (Check.required name Check.text (.obj others)) :=
      Check.required_agrees (found known)
        (Check.agrees_of_refuse Check.text (fun _ => rfl) (fun _ => rfl))
    have reason : (Check.optional "deprecation_reason" none Check.textOrNull (.obj ms)).Agrees
        (Check.optional "deprecation_reason" none Check.textOrNull (.obj others)) :=
      Check.optional_agrees (found (by decide))
        (Check.agrees_of_refuse Check.textOrNull (fun _ => rfl) (fun _ => rfl))
    exact ((((name.map _).seq (text (by decide))).seq (text (by decide))).seq
      (text (by decide))).seq reason
  · exact .invalid rfl

namespace Request

variable {v w : Json}

theorem configs_agrees (gains : Relation.ReflGen (Gains [.field "configs"]) v w) :
    (Check.arrayOf .notList Declaration.check v).Agrees
      (Check.arrayOf .notList Declaration.check w) := by
  cases gains with
  | refl => exact .refl _
  | single gains =>
    cases gains with
    -- An object in place of the list is refused, whatever its members are.
    | here | inMember => exact .invalid rfl
    | inItem inner => exact Check.itemsFrom_agrees (Declaration.check_agrees inner) _ _ 0

theorem check_agrees (gains : Gains [] v w) : (check v).Agrees (check w) := by
  rcases gains.containers with ⟨ms, others, rfl, rfl⟩ | ⟨items, others, rfl, rfl⟩
  · exact (Check.optional_agrees (gains.member? .configs) configs_agrees).map _
  · exact .invalid rfl

/-- Adding and removing members without a meaning makes no difference, however often. -/
theorem check_agrees_of_eqvGen (related : Relation.EqvGen (Gains []) v w) :
    (check v).Agrees (check w) := by
  induction related with
  | rel v w gains => exact check_agrees gains
  | refl v => exact .refl _
  | symm v w _ ih => exact ih.symm
  | trans u v w _ _ first second => exact first.trans second

/-- The same request, or two refusals for the same problems at the same places. -/
inductive SameVerdict : Except Refusal Request → Except Refusal Request → Prop
  | accepted (request : Request) : SameVerdict (.ok request) (.ok request)
  | refused {refusal other : Refusal}
      (same : refusal.issues.map Issue.kind = other.issues.map Issue.kind) :
      SameVerdict (.error refusal) (.error other)

theorem sameVerdict_of_agrees {x y : Validated Request} (same : x.Agrees y) :
    SameVerdict (x.toExcept .request) (y.toExcept .request) := by
  cases same with
  | valid request => exact .accepted request
  | invalid same => exact .refused same

theorem exists_ofJson_iff (v : Json) : (∃ request, ofJson v = .ok request) ↔ WellFormed v := by
  simp only [ofJson, Validated.toExcept_eq_ok_iff, ← accepts_check, Validated.accepts_iff]

theorem issues_of_ofJson {refusal : Refusal} (refused : ofJson v = .error refusal) :
    refusal.issues = (check v).issues := by
  rw [ofJson] at refused
  cases checked : check v with
  | valid request =>
    rw [checked] at refused
    cases refused
  | invalid issues =>
    rw [checked] at refused
    cases refused
    rfl

/-- Validation of a request is exact. It accepts the well-formed values and no others. Of any other
value it reports every offence once, at its place, and in the order of the places. Members that
mean nothing where they stand change neither the verdict nor what is reported, and the JSON form of
an accepted request stands for that request. -/
theorem ofJson_exact (v : Json) :
    ((∃ request, ofJson v = .ok request) ↔ WellFormed v) ∧
      (∀ refusal, ofJson v = .error refusal →
        (∀ i, i ∈ refusal.issues ↔ Offends v i) ∧ (refusal.issues.map Issue.place).Nodup ∧
          refusal.issues.Pairwise Issue.Precedes) ∧
      (∀ w, Relation.EqvGen (Gains []) v w → SameVerdict (ofJson v) (ofJson w)) ∧
      ∀ request, ofJson v = .ok request → ofJson request.toJson = .ok request := by
  refine ⟨exists_ofJson_iff v, fun refusal refused => ?_, fun w related => ?_,
    fun request accepted => ?_⟩
  · rw [issues_of_ofJson refused]
    have ordered := pairwise_check v
    exact ⟨mem_issues_check v, Issue.nodup_of_pairwise ordered, ordered⟩
  · exact sameVerdict_of_agrees (check_agrees_of_eqvGen related)
  · exact ofJson_toJson (names_of_ofJson accepted)

/-- A refused request whose first item has several offences and gains a member that is not known,
and an accepted one. -/
theorem ofJson_exact_padded :
    let before : List (Text × Json) := [("name", .str []), ("config_type", .null)]
    let after : List (Text × Json) := [("doc_comment", .str [])]
    let padding : Text × Json := ("config type", .str "usize")
    let request (config : List (Text × Json)) : Json :=
      .obj [("configs", .arr [.obj config, .bool true])]
    let bare := request (before ++ after)
    let padded := request (before ++ padding :: after)
    ¬ WellFormed bare ∧
      Offends bare ⟨.notObject .declaration, [.field "configs", .index 1], .bool true⟩ ∧
      (∃ refusal other, ofJson bare = .error refusal ∧ ofJson padded = .error other ∧
        SameVerdict (.error refusal) (.error other) ∧
        other.issues.map Issue.kind =
          [(.emptyText, [.field "configs", .index 0, .field "name"]),
            (.notText, [.field "configs", .index 0, .field "config_type"]),
            (.missing, [.field "configs", .index 0, .field "default"]),
            (.notObject .declaration, [.field "configs", .index 1])]) ∧
      ∃ empty, ofJson (.obj after) = .ok empty ∧ ofJson empty.toJson = .ok empty := by
  intro before after padding request bare padded
  have unknown : ¬ Knows [.field "configs", .index 0] padding.1 := by
    intro known
    cases known with
    | member known => exact absurd known (by decide)
  have gains : Gains [] bare padded := by
    refine @Gains.inMember _ [] [] _ _ _ (@Gains.inItem _ [] _ _ _ ?_)
    exact .here unknown
  obtain ⟨refusal, refused⟩ : ∃ refusal, ofJson bare = .error refusal := ⟨_, rfl⟩
  obtain ⟨other, refused'⟩ : ∃ other, ofJson padded = .error other := ⟨_, rfl⟩
  obtain ⟨empty, accepted⟩ : ∃ empty, ofJson (.obj after) = .ok empty := ⟨_, rfl⟩
  obtain ⟨exact, reported, same, _⟩ := ofJson_exact bare
  refine ⟨?_, ?_, ⟨refusal, other, refused, refused', ?_, ?_⟩, empty, accepted, ?_⟩
  · rw [← exact, refused]
    rintro ⟨_, ⟨⟩⟩
  · have last : (check bare).issues[3]? =
        some ⟨.notObject .declaration, [.field "configs", .index 1], .bool true⟩ := rfl
    rw [← (reported refusal refused).1, issues_of_ofJson refused]
    exact List.mem_of_getElem? last
  · rw [← refused, ← refused']
    exact same padded (.rel _ _ gains)
  · rw [issues_of_ofJson refused']
    decide
  · exact (ofJson_exact (.obj after)).2.2.2 empty accepted

end Request

end LintBook
