import LintBook.Schema

/-! What an accepted value says of its parts: a check of several parts accepts only if each part was
accepted. -/
namespace LintBook

namespace Validated

variable {α β : Type}

theorem map_eq_valid {f : α → β} {x : Validated α} {b : β} (accepted : f <$> x = valid b) :
    ∃ a, x = valid a ∧ f a = b := by
  cases x with
  | valid a => exact ⟨a, rfl, valid.inj accepted⟩
  | invalid issues => cases accepted

theorem seq_eq_valid {f : Validated (α → β)} {x : Validated α} {b : β}
    (accepted : f <*> x = valid b) : ∃ g a, f = valid g ∧ x = valid a ∧ g a = b := by
  cases f with
  | valid g =>
    cases x with
    | valid a => exact ⟨g, a, rfl, rfl, valid.inj accepted⟩
    | invalid issues => cases accepted
  | invalid issues => cases x <;> cases accepted

theorem under_eq_valid_iff {s : Step} {x : Validated α} {a : α} :
    x.under s = valid a ↔ x = valid a := by
  cases x <;> simp [under]

theorem toExcept_eq_ok_iff {form : Form} {x : Validated α} {a : α} :
    x.toExcept form = .ok a ↔ x = valid a := by
  cases x <;> simp [toExcept]

end Validated

namespace Check

variable {α : Type} {check : Check α} {v : Json}

theorem properText_eq_valid {s : Text} (accepted : properText v = .valid s) :
    s ≠ [] ∧ s.isScalar = true := by
  cases v with
  | str t =>
    rw [properText] at accepted
    split at accepted
    · cases accepted
    · rename_i nonempty
      split at accepted
      · rename_i scalar
        exact Validated.valid.inj accepted ▸ ⟨nonempty, scalar⟩
      · cases accepted
  | _ => cases accepted

theorem required_eq_valid {name : String} {a : α} (accepted : required name check v = .valid a) :
    ∃ part, v.member? name = some part ∧ check part = .valid a := by
  rw [required] at accepted
  cases found : v.member? name with
  | none =>
    rw [found] at accepted
    cases accepted
  | some part =>
    rw [found] at accepted
    exact ⟨part, rfl, Validated.under_eq_valid_iff.mp accepted⟩

theorem optional_eq_valid {name : String} {absent a : α}
    (accepted : optional name absent check v = .valid a) :
    a = absent ∨ ∃ part, v.member? name = some part ∧ check part = .valid a := by
  rw [optional] at accepted
  cases found : v.member? name with
  | none =>
    rw [found] at accepted
    exact Or.inl (Validated.valid.inj accepted).symm
  | some part =>
    rw [found] at accepted
    exact Or.inr ⟨part, rfl, Validated.under_eq_valid_iff.mp accepted⟩

theorem mem_of_itemsFrom_eq_valid {n : Nat} {items : List Json} {as : List α}
    (accepted : itemsFrom check n items = .valid as) {a : α} (among : a ∈ as) :
    ∃ item ∈ items, check item = .valid a := by
  induction items generalizing n as with
  | nil =>
    obtain rfl := Validated.valid.inj accepted
    cases among
  | cons item items ih =>
    obtain ⟨_, later, front, rest, rfl⟩ := Validated.seq_eq_valid accepted
    obtain ⟨first, checked, rfl⟩ := Validated.map_eq_valid front
    rcases List.mem_cons.mp among with rfl | among
    · exact ⟨item, List.mem_cons_self, Validated.under_eq_valid_iff.mp checked⟩
    · obtain ⟨other, inside, passed⟩ := ih rest among
      exact ⟨other, List.mem_cons_of_mem item inside, passed⟩

theorem mem_of_arrayOf_eq_valid {problem : Problem} {as : List α}
    (accepted : arrayOf problem check v = .valid as) {a : α} (among : a ∈ as) :
    ∃ item, check item = .valid a := by
  cases v with
  | arr items =>
    obtain ⟨item, _, passed⟩ := mem_of_itemsFrom_eq_valid accepted among
    exact ⟨item, passed⟩
  | _ => cases accepted

theorem object_eq_valid {form : Form} {a : α} (accepted : object form check v = .valid a) :
    check v = .valid a := by
  cases v with
  | obj members => exact accepted
  | _ => cases accepted

end Check

/-- The name of an accepted declaration can be shown; its other texts may be any. -/
theorem Declaration.name_of_check {v : Json} {d : Declaration} (accepted : check v = .valid d) :
    d.name ≠ [] ∧ d.name.isScalar = true := by
  have members := Check.object_eq_valid accepted
  obtain ⟨_, reason, four, _, rfl⟩ := Validated.seq_eq_valid members
  obtain ⟨_, comment, three, _, rfl⟩ := Validated.seq_eq_valid four
  obtain ⟨_, standard, two, _, rfl⟩ := Validated.seq_eq_valid three
  obtain ⟨_, type, one, _, rfl⟩ := Validated.seq_eq_valid two
  obtain ⟨name, named, rfl⟩ := Validated.map_eq_valid one
  obtain ⟨_, _, proper⟩ := Check.required_eq_valid named
  exact Check.properText_eq_valid proper

namespace Request

variable {v : Json} {request : Request}

theorem names_of_ofJson (accepted : ofJson v = .ok request) :
    ∀ d ∈ request.declarations, d.name ≠ [] ∧ d.name.isScalar = true := by
  intro d among
  have members := Check.object_eq_valid (Validated.toExcept_eq_ok_iff.mp accepted)
  obtain ⟨declarations, configs, rfl⟩ := Validated.map_eq_valid members
  rcases Check.optional_eq_valid configs with rfl | ⟨_, _, array⟩
  · cases among
  · obtain ⟨_, passed⟩ := Check.mem_of_arrayOf_eq_valid array among
    exact Declaration.name_of_check passed

theorem names_of_ofUpload (accepted : ofUpload v = .ok request) :
    ∀ d ∈ request.declarations, d.name ≠ [] ∧ d.name.isScalar = true := by
  cases v with
  | arr items => exact names_of_ofJson accepted
  | _ => exact names_of_ofJson accepted

end Request

end LintBook
