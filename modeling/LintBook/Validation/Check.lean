import LintBook.Validation.Issue

/-! Checks of JSON values. A check of several parts reports the issues of all of them, in the order
of the parts. -/
namespace LintBook

/-- A checked value, or what is wrong with it. -/
inductive Validated (α : Type)
  | valid (a : α)
  | invalid (issues : List Issue)

namespace Validated

instance : Applicative Validated where
  pure := valid
  seq f x :=
    match f, x () with
    | valid f, valid a => valid (f a)
    | valid _, invalid issues => invalid issues
    | invalid issues, valid _ => invalid issues
    | invalid issues, invalid more => invalid (issues ++ more)

def refuse {α : Type} (p : Problem) (v : Json) : Validated α := invalid [⟨p, [], v⟩]

/-- The check of a part that stands at `s`. -/
def under {α : Type} (s : Step) : Validated α → Validated α
  | valid a => valid a
  | invalid issues => invalid (issues.map (Issue.under s))

def toExcept {α : Type} (form : Form) : Validated α → Except Refusal α
  | valid a => .ok a
  | invalid issues => .error ⟨form, issues⟩

end Validated

abbrev Check (α : Type) := Json → Validated α

namespace Check

def text : Check Text
  | .str s => .valid s
  | v => .refuse .notText v

/-- A text with at least one character and no surrogate. -/
def properText : Check Text
  | .str s =>
    if s = [] then .refuse .emptyText (.str s)
    else if s.isScalar then .valid s
    else .refuse .unpairedSurrogate (.str s)
  | v => .refuse .notText v

def textOrNull : Check (Option Text)
  | .null => .valid none
  | .str s => .valid (some s)
  | v => .refuse .notText v

/-- Every item by the same check, numbered from `n`. -/
def itemsFrom {α : Type} (check : Check α) (n : Nat) : List Json → Validated (List α)
  | [] => pure []
  | v :: rest => List.cons <$> (check v).under (.index n) <*> itemsFrom check (n + 1) rest

def arrayOf {α : Type} (problem : Problem) (check : Check α) : Check (List α)
  | .arr items => itemsFrom check 0 items
  | v => .refuse problem v

def required {α : Type} (name : String) (check : Check α) : Check α := fun v =>
  match v.member? name with
  | some part => (check part).under (.field name)
  | none => .invalid [⟨.missing, [.field name], v⟩]

def optional {α : Type} (name : String) (absent : α) (check : Check α) : Check α := fun v =>
  match v.member? name with
  | some part => (check part).under (.field name)
  | none => .valid absent

/-- An object whose members pass a check; members that the check does not ask for do not matter. -/
def object {α : Type} (form : Form) (check : Check α) : Check α
  | .obj members => check (.obj members)
  | v => .refuse (.notObject form) v

end Check

end LintBook
