import LintBook.Text.Basic
import LintBook.Number.Binary64

/-! JSON values. Integers keep every digit and are apart from floating-point numbers; the members
of an object have different names. -/
namespace LintBook

inductive Json
  | null
  | bool (b : Bool)
  | int (n : Int)
  | float (x : Binary64)
  | str (s : Text)
  | arr (items : List Json)
  | obj (members : List (Text × Json))
deriving Inhabited

namespace Json

def member? (name : Text) : Json → Option Json
  | obj members => members.lookup name
  | _ => none

/-- A member list in which `name` has the value `v`: at its place if it has one, else in front. -/
def put (name : Text) (v : Json) (members : List (Text × Json)) : List (Text × Json) :=
  if members.any fun (known, _) => known = name then
    members.map fun (known, w) => if known = name then (known, v) else (known, w)
  else (name, v) :: members

def object (members : List (String × Json)) : Json :=
  obj (members.map fun (name, v) => (Text.ofString name, v))

def ofText? : Option Text → Json
  | none => null
  | some t => str t

def ofString (s : String) : Json := str (Text.ofString s)

mutual

/-- Every number of the value is finite and every text, names included, is free of surrogates. -/
def isPlain : Json → Bool
  | null | bool _ | int _ => true
  | float x => x.isFinite
  | str s => s.isScalar
  | arr items => allPlain items
  | obj members => membersPlain members

def allPlain : List Json → Bool
  | [] => true
  | v :: rest => isPlain v && allPlain rest

def membersPlain : List (Text × Json) → Bool
  | [] => true
  | (name, v) :: rest => name.isScalar && isPlain v && membersPlain rest

end

mutual

/-- The value without the members, at any depth, whose names are `hidden`. -/
def withoutMembers (hidden : Text → Bool) : Json → Json
  | arr items => arr (itemsWithout hidden items)
  | obj members => obj (membersWithout hidden members)
  | v => v

def itemsWithout (hidden : Text → Bool) : List Json → List Json
  | [] => []
  | v :: rest => withoutMembers hidden v :: itemsWithout hidden rest

def membersWithout (hidden : Text → Bool) : List (Text × Json) → List (Text × Json)
  | [] => []
  | (name, v) :: rest =>
    if hidden name then membersWithout hidden rest
    else (name, withoutMembers hidden v) :: membersWithout hidden rest

end

end Json

end LintBook
