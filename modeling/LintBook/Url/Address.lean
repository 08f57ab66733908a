import LintBook.Text.Basic

/-! Addresses in numbers: four octets, or eight groups of hexadecimal digits, of which one run of
zero groups may be left out. -/
namespace LintBook.Url.Address

def isOctet (t : Text) : Bool :=
  t ≠ [] && t.all CodePoint.isAsciiDigit && t.length ≤ 3 &&
    (t.length = 1 || t.head? ≠ some ('0' : Char)) &&
    t.foldl (fun n d => 10 * n + (d.val - 0x30)) 0 ≤ 255

def isFour (t : Text) : Bool :=
  let octets := Text.split '.' t
  octets.length = 4 && octets.all isOctet

/-- The states that a reader of four runs of digits, with any one character between each two, may
reach by a character. It waits for a run in an even state, and is in one in an odd state. -/
def stepFour (c : CodePoint) (state : Nat) : List Nat :=
  if state % 2 = 0 then if c.isAsciiDigit then [state + 1] else []
  else (if c.isAsciiDigit then [state] else []) ++ (if state < 7 then [state + 1] else [])

/-- Whether a text looks like four numbers: four runs of digits with any one character between each
two. -/
def resemblesFour (t : Text) : Bool :=
  (t.foldl (fun states c => (states.flatMap (stepFour c)).eraseDups) [0]).contains 7

/-- One to four hexadecimal digits. -/
def isGroup (t : Text) : Bool := t ≠ [] && t.length ≤ 4 && t.all fun c => c.hexDigit?.isSome

/-- How many groups stand on one side of those that are left out, which may be none. -/
def sideLength? (groups : List Text) : Option Nat :=
  if groups = [[]] then some 0 else if groups.all isGroup then some groups.length else none

/-- The groups of a text between colons, where four octets at the end are two groups. -/
def groups? (t : Text) : Option (List Text) :=
  let groups := Text.split ':' t
  match groups.getLast? with
  | none => none
  | some last =>
    if groups.length < 3 then none
    else if last.contains ('.' : Char) then
      if isFour last then some (groups.dropLast ++ [Text.ofString "0", Text.ofString "0"]) else none
    else some groups

/-- Eight groups, or fewer around a place where at least one is left out. A gap at either end takes
an empty group more. -/
def isEightGroups (groups : List Text) : Bool :=
  let inner := groups.tail.dropLast
  if inner.contains [] then
    let before := groups.take ((inner.takeWhile fun (g : Text) => g ≠ []).length + 1)
    match sideLength? before, sideLength? (groups.drop (before.length + 1)) with
    | some m, some n => m + n ≤ 7
    | _, _ => false
  else groups.length = 8 && groups.all isGroup

/-- Groups, and a zone behind a percent sign if there is one. -/
def isEight (t : Text) : Bool :=
  let address := t.takeWhile fun (c : CodePoint) => c ≠ '%'
  let zoned := match t.drop address.length with
    | [] => true
    | _ :: zone => zone ≠ [] && !zone.contains ('%' : Char)
  zoned && (groups? address).any isEightGroups

end LintBook.Url.Address
