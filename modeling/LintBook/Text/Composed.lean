import LintBook.CodePoint.Mark
import LintBook.Text.Basic
import LintBook.Text.Composites

/-! Composed form: every base has taken the marks that it can, and the other marks stand in the
order of their classes. Hangul is left out of account: syllables are taken whole. -/
namespace LintBook.Text

def composite? (base mark : CodePoint) : Option CodePoint :=
  (composites.lookup mark.val).bind fun ps => (ps.lookup base.val).bind CodePoint.ofNat?

def parts? (c : CodePoint) : Option (CodePoint × CodePoint) :=
  composites.findSome? fun (mark, pairs) =>
    (pairs.find? fun (_, whole) => whole = c.val).bind fun (base, _) =>
      (CodePoint.ofNat? base).bind fun base => (CodePoint.ofNat? mark).map fun mark => (base, mark)

/-- The most marks that a composite has taken. -/
def markLimit : Nat := 3

/-- A character without the marks that it has taken, which follow it. -/
def decomposeChar : (marks : Nat) → CodePoint → Text
  | 0, c => [c]
  | marks + 1, c =>
    match parts? c with
    | none => [c]
    | some (base, mark) => decomposeChar marks base ++ [mark]

/-- Puts a character in front of a text in order, behind the marks that go before it. -/
def place (c : CodePoint) : Text → Text
  | [] => [c]
  | d :: rest =>
    if 0 < d.combiningClass ∧ d.combiningClass < c.combiningClass then d :: place c rest
    else c :: d :: rest

/-- The marks behind each character in the order of their classes; those of one class keep their
order. -/
def orderMarks (t : Text) : Text := t.foldr place []

/-- Composes the characters that follow a base and marks that it has not taken, which are in
reverse order. A mark is out of reach behind one whose class is not lower. -/
def composeAfter (base : CodePoint) (marks : Text) : Text → Text
  | [] => base :: marks.reverse
  | c :: rest =>
    let reached := marks.head?.all fun m => m.combiningClass < c.combiningClass
    match if reached then composite? base c else none with
    | some whole => composeAfter whole marks rest
    | none =>
      if c.combiningClass = 0 then base :: (marks.reverse ++ composeAfter c [] rest)
      else composeAfter base (c :: marks) rest

def compose : Text → Text
  | [] => []
  | c :: rest => composeAfter c [] rest

def isComposed (t : Text) : Bool :=
  !(t.any fun c => c.isIn replaced) &&
    compose (orderMarks (t.flatMap (decomposeChar markLimit))) = t

end LintBook.Text
