import LintBook.CodePoint.Digit
import LintBook.Text.Basic

/-! Integers in the digits of any script: blanks around, a sign, and single underscores between
digits are allowed. -/
namespace LintBook.Text

/-- The most digits that are read, leading zeros included. -/
def integerDigitLimit : Nat := 4300

/-- The digits of a text in which single underscores may stand between them. -/
def digits? : Text → Option (List Nat)
  | [] => none
  | [c] => c.digit?.map fun d => [d]
  | c :: d :: rest =>
    c.digit?.bind fun n =>
      (if d = '_' then digits? rest else digits? (d :: rest)).map fun ns => n :: ns

/-- The number of digits and underscores, if the digits are not too many. -/
def natural? (t : Text) : Option Nat :=
  (digits? t).bind fun ns =>
    if ns.length ≤ integerDigitLimit then some (ns.foldl (fun n d => 10 * n + d) 0) else none

def integer? (t : Text) : Option Int :=
  match strip t with
  | [] => none
  | c :: rest =>
    if c = '-' then (natural? rest).map fun n => -(n : Int)
    else if c = '+' then (natural? rest).map fun n => (n : Int)
    else (natural? (c :: rest)).map fun n => (n : Int)

end LintBook.Text
