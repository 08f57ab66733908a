import LintBook.Text.Basic
import LintBook.Number.Binary64

/-! The decimal text of a binary64 number: the fewest digits that read back as the same number,
and of those the nearest to it. -/
namespace LintBook.Binary64

/-- The number of places before the decimal point: `10 ^ (p - 1) ≤ num / den < 10 ^ p`. -/
def decimalPlace (num den : Nat) : Int :=
  let p : Int := (digitCount num : Int) - digitCount den
  let (n, d) := unscale 10 num den p
  if d ≤ n then p + 1 else p

structure Decimal where
  digits : Nat
  exponent : Int

/-- The nearer of the two neighbours of `num / den` on the grid of `10 ^ exponent` that satisfy
`reads`, if either does. -/
def Decimal.neighbour? (reads : Decimal → Bool) (num den : Nat) (exponent : Int) : Option Decimal :=
  let (n, d) := unscale 10 num den exponent
  let below : Decimal := ⟨n / d, exponent⟩
  let above : Decimal := ⟨n / d + 1, exponent⟩
  let nearest := roundHalfEven n d
  let (first, second) := if nearest = n / d then (below, above) else (above, below)
  [first, second].find? reads

/-- The shortest decimal that reads back as the number; seventeen digits are always enough. -/
def shortest (significand : Nat) (exponent : Int) : Decimal :=
  let (num, den) := unscale 2 significand 1 (-exponent)
  let place := decimalPlace num den
  let reads (d : Decimal) : Bool :=
    decide (ofDecimal false d.digits d.exponent = finite false significand exponent)
  ((List.range 17).findSome? fun (count : Nat) =>
    Decimal.neighbour? reads num den (place - (count + 1))).getD ⟨0, 0⟩

/-- How a number is laid out: positional where the place of its point lies above `low` and not above
`high`, else with an exponent of at least `exponentDigits` digits. -/
structure Layout where
  low : Int
  high : Int
  exponentDigits : Nat

/-- Positional from 0.0001 to below 10^16; two digits at least in an exponent. -/
def layout : Layout := ⟨-4, 16, 2⟩

def zeros (n : Nat) : Text := List.replicate n '0'

/-- The digits of a decimal, without zeros at the end, and the place of its point. -/
def Decimal.split (d : Decimal) : Text × Int :=
  let digits := Text.ofNat d.digits
  let kept := (digits.reverse.dropWhile fun (c : CodePoint) => c = '0').reverse
  (kept, digits.length + d.exponent)

/-- A whole number keeps a point and a zero in positional form. -/
def Layout.write (l : Layout) (digits : Text) (point : Int) : Text :=
  if l.low < point ∧ point ≤ l.high then
    if point ≤ 0 then ("0." : Text) ++ zeros (-point).toNat ++ digits
    else
      let whole := digits.take point.toNat
      let fraction := digits.drop point.toNat
      whole ++ zeros (point.toNat - whole.length) ++ ("." : Text) ++
        (if fraction = [] then ("0" : Text) else fraction)
  else
    let e := point - 1
    let power := Text.ofNat e.natAbs
    digits.take 1 ++ (if digits.length ≤ 1 then [] else ("." : Text) ++ digits.drop 1) ++
      (if e < 0 then ("e-" : Text) else ("e+" : Text)) ++
      zeros (l.exponentDigits - power.length) ++ power

def text : Binary64 → Text
  | nan => "nan"
  | infinite negative => if negative then "-inf" else "inf"
  | finite negative significand exponent =>
    let unsigned : Text :=
      if significand = 0 then "0.0"
      else
        let (digits, point) := (shortest significand exponent).split
        layout.write digits point
    if negative then '-' :: unsigned else unsigned

end LintBook.Binary64
