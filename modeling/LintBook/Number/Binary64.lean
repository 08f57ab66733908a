/-! Binary64 numbers, and exact rounding of a decimal to the nearest one. -/
namespace LintBook

/-- A binary64 number. A finite one is `± significand * 2 ^ exponent`; those that `ofRatio` builds
have a significand below `2 ^ 53` and an exponent from -1074 to 971. -/
inductive Binary64
  | nan
  | infinite (negative : Bool)
  | finite (negative : Bool) (significand : Nat) (exponent : Int)
deriving DecidableEq

namespace Binary64

/-- The integer nearest to `num / den`; of two equally near ones the even one. -/
def roundHalfEven (num den : Nat) : Nat :=
  let q := num / den
  let r := 2 * (num % den)
  if r < den then q else if den < r then q + 1 else q + q % 2

/-- `num / den / base ^ e` as a ratio. -/
def unscale (base num den : Nat) (e : Int) : Nat × Nat :=
  if 0 ≤ e then (num, den * base.pow e.toNat) else (num * base.pow (-e).toNat, den)

def significandBound : Nat := 0x20000000000000

/-- The exponent at which `num / den` has a significand of fifty-three bits, but at least the
smallest one. -/
def exponentFor (num den : Nat) : Int :=
  let guess : Int := (num.log2 : Int) - den.log2 - 53
  let e : Int := if guess < -1074 then -1074 else guess
  let (n, d) := unscale 2 num den e
  if significandBound ≤ n / d then e + 1 else e

/-- The number nearest to `± num / den`; of two equally near ones that with an even significand. -/
def ofRatio (negative : Bool) (num den : Nat) : Binary64 :=
  if num = 0 then finite negative 0 (-1074)
  else
    let e := exponentFor num den
    let (n, d) := unscale 2 num den e
    let m := roundHalfEven n d
    let (m, e) := if m = significandBound then (m / 2, e + 1) else (m, e)
    if 971 < e then infinite negative else finite negative m e

def digitCount (n : Nat) : Nat := (Nat.toDigits 10 n).length

/-- The number nearest to `± digits * 10 ^ exponent`. Beyond four hundred places either way the
answer is known without computing the power. -/
def ofDecimal (negative : Bool) (digits : Nat) (exponent : Int) : Binary64 :=
  let place : Int := digitCount digits + exponent
  if digits = 0 ∨ place < -400 then finite negative 0 (-1074)
  else if 400 < place then infinite negative
  else
    let (num, den) := unscale 10 digits 1 (-exponent)
    ofRatio negative num den

def isFinite : Binary64 → Bool
  | finite .. => true
  | _ => false

end Binary64

end LintBook
