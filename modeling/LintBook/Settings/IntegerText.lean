import LintBook.Text.Basic

/-! Integers written as text: white space around, a sign, leading zeros, single underscores between
digits, and a fraction of zeros are allowed. Among leading zeros any underscores are skipped, and a
minus may follow them. -/
namespace LintBook.IntegerText

/-- The most digits that are read, leading zeros not counted. -/
def digitLimit : Nat := 4300

inductive Flaw
  | malformed
  | tooLong
deriving DecidableEq

/-- The characters of Unicode's White_Space property. -/
def isWhiteSpace (c : CodePoint) : Bool := c.isBlank && !(0x1C ≤ c.val && c.val ≤ 0x1F)

def trim (t : Text) : Text :=
  ((t.dropWhile isWhiteSpace).reverse.dropWhile isWhiteSpace).reverse

/-- The text after leading zeros, the last of which is `last`. Underscores among them are skipped
too. A zero stays in front of a point, and the last character where nothing else is left. -/
def afterZeros (last : CodePoint) : Text → Option Text
  | [] => some [last]
  | c :: rest =>
    if c = '0' ∨ c = '_' then afterZeros c rest
    else if c.isAsciiDigit ∨ c = '-' then some (c :: rest)
    else if c = '.' then some (last :: c :: rest)
    else none

/-- The text without leading zeros, if it begins with a digit. -/
def withoutZeros? : Text → Option Text
  | [] => none
  | c :: rest =>
    if c = '0' then afterZeros c rest
    else if c.isAsciiDigit then some (c :: rest)
    else none

def withoutFraction (t : Text) : Text :=
  let whole := t.takeWhile fun (c : CodePoint) => c ≠ '.'
  let fraction := t.drop (whole.length + 1)
  if fraction ≠ [] ∧ fraction.all fun (z : CodePoint) => z = '0' then whole else t

def hasDoubleUnderscore : Text → Bool
  | c :: d :: rest => (c = '_' && d = '_') || hasDoubleUnderscore (d :: rest)
  | _ => false

/-- The text without underscores, if they are single ones with a character on either side. -/
def withoutUnderscores (t : Text) : Text :=
  if t.head? = some ('_' : Char) ∨ t.getLast? = some ('_' : Char) ∨ hasDoubleUnderscore t then t
  else t.filter fun (c : CodePoint) => c ≠ '_'

def value (digits : Text) : Nat := digits.foldl (fun n d => 10 * n + (d.val - 0x30)) 0

/-- A number in plain form: digits within the limit, and no zero in front of others. -/
def unsigned? (t : Text) : Option Nat :=
  if t ≠ [] ∧ t.all CodePoint.isAsciiDigit ∧ (t.head? = some ('0' : Char) → t.length = 1) ∧
      t.length ≤ digitLimit then
    some (value t)
  else none

/-- A number in plain form with or without a minus sign. -/
def signed? : Text → Option Int
  | [] => none
  | c :: rest =>
    if c = '-' then (unsigned? rest).map fun n => -(n : Int)
    else (unsigned? (c :: rest)).map fun n => (n : Int)

/-- A number behind its sign, which is a minus or nothing. -/
def parseAfter (sign t : Text) : Option Int :=
  (withoutZeros? t).bind fun t => signed? (sign ++ withoutUnderscores (withoutFraction t))

def parseTrimmed : Text → Option Int
  | [] => none
  | c :: rest =>
    if c = '-' then parseAfter "-" rest
    else if c = '+' then parseAfter [] rest
    else parseAfter [] (c :: rest)

/-- Whether a text begins with too many digits, behind a minus at most, and not with a zero. What
follows them is not looked at. -/
def isLong (t : Text) : Bool :=
  let digits := (if t.head? = some ('-' : Char) then t.tail else t).takeWhile CodePoint.isAsciiDigit
  digits.head? ≠ some ('0' : Char) && digitLimit < digits.length

/-- The integer that a text stands for. Only a text that begins with its digits is found too
long. -/
def parse (t : Text) : Except Flaw Int :=
  if isLong t then .error .tooLong
  else match parseTrimmed (trim t) with
    | some n => .ok n
    | none => .error .malformed

end LintBook.IntegerText
