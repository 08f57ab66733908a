import LintBook.CodePoint.Direction
import LintBook.CodePoint.Joining
import LintBook.CodePoint.Script
import LintBook.Domain.Alphabet
import LintBook.Text.Composed
import LintBook.Text.Quoted

/-! Labels of domain names: which characters they have, which of them only beside certain others,
and how those of both directions may be mixed. -/
namespace LintBook.Domain

inductive Label.Flaw
  | empty
  | notComposed
  | hyphensInside
  | hyphenAtEnd
  | markInFront
  | joiner (c : CodePoint) (position : Nat) (label : Text)
  | misplaced (c : CodePoint) (position : Nat) (label : Text)
  | disallowed (c : CodePoint) (position : Nat) (label : Text)
  | undirected (label : Text)
  | againstDirection (position : Nat) (isRight : Bool)
  | mixedNumbers
  | openEnd
deriving DecidableEq

namespace Label

/-- A code point by its number, in four hexadecimal digits at least. -/
def numbered (c : CodePoint) : Text :=
  let width := if c.val < 0x10000 then 4 else if c.val < 0x100000 then 5 else 6
  ("U+" : Text) ++ (Text.hex width c.val).map CodePoint.upperAscii

def Flaw.message : Flaw → Text
  | empty => "Empty Label"
  | notComposed => "Label must be in Normalization Form C"
  | hyphensInside => "Label has disallowed hyphens in 3rd and 4th position"
  | hyphenAtEnd => "Label must not start or end with a hyphen"
  | markInFront => "Label begins with an illegal combining character"
  | joiner c position label =>
    ("Joiner " : Text) ++ numbered c ++ (" not allowed at position " : Text) ++
      Text.ofNat position ++ (" in " : Text) ++ Text.Quoted.encode label
  | misplaced c position label =>
    ("Codepoint " : Text) ++ numbered c ++ (" not allowed at position " : Text) ++
      Text.ofNat position ++ (" in " : Text) ++ Text.Quoted.encode label
  | disallowed c position label =>
    ("Codepoint " : Text) ++ numbered c ++ (" at position " : Text) ++ Text.ofNat position ++
      (" of " : Text) ++ Text.Quoted.encode label ++ (" not allowed" : Text)
  | undirected label =>
    ("First codepoint in label " : Text) ++ Text.Quoted.encode label ++
      (" must be directionality L, R or AL" : Text)
  | againstDirection position isRight =>
    ("Invalid direction for codepoint at position " : Text) ++ Text.ofNat position ++
      (if isRight then " in a right-to-left label" else " in a left-to-right label" : Text)
  | mixedNumbers => "Can not mix numeral types in a right-to-left label"
  | openEnd => "Label ends with illegal codepoint directionality"

def zeroWidthNonJoiner : CodePoint := ⟨0x200C, by decide⟩

def zeroWidthJoiner : CodePoint := ⟨0x200D, by decide⟩

/-- A joiner follows a virama. One that keeps letters apart may also stand between two that would
join. Each side is given from the joiner on. -/
def joinerFits (c : CodePoint) (before after : Text) : Bool :=
  before.head?.any CodePoint.isVirama ||
    (c = zeroWidthNonJoiner &&
      ((before.dropWhile CodePoint.isTransparent).head?.any CodePoint.joinsNext &&
        (after.dropWhile CodePoint.isTransparent).head?.any CodePoint.joinsPrevious))

/-- The digits of two forms that are not mixed. -/
def isArabicDigit (c : CodePoint) : Bool := 0x660 ≤ c.val && c.val ≤ 0x669

def isPersianDigit (c : CodePoint) : Bool := 0x6F0 ≤ c.val && c.val ≤ 0x6F9

/-- Where a character stands that depends on others: the middle dot between two letters `l`, the
Greek numeral sign before Greek, the Hebrew signs behind Hebrew, the Katakana middle dot in a
Japanese label, and digits of one form without those of the other. Nothing for other characters. -/
def fits? (c : CodePoint) (before after : Text) : Option Bool :=
  let label := before ++ after
  if c.val = 0xB7 then
    some (before.head? = some ('l' : Char) && after.head? = some ('l' : Char))
  else if c.val = 0x375 then some (after.head?.any fun d => d.isIn CodePoint.greek)
  else if c.val = 0x5F3 ∨ c.val = 0x5F4 then
    some (before.head?.any fun d => d.isIn CodePoint.hebrew)
  else if c.val = 0x30FB then some (label.any fun d => d.isIn CodePoint.japanese)
  else if isArabicDigit c then some (!label.any isPersianDigit)
  else if isPersianDigit c then some (!label.any isArabicDigit)
  else none

/-- The first character of `after` that has no place in the label. Those before it are in reverse
order. -/
def characterFlaw? (label before : Text) : Text → Option Flaw
  | [] => none
  | c :: after =>
    let position := before.length + 1
    let flaw :=
      if isLetter c then none
      else if c = zeroWidthNonJoiner ∨ c = zeroWidthJoiner then
        if joinerFits c before after then none else some (.joiner c position label)
      else match fits? c before after with
        | some true => none
        | some false => some (.misplaced c position label)
        | none => some (.disallowed c position label)
    flaw <|> characterFlaw? label (c :: before) after

/-- Whether a label of one direction may close with a character, marks apart. -/
def closes (isRight : Bool) : Direction → Bool
  | .left => !isRight
  | .europeanNumber => true
  | .right | .arabic | .arabicNumber => isRight
  | .mark | .neutral => false

def follows (isRight : Bool) : Direction → Bool
  | .left => !isRight
  | .right | .arabic | .arabicNumber => isRight
  | .europeanNumber | .mark | .neutral => true

/-- The first flaw in the directions of characters from a position on. What came before them is the
form of its numbers, and whether it could close the label. -/
def mixtureFlaw? (isRight : Bool) (position : Nat) (numbers : Option Direction) (closed : Bool) :
    List Direction → Option Flaw
  | [] => if closed then none else some .openEnd
  | d :: rest =>
    if !follows isRight d then some (.againstDirection position isRight)
    else
      let isNumber := isRight && (d = .arabicNumber || d = .europeanNumber)
      if isNumber && numbers.any (· ≠ d) then some .mixedNumbers
      else mixtureFlaw? isRight (position + 1) (if isNumber then some d else numbers)
        (if d = .mark then closed else closes isRight d) rest

/-- What is wrong with the directions in a label. One without characters that are written from the
right is free to mix the others. -/
def directionFlaw? (label : Text) : Option Flaw :=
  let directions := label.map CodePoint.direction
  if directions.any fun d => d = .right || d = .arabic || d = .arabicNumber then
    match directions.head? with
    | some .left => mixtureFlaw? false 1 none false directions
    | some .right | some .arabic => mixtureFlaw? true 1 none false directions
    | _ => some (.undirected label)
  else none

def flaw? (label : Text) : Option Flaw :=
  if label = [] then some .empty
  else if !label.isComposed then some .notComposed
  else if (label.drop 2).take 2 = Text.ofString "--" then some .hyphensInside
  else if label.head? = some ('-' : Char) ∨ label.getLast? = some ('-' : Char) then
    some .hyphenAtEnd
  else if label.head?.any CodePoint.isMark then some .markInFront
  else characterFlaw? label [] label <|> directionFlaw? label

end Label

end LintBook.Domain
