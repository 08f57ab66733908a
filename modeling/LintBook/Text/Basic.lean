import LintBook.CodePoint.Basic

/-! Text as a list of code points. Surrogates are code points too, because a text read from
escapes may hold an unpaired one, so `Text` is wider than `String`. -/
namespace LintBook

abbrev Text := List CodePoint

namespace Text

def ofString (s : String) : Text := s.toList.map CodePoint.ofChar

instance : Coe String Text := ⟨ofString⟩

/-- A text as a `String`; a surrogate, which no `String` holds, becomes U+FFFD. -/
def toString (t : Text) : String :=
  String.ofList (t.map fun c => if c.isSurrogate then Char.ofNat 0xFFFD else Char.ofNat c.val)

def ofNat (n : Nat) : Text := (Nat.toDigits 10 n).map CodePoint.ofChar

def ofInt (n : Int) : Text := if n < 0 then '-' :: ofNat n.natAbs else ofNat n.natAbs

/-- The last `width` digits of a number in lower-case hexadecimal. -/
def hex : (width n : Nat) → Text
  | 0, _ => []
  | width + 1, n => hex width (n / 16) ++ [CodePoint.ofHexDigit (n % 16)]

/-- No code point of the text is a surrogate. -/
def isScalar (t : Text) : Bool := t.all fun c => !c.isSurrogate

def strip (t : Text) : Text :=
  ((t.dropWhile CodePoint.isBlank).reverse.dropWhile CodePoint.isBlank).reverse

/-- The first run of characters between blanks, if the text is not blank. -/
def firstWord? (t : Text) : Option Text :=
  match t.dropWhile CodePoint.isBlank with
  | [] => none
  | c :: rest => some (c :: rest.takeWhile fun d => !d.isBlank)

def after? (start t : Text) : Option Text :=
  if start.isPrefixOf t then some (t.drop start.length) else none

def endsWith (ending t : Text) : Bool := ending.isSuffixOf t

/-- One more character in front of a first piece and the pieces after it. -/
def pairStep (first second c : CodePoint) : Text × List Text → Text × List Text
  | ([], later) => ([c], later)
  | (d :: piece, later) =>
    if c = first ∧ d = second then ([], piece :: later) else (c :: d :: piece, later)

/-- The pieces of a text between the places where `first` is followed by `second`. A pair of two
different characters cannot overlap itself, so scanning from the end finds the same places as
scanning from the start. -/
def splitAtPair (first second : CodePoint) (t : Text) : List Text :=
  let pieces := t.foldr (pairStep first second) ([], [])
  pieces.1 :: pieces.2

def splitStep (separator c : CodePoint) : Text × List Text → Text × List Text
  | (piece, later) => if c = separator then ([], piece :: later) else (c :: piece, later)

def split (separator : CodePoint) (t : Text) : List Text :=
  let pieces := t.foldr (splitStep separator) ([], [])
  pieces.1 :: pieces.2

def lines (t : Text) : List Text := split '\n' t

/-- The texts one after another, with a separator between each two. -/
def join (separator : Text) (ts : List Text) : Text := separator.intercalate ts

end Text

end LintBook
