import LintBook.Json.Basic
import LintBook.Number.Shortest

/-! Writing JSON text on one line, with every other character than printable ASCII escaped or only
with those escapes that JSON demands. -/
namespace LintBook.Json

/-- Which characters may stand for themselves. -/
inductive Repertoire
  | ascii
  | unicode
deriving DecidableEq

def codeEscape (n : Nat) : Text := ("\\u" : Text) ++ Text.hex 4 n

/-- The escapes of a character: one, or two for a character beyond U+FFFF. -/
def codeEscapes (c : CodePoint) : Text :=
  if c.val < 0x10000 then codeEscape c.val
  else codeEscape (0xD800 + (c.val - 0x10000) / 0x400) ++
    codeEscape (0xDC00 + (c.val - 0x10000) % 0x400)

def printChar (r : Repertoire) (c : CodePoint) : Text :=
  match c.val with
  | 0x22 => "\\\""
  | 0x5C => "\\\\"
  | 0x08 => "\\b"
  | 0x0C => "\\f"
  | 0x0A => "\\n"
  | 0x0D => "\\r"
  | 0x09 => "\\t"
  | n =>
    if n < 0x20 ∨ (r = .ascii ∧ 0x7E < n) then codeEscapes c else [c]

def printText (r : Repertoire) (t : Text) : Text :=
  CodePoint.doubleQuote :: (t.flatMap (printChar r) ++ [CodePoint.doubleQuote])

def printFloat : Binary64 → Text
  | .nan => "NaN"
  | .infinite negative => if negative then "-Infinity" else "Infinity"
  | x => x.text

mutual

/-- A comma and a space between items, a colon and a space after a name. -/
def print (r : Repertoire) : Json → Text
  | null => "null"
  | bool b => if b then "true" else "false"
  | int n => Text.ofInt n
  | float x => printFloat x
  | str s => printText r s
  | arr [] => "[]"
  | arr (v :: rest) => '[' :: (print r v ++ printItems r rest ++ ("]" : Text))
  | obj [] => [CodePoint.openBrace, CodePoint.closeBrace]
  | obj ((name, v) :: rest) =>
    CodePoint.openBrace :: (printText r name ++ (": " : Text) ++ print r v ++ printMembers r rest ++
      [CodePoint.closeBrace])

def printItems (r : Repertoire) : List Json → Text
  | [] => []
  | v :: rest => (", " : Text) ++ print r v ++ printItems r rest

def printMembers (r : Repertoire) : List (Text × Json) → Text
  | [] => []
  | (name, v) :: rest =>
    (", " : Text) ++ printText r name ++ (": " : Text) ++ print r v ++ printMembers r rest

end

end LintBook.Json
