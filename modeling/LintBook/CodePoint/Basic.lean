/-! Code points of Unicode, with the classes of them that the library asks about. -/
namespace LintBook

/-- A Unicode code point, surrogates included. -/
abbrev CodePoint := Fin 0x110000

namespace CodePoint

def ofNat? (n : Nat) : Option CodePoint :=
  if h : n < 0x110000 then some ⟨n, h⟩ else none

def ofChar (c : Char) : CodePoint :=
  ⟨c.toNat, by
    have h := c.valid
    simp only [UInt32.isValidChar, Nat.isValidChar] at h
    show c.val.toNat < 0x110000
    omega⟩

instance : Coe Char CodePoint := ⟨ofChar⟩

def doubleQuote : CodePoint := ⟨0x22, by decide⟩

def singleQuote : CodePoint := ⟨0x27, by decide⟩

def backslash : CodePoint := ⟨0x5C, by decide⟩

def openBrace : CodePoint := ⟨0x7B, by decide⟩

def closeBrace : CodePoint := ⟨0x7D, by decide⟩

/-- U+FEFF, which marks the beginning of a file. -/
def byteOrderMark : CodePoint := ⟨0xFEFF, by decide⟩

/-- U+FFFD, which stands for what could not be decoded. -/
def replacement : CodePoint := ⟨0xFFFD, by decide⟩

/-- Half of a UTF-16 pair, which is no character of its own. -/
def isSurrogate (c : CodePoint) : Bool := 0xD800 ≤ c.val && c.val ≤ 0xDFFF

def isHighSurrogate (c : CodePoint) : Bool := 0xD800 ≤ c.val && c.val ≤ 0xDBFF

def isLowSurrogate (c : CodePoint) : Bool := 0xDC00 ≤ c.val && c.val ≤ 0xDFFF

/-- The character that a high and a low surrogate stand for together. -/
def joinSurrogates (high low : CodePoint) : CodePoint :=
  (ofNat? (0x10000 + (high.val - 0xD800) * 0x400 + (low.val - 0xDC00))).getD low

/-- Blanks: the characters of Unicode's White_Space property and the four information
separators U+001C to U+001F. -/
def isBlank (c : CodePoint) : Bool :=
  (9 ≤ c.val && c.val ≤ 13) || (0x1C ≤ c.val && c.val ≤ 0x20) || c.val = 0x85 || c.val = 0xA0 ||
    c.val = 0x1680 || (0x2000 ≤ c.val && c.val ≤ 0x200A) || c.val = 0x2028 || c.val = 0x2029 ||
    c.val = 0x202F || c.val = 0x205F || c.val = 0x3000

def lowerAscii (c : CodePoint) : CodePoint :=
  if h : 0x41 ≤ c.val ∧ c.val ≤ 0x5A then ⟨c.val + 32, by omega⟩ else c

def upperAscii (c : CodePoint) : CodePoint :=
  if h : 0x61 ≤ c.val ∧ c.val ≤ 0x7A then ⟨c.val - 32, by omega⟩ else c

def isAscii (c : CodePoint) : Bool := c.val < 0x80

def isAsciiLetter (c : CodePoint) : Bool := 0x61 ≤ c.lowerAscii.val && c.lowerAscii.val ≤ 0x7A

def isAsciiDigit (c : CodePoint) : Bool := 0x30 ≤ c.val && c.val ≤ 0x39

def hexDigit? (c : CodePoint) : Option Nat :=
  if 0x30 ≤ c.val && c.val ≤ 0x39 then some (c.val - 0x30)
  else if 0x41 ≤ c.val && c.val ≤ 0x46 then some (c.val - 0x37)
  else if 0x61 ≤ c.val && c.val ≤ 0x66 then some (c.val - 0x57)
  else none

def isIn (c : CodePoint) (intervals : List (Nat × Nat)) : Bool :=
  intervals.any fun (first, last) => first ≤ c.val && c.val ≤ last

theorem isIn_iff {c : CodePoint} {intervals : List (Nat × Nat)} :
    c.isIn intervals = true ↔ ∃ p ∈ intervals, p.1 ≤ c.val ∧ c.val ≤ p.2 := by
  simp [isIn]

def ofHexDigit (n : Nat) : CodePoint :=
  if h : n < 10 then ⟨0x30 + n, by omega⟩ else ⟨0x57 + n % 16, by omega⟩

end CodePoint

end LintBook
