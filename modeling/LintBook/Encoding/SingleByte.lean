import LintBook.Bytes.Basic

/-! Encodings with one byte for each character. -/
namespace LintBook.Encoding

/-- The characters of the bytes 80 to 9F in the Western Windows code page; five are undefined. -/
def windowsUpper : List (Option CodePoint) :=
  [some 0x20AC, none, some 0x201A, some 0x0192, some 0x201E, some 0x2026, some 0x2020, some
   0x2021, some 0x02C6, some 0x2030, some 0x0160, some 0x2039, some 0x0152, none, some 0x017D,
   none, none, some 0x2018, some 0x2019, some 0x201C, some 0x201D, some 0x2022, some 0x2013,
   some 0x2014, some 0x02DC, some 0x2122, some 0x0161, some 0x203A, some 0x0153, none, some
   0x017E, some 0x0178]

namespace Ascii

def decodeByte? (b : UInt8) : Option CodePoint :=
  if b.toNat < 0x80 then CodePoint.ofNat? b.toNat else none

end Ascii

namespace Latin

def decodeByte? (b : UInt8) : Option CodePoint := CodePoint.ofNat? b.toNat

end Latin

namespace Windows

def decodeByte? (b : UInt8) : Option CodePoint :=
  if 0x80 ≤ b.toNat ∧ b.toNat < 0xA0 then (windowsUpper[b.toNat - 0x80]?).join
  else CodePoint.ofNat? b.toNat

end Windows

end LintBook.Encoding
