import LintBook.Text.Basic

/-! Bytes as a list, and their hexadecimal text. -/
namespace LintBook

abbrev Bytes := List UInt8

namespace Bytes

def toHex (bs : Bytes) : Text :=
  bs.flatMap fun b => [CodePoint.ofHexDigit (b.toNat / 16), CodePoint.ofHexDigit (b.toNat % 16)]

/-- The bytes that pairs of hexadecimal digits stand for; nothing if a digit is missing. -/
def ofHex? (t : Text) : Option Bytes :=
  (go [] t).map List.reverse
where
  go (read : Bytes) : Text → Option Bytes
    | [] => some read
    | [_] => none
    | high :: low :: rest =>
      match high.hexDigit?, low.hexDigit? with
      | some h, some l => go (UInt8.ofNat (16 * h + l) :: read) rest
      | _, _ => none

end Bytes

end LintBook
