import LintBook.Encoding.SingleByte
import LintBook.Encoding.Utf8
import LintBook.Encoding.Wide

/-! The codecs by name, and the guess of a codec from how a byte string begins. -/
namespace LintBook.Encoding

/-- The codecs that texts are decoded by. Any other codec, such as cp1250 or big5, counts as unknown
here, as do names that no codec has. -/
inductive Codec
  | utf8
  | utf8Marked
  | ascii
  | latin
  | windows
  | utf16
  | utf16In (order : ByteOrder)
  | utf32
  | utf32In (order : ByteOrder)
deriving DecidableEq

/-- The characters of a codec's name that tell it from others: ASCII letters and digits, and full
stops. -/
def isNameChar (c : CodePoint) : Bool :=
  c.isAsciiLetter || c.isAsciiDigit || c = '.'

/-- The runs of telling characters in a name, in lower case. -/
def nameParts (name : Text) : List Text :=
  let spaced := name.map fun (c : CodePoint) => if isNameChar c then c.lowerAscii else '_'
  (Text.split '_' spaced).filter fun part => part ≠ []

/-- A codec's name in lower case, with one underscore for whatever stands between its parts. -/
def normalizedName (name : Text) : Text := Text.join "_" (nameParts name)

namespace Codec

def names : List (Codec × String) :=
  [(utf8, "utf_8"), (utf8Marked, "utf_8_sig"), (ascii, "ascii"), (latin, "latin_1"),
   (windows, "cp1252"), (utf16, "utf_16"), (utf16In .little, "utf_16_le"),
   (utf16In .big, "utf_16_be"), (utf32, "utf_32"), (utf32In .little, "utf_32_le"),
   (utf32In .big, "utf_32_be")]

def aliases : List (Codec × List String) :=
  [(utf8, ["utf8", "u8", "utf", "utf8_ucs2", "utf8_ucs4", "cp65001"]),
   (ascii, ["us_ascii", "us", "646", "iso646_us", "iso_646.irv_1991", "iso_ir_6",
     "ansi_x3.4_1968", "ansi_x3_4_1968", "ansi_x3.4_1986", "cp367", "csascii", "ibm367"]),
   (latin, ["latin1", "latin", "l1", "iso_8859_1", "iso8859_1", "iso8859", "8859",
     "iso_8859_1_1987", "iso_ir_100", "cp819", "csisolatin1", "ibm819"]),
   (windows, ["windows_1252", "1252"]),
   (utf16, ["utf16", "u16"]),
   (utf16In .little, ["utf_16le", "unicodelittleunmarked"]),
   (utf16In .big, ["utf_16be", "unicodebigunmarked"]),
   (utf32, ["utf32", "u32"]),
   (utf32In .little, ["utf_32le"]),
   (utf32In .big, ["utf_32be"])]

def ofAlias? (name : Text) : Option Codec :=
  (aliases.find? fun (_, known) => known.any fun k => Text.ofString k = name).map Prod.fst

/-- The codec of a name in any spelling. In a further name, full stops may stand for
underscores. -/
def ofName? (name : Text) : Option Codec :=
  let spelling := normalizedName name
  let unstopped : Text := spelling.map fun (c : CodePoint) => if c = '.' then '_' else c
  ofAlias? spelling <|> ofAlias? unstopped <|>
    (names.find? fun (_, known) => Text.ofString known = spelling).map Prod.fst

/-- Strict decoding. A byte order mark is consumed only by the codecs that look for one. -/
def decode? (bs : Bytes) : Codec → Option Text
  | utf8 => Utf8.decode? bs
  | utf8Marked => Utf8.decode? (if Utf8.mark.isPrefixOf bs then bs.drop 3 else bs)
  | ascii => bs.mapM Ascii.decodeByte?
  | latin => bs.mapM Latin.decodeByte?
  | windows => bs.mapM Windows.decodeByte?
  | utf16 => Utf16.decode? (Utf16.ordered bs).1 (Utf16.ordered bs).2
  | utf16In order => Utf16.decode? order bs
  | utf32 => Utf32.decode? (Utf32.ordered bs).1 (Utf32.ordered bs).2
  | utf32In order => Utf32.decode? order bs

end Codec

namespace Codec

/-- Decoding that keeps the unpaired surrogates of the wide codecs. -/
def decodeLoose? (bs : Bytes) : Codec → Option Text
  | utf16 => Utf16.decodeLoose? (Utf16.ordered bs).1 (Utf16.ordered bs).2
  | utf16In order => Utf16.decodeLoose? order bs
  | utf32 => Utf32.decodeLoose? (Utf32.ordered bs).1 (Utf32.ordered bs).2
  | utf32In order => Utf32.decodeLoose? order bs
  | codec => codec.decode? bs

/-- The codec of a JSON text. Without a mark, the zero bytes at its beginning show how wide its
units are, because the first two characters of a JSON text are ASCII. -/
def ofJsonBytes : Bytes → Codec
  | 0xFF :: 0xFE :: 0 :: 0 :: _ | 0 :: 0 :: 0xFE :: 0xFF :: _ => utf32
  | 0xFF :: 0xFE :: _ | 0xFE :: 0xFF :: _ => utf16
  | [0, _] => utf16In .big
  | [_, 0] => utf16In .little
  | 0 :: 0 :: _ :: _ :: _ => utf32In .big
  | 0 :: _ :: _ :: _ :: _ => utf16In .big
  | _ :: 0 :: 0 :: 0 :: _ => utf32In .little
  | _ :: 0 :: _ :: _ :: _ => utf16In .little
  | _ => utf8Marked

end Codec

/-- Strict decoding by the codec of a name. No bytes are no text under any name. -/
def decodeNamed? (name : Text) (bs : Bytes) : Option Text :=
  if bs = [] then some [] else (Codec.ofName? name).bind (Codec.decode? bs)

/-- The codec that the first bytes suggest: a mark of UTF-32 or UTF-16, ASCII if every byte is,
and UTF-8 otherwise. -/
def guess (bs : Bytes) : Text :=
  if (Utf32.mark .little).isPrefixOf bs || (Utf32.mark .big).isPrefixOf bs then "utf_32"
  else if (Utf16.mark .little).isPrefixOf bs || (Utf16.mark .big).isPrefixOf bs then "utf_16"
  else if bs ≠ [] ∧ bs.all (fun b => b.toNat < 0x80) then "ascii"
  else "utf_8"

end LintBook.Encoding
