import LintBook.Bytes.Sha256
import LintBook.Encoding.Codec
import LintBook.Json.Basic
import LintBook.Log

/-! Decoding a file of unknown encoding. It never fails: where the detected codec does not apply,
the bytes are taken for UTF-8, with U+FFFD for what is ill formed. -/
namespace LintBook

namespace Decoding

/-- How a file was decoded: the codec that was detected, the one that was used, whether it was a
fallback, and the digest of the bytes. -/
structure Report where
  detected : Option Text
  used : Text
  fallback : Bool
  digest : Text

def Report.toJson (r : Report) : Json :=
  .object [("detected", .ofText? r.detected), ("decode_used", .str r.used),
    ("decode_fallback", .bool r.fallback), ("sha256", .str r.digest)]

/-- A name of UTF-8, in any case and with hyphens or underscores. -/
def namesUtf8 (name : Text) : Bool :=
  let spelling : Text := name.map fun (c : CodePoint) => if c = '-' then '_' else c.lowerAscii
  spelling = Text.ofString "utf_8" || spelling = Text.ofString "utf8"

/-- The codec to try first: the one that was detected, or UTF-8. A name of UTF-8 becomes the codec
that consumes the byte order mark if the file begins with one. -/
def firstChoice (detected : Option Text) (raw : Bytes) : Text :=
  let name : Text := match detected with
    | none | some [] => "utf-8"
    | some name => name
  if Encoding.Utf8.mark.isPrefixOf raw ∧ namesUtf8 name then "utf-8-sig" else name

/-- The text of a file and how it was found. A fallback is reported. -/
def decode (detected : Option Text) (raw : Bytes) : Logged (Text × Report) :=
  let name := firstChoice detected raw
  match Encoding.decodeNamed? name raw with
  | some t => pure (t, ⟨detected, name, false, raw.sha256⟩)
  | none => do
    Logged.report (.fallbackDecoding "utf-8" detected)
    let t := match Encoding.Utf8.decode? raw with
      | some t => t
      | none => Encoding.Utf8.decodeReplacing raw
    pure (t, ⟨detected, "utf-8", true, raw.sha256⟩)

end Decoding

end LintBook
