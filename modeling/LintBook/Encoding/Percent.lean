import LintBook.Encoding.Utf8

/-! Percent-encoding: a percent sign and two hexadecimal digits stand for a byte of UTF-8. -/
namespace LintBook.Encoding.Percent

def byte? (high low : CodePoint) : Option UInt8 :=
  high.hexDigit?.bind fun h => low.hexDigit?.map fun l => UInt8.ofNat (16 * h + l)

/-- The bytes of a text. A percent sign without two digits behind it stands for itself. -/
def bytes : Text → Bytes
  | [] => []
  | c :: high :: low :: rest =>
    match if c = '%' then byte? high low else none with
    | some b => b :: bytes rest
    | none => Utf8.encodeChar c ++ bytes (high :: low :: rest)
  | c :: rest => Utf8.encodeChar c ++ bytes rest

def escape (c : CodePoint) : Text :=
  (Utf8.encodeChar c).flatMap fun b => '%' :: (Text.hex 2 b.toNat).map CodePoint.upperAscii

/-- Escapes what is not safe, but leaves alone what is percent-encoded already. -/
def complete (isSafe : CodePoint → Bool) : Text → Text
  | [] => []
  | c :: high :: low :: rest =>
    if c = '%' ∧ (byte? high low).isSome then c :: high :: low :: complete isSafe rest
    else (if isSafe c then [c] else escape c) ++ complete isSafe (high :: low :: rest)
  | c :: rest => (if isSafe c then [c] else escape c) ++ complete isSafe rest

def encode (isSafe : CodePoint → Bool) (t : Text) : Text :=
  t.flatMap fun c => if isSafe c then [c] else escape c

/-- The text that is meant; U+FFFD stands for ill-formed bytes. -/
def decode (t : Text) : Text := Utf8.decodeReplacing (bytes t)

end LintBook.Encoding.Percent
