import LintBook.Bytes.Basic

/-! UTF-16 and UTF-32 in either byte order. Decoding first keeps unpaired surrogates; the strict
forms then refuse them. -/
namespace LintBook.Encoding

inductive ByteOrder
  | little
  | big
deriving DecidableEq

def ByteOrder.bytes (order : ByteOrder) (width n : Nat) : Bytes :=
  let little := (List.range width).map fun i => UInt8.ofNat (n >>> (8 * i))
  match order with
  | .little => little
  | .big => little.reverse

/-- A decoded text, refused if a surrogate is left in it. -/
def scalar? (t : Option Text) : Option Text := t.filter Text.isScalar

namespace Utf16

def unit (order : ByteOrder) (a b : UInt8) : Nat :=
  match order with
  | .little => a.toNat + 256 * b.toNat
  | .big => 256 * a.toNat + b.toNat

/-- The units of a byte string, unless a byte is left over. -/
def units? (order : ByteOrder) (bs : Bytes) : Option (List CodePoint) :=
  go [] bs
where
  go (read : List CodePoint) : Bytes → Option (List CodePoint)
    | [] => some read.reverse
    | [_] => none
    | a :: b :: rest => (CodePoint.ofNat? (unit order a b)).bind fun u => go (u :: read) rest

/-- The text in which each high surrogate followed by a low one is the character of the pair. -/
def join (units : List CodePoint) : Text :=
  go [] units
where
  go (read : Text) : List CodePoint → Text
    | [] => read.reverse
    | [u] => (u :: read).reverse
    | u :: v :: rest =>
      if u.isHighSurrogate && v.isLowSurrogate then go (CodePoint.joinSurrogates u v :: read) rest
      else go (u :: read) (v :: rest)

def decodeLoose? (order : ByteOrder) (bs : Bytes) : Option Text := (units? order bs).map join

def decode? (order : ByteOrder) (bs : Bytes) : Option Text := scalar? (decodeLoose? order bs)

def encodeUnits (c : CodePoint) : List Nat :=
  if c.val < 0x10000 then [c.val]
  else [0xD800 + (c.val - 0x10000) / 0x400, 0xDC00 + (c.val - 0x10000) % 0x400]

def encode (order : ByteOrder) (t : Text) : Bytes :=
  t.flatMap fun c => (encodeUnits c).flatMap (order.bytes 2)

def mark (order : ByteOrder) : Bytes := order.bytes 2 0xFEFF

/-- The byte order that a mark gives, little-endian without one, and the bytes after the mark. -/
def ordered : Bytes → ByteOrder × Bytes
  | 0xFF :: 0xFE :: rest => (.little, rest)
  | 0xFE :: 0xFF :: rest => (.big, rest)
  | bs => (.little, bs)

end Utf16

namespace Utf32

def unit (order : ByteOrder) (a b c d : UInt8) : Nat :=
  match order with
  | .little => a.toNat + 256 * (b.toNat + 256 * (c.toNat + 256 * d.toNat))
  | .big => d.toNat + 256 * (c.toNat + 256 * (b.toNat + 256 * a.toNat))

/-- The text with its surrogates, unless bytes are left over or a number is too large. -/
def decodeLoose? (order : ByteOrder) (bs : Bytes) : Option Text :=
  go [] bs
where
  go (read : Text) : Bytes → Option Text
    | [] => some read.reverse
    | a :: b :: c :: d :: rest =>
      (CodePoint.ofNat? (unit order a b c d)).bind fun u => go (u :: read) rest
    | _ => none

def decode? (order : ByteOrder) (bs : Bytes) : Option Text := scalar? (decodeLoose? order bs)

def encode (order : ByteOrder) (t : Text) : Bytes := t.flatMap fun c => order.bytes 4 c.val

def mark (order : ByteOrder) : Bytes := order.bytes 4 0xFEFF

def ordered : Bytes → ByteOrder × Bytes
  | 0xFF :: 0xFE :: 0 :: 0 :: rest => (.little, rest)
  | 0 :: 0 :: 0xFE :: 0xFF :: rest => (.big, rest)
  | bs => (.little, bs)

end Utf32

end LintBook.Encoding
