import LintBook.Bytes.Basic

/-! UTF-8. A byte string is cut into characters and ill-formed pieces, each piece as long as a
well-formed sequence could still have begun with it. Strict decoding refuses any ill-formed piece;
replacing decoding puts U+FFFD for each. -/
namespace LintBook.Encoding.Utf8

/-- What a lead byte announces: how many bytes follow, the bits it adds itself, and the range of
the byte after it. -/
structure Lead where
  following : Nat
  bits : Nat
  low : Nat
  high : Nat

/-- The lead bytes of well-formed sequences; the narrowed ranges keep out overlong forms,
surrogates and numbers beyond U+10FFFF. -/
def Lead.ofByte? (b : UInt8) : Option Lead :=
  let n := b.toNat
  if n < 0xC2 then none
  else if n < 0xE0 then some ⟨1, n - 0xC0, 0x80, 0xBF⟩
  else if n < 0xF0 then
    some ⟨2, n - 0xE0, if n = 0xE0 then 0xA0 else 0x80, if n = 0xED then 0x9F else 0xBF⟩
  else if n < 0xF5 then
    some ⟨3, n - 0xF0, if n = 0xF0 then 0x90 else 0x80, if n = 0xF4 then 0x8F else 0xBF⟩
  else none

def isTrail (b : UInt8) : Bool := 0x80 ≤ b.toNat && b.toNat < 0xC0

/-- The bytes at the front that continue the sequence of a lead byte. -/
def Lead.trail (l : Lead) : Bytes → Bytes
  | [] => []
  | b :: rest =>
    if l.low ≤ b.toNat ∧ b.toNat ≤ l.high then
      b :: (rest.take (l.following - 1)).takeWhile isTrail
    else []

/-- The character of a lead byte and all its continuing bytes. -/
def Lead.value? (l : Lead) (trail : Bytes) : Option CodePoint :=
  if trail.length = l.following then
    CodePoint.ofNat? (trail.foldl (fun n b => n * 64 + (b.toNat - 0x80)) l.bits)
  else none

/-- The piece that begins with `b`: its character if it is well formed, and how many bytes of
`rest` belong to it. -/
def front (b : UInt8) (rest : Bytes) : Option CodePoint × Nat :=
  if b.toNat < 0x80 then (CodePoint.ofNat? b.toNat, 0)
  else match Lead.ofByte? b with
    | none => (none, 0)
    | some l => (l.value? (l.trail rest), (l.trail rest).length)

/-- The pieces after the next `skip` bytes, behind those in `read`, which are in reverse order. -/
def piecesFrom (skip : Nat) (read : List (Option CodePoint)) : Bytes → List (Option CodePoint)
  | [] => read.reverse
  | b :: rest =>
    match skip with
    | n + 1 => piecesFrom n read rest
    | 0 => piecesFrom (front b rest).2 ((front b rest).1 :: read) rest

/-- The characters of a byte string, and nothing for each ill-formed piece. -/
def pieces (bs : Bytes) : List (Option CodePoint) := piecesFrom 0 [] bs

def decode? (bs : Bytes) : Option Text := (pieces bs).mapM id

def decodeReplacing (bs : Bytes) : Text :=
  (pieces bs).map fun piece => piece.getD CodePoint.replacement

/-- A continuing byte with the six bits of `n` that lie `shift` places up. -/
def trailByte (n shift : Nat) : UInt8 := UInt8.ofNat (0x80 + (n >>> shift) % 64)

/-- One to four bytes. A surrogate gets the three bytes of its number, which are not well formed. -/
def encodeChar (c : CodePoint) : Bytes :=
  let n := c.val
  if n < 0x80 then [UInt8.ofNat n]
  else if n < 0x800 then [UInt8.ofNat (0xC0 + n >>> 6), trailByte n 0]
  else if n < 0x10000 then [UInt8.ofNat (0xE0 + n >>> 12), trailByte n 6, trailByte n 0]
  else [UInt8.ofNat (0xF0 + n >>> 18), trailByte n 12, trailByte n 6, trailByte n 0]

def encode (t : Text) : Bytes := t.flatMap encodeChar

/-- The first run of surrogates in a text that has no well-formed encoding. -/
structure Unencodable where
  first : CodePoint
  position : Nat
  count : Nat
deriving DecidableEq

def unencodable? (t : Text) : Option Unencodable :=
  match t.dropWhile fun c => !c.isSurrogate with
  | [] => none
  | c :: rest => some {
      first := c
      position := (t.takeWhile fun c => !c.isSurrogate).length
      count := (rest.takeWhile CodePoint.isSurrogate).length + 1 }

def encodeStrict (t : Text) : Except Unencodable Bytes :=
  match unencodable? t with
  | none => .ok (encode t)
  | some u => .error u

def Unencodable.message (u : Unencodable) : Text :=
  ("'utf-8' codec can't encode character" : Text) ++
    (if u.count = 1 then
      (" '\\u" : Text) ++ Text.hex 4 u.first.val ++ ("' in position " : Text) ++
        Text.ofNat u.position
    else
      ("s in position " : Text) ++ Text.ofNat u.position ++ ("-" : Text) ++
        Text.ofNat (u.position + u.count - 1)) ++
    (": surrogates not allowed" : Text)

def mark : Bytes := [0xEF, 0xBB, 0xBF]

end LintBook.Encoding.Utf8
