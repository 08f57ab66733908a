import LintBook.Encoding.Wide
import LintBook.Proofs.Utf8

/-! Decoding inverts UTF-16 and UTF-32 in either byte order for every text without surrogates. In
UTF-16 a character beyond U+FFFF is a pair of surrogates, which no character of the text itself can
be taken for. -/
namespace LintBook

namespace CodePoint

/-- The high surrogate of a character beyond U+FFFF. -/
def highHalf (c : CodePoint) : CodePoint := ⟨0xD800 + (c.val - 0x10000) / 0x400, by omega⟩

/-- The low surrogate of a character beyond U+FFFF. -/
def lowHalf (c : CodePoint) : CodePoint := ⟨0xDC00 + (c.val - 0x10000) % 0x400, by omega⟩

theorem val_highHalf (c : CodePoint) : c.highHalf.val = 0xD800 + (c.val - 0x10000) / 0x400 := rfl

theorem val_lowHalf (c : CodePoint) : c.lowHalf.val = 0xDC00 + (c.val - 0x10000) % 0x400 := rfl

theorem isHighSurrogate_highHalf (c : CodePoint) : c.highHalf.isHighSurrogate = true := by
  have bound := c.isLt
  rw [isHighSurrogate, Bool.and_eq_true, decide_eq_true_eq, decide_eq_true_eq, val_highHalf]
  omega

theorem isLowSurrogate_lowHalf (c : CodePoint) : c.lowHalf.isLowSurrogate = true := by
  rw [isLowSurrogate, Bool.and_eq_true, decide_eq_true_eq, decide_eq_true_eq, val_lowHalf]
  omega

theorem isHighSurrogate_lowHalf (c : CodePoint) : c.lowHalf.isHighSurrogate = false := by
  rw [isHighSurrogate, Bool.and_eq_false_iff, decide_eq_false_iff_not, decide_eq_false_iff_not,
    val_lowHalf]
  omega

theorem joinSurrogates_halves {c : CodePoint} (beyond : 0x10000 ≤ c.val) :
    joinSurrogates c.highHalf c.lowHalf = c := by
  have bound := c.isLt
  have number : 0x10000 + (c.highHalf.val - 0xD800) * 0x400 + (c.lowHalf.val - 0xDC00) = c.val := by
    rw [val_highHalf, val_lowHalf]
    omega
  rw [joinSurrogates, number, ofNat?_val, Option.getD_some]

theorem isHighSurrogate_of_scalar {c : CodePoint} (scalar : c.isSurrogate = false) :
    c.isHighSurrogate = false := by
  simp only [isSurrogate, isHighSurrogate, Bool.and_eq_false_iff, decide_eq_false_iff_not]
    at scalar ⊢
  omega

end CodePoint

namespace Text

theorem isScalar_cons {c : CodePoint} {t : Text} :
    isScalar (c :: t) = true ↔ c.isSurrogate = false ∧ isScalar t = true := by
  simp only [isScalar, List.all_cons, Bool.and_eq_true, Bool.not_eq_true']

end Text

namespace Encoding

namespace ByteOrder

theorem bytes_two_little (n : Nat) :
    little.bytes 2 n = [UInt8.ofNat n, UInt8.ofNat (n >>> 8)] := rfl

theorem bytes_two_big (n : Nat) :
    big.bytes 2 n = [UInt8.ofNat (n >>> 8), UInt8.ofNat n] := rfl

theorem bytes_four_little (n : Nat) : little.bytes 4 n =
    [UInt8.ofNat n, UInt8.ofNat (n >>> 8), UInt8.ofNat (n >>> 16), UInt8.ofNat (n >>> 24)] := rfl

theorem bytes_four_big (n : Nat) : big.bytes 4 n =
    [UInt8.ofNat (n >>> 24), UInt8.ofNat (n >>> 16), UInt8.ofNat (n >>> 8), UInt8.ofNat n] := rfl

end ByteOrder

namespace Utf16

theorem units?_go_bytes (order : ByteOrder) {u : CodePoint} (small : u.val < 0x10000)
    (read : List CodePoint) (rest : Bytes) :
    units?.go order read (order.bytes 2 u.val ++ rest) = units?.go order (u :: read) rest := by
  cases order with
  | little =>
    have value : unit .little (UInt8.ofNat u.val) (UInt8.ofNat (u.val >>> 8)) = u.val := by
      simp only [unit, UInt8.toNat_ofNat']
      omega
    rw [ByteOrder.bytes_two_little, List.cons_append, List.cons_append, List.nil_append,
      units?.go, value, CodePoint.ofNat?_val, Option.bind_some]
  | big =>
    have value : unit .big (UInt8.ofNat (u.val >>> 8)) (UInt8.ofNat u.val) = u.val := by
      simp only [unit, UInt8.toNat_ofNat']
      omega
    rw [ByteOrder.bytes_two_big, List.cons_append, List.cons_append, List.nil_append,
      units?.go, value, CodePoint.ofNat?_val, Option.bind_some]

/-- The units of a character as code points. -/
def unitsOf (c : CodePoint) : List CodePoint :=
  if c.val < 0x10000 then [c] else [c.highHalf, c.lowHalf]

theorem units?_go_encodeUnits (order : ByteOrder) (c : CodePoint) (read : List CodePoint)
    (rest : Bytes) :
    units?.go order read ((encodeUnits c).flatMap (order.bytes 2) ++ rest) =
      units?.go order ((unitsOf c).reverse ++ read) rest := by
  have bound := c.isLt
  by_cases one : c.val < 0x10000
  · rw [encodeUnits, unitsOf, if_pos one, if_pos one, List.flatMap_singleton]
    exact units?_go_bytes order one read rest
  · rw [encodeUnits, unitsOf, if_neg one, if_neg one, List.flatMap_cons, List.flatMap_singleton,
      List.append_assoc]
    have high : c.highHalf.val < 0x10000 := by rw [CodePoint.val_highHalf]; omega
    have low : c.lowHalf.val < 0x10000 := by rw [CodePoint.val_lowHalf]; omega
    exact (units?_go_bytes order high read _).trans (units?_go_bytes order low _ rest)

theorem units?_encode (order : ByteOrder) (t : Text) :
    units? order (encode order t) = some (t.flatMap unitsOf) := by
  have run (read : List CodePoint) :
      units?.go order read (encode order t) = some (read.reverse ++ t.flatMap unitsOf) := by
    induction t generalizing read with
    | nil => simp [encode, units?.go]
    | cons c t ih =>
      have first : encode order (c :: t) =
          (encodeUnits c).flatMap (order.bytes 2) ++ encode order t := List.flatMap_cons
      rw [first, units?_go_encodeUnits, ih]
      simp
  exact run []

theorem join_go_unitsOf {c : CodePoint} (scalar : c.isSurrogate = false) (read : Text)
    (rest : List CodePoint) : join.go read (unitsOf c ++ rest) = join.go (c :: read) rest := by
  by_cases one : c.val < 0x10000
  · rw [unitsOf, if_pos one]
    cases rest with
    | nil => rfl
    | cons v rest =>
      simp [join.go, CodePoint.isHighSurrogate_of_scalar scalar]
  · rw [unitsOf, if_neg one]
    simp [join.go, CodePoint.isHighSurrogate_highHalf, CodePoint.isLowSurrogate_lowHalf,
      CodePoint.joinSurrogates_halves (Nat.le_of_not_lt one)]

theorem join_unitsOf {t : Text} (scalar : t.isScalar = true) : join (t.flatMap unitsOf) = t := by
  have run (read : Text) : join.go read (t.flatMap unitsOf) = read.reverse ++ t := by
    induction t generalizing read with
    | nil => simp [join.go]
    | cons c t ih =>
      obtain ⟨first, later⟩ := Text.isScalar_cons.mp scalar
      rw [List.flatMap_cons, join_go_unitsOf first, ih later]
      simp
  exact run []

theorem decode?_encode (order : ByteOrder) {t : Text} (scalar : t.isScalar = true) :
    decode? order (encode order t) = some t := by
  rw [decode?, decodeLoose?, units?_encode, Option.map_some, join_unitsOf scalar, scalar?,
    Option.filter_some, if_pos scalar]

end Utf16

namespace Utf32

theorem decodeLoose?_go_bytes (order : ByteOrder) (c : CodePoint) (read : Text) (rest : Bytes) :
    decodeLoose?.go order read (order.bytes 4 c.val ++ rest) =
      decodeLoose?.go order (c :: read) rest := by
  have bound := c.isLt
  cases order with
  | little =>
    have value : unit .little (UInt8.ofNat c.val) (UInt8.ofNat (c.val >>> 8))
        (UInt8.ofNat (c.val >>> 16)) (UInt8.ofNat (c.val >>> 24)) = c.val := by
      simp only [unit, UInt8.toNat_ofNat']
      omega
    rw [ByteOrder.bytes_four_little, List.cons_append, List.cons_append, List.cons_append,
      List.cons_append, List.nil_append, decodeLoose?.go, value,
      CodePoint.ofNat?_val, Option.bind_some]
  | big =>
    have value : unit .big (UInt8.ofNat (c.val >>> 24)) (UInt8.ofNat (c.val >>> 16))
        (UInt8.ofNat (c.val >>> 8)) (UInt8.ofNat c.val) = c.val := by
      simp only [unit, UInt8.toNat_ofNat']
      omega
    rw [ByteOrder.bytes_four_big, List.cons_append, List.cons_append, List.cons_append,
      List.cons_append, List.nil_append, decodeLoose?.go, value,
      CodePoint.ofNat?_val, Option.bind_some]

theorem decode?_encode (order : ByteOrder) {t : Text} (scalar : t.isScalar = true) :
    decode? order (encode order t) = some t := by
  have run (u read : Text) :
      decodeLoose?.go order read (encode order u) = some (read.reverse ++ u) := by
    induction u generalizing read with
    | nil => simp [encode, decodeLoose?.go]
    | cons c u ih =>
      have first : encode order (c :: u) = order.bytes 4 c.val ++ encode order u :=
        List.flatMap_cons
      rw [first, decodeLoose?_go_bytes, ih]
      simp
  rw [decode?, decodeLoose?, run, scalar?, Option.filter_some, List.reverse_nil, List.nil_append,
    if_pos scalar]

end Utf32

end Encoding

end LintBook
