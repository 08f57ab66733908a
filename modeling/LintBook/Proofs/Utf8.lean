import Mathlib.Data.List.TakeWhile
import LintBook.Encoding.Utf8

/-! Decoding inverts the UTF-8 encoding of every text without surrogates. Each character is one
piece: its lead byte announces how many bytes follow and in which range the next one lies, and the
narrowed ranges are those of characters that have no shorter form and are no surrogates. -/
namespace LintBook

theorem CodePoint.ofNat?_val (c : CodePoint) : CodePoint.ofNat? c.val = some c := dif_pos c.isLt

namespace Encoding.Utf8

theorem toNat_trailByte (n shift : Nat) :
    (trailByte n shift).toNat = 0x80 + (n >>> shift) % 64 := by
  rw [trailByte]
  exact UInt8.toNat_ofNat_of_lt (by simp only [UInt8.size]; omega)

theorem isTrail_trailByte (n shift : Nat) : isTrail (trailByte n shift) = true := by
  simp only [isTrail, toNat_trailByte, Bool.and_eq_true, decide_eq_true_eq]
  omega

theorem piecesFrom_skip (read : List (Option CodePoint)) (skipped rest : Bytes) :
    piecesFrom skipped.length read (skipped ++ rest) = piecesFrom 0 read rest := by
  induction skipped with
  | nil => rfl
  | cons b skipped ih => exact ih

/-- A lead byte with all the bytes it announces, the first of them in its range, is one piece. -/
theorem piecesFrom_sequence {l : Lead} {b first : UInt8} {c : CodePoint} (more : Bytes)
    (wide : 0x80 ≤ b.toNat) (lead : Lead.ofByte? b = some l)
    (inRange : l.low ≤ first.toNat ∧ first.toNat ≤ l.high)
    (trail : ∀ d ∈ more, isTrail d = true) (count : (first :: more).length = l.following)
    (value : (first :: more).foldl (fun n d => n * 64 + (d.toNat - 0x80)) l.bits = c.val)
    (read : List (Option CodePoint)) (rest : Bytes) :
    piecesFrom 0 read (b :: first :: (more ++ rest)) = piecesFrom 0 (some c :: read) rest := by
  have taken : (more ++ rest).take (l.following - 1) = more := by
    rw [← count, List.length_cons, Nat.add_sub_cancel, List.take_left]
  have whole : l.trail (first :: (more ++ rest)) = first :: more := by
    rw [Lead.trail, if_pos inRange, taken, List.takeWhile_eq_self_iff.mpr trail]
  have front : front b (first :: (more ++ rest)) = (some c, (first :: more).length) := by
    rw [Utf8.front, if_neg (by omega), lead]
    simp only [whole, Lead.value?]
    rw [if_pos count, value, CodePoint.ofNat?_val]
  rw [piecesFrom, front]
  exact piecesFrom_skip _ (first :: more) rest

theorem toNat_lead {base k : Nat} (small : base + k < 0x100) :
    (UInt8.ofNat (base + k)).toNat = base + k := UInt8.toNat_ofNat_of_lt small

theorem ofByte?_two {k : Nat} (low : 2 ≤ k) (high : k < 0x20) :
    Lead.ofByte? (UInt8.ofNat (0xC0 + k)) = some ⟨1, k, 0x80, 0xBF⟩ := by
  simp only [Lead.ofByte?, toNat_lead (show 0xC0 + k < 0x100 by omega)]
  rw [if_neg (by omega), if_pos (by omega), Nat.add_sub_cancel_left]

theorem ofByte?_three {k : Nat} (high : k < 0x10) :
    Lead.ofByte? (UInt8.ofNat (0xE0 + k)) =
      some ⟨2, k, if k = 0 then 0xA0 else 0x80, if k = 0xD then 0x9F else 0xBF⟩ := by
  have first : 0xE0 + k = 0xE0 ↔ k = 0 := by omega
  have last : 0xE0 + k = 0xED ↔ k = 0xD := by omega
  simp only [Lead.ofByte?, toNat_lead (show 0xE0 + k < 0x100 by omega)]
  rw [if_neg (by omega), if_neg (by omega), if_pos (by omega), Nat.add_sub_cancel_left]
  simp only [first, last]

theorem ofByte?_four {k : Nat} (high : k < 5) :
    Lead.ofByte? (UInt8.ofNat (0xF0 + k)) =
      some ⟨3, k, if k = 0 then 0x90 else 0x80, if k = 4 then 0x8F else 0xBF⟩ := by
  have first : 0xF0 + k = 0xF0 ↔ k = 0 := by omega
  have last : 0xF0 + k = 0xF4 ↔ k = 4 := by omega
  simp only [Lead.ofByte?, toNat_lead (show 0xF0 + k < 0x100 by omega)]
  rw [if_neg (by omega), if_neg (by omega), if_neg (by omega), if_pos (by omega),
    Nat.add_sub_cancel_left]
  simp only [first, last]

theorem piecesFrom_encodeChar {c : CodePoint} (scalar : c.isSurrogate = false)
    (read : List (Option CodePoint)) (rest : Bytes) :
    piecesFrom 0 read (encodeChar c ++ rest) = piecesFrom 0 (some c :: read) rest := by
  have bound := c.isLt
  simp only [CodePoint.isSurrogate, Bool.and_eq_false_iff, decide_eq_false_iff_not] at scalar
  -- The number of bytes depends on the number alone; beyond one byte each case is a sequence.
  by_cases one : c.val < 0x80
  · have byte : (UInt8.ofNat c.val).toNat = c.val :=
      UInt8.toNat_ofNat_of_lt (by simp only [UInt8.size]; omega)
    rw [encodeChar, if_pos one, List.cons_append, List.nil_append, piecesFrom, front, byte,
      if_pos one, CodePoint.ofNat?_val]
  by_cases two : c.val < 0x800
  · have byte := toNat_lead (show 0xC0 + c.val >>> 6 < 0x100 by omega)
    rw [encodeChar, if_neg one, if_pos two]
    refine piecesFrom_sequence [] (by omega) (ofByte?_two (by omega) (by omega)) ?_ (by simp) rfl
      ?_ read rest
    · simp only [toNat_trailByte]
      omega
    · simp only [List.foldl_cons, List.foldl_nil, toNat_trailByte]
      omega
  by_cases three : c.val < 0x10000
  · have byte := toNat_lead (show 0xE0 + c.val >>> 12 < 0x100 by omega)
    rw [encodeChar, if_neg one, if_neg two, if_pos three]
    refine piecesFrom_sequence [trailByte c.val 0] (by omega) (ofByte?_three (by omega)) ?_
      (by simp [isTrail_trailByte]) rfl ?_ read rest
    · simp only [toNat_trailByte]
      split <;> split <;> omega
    · simp only [List.foldl_cons, List.foldl_nil, toNat_trailByte]
      omega
  · have byte := toNat_lead (show 0xF0 + c.val >>> 18 < 0x100 by omega)
    rw [encodeChar, if_neg one, if_neg two, if_neg three]
    refine piecesFrom_sequence [trailByte c.val 6, trailByte c.val 0] (by omega)
      (ofByte?_four (by omega)) ?_ (by simp [isTrail_trailByte]) rfl ?_ read rest
    · simp only [toNat_trailByte]
      split <;> split <;> omega
    · simp only [List.foldl_cons, List.foldl_nil, toNat_trailByte]
      omega

theorem piecesFrom_encode {t : Text} (scalar : t.isScalar = true) (read : List (Option CodePoint)) :
    piecesFrom 0 read (encode t) = read.reverse ++ t.map some := by
  induction t generalizing read with
  | nil => simp [encode, piecesFrom]
  | cons c t ih =>
    simp only [Text.isScalar, List.all_cons, Bool.and_eq_true, Bool.not_eq_true'] at scalar
    have split : encode (c :: t) = encodeChar c ++ encode t := List.flatMap_cons
    rw [split, piecesFrom_encodeChar scalar.1, ih (by simpa [Text.isScalar] using scalar.2)]
    simp

theorem decode?_encode {t : Text} (scalar : t.isScalar = true) : decode? (encode t) = some t := by
  rw [decode?, pieces, piecesFrom_encode scalar, List.reverse_nil, List.nil_append, List.mapM_map]
  exact (List.mapM_pure (f := id)).trans (congrArg some (List.map_id t))

end Encoding.Utf8

end LintBook
