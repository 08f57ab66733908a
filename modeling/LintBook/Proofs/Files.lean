import LintBook.Decoding
import LintBook.Proofs.Utf8
import LintBook.Proofs.Wide

/-! Files of text. A text that begins with an ASCII character other than the null character is
found in each of its encodings: the marks tell them apart, and without a mark ASCII and UTF-8 agree
wherever the guess between them falls. -/
namespace LintBook

namespace Encoding

namespace Utf8

/-- On ASCII bytes both codecs read the same characters. -/
theorem decode?_eq_ascii {bs : Bytes} (small : ∀ b ∈ bs, b.toNat < 0x80) :
    decode? bs = bs.mapM Ascii.decodeByte? := by
  have run (read : List (Option CodePoint)) :
      piecesFrom 0 read bs = read.reverse ++ bs.map Ascii.decodeByte? := by
    induction bs generalizing read with
    | nil => simp [piecesFrom]
    | cons b bs ih =>
      obtain ⟨first, later⟩ := List.forall_mem_cons.mp small
      rw [piecesFrom, front, if_pos first, ih later]
      simp [Ascii.decodeByte?, first]
  rw [decode?, pieces, run, List.reverse_nil, List.nil_append, List.mapM_map]
  rfl

theorem encode_cons_ascii {c : CodePoint} (ascii : c.val < 0x80) (t : Text) :
    encode (c :: t) = UInt8.ofNat c.val :: encode t := by
  rw [encode, List.flatMap_cons, encodeChar, if_pos ascii]
  rfl

end Utf8

theorem toNat_ofNat_ascii {c : CodePoint} (ascii : c.val < 0x80) :
    (UInt8.ofNat c.val).toNat = c.val :=
  UInt8.toNat_ofNat_of_lt (by simp only [UInt8.size]; omega)

theorem Utf16.encode_cons_ascii (order : ByteOrder) {c : CodePoint} (ascii : c.val < 0x80)
    (t : Text) : encode order (c :: t) = order.bytes 2 c.val ++ encode order t := by
  rw [encode, List.flatMap_cons, encodeUnits, if_pos (by omega), List.flatMap_singleton]
  rfl

section Guess

theorem guess_unmarked {b : UInt8} (noLittle : b ≠ 0xFF) (noBig : b ≠ 0xFE) (noNull : b ≠ 0)
    (rest : Bytes) :
    guess (b :: rest) =
      if (b :: rest).all (fun b => b.toNat < 0x80) then ("ascii" : Text) else ("utf_8" : Text) := by
  have other {x : UInt8} (different : b ≠ x) (mark : Bytes) :
      (x :: mark).isPrefixOf (b :: rest) = false := by
    simp [List.isPrefixOf, Ne.symm different]
  have wideLittle : (Utf32.mark .little).isPrefixOf (b :: rest) = false := other noLittle _
  have wideBig : (Utf32.mark .big).isPrefixOf (b :: rest) = false := other noNull _
  have little : (Utf16.mark .little).isPrefixOf (b :: rest) = false := other noLittle _
  have big : (Utf16.mark .big).isPrefixOf (b :: rest) = false := other noBig _
  simp only [guess, wideLittle, wideBig, little, big, Bool.or_self, Bool.false_eq_true, if_false,
    ne_eq, reduceCtorEq, not_false_eq_true, true_and]

theorem guess_utf32 (order : ByteOrder) (rest : Bytes) :
    guess (Utf32.mark order ++ rest) = "utf_32" := by
  cases order <;> rfl

/-- The first character is not the null character, so the mark is not taken for one of UTF-32. -/
theorem guess_utf16 (order : ByteOrder) {c : CodePoint} (noNull : 0 < c.val) (ascii : c.val < 0x80)
    (t : Text) : guess (Utf16.mark order ++ Utf16.encode order (c :: t)) = "utf_16" := by
  rw [Utf16.encode_cons_ascii order ascii]
  cases order with
  | little =>
    have low : (0 : UInt8) ≠ UInt8.ofNat c.val := by
      intro same
      have byte := toNat_ofNat_ascii ascii
      rw [← same] at byte
      exact absurd byte (Nat.ne_of_lt noNull)
    have wide : (Utf32.mark .little).isPrefixOf (Utf16.mark .little ++
        (ByteOrder.little.bytes 2 c.val ++ Utf16.encode .little t)) = false := by
      rw [ByteOrder.bytes_two_little, Utf32.mark, Utf16.mark, ByteOrder.bytes_two_little,
        ByteOrder.bytes_four_little]
      simp [List.isPrefixOf, low]
    rw [guess, wide]
    rfl
  | big => rfl

end Guess

end Encoding

/-- How a text is written to a file: the encoding, and a mark in front where there is one. -/
inductive FileForm
  | utf8
  | utf8Marked
  | utf16 (order : Encoding.ByteOrder)
  | utf32 (order : Encoding.ByteOrder)

namespace FileForm

open Encoding

def encode : FileForm → Text → Bytes
  | utf8, t => Utf8.encode t
  | utf8Marked, t => Utf8.mark ++ Utf8.encode t
  | utf16 order, t => Utf16.mark order ++ Utf16.encode order t
  | utf32 order, t => Utf32.mark order ++ Utf32.encode order t

end FileForm

namespace Decoding

open Encoding

theorem firstChoice_unmarked {name : Text} {raw : Bytes} (named : name ≠ [])
    (unmarked : Utf8.mark.isPrefixOf raw = false) : firstChoice (some name) raw = name := by
  cases name with
  | nil => contradiction
  | cons c name => simp [firstChoice, unmarked]

theorem decode_strict {detected : Option Text} {raw : Bytes} {t : Text}
    (strict : decodeNamed? (firstChoice detected raw) raw = some t) :
    (decode detected raw).value = (t, ⟨detected, firstChoice detected raw, false, raw.sha256⟩) := by
  rw [decode, strict]
  rfl

theorem decodeNamed?_eq {name : Text} {codec : Codec} (known : Codec.ofName? name = some codec)
    {raw : Bytes} (some_byte : raw ≠ []) : decodeNamed? name raw = codec.decode? raw := by
  rw [decodeNamed?, if_neg some_byte, known, Option.bind_some]

section Guessed

variable {c : CodePoint} {t : Text} (noNull : 0 < c.val) (ascii : c.val < 0x80)

include noNull ascii

theorem guess_utf8 :
    guess (Utf8.encode (c :: t)) =
      if (Utf8.encode (c :: t)).all (fun b => b.toNat < 0x80) then ("ascii" : Text)
      else ("utf_8" : Text) := by
  have byte := toNat_ofNat_ascii ascii
  have other (x : UInt8) (far : x.toNat = 0 ∨ 0x80 ≤ x.toNat) : UInt8.ofNat c.val ≠ x := by
    rintro rfl
    omega
  rw [Utf8.encode_cons_ascii ascii]
  exact guess_unmarked (other 0xFF (by decide)) (other 0xFE (by decide)) (other 0 (by decide)) _

theorem firstChoice_utf8 :
    firstChoice (some (guess (Utf8.encode (c :: t)))) (Utf8.encode (c :: t)) =
      guess (Utf8.encode (c :: t)) := by
  have named : guess (Utf8.encode (c :: t)) ≠ [] := by
    rw [guess_utf8 noNull ascii]
    split <;> decide
  have byte := toNat_ofNat_ascii ascii
  have first : (0xEF : UInt8) ≠ UInt8.ofNat c.val := by
    intro same
    rw [← same] at byte
    exact absurd (byte ▸ ascii) (by decide)
  refine firstChoice_unmarked named ?_
  rw [Utf8.encode_cons_ascii ascii]
  simp [Utf8.mark, List.isPrefixOf, first]

theorem decodeNamed?_utf8 (scalar : Text.isScalar (c :: t) = true) :
    decodeNamed? (guess (Utf8.encode (c :: t))) (Utf8.encode (c :: t)) = some (c :: t) := by
  have some_byte : Utf8.encode (c :: t) ≠ [] := by simp [Utf8.encode_cons_ascii ascii]
  rw [guess_utf8 noNull ascii]
  -- Where the guess falls on ASCII, every byte is a character under both codecs.
  split
  case isTrue small =>
    have small : ∀ b ∈ Utf8.encode (c :: t), b.toNat < 0x80 := by
      simpa only [List.all_eq_true, decide_eq_true_eq] using small
    have known : Codec.ofName? "ascii" = some .ascii := by decide
    rw [decodeNamed?_eq known some_byte, Codec.decode?, ← Utf8.decode?_eq_ascii small,
      Utf8.decode?_encode scalar]
  case isFalse =>
    have known : Codec.ofName? "utf_8" = some .utf8 := by decide
    rw [decodeNamed?_eq known some_byte, Codec.decode?, Utf8.decode?_encode scalar]

/-- The guessed codec reads a text back from each of its encodings. -/
theorem decodeNamed?_guess (form : FileForm) (scalar : Text.isScalar (c :: t) = true) :
    decodeNamed? (firstChoice (some (guess (form.encode (c :: t)))) (form.encode (c :: t)))
      (form.encode (c :: t)) = some (c :: t) := by
  cases form with
  | utf8 =>
    rw [FileForm.encode, firstChoice_utf8 noNull ascii]
    exact decodeNamed?_utf8 noNull ascii scalar
  | utf8Marked =>
    have guessed : guess (Utf8.mark ++ Utf8.encode (c :: t)) = "utf_8" :=
      (guess_unmarked (by decide) (by decide) (by decide) _).trans rfl
    -- A marked file is not decoded by the codec that was guessed.
    have choice : firstChoice (some "utf_8") (Utf8.mark ++ Utf8.encode (c :: t)) =
        "utf-8-sig" := rfl
    have known : Codec.ofName? "utf-8-sig" = some .utf8Marked := by decide
    rw [FileForm.encode, guessed, choice, decodeNamed?_eq known (by simp [Utf8.mark])]
    exact Utf8.decode?_encode scalar
  | utf16 order =>
    have known : Codec.ofName? "utf_16" = some .utf16 := by decide
    have some_byte : Utf16.mark order ++ Utf16.encode order (c :: t) ≠ [] := by
      cases order <;> simp [Utf16.mark, ByteOrder.bytes]
    have unmarked : Utf8.mark.isPrefixOf (Utf16.mark order ++ Utf16.encode order (c :: t)) =
        false := by
      cases order <;> rfl
    have ordered : Utf16.ordered (Utf16.mark order ++ Utf16.encode order (c :: t)) =
        (order, Utf16.encode order (c :: t)) := by
      cases order <;> rfl
    rw [FileForm.encode, guess_utf16 order noNull ascii, firstChoice_unmarked (by decide) unmarked,
      decodeNamed?_eq known some_byte, Codec.decode?, ordered, Utf16.decode?_encode order scalar]
  | utf32 order =>
    have known : Codec.ofName? "utf_32" = some .utf32 := by decide
    have some_byte : Utf32.mark order ++ Utf32.encode order (c :: t) ≠ [] := by
      cases order <;> simp [Utf32.mark, ByteOrder.bytes]
    have unmarked : Utf8.mark.isPrefixOf (Utf32.mark order ++ Utf32.encode order (c :: t)) =
        false := by
      cases order <;> rfl
    have ordered : Utf32.ordered (Utf32.mark order ++ Utf32.encode order (c :: t)) =
        (order, Utf32.encode order (c :: t)) := by
      cases order <;> rfl
    rw [FileForm.encode, guess_utf32 order, firstChoice_unmarked (by decide) unmarked,
      decodeNamed?_eq known some_byte, Codec.decode?, ordered, Utf32.decode?_encode order scalar]

/-- A file is decoded to the text that was written to it, and no fallback is reported. -/
theorem decode_encode (form : FileForm) (scalar : Text.isScalar (c :: t) = true) :
    ∃ report : Report, report.fallback = false ∧
      (decode (some (guess (form.encode (c :: t)))) (form.encode (c :: t))).value =
        (c :: t, report) :=
  ⟨_, rfl, decode_strict (decodeNamed?_guess noNull ascii form scalar)⟩

end Guessed

end Decoding

end LintBook
