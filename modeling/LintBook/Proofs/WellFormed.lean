import Mathlib.Data.List.Basic
import LintBook.Proofs.Utf8

/-! Well-formed UTF-8. The pieces of a byte string follow one another: a piece with a character is
the one encoding of that character, so strict decoding succeeds on encodings alone, and replacing
decoding does not differ from it there. -/
namespace LintBook

theorem CodePoint.val_of_ofNat? {n : Nat} {c : CodePoint} (known : CodePoint.ofNat? n = some c) :
    c.val = n := by
  unfold CodePoint.ofNat? at known
  split at known
  · rw [← Option.some.inj known]
  · cases known

namespace Encoding.Utf8

section Pieces

theorem piecesFrom_eq_append (skip : Nat) (read : List (Option CodePoint)) (bs : Bytes) :
    piecesFrom skip read bs = read.reverse ++ piecesFrom skip [] bs := by
  induction bs generalizing skip read with
  | nil => simp [piecesFrom]
  | cons b rest ih =>
    cases skip with
    | zero =>
      rw [piecesFrom, piecesFrom, ih, ih _ [_]]
      simp
    | succ n => exact ih n read

theorem piecesFrom_eq_pieces_drop (skip : Nat) (bs : Bytes) :
    piecesFrom skip [] bs = pieces (bs.drop skip) := by
  induction bs generalizing skip with
  | nil => cases skip <;> rfl
  | cons b rest ih =>
    cases skip with
    | zero => rfl
    | succ n => exact ih n

theorem pieces_cons (b : UInt8) (rest : Bytes) :
    pieces (b :: rest) = (front b rest).1 :: pieces (rest.drop (front b rest).2) := by
  rw [pieces, piecesFrom, piecesFrom_eq_append, piecesFrom_eq_pieces_drop]
  rfl

theorem pieces_encodeChar_append {c : CodePoint} (scalar : c.isSurrogate = false) (rest : Bytes) :
    pieces (encodeChar c ++ rest) = some c :: pieces rest := by
  rw [pieces, piecesFrom_encodeChar scalar, piecesFrom_eq_append]
  rfl

theorem decode?_eq_some_iff_pieces {bs : Bytes} {t : Text} :
    decode? bs = some t ↔ pieces bs = t.map some := by
  rw [decode?]
  generalize pieces bs = ps
  induction ps generalizing t with
  | nil => cases t <;> simp
  | cons p ps ih =>
    cases p with
    | none => cases t <;> simp
    | some d =>
      cases t with
      | nil => simp [Option.bind_eq_some_iff]
      | cons c t =>
        simpa [Option.bind_eq_some_iff, ih] using and_comm

end Pieces

section Fronts

theorem ofNat_eq {n : Nat} {b : UInt8} (value : n = b.toNat) : UInt8.ofNat n = b := by
  rw [value, UInt8.ofNat_toNat]

theorem isTrail_iff {b : UInt8} : isTrail b = true ↔ 0x80 ≤ b.toNat ∧ b.toNat < 0xC0 := by
  rw [isTrail, Bool.and_eq_true, decide_eq_true_eq, decide_eq_true_eq]

theorem trailByte_eq {n shift : Nat} {b : UInt8} (trail : isTrail b = true)
    (bits : (n >>> shift) % 64 = b.toNat - 0x80) : trailByte n shift = b := by
  rw [isTrail_iff] at trail
  exact ofNat_eq (by omega)

/-- What a lead byte announces, by the three lengths of sequences. The byte behind it is one that
continues a sequence, and for four lead bytes not each of these. -/
theorem ofByte?_cases {b : UInt8} {l : Lead} (lead : Lead.ofByte? b = some l) :
    0x80 ≤ l.low ∧ l.high ≤ 0xBF ∧
      ((0xC2 ≤ b.toNat ∧ b.toNat < 0xE0 ∧ l.following = 1 ∧ l.bits = b.toNat - 0xC0) ∨
        (0xE0 ≤ b.toNat ∧ b.toNat < 0xF0 ∧ l.following = 2 ∧ l.bits = b.toNat - 0xE0 ∧
          (b.toNat = 0xE0 → l.low = 0xA0) ∧ (b.toNat = 0xED → l.high = 0x9F)) ∨
        (0xF0 ≤ b.toNat ∧ b.toNat < 0xF5 ∧ l.following = 3 ∧ l.bits = b.toNat - 0xF0 ∧
          (b.toNat = 0xF0 → l.low = 0x90) ∧ (b.toNat = 0xF4 → l.high = 0x8F))) := by
  simp only [Lead.ofByte?] at lead
  split at lead
  · cases lead
  split at lead
  · obtain rfl := Option.some.inj lead
    exact ⟨Nat.le_refl _, Nat.le_refl _, Or.inl ⟨by omega, by omega, rfl, rfl⟩⟩
  split at lead
  · obtain rfl := Option.some.inj lead
    exact ⟨by simp only; split <;> omega, by simp only; split <;> omega,
      Or.inr (Or.inl ⟨by omega, by omega, rfl, rfl, fun h => if_pos h, fun h => if_pos h⟩)⟩
  split at lead
  · obtain rfl := Option.some.inj lead
    exact ⟨by simp only; split <;> omega, by simp only; split <;> omega,
      Or.inr (Or.inr ⟨by omega, by omega, rfl, rfl, fun h => if_pos h, fun h => if_pos h⟩)⟩
  · cases lead

theorem trail_begins (l : Lead) (rest : Bytes) : l.trail rest <+: rest := by
  cases rest with
  | nil => exact List.prefix_refl _
  | cons b rest =>
    rw [Lead.trail]
    split
    · exact (List.cons_prefix_cons).mpr
        ⟨rfl, (List.takeWhile_prefix _).trans (List.take_prefix _ _)⟩
    · exact List.nil_prefix

theorem trail_cons {l : Lead} {rest more : Bytes} {first : UInt8}
    (cut : l.trail rest = first :: more) :
    (l.low ≤ first.toNat ∧ first.toNat ≤ l.high) ∧ ∀ b ∈ more, isTrail b = true := by
  cases rest with
  | nil => cases cut
  | cons b rest =>
    rw [Lead.trail] at cut
    split at cut
    · rename_i inRange
      obtain ⟨rfl, rfl⟩ := List.cons.inj cut
      exact ⟨inRange, fun d among => List.mem_takeWhile_imp among⟩
    · cases cut

theorem value?_eq_some {l : Lead} {trail : Bytes} {c : CodePoint} (value : l.value? trail = some c) :
    trail.length = l.following ∧
      c.val = trail.foldl (fun n b => n * 64 + (b.toNat - 0x80)) l.bits := by
  rw [Lead.value?] at value
  split at value
  · rename_i count
    exact ⟨count, CodePoint.val_of_ofNat? value⟩
  · cases value

theorem not_isSurrogate {c : CodePoint} (value : c.val < 0xD800 ∨ 0xDFFF < c.val) :
    c.isSurrogate = false := by
  simp only [CodePoint.isSurrogate, Bool.and_eq_false_iff, decide_eq_false_iff_not]
  omega

/-- A complete sequence is the encoding of its character: the narrowed ranges leave one way to
write a number, and none to write half of a pair. -/
theorem encodeChar_of_sequence {b : UInt8} {rest : Bytes} {l : Lead} {c : CodePoint}
    (lead : Lead.ofByte? b = some l) (read : l.value? (l.trail rest) = some c) :
    c.isSurrogate = false ∧ encodeChar c = b :: l.trail rest := by
  obtain ⟨count, value⟩ := value?_eq_some read
  obtain ⟨trailLow, trailHigh, announced⟩ := ofByte?_cases lead
  cases cut : l.trail rest with
  | nil =>
    rw [cut, List.length_nil] at count
    omega
  | cons first more =>
    obtain ⟨inRange, trails⟩ := trail_cons cut
    rw [cut, List.length_cons] at count
    rw [cut] at value
    have firstTrail : isTrail first = true := isTrail_iff.mpr (by omega)
    -- In each case the number has the bits of the lead byte above those of the bytes behind it.
    rcases announced with ⟨_, _, two, bits⟩ | ⟨_, _, three, bits, _, _⟩ | ⟨_, _, four, bits, _, _⟩
    · obtain rfl := List.length_eq_zero_iff.mp (by omega : more.length = 0)
      simp only [List.foldl_cons, List.foldl_nil, bits] at value
      refine ⟨not_isSurrogate (by omega), ?_⟩
      rw [encodeChar, if_neg (by omega), if_pos (by omega), ofNat_eq (b := b) (by omega),
        trailByte_eq firstTrail (by omega)]
    · obtain ⟨second, rfl⟩ := List.length_eq_one_iff.mp (by omega : more.length = 1)
      have secondTrail := trails second (by simp)
      have secondRange := isTrail_iff.mp secondTrail
      simp only [List.foldl_cons, List.foldl_nil, bits] at value
      refine ⟨not_isSurrogate (by omega), ?_⟩
      rw [encodeChar, if_neg (by omega), if_neg (by omega), if_pos (by omega),
        ofNat_eq (b := b) (by omega), trailByte_eq firstTrail (by omega),
        trailByte_eq secondTrail (by omega)]
    · obtain ⟨second, third, rfl⟩ := List.length_eq_two.mp (by omega : more.length = 2)
      have secondTrail := trails second (by simp)
      have thirdTrail := trails third (by simp)
      have secondRange := isTrail_iff.mp secondTrail
      have thirdRange := isTrail_iff.mp thirdTrail
      simp only [List.foldl_cons, List.foldl_nil, bits] at value
      refine ⟨not_isSurrogate (by omega), ?_⟩
      rw [encodeChar, if_neg (by omega), if_neg (by omega), if_neg (by omega),
        ofNat_eq (b := b) (by omega), trailByte_eq firstTrail (by omega),
        trailByte_eq secondTrail (by omega), trailByte_eq thirdTrail (by omega)]

/-- A piece with a character is the encoding of it. -/
theorem encodeChar_of_front {b : UInt8} {rest : Bytes} {c : CodePoint}
    (read : (front b rest).1 = some c) :
    c.isSurrogate = false ∧ encodeChar c = b :: rest.take (front b rest).2 := by
  rw [front] at read ⊢
  by_cases ascii : b.toNat < 0x80
  · rw [if_pos ascii] at read ⊢
    have value : c.val = b.toNat := CodePoint.val_of_ofNat? read
    refine ⟨not_isSurrogate (by omega), ?_⟩
    rw [encodeChar, if_pos (by omega), ofNat_eq value]
    rfl
  · rw [if_neg ascii] at read ⊢
    cases lead : Lead.ofByte? b with
    | none =>
      rw [lead] at read
      cases read
    | some l =>
      rw [lead] at read
      simp only
      rw [← List.prefix_iff_eq_take.mp (trail_begins l rest)]
      exact encodeChar_of_sequence lead read

end Fronts

/-- Pieces with a character each are the sequences of a text without surrogates, one after
another. -/
theorem eq_encode_of_pieces {bs : Bytes} {t : Text} (read : pieces bs = t.map some) :
    t.isScalar = true ∧ bs = encode t := by
  induction t generalizing bs with
  | nil =>
    cases bs with
    | nil => exact ⟨rfl, rfl⟩
    | cons b rest =>
      rw [pieces_cons] at read
      cases read
  | cons c t ih =>
    cases bs with
    | nil => cases read
    | cons b rest =>
      rw [pieces_cons, List.map_cons, List.cons.injEq] at read
      obtain ⟨scalar, first⟩ := encodeChar_of_front read.1
      obtain ⟨scalars, later⟩ := ih read.2
      refine ⟨by simp only [Text.isScalar, List.all_cons, scalar]; exact scalars, ?_⟩
      calc b :: rest
        _ = b :: (rest.take (front b rest).2 ++ rest.drop (front b rest).2) := by
          rw [List.take_append_drop]
        _ = encodeChar c ++ encode t := by rw [first, ← later, List.cons_append]
        _ = encode (c :: t) := (List.flatMap_cons).symm

/-- Strict decoding accepts encodings of texts without surrogates and nothing else. -/
theorem decode?_eq_some_iff {bs : Bytes} {t : Text} :
    decode? bs = some t ↔ t.isScalar = true ∧ bs = encode t := by
  constructor
  · intro read
    exact eq_encode_of_pieces (decode?_eq_some_iff_pieces.mp read)
  · rintro ⟨scalar, rfl⟩
    exact decode?_encode scalar

theorem decodeReplacing_of_decode? {bs : Bytes} {t : Text} (read : decode? bs = some t) :
    decodeReplacing bs = t := by
  rw [decodeReplacing, decode?_eq_some_iff_pieces.mp read, List.map_map]
  exact List.map_id t

theorem decodeReplacing_encode {t : Text} (scalar : t.isScalar = true) :
    decodeReplacing (encode t) = t :=
  decodeReplacing_of_decode? (decode?_encode scalar)

section Mark

theorem mark_eq_encodeChar : mark = encodeChar .byteOrderMark := by decide

theorem pieces_mark_append (bs : Bytes) :
    pieces (mark ++ bs) = some .byteOrderMark :: pieces bs := by
  rw [mark_eq_encodeChar, pieces_encodeChar_append (by decide)]

theorem decodeReplacing_mark_append (bs : Bytes) :
    decodeReplacing (mark ++ bs) = .byteOrderMark :: decodeReplacing bs := by
  rw [decodeReplacing, pieces_mark_append, List.map_cons]
  rfl

/-- Nothing else than a mark is read as U+FEFF, and what is ill formed is shown as another
character. -/
theorem mark_prefix_of_head {bs : Bytes}
    (head : (decodeReplacing bs).head? = some .byteOrderMark) : mark <+: bs := by
  cases bs with
  | nil => cases head
  | cons b rest =>
    rw [decodeReplacing, pieces_cons, List.map_cons, List.head?_cons, Option.some.injEq] at head
    have read : (front b rest).1 = some .byteOrderMark := by
      cases first : (front b rest).1 with
      | none =>
        rw [first] at head
        exact absurd head (by decide)
      | some c => rw [first, Option.getD_some] at head; rw [head]
    rw [mark_eq_encodeChar, (encodeChar_of_front read).2, List.cons_prefix_cons]
    exact ⟨rfl, List.take_prefix _ rest⟩

end Mark

end Encoding.Utf8

end LintBook
