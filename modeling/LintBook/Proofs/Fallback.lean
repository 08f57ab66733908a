import LintBook.Proofs.Comments
import LintBook.Proofs.Files
import LintBook.Proofs.WellFormed

/-! The fallback of decoding. One codec is tried, and where it does not apply the bytes are taken
for UTF-8, whichever way that is done. A text that is UTF-8 therefore survives a codec that was
wrongly detected, but so does the mark in front of it. -/
namespace LintBook

namespace Encoding

/-- A name in lower case and with underscores for hyphens. -/
def spelling (name : Text) : Text :=
  name.map fun (c : CodePoint) => if c = '-' then '_' else c.lowerAscii

theorem isNameChar_lowerAscii (c : CodePoint) : isNameChar c.lowerAscii = isNameChar c := by
  have letter : c.lowerAscii.isAsciiLetter = c.isAsciiLetter := by
    rw [CodePoint.isAsciiLetter, CodePoint.isAsciiLetter, CodePoint.lowerAscii_lowerAscii]
  have digit : c.lowerAscii.isAsciiDigit = c.isAsciiDigit := by
    refine CodePoint.apply_lowerAscii (fun c capital => ?_) c
    have moved := CodePoint.val_lowerAscii capital
    obtain ⟨low, high⟩ := capital
    rw [Bool.eq_iff_iff]
    simp only [CodePoint.isAsciiDigit, moved, Bool.and_eq_true, decide_eq_true_eq]
    omega
  have stop : c.lowerAscii = '.' ↔ c = '.' := CodePoint.lowerAscii_eq_iff (by decide) c
  simp only [isNameChar, letter, digit, stop]

theorem nameParts_spelling (name : Text) : nameParts (spelling name) = nameParts name := by
  have spaced : (spelling name).map (fun c => if isNameChar c then c.lowerAscii else '_') =
      name.map fun c => if isNameChar c then c.lowerAscii else '_' := by
    rw [spelling, List.map_map]
    apply List.map_congr_left
    intro c _
    by_cases hyphen : c = '-'
    · subst hyphen
      decide
    · simp only [Function.comp_apply, if_neg hyphen, isNameChar_lowerAscii,
        CodePoint.lowerAscii_lowerAscii]
  rw [nameParts, nameParts, spaced]

/-- A codec is the same in any spelling of its name. -/
theorem ofName?_spelling (name : Text) : Codec.ofName? (spelling name) = Codec.ofName? name := by
  have same : normalizedName (spelling name) = normalizedName name := by
    rw [normalizedName, normalizedName, nameParts_spelling]
  rw [Codec.ofName?, Codec.ofName?, same]

/-- A name of UTF-8, with or without the mark. -/
def IsUtf8 (name : Text) : Prop :=
  Codec.ofName? name = some .utf8 ∨ Codec.ofName? name = some .utf8Marked

instance (name : Text) : Decidable (IsUtf8 name) := inferInstanceAs (Decidable (_ ∨ _))

theorem isUtf8_of_spelling {name : Text}
    (spelled : spelling name ∈ [("utf_8" : Text), "utf8", "u8", "utf_8_sig"]) : IsUtf8 name := by
  have all : ∀ word ∈ [("utf_8" : Text), "utf8", "u8", "utf_8_sig"], IsUtf8 word := by decide
  have found := all _ spelled
  rwa [IsUtf8, ofName?_spelling] at found

end Encoding

namespace Decoding

open Encoding

/-- The name that was detected. An empty one is no answer. -/
def answer (detected : Option Text) : Option Text := detected.filter fun name => name ≠ []

/-- The name of the codec to begin with, but for a file with a mark. -/
def named (detected : Option Text) : Text := (answer detected).getD "utf-8"

theorem namesUtf8_iff (name : Text) :
    namesUtf8 name = true ↔ spelling name ∈ [("utf_8" : Text), ("utf8" : Text)] := by
  simp [namesUtf8, spelling]

theorem firstChoice_eq (detected : Option Text) (raw : Bytes) :
    firstChoice detected raw =
      if Utf8.mark <+: raw ∧ namesUtf8 (named detected) = true then ("utf-8-sig" : Text)
      else named detected := by
  rcases detected with _ | _ | ⟨c, name⟩ <;>
    simp only [firstChoice, List.isPrefixOf_iff_prefix] <;> rfl

theorem decode_fallback {detected : Option Text} {raw : Bytes}
    (fails : decodeNamed? (firstChoice detected raw) raw = none) :
    (decode detected raw).value =
      (Utf8.decodeReplacing raw, ⟨detected, "utf-8", true, raw.sha256⟩) := by
  rw [decode, fails, Logged.value_bind]
  cases strict : Utf8.decode? raw with
  | none => rfl
  | some t => rw [Utf8.decodeReplacing_of_decode? strict]; rfl

/-- Under this name the bytes are not decoded: it is no codec's, or its codec refuses them. -/
def Misses (name : Text) (raw : Bytes) : Prop :=
  ∀ codec, Codec.ofName? name = some codec → Codec.decode? raw codec = none

theorem decodeNamed?_eq_none_iff {name : Text} {raw : Bytes} :
    decodeNamed? name raw = none ↔ raw ≠ [] ∧ Misses name raw := by
  by_cases empty : raw = []
  · simp [decodeNamed?, empty]
  · rw [decodeNamed?, if_neg empty, Option.bind_eq_none_iff]
    exact (and_iff_right empty).symm

/-- A file is decoded by the codec of the name that was detected, or of UTF-8 without one, and with
a mark in front by the codec that consumes it where the name is a plain one of UTF-8. If that codec
is none or refuses the bytes, these are UTF-8 with U+FFFD for what is ill formed, and the report says
so: a text that the bytes encode is then found whole. -/
theorem decode_reported (detected : Option Text) (raw : Bytes) :
    ∃ (first text : Text) (report : Report), (decode detected raw).value = (text, report) ∧
      ((Utf8.mark <+: raw ∧ spelling (named detected) ∈ [("utf_8" : Text), ("utf8" : Text)] →
          first = "utf-8-sig") ∧
        (¬ (Utf8.mark <+: raw ∧ spelling (named detected) ∈ [("utf_8" : Text), ("utf8" : Text)]) →
          first = named detected)) ∧
      report.detected = detected ∧ report.digest = raw.sha256 ∧
      ((decodeNamed? first raw = some text ∧ report.used = first ∧ report.fallback = false) ∨
        (decodeNamed? first raw = none ∧ text = Utf8.decodeReplacing raw ∧
          (∀ t, t.isScalar = true → raw = Utf8.encode t → text = t) ∧
          report.used = "utf-8" ∧ report.fallback = true)) := by
  have choice := firstChoice_eq detected raw
  simp only [namesUtf8_iff] at choice
  have begun := And.intro (fun plain => choice.trans (if_pos plain))
    fun other => choice.trans (if_neg other)
  cases strict : decodeNamed? (firstChoice detected raw) raw with
  | some t =>
    exact ⟨_, t, _, decode_strict strict, begun, rfl, rfl, Or.inl ⟨strict, rfl, rfl⟩⟩
  | none =>
    refine ⟨_, _, _, decode_fallback strict, begun, rfl, rfl, Or.inr ⟨strict, rfl, ?_, rfl, rfl⟩⟩
    rintro t scalar rfl
    exact Utf8.decodeReplacing_encode scalar

section Mark

variable {detected : Option Text} {bs : Bytes}

/-- Under the detected name a mark in front of a file is consumed. -/
def ConsumesMark (detected : Option Text) : Prop :=
  ∀ name ∈ answer detected, spelling name ∈ [("utf_8" : Text), ("utf8" : Text)] ∨
    Codec.ofName? name = some .utf8Marked

theorem ofName?_firstChoice_mark :
    Codec.ofName? (firstChoice detected (Utf8.mark ++ bs)) = some .utf8Marked ↔
      ConsumesMark detected := by
  have consuming : Codec.ofName? "utf-8-sig" = some .utf8Marked := by decide
  have marked : Utf8.mark <+: Utf8.mark ++ bs := List.prefix_append _ _
  simp only [firstChoice_eq, marked, true_and, named, ConsumesMark, namesUtf8_iff]
  cases answer detected with
  | none =>
    have plain : spelling "utf-8" ∈ [("utf_8" : Text), ("utf8" : Text)] := by decide
    rw [Option.getD_none, if_pos plain]
    simp [consuming]
  | some name =>
    by_cases plain : spelling name ∈ [("utf_8" : Text), ("utf8" : Text)]
    · rw [Option.getD_some, if_pos plain]
      simp only [consuming, Option.mem_some_iff, forall_eq', plain, true_or]
    · rw [Option.getD_some, if_neg plain]
      simp only [Option.mem_some_iff, forall_eq', plain, false_or]

/-- Where a marked file is taken for UTF-8, the text begins behind the mark if its codec consumes it
and is not given up, and with U+FEFF otherwise. -/
theorem decode_mark (utf8 : IsUtf8 (decode detected (Utf8.mark ++ bs)).value.2.used) :
    ((decode detected (Utf8.mark ++ bs)).value.1 = Utf8.decodeReplacing bs ∧
        (decode detected (Utf8.mark ++ bs)).value.2.fallback = false ∧
        ConsumesMark detected ∧ ∃ t, Utf8.decode? bs = some t) ∨
      ((decode detected (Utf8.mark ++ bs)).value.1 =
          .byteOrderMark :: Utf8.decodeReplacing bs ∧
        ¬ (ConsumesMark detected ∧ ∃ t, Utf8.decode? bs = some t)) := by
  have some_byte : Utf8.mark ++ bs ≠ [] := by simp [Utf8.mark]
  have consumed : Codec.decode? (Utf8.mark ++ bs) .utf8Marked = Utf8.decode? bs := rfl
  cases strict : decodeNamed? (firstChoice detected (Utf8.mark ++ bs)) (Utf8.mark ++ bs) with
  | none =>
    refine Or.inr ⟨?_, ?_⟩
    · rw [decode_fallback strict]
      exact Utf8.decodeReplacing_mark_append bs
    · rintro ⟨consumes, t, wellFormed⟩
      rw [decodeNamed?_eq (ofName?_firstChoice_mark.mpr consumes) some_byte, consumed,
        wellFormed] at strict
      cases strict
  | some t =>
    rw [decode_strict strict] at utf8 ⊢
    rcases utf8 with plain | consuming
    · refine Or.inr ⟨?_, ?_⟩
      · rw [decodeNamed?_eq plain some_byte, Codec.decode?] at strict
        exact (Utf8.decodeReplacing_of_decode? strict).symm.trans
          (Utf8.decodeReplacing_mark_append bs)
      · rintro ⟨consumes, _⟩
        rw [ofName?_firstChoice_mark.mpr consumes] at plain
        cases plain
    · rw [decodeNamed?_eq consuming some_byte, consumed] at strict
      exact Or.inl ⟨(Utf8.decodeReplacing_of_decode? strict).symm, rfl,
        ofName?_firstChoice_mark.mp consuming, t, strict⟩

/-- A mark in front of a file that is taken for UTF-8 is consumed exactly if the detected name has
it consumed and the rest is well formed. Otherwise, and so in every fallback, it is kept as U+FEFF
before the text, which has none of its own there. -/
theorem decode_consumes_mark_iff (single : ¬ Utf8.mark <+: bs)
    (utf8 : IsUtf8 (decode detected (Utf8.mark ++ bs)).value.2.used) :
    ((decode detected (Utf8.mark ++ bs)).value.1 = Utf8.decodeReplacing bs ↔
        ConsumesMark detected ∧ ∃ t, t.isScalar = true ∧ bs = Utf8.encode t) ∧
      ((decode detected (Utf8.mark ++ bs)).value.1 ≠ Utf8.decodeReplacing bs →
        (decode detected (Utf8.mark ++ bs)).value.1 =
          .byteOrderMark :: Utf8.decodeReplacing bs) ∧
      ((decode detected (Utf8.mark ++ bs)).value.2.fallback = true →
        (decode detected (Utf8.mark ++ bs)).value.1 ≠ Utf8.decodeReplacing bs) ∧
      (Utf8.decodeReplacing bs).head? ≠ some .byteOrderMark := by
  simp only [← Utf8.decode?_eq_some_iff]
  have bare := mt Utf8.mark_prefix_of_head single
  rcases decode_mark utf8 with ⟨behind, first, consumes⟩ | ⟨kept, keeps⟩
  · refine ⟨iff_of_true behind consumes, fun differs => absurd behind differs, ?_, bare⟩
    rw [first]
    exact fun given => absurd given Bool.false_ne_true
  · have differs : (decode detected (Utf8.mark ++ bs)).value.1 ≠ Utf8.decodeReplacing bs := by
      rw [kept]
      exact List.cons_ne_self _ _
    exact ⟨iff_of_false differs keeps, fun _ => kept, fun _ => differs, bare⟩

/-- With a codec that refuses the mark. -/
theorem decode_consumes_mark_iff_refused :
    ¬ Utf8.mark <+: [0xC3, 0xA9] ∧
      IsUtf8 (decode (some "us-ascii") (Utf8.mark ++ [0xC3, 0xA9])).value.2.used ∧
      (decode (some "us-ascii") (Utf8.mark ++ [0xC3, 0xA9])).value.1 =
        .byteOrderMark :: Utf8.decodeReplacing [0xC3, 0xA9] := by
  have single : ¬ Utf8.mark <+: [0xC3, 0xA9] := by decide
  have utf8 : IsUtf8 (decode (some "us-ascii") (Utf8.mark ++ [0xC3, 0xA9])).value.2.used := by
    decide
  refine ⟨single, utf8, (decode_consumes_mark_iff single utf8).2.1 ?_⟩
  rw [Ne, (decode_consumes_mark_iff single utf8).1]
  rintro ⟨consumes, _⟩
  have spelled := consumes "us-ascii" rfl
  revert spelled
  decide

/-- Nothing was detected, and behind the mark is a byte that is not well formed. -/
theorem decode_keeps_mark :
    ¬ ∀ (detected : Option Text) (bs : Bytes), ¬ Utf8.mark <+: bs →
      IsUtf8 (decode detected (Utf8.mark ++ bs)).value.2.used →
        (decode detected (Utf8.mark ++ bs)).value.1 = Utf8.decodeReplacing bs := by
  intro consumed
  have text := consumed none [0xFF] (by decide) (by decide)
  revert text
  decide

end Mark

section Encoded

variable {s : Text} (scalar : s.isScalar = true) (unmarked : s.head? ≠ some .byteOrderMark)

include scalar unmarked

theorem not_mark_prefix_encode : ¬ Utf8.mark <+: Utf8.encode s := by
  rintro ⟨rest, marked⟩
  have text := Utf8.decodeReplacing_encode scalar
  rw [← marked, Utf8.decodeReplacing_mark_append] at text
  exact unmarked (by rw [← text]; rfl)

theorem decodeNamed?_encode {name : Text} (utf8 : IsUtf8 name) :
    decodeNamed? name (Utf8.encode s) = some s := by
  have strict := Utf8.decode?_encode scalar
  by_cases empty : Utf8.encode s = []
  · rw [empty] at strict
    rw [decodeNamed?, if_pos empty]
    exact strict
  rcases utf8 with plain | marked
  · rw [decodeNamed?_eq plain empty]
    exact strict
  · rw [decodeNamed?_eq marked empty, Codec.decode?, if_neg]
    · exact strict
    · rw [List.isPrefixOf_iff_prefix]
      exact not_mark_prefix_encode scalar unmarked

/-- A text that was written in UTF-8 is read back whole if nothing was detected, or UTF-8, or a codec
that is unknown or refuses the bytes. A fallback is reported in the last case alone. -/
theorem decode_survives {detected : Option Text}
    (answered : ∀ name ∈ answer detected,
      spelling name ∈ [("utf_8" : Text), "utf8", "u8", "utf_8_sig"] ∨
        Misses name (Utf8.encode s)) :
    ∃ report : Report, (decode detected (Utf8.encode s)).value = (s, report) ∧
      (s ≠ [] → (report.fallback = true ↔
        ∃ name ∈ answer detected, Misses name (Utf8.encode s))) := by
  by_cases empty : s = []
  · subst empty
    exact ⟨_, decode_strict rfl, fun some_char => absurd rfl some_char⟩
  have some_byte : Utf8.encode s ≠ [] := by
    intro none_left
    have text := Utf8.decodeReplacing_encode scalar
    rw [none_left] at text
    exact empty text.symm
  have choice : firstChoice detected (Utf8.encode s) = named detected := by
    rw [firstChoice_eq, if_neg fun h => not_mark_prefix_encode scalar unmarked h.1]
  by_cases misses : ∃ name ∈ answer detected, Misses name (Utf8.encode s)
  · obtain ⟨name, given, missed⟩ := misses
    have strict : decodeNamed? (firstChoice detected (Utf8.encode s)) (Utf8.encode s) = none := by
      rw [choice, named, given, Option.getD_some]
      exact decodeNamed?_eq_none_iff.mpr ⟨some_byte, missed⟩
    have fallback := decode_fallback strict
    rw [Utf8.decodeReplacing_encode scalar] at fallback
    exact ⟨_, fallback, fun _ => iff_of_true rfl ⟨name, given, missed⟩⟩
  · have utf8 : IsUtf8 (named detected) := by
      rw [named]
      cases given : answer detected with
      | none => decide
      | some name =>
        rcases answered name given with spelled | missed
        · exact isUtf8_of_spelling spelled
        · exact absurd ⟨name, given, missed⟩ misses
    have strict := decodeNamed?_encode scalar unmarked utf8
    rw [← choice] at strict
    exact ⟨_, decode_strict strict, fun _ => iff_of_false Bool.false_ne_true misses⟩

end Encoded

/-- The first and last characters of each length, under a codec that refuses them. -/
theorem decode_survives_lengths :
    let s : Text := [0x7F, 0x80, 0x7FF, 0x800, 0xD7FF, 0xE000, 0xFEFF, 0xFFFF, 0x10000, 0x10FFFF]
    s.isScalar = true ∧ s.head? ≠ some .byteOrderMark ∧ Misses "ascii" (Utf8.encode s) ∧
      ∃ report : Report, (decode (some "ascii") (Utf8.encode s)).value = (s, report) ∧
        report.fallback = true := by
  intro s
  have scalar : s.isScalar = true := by decide
  have unmarked : s.head? ≠ some .byteOrderMark := by decide
  have missed : Misses "ascii" (Utf8.encode s) := by
    intro codec known
    have ascii : Codec.ofName? "ascii" = some .ascii := by decide
    obtain rfl := Option.some.inj (ascii.symm.trans known)
    decide
  have answered : ∀ name ∈ answer (some "ascii"),
      spelling name ∈ [("utf_8" : Text), "utf8", "u8", "utf_8_sig"] ∨
        Misses name (Utf8.encode s) := by
    intro name given
    obtain rfl := Option.some.inj given
    exact Or.inr missed
  obtain ⟨report, found, fallback⟩ := decode_survives scalar unmarked answered
  exact ⟨scalar, unmarked, missed, report, found,
    (fallback (by decide)).mpr ⟨"ascii", rfl, missed⟩⟩

end Decoding

end LintBook
