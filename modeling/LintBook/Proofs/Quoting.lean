import Mathlib.Algebra.Group.Nat.Defs
import LintBook.Draft
import LintBook.Proofs.JsonRoundTrip
import LintBook.Proofs.Malformed

/-! Quoted text is one line of printable characters, and no two texts are quoted alike: between its
quotes each character can be read back from the front. So the name of an option can neither break
the line of the log that quotes it nor pass for another name there. -/
namespace LintBook

namespace CodePoint

/-- A control character, or a separator of lines or paragraphs. -/
def breaksLine (c : CodePoint) : Bool :=
  c.val < 0x20 || (0x7F ≤ c.val && c.val ≤ 0x9F) || c.val = 0x2028 || c.val = 0x2029

variable {c : CodePoint}

theorem breaksLine_of_isPrintable (shown : c.isPrintable = true) : c.breaksLine = false := by
  have table : ∀ p ∈ printableIntervals,
      0x20 ≤ p.1 ∧ (p.2 < 0x7F ∨ 0x9F < p.1) ∧ (p.2 < 0x2028 ∨ 0x2029 < p.1) := by
    decide +kernel
  obtain ⟨p, among, inside⟩ := isIn_iff.mp shown
  have apart := table p among
  simp only [breaksLine, Bool.or_eq_false_iff, Bool.and_eq_false_iff, decide_eq_false_iff_not]
  omega

theorem isPrintable_of_ascii (low : 0x20 ≤ c.val) (high : c.val ≤ 0x7E) : c.isPrintable = true :=
  isIn_iff.mpr ⟨(0x20, 0x7E), List.mem_cons_self, low, high⟩

theorem isPrintable_ofHexDigit (n : Nat) : (ofHexDigit n).isPrintable = true := by
  apply isPrintable_of_ascii <;> unfold ofHexDigit <;> split <;> simp only <;> omega

end CodePoint

namespace Text

/-- The number that hexadecimal digits stand for. -/
def ofHex (digits : Text) : Nat := digits.foldl (fun n c => 16 * n + c.hexDigit?.getD 0) 0

theorem length_hex (width n : Nat) : (hex width n).length = width := by
  induction width generalizing n with
  | zero => rfl
  | succ width ih => rw [hex, List.length_append, ih, List.length_singleton]

theorem ofHex_hex {width n : Nat} (small : n < 16 ^ width) : ofHex (hex width n) = n := by
  induction width generalizing n with
  | zero =>
    have zero : n = 0 := by simpa using small
    rw [zero]
    rfl
  | succ width ih =>
    have front : n / 16 < 16 ^ width := Nat.div_lt_of_lt_mul (by rwa [Nat.pow_succ'] at small)
    have last := CodePoint.hexDigit?_ofHexDigit (Nat.mod_lt n (by decide : 0 < 16))
    rw [hex, ofHex, List.foldl_append, ← ofHex, ih front, List.foldl_cons, last]
    exact Nat.div_add_mod n 16

theorem isPrintable_of_mem_hex {width n : Nat} {c : CodePoint} (among : c ∈ hex width n) :
    c.isPrintable = true := by
  induction width generalizing n with
  | zero => cases among
  | succ width ih =>
    rcases List.mem_append.mp among with front | last
    · exact ih front
    · rw [List.mem_singleton.mp last]
      exact CodePoint.isPrintable_ofHexDigit _

namespace Quoted

/-- The two quotes between which a text may stand. -/
def IsQuote (quote : CodePoint) : Prop :=
  quote = CodePoint.singleQuote ∨ quote = CodePoint.doubleQuote

theorem isQuote_quoteFor (t : Text) : IsQuote (quoteFor t) := by
  rw [quoteFor]
  split
  · exact Or.inr rfl
  · exact Or.inl rfl

/-- The letters that stand behind a backslash for a character without a shape of its own. -/
def shortEscapes : List (CodePoint × CodePoint) := [('n', '\n'), ('r', '\r'), ('t', '\t')]

/-- The letters that announce the number of a character, and in how many hexadecimal digits. -/
def numberEscapes : List (CodePoint × Nat) := [('x', 2), ('u', 4), ('U', 8)]

/-- How a character may be written between two `quote` characters. -/
inductive Written (quote : CodePoint) : CodePoint → Text → Prop
  | special {c : CodePoint} (special : IsQuote c ∨ c = CodePoint.backslash) :
      Written quote c [CodePoint.backslash, c]
  | short {letter c : CodePoint} (known : (letter, c) ∈ shortEscapes) :
      Written quote c [CodePoint.backslash, letter]
  | plain {c : CodePoint} (shown : c.isPrintable = true) (noQuote : c ≠ quote)
      (noEscape : c ≠ CodePoint.backslash) : Written quote c [c]
  | numbered {letter c : CodePoint} {width : Nat} (known : (letter, width) ∈ numberEscapes)
      (small : c.val < 16 ^ width) :
      Written quote c (CodePoint.backslash :: letter :: hex width c.val)

/-- The character whose number stands in front in `width` hexadecimal digits. -/
def number? (width : Nat) (t : Text) : Option (CodePoint × Text) :=
  (CodePoint.ofNat? (ofHex (t.take width))).map fun c => (c, t.drop width)

/-- The character that `letter` stands for or announces behind a backslash, and the rest. -/
def escape? (letter : CodePoint) (rest : Text) : Option (CodePoint × Text) :=
  match numberEscapes.lookup letter with
  | some width => number? width rest
  | none => some ((shortEscapes.lookup letter).getD letter, rest)

/-- The character that is written in front of a text, and what is left behind it. -/
def front? : Text → Option (CodePoint × Text)
  | [] => none
  | c :: rest =>
    if c = CodePoint.backslash then
      match rest with
      | [] => none
      | letter :: rest => escape? letter rest
    else some (c, rest)

theorem number?_hex {width : Nat} {c : CodePoint} (small : c.val < 16 ^ width) (rest : Text) :
    number? width (hex width c.val ++ rest) = some (c, rest) := by
  rw [number?, List.take_left' (length_hex width _), List.drop_left' (length_hex width _),
    ofHex_hex small, CodePoint.ofNat?_val]
  rfl

section Quote

variable {quote : CodePoint} (isQuote : IsQuote quote)

include isQuote

theorem written_encodeChar (c : CodePoint) : Written quote c (encodeChar quote c) := by
  have feedKnown : (('n' : CodePoint), ('\n' : CodePoint)) ∈ shortEscapes := by decide
  have returnKnown : (('r' : CodePoint), ('\r' : CodePoint)) ∈ shortEscapes := by decide
  have tabKnown : (('t' : CodePoint), ('\t' : CodePoint)) ∈ shortEscapes := by decide
  have twoKnown : (('x' : CodePoint), 2) ∈ numberEscapes := by decide
  have fourKnown : (('u' : CodePoint), 4) ∈ numberEscapes := by decide
  have eightKnown : (('U' : CodePoint), 8) ∈ numberEscapes := by decide
  unfold encodeChar
  split_ifs with special feed back tab shown two four
  · refine .special ?_
    rcases special with rfl | escape
    · exact Or.inl isQuote
    · exact Or.inr escape
  · exact feed ▸ .short feedKnown
  · exact back ▸ .short returnKnown
  · exact tab ▸ .short tabKnown
  · exact .plain shown (mt Or.inl special) (mt Or.inr special)
  · exact .numbered twoKnown two
  · exact .numbered fourKnown four
  · exact .numbered eightKnown (Nat.lt_trans c.isLt (by decide))

end Quote

variable {quote c : CodePoint} {w : Text}

/-- A character is read back from the front, whatever stands behind it. -/
theorem Written.front?_append (written : Written quote c w) (rest : Text) :
    front? (w ++ rest) = some (c, rest) := by
  cases written with
  | special special => rcases special with (rfl | rfl) | rfl <;> rfl
  | short known =>
    have table : shortEscapes.all (fun p => numberEscapes.lookup p.1 = none ∧
        shortEscapes.lookup p.1 = some p.2) = true := by decide
    obtain ⟨noNumber, meaning⟩ := of_decide_eq_true (List.all_eq_true.mp table _ known)
    simp only [List.cons_append, List.nil_append, front?, if_true, escape?, noNumber, meaning,
      Option.getD_some]
  | plain _ _ noEscape => exact if_neg noEscape
  | @numbered letter _ width known small =>
    have table : ∀ p ∈ numberEscapes, numberEscapes.lookup p.1 = some p.2 := by decide
    simp only [List.cons_append, front?, if_true, escape?, table _ known]
    exact number?_hex small rest

/-- What stands for a character never begins with the quote that would end the text. -/
theorem Written.opens (isQuote : IsQuote quote) (written : Written quote c w) :
    ∃ d rest, w = d :: rest ∧ d ≠ quote := by
  have apart : CodePoint.backslash ≠ quote := by
    rcases isQuote with rfl | rfl <;> decide
  cases written with
  | plain _ noQuote _ => exact ⟨_, _, rfl, noQuote⟩
  | _ => exact ⟨_, _, rfl, apart⟩

theorem Written.isPrintable (written : Written quote c w) : ∀ d ∈ w, d.isPrintable = true := by
  have backslash : CodePoint.backslash.isPrintable = true := by decide
  cases written with
  | special special =>
    have shown : c.isPrintable = true := by
      rcases special with (rfl | rfl) | rfl <;> decide
    simp [backslash, shown]
  | short known =>
    have table : shortEscapes.all (fun p => p.1.isPrintable) = true := by decide
    simpa [backslash] using List.all_eq_true.mp table _ known
  | plain shown _ _ => simpa using shown
  | numbered known _ =>
    have table : ∀ p ∈ numberEscapes, p.1.isPrintable = true := by decide
    simp only [List.forall_mem_cons]
    exact ⟨backslash, table _ known, fun d => isPrintable_of_mem_hex⟩

theorem body_injective (isQuote : IsQuote quote) {t t' : Text}
    (same : t.flatMap (encodeChar quote) ++ [quote] = t'.flatMap (encodeChar quote) ++ [quote]) :
    t = t' := by
  -- Where one text has come to its end, the other cannot go on.
  have ends (c : CodePoint) (t : Text) :
      [quote] ≠ (c :: t).flatMap (encodeChar quote) ++ [quote] := by
    obtain ⟨d, rest, written, other⟩ := (written_encodeChar isQuote c).opens isQuote
    rw [List.flatMap_cons, written]
    exact fun whole => other (List.cons.inj whole).1.symm
  induction t generalizing t' with
  | nil =>
    cases t' with
    | nil => rfl
    | cons c t' => exact absurd same (ends c t')
  | cons c t ih =>
    cases t' with
    | nil => exact absurd same.symm (ends c t)
    | cons c' t' =>
      have fronts := congrArg front? same
      simp only [List.flatMap_cons, List.append_assoc,
        (written_encodeChar isQuote _).front?_append] at fronts
      obtain ⟨rfl, rest⟩ := Prod.mk.inj (Option.some.inj fronts)
      rw [ih rest]

theorem isPrintable_of_mem_encode {t : Text} : ∀ d ∈ encode t, d.isPrintable = true := by
  have quote : (quoteFor t).isPrintable = true := by
    rcases isQuote_quoteFor t with same | same <;> rw [same] <;> decide
  have body : ∀ d ∈ t.flatMap (encodeChar (quoteFor t)), d.isPrintable = true := by
    intro d among
    obtain ⟨c, _, inside⟩ := List.mem_flatMap.mp among
    exact (written_encodeChar (isQuote_quoteFor t) c).isPrintable d inside
  simp only [encode, List.forall_mem_cons, List.forall_mem_append]
  exact ⟨quote, body, quote, by simp⟩

/-- No two texts are quoted alike. -/
theorem encode_injective : Function.Injective encode := by
  intro t t' same
  obtain ⟨quote, body⟩ := List.cons.inj same
  rw [← quote] at body
  exact body_injective (isQuote_quoteFor t) body

end Quoted

end Text

namespace Log.Event

theorem message_malformedComment (name : Text) :
    (malformedComment (.str name)).message =
      ("malformed doc comment for config " : Text) ++ Text.Quoted.encode name := by
  rw [message, Json.literal]

theorem isPrintable_malformedComment (name : Text) :
    ∀ c ∈ (malformedComment (.str name)).message, c.isPrintable = true := by
  have frame : ("malformed doc comment for config " : Text).all CodePoint.isPrintable = true := by
    decide
  rw [message_malformedComment, List.forall_mem_append]
  exact ⟨List.all_eq_true.mp frame, Text.Quoted.isPrintable_of_mem_encode⟩

theorem message_malformedComment_injective :
    Function.Injective fun name => (malformedComment (.str name)).message := by
  intro name name' same
  simp only [message_malformedComment] at same
  exact Text.Quoted.encode_injective (List.append_cancel_left same)

end Log.Event

/-- Making an entry from this name and this comment reports `events`, whatever the other parts of
the option are and whether or not they have been checked. -/
def Entry.Reports (name comment : Text) (events : List Log.Event) : Prop :=
  (∀ d : Declaration, d.name = name → d.docComment = comment →
      (ofDeclaration d).events = events) ∧
    ∀ d : Draft, d.name = .str name → d.docComment = .str comment → d.entry.events = events

theorem Entry.reports_of_isUnrecognised {name comment : Text}
    (unread : DocComment.IsUnrecognised comment) :
    Reports name comment [.malformedComment (.str name)] := by
  constructor
  · rintro d rfl rfl
    rw [d.events, if_pos unread]
  · intro d named commented
    rw [Draft.entry, commented]
    simp only [named, Logged.events_bind, Logged.events_pure, List.append_nil, readComment_events,
      if_pos unread]

/-- A name forges no line of the log. Whatever the name is, a comment that does not follow the
convention is reported by one warning, which is a single line of printable characters, and the
warnings for different names are different. -/
theorem Entry.malformedComment_unforgeable {name name' comment comment' : Text}
    (unread : DocComment.IsUnrecognised comment) (unread' : DocComment.IsUnrecognised comment') :
    ∃ e e' : Log.Event, Reports name comment [e] ∧ Reports name' comment' [e'] ∧
      e.level = .warning ∧
      (∀ c ∈ e.message, c.isPrintable = true ∧ c.breaksLine = false) ∧
      (name ≠ name' → e.message ≠ e'.message) := by
  refine ⟨_, _, reports_of_isUnrecognised unread, reports_of_isUnrecognised unread', rfl, ?_, ?_⟩
  · intro c among
    have shown := Log.Event.isPrintable_malformedComment name c among
    exact ⟨shown, CodePoint.breaksLine_of_isPrintable shown⟩
  · exact fun different same => different (Log.Event.message_malformedComment_injective same)

/-- A line feed and a quote in one name, and in the other what stands for them in a message. -/
theorem Entry.malformedComment_unforgeable_feed :
    DocComment.IsUnrecognised "Lint: x. y" ∧ DocComment.IsUnrecognised " Lint: x" ∧
      ∃ e e' : Log.Event, Reports "a'\n\u2028" "Lint: x. y" [e] ∧
        Reports "a\\'\\n\\u2028" " Lint: x" [e'] ∧
        (∀ c ∈ e.message, c.isPrintable = true ∧ c.breaksLine = false) ∧
        e.message ≠ e'.message := by
  have unread : DocComment.IsUnrecognised "Lint: x. y" := by decide
  have unread' : DocComment.IsUnrecognised " Lint: x" := by decide
  obtain ⟨e, e', reported, reported', _, oneLine, apart⟩ :=
    @malformedComment_unforgeable "a'\n\u2028" "a\\'\\n\\u2028" _ _ unread unread'
  exact ⟨unread, unread', e, e', reported, reported', oneLine, apart (by decide)⟩

end LintBook
