import Mathlib.Data.List.Infix
import LintBook.Proofs.JsonRoundTrip
import LintBook.Proofs.Pieces

/-! The limits of the reader. It goes too deep only into a text that opens more containers than are
allowed inside each other, and meets an integer that is too long only where so many digits stand
one after another. Each step hands on an end of its text, which bounds what the later steps meet. -/
namespace LintBook.Json

def opensContainer (c : CodePoint) : Bool := c = '[' || c = CodePoint.openBrace

/-- So many digits stand one after another in the text, more than an integer may have. -/
def HasLongRun (t : Text) (count : Nat) : Prop :=
  digitLimit < count ∧
    ∃ run, run <:+: t ∧ run.length = count ∧ ∀ c ∈ run, c.isAsciiDigit = true

/-- What a step may come to on a text, with `depth` containers still allowed inside each other. -/
inductive Within (depth : Nat) (t : Text) {α : Type} : Read α → Prop
  | read {a : α} {rest : Text} (left : rest <:+ t) : Within depth t (.ok (a, rest))
  | flaw (f : Flaw) (rest : Text) : Within depth t (.error (.flaw f rest))
  | tooDeep (c : Container) (more : depth < t.countP opensContainer) :
      Within depth t (.error (.tooDeep c))
  | tooManyDigits {count : Nat} (long : HasLongRun t count) :
      Within depth t (.error (.tooManyDigits count))

namespace Within

variable {α β : Type} {depth : Nat} {t u : Text} {r : Read α}

theorem mono (within : Within depth t r) (left : t <:+ u) : Within depth u r := by
  cases within with
  | read rest => exact .read (rest.trans left)
  | flaw f rest => exact .flaw f rest
  | tooDeep c more => exact .tooDeep c (Nat.lt_of_lt_of_le more left.sublist.countP_le)
  | tooManyDigits long =>
    obtain ⟨many, run, inside, length, digits⟩ := long
    exact .tooManyDigits ⟨many, run, inside.trans left.isInfix, length, digits⟩

theorem map (f : α → β) (within : Within depth t r) :
    Within depth t (r.map fun (a, rest) => (f a, rest)) := by
  cases within with
  | read left => exact .read left
  | flaw g rest => exact .flaw g rest
  | tooDeep c more => exact .tooDeep c more
  | tooManyDigits long => exact .tooManyDigits long

/-- Either there is text left, or a step that goes on from here would stop as well. -/
theorem read_or_stops (within : Within depth t r) :
    (∃ a rest, r = .ok (a, rest) ∧ rest <:+ t) ∨
      ∃ e, r = .error e ∧ Within depth t (.error e : Read β) := by
  cases within with
  | read left => exact Or.inl ⟨_, _, rfl, left⟩
  | flaw f rest => exact Or.inr ⟨_, rfl, .flaw f rest⟩
  | tooDeep c more => exact Or.inr ⟨_, rfl, .tooDeep c more⟩
  | tooManyDigits long => exact Or.inr ⟨_, rfl, .tooManyDigits long⟩

/-- A container that is opened takes one from the depth. -/
theorem opened {c : CodePoint} (opens : opensContainer c = true) (within : Within depth t r) :
    Within (depth + 1) (c :: t) r := by
  cases within with
  | tooDeep d more =>
    refine .tooDeep d ?_
    rw [List.countP_cons_of_pos opens]
    omega
  | read left => exact .read (left.trans (List.suffix_cons c t))
  | flaw f rest => exact .flaw f rest
  | tooManyDigits long => exact (tooManyDigits long).mono (List.suffix_cons c t)

end Within

theorem skipSpace_suffix (t : Text) : skipSpace t <:+ t := List.dropWhile_suffix _

theorem skipSpace_cons_suffix {t after : Text} {c : CodePoint} (next : skipSpace t = c :: after) :
    skipSpace after <:+ t :=
  (skipSpace_suffix after).trans ((List.suffix_cons c after).trans (next ▸ skipSpace_suffix t))

section Texts

variable {depth : Nat}

theorem within_textFrom (opening : Text) (afterHigh : Bool) (read t : Text) :
    Within depth t (textFrom opening afterHigh read t) := by
  fun_induction textFrom opening afterHigh read t
  case case2 rest => exact .read (List.suffix_cons _ rest)
  case case5 after _ _ _ _ ih => exact ih.mono (List.suffix_append [_, _, _, _, _, _] after)
  case case8 after _ _ _ _ ih => exact ih.mono (List.suffix_append [_, _] after)
  case case11 rest _ _ _ ih => exact ih.mono (List.suffix_cons _ rest)
  all_goals exact .flaw _ _

end Texts

section Numbers

theorem takeDigits_suffix (t : Text) : (takeDigits t).2 <:+ t := List.dropWhile_suffix _

theorem takeFraction_suffix (t : Text) : (takeFraction t).2 <:+ t := by
  cases t with
  | nil => exact List.suffix_refl _
  | cons c rest =>
    by_cases point : c = '.' ∧ (takeDigits rest).1 ≠ []
    · have taken : takeFraction (c :: rest) = takeDigits rest := if_pos point
      rw [taken]
      exact (takeDigits_suffix rest).trans (List.suffix_cons c rest)
    · have taken : takeFraction (c :: rest) = ([], c :: rest) := if_neg point
      rw [taken]

theorem takeSign_suffix (t : Text) : (takeSign t).2 <:+ t := by
  cases t with
  | nil => exact List.suffix_refl _
  | cons c rest =>
    rw [takeSign]
    split
    · exact List.suffix_cons c rest
    · split
      · exact List.suffix_cons c rest
      · exact List.suffix_refl _

theorem takePower_suffix (t : Text) : (takePower t).2 <:+ t := by
  cases t with
  | nil => exact List.suffix_refl _
  | cons c rest =>
    by_cases power : (c = 'e' ∨ c = 'E') ∧ (takeDigits (takeSign rest).2).1 ≠ []
    · have taken : (takePower (c :: rest)).2 = (takeDigits (takeSign rest).2).2 :=
        congrArg Prod.snd (if_pos power)
      rw [taken]
      exact (takeDigits_suffix _).trans ((takeSign_suffix rest).trans (List.suffix_cons c rest))
    · have taken : takePower (c :: rest) = (none, c :: rest) := if_neg power
      rw [taken]

/-- A minus in front, and the text after it. -/
def takeMinus : Text → Bool × Text
  | [] => (false, [])
  | c :: rest => if c = '-' then (true, rest) else (false, c :: rest)

theorem takeMinus_suffix (t : Text) : (takeMinus t).2 <:+ t := by
  cases t with
  | nil => exact List.suffix_refl _
  | cons c rest =>
    rw [takeMinus]
    split
    · exact List.suffix_cons c rest
    · exact List.suffix_refl _

/-- The whole digits in front, of which a zero stands alone, and the text after them. -/
def takeWhole (t : Text) : Option (Text × Text) :=
  match takeDigits t with
  | ([], _) => none
  | (d :: more, after) => some (if d = '0' then ([d], more ++ after) else (d :: more, after))

theorem takeWhole_spec {t whole left : Text} (taken : takeWhole t = some (whole, left)) :
    whole ++ left = t ∧ ∀ c ∈ whole, c.isAsciiDigit = true := by
  have parts : (takeDigits t).1 ++ (takeDigits t).2 = t := List.takeWhile_append_dropWhile
  have digits : ∀ c ∈ (takeDigits t).1, c.isAsciiDigit = true := fun c => List.mem_takeWhile_imp
  rw [takeWhole] at taken
  generalize takeDigits t = found at taken parts digits
  obtain ⟨run, after⟩ := found
  cases run with
  | nil => cases taken
  | cons d more =>
    rw [Option.some.injEq] at taken
    split at taken
    · obtain ⟨rfl, rfl⟩ := Prod.mk.inj taken
      refine ⟨parts, fun c among => digits c ?_⟩
      exact List.mem_singleton.mp among ▸ List.mem_cons_self
    · obtain ⟨rfl, rfl⟩ := Prod.mk.inj taken
      exact ⟨parts, digits⟩

/-- A number is read sign, whole digits, fraction and power one after another. -/
theorem take?_eq (t : Text) :
    Numeral.take? t = (takeWhole (takeMinus t).2).map fun p =>
      (⟨(takeMinus t).1, p.1, (takeFraction p.2).1, (takePower (takeFraction p.2).2).1⟩,
        (takePower (takeFraction p.2).2).2) := by
  rw [takeWhole]
  cases t with
  | nil => rfl
  | cons c rest =>
    by_cases minus : c = '-'
    · simp only [Numeral.take?, takeMinus, if_pos minus]
      generalize takeDigits rest = found
      obtain ⟨run, after⟩ := found
      cases run <;> rfl
    · simp only [Numeral.take?, takeMinus, if_neg minus]
      generalize takeDigits (c :: rest) = found
      obtain ⟨run, after⟩ := found
      cases run <;> rfl

/-- The whole digits of a number stand one after another where it is read, and what is left after
it is an end of the text. -/
theorem take?_spec {t rest : Text} {n : Numeral} (taken : Numeral.take? t = some (n, rest)) :
    n.whole <:+: t ∧ (∀ c ∈ n.whole, c.isAsciiDigit = true) ∧ rest <:+ t := by
  rw [take?_eq, Option.map_eq_some_iff] at taken
  obtain ⟨⟨whole, left⟩, found, same⟩ := taken
  obtain ⟨rfl, rfl⟩ := Prod.mk.inj same
  obtain ⟨parts, digits⟩ := takeWhole_spec found
  refine ⟨?_, digits, ?_⟩
  · exact (List.IsPrefix.isInfix ⟨left, parts⟩).trans (takeMinus_suffix t).isInfix
  · exact (takePower_suffix _).trans ((takeFraction_suffix left).trans
      (List.IsSuffix.trans ⟨whole, parts⟩ (takeMinus_suffix t)))

end Numbers

section Values

variable {depth : Nat} {read : Text → Read Json}

theorem word?_suffix {t rest : Text} {v : Json} (found : word? t = some (v, rest)) :
    rest <:+ t := by
  obtain ⟨before, ⟨word, given⟩, after, _, here, _⟩ := List.findSome?_eq_some_iff.mp found
  obtain ⟨left, stripped, same⟩ := Option.map_eq_some_iff.mp here
  obtain ⟨rfl, rfl⟩ := Prod.mk.inj same
  exact Text.after?_suffix stripped

theorem within_scalarAt (t : Text) : Within depth t (scalarAt t) := by
  rw [scalarAt]
  cases word : word? t with
  | some found =>
    obtain ⟨v, rest⟩ := found
    exact .read (word?_suffix word)
  | none =>
    cases taken : Numeral.take? t with
    | none => exact .flaw _ _
    | some found =>
      obtain ⟨n, rest⟩ := found
      obtain ⟨run, digits, left⟩ := take?_spec taken
      by_cases integer : n.fraction = [] ∧ n.power = none
      · by_cases long : digitLimit < n.whole.length
        · simp only [Numeral.value, if_pos integer, if_pos long]
          exact .tooManyDigits ⟨long, n.whole, run, rfl, digits⟩
        · simp only [Numeral.value, if_pos integer, if_neg long]
          exact .read left
      · simp only [Numeral.value, if_neg integer]
        exact .read left

/-- After a part of a container stands the end of the text, its closing, or the mark before the next
part. -/
theorem within_itemsFrom (reads : ∀ t, Within depth t (read t)) (bound : Nat) (items : List Json)
    (t : Text) : Within depth t (itemsFrom read bound items t) := by
  induction bound generalizing items t with
  | zero => exact .flaw _ _
  | succ bound ih =>
    rcases (reads t).read_or_stops with ⟨v, rest, found, left⟩ | ⟨e, found, stops⟩
    · cases next : skipSpace rest with
      | nil =>
        simp only [itemsFrom, found, next]
        exact .flaw _ _
      | cons c after =>
        have here := next ▸ skipSpace_suffix rest
        simp only [itemsFrom, found, next]
        split
        · exact .read ((List.suffix_cons c after).trans (here.trans left))
        · split
          · exact (ih (v :: items) _).mono ((skipSpace_cons_suffix next).trans left)
          · exact .flaw _ _
    · simp only [itemsFrom, found]
      exact stops

theorem within_nameAt (t : Text) : Within depth t (nameAt t) := by
  cases t with
  | nil => exact .flaw _ _
  | cons c rest =>
    have text : Within depth rest (textFrom (c :: rest) false [] rest) := within_textFrom _ _ _ _
    by_cases quoted : c = CodePoint.doubleQuote
    · rcases text.read_or_stops with ⟨name, after, found, left⟩ | ⟨e, found, stops⟩
      · cases next : skipSpace after with
        | nil =>
          simp only [nameAt, if_pos quoted, found, next]
          exact .flaw _ _
        | cons d afterColon =>
          simp only [nameAt, if_pos quoted, found, next]
          split
          · exact .read ((skipSpace_cons_suffix next).trans
              (left.trans (List.suffix_cons c rest)))
          · exact .flaw _ _
      · simp only [nameAt, if_pos quoted, found]
        exact stops.mono (List.suffix_cons c rest)
    · simp only [nameAt, if_neg quoted]
      exact .flaw _ _

theorem within_membersFrom (reads : ∀ t, Within depth t (read t)) (bound : Nat)
    (members : List (Text × Json)) (t : Text) :
    Within depth t (membersFrom read bound members t) := by
  induction bound generalizing members t with
  | zero => exact .flaw _ _
  | succ bound ih =>
    have label : Within depth t (nameAt t) := within_nameAt t
    rcases label.read_or_stops with ⟨name, afterName, named, past⟩ | ⟨e, named, stops⟩
    · rcases (reads afterName).read_or_stops with ⟨v, rest, found, left⟩ | ⟨e, found, stops⟩
      · cases next : skipSpace rest with
        | nil =>
          simp only [membersFrom, named, found, next]
          exact .flaw _ _
        | cons c after =>
          have here := next ▸ skipSpace_suffix rest
          simp only [membersFrom, named, found, next]
          split
          · exact .read ((List.suffix_cons c after).trans (here.trans (left.trans past)))
          · split
            · exact (ih _ _).mono ((skipSpace_cons_suffix next).trans (left.trans past))
            · exact .flaw _ _
      · simp only [membersFrom, named, found]
        exact stops.mono past
    · simp only [membersFrom, named]
      exact stops

theorem within_arrayFrom (reads : ∀ t, Within depth t (read t)) (t : Text) :
    Within depth t (arrayFrom read t) := by
  have left := skipSpace_suffix t
  rw [arrayFrom]
  generalize skipSpace t = u at left ⊢
  refine Within.mono ?_ left
  cases u with
  | nil => exact .flaw _ _
  | cons c after =>
    by_cases closes : c = ']'
    · simp only [if_pos closes]
      exact .read (List.suffix_cons c after)
    · simp only [if_neg closes]
      exact (within_itemsFrom reads _ [] (c :: after)).map Json.arr

theorem within_objectFrom (reads : ∀ t, Within depth t (read t)) (t : Text) :
    Within depth t (objectFrom read t) := by
  have left := skipSpace_suffix t
  rw [objectFrom]
  generalize skipSpace t = u at left ⊢
  refine Within.mono ?_ left
  cases u with
  | nil => exact .flaw _ _
  | cons c after =>
    by_cases closes : c = CodePoint.closeBrace
    · simp only [if_pos closes]
      exact .read (List.suffix_cons c after)
    · simp only [if_neg closes]
      exact (within_membersFrom reads _ [] (c :: after)).map Json.obj

/-- The container that goes too deep is itself one more than the depth allows. -/
theorem within_valueAt (depth : Nat) (t : Text) : Within depth t (valueAt depth t) := by
  induction depth using Nat.strongRecOn generalizing t with
  | ind depth ih =>
    fun_cases valueAt depth t
    case case1 => exact .flaw _ _
    case case2 rest =>
      exact ((within_textFrom _ false [] rest).map Json.str).mono (List.suffix_cons _ rest)
    case case3 rest _ => exact .tooDeep _ (by simp [opensContainer])
    case case4 rest inner _ =>
      exact (within_arrayFrom (ih inner (Nat.lt_succ_self inner)) rest).opened (by decide)
    case case5 rest _ _ => exact .tooDeep _ (by simp [opensContainer])
    case case6 rest inner _ _ =>
      exact (within_objectFrom (ih inner (Nat.lt_succ_self inner)) rest).opened (by decide)
    case case7 c rest _ _ _ => exact within_scalarAt (c :: rest)

end Values

theorem read_stop {t : Text} {e : ReadError} (stopped : read t = .error e)
    (noFlaw : ∀ f position, e ≠ .flaw f position) :
    ∃ stop : Stop, Within nestingLimit t (.error stop : Read Json) ∧ e = stop.located t := by
  rw [read] at stopped
  split at stopped
  · exact absurd (Except.error.inj stopped).symm (noFlaw _ _)
  · have within := (within_valueAt nestingLimit (skipSpace t)).mono (skipSpace_suffix t)
    rw [readUnmarked] at stopped
    generalize valueAt nestingLimit (skipSpace t) = r at within stopped
    cases r with
    | error stop => exact ⟨stop, within, (Except.error.inj stopped).symm⟩
    | ok found =>
      obtain ⟨v, rest⟩ := found
      dsimp only at stopped
      split at stopped
      · cases stopped
      · exact absurd (Except.error.inj stopped).symm (noFlaw _ _)

/-- Containers inside each other are too deep for the reader only if the text opens more of them
than are allowed. -/
theorem read_tooDeep {t : Text} {c : Container} (stopped : read t = .error (.tooDeep c)) :
    nestingLimit < t.countP opensContainer := by
  obtain ⟨stop, within, same⟩ := read_stop stopped (by simp)
  cases within with
  | flaw f rest => cases same
  | tooDeep d more => exact more
  | tooManyDigits long => cases same

theorem read_tooManyDigits {t : Text} {count : Nat}
    (stopped : read t = .error (.tooManyDigits count)) : HasLongRun t count := by
  obtain ⟨stop, within, same⟩ := read_stop stopped (by simp)
  cases within with
  | flaw f rest => cases same
  | tooDeep d more => cases same
  | tooManyDigits long =>
    cases same
    exact long

/-- A text of opening brackets alone is too deep as soon as it has one too many. -/
theorem valueAt_replicate {depth n : Nat} (deep : depth < n) :
    valueAt depth (List.replicate n ('[' : CodePoint)) = .error (.tooDeep .array) := by
  induction depth generalizing n with
  | zero =>
    obtain ⟨m, rfl⟩ := Nat.exists_eq_add_one.mpr deep
    rfl
  | succ depth ih =>
    obtain ⟨m, rfl⟩ := Nat.exists_eq_add_of_le' (show 2 ≤ n by omega)
    have inner : valueAt depth (List.replicate (m + 1) ('[' : CodePoint)) =
        .error (.tooDeep .array) := ih (by omega)
    rw [List.replicate_succ] at inner
    rw [List.replicate_succ, valueAt_bracket, List.replicate_succ, arrayFrom,
      skipSpace_cons (by decide)]
    simp only [itemsFrom, inner]
    rfl

theorem read_replicate {n : Nat} (deep : nestingLimit < n) :
    read (List.replicate n ('[' : CodePoint)) = .error (.tooDeep .array) := by
  have value := valueAt_replicate deep
  have unmarked : ('[' : CodePoint) ≠ CodePoint.byteOrderMark := by decide
  obtain ⟨m, rfl⟩ := Nat.exists_eq_add_one.mpr (Nat.lt_of_le_of_lt (Nat.zero_le _) deep)
  rw [List.replicate_succ] at value ⊢
  rw [read, if_neg (by simpa using unmarked), readUnmarked, skipSpace_cons (by decide), value]
  rfl

end LintBook.Json
