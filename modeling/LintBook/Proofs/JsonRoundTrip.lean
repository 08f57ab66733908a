import LintBook.Json.Printer
import LintBook.Json.Reader
import LintBook.Proofs.Wide

/-! A printed text value is read back as it was, whichever characters stand for themselves. Each
character is one step of the reader, or two where it was escaped as a pair of UTF-16 units. -/
namespace LintBook

namespace CodePoint

theorem hexDigit?_ofHexDigit {n : Nat} (small : n < 16) : (ofHexDigit n).hexDigit? = some n := by
  have table : ∀ n < 16, (ofHexDigit n).hexDigit? = some n := by decide
  exact table n small

end CodePoint

namespace Json

section Steps

variable {opening read rest : Text} {afterHigh : Bool}

theorem textFrom_close :
    textFrom opening afterHigh read (CodePoint.doubleQuote :: rest) = .ok (read.reverse, rest) := by
  rw [textFrom.eq_def]
  exact if_pos rfl

theorem textFrom_plain {c : CodePoint} (noQuote : c ≠ CodePoint.doubleQuote)
    (noEscape : c ≠ CodePoint.backslash) (noControl : ¬ c.val < 0x20) :
    textFrom opening afterHigh read (c :: rest) = textFrom opening false (c :: read) rest := by
  rw [textFrom.eq_def]
  simp only [if_neg noQuote, if_neg noEscape, if_neg noControl]

theorem textFrom_short {e d : CodePoint} (short : shortEscape? e = some d) :
    textFrom opening afterHigh read (CodePoint.backslash :: e :: rest) =
      textFrom opening false (d :: read) rest := by
  have noCode : e ≠ 'u' := by
    rintro rfl
    cases short
  have apart : CodePoint.backslash ≠ CodePoint.doubleQuote := by decide
  rw [textFrom.eq_def]
  simp only [if_neg apart, if_true, if_neg noCode, short]

/-- A code escape is one unit. A text value goes on behind it at least up to its closing quote. -/
theorem textFrom_codeEscape {u : CodePoint} (small : u.val < 0x10000) (more : rest ≠ []) :
    textFrom opening afterHigh read (codeEscape u.val ++ rest) =
      textFrom opening u.isHighSurrogate (pushUnit afterHigh read u) rest := by
  have digits : codeUnit? (CodePoint.ofHexDigit (u.val / 16 / 16 / 16 % 16))
      (CodePoint.ofHexDigit (u.val / 16 / 16 % 16)) (CodePoint.ofHexDigit (u.val / 16 % 16))
      (CodePoint.ofHexDigit (u.val % 16)) = some u := by
    simp only [codeUnit?, CodePoint.hexDigit?_ofHexDigit (Nat.mod_lt _ (by decide : 0 < 16))]
    have value : ((u.val / 16 / 16 / 16 % 16 * 16 + u.val / 16 / 16 % 16) * 16 +
        u.val / 16 % 16) * 16 + u.val % 16 = u.val := by omega
    rw [value, CodePoint.ofNat?_val]
  have written : codeEscape u.val ++ rest = CodePoint.backslash :: ('u' : CodePoint) ::
      CodePoint.ofHexDigit (u.val / 16 / 16 / 16 % 16) ::
      CodePoint.ofHexDigit (u.val / 16 / 16 % 16) :: CodePoint.ofHexDigit (u.val / 16 % 16) ::
      CodePoint.ofHexDigit (u.val % 16) :: rest := rfl
  have apart : CodePoint.backslash ≠ CodePoint.doubleQuote := by decide
  rw [written, textFrom.eq_def]
  simp only [if_neg apart, if_true, digits, List.isEmpty_iff, if_neg more]

end Steps

theorem pushUnit_false (read : Text) (u : CodePoint) : pushUnit false read u = u :: read := by
  cases read <;> simp [pushUnit]

theorem pushUnit_lowHalf {c : CodePoint} (beyond : 0x10000 ≤ c.val) (read : Text) :
    pushUnit true (c.highHalf :: read) c.lowHalf = c :: read := by
  simp [pushUnit, CodePoint.isLowSurrogate_lowHalf, CodePoint.joinSurrogates_halves beyond]

theorem textFrom_codeEscapes {c : CodePoint} (scalar : c.isSurrogate = false) {rest : Text}
    (more : rest ≠ []) (opening read : Text) :
    textFrom opening false read (codeEscapes c ++ rest) =
      textFrom opening false (c :: read) rest := by
  by_cases one : c.val < 0x10000
  · rw [codeEscapes, if_pos one, textFrom_codeEscape one more, pushUnit_false,
      CodePoint.isHighSurrogate_of_scalar scalar]
  · have bound := c.isLt
    have high : c.highHalf.val < 0x10000 := by rw [CodePoint.val_highHalf]; omega
    have low : c.lowHalf.val < 0x10000 := by rw [CodePoint.val_lowHalf]; omega
    have second : codeEscape c.lowHalf.val ++ rest ≠ [] := by simp [codeEscape, Text.ofString]
    -- The second unit is pushed onto the first, which makes the character again.
    rw [codeEscapes, if_neg one, ← CodePoint.val_highHalf, ← CodePoint.val_lowHalf,
      List.append_assoc, textFrom_codeEscape high second, textFrom_codeEscape low more,
      CodePoint.isHighSurrogate_highHalf, CodePoint.isHighSurrogate_lowHalf, pushUnit_false,
      pushUnit_lowHalf (Nat.le_of_not_lt one)]

theorem textFrom_printChar (r : Repertoire) {c : CodePoint} (scalar : c.isSurrogate = false)
    {rest : Text} (more : rest ≠ []) (opening read : Text) :
    textFrom opening false read (printChar r c ++ rest) =
      textFrom opening false (c :: read) rest := by
  unfold printChar
  split
  case h_8 noQuote noEscape _ _ _ _ _ =>
    split
    · exact textFrom_codeEscapes scalar more opening read
    · rename_i plain
      refine textFrom_plain (fun h => noQuote (congrArg Fin.val h))
        (fun h => noEscape (congrArg Fin.val h)) (fun h => plain (Or.inl h))
  all_goals
    rename_i value
    exact textFrom_short (congrArg some (Fin.ext value.symm))

theorem textFrom_flatMap (r : Repertoire) {s : Text} (scalar : s.isScalar = true)
    (opening read rest : Text) :
    textFrom opening false read (s.flatMap (printChar r) ++ CodePoint.doubleQuote :: rest) =
      .ok (read.reverse ++ s, rest) := by
  induction s generalizing read with
  | nil => simpa using textFrom_close
  | cons c s ih =>
    obtain ⟨first, later⟩ := Text.isScalar_cons.mp scalar
    have more : s.flatMap (printChar r) ++ CodePoint.doubleQuote :: rest ≠ [] := by simp
    rw [List.flatMap_cons, List.append_assoc, textFrom_printChar r first more, ih later]
    simp

/-- What is printed behind the bracket that opens an array. -/
def arrayTail (r : Repertoire) : List Json → Text
  | [] => [(']' : CodePoint)]
  | v :: vs => print r v ++ (printItems r vs ++ [(']' : CodePoint)])

/-- What is printed behind the brace that opens an object. -/
def objectTail (r : Repertoire) : List (Text × Json) → Text
  | [] => [CodePoint.closeBrace]
  | (name, v) :: ms =>
    printText r name ++ ((": " : Text) ++ (print r v ++ (printMembers r ms ++
      [CodePoint.closeBrace])))

theorem print_arr (r : Repertoire) (items : List Json) :
    print r (.arr items) = ('[' : CodePoint) :: arrayTail r items := by
  cases items with
  | nil => rfl
  | cons v vs =>
    rw [print, List.append_assoc]
    rfl

theorem print_obj (r : Repertoire) (members : List (Text × Json)) :
    print r (.obj members) = CodePoint.openBrace :: objectTail r members := by
  cases members with
  | nil => rfl
  | cons m ms =>
    rw [print, List.append_assoc, List.append_assoc, List.append_assoc]
    rfl

/-- Values without numbers, with texts free of surrogates and no name twice in an object, and with
at most `depth` containers inside each other. -/
inductive Textual : Nat → Json → Prop
  | null {depth : Nat} : Textual depth .null
  | bool {depth : Nat} (b : Bool) : Textual depth (.bool b)
  | str {depth : Nat} {s : Text} (scalar : s.isScalar = true) : Textual depth (.str s)
  | arr {depth : Nat} {items : List Json} (each : ∀ v ∈ items, Textual depth v) :
      Textual (depth + 1) (.arr items)
  | obj {depth : Nat} {members : List (Text × Json)} (different : (members.map Prod.fst).Nodup)
      (names : ∀ m ∈ members, m.1.isScalar = true) (each : ∀ m ∈ members, Textual depth m.2) :
      Textual (depth + 1) (.obj members)

/-- The characters that a value other than a number begins with. -/
def openers : Text := ['n', 't', 'f', CodePoint.doubleQuote, '[', CodePoint.openBrace]

theorem print_opens (r : Repertoire) {depth : Nat} {v : Json} (textual : Textual depth v) :
    ∃ c ∈ openers, ∃ t, print r v = c :: t := by
  cases textual with
  | null => exact ⟨'n', by decide, _, rfl⟩
  | bool b =>
    cases b with
    | false => exact ⟨'f', by decide, _, rfl⟩
    | true => exact ⟨'t', by decide, _, rfl⟩
  | str => exact ⟨CodePoint.doubleQuote, by decide, _, rfl⟩
  | arr => exact ⟨'[', by decide, _, print_arr r _⟩
  | obj => exact ⟨CodePoint.openBrace, by decide, _, print_obj r _⟩

theorem skipSpace_cons {c : CodePoint} (solid : isSpace c = false) (t : Text) :
    skipSpace (c :: t) = c :: t := by
  rw [skipSpace, List.dropWhile_cons_of_neg (by simp [solid])]

theorem skipSpace_space (t : Text) : skipSpace ((' ' : CodePoint) :: t) = skipSpace t := by
  have space : isSpace ' ' = true := by decide
  simp only [skipSpace, List.dropWhile_cons, space, if_true]

theorem not_isSpace_of_mem_openers {c : CodePoint} (opens : c ∈ openers) : isSpace c = false := by
  have table : (openers.all fun c => !isSpace c) = true := by decide
  simpa using List.all_eq_true.mp table c opens

theorem skipSpace_print (r : Repertoire) {depth : Nat} {v : Json} (textual : Textual depth v)
    (rest : Text) : skipSpace (print r v ++ rest) = print r v ++ rest := by
  obtain ⟨c, opens, t, same⟩ := print_opens r textual
  rw [same, List.cons_append, skipSpace_cons (not_isSpace_of_mem_openers opens)]

theorem skipSpace_printText (r : Repertoire) (name rest : Text) :
    skipSpace (printText r name ++ rest) = printText r name ++ rest :=
  skipSpace_cons (by decide) _

theorem length_printItems (r : Repertoire) (vs : List Json) :
    vs.length ≤ (printItems r vs).length := by
  induction vs with
  | nil => exact Nat.le_refl 0
  | cons v vs ih =>
    simp only [printItems, List.length_append, List.length_cons, Text.ofString]
    simp
    omega

theorem length_printMembers (r : Repertoire) (ms : List (Text × Json)) :
    ms.length ≤ (printMembers r ms).length := by
  induction ms with
  | nil => exact Nat.le_refl 0
  | cons m ms ih =>
    simp only [printMembers, List.length_append, List.length_cons, Text.ofString]
    simp
    omega

section Containers

variable {r : Repertoire} {depth : Nat} {read : Text → Read Json}

theorem itemsFrom_print {v : Json} {vs : List Json} (textual : ∀ w ∈ v :: vs, Textual depth w)
    (reads : ∀ w ∈ v :: vs, ∀ rest, read (print r w ++ rest) = .ok (w, rest))
    {bound : Nat} (enough : vs.length < bound) (items : List Json) (rest : Text) :
    itemsFrom read bound items (print r v ++ (printItems r vs ++ (']' : CodePoint) :: rest)) =
      .ok (items.reverse ++ v :: vs, rest) := by
  induction vs generalizing v bound items with
  | nil =>
    obtain ⟨bound, rfl⟩ := Nat.exists_eq_succ_of_ne_zero (Nat.ne_of_gt enough)
    rw [itemsFrom, reads v List.mem_cons_self]
    simp [printItems, skipSpace_cons (show isSpace ']' = false by decide)]
  | cons w vs ih =>
    obtain ⟨bound, rfl⟩ := Nat.exists_eq_succ_of_ne_zero (Nat.ne_of_gt (Nat.zero_lt_of_lt enough))
    have separated : printItems r (w :: vs) ++ (']' : CodePoint) :: rest =
        (',' : CodePoint) :: (' ' : CodePoint) ::
          (print r w ++ (printItems r vs ++ (']' : CodePoint) :: rest)) := by
      rw [printItems, List.append_assoc, List.append_assoc]
      rfl
    have apart : (',' : CodePoint) ≠ ']' := by decide
    have later := ih (fun u among => textual u (List.mem_cons_of_mem v among))
      (fun u among => reads u (List.mem_cons_of_mem v among)) (Nat.lt_of_succ_lt_succ enough)
      (v :: items)
    rw [itemsFrom, reads v List.mem_cons_self, separated]
    simp only [skipSpace_cons (show isSpace ',' = false by decide), if_neg apart, if_true,
      skipSpace_space, skipSpace_print r (textual w (by simp)), later, List.reverse_cons,
      List.append_assoc, List.singleton_append]

theorem nameAt_print {name : Text} (scalar : name.isScalar = true) {t : Text}
    (solid : skipSpace t = t) :
    nameAt (printText r name ++ ((": " : Text) ++ t)) = .ok (name, t) := by
  have written : printText r name ++ ((": " : Text) ++ t) = CodePoint.doubleQuote ::
      (name.flatMap (printChar r) ++ CodePoint.doubleQuote :: (':' : CodePoint) ::
        (' ' : CodePoint) :: t) := by
    rw [printText, List.cons_append, List.append_assoc]
    rfl
  rw [written, nameAt, if_pos rfl, textFrom_flatMap r scalar]
  simp only [skipSpace_cons (show isSpace ':' = false by decide), if_true, skipSpace_space, solid,
    List.reverse_nil, List.nil_append]

theorem put_fresh {name : Text} {members : List (Text × Json)} (v : Json)
    (fresh : name ∉ members.map Prod.fst) : put name v members = (name, v) :: members := by
  rw [put, if_neg]
  rw [List.any_eq_true]
  rintro ⟨⟨known, w⟩, among, same⟩
  rw [decide_eq_true_eq] at same
  exact fresh (List.mem_map.mpr ⟨(known, w), among, same⟩)

theorem membersFrom_print {name : Text} {v : Json} {ms : List (Text × Json)}
    (names : ∀ m ∈ (name, v) :: ms, m.1.isScalar = true)
    (textual : ∀ m ∈ (name, v) :: ms, Textual depth m.2)
    (reads : ∀ m ∈ (name, v) :: ms, ∀ rest, read (print r m.2 ++ rest) = .ok (m.2, rest))
    {bound : Nat} (enough : ms.length < bound) {members : List (Text × Json)}
    (different : (((name, v) :: ms).map Prod.fst).Nodup)
    (fresh : ∀ m ∈ (name, v) :: ms, m.1 ∉ members.map Prod.fst) (rest : Text) :
    membersFrom read bound members (printText r name ++ ((": " : Text) ++ (print r v ++
      (printMembers r ms ++ CodePoint.closeBrace :: rest)))) =
      .ok (members.reverse ++ (name, v) :: ms, rest) := by
  have named (t : Text) := nameAt_print (r := r) (names _ List.mem_cons_self)
    (skipSpace_print r (textual _ List.mem_cons_self) t)
  have added := put_fresh v (fresh _ List.mem_cons_self)
  induction ms generalizing name v bound members with
  | nil =>
    obtain ⟨bound, rfl⟩ := Nat.exists_eq_succ_of_ne_zero (Nat.ne_of_gt enough)
    rw [membersFrom, named]
    simp only [reads _ List.mem_cons_self, printMembers, List.nil_append,
      skipSpace_cons (show isSpace CodePoint.closeBrace = false by decide), if_true, added,
      List.reverse_cons]
  | cons m ms ih =>
    obtain ⟨bound, rfl⟩ := Nat.exists_eq_succ_of_ne_zero (Nat.ne_of_gt (Nat.zero_lt_of_lt enough))
    obtain ⟨next, w⟩ := m
    have separated : printMembers r ((next, w) :: ms) ++ CodePoint.closeBrace :: rest =
        (',' : CodePoint) :: (' ' : CodePoint) :: (printText r next ++ ((": " : Text) ++
          (print r w ++ (printMembers r ms ++ CodePoint.closeBrace :: rest)))) := by
      rw [printMembers, List.append_assoc, List.append_assoc, List.append_assoc, List.append_assoc]
      rfl
    have apart : (',' : CodePoint) ≠ CodePoint.closeBrace := by decide
    have unseen : ∀ m ∈ (next, w) :: ms, m.1 ∉ ((name, v) :: members).map Prod.fst := by
      intro m among known
      rcases List.mem_cons.mp known with same | known
      · exact (List.nodup_cons.mp different).1 (List.mem_map.mpr ⟨m, among, same⟩)
      · exact fresh m (List.mem_cons_of_mem _ among) known
    have later := ih (fun m among => names m (List.mem_cons_of_mem _ among))
      (fun m among => textual m (List.mem_cons_of_mem _ among))
      (fun m among => reads m (List.mem_cons_of_mem _ among)) (Nat.lt_of_succ_lt_succ enough)
      (List.nodup_cons.mp different).2 unseen
      (fun t => nameAt_print (names _ (by simp)) (skipSpace_print r (textual _ (by simp)) t))
      (put_fresh w (unseen _ List.mem_cons_self))
    rw [membersFrom, named]
    simp only [reads _ List.mem_cons_self, separated,
      skipSpace_cons (show isSpace ',' = false by decide), if_neg apart, if_true, added,
      skipSpace_space, skipSpace_printText, later, List.reverse_cons, List.append_assoc,
      List.singleton_append]

theorem arrayFrom_print {items : List Json} (textual : ∀ v ∈ items, Textual depth v)
    (reads : ∀ v ∈ items, ∀ rest, read (print r v ++ rest) = .ok (v, rest)) (rest : Text) :
    arrayFrom read (arrayTail r items ++ rest) = .ok (.arr items, rest) := by
  cases items with
  | nil =>
    rw [arrayFrom, arrayTail, List.cons_append, skipSpace_cons (by decide)]
    rfl
  | cons v vs =>
    have written : arrayTail r (v :: vs) ++ rest =
        print r v ++ (printItems r vs ++ (']' : CodePoint) :: rest) := by
      rw [arrayTail, List.append_assoc, List.append_assoc]
      rfl
    have first := textual v List.mem_cons_self
    obtain ⟨c, opens, t, head⟩ := print_opens r first
    have apart : c ≠ ']' := by
      rintro rfl
      revert opens
      decide
    have count : vs.length <
        (print r v ++ (printItems r vs ++ (']' : CodePoint) :: rest)).length + 1 := by
      have := length_printItems r vs
      simp only [List.length_append]
      omega
    have items := itemsFrom_print textual reads count [] rest
    rw [written, arrayFrom, skipSpace_print r first]
    simp only [head, List.cons_append, if_neg apart] at items ⊢
    rw [items]
    rfl

theorem objectFrom_print {members : List (Text × Json)}
    (different : (members.map Prod.fst).Nodup) (names : ∀ m ∈ members, m.1.isScalar = true)
    (textual : ∀ m ∈ members, Textual depth m.2)
    (reads : ∀ m ∈ members, ∀ rest, read (print r m.2 ++ rest) = .ok (m.2, rest)) (rest : Text) :
    objectFrom read (objectTail r members ++ rest) = .ok (.obj members, rest) := by
  cases members with
  | nil =>
    rw [objectFrom, objectTail, List.cons_append, skipSpace_cons (by decide)]
    rfl
  | cons m ms =>
    obtain ⟨name, v⟩ := m
    have written : objectTail r ((name, v) :: ms) ++ rest = printText r name ++ ((": " : Text) ++
        (print r v ++ (printMembers r ms ++ CodePoint.closeBrace :: rest))) := by
      rw [objectTail, List.append_assoc, List.append_assoc, List.append_assoc, List.append_assoc]
      rfl
    have apart : CodePoint.doubleQuote ≠ CodePoint.closeBrace := by decide
    have count : ms.length < (printText r name ++ ((": " : Text) ++ (print r v ++
        (printMembers r ms ++ CodePoint.closeBrace :: rest)))).length + 1 := by
      have := length_printMembers r ms
      simp only [List.length_append]
      omega
    have fresh : ∀ m ∈ (name, v) :: ms, m.1 ∉ ([] : List (Text × Json)).map Prod.fst := by simp
    have members := membersFrom_print names textual reads count different fresh rest
    rw [written, objectFrom, skipSpace_printText]
    simp only [printText, List.cons_append, if_neg apart] at members ⊢
    rw [members]
    rfl

end Containers

theorem valueAt_quote (depth : Nat) (t : Text) :
    valueAt depth (CodePoint.doubleQuote :: t) =
      (textFrom (CodePoint.doubleQuote :: t) false [] t).map fun (s, after) => (str s, after) := by
  rw [valueAt.eq_def]
  exact if_pos rfl

theorem valueAt_bracket (depth : Nat) (t : Text) :
    valueAt (depth + 1) (('[' : CodePoint) :: t) = arrayFrom (valueAt depth) t := by
  have noQuote : ('[' : CodePoint) ≠ CodePoint.doubleQuote := by decide
  rw [valueAt.eq_def]
  simp only [if_neg noQuote, if_true]

theorem valueAt_brace (depth : Nat) (t : Text) :
    valueAt (depth + 1) (CodePoint.openBrace :: t) = objectFrom (valueAt depth) t := by
  have noQuote : CodePoint.openBrace ≠ CodePoint.doubleQuote := by decide
  have noBracket : CodePoint.openBrace ≠ '[' := by decide
  rw [valueAt.eq_def]
  simp only [if_neg noQuote, if_neg noBracket, if_true]

theorem valueAt_scalar (depth : Nat) {c : CodePoint} (noQuote : c ≠ CodePoint.doubleQuote)
    (noBracket : c ≠ '[') (noBrace : c ≠ CodePoint.openBrace) (t : Text) :
    valueAt depth (c :: t) = scalarAt (c :: t) := by
  rw [valueAt.eq_def]
  simp only [if_neg noQuote, if_neg noBracket, if_neg noBrace]

/-- Reading takes the printed form of a value from the front of a text and leaves what follows. -/
theorem valueAt_print (r : Repertoire) {depth : Nat} {v : Json} (textual : Textual depth v)
    (rest : Text) : valueAt depth (print r v ++ rest) = .ok (v, rest) := by
  induction textual generalizing rest with
  | @null depth => exact (valueAt_scalar depth (by decide) (by decide) (by decide) _).trans rfl
  | @bool depth b =>
    cases b with
    | false => exact (valueAt_scalar depth (by decide) (by decide) (by decide) _).trans rfl
    | true => exact (valueAt_scalar depth (by decide) (by decide) (by decide) _).trans rfl
  | @str depth s scalar =>
    have written : print r (.str s) ++ rest = CodePoint.doubleQuote ::
        (s.flatMap (printChar r) ++ CodePoint.doubleQuote :: rest) := by
      rw [print, printText, List.cons_append, List.append_assoc]
      rfl
    rw [written, valueAt_quote, textFrom_flatMap r scalar]
    rfl
  | @arr depth items each ih =>
    rw [print_arr, List.cons_append, valueAt_bracket]
    exact arrayFrom_print each ih rest
  | @obj depth members different names each ih =>
    rw [print_obj, List.cons_append, valueAt_brace]
    exact objectFrom_print different names each ih rest

/-- A printed value is read back, by any reader that allows its containers. -/
theorem read_print (r : Repertoire) {v : Json} (textual : Textual nestingLimit v) :
    Json.read (print r v) = .ok v := by
  obtain ⟨c, opens, t, head⟩ := print_opens r textual
  have unmarked : (print r v).head? ≠ some CodePoint.byteOrderMark := by
    rw [head, List.head?_cons]
    rintro same
    cases same
    revert opens
    decide
  have whole := valueAt_print r textual []
  have solid := skipSpace_print r textual []
  rw [List.append_nil] at whole solid
  rw [Json.read, if_neg unmarked, readUnmarked, solid, whole]
  rfl

end Json

end LintBook
