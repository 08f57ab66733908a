import Mathlib.Data.List.DropRight
import LintBook.Text.Basic

/-! Cutting a text into pieces and joining the pieces are inverse to each other, for a separator of
one character and for one of two; what is left after stripping has no blank at either end. -/
namespace LintBook.Text

theorem split_eq_splitOn (separator : CodePoint) (t : Text) :
    split separator t = t.splitOn separator := by
  induction t with
  | nil => simp [split]
  | cons c t ih =>
    have unfolded : split separator (c :: t) =
        if c = separator then [] :: split separator t
        else (split separator t).modifyHead (List.cons c) := by
      simp only [split, List.foldr_cons, splitStep]
      split <;> rfl
    simp only [unfolded, ih, List.splitOn_cons_eq_if_modifyHead, beq_iff_eq]

theorem lines_cons (c : CodePoint) (t : Text) :
    lines (c :: t) = if c = '\n' then [] :: lines t else (lines t).modifyHead (List.cons c) := by
  simp only [lines, split_eq_splitOn, List.splitOn_cons_eq_if_modifyHead, beq_iff_eq]

theorem exists_lines (t : Text) : ∃ first rest, lines t = first :: rest := ⟨_, _, rfl⟩

theorem length_lines (t : Text) : (lines t).length = t.count ('\n' : CodePoint) + 1 := by
  induction t with
  | nil => rfl
  | cons c t ih =>
    rw [lines_cons, List.count_cons]
    split
    · rename_i feed
      rw [List.length_cons, ih, feed, beq_self_eq_true, if_pos rfl]
    · rename_i other
      rw [List.length_modifyHead, ih, if_neg (by simpa using other), Nat.add_zero]

theorem join_lines (t : Text) : join "\n" (lines t) = t := by
  rw [lines, split_eq_splitOn]
  exact List.intercalate_splitOn _

theorem feed_not_mem_of_mem_lines {t line : Text} (among : line ∈ lines t) :
    ('\n' : CodePoint) ∉ line := by
  induction t generalizing line with
  | nil =>
    obtain rfl := List.mem_singleton.mp among
    exact List.not_mem_nil
  | cons c t ih =>
    obtain ⟨first, rest, cut⟩ := exists_lines t
    rw [lines_cons] at among
    rw [cut] at ih
    by_cases feed : c = '\n'
    · rw [if_pos feed, cut] at among
      rcases List.mem_cons.mp among with rfl | later
      · exact List.not_mem_nil
      · exact ih later
    · rw [if_neg feed, cut, List.modifyHead_cons] at among
      rcases List.mem_cons.mp among with rfl | later
      · rw [List.mem_cons, not_or]
        exact ⟨Ne.symm feed, ih List.mem_cons_self⟩
      · exact ih (List.mem_cons_of_mem first later)

theorem lines_join {ls : List Text} (some_line : ls ≠ [])
    (oneLine : ∀ line ∈ ls, ('\n' : CodePoint) ∉ line) : lines (join "\n" ls) = ls := by
  rw [lines, split_eq_splitOn]
  exact List.splitOn_intercalate _ oneLine some_line

/-- A line feed parts the lines in front of it from those behind it. -/
theorem lines_append_feed (s t : Text) :
    lines (s ++ ('\n' : CodePoint) :: t) = lines s ++ lines t := by
  induction s with
  | nil => rw [List.nil_append, lines_cons, if_pos rfl]; rfl
  | cons c s ih =>
    obtain ⟨first, rest, cut⟩ := exists_lines s
    rw [List.cons_append, lines_cons, lines_cons, ih, cut]
    split <;> rfl

theorem join_cons (separator piece : Text) {later : List Text} (more : later ≠ []) :
    join separator (piece :: later) = piece ++ separator ++ join separator later := by
  rw [join, List.intercalate_cons_of_ne_nil more, join]

theorem join_cons_cons (separator : Text) (c : CodePoint) (piece : Text) (later : List Text) :
    join separator ((c :: piece) :: later) = c :: join separator (piece :: later) := by
  cases later with
  | nil => simp [join]
  | cons next later => simp [join_cons]

theorem mem_join {separator : Text} {pieces : List Text} {c : CodePoint}
    (member : c ∈ join separator pieces) : c ∈ separator ∨ ∃ piece ∈ pieces, c ∈ piece := by
  induction pieces with
  | nil => cases member
  | cons piece later ih =>
    cases later with
    | nil => exact Or.inr ⟨piece, List.mem_singleton_self _, by simpa [join] using member⟩
    | cons next later =>
      rw [join_cons _ _ (List.cons_ne_nil _ _), List.mem_append, List.mem_append] at member
      rcases member with (here | between) | there
      · exact Or.inr ⟨piece, List.mem_cons_self, here⟩
      · exact Or.inl between
      · refine (ih there).imp_right ?_
        rintro ⟨other, among, inside⟩
        exact ⟨other, List.mem_cons_of_mem piece among, inside⟩

theorem mem_join_of_mem {separator piece : Text} {pieces : List Text} {c : CodePoint}
    (among : piece ∈ pieces) (inside : c ∈ piece) : c ∈ join separator pieces := by
  induction pieces with
  | nil => cases among
  | cons head later ih =>
    cases later with
    | nil =>
      obtain rfl := List.mem_singleton.mp among
      simpa [join] using inside
    | cons next later =>
      rw [join_cons _ _ (List.cons_ne_nil _ _), List.mem_append, List.mem_append]
      rcases List.mem_cons.mp among with rfl | among
      · exact Or.inl (Or.inl inside)
      · exact Or.inr (ih among)

section Pair

variable {first second : CodePoint}

theorem exists_splitAtPair (first second : CodePoint) (t : Text) :
    ∃ piece later, splitAtPair first second t = piece :: later := ⟨_, _, rfl⟩

theorem splitAtPair_ne_nil (t : Text) : splitAtPair first second t ≠ [] := List.cons_ne_nil _ _

/-- The pieces of a text with one more character in front, by the first piece without it. -/
theorem splitAtPair_cons {c : CodePoint} {t piece : Text} {later : List Text}
    (cut : splitAtPair first second t = piece :: later) :
    splitAtPair first second (c :: t) =
      if c = first ∧ piece.head? = some second then [] :: piece.tail :: later
      else (c :: piece) :: later := by
  obtain ⟨rfl, rfl⟩ := List.cons.inj cut
  simp only [splitAtPair, List.foldr_cons]
  generalize t.foldr (pairStep first second) ([], []) = pieces
  obtain ⟨piece, later⟩ := pieces
  cases piece with
  | nil => simp [pairStep]
  | cons d piece =>
    by_cases here : c = first ∧ d = second
    · simp [pairStep, here]
    · simp only [pairStep, here, if_false, List.head?_cons, Option.some.injEq]

theorem join_splitAtPair (t : Text) :
    join [first, second] (splitAtPair first second t) = t := by
  induction t with
  | nil => rfl
  | cons c t ih =>
    obtain ⟨piece, later, cut⟩ := exists_splitAtPair first second t
    rw [cut] at ih
    rw [splitAtPair_cons cut]
    by_cases here : c = first ∧ piece.head? = some second
    · obtain ⟨rfl, head⟩ := here
      obtain ⟨piece, rfl⟩ : ∃ rest, piece = second :: rest := by
        cases piece with
        | nil => cases head
        | cons d rest => exact ⟨rest, by rw [Option.some.inj head]⟩
      rw [join_cons_cons] at ih
      simp only [List.head?_cons, and_self, if_true, List.tail_cons]
      rw [join_cons _ _ (List.cons_ne_nil _ _), ← ih]
      rfl
    · rw [if_neg here, join_cons_cons, ih]

/-- A pair is inside a text with one more character in front if it is inside the text, or if it
begins with that character. -/
theorem pair_infix_cons {c : CodePoint} {t : Text} :
    [first, second] <:+: c :: t ↔
      (c = first ∧ t.head? = some second) ∨ [first, second] <:+: t := by
  rw [List.infix_cons_iff]
  cases t with
  | nil => simp
  | cons d t => simp [List.cons_prefix_cons, eq_comm]

theorem not_infix_of_mem_splitAtPair {t piece : Text}
    (member : piece ∈ splitAtPair first second t) : ¬ [first, second] <:+: piece := by
  induction t generalizing piece with
  | nil =>
    obtain rfl := List.mem_singleton.mp member
    simp
  | cons c t ih =>
    obtain ⟨head, later, cut⟩ := exists_splitAtPair first second t
    simp only [cut, List.forall_mem_cons] at ih
    rw [splitAtPair_cons cut] at member
    by_cases here : c = first ∧ head.head? = some second
    · simp only [here, and_self, if_true, List.mem_cons] at member
      rcases member with rfl | rfl | member
      · simp
      -- Cutting takes the second character off the head, which leaves no new pair in it.
      · exact fun inside => ih.1 (inside.trans (List.tail_suffix head).isInfix)
      · exact ih.2 piece member
    · rw [if_neg here, List.mem_cons] at member
      rcases member with rfl | member
      · rw [pair_infix_cons]
        exact fun inside => inside.elim here ih.1
      · exact ih.2 piece member

/-- The two characters of a separator are different, so a piece that ends with the first one or
begins with the second one does not blur where the separator stands. -/
theorem splitAtPair_append (different : first ≠ second) {piece : Text}
    (free : ¬ [first, second] <:+: piece) (t : Text) :
    splitAtPair first second (piece ++ first :: second :: t) =
      piece :: splitAtPair first second t := by
  induction piece with
  | nil =>
    obtain ⟨head, later, cut⟩ := exists_splitAtPair first second t
    have after : splitAtPair first second (second :: t) = (second :: head) :: later := by
      rw [splitAtPair_cons cut, if_neg fun h => different h.1.symm]
    rw [List.nil_append, splitAtPair_cons after]
    simp [cut]
  | cons c piece ih =>
    rw [pair_infix_cons, not_or] at free
    rw [List.cons_append, splitAtPair_cons (ih free.2), if_neg free.1]

theorem splitAtPair_self {piece : Text} (free : ¬ [first, second] <:+: piece) :
    splitAtPair first second piece = [piece] := by
  induction piece with
  | nil => rfl
  | cons c piece ih =>
    rw [pair_infix_cons, not_or] at free
    rw [splitAtPair_cons (ih free.2), if_neg free.1]

theorem splitAtPair_join (different : first ≠ second) {pieces : List Text}
    (some_piece : pieces ≠ [])
    (free : ∀ piece ∈ pieces, ¬ [first, second] <:+: piece) :
    splitAtPair first second (join [first, second] pieces) = pieces := by
  induction pieces with
  | nil => contradiction
  | cons piece later ih =>
    rw [List.forall_mem_cons] at free
    cases later with
    | nil => simpa [join] using splitAtPair_self free.1
    | cons next later =>
      have rest := ih (List.cons_ne_nil _ _) free.2
      rw [join_cons _ _ (List.cons_ne_nil _ _), List.append_assoc, List.cons_append,
        List.cons_append, List.nil_append, splitAtPair_append different free.1, rest]

/-- A change of characters that keeps the separator apart commutes with cutting. -/
theorem splitAtPair_map {f : CodePoint → CodePoint} (fixFirst : ∀ c, f c = first ↔ c = first)
    (fixSecond : ∀ c, f c = second ↔ c = second) (t : Text) :
    splitAtPair first second (t.map f) = (splitAtPair first second t).map (List.map f) := by
  induction t with
  | nil => rfl
  | cons c t ih =>
    obtain ⟨piece, later, cut⟩ := exists_splitAtPair first second t
    rw [cut, List.map_cons] at ih
    have head : (piece.map f).head? = some second ↔ piece.head? = some second := by
      cases piece <;> simp [fixSecond]
    simp only [List.map_cons, splitAtPair_cons ih, splitAtPair_cons cut, fixFirst, head]
    split <;> simp

end Pair

/-- A text without blanks at its ends. -/
@[mk_iff]
structure IsTrimmed (t : Text) : Prop where
  head : ∀ c ∈ t.head?, c.isBlank = false
  last : ∀ c ∈ t.getLast?, c.isBlank = false

instance (t : Text) : Decidable t.IsTrimmed :=
  decidable_of_iff (t.head?.all (fun c => !c.isBlank) ∧ t.getLast?.all fun c => !c.isBlank) <| by
    simp only [isTrimmed_iff, Option.all_eq_true, Bool.not_eq_true', Option.mem_def]

theorem strip_eq_rdropWhile (t : Text) :
    strip t = (t.dropWhile CodePoint.isBlank).rdropWhile CodePoint.isBlank := rfl

theorem strip_subset (t : Text) : strip t ⊆ t := by
  rw [strip_eq_rdropWhile]
  exact List.Subset.trans (List.rdropWhile_prefix _ _).subset (List.dropWhile_sublist _).subset

theorem isTrimmed_strip (t : Text) : IsTrimmed (strip t) := by
  rw [strip_eq_rdropWhile]
  generalize left : t.dropWhile CodePoint.isBlank = u
  constructor
  · intro c head
    obtain ⟨rest, whole⟩ := List.rdropWhile_prefix CodePoint.isBlank u
    have first : c ∈ u.head? := by
      rw [← whole, List.head?_append, head]
      rfl
    obtain ⟨more, whole⟩ := List.head?_eq_some_iff.mp first
    have kept := List.head?_dropWhile_not CodePoint.isBlank t
    simpa [left, whole] using kept
  · intro c last
    have some_char : u.rdropWhile CodePoint.isBlank ≠ [] := by
      intro empty
      rw [empty] at last
      cases last
    have same := Option.some.inj (last.symm.trans (List.getLast?_eq_some_getLast some_char))
    simpa [same] using List.rdropWhile_last_not CodePoint.isBlank u some_char

theorem strip_eq_self {t : Text} (trimmed : IsTrimmed t) : strip t = t := by
  have left : t.dropWhile CodePoint.isBlank = t := by
    cases t with
    | nil => rfl
    | cons c t => simp [trimmed.head c rfl]
  rw [strip_eq_rdropWhile, left, List.rdropWhile_eq_self_iff]
  intro some_char
  simp [trimmed.last _ (List.getLast?_eq_some_getLast some_char)]

theorem strip_cons_of_isBlank {c : CodePoint} (blank : c.isBlank = true) (t : Text) :
    strip (c :: t) = strip t := by
  simp [strip, blank]

theorem not_isBlank_of_firstWord {t word : Text} (found : firstWord? t = some word)
    {c : CodePoint} (among : c ∈ word) : c.isBlank = false := by
  rw [firstWord?] at found
  cases left : t.dropWhile CodePoint.isBlank with
  | nil =>
    rw [left] at found
    cases found
  | cons first rest =>
    rw [left] at found
    obtain rfl := Option.some.inj found
    have kept := List.head?_dropWhile_not CodePoint.isBlank t
    rw [left] at kept
    rcases List.mem_cons.mp among with rfl | later
    · simpa using kept
    · simpa using List.mem_takeWhile_imp later

theorem after?_eq_some_iff {start t rest : Text} :
    after? start t = some rest ↔ t = start ++ rest := by
  rw [after?]
  constructor
  · intro found
    split at found
    · rename_i begins
      obtain ⟨more, rfl⟩ := List.isPrefixOf_iff_prefix.mp begins
      rw [List.drop_left, Option.some.injEq] at found
      rw [found]
    · cases found
  · rintro rfl
    rw [if_pos (List.isPrefixOf_iff_prefix.mpr (List.prefix_append _ _)), List.drop_left]

theorem after?_suffix {start t rest : Text} (found : after? start t = some rest) : rest <:+ t :=
  ⟨start, (after?_eq_some_iff.mp found).symm⟩

end LintBook.Text
