import LintBook.DocComment
import LintBook.Proofs.Pieces

/-! Re-indentation looks at each line by itself: what the scan from the end does at a line feed
depends on the spaces of the one line behind it. -/
namespace LintBook.DocComment

/-- How many spaces a text begins with. -/
def leadingSpaces (t : Text) : Nat := (t.takeWhile fun (c : CodePoint) => c = ' ').length

/-- A line with one to three spaces in front moves three places in. -/
def nestLine (line : Text) : Text :=
  if 1 ≤ leadingSpaces line ∧ leadingSpaces line ≤ 3 then ("   " : Text) ++ line else line

/-- The first line stays where it is. -/
def nestLines : List Text → List Text
  | [] => []
  | first :: rest => first :: rest.map nestLine

@[simp] theorem leadingSpaces_nil : leadingSpaces [] = 0 := rfl

@[simp] theorem leadingSpaces_cons (c : CodePoint) (t : Text) :
    leadingSpaces (c :: t) = if c = ' ' then leadingSpaces t + 1 else 0 := by
  by_cases space : c = ' ' <;> simp [leadingSpaces, space]

/-- Re-indentation brings in spaces alone and takes nothing away. -/
theorem mem_reindent_iff {c : CodePoint} (solid : c ≠ ' ') (t : Text) : c ∈ reindent t ↔ c ∈ t := by
  have indent : c ∉ ("   " : Text) := by simpa [Text.ofString] using solid
  induction t with
  | nil => rfl
  | cons d t ih =>
    rw [reindent_cons, nestAfter]
    split
    · rw [List.mem_cons, List.mem_append, or_iff_right indent]
      exact (or_congr_right ih).trans List.mem_cons.symm
    · exact List.mem_cons.trans ((or_congr_right ih).trans List.mem_cons.symm)

theorem leadingSpaces_indent (t : Text) :
    leadingSpaces (("   " : Text) ++ t) = leadingSpaces t + 3 := by
  simp [Text.ofString]

theorem nestedIndent_isPrefixOf (t : Text) :
    nestedIndent.isPrefixOf t = true ↔ 4 ≤ leadingSpaces t := by
  have spaces (n : Nat) (t : Text) :
      (List.replicate n (' ' : CodePoint)).isPrefixOf t = true ↔ n ≤ leadingSpaces t := by
    induction n generalizing t with
    | zero => simp
    | succ n ih =>
      cases t with
      | nil => simp [List.replicate_succ]
      | cons c t =>
        by_cases space : c = ' '
        · simpa [List.replicate_succ, space] using ih t
        · simp [List.replicate_succ, space, Ne.symm space]
  exact spaces 4 t

theorem isShallow_iff (t : Text) :
    isShallow t = true ↔ 1 ≤ leadingSpaces t ∧ leadingSpaces t ≤ 3 := by
  have first : t.head? = some (' ' : CodePoint) ↔ 1 ≤ leadingSpaces t := by
    cases t with
    | nil => simp
    | cons c t => by_cases space : c = ' ' <;> simp [space]
  have deep : nestedIndent.isPrefixOf t = false ↔ leadingSpaces t ≤ 3 := by
    rw [← Bool.not_eq_true, nestedIndent_isPrefixOf]
    omega
  rw [isShallow, Bool.and_eq_true, decide_eq_true_eq, Bool.not_eq_true']
  exact and_congr first deep

/-- The spaces of a text are those of its first line. -/
theorem leadingSpaces_of_lines {t first : Text} {rest : List Text}
    (cut : Text.lines t = first :: rest) : leadingSpaces t = leadingSpaces first := by
  induction t generalizing first rest with
  | nil =>
    obtain rfl : [] = first := (List.cons.inj cut).1
    rfl
  | cons c t ih =>
    obtain ⟨line, lines, later⟩ := Text.exists_lines t
    rw [Text.lines_cons, later] at cut
    by_cases feed : c = '\n'
    · rw [if_pos feed] at cut
      obtain rfl : [] = first := (List.cons.inj cut).1
      have apart : ('\n' : CodePoint) ≠ ' ' := by decide
      simp [feed, apart]
    · rw [if_neg feed] at cut
      obtain rfl : c :: line = first := (List.cons.inj cut).1
      simp [ih later]

theorem lines_indent (t : Text) :
    Text.lines (("   " : Text) ++ t) = (Text.lines t).modifyHead (("   " : Text) ++ ·) := by
  have spaces : ("   " : Text) = [(' ' : CodePoint), ' ', ' '] := rfl
  have apart : (' ' : CodePoint) ≠ '\n' := by decide
  obtain ⟨line, lines, later⟩ := Text.exists_lines t
  simp [spaces, Text.lines_cons, apart, later]

theorem lines_reindent (t : Text) :
    Text.lines (reindent t) = nestLines (Text.lines t) := by
  induction t with
  | nil => rfl
  | cons c t ih =>
    obtain ⟨first, rest, cut⟩ := Text.exists_lines t
    rw [cut, nestLines] at ih
    -- The line behind a line feed is still as it was when the scan from the end gets there.
    have shallow := isShallow_iff (reindent t)
    rw [leadingSpaces_of_lines ih] at shallow
    rw [reindent_cons, nestAfter, Text.lines_cons c t, cut]
    by_cases feed : c = '\n'
    · by_cases near : isShallow (reindent t) = true
      · rw [if_pos ⟨feed, near⟩, Text.lines_cons, if_pos feed, lines_indent, ih, if_pos feed]
        simp [nestLines, nestLine, shallow.mp near]
      · rw [if_neg fun h => near h.2, Text.lines_cons, if_pos feed, ih, if_pos feed]
        simp [nestLines, nestLine, mt shallow.mpr near]
    · rw [if_neg fun h => feed h.1, Text.lines_cons, if_neg feed, ih, if_neg feed]
      rfl

/-- Re-indentation as a function of lines. -/
theorem reindent_eq_join (t : Text) : reindent t = Text.join "\n" (nestLines (Text.lines t)) := by
  rw [← lines_reindent, Text.join_lines]

theorem leadingSpaces_nestLine (line : Text) :
    leadingSpaces (nestLine line) = 0 ∨ 4 ≤ leadingSpaces (nestLine line) := by
  by_cases near : 1 ≤ leadingSpaces line ∧ leadingSpaces line ≤ 3
  · rw [nestLine, if_pos near, leadingSpaces_indent]
    omega
  · rw [nestLine, if_neg near]
    omega

theorem nestLine_eq_self {line : Text} (nested : leadingSpaces line = 0 ∨ 4 ≤ leadingSpaces line) :
    nestLine line = line :=
  if_neg (by omega)

/-- No line of a text after the first begins with one to three spaces. -/
def IsNested (t : Text) : Prop :=
  ∀ line ∈ (Text.lines t).tail, leadingSpaces line = 0 ∨ 4 ≤ leadingSpaces line

instance (t : Text) : Decidable (IsNested t) := inferInstanceAs (Decidable (∀ _ ∈ _, _))

theorem isNested_reindent (t : Text) : IsNested (reindent t) := by
  intro line member
  rw [lines_reindent] at member
  obtain ⟨first, rest, cut⟩ := Text.exists_lines t
  rw [cut] at member
  obtain ⟨source, _, rfl⟩ := List.mem_map.mp member
  exact leadingSpaces_nestLine source

theorem reindent_eq_self {t : Text} (nested : IsNested t) : reindent t = t := by
  rw [reindent_eq_join]
  obtain ⟨first, rest, cut⟩ := Text.exists_lines t
  have same : rest.map nestLine = rest.map id := by
    apply List.map_congr_left
    intro line member
    exact nestLine_eq_self (nested line (by simpa [cut] using member))
  rw [cut, nestLines, same, List.map_id, ← cut, Text.join_lines]

theorem isTrimmed_reindent {t : Text} (trimmed : t.IsTrimmed) : (reindent t).IsTrimmed := by
  have head (t : Text) : (reindent t).head? = t.head? := by
    cases t with
    | nil => rfl
    | cons c t => rw [reindent_cons, nestAfter]; split <;> rfl
  have last (t : Text) : (reindent t).getLast? = t.getLast? := by
    induction t with
    | nil => rfl
    | cons c t ih =>
      rw [reindent_cons, List.getLast?_cons, ← ih]
      cases reindent t with
      | nil => simp [nestAfter, isShallow]
      | cons d u =>
        rw [nestAfter]
        split <;> simp [Text.ofString, List.getLast?_cons]
  exact ⟨by rw [head]; exact trimmed.head, by rw [last]; exact trimmed.last⟩

end LintBook.DocComment
