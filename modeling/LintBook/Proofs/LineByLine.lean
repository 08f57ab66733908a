import LintBook.Proofs.Nesting

/-! A description line by line. What is read of a line, and what a paragraph shows of it, is the
line itself with another number of spaces in front: re-indentation and the removal of the nested
indentation never look beyond the spaces of one line. -/
namespace LintBook

namespace DocComment

def spaces (n : Nat) : Text := List.replicate n ' '

/-- A line behind its leading spaces. -/
def unspaced (line : Text) : Text := line.dropWhile fun (c : CodePoint) => c = ' '

theorem spaces_add (m n : Nat) : spaces (m + n) = spaces m ++ spaces n :=
  List.replicate_add m n _

theorem spaces_append_unspaced (line : Text) :
    spaces (leadingSpaces line) ++ unspaced line = line := by
  induction line with
  | nil => rfl
  | cons c line ih =>
    by_cases space : c = ' '
    · subst space
      simpa [spaces, unspaced, List.replicate_succ] using ih
    · simp [spaces, unspaced, space]

theorem leadingSpaces_unspaced (line : Text) : leadingSpaces (unspaced line) = 0 := by
  induction line with
  | nil => rfl
  | cons c line ih =>
    by_cases space : c = ' '
    · simpa [unspaced, space] using ih
    · simp [unspaced, space]

theorem leadingSpaces_spaces_append (n : Nat) {t : Text} (bare : leadingSpaces t = 0) :
    leadingSpaces (spaces n ++ t) = n := by
  induction n with
  | zero => exact bare
  | succ n ih => simpa [spaces, List.replicate_succ] using ih

theorem nestLine_eq (line : Text) :
    nestLine line = spaces (nestedSpaces (leadingSpaces line)) ++ unspaced line := by
  unfold nestLine nestedSpaces
  split
  · have indent : ("   " : Text) = spaces 3 := rfl
    rw [Nat.add_comm, spaces_add, List.append_assoc, spaces_append_unspaced, indent]
  · exact (spaces_append_unspaced line).symm

/-- How many spaces are in front of a line in a paragraph, by those in front of it in the
comment. -/
def shownSpaces (k : Nat) : Nat := if 1 ≤ k ∧ k ≤ 3 then k - 1 else k - 4

end DocComment

namespace Entry

open DocComment

theorem dropReturn_spaces_append (n : Nat) (t : Text) :
    dropReturn (spaces n ++ t) = spaces n ++ dropReturn t := by
  have other : (' ' : CodePoint) ≠ '\r' := by decide
  induction n with
  | zero => rfl
  | succ n ih =>
    rw [spaces, List.replicate_succ, List.cons_append, dropReturn_cons other, List.cons_append]
    exact congrArg _ ih

theorem dedent_spaces_append (n : Nat) {t : Text} (bare : leadingSpaces t = 0) :
    dedent (spaces n ++ t) = spaces (if 4 ≤ n then n - 4 else n) ++ t := by
  have depth := leadingSpaces_spaces_append n bare
  by_cases deep : 4 ≤ n
  · have cut : Text.after? nestedIndent (spaces n ++ t) = some (spaces (n - 4) ++ t) := by
      have whole : spaces n = nestedIndent ++ spaces (n - 4) :=
        (congrArg spaces (by omega : n = 4 + (n - 4))).trans (spaces_add 4 (n - 4))
      rw [Text.after?_eq_some_iff, whole, List.append_assoc]
    rw [dedent, cut, Option.getD_some, if_pos deep]
  · have absent : Text.after? nestedIndent (spaces n ++ t) = none := by
      rw [Text.after?, if_neg]
      rw [nestedIndent_isPrefixOf, depth]
      exact deep
    rw [dedent, absent, Option.getD_none, if_neg deep]

/-- A line of the comment as it is shown in a paragraph. -/
theorem shownLine_nestLine (line : Text) :
    shownLine (nestLine line) =
      spaces (shownSpaces (leadingSpaces line)) ++ dropReturn (unspaced line) := by
  have bare : leadingSpaces (dropReturn (unspaced line)) = 0 := by
    rw [leadingSpaces_dropReturn, leadingSpaces_unspaced]
  have depth : (if 4 ≤ nestedSpaces (leadingSpaces line) then nestedSpaces (leadingSpaces line) - 4
      else nestedSpaces (leadingSpaces line)) = shownSpaces (leadingSpaces line) := by
    unfold nestedSpaces shownSpaces
    split <;> split <;> omega
  rw [shownLine, nestLine_eq, dropReturn_spaces_append, dedent_spaces_append _ bare, depth]

end Entry

namespace DocComment

theorem leadingSpaces_of_isTrimmed {t : Text} (trimmed : t.IsTrimmed) : leadingSpaces t = 0 := by
  cases t with
  | nil => rfl
  | cons c t =>
    have solid : c ≠ ' ' := by
      rintro rfl
      exact absurd (trimmed.head ' ' rfl) (by decide)
    rw [leadingSpaces_cons, if_neg solid]

/-- The description is trimmed before its lines are moved, so the first one has no spaces and the
rule for the others leaves it alone too. -/
theorem lines_description_eq_map (prose : Text) :
    Text.lines (description prose) = (sourceLines prose).map nestLine := by
  obtain ⟨first, rest, cut⟩ : ∃ first rest, sourceLines prose = first :: rest :=
    Text.exists_lines _
  have bare : leadingSpaces first = 0 :=
    (leadingSpaces_of_lines cut).symm.trans (leadingSpaces_of_isTrimmed (Text.isTrimmed_strip _))
  rw [lines_description, cut, nestLines, List.map_cons, nestLine_eq_self (Or.inl bare)]

/-- A recognised comment is read line by line, and its paragraph shows its description line by line:
the first line is kept, and each other one is the same text behind as many spaces as its own number
of them gives. -/
theorem parse?_lineByLine {d : Declaration} {read : DocComment}
    (parsed : parse? d.docComment = some read) :
    ∃ names prose first rest, Written d.docComment names prose ∧
      sourceLines prose = first :: rest ∧
      Text.lines read.doc = first :: rest.map (fun line =>
        spaces (nestedSpaces (leadingSpaces line)) ++ unspaced line) ∧
      ∃ shown, Text.lines shown = (first :: rest).map (fun line =>
          spaces (shownSpaces (leadingSpaces line)) ++ Entry.dropReturn (unspaced line)) ∧
        d.entry.paragraph =
          ("## `" : Text) ++ displayName d.name ++ ("`\n" : Text) ++ shown ++
            ("\n\n**Default Value:** `" : Text) ++ d.defaultValue ++ ("` (`" : Text) ++
            d.configType ++ ("`)\n\n---\n**Affected lints:**\n" : Text) ++
            Text.join "\n" (d.entry.anchors.map Entry.anchorItem) ++ ("\n\n" : Text) := by
  obtain ⟨names, prose, written⟩ := exists_written parsed
  obtain rfl := Option.some.inj ((parse?_written written).symm.trans parsed)
  obtain ⟨first, rest, cut⟩ : ∃ first rest, sourceLines prose = first :: rest :=
    Text.exists_lines _
  have doc : d.entry.doc = description prose := by
    rw [Declaration.entry_doc, parsed, Option.getD_some]
  refine ⟨names, prose, first, rest, written, cut, ?_, Entry.paragraphDoc d.entry.doc, ?_, rfl⟩
  · rw [lines_description, cut, nestLines]
    exact congrArg (first :: ·) (List.map_congr_left fun line _ => nestLine_eq line)
  · rw [doc, Entry.lines_paragraphDoc, lines_description_eq_map, cut, List.map_map]
    exact List.map_congr_left fun line _ => Entry.shownLine_nestLine line

/-- Lines of blanks alone, with carriage returns, and with the nested indentation and more. -/
theorem parse?_lineByLine_blanks :
    let comment : Text := " Lint: X. .a\r\n   \n \t\r\r\n    b\n\n     c "
    let d : Declaration := ⟨"max_len", "u64", "0", comment, none⟩
    parse? comment = some ⟨["x"], ".a\r\n      \n    \t\r\r\n    b\n\n     c"⟩ ∧
      ∃ shown, Text.lines shown = [(".a" : Text), "  ", "\t\r", "b", "", " c"] ∧
        d.entry.paragraph =
          ("## `" : Text) ++ displayName d.name ++ ("`\n" : Text) ++ shown ++
            ("\n\n**Default Value:** `" : Text) ++ d.defaultValue ++ ("` (`" : Text) ++
            d.configType ++ ("`)\n\n---\n**Affected lints:**\n" : Text) ++
            Text.join "\n" (d.entry.anchors.map Entry.anchorItem) ++ ("\n\n" : Text) := by
  intro comment d
  have parsed : parse? d.docComment =
      some ⟨["x"], ".a\r\n      \n    \t\r\r\n    b\n\n     c"⟩ := by decide
  have known : Written comment ["X"] " .a\r\n   \n \t\r\r\n    b\n\n     c " :=
    ⟨by decide, by decide, by decide, by decide⟩
  have source : sourceLines " .a\r\n   \n \t\r\r\n    b\n\n     c " =
      [(".a\r" : Text), "   ", " \t\r\r", "    b", "", "     c"] := by decide
  obtain ⟨names, prose, first, rest, written, cut, _, shown, each, whole⟩ :=
    parse?_lineByLine parsed
  obtain rfl := (written.unique known).2
  obtain ⟨rfl, rfl⟩ := List.cons.inj (source.symm.trans cut)
  exact ⟨parsed, shown, each.trans (by decide), whole⟩

end DocComment

end LintBook
