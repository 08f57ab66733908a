import LintBook.Proofs.Indentation

/-! The grammar of doc comments. Recognition, the cut at the first full stop and the cut of the
list at its separators are read off a comment in one way only, and the printed form of what was
read is a fixed point. -/
namespace LintBook

namespace CodePoint

/-- Characters before the capital letters are the lower case of themselves only. -/
theorem lowerAscii_eq_iff {x : CodePoint} (before : x.val < 0x41) (c : CodePoint) :
    c.lowerAscii = x ↔ c = x := by
  unfold lowerAscii
  split
  · simp only [Fin.ext_iff]
    omega
  · rfl

/-- A to Z. -/
def IsCapital (c : CodePoint) : Prop := 0x41 ≤ c.val ∧ c.val ≤ 0x5A

instance (c : CodePoint) : Decidable c.IsCapital := inferInstanceAs (Decidable (_ ∧ _))

theorem lowerAscii_not_isCapital (c : CodePoint) : ¬ c.lowerAscii.IsCapital := by
  unfold lowerAscii IsCapital
  split
  · simp only
    omega
  · assumption

theorem lowerAscii_eq_self {c : CodePoint} (small : ¬ c.IsCapital) : c.lowerAscii = c :=
  dif_neg small

theorem val_lowerAscii {c : CodePoint} (capital : c.IsCapital) :
    c.lowerAscii.val = c.val + 32 := congrArg Fin.val (dif_pos capital)

/-- What A to Z have in common with their lower case, every character has. -/
theorem apply_lowerAscii {α : Type} {f : CodePoint → α}
    (letters : ∀ c, IsCapital c → f c.lowerAscii = f c) (c : CodePoint) :
    f c.lowerAscii = f c := by
  by_cases capital : c.IsCapital
  · exact letters c capital
  · rw [lowerAscii_eq_self capital]

theorem lowerAscii_lowerAscii (c : CodePoint) : c.lowerAscii.lowerAscii = c.lowerAscii :=
  lowerAscii_eq_self c.lowerAscii_not_isCapital

end CodePoint

namespace DocComment

/-- A comment that names some lints and goes on with prose. A name may be empty, begin or end with
a blank or a comma, and hold line feeds. -/
structure Written (comment : Text) (names : List Text) (prose : Text) : Prop where
  some_name : names ≠ []
  no_stop : ∀ n ∈ names, ('.' : CodePoint) ∉ n
  no_separator : ∀ n ∈ names, ¬ (", " : Text) <:+: n
  text : comment = (" Lint: " : Text) ++ Text.join ", " names ++ ("." : Text) ++ prose

section Grammar

variable {comment prose : Text} {names : List Text}

theorem Written.body (written : Written comment names prose) :
    Text.after? marker comment = some (Text.join ", " names ++ terminator :: prose) := by
  rw [Text.after?_eq_some_iff, written.text, List.append_assoc, List.append_assoc]
  rfl

theorem Written.before_stop (written : Written comment names prose) :
    ∀ c ∈ Text.join ", " names, decide (c ≠ terminator) = true := by
  intro c member
  rw [decide_eq_true_eq]
  rintro rfl
  rcases Text.mem_join member with between | ⟨n, among, inside⟩
  · revert between
    decide
  · exact written.no_stop n among inside

theorem Written.takeWhile (written : Written comment names prose) :
    (Text.join ", " names ++ terminator :: prose).takeWhile (fun c => c ≠ terminator) =
      Text.join ", " names := by
  rw [List.takeWhile_append_of_pos written.before_stop]
  simp [terminator]

theorem Written.dropWhile (written : Written comment names prose) :
    (Text.join ", " names ++ terminator :: prose).dropWhile (fun c => c ≠ terminator) =
      terminator :: prose := by
  rw [List.dropWhile_append_of_pos written.before_stop]
  simp [terminator]

theorem Written.splitAtPair (written : Written comment names prose) :
    Text.splitAtPair ',' ' ' (Text.join ", " names) = names :=
  Text.splitAtPair_join (by decide) written.some_name written.no_separator

theorem lintNames_eq_map (t : Text) :
    lintNames t = (Text.splitAtPair ',' ' ' t).map (List.map CodePoint.lowerAscii) :=
  Text.splitAtPair_map (CodePoint.lowerAscii_eq_iff (by decide))
    (CodePoint.lowerAscii_eq_iff (by decide)) t

theorem description_stop (prose : Text) :
    description (terminator :: prose) = description prose := by
  simp [description, terminator]

theorem parse?_written (written : Written comment names prose) :
    parse? comment = some ⟨names.map (List.map CodePoint.lowerAscii), description prose⟩ := by
  rw [parse?, written.body, Option.bind_some, written.dropWhile, written.takeWhile,
    lintNames_eq_map, written.splitAtPair]
  simp only [description_stop]

theorem Written.unique {others : List Text} {rest : Text} (written : Written comment names prose)
    (again : Written comment others rest) : names = others ∧ prose = rest := by
  have body := Option.some.inj (written.body.symm.trans again.body)
  constructor
  · rw [← written.splitAtPair, ← again.splitAtPair, ← written.takeWhile, ← again.takeWhile, body]
  · have tails := written.dropWhile.symm.trans ((congrArg _ body).trans again.dropWhile)
    exact (List.cons.inj tails).2

theorem exists_written {d : DocComment} (parsed : parse? comment = some d) :
    ∃ names prose, Written comment names prose := by
  obtain ⟨body, begins, read⟩ := Option.bind_eq_some_iff.mp parsed
  -- Without a full stop nothing is left for the prose to begin with.
  have stop : terminator ∈ body := by
    by_contra absent
    have through : body.dropWhile (fun c => c ≠ terminator) = [] := by
      rw [List.dropWhile_eq_nil_iff]
      intro c member
      rw [decide_eq_true_eq]
      exact fun same => absent (same ▸ member)
    rw [through] at read
    cases read
  obtain ⟨list, prose, rfl, fresh⟩ := List.eq_append_cons_of_mem stop
  have joined : Text.join ", " (Text.splitAtPair ',' ' ' list) = list := Text.join_splitAtPair list
  refine ⟨Text.splitAtPair ',' ' ' list, prose, Text.splitAtPair_ne_nil list, ?_,
    fun n => Text.not_infix_of_mem_splitAtPair, ?_⟩
  · intro n among inside
    exact fresh (joined ▸ Text.mem_join_of_mem among inside)
  · rw [joined, List.append_assoc, List.append_assoc]
    exact Text.after?_eq_some_iff.mp begins

/-- What a comment says is read off the names and the prose that it is written with. -/
theorem exists_written_eq {d : DocComment} (parsed : parse? comment = some d) :
    ∃ names prose, Written comment names prose ∧
      d = ⟨names.map (List.map CodePoint.lowerAscii), description prose⟩ := by
  obtain ⟨names, prose, written⟩ := exists_written parsed
  exact ⟨names, prose, written, Option.some.inj (parsed.symm.trans (parse?_written written))⟩

theorem Written.parse?_ne_none (written : Written comment names prose) : parse? comment ≠ none := by
  rw [parse?_written written]
  exact Option.some_ne_none _

/-- A comment is read exactly if it is the marker, at least one name without a full stop or a
separator inside, a full stop and prose; it is so in one way only, and that way gives the names
with A to Z in lower case and the prose line by line. -/
theorem parse?_grammar (comment : Text) :
    ((parse? comment).isSome = true ↔ ∃ names prose, Written comment names prose) ∧
      (∀ names prose others rest, Written comment names prose → Written comment others rest →
        names = others ∧ prose = rest) ∧
      ∀ names prose, Written comment names prose →
        parse? comment = some ⟨names.map (List.map CodePoint.lowerAscii),
          Text.join "\n" (nestLines (Text.lines (Text.strip
            (prose.dropWhile fun c => c = ('.' : CodePoint)))))⟩ := by
  refine ⟨⟨?_, ?_⟩, fun _ _ _ _ => Written.unique, ?_⟩
  · intro read
    obtain ⟨d, parsed⟩ := Option.isSome_iff_exists.mp read
    exact exists_written parsed
  · rintro ⟨names, prose, written⟩
    rw [parse?_written written]
    rfl
  · intro names prose written
    rw [parse?_written written, description, reindent_eq_join]
    rfl

/-- Commas at the ends of names are no separators, and a full stop behind a space is kept. -/
theorem parse?_grammar_commas :
    Written " Lint: , A,, ,. . x\n  y" ["", "A,", ","] " . x\n  y" ∧
      parse? " Lint: , A,, ,. . x\n  y" = some ⟨["", "a,", ","], ". x\n     y"⟩ := by
  have written : Written " Lint: , A,, ,. . x\n  y" ["", "A,", ","] " . x\n  y" :=
    ⟨by decide, by decide, by decide, by decide⟩
  exact ⟨written, (parse?_grammar _).2.2 _ _ written⟩

end Grammar

theorem not_infix_map_lowerAscii {n : Text} (free : ¬ (", " : Text) <:+: n) :
    ¬ (", " : Text) <:+: n.map CodePoint.lowerAscii := by
  have whole : Text.splitAtPair ',' ' ' n = [n] := Text.splitAtPair_self free
  have lowered : Text.splitAtPair ',' ' ' (n.map CodePoint.lowerAscii) =
      [n.map CodePoint.lowerAscii] := by
    rw [← lintNames, lintNames_eq_map, whole, List.map_singleton]
  exact Text.not_infix_of_mem_splitAtPair (lowered ▸ List.mem_singleton_self _)

theorem description_isTrimmed (prose : Text) : (description prose).IsTrimmed :=
  isTrimmed_reindent (Text.isTrimmed_strip _)

/-- A space in front keeps full stops that begin the text from being dropped. -/
theorem description_space {t : Text} (trimmed : t.IsTrimmed) (nested : IsNested t) :
    description ((' ' : CodePoint) :: t) = t := by
  have kept : (((' ' : CodePoint) :: t).dropWhile fun c => c = terminator) =
      (' ' : CodePoint) :: t := by
    rw [List.dropWhile_cons_of_neg]
    decide
  rw [description, kept, Text.strip_cons_of_isBlank (by decide), Text.strip_eq_self trimmed,
    reindent_eq_self nested]

/-- What a doc comment can say. -/
structure Canonical (d : DocComment) : Prop where
  some_lint : d.lints ≠ []
  no_stop : ∀ n ∈ d.lints, ('.' : CodePoint) ∉ n
  no_separator : ∀ n ∈ d.lints, ¬ (", " : Text) <:+: n
  small : ∀ n ∈ d.lints, ∀ c ∈ n, ¬ c.IsCapital
  trimmed : d.doc.IsTrimmed
  nested : IsNested d.doc

theorem canonical_of_parse? {comment : Text} {d : DocComment} (parsed : parse? comment = some d) :
    d.Canonical := by
  obtain ⟨names, prose, written, rfl⟩ := exists_written_eq parsed
  refine ⟨by simpa using written.some_name, ?_, ?_, ?_, description_isTrimmed prose,
    isNested_reindent _⟩
  all_goals
    intro n among
    obtain ⟨name, declared, rfl⟩ := List.mem_map.mp among
  · intro inside
    obtain ⟨c, member, stop⟩ := List.mem_map.mp inside
    rw [CodePoint.lowerAscii_eq_iff (by decide)] at stop
    exact written.no_stop name declared (stop ▸ member)
  · exact not_infix_map_lowerAscii (written.no_separator name declared)
  · intro c member
    obtain ⟨source, _, rfl⟩ := List.mem_map.mp member
    exact source.lowerAscii_not_isCapital

theorem Canonical.written {d : DocComment} (canonical : d.Canonical) :
    Written d.print d.lints ((' ' : CodePoint) :: d.doc) := by
  refine ⟨canonical.some_lint, canonical.no_stop, canonical.no_separator, ?_⟩
  rw [print, marker, List.append_assoc _ (". " : Text), List.append_assoc _ (("." : Text))]
  rfl

theorem Canonical.parse?_print {d : DocComment} (canonical : d.Canonical) :
    parse? d.print = some d := by
  have lints : d.lints.map (List.map CodePoint.lowerAscii) = d.lints.map id := by
    apply List.map_congr_left
    intro n among
    have same : n.map CodePoint.lowerAscii = n.map id := by
      apply List.map_congr_left
      exact fun c member => CodePoint.lowerAscii_eq_self (canonical.small n among c member)
    rw [same, List.map_id, id]
  rw [parse?_written canonical.written, lints, List.map_id,
    description_space canonical.trimmed canonical.nested]

/-- What some comment says is what is canonical, and its plain form says it. So printing what was
read and reading it again changes nothing. -/
theorem parse?_image (d : DocComment) :
    ((∃ comment, parse? comment = some d) ↔ d.Canonical) ∧
      (d.Canonical →
        parse? ((" Lint: " : Text) ++ Text.join ", " d.lints ++ (". " : Text) ++ d.doc) = some d) ∧
      ∀ comment, parse? comment = some d → parse? d.print = some d := by
  refine ⟨⟨?_, ?_⟩, Canonical.parse?_print, ?_⟩
  · rintro ⟨comment, parsed⟩
    exact canonical_of_parse? parsed
  · exact fun canonical => ⟨d.print, canonical.parse?_print⟩
  · exact fun comment parsed => (canonical_of_parse? parsed).parse?_print

theorem parse?_image_commas :
    Canonical ⟨["a,", " b"], ". c\n\n    d"⟩ ∧
      parse? " Lint: a,,  b. . c\n\n    d" = some ⟨["a,", " b"], ". c\n\n    d"⟩ := by
  have small : ([("a," : Text), (" b" : Text)].all fun n => n.all fun c => !decide c.IsCapital) =
      true := by decide
  have canonical : Canonical ⟨["a,", " b"], ". c\n\n    d"⟩ :=
    ⟨by decide, by decide, by decide, by simpa using small, by decide, by decide⟩
  exact ⟨canonical, (parse?_image _).2.1 canonical⟩

end DocComment

end LintBook
