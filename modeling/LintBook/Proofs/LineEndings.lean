import LintBook.Proofs.Scalars

/-! Line endings. A carriage return in front of every line feed goes through the reading of a
comment unchanged, since it is a blank, ends no line and is part of no separator; where the book
writes a line of a description, it is dropped again. -/
namespace LintBook

namespace Text

/-- A text with a carriage return in front of every line feed. -/
def withReturns (t : Text) : Text :=
  t.flatMap fun (c : CodePoint) => if c = '\n' then [('\r' : CodePoint), '\n'] else [c]

@[simp] theorem withReturns_nil : withReturns [] = [] := rfl

theorem withReturns_append (s t : Text) : withReturns (s ++ t) = withReturns s ++ withReturns t :=
  List.flatMap_append

@[simp] theorem withReturns_feed (t : Text) :
    withReturns (('\n' : CodePoint) :: t) =
      ('\r' : CodePoint) :: ('\n' : CodePoint) :: withReturns t := rfl

theorem withReturns_other {c : CodePoint} (other : c ≠ ('\n' : CodePoint)) (t : Text) :
    withReturns (c :: t) = c :: withReturns t := by
  rw [withReturns, List.flatMap_cons, if_neg other]
  rfl

theorem withReturns_eq_self {t : Text} (oneLine : ('\n' : CodePoint) ∉ t) : withReturns t = t := by
  induction t with
  | nil => rfl
  | cons c t ih =>
    rw [List.mem_cons, not_or] at oneLine
    rw [withReturns_other (Ne.symm oneLine.1), ih oneLine.2]

theorem mem_withReturns {c : CodePoint} {t : Text} (among : c ∈ t) : c ∈ withReturns t := by
  refine List.mem_flatMap.mpr ⟨c, among, ?_⟩
  split <;> simp [*]

section Spans

variable {p : CodePoint → Bool} (same : p '\r' = p '\n')

include same

theorem takeWhile_withReturns (t : Text) :
    (withReturns t).takeWhile p = withReturns (t.takeWhile p) := by
  induction t with
  | nil => rfl
  | cons c t ih =>
    by_cases feed : c = '\n'
    · subst feed
      cases passes : p '\n' <;> simp [same, passes, ih]
    · rw [withReturns_other feed, List.takeWhile_cons, List.takeWhile_cons, ih]
      split
      · rw [withReturns_other feed]
      · rfl

theorem dropWhile_withReturns (t : Text) :
    (withReturns t).dropWhile p = withReturns (t.dropWhile p) := by
  induction t with
  | nil => rfl
  | cons c t ih =>
    by_cases feed : c = '\n'
    · subst feed
      cases passes : p '\n' <;> simp [same, passes, ih]
    · rw [withReturns_other feed, List.dropWhile_cons, List.dropWhile_cons, ih]
      split
      · rfl
      · rw [withReturns_other feed]

theorem rdropWhile_withReturns (t : Text) :
    (withReturns t).rdropWhile p = withReturns (t.rdropWhile p) := by
  induction t using List.reverseRecOn with
  | nil => rfl
  | append_singleton t c ih =>
    rw [withReturns_append, List.rdropWhile_concat]
    by_cases feed : c = '\n'
    · subst feed
      -- Both characters of the line ending go, or both stay.
      have ending : withReturns t ++ withReturns [('\n' : CodePoint)] =
          (withReturns t ++ [('\r' : CodePoint)]) ++ [('\n' : CodePoint)] := by simp
      rw [ending, List.rdropWhile_concat, List.rdropWhile_concat, same, ih]
      split
      · rfl
      · rw [withReturns_append, ← ending]
    · rw [withReturns_other feed, withReturns_nil, List.rdropWhile_concat, ih]
      split
      · rfl
      · rw [withReturns_append, withReturns_other feed, withReturns_nil]

end Spans

theorem strip_withReturns (t : Text) : strip (withReturns t) = withReturns (strip t) := by
  have blank : CodePoint.isBlank '\r' = CodePoint.isBlank '\n' := by decide
  rw [strip_eq_rdropWhile, strip_eq_rdropWhile, dropWhile_withReturns blank,
    rdropWhile_withReturns blank]

/-- The first word lies between blanks, so no line ending is inside it. -/
theorem firstWord?_withReturns (t : Text) : firstWord? (withReturns t) = firstWord? t := by
  have blank : CodePoint.isBlank '\r' = CodePoint.isBlank '\n' := by decide
  have dark : (!CodePoint.isBlank '\r') = !CodePoint.isBlank '\n' := by decide
  rw [firstWord?, firstWord?, dropWhile_withReturns blank]
  cases left : t.dropWhile CodePoint.isBlank with
  | nil => rfl
  | cons c rest =>
    have first : c.isBlank = false := by
      have kept := List.head?_dropWhile_not CodePoint.isBlank t
      simpa [left] using kept
    have noFeed : c ≠ '\n' := by
      rintro rfl
      revert first
      decide
    have word : ('\n' : CodePoint) ∉ rest.takeWhile fun d => !d.isBlank := by
      intro inside
      have passes := List.mem_takeWhile_imp inside
      revert passes
      decide
    rw [withReturns_other noFeed]
    simp only
    rw [takeWhile_withReturns dark, withReturns_eq_self word]

theorem map_withReturns {f : CodePoint → CodePoint} (fixReturn : f '\r' = '\r')
    (fixFeed : ∀ c, f c = '\n' ↔ c = '\n') (t : Text) :
    (withReturns t).map f = withReturns (t.map f) := by
  induction t with
  | nil => rfl
  | cons c t ih =>
    by_cases feed : c = '\n'
    · subst feed
      simp [fixReturn, (fixFeed '\n').mpr rfl, ih]
    · rw [withReturns_other feed, List.map_cons, List.map_cons, ih,
        withReturns_other (mt (fixFeed c).mp feed)]

section Start

variable {start : Text} (noReturn : ('\r' : CodePoint) ∉ start)
  (noFeed : ('\n' : CodePoint) ∉ start)

include noReturn noFeed

/-- A beginning without line endings was there before. -/
theorem exists_of_withReturns_eq_append {t rest : Text} (begins : withReturns t = start ++ rest) :
    ∃ later, t = start ++ later ∧ withReturns later = rest := by
  induction start generalizing t with
  | nil => exact ⟨t, rfl, begins⟩
  | cons s start ih =>
    rw [List.mem_cons, not_or] at noReturn noFeed
    cases t with
    | nil => cases begins
    | cons c t =>
      by_cases feed : c = '\n'
      · subst feed
        exact absurd (List.cons.inj begins).1 noReturn.1
      · rw [withReturns_other feed] at begins
        obtain ⟨rfl, goesOn⟩ := List.cons.inj begins
        obtain ⟨later, rfl, behind⟩ := ih noReturn.2 noFeed.2 goesOn
        exact ⟨later, rfl, behind⟩

theorem after?_withReturns (t : Text) :
    after? start (withReturns t) = (after? start t).map withReturns := by
  cases found : after? start t with
  | some rest =>
    rw [after?_eq_some_iff.mp found, withReturns_append, withReturns_eq_self noFeed]
    exact after?_eq_some_iff.mpr rfl
  | none =>
    cases there : after? start (withReturns t) with
    | none => rfl
    | some rest =>
      obtain ⟨later, whole, _⟩ :=
        exists_of_withReturns_eq_append noReturn noFeed (after?_eq_some_iff.mp there)
      rw [after?_eq_some_iff.mpr whole] at found
      cases found

end Start

/-- A line ending keeps apart what a separator without line endings would join, and joins nothing
that it kept apart. -/
theorem splitAtPair_withReturns {first second : CodePoint} (firstReturn : first ≠ '\r')
    (firstFeed : first ≠ '\n') (secondReturn : second ≠ '\r') (secondFeed : second ≠ '\n')
    (t : Text) :
    splitAtPair first second (withReturns t) = (splitAtPair first second t).map withReturns := by
  have head (piece : Text) :
      (withReturns piece).head? = some second ↔ piece.head? = some second := by
    cases piece with
    | nil => rfl
    | cons c piece =>
      by_cases feed : c = '\n'
      · subst feed
        simp [Ne.symm secondReturn, Ne.symm secondFeed]
      · rw [withReturns_other feed]
        rfl
  have tail {piece : Text} (begins : piece.head? = some second) :
      (withReturns piece).tail = withReturns piece.tail := by
    obtain ⟨rest, rfl⟩ := List.head?_eq_some_iff.mp begins
    rw [withReturns_other secondFeed]
    rfl
  induction t with
  | nil => rfl
  | cons c t ih =>
    obtain ⟨piece, later, cut⟩ := exists_splitAtPair first second t
    rw [cut, List.map_cons] at ih
    by_cases feed : c = '\n'
    · subst feed
      have behind := splitAtPair_cons (c := '\n') ih
      rw [if_neg fun h => firstFeed h.1.symm] at behind
      rw [withReturns_feed, splitAtPair_cons behind, splitAtPair_cons cut,
        if_neg fun h => firstReturn h.1.symm, if_neg fun h => firstFeed h.1.symm]
      rfl
    · rw [withReturns_other feed, splitAtPair_cons ih, splitAtPair_cons cut]
      by_cases here : c = first ∧ piece.head? = some second
      · rw [if_pos here, if_pos ⟨here.1, (head piece).mpr here.2⟩, tail here.2]
        rfl
      · rw [if_neg here, if_neg fun h => here ⟨h.1, (head piece).mp h.2⟩, List.map_cons,
          withReturns_other feed]

end Text

namespace DocComment

def withReturns (d : DocComment) : DocComment :=
  ⟨d.lints.map Text.withReturns, Text.withReturns d.doc⟩

theorem leadingSpaces_withReturns (t : Text) :
    leadingSpaces (Text.withReturns t) = leadingSpaces t := by
  induction t with
  | nil => rfl
  | cons c t ih =>
    by_cases feed : c = '\n'
    · subst feed
      rfl
    · rw [Text.withReturns_other feed, leadingSpaces_cons, leadingSpaces_cons, ih]

theorem isShallow_withReturns (t : Text) : isShallow (Text.withReturns t) = isShallow t := by
  rw [Bool.eq_iff_iff, isShallow_iff, isShallow_iff, leadingSpaces_withReturns]

theorem reindent_withReturns (t : Text) :
    reindent (Text.withReturns t) = Text.withReturns (reindent t) := by
  induction t with
  | nil => rfl
  | cons c t ih =>
    by_cases feed : c = '\n'
    · subst feed
      have noFeed : ('\r' : CodePoint) ≠ '\n' := by decide
      have indent : ('\n' : CodePoint) ∉ ("   " : Text) := by decide
      rw [Text.withReturns_feed, reindent_cons, reindent_cons, reindent_cons, ih]
      simp only [nestAfter, noFeed, false_and, if_false, isShallow_withReturns, true_and]
      split
      · rw [Text.withReturns_feed, Text.withReturns_append, Text.withReturns_eq_self indent]
      · rw [Text.withReturns_feed]
    · rw [Text.withReturns_other feed, reindent_cons, reindent_cons, ih, nestAfter, nestAfter,
        if_neg fun h => feed h.1, if_neg fun h => feed h.1, Text.withReturns_other feed]

theorem lintNames_withReturns (t : Text) :
    lintNames (Text.withReturns t) = (lintNames t).map Text.withReturns := by
  have fixFeed (c : CodePoint) : c.lowerAscii = '\n' ↔ c = '\n' :=
    CodePoint.lowerAscii_eq_iff (by decide) c
  rw [lintNames, Text.map_withReturns (by decide) fixFeed,
    Text.splitAtPair_withReturns (by decide) (by decide) (by decide) (by decide)]
  rfl

theorem description_withReturns (prose : Text) :
    description (Text.withReturns prose) = Text.withReturns (description prose) := by
  rw [description, Text.dropWhile_withReturns (by decide), Text.strip_withReturns,
    reindent_withReturns]
  rfl

/-- A comment with line endings of two characters says the same, with such line endings. -/
theorem parse?_withReturns (comment : Text) :
    parse? (Text.withReturns comment) = (parse? comment).map withReturns := by
  rw [parse?, parse?, Text.after?_withReturns (by decide) (by decide)]
  cases Text.after? marker comment with
  | none => rfl
  | some body =>
    simp only [Option.map_some, Option.bind_some]
    rw [Text.takeWhile_withReturns (by decide), Text.dropWhile_withReturns (by decide),
      lintNames_withReturns]
    cases left : body.dropWhile fun c => c ≠ terminator with
    | nil => rfl
    | cons c prose =>
      -- What is left begins with the full stop, which is no line feed.
      have stop : c = terminator := by
        have kept := List.head?_dropWhile_not (fun c => decide (c ≠ terminator)) body
        rw [left] at kept
        simpa using kept
      subst stop
      have noFeed : terminator ≠ '\n' := by decide
      have moved := description_withReturns (terminator :: prose)
      rw [Text.withReturns_other noFeed] at moved ⊢
      simp only [moved]
      rfl

theorem noReturn_of_parse? {comment : Text} {d : DocComment} (parsed : parse? comment = some d)
    (plain : ('\r' : CodePoint) ∉ comment) : ('\r' : CodePoint) ∉ d.doc := by
  obtain ⟨names, prose, written, rfl⟩ := exists_written_eq parsed
  intro inside
  have among := (mem_reindent_iff (by decide) _).mp inside
  rw [written.text, List.mem_append] at plain
  exact plain (Or.inr ((List.dropWhile_sublist _).subset (Text.strip_subset _ among)))

end DocComment

namespace Entry

def withReturns (e : Entry) : Entry :=
  { e with lints := e.lints.map Text.withReturns, doc := Text.withReturns e.doc }

theorem dropReturn_cons {c : CodePoint} (other : c ≠ ('\r' : CodePoint)) (line : Text) :
    dropReturn (c :: line) = c :: dropReturn line := by
  cases line with
  | nil => simp [dropReturn, other]
  | cons d line =>
    rw [dropReturn, dropReturn, List.getLast?_cons_cons]
    split <;> rfl

theorem dropReturn_eq_self {line : Text} (plain : ('\r' : CodePoint) ∉ line) :
    dropReturn line = line :=
  if_neg fun ends => plain (List.mem_of_getLast? ends)

theorem lines_dropReturn {t : Text} (plain : ('\r' : CodePoint) ∉ t) :
    (Text.lines t).map dropReturn = Text.lines t := by
  have same : (Text.lines t).map dropReturn = (Text.lines t).map id := by
    apply List.map_congr_left
    intro line among
    refine dropReturn_eq_self fun inside => plain ?_
    rw [← Text.join_lines t]
    exact Text.mem_join_of_mem among inside
  rw [same, List.map_id]

/-- What stands in front of the line feeds is dropped line by line, also in lines without any other
character; the last line ends without a line feed and keeps what it has. -/
theorem lines_withReturns {t : Text} (plain : ('\r' : CodePoint) ∉ t) :
    (Text.lines (Text.withReturns t)).map dropReturn = Text.lines t := by
  induction t with
  | nil => rfl
  | cons c t ih =>
    rw [List.mem_cons, not_or] at plain
    have later := ih plain.2
    by_cases feed : c = '\n'
    · subst feed
      have noFeed : ('\r' : CodePoint) ≠ '\n' := by decide
      rw [Text.withReturns_feed, Text.lines_cons, if_neg noFeed, Text.lines_cons, if_pos rfl,
        Text.lines_cons, if_pos rfl, List.modifyHead_cons, List.map_cons, later]
      rfl
    · obtain ⟨first, rest, cut⟩ := Text.exists_lines (Text.withReturns t)
      rw [cut, List.map_cons] at later
      rw [Text.withReturns_other feed, Text.lines_cons, if_neg feed, Text.lines_cons, if_neg feed,
        cut, ← later, List.modifyHead_cons, List.modifyHead_cons, List.map_cons,
        dropReturn_cons (Ne.symm plain.1)]

theorem paragraphDoc_withReturns {doc : Text} (plain : ('\r' : CodePoint) ∉ doc) :
    paragraphDoc (Text.withReturns doc) = paragraphDoc doc := by
  have each (t : Text) : (Text.lines t).map (fun line => dedent (dropReturn line)) =
      ((Text.lines t).map dropReturn).map dedent := by
    rw [List.map_map]
    rfl
  rw [paragraphDoc, paragraphDoc, each, each, lines_withReturns plain, lines_dropReturn plain]

theorem anchors_withReturns (e : Entry) : e.withReturns.anchors = e.anchors := by
  rw [anchors, anchors, withReturns, List.filterMap_map]
  exact List.filterMap_congr fun lint _ => Text.firstWord?_withReturns lint

theorem paragraph_withReturns {e : Entry} (plain : ('\r' : CodePoint) ∉ e.doc) :
    e.withReturns.paragraph = e.paragraph := by
  rw [paragraph, paragraph, anchors_withReturns]
  simp only [withReturns, paragraphDoc_withReturns plain]

/-- The text that stands in for a description has one line, so line endings neither make it nor
hide it. -/
theorem isMalformed_withReturns (e : Entry) : e.withReturns.isMalformed = e.isMalformed := by
  have oneLine : ('\n' : CodePoint) ∉ malformedDoc := by decide
  rw [Bool.eq_iff_iff, isMalformed, isMalformed, decide_eq_true_eq, decide_eq_true_eq]
  constructor
  · intro malformed
    have noFeed : ('\n' : CodePoint) ∉ e.doc := by
      intro inside
      have there : ('\n' : CodePoint) ∈ e.withReturns.doc := Text.mem_withReturns inside
      exact oneLine (malformed ▸ there)
    exact (Text.withReturns_eq_self noFeed).symm.trans malformed
  · intro malformed
    rw [withReturns, malformed]
    exact Text.withReturns_eq_self oneLine

end Entry

namespace Declaration

def withReturns (d : Declaration) : Declaration :=
  { d with docComment := Text.withReturns d.docComment }

theorem entry_withReturns (d : Declaration) : d.withReturns.entry = d.entry.withReturns := by
  have comment : (Entry.readComment (.str d.name) (Text.withReturns d.docComment)).value =
      (Entry.readComment (.str d.name) d.docComment).value.withReturns := by
    rw [Entry.readComment_value, Entry.readComment_value, DocComment.parse?_withReturns]
    cases DocComment.parse? d.docComment with
    | none =>
      have oneLine : ('\n' : CodePoint) ∉ Entry.malformedDoc := by decide
      rw [Option.map_none, Option.getD_none, DocComment.withReturns,
        Text.withReturns_eq_self oneLine]
      rfl
    | some _ => rfl
  simp only [entry, Entry.ofDeclaration, Logged.value_bind, Logged.value_pure, withReturns, comment]
  rfl

theorem noReturn_entry {d : Declaration} (plain : ('\r' : CodePoint) ∉ d.docComment) :
    ('\r' : CodePoint) ∉ d.entry.doc := by
  rw [entry_doc]
  cases parsed : DocComment.parse? d.docComment with
  | none => decide
  | some _ => exact DocComment.noReturn_of_parse? parsed plain

end Declaration

namespace Book

theorem sortByName_withReturns (entries : List Entry) :
    sortByName (entries.map Entry.withReturns) = (sortByName entries).map Entry.withReturns := by
  rw [sortByName, sortByName]
  exact (List.map_mergeSort (s := fun (a b : Entry) => Text.le a.name b.name)
    fun _ _ _ _ => rfl).symm

theorem collect_withReturns (ds : List Declaration) :
    (collect (ds.map Declaration.withReturns)).value =
      (collect ds).value.map (List.map Entry.withReturns) := by
  have names : (ds.map Declaration.withReturns).map (fun d => displayName d.name) =
      ds.map fun d => displayName d.name := List.map_map
  have entries : (ds.map Declaration.withReturns).map Declaration.entry =
      (ds.map Declaration.entry).map Entry.withReturns := by
    simp only [List.map_map, Function.comp_def, Declaration.entry_withReturns]
  rw [collect_value, collect_value, names, entries, sortByName_withReturns]
  cases firstRepeat [] (ds.map fun d => displayName d.name) <;> rfl

theorem write_withReturns {entries : List Entry}
    (plain : ∀ e ∈ entries, ('\r' : CodePoint) ∉ e.doc) :
    (write (entries.map Entry.withReturns)).value = (write entries).value := by
  have paragraphs : (entries.map Entry.withReturns).flatMap Entry.paragraph =
      entries.flatMap Entry.paragraph := by
    rw [List.flatMap_map]
    exact List.flatMap_congr fun e among => Entry.paragraph_withReturns (plain e among)
  rw [write_value, write_value, paragraphs]

theorem forLint_withReturns (entries : List Entry) (lint : Text) :
    forLint (entries.map Entry.withReturns) lint =
      (forLint entries lint).map Entry.withReturns := by
  simp only [forLint, List.filter_map, Function.comp_def, Entry.anchors_withReturns]

theorem malformed_withReturns (entries : List Entry) :
    malformed (entries.map Entry.withReturns) = (malformed entries).map Entry.withReturns := by
  simp only [malformed, List.filter_map, Function.comp_def, Entry.isMalformed_withReturns]

end Book

/-- Outcomes with the same book, digest, link definitions and summary, or with the same failure. -/
inductive Outcome.SameBook : Outcome → Outcome → Prop
  | rendered {r s : Rendering} (markdown : r.markdown = s.markdown) (digest : r.digest = s.digest)
      (links : r.links = s.links) (count : r.entries.length = s.entries.length)
      (deprecated : r.deprecated = s.deprecated) (malformed : r.malformed = s.malformed) :
      SameBook (.rendered r) (.rendered s)
  | rejected (r : Rejection) : SameBook (.rejected r) (.rejected r)
  | failed (f : Fault) : SameBook (.failed f) (.failed f)

theorem renderEntries_withReturns (decoding : Option Decoding.Report) {entries : List Entry}
    (plain : ∀ e ∈ entries, ('\r' : CodePoint) ∉ e.doc) :
    Outcome.SameBook (renderEntries decoding entries).value
      (renderEntries decoding (entries.map Entry.withReturns)).value := by
  simp only [renderEntries, Logged.value_bind, Book.write_withReturns plain]
  cases Encoding.Utf8.encodeStrict (Book.write entries).value with
  | error u => exact .failed _
  | ok bytes =>
    refine .rendered rfl rfl ?_ ?_ ?_ ?_
    · rw [Book.links, Book.links, List.map_map]
      rfl
    · exact (List.length_map _).symm
    · simp only [List.filter_map, List.length_map]
      rfl
    · simp only [Book.malformed_withReturns, List.map_map]
      rfl

/-- With a carriage return in front of every line feed of every comment the book is the same, and
so are its digest, its link definitions, the summary, a conflict or the place of a surrogate, and
the names that are found for any lint. -/
theorem render_withReturns (decoding : Option Decoding.Report) {ds : List Declaration}
    (plain : ∀ d ∈ ds, ('\r' : CodePoint) ∉ d.docComment) :
    Outcome.SameBook (render decoding ds).value
        (render decoding (ds.map Declaration.withReturns)).value ∧
      ∀ lint, (Book.collect (ds.map Declaration.withReturns)).value.map
          (fun entries => (Book.forLint entries lint).map Entry.name) =
        (Book.collect ds).value.map fun entries => (Book.forLint entries lint).map Entry.name := by
  constructor
  · simp only [render, Logged.value_bind, Book.collect_withReturns]
    cases collected : (Book.collect ds).value with
    | error d => exact .rejected _
    | ok entries =>
      refine renderEntries_withReturns decoding fun e among => ?_
      obtain ⟨d, declared, rfl⟩ := (Book.mem_collect_iff collected e).mp among
      exact Declaration.noReturn_entry (plain d declared)
  · intro lint
    rw [Book.collect_withReturns]
    cases (Book.collect ds).value with
    | error d => rfl
    | ok entries =>
      simp only [Except.map, Book.forLint_withReturns, List.map_map]
      rfl

/-- Line endings inside a lint name, between blanks, in an empty line, and next to one to four
spaces. -/
theorem render_withReturns_nested :
    let comment : Text := " Lint: LINE\nLEN, \nWIDTH.\n. Top\n\n one\n    four\n  \nend\n"
    let ds : List Declaration :=
      [⟨"max_len", "u64", "1\n2", comment, none⟩, ⟨"tabs", "bool", "", "no\nmarker", some "\n"⟩]
    (∀ d ∈ ds, ('\r' : CodePoint) ∉ d.docComment) ∧
      Outcome.SameBook (render none ds).value
        (render none (ds.map Declaration.withReturns)).value ∧
      (Book.collect (ds.map Declaration.withReturns)).value.map
          (fun entries => (Book.forLint entries " Width").map Entry.name) =
        (Book.collect ds).value.map fun entries =>
          (Book.forLint entries " Width").map Entry.name := by
  intro comment ds
  have plain : ∀ d ∈ ds, ('\r' : CodePoint) ∉ d.docComment := by decide
  have unchanged := render_withReturns none plain
  exact ⟨plain, unchanged.1, unchanged.2 _⟩

end LintBook
