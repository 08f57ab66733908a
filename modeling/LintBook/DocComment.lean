import LintBook.Text.Basic

/-! Doc comments of configuration options: a marker, a list of lint names up to the first full
stop, and a description. -/
namespace LintBook

/-- What a doc comment says: the lints that the option affects, and its description. -/
structure DocComment where
  lints : List Text
  doc : Text
deriving DecidableEq

namespace DocComment

/-- Every doc comment that follows the convention begins with this. -/
def marker : Text := " Lint: "

def terminator : CodePoint := '.'

/-- The indentation of a line that is nested under a list item. -/
def nestedIndent : Text := "    "

/-- Whether a text begins with a space but not with the nested indentation. -/
def isShallow (t : Text) : Bool := t.head? = some (' ' : Char) && !nestedIndent.isPrefixOf t

/-- A character before a text. A line feed moves a shallow text three places in. -/
def nestAfter (c : CodePoint) (rest : Text) : Text :=
  if c = '\n' ∧ isShallow rest then c :: (("   " : Text) ++ rest) else c :: rest

/-- Moves every line after the first that begins with one to three spaces three places in, so that
it nests under a list item; deeper lines already do. -/
def reindent (t : Text) : Text := t.foldr nestAfter []

@[simp] theorem reindent_nil : reindent [] = [] := rfl

@[simp] theorem reindent_cons (c : CodePoint) (t : Text) :
    reindent (c :: t) = nestAfter c (reindent t) := rfl

/-- The list of lints, with only A to Z in lower case. -/
def lintNames (t : Text) : List Text := Text.splitAtPair ',' ' ' (t.map CodePoint.lowerAscii)

/-- The description behind the list of lints: leading full stops are dropped, blanks at the ends
too, and what is left is re-indented. -/
def description (prose : Text) : Text :=
  reindent (Text.strip (prose.dropWhile fun c => c = terminator))

/-- Reads a doc comment, if it has the marker and a full stop. -/
def parse? (comment : Text) : Option DocComment :=
  (Text.after? marker comment).bind fun body =>
    match body.dropWhile fun c => c ≠ terminator with
    | [] => none
    | prose => some ⟨lintNames (body.takeWhile fun c => c ≠ terminator), description prose⟩

def print (d : DocComment) : Text :=
  marker ++ Text.join ", " d.lints ++ (". " : Text) ++ d.doc

end DocComment

end LintBook
