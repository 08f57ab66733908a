import LintBook.Declaration
import LintBook.DocComment
import LintBook.Log

/-! Entries of the book: one option each, with the three forms in which it is shown. -/
namespace LintBook

structure Entry where
  name : Text
  configType : Text
  defaultValue : Text
  lints : List Text
  doc : Text
  deprecationReason : Option Text
deriving DecidableEq

namespace Entry

/-- Stands in for the description where the doc comment does not follow the convention. -/
def malformedDoc : Text := "[ERROR] MALFORMED DOC COMMENT"

def lintIndex : Text := "https://rust-lang.github.io/rust-clippy/master/index.html"

def optionIndex : Text := "https://doc.rust-lang.org/clippy/lint_configuration.html"

/-- What a doc comment says; one that does not follow the convention is reported under `name`. -/
def readComment (name : Json) (comment : Text) : Logged DocComment :=
  match DocComment.parse? comment with
  | some d => pure d
  | none => do
    Logged.report (.malformedComment name)
    pure ⟨[], malformedDoc⟩

def ofDeclaration (d : Declaration) : Logged Entry := do
  let comment ← readComment (.str d.name) d.docComment
  pure ⟨displayName d.name, d.configType, d.defaultValue, comment.lints, comment.doc,
    d.deprecationReason⟩

def isMalformed (e : Entry) : Bool := e.doc = malformedDoc

/-- The lints to link to: the first word of each name that has one. -/
def anchors (e : Entry) : List Text := e.lints.filterMap Text.firstWord?

def dropReturn (line : Text) : Text :=
  if line.getLast? = some ('\r' : Char) then line.dropLast else line

def dedent (line : Text) : Text := (Text.after? DocComment.nestedIndent line).getD line

/-- The description as it stands in a paragraph of its own. -/
def paragraphDoc (doc : Text) : Text :=
  Text.join "\n" ((Text.lines doc).map fun line => dedent (dropReturn line))

def anchorItem (lint : Text) : Text :=
  ("* [`" : Text) ++ lint ++ ("`](" : Text) ++ lintIndex ++ ("#" : Text) ++ lint ++ (")" : Text)

def paragraph (e : Entry) : Text :=
  ("## `" : Text) ++ e.name ++ ("`\n" : Text) ++ paragraphDoc e.doc ++
    ("\n\n**Default Value:** `" : Text) ++ e.defaultValue ++ ("` (`" : Text) ++ e.configType ++
    ("`)\n\n---\n**Affected lints:**\n" : Text) ++
    Text.join "\n" (e.anchors.map anchorItem) ++ ("\n\n" : Text)

def link (e : Entry) : Text :=
  ("[`" : Text) ++ e.name ++ ("`]: " : Text) ++ optionIndex ++ ("#" : Text) ++ e.name

def item (e : Entry) : Text :=
  ("* `" : Text) ++ e.name ++ ("`: `" : Text) ++ e.configType ++ ("`(defaults to `" : Text) ++
    e.defaultValue ++ ("`): " : Text) ++ e.doc ++ ("\n" : Text)

end Entry

end LintBook
