import LintBook.Entry
import LintBook.Text.Case
import LintBook.Text.Order

/-! The book of all entries, in the order of their names, and the look-ups in it. -/
namespace LintBook

/-- Two declarations have the same display name. -/
structure DuplicateName where
  name : Text
deriving DecidableEq

def DuplicateName.message (d : DuplicateName) : Text :=
  ("duplicate config name: " : Text) ++ d.name

namespace Book

/-- The entries that `build` makes of some items in their order, stopping at the first item that
gives none or whose entry's name is one of `seen` or of those before it. An entry is built, and its
comment reported, before its name is checked. -/
def gather {α ε : Type} (build : α → Logged (Except ε Entry)) (clash : DuplicateName → ε)
    (seen : List Text) : List α → Logged (Except ε (List Entry))
  | [] => pure (.ok [])
  | a :: rest => do
    match ← build a with
    | .error flaw => pure (.error flaw)
    | .ok e =>
      if e.name ∈ seen then pure (.error (clash ⟨e.name⟩))
      else
        let later ← gather build clash (e.name :: seen) rest
        pure (later.map (e :: ·))

/-- Entries in the code point order of their names. -/
def sortByName (entries : List Entry) : List Entry :=
  entries.mergeSort fun a b => Text.le a.name b.name

/-- One entry for each declaration, in the order of their names. -/
def collect (declarations : List Declaration) : Logged (Except DuplicateName (List Entry)) := do
  let gathered ← gather (fun d => .ok <$> Entry.ofDeclaration d) id [] declarations
  pure (gathered.map sortByName)

def header : Text :=
  ("# Lint Configuration Options\n\n" : Text) ++
    ("The following list shows each configuration option, along with a description, " : Text) ++
    ("its default value, an example and lints affected.\n\n---\n\n" : Text)

def write (entries : List Entry) : Logged Text := do
  Logged.report (.writingBook entries.length)
  pure (header ++ entries.flatMap Entry.paragraph)

def links (entries : List Entry) : Text := Text.join "\n" (entries.map Entry.link)

/-- The list of the options that are still in force. -/
def list (entries : List Entry) : Text :=
  (entries.filter fun e => e.deprecationReason.isNone).flatMap Entry.item

/-- The entries that affect a lint, which may be asked for with blanks around it and in any case. -/
def forLint (entries : List Entry) (lint : Text) : List Entry :=
  let wanted := Text.lower (Text.strip lint)
  entries.filter fun e => wanted ∈ e.anchors

def malformed (entries : List Entry) : List Entry := entries.filter Entry.isMalformed

end Book

end LintBook
