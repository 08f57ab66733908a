import LintBook.Domain.Label
import LintBook.Domain.Punycode
import LintBook.Text.Case

/-! Domain names in the characters of all scripts, and their form in ASCII. -/
namespace LintBook.Domain

inductive Flaw
  | label (f : Label.Flaw)
  | emptyName
  | noContent
  | hyphenAfterContent
  | badContent
  | longLabel
  | longName
deriving DecidableEq

def Flaw.message : Flaw → Text
  | label f => f.message
  | emptyName => "Empty domain"
  | noContent => "Malformed A-label, no Punycode eligible content found"
  | hyphenAfterContent => "A-label must not end with a hyphen"
  | badContent => "Invalid A-label"
  | longLabel => "Label too long"
  | longName => "Domain too long"

/-- What an ASCII label begins with that stands for another. -/
def mark : Text := "xn--"

def labelLimit : Nat := 63

/-- The most characters of a name, a full stop at its end not counted. -/
def nameLimit : Nat := 253

/-- The full stops of several scripts, which are all one in a name. -/
def isStop (c : CodePoint) : Bool :=
  c.val = 0x2E || c.val = 0x3002 || c.val = 0xFF0E || c.val = 0xFF61

/-- The labels of a name, and whether a full stop follows the last one. -/
def labels (name : Text) : List Text × Bool :=
  let parts := Text.split '.' (name.map fun c => if isStop c then '.' else c)
  if parts.getLast? = some [] then (parts.dropLast, true) else (parts, false)

def checked (label : Text) : Except Flaw Text :=
  match Label.flaw? label with
  | some f => .error (.label f)
  | none => .ok label

def readLabel (label : Text) : Except Flaw Text :=
  let label := Text.lower label
  match Text.after? mark label with
  | none => checked label
  | some content =>
    if content = [] then .error .noContent
    else if content.getLast? = some ('-' : Char) then .error .hyphenAfterContent
    else match Punycode.decode? content with
      | none => .error .badContent
      | some label => checked label

/-- The ASCII form of a label, which is never shorter than the label. -/
def writeLabel (label : Text) : Except Flaw Text :=
  if labelLimit < label.length then .error .longLabel
  else do
    let written ←
      if label.all CodePoint.isAscii then (readLabel label).map fun _ => label
      else (checked label).map fun label => mark ++ Punycode.encode label
    if labelLimit < written.length then .error .longLabel else .ok written

def mapLabels (form : Text → Except Flaw Text) (name : Text) : Except Flaw Text :=
  if name = [] then .error .emptyName
  else do
    let written ← (labels name).1.mapM form
    let closing : Text := if (labels name).2 then "." else []
    pure (Text.join "." written ++ closing)

def encode (name : Text) : Except Flaw Text := do
  let written ← mapLabels writeLabel name
  let stop := if (labels name).2 then 1 else 0
  if nameLimit + stop < written.length then .error .longName else .ok written

def decode (name : Text) : Except Flaw Text := mapLabels readLabel name

end LintBook.Domain
