import LintBook.Book
import LintBook.Decoding
import LintBook.Json.Reader
import LintBook.Schema

/-! Rendering declarations, and what may come of it: a rendering, a rejection with a status, or a
fault that nothing handles. -/
namespace LintBook

/-- The answer to a request: the book with its digest and its companions, a summary, the entries,
and how the declarations were decoded if they came as a file. -/
structure Rendering where
  digest : Text
  markdown : Text
  links : Text
  list : Text
  deprecated : Nat
  malformed : List Text
  entries : List Entry
  decoding : Option Decoding.Report

def Rendering.toJson (r : Rendering) : Json :=
  .object [
    ("book", .object [("sha256", .str r.digest), ("markdown", .str r.markdown),
      ("link_references", .str r.links), ("config_list", .str r.list)]),
    ("summary", .object [("configs", .int r.entries.length), ("deprecated", .int r.deprecated),
      ("malformed", .arr (r.malformed.map .str))]),
    ("configs", .arr (r.entries.map Entry.toJson)),
    ("decoding", match r.decoding with
      | none => .object []
      | some report => report.toJson)]

inductive Rejection
  | unsupportedFile
  | tooLarge
  | malformedJson (f : Json.Flaw)
  | refused (r : Refusal)
  | duplicateName (d : DuplicateName)

namespace Rejection

/-- The status of the answer: a conflict, too much content, or content that cannot be used. -/
def status : Rejection → Nat
  | duplicateName _ => 409
  | tooLarge => 413
  | unsupportedFile | malformedJson _ | refused _ => 422

def detail : Rejection → Json
  | unsupportedFile => .ofString "Only JSON files are supported"
  | tooLarge => .ofString "Declarations file too large"
  | malformedJson f => .str (("Invalid JSON: " : Text) ++ f.message)
  | refused r => .arr (r.issues.map Issue.toJson)
  | duplicateName d => .str d.message

end Rejection

/-- What no answer is prepared for: a limit beyond what a read can be asked for, JSON beyond the
limits of the reader, and a book that holds surrogates. -/
inductive Fault
  | oversizedRead
  | unencodable (u : Encoding.Utf8.Unencodable)
  | tooDeep (c : Json.Container)
  | tooManyDigits (count : Nat)
deriving DecidableEq

def Fault.message : Fault → Text
  | oversizedRead => "cannot fit 'int' into an index-sized integer"
  | unencodable u => u.message
  | tooDeep .array =>
    "maximum recursion depth exceeded while decoding a JSON array from a unicode string"
  | tooDeep .object =>
    "maximum recursion depth exceeded while decoding a JSON object from a unicode string"
  | tooManyDigits count =>
    ("Exceeds the limit (" : Text) ++ Text.ofNat Json.digitLimit ++
      (" digits) for integer string conversion: value has " : Text) ++ Text.ofNat count ++
      (" digits; use sys.set_int_max_str_digits() to increase the limit" : Text)

inductive Outcome
  | rendered (r : Rendering)
  | rejected (r : Rejection)
  | failed (f : Fault)

/-- Renders entries that are in order. The book is digested as UTF-8. -/
def renderEntries (decoding : Option Decoding.Report) (entries : List Entry) : Logged Outcome := do
  let markdown ← Book.write entries
  match Encoding.Utf8.encodeStrict markdown with
  | .error u => pure (.failed (.unencodable u))
  | .ok bytes =>
    pure (.rendered {
      digest := bytes.sha256
      markdown := markdown
      links := Book.links entries
      list := Book.list entries
      deprecated := (entries.filter fun e => e.deprecationReason.isSome).length
      malformed := (Book.malformed entries).map Entry.name
      entries := entries
      decoding := decoding })

/-- Renders declarations, unless two of them have one display name. -/
def render (decoding : Option Decoding.Report) (declarations : List Declaration) :
    Logged Outcome := do
  match ← Book.collect declarations with
  | .error d => pure (.rejected (.duplicateName d))
  | .ok entries => renderEntries decoding entries

end LintBook
