import LintBook.Schema

/-! Drafts: options of which no part has been checked, and the entries that they give. -/
namespace LintBook

/-- An option whose parts may be any values. -/
structure Draft where
  name : Json
  configType : Json
  defaultValue : Json
  docComment : Json
  deprecationReason : Json

namespace Draft

inductive Flaw
  | commentNotText (v : Json)
  | nameNotText (v : Json)
  | refused (r : Refusal)

/-- What is said of a value that has not the operation of texts that was asked of it. -/
def notTextMessage (v : Json) (operation : Text) : Text :=
  ("'" : Text) ++ v.kindName ++ ("' object has no attribute '" : Text) ++ operation ++
    ("'" : Text)

def Flaw.message : Flaw → Text
  | commentNotText v => notTextMessage v "startswith"
  | nameNotText v => notTextMessage v "replace"
  | refused r => r.message

def ofDeclaration (d : Declaration) : Draft :=
  ⟨.str d.name, .str d.configType, .str d.defaultValue, .str d.docComment,
    .ofText? d.deprecationReason⟩

/-- The form of an entry that is still to be checked. -/
def form (d : Draft) (name : Text) (comment : DocComment) : Json :=
  .object [("name", .str (displayName name)), ("config_type", d.configType),
    ("default", d.defaultValue), ("lints", .arr (comment.lints.map .str)),
    ("doc", .str comment.doc), ("deprecation_reason", d.deprecationReason)]

/-- The entry of a draft. Its comment is read first, and reported even if the draft then fails. -/
def entry (d : Draft) : Logged (Except Flaw Entry) :=
  match d.docComment with
  | .str comment => do
    let c ← Entry.readComment d.name comment
    match d.name with
    | .str name => pure ((Entry.ofJson (d.form name c)).mapError .refused)
    | v => pure (.error (.nameNotText v))
  | v => pure (.error (.commentNotText v))

end Draft

end LintBook
