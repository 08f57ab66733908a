import LintBook.Entry
import LintBook.Validation.Check

/-! The JSON forms of declarations, entries and requests: which values are accepted, and how
accepted ones are written. -/
namespace LintBook

namespace Declaration

/-- The members of a declaration, in the order in which their issues are reported. -/
def members : Check Declaration := fun v =>
  Declaration.mk <$> Check.required "name" Check.properText v
    <*> Check.required "config_type" Check.text v
    <*> Check.required "default" Check.text v
    <*> Check.required "doc_comment" Check.text v
    <*> Check.optional "deprecation_reason" none Check.textOrNull v

def check : Check Declaration := Check.object .declaration members

def toJson (d : Declaration) : Json :=
  .object [("name", .str d.name), ("config_type", .str d.configType),
    ("default", .str d.defaultValue), ("doc_comment", .str d.docComment),
    ("deprecation_reason", .ofText? d.deprecationReason)]

def ofJson (v : Json) : Except Refusal Declaration := (check v).toExcept .declaration

end Declaration

namespace Entry

/-- The members of an entry, in the order in which their issues are reported. -/
def members : Check Entry := fun v =>
  Entry.mk <$> Check.required "name" Check.text v
    <*> Check.required "config_type" Check.text v
    <*> Check.required "default" Check.text v
    <*> Check.optional "lints" [] (Check.arrayOf .notSequence Check.text) v
    <*> Check.required "doc" Check.text v
    <*> Check.optional "deprecation_reason" none Check.textOrNull v

def check : Check Entry := Check.object .entry members

def toJson (e : Entry) : Json :=
  .object [("name", .str e.name), ("config_type", .str e.configType),
    ("default", .str e.defaultValue), ("lints", .arr (e.lints.map .str)), ("doc", .str e.doc),
    ("deprecation_reason", .ofText? e.deprecationReason)]

def ofJson (v : Json) : Except Refusal Entry := (check v).toExcept .entry

/-- An entry never changes: setting a member is refused, whether the entry has it or not. Only a
name that begins with an underscore can be no member, and setting it comes to nothing. -/
def assign? (field : Text) (v : Json) : Option Refusal :=
  if field.head? = some ('_' : Char) then none else some ⟨.entry, [⟨.frozen, [.field field], v⟩]⟩

end Entry

structure Request where
  declarations : List Declaration

namespace Request

def members : Check Request := fun v =>
  Request.mk <$> Check.optional "configs" [] (Check.arrayOf .notList Declaration.check) v

def check : Check Request := Check.object .request members

def toJson (r : Request) : Json :=
  .object [("configs", .arr (r.declarations.map Declaration.toJson))]

def ofJson (v : Json) : Except Refusal Request := (check v).toExcept .request

/-- A bare array of declarations counts as a request. -/
def ofUpload (v : Json) : Except Refusal Request :=
  match v with
  | .arr items => ofJson (.object [("configs", .arr items)])
  | v => ofJson v

end Request

end LintBook
