import LintBook.Text.Basic

/-! Configuration options as they are declared. -/
namespace LintBook

/-- A configuration option with its doc comment, before the comment is read. -/
structure Declaration where
  name : Text
  configType : Text
  defaultValue : Text
  docComment : Text
  deprecationReason : Option Text
deriving DecidableEq

/-- The name under which an option is shown: hyphens in place of underscores. -/
def displayName (name : Text) : Text :=
  name.map fun (c : CodePoint) => if c = '_' then '-' else c

end LintBook
