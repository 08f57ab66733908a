import LintBook.Json.Basic
import LintBook.Number.Shortest
import LintBook.Text.Quoted

/-! The literal form of a value, in which messages quote it, and the name of its kind. -/
namespace LintBook.Json

mutual

/-- The literal on one line: texts are quoted, and floats have their shortest form. -/
def literal : Json → Text
  | null => "None"
  | bool b => if b then "True" else "False"
  | int n => Text.ofInt n
  | float x => x.text
  | str s => Text.Quoted.encode s
  | arr [] => "[]"
  | arr (v :: rest) => '[' :: (literal v ++ itemLiterals rest ++ ("]" : Text))
  | obj [] => [CodePoint.openBrace, CodePoint.closeBrace]
  | obj ((name, v) :: rest) =>
    CodePoint.openBrace :: (Text.Quoted.encode name ++ (": " : Text) ++ literal v ++
      memberLiterals rest ++ [CodePoint.closeBrace])

def itemLiterals : List Json → Text
  | [] => []
  | v :: rest => (", " : Text) ++ literal v ++ itemLiterals rest

def memberLiterals : List (Text × Json) → Text
  | [] => []
  | (name, v) :: rest =>
    (", " : Text) ++ Text.Quoted.encode name ++ (": " : Text) ++ literal v ++ memberLiterals rest

end

def kindName : Json → Text
  | null => "NoneType"
  | bool _ => "bool"
  | int _ => "int"
  | float _ => "float"
  | str _ => "str"
  | arr _ => "list"
  | obj _ => "dict"

end LintBook.Json
