import LintBook.Json.Basic

/-! What validation finds: issues, each with its place and the offending value, and how they are
reported. -/
namespace LintBook

inductive Form
  | declaration
  | entry
  | request
  | settings
deriving DecidableEq

def Form.title : Form → Text
  | declaration => "ConfigDeclaration"
  | entry => "ConfigMetadata"
  | request => "RenderRequest"
  | settings => "Settings"

inductive Problem
  | missing
  | notText
  | emptyText
  | unpairedSurrogate
  | notList
  | notSequence
  | notObject (form : Form)
  | frozen
  | notInteger
  | integerTooLong
  | notPositive
deriving DecidableEq

inductive Step
  | field (name : Text)
  | index (n : Nat)
deriving DecidableEq

def Step.toJson : Step → Json
  | field name => .str name
  | index n => .int n

structure Issue where
  problem : Problem
  place : List Step
  input : Json

structure Refusal where
  form : Form
  issues : List Issue

namespace Problem

def code : Problem → Text
  | missing => "missing"
  | notText => "string_type"
  | emptyText => "string_too_short"
  | unpairedSurrogate => "string_unicode"
  | notList => "list_type"
  | notSequence => "tuple_type"
  | notObject _ => "model_type"
  | frozen => "frozen_instance"
  | notInteger => "int_parsing"
  | integerTooLong => "int_parsing_size"
  | notPositive => "greater_than"

def message : Problem → Text
  | missing => "Field required"
  | notText => "Input should be a valid string"
  | emptyText => "String should have at least 1 character"
  | unpairedSurrogate =>
    "Input should be a valid string, unable to parse raw data as a unicode string"
  | notList => "Input should be a valid list"
  | notSequence => "Input should be a valid tuple"
  | notObject form => ("Input should be a valid dictionary or instance of " : Text) ++ form.title
  | frozen => "Instance is frozen"
  | notInteger => "Input should be a valid integer, unable to parse string as an integer"
  | integerTooLong => "Unable to parse input string as an integer, exceeded maximum size"
  | notPositive => "Input should be greater than 0"

end Problem

namespace Issue

def under (s : Step) (i : Issue) : Issue := { i with place := s :: i.place }

/-- The report of an issue under some code and message, with further members. -/
def describe (i : Issue) (code message : Text) (more : List (String × Json)) : Json :=
  .object ([("type", .str code), ("loc", .arr (i.place.map Step.toJson)), ("msg", .str message),
    ("input", i.input)] ++ more)

def toJson (i : Issue) : Json := i.describe i.problem.code i.problem.message []

end Issue

/-- How many issues there are, and in which form. -/
def Refusal.message (r : Refusal) : Text :=
  Text.ofNat r.issues.length ++
    (if r.issues.length = 1 then (" validation error for " : Text)
      else (" validation errors for " : Text)) ++
    r.form.title

end LintBook
