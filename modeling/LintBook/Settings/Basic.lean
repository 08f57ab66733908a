import LintBook.Settings.IntegerText
import LintBook.Text.Case
import LintBook.Text.Quoted
import LintBook.Validation.Issue

/-! Settings, read from environment variables. -/
namespace LintBook

/-- Environment variables in the order in which their names were first set. -/
abbrev Environment := List (Text × Text)

namespace Environment

inductive Flaw
  | nullCharacter
  | equalsSign
  | noName
deriving DecidableEq

def Flaw.message : Flaw → Text
  | nullCharacter => "embedded null byte"
  | equalsSign => "illegal environment variable name"
  | noName => "[Errno 22] Invalid argument"

/-- Neither name nor value holds a null character; a name is not empty and holds no equals sign. -/
def flaw? (key value : Text) : Option Flaw :=
  if (key ++ value).any fun c => c.val = 0 then some .nullCharacter
  else if key.any fun (c : CodePoint) => c = '=' then some .equalsSign
  else if key = [] then some .noName
  else none

def set (env : Environment) (key value : Text) : Environment :=
  if env.any fun (known, _) => known = key then
    env.map fun (known, old) => if known = key then (known, value) else (known, old)
  else env ++ [(key, value)]

def ofList (bindings : List (Text × Text)) : Except Flaw Environment :=
  match bindings.findSome? fun (key, value) => flaw? key value with
  | some flaw => .error flaw
  | none => .ok (bindings.foldl (fun env (key, value) => env.set key value) [])

def unset (env : Environment) (key : Text) : Environment :=
  env.filter fun (known, _) => known ≠ key

/-- The value of the last variable that has a name in lower case. -/
def lookup? (env : Environment) (name : Text) : Option Text :=
  (env.filter fun (key, _) => Text.lower key = name).getLast?.map Prod.snd

end Environment

structure Settings where
  logLevel : Text
  maxUploadBytes : Nat
deriving DecidableEq

namespace Settings

/-- What holds where no variable is set: level INFO and uploads up to a mebibyte. -/
def standard : Settings := ⟨"INFO", 1048576⟩

/-- What the names of the variables begin with, in lower case, as names are compared. -/
def lead : Text := "confdoc_"

def uploadField : Text := "max_upload_bytes"

def levelField : Text := "log_level"

def refuse (p : Problem) (value : Text) : Refusal :=
  ⟨.settings, [⟨p, [.field uploadField], .str value⟩]⟩

/-- The upload limit that a variable gives: an integer above zero. -/
def uploadLimit (value : Text) : Except Refusal Nat :=
  match IntegerText.parse value with
  | .error .malformed => .error (refuse .notInteger value)
  | .error .tooLong => .error (refuse .integerTooLong value)
  | .ok n => if 0 < n then .ok n.toNat else .error (refuse .notPositive value)

/-- The settings of an environment, whose variables are the fields' names behind `lead`, in any
case. -/
def read (lead : Text) (env : Environment) : Except Refusal Settings := do
  let limit ← match env.lookup? (lead ++ uploadField) with
    | none => .ok standard.maxUploadBytes
    | some value => uploadLimit value
  pure ⟨(env.lookup? (lead ++ levelField)).getD standard.logLevel, limit⟩

end Settings

def levelNumbers : List (String × Nat) :=
  [("CRITICAL", 50), ("FATAL", 50), ("ERROR", 40), ("WARN", 30), ("WARNING", 30), ("INFO", 20),
   ("DEBUG", 10), ("NOTSET", 0)]

inductive StartError
  | refused (r : Refusal)
  | unknownLevel (name : Text)

def unknownLevelMessage (name : Text) : Text :=
  ("Unknown level: " : Text) ++ Text.Quoted.encode name

def levelNumber (name : Text) : Except StartError Nat :=
  match levelNumbers.find? fun (known, _) => Text.ofString known = Text.upper name with
  | some (_, n) => .ok n
  | none => .error (.unknownLevel (Text.upper name))

/-- The settings that hold after a start, and the level of the logger. -/
def start (lead : Text) (env : Environment) : Except StartError (Settings × Nat) :=
  match Settings.read lead env with
  | .error r => .error (.refused r)
  | .ok s => (levelNumber s.logLevel).map fun n => (s, n)

end LintBook
