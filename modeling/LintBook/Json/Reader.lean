import LintBook.Json.Basic

/-! Reading JSON text. Each step takes the text that is left and returns the value and what is
left after it; a flaw is reported with the text from the flaw on, which gives its position. -/
namespace LintBook.Json

inductive Flaw
  | expectedValue
  | extraData
  | expectedComma
  | expectedColon
  | expectedName
  | unterminatedText
  | controlCharacter
  | unknownEscape
  | malformedCode
  | byteOrderMark
deriving DecidableEq

def Flaw.message : Flaw → Text
  | expectedValue => "Expecting value"
  | extraData => "Extra data"
  | expectedComma => "Expecting ',' delimiter"
  | expectedColon => "Expecting ':' delimiter"
  | expectedName => "Expecting property name enclosed in double quotes"
  | unterminatedText => "Unterminated string starting at"
  | controlCharacter => "Invalid control character at"
  | unknownEscape => "Invalid \\escape"
  | malformedCode => "Invalid \\uXXXX escape"
  | byteOrderMark => "Unexpected UTF-8 BOM (decode using utf-8-sig)"

inductive Container
  | array
  | object
deriving DecidableEq

/-- Why a text was not read: a flaw at a position, too many containers inside each other, or an
integer with too many digits. -/
inductive ReadError
  | flaw (f : Flaw) (position : Nat)
  | tooDeep (c : Container)
  | tooManyDigits (count : Nat)
deriving DecidableEq

/-- A read error inside the text, with what is left from a flaw on in place of its position. -/
inductive Stop
  | flaw (f : Flaw) (rest : Text)
  | tooDeep (c : Container)
  | tooManyDigits (count : Nat)

/-- What a step reads, and the text after it. -/
abbrev Read (α : Type) := Except Stop (α × Text)

/-- How deep containers may stand inside each other. The reader makes one more call for each of them,
and what stops it is the number of calls, a thousand less those that are under way when it is
entered. How many these are is up to the caller: a plain call leaves room for 994 levels, one within
an event loop for about 984. The number here leaves room for forty calls; where fewer are under way,
texts that are nested a little deeper are read as well. -/
def nestingLimit : Nat := 960

def digitLimit : Nat := 4300

def isSpace (c : CodePoint) : Bool :=
  c.val = 0x20 || c.val = 0x09 || c.val = 0x0A || c.val = 0x0D

def skipSpace (t : Text) : Text := t.dropWhile isSpace

def shortEscape? (c : CodePoint) : Option CodePoint :=
  match c.val with
  | 0x22 | 0x5C | 0x2F => some c
  | 0x62 => some '\x08'
  | 0x66 => some '\x0C'
  | 0x6E => some '\n'
  | 0x72 => some '\r'
  | 0x74 => some '\t'
  | _ => none

def codeUnit? (a b c d : CodePoint) : Option CodePoint :=
  match a.hexDigit?, b.hexDigit?, c.hexDigit?, d.hexDigit? with
  | some a, some b, some c, some d => CodePoint.ofNat? (((a * 16 + b) * 16 + c) * 16 + d)
  | _, _, _, _ => none

/-- The characters read so far, last one first, with one more that an escape gave. A low surrogate
completes a high one that was written as an escape just before it. -/
def pushUnit (afterHigh : Bool) (read : Text) (u : CodePoint) : Text :=
  match read with
  | high :: earlier =>
    if afterHigh && u.isLowSurrogate then CodePoint.joinSurrogates high u :: earlier else u :: read
  | [] => [u]

/-- The rest of a text value, up to its closing quote. `opening` is the text from its opening quote
on, `read` the characters before, last one first, and `afterHigh` says that the last one is a high
surrogate written as an escape. -/
def textFrom (opening : Text) (afterHigh : Bool) (read : Text) : Text → Read Text
  | [] => .error (.flaw .unterminatedText opening)
  | c :: rest =>
    if c = CodePoint.doubleQuote then .ok (read.reverse, rest)
    else if c = CodePoint.backslash then
      match rest with
      | [] => .error (.flaw .unterminatedText opening)
      | e :: after =>
        if e = 'u' then
          match after with
          | h₁ :: h₂ :: h₃ :: h₄ :: after' =>
            match codeUnit? h₁ h₂ h₃ h₄ with
            | some u =>
              if after'.isEmpty then .error (.flaw .malformedCode rest)
              else textFrom opening u.isHighSurrogate (pushUnit afterHigh read u) after'
            | none => .error (.flaw .malformedCode rest)
          | _ => .error (.flaw .malformedCode rest)
        else
          match shortEscape? e with
          | some d => textFrom opening false (d :: read) after
          | none => .error (.flaw .unknownEscape (c :: rest))
    else if c.val < 0x20 then .error (.flaw .controlCharacter (c :: rest))
    else textFrom opening false (c :: read) rest

def digitsValue (digits : Text) : Nat :=
  digits.foldl (fun n d => 10 * n + (d.val - 0x30)) 0

/-- A number as written: its sign, its whole digits, and what makes it a floating-point number. -/
structure Numeral where
  negative : Bool
  whole : Text
  fraction : Text
  power : Option Int

def takeDigits (t : Text) : Text × Text :=
  (t.takeWhile CodePoint.isAsciiDigit, t.dropWhile CodePoint.isAsciiDigit)

/-- The digits after a point, if there is a point with digits after it. -/
def takeFraction (t : Text) : Text × Text :=
  match t with
  | c :: rest =>
    let (digits, after) := takeDigits rest
    if c = '.' ∧ digits ≠ [] then (digits, after) else ([], t)
  | [] => ([], t)

/-- Whether a minus stands in front, and the text after a sign. -/
def takeSign (t : Text) : Bool × Text :=
  match t with
  | s :: rest => if s = '-' then (true, rest) else if s = '+' then (false, rest) else (false, t)
  | [] => (false, t)

/-- The power of ten after an `e`, if there is one with digits. -/
def takePower (t : Text) : Option Int × Text :=
  match t with
  | e :: rest =>
    let (negative, unsigned) := takeSign rest
    let (digits, after) := takeDigits unsigned
    if (e = 'e' ∨ e = 'E') ∧ digits ≠ [] then
      (some (if negative then -(digitsValue digits : Int) else digitsValue digits), after)
    else (none, t)
  | [] => (none, t)

/-- The longest number at the front of a text. A zero stands alone before the point. -/
def Numeral.take? (t : Text) : Option (Numeral × Text) :=
  let (negative, unsigned) := match t with
    | c :: rest => if c = '-' then (true, rest) else (false, t)
    | [] => (false, t)
  let (digits, after) := takeDigits unsigned
  match digits with
  | [] => none
  | d :: more =>
    let (whole, afterWhole) := if d = '0' then ([d], more ++ after) else (digits, after)
    let (fraction, afterFraction) := takeFraction afterWhole
    let (power, afterPower) := takePower afterFraction
    some (⟨negative, whole, fraction, power⟩, afterPower)

/-- An integer unless the number has a fraction or a power. -/
def Numeral.value (n : Numeral) : Except Stop Json :=
  if n.fraction = [] ∧ n.power = none then
    if digitLimit < n.whole.length then .error (.tooManyDigits n.whole.length)
    else .ok (.int (if n.negative then -(digitsValue n.whole : Int) else digitsValue n.whole))
  else
    .ok (.float (Binary64.ofDecimal n.negative (digitsValue (n.whole ++ n.fraction))
      (n.power.getD 0 - n.fraction.length)))

def words : List (String × Json) :=
  [("null", null), ("true", bool true), ("false", bool false), ("NaN", float .nan),
   ("Infinity", float (.infinite false)), ("-Infinity", float (.infinite true))]

/-- The value of the word at the front of a text. -/
def word? (t : Text) : Option (Json × Text) :=
  words.findSome? fun (word, v) => (Text.after? word t).map fun rest => (v, rest)

def scalarAt (t : Text) : Read Json :=
  match word? t with
  | some found => .ok found
  | none => match Numeral.take? t with
    | none => .error (.flaw .expectedValue t)
    | some (n, rest) => match n.value with
      | .ok v => .ok (v, rest)
      | .error e => .error e

/-- The items of an array from the first one on, where `read` reads an item. The text is shorter
after every item, so its length bounds how many there are. -/
def itemsFrom (read : Text → Read Json) (bound : Nat) (items : List Json) (t : Text) :
    Read (List Json) :=
  match bound with
  | 0 => .error (.flaw .expectedValue t)
  | bound + 1 =>
    match read t with
    | .error e => .error e
    | .ok (v, rest) =>
      match skipSpace rest with
      | [] => .error (.flaw .expectedComma [])
      | c :: after =>
        if c = ']' then .ok ((v :: items).reverse, after)
        else if c = ',' then itemsFrom read bound (v :: items) (skipSpace after)
        else .error (.flaw .expectedComma (c :: after))

def nameAt (t : Text) : Read Text :=
  match t with
  | [] => .error (.flaw .expectedName t)
  | c :: rest =>
    if c = CodePoint.doubleQuote then
      match textFrom t false [] rest with
      | .error e => .error e
      | .ok (name, after) =>
        match skipSpace after with
        | [] => .error (.flaw .expectedColon [])
        | d :: afterColon =>
          if d = ':' then .ok (name, skipSpace afterColon)
          else .error (.flaw .expectedColon (d :: afterColon))
    else .error (.flaw .expectedName t)

/-- The members of an object from the first one on. The last value given to a name stays. -/
def membersFrom (read : Text → Read Json) (bound : Nat) (members : List (Text × Json)) (t : Text) :
    Read (List (Text × Json)) :=
  match bound with
  | 0 => .error (.flaw .expectedName t)
  | bound + 1 =>
    match nameAt t with
    | .error e => .error e
    | .ok (name, afterName) =>
      match read afterName with
      | .error e => .error e
      | .ok (v, rest) =>
        match skipSpace rest with
        | [] => .error (.flaw .expectedComma [])
        | c :: after =>
          if c = CodePoint.closeBrace then .ok ((put name v members).reverse, after)
          else if c = ',' then membersFrom read bound (put name v members) (skipSpace after)
          else .error (.flaw .expectedComma (c :: after))

def arrayFrom (read : Text → Read Json) (t : Text) : Read Json :=
  match skipSpace t with
  | c :: after =>
    if c = ']' then .ok (arr [], after)
    else (itemsFrom read (t.length + 1) [] (c :: after)).map fun (items, rest) => (arr items, rest)
  | [] => .error (.flaw .expectedValue [])

def objectFrom (read : Text → Read Json) (t : Text) : Read Json :=
  match skipSpace t with
  | c :: after =>
    if c = CodePoint.closeBrace then .ok (obj [], after)
    else (membersFrom read (t.length + 1) [] (c :: after)).map
      fun (members, rest) => (obj members, rest)
  | [] => .error (.flaw .expectedName [])

/-- The value at the front of a text, with at most `depth` containers inside each other. -/
def valueAt (depth : Nat) (t : Text) : Read Json :=
  match t with
  | [] => .error (.flaw .expectedValue [])
  | c :: rest =>
    if c = CodePoint.doubleQuote then
      (textFrom t false [] rest).map fun (s, after) => (str s, after)
    else if c = '[' then
      match depth with
      | 0 => .error (.tooDeep .array)
      | depth + 1 => arrayFrom (valueAt depth) rest
    else if c = CodePoint.openBrace then
      match depth with
      | 0 => .error (.tooDeep .object)
      | depth + 1 => objectFrom (valueAt depth) rest
    else scalarAt t

def Stop.located (whole : Text) : Stop → ReadError
  | flaw f rest => .flaw f (whole.length - rest.length)
  | tooDeep c => .tooDeep c
  | tooManyDigits count => .tooManyDigits count

def readUnmarked (t : Text) : Except ReadError Json :=
  match valueAt nestingLimit (skipSpace t) with
  | .error e => .error (e.located t)
  | .ok (v, rest) =>
    match skipSpace rest with
    | [] => .ok v
    | more => .error (.flaw .extraData (t.length - more.length))

/-- The one value of a text, in which a byte order mark in front is a flaw of its own. -/
def read (t : Text) : Except ReadError Json :=
  if t.head? = some CodePoint.byteOrderMark then .error (.flaw .byteOrderMark 0) else readUnmarked t

end LintBook.Json
