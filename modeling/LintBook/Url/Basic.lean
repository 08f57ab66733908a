import LintBook.Domain.Name
import LintBook.Encoding.Percent
import LintBook.Text.Integer
import LintBook.Url.Address
import LintBook.Url.Reference

/-! URLs in normal form: the host in ASCII, the port as a number, the path without dot segments, and
everything else in ASCII by percent-encoding. -/
namespace LintBook

/-- A URL or a relative reference in normal form. The port is left out where it is the one of the
scheme. -/
structure Url where
  scheme : Text
  user : Text
  host : Text
  port : Option Int
  path : Text
  query : Option Text
  fragment : Option Text
deriving DecidableEq

namespace Url

/-- The parts of a URL that are put together anew. -/
inductive Part
  | path
  | query
  | fragment
deriving DecidableEq

def Part.name : Part → Text
  | path => "path"
  | query => "query"
  | fragment => "fragment"

inductive Flaw
  | tooLong
  | unprintable (c : CodePoint) (position : Nat)
  | badFourNumbers (host : Text)
  | badEightGroups (host : Text)
  | badName (host : Text)
  | badPort (port : Text)
  | leadingSlashes
  | leadingColon
  | longPart (p : Part)
  | unprintablePart (p : Part) (c : CodePoint) (position : Nat)
deriving DecidableEq

def Flaw.message : Flaw → Text
  | tooLong => "URL too long"
  | unprintable c position =>
    ("Invalid non-printable ASCII character in URL, " : Text) ++ Text.Quoted.encode [c] ++
      (" at position " : Text) ++ Text.ofNat position ++ ("." : Text)
  | badFourNumbers host => ("Invalid IPv4 address: " : Text) ++ Text.Quoted.encode host
  | badEightGroups host => ("Invalid IPv6 address: " : Text) ++ Text.Quoted.encode host
  | badName host => ("Invalid IDNA hostname: " : Text) ++ Text.Quoted.encode host
  | badPort port => ("Invalid port: " : Text) ++ Text.Quoted.encode port
  | leadingSlashes => "Relative URLs cannot have a path starting with '//'"
  | leadingColon => "Relative URLs cannot have a path starting with ':'"
  | longPart p => ("URL component '" : Text) ++ p.name ++ ("' too long" : Text)
  | unprintablePart p c position =>
    ("Invalid non-printable ASCII character in URL " : Text) ++ p.name ++
      (" component, " : Text) ++ Text.Quoted.encode [c] ++ (" at position " : Text) ++
      Text.ofNat position ++ ("." : Text)

/-- How many characters a URL may have, and each of its parts. -/
def lengthLimit : Nat := 65536

def isControl (c : CodePoint) : Bool := c.val < 0x20 || c.val = 0x7F

def control? (t : Text) : Option (CodePoint × Nat) :=
  match t.dropWhile fun c => !isControl c with
  | [] => none
  | c :: rest => some (c, t.length - rest.length - 1)

def isPlainBut (others : String) (c : CodePoint) : Bool :=
  c.isAscii && !isControl c && !(Text.ofString others).contains c

def isHostChar (c : CodePoint) : Bool := isPlainBut " #/:<>?@[]^" c

def isQueryChar (c : CodePoint) : Bool := isPlainBut " \"#<>" c

def isPathChar (c : CodePoint) : Bool := isPlainBut " \"#<>?`\x7b\x7d" c

def bracketed? (t : Text) : Option Text :=
  if 2 ≤ t.length ∧ t.head? = some ('[' : Char) ∧ t.getLast? = some (']' : Char) then
    some t.tail.dropLast
  else none

/-- A host in ASCII. One that looks like an address in numbers has to be one; any other in ASCII is
taken as it is, in lower case. -/
def hostOf (host : Text) : Except Flaw Text :=
  if Address.resemblesFour host then
    if Address.isFour host then .ok host else .error (.badFourNumbers host)
  else match bracketed? host with
    | some inner => if Address.isEight inner then .ok inner else .error (.badEightGroups host)
    | none =>
      let name := Text.lower host
      if host.all CodePoint.isAscii then .ok (Encoding.Percent.complete isHostChar name)
      else (Domain.encode name).mapError fun _ => .badName host

def standardPorts : List (String × Int) :=
  [("ftp", 21), ("http", 80), ("https", 443), ("ws", 80), ("wss", 443)]

/-- A port, unless it is missing or the one of the scheme as it is written. -/
def portOf (scheme port : Text) : Except Flaw (Option Int) :=
  if port = [] then .ok none
  else match Text.integer? port with
    | none => .error (.badPort port)
    | some n =>
      let isStandard := standardPorts.any fun (known, m) => Text.ofString known = scheme && m = n
      .ok (if isStandard then none else some n)

/-- Segments without `.`, and without `..` and the segment before each. The empty segment before a
leading slash is kept. The segments in `before` are in reverse order. -/
def dropDots (before : List Text) : List Text → List Text
  | [] => before.reverse
  | s :: rest =>
    if s = Text.ofString "." then dropDots before rest
    else if s = Text.ofString ".." then
      dropDots (if before = [[]] then before else before.tail) rest
    else dropDots (s :: before) rest

def plainPath (path : Text) : Text := Text.join "/" (dropDots [] (Text.split '/' path))

/-- A path, from which dot segments are dropped unless it is all there is. -/
def pathOf (isAlone : Bool) (path : Text) : Except Flaw Text :=
  if isAlone ∧ (Text.ofString "//").isPrefixOf path then .error .leadingSlashes
  else if isAlone ∧ path.head? = some (':' : Char) then .error .leadingColon
  else .ok (Encoding.Percent.complete isPathChar (if isAlone then path else plainPath path))

def ofReference (r : Reference) : Except Flaw Url := do
  let host ← hostOf r.host
  let port ← portOf r.scheme r.port
  let isAlone := r.scheme = [] && r.user = [] && host = [] && port.isNone
  let path ← pathOf isAlone r.path
  pure ⟨Text.lower r.scheme, r.user, host, port, path,
    r.query.map (Encoding.Percent.complete isQueryChar), r.fragment⟩

def ofText (t : Text) : Except Flaw Url :=
  if lengthLimit < t.length then .error .tooLong
  else match control? t with
    | some (c, position) => .error (.unprintable c position)
    | none => ofReference (Reference.ofText t)

def isAbsolute (u : Url) : Bool := u.scheme ≠ [] && u.host ≠ []

/-- The host, in brackets if it holds colons, and the port. -/
def place (u : Url) : Text :=
  let host : Text :=
    if u.host.contains (':' : Char) then ("[" : Text) ++ u.host ++ ("]" : Text) else u.host
  match u.port with
  | none => host
  | some n => host ++ (":" : Text) ++ Text.ofInt n

/-- A part that is put into a URL. -/
def checkPart (p : Part) (t : Text) : Except Flaw Unit :=
  if lengthLimit < t.length then .error (.longPart p)
  else match control? t with
    | some (c, position) => .error (.unprintablePart p c position)
    | none => .ok ()

/-- A relative reference below the root of a place, however many slashes its path begins with. Only
its path and its query are taken. -/
def below (scheme host : Text) (u : Url) : Except Flaw Url := do
  let path : Text := '/' :: u.path.dropWhile fun (c : CodePoint) => c = '/'
  checkPart .path path
  checkPart .query (u.query.getD [])
  pure ⟨scheme, [], host, none, plainPath path, u.query, none⟩

def decodedPath (u : Url) : Text :=
  Encoding.Percent.decode (if u.path = [] then "/" else u.path)

def decodedFragment (u : Url) : Text := Encoding.Percent.decode (u.fragment.getD [])

end Url

end LintBook
