import LintBook.Url.Basic

/-! Targets of calls: the URL that one means, the path on the service to which it leads, and where
the service sends a call whose path has slashes too many at its end. -/
namespace LintBook.Service.Target

inductive Flaw
  | url (f : Url.Flaw)
  | name (f : Domain.Flaw)
  | beyondAscii (first : CodePoint) (position count : Nat)
  | unknownScheme (scheme : Text)
  | badPort (port : Text)
  | location (f : Url.Flaw)
deriving DecidableEq

def escaped (c : CodePoint) : Text :=
  if c.val < 0x100 then "\\x" ++ Text.hex 2 c.val
  else if c.val < 0x10000 then "\\u" ++ Text.hex 4 c.val
  else "\\U" ++ Text.hex 8 c.val

def quoteLimit : Nat := 200

def Flaw.message : Flaw → Text
  | url f => f.message
  | name f => f.message
  | beyondAscii first position count =>
    ("'ascii' codec can't encode character" : Text) ++
      (if count = 1 then
        (" '" : Text) ++ escaped first ++ ("' in position " : Text) ++ Text.ofNat position
      else
        ("s in position " : Text) ++ Text.ofNat position ++ ("-" : Text) ++
          Text.ofNat (position + count - 1)) ++
      (": ordinal not in range(128)" : Text)
  | unknownScheme scheme => Text.Quoted.encode scheme
  | badPort port =>
    ("invalid literal for int() with base 10: " : Text) ++
      (Text.Quoted.encode port).take quoteLimit
  | location f => ("Invalid URL in location header: " : Text) ++ f.message ++ ("." : Text)

def homeScheme : Text := "http"

def homeHost : Text := "testserver"

def schemes : List String := ["http", "https", "ws", "wss"]

/-- The URL that a target means: itself if it is absolute, and otherwise one below the root of the
service. -/
def url (target : Text) : Except Flaw Url := do
  let u ← (Url.ofText target).mapError .url
  if u.isAbsolute then .ok u else (u.below homeScheme homeHost).mapError .url

/-- What is wrong with the place of a URL: its host has to stand for a name if it says so, and the
place has to be in ASCII. -/
def placeFlaw? (u : Url) : Option Flaw :=
  let nameFlaw := if Domain.mark.isPrefixOf u.host then
      match Domain.decode u.host with
      | .error f => some f
      | .ok _ => none
    else none
  match nameFlaw, u.place.dropWhile CodePoint.isAscii with
  | some f, _ => some (.name f)
  | none, [] => none
  | none, c :: rest =>
    some (.beyondAscii c (u.place.length - rest.length - 1)
      ((rest.takeWhile fun c => !c.isAscii).length + 1))

/-- The port behind the first colon of a place, which may lie in the host. -/
def portFlaw? (u : Url) : Option Flaw :=
  match u.place.dropWhile fun (c : CodePoint) => c ≠ ':' with
  | [] => none
  | _ :: port => if (Text.integer? port).isSome then none else some (.badPort port)

/-- The path to which a URL leads. Percent-encoding is undone twice: for the URL, and for the path
in it. -/
def pathOf (u : Url) : Except Flaw Text :=
  match placeFlaw? u with
  | some f => .error f
  | none =>
    if schemes.any fun known => Text.ofString known = u.scheme then
      match portFlaw? u with
      | some f => .error f
      | none => .ok (Encoding.Percent.decode u.decodedPath)
    else .error (.unknownScheme u.scheme)

def isLocationChar (c : CodePoint) : Bool :=
  c.isAsciiLetter || c.isAsciiDigit || (Text.ofString "_.-~:/%#?=@[]!$&'()*+,").contains c

def locationOf (u : Url) (path : Text) : Text :=
  let query : Text := match u.query with
    | none | some [] => []
    | some query => '?' :: query
  Encoding.Percent.encode isLocationChar
    (u.scheme ++ ("://" : Text) ++ u.place ++ path ++ query)

/-- The path to which a call for a URL leads that has been sent on to another path. The fragment
stays with the call. -/
def pathOnward (u : Url) (path : Text) : Except Flaw Text := do
  let next ← (Url.ofText (locationOf u path)).mapError .location
  (Url.checkPart .fragment u.decodedFragment).mapError .url
  pathOf next

end LintBook.Service.Target
