import LintBook.Text.Basic

/-! URL references in their parts. Any text is one; what its parts may hold is a question of its
own. -/
namespace LintBook.Url

/-- The parts of a URL reference as they are written. One that is missing is empty, but a query or
a fragment may be there and empty. -/
structure Reference where
  scheme : Text
  user : Text
  host : Text
  port : Text
  path : Text
  query : Option Text
  fragment : Option Text
deriving DecidableEq

namespace Reference

def isSchemeChar (c : CodePoint) : Bool :=
  c.isAsciiLetter || c.isAsciiDigit || c = '+' || c = '.' || c = '-'

/-- The scheme in front of a colon and the text behind it. A scheme begins with a letter, or is
empty; without such a colon there is none. -/
def splitScheme (t : Text) : Text × Text :=
  let scheme := t.takeWhile isSchemeChar
  match t.drop scheme.length with
  | [] => ([], t)
  | c :: rest =>
    if c = ':' ∧ scheme.head?.all CodePoint.isAsciiLetter then (scheme, rest) else ([], t)

/-- The authority behind two slashes and the text behind it. -/
def splitAuthority : Text → Text × Text
  | c :: d :: rest =>
    if c = '/' ∧ d = '/' then
      let authority := rest.takeWhile fun (c : CodePoint) => c ≠ '/' ∧ c ≠ '?' ∧ c ≠ '#'
      (authority, rest.drop authority.length)
    else ([], c :: d :: rest)
  | t => ([], t)

/-- The user in front of the last at sign and the text behind it. -/
def splitUser (authority : Text) : Text × Text :=
  let place := (authority.reverse.takeWhile fun (c : CodePoint) => c ≠ '@').reverse
  (authority.take (authority.length - place.length - 1), place)

/-- The host in front of a colon and the port behind it. A host in brackets may hold colons. -/
def splitHost (place : Text) : Text × Text :=
  let bracketed := (place.reverse.dropWhile fun (c : CodePoint) => c ≠ ']').reverse
  let host :=
    if place.head? = some ('[' : Char) ∧ bracketed ≠ [] then bracketed
    else place.takeWhile fun (c : CodePoint) => c ≠ ':'
  match place.drop host.length with
  | [] => (host, [])
  | c :: rest => (host, if c = ':' then rest else c :: rest)

/-- The text in front of the first place of a mark, and what is behind it if it has such a place. -/
def splitAt (mark : CodePoint) (t : Text) : Text × Option Text :=
  let front := t.takeWhile fun (c : CodePoint) => c ≠ mark
  match t.drop front.length with
  | [] => (front, none)
  | _ :: rest => (front, some rest)

def ofText (t : Text) : Reference :=
  let (scheme, rest) := splitScheme t
  let (authority, rest) := splitAuthority rest
  let (user, place) := splitUser authority
  let (host, port) := splitHost place
  let (rest, fragment) := splitAt '#' rest
  let (path, query) := splitAt '?' rest
  ⟨scheme, user, host, port, path, query, fragment⟩

end Reference

end LintBook.Url
