import LintBook.Encoding.Percent
import LintBook.Upload

/-! A form with one field, as it travels: lines that name the field and its file, a blank line, and
the content. What is written in the lines is read from them again, so a name may say more than its
writer means. -/
namespace LintBook.Service

structure Form where
  field : Text
  file : Upload

namespace Form

inductive Flaw
  | malformed
  | noName
  | longText
deriving DecidableEq

def Flaw.message : Flaw → Text
  | malformed => "Invalid multipart data."
  | noName => "The Content-Disposition header field \"name\" must be provided."
  | longText => "Part exceeded maximum size of 1024KB."

inductive Content
  | file (u : Upload)
  | text (t : Text)

def lineCountLimit : Nat := 8

def lineLimit : Nat := 4224

def textLimit : Nat := 1048576

/-- The media type that a data URL carries; plain text if it carries none. -/
def dataType (url : Text) : Text :=
  let type := url.takeWhile fun (c : CodePoint) => c ≠ ',' ∧ c ≠ ';'
  if type.contains ('/' : Char) && !type.contains ('=' : Char) then type else "text/plain"

/-- The media type of a file by its name, which may be a data URL. Those of all other names are
summed up in one. -/
def mediaType (name : Text) : Text :=
  let scheme := name.takeWhile fun (c : CodePoint) => c ≠ ':' ∧ c ≠ '/'
  match name.drop scheme.length with
  | [] => "application/octet-stream"
  | c :: url =>
    if c = ':' ∧ Text.lower scheme = Text.ofString "data" ∧ url.contains (',' : Char) then
      dataType url
    else "application/octet-stream"

/-- Characters between quotes: backslashes are doubled, and a quote or a control character other
than escape is percent-encoded. -/
def encodeChar (c : CodePoint) : Text :=
  if c = CodePoint.backslash then [c, c]
  else if c = CodePoint.doubleQuote ∨ (c.val < 0x20 ∧ c.val ≠ 0x1B) then Encoding.Percent.escape c
  else [c]

def quoted (name : Text) : Text := ("\"" : Text) ++ name.flatMap encodeChar ++ ("\"" : Text)

/-- The file name, if it is not empty. -/
def fileName? (f : Form) : Option Text := f.file.fileName.filter fun name => name ≠ []

/-- The lines in front of the content, and the blank line. -/
def head (f : Form) : Text :=
  ("Content-Disposition: form-data; name=" : Text) ++ quoted f.field ++
    (match f.fileName? with
    | none => []
    | some name =>
      ("; filename=" : Text) ++ quoted name ++ ("\r\nContent-Type: " : Text) ++ mediaType name) ++
    ("\r\n\r\n" : Text)

def write (f : Form) : Bytes := Encoding.Utf8.encode f.head ++ f.file.content

structure Line where
  name : Bytes
  value : Bytes

def isNameByte (b : UInt8) : Bool :=
  b.toNat < 0x80 && (Text.ofString "!#$%&'*+-.^_`|~0123456789abcdefghijklmnopqrstuvwxyz").any
    fun c => c.val = b.toNat || c.upperAscii.val = b.toNat

/-- A line up to its line break, which is a carriage return and a line feed: a name, a colon,
spaces and a value. -/
def readLine (bs : Bytes) : Option (Line × Bytes) :=
  let name := bs.takeWhile isNameByte
  match name, bs.drop name.length with
  | _ :: _, 0x3A :: rest =>
    let behind := rest.dropWhile (· = 0x20)
    let value := behind.takeWhile (· ≠ 0x0D)
    let size := bs.length - behind.length + value.length
    match behind.drop value.length with
    | 0x0D :: 0x0A :: next => if size ≤ lineLimit then some (⟨name, value⟩, next) else none
    | _ => none
  | _, _ => none

/-- At most `count` lines up to a blank one, and the content behind it. -/
def readHead (count : Nat) (bs : Bytes) : Option (List Line × Bytes) :=
  match bs with
  | 0x0D :: 0x0A :: content => some ([], content)
  | _ =>
    match count with
    | 0 => none
    | n + 1 =>
      (readLine bs).bind fun (line, rest) =>
        (readHead n rest).map fun (lines, content) => (line :: lines, content)

/-- The pieces of a value between semicolons outside quotes. A quote behind a backslash neither
opens nor closes. -/
def pieces (isInside wasBackslash : Bool) : Text → Text × List Text
  | [] => ([], [])
  | c :: rest =>
    if c = ';' ∧ !isInside then
      let (piece, later) := pieces false false rest
      ([], piece :: later)
    else
      let isQuote := c = CodePoint.doubleQuote && !wasBackslash
      let (piece, later) := pieces (isInside != isQuote) (c = CodePoint.backslash) rest
      (c :: piece, later)

/-- A text in which every backslash in front of `c` is left out. -/
def unescape (c : CodePoint) : Text → Text
  | [] => []
  | [d] => [d]
  | d :: e :: rest =>
    if d = CodePoint.backslash ∧ e = c then c :: unescape c rest else d :: unescape c (e :: rest)

/-- A value without the quotes around it, and what they protect. -/
def unquote (t : Text) : Text :=
  if 2 ≤ t.length ∧ t.head? = some CodePoint.doubleQuote ∧
      t.getLast? = some CodePoint.doubleQuote then
    unescape CodePoint.doubleQuote (unescape CodePoint.backslash t.tail.dropLast)
  else if 2 ≤ t.length ∧ t.head? = some ('<' : Char) ∧ t.getLast? = some ('>' : Char) then
    t.tail.dropLast
  else t

/-- A parameter: a name in any case, an equals sign, and a value. -/
def parameter (piece : Text) : Text × Text :=
  let name := piece.takeWhile fun (c : CodePoint) => c ≠ '='
  (Text.lower (Text.strip name), unquote (Text.strip (piece.drop (name.length + 1))))

/-- The parameters behind the first semicolon of a value. -/
def parameters (value : Text) : List (Text × Text) := (pieces false false value).2.map parameter

def parameter? (ps : List (Text × Text)) (name : String) : Option Text :=
  (ps.filter fun p => p.1 = Text.ofString name).getLast?.map Prod.snd

/-- A byte for each character. -/
def latin (t : Text) : Bytes := t.map fun c => UInt8.ofNat c.val

/-- A text in UTF-8; bytes that are not well formed stand for the characters of their numbers. -/
def decodeText (bs : Bytes) : Text :=
  (Encoding.Codec.decode? bs .utf8 <|> Encoding.Codec.decode? bs .latin).getD []

/-- The parameters of the last line that says what the form is. -/
def disposition (lines : List Line) : List (Text × Text) :=
  let known := lines.filter fun line =>
    Text.lower (decodeText line.name) = Text.ofString "content-disposition"
  match known.getLast? with
  | none => []
  | some line => parameters ((Encoding.Codec.decode? line.value .latin).getD [])

/-- The name of a field and what it holds. A field with a file name is a file; without one it is
text. -/
def readBytes (bs : Bytes) : Except Flaw (Text × Content) :=
  match readHead lineCountLimit bs with
  | none => .error .malformed
  | some (lines, content) =>
    let ps := disposition lines
    match parameter? ps "name", parameter? ps "filename" with
    | none, _ => .error .noName
    | some name, some file =>
      .ok (decodeText (latin name), .file ⟨some (decodeText (latin file)), content⟩)
    | some name, none =>
      if textLimit < content.length then .error .longText
      else .ok (decodeText (latin name), .text (decodeText content))

def read (f : Form) : Except Flaw (Text × Content) := readBytes f.write

end Form

end LintBook.Service
