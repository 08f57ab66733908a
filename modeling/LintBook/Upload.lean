import LintBook.Rendering

/-! Rendering an uploaded file of declarations. -/
namespace LintBook

structure Upload where
  fileName : Option Text
  content : Bytes

namespace Upload

/-- The file's name closes with `.json` in any case. -/
def isSupported (u : Upload) : Bool :=
  match u.fileName with
  | none => false
  | some name => Text.endsWith ".json" (Text.lower name)

def renderText (report : Decoding.Report) (t : Text) : Logged Outcome :=
  match Json.read t with
  | .error (.flaw f _) => pure (.rejected (.malformedJson f))
  | .error (.tooDeep c) => pure (.failed (.tooDeep c))
  | .error (.tooManyDigits count) => pure (.failed (.tooManyDigits count))
  | .ok v =>
    match Request.ofUpload v with
    | .error r => pure (.rejected (.refused r))
    | .ok request => render (some report) request.declarations

/-- The least number of bytes that is too much to ask for in one read, 2^63. -/
def readBound : Int := 0x8000000000000000

/-- The first `size` bytes of a file, or all of them if it has fewer. A read that is asked for too
much fails, however long the file is. The limits of settings are above zero, so that no size below
zero is asked for. -/
def read (size : Int) (content : Bytes) : Except Fault Bytes :=
  if size < readBound then .ok (content.take size.toNat) else .error .oversizedRead

/-- The name is checked first, then the size, for which one byte more than the limit is read. Only
then is the content decoded, by the codec that `detect` finds for it. -/
def process (limit : Int) (detect : Bytes → Option Text) (u : Upload) : Logged Outcome :=
  if u.isSupported then
    match read (limit + 1) u.content with
    | .error f => pure (.failed f)
    | .ok raw =>
      if limit < raw.length then pure (.rejected .tooLarge)
      else do
        let (t, report) ← Decoding.decode (detect raw) raw
        renderText report t
  else pure (.rejected .unsupportedFile)

end Upload

end LintBook
