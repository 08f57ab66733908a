import LintBook.Service.Form
import LintBook.Service.Target

/-! The three routes of the service: its health, rendering a request body, and rendering an
uploaded file. -/
namespace LintBook.Service

inductive Payload
  | nothing
  | json (body : Text)
  | form (f : Form)

structure Call where
  method : Text
  target : Text
  payload : Payload

/-- What an answer holds. It may hold nothing although it is marked as JSON. -/
inductive Content
  | json (v : Json)
  | text (t : Text)
  | nothing

structure Response where
  status : Nat
  content : Content

def crashed : Response := ⟨500, .text "Internal Server Error"⟩

/-- An answer in JSON. What cannot be written as JSON of scalar texts and finite numbers fails the
call. -/
def respond (status : Nat) (v : Json) : Response :=
  if v.isPlain then ⟨status, .json v⟩ else crashed

def detailed (status : Nat) (detail : Json) : Response :=
  respond status (.object [("detail", detail)])

/-- The method HEAD asks for the status alone. -/
def forMethod (method : Text) (r : Response) : Response :=
  if method = Text.ofString "HEAD" then { r with content := .nothing } else r

/-- What is wrong with nothing as JSON. -/
def nothingMessage : Text := "Expecting value: line 1 column 1 (char 0)"

def ofOutcome : Outcome → Response
  | .rendered r => respond 200 r.toJson
  | .rejected r => detailed r.status r.detail
  | .failed _ => crashed

/-- Names that mark internal members, which are left out of reports. -/
def isInternal (name : Text) : Bool := (Text.ofString "_sa").isPrefixOf name

/-- An issue of a request body, which may also be an object with the fields as its attributes; the
least length is given with a text that is too short. -/
def bodyIssue (i : Issue) : Json :=
  let shown := { i with input := i.input.withoutMembers isInternal }
  let inBody := shown.under (.field "body")
  match i.problem with
  | .notObject _ => inBody.describe "model_attributes_type"
      "Input should be a valid dictionary or object to extract fields from" []
  | .emptyText => inBody.describe i.problem.code i.problem.message
      [("ctx", .object [("min_length", .int 1)])]
  | _ => inBody.toJson

/-- A body with a flaw at a position. -/
def flawIssue (f : Json.Flaw) (position : Nat) : Json :=
  .object [("type", .ofString "json_invalid"), ("loc", .arr [.ofString "body", .int position]),
    ("msg", .ofString "JSON decode error"), ("input", .object []),
    ("ctx", .object [("error", .str f.message)])]

/-- The answer to a body that is no text or exceeds what the reader takes. -/
def unreadable : Response := detailed 400 (.ofString "There was an error parsing the body")

def renderBody (body : Bytes) : Logged Response :=
  if body = [] then pure (detailed 422 (.arr [bodyIssue ⟨.missing, [], .null⟩]))
  else match (Encoding.Codec.ofJsonBytes body).decodeLoose? body with
    | none => pure unreadable
    | some t =>
      match Json.readUnmarked t with
      | .error (.flaw f position) => pure (detailed 422 (.arr [flawIssue f position]))
      | .error _ => pure unreadable
      | .ok v =>
        match Request.ofJson v with
        | .error r => pure (detailed 422 (.arr (r.issues.map bodyIssue)))
        | .ok request => ofOutcome <$> render none request.declarations

def fileField : Text := "file"

def missingFile : Response :=
  detailed 422 (.arr [bodyIssue ⟨.missing, [.field fileField], .null⟩])

def textForFile (t : Text) : Response :=
  detailed 422 (.arr [.object [("type", .ofString "value_error"),
    ("loc", .arr [.ofString "body", .str fileField]),
    ("msg", .ofString "Value error, Expected UploadFile, received: <class 'str'>"),
    ("input", .str t), ("ctx", .object [("error", .object [])])]])

/-- Renders the file of a form. An empty text counts as no field at all. -/
def renderForm (limit : Int) (detect : Bytes → Option Text) : Payload → Logged Response
  | .form f =>
    match f.read with
    | .error flaw => pure (detailed 400 (.str flaw.message))
    | .ok (field, content) =>
      if field = fileField then
        match content with
        | .file u => ofOutcome <$> u.process limit detect
        | .text [] => pure missingFile
        | .text t => pure (textForFile t)
      else pure missingFile
  | _ => pure missingFile

inductive Route
  | health
  | render
  | upload
deriving DecidableEq

def Route.path : Route → Text
  | health => "/health"
  | render => "/render"
  | upload => "/render/upload"

/-- The route of a path. A line feed at the end does not matter. -/
def Route.ofPath? (path : Text) : Option Route :=
  [health, render, upload].find? fun r => path = r.path ∨ path = r.path ++ Text.ofString "\n"

/-- The path without slashes at its end, if that has a route. -/
def Route.onward? (path : Text) : Option Text :=
  let trimmed := (path.reverse.dropWhile fun (c : CodePoint) => c = '/').reverse
  if trimmed ≠ path ∧ (Route.ofPath? trimmed).isSome then some trimmed else none

def Route.method : Route → Text
  | health => "GET"
  | render | upload => "POST"

def Route.answer (limit : Int) (detect : Bytes → Option Text) (payload : Payload) :
    Route → Logged Response
  | health => pure (respond 200 (.object [("ok", .bool true)]))
  | render => renderBody (match payload with
    | .json body => Encoding.Utf8.encode body
    | _ => [])
  | upload => renderForm limit detect payload

/-- The answer at a path by a method in upper case. -/
def answerAt (limit : Int) (detect : Bytes → Option Text) (path method : Text)
    (payload : Payload) : Logged Response :=
  match Route.ofPath? path with
  | none => pure (forMethod method (detailed 404 (.ofString "Not Found")))
  | some route =>
    if method = route.method then route.answer limit detect payload
    else pure (forMethod method (detailed 405 (.ofString "Method Not Allowed")))

/-- The path to which a call leads. One with slashes at the end is sent on to the one without
them. -/
def reached (target : Text) : Except Target.Flaw Text := do
  let u ← Target.url target
  let path ← Target.pathOf u
  match Route.onward? path with
  | none => pure path
  | some trimmed => Target.pathOnward u trimmed

/-- The answer to a call where uploads may have `limit` bytes, if its target leads to the service.
The method may be in any case. -/
def answer (limit : Int) (detect : Bytes → Option Text) (c : Call) :
    Logged (Except Target.Flaw Response) :=
  match reached c.target with
  | .error flaw => pure (.error flaw)
  | .ok path => .ok <$> answerAt limit detect path (Text.upper c.method) c.payload

end LintBook.Service
