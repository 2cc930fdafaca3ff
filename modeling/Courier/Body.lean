import Courier.Parameter
import Courier.Patch.Reader
import Courier.Text.Form
import Courier.Trace

/-!
# Request bodies

A body is bytes with an optional media type. `Body.select` takes it from the first source that is there: a
JSON model, a patch document, or raw content. Without a media type no source counts.
-/

namespace Courier

def jsonType : String := "application/json"

def formType : String := "application/x-www-form-urlencoded"

def patchType : String := "application/json-patch+json"

/-- The media type of bytes of which nothing is known. -/
def bytesType : String := "application/octet-stream"

structure Body where
  contentType : Option String
  content : Bytes
  deriving DecidableEq, Repr

namespace Body

def empty : Body := ⟨none, []⟩

def ofText (text contentType : String) : Body := ⟨some contentType, Text.utf8 text.toList⟩

def ofJson (value : Json) (contentType : String) : Body :=
  ⟨some contentType, Text.utf8 value.render⟩

/-- Entries as a form; an entry without a value has an empty one. -/
def ofForm (entries : List Entry) : Body :=
  ⟨some formType,
    Text.utf8 (Form.appendAll []
      (entries.map fun e => (e.name.toList, some (e.value.getD "").toList)))⟩

/-- A body as it is shown: the media type and the number of bytes. -/
def text (b : Body) : String :=
  "RequestBody \x7b content_type: " ++ Quoted.encodeOption b.contentType
    ++ ", len: " ++ toString b.content.length ++ " \x7d"

end Body

/-! ### Sources -/

/-- One read of a stream: bytes, of which there is at least one, an interruption after which reading goes
on, or a failure. A read without bytes is the end of a stream and no step of it. -/
inductive StreamStep
  | delivered (first : UInt8) (rest : Bytes)
  | interrupted
  | failed (reason : String)
  deriving DecidableEq, Repr

/-- A piece of content as a step; an empty piece brings nothing, and reading goes on. -/
def StreamStep.chunk : Bytes → StreamStep
  | [] => .interrupted
  | first :: rest => .delivered first rest

/-- Reads a stream to its end: all bytes, or the reason of the first failure. -/
def readStream : List StreamStep → Except Error Bytes
  | [] => .ok []
  | .delivered first rest :: steps => do return first :: rest ++ (← readStream steps)
  | .interrupted :: steps => readStream steps
  | .failed reason :: _ => .error (.unreadableBody reason)

/-- Content that is sent as it is. -/
inductive RawContent
  | text (s : String)
  | bytes (b : Bytes)
  | stream (steps : List StreamStep)

namespace RawContent

def read : RawContent → Except Error Bytes
  | .text s => .ok (Text.utf8 s.toList)
  | .bytes b => .ok b
  | .stream steps => readStream steps

/-- Raw content as it is shown: its form and the number of its bytes. -/
def shown : RawContent → String
  | .text s => "Text(" ++ toString s.utf8ByteSize ++ ")"
  | .bytes b => "Bytes(" ++ toString b.length ++ ")"
  | .stream _ => "Reader(..)"

end RawContent

/-- A model that is written as JSON, or that cannot be. -/
inductive Model
  | value (json : Json)
  | failing (reason : String)

def Model.render : Model → Except Error Bytes
  | .value json => .ok (Text.utf8 json.render)
  | .failing reason => .error (.json (.unserializable reason))

structure Sources where
  contentType : Option String
  model : Option Model
  patch : Option Patch
  raw : Option RawContent

namespace Sources

/-- The content of the first source that is there. -/
def content? (s : Sources) : Option (Except Error Bytes) :=
  match s.model, s.patch, s.raw with
  | some model, _, _ => some model.render
  | none, some patch, _ => some (.ok (Text.utf8 patch.render))
  | none, none, some raw => some raw.read
  | none, none, none => none

/-- What is reported before a body is taken. -/
def events (s : Sources) : List Event :=
  match s.contentType, s.model, s.patch, s.raw with
  | none, none, none, none => []
  | none, _, _, _ => [.contentIgnored]
  | some contentType, some _, _, _ => [.modelUsed contentType]
  | some contentType, none, some patch, _ => [.patchUsed contentType patch.length]
  | some contentType, none, none, some raw => [.rawUsed contentType raw.shown]
  | some _, none, none, none => []

end Sources

/-- Takes a body from the first source that is there. -/
def Body.select (s : Sources) : Except Error (Option Body) :=
  match s.contentType, s.content? with
  | some contentType, some content => do return some ⟨some contentType, ← content⟩
  | _, _ => .ok none

def Body.selectTraced (s : Sources) : Traced Error (Option Body) := do
  Traced.emit s.events
  Traced.ofExcept (Body.select s)

end Courier
