import Courier.Client
import Courier.Command.Arguments
import Courier.Command.Report

/-!
# Carrying out a command line

`plan` puts together what a command line asks for: a text to print, or a request to send.
`run` carries it out and gives what is written, and the exit code.
-/

namespace Courier.Command

/-- Work that ends in a report if it fails. -/
abbrev Reported := Traced Report

/-- Work of the library, reported as it is. -/
def lift {α : Type} (x : Traced Error α) : Reported α := x.mapError Report.ofError

/-- Work whose failure is told within a context. -/
def inContext {α : Type} (context : String) (x : Reported α) : Reported α :=
  x.mapError (Report.within context)

/-- A failure without causes. -/
def fail {α : Type} (summary : String) : Reported α := Traced.ofExcept (.error ⟨summary, []⟩)

/-- Splits one text at its first equals sign; a key stands before it. -/
def parsePair (flag item : String) : Except Report (String × String) :=
  let refused (reason : String) : Except Report (String × String) :=
    .error ⟨"invalid " ++ flag ++ " value '" ++ item ++ "': " ++ reason, []⟩
  match Pairs.split? item with
  | none => refused "expected key=value"
  | some (key, value) => if key.isEmpty then refused "empty key" else .ok (key, value)

def parsePairs (flag : String) (items : List String) : Reported (List (String × String)) :=
  Traced.ofExcept (items.mapM (parsePair flag))

def asValues (pairs : List (String × String)) : List (String × Value) :=
  pairs.map fun (name, value) => (name, .scalar value)

def startRequest (c : Client) (method : Method) (t : Target) : Reported Draft := do
  let pathParams ← parsePairs "--path-param" t.pathParams
  let queries ← parsePairs "--query" t.queries
  let d ← inContext ("failed to resolve path '" ++ t.path ++ "'")
    (lift (c.request method t.path pathParams))
  lift (d.applyTraced (.queries (asValues queries)))

/-- What comes of opening a file: the steps in which it is read, or the reason why it cannot be
opened. -/
inductive Opened
  | stream (steps : List StreamStep)
  | refused (reason : String)

/-- A file of known bytes is read in one step, and one without any is missing. -/
instance : Coe (Option Bytes) Opened where
  coe
    | some bytes => .stream [.chunk bytes]
    | none => .refused "No such file or directory (os error 2)"

/-- The sources of the body that a command line names. -/
def bodySources (file : String → Opened) (contentType : Option String) :
    BodySource → Except Report Sources
  | .json text =>
    match Json.parse text.toList with
    | .ok value => .ok ⟨some (contentType.getD jsonType), some (.value value), none, none⟩
    | .error fault => .error ⟨"failed to parse JSON from --body-json", [fault.message]⟩
  | .patch text =>
    match Patch.parse text.toList with
    | .ok patch => .ok ⟨some (contentType.getD patchType), none, some patch, none⟩
    | .error fault => .error ⟨"failed to parse JSON Patch from --json-patch", [fault.message]⟩
  | .file name =>
    match file name with
    | .stream steps => .ok ⟨some (contentType.getD bytesType), none, none, some (.stream steps)⟩
    | .refused reason => .error ⟨"failed to open --body-file '" ++ name ++ "'", [reason]⟩

/-- Puts together the request that a command line describes. -/
def assemble (file : String → Opened) (c : Client) (r : RequestArguments) :
    Reported Request := do
  let method ←
    match Method.ofString? (String.ofList (r.method.toList.map Char.toUpper)) with
    | some method => pure method
    | none =>
      Traced.ofExcept
        (.error ⟨"invalid HTTP method '" ++ r.method ++ "'", ["invalid HTTP method"]⟩)
  let headers ← inContext "failed to parse --header arguments"
    (lift (Traced.ofExcept (Pairs.ofFlat r.headers)))
  let forms ← parsePairs "--form" r.forms
  let d ← startRequest c method r.target
  let d ← lift (d.applyAllTraced [.headers (asValues headers), .forms (asValues forms)])
  let d ←
    match r.body with
    | none => pure d
    | some source => do
      let sources ← Traced.ofExcept (bodySources file r.contentType source)
      lift (d.applyTraced (.content sources))
  lift d.buildTraced

def describe (r : Request) : Json :=
  Json.ofMembers
    [("method", .string r.method.name),
      ("url", .string r.url.toText),
      ("headers", Json.ofMembers (r.headers.map fun (name, value) => (name, .string value))),
      ("body",
        match r.body with
        | some b => .string (String.ofList (Utf8.decode b.content))
        | none => .null)]

/-- What is left to do once a command line is understood and its request is put together. -/
inductive Plan
  | print (value : Json)
  | send (request : Request) (context : String)

/-- Puts together what a command line asks for. -/
def plan (file : String → Opened) (i : Invocation) : Reported Plan := do
  let c ← inContext
    ("failed to create client with service URL '" ++ i.serviceUrl ++ "'")
    (lift (Client.connect i.serviceUrl i.token))
  match i.action with
  | .resolve target =>
    let d ← startRequest c .get target
    return .print (.string d.fullUrl.toText)
  | .request r =>
    let request ← inContext ("failed to assemble " ++ r.method ++ " request") (assemble file c r)
    if r.dryRun then return .print (describe request)
    else return .send request ("request failed: " ++ r.method ++ " " ++ r.target.path)

/-- What a command leaves behind: the exit code, what is written, and what is reported and sent. -/
structure Outcome where
  exit : Nat
  output : String
  errors : String
  events : List Event
  sent : Option Request

def versionText : String := "cloud-sdk-cli 0.1.0\n"

def usageText : String :=
  "Usage: cloud-sdk-cli [OPTIONS] --service-url <SERVICE_URL> <COMMAND>\n"

def printed (compact : Bool) (value : Json) : String :=
  String.ofList ((if compact then value.render else value.pretty) ++ ['\n'])

def perform (send : Transport) : Plan → Reported Json
  | .print value => pure value
  | .send request context => inContext context (lift (Client.executeJson send request))

def Plan.sent? : Plan → Option Request
  | .send request _ => if Client.isSendable request.url then some request else none
  | .print _ => none

def Invocation.run (file : String → Opened) (send : Transport) (i : Invocation) : Outcome :=
  let planned := plan file i
  let done := planned.bind (perform send)
  let sent :=
    match planned.result with
    | .ok p => p.sent?
    | .error _ => none
  match done.result with
  | .ok value => ⟨0, printed i.compact value, "", done.events, sent⟩
  | .error report => ⟨1, "", report.text, done.events, sent⟩

def run (env : String → Option String) (file : String → Opened) (send : Transport)
    (args : List String) : Outcome :=
  match Invocation.parse env args with
  | .ok i => i.run file send
  | .error .version => ⟨0, versionText, "", [], none⟩
  | .error .help => ⟨0, usageText, "", [], none⟩
  | .error .usage => ⟨2, "", usageText, [], none⟩

end Courier.Command
