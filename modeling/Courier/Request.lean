import Courier.Body
import Courier.Endpoint

/-!
# Requests

A `Draft` collects what a request consists of: headers, query and form entries, and a body. Its steps
are the ways to add to it. `Draft.build` puts the parts together into a `Request`, or refuses.
-/

namespace Courier

/-! ### Methods -/

structure Method where
  name : String
  deriving DecidableEq, Repr

namespace Method

def delete : Method := ⟨"DELETE"⟩
def get : Method := ⟨"GET"⟩
def post : Method := ⟨"POST"⟩
def put : Method := ⟨"PUT"⟩
def patch : Method := ⟨"PATCH"⟩
def head : Method := ⟨"HEAD"⟩

def supported : List Method := [delete, get, post, put, patch, head]

/-- The method of a name, which is any token. -/
def ofString? (s : String) : Option Method := if isToken s then some ⟨s⟩ else none

/-- Whether a request of the method never has a body. -/
def isBodiless (m : Method) : Bool := m = get || m = head

end Method

/-- A request that is ready to be sent. -/
structure Request where
  method : Method
  url : Url
  headers : Headers
  body : Option Body
  deriving DecidableEq, Repr

/-! ### Drafts -/

/-- A request that is being put together. -/
structure Draft where
  method : Method
  url : Url
  body : Option Body
  forms : List Entry
  headers : List Entry
  queries : List Entry
  deriving DecidableEq, Repr

/-- One step of putting a request together. -/
inductive Step
  | header (name : String) (value : Value)
  | query (name : String) (value : Value)
  | form (name : String) (value : Value)
  | headers (pairs : List (String × Value))
  | queries (pairs : List (String × Value))
  | forms (pairs : List (String × Value))
  | body (body : Body)
  /-- The body of the first source that is there; without one the body stays as it is. -/
  | content (sources : Sources)

namespace Draft

def start (method : Method) (url : Url) : Draft := ⟨method, url, none, [], [], []⟩

/-- A request with nothing added yet, if the method is supported. -/
def ofMethod (method : Method) (url : Url) : Except Error Draft :=
  if method ∈ Method.supported then .ok (start method url)
  else .error (.unsupportedMethod method.name)

def addHeaders (d : Draft) (entries : List Entry) : Draft :=
  { d with headers := d.headers ++ entries }

def addQueries (d : Draft) (entries : List Entry) : Draft :=
  { d with queries := d.queries ++ entries }

def addForms (d : Draft) (entries : List Entry) : Draft :=
  { d with forms := d.forms ++ entries }

def setBody (d : Draft) (body : Body) : Draft := { d with body := some body }

def apply (d : Draft) : Step → Except Error Draft
  | .header name value => .ok (d.addHeaders (value.entries name))
  | .query name value => .ok (d.addQueries (value.entries name))
  | .form name value => .ok (d.addForms (value.entries name))
  | .headers pairs => .ok (d.addHeaders (entriesOf pairs))
  | .queries pairs => .ok (d.addQueries (entriesOf pairs))
  | .forms pairs => .ok (d.addForms (entriesOf pairs))
  | .body body => .ok (d.setBody body)
  | .content sources => do
    match ← Body.select sources with
    | some body => return d.setBody body
    | none => return d

def applyAll (d : Draft) (steps : List Step) : Except Error Draft :=
  steps.foldlM apply d

/-- The URL with the query entries; an entry without a value is a bare name. -/
def fullUrl (d : Draft) : Url :=
  d.url.appendQuery (d.queries.map fun e => (e.name.toList, e.value.map String.toList))

/-- The body that is sent: none for a bodiless method, else the form if there is one, else the one that
was set, else an empty one. -/
def effectiveBody (d : Draft) : Except Error (Option Body) :=
  if d.method.isBodiless then
    if d.body.isSome then .error (.bodyNotAllowed d.method.name) else .ok none
  else if !d.forms.isEmpty then .ok (some (Body.ofForm d.forms))
  else .ok (some (d.body.getD Body.empty))

def headerField (e : Entry) : Except Error (String × String) :=
  match headerName? e.name, e.value with
  | none, _ => .error (.invalidHeaderName e.name)
  | some _, none => .error (.missingHeaderValue e.name)
  | some name, some value =>
    if isHeaderValue value then .ok (name, value) else .error (.invalidHeaderValue e.name)

/-- The header fields: the default ones, then the entries, each in the place of an earlier one of its
name, then the media type of the body. -/
def effectiveHeaders (entries : List Entry) (contentType : Option String) :
    Except Error Headers := do
  let fields ← entries.mapM headerField
  let headers := fields.foldl (fun hs f => Headers.insert f.1 f.2 hs) [("accept", jsonType)]
  match contentType with
  | none => return headers
  | some t =>
    if isHeaderValue t then return Headers.insert "content-type" t headers
    else .error (.invalidHeaderValue "content-type")

def build (d : Draft) : Except Error Request := do
  let body ← d.effectiveBody
  let headers ← effectiveHeaders d.headers (body.bind Body.contentType)
  return ⟨d.method, d.fullUrl, headers, body⟩

/-! ### With events -/

def stepEvents : Step → List Event
  | .content sources => sources.events
  | _ => []

def applyTraced (d : Draft) (s : Step) : Traced Error Draft := do
  Traced.emit (stepEvents s)
  Traced.ofExcept (d.apply s)

def applyAllTraced (d : Draft) (steps : List Step) : Traced Error Draft :=
  steps.foldlM applyTraced d

def buildTraced (d : Draft) : Traced Error Request := do
  let r ← Traced.ofExcept d.build
  Traced.emit
    [.built r.method.name r.url.toText r.headers.length (r.body.map (·.content.length))]
  return r

end Draft

end Courier
