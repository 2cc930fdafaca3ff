import Courier.Template
import Courier.Trace
import Courier.Url.Parser

/-!
# Request URLs

The URL of a request extends the path of a service URL: `resolve` by a template whose placeholders are
replaced, `construct` by segments and values in turn. The other components are those of the service URL.
-/

namespace Courier.Endpoint

/-- Reads a service URL: an absolute URL whose path has segments. -/
def readService (service : String) : Except Error Url :=
  if service.isEmpty then .error .emptyServiceUrl
  else
    match Url.parse? service with
    | some u => if u.segments?.isSome then .ok u else .error (.invalidServiceUrl service)
    | none => .error (.invalidServiceUrl service)

/-! ### Templates -/

/-- Replaces the placeholders of each parameter in turn. No value is empty. -/
def fill (template : Text) : List (String × String) → Except Error Text
  | [] => .ok template
  | (name, value) :: rest =>
    if value.isEmpty then .error (.emptyParameter name)
    else fill (Template.substitute template name.toList value.toList) rest

def withSlash (t : Text) : Text :=
  if t.getLast? = some '/' then t else t ++ ['/']

/-- Appends a path that is already encoded. Repeated separators count as one. -/
def extend (u : Url) (t : Text) : Url :=
  let path := withSlash u.pathText ++ ['/'].intercalate (Template.pieces t)
  u.withSegments (Url.parsePath u.kind path)

/-- The path without one slash at its start. -/
def relative : Text → Text
  | '/' :: t => t
  | t => t

/-- The URL of a template under a service URL. -/
def resolve (service template : String) (parameters : List (String × String)) :
    Except Error Url := do
  let u ← readService service
  let path := relative (← fill template.toList parameters)
  return if path.isEmpty then u else extend u path

/-- The URL of a template under a service URL, with the event that reports it. -/
def resolveTraced (service template : String) (parameters : List (String × String)) :
    Traced Error Url := do
  let u ← Traced.ofExcept (resolve service template parameters)
  Traced.emit [.resolved template u.toText]
  return u

/-! ### Segments and values -/

/-- Adds one segment in the place of an empty one at the end. -/
def addPiece (k : Url.Kind) (segments : List Text) (piece : Text) : List Text :=
  Url.push k (Url.popIfEmpty segments) piece

/-- The texts that are added in turn: the pieces of each segment, and behind them the value at its
place, if there is one and it is not empty. -/
def additions : List String → List String → List Text
  | [], _ => []
  | s :: segments, values =>
    (if s.isEmpty then [] else Template.pieces s.toList)
      ++ ((values.head?.filter (!·.isEmpty)).map String.toList).toList
      ++ additions segments values.tail

/-- The URL of segments and values under a service URL. -/
def construct (service : String) (segments values : List String) : Except Error Url := do
  let u ← readService service
  let list := (additions segments values).foldl (addPiece u.kind) (u.segments?.getD [])
  return u.withSegments list

end Courier.Endpoint
