import Courier.Header
import Courier.Json.Parser
import Courier.Status

/-!
# Failure responses

A response with a failure status, kept whole, with the message that the service gives for it. Services
report it under a handful of names; without one, the reason phrase of the status stands in.
-/

namespace Courier

/-- A response that tells a failure. -/
structure Failure where
  status : Status
  headers : Headers
  body : String

namespace Failure

def kind (f : Failure) : FailureKind := FailureKind.ofStatus f.status

/-- The names under which a message stands at the top of an error document. -/
def messageNames : List String := ["error", "message", "errorMessage"]

/-- The message of an error document: the first string under one of the names, else the message of the
first of its errors, or that error itself. -/
def messageIn? (document : Json) : Option String :=
  (messageNames.findSome? fun name => (document.member? name).bind Json.string?).or do
    let first ← (← document.member? "errors").head?
    ((first.member? "message").bind Json.string?).or first.string?

/-- The message that a body gives, if it is an error document. -/
def bodyMessage? (body : String) : Option String :=
  match Json.parse body.toList with
  | .ok document => messageIn? document
  | .error _ => none

def message (f : Failure) : String :=
  (bodyMessage? f.body).getD (f.status.reason?.getD "unknown error")

def text (f : Failure) : String :=
  f.kind.text ++ " (status " ++ f.status.text ++ "): " ++ f.message

def isNotFound (f : Failure) : Bool := f.kind = .notFound

end Failure

end Courier
