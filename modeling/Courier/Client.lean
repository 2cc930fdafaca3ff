import Courier.Request
import Courier.Response

/-!
# Clients

A client prepares requests under one service URL, with its token if it has one, and sends them by a
transport. A `Transport` is a function of the request: it decides nothing but what comes back.
-/

namespace Courier

/-- What a transport brings back for a request. -/
structure Reply where
  status : Status
  headers : Headers
  body : Bytes

/-- Sends a request; `none` if no response comes back. -/
abbrev Transport := Request → Option Reply

structure Client where
  serviceUrl : Url
  token : Option String

namespace Client

def connect (service : String) (token : Option String) : Traced Error Client := do
  let u ← Endpoint.resolveTraced service "" []
  return ⟨u, token⟩

def authorization (token : String) : Step := .header "Authorization" (.scalar ("Bearer " ++ token))

def request (c : Client) (method : Method) (template : String)
    (parameters : List (String × String)) : Traced Error Draft := do
  let u ← Endpoint.resolveTraced c.serviceUrl.toText template parameters
  let d ← Traced.ofExcept (Draft.ofMethod method u)
  match c.token with
  | some token => d.applyTraced (authorization token)
  | none => return d

def isSendable (u : Url) : Bool := u.scheme = "http" || u.scheme = "https"

/-- Whether the response to a request has no body: one to `HEAD`, and one without content. -/
def isBodiless (method : Method) (status : Status) : Bool :=
  method = .head || status.code = 204 || status.code = 304

/-- Sends a request and takes the response for a success or a failure. -/
def execute (send : Transport) (r : Request) : Traced Error Response :=
  match if isSendable r.url then send r else none with
  | none => Traced.ofExcept (.error .transport)
  | some reply =>
    let body := if isBodiless r.method reply.status then [] else reply.body
    Response.acceptTraced reply.status reply.headers (String.ofList (Utf8.decode body))

def executeJson (send : Transport) (r : Request) : Traced Error Json := do
  let response ← execute send r
  Traced.ofExcept response.json

def getRequest (c : Client) (template : String) (parameters : List (String × String)) :
    Traced Error Request := do
  (← c.request .get template parameters).buildTraced

/-- The steps of a request with query entries and a JSON body. -/
def jsonSteps (query : List (String × String)) (body : Option Json) : List Step :=
  .queries (query.map fun (name, value) => (name, .scalar value))
    :: (body.map fun json => Step.body (Body.ofJson json jsonType)).toList

/-- Prepares a request with query entries and a JSON body. -/
def jsonRequest (c : Client) (method : Method) (template : String)
    (parameters query : List (String × String)) (body : Option Json) : Traced Error Request := do
  let d ← c.request method template parameters
  (← d.applyAllTraced (jsonSteps query body)).buildTraced

end Client

end Courier
