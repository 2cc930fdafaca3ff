import Courier.Failure

/-!
# Errors

The causes for which a request is refused before it is sent, or fails afterwards, and their wording.
-/

namespace Courier

/-- Why a request is refused or fails. -/
inductive Error
  | emptyServiceUrl
  | emptyParameter (name : String)
  | oddArguments
  | unsupportedMethod (method : String)
  | invalidHeaderName (name : String)
  | missingHeaderValue (name : String)
  | invalidHeaderValue (name : String)
  | invalidServiceUrl (text : String)
  | bodyNotAllowed (method : String)
  | unreadableBody (reason : String)
  | json (fault : Fault)
  | transport
  | service (failure : Failure)

namespace Error

inductive Kind
  | argument
  | serviceUrl
  | state
  | io
  | json
  | transport
  | service
  deriving DecidableEq, Repr

def kind : Error → Kind
  | .emptyServiceUrl | .emptyParameter _ | .oddArguments | .unsupportedMethod _
  | .invalidHeaderName _ | .missingHeaderValue _ | .invalidHeaderValue _ => .argument
  | .invalidServiceUrl _ => .serviceUrl
  | .bodyNotAllowed _ => .state
  | .unreadableBody _ => .io
  | .json _ => .json
  | .transport => .transport
  | .service _ => .service

def detail : Error → String
  | .emptyServiceUrl => "The serviceUrl cannot be null"
  | .emptyParameter name => "Path parameter '" ++ name ++ "' is empty"
  | .oddArguments => "need even number of arguments"
  | .unsupportedMethod method => "unsupported HTTP method '" ++ method ++ "'"
  | .invalidHeaderName name => "invalid header name '" ++ name ++ "'"
  | .missingHeaderValue name => "header '" ++ name ++ "' has no value"
  | .invalidHeaderValue name => "invalid value for header '" ++ name ++ "'"
  | .invalidServiceUrl text => "'" ++ text ++ "'"
  | .bodyNotAllowed method => "cannot send a body with a " ++ method ++ " request"
  | .unreadableBody reason => reason
  | .json fault => fault.message
  | .transport => "no response"
  | .service failure => failure.text

/-- The wording of an error: its kind and its detail. -/
def message (e : Error) : String :=
  match e.kind with
  | .argument => "invalid argument: " ++ e.detail
  | .serviceUrl => "invalid service URL " ++ e.detail
  | .state => "invalid state: " ++ e.detail
  | .io => "failed to read request body: " ++ e.detail
  | .json => "failed to process JSON: " ++ e.detail
  | .transport => "request failed: " ++ e.detail
  | .service => e.detail

/-- Whether the caller's input is at fault, the service URL included. -/
def isInvalidArgument (e : Error) : Bool := e.kind = .argument || e.kind = .serviceUrl

def isInvalidState (e : Error) : Bool := e.kind = .state

/-- The error that this one wraps, in words. -/
def cause? : Error → Option String
  | .unreadableBody reason => some reason
  | .json fault => some fault.message
  | _ => none

end Error

end Courier
