import Courier.Json.Parser
import Courier.Text.Ranges
import Courier.Trace

/-!
# Responses

A response with a success status; every other one is an error. A body of blanks is read as the JSON
value null.
-/

namespace Courier

/-- A response with a success status. -/
structure Response where
  status : Status
  headers : Headers
  body : String

namespace Response

/-- Takes a response for a success or a failure, by its status. -/
def accept (status : Status) (headers : Headers) (body : String) : Except Error Response :=
  if status.isSuccess then .ok ⟨status, headers, body⟩
  else .error (.service ⟨status, headers, body⟩)

def acceptTraced (status : Status) (headers : Headers) (body : String) : Traced Error Response := do
  Traced.emit
    [if status.isSuccess then .succeeded status.text body.utf8ByteSize else .failed status.text]
  Traced.ofExcept (accept status headers body)

def json (r : Response) : Except Error Json :=
  if r.body.toList.all isBlank then .ok .null
  else
    match Json.parse r.body.toList with
    | .ok value => .ok value
    | .error fault => .error (.json fault)

end Response

end Courier
