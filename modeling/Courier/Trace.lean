import Courier.Error

/-!
# Events

What the library reports while it works. A `Traced` result carries the events in their order, also those
before an error.
-/

namespace Courier

/-- How much an event matters. -/
inductive Level
  | trace
  | debug
  | warn
  deriving DecidableEq, Repr

/-- Something worth reporting. -/
inductive Event
  | resolved (template url : String)
  | contentIgnored
  | modelUsed (contentType : String)
  | patchUsed (contentType : String) (operations : Nat)
  | rawUsed (contentType raw : String)
  | built (method url : String) (headers : Nat) (bodyLength : Option Nat)
  | failed (status : String)
  | succeeded (status : String) (bodyLength : Nat)
  deriving DecidableEq, Repr

namespace Event

def level : Event → Level
  | .resolved .. | .built .. | .succeeded .. => .debug
  | .contentIgnored | .failed _ => .warn
  | .modelUsed _ | .patchUsed .. | .rawUsed .. => .trace

/-- An event in words. -/
def message : Event → String
  | .resolved .. => "resolved request URL"
  | .contentIgnored => "body content ignored because no content type was given"
  | .modelUsed _ => "serializing JSON model body"
  | .patchUsed .. => "serializing JSON patch body"
  | .rawUsed .. => "using raw body content"
  | .built .. => "built request"
  | .failed _ => "service returned an error status"
  | .succeeded .. => "service returned a success status"

/-- The data of an event by name. -/
def fields : Event → List (String × String)
  | .resolved template url => [("template", template), ("url", url)]
  | .contentIgnored => []
  | .modelUsed contentType => [("content_type", contentType)]
  | .patchUsed contentType operations =>
    [("content_type", contentType), ("operations", toString operations)]
  | .rawUsed contentType raw => [("content_type", contentType), ("raw", raw)]
  | .built method url headers bodyLength =>
    [("method", method), ("url", url), ("headers", toString headers)]
      ++ (bodyLength.map fun n => ("body_len", toString n)).toList
  | .failed status => [("status", status)]
  | .succeeded status bodyLength => [("status", status), ("body_len", toString bodyLength)]

end Event

/-- A result or an error, with the events on the way to it. -/
structure Traced (ε α : Type) where
  events : List Event
  result : Except ε α

namespace Traced

variable {ε ε' α β : Type}

def ofExcept (r : Except ε α) : Traced ε α := ⟨[], r⟩

def emit (events : List Event) : Traced ε Unit := ⟨events, .ok ()⟩

/-- Goes on with a result; an error ends the work. -/
def bind (x : Traced ε α) (f : α → Traced ε β) : Traced ε β :=
  match x.result with
  | .ok a => ⟨x.events ++ (f a).events, (f a).result⟩
  | .error e => ⟨x.events, .error e⟩

instance : Monad (Traced ε) where
  pure a := ⟨[], .ok a⟩
  bind := bind

/-- The same work with its error seen in another way. -/
def mapError (f : ε → ε') (x : Traced ε α) : Traced ε' α := ⟨x.events, x.result.mapError f⟩

end Traced

end Courier
