import Courier.Json.Parser
import Courier.Patch.Basic
import Courier.Text.Quoted

/-!
# Reading JSON Patch documents

`Patch.parse` reads the text of a document. An operation is an object, whose unknown fields are passed
over, or an array of its four fields in the order `op`, `path`, `from`, `value`; the kind is a string, or
an object with one member whose value is null. The first fault in the order of the text is reported,
whether it lies in the text or in the kind of a value.
-/

namespace Courier.Patch

open Json

/-- The fault of a value of another kind than the one expected; a fault inside that value comes
first. -/
def mismatch (expected : String) (t : Text) : Fault :=
  let wrong (r : Except Fault String) : Fault :=
    match r with
    | .ok found => .wrongType found expected
    | .error f => f
  let shown : Number → String
    | .integer i => "integer " ++ Fault.quoted (String.ofList (intText i))
    | .float x => "floating point " ++ Fault.quoted (String.ofList (floatText x))
  match skipBlanks t with
  | [] => .expectedValue
  | c :: r =>
    if c = 'n' then wrong do
      let _ ← readWord "ull".toList r
      return "null"
    else if c = 't' then wrong do
      let _ ← readWord "rue".toList r
      return "boolean " ++ Fault.quoted "true"
    else if c = 'f' then wrong do
      let _ ← readWord "alse".toList r
      return "boolean " ++ Fault.quoted "false"
    else if c = '-' then wrong do
      return shown (← readNumber true r).1
    else if c.isDigit then wrong do
      return shown (← readNumber false (c :: r)).1
    else if c = '"' then wrong do
      return "string " ++ Quoted.encode (← readString r).1
    else if c = '[' then .wrongType "sequence" expected
    else if c = '{' then .wrongType "map" expected
    else .expectedValue

def expectString (expected : String) (t : Text) : Except Fault (String × Text) :=
  match skipBlanks t with
  | [] => .error .endInValue
  | c :: r => if c = '"' then readString r else .error (mismatch expected (c :: r))

/-- Reads null, or a value by the reader given. -/
def orNull {α : Type} (reader : Text → Except Fault (α × Text)) (t : Text) :
    Except Fault (Option α × Text) :=
  match skipBlanks t with
  | c :: r =>
    if c = 'n' then return (none, ← readWord "ull".toList r)
    else do
      let (x, rest) ← reader (c :: r)
      return (some x, rest)
  | [] => do
    let (x, rest) ← reader []
    return (some x, rest)

def kindOf (name : String) : Except Fault PatchKind :=
  match PatchKind.ofName? name with
  | some k => .ok k
  | none => .error (.unknownVariant name (PatchKind.all.map PatchKind.name))

/-- Reads a kind; an object around it counts as one level of `limit`. -/
def readKind (limit : Nat) (t : Text) : Except Fault (PatchKind × Text) :=
  match skipBlanks t with
  | [] => .error .endInValue
  | c :: r =>
    if c = '"' then do
      let (name, rest) ← readString r
      return (← kindOf name, rest)
    else if c ≠ '{' then .error .expectedValue
    else if limit = 0 then .error .tooDeep
    else do
      let (name, rest) ← expectString "variant identifier" r
      let kind ← kindOf name
      let rest ← readColon rest
      let rest ←
        match skipBlanks rest with
        | [] => .error .endInValue
        | d :: r' =>
          if d = 'n' then readWord "ull".toList r' else .error (mismatch "unit" (d :: r'))
      match skipBlanks rest with
      | [] => .error .endInObject
      | d :: r' => if d = '}' then return (kind, r') else .error .expectedValue

/-- The fields of an operation that are read so far. -/
structure Fields where
  kind : Option PatchKind
  path : Option String
  source : Option (Option String)
  value : Option (Option Json)

/-- The operation of these fields, if the two that it needs are there. -/
def Fields.finish (p : Fields) : Except Fault PatchOperation :=
  match p.kind, p.path with
  | none, _ => .error (.missingField "op")
  | some _, none => .error (.missingField "path")
  | some kind, some path => .ok ⟨kind, path, p.source.join, p.value.join⟩

/-- Reads the value of the field of a name, unless that field has been read already. -/
def readField (limit : Nat) (p : Fields) (name : String) (t : Text) :
    Except Fault (Fields × Text) :=
  let fresh {α : Type} (field : Option α) (next : Except Fault (Fields × Text)) :=
    if field.isSome then .error (.duplicateField name) else next
  if name = "op" then fresh p.kind do
    let (k, rest) ← readKind limit (← readColon t)
    return ({ p with kind := some k }, rest)
  else if name = "path" then fresh p.path do
    let (s, rest) ← expectString "a string" (← readColon t)
    return ({ p with path := some s }, rest)
  else if name = "from" then fresh p.source do
    let (s, rest) ← orNull (expectString "a string") (← readColon t)
    return ({ p with source := some s }, rest)
  else if name = "value" then fresh p.value do
    let (v, rest) ← orNull (read limit) (← readColon t)
    return ({ p with value := some v }, rest)
  else do
    return (p, ← skip (← readColon t))

/-- Reads the fields of an object and its closing brace; `fuel` bounds their number. -/
def readFields (limit : Nat) : Nat → Bool → Fields → Text → Except Fault (PatchOperation × Text)
  | 0, _, _, _ => .error .endInObject
  | fuel + 1, first, p, t => do
    match ← nextKey first t with
    | none =>
      let operation ← p.finish
      return (operation, ← endObject t)
    | some t' =>
      let (name, rest) ← readString t'
      let (p, rest) ← readField limit p name rest
      readFields limit fuel false p rest

/-- What an operation is called where another value stands in its place. -/
def operationName : String := "struct JsonPatchOperation"

/-- Reads the next of the four fields in an array, or `none` before its closing bracket. -/
def readPart {α : Type} (first : Bool) (reader : Text → Except Fault (α × Text)) (t : Text) :
    Except Fault (Option α × Text) := do
  match ← nextItem first t with
  | none => return (none, t)
  | some t' =>
    let (x, rest) ← reader t'
    return (some x, rest)

/-- Reads the fields of an operation that is an array, up to the closing bracket. -/
def readParts (limit : Nat) (t : Text) : Except Fault (PatchOperation × Text) := do
  let short (n : Nat) : Fault := .wrongLength n (operationName ++ " with 4 elements")
  match ← readPart true (readKind limit) t with
  | (none, _) => .error (short 0)
  | (some kind, t) =>
    match ← readPart false (expectString "a string") t with
    | (none, _) => .error (short 1)
    | (some path, t) =>
      let (source, t) ← readPart false (orNull (expectString "a string")) t
      let (value, t) ← readPart false (orNull (read limit)) t
      return (⟨kind, path, source.join, value.join⟩, ← endArray t)

/-- Reads one operation inside `limit` further levels. -/
def readOperation (limit : Nat) (t : Text) : Except Fault (PatchOperation × Text) :=
  match skipBlanks t with
  | [] => .error .endInValue
  | c :: r =>
    if c = '{' then
      if limit = 0 then .error .tooDeep
      else readFields (limit - 1) (r.length + 1) true ⟨none, none, none, none⟩ r
    else if c = '[' then
      if limit = 0 then .error .tooDeep else readParts (limit - 1) r
    else .error (mismatch operationName (c :: r))

/-- Reads the text of a patch document. -/
def parse (t : Text) : Except Fault Patch :=
  match skipBlanks t with
  | [] => .error .endInValue
  | c :: r =>
    if c = '[' then do
      let (operations, rest) ← readItems (readOperation (depthLimit - 1)) (r.length + 1) true r
      readEnd rest
      return operations
    else .error (mismatch "a sequence" (c :: r))

end Courier.Patch
