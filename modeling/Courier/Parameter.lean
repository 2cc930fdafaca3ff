import Courier.Number.Notation

/-!
# Named parameters

Query, form and header parameters are entries of a name and an optional value. A `Value` is what a
caller gives for one name; it stands for one entry, or for one entry per element if it is repeated.
-/

namespace Courier

/-- A name with an optional value. -/
structure Entry where
  name : String
  value : Option String
  deriving DecidableEq, Repr

/-- An entry as it is shown: the name alone, or name and value around an equals sign. -/
def Entry.text (e : Entry) : String :=
  match e.value with
  | some v => e.name ++ "=" ++ v
  | none => e.name

/-- What a caller gives for a name. -/
inductive Value
  /-- The name is there without a value. -/
  | absent
  | scalar (text : String)
  /-- One entry per element. -/
  | repeated (elements : List (Option String))
  deriving DecidableEq, Repr

namespace Value

def ofList (texts : List String) : Value := .repeated (texts.map some)

/-- A scalar, or nothing. -/
def ofOption : Option String → Value
  | some s => .scalar s
  | none => .absent

def entries (name : String) : Value → List Entry
  | .absent => [⟨name, none⟩]
  | .scalar s => [⟨name, some s⟩]
  | .repeated elements => elements.map fun v => ⟨name, v⟩

end Value

def entriesOf (pairs : List (String × Value)) : List Entry :=
  pairs.flatMap fun (name, value) => value.entries name

/-! ### Typed scalars -/

/-- A value of a basic type. -/
inductive Scalar
  | text (s : String)
  | bool (b : Bool)
  | char (c : Char)
  | integer (i : Int)
  | floating (format : Format) (x : Floating)

namespace Scalar

/-- The text of a scalar as a parameter. Numbers have no exponent and no needless digits. -/
def toText : Scalar → String
  | .text s => s
  | .bool b => if b then "true" else "false"
  | .char c => String.singleton c
  | .integer i => String.ofList (intText i)
  | .floating f x => String.ofList (x.text f)

inductive Kind
  | text
  | bool
  | char
  | signed (bits : Nat)
  | unsigned (bits : Nat)
  | floating (format : Format)

/-- Reads an integer in a range: an optional sign and digits. A minus sign needs a range with
negative numbers. -/
def readInteger? (low high : Int) (t : Text) : Option Int :=
  let (negative, digits) :=
    match t with
    | '-' :: r => (true, r)
    | '+' :: r => (false, r)
    | r => (false, r)
  if digits.isEmpty || !digits.all Char.isDigit || (negative && low = 0) then none
  else
    let i : Int := if negative then -(digitsValue digits : Int) else digitsValue digits
    if low ≤ i ∧ i ≤ high then some i else none

def read? : Kind → String → Option Scalar
  | .text, s => some (.text s)
  | .bool, s => if s = "true" then some (.bool true) else if s = "false" then some (.bool false) else none
  | .char, s =>
    match s.toList with
    | [c] => some (.char c)
    | _ => none
  | .signed bits, s =>
    let half : Nat := Nat.pow 2 (bits - 1)
    (readInteger? (-half) (half - 1 : Nat) s.toList).map .integer
  | .unsigned bits, s => (readInteger? 0 (Nat.pow 2 bits - 1 : Nat) s.toList).map .integer
  | .floating f, s => (Floating.read? f s.toList).map (.floating f)

end Scalar

end Courier
