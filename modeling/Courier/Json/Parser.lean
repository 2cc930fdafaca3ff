import Courier.Json.Lexeme

/-!
# Reading JSON texts

`Json.parse` reads a whole text; `Json.read limit` reads one value at the start of a text, in which
arrays and objects may nest at most `limit` deep. The steps through the items of an array and the
members of an object (`nextItem`, `endArray`, `nextKey`, `readColon`, `endObject`) are shared with the
readers of values of a fixed kind.
-/

namespace Courier.Json

/-- The depth to which arrays and objects may nest. -/
def depthLimit : Nat := 127

/-! ### Arrays -/

/-- The text of the next item of an array, or `none` before its closing bracket. A comma stands
between items. -/
def nextItem (first : Bool) (t : Text) : Except Fault (Option Text) :=
  match skipBlanks t with
  | [] => .error .endInArray
  | c :: r =>
    if c = ']' then .ok none
    else if first then .ok (some (c :: r))
    else if c ≠ ',' then .error .expectedArrayEnd
    else
      match skipBlanks r with
      | [] => .error .endInValue
      | d :: r' => if d = ']' then .error .trailingComma else .ok (some (d :: r'))

/-- The text after the closing bracket of an array. -/
def endArray (t : Text) : Except Fault Text :=
  match skipBlanks t with
  | [] => .error .endInArray
  | c :: r =>
    if c = ']' then .ok r
    else if c = ',' ∧ (skipBlanks r).head? = some ']' then .error .trailingComma
    else .error .trailingCharacters

/-- Reads the items of an array and its closing bracket; `fuel` bounds the number of items. -/
def readItems {α : Type} (item : Text → Except Fault (α × Text)) :
    Nat → Bool → Text → Except Fault (List α × Text)
  | 0, _, _ => .error .endInArray
  | fuel + 1, first, t => do
    match ← nextItem first t with
    | none => return ([], ← endArray t)
    | some t' =>
      let (x, rest) ← item t'
      let (xs, rest) ← readItems item fuel false rest
      return (x :: xs, rest)

/-! ### Objects -/

/-- The text after the quote that opens the next key of an object, or `none` before its closing
brace. A comma stands between members. -/
def nextKey (first : Bool) (t : Text) : Except Fault (Option Text) :=
  match skipBlanks t with
  | [] => .error .endInObject
  | c :: r =>
    if c = '}' then .ok none
    else if first then
      if c = '"' then .ok (some r) else .error .keyNotString
    else if c ≠ ',' then .error .expectedObjectEnd
    else
      match skipBlanks r with
      | [] => .error .endInValue
      | d :: r' =>
        if d = '"' then .ok (some r')
        else if d = '}' then .error .trailingComma
        else .error .keyNotString

def readColon (t : Text) : Except Fault Text :=
  match skipBlanks t with
  | [] => .error .endInObject
  | c :: r => if c = ':' then .ok r else .error .expectedColon

/-- The text after the closing brace of an object. -/
def endObject (t : Text) : Except Fault Text :=
  match skipBlanks t with
  | [] => .error .endInObject
  | c :: r =>
    if c = '}' then .ok r
    else if c = ',' then .error .trailingComma
    else .error .trailingCharacters

/-- Reads the members of an object and its closing brace; `fuel` bounds the number of members. -/
def readMembers {α : Type} (value : Text → Except Fault (α × Text)) :
    Nat → Bool → Text → Except Fault (List (String × α) × Text)
  | 0, _, _ => .error .endInObject
  | fuel + 1, first, t => do
    match ← nextKey first t with
    | none => return ([], ← endObject t)
    | some t' =>
      let (key, rest) ← readString t'
      let rest ← readColon rest
      let (x, rest) ← value rest
      let (xs, rest) ← readMembers value fuel false rest
      return ((key, x) :: xs, rest)

/-! ### Values -/

/-- Reads a value that is neither array nor object, and gives the text after an opening bracket
or brace to one of two readers. -/
def readNode (array object : Text → Except Fault (Json × Text)) (t : Text) :
    Except Fault (Json × Text) :=
  match skipBlanks t with
  | [] => .error .endInValue
  | c :: r =>
    if c = 'n' then return (.null, ← readWord "ull".toList r)
    else if c = 't' then return (.bool true, ← readWord "rue".toList r)
    else if c = 'f' then return (.bool false, ← readWord "alse".toList r)
    else if c = '-' then do
      let (n, rest) ← readNumber true r
      return (.number n, rest)
    else if c.isDigit then do
      let (n, rest) ← readNumber false (c :: r)
      return (.number n, rest)
    else if c = '"' then do
      let (s, rest) ← readString r
      return (.string s, rest)
    else if c = '[' then array r
    else if c = '{' then object r
    else .error .expectedValue

/-- Reads one value in which arrays and objects nest at most `limit` deep. -/
def read : Nat → Text → Except Fault (Json × Text)
  | 0 => readNode (fun _ => .error .tooDeep) (fun _ => .error .tooDeep)
  | limit + 1 =>
    readNode
      (fun t => do
        let (items, rest) ← readItems (read limit) (t.length + 1) true t
        return (.array items, rest))
      (fun t => do
        let (members, rest) ← readMembers (read limit) (t.length + 1) true t
        return (ofMembers members, rest))

/-- Checks that only blanks are left. -/
def readEnd (t : Text) : Except Fault Unit :=
  if (skipBlanks t).isEmpty then .ok () else .error .trailingCharacters

/-- Reads a text that holds one value. -/
def parse (t : Text) : Except Fault Json := do
  let (value, rest) ← read depthLimit t
  readEnd rest
  return value

/-! ### Values that are not kept -/

/-- The arrays and objects that are open around a place in a text. -/
inductive Bracket
  | array
  | object
  deriving DecidableEq, Repr

/-- Passes over a key and its colon, up to the value. -/
def skipKey (t : Text) : Except Fault Text :=
  match skipBlanks t with
  | [] => .error .endInObject
  | c :: r =>
    if c = '"' then do
      let rest ← skipString r
      readColon rest
    else .error .keyNotString

/-- Passes over the brackets that close after a value, and over the comma before the next one.
Gives the brackets that stay open and the text of the next value, or, when none stays open, the
text that is left. `fresh` tells that the innermost bracket has just been opened. -/
def skipClosing (fresh : Bool) : List Bracket → Text → Except Fault (List Bracket × Text)
  | [], t => .ok ([], t)
  | open_ :: outer, t =>
    match skipBlanks t with
    | [] => .error (if open_ = .array then .endInArray else .endInObject)
    | c :: r =>
      if c = ',' ∧ !fresh then
        if open_ = .object then do
          return (open_ :: outer, ← skipKey r)
        else .ok (open_ :: outer, r)
      else if (c = ']' ∧ open_ = .array) ∨ (c = '}' ∧ open_ = .object) then
        skipClosing false outer r
      else if fresh then
        if open_ = .object then do
          return (open_ :: outer, ← skipKey (c :: r))
        else .ok (open_ :: outer, c :: r)
      else .error (if open_ = .array then .expectedArrayEnd else .expectedObjectEnd)

/-- Passes over the start of a value: a whole one, or an opening bracket. -/
def skipStart (t : Text) : Except Fault (Option Bracket × Text) :=
  match skipBlanks t with
  | [] => .error .endInValue
  | c :: r =>
    if c = 'n' then return (none, ← readWord "ull".toList r)
    else if c = 't' then return (none, ← readWord "rue".toList r)
    else if c = 'f' then return (none, ← readWord "alse".toList r)
    else if c = '-' then return (none, ← skipNumber r)
    else if c.isDigit then return (none, ← skipNumber (c :: r))
    else if c = '"' then return (none, ← skipString r)
    else if c = '[' then .ok (some .array, r)
    else if c = '{' then .ok (some .object, r)
    else .error .expectedValue

/-- Passes over one value of any depth inside the brackets given; `fuel` bounds the number of
values. -/
def skipFrom : Nat → List Bracket → Text → Except Fault Text
  | 0, _, _ => .error .endInValue
  | fuel + 1, open_, t => do
    let (opened, rest) ← skipStart t
    let (open_, rest) ←
      match opened with
      | some b => skipClosing true (b :: open_) rest
      | none => skipClosing false open_ rest
    if open_.isEmpty then return rest else skipFrom fuel open_ rest

def skip (t : Text) : Except Fault Text :=
  skipFrom (t.length + 1) [] t

end Courier.Json
