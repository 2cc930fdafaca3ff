import Courier.Json.Basic
import Courier.Number.Notation

/-!
# Writing JSON texts

`Json.render` writes a value on one line without blanks; `Json.pretty` writes every item and member on
a line of its own, indented by two spaces per level.
-/

namespace Courier.Json

/-- The lower-case hexadecimal digit of a number below 16. -/
def hexDigit (n : Nat) : Char :=
  Char.ofNat (if n < 10 then 0x30 + n else 0x57 + n)

/-- A character inside a string: quotes, backslashes and controls are escaped. -/
def escape (c : Char) : Text :=
  if c = '"' then ['\\', '"']
  else if c = '\\' then ['\\', '\\']
  else if c = '\n' then ['\\', 'n']
  else if c = '\r' then ['\\', 'r']
  else if c = '\t' then ['\\', 't']
  else if c = '\x08' then ['\\', 'b']
  else if c = '\x0c' then ['\\', 'f']
  else if c < ' ' then
    ['\\', 'u', '0', '0', hexDigit (c.toNat / 16), hexDigit (c.toNat % 16)]
  else [c]

def quote (s : String) : Text :=
  '"' :: (s.toList.flatMap escape ++ ['"'])

/-- A double: at least one decimal, and an exponent below 10⁻⁵ and from 10¹⁶ on. -/
def floatText (x : Finite) : Text :=
  let body :=
    if x.isZero then "0.0".toList
    else
      let d := x.shortest .double .even
      let top := d.exponent + (Decimal.length d.digits : Int) - 1
      if -5 ≤ top ∧ top < 16 then
        if 0 ≤ d.exponent then d.positional ++ ".0".toList else d.positional
      else d.scientific
  if x.negative then '-' :: body else body

def numberText : Number → Text
  | .integer i => intText i
  | .float x => floatText x

mutual

/-- A value on one line. -/
def render : Json → Text
  | .null => "null".toList
  | .bool true => "true".toList
  | .bool false => "false".toList
  | .number n => numberText n
  | .string s => quote s
  | .array items => '[' :: (renderItems items ++ [']'])
  | .object members => '{' :: (renderMembers members ++ ['}'])

def renderItems : List Json → Text
  | [] => []
  | [x] => render x
  | x :: y :: rest => render x ++ ',' :: renderItems (y :: rest)

def renderMembers : List (String × Json) → Text
  | [] => []
  | [(k, x)] => quote k ++ ':' :: render x
  | (k, x) :: m :: rest => quote k ++ ':' :: (render x ++ ',' :: renderMembers (m :: rest))

end

def lineBreak (level : Nat) : Text :=
  '\n' :: List.replicate (2 * level) ' '

mutual

/-- A value over several lines, itself at the level given. -/
def prettyAt (level : Nat) : Json → Text
  | .array (x :: rest) =>
    '[' :: (prettyItems (level + 1) (x :: rest) ++ lineBreak level ++ [']'])
  | .object (m :: rest) =>
    '{' :: (prettyMembers (level + 1) (m :: rest) ++ lineBreak level ++ ['}'])
  | .array [] => "[]".toList
  | .object [] => "\x7b\x7d".toList
  | .null => "null".toList
  | .bool b => if b then "true".toList else "false".toList
  | .number n => numberText n
  | .string s => quote s

def prettyItems (level : Nat) : List Json → Text
  | [] => []
  | [x] => lineBreak level ++ prettyAt level x
  | x :: y :: rest => lineBreak level ++ prettyAt level x ++ ',' :: prettyItems level (y :: rest)

def prettyMembers (level : Nat) : List (String × Json) → Text
  | [] => []
  | [(k, x)] => lineBreak level ++ quote k ++ ':' :: ' ' :: prettyAt level x
  | (k, x) :: m :: rest =>
    lineBreak level ++ quote k ++ ':' :: ' ' :: (prettyAt level x ++ ',' :: prettyMembers level (m :: rest))

end

def pretty (value : Json) : Text := prettyAt 0 value

def toText (value : Json) : String := String.ofList (render value)

end Courier.Json
