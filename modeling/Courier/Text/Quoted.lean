import Courier.Text.Hidden
import Courier.Number.Notation

/-!
# Quoted text

The form in which a text is shown between double quotes: quotes, backslashes and characters
without a visible form are escaped.
-/

namespace Courier.Quoted

def hexText (n : Nat) : Text := Nat.toDigits 16 n

/-- One character between quotes. -/
def escape (c : Char) : Text :=
  if c = '\x00' then ['\\', '0']
  else if c = '\t' then ['\\', 't']
  else if c = '\r' then ['\\', 'r']
  else if c = '\n' then ['\\', 'n']
  else if c = '\\' ∨ c = '"' then ['\\', c]
  else if isHidden c then '\\' :: 'u' :: '{' :: (hexText c.toNat ++ ['}'])
  else [c]

/-- A text between double quotes. -/
def encode (s : String) : String :=
  String.ofList ('"' :: (s.toList.flatMap escape ++ ['"']))

/-- An optional text: its quoted form in a wrapper, or a word. -/
def encodeOption : Option String → String
  | some s => "Some(" ++ encode s ++ ")"
  | none => "None"

end Courier.Quoted
