import Courier.Text.Utf8

/-!
# Tables of characters

Long sets of characters are written as a string of hexadecimal ranges such as `0-1f 7f a0-ad`, in
increasing order. A table that gives code points for its ranges writes them behind a sign of equality,
as in `1d15e=1d157.1d165`.
-/

namespace Courier

/-- A set of code points as ranges with both ends. -/
abbrev Ranges := List (Nat × Nat)

namespace Ranges

/-- The number that lower-case hexadecimal digits stand for. -/
def hex (digits : Text) : Nat :=
  digits.foldl (fun n c => n * 16 + (if c.isDigit then c.toNat - 0x30 else c.toNat - 0x57)) 0

/-- Reads one range, or one code point. -/
def readOne (t : Text) : Nat × Nat :=
  match t.splitOn '-' with
  | [low, high] => (hex low, hex high)
  | _ => (hex t, hex t)

def read (s : String) : Ranges :=
  ((s.toList.splitOn ' ').filter (!·.isEmpty)).map readOne

def contains (ranges : Ranges) (c : Char) : Bool :=
  ranges.any fun r => r.1 ≤ c.toNat && c.toNat ≤ r.2

end Ranges

/-- A range with the code points that a table gives for it. -/
structure Assigned where
  low : Nat
  high : Nat
  points : List Nat

namespace Assigned

/-- Reads one range and its code points. -/
def readOne (t : Text) : Assigned :=
  let range := Ranges.readOne (t.takeWhile (· ≠ '='))
  ⟨range.1, range.2, (((t.dropWhile (· ≠ '=')).drop 1).splitOn '.').map Ranges.hex⟩

def read (s : String) : List Assigned :=
  ((s.toList.splitOn ' ').filter (!·.isEmpty)).map readOne

def covers (a : Assigned) (c : Char) : Bool :=
  a.low ≤ c.toNat && c.toNat ≤ a.high

end Assigned

/-- The blank characters of Unicode. -/
def isBlank (c : Char) : Bool :=
  (Ranges.read "9-d 20 85 a0 1680 2000-200a 2028-2029 202f 205f 3000").contains c

/-- A text without the blanks at its ends. -/
def Text.trim (t : Text) : Text :=
  ((t.dropWhile isBlank).reverse.dropWhile isBlank).reverse

end Courier
