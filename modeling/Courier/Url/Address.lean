import Courier.Number.Notation
import Courier.Text.Percent

/-!
# Numeric hosts

An IPv4 address is read from one to four numbers, each decimal, octal after `0` or hexadecimal after
`0x`, of which the last one fills the remaining bytes. An IPv6 address has eight pieces; the longest
run of at least two zero pieces is written `::`.
-/

namespace Courier.Url

namespace Ipv4

/-- The value of digits in a base, if all of them are digits of that base. -/
def inBase? (base : Nat) (t : Text) : Option Nat := do
  let digits ← t.mapM Percent.hexValue?
  if digits.all (· < base) then return digits.foldl (fun n d => n * base + d) 0 else none

def number? : Text → Option Nat
  | [] => none
  | '0' :: 'x' :: t => inBase? 16 t
  | '0' :: 'X' :: t => inBase? 16 t
  | '0' :: c :: t => inBase? 8 (c :: t)
  | t => inBase? 10 t

/-- The parts of a host between dots, without an empty one at the end. -/
def parts (t : Text) : List Text :=
  let ps := t.splitOn '.'
  if ps.getLast? = some [] then ps.dropLast else ps

/-- Whether the last part of a host is a number; the host is then an address or invalid. -/
def endsInNumber (t : Text) : Bool :=
  match (parts t).getLast? with
  | some last => (!last.isEmpty && last.all Char.isDigit) || (number? last).isSome
  | none => false

/-- Reads an address as one number of 32 bits. -/
def parse? (t : Text) : Option Nat := do
  let ps := parts t
  if 4 < ps.length then none
  else
    let numbers ← ps.mapM number?
    let last ← numbers.getLast?
    let first := numbers.dropLast
    if Nat.pow 256 (4 - first.length) ≤ last || first.any (255 < ·) then none
    else return first.zipIdx.foldl (fun n (b, i) => n + b * Nat.pow 256 (3 - i)) last

/-- The address as four decimal numbers. -/
def text (address : Nat) : Text :=
  ['.'].intercalate ([3, 2, 1, 0].map fun i => natText (address / Nat.pow 256 i % 256))

end Ipv4

namespace Ipv6

/-- Reads one piece of one to four hexadecimal digits. -/
def piece? (t : Text) : Option Nat :=
  if t.isEmpty || 4 < t.length then none else Ipv4.inBase? 16 t

/-- Reads one decimal number below 256 without needless zeros. -/
def byte? (t : Text) : Option Nat :=
  if t.isEmpty || 3 < t.length || !t.all Char.isDigit || (t.head? = some '0' && t ≠ ['0']) then none
  else if digitsValue t < 256 then some (digitsValue t) else none

/-- Reads the last group: one piece, or four decimal numbers that fill two pieces. -/
def lastGroup? (t : Text) : Option (List Nat) :=
  if t.contains '.' then
    match (t.splitOn '.').mapM byte? with
    | some [a, b, c, d] => some [a * 256 + b, c * 256 + d]
    | _ => none
  else (piece? t).map fun p => [p]

/-- Reads groups between colons; `last` tells whether they end the address. -/
def groups? (last : Bool) (t : Text) : Option (List Nat) :=
  if t.isEmpty then some []
  else do
    let gs := t.splitOn ':'
    if last then
      let front ← gs.dropLast.mapM piece?
      let back ← lastGroup? (gs.getLast?.getD [])
      return front ++ back
    else gs.mapM piece?

/-- The texts before and after the first `::`. -/
def splitGap : Text → Option (Text × Text)
  | ':' :: ':' :: t => some ([], t)
  | c :: t => (splitGap t).map fun (a, b) => (c :: a, b)
  | [] => none

/-- Reads an address as its eight pieces. -/
def parse? (t : Text) : Option (List Nat) := do
  match splitGap t with
  | some (before, after) =>
    let left ← groups? false before
    let right ← groups? true after
    let known := left.length + right.length
    if 7 < known then none else return left ++ List.replicate (8 - known) 0 ++ right
  | none =>
    let pieces ← groups? true t
    if pieces.length = 8 then return pieces else none

def zeros (pieces : List Nat) : Nat := (pieces.takeWhile (· = 0)).length

/-- The place and length of the first of the longest runs of zeros. -/
def longestZeros (pieces : List Nat) : Nat × Nat :=
  (List.range pieces.length).foldl
    (fun best i =>
      let n := zeros (pieces.drop i)
      if best.2 < n then (i, n) else best)
    (0, 0)

def join (pieces : List Nat) : Text :=
  [':'].intercalate (pieces.map (Nat.toDigits 16))

/-- The address in its shortest form. -/
def text (pieces : List Nat) : Text :=
  let (start, length) := longestZeros pieces
  if length < 2 then join pieces
  else join (pieces.take start) ++ ':' :: ':' :: join (pieces.drop (start + length))

end Ipv6

end Courier.Url
