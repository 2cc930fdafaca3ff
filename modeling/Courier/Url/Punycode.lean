import Courier.Text.Utf8

/-!
# Punycode

The characters of a label beyond ASCII, written as ASCII letters and digits behind the others: the
code points in increasing order, each as the distance from the one before it, as a number of variable
length whose thresholds follow a bias.
-/

namespace Courier.Url.Punycode

/-- The digit of a value below 36. -/
def digit (n : Nat) : Char :=
  Char.ofNat (if n < 26 then 0x61 + n else 0x16 + n)

/-- The value of a digit of either case. -/
def value? (c : Char) : Option Nat :=
  if c.isDigit then some (c.toNat - 0x16)
  else if 'a' ≤ c ∧ c ≤ 'z' then some (c.toNat - 0x61)
  else if 'A' ≤ c ∧ c ≤ 'Z' then some (c.toNat - 0x41)
  else none

/-- The threshold of the digit at a position that counts from 36 in steps of 36. -/
def threshold (position bias : Nat) : Nat :=
  if position ≤ bias then 1 else if bias + 26 ≤ position then 26 else position - bias

/-- Divides a distance until it is small, counting the steps. -/
def reduce : Nat → Nat → Nat → Nat × Nat
  | 0, delta, k => (delta, k)
  | fuel + 1, delta, k => if 455 < delta then reduce fuel (delta / 35) (k + 36) else (delta, k)

/-- The bias after a distance is written. -/
def adapt (delta points : Nat) (first : Bool) : Nat :=
  let delta := if first then delta / 700 else delta / 2
  let (delta, k) := reduce delta (delta + delta / points) 0
  k + 36 * delta / (delta + 38)

def encodeNumber : Nat → Nat → Nat → Nat → Text
  | 0, _, _, _ => []
  | fuel + 1, n, position, bias =>
    let t := threshold position bias
    if n < t then [digit n]
    else digit (t + (n - t) % (36 - t)) :: encodeNumber fuel ((n - t) / (36 - t)) (position + 36) bias

/-- The state of writing: the next code point, the distance so far, the bias, how many characters are
written, and the digits. -/
structure Writer where
  next : Nat
  delta : Nat
  bias : Nat
  handled : Nat
  out : Text

/-- Writes the places of one code point among the characters of a label. -/
def writePoint (basic : Nat) (m : Nat) (w : Writer) (c : Char) : Writer :=
  if c.toNat < m then { w with delta := w.delta + 1 }
  else if c.toNat = m then
    { w with
      delta := 0
      bias := adapt w.delta (w.handled + 1) (w.handled = basic)
      handled := w.handled + 1
      out := w.out ++ encodeNumber (w.delta + 1) w.delta 36 w.bias }
  else w

/-- Writes the code points of a list in turn. -/
def writePoints (t : Text) (basic : Nat) (points : List Nat) (w : Writer) : Writer :=
  points.foldl
    (fun w m =>
      let w := { w with delta := w.delta + (m - w.next) * (w.handled + 1) }
      let w := t.foldl (writePoint basic m) w
      { w with delta := w.delta + 1, next := m + 1 })
    w

/-- The ASCII form of a label, without the mark in front of it. -/
def encode (t : Text) : Text :=
  let ascii := t.filter (·.toNat < 0x80)
  let points := ((t.map Char.toNat).filter (0x80 ≤ ·)).mergeSort.eraseDups
  let start : Writer :=
    ⟨0x80, 0, 72, ascii.length, if ascii.isEmpty then [] else ascii ++ ['-']⟩
  (writePoints t ascii.length points start).out

/-- Reads one distance: its value and the digits that are left. Values are below 2³². -/
def decodeNumber? : Text → Nat → Nat → Nat → Nat → Option (Nat × Text)
  | [], _, _, _, _ => none
  | c :: rest, position, bias, weight, sum => do
    let d ← value? c
    let sum := sum + d * weight
    let t := threshold position bias
    let heavier := weight * (36 - t)
    if Nat.pow 2 32 ≤ sum then none
    else if d < t then return (sum, rest)
    else if Nat.pow 2 32 ≤ heavier then none
    else decodeNumber? rest (position + 36) bias heavier sum

/-- Inserts the code points that digits stand for, each at its place; `fuel` bounds their number. -/
def insertPoints? : Nat → Bool → Text → Nat → Nat → Nat → Text → Option Text
  | _, _, [], _, _, _, out => some out
  | 0, _, _ :: _, _, _, _, _ => none
  | fuel + 1, first, c :: rest, point, place, bias, out => do
    let (delta, rest) ← decodeNumber? (c :: rest) 36 bias 1 0
    let points := out.length + 1
    let point := point + (place + delta) / points
    let place := (place + delta) % points
    if 0x10FFFF < point ∨ (0xD800 ≤ point ∧ point ≤ 0xDFFF) then none
    else
      let out := out.take place ++ Char.ofNat point :: out.drop place
      insertPoints? fuel false rest point (place + 1) (adapt delta points first) out

/-- The label that an ASCII form stands for, without the mark in front of it. The digits stand behind
the last hyphen that is not at the start. -/
def decode? (t : Text) : Option Text :=
  let digits := (t.reverse.takeWhile (· ≠ '-')).reverse
  let basic := (t.take (t.length - digits.length)).dropLast
  if basic.isEmpty then insertPoints? (t.length + 1) true t 0x80 0 72 []
  else insertPoints? (t.length + 1) true digits 0x80 0 72 basic

end Courier.Url.Punycode
