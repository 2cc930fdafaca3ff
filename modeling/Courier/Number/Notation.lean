import Courier.Number.Shortest
import Courier.Text.Utf8

/-!
# Writing and reading decimal numbers

`Decimal.positional` writes digits and a point and never an exponent; `Decimal.scientific` writes
one digit before the point and an exponent. `Floating.read?` reads either and rounds it to a format.
-/

namespace Courier

def natText (n : Nat) : Text := Nat.toDigits 10 n

/-- The decimal digits of an integer, after a minus sign if it is negative. -/
def intText (i : Int) : Text :=
  if i < 0 then '-' :: natText i.natAbs else natText i.natAbs

/-- The number that a text of decimal digits stands for. -/
def digitsValue (digits : Text) : Nat :=
  digits.foldl (fun n c => n * 10 + (c.toNat - 0x30)) 0

namespace Decimal

/-- Digits with a point and no exponent; a whole number has no point. -/
def positional (d : Decimal) : Text :=
  let digits := natText d.digits
  if 0 ≤ d.exponent then digits ++ List.replicate d.exponent.toNat '0'
  else
    let places := (-d.exponent).toNat
    let padded := List.replicate (places + 1 - digits.length) '0' ++ digits
    padded.take (padded.length - places) ++ '.' :: padded.drop (padded.length - places)

/-- One digit, a point and the other digits if there are more, and a signed exponent. -/
def scientific (d : Decimal) : Text :=
  let digits := natText d.digits
  let exponent := d.exponent + (digits.length - 1 : Nat)
  let tail := if digits.length = 1 then [] else '.' :: digits.drop 1
  digits.take 1 ++ tail ++ 'e' :: (if exponent < 0 then [] else ['+']) ++ intText exponent

end Decimal

/-- A number of a format, or one of its three other values. -/
inductive Floating
  | finite (x : Finite)
  | infinite (negative : Bool)
  | undefined
  deriving DecidableEq, Repr

namespace Floating

/-- A number `± digits · 10 ^ exponent` rounded to a format; one that is too large is infinite.
Exponents far outside the range of the format are cut first. -/
def ofDecimal (f : Format) (negative : Bool) (digits : Nat) (exponent : Int) : Floating :=
  let size : Int := Decimal.length digits + exponent
  if digits = 0 ∨ size < -400 then .finite (.zero negative)
  else if 400 < size then .infinite negative
  else
    let rounded :=
      if 0 ≤ exponent then f.nearest (digits * Nat.pow 10 exponent.toNat) 1
      else f.nearest digits (Nat.pow 10 (-exponent).toNat)
    match rounded with
    | some x => .finite (x.withSign negative)
    | none => .infinite negative

/-- Reads the digits of an exponent after its sign. -/
def exponent? (t : Text) : Option Int :=
  let (negative, digits) :=
    match t with
    | '-' :: r => (true, r)
    | '+' :: r => (false, r)
    | r => (false, r)
  if digits.isEmpty || !digits.all Char.isDigit then none
  else some (if negative then -(digitsValue digits : Int) else digitsValue digits)

/-- Reads digits with an optional point and an optional exponent; at least one digit stands
before the exponent. -/
def magnitude? (f : Format) (negative : Bool) (t : Text) : Option Floating := do
  let whole := t.takeWhile Char.isDigit
  let rest := t.dropWhile Char.isDigit
  let (fraction, rest) :=
    match rest with
    | '.' :: r => (r.takeWhile Char.isDigit, r.dropWhile Char.isDigit)
    | r => ([], r)
  let digits := whole ++ fraction
  if digits.isEmpty then none
  else
    let exponent ←
      match rest with
      | [] => some 0
      | c :: r => if c = 'e' ∨ c = 'E' then exponent? r else none
    return ofDecimal f negative (digitsValue digits) (exponent - fraction.length)

/-- Reads a number: an optional sign, then digits or one of the words for infinity and for the
undefined value, in any case. -/
def read? (f : Format) (t : Text) : Option Floating :=
  let (negative, body) :=
    match t with
    | '-' :: r => (true, r)
    | '+' :: r => (false, r)
    | r => (false, r)
  let word := body.map Char.toLower
  if word = "inf".toList ∨ word = "infinity".toList then some (.infinite negative)
  else if word = "nan".toList then some .undefined
  else magnitude? f negative body

/-- The shortest digits that read back, without an exponent. -/
def text (f : Format) : Floating → Text
  | .finite x =>
    let body := if x.isZero then ['0'] else (x.shortest f .up).positional
    if x.negative then '-' :: body else body
  | .infinite negative => if negative then "-inf".toList else "inf".toList
  | .undefined => "NaN".toList

end Floating

end Courier
