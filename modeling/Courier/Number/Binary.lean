/-!
# Binary floating-point numbers

A number of a binary format is zero or `mantissa · 2 ^ exponent` with a bounded mantissa. Values are
kept in one normal form, so that equal numbers have equal parts: the mantissa has the full
precision of the format unless the exponent is the least one, and zero has exponent 0.

`Format.nearest` rounds a positive quotient of natural numbers to the nearest number of a format,
with ties to even mantissas; products and quotients are rounded through it.
-/

namespace Courier

/-- A binary floating-point format. -/
structure Format where
  /-- The number of bits of a mantissa. -/
  precision : Nat
  /-- The least exponent of the last place. -/
  least : Int
  /-- The greatest exponent of the last place. -/
  greatest : Int

namespace Format

def single : Format := ⟨24, -149, 104⟩

def double : Format := ⟨53, -1074, 971⟩

end Format

/-- A finite number `± mantissa · 2 ^ exponent`. -/
structure Finite where
  negative : Bool
  mantissa : Nat
  exponent : Int
  deriving DecidableEq, Repr

namespace Finite

def zero (negative : Bool) : Finite := ⟨negative, 0, 0⟩

/-- Whether a number is zero, of either sign. -/
def isZero (x : Finite) : Bool := x.mantissa = 0

def withSign (x : Finite) (negative : Bool) : Finite := { x with negative }

/-- The magnitude as a quotient: numerator and denominator. -/
def quotient (x : Finite) : Nat × Nat :=
  if 0 ≤ x.exponent then (x.mantissa * Nat.pow 2 x.exponent.toNat, 1)
  else (x.mantissa, Nat.pow 2 (-x.exponent).toNat)

end Finite

/-- The quotient rounded to a whole number: to the nearest, and to the even one of two. -/
def roundQuotient (num den : Nat) : Nat :=
  let whole := num / den
  let twice := 2 * (num % den)
  if twice < den ∨ (twice = den ∧ whole % 2 = 0) then whole else whole + 1

namespace Format

/-- The exponent of the last place of a number of the size of `num / den`. -/
def lastPlace (f : Format) (num den : Nat) : Int :=
  let guess : Int := (num.log2 : Int) - den.log2 - f.precision
  let whole :=
    if 0 ≤ guess then num / (den * Nat.pow 2 guess.toNat) else num * Nat.pow 2 (-guess).toNat / den
  max f.least (if whole < Nat.pow 2 f.precision then guess else guess + 1)

/-- The non-negative number of the format nearest to `num / den`; `none` if it is too large. -/
def nearest (f : Format) (num den : Nat) : Option Finite :=
  if num = 0 then some (Finite.zero false)
  else
    let place := f.lastPlace num den
    let rounded :=
      if 0 ≤ place then roundQuotient num (den * Nat.pow 2 place.toNat)
      else roundQuotient (num * Nat.pow 2 (-place).toNat) den
    let (mantissa, exponent) :=
      if rounded = Nat.pow 2 f.precision then (Nat.pow 2 (f.precision - 1), place + 1)
      else (rounded, place)
    if mantissa = 0 then some (Finite.zero false)
    else if f.greatest < exponent then none
    else some ⟨false, mantissa, exponent⟩

/-- The number of the format nearest to a natural number. -/
def ofNat (f : Format) (n : Nat) : Option Finite :=
  f.nearest n 1

/-- The product, rounded; `none` if it is too large. -/
def mul (f : Format) (x y : Finite) : Option Finite :=
  let (a, b) := x.quotient
  let (c, d) := y.quotient
  (f.nearest (a * c) (b * d)).map (·.withSign (x.negative != y.negative))

/-- The quotient, rounded; `none` if it is too large. The divisor is not zero. -/
def div (f : Format) (x y : Finite) : Option Finite :=
  let (a, b) := x.quotient
  let (c, d) := y.quotient
  (f.nearest (a * d) (b * c)).map (·.withSign (x.negative != y.negative))

end Format

end Courier
