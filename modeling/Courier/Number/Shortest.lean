import Courier.Number.Binary

/-!
# The fewest digits that read back

Every number of a binary format stands for the reals that round to it: an interval around it that
contains its ends exactly if the mantissa is even. `shortest` finds the decimal with the fewest
significant digits in that interval, and of those the one nearest to the number.
-/

namespace Courier

/-- A positive decimal number `digits · 10 ^ exponent`. -/
structure Decimal where
  digits : Nat
  exponent : Int
  deriving DecidableEq, Repr

/-- Which of two equally near decimals is taken. -/
inductive Tie
  | up
  | even
  deriving DecidableEq, Repr

namespace Decimal

def trim (d : Decimal) : Decimal :=
  go d.digits d.digits d.exponent
where
  go : Nat → Nat → Int → Decimal
    | fuel + 1, n, e => if n ≠ 0 ∧ n % 10 = 0 then go fuel (n / 10) (e + 1) else ⟨n, e⟩
    | 0, n, e => ⟨n, e⟩

def length (n : Nat) : Nat := (Nat.toDigits 10 n).length

end Decimal

namespace Finite

/-- The interval of reals around a positive number that round to it, in quarters of the last
place: its lower end, the number itself, and its upper end. The gap below is half as wide at a
power of two. -/
def quarters (f : Format) (x : Finite) : Nat × Nat × Nat :=
  let low :=
    if x.mantissa = Nat.pow 2 (f.precision - 1) ∧ f.least < x.exponent then 4 * x.mantissa - 1
    else 4 * x.mantissa - 2
  (low, 4 * x.mantissa, 4 * x.mantissa + 2)

/-- The greatest power of ten that is not above `num / den`. -/
def decimalExponent (num den : Nat) : Int :=
  let guess : Int := (Decimal.length num : Int) - Decimal.length den
  let reached :=
    if 0 ≤ guess then den * Nat.pow 10 guess.toNat ≤ num else den ≤ num * Nat.pow 10 (-guess).toNat
  if reached then guess else guess - 1

/-- The best decimal with its last digit at the power `place` of ten, if the interval has one. -/
def onGrid? (f : Format) (tie : Tie) (x : Finite) (place : Int) : Option Decimal :=
  let (low, mid, high) := x.quarters f
  let quarter := x.exponent - 2
  -- one unit of the grid is `unit` and one quarter is `step`, in a common measure
  let up (e : Int) (base : Nat) := Nat.pow base e.toNat
  let unit := up place 10 * up (-quarter) 2
  let step := up quarter 2 * up (-place) 10
  let inside (c : Nat) :=
    if x.mantissa % 2 = 0 then low * step ≤ c * unit ∧ c * unit ≤ high * step
    else low * step < c * unit ∧ c * unit < high * step
  let below := mid * step / unit
  let above := if mid * step % unit = 0 then below else below + 1
  let pick (c : Nat) : Option Decimal := some ⟨c, place⟩
  if below ≠ 0 ∧ inside below then
    if inside above then
      let down := mid * step - below * unit
      let rest := above * unit - mid * step
      if down < rest then pick below
      else if rest < down then pick above
      else if tie = .even ∧ below % 2 = 0 then pick below
      else pick above
    else pick below
  else if above ≠ 0 ∧ inside above then pick above
  else none

/-- The shortest decimal that reads back as a positive number of the format. -/
def shortest (f : Format) (tie : Tie) (x : Finite) : Decimal :=
  let (num, den) := x.quotient
  let top := decimalExponent num den
  let found := (List.range 17).findSome? fun (n : Nat) => x.onGrid? f tie (top - n)
  (found.getD ⟨num / den, 0⟩).trim

end Finite

end Courier
