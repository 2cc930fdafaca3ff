import Courier.Number.Shortest
import Mathlib

/-!
# Shortest decimals

The decimal that is written for a double is a number that rounds to this double, to the even one of two that are
equally near: `IsDouble.isNearest_shortest`. The search looks at grids of powers of ten, from coarse to fine. What it
finds on one of them is in the interval of the numbers that round to the double, and seventeen digits are enough for
a grid to meet the interval.
-/

namespace Courier

def Decimal.value (d : Decimal) : ℚ := d.digits * 10 ^ d.exponent

namespace Finite

/-! ### Rounding -/

def magnitude (x : Finite) : ℚ := x.mantissa * 2 ^ x.exponent

/-- A double that is not zero: its mantissa has 53 bits, or fewer at the least exponent. -/
structure IsNonzeroDouble (x : Finite) : Prop where
  pos : 0 < x.mantissa
  lt : x.mantissa < 2 ^ 53
  least : -1074 ≤ x.exponent
  greatest : x.exponent ≤ 971
  full : -1074 < x.exponent → 2 ^ 52 ≤ x.mantissa

def IsDouble (x : Finite) : Prop := (∃ negative, x = .zero negative) ∨ x.IsNonzeroDouble

/-- Whether a number rounds to `x`: it is nearer to `x` than to every other double, or as near as to another one, and
then the mantissa of `x` is even. -/
def IsNearest (x : Finite) (q : ℚ) : Prop :=
  ∀ y : Finite, y.IsDouble → y.magnitude ≠ x.magnitude →
    |q - x.magnitude| < |q - y.magnitude| ∨ |q - x.magnitude| = |q - y.magnitude| ∧ x.mantissa % 2 = 0

/-- The way to the next double below, which is half as long at a power of two. -/
def gapBelow (x : Finite) : ℚ :=
  if x.mantissa = 2 ^ 52 ∧ -1074 < x.exponent then 2 ^ x.exponent / 2 else 2 ^ x.exponent

lemma gapBelow_pos (x : Finite) : 0 < x.gapBelow := by
  rw [gapBelow]
  split_ifs <;> positivity

lemma gapBelow_le (x : Finite) : x.gapBelow ≤ 2 ^ x.exponent := by
  have hpos : (0 : ℚ) < 2 ^ x.exponent := by positivity
  rw [gapBelow]
  split_ifs
  · linarith
  · exact le_refl _

lemma zpow_eq_natPow_mul {a b : Int} (h : a ≤ b) : (2 : ℚ) ^ b = (2 ^ (b - a).toNat : Nat) * 2 ^ a := by
  push_cast
  rw [← zpow_natCast, Int.toNat_of_nonneg (Int.sub_nonneg.mpr h), ← zpow_add₀ two_ne_zero, sub_add_cancel]

/-- Multiples of the last place are at least one last place apart. -/
lemma magnitude_of_multiple {x y : Finite} {k : Nat} (hy : y.magnitude = k * 2 ^ x.exponent)
    (hne : y.magnitude ≠ x.magnitude) :
    y.magnitude ≤ x.magnitude - 2 ^ x.exponent ∨ x.magnitude + 2 ^ x.exponent ≤ y.magnitude := by
  have hpos : (0 : ℚ) < 2 ^ x.exponent := by positivity
  rcases lt_trichotomy k x.mantissa with hlt | rfl | hlt
  · left
    have hle : (k : ℚ) + 1 ≤ x.mantissa := by exact_mod_cast hlt
    have := mul_le_mul_of_nonneg_right hle hpos.le
    rw [hy, magnitude]
    linarith
  · exact absurd hy hne
  · right
    have hle : (x.mantissa : ℚ) + 1 ≤ k := by exact_mod_cast hlt
    have := mul_le_mul_of_nonneg_right hle hpos.le
    rw [hy, magnitude]
    linarith

/-- Between a double and the next ones there is no other. -/
lemma IsNonzeroDouble.gap {x y : Finite} (hx : x.IsNonzeroDouble) (hy : y.IsDouble)
    (hne : y.magnitude ≠ x.magnitude) :
    y.magnitude ≤ x.magnitude - x.gapBelow ∨ x.magnitude + 2 ^ x.exponent ≤ y.magnitude := by
  have hgap := gapBelow_le x
  obtain ⟨negative, rfl⟩ | hy := hy
  · have hzero : (zero negative).magnitude = (0 : Nat) * 2 ^ x.exponent := by simp [magnitude, zero]
    exact (magnitude_of_multiple hzero hne).imp_left fun h => by linarith
  rcases le_or_gt x.exponent y.exponent with hle | hlt
  · have hmultiple : y.magnitude = (y.mantissa * 2 ^ (y.exponent - x.exponent).toNat : Nat) * 2 ^ x.exponent := by
      rw [magnitude, zpow_eq_natPow_mul hle]
      push_cast
      ring
    exact (magnitude_of_multiple hmultiple hne).imp_left fun h => by linarith
  · -- `x` has full precision, and the mantissa of `y` has not one bit more
    left
    have hhalf : (2 : ℚ) ^ y.exponent ≤ 2 ^ x.exponent / 2 := by
      rw [div_eq_mul_inv, ← zpow_sub_one₀ two_ne_zero]
      exact zpow_le_zpow_right₀ one_le_two (Int.le_sub_one_of_lt hlt)
    have hpos : (0 : ℚ) < 2 ^ y.exponent := by positivity
    have hm : (y.mantissa : ℚ) ≤ 2 ^ 53 - 1 := by
      have := hy.lt
      have : (y.mantissa : ℚ) + 1 ≤ 2 ^ 53 := by exact_mod_cast this
      linarith
    have hy' : y.magnitude ≤ (2 ^ 53 - 1) * (2 ^ x.exponent / 2) := by
      rw [magnitude]
      gcongr
    have hfull := hx.full (lt_of_le_of_lt hy.least hlt)
    have hleast : -1074 < x.exponent := lt_of_le_of_lt hy.least hlt
    have hx' : x.magnitude = x.mantissa * 2 ^ x.exponent := rfl
    rw [gapBelow]
    split_ifs with hpower
    · rw [hpower.1] at hx'
      push_cast at hx'
      linarith
    · have hmore : (2 ^ 52 + 1 : ℚ) ≤ x.mantissa := by
        have hne : x.mantissa ≠ 2 ^ 52 := fun h => hpower ⟨h, hleast⟩
        exact_mod_cast lt_of_le_of_ne hfull hne.symm
      have := mul_le_mul_of_nonneg_right hmore (show (0 : ℚ) ≤ 2 ^ x.exponent by positivity)
      linarith

/-- Whether a number is at most half the way to the next doubles away; the middle belongs to the even mantissa. -/
def Attracts (x : Finite) (q : ℚ) : Prop :=
  if x.mantissa % 2 = 0 then x.magnitude - x.gapBelow / 2 ≤ q ∧ q ≤ x.magnitude + 2 ^ x.exponent / 2
  else x.magnitude - x.gapBelow / 2 < q ∧ q < x.magnitude + 2 ^ x.exponent / 2

lemma IsNonzeroDouble.isNearest {x : Finite} (hx : x.IsNonzeroDouble) {q : ℚ} (h : x.Attracts q) : x.IsNearest q := by
  intro y hy hne
  have hgap := gapBelow_pos x
  have hpos : (0 : ℚ) < 2 ^ x.exponent := by positivity
  rw [Attracts] at h
  split_ifs at h with heven
  · have hle : |q - x.magnitude| ≤ |q - y.magnitude| := by
      rcases hx.gap hy hne with hbelow | habove
      · rw [abs_of_nonneg (show 0 ≤ q - y.magnitude by linarith)]
        exact abs_le.mpr ⟨by linarith, by linarith⟩
      · rw [abs_of_nonpos (show q - y.magnitude ≤ 0 by linarith)]
        exact abs_le.mpr ⟨by linarith, by linarith⟩
    exact hle.lt_or_eq.imp_right fun heq => ⟨heq, heven⟩
  · left
    rcases hx.gap hy hne with hbelow | habove
    · rw [abs_of_nonneg (show 0 ≤ q - y.magnitude by linarith)]
      exact abs_lt.mpr ⟨by linarith, by linarith⟩
    · rw [abs_of_nonpos (show q - y.magnitude ≤ 0 by linarith)]
      exact abs_lt.mpr ⟨by linarith, by linarith⟩

/-! ### The search -/

/-- One unit of the grid at a place, in the measure of `onGrid?`. -/
def gridUnit (x : Finite) (place : Int) : Nat :=
  Nat.pow 10 place.toNat * Nat.pow 2 (-(x.exponent - 2)).toNat

/-- One quarter of the last place in the same measure. -/
def gridStep (x : Finite) (place : Int) : Nat :=
  Nat.pow 2 (x.exponent - 2).toNat * Nat.pow 10 (-place).toNat

lemma zpow_mul_toNat_neg {a : ℚ} (ha : a ≠ 0) (e : Int) : a ^ e * a ^ (-e).toNat = a ^ e.toNat := by
  rw [← zpow_natCast, ← zpow_natCast, ← zpow_add₀ ha]
  congr 1
  omega

/-- Both are what they say, up to the measure. -/
lemma exists_measure (x : Finite) (place : Int) : ∃ k : ℚ, 0 < k
    ∧ (x.gridUnit place : ℚ) = 10 ^ place * k ∧ (x.gridStep place : ℚ) = 2 ^ x.exponent / 4 * k := by
  refine ⟨10 ^ (-place).toNat * 2 ^ (-(x.exponent - 2)).toNat, by positivity, ?_, ?_⟩
  · have h := zpow_mul_toNat_neg (a := 10) (by norm_num) place
    simp only [gridUnit, Nat.pow_eq, Nat.cast_mul, Nat.cast_pow, Nat.cast_ofNat, ← h]
    ring
  · have h := zpow_mul_toNat_neg (a := 2) (by norm_num) (x.exponent - 2)
    have hquarter : (2 : ℚ) ^ x.exponent / 4 = 2 ^ (x.exponent - 2) := by
      rw [zpow_sub₀ two_ne_zero]
      norm_num
    simp only [gridStep, Nat.pow_eq, Nat.cast_mul, Nat.cast_pow, Nat.cast_ofNat, ← h, hquarter]
    ring

/-- Whether a multiple of the unit lies inside the interval that `onGrid?` searches. -/
def IsInside (x : Finite) (place : Int) (c : Nat) : Prop :=
  if x.mantissa % 2 = 0 then
    (x.quarters .double).1 * x.gridStep place ≤ c * x.gridUnit place
      ∧ c * x.gridUnit place ≤ (x.quarters .double).2.2 * x.gridStep place
  else
    (x.quarters .double).1 * x.gridStep place < c * x.gridUnit place
      ∧ c * x.gridUnit place < (x.quarters .double).2.2 * x.gridStep place

instance (x : Finite) (place : Int) : DecidablePred (x.IsInside place) :=
  fun _ => inferInstanceAs (Decidable (ite _ _ _))

/-- Takes the nearer of two neighbours that lie inside an interval. -/
def nearer? (inside : Nat → Prop) [DecidablePred inside] (tie : Tie) (below above down rest : Nat) : Option Nat :=
  if below ≠ 0 ∧ inside below then
    if inside above then
      if down < rest then some below
      else if rest < down then some above
      else if tie = .even ∧ below % 2 = 0 then some below
      else some above
    else some below
  else if above ≠ 0 ∧ inside above then some above
  else none

section Search

variable {inside : Nat → Prop} [DecidablePred inside] {tie : Tie} {below above down rest c : Nat}

lemma inside_of_nearer? (hle : below ≤ above) (h : nearer? inside tie below above down rest = some c) :
    c ≠ 0 ∧ inside c := by
  rw [nearer?] at h
  split_ifs at h with hbelow habove
  all_goals obtain rfl := Option.some.inj h
  case pos => exact hbelow
  all_goals first
    | exact hbelow
    | exact ⟨by omega, by assumption⟩
    | assumption

lemma isSome_nearer? (h : (below ≠ 0 ∧ inside below) ∨ (above ≠ 0 ∧ inside above)) :
    (nearer? inside tie below above down rest).isSome := by
  rw [nearer?]
  by_cases hbelow : below ≠ 0 ∧ inside below
  · rw [if_pos hbelow]
    split_ifs <;> rfl
  · rw [if_neg hbelow, if_pos (h.resolve_left hbelow)]
    rfl

end Search

/-- The number in the measure of the grid, and its neighbours on it. -/
lemma onGrid?_eq (x : Finite) (tie : Tie) (place : Int) :
    let mid := (x.quarters .double).2.1 * x.gridStep place
    let below := mid / x.gridUnit place
    let above := if mid % x.gridUnit place = 0 then below else below + 1
    x.onGrid? .double tie place
      = (nearer? (x.IsInside place) tie below above (mid - below * x.gridUnit place)
          (above * x.gridUnit place - mid)).map fun c => ⟨c, place⟩ := by
  intro mid below above
  rw [nearer?]
  simp only [apply_ite (Option.map _), Option.map_some, Option.map_none]
  rfl

lemma exists_inside_of_onGrid? {x : Finite} {tie : Tie} {place : Int} {d : Decimal}
    (h : x.onGrid? .double tie place = some d) : ∃ c ≠ 0, x.IsInside place c ∧ d = ⟨c, place⟩ := by
  rw [onGrid?_eq] at h
  obtain ⟨c, hc, rfl⟩ := Option.map_eq_some_iff.mp h
  obtain ⟨hne, hinside⟩ := inside_of_nearer? (by split_ifs <;> omega) hc
  exact ⟨c, hne, hinside, rfl⟩

section Interval

variable {x : Finite} (hx : x.IsNonzeroDouble) {place : Int} {c : Nat}

include hx

lemma quarters_low : ((x.quarters .double).1 : ℚ) * (2 ^ x.exponent / 4) = x.magnitude - x.gapBelow / 2 := by
  have hpos := hx.pos
  by_cases hpower : x.mantissa = 2 ^ 52 ∧ -1074 < x.exponent
  · have hlow : (x.quarters .double).1 = 4 * x.mantissa - 1 := if_pos hpower
    rw [hlow, gapBelow, if_pos hpower, magnitude, Nat.cast_sub (by omega)]
    push_cast
    ring
  · have hlow : (x.quarters .double).1 = 4 * x.mantissa - 2 := if_neg hpower
    rw [hlow, gapBelow, if_neg hpower, magnitude, Nat.cast_sub (by omega)]
    push_cast
    ring

lemma attracts_iff : x.Attracts (c * 10 ^ place) ↔ x.IsInside place c := by
  obtain ⟨k, hk, hunit, hstep⟩ := exists_measure x place
  have hhigh : ((x.quarters .double).2.2 : ℚ) * (2 ^ x.exponent / 4) = x.magnitude + 2 ^ x.exponent / 2 := by
    simp only [quarters, magnitude]
    push_cast
    ring
  rw [Attracts, IsInside, ← quarters_low hx, ← hhigh]
  simp only [← @Nat.cast_le ℚ, ← @Nat.cast_lt ℚ, Nat.cast_mul, hunit, hstep, ← mul_assoc, mul_le_mul_iff_left₀ hk,
    mul_lt_mul_iff_left₀ hk]

lemma attracts_of_onGrid? {tie : Tie} {d : Decimal} (h : x.onGrid? .double tie place = some d) :
    x.Attracts d.value := by
  obtain ⟨c, -, hinside, rfl⟩ := exists_inside_of_onGrid? h
  exact (attracts_iff hx).mpr hinside

end Interval

/-! ### Seventeen digits -/

lemma IsInside.of_lt {x : Finite} {place : Int} {c : Nat}
    (hlow : (x.quarters .double).1 * x.gridStep place < c * x.gridUnit place)
    (hhigh : c * x.gridUnit place < (x.quarters .double).2.2 * x.gridStep place) : x.IsInside place c := by
  rw [IsInside]
  split_ifs
  · exact ⟨hlow.le, hhigh.le⟩
  · exact ⟨hlow, hhigh⟩

/-- How far the ends of the interval of a double are away from it. -/
lemma IsNonzeroDouble.ends {x : Finite} (hx : x.IsNonzeroDouble) (s : Nat) :
    ((x.quarters .double).1 * s + s = 4 * x.mantissa * s ∧ x.mantissa = 2 ^ 52
        ∨ (x.quarters .double).1 * s + 2 * s = 4 * x.mantissa * s)
      ∧ (x.quarters .double).2.2 * s = 4 * x.mantissa * s + 2 * s := by
  have hpos := hx.pos
  refine ⟨?_, by simp only [quarters, add_mul]⟩
  by_cases hpower : x.mantissa = 2 ^ 52 ∧ -1074 < x.exponent
  · have hlow : (x.quarters .double).1 + 1 = 4 * x.mantissa := by
      rw [show (x.quarters .double).1 = 4 * x.mantissa - 1 from if_pos hpower]
      omega
    exact .inl ⟨by rw [← hlow, add_mul, one_mul], hpower.1⟩
  · have hlow : (x.quarters .double).1 + 2 = 4 * x.mantissa := by
      rw [show (x.quarters .double).1 = 4 * x.mantissa - 2 from if_neg hpower]
      omega
    exact .inr (by rw [← hlow, add_mul])

/-- On a grid that is fine enough one of the neighbours of a double lies in its interval. -/
lemma IsNonzeroDouble.isSome_onGrid? {x : Finite} (hx : x.IsNonzeroDouble) (tie : Tie) {place : Int}
    (hfine : 10 ^ 16 * x.gridUnit place ≤ 4 * x.mantissa * x.gridStep place) :
    (x.onGrid? .double tie place).isSome := by
  obtain ⟨hlow, hhigh⟩ := hx.ends (x.gridStep place)
  have hunit : 0 < x.gridUnit place := Nat.mul_pos (Nat.pow_pos (by decide)) (Nat.pow_pos (by decide))
  have hstep : 0 < x.gridStep place := Nat.mul_pos (Nat.pow_pos (by decide)) (Nat.pow_pos (by decide))
  have hlt : 4 * x.mantissa * x.gridStep place < 4 * 2 ^ 53 * x.gridStep place :=
    Nat.mul_lt_mul_of_pos_right (Nat.mul_lt_mul_of_pos_left hx.lt (by decide)) hstep
  have hpower (h : x.mantissa = 2 ^ 52) : 4 * x.mantissa * x.gridStep place = 4 * 2 ^ 52 * x.gridStep place := by
    rw [h]
  have hmid : (x.quarters .double).2.1 = 4 * x.mantissa := rfl
  rw [onGrid?_eq, Option.isSome_map, hmid]
  have hinside (c : Nat) := @IsInside.of_lt x place c
  revert hinside
  generalize x.gridUnit place = unit, x.gridStep place = step at *
  generalize 4 * x.mantissa * step = mid at *
  generalize (x.quarters .double).1 * step = low, (x.quarters .double).2.2 * step = high at *
  intro hinside
  have hdiv := Nat.div_add_mod' mid unit
  have hmod := Nat.mod_lt mid hunit
  have hone : unit ≤ mid := by omega
  have hbelow := Nat.div_pos hone hunit
  -- the nearer neighbour is half a unit away at most, and the ends are farther away
  have hnear : low < mid / unit * unit ∨ mid % unit ≠ 0 ∧ mid / unit * unit + unit < high := by omega
  refine isSome_nearer? (hnear.imp (fun h => ?_) fun ⟨hne, h⟩ => ?_)
  · exact ⟨hbelow.ne', hinside _ h (by omega)⟩
  · rw [if_neg hne]
    refine ⟨Nat.succ_ne_zero _, hinside _ ?_ ?_⟩ <;> rw [Nat.succ_mul] <;> omega

/-! ### Where the search starts -/

lemma lt_pow_length (n : Nat) : n < 10 ^ Decimal.length n :=
  (Nat.length_toDigits_le_iff (by decide) Nat.length_toDigits_pos).mp le_rfl

lemma pow_length_le {n : Nat} (hn : 0 < n) : 10 ^ (Decimal.length n - 1) ≤ n := by
  rcases Nat.eq_zero_or_pos (Decimal.length n - 1) with hone | hmore
  · rw [hone]
    exact hn
  · by_contra hlt
    have hle := (Nat.length_toDigits_le_iff (by decide) hmore).mpr (not_le.mp hlt)
    rw [Decimal.length] at hmore hle
    omega

/-- The power of ten at which the search starts is not above the number. -/
lemma zpow_decimalExponent_le {num den : Nat} (hnum : 0 < num) (hden : 0 < den) :
    (10 : ℚ) ^ decimalExponent num den ≤ num / den := by
  have hden' : (0 : ℚ) < den := by exact_mod_cast hden
  have hlength : 0 < Decimal.length num := Nat.length_toDigits_pos
  have hlow : (10 : ℚ) ^ (Decimal.length num - 1) ≤ num := by exact_mod_cast pow_length_le hnum
  have hhigh : (den : ℚ) ≤ 10 ^ Decimal.length den := by exact_mod_cast (lt_pow_length den).le
  -- one place below the guess the lengths alone decide
  have hbelow : (10 : ℚ) ^ ((Decimal.length num : Int) - Decimal.length den - 1) * den ≤ num := by
    calc (10 : ℚ) ^ ((Decimal.length num : Int) - Decimal.length den - 1) * den
        ≤ 10 ^ ((Decimal.length num : Int) - Decimal.length den - 1) * 10 ^ Decimal.length den := by gcongr
      _ = 10 ^ (Decimal.length num - 1) := by
        rw [← zpow_natCast, ← zpow_natCast, ← zpow_add₀ (by norm_num)]
        congr 1
        omega
      _ ≤ num := hlow
  rw [le_div_iff₀ hden', decimalExponent]
  split_ifs with hnonneg hreached hreached
  · have hpow : (10 : ℚ) ^ ((Decimal.length num : Int) - Decimal.length den)
        = 10 ^ ((Decimal.length num : Int) - Decimal.length den).toNat := by
      rw [← zpow_natCast, Int.toNat_of_nonneg hnonneg]
    rw [hpow, mul_comm]
    exact_mod_cast hreached
  · exact hbelow
  · have hpow : (10 : ℚ) ^ ((Decimal.length num : Int) - Decimal.length den)
        = (10 ^ (-((Decimal.length num : Int) - Decimal.length den)).toNat)⁻¹ := by
      rw [← zpow_natCast, Int.toNat_of_nonneg (by omega), zpow_neg, inv_inv]
    rw [hpow, inv_mul_le_iff₀ (by positivity), mul_comm]
    exact_mod_cast hreached
  · exact hbelow

lemma quotient_eq {x : Finite} (hx : 0 < x.mantissa) :
    0 < x.quotient.1 ∧ 0 < x.quotient.2 ∧ (x.quotient.1 : ℚ) / x.quotient.2 = x.magnitude := by
  rw [quotient, magnitude]
  split_ifs with hnonneg
  · refine ⟨Nat.mul_pos hx (Nat.pow_pos (by decide)), Nat.one_pos, ?_⟩
    conv_rhs => rw [← Int.toNat_of_nonneg hnonneg, zpow_natCast]
    simp
  · refine ⟨hx, Nat.pow_pos (by decide), ?_⟩
    have hneg : x.exponent = -((-x.exponent).toNat : Int) := by omega
    conv_rhs => rw [hneg, zpow_neg, zpow_natCast]
    simp [div_eq_mul_inv]

lemma value_go (fuel n : Nat) (e : Int) : (Decimal.trim.go fuel n e).value = (⟨n, e⟩ : Decimal).value := by
  induction fuel generalizing n e with
  | zero => rfl
  | succ fuel ih =>
    rw [Decimal.trim.go]
    split_ifs with htrim
    · have hn : (n : ℚ) = (n / 10 : Nat) * 10 := by
        exact_mod_cast (Nat.div_mul_cancel (Nat.dvd_of_mod_eq_zero htrim.2)).symm
      rw [ih, Decimal.value, Decimal.value, hn, zpow_add_one₀ (by norm_num)]
      ring
    · rfl

@[simp] lemma value_trim (d : Decimal) : d.trim.value = d.value := value_go _ _ _

lemma value_eq_zero_iff {d : Decimal} : d.value = 0 ↔ d.digits = 0 := by
  rw [Decimal.value, mul_eq_zero, Nat.cast_eq_zero, or_iff_left (by positivity)]

/-- Without digits nothing is trimmed. -/
lemma trim_eq_of_digits {d : Decimal} (h : d.trim.digits = 0) : d.trim = d := by
  rw [← value_eq_zero_iff, value_trim, value_eq_zero_iff] at h
  obtain ⟨digits, exponent⟩ := d
  obtain rfl : digits = 0 := h
  rfl

/-! ### The shortest decimal -/

lemma isSome_findSome?_onGrid? {x : Finite} (hx : x.IsNonzeroDouble) (tie : Tie) :
    ((List.range 17).findSome? fun (n : Nat) =>
      x.onGrid? .double tie (decimalExponent x.quotient.1 x.quotient.2 - n)).isSome := by
  obtain ⟨hnum, hden, hquotient⟩ := quotient_eq hx.pos
  have htop := zpow_decimalExponent_le hnum hden
  rw [hquotient] at htop
  generalize decimalExponent x.quotient.1 x.quotient.2 = top at htop
  refine List.findSome?_isSome_iff.mpr ⟨16, by simp, hx.isSome_onGrid? tie ?_⟩
  obtain ⟨k, hk, hunit, hstep⟩ := exists_measure x (top - 16)
  have hcast : (10 ^ 16 * x.gridUnit (top - 16) : ℚ) ≤ 4 * x.mantissa * x.gridStep (top - 16) := by
    calc (10 ^ 16 * x.gridUnit (top - 16) : ℚ)
        = 10 ^ top * k := by
          rw [hunit, zpow_sub₀ (by norm_num)]
          norm_num
          ring
      _ ≤ x.magnitude * k := by gcongr
      _ = 4 * x.mantissa * x.gridStep (top - 16) := by
          rw [hstep, magnitude]
          ring
  exact_mod_cast hcast

/-- The shortest decimal is one that is found on a grid, without its zeros. -/
lemma IsNonzeroDouble.exists_shortest_eq_trim {x : Finite} (hx : x.IsNonzeroDouble) (tie : Tie) :
    ∃ place d, x.onGrid? .double tie place = some d ∧ x.shortest .double tie = d.trim := by
  obtain ⟨d, hd⟩ := Option.isSome_iff_exists.mp (isSome_findSome?_onGrid? hx tie)
  obtain ⟨n, -, hn⟩ := List.exists_of_findSome?_eq_some hd
  refine ⟨_, d, hn, ?_⟩
  rw [shortest]
  dsimp only
  rw [hd]
  rfl

/-- The shortest decimal of a double rounds to it. -/
theorem IsDouble.isNearest_shortest {x : Finite} (hx : x.IsDouble) (hzero : x.isZero ≠ true) (tie : Tie) :
    x.IsNearest (x.shortest .double tie).value := by
  obtain ⟨negative, rfl⟩ | hx := hx
  · exact absurd rfl hzero
  obtain ⟨place, d, hd, hshortest⟩ := hx.exists_shortest_eq_trim tie
  rw [hshortest, value_trim]
  exact hx.isNearest (attracts_of_onGrid? hx hd)

lemma isNearest_zero {x : Finite} (hx : x.isZero = true) : x.IsNearest 0 := by
  intro y _ hne
  have hzero : x.magnitude = 0 := by
    rw [magnitude, of_decide_eq_true hx, Nat.cast_zero, zero_mul]
  rw [hzero] at hne ⊢
  left
  rw [sub_self, abs_zero, abs_pos, zero_sub]
  exact neg_ne_zero.mpr hne

/-- A shortest decimal without digits is a plain zero. -/
lemma exponent_shortest_of_digits {x : Finite} {tie : Tie} (h : (x.shortest .double tie).digits = 0) :
    (x.shortest .double tie).exponent = 0 := by
  rw [shortest] at h ⊢
  dsimp only at h ⊢
  have htrim := trim_eq_of_digits h
  rw [htrim] at h ⊢
  cases hfound : (List.range 17).findSome? fun (n : Nat) =>
      x.onGrid? .double tie (decimalExponent x.quotient.1 x.quotient.2 - n) with
  | none => rfl
  | some d =>
    obtain ⟨n, -, hn⟩ := List.exists_of_findSome?_eq_some hfound
    obtain ⟨c, hne, -, rfl⟩ := exists_inside_of_onGrid? hn
    rw [hfound] at h
    exact absurd h hne

end Finite

end Courier
