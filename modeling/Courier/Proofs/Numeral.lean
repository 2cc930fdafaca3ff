import Courier.Json.Printer
import Courier.Proofs.Document
import Courier.Proofs.Lexeme
import Courier.Proofs.Shortest
import Mathlib

/-!
# Numerals of numbers

What is written for a number is a numeral that says it: `exists_numeral_of_number`. The digits of an integer are those
of its value. A double has a point or an exponent, and the number that its digits stand for rounds to it.
-/

namespace Courier

/-! ### Digits -/

lemma digitsValue_eq (digits : Text) : digitsValue digits = Nat.ofDigitChars 10 digits 0 := by
  simp only [digitsValue, Nat.ofDigitChars, Nat.mul_comm]
  rfl

lemma digitsValue_natText (n : Nat) : digitsValue (natText n) = n := by
  rw [digitsValue_eq]
  exact Nat.ofDigitChars_ten_toDigits

lemma digitsValue_append_zeros (digits : Text) (k : Nat) :
    digitsValue (digits ++ List.replicate k '0') = digitsValue digits * 10 ^ k := by
  rw [digitsValue_eq, digitsValue_eq, Nat.ofDigitChars_append, Nat.ofDigitChars_replicate_zero, Nat.mul_comm]

lemma digitsValue_zeros_append (k : Nat) (digits : Text) :
    digitsValue (List.replicate k '0' ++ digits) = digitsValue digits := by
  rw [digitsValue_eq, digitsValue_eq, Nat.ofDigitChars_append, Nat.ofDigitChars_replicate_zero, Nat.mul_zero]

namespace Json

lemma isDigits_natText (n : Nat) : IsDigits (natText n) := by
  refine ⟨?_, isDigit_of_mem_natText⟩
  obtain ⟨c, r, hcons, -⟩ := exists_natText_eq_cons n
  simp [hcons]

lemma natText_head?_eq_zero {n : Nat} (h : (natText n).head? = some '0') : natText n = ['0'] := by
  obtain ⟨c, r, hcons, -, hzero⟩ := exists_natText_eq_cons n
  rw [hcons] at h ⊢
  obtain rfl := Option.some.inj h
  rw [hzero rfl]

/-! ### What a numeral says -/

def Exponent.value (e : Exponent) : Int :=
  if e.sign = some '-' then -digitsValue e.digits else digitsValue e.digits

/-- The magnitude of the number that a numeral stands for, without any rounding. -/
def Numeral.magnitude (n : Numeral) : ℚ :=
  digitsValue (n.integer ++ n.fraction.getD [])
    * 10 ^ (n.exponent.elim 0 Exponent.value - (n.fraction.getD []).length)

/-- Which numbers a numeral says: the integer of its digits if it has neither fraction nor exponent, and otherwise the
double to which it rounds. Of a number that is no double nothing is asked but the sign. -/
inductive Numeral.Says (n : Numeral) : Number → Prop
  | integer {i : Int} (hfraction : n.fraction = none) (hexponent : n.exponent = none)
      (hsign : n.negative = decide (i < 0)) (hdigits : digitsValue n.integer = i.natAbs) : n.Says (.integer i)
  | float {x : Finite} (hpoint : n.fraction ≠ none ∨ n.exponent ≠ none) (hsign : n.negative = x.negative)
      (hnearest : x.IsDouble → x.IsNearest n.magnitude) : n.Says (.float x)

/-! ### Decimals -/

/-- Whether a text without a sign is a numeral with a fraction or an exponent, and of which value. -/
def IsFractional (t : Text) (q : ℚ) : Prop :=
  ∀ negative, ∃ n : Numeral, n.negative = negative ∧ n.unsigned = t ∧ (n.fraction ≠ none ∨ n.exponent ≠ none)
    ∧ n.magnitude = q

lemma isFractional_zero : IsFractional "0.0".toList 0 := by
  intro negative
  refine ⟨⟨negative, ['0'], some ['0'], none, by simp [IsDigits], by simp, by simp [IsDigits]⟩, rfl, rfl, by simp,
    ?_⟩
  simp [Numeral.magnitude, digitsValue]

variable {d : Decimal}

/-- A whole decimal with a fraction of zero. -/
lemma isFractional_whole (hd : d.digits = 0 → d.exponent = 0) (he : 0 ≤ d.exponent) :
    IsFractional (d.positional ++ ".0".toList) d.value := by
  intro negative
  have hdigits := isDigits_natText d.digits
  have hzero : (natText d.digits ++ List.replicate d.exponent.toNat '0').head? = some '0' →
      natText d.digits ++ List.replicate d.exponent.toNat '0' = ['0'] := by
    intro h
    rw [List.head?_append_of_ne_nil _ hdigits.1] at h
    have hnat := natText_head?_eq_zero h
    have hzero : d.digits = 0 := by
      rw [← digitsValue_natText d.digits, hnat]
      rfl
    rw [hnat, hd hzero]
    rfl
  refine ⟨⟨negative, natText d.digits ++ List.replicate d.exponent.toNat '0', some ['0'], none, ?_, hzero,
    by simp [IsDigits]⟩, rfl, ?_, by simp, ?_⟩
  · refine ⟨by simp [hdigits.1], fun c hc => ?_⟩
    rcases List.mem_append.mp hc with hc | hc
    · exact hdigits.2 c hc
    · rw [List.eq_of_mem_replicate hc]
      rfl
  · simp [Numeral.unsigned, Numeral.tail, Decimal.positional, he]
  · have hten : digitsValue ((natText d.digits ++ List.replicate d.exponent.toNat '0') ++ ['0'])
        = d.digits * 10 ^ d.exponent.toNat * 10 := by
      rw [show ['0'] = List.replicate 1 '0' from rfl, digitsValue_append_zeros, digitsValue_append_zeros,
        digitsValue_natText, pow_one]
    simp only [Numeral.magnitude, Option.getD_some, Option.elim_none, hten, Decimal.value]
    push_cast
    conv_rhs => rw [← Int.toNat_of_nonneg he, zpow_natCast]
    norm_num
    ring

/-- Digits with zeros before them, so that at least one stands before `places` others. -/
def padded (places n : Nat) : Text := List.replicate (places + 1 - (natText n).length) '0' ++ natText n

lemma lt_length_padded (places n : Nat) : places < (padded places n).length := by
  simp only [padded, List.length_append, List.length_replicate]
  omega

lemma isDigit_of_mem_padded {places n : Nat} : ∀ c ∈ padded places n, c.isDigit = true := by
  intro c hc
  rcases List.mem_append.mp hc with hc | hc
  · rw [List.eq_of_mem_replicate hc]
    rfl
  · exact isDigit_of_mem_natText c hc

lemma digitsValue_padded (places n : Nat) : digitsValue (padded places n) = n := by
  rw [padded, digitsValue_zeros_append, digitsValue_natText]

/-- Before the point stand one zero, or digits that start with none. -/
lemma take_padded_of_head? {places n : Nat} (hpos : 0 < places)
    (h : ((padded places n).take ((padded places n).length - places)).head? = some '0') :
    (padded places n).take ((padded places n).length - places) = ['0'] := by
  have hlength := lt_length_padded places n
  rw [List.head?_take, if_neg (by omega)] at h
  by_cases hone : (padded places n).length - places = 1
  · obtain ⟨r, hcons⟩ : ∃ r, padded places n = '0' :: r := List.head?_eq_some_iff.mp h
    rw [hone, hcons]
    rfl
  · -- the digits reach over the point, so there are no zeros before them
    have hnone : places + 1 - (natText n).length = 0 := by
      simp only [padded, List.length_append, List.length_replicate] at hone
      omega
    have hnat : padded places n = natText n := by
      rw [padded, hnone, List.replicate_zero, List.nil_append]
    rw [hnat] at h hlength
    rw [natText_head?_eq_zero h, List.length_singleton] at hlength
    omega

/-- A decimal with places behind the point. -/
lemma isFractional_positional (he : d.exponent < 0) : IsFractional d.positional d.value := by
  intro negative
  obtain ⟨places, hplaces⟩ : ∃ places : Nat, d.exponent = -(places : Int) := ⟨(-d.exponent).toNat, by omega⟩
  have hpos : 0 < places := by omega
  have hlength := lt_length_padded places d.digits
  have hcut : d.positional = (padded places d.digits).take ((padded places d.digits).length - places)
      ++ '.' :: (padded places d.digits).drop ((padded places d.digits).length - places) := by
    have htoNat : (-d.exponent).toNat = places := by omega
    simp only [Decimal.positional, if_neg (not_le.mpr he), htoNat]
    rfl
  have hzero := take_padded_of_head? (n := d.digits) hpos
  have hdigit : ∀ c ∈ padded places d.digits, c.isDigit = true := isDigit_of_mem_padded
  have hvalue := digitsValue_padded places d.digits
  generalize padded places d.digits = t at *
  have hinteger : IsDigits (t.take (t.length - places)) :=
    ⟨by simp [← List.length_eq_zero_iff]; omega, fun c hc => hdigit c (List.mem_of_mem_take hc)⟩
  have hfraction : IsDigits (t.drop (t.length - places)) :=
    ⟨by simp; omega, fun c hc => hdigit c (List.mem_of_mem_drop hc)⟩
  refine ⟨⟨negative, t.take (t.length - places), some (t.drop (t.length - places)), none, hinteger, hzero,
    by simpa using hfraction⟩, rfl, ?_, by simp, ?_⟩
  · simp [Numeral.unsigned, Numeral.tail, hcut]
  · have hplace : t.length - (t.length - places) = places := by omega
    simp only [Numeral.magnitude, Option.getD_some, Option.elim_none, List.take_append_drop, hvalue,
      List.length_drop, hplace, Decimal.value, hplaces, zero_sub]

/-- The exponent that is written for a power of ten. -/
def Exponent.ofInt (i : Int) : Exponent where
  letter := 'e'
  sign := if i < 0 then some '-' else some '+'
  digits := natText i.natAbs
  isLetter := .inl rfl
  isSign := by split_ifs <;> simp
  isDigits := isDigits_natText _

lemma Exponent.text_ofInt (i : Int) : (ofInt i).text = 'e' :: (if i < 0 then [] else ['+']) ++ intText i := by
  by_cases hi : i < 0
  · simp [text, ofInt, intText, hi]
  · simp [text, ofInt, intText, hi]

lemma Exponent.value_ofInt (i : Int) : (ofInt i).value = i := by
  by_cases hi : i < 0
  · simp [value, ofInt, hi, digitsValue_natText, abs_of_neg hi]
  · simp [value, ofInt, hi, digitsValue_natText, abs_of_nonneg (not_lt.mp hi)]

/-- One digit, the others behind the point, and an exponent. -/
lemma isFractional_scientific (d : Decimal) : IsFractional d.scientific d.value := by
  intro negative
  have hdigits := isDigits_natText d.digits
  obtain ⟨c, r, hcons, hc, -⟩ := exists_natText_eq_cons d.digits
  have hr : ∀ c ∈ r, c.isDigit = true := fun c hmem => hdigits.2 c (hcons ▸ List.mem_cons_of_mem _ hmem)
  have hvalue : digitsValue (c :: r) = d.digits := by rw [← hcons, digitsValue_natText]
  have hinteger : IsDigits [c] := ⟨by simp, by simpa using hc⟩
  refine ⟨⟨negative, [c], if r = [] then none else some r, some (Exponent.ofInt (d.exponent + r.length)), hinteger,
    ?_, ?_⟩, rfl, ?_, by simp, ?_⟩
  · intro h
    simpa using h
  · intro t ht
    split_ifs at ht with hnil
    · cases ht
    · cases ht
      exact ⟨hnil, hr⟩
  · simp only [Numeral.unsigned, Numeral.tail, Decimal.scientific, hcons, Option.elim_some, Exponent.text_ofInt]
    cases r <;> simp
  · have hfraction : (if r = [] then none else some r).getD [] = r := by
      split_ifs with hnil <;> simp [hnil]
    simp only [Numeral.magnitude, hfraction, Option.elim_some, Exponent.value_ofInt, List.singleton_append, hvalue,
      add_sub_cancel_right, Decimal.value]

/-! ### Numbers -/

/-- A number is written as a numeral that says it. -/
theorem exists_numeral_of_number (m : Number) : ∃ n : Numeral, n.Says m ∧ n.text = numberText m := by
  cases m with
  | integer i =>
    refine ⟨⟨decide (i < 0), natText i.natAbs, none, none, isDigits_natText _, natText_head?_eq_zero, by simp⟩,
      .integer rfl rfl rfl (digitsValue_natText _), ?_⟩
    simp [Numeral.text, Numeral.unsigned, Numeral.tail, numberText, intText]
  | float x =>
    have hbody (t : Text) (q : ℚ) (ht : IsFractional t q) (hnearest : x.IsDouble → x.IsNearest q) :
        ∃ n : Numeral, n.Says (.float x) ∧ n.text = if x.negative then '-' :: t else t := by
      obtain ⟨n, hsign, rfl, hpoint, rfl⟩ := ht x.negative
      exact ⟨n, .float hpoint hsign hnearest, by rw [Numeral.text, hsign]⟩
    rw [numberText, floatText]
    by_cases hzero : x.isZero = true
    · rw [if_pos hzero]
      exact hbody _ 0 isFractional_zero fun _ => Finite.isNearest_zero hzero
    · rw [if_neg hzero]
      refine hbody _ _ ?_ fun hx => hx.isNearest_shortest hzero .even
      dsimp only
      split_ifs with hrange hwhole
      · exact isFractional_whole Finite.exponent_shortest_of_digits hwhole
      · exact isFractional_positional (not_le.mp hwhole)
      · exact isFractional_scientific _

end Json

end Courier
