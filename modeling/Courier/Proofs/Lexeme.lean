import Courier.Json.Lexeme
import Courier.Json.Printer
import Courier.Proofs.Except
import Mathlib

/-!
# Reading back strings and numbers

A string is read back from what `Json.quote` writes, character by character: every escape stands for the
character it was written for. A number that a whole text is read as is read also before a text that does not
go on with it (`readNumber_append`), and an integer of 64 bits is read back from its digits
(`isReadBack_integer`).
-/

namespace Courier.Json

/-! ### Strings -/

lemma hexValue?_hexDigit : ∀ n < 16, Percent.hexValue? (hexDigit n) = some n := by decide

/-- The number behind a `\u` of a control is read back. -/
lemma readHex_hexDigit {n : Nat} (hn : n < 256) (t : Text) :
    readHex ('0' :: '0' :: hexDigit (n / 16) :: hexDigit (n % 16) :: t) = .ok n := by
  have hzero : Percent.hexValue? '0' = some 0 := by decide
  have hhigh := hexValue?_hexDigit (n / 16) (by omega)
  have hlow := hexValue?_hexDigit (n % 16) (by omega)
  simp [readHex, hzero, hhigh, hlow]
  omega

lemma readEscape_control {c : Char} (hc : c < ' ') (t : Text) :
    readEscape ('u' :: '0' :: '0' :: hexDigit (c.toNat / 16) :: hexDigit (c.toNat % 16) :: t)
      = .ok (c, 5) := by
  have hlt : c.toNat < 32 := hc
  have hread := readHex_hexDigit (n := c.toNat) (by omega) t
  have hfirst : ¬ (0xDC00 ≤ c.toNat ∧ c.toNat ≤ 0xDFFF) := by omega
  have hsurrogate : c.toNat < 0xD800 ∨ 0xDBFF < c.toNat := by omega
  simp [readEscape, readUnicode, hread, hfirst, hsurrogate]

section ReadChars

variable {s t : Text}

lemma readChars_backslash {r rest : Text} {d : Char} {n : Nat} (hescape : readEscape r = .ok (d, n))
    (hrest : readChars (r.drop n) = .ok (s, rest)) :
    readChars ('\\' :: r) = .ok (d :: s, rest) := by
  rw [readChars]
  simp [hescape, hrest]

lemma readChars_cons {c : Char} {rest : Text} (hquote : c ≠ '"') (hbackslash : c ≠ '\\')
    (hcontrol : ¬ c < ' ') (hrest : readChars t = .ok (s, rest)) :
    readChars (c :: t) = .ok (c :: s, rest) := by
  rw [readChars]
  simp [hquote, hbackslash, hcontrol, hrest]

/-- A character of a string is read back, whichever way it is written. -/
lemma readChars_escape_append {rest : Text} (c : Char) (h : readChars t = .ok (s, rest)) :
    readChars (escape c ++ t) = .ok (c :: s, rest) := by
  rw [escape]
  split_ifs with h1 h2 h3 h4 h5 h6 h7 h8
  · subst h1; exact readChars_backslash rfl h
  · subst h2; exact readChars_backslash rfl h
  · subst h3; exact readChars_backslash rfl h
  · subst h4; exact readChars_backslash rfl h
  · subst h5; exact readChars_backslash rfl h
  · subst h6; exact readChars_backslash rfl h
  · subst h7; exact readChars_backslash rfl h
  · exact readChars_backslash (readEscape_control h8 t) h
  · exact readChars_cons h1 h2 h8 h

end ReadChars

lemma quote_append (s : String) (rest : Text) :
    quote s ++ rest = '"' :: (s.toList.flatMap escape ++ '"' :: rest) := by
  simp [quote]

/-- A string is read back behind its first quote. -/
lemma readString_quote (s : String) (rest : Text) :
    readString (s.toList.flatMap escape ++ '"' :: rest) = .ok (s, rest) := by
  have hchars (t : Text) : readChars (t.flatMap escape ++ '"' :: rest) = .ok (t, rest) := by
    induction t with
    | nil => rw [List.flatMap_nil, List.nil_append, readChars, if_pos rfl]
    | cons c t ih =>
      rw [List.flatMap_cons, List.append_assoc]
      exact readChars_escape_append c ih
  simp [readString, hchars]

/-! ### Numbers before other texts -/

/-- Whether a text starts with nothing that could go on with a value: it is at its end, or before a comma, a
closing bracket or a line break. -/
def IsBoundary (t : Text) : Prop := ∀ c ∈ t.head?, c = ',' ∨ c = ']' ∨ c = '}' ∨ c = '\n'

lemma isBoundary_cons {c : Char} (h : c = ',' ∨ c = ']' ∨ c = '}' ∨ c = '\n') (t : Text) :
    IsBoundary (c :: t) := by
  simpa [IsBoundary] using h

lemma IsBoundary.eq_nil_or_exists {t : Text} (h : IsBoundary t) :
    t = [] ∨ ∃ r, t = ',' :: r ∨ t = ']' :: r ∨ t = '}' :: r ∨ t = '\n' :: r := by
  cases t with
  | nil => exact Or.inl rfl
  | cons c r =>
    refine Or.inr ⟨r, ?_⟩
    simpa using h c rfl

section Boundary

variable {rest : Text} (hrest : IsBoundary rest)

include hrest

lemma head?_any_isDigit_append (t : Text) :
    (t ++ rest).head?.any Char.isDigit = t.head?.any Char.isDigit := by
  cases t with
  | nil => rcases hrest.eq_nil_or_exists with rfl | ⟨r, rfl | rfl | rfl | rfl⟩ <;> rfl
  | cons c t => rfl

lemma takeWhile_isDigit_append (t : Text) :
    (t ++ rest).takeWhile Char.isDigit = t.takeWhile Char.isDigit := by
  induction t with
  | nil => rcases hrest.eq_nil_or_exists with rfl | ⟨r, rfl | rfl | rfl | rfl⟩ <;> rfl
  | cons c t ih => rw [List.cons_append, List.takeWhile_cons, List.takeWhile_cons, ih]

lemma dropWhile_isDigit_append (t : Text) :
    (t ++ rest).dropWhile Char.isDigit = t.dropWhile Char.isDigit ++ rest := by
  induction t with
  | nil => rcases hrest.eq_nil_or_exists with rfl | ⟨r, rfl | rfl | rfl | rfl⟩ <;> rfl
  | cons c t ih =>
    rw [List.cons_append, List.dropWhile_cons, List.dropWhile_cons, ih]
    split_ifs <;> rfl

lemma startsExponent_append (t : Text) : startsExponent (t ++ rest) = startsExponent t := by
  cases t with
  | nil => rcases hrest.eq_nil_or_exists with rfl | ⟨r, rfl | rfl | rfl | rfl⟩ <;> rfl
  | cons c t => rfl

end Boundary

lemma drop_one_append {t : Text} (h : startsExponent t = true) (rest : Text) :
    (t ++ rest).drop 1 = t.drop 1 ++ rest := by
  cases t with
  | nil => simp [startsExponent] at h
  | cons c t => rfl

/-- Whether an exponent is below zero, and the text behind its sign. -/
def exponentSign : Text → Bool × Text
  | '+' :: r => (false, r)
  | '-' :: r => (true, r)
  | r => (false, r)

/-- Reads the digits of an exponent behind its sign. -/
def readPower (negative : Bool) (word : Nat) (point : Int) (below : Bool) (t : Text) :
    Except Fault (Number × Text) :=
  match t with
  | [] => .error .endInValue
  | c :: _ =>
    if !c.isDigit then .error .invalidNumber
    else if maxExponent < digitsValue (t.takeWhile Char.isDigit) then
      if word ≠ 0 && !below then .error .numberOutOfRange
      else .ok (.float (.zero negative), t.dropWhile Char.isDigit)
    else do
      let power : Int := digitsValue (t.takeWhile Char.isDigit)
      let number ← assemble negative word (if below then point - power else point + power)
      return (number, t.dropWhile Char.isDigit)

lemma readExponent_eq (negative : Bool) (word : Nat) (point : Int) (t : Text) :
    readExponent negative word point t
      = readPower negative word point (exponentSign t).1 (exponentSign t).2 := rfl

section Append

variable {negative : Bool} {word : Nat} {point : Int} {t tail rest : Text} {n : Number}

lemma bind_pair_append {x : Except Fault Number} {u : Text}
    (h : (do let y ← x; return (y, u)) = Except.ok (n, tail)) (rest : Text) :
    (do let y ← x; return (y, u ++ rest)) = Except.ok (n, tail ++ rest) := by
  cases x with
  | error f => cases h
  | ok y =>
    cases h
    rfl

lemma exponentSign_append (hrest : IsBoundary rest) (t : Text) :
    exponentSign (t ++ rest) = ((exponentSign t).1, (exponentSign t).2 ++ rest) := by
  cases t with
  | nil => rcases hrest.eq_nil_or_exists with rfl | ⟨r, rfl | rfl | rfl | rfl⟩ <;> rfl
  | cons c r =>
    by_cases hplus : c = '+'
    · subst hplus
      rfl
    · by_cases hminus : c = '-'
      · subst hminus
        rfl
      · simp [exponentSign, hplus, hminus]

lemma readPower_append (hrest : IsBoundary rest) {below : Bool}
    (h : readPower negative word point below t = .ok (n, tail)) :
    readPower negative word point below (t ++ rest) = .ok (n, tail ++ rest) := by
  cases t with
  | nil => cases h
  | cons c r =>
    have htake := takeWhile_isDigit_append hrest (c :: r)
    have hdrop := dropWhile_isDigit_append hrest (c :: r)
    rw [List.cons_append] at htake hdrop ⊢
    rw [readPower, htake, hdrop]
    rw [readPower] at h
    split_ifs at h ⊢
    · cases h
      rfl
    · exact bind_pair_append h rest
    · exact bind_pair_append h rest

lemma readExponent_append (hrest : IsBoundary rest)
    (h : readExponent negative word point t = .ok (n, tail)) :
    readExponent negative word point (t ++ rest) = .ok (n, tail ++ rest) := by
  rw [readExponent_eq] at h ⊢
  rw [exponentSign_append hrest]
  exact readPower_append hrest h

lemma readFraction_append (hrest : IsBoundary rest)
    (h : readFraction negative word point t = .ok (n, tail)) :
    readFraction negative word point (t ++ rest) = .ok (n, tail ++ rest) := by
  simp only [readFraction, takeWhile_isDigit_append hrest, dropWhile_isDigit_append hrest,
    startsExponent_append hrest] at h ⊢
  split_ifs at h ⊢ with hdigits hexponent
  · rw [drop_one_append hexponent]
    exact readExponent_append hrest h
  · exact bind_pair_append h rest

/-- A number is read in the same way before a text that does not go on with it. -/
lemma readNumber_append (hrest : IsBoundary rest) (h : readNumber negative t = .ok (n, tail)) :
    readNumber negative (t ++ rest) = .ok (n, tail ++ rest) := by
  cases t with
  | nil => cases h
  | cons c r =>
    have htake := takeWhile_isDigit_append hrest (c :: r)
    have hdrop := dropWhile_isDigit_append hrest (c :: r)
    rw [List.cons_append] at htake hdrop ⊢
    rw [readNumber, htake, hdrop, head?_any_isDigit_append hrest]
    rw [readNumber] at h
    split_ifs at h ⊢
    simp only [startsExponent_append hrest] at h ⊢
    -- what stands behind the whole digits
    generalize (c :: r).dropWhile Char.isDigit = u at h ⊢
    by_cases hpoint : ∃ s, u = '.' :: s
    · obtain ⟨s, rfl⟩ := hpoint
      exact readFraction_append hrest h
    · have hother : ∀ s, u ++ rest ≠ '.' :: s := by
        intro s hs
        cases u with
        | nil => rcases hrest.eq_nil_or_exists with rfl | ⟨r, rfl | rfl | rfl | rfl⟩ <;> simp at hs
        | cons d u => exact hpoint ⟨u, by rw [(List.cons.inj hs).1]⟩
      split at h
      · next s => exact absurd ⟨s, rfl⟩ hpoint
      split_ifs at h ⊢ with hexponent
      · rw [drop_one_append hexponent]
        exact readExponent_append hrest h
      · cases h
        rfl
      · exact bind_pair_append h rest

/-- What is read as a number starts with a digit. -/
lemma exists_eq_cons_of_readNumber (h : readNumber negative t = .ok (n, tail)) :
    ∃ c r, t = c :: r ∧ c.isDigit = true := by
  cases t with
  | nil => cases h
  | cons c r =>
    refine ⟨c, r, rfl, ?_⟩
    by_contra hc
    rw [readNumber, if_pos (by simpa using hc)] at h
    cases h

end Append

/-! ### Integers -/

lemma le_ofDigitChars (digits : Text) (word : Nat) : word ≤ Nat.ofDigitChars 10 digits word := by
  induction digits generalizing word with
  | nil => simp
  | cons c digits ih =>
    rw [Nat.ofDigitChars_cons]
    have := ih (10 * word + (c.toNat - '0'.toNat))
    omega

/-- All digits are taken if the number that they make is a word. -/
lemma absorb_eq {digits : Text} {word : Nat} (h : Nat.ofDigitChars 10 digits word ≤ maxWord) :
    absorb word digits = (Nat.ofDigitChars 10 digits word, digits.length) := by
  induction digits generalizing word with
  | nil => simp [absorb]
  | cons c digits ih =>
    rw [Nat.ofDigitChars_cons] at h
    have hcode : '0'.toNat = 0x30 := rfl
    rw [hcode, Nat.mul_comm 10 word] at h
    have hnext := (le_ofDigitChars digits (word * 10 + (c.toNat - 0x30))).trans h
    rw [absorb, if_pos hnext, ih h, Nat.ofDigitChars_cons, hcode, Nat.mul_comm 10 word,
      List.length_cons]

lemma ne_of_isDigit {c d : Char} (hc : c.isDigit = true) (hd : d.isDigit = false) : c ≠ d := by
  rintro rfl
  simp [hc] at hd

lemma isDigit_of_mem_natText {n : Nat} : ∀ c ∈ natText n, c.isDigit = true :=
  fun _ hc => Nat.isDigit_of_mem_toDigits (by decide) (by decide) hc

/-- Written numbers start with a digit, which is a zero only for zero. -/
lemma exists_natText_eq_cons (n : Nat) :
    ∃ c r, natText n = c :: r ∧ c.isDigit = true ∧ (c = '0' → r = []) := by
  have hzero : ∀ d < 10, Nat.digitChar d = '0' → d = 0 := by decide
  have key : ∃ c r, natText n = c :: r ∧ (c = '0' → n = 0) := by
    induction n using Nat.strong_induction_on with
    | _ n ih =>
      rw [natText, Nat.toDigits_eq_if (by decide)]
      split_ifs with hn
      · exact ⟨_, [], rfl, hzero n hn⟩
      · obtain ⟨c, r, hcons, hc⟩ := ih (n / 10) (by omega)
        rw [natText] at hcons
        refine ⟨c, r ++ [Nat.digitChar (n % 10)], by rw [hcons, List.cons_append], fun h => ?_⟩
        have := hc h
        omega
  obtain ⟨c, r, hcons, hc⟩ := key
  have hmem : c ∈ natText n := hcons ▸ List.mem_cons_self
  refine ⟨c, r, hcons, isDigit_of_mem_natText c hmem, fun h => ?_⟩
  rw [hc h] at hcons
  obtain ⟨-, rfl⟩ : '0' = c ∧ [] = r := List.cons.inj hcons
  rfl

/-- Whether a text does not go on with a number: neither with a digit nor with a point or an exponent. -/
def EndsNumber (t : Text) : Prop :=
  t.head?.any Char.isDigit = false ∧ t.head? ≠ some '.' ∧ startsExponent t = false

/-- A word is read back from its digits. -/
lemma readNumber_natText {n : Nat} (hn : n ≤ maxWord) (negative : Bool) {rest : Text} (hrest : EndsNumber rest) :
    readNumber negative (natText n ++ rest) = .ok (whole negative n, rest) := by
  obtain ⟨hdigit, hpoint, hexponent⟩ := hrest
  have hbehind : rest.takeWhile Char.isDigit = [] ∧ rest.dropWhile Char.isDigit = rest := by
    cases rest with
    | nil => simp
    | cons c r => simpa using hdigit
  have htake : (natText n ++ rest).takeWhile Char.isDigit = natText n := by
    rw [List.takeWhile_append_of_pos isDigit_of_mem_natText, hbehind.1, List.append_nil]
  have hdrop : (natText n ++ rest).dropWhile Char.isDigit = rest := by
    rw [List.dropWhile_append_of_pos isDigit_of_mem_natText, hbehind.2]
  have hvalue : Nat.ofDigitChars 10 (natText n) 0 = n := Nat.ofDigitChars_ten_toDigits
  have habsorb := absorb_eq (hvalue.trans_le hn)
  rw [hvalue] at habsorb
  obtain ⟨c, r, hcons, hfirst, hleading⟩ := exists_natText_eq_cons n
  rw [hcons, List.cons_append] at htake hdrop ⊢
  have hzero : ¬ (c = '0' ∧ (r ++ rest).head?.any Char.isDigit = true) := by
    rintro ⟨hc, hany⟩
    simp [hleading hc, hdigit] at hany
  rw [readNumber, if_neg (by simpa using hfirst), if_neg hzero, htake, hdrop, ← hcons]
  dsimp only
  rw [habsorb]
  split
  · exact absurd rfl hpoint
  · rw [if_neg (by simpa using hexponent), if_pos rfl]

/-- Whether an integer is one of 64 bits, signed or unsigned. -/
def IsWord (i : Int) : Prop := -(2 : Int) ^ 63 ≤ i ∧ i < (2 : Int) ^ 64

lemma natAbs_le_maxWord {i : Int} (h : IsWord i) : i.natAbs ≤ maxWord := by
  obtain ⟨hlow, hhigh⟩ := h
  have hmax : maxWord = 18446744073709551615 := rfl
  rw [hmax]
  omega

lemma whole_eq {i : Int} (h : IsWord i) (hi : i < 0) : whole true i.natAbs = .integer i := by
  obtain ⟨hlow, -⟩ := h
  have hne : ¬ (i.natAbs = 0 ∨ Nat.pow 2 63 < i.natAbs) := by
    have hpow : Nat.pow 2 63 = 9223372036854775808 := rfl
    rw [hpow]
    omega
  rw [whole, if_neg (by decide), if_neg hne, Int.ofNat_natAbs_of_nonpos hi.le, neg_neg]

/-- Whether the text of a number, taken alone, is read as that number. -/
def IsReadBack (n : Number) : Prop :=
  ∃ negative digits, numberText n = (if negative then '-' :: digits else digits)
    ∧ readNumber negative digits = .ok (n, [])

/-- An integer of 64 bits is read back. -/
lemma isReadBack_integer {i : Int} (h : IsWord i) : IsReadBack (.integer i) := by
  have hnil : EndsNumber [] := ⟨rfl, by simp, rfl⟩
  have hread (negative : Bool) : readNumber negative (natText i.natAbs) = .ok (whole negative i.natAbs, []) := by
    simpa using readNumber_natText (natAbs_le_maxWord h) negative hnil
  by_cases hi : i < 0
  · refine ⟨true, natText i.natAbs, ?_, ?_⟩
    · rw [numberText, intText, if_pos hi, if_pos rfl]
    · rw [hread, whole_eq h hi]
  · refine ⟨false, natText i.natAbs, ?_, ?_⟩
    · rw [numberText, intText, if_neg hi, if_neg Bool.false_ne_true]
    · have hwhole : whole false i.natAbs = .integer i := by
        simp [whole]
        omega
      rw [hread, hwhole]

/-- The text of a number that is read back starts with its sign or a digit. -/
lemma exists_numberText_eq_cons {n : Number} (h : IsReadBack n) :
    ∃ c r, numberText n = c :: r ∧ (c = '-' ∨ c.isDigit = true) := by
  obtain ⟨negative, digits, htext, hread⟩ := h
  obtain ⟨c, r, rfl, hdigit⟩ := exists_eq_cons_of_readNumber hread
  cases negative with
  | true => exact ⟨'-', c :: r, htext, Or.inl rfl⟩
  | false => exact ⟨c, r, htext, Or.inr hdigit⟩

end Courier.Json
