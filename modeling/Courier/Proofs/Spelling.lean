import Courier.Proofs.Decoded
import Courier.Proofs.Document
import Mathlib

/-!
# Reading the spellings of strings and numbers

The readers of strings and numbers take what is spelled as one and stands for a text or a number, and nothing else:
`readString_eq_ok_iff`, `readNumber_unsigned_append` and `exists_numeral_of_readNumber`. A number that is spelled as
one is refused only if it is out of range (`Numeral.eq_of_number_eq_error`).
-/

namespace Courier.Json

/-! ### Reading strings -/

section Unicode

variable {digits : Text} (h : IsHex digits)

lemma textOf?_unicode (hhigh : ¬ IsHigh (hexNumber digits)) (hlow : ¬ IsLow (hexNumber digits)) (rest : List Sign) :
    textOf? (.unicode digits h :: rest) = (textOf? rest).map (Char.ofNat (hexNumber digits) :: ·) := by
  rw [textOf?.eq_def]
  simp [hhigh, hlow]

lemma textOf?_pair (hhigh : IsHigh (hexNumber digits)) {low : Text} (h' : IsHex low) (hlow : IsLow (hexNumber low))
    (rest : List Sign) :
    textOf? (.unicode digits h :: .unicode low h' :: rest)
      = (textOf? rest).map (pairChar (hexNumber digits) (hexNumber low) :: ·) := by
  have hnot : ¬ IsLow (hexNumber digits) := by
    rw [IsHigh] at hhigh
    rw [IsLow]
    omega
  rw [textOf?.eq_def]
  simp [hhigh, hnot, hlow]

end Unicode

lemma readHex_append {digits : Text} (h : IsHex digits) (rest : Text) :
    readHex (digits ++ rest) = .ok (hexNumber digits) := by
  obtain ⟨hlength, hdigits⟩ := h
  obtain ⟨a, b, c, d, rfl⟩ : ∃ a b c d, digits = [a, b, c, d] := List.length_eq_four.mp hlength
  simp only [List.forall_mem_cons, Option.isSome_iff_exists] at hdigits
  obtain ⟨⟨w, hw⟩, ⟨x, hx⟩, ⟨y, hy⟩, ⟨z, hz⟩, -⟩ := hdigits
  simp [readHex, hexNumber, hw, hx, hy, hz]

lemma length_eq_and_isSome_of_mapM {α β : Type} {f : α → Option β} {xs : List α} {ys : List β}
    (h : xs.mapM f = some ys) : xs.length = ys.length ∧ ∀ x ∈ xs, (f x).isSome := by
  induction xs generalizing ys with
  | nil =>
    obtain rfl := Option.some.inj h
    simp
  | cons x xs ih =>
    simp only [List.mapM_cons, Option.bind_eq_bind, Option.bind_eq_some_iff] at h
    obtain ⟨y, hy, ys', hys, h⟩ := h
    obtain rfl := Option.some.inj h
    obtain ⟨hlength, hsome⟩ := ih hys
    exact ⟨by simp [hlength], List.forall_mem_cons.mpr ⟨by simp [hy], hsome⟩⟩

lemma exists_of_readHex {t : Text} {n : Nat} (h : readHex t = .ok n) :
    ∃ digits rest, IsHex digits ∧ hexNumber digits = n ∧ t = digits ++ rest := by
  have hcut : t = t.take 4 ++ t.drop 4 := (List.take_append_drop 4 t).symm
  have hhex : IsHex (t.take 4) := by
    rw [readHex] at h
    split at h
    · next hvalues => exact length_eq_and_isSome_of_mapM hvalues
    · cases h
  refine ⟨t.take 4, t.drop 4, hhex, ?_, hcut⟩
  rw [hcut, readHex_append hhex] at h
  exact Except.ok.inj h

lemma IsHex.drop_append {digits : Text} (h : IsHex digits) (rest : Text) : (digits ++ rest).drop 4 = rest := by
  rw [← h.1, List.drop_left]

lemma IsHex.drop_pair_append {high low : Text} (hhigh : IsHex high) (hlow : IsHex low) (rest : Text) :
    (high ++ '\\' :: 'u' :: (low ++ rest)).drop 10 = rest := by
  have hdrop := List.drop_drop (i := 6) (j := 4) (l := high ++ '\\' :: 'u' :: (low ++ rest))
  rw [← hdrop, hhigh.drop_append]
  exact hlow.drop_append rest

/-- An escape with a number is a part of a string, or the two parts of a pair. -/
lemma exists_signs_of_readUnicode {t : Text} {c : Char} {n : Nat} (h : readUnicode t = .ok (c, n)) :
    ∃ signs, '\\' :: 'u' :: t = signs.flatMap Sign.text ++ t.drop n
      ∧ ∀ rest, textOf? (signs ++ rest) = (textOf? rest).map (c :: ·) := by
  obtain ⟨first, hfirst, h⟩ := bind_eq_ok_iff.mp h
  obtain ⟨digits, rest, hhex, rfl, rfl⟩ := exists_of_readHex hfirst
  rw [hhex.drop_append] at h
  split_ifs at h with hlow hsingle
  · obtain ⟨rfl, rfl⟩ := Prod.mk.inj (Except.ok.inj h)
    have hhigh : ¬ IsHigh (hexNumber digits) := by
      rw [IsHigh]
      omega
    refine ⟨[.unicode digits hhex], ?_, fun rest => ?_⟩
    · rw [hhex.drop_append]
      simp [Sign.text]
    · exact textOf?_unicode hhex hhigh hlow rest
  · have hhigh : IsHigh (hexNumber digits) := by
      rw [IsHigh]
      omega
    split at h
    · cases h
    · cases h
    · next r =>
      obtain ⟨second, hsecond, hpair⟩ := bind_eq_ok_iff.mp h
      obtain ⟨digits', rest', hhex', rfl, rfl⟩ := exists_of_readHex hsecond
      split_ifs at hpair with hsecond
      obtain ⟨rfl, rfl⟩ := Prod.mk.inj (Except.ok.inj hpair)
      have hlow' : IsLow (hexNumber digits') := by
        rw [IsLow]
        omega
      refine ⟨[.unicode digits hhex, .unicode digits' hhex'], ?_, fun rest => ?_⟩
      · rw [hhex.drop_pair_append hhex']
        simp [Sign.text]
      · exact textOf?_pair hhex hhigh hhex' hlow' rest
    · cases h

/-- What stands behind a backslash is a part of a string, or the rest of two that make a pair. -/
lemma exists_signs_of_readEscape {t : Text} {c : Char} {n : Nat} (h : readEscape t = .ok (c, n)) :
    ∃ signs, '\\' :: t = signs.flatMap Sign.text ++ t.drop n
      ∧ ∀ rest, textOf? (signs ++ rest) = (textOf? rest).map (c :: ·) := by
  have hshort {letter : Char} (hletter : (letter, c) ∈ shortEscapes) (r : Text) :
      ∃ signs, '\\' :: letter :: r = signs.flatMap Sign.text ++ (letter :: r).drop 1
        ∧ ∀ rest, textOf? (signs ++ rest) = (textOf? rest).map (c :: ·) :=
    ⟨[.short letter c hletter], rfl, fun _ => rfl⟩
  rw [readEscape.eq_def] at h
  split at h
  · cases h
  · next r =>
    obtain ⟨⟨d, m⟩, hunicode, h⟩ := bind_eq_ok_iff.mp h
    obtain ⟨rfl, rfl⟩ := Prod.mk.inj (Except.ok.inj h)
    exact exists_signs_of_readUnicode hunicode
  · next letter r _ =>
    split at h <;> cases h
    all_goals exact hshort (by decide) r

lemma readEscape_short {letter c : Char} (h : (letter, c) ∈ shortEscapes) (t : Text) :
    readEscape (letter :: t) = .ok (c, 1) := by
  simp only [shortEscapes, List.mem_cons, Prod.mk.injEq, List.not_mem_nil, or_false] at h
  rcases h with h | h | h | h | h | h | h | h
  all_goals
    obtain ⟨rfl, rfl⟩ := h
    rfl

lemma readEscape_unicode {digits : Text} (h : IsHex digits) (hhigh : ¬ IsHigh (hexNumber digits))
    (hlow : ¬ IsLow (hexNumber digits)) (t : Text) :
    readEscape ('u' :: (digits ++ t)) = .ok (Char.ofNat (hexNumber digits), 5) := by
  have hsingle : hexNumber digits < 0xD800 ∨ 0xDBFF < hexNumber digits := by
    rw [IsHigh] at hhigh
    omega
  rw [IsLow] at hlow
  rw [readEscape, readUnicode, readHex_append h, ok_bind, if_neg hlow, if_pos hsingle]
  rfl

lemma readEscape_pair {high low : Text} (h : IsHex high) (hhigh : IsHigh (hexNumber high)) (h' : IsHex low)
    (hlow : IsLow (hexNumber low)) (t : Text) :
    readEscape ('u' :: (high ++ '\\' :: 'u' :: (low ++ t)))
      = .ok (pairChar (hexNumber high) (hexNumber low), 11) := by
  rw [IsHigh] at hhigh
  rw [IsLow] at hlow
  have hfirst : ¬ (0xDC00 ≤ hexNumber high ∧ hexNumber high ≤ 0xDFFF) := by omega
  have hsingle : ¬ (hexNumber high < 0xD800 ∨ 0xDBFF < hexNumber high) := by omega
  have hsecond : ¬ (hexNumber low < 0xDC00 ∨ 0xDFFF < hexNumber low) := by omega
  have hunicode : readUnicode (high ++ '\\' :: 'u' :: (low ++ t))
      = .ok (pairChar (hexNumber high) (hexNumber low), 10) := by
    rw [readUnicode, readHex_append h, ok_bind, if_neg hfirst, if_neg hsingle, h.drop_append]
    simp only [readHex_append h', ok_bind, if_neg hsecond]
    rfl
  rw [readEscape, hunicode]
  rfl

/-- A string is read up to the quote that ends it, if it stands for a text. -/
lemma readChars_append {signs : List Sign} {s : Text} (h : textOf? signs = some s) (rest : Text) :
    readChars (signs.flatMap Sign.text ++ '"' :: rest) = .ok (s, rest) := by
  fun_induction textOf? signs generalizing s with
  | case1 =>
    obtain rfl := Option.some.inj h
    rw [List.flatMap_nil, List.nil_append, readChars, if_pos rfl]
  | case2 c hc signs ih =>
    obtain ⟨s, hs, rfl⟩ := Option.map_eq_some_iff.mp h
    exact readChars_cons hc.2.1 hc.2.2 hc.1 (ih hs)
  | case3 letter c hletter signs ih =>
    obtain ⟨s, hs, rfl⟩ := Option.map_eq_some_iff.mp h
    exact readChars_backslash (readEscape_short hletter _) (ih hs)
  | case4 => cases h
  | case5 high hhex _ hhigh low hhex' signs hlow ih =>
    obtain ⟨s, hs, rfl⟩ := Option.map_eq_some_iff.mp h
    rw [List.flatMap_cons, List.flatMap_cons, Sign.text, Sign.text]
    simp only [List.cons_append, List.append_assoc]
    refine readChars_backslash (readEscape_pair hhex hhigh hhex' hlow _) ?_
    rw [List.drop_succ_cons, hhex.drop_pair_append hhex', ih hs]
  | case6 => cases h
  | case7 => cases h
  | case8 digits hhex signs hlow hhigh ih =>
    obtain ⟨s, hs, rfl⟩ := Option.map_eq_some_iff.mp h
    rw [List.flatMap_cons, Sign.text]
    simp only [List.cons_append, List.append_assoc]
    refine readChars_backslash (readEscape_unicode hhex hhigh hlow _) ?_
    rw [List.drop_succ_cons, hhex.drop_append, ih hs]

lemma exists_signs_of_readChars {t s rest : Text} (h : readChars t = .ok (s, rest)) :
    ∃ signs, textOf? signs = some s ∧ t = signs.flatMap Sign.text ++ '"' :: rest := by
  fun_induction readChars t generalizing s with
  | case1 => cases h
  | case2 r =>
    obtain ⟨rfl, rfl⟩ := Prod.mk.inj (Except.ok.inj h)
    exact ⟨[], rfl, rfl⟩
  | case3 => cases h
  | case4 r c n hescape _ ih =>
    obtain ⟨⟨s', tail⟩, hread, h⟩ := bind_eq_ok_iff.mp h
    obtain ⟨rfl, rfl⟩ := Prod.mk.inj (Except.ok.inj h)
    obtain ⟨first, htext, hfirst⟩ := exists_signs_of_readEscape hescape
    obtain ⟨signs, hsigns, hrest⟩ := ih hread
    refine ⟨first ++ signs, by rw [hfirst, hsigns]; rfl, ?_⟩
    rw [htext, hrest, List.flatMap_append, List.append_assoc]
  | case5 => cases h
  | case6 c r hquote hbackslash hcontrol ih =>
    obtain ⟨⟨s', tail⟩, hread, h⟩ := bind_eq_ok_iff.mp h
    obtain ⟨rfl, rfl⟩ := Prod.mk.inj (Except.ok.inj h)
    obtain ⟨signs, hsigns, rfl⟩ := ih hread
    exact ⟨.plain c ⟨hcontrol, hquote, hbackslash⟩ :: signs, by rw [textOf?, hsigns]; rfl, rfl⟩

/-- Behind its first quote, a string is read exactly if it stands for a text. -/
lemma readString_eq_ok_iff {t rest : Text} {s : String} :
    readString t = .ok (s, rest) ↔
      ∃ signs, (textOf? signs).map String.ofList = some s ∧ t = signs.flatMap Sign.text ++ '"' :: rest := by
  constructor
  · intro h
    obtain ⟨⟨chars, tail⟩, hread, h⟩ := bind_eq_ok_iff.mp h
    obtain ⟨rfl, rfl⟩ := Prod.mk.inj (Except.ok.inj h)
    obtain ⟨signs, hsigns, ht⟩ := exists_signs_of_readChars hread
    exact ⟨signs, by rw [hsigns]; rfl, ht⟩
  · rintro ⟨signs, h, rfl⟩
    obtain ⟨chars, hchars, rfl⟩ := Option.map_eq_some_iff.mp h
    rw [readString, readChars_append hchars]
    rfl

/-! ### Reading numbers -/

/-- Digits are cut off before a text that does not go on with them. -/
lemma span_isDigit {t rest : Text} (ht : ∀ c ∈ t, c.isDigit = true) (hrest : rest.head?.any Char.isDigit = false) :
    (t ++ rest).takeWhile Char.isDigit = t ∧ (t ++ rest).dropWhile Char.isDigit = rest := by
  rw [List.takeWhile_append_of_pos ht, List.dropWhile_append_of_pos ht]
  cases rest with
  | nil => simp
  | cons c rest => simpa using hrest

lemma IsDigits.exists_eq_cons {t : Text} (h : IsDigits t) : ∃ c r, t = c :: r ∧ c.isDigit = true := by
  obtain ⟨c, r, rfl⟩ := List.exists_cons_of_ne_nil h.1
  exact ⟨c, r, rfl, h.2 c List.mem_cons_self⟩

lemma bind_pair_eq_map {α β : Type} (x : Except Fault α) (u : β) :
    (do let y ← x; return (y, u)) = x.map (·, u) := by
  cases x <;> rfl

/-- Reads what stands behind the integer of a number. -/
def readBehind (negative : Bool) (digits rest : Text) : Except Fault (Number × Text) :=
  let (word, n) := absorb 0 digits
  let point : Int := digits.length - n
  match rest with
  | '.' :: r => readFraction negative word point r
  | _ =>
    if startsExponent rest then readExponent negative word point (rest.drop 1)
    else if n = digits.length then .ok (whole negative word, rest)
    else do
      let number ← assemble negative word point
      return (number, rest)

section Behind

variable {negative : Bool} {word : Nat} {point : Int} {rest : Text}

lemma exponentSign_append_digits (e : Exponent) (rest : Text) :
    exponentSign (e.sign.toList ++ (e.digits ++ rest)) = (decide (e.sign = some '-'), e.digits ++ rest) := by
  obtain ⟨c, r, hdigits, hc⟩ := e.isDigits.exists_eq_cons
  have hplus := ne_of_isDigit hc (d := '+') rfl
  have hminus := ne_of_isDigit hc (d := '-') rfl
  cases hsign : e.sign with
  | none => simp [exponentSign, hdigits, hplus, hminus]
  | some d =>
    rcases e.isSign d hsign with rfl | rfl
    · simp [exponentSign]
    · simp [exponentSign]

lemma readExponent_append_digits (e : Exponent) (hrest : rest.head?.any Char.isDigit = false) :
    readExponent negative word point (e.sign.toList ++ (e.digits ++ rest))
      = (e.number negative word point).map (·, rest) := by
  obtain ⟨c, r, hdigits, hc⟩ := e.isDigits.exists_eq_cons
  obtain ⟨htake, hdrop⟩ := span_isDigit e.isDigits.2 hrest
  rw [readExponent_eq, exponentSign_append_digits, Exponent.number]
  rw [hdigits, List.cons_append] at htake hdrop ⊢
  rw [readPower, if_neg (by simpa using hc), htake, hdrop, bind_pair_eq_map]
  simp only [decide_eq_true_eq, ← decide_not]
  split_ifs <;> rfl

lemma startsExponent_text_append (e : Exponent) (rest : Text) : startsExponent (e.text ++ rest) = true := by
  rcases e.isLetter with h | h <;> simp [Exponent.text, startsExponent, h]

lemma drop_one_text_append (e : Exponent) (rest : Text) :
    (e.text ++ rest).drop 1 = e.sign.toList ++ (e.digits ++ rest) := by
  simp [Exponent.text]

lemma head?_text_append_any_isDigit (e : Exponent) (rest : Text) :
    (e.text ++ rest).head?.any Char.isDigit = false := by
  rcases e.isLetter with h | h <;> simp [Exponent.text, h]

/-- Behind the last digit of a number, its exponent is read if it has one. -/
lemma readFraction_append_digits {digits : Text} (hdigits : IsDigits digits) (exponent : Option Exponent)
    (hdigit : rest.head?.any Char.isDigit = false) (hexponent : exponent = none → startsExponent rest = false) :
    readFraction negative word point (digits ++ (exponent.elim [] Exponent.text ++ rest))
      = ((match exponent with
          | some e => e.number negative (absorb word digits).1 (point - (absorb word digits).2)
          | none => assemble negative (absorb word digits).1 (point - (absorb word digits).2)).map (·, rest)) := by
  cases exponent with
  | none =>
    obtain ⟨htake, hdrop⟩ := span_isDigit hdigits.2 hdigit
    simp only [Option.elim_none, List.nil_append, readFraction, htake, hdrop]
    rw [if_neg (by simpa using hdigits.1), if_neg (by simp [hexponent rfl]), bind_pair_eq_map]
  | some e =>
    obtain ⟨htake, hdrop⟩ := span_isDigit hdigits.2 (head?_text_append_any_isDigit e rest)
    simp only [Option.elim_some, readFraction, htake, hdrop]
    rw [if_neg (by simpa using hdigits.1), if_pos (startsExponent_text_append e rest), drop_one_text_append,
      readExponent_append_digits e hdigit]

lemma head?_tail_append_any_isDigit (n : Numeral) (hrest : rest.head?.any Char.isDigit = false) :
    (n.tail ++ rest).head?.any Char.isDigit = false := by
  rw [Numeral.tail]
  cases n.fraction with
  | some digits => rfl
  | none =>
    cases n.exponent with
    | none => exact hrest
    | some e => exact head?_text_append_any_isDigit e rest

lemma readNumber_append_of_isDigits {digits u : Text} (hdigits : IsDigits digits)
    (hzero : digits.head? = some '0' → digits = ['0']) (hu : u.head?.any Char.isDigit = false) :
    readNumber negative (digits ++ u) = readBehind negative digits u := by
  obtain ⟨c, r, rfl, hc⟩ := hdigits.exists_eq_cons
  obtain ⟨htake, hdrop⟩ := span_isDigit hdigits.2 hu
  have hleading : ¬ (c = '0' ∧ (r ++ u).head?.any Char.isDigit = true) := by
    rintro ⟨rfl, hany⟩
    rw [(List.cons.inj (hzero rfl)).2, List.nil_append, hu] at hany
    cases hany
  rw [List.cons_append] at htake hdrop ⊢
  rw [readNumber, if_neg (by simpa using hc), if_neg hleading, htake, hdrop]
  rfl

/-- Whether a number does not go on with the text behind it. -/
structure Numeral.EndsBefore (n : Numeral) (rest : Text) : Prop where
  digit : rest.head?.any Char.isDigit = false
  exponent : n.exponent = none → startsExponent rest = false
  point : n.fraction = none → n.exponent = none → rest.head? ≠ some '.'

lemma EndsNumber.endsBefore (h : EndsNumber rest) (n : Numeral) : n.EndsBefore rest :=
  ⟨h.1, fun _ => h.2.2, fun _ _ => h.2.1⟩

/-- A number is read from its digits, if it is in range. -/
lemma readNumber_unsigned_append (n : Numeral) (hrest : n.EndsBefore rest) :
    readNumber n.negative (n.unsigned ++ rest) = n.number.map (·, rest) := by
  have htail := head?_tail_append_any_isDigit n hrest.digit
  rw [Numeral.unsigned, List.append_assoc, readNumber_append_of_isDigits n.isDigits n.noLeadingZero htail,
    Numeral.number, Numeral.tail, List.append_assoc]
  cases hfraction : n.fraction with
  | some digits =>
    exact readFraction_append_digits (n.isFraction digits hfraction) n.exponent hrest.digit hrest.exponent
  | none =>
    cases hexponent : n.exponent with
    | some e =>
      have hstart := startsExponent_text_append e rest
      dsimp only [Option.elim_some, Option.elim_none, List.nil_append, readBehind]
      split
      · next s hs =>
        rw [hs] at hstart
        cases hstart
      · rw [if_pos hstart, drop_one_text_append, readExponent_append_digits e hrest.digit]
    | none =>
      dsimp only [Option.elim_none, List.nil_append, readBehind]
      split
      · exact absurd rfl (hrest.point hfraction hexponent)
      · rw [if_neg (by simp [hrest.exponent hexponent]), bind_pair_eq_map]
        split_ifs <;> rfl

end Behind

section Numeral

variable {negative : Bool} {word : Nat} {point : Int} {t rest : Text} {p : Number × Text} {m : Number}

/-- Every text starts with digits, maybe none. -/
lemma exists_digits (t : Text) :
    ∃ digits rest, (∀ c ∈ digits, c.isDigit = true) ∧ rest.head?.any Char.isDigit = false ∧ t = digits ++ rest :=
  ⟨_, _, fun _ => List.mem_takeWhile_imp, head?_dropWhile_any_isDigit t, List.takeWhile_append_dropWhile.symm⟩

lemma exists_sign (t : Text) :
    ∃ sign : Option Char, (∀ c ∈ sign, c = '+' ∨ c = '-') ∧ t = sign.toList ++ (exponentSign t).2 := by
  unfold exponentSign
  split
  · exact ⟨some '+', by simp, rfl⟩
  · exact ⟨some '-', by simp, rfl⟩
  · exact ⟨none, by simp, rfl⟩

lemma exists_exponent_of_readExponent (hstart : startsExponent t = true)
    (h : readExponent negative word point (t.drop 1) = .ok p) :
    ∃ (e : Exponent) (rest : Text), rest.head?.any Char.isDigit = false ∧ t = e.text ++ rest := by
  cases t with
  | nil => cases hstart
  | cons letter t =>
    have hletter : letter = 'e' ∨ letter = 'E' := by simpa [startsExponent] using hstart
    rw [List.drop_succ_cons, List.drop_zero, readExponent_eq] at h
    obtain ⟨sign, hsign, ht⟩ := exists_sign t
    generalize (exponentSign t).2 = u at h ht
    cases u with
    | nil => cases h
    | cons c r =>
      obtain ⟨digits, rest, hdigits, hrest, rfl⟩ := exists_digits r
      by_cases hc : c.isDigit = true
      · refine ⟨⟨letter, sign, c :: digits, hletter, hsign, List.cons_ne_nil c digits, ?_⟩, rest, hrest, ?_⟩
        · exact List.forall_mem_cons.mpr ⟨hc, hdigits⟩
        · simp [Exponent.text, ht]
      · rw [readPower, if_pos (by simpa using hc)] at h
        cases h

/-- The exponent that a text starts with, if a reader goes on with one only where there is one. -/
lemma exists_exponent_of_ite {x : Except Fault (Number × Text)}
    (h : (if startsExponent t then readExponent negative word point (t.drop 1) else x) = .ok p)
    (hdigit : t.head?.any Char.isDigit = false) :
    ∃ (exponent : Option Exponent) (rest : Text), t = exponent.elim [] Exponent.text ++ rest
      ∧ rest.head?.any Char.isDigit = false ∧ (exponent = none → startsExponent rest = false ∧ rest = t) := by
  split_ifs at h with hstart
  · obtain ⟨e, rest, hrest, rfl⟩ := exists_exponent_of_readExponent hstart h
    exact ⟨some e, rest, rfl, hrest, by simp⟩
  · exact ⟨none, t, rfl, hdigit, fun _ => ⟨by simpa using hstart, rfl⟩⟩

lemma exists_numeral_of_readBehind {digits : Text} (hdigits : IsDigits digits)
    (hzero : digits.head? = some '0' → digits = ['0']) (hdigit : t.head?.any Char.isDigit = false)
    (h : readBehind negative digits t = .ok p) :
    ∃ (n : Numeral) (rest : Text), n.negative = negative ∧ n.EndsBefore rest ∧ digits ++ t = n.unsigned ++ rest := by
  dsimp only [readBehind] at h
  split at h
  · next r =>
    obtain ⟨fraction, u, hfraction, hu, rfl⟩ := exists_digits r
    obtain ⟨htake, hdrop⟩ := span_isDigit hfraction hu
    simp only [readFraction, htake, hdrop] at h
    split at h
    · cases h
    next hne =>
    obtain ⟨exponent, rest, rfl, hrest, hnone⟩ := exists_exponent_of_ite h hu
    refine ⟨⟨negative, digits, some fraction, exponent, hdigits, hzero, ?_⟩, rest, rfl, ?_, ?_⟩
    · intro t ht
      obtain rfl := Option.some.inj ht
      exact ⟨by simpa using hne, hfraction⟩
    · exact ⟨hrest, fun h => (hnone h).1, by simp⟩
    · simp [Numeral.unsigned, Numeral.tail]
  · next hpoint =>
    obtain ⟨exponent, rest, ht, hrest, hnone⟩ := exists_exponent_of_ite h hdigit
    refine ⟨⟨negative, digits, none, exponent, hdigits, hzero, by simp⟩, rest, rfl, ?_, ?_⟩
    · refine ⟨hrest, fun h => (hnone h).1, fun _ h hhead => ?_⟩
      obtain ⟨r, hr⟩ := List.head?_eq_some_iff.mp hhead
      exact hpoint r ((hnone h).2.symm.trans hr)
    · simp [Numeral.unsigned, Numeral.tail, ht]

/-- What is read as a number is spelled as one that is in range. -/
lemma exists_numeral_of_readNumber (h : readNumber negative t = .ok (m, rest)) :
    ∃ n : Numeral, n.negative = negative ∧ t = n.unsigned ++ rest ∧ n.number = .ok m := by
  obtain ⟨n, behind, rfl, hbehind, rfl⟩ : ∃ (n : Numeral) (behind : Text), n.negative = negative
      ∧ n.EndsBefore behind ∧ t = n.unsigned ++ behind := by
    obtain ⟨c, r, rfl, hc⟩ := exists_eq_cons_of_readNumber h
    obtain ⟨digits, u, hdigits, hu, rfl⟩ := exists_digits r
    have hinteger : IsDigits (c :: digits) :=
      ⟨List.cons_ne_nil c digits, List.forall_mem_cons.mpr ⟨hc, hdigits⟩⟩
    have hzero : (c :: digits).head? = some '0' → c :: digits = ['0'] := by
      intro hhead
      obtain rfl := Option.some.inj hhead
      cases digits with
      | nil => rfl
      | cons d digits =>
        have hd := hdigits d List.mem_cons_self
        rw [readNumber, if_neg (by simp), if_pos (by simp [hd])] at h
        cases h
    rw [← List.cons_append, readNumber_append_of_isDigits hinteger hzero hu] at h
    exact exists_numeral_of_readBehind hinteger hzero hu h
  rw [readNumber_unsigned_append n hbehind] at h
  obtain ⟨m', hm, h⟩ := map_eq_ok_iff.mp h
  obtain ⟨rfl, rfl⟩ := Prod.mk.inj h
  exact ⟨n, rfl, rfl, hm⟩

end Numeral


/-! ### Numbers out of range -/

section Range

variable {x : Finite} {e : Int} {fuel : Nat} {f : Fault} {negative : Bool} {word : Nat} {point : Int}

lemma eq_of_go_eq_error (h : scale.go fuel x e = .error f) : f = .numberOutOfRange := by
  induction fuel generalizing x e with
  | zero => cases h
  | succ fuel ih =>
    rw [scale.go] at h
    split_ifs at h
    · split at h
      · cases h
      · exact (Except.error.inj h).symm
    · exact (Except.error.inj h).symm
    · exact ih h

lemma eq_of_assemble_eq_error (h : assemble negative word e = .error f) : f = .numberOutOfRange := by
  rcases bind_eq_error_iff.mp h with h | ⟨x, -, h⟩
  · exact eq_of_go_eq_error h
  · cases h

lemma Exponent.eq_of_number_eq_error {e : Exponent} (h : e.number negative word point = .error f) :
    f = .numberOutOfRange := by
  rw [Exponent.number] at h
  split_ifs at h
  · exact (Except.error.inj h).symm
  all_goals exact eq_of_assemble_eq_error h

/-- What is spelled as a number stands for one, unless it is out of range. -/
lemma Numeral.eq_of_number_eq_error {n : Numeral} (h : n.number = .error f) : f = .numberOutOfRange := by
  simp only [Numeral.number] at h
  split at h
  · split at h
    · exact Exponent.eq_of_number_eq_error h
    · exact eq_of_assemble_eq_error h
  · split at h
    · exact Exponent.eq_of_number_eq_error h
    · split_ifs at h
      exact eq_of_assemble_eq_error h

end Range

end Courier.Json
