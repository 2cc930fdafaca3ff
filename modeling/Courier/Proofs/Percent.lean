import Courier.Text.Percent
import Mathlib

/-!
# Laws of percent-encoding

Decoding undoes encoding when `%` itself is escaped, and sees through an encoding that leaves escapes
alone. A text decodes to a full stop first exactly if it starts with one or with one of its escapes,
which is what makes dot segments recognisable by their bytes.
-/

namespace Courier

/-! ### UTF-8 -/

lemma Text.utf8_injective : Function.Injective Text.utf8 := by
  intro s t h
  have hbytes : (String.ofList s).toByteArray = (String.ofList t).toByteArray := by
    simp only [String.toByteArray_ofList, List.utf8Encode]
    exact congrArg List.toByteArray h
  exact String.ofList_injective (String.toByteArray_inj.mp hbytes)

/-- A character of ASCII is one byte. -/
lemma utf8EncodeChar_of_lt {c : Char} (hc : c.toNat < 0x80) :
    String.utf8EncodeChar c = [UInt8.ofNat c.toNat] := by
  have hval : c.val.toNat = c.toNat := rfl
  rw [String.utf8EncodeChar, if_pos (by omega), hval]

/-- No byte of another character is one of ASCII. -/
lemma le_of_mem_utf8EncodeChar {c : Char} (hc : 0x80 ≤ c.toNat) :
    ∀ b ∈ String.utf8EncodeChar c, 0x80 ≤ b.toNat := by
  have hval : c.val.toNat = c.toNat := rfl
  intro b hb
  simp only [String.utf8EncodeChar, hval] at hb
  split_ifs at hb
  · omega
  all_goals
    simp [← UInt8.toNat_inj] at hb
    omega

/-- The byte of a full stop starts no other character. -/
lemma utf8EncodeChar_append_eq_dot_cons {c : Char} {bs bs' : Bytes} :
    String.utf8EncodeChar c ++ bs = 0x2E :: bs' ↔ c = '.' ∧ bs = bs' := by
  constructor
  · intro h
    simp only [String.utf8EncodeChar] at h
    split_ifs at h with h1 h2 h3
    · simp only [List.cons_append, List.nil_append, List.cons.injEq] at h
      have hbyte := congrArg UInt8.toNat h.1
      simp at hbyte
      refine ⟨Char.ext (UInt32.toNat_inj.mp ?_), h.2⟩
      simp at h1 ⊢
      omega
    all_goals
      simp only [List.cons_append, List.cons.injEq] at h
      have hbyte := congrArg UInt8.toNat h.1
      simp at hbyte
      omega
  · rintro ⟨rfl, rfl⟩
    rfl

namespace Percent

/-! ### Hexadecimal digits -/

lemma hexValue?_hexDigit : ∀ n < 16, hexValue? (hexDigit n) = some n := by decide

lemma hexValue?_lt {c : Char} {n : Nat} (h : hexValue? c = some n) : n < 16 := by
  simp only [hexValue?, Char.le_def] at h
  split_ifs at h <;> simp at h <;> simp [UInt32.le_iff_toNat_le] at * <;> omega

lemma hexValue?_eq_two_iff {c : Char} : hexValue? c = some 2 ↔ c = '2' := by
  constructor
  · intro h
    simp only [hexValue?, Char.le_def] at h
    refine Char.ext (UInt32.toNat_inj.mp ?_)
    split_ifs at h <;> simp at h <;> simp [UInt32.le_iff_toNat_le] at * <;> omega
  · rintro rfl
    decide

lemma hexValue?_eq_fourteen_iff {c : Char} : hexValue? c = some 14 ↔ c = 'E' ∨ c = 'e' := by
  constructor
  · intro h
    simp only [hexValue?, Char.le_def] at h
    rw [← Char.toNat_inj, ← Char.toNat_inj]
    split_ifs at h <;> simp at h <;> simp [UInt32.le_iff_toNat_le] at * <;> omega
  · rintro (rfl | rfl) <;> decide

/-! ### Decoding -/

@[simp] lemma decode_nil : decode [] = [] := by rw [decode]

lemma decode_cons_of_ne {c : Char} (hc : c ≠ '%') (t : Text) :
    decode (c :: t) = String.utf8EncodeChar c ++ decode t := by
  rw [decode, if_neg hc]

/-- A text without `%` stands for itself. -/
lemma decode_eq_utf8 {t : Text} (h : '%' ∉ t) : decode t = t.utf8 := by
  induction t with
  | nil => exact decode_nil
  | cons c t ih =>
    obtain ⟨hc, ht⟩ := not_or.mp (List.mem_cons.not.mp h)
    rw [decode_cons_of_ne (Ne.symm hc), ih ht, Text.utf8_cons]

lemma decode_percent_of_escaped {t : Text} {b : UInt8} (h : escaped? t = some b) :
    decode ('%' :: t) = b :: decode (t.drop 2) := by
  rw [decode, if_pos rfl, h]

lemma decode_percent_of_not_escaped {t : Text} (h : escaped? t = none) :
    decode ('%' :: t) = String.utf8EncodeChar '%' ++ decode t := by
  rw [decode, if_pos rfl, h]

lemma escaped?_eq_some_iff {t : Text} {b : UInt8} :
    escaped? t = some b ↔ ∃ h l r high low, t = h :: l :: r ∧ hexValue? h = some high
      ∧ hexValue? l = some low ∧ UInt8.ofNat (high * 16 + low) = b := by
  match t with
  | [] | [_] => simp [escaped?]
  | h :: l :: r =>
    simp only [escaped?, Option.bind_eq_bind, Option.bind_eq_some_iff, Option.pure_def,
      Option.some.injEq, List.cons.injEq]
    constructor
    · rintro ⟨high, hh, low, hl, hb⟩
      exact ⟨h, l, r, high, low, ⟨rfl, rfl, rfl⟩, hh, hl, hb⟩
    · rintro ⟨_, _, _, high, low, ⟨rfl, rfl, rfl⟩, hh, hl, hb⟩
      exact ⟨high, hh, low, hl, hb⟩

lemma decode_escape (b : UInt8) (t : Text) : decode (escape b ++ t) = b :: decode t := by
  have hb := b.toNat_lt
  have hescaped : escaped? (hexDigit (b.toNat / 16) :: hexDigit (b.toNat % 16) :: t) = some b := by
    rw [escaped?_eq_some_iff]
    refine ⟨_, _, _, _, _, rfl, hexValue?_hexDigit _ (by omega),
      hexValue?_hexDigit _ (by omega), ?_⟩
    rw [Nat.div_add_mod' b.toNat 16, UInt8.ofNat_toNat]
  exact decode_percent_of_escaped hescaped

lemma decode_escapes (bs : Bytes) (t : Text) :
    decode (bs.flatMap escape ++ t) = bs ++ decode t := by
  induction bs with
  | nil => rfl
  | cons b bs ih => rw [List.flatMap_cons, List.append_assoc, decode_escape, ih, List.cons_append]

@[simp] lemma decode_eq_nil_iff {t : Text} : decode t = [] ↔ t = [] := by
  match t with
  | [] => simp
  | c :: t =>
    rw [decode]
    split_ifs
    · split <;> simp [String.utf8EncodeChar_ne_nil]
    · simp [String.utf8EncodeChar_ne_nil]

/-- The spellings of a full stop. -/
lemma decode_eq_dot_cons_iff {t : Text} {bs : Bytes} :
    decode t = 0x2E :: bs ↔
      ∃ r, (t = '.' :: r ∨ t = '%' :: '2' :: 'E' :: r ∨ t = '%' :: '2' :: 'e' :: r)
        ∧ decode r = bs := by
  constructor
  · intro h
    match t with
    | [] => simp at h
    | c :: t =>
      by_cases hc : c = '%'
      · subst hc
        cases hesc : escaped? t with
        | none =>
          rw [decode_percent_of_not_escaped hesc, utf8EncodeChar_append_eq_dot_cons] at h
          exact absurd h.1 (by decide)
        | some b =>
          rw [decode_percent_of_escaped hesc, List.cons.injEq] at h
          obtain ⟨a, l, r, high, low, rfl, ha, hl, hb⟩ := escaped?_eq_some_iff.mp hesc
          have hhigh := hexValue?_lt ha
          have hlow := hexValue?_lt hl
          have hvalue := congrArg UInt8.toNat (hb.trans h.1)
          simp at hvalue
          obtain rfl : high = 2 := by omega
          obtain rfl : low = 14 := by omega
          obtain rfl := hexValue?_eq_two_iff.mp ha
          refine ⟨r, Or.inr ?_, h.2⟩
          rcases hexValue?_eq_fourteen_iff.mp hl with rfl | rfl <;> simp
      · rw [decode_cons_of_ne hc, utf8EncodeChar_append_eq_dot_cons] at h
        exact ⟨t, Or.inl (by rw [h.1]), h.2⟩
  · rintro ⟨r, rfl | rfl | rfl, rfl⟩
    · rw [decode_cons_of_ne (by decide), utf8EncodeChar_append_eq_dot_cons]
      exact ⟨rfl, rfl⟩
    · exact decode_percent_of_escaped rfl
    · exact decode_percent_of_escaped rfl

/-! ### Encoding -/

section Encode

variable {keep : Char → Bool}

lemma encodeChar_of_keep {c : Char} (h : keep c) : encodeChar keep c = [c] := if_pos h

lemma encodeChar_of_not_keep {c : Char} (h : keep c = false) :
    encodeChar keep c = (String.utf8EncodeChar c).flatMap escape := by
  simp [encodeChar, h]

lemma exists_encodeChar_eq_percent_cons {c : Char} (h : keep c = false) :
    ∃ r, encodeChar keep c = '%' :: r := by
  obtain ⟨b, bs, hbytes⟩ := List.exists_cons_of_ne_nil (String.utf8EncodeChar_ne_nil (c := c))
  rw [encodeChar_of_not_keep h, hbytes]
  exact ⟨_, rfl⟩

lemma encode_eq_self {t : Text} (h : ∀ c ∈ t, keep c) : encode keep t = t := by
  induction t with
  | nil => rfl
  | cons c t ih =>
    rw [encode_cons, encodeChar_of_keep (h c List.mem_cons_self),
      ih fun d hd => h d (List.mem_cons_of_mem c hd)]
    rfl

@[simp] lemma encode_eq_nil_iff {t : Text} : encode keep t = [] ↔ t = [] := by
  match t with
  | [] => simp
  | c :: t =>
    cases hc : keep c with
    | true => simp [encodeChar_of_keep hc]
    | false =>
      obtain ⟨r, hr⟩ := exists_encodeChar_eq_percent_cons hc
      simp [hr]

/-- What holds of the kept characters, of `%` and of the digits holds of everything that is
written. -/
lemma forall_mem_encode {P : Char → Prop} {t : Text} (hkeep : ∀ c ∈ t, keep c → P c)
    (hpercent : P '%') (hdigit : ∀ n < 16, P (hexDigit n)) : ∀ c ∈ encode keep t, P c := by
  intro c hc
  obtain ⟨d, hdt, hd⟩ := List.mem_flatMap.mp hc
  cases hkd : keep d with
  | true =>
    rw [encodeChar_of_keep hkd, List.mem_singleton] at hd
    exact hd ▸ hkeep d hdt hkd
  | false =>
    rw [encodeChar_of_not_keep hkd] at hd
    obtain ⟨b, _, hb⟩ := List.mem_flatMap.mp hd
    have hlt := b.toNat_lt
    simp only [escape, List.mem_cons, List.not_mem_nil, or_false] at hb
    rcases hb with rfl | rfl | rfl
    · exact hpercent
    · exact hdigit _ (by omega)
    · exact hdigit _ (by omega)

lemma decode_encodeChar_append (hpercent : keep '%' = false) (c : Char) (t : Text) :
    decode (encodeChar keep c ++ t) = String.utf8EncodeChar c ++ decode t := by
  cases hc : keep c with
  | true =>
    have hne : c ≠ '%' := fun h => by simp [h, hpercent] at hc
    rw [encodeChar_of_keep hc, List.singleton_append, decode_cons_of_ne hne]
  | false => rw [encodeChar_of_not_keep hc, decode_escapes]

lemma decode_encode_append (hpercent : keep '%' = false) (t rest : Text) :
    decode (encode keep t ++ rest) = t.utf8 ++ decode rest := by
  induction t with
  | nil => rfl
  | cons c t ih =>
    rw [encode_cons, List.append_assoc, decode_encodeChar_append hpercent, ih, Text.utf8_cons,
      List.append_assoc]

/-- Decoding undoes an encoding that escapes `%`. -/
lemma decode_encode (hpercent : keep '%' = false) (t : Text) :
    decode (encode keep t) = t.utf8 := by
  simpa using decode_encode_append hpercent t []

end Encode

/-! ### Encodings that leave escapes alone -/

/-- Characters among which are those of every escape. -/
structure KeepsEscapes (keep : Char → Bool) : Prop where
  percent : keep '%'
  digit : ∀ c, (hexValue? c).isSome → keep c

section KeepsEscapes

variable {keep : Char → Bool}

lemma hexValue?_of_not_keep (hkeep : KeepsEscapes keep) {c : Char} (hc : keep c = false) :
    hexValue? c = none := by
  by_contra h
  have := hkeep.digit c (Option.isSome_iff_ne_none.mpr h)
  simp [hc] at this

lemma escaped?_cons_eq_none {h : Char} (hh : hexValue? h = none) (t : Text) :
    escaped? (h :: t) = none := by
  cases t <;> simp [escaped?, hh]

lemma escaped?_cons_cons_eq_none {l : Char} (hl : hexValue? l = none) (h : Char) (t : Text) :
    escaped? (h :: l :: t) = none := by
  simp [escaped?, hl]

lemma escaped?_encode (hkeep : KeepsEscapes keep) (t : Text) :
    escaped? (encode keep t) = escaped? t := by
  have hpercent : hexValue? '%' = none := by decide
  match t with
  | [] => rfl
  | h :: t =>
    cases hh : keep h with
    | false =>
      obtain ⟨r, hr⟩ := exists_encodeChar_eq_percent_cons hh
      rw [encode_cons, hr, List.cons_append, escaped?_cons_eq_none hpercent,
        escaped?_cons_eq_none (hexValue?_of_not_keep hkeep hh)]
    | true =>
      rw [encode_cons, encodeChar_of_keep hh, List.singleton_append]
      match t with
      | [] => rfl
      | l :: t =>
        cases hl : keep l with
        | true => rw [encode_cons, encodeChar_of_keep hl]; rfl
        | false =>
          obtain ⟨r, hr⟩ := exists_encodeChar_eq_percent_cons hl
          rw [encode_cons, hr, List.cons_append, escaped?_cons_cons_eq_none hpercent,
            escaped?_cons_cons_eq_none (hexValue?_of_not_keep hkeep hl)]

/-- What such an encoding writes stands for the same bytes. -/
lemma decode_encode_of_keepsEscapes (hkeep : KeepsEscapes keep) (t : Text) :
    decode (encode keep t) = decode t := by
  fun_induction decode t with
  | case1 => simp
  | case2 rest b hesc ih =>
    obtain ⟨h, l, r, high, low, rfl, hh, hl, -⟩ := escaped?_eq_some_iff.mp hesc
    have hkh : keep h := hkeep.digit h (by simp [hh])
    have hkl : keep l := hkeep.digit l (by simp [hl])
    have hesc' := (escaped?_encode hkeep (h :: l :: r)).trans hesc
    rw [encode_cons, encodeChar_of_keep hkeep.percent, List.singleton_append,
      decode_percent_of_escaped hesc', ← ih]
    simp [encodeChar_of_keep hkh, encodeChar_of_keep hkl]
  | case3 rest hesc ih =>
    have hesc' := (escaped?_encode hkeep rest).trans hesc
    rw [encode_cons, encodeChar_of_keep hkeep.percent, List.singleton_append,
      decode_percent_of_not_escaped hesc', ih]
  | case4 c rest hc ih =>
    rw [encode_cons]
    cases hkc : keep c with
    | true => rw [encodeChar_of_keep hkc, List.singleton_append, decode_cons_of_ne hc, ih]
    | false => rw [encodeChar_of_not_keep hkc, decode_escapes, ih]

end KeepsEscapes

end Percent
end Courier
