import Courier.Proofs.Percent
import Courier.Text.Form
import Mathlib

/-!
# Laws of form encoding

Reading the UTF-8 bytes of a text gives the text back, and decoding a name or a value in form encoding
undoes its encoding. As no encoded text holds `&` or `=`, entries that are added to what is written
already are read back one by one, behind the pairs that were there.
-/

namespace Courier
namespace Utf8

/-! ### Reading UTF-8 -/

lemma sequences_cons (b : UInt8) (bs : Bytes) :
    sequences (b :: bs) = (sequence b bs).1 :: sequences (bs.drop (sequence b bs).2) := by
  rw [sequences]

lemma announced_eq (b : UInt8) :
    announced b = if b.toNat < 0x80 then 1 else if b.toNat < 0xC2 then 0
      else if b.toNat < 0xE0 then 2 else if b.toNat < 0xF0 then 3
      else if b.toNat < 0xF5 then 4 else 0 := by
  simp [announced, UInt8.lt_iff_toNat_lt]

/-- A continuation byte with a payload. -/
def tailByte (n : Nat) : UInt8 := UInt8.ofNat (n % 0x40 + 0x80)

lemma toNat_tailByte (n : Nat) : (tailByte n).toNat = n % 0x40 + 0x80 := by
  simp [tailByte]
  omega

lemma isTail_tailByte (n : Nat) : isTail (tailByte n) = true := by
  have h := toNat_tailByte n
  simp [isTail, UInt8.le_iff_toNat_le, h]
  omega

lemma tailBits_tailByte (n : Nat) : tailBits (tailByte n) = n % 0x40 := by
  rw [tailBits, toNat_tailByte]
  omega

/-- The second byte of a character is in the range that its first byte leaves. -/
lemma isSecond_tailByte {first : UInt8} {n : Nat} (hE0 : first.toNat = 0xE0 → 0x20 ≤ n % 0x40)
    (hED : first.toNat = 0xED → n % 0x40 < 0x20) (hF0 : first.toNat = 0xF0 → 0x10 ≤ n % 0x40)
    (hF4 : first.toNat = 0xF4 → n % 0x40 < 0x10) : isSecond first (tailByte n) = true := by
  have h := toNat_tailByte n
  have ht := isTail_tailByte n
  simp only [isSecond, ← UInt8.toNat_inj, UInt8.le_iff_toNat_le, h]
  split_ifs <;> simp at * <;> grind

section Sequence

variable {first : UInt8} {n : Nat}

lemma sequence_one (hfirst : first.toNat = n) (hhigh : n < 0x80) (bs : Bytes) :
    sequence first bs = (some (Char.ofNat n), 0) := by
  have hannounced : announced first = 1 := by
    rw [announced_eq, if_pos (by omega)]
  simp [sequence, hannounced, hfirst]

lemma sequence_two (hfirst : first.toNat = n / 64 + 0xC0) (hlow : 0x80 ≤ n) (hhigh : n < 0x800)
    (bs : Bytes) : sequence first (tailByte n :: bs) = (some (Char.ofNat n), 1) := by
  have hannounced : announced first = 2 := by
    rw [announced_eq, if_neg (by omega), if_neg (by omega), if_pos (by omega)]
  have hsecond : isSecond first (tailByte n) = true := by
    apply isSecond_tailByte <;> omega
  have hpoint : first.toNat % 0x20 * 0x40 + tailBits (tailByte n) = n := by
    rw [tailBits_tailByte]
    omega
  simp [sequence, hannounced, hsecond, hpoint]

lemma sequence_three (hfirst : first.toNat = n / 4096 + 0xE0) (hlow : 0x800 ≤ n)
    (hhigh : n < 0x10000) (hsurrogate : n < 0xD800 ∨ 0xDFFF < n) (bs : Bytes) :
    sequence first (tailByte (n / 64) :: tailByte n :: bs) = (some (Char.ofNat n), 2) := by
  have hannounced : announced first = 3 := by
    rw [announced_eq, if_neg (by omega), if_neg (by omega), if_neg (by omega), if_pos (by omega)]
  have hsecond : isSecond first (tailByte (n / 64)) = true := by
    apply isSecond_tailByte <;> omega
  have hpoint : (first.toNat % 0x10 * 0x40 + tailBits (tailByte (n / 64))) * 0x40
      + tailBits (tailByte n) = n := by
    rw [tailBits_tailByte, tailBits_tailByte]
    omega
  simp [sequence, hannounced, hsecond, isTail_tailByte, hpoint]

lemma sequence_four (hfirst : first.toNat = n / 262144 + 0xF0) (hlow : 0x10000 ≤ n)
    (hhigh : n < 0x110000) (bs : Bytes) :
    sequence first (tailByte (n / 4096) :: tailByte (n / 64) :: tailByte n :: bs)
      = (some (Char.ofNat n), 3) := by
  have hannounced : announced first = 4 := by
    rw [announced_eq, if_neg (by omega), if_neg (by omega), if_neg (by omega), if_neg (by omega),
      if_pos (by omega)]
  have hsecond : isSecond first (tailByte (n / 4096)) = true := by
    apply isSecond_tailByte <;> omega
  have hpoint : ((first.toNat % 0x08 * 0x40 + tailBits (tailByte (n / 4096))) * 0x40
      + tailBits (tailByte (n / 64))) * 0x40 + tailBits (tailByte n) = n := by
    rw [tailBits_tailByte, tailBits_tailByte, tailBits_tailByte]
    omega
  simp [sequence, hannounced, hsecond, isTail_tailByte, hpoint]

end Sequence

/-- Reading the bytes of a character gives it back. -/
lemma sequences_utf8EncodeChar_append (c : Char) (bs : Bytes) :
    sequences (String.utf8EncodeChar c ++ bs) = some c :: sequences bs := by
  have hvalid : c.toNat < 0xD800 ∨ 0xDFFF < c.toNat ∧ c.toNat < 0x110000 := c.valid
  have hval : c.val.toNat = c.toNat := rfl
  simp only [String.utf8EncodeChar, hval]
  split_ifs with h1 h2 h3
  · have hfirst : (UInt8.ofNat c.toNat).toNat = c.toNat := by
      simp
      omega
    rw [List.singleton_append, sequences_cons, sequence_one hfirst (by omega), Char.ofNat_toNat]
    rfl
  · have hfirst : (UInt8.ofNat (c.toNat / 64 % 0x20 + 0xC0)).toNat = c.toNat / 64 + 0xC0 := by
      simp
      omega
    change sequences (_ :: tailByte c.toNat :: bs) = _
    rw [sequences_cons, sequence_two hfirst (by omega) (by omega), Char.ofNat_toNat]
    rfl
  · have hfirst : (UInt8.ofNat (c.toNat / 4096 % 0x10 + 0xE0)).toNat = c.toNat / 4096 + 0xE0 := by
      simp
      omega
    change sequences (_ :: tailByte (c.toNat / 64) :: tailByte c.toNat :: bs) = _
    rw [sequences_cons, sequence_three hfirst (by omega) (by omega) (by omega), Char.ofNat_toNat]
    rfl
  · have hfirst : (UInt8.ofNat (c.toNat / 262144 % 0x08 + 0xF0)).toNat
        = c.toNat / 262144 + 0xF0 := by
      simp
      omega
    change sequences
      (_ :: tailByte (c.toNat / 4096) :: tailByte (c.toNat / 64) :: tailByte c.toNat :: bs) = _
    rw [sequences_cons, sequence_four hfirst (by omega) (by omega), Char.ofNat_toNat]
    rfl

lemma sequences_utf8 (t : Text) : sequences t.utf8 = t.map some := by
  induction t with
  | nil => rw [Text.utf8_nil, sequences]; rfl
  | cons c t ih => rw [Text.utf8_cons, sequences_utf8EncodeChar_append, ih, List.map_cons]

/-- Reading the bytes of a text gives it back. -/
lemma decode_utf8 (t : Text) : decode t.utf8 = t := by
  rw [decode, sequences_utf8, List.map_map]
  exact List.map_id t

/-- The bytes of a text are valid. -/
lemma decode?_utf8 (t : Text) : decode? t.utf8 = some t := by
  have hpure := List.mapM_pure (m := Option) (l := t) (f := id)
  rw [List.map_id] at hpure
  rw [decode?, sequences_utf8, List.mapM_map]
  exact hpure

end Utf8

namespace Form

open Percent

/-! ### Names and values -/

@[simp] lemma encode_nil : encode [] = [] := rfl

@[simp] lemma encode_cons (c : Char) (t : Text) : encode (c :: t) = encodeChar c ++ encode t := rfl

lemma encodeChar_space : encodeChar ' ' = ['+'] := rfl

lemma encodeChar_of_ne_space {c : Char} (hc : c ≠ ' ') :
    encodeChar c = Percent.encode isUnreserved [c] := by
  rw [encodeChar, if_neg hc, Percent.encode_cons, Percent.encode_nil, List.append_nil]

lemma isUnreserved_hexDigit : ∀ n < 16, isUnreserved (hexDigit n) := by decide

/-- What holds of the unreserved characters and of the signs `+` and `%` holds of everything that is
written. -/
lemma forall_mem_encode {P : Char → Prop} (hkept : ∀ c, isUnreserved c → P c) (hplus : P '+')
    (hpercent : P '%') (t : Text) : ∀ c ∈ encode t, P c := by
  intro c hc
  obtain ⟨d, -, hd⟩ := List.mem_flatMap.mp hc
  by_cases hspace : d = ' '
  · rw [hspace, encodeChar_space, List.mem_singleton] at hd
    exact hd ▸ hplus
  · rw [encodeChar_of_ne_space hspace] at hd
    refine Percent.forall_mem_encode (fun e _ he => hkept e he) hpercent ?_ c hd
    intro n hn
    exact hkept _ (isUnreserved_hexDigit n hn)

lemma not_mem_encode {c : Char} (hkept : isUnreserved c = false) (hplus : c ≠ '+')
    (hpercent : c ≠ '%') (t : Text) : c ∉ encode t := by
  intro hc
  apply forall_mem_encode (P := (· ≠ c)) ?_ hplus.symm hpercent.symm t c hc rfl
  rintro d hd rfl
  simp [hkept] at hd

lemma amp_not_mem_encode (t : Text) : '&' ∉ encode t :=
  not_mem_encode (by decide) (by decide) (by decide) t

lemma eq_not_mem_encode (t : Text) : '=' ∉ encode t :=
  not_mem_encode (by decide) (by decide) (by decide) t

lemma encode_eq_nil_iff {t : Text} : encode t = [] ↔ t = [] := by
  cases t with
  | nil => simp
  | cons c t =>
    by_cases hspace : c = ' '
    · simp [hspace, encodeChar_space]
    · have hne : Percent.encode isUnreserved [c] ≠ [] := by
        rw [Ne, Percent.encode_eq_nil_iff]
        simp
      rw [encode_cons, encodeChar_of_ne_space hspace]
      exact iff_of_false (fun h => hne (List.append_eq_nil_iff.mp h).1) (List.cons_ne_nil c t)

lemma plus_not_mem_encode (t : Text) : '+' ∉ Percent.encode isUnreserved t := by
  intro h
  refine Percent.forall_mem_encode (P := (· ≠ '+')) ?_ (by decide) (by decide) _ h rfl
  rintro c - hc rfl
  exact absurd hc (by decide)

/-- Characters that stand for themselves once every `+` is read as a space. -/
def isPlain (c : Char) : Bool := c = ' ' || isUnreserved c

/-- Up to the sign for a space, names and values are written in percent-encoding. -/
lemma map_space_encode (t : Text) :
    (encode t).map (fun c => if c = '+' then ' ' else c) = Percent.encode isPlain t := by
  induction t with
  | nil => rfl
  | cons c t ih =>
    rw [encode_cons, List.map_append, ih, Percent.encode_cons]
    congr 1
    by_cases hspace : c = ' '
    · subst hspace
      rfl
    · have hplain : Percent.encodeChar isPlain c = encodeChar c := by
        simp [encodeChar, Percent.encodeChar, isPlain, hspace]
      rw [hplain, encodeChar_of_ne_space hspace]
      conv_rhs => rw [← List.map_id (Percent.encode isUnreserved [c])]
      apply List.map_congr_left
      intro d hd
      rw [if_neg (ne_of_mem_of_not_mem hd (plus_not_mem_encode [c])), id]

/-- Decoding undoes encoding. -/
lemma decode_encode (t : Text) : decode (encode t) = t := by
  rw [decode, map_space_encode, Percent.decode_encode (by decide), Utf8.decode_utf8]

/-! ### Entries -/

/-- The pair that an entry is read back as. An empty name without a value leaves none. -/
def pair? (name : Text) (value : Option Text) : Option (Text × Text) :=
  if name = [] ∧ value = none then none else some (name, value.getD [])

lemma parse_append (s t : Text) : parse (s ++ '&' :: t) = parse s ++ parse t := by
  rw [parse, List.splitOn_append_cons_self, List.filter_append, List.map_append]
  rfl

@[simp] lemma parse_nil : parse [] = [] := rfl

lemma parse_of_ne_nil {t : Text} (hamp : '&' ∉ t) (hne : t ≠ []) : parse t = [parseEntry t] := by
  rw [parse, List.splitOn_eq_singleton hamp]
  simp [hne]

lemma parseEntry_encode (t : Text) : parseEntry (encode t) = (t, []) := by
  have hkept : ∀ c ∈ encode t, decide (c ≠ '=') = true := by
    intro c hc
    exact decide_eq_true (ne_of_mem_of_not_mem hc (eq_not_mem_encode t))
  have hempty : decode [] = [] := decode_encode []
  rw [parseEntry, List.takeWhile_eq_self_iff.mpr hkept, List.dropWhile_eq_nil_iff.mpr hkept,
    decode_encode, List.drop_nil, hempty]

lemma parseEntry_encode_append (s t : Text) :
    parseEntry (encode s ++ '=' :: encode t) = (s, t) := by
  have hkept : ∀ c ∈ encode s, decide (c ≠ '=') = true := by
    intro c hc
    exact decide_eq_true (ne_of_mem_of_not_mem hc (eq_not_mem_encode s))
  rw [parseEntry, List.takeWhile_append_of_pos hkept, List.dropWhile_append_of_pos hkept]
  simp [decode_encode]

/-- One entry is read back. -/
lemma parse_encodeEntry (name : Text) (value : Option Text) :
    parse (encodeEntry name value) = (pair? name value).toList := by
  cases value with
  | none =>
    by_cases hname : name = []
    · subst hname
      rfl
    · have hne : encode name ≠ [] := fun h => hname (encode_eq_nil_iff.mp h)
      rw [encodeEntry, parse_of_ne_nil (amp_not_mem_encode name) hne, parseEntry_encode]
      simp [pair?, hname]
  | some value =>
    have hamp : '&' ∉ encode name ++ '=' :: encode value := by
      simp [amp_not_mem_encode]
    rw [encodeEntry, parse_of_ne_nil hamp (by simp), parseEntry_encode_append]
    simp [pair?]

/-- What is written so far is read before the entry that is added. -/
lemma parse_append_entry (written name : Text) (value : Option Text) :
    parse (append written name value) = parse written ++ (pair? name value).toList := by
  rw [append]
  split
  · next h => rw [List.isEmpty_iff.mp h, parse_encodeEntry, parse_nil, List.nil_append]
  · rw [parse_append, parse_encodeEntry]

lemma prefix_append_entry (written name : Text) (value : Option Text) :
    written <+: append written name value := by
  rw [append]
  split
  · next h => rw [List.isEmpty_iff.mp h]; exact List.nil_prefix
  · exact List.prefix_append _ _

/-- Entries that are added in turn are read back in order, after what is written before. -/
lemma parse_appendAll (written : Text) (entries : List (Text × Option Text)) :
    parse (appendAll written entries)
      = parse written ++ entries.filterMap fun e => pair? e.1 e.2 := by
  induction entries generalizing written with
  | nil => simp [appendAll]
  | cons e entries ih =>
    have hstep : appendAll written (e :: entries) = appendAll (append written e.1 e.2) entries :=
      rfl
    rw [hstep, ih, parse_append_entry, List.append_assoc]
    congr 1
    cases h : pair? e.1 e.2 <;> simp [h]

lemma prefix_appendAll (written : Text) (entries : List (Text × Option Text)) :
    written <+: appendAll written entries := by
  induction entries generalizing written with
  | nil => exact List.prefix_rfl
  | cons e entries ih => exact (prefix_append_entry written e.1 e.2).trans (ih _)

end Form
end Courier
