import Courier.Proofs.Except
import Courier.Proofs.Json
import Mathlib

/-!
# What is read from JSON texts

Texts of many forms stand for the same value: members may come in any order and more than once, and there may be
blanks between the signs. The values that come out are of one form only: the members of their objects are in
order, integers fit 64 bits, and nothing nests deeper than the reader admits. So a value that was read is exact,
unless it holds a double.
-/

namespace Courier.Json

/-- Values without doubles. A number is read as a double if it is written with a point or an exponent, if it is
`-0`, or if it fits neither signed nor unsigned 64 bits. -/
inductive IsIntegral : Json → Prop
  | null : IsIntegral .null
  | bool (b : Bool) : IsIntegral (.bool b)
  | integer (i : Int) : IsIntegral (.number (.integer i))
  | string (s : String) : IsIntegral (.string s)
  | array {items : List Json} (h : ∀ x ∈ items, IsIntegral x) : IsIntegral (.array items)
  | object {members : List (String × Json)} (h : ∀ m ∈ members, IsIntegral m.2) :
      IsIntegral (.object members)

/-! ### Numbers -/

lemma absorb_le {word : Nat} (hword : word ≤ maxWord) (digits : Text) : (absorb word digits).1 ≤ maxWord := by
  induction digits generalizing word with
  | nil => exact hword
  | cons c digits ih =>
    rw [absorb]
    split_ifs with hnext
    · exact ih hnext
    · exact hword

section Number

variable {negative : Bool} {word : Nat} {point e : Int} {t rest : Text} {n : Number} {i : Int}

lemma isWord_of_whole (hword : word ≤ maxWord) (h : whole negative word = .integer i) : IsWord i := by
  have hmax : maxWord = 18446744073709551615 := rfl
  have hpow : Nat.pow 2 63 = 9223372036854775808 := rfl
  rw [hmax] at hword
  rw [whole, hpow] at h
  split_ifs at h with hsign hbounds
  · obtain rfl := Number.integer.inj h
    constructor <;> omega
  · obtain rfl := Number.integer.inj h
    constructor <;> omega

lemma exists_float_of_assemble (h : assemble negative word e = .ok n) : ∃ x, n = .float x := by
  rw [assemble, bind_eq_ok_iff] at h
  obtain ⟨x, -, h⟩ := h
  exact ⟨_, (Except.ok.inj h).symm⟩

/-- A number that is put together from a word and a power of ten is a double. -/
lemma exists_float_of_bind_assemble
    (h : (do let number ← assemble negative word e; return (number, t)) = Except.ok (n, rest)) :
    ∃ x, n = .float x := by
  obtain ⟨number, hnumber, h⟩ := bind_eq_ok_iff.mp h
  obtain ⟨x, rfl⟩ := exists_float_of_assemble hnumber
  exact ⟨x, (congrArg Prod.fst (Except.ok.inj h)).symm⟩

lemma exists_float_of_readExponent (h : readExponent negative word point t = .ok (n, rest)) :
    ∃ x, n = .float x := by
  rw [readExponent_eq] at h
  generalize (exponentSign t).2 = digits at h
  cases digits with
  | nil => cases h
  | cons c r =>
    rw [readPower] at h
    split_ifs at h
    · exact ⟨_, (congrArg Prod.fst (Except.ok.inj h)).symm⟩
    all_goals exact exists_float_of_bind_assemble h

lemma exists_float_of_readFraction (h : readFraction negative word point t = .ok (n, rest)) :
    ∃ x, n = .float x := by
  simp only [readFraction] at h
  split_ifs at h
  · exact exists_float_of_readExponent h
  · exact exists_float_of_bind_assemble h

end Number

lemma exists_digitChar_eq {c : Char} (h : c.isDigit = true) : ∃ d < 10, Nat.digitChar d = c := by
  have hbounds : 48 ≤ c.toNat ∧ c.toNat ≤ 57 := by
    simpa [Char.isDigit, UInt32.le_iff_toNat_le] using h
  refine ⟨c.toNat - 48, by omega, ?_⟩
  rw [← Char.toNat_inj, Nat.toNat_digitChar_of_lt_ten (by omega)]
  omega

/-- Digits without a zero before them are what is written for the number that they make. -/
lemma natText_ofDigitChars {digits : Text} (hdigits : ∀ c ∈ digits, c.isDigit = true) (hne : digits ≠ [])
    (hleading : digits.head? = some '0' → digits = ['0']) :
    natText (Nat.ofDigitChars 10 digits 0) = digits := by
  -- a number is written digit by digit from the last one on
  induction digits using List.reverseRecOn with
  | nil => exact absurd rfl hne
  | append_singleton init c ih =>
    obtain ⟨d, hd, rfl⟩ := exists_digitChar_eq (hdigits c (by simp))
    rw [Nat.ofDigitChars_append, Nat.ofDigitChars_cons_digitChar_of_lt_ten hd, Nat.ofDigitChars_nil, natText]
    by_cases hinit : init = []
    · subst hinit
      simpa using Nat.toDigits_of_lt_base hd
    · have hhead : init.head? ≠ some '0' := by
        intro h
        have hsingle := hleading (by rw [List.head?_append_of_ne_nil _ hinit, h])
        exact hinit ((List.append_eq_singleton_iff.mp hsingle).resolve_right (by simp)).1
      have hread := ih (fun c hc => hdigits c (by simp [hc])) hinit (fun h => absurd h hhead)
      have hpos : 0 < Nat.ofDigitChars 10 init 0 := by
        refine Nat.pos_of_ne_zero fun hzero => hhead ?_
        rw [← hread, hzero]
        rfl
      rw [← Nat.toDigits_append_toDigits (by decide) hpos hd, Nat.toDigits_of_lt_base hd]
      exact congrArg (· ++ [Nat.digitChar d]) hread

/-- If all digits are taken, they make the word. -/
lemma ofDigitChars_eq_of_absorb {digits : Text} {word w : Nat} (h : absorb word digits = (w, digits.length)) :
    Nat.ofDigitChars 10 digits word = w := by
  induction digits generalizing word with
  | nil => exact congrArg Prod.fst h
  | cons c digits ih =>
    rw [absorb] at h
    rw [Nat.ofDigitChars_cons]
    split_ifs at h with hnext
    · obtain ⟨rfl, hlength⟩ := Prod.mk.inj h
      have hcode : '0'.toNat = 0x30 := rfl
      rw [hcode, Nat.mul_comm 10 word]
      exact ih (Prod.ext rfl (Nat.succ.inj hlength))
    · cases (Prod.mk.inj h).2

lemma head?_dropWhile_any_isDigit (t : Text) :
    (t.dropWhile Char.isDigit).head?.any Char.isDigit = false := by
  have h := List.head?_dropWhile_not Char.isDigit t
  cases hhead : (t.dropWhile Char.isDigit).head? with
  | none => rfl
  | some c =>
    rw [hhead] at h
    exact h

section Integer

variable {negative : Bool} {t rest : Text} {i : Int}

lemma exists_natText_of_readNumber (h : readNumber negative t = .ok (.integer i, rest)) :
    ∃ n ≤ maxWord, t = natText n ++ rest ∧ EndsNumber rest ∧ whole negative n = .integer i := by
  cases t with
  | nil => cases h
  | cons c r =>
    have happend := List.takeWhile_append_dropWhile (p := Char.isDigit) (l := c :: r)
    have hdigits : ∀ d ∈ (c :: r).takeWhile Char.isDigit, d.isDigit = true := fun _ => List.mem_takeWhile_imp
    have hbehind := head?_dropWhile_any_isDigit (c :: r)
    rw [readNumber] at h
    split at h
    · cases h
    next hdigit =>
    split at h
    · cases h
    next hleading =>
    have hcons : (c :: r).takeWhile Char.isDigit = c :: r.takeWhile Char.isDigit :=
      List.takeWhile_cons_of_pos (by simpa using hdigit)
    dsimp only at h
    generalize (c :: r).takeWhile Char.isDigit = digits at h hdigits happend hcons
    generalize (c :: r).dropWhile Char.isDigit = behind at h happend hbehind
    split at h
    · obtain ⟨x, hx⟩ := exists_float_of_readFraction h
      cases hx
    next hpoint =>
    split_ifs at h with hexponent hall
    · obtain ⟨x, hx⟩ := exists_float_of_readExponent h
      cases hx
    · obtain ⟨hwhole, rfl⟩ := Prod.mk.inj (Except.ok.inj h)
      have hvalue : Nat.ofDigitChars 10 digits 0 = (absorb 0 digits).1 :=
        ofDigitChars_eq_of_absorb (Prod.ext rfl hall)
      have htext : natText (absorb 0 digits).1 = digits := by
        rw [← hvalue]
        refine natText_ofDigitChars hdigits (hcons ▸ List.cons_ne_nil _ _) fun h => ?_
        rw [hcons] at h ⊢
        obtain rfl := Option.some.inj h
        have hsingle : r.head?.any Char.isDigit = false := by simpa using hleading
        cases r with
        | nil => rfl
        | cons d r => rw [List.takeWhile_cons_of_neg (by simpa using hsingle)]
      refine ⟨_, absorb_le (Nat.zero_le maxWord) digits, by rw [htext, happend],
        ⟨hbehind, fun hhead => ?_, by simpa using hexponent⟩, hwhole⟩
      obtain ⟨tail, htail⟩ := List.head?_eq_some_iff.mp hhead
      exact hpoint tail htail
    · obtain ⟨x, hx⟩ := exists_float_of_bind_assemble h
      cases hx

/-- What is read as an integer is what is written as one: in digits without a zero before them, not followed by a
point or an exponent, that make an integer of 64 bits, and not `-0`. Every other number is read as a double. -/
lemma readNumber_eq_integer_iff :
    readNumber negative t = .ok (.integer i, rest) ↔
      ∃ n ≤ maxWord, t = natText n ++ rest ∧ EndsNumber rest ∧ whole negative n = .integer i := by
  constructor
  · exact exists_natText_of_readNumber
  · rintro ⟨n, hn, rfl, hrest, hwhole⟩
    rw [readNumber_natText hn negative hrest, hwhole]

/-- An integer that is read fits 64 bits. -/
lemma isWord_of_readNumber (h : readNumber negative t = .ok (.integer i, rest)) : IsWord i := by
  obtain ⟨n, hn, -, -, hwhole⟩ := exists_natText_of_readNumber h
  exact isWord_of_whole hn hwhole

end Integer

/-! ### Members in order -/

lemma mem_of_mem_insert {k : String} {x : Json} {m : String × Json} {members : List (String × Json)}
    (h : m ∈ insert k x members) : m = (k, x) ∨ m ∈ members := by
  induction members with
  | nil => exact Or.inl (List.mem_singleton.mp h)
  | cons n members ih =>
    rw [insert] at h
    split_ifs at h with heq hlt
    · rcases List.mem_cons.mp h with rfl | h
      · exact Or.inl rfl
      · exact Or.inr (List.mem_cons_of_mem n h)
    · rcases List.mem_cons.mp h with rfl | h
      · exact Or.inl rfl
      · exact Or.inr h
    · rcases List.mem_cons.mp h with rfl | h
      · exact Or.inr List.mem_cons_self
      · exact (ih h).imp_right (List.mem_cons_of_mem n)

/-- Putting a member at its place keeps the members in order. -/
lemma pairwise_insert {members : List (String × Json)} (h : (members.map Prod.fst).Pairwise (· < ·))
    (k : String) (x : Json) : ((insert k x members).map Prod.fst).Pairwise (· < ·) := by
  induction members with
  | nil => simp [insert]
  | cons n members ih =>
    rw [List.map_cons, List.pairwise_cons] at h
    obtain ⟨hfirst, hrest⟩ := h
    rw [insert]
    split_ifs with heq hlt
    · rw [List.map_cons, List.pairwise_cons]
      exact ⟨heq ▸ hfirst, hrest⟩
    · rw [List.map_cons, List.map_cons, List.pairwise_cons, List.pairwise_cons]
      refine ⟨?_, hfirst, hrest⟩
      rw [List.forall_mem_cons]
      exact ⟨hlt, fun key hkey => hlt.trans (hfirst key hkey)⟩
    · rw [List.map_cons, List.pairwise_cons]
      refine ⟨?_, ih hrest⟩
      rw [List.forall_mem_map]
      intro m hm
      rcases mem_of_mem_insert hm with rfl | hm
      · exact lt_of_le_of_ne (not_lt.mp hlt) (Ne.symm heq)
      · exact hfirst m.1 (List.mem_map_of_mem hm)

/-- The members of an object that is made of any members are in order, and are some of those. -/
lemma exists_ofMembers_eq (members : List (String × Json)) :
    ∃ sorted, ofMembers members = .object sorted ∧ (sorted.map Prod.fst).Pairwise (· < ·)
      ∧ ∀ m ∈ sorted, m ∈ members := by
  have hfold (members sorted : List (String × Json)) (h : (sorted.map Prod.fst).Pairwise (· < ·)) :
      ((members.foldl (fun sorted m => insert m.1 m.2 sorted) sorted).map Prod.fst).Pairwise (· < ·)
        ∧ ∀ m ∈ members.foldl (fun sorted m => insert m.1 m.2 sorted) sorted, m ∈ sorted ∨ m ∈ members := by
    induction members generalizing sorted with
    | nil => exact ⟨h, fun m hm => Or.inl hm⟩
    | cons n members ih =>
      obtain ⟨hsorted, hmem⟩ := ih (insert n.1 n.2 sorted) (pairwise_insert h n.1 n.2)
      refine ⟨hsorted, fun m hm => ?_⟩
      rcases hmem m hm with hm | hm
      · rcases mem_of_mem_insert hm with rfl | hm
        · exact Or.inr List.mem_cons_self
        · exact Or.inl hm
      · exact Or.inr (List.mem_cons_of_mem n hm)
  obtain ⟨hsorted, hmem⟩ := hfold members [] List.Pairwise.nil
  exact ⟨_, rfl, hsorted, fun m hm => (hmem m hm).resolve_left List.not_mem_nil⟩

lemma perm_insert {k : String} {members : List (String × Json)} (h : k ∉ members.map Prod.fst) (x : Json) :
    (insert k x members).Perm ((k, x) :: members) := by
  induction members with
  | nil => exact List.Perm.refl _
  | cons n members ih =>
    rw [List.map_cons, List.mem_cons, not_or] at h
    rw [insert, if_neg h.1]
    split_ifs
    · exact List.Perm.refl _
    · exact ((ih h.2).cons n).trans (List.Perm.swap _ _ _)

lemma perm_foldl_insert {members sorted : List (String × Json)}
    (h : ((sorted ++ members).map Prod.fst).Nodup) :
    (members.foldl (fun sorted m => insert m.1 m.2 sorted) sorted).Perm (sorted ++ members) := by
  induction members generalizing sorted with
  | nil => rw [List.append_nil, List.foldl_nil]
  | cons m members ih =>
    have hm : m.1 ∉ sorted.map Prod.fst := by
      rw [List.map_append, List.nodup_append] at h
      intro hmem
      exact h.2.2 _ hmem _ (by simp) rfl
    have hperm : (insert m.1 m.2 sorted ++ members).Perm (sorted ++ m :: members) :=
      ((perm_insert hm m.2).append_right members).trans List.perm_middle.symm
    exact (ih ((hperm.map Prod.fst).nodup_iff.mpr h)).trans hperm

/-- An object that is made of members with a key of their own each has all of them. -/
lemma exists_ofMembers_perm {members : List (String × Json)} (h : (members.map Prod.fst).Nodup) :
    ∃ sorted, ofMembers members = .object sorted ∧ (sorted.map Prod.fst).Pairwise (· < ·)
      ∧ sorted.Perm members := by
  obtain ⟨sorted, hsorted, horder, -⟩ := exists_ofMembers_eq members
  obtain rfl := Json.object.inj hsorted
  exact ⟨_, rfl, horder, perm_foldl_insert h⟩

/-! ### Lists between brackets -/

section Brackets

variable {α : Type} {P : α → Prop} {reader : Text → Except Fault (α × Text)} {fuel : Nat} {first : Bool}
  {t rest : Text}

/-- What holds of everything that a reader of items gives holds of the items of a list. -/
lemma forall_mem_of_readItems (hreader : ∀ t x rest, reader t = .ok (x, rest) → P x) {xs : List α}
    (h : readItems reader fuel first t = .ok (xs, rest)) : ∀ x ∈ xs, P x := by
  induction fuel generalizing first t xs rest with
  | zero => cases h
  | succ fuel ih =>
    obtain ⟨next, -, h⟩ := bind_eq_ok_iff.mp h
    cases next with
    | none =>
      obtain ⟨tail, -, h⟩ := bind_eq_ok_iff.mp h
      obtain ⟨rfl, -⟩ := Prod.mk.inj (Except.ok.inj h)
      simp
    | some t' =>
      obtain ⟨⟨x, tail⟩, hx, h⟩ := bind_eq_ok_iff.mp h
      obtain ⟨⟨xs', tail'⟩, hxs, h⟩ := bind_eq_ok_iff.mp h
      obtain ⟨rfl, -⟩ := Prod.mk.inj (Except.ok.inj h)
      exact List.forall_mem_cons.mpr ⟨hreader _ _ _ hx, ih hxs⟩

lemma forall_mem_of_readMembers (hreader : ∀ t x rest, reader t = .ok (x, rest) → P x)
    {xs : List (String × α)} (h : readMembers reader fuel first t = .ok (xs, rest)) :
    ∀ m ∈ xs, P m.2 := by
  induction fuel generalizing first t xs rest with
  | zero => cases h
  | succ fuel ih =>
    obtain ⟨next, -, h⟩ := bind_eq_ok_iff.mp h
    cases next with
    | none =>
      obtain ⟨tail, -, h⟩ := bind_eq_ok_iff.mp h
      obtain ⟨rfl, -⟩ := Prod.mk.inj (Except.ok.inj h)
      simp
    | some t' =>
      obtain ⟨⟨key, tail⟩, -, h⟩ := bind_eq_ok_iff.mp h
      obtain ⟨behind, -, h⟩ := bind_eq_ok_iff.mp h
      obtain ⟨⟨x, tail'⟩, hx, h⟩ := bind_eq_ok_iff.mp h
      obtain ⟨⟨xs', tail''⟩, hxs, h⟩ := bind_eq_ok_iff.mp h
      obtain ⟨rfl, -⟩ := Prod.mk.inj (Except.ok.inj h)
      exact List.forall_mem_cons.mpr ⟨hreader _ _ _ hx, ih hxs⟩

end Brackets

/-! ### Values -/

/-- What a reader of one value gives, by the sign that the value starts with. -/
inductive Node (array object : Text → Except Fault (Json × Text)) (t rest : Text) : Json → Prop
  | null (h : (skipBlanks t).head? = some 'n') : Node array object t rest .null
  | bool (b : Bool) : Node array object t rest (.bool b)
  | number {negative : Bool} {digits : Text} {n : Number} (h : readNumber negative digits = .ok (n, rest)) :
      Node array object t rest (.number n)
  | string (s : String) : Node array object t rest (.string s)
  | array {t' : Text} {v : Json} (h : array t' = .ok (v, rest)) : Node array object t rest v
  | object {t' : Text} {v : Json} (h : object t' = .ok (v, rest)) : Node array object t rest v

lemma Node.of_readNode {array object : Text → Except Fault (Json × Text)} {t rest : Text} {v : Json}
    (h : readNode array object t = .ok (v, rest)) : Node array object t rest v := by
  rw [readNode] at h
  split at h
  · cases h
  · next c r hcons =>
    split_ifs at h with hn ht hf hminus hdigit hquote hbracket hbrace
    · obtain ⟨tail, -, h⟩ := bind_eq_ok_iff.mp h
      obtain ⟨rfl, -⟩ := Prod.mk.inj (Except.ok.inj h)
      exact .null (by rw [hcons, hn]; rfl)
    · obtain ⟨tail, -, h⟩ := bind_eq_ok_iff.mp h
      obtain ⟨rfl, -⟩ := Prod.mk.inj (Except.ok.inj h)
      exact .bool true
    · obtain ⟨tail, -, h⟩ := bind_eq_ok_iff.mp h
      obtain ⟨rfl, -⟩ := Prod.mk.inj (Except.ok.inj h)
      exact .bool false
    · obtain ⟨⟨n, tail⟩, hn, h⟩ := bind_eq_ok_iff.mp h
      obtain ⟨rfl, rfl⟩ := Prod.mk.inj (Except.ok.inj h)
      exact .number hn
    · obtain ⟨⟨n, tail⟩, hn, h⟩ := bind_eq_ok_iff.mp h
      obtain ⟨rfl, rfl⟩ := Prod.mk.inj (Except.ok.inj h)
      exact .number hn
    · obtain ⟨⟨s, tail⟩, -, h⟩ := bind_eq_ok_iff.mp h
      obtain ⟨rfl, -⟩ := Prod.mk.inj (Except.ok.inj h)
      exact .string s
    · exact .array h
    · exact .object h

lemma itemsDepth_le {limit : Nat} {items : List Json} (h : ∀ x ∈ items, x.depth ≤ limit) :
    itemsDepth items ≤ limit := by
  induction items with
  | nil => exact Nat.zero_le limit
  | cons x items ih =>
    obtain ⟨hx, hitems⟩ := List.forall_mem_cons.mp h
    exact max_le hx (ih hitems)

lemma membersDepth_le {limit : Nat} {members : List (String × Json)} (h : ∀ m ∈ members, m.2.depth ≤ limit) :
    membersDepth members ≤ limit := by
  induction members with
  | nil => exact Nat.zero_le limit
  | cons m members ih =>
    obtain ⟨hm, hmembers⟩ := List.forall_mem_cons.mp h
    exact max_le hm (ih hmembers)

/-- Whether a value nests at most `limit` deep, and is exact unless it holds a double. -/
def IsDecoded (limit : Nat) (v : Json) : Prop := (v.IsIntegral → v.IsExact) ∧ v.depth ≤ limit

lemma Node.isDecoded {array object : Text → Except Fault (Json × Text)} {t rest : Text} {v : Json} {limit : Nat}
    (h : Node array object t rest v) (harray : ∀ t v, array t = .ok (v, rest) → IsDecoded limit v)
    (hobject : ∀ t v, object t = .ok (v, rest) → IsDecoded limit v) : IsDecoded limit v := by
  cases h with
  | null => exact ⟨fun _ => .null, Nat.zero_le _⟩
  | bool b => exact ⟨fun _ => .bool b, Nat.zero_le _⟩
  | number hread =>
    refine ⟨fun hv => ?_, Nat.zero_le _⟩
    cases hv
    exact .integer (isWord_of_readNumber hread)
  | string s => exact ⟨fun _ => .string s, Nat.zero_le _⟩
  | array h => exact harray _ _ h
  | object h => exact hobject _ _ h

lemma isDecoded_array {limit : Nat} {items : List Json} (h : ∀ x ∈ items, IsDecoded limit x) :
    IsDecoded (limit + 1) (.array items) := by
  refine ⟨fun hv => ?_, Nat.succ_le_succ (itemsDepth_le fun x hx => (h x hx).2)⟩
  cases hv with
  | array hv => exact .array fun x hx => (h x hx).1 (hv x hx)

lemma isDecoded_ofMembers {limit : Nat} {members : List (String × Json)}
    (h : ∀ m ∈ members, IsDecoded limit m.2) : IsDecoded (limit + 1) (ofMembers members) := by
  obtain ⟨sorted, hsorted, horder, hmem⟩ := exists_ofMembers_eq members
  rw [hsorted]
  refine ⟨fun hv => ?_, Nat.succ_le_succ (membersDepth_le fun m hm => (h m (hmem m hm)).2)⟩
  cases hv with
  | object hv => exact .object horder fun m hm => (h m (hmem m hm)).1 (hv m hm)

/-- What comes out of reading a value. -/
lemma isDecoded_of_read {limit : Nat} {t rest : Text} {v : Json} (h : read limit t = .ok (v, rest)) :
    IsDecoded limit v := by
  -- the limit goes down with every bracket
  induction limit generalizing t rest v with
  | zero => exact (Node.of_readNode h).isDecoded (by simp) (by simp)
  | succ limit ih =>
    apply (Node.of_readNode h).isDecoded
    · intro t v h
      obtain ⟨⟨items, tail⟩, hitems, h⟩ := bind_eq_ok_iff.mp h
      obtain ⟨rfl, -⟩ := Prod.mk.inj (Except.ok.inj h)
      exact isDecoded_array (forall_mem_of_readItems (fun _ _ _ => ih) hitems)
    · intro t v h
      obtain ⟨⟨members, tail⟩, hmembers, h⟩ := bind_eq_ok_iff.mp h
      obtain ⟨rfl, -⟩ := Prod.mk.inj (Except.ok.inj h)
      exact isDecoded_ofMembers (forall_mem_of_readMembers (fun _ _ _ => ih) hmembers)

/-- Only a text that starts with the letter of null is read as null. -/
lemma ne_null_of_read {limit : Nat} {c : Char} {r rest : Text} {v : Json} (hblank : isBlank c = false)
    (hc : c ≠ 'n') (h : read limit (c :: r) = .ok (v, rest)) : v ≠ .null := by
  rintro rfl
  have hnode : ∃ array object : Text → Except Fault (Json × Text),
      readNode array object (c :: r) = .ok (.null, rest)
        ∧ (∀ t tail, array t ≠ .ok (.null, tail)) ∧ ∀ t tail, object t ≠ .ok (.null, tail) := by
    cases limit with
    | zero => exact ⟨_, _, h, by simp, by simp⟩
    | succ limit =>
      refine ⟨_, _, h, fun t tail harray => ?_, fun t tail hobject => ?_⟩
      · obtain ⟨⟨items, tail'⟩, -, harray⟩ := bind_eq_ok_iff.mp harray
        cases harray
      · obtain ⟨⟨members, tail'⟩, -, hobject⟩ := bind_eq_ok_iff.mp hobject
        cases hobject
  obtain ⟨array, object, hread, harray, hobject⟩ := hnode
  cases Node.of_readNode hread with
  | null hstart =>
    rw [skipBlanks_cons hblank] at hstart
    exact hc (Option.some.inj hstart)
  | array h => exact harray _ _ h
  | object h => exact hobject _ _ h

end Courier.Json
