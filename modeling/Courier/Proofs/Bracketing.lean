import Courier.Proofs.Spelling
import Mathlib

/-!
# Reading lists between brackets

Items and members are read in the same way, up to the steps from one to the next (`Bracketing`). So the law of a list
is proved once, from the law of its elements (`IsReader`): what is read between brackets is a list of what spells an
element, with commas between and blanks around them, and the closing bracket (`Bracketing.read_length_eq_ok_iff`).
-/

namespace Courier.Json

/-! ### Blanks, and signs behind them -/

lemma skipBlanks_append {blanks : Text} (h : IsBlankText blanks) (t : Text) :
    skipBlanks (blanks ++ t) = skipBlanks t :=
  List.dropWhile_append_of_pos h

lemma exists_blanks_of_skipBlanks {c : Char} {t r : Text} (h : skipBlanks t = c :: r) :
    ∃ blanks, IsBlankText blanks ∧ isBlank c = false ∧ t = blanks ++ c :: r := by
  refine ⟨t.takeWhile isBlank, fun _ => List.mem_takeWhile_imp, ?_, ?_⟩
  · have hhead := List.head?_dropWhile_not isBlank t
    rw [skipBlanks] at h
    rw [h] at hhead
    simpa using hhead
  · rw [← h]
    exact List.takeWhile_append_dropWhile.symm

lemma isBlankText_iff {t : Text} : IsBlankText t ↔ skipBlanks t = [] := by
  simp [IsBlankText, skipBlanks]

lemma EndsNumber.blanks_append {blanks t : Text} (h : IsBlankText blanks) (ht : EndsNumber t) :
    EndsNumber (blanks ++ t) := by
  cases blanks with
  | nil => exact ht
  | cons c blanks =>
    have hc : isBlank c = true := h c List.mem_cons_self
    simp only [isBlank, Bool.or_eq_true, decide_eq_true_eq] at hc
    rcases hc with ((rfl | rfl) | rfl) | rfl <;> exact ⟨rfl, by simp, rfl⟩

/-- Reads one sign behind blanks. -/
def readSign (sign : Char) (missing : Fault) (other : Char → Text → Except Fault Text) (t : Text) : Except Fault Text :=
  match skipBlanks t with
  | [] => .error missing
  | c :: r => if c = sign then .ok r else other c r

lemma readSign_eq_ok_iff {sign : Char} {missing : Fault} {other : Char → Text → Except Fault Text} {t rest : Text}
    (hsign : isBlank sign = false) (hother : ∀ c r, other c r ≠ .ok rest) :
    readSign sign missing other t = .ok rest ↔ ∃ blanks, IsBlankText blanks ∧ t = blanks ++ sign :: rest := by
  constructor
  · intro h
    rw [readSign] at h
    split at h
    · cases h
    · next c r hcons =>
      obtain ⟨blanks, hblanks, -, rfl⟩ := exists_blanks_of_skipBlanks hcons
      split_ifs at h with hc
      · obtain rfl := Except.ok.inj h
        exact ⟨blanks, hblanks, by rw [hc]⟩
      · exact absurd h (hother c r)
  · rintro ⟨blanks, hblanks, rfl⟩
    rw [readSign, skipBlanks_append hblanks, skipBlanks_cons hsign]
    exact if_pos rfl

lemma endArray_eq_ok_iff {t rest : Text} :
    endArray t = .ok rest ↔ ∃ blanks, IsBlankText blanks ∧ t = blanks ++ ']' :: rest := by
  refine readSign_eq_ok_iff rfl fun c r => ?_
  split_ifs <;> simp

lemma endObject_eq_ok_iff {t rest : Text} :
    endObject t = .ok rest ↔ ∃ blanks, IsBlankText blanks ∧ t = blanks ++ '}' :: rest := by
  refine readSign_eq_ok_iff rfl fun c r => ?_
  split_ifs <;> simp

lemma readColon_eq_ok_iff {t rest : Text} :
    readColon t = .ok rest ↔ ∃ blanks, IsBlankText blanks ∧ t = blanks ++ ':' :: rest :=
  readSign_eq_ok_iff rfl (by simp)

/-! ### Lists between brackets -/

/-- The steps through the elements between brackets: to the next element, and behind the closing bracket. An
element that starts a text is read from its own start on, or from behind its first sign. -/
structure Bracketing where
  next : Bool → Text → Except Fault (Option Text)
  close : Text → Except Fault Text
  fault : Fault
  closing : Char
  Enters : Text → Text → Prop
  isClosing : closing = ']' ∨ closing = '}'
  next_true_iff : ∀ {t t'}, next true t = .ok (some t') ↔
    ∃ before u, IsBlankText before ∧ Enters u t' ∧ t = before ++ u
  next_false_iff : ∀ {t t'}, next false t = .ok (some t') ↔
    ∃ behind before u, IsBlankText behind ∧ IsBlankText before ∧ Enters u t' ∧ t = behind ++ ',' :: (before ++ u)
  close_iff : ∀ {first t rest}, (next first t = .ok none ∧ close t = .ok rest) ↔
    ∃ blanks, IsBlankText blanks ∧ t = blanks ++ closing :: rest

namespace Bracketing

/-- Reads the elements between brackets. -/
def read {β : Type} (b : Bracketing) (element : Text → Except Fault (β × Text)) :
    Nat → Bool → Text → Except Fault (List β × Text)
  | 0, _, _ => .error b.fault
  | fuel + 1, first, t => do
    match ← b.next first t with
    | none => return ([], ← b.close t)
    | some t' =>
      let (x, rest) ← element t'
      let (xs, rest) ← b.read element fuel false rest
      return (x :: xs, rest)

variable {α β : Type}

/-- Whether a reader takes what spells an element, and gives what the element stands for. -/
structure IsReader (b : Bracketing) (element : Text → Except Fault (β × Text)) (P : α → Text → Prop)
    (R : α → β → Prop) : Prop where
  complete : ∀ {x y s rest}, P x s → R x y → EndsNumber rest →
    ∃ t, b.Enters (s ++ rest) t ∧ element t = .ok (y, rest)
  sound : ∀ {u t y rest}, b.Enters u t → element t = .ok (y, rest) → ∃ x s, P x s ∧ R x y ∧ u = s ++ rest

section Read

variable {b : Bracketing} {element : Text → Except Fault (β × Text)} {P : α → Text → Prop} {R : α → β → Prop}
  {fuel : Nat} {first : Bool} {t rest : Text} {xs : List α} {ys : List β}

lemma read_succ_eq_ok_iff :
    b.read element (fuel + 1) first t = .ok (ys, rest) ↔
      (ys = [] ∧ ∃ blanks, IsBlankText blanks ∧ t = blanks ++ b.closing :: rest)
        ∨ ∃ t' y tail ys', b.next first t = .ok (some t') ∧ element t' = .ok (y, tail)
          ∧ b.read element fuel false tail = .ok (ys', rest) ∧ ys = y :: ys' := by
  rw [← @close_iff b first t rest, read, bind_eq_ok_iff]
  constructor
  · rintro ⟨next, hnext, h⟩
    cases next with
    | none =>
      obtain ⟨rest', hclose, h⟩ := bind_eq_ok_iff.mp h
      obtain ⟨rfl, rfl⟩ := Prod.mk.inj (Except.ok.inj h)
      exact Or.inl ⟨rfl, hnext, hclose⟩
    | some t' =>
      obtain ⟨⟨y, tail⟩, hy, h⟩ := bind_eq_ok_iff.mp h
      obtain ⟨⟨ys', rest'⟩, hys, h⟩ := bind_eq_ok_iff.mp h
      obtain ⟨rfl, rfl⟩ := Prod.mk.inj (Except.ok.inj h)
      exact Or.inr ⟨t', y, tail, ys', hnext, hy, hys, rfl⟩
  · rintro (⟨rfl, hnext, hclose⟩ | ⟨t', y, tail, ys', hnext, hy, hys, rfl⟩)
    · exact ⟨none, hnext, by simp [hclose]⟩
    · exact ⟨some t', hnext, by simp [hy, hys]⟩

/-- Behind an element stands what does not go on with a number. -/
lemma endsNumber_more_append {u : Text} (hu : More P xs u) (b : Bracketing) (rest : Text) :
    EndsNumber (u ++ b.closing :: rest) := by
  cases hu with
  | nil => rcases b.isClosing with h | h <;> rw [h] <;> exact ⟨rfl, by simp, rfl⟩
  | cons => exact ⟨rfl, by simp, rfl⟩

section Complete

variable (hreader : b.IsReader element P R)

include hreader

lemma read_of_more {u behind : Text} (hu : More P xs u) (hys : List.Forall₂ R xs ys) (hbehind : IsBlankText behind)
    (rest : Text) (hfuel : xs.length ≤ fuel) :
    b.read element (fuel + 1) false (behind ++ (u ++ b.closing :: rest)) = .ok (ys, rest) := by
  induction hu generalizing ys behind fuel with
  | nil =>
    cases hys
    exact read_succ_eq_ok_iff.mpr (Or.inl ⟨rfl, behind, hbehind, rfl⟩)
  | @cons x xs before s behind' u hbefore hs hbehind' hu ih =>
    obtain ⟨fuel, rfl⟩ := Nat.exists_eq_add_one_of_ne_zero (Nat.ne_of_gt (Nat.zero_lt_of_lt hfuel))
    cases hys with
    | @cons _ y _ ys hy hys =>
      have hends := EndsNumber.blanks_append hbehind' (endsNumber_more_append hu b rest)
      obtain ⟨t', henters, helement⟩ := hreader.complete hs hy hends
      refine read_succ_eq_ok_iff.mpr (Or.inr ⟨t', y, _, ys, ?_, helement, ?_, rfl⟩)
      · exact b.next_false_iff.mpr ⟨behind, before, _, hbehind, hbefore, henters, by simp⟩
      · exact ih hys hbehind' (Nat.le_of_succ_le_succ hfuel)

lemma read_of_listed {u : Text} (hu : Listed P xs u) (hys : List.Forall₂ R xs ys) (rest : Text)
    (hfuel : xs.length ≤ fuel) : b.read element (fuel + 1) true (u ++ b.closing :: rest) = .ok (ys, rest) := by
  cases hu with
  | nil hblanks =>
    cases hys
    exact read_succ_eq_ok_iff.mpr (Or.inl ⟨rfl, u, hblanks, rfl⟩)
  | @cons x xs before s behind u hbefore hs hbehind hu =>
    obtain ⟨fuel, rfl⟩ := Nat.exists_eq_add_one_of_ne_zero (Nat.ne_of_gt (Nat.zero_lt_of_lt hfuel))
    cases hys with
    | @cons _ y _ ys hy hys =>
      have hends := EndsNumber.blanks_append hbehind (endsNumber_more_append hu b rest)
      obtain ⟨t', henters, helement⟩ := hreader.complete hs hy hends
      refine read_succ_eq_ok_iff.mpr (Or.inr ⟨t', y, _, ys, ?_, helement, ?_, rfl⟩)
      · exact b.next_true_iff.mpr ⟨before, _, hbefore, henters, by simp⟩
      · exact read_of_more hreader hu hys hbehind rest (Nat.le_of_succ_le_succ hfuel)

lemma exists_more_of_read (h : b.read element fuel false t = .ok (ys, rest)) :
    ∃ xs behind u, IsBlankText behind ∧ More P xs u ∧ List.Forall₂ R xs ys
      ∧ t = behind ++ (u ++ b.closing :: rest) := by
  induction fuel generalizing t ys with
  | zero => cases h
  | succ fuel ih =>
    obtain ⟨rfl, blanks, hblanks, rfl⟩ | ⟨t', y, tail, ys, hnext, hy, hys, rfl⟩ := read_succ_eq_ok_iff.mp h
    · exact ⟨[], blanks, [], hblanks, .nil, .nil, rfl⟩
    · obtain ⟨behind, before, u, hbehind, hbefore, henters, rfl⟩ := b.next_false_iff.mp hnext
      obtain ⟨x, s, hs, hx, rfl⟩ := hreader.sound henters hy
      obtain ⟨xs, behind', u, hbehind', hu, hxs, rfl⟩ := ih hys
      exact ⟨x :: xs, behind, _, hbehind, .cons hbefore hs hbehind' hu, .cons hx hxs, by simp⟩

lemma exists_listed_of_read (h : b.read element fuel true t = .ok (ys, rest)) :
    ∃ xs u, Listed P xs u ∧ List.Forall₂ R xs ys ∧ t = u ++ b.closing :: rest := by
  cases fuel with
  | zero => cases h
  | succ fuel =>
    obtain ⟨rfl, blanks, hblanks, rfl⟩ | ⟨t', y, tail, ys, hnext, hy, hys, rfl⟩ := read_succ_eq_ok_iff.mp h
    · exact ⟨[], blanks, .nil hblanks, .nil, rfl⟩
    · obtain ⟨before, u, hbefore, henters, rfl⟩ := b.next_true_iff.mp hnext
      obtain ⟨x, s, hs, hx, rfl⟩ := hreader.sound henters hy
      obtain ⟨xs, behind, u, hbehind, hu, hxs, rfl⟩ := exists_more_of_read hreader hys
      exact ⟨x :: xs, _, .cons hbefore hs hbehind hu, .cons hx hxs, by simp⟩

end Complete

lemma length_le_length_of_more {u : Text} (h : More P xs u) : xs.length ≤ u.length := by
  induction h with
  | nil => rfl
  | cons =>
    simp only [List.length_cons, List.length_append]
    omega

lemma length_le_length_of_listed {u : Text} (h : Listed P xs u) : xs.length ≤ u.length + 1 := by
  cases h with
  | nil => exact Nat.zero_le _
  | cons _ _ _ hu =>
    have := length_le_length_of_more hu
    simp only [List.length_cons, List.length_append]
    omega

/-- What is read between brackets is a list of elements and the closing bracket. -/
lemma read_length_eq_ok_iff (hreader : b.IsReader element P R) :
    b.read element (t.length + 1) true t = .ok (ys, rest) ↔
      ∃ xs u, Listed P xs u ∧ List.Forall₂ R xs ys ∧ t = u ++ b.closing :: rest := by
  constructor
  · exact exists_listed_of_read hreader
  · rintro ⟨xs, u, hu, hys, rfl⟩
    have hlength := length_le_length_of_listed hu
    refine read_of_listed hreader hu hys rest ?_
    rw [List.length_append, List.length_cons]
    omega

end Read

end Bracketing
/-! ### Items -/

lemma nextItem_true_iff {t t' : Text} :
    nextItem true t = .ok (some t') ↔ ∃ before u, IsBlankText before ∧ (u = t' ∧ Opens u) ∧ t = before ++ u := by
  constructor
  · intro h
    rw [nextItem] at h
    split at h
    · cases h
    · next c r hcons =>
      obtain ⟨before, hbefore, hc, rfl⟩ := exists_blanks_of_skipBlanks hcons
      split at h
      · cases h
      · next hclose =>
        rw [if_pos rfl] at h
        obtain rfl := Option.some.inj (Except.ok.inj h)
        exact ⟨before, c :: r, hbefore, ⟨rfl, c, r, rfl, hc, hclose⟩, rfl⟩
  · rintro ⟨before, u, hbefore, ⟨rfl, c, r, rfl, hc, hclose⟩, rfl⟩
    rw [nextItem, skipBlanks_append hbefore, skipBlanks_cons hc]
    exact (if_neg hclose).trans (if_pos rfl)

lemma nextItem_false_iff {t t' : Text} :
    nextItem false t = .ok (some t') ↔ ∃ behind before u, IsBlankText behind ∧ IsBlankText before
      ∧ (u = t' ∧ Opens u) ∧ t = behind ++ ',' :: (before ++ u) := by
  constructor
  · intro h
    rw [nextItem] at h
    split at h
    · cases h
    · next c r hcons =>
      obtain ⟨behind, hbehind, -, rfl⟩ := exists_blanks_of_skipBlanks hcons
      split at h
      · cases h
      rw [if_neg Bool.false_ne_true] at h
      split_ifs at h with hcomma
      split at h
      · cases h
      · next d r' hcons' =>
        obtain ⟨before, hbefore, hd, rfl⟩ := exists_blanks_of_skipBlanks hcons'
        split_ifs at h with hclose'
        obtain rfl := Option.some.inj (Except.ok.inj h)
        rw [not_not.mp hcomma]
        exact ⟨behind, before, d :: r', hbehind, hbefore, ⟨rfl, d, r', rfl, hd, hclose'⟩, rfl⟩
  · rintro ⟨behind, before, u, hbehind, hbefore, ⟨rfl, c, r, rfl, hc, hclose⟩, rfl⟩
    have hcomma : isBlank ',' = false := rfl
    rw [nextItem, skipBlanks_append hbehind, skipBlanks_cons hcomma]
    simp [skipBlanks_append hbefore, skipBlanks_cons hc, hclose]

lemma nextItem_none_and_endArray_iff {first : Bool} {t rest : Text} :
    (nextItem first t = .ok none ∧ endArray t = .ok rest) ↔
      ∃ blanks, IsBlankText blanks ∧ t = blanks ++ ']' :: rest := by
  rw [endArray_eq_ok_iff, and_iff_right_iff_imp]
  rintro ⟨blanks, hblanks, rfl⟩
  rw [nextItem, skipBlanks_append hblanks]
  rfl

/-- The steps through the items of an array. -/
def Bracketing.array : Bracketing where
  next := nextItem
  close := endArray
  fault := .endInArray
  closing := ']'
  Enters u t := u = t ∧ Opens u
  isClosing := Or.inl rfl
  next_true_iff := nextItem_true_iff
  next_false_iff := nextItem_false_iff
  close_iff := nextItem_none_and_endArray_iff

lemma readItems_eq {β : Type} (item : Text → Except Fault (β × Text)) (fuel : Nat) (first : Bool) (t : Text) :
    readItems item fuel first t = Bracketing.array.read item fuel first t := by
  induction fuel generalizing first t with
  | zero => rfl
  | succ fuel ih =>
    simp only [readItems, Bracketing.read, ih]
    rfl

/-! ### Members -/

lemma nextKey_true_iff {t t' : Text} :
    nextKey true t = .ok (some t') ↔ ∃ before u, IsBlankText before ∧ u = '"' :: t' ∧ t = before ++ u := by
  constructor
  · intro h
    rw [nextKey] at h
    split at h
    · cases h
    · next c r hcons =>
      obtain ⟨before, hbefore, -, rfl⟩ := exists_blanks_of_skipBlanks hcons
      split at h
      · cases h
      rw [if_pos rfl] at h
      split_ifs at h with hquote
      obtain rfl := Option.some.inj (Except.ok.inj h)
      exact ⟨before, '"' :: r, hbefore, rfl, by rw [hquote]⟩
  · rintro ⟨before, u, hbefore, rfl, rfl⟩
    rw [nextKey, skipBlanks_append hbefore]
    rfl

lemma nextKey_false_iff {t t' : Text} :
    nextKey false t = .ok (some t') ↔ ∃ behind before u, IsBlankText behind ∧ IsBlankText before
      ∧ u = '"' :: t' ∧ t = behind ++ ',' :: (before ++ u) := by
  constructor
  · intro h
    rw [nextKey] at h
    split at h
    · cases h
    · next c r hcons =>
      obtain ⟨behind, hbehind, -, rfl⟩ := exists_blanks_of_skipBlanks hcons
      split at h
      · cases h
      rw [if_neg Bool.false_ne_true] at h
      split_ifs at h with hcomma
      split at h
      · cases h
      · next d r' hcons' =>
        obtain ⟨before, hbefore, -, rfl⟩ := exists_blanks_of_skipBlanks hcons'
        split_ifs at h with hquote
        obtain rfl := Option.some.inj (Except.ok.inj h)
        rw [not_not.mp hcomma, hquote]
        exact ⟨behind, before, '"' :: r', hbehind, hbefore, rfl, rfl⟩
  · rintro ⟨behind, before, u, hbehind, hbefore, rfl, rfl⟩
    have hcomma : isBlank ',' = false := rfl
    have hquote : isBlank '"' = false := rfl
    rw [nextKey, skipBlanks_append hbehind, skipBlanks_cons hcomma]
    simp [skipBlanks_append hbefore, skipBlanks_cons hquote]

lemma nextKey_none_and_endObject_iff {first : Bool} {t rest : Text} :
    (nextKey first t = .ok none ∧ endObject t = .ok rest) ↔
      ∃ blanks, IsBlankText blanks ∧ t = blanks ++ '}' :: rest := by
  rw [endObject_eq_ok_iff, and_iff_right_iff_imp]
  rintro ⟨blanks, hblanks, rfl⟩
  rw [nextKey, skipBlanks_append hblanks]
  rfl

/-- The steps through the members of an object. -/
def Bracketing.object : Bracketing where
  next := nextKey
  close := endObject
  fault := .endInObject
  closing := '}'
  Enters u t := u = '"' :: t
  isClosing := Or.inr rfl
  next_true_iff := nextKey_true_iff
  next_false_iff := nextKey_false_iff
  close_iff := nextKey_none_and_endObject_iff

/-- Reads a member behind its first quote. -/
def readMember {β : Type} (value : Text → Except Fault (β × Text)) (t : Text) :
    Except Fault ((String × β) × Text) := do
  let (key, rest) ← readString t
  let rest ← readColon rest
  let (x, rest) ← value rest
  return ((key, x), rest)

lemma readMembers_eq {β : Type} (value : Text → Except Fault (β × Text)) (fuel : Nat) (first : Bool) (t : Text) :
    readMembers value fuel first t = Bracketing.object.read (readMember value) fuel first t := by
  induction fuel generalizing first t with
  | zero => rfl
  | succ fuel ih =>
    simp only [readMembers, Bracketing.read, readMember, ih, bind_assoc, pure_bind]
    rfl

end Courier.Json
