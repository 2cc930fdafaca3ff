import Courier.Json.Parser
import Courier.Proofs.Lexeme
import Mathlib

/-!
# Reading back JSON values

Reading undoes writing for every exact value: one whose numbers are integers of 64 bits, or doubles that are
read back from their own text, and whose objects have their members in order. `read_render` says so of a value
before any text that does not go on with it, if the value does not nest deeper than the reader admits. The laws
on the items of an array are stated for any reader of items, so that they also serve the readers of other lists.
-/

namespace Courier.Json

/-! ### Exact values -/

mutual

/-- How deep arrays and objects nest in a value. -/
def depth : Json → Nat
  | .array items => itemsDepth items + 1
  | .object members => membersDepth members + 1
  | .null | .bool _ | .number _ | .string _ => 0

def itemsDepth : List Json → Nat
  | [] => 0
  | x :: rest => max (depth x) (itemsDepth rest)

def membersDepth : List (String × Json) → Nat
  | [] => 0
  | (_, x) :: rest => max (depth x) (membersDepth rest)

end

lemma depth_le_itemsDepth {x : Json} {items : List Json} (h : x ∈ items) :
    x.depth ≤ itemsDepth items := by
  induction items with
  | nil => simp at h
  | cons y items ih =>
    rw [itemsDepth]
    rcases List.mem_cons.mp h with rfl | h
    · exact le_max_left _ _
    · exact (ih h).trans (le_max_right _ _)

lemma depth_le_membersDepth {m : String × Json} {members : List (String × Json)} (h : m ∈ members) :
    m.2.depth ≤ membersDepth members := by
  induction members with
  | nil => simp at h
  | cons n members ih =>
    rw [membersDepth]
    rcases List.mem_cons.mp h with rfl | h
    · exact le_max_left _ _
    · exact (ih h).trans (le_max_right _ _)

/-- Values that their texts determine: the numbers are integers of 64 bits, or doubles that are read back, and
the members of an object are in the order of their keys, each key once. Not every double is read back, as a
reader rounds more than once. -/
inductive IsExact : Json → Prop
  | null : IsExact .null
  | bool (b : Bool) : IsExact (.bool b)
  | integer {i : Int} (h : IsWord i) : IsExact (.number (.integer i))
  | float {x : Finite} (h : IsReadBack (.float x)) : IsExact (.number (.float x))
  | string (s : String) : IsExact (.string s)
  | array {items : List Json} (h : ∀ x ∈ items, IsExact x) : IsExact (.array items)
  | object {members : List (String × Json)} (hsorted : (members.map Prod.fst).Pairwise (· < ·))
      (h : ∀ m ∈ members, IsExact m.2) : IsExact (.object members)

/-! ### Lists between brackets -/

lemma intercalate_cons_eq_flatMap {α : Type} (sep : α) (x : List α) (list : List (List α)) :
    [sep].intercalate (x :: list) = x ++ list.flatMap (sep :: ·) := by
  induction list generalizing x with
  | nil => simp
  | cons y list ih => rw [List.intercalate_cons_cons, ih]; simp

lemma skipBlanks_cons {c : Char} (h : isBlank c = false) (t : Text) : skipBlanks (c :: t) = c :: t := by
  simp [skipBlanks, h]

/-- Behind an element of a list stands a comma or the closing bracket. -/
lemma isBoundary_flatMap_append {α : Type} {close : Char} (hclose : close = ']' ∨ close = '}')
    (write : α → Text) (xs : List α) (rest : Text) :
    IsBoundary (xs.flatMap (fun x => ',' :: write x) ++ close :: rest) := by
  cases xs with
  | nil => exact isBoundary_cons (Or.inr (hclose.imp_right Or.inl)) rest
  | cons x xs => exact isBoundary_cons (Or.inl rfl) _

lemma length_le_length_flatMap {α : Type} (write : α → Text) (xs : List α) :
    xs.length ≤ (xs.flatMap fun x => ',' :: write x).length := by
  induction xs with
  | nil => rfl
  | cons x xs ih =>
    simp only [List.flatMap_cons, List.length_append, List.length_cons]
    omega

lemma length_le_length_intercalate {α : Type} {write : α → Text} {xs : List α}
    (h : ∀ x ∈ xs, write x ≠ []) : xs.length ≤ ([','].intercalate (xs.map write)).length := by
  cases xs with
  | nil => rfl
  | cons x xs =>
    have hx := List.length_pos_of_ne_nil (h x List.mem_cons_self)
    have hxs := length_le_length_flatMap write xs
    rw [List.map_cons, intercalate_cons_eq_flatMap, List.flatMap_map, List.length_append,
      List.length_cons]
    omega

/-! ### Items -/

/-- Whether a text starts as an item of an array does: neither with a blank nor with the closing bracket. -/
def Opens (t : Text) : Prop := ∃ c r, t = c :: r ∧ isBlank c = false ∧ c ≠ ']'

lemma Opens.ne_nil {t : Text} (h : Opens t) : t ≠ [] := by
  obtain ⟨c, r, rfl, -⟩ := h
  exact List.cons_ne_nil c r

section Items

variable {α β : Type} {item : Text → Except Fault (β × Text)}

lemma nextItem_true {t : Text} (h : Opens t) (rest : Text) :
    nextItem true (t ++ rest) = .ok (some (t ++ rest)) := by
  obtain ⟨c, r, rfl, hblank, hclose⟩ := h
  simp [nextItem, skipBlanks_cons hblank, hclose]

lemma nextItem_false {t : Text} (h : Opens t) (rest : Text) :
    nextItem false (',' :: (t ++ rest)) = .ok (some (t ++ rest)) := by
  obtain ⟨c, r, rfl, hblank, hclose⟩ := h
  simp [nextItem, skipBlanks_cons (c := ',') (by decide), skipBlanks_cons hblank, hclose]

lemma readItems_cons {fuel : Nat} {first : Bool} {t t' tail rest : Text} {y : β} {ys : List β}
    (hnext : nextItem first t = .ok (some t')) (hitem : item t' = .ok (y, tail))
    (hrest : readItems item fuel false tail = .ok (ys, rest)) :
    readItems item (fuel + 1) first t = .ok (y :: ys, rest) := by
  simp [readItems, hnext, hitem, hrest]

variable {write : α → Text} {result : α → β} {xs : List α}

/-- Items that are written with a comma before each are read up to the closing bracket. -/
lemma readItems_flatMap (hopens : ∀ x ∈ xs, Opens (write x))
    (hitem : ∀ x ∈ xs, ∀ rest, IsBoundary rest → item (write x ++ rest) = .ok (result x, rest))
    (rest : Text) {fuel : Nat} (hfuel : xs.length ≤ fuel) :
    readItems item (fuel + 1) false (xs.flatMap (fun x => ',' :: write x) ++ ']' :: rest)
      = .ok (xs.map result, rest) := by
  induction xs generalizing fuel with
  | nil => rfl
  | cons x xs ih =>
    obtain ⟨fuel, rfl⟩ := Nat.exists_eq_add_one_of_ne_zero (Nat.ne_of_gt (Nat.zero_lt_of_lt hfuel))
    obtain ⟨hx, hxs⟩ := List.forall_mem_cons.mp hopens
    obtain ⟨hreadx, hreadxs⟩ := List.forall_mem_cons.mp hitem
    rw [List.flatMap_cons, List.append_assoc, List.cons_append]
    exact readItems_cons (nextItem_false hx _)
      (hreadx _ (isBoundary_flatMap_append (Or.inl rfl) write xs rest))
      (ih hxs hreadxs (Nat.le_of_succ_le_succ hfuel))

/-- Items that are written with commas between them are read up to the closing bracket. -/
lemma readItems_intercalate (hopens : ∀ x ∈ xs, Opens (write x))
    (hitem : ∀ x ∈ xs, ∀ rest, IsBoundary rest → item (write x ++ rest) = .ok (result x, rest))
    (rest : Text) {fuel : Nat} (hfuel : xs.length ≤ fuel) :
    readItems item (fuel + 1) true ([','].intercalate (xs.map write) ++ ']' :: rest)
      = .ok (xs.map result, rest) := by
  cases xs with
  | nil => rfl
  | cons x xs =>
    obtain ⟨fuel, rfl⟩ := Nat.exists_eq_add_one_of_ne_zero (Nat.ne_of_gt (Nat.zero_lt_of_lt hfuel))
    obtain ⟨hx, hxs⟩ := List.forall_mem_cons.mp hopens
    obtain ⟨hreadx, hreadxs⟩ := List.forall_mem_cons.mp hitem
    rw [List.map_cons, intercalate_cons_eq_flatMap, List.flatMap_map, List.append_assoc]
    exact readItems_cons (nextItem_true hx _)
      (hreadx _ (isBoundary_flatMap_append (Or.inl rfl) write xs rest))
      (readItems_flatMap hxs hreadxs rest (Nat.le_of_succ_le_succ hfuel))

end Items

/-! ### Members -/

def memberText (m : String × Json) : Text := quote m.1 ++ ':' :: render m.2

section Members

variable {value : Text → Except Fault (Json × Text)} {members : List (String × Json)}

lemma nextKey_true (m : String × Json) (rest : Text) :
    nextKey true (memberText m ++ rest)
      = .ok (some (m.1.toList.flatMap escape ++ '"' :: ':' :: (m.2.render ++ rest))) := by
  rw [memberText, List.append_assoc, quote_append]
  rfl

lemma nextKey_false (m : String × Json) (rest : Text) :
    nextKey false (',' :: (memberText m ++ rest))
      = .ok (some (m.1.toList.flatMap escape ++ '"' :: ':' :: (m.2.render ++ rest))) := by
  rw [memberText, List.append_assoc, quote_append]
  rfl

lemma readMembers_cons {fuel : Nat} {first : Bool} {t t' tail rest : Text} {k : String} {x : Json}
    {xs : List (String × Json)}
    (hnext : nextKey first t = .ok (some (k.toList.flatMap escape ++ '"' :: ':' :: t')))
    (hvalue : value t' = .ok (x, tail))
    (hrest : readMembers value fuel false tail = .ok (xs, rest)) :
    readMembers value (fuel + 1) first t = .ok ((k, x) :: xs, rest) := by
  have hcolon (t : Text) : readColon (':' :: t) = .ok t := rfl
  simp [readMembers, hnext, readString_quote, hcolon, hvalue, hrest]

/-- Members that are written with a comma before each are read up to the closing brace. -/
lemma readMembers_flatMap
    (hvalue : ∀ m ∈ members, ∀ rest, IsBoundary rest → value (render m.2 ++ rest) = .ok (m.2, rest))
    (rest : Text) {fuel : Nat} (hfuel : members.length ≤ fuel) :
    readMembers value (fuel + 1) false (members.flatMap (fun m => ',' :: memberText m) ++ '}' :: rest)
      = .ok (members, rest) := by
  induction members generalizing fuel with
  | nil => rfl
  | cons m members ih =>
    obtain ⟨fuel, rfl⟩ := Nat.exists_eq_add_one_of_ne_zero (Nat.ne_of_gt (Nat.zero_lt_of_lt hfuel))
    obtain ⟨hm, hmembers⟩ := List.forall_mem_cons.mp hvalue
    rw [List.flatMap_cons, List.append_assoc, List.cons_append]
    exact readMembers_cons (nextKey_false m _)
      (hm _ (isBoundary_flatMap_append (Or.inr rfl) memberText members rest))
      (ih hmembers (Nat.le_of_succ_le_succ hfuel))

/-- Members that are written with commas between them are read up to the closing brace. -/
lemma readMembers_intercalate
    (hvalue : ∀ m ∈ members, ∀ rest, IsBoundary rest → value (render m.2 ++ rest) = .ok (m.2, rest))
    (rest : Text) {fuel : Nat} (hfuel : members.length ≤ fuel) :
    readMembers value (fuel + 1) true ([','].intercalate (members.map memberText) ++ '}' :: rest)
      = .ok (members, rest) := by
  cases members with
  | nil => rfl
  | cons m members =>
    obtain ⟨fuel, rfl⟩ := Nat.exists_eq_add_one_of_ne_zero (Nat.ne_of_gt (Nat.zero_lt_of_lt hfuel))
    obtain ⟨hm, hmembers⟩ := List.forall_mem_cons.mp hvalue
    rw [List.map_cons, intercalate_cons_eq_flatMap, List.flatMap_map, List.append_assoc]
    exact readMembers_cons (nextKey_true m _)
      (hm _ (isBoundary_flatMap_append (Or.inr rfl) memberText members rest))
      (readMembers_flatMap hmembers rest (Nat.le_of_succ_le_succ hfuel))

end Members

/-! ### Objects in order -/

/-- A member with a greater key than all others goes to the end. -/
lemma insert_of_forall_lt {k : String} {x : Json} {members : List (String × Json)}
    (h : ∀ m ∈ members, m.1 < k) : insert k x members = members ++ [(k, x)] := by
  induction members with
  | nil => rfl
  | cons m members ih =>
    obtain ⟨hm, hmembers⟩ := List.forall_mem_cons.mp h
    rw [insert, if_neg hm.ne', if_neg hm.asymm, ih hmembers, List.cons_append]

/-- Members that are in order stay as they are. -/
lemma ofMembers_eq {members : List (String × Json)}
    (hsorted : (members.map Prod.fst).Pairwise (· < ·)) : ofMembers members = .object members := by
  have hfold (sorted rest : List (String × Json))
      (h : ((sorted ++ rest).map Prod.fst).Pairwise (· < ·)) :
      rest.foldl (fun sorted m => insert m.1 m.2 sorted) sorted = sorted ++ rest := by
    induction rest generalizing sorted with
    | nil => exact (List.append_nil sorted).symm
    | cons m rest ih =>
      have hlast : ∀ n ∈ sorted, n.1 < m.1 := by
        intro n hn
        rw [List.map_append, List.pairwise_append] at h
        exact h.2.2 _ (List.mem_map_of_mem hn) _ (by simp)
      rw [List.foldl_cons, insert_of_forall_lt hlast, ih, List.append_assoc, List.singleton_append]
      simpa using h
  rw [ofMembers, hfold [] members hsorted, List.nil_append]

/-! ### Values -/

lemma renderItems_eq_intercalate (items : List Json) :
    renderItems items = [','].intercalate (items.map render) := by
  induction items with
  | nil => rfl
  | cons x items ih =>
    cases items with
    | nil => simp [renderItems]
    | cons y items => simp [renderItems, ih, List.intercalate_cons_cons]

lemma renderMembers_eq_intercalate (members : List (String × Json)) :
    renderMembers members = [','].intercalate (members.map memberText) := by
  induction members with
  | nil => rfl
  | cons m members ih =>
    cases members with
    | nil => simp [renderMembers, memberText]
    | cons n members => simp [renderMembers, ih, List.intercalate_cons_cons, memberText]

lemma isBlank_of_isDigit {c : Char} (h : c.isDigit = true) : isBlank c = false := by
  have hne {d : Char} (hd : d.isDigit = false) : c ≠ d := ne_of_isDigit h hd
  simp [isBlank, hne (d := ' ') rfl, hne (d := '\n') rfl, hne (d := '\t') rfl, hne (d := '\r') rfl]

lemma IsExact.isReadBack {n : Number} (h : (number n).IsExact) : IsReadBack n := by
  cases h with
  | integer hi => exact isReadBack_integer hi
  | float hx => exact hx

/-- How the text of an exact value starts; only null starts with its letter. -/
lemma exists_render_eq_cons {v : Json} (h : v.IsExact) :
    ∃ c r, v.render = c :: r ∧ isBlank c = false ∧ c ≠ ']' ∧ (v ≠ null → c ≠ 'n') := by
  cases v with
  | null => exact ⟨'n', _, rfl, by decide, by decide, fun hne => absurd rfl hne⟩
  | bool b =>
    cases b with
    | false => exact ⟨'f', _, rfl, by decide, by decide, fun _ => by decide⟩
    | true => exact ⟨'t', _, rfl, by decide, by decide, fun _ => by decide⟩
  | number n =>
    obtain ⟨c, r, hcons, rfl | hdigit⟩ := exists_numberText_eq_cons h.isReadBack
    · exact ⟨'-', r, hcons, by decide, by decide, fun _ => by decide⟩
    · exact ⟨c, r, hcons, isBlank_of_isDigit hdigit, ne_of_isDigit hdigit rfl,
        fun _ => ne_of_isDigit hdigit rfl⟩
  | string s => exact ⟨'"', _, rfl, by decide, by decide, fun _ => by decide⟩
  | array _ => exact ⟨'[', _, rfl, by decide, by decide, fun _ => by decide⟩
  | object _ => exact ⟨'{', _, rfl, by decide, by decide, fun _ => by decide⟩

lemma opens_render {v : Json} (h : v.IsExact) : Opens v.render := by
  obtain ⟨c, r, hcons, hblank, hclose, -⟩ := exists_render_eq_cons h
  exact ⟨c, r, hcons, hblank, hclose⟩

section Node

variable {array object : Text → Except Fault (Json × Text)} {rest : Text}

lemma readNode_of_isDigit {c : Char} (hc : c.isDigit = true) (t : Text) :
    readNode array object (c :: t)
      = (readNumber false (c :: t)).map fun p => (.number p.1, p.2) := by
  have hne {d : Char} (hd : d.isDigit = false) : c ≠ d := ne_of_isDigit hc hd
  simp only [readNode, skipBlanks_cons (isBlank_of_isDigit hc), if_neg (hne (d := 'n') rfl),
    if_neg (hne (d := 't') rfl), if_neg (hne (d := 'f') rfl), if_neg (hne (d := '-') rfl), if_pos hc]
  cases readNumber false (c :: t) <;> rfl

lemma readNode_number {n : Number} (h : IsReadBack n) (hrest : IsBoundary rest) :
    readNode array object (numberText n ++ rest) = .ok (.number n, rest) := by
  obtain ⟨negative, digits, htext, hread⟩ := h
  have happend := readNumber_append hrest hread
  rw [htext]
  cases negative with
  | true =>
    have hminus (t : Text) : readNode array object ('-' :: t)
        = (readNumber true t >>= fun p => .ok (.number p.1, p.2)) := rfl
    rw [if_pos rfl, List.cons_append, hminus, happend]
    rfl
  | false =>
    obtain ⟨c, r, rfl, hdigit⟩ := exists_eq_cons_of_readNumber hread
    rw [if_neg Bool.false_ne_true, List.cons_append, readNode_of_isDigit hdigit, ← List.cons_append,
      happend]
    rfl

/-- What is neither array nor object is read whatever the readers of those are. -/
lemma readNode_render {v : Json} (hexact : v.IsExact) (hleaf : v.depth = 0) (hrest : IsBoundary rest) :
    readNode array object (v.render ++ rest) = .ok (v, rest) := by
  cases v with
  | null => rfl
  | bool b => cases b <;> rfl
  | number n => exact readNode_number hexact.isReadBack hrest
  | string s =>
    have hread (t : Text) : readNode array object ('"' :: t)
        = (readString t >>= fun p => .ok (.string p.1, p.2)) := rfl
    rw [render, quote_append, hread, readString_quote]
    rfl
  | array _ => simp [depth] at hleaf
  | object _ => simp [depth] at hleaf

end Node

section Limit

variable {limit : Nat}

lemma read_bracket (t : Text) : read (limit + 1) ('[' :: t)
    = (readItems (read limit) (t.length + 1) true t >>= fun p => .ok (.array p.1, p.2)) := rfl

lemma read_brace (t : Text) : read (limit + 1) ('{' :: t)
    = (readMembers (read limit) (t.length + 1) true t >>= fun p => .ok (ofMembers p.1, p.2)) := rfl

/-- An array is read back if its items are. -/
lemma read_array {items : List Json} (hopens : ∀ x ∈ items, Opens x.render)
    (hitems : ∀ x ∈ items, ∀ rest, IsBoundary rest → read limit (x.render ++ rest) = .ok (x, rest))
    (rest : Text) : read (limit + 1) ((array items).render ++ rest) = .ok (array items, rest) := by
  have hlength := length_le_length_intercalate fun x hx => (hopens x hx).ne_nil
  rw [render, renderItems_eq_intercalate, List.cons_append, List.append_assoc, List.singleton_append,
    read_bracket, readItems_intercalate hopens hitems rest (by rw [List.length_append]; omega), List.map_id']
  rfl

/-- An object with its members in order is read back if their values are. -/
lemma read_object {members : List (String × Json)}
    (hsorted : (members.map Prod.fst).Pairwise (· < ·))
    (hmembers : ∀ m ∈ members, ∀ rest, IsBoundary rest →
      read limit (m.2.render ++ rest) = .ok (m.2, rest))
    (rest : Text) : read (limit + 1) ((object members).render ++ rest) = .ok (object members, rest) := by
  have hlength : members.length ≤ ([','].intercalate (members.map memberText)).length :=
    length_le_length_intercalate (by simp [memberText, quote])
  rw [render, renderMembers_eq_intercalate, List.cons_append, List.append_assoc, List.singleton_append,
    read_brace, readMembers_intercalate hmembers rest (by rw [List.length_append]; omega)]
  change Except.ok (ofMembers members, rest) = _
  rw [ofMembers_eq hsorted]

/-- Reading undoes writing for every exact value that does not nest too deep. -/
lemma read_render {v : Json} (hexact : v.IsExact) (hdepth : v.depth ≤ limit) {rest : Text}
    (hrest : IsBoundary rest) : read limit (v.render ++ rest) = .ok (v, rest) := by
  -- the limit goes down with every bracket, as the reader does
  induction limit generalizing v rest with
  | zero => exact readNode_render hexact (Nat.le_zero.mp hdepth) hrest
  | succ limit ih =>
    cases hexact with
    | @array items hitems =>
      have hbelow : itemsDepth items ≤ limit := Nat.le_of_succ_le_succ hdepth
      refine read_array (fun x hx => opens_render (hitems x hx)) (fun x hx rest => ?_) rest
      exact ih (hitems x hx) ((depth_le_itemsDepth hx).trans hbelow)
    | @object members hsorted hmembers =>
      have hbelow : membersDepth members ≤ limit := Nat.le_of_succ_le_succ hdepth
      refine read_object hsorted (fun m hm rest => ?_) rest
      exact ih (hmembers m hm) ((depth_le_membersDepth hm).trans hbelow)
    | _ => exact readNode_render (by constructor <;> assumption) rfl hrest

end Limit

end Courier.Json
