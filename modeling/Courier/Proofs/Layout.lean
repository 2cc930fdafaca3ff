import Courier.Command.Run
import Courier.Proofs.Json
import Mathlib

/-!
# Reading back values over several lines

The line breaks and the indentation between the signs of a value do not count. So an exact value is read back from
what is printed of it, on one line or over several ones.
-/

namespace Courier.Json

/-! ### Line breaks -/

lemma isBlank_of_mem_lineBreak {level : Nat} : ∀ c ∈ lineBreak level, isBlank c = true := by
  simp [lineBreak, isBlank]

lemma skipBlanks_lineBreak (level : Nat) (t : Text) : skipBlanks (lineBreak level ++ t) = skipBlanks t :=
  List.dropWhile_append_of_pos isBlank_of_mem_lineBreak

lemma isBoundary_lineBreak (level : Nat) (t : Text) : IsBoundary (lineBreak level ++ t) :=
  isBoundary_cons (by simp) _

/-- A blank before a value does not count. -/
lemma read_cons_of_isBlank {c : Char} (h : isBlank c = true) (limit : Nat) (t : Text) :
    read limit (c :: t) = read limit t := by
  have hskip : skipBlanks (c :: t) = skipBlanks t := List.dropWhile_cons_of_pos h
  cases limit <;> rw [read, readNode, hskip, readNode]

/-- Behind an element of a list over several lines stands a comma or a line break. -/
lemma isBoundary_lines {α : Type} (write : α → Text) (xs : List α) (level : Nat) (rest : Text) :
    IsBoundary (xs.flatMap (fun x => ',' :: write x) ++ lineBreak level ++ rest) := by
  cases xs with
  | nil => exact isBoundary_lineBreak level rest
  | cons x xs => exact isBoundary_cons (Or.inl rfl) _

/-! ### Items -/

section Items

variable {α : Type} {item : Text → Except Fault (α × Text)} {write : α → Text} {xs : List α} {level : Nat}

lemma nextItem_true_lineBreak {t : Text} (h : Opens t) (rest : Text) :
    nextItem true (lineBreak level ++ (t ++ rest)) = .ok (some (t ++ rest)) := by
  obtain ⟨c, r, rfl, hblank, hclose⟩ := h
  simp [nextItem, skipBlanks_lineBreak, skipBlanks_cons hblank, hclose]

lemma nextItem_false_lineBreak {t : Text} (h : Opens t) (rest : Text) :
    nextItem false (',' :: (lineBreak level ++ (t ++ rest))) = .ok (some (t ++ rest)) := by
  obtain ⟨c, r, rfl, hblank, hclose⟩ := h
  simp [nextItem, skipBlanks_lineBreak, skipBlanks_cons (c := ',') (by decide), skipBlanks_cons hblank, hclose]

lemma readItems_close (fuel : Nat) (first : Bool) (rest : Text) :
    readItems item (fuel + 1) first (lineBreak level ++ ']' :: rest) = .ok ([], rest) := by
  have hclose : skipBlanks (']' :: rest) = ']' :: rest := skipBlanks_cons (by decide) rest
  simp [readItems, nextItem, endArray, skipBlanks_lineBreak, hclose]

/-- Items on lines of their own, with a comma before each, are read up to the closing bracket. -/
lemma readItems_lines (hopens : ∀ x ∈ xs, Opens (write x))
    (hitem : ∀ x ∈ xs, ∀ rest, IsBoundary rest → item (write x ++ rest) = .ok (x, rest))
    (outer : Nat) (rest : Text) {fuel : Nat} (hfuel : xs.length ≤ fuel) :
    readItems item (fuel + 1) false
        (xs.flatMap (fun x => ',' :: (lineBreak level ++ write x)) ++ lineBreak outer ++ ']' :: rest)
      = .ok (xs, rest) := by
  induction xs generalizing fuel with
  | nil => exact readItems_close fuel false rest
  | cons x xs ih =>
    obtain ⟨fuel, rfl⟩ := Nat.exists_eq_add_one_of_ne_zero (Nat.ne_of_gt (Nat.zero_lt_of_lt hfuel))
    obtain ⟨hx, hxs⟩ := List.forall_mem_cons.mp hopens
    obtain ⟨hreadx, hreadxs⟩ := List.forall_mem_cons.mp hitem
    simp only [List.flatMap_cons, List.append_assoc, List.cons_append]
    rw [← List.append_assoc _ (lineBreak outer)]
    exact readItems_cons (nextItem_false_lineBreak hx _)
      (hreadx _ (isBoundary_lines (fun x => lineBreak level ++ write x) xs outer _))
      (ih hxs hreadxs (Nat.le_of_succ_le_succ hfuel))

lemma prettyItems_cons (level : Nat) (x : Json) (items : List Json) :
    prettyItems level (x :: items)
      = lineBreak level ++ prettyAt level x
        ++ items.flatMap (fun y => ',' :: (lineBreak level ++ prettyAt level y)) := by
  induction items generalizing x with
  | nil => simp [prettyItems]
  | cons y items ih => simp [prettyItems, ih y]

end Items

/-! ### Members -/

section Members

variable {value : Text → Except Fault (Json × Text)} {members : List (String × Json)} {level : Nat}

/-- A member on a line of its own. -/
def memberLine (level : Nat) (m : String × Json) : Text :=
  lineBreak level ++ (quote m.1 ++ ':' :: ' ' :: prettyAt level m.2)

lemma nextKey_true_lineBreak (k : String) (t : Text) :
    nextKey true (lineBreak level ++ (quote k ++ t)) = .ok (some (k.toList.flatMap escape ++ '"' :: t)) := by
  have hquote (r : Text) : skipBlanks ('"' :: r) = '"' :: r := skipBlanks_cons (by decide) r
  simp [nextKey, skipBlanks_lineBreak, quote_append, hquote]

lemma nextKey_false_lineBreak (k : String) (t : Text) :
    nextKey false (',' :: (lineBreak level ++ (quote k ++ t)))
      = .ok (some (k.toList.flatMap escape ++ '"' :: t)) := by
  have hquote (r : Text) : skipBlanks ('"' :: r) = '"' :: r := skipBlanks_cons (by decide) r
  have hcomma (r : Text) : skipBlanks (',' :: r) = ',' :: r := skipBlanks_cons (by decide) r
  simp [nextKey, skipBlanks_lineBreak, quote_append, hquote, hcomma]

lemma readMembers_close (fuel : Nat) (first : Bool) (rest : Text) :
    readMembers value (fuel + 1) first (lineBreak level ++ '}' :: rest) = .ok ([], rest) := by
  have hclose : skipBlanks ('}' :: rest) = '}' :: rest := skipBlanks_cons (by decide) rest
  simp [readMembers, nextKey, endObject, skipBlanks_lineBreak, hclose]

/-- Members on lines of their own, with a comma before each, are read up to the closing brace. -/
lemma readMembers_lines
    (hvalue : ∀ m ∈ members, ∀ rest, IsBoundary rest →
      value (' ' :: (prettyAt level m.2 ++ rest)) = .ok (m.2, rest))
    (outer : Nat) (rest : Text) {fuel : Nat} (hfuel : members.length ≤ fuel) :
    readMembers value (fuel + 1) false
        (members.flatMap (fun m => ',' :: memberLine level m) ++ lineBreak outer ++ '}' :: rest)
      = .ok (members, rest) := by
  induction members generalizing fuel with
  | nil => exact readMembers_close fuel false rest
  | cons m members ih =>
    obtain ⟨fuel, rfl⟩ := Nat.exists_eq_add_one_of_ne_zero (Nat.ne_of_gt (Nat.zero_lt_of_lt hfuel))
    obtain ⟨hm, hmembers⟩ := List.forall_mem_cons.mp hvalue
    have htext : (m :: members).flatMap (fun m => ',' :: memberLine level m) ++ lineBreak outer ++ '}' :: rest
        = ',' :: (lineBreak level ++ (quote m.1 ++ ':' :: ' ' :: (prettyAt level m.2
          ++ (members.flatMap (fun m => ',' :: memberLine level m) ++ lineBreak outer ++ '}' :: rest)))) := by
      simp [memberLine]
    rw [htext]
    exact readMembers_cons (nextKey_false_lineBreak m.1 _)
      (hm _ (isBoundary_lines (memberLine level) members outer _))
      (ih hmembers (Nat.le_of_succ_le_succ hfuel))

lemma prettyMembers_cons (level : Nat) (m : String × Json) (members : List (String × Json)) :
    prettyMembers level (m :: members)
      = memberLine level m ++ members.flatMap (fun n => ',' :: memberLine level n) := by
  induction members generalizing m with
  | nil => simp [prettyMembers, memberLine]
  | cons n members ih => simp [prettyMembers, memberLine, ih n]

end Members

/-! ### Values -/

lemma prettyAt_eq_render {v : Json} (h : v.depth = 0) (level : Nat) : prettyAt level v = v.render := by
  cases v with
  | array _ => simp [depth] at h
  | object _ => simp [depth] at h
  | bool b => cases b <;> simp [prettyAt, render]
  | _ => simp [prettyAt, render]

lemma opens_prettyAt {v : Json} (h : v.IsExact) (level : Nat) : Opens (prettyAt level v) := by
  cases v with
  | array items =>
    cases items with
    | nil => exact ⟨'[', _, rfl, by decide, by decide⟩
    | cons x items => exact ⟨'[', _, rfl, by decide, by decide⟩
  | object members =>
    cases members with
    | nil => exact ⟨'{', _, rfl, by decide, by decide⟩
    | cons m members => exact ⟨'{', _, rfl, by decide, by decide⟩
  | _ =>
    rw [prettyAt_eq_render (by rfl)]
    exact opens_render h

section Limit

variable {limit level : Nat}

/-- An array over several lines is read back if its items are. -/
lemma read_array_lines {items : List Json} (hopens : ∀ x ∈ items, Opens (prettyAt (level + 1) x))
    (hitems : ∀ x ∈ items, ∀ rest, IsBoundary rest →
      read limit (prettyAt (level + 1) x ++ rest) = .ok (x, rest))
    (rest : Text) : read (limit + 1) (prettyAt level (.array items) ++ rest) = .ok (.array items, rest) := by
  cases items with
  | nil => rfl
  | cons x items =>
    obtain ⟨hx, hxs⟩ := List.forall_mem_cons.mp hopens
    obtain ⟨hreadx, hreadxs⟩ := List.forall_mem_cons.mp hitems
    let write (y : Json) : Text := lineBreak (level + 1) ++ prettyAt (level + 1) y
    let tail : Text := items.flatMap (fun y => ',' :: write y) ++ lineBreak level ++ ']' :: rest
    have htext : prettyAt level (.array (x :: items)) ++ rest
        = '[' :: (lineBreak (level + 1) ++ (prettyAt (level + 1) x ++ tail)) := by
      simp [prettyAt, prettyItems_cons, tail, write]
    have hlength : items.length + 1 ≤ (lineBreak (level + 1) ++ (prettyAt (level + 1) x ++ tail)).length := by
      have := length_le_length_flatMap write items
      simp only [tail, List.length_append, List.length_cons]
      omega
    obtain ⟨fuel, hfuel⟩ := Nat.exists_eq_add_one_of_ne_zero (Nat.ne_of_gt (Nat.zero_lt_of_lt hlength))
    rw [htext, read_bracket, hfuel, readItems_cons (nextItem_true_lineBreak hx tail)
      (hreadx tail (isBoundary_lines write items level _))
      (readItems_lines hxs hreadxs level rest (by omega))]
    rfl

/-- An object over several lines with its members in order is read back if their values are. -/
lemma read_object_lines {members : List (String × Json)} (hsorted : (members.map Prod.fst).Pairwise (· < ·))
    (hmembers : ∀ m ∈ members, ∀ rest, IsBoundary rest →
      read limit (prettyAt (level + 1) m.2 ++ rest) = .ok (m.2, rest))
    (rest : Text) : read (limit + 1) (prettyAt level (.object members) ++ rest) = .ok (.object members, rest) := by
  cases members with
  | nil => rfl
  | cons m members =>
    have hvalue : ∀ m' ∈ m :: members, ∀ rest, IsBoundary rest →
        read limit (' ' :: (prettyAt (level + 1) m'.2 ++ rest)) = .ok (m'.2, rest) := by
      intro m' hm' rest hrest
      rw [read_cons_of_isBlank rfl, hmembers m' hm' rest hrest]
    obtain ⟨hm, hrest⟩ := List.forall_mem_cons.mp hvalue
    let tail : Text := members.flatMap (fun m => ',' :: memberLine (level + 1) m) ++ lineBreak level ++ '}' :: rest
    have htext : prettyAt level (.object (m :: members)) ++ rest
        = '{' :: (lineBreak (level + 1)
          ++ (quote m.1 ++ ':' :: ' ' :: (prettyAt (level + 1) m.2 ++ tail))) := by
      simp [prettyAt, prettyMembers_cons, memberLine, tail]
    have hlength : members.length + 1 ≤ (lineBreak (level + 1)
        ++ (quote m.1 ++ ':' :: ' ' :: (prettyAt (level + 1) m.2 ++ tail))).length := by
      have := length_le_length_flatMap (memberLine (level + 1)) members
      simp only [tail, List.length_append, List.length_cons]
      omega
    obtain ⟨fuel, hfuel⟩ := Nat.exists_eq_add_one_of_ne_zero (Nat.ne_of_gt (Nat.zero_lt_of_lt hlength))
    rw [htext, read_brace, hfuel, readMembers_cons (nextKey_true_lineBreak m.1 _)
      (hm tail (isBoundary_lines (memberLine (level + 1)) members level _))
      (readMembers_lines hrest level rest (by omega))]
    change Except.ok (ofMembers (m :: members), rest) = _
    rw [ofMembers_eq hsorted]

/-- An exact value that does not nest too deep is read back from its form over several lines, at any level. -/
lemma read_prettyAt {v : Json} (hexact : v.IsExact) (hdepth : v.depth ≤ limit) {rest : Text}
    (hrest : IsBoundary rest) : read limit (prettyAt level v ++ rest) = .ok (v, rest) := by
  -- the limit goes down with every bracket, and the level up
  induction limit generalizing v rest level with
  | zero =>
    rw [prettyAt_eq_render (Nat.le_zero.mp hdepth)]
    exact read_render hexact hdepth hrest
  | succ limit ih =>
    cases hexact with
    | @array items hitems =>
      have hbelow : itemsDepth items ≤ limit := Nat.le_of_succ_le_succ hdepth
      refine read_array_lines (fun x hx => opens_prettyAt (hitems x hx) _) (fun x hx rest => ?_) rest
      exact ih (hitems x hx) ((depth_le_itemsDepth hx).trans hbelow)
    | @object members hsorted hmembers =>
      have hbelow : membersDepth members ≤ limit := Nat.le_of_succ_le_succ hdepth
      refine read_object_lines hsorted (fun m hm rest => ?_) rest
      exact ih (hmembers m hm) ((depth_le_membersDepth hm).trans hbelow)
    | _ =>
      rw [prettyAt_eq_render rfl]
      exact read_render (by constructor <;> assumption) hdepth hrest

end Limit

/-- What is printed of an exact value that does not nest too deep is a text of JSON, and of that value. -/
lemma parse_printed {v : Json} (hexact : v.IsExact) (hdepth : v.depth ≤ depthLimit) (compact : Bool) :
    parse (Command.printed compact v).toList = .ok v := by
  have hbreak : IsBoundary ['\n'] := isBoundary_cons (by simp) []
  have hread : read depthLimit ((if compact then v.render else v.pretty) ++ ['\n']) = .ok (v, ['\n']) := by
    cases compact with
    | true => exact read_render hexact hdepth hbreak
    | false => exact read_prettyAt hexact hdepth hbreak
  rw [Command.printed, String.toList_ofList, parse, hread]
  rfl

end Courier.Json
