import Courier.Patch.Basic
import Courier.Proofs.Numeral
import Courier.Proofs.Spelling
import Mathlib

/-!
# Compact JSON

What the printer writes on one line is compact JSON: `Json.isCompact_render` and `Patch.isCompact_render`. It spells a
document that says the value, with no more escapes than it needs, and no other text that spells this document is
shorter, so no blanks are in it. Which values a document says is told without the printer: all members of an object in
their order, integers by their digits, and doubles by any number that rounds to them.
-/

namespace Courier

namespace Json

/-! ### What a document says -/

/-- Whether a sign of a string needs the form in which it is written: only quotes, backslashes and controls are
escaped, and by a number only if no letter stands for them. -/
def Sign.IsNeeded : Sign → Prop
  | plain _ _ => True
  | short letter _ _ => letter ≠ '/'
  | unicode digits _ => hexNumber digits < 0x20 ∧ ∀ p ∈ shortEscapes, p.2.toNat ≠ hexNumber digits

/-- Whether a string says a text, without escapes that it does not need. -/
def SaysText (signs : List Sign) (s : String) : Prop :=
  textOf? signs = some s.toList ∧ ∀ x ∈ signs, x.IsNeeded

inductive SaysMember (P : Document → Json → Prop) : List Sign × Document → String × Json → Prop
  | mk {name : List Sign} {k : String} {d : Document} {v : Json} (hname : SaysText name k) (h : P d v) :
      SaysMember P (name, d) (k, v)

/-- Which values a document says. The members of an object are taken in their order, and all of them. -/
inductive Document.Says : Document → Json → Prop
  | null : Says null .null
  | bool (b : Bool) : Says (bool b) (.bool b)
  | number {n : Numeral} {m : Number} (h : n.Says m) : Says (number n) (.number m)
  | string {signs : List Sign} {s : String} (h : SaysText signs s) : Says (string signs) (.string s)
  | array {items : List Document} {vs : List Json} (h : List.Forall₂ Says items vs) :
      Says (array items) (.array vs)
  | object {members : List (List Sign × Document)} {ms : List (String × Json)}
      (h : List.Forall₂ (SaysMember Says) members ms) : Says (object members) (.object ms)

/-! ### Shortest texts -/

lemma isBlankText_nil : IsBlankText [] := List.forall_mem_nil _

section Shortest

variable {α : Type} {P : α → Text → Prop}

/-- Whether a text is one of the shortest of a kind. -/
def IsShortest (P : Text → Prop) (t : Text) : Prop := P t ∧ ∀ u, P u → t.length ≤ u.length

lemma isShortest_more {xs : List α} {ts : List Text} (h : List.Forall₂ (fun x t => IsShortest (P x) t) xs ts) :
    IsShortest (More P xs) (ts.flatMap (',' :: ·)) := by
  induction h with
  | nil => exact ⟨.nil, fun u _ => Nat.zero_le _⟩
  | @cons x t xs ts hx _ ih =>
    refine ⟨?_, fun u hu => ?_⟩
    · simpa using More.cons isBlankText_nil hx.1 isBlankText_nil ih.1
    · obtain _ | ⟨-, hs, -, hrest⟩ := hu
      have hle := hx.2 _ hs
      have hle' := ih.2 _ hrest
      simp only [List.flatMap_cons, List.length_append, List.length_cons]
      omega

/-- A list is shortest with nothing but commas between its elements. -/
lemma isShortest_listed {xs : List α} {ts : List Text} (h : List.Forall₂ (fun x t => IsShortest (P x) t) xs ts) :
    IsShortest (Listed P xs) ([','].intercalate ts) := by
  cases h with
  | nil => exact ⟨.nil isBlankText_nil, fun u _ => Nat.zero_le _⟩
  | @cons x t xs ts hx hxs =>
    obtain ⟨hmore, hmin⟩ := isShortest_more hxs
    rw [intercalate_cons_eq_flatMap]
    refine ⟨?_, fun u hu => ?_⟩
    · simpa using Listed.cons isBlankText_nil hx.1 isBlankText_nil hmore
    · obtain _ | ⟨-, hs, -, hrest⟩ := hu
      have hle := hx.2 _ hs
      have hle' := hmin _ hrest
      simp only [List.length_append]
      omega

/-- A member is shortest with nothing but a colon between its name and its value. -/
lemma isShortest_member {P : Document → Text → Prop} {name : List Sign} {d : Document} {t : Text}
    (h : IsShortest (P d) t) : IsShortest (IsMember P (name, d)) (quoted name ++ ':' :: t) := by
  refine ⟨?_, fun u hu => ?_⟩
  · have hmember : IsMember P (name, d) _ := .mk isBlankText_nil isBlankText_nil h.1
    simpa using hmember
  · obtain ⟨-, -, hs⟩ := hu
    have hle := h.2 _ hs
    simp only [List.length_append, List.length_cons]
    omega

end Shortest

/-- Compact JSON of a value: a text than which none that spells the same document is shorter. -/
def IsCompact (v : Json) (t : Text) : Prop := ∃ d : Document, d.Says v ∧ IsShortest d.IsSpelling t

/-! ### What is written -/

/-- A control that no letter stands for is written by its number. -/
lemma exists_sign_of_control {c : Char} (hcontrol : c < ' ') (hshort : ∀ p ∈ shortEscapes, p.2 ≠ c) :
    ∃ x : Sign, x.text = ['\\', 'u', '0', '0', hexDigit (c.toNat / 16), hexDigit (c.toNat % 16)] ∧ x.IsNeeded
      ∧ ∀ rest, textOf? (x :: rest) = (textOf? rest).map (c :: ·) := by
  have hlt : c.toNat < 32 := hcontrol
  have hzero : Percent.hexValue? '0' = some 0 := by decide
  have hhigh := hexValue?_hexDigit (c.toNat / 16) (by omega)
  have hlow := hexValue?_hexDigit (c.toNat % 16) (by omega)
  have hhex : IsHex ['0', '0', hexDigit (c.toNat / 16), hexDigit (c.toNat % 16)] := by
    simp [IsHex, hzero, hhigh, hlow]
  have hnumber : hexNumber ['0', '0', hexDigit (c.toNat / 16), hexDigit (c.toNat % 16)] = c.toNat := by
    simp [hexNumber, hzero, hhigh, hlow]
    omega
  refine ⟨.unicode _ hhex, rfl, ⟨by rwa [hnumber], fun p hp => ?_⟩, fun rest => ?_⟩
  · rw [hnumber, Ne, Char.toNat_inj]
    exact hshort p hp
  · rw [textOf?_unicode, hnumber, Char.ofNat_toNat]
    · rw [IsHigh, hnumber]
      omega
    · rw [IsLow, hnumber]
      omega

/-- A character is written as one sign. -/
lemma exists_sign_of_escape (c : Char) : ∃ x : Sign, x.text = escape c ∧ x.IsNeeded
    ∧ ∀ rest, textOf? (x :: rest) = (textOf? rest).map (c :: ·) := by
  have hshort {letter : Char} (h : (letter, c) ∈ shortEscapes) (hletter : letter ≠ '/') :
      ∃ x : Sign, x.text = ['\\', letter] ∧ x.IsNeeded
        ∧ ∀ rest, textOf? (x :: rest) = (textOf? rest).map (c :: ·) :=
    ⟨.short letter c h, rfl, hletter, fun _ => rfl⟩
  rw [escape]
  split_ifs with h1 h2 h3 h4 h5 h6 h7 hcontrol
  · exact hshort (by simp [shortEscapes, h1]) (by decide)
  · exact hshort (by simp [shortEscapes, h2]) (by decide)
  · exact hshort (by simp [shortEscapes, h3]) (by decide)
  · exact hshort (by simp [shortEscapes, h4]) (by decide)
  · exact hshort (by simp [shortEscapes, h5]) (by decide)
  · exact hshort (by simp [shortEscapes, h6]) (by decide)
  · exact hshort (by simp [shortEscapes, h7]) (by decide)
  · refine exists_sign_of_control hcontrol ?_
    have hslash : '/' ≠ c := by
      rintro rfl
      exact absurd hcontrol (by decide)
    simp [shortEscapes, Ne.symm h1, Ne.symm h2, Ne.symm h3, Ne.symm h4, Ne.symm h5, Ne.symm h6, Ne.symm h7, hslash]
  · exact ⟨.plain c ⟨hcontrol, h1, h2⟩, rfl, trivial, fun _ => rfl⟩

lemma exists_signs_of_quote (s : String) : ∃ signs, SaysText signs s ∧ quoted signs = quote s := by
  have hsigns (t : Text) : ∃ signs : List Sign, textOf? signs = some t ∧ (∀ x ∈ signs, x.IsNeeded)
      ∧ signs.flatMap Sign.text = t.flatMap escape := by
    induction t with
    | nil => exact ⟨[], rfl, by simp, rfl⟩
    | cons c t ih =>
      obtain ⟨x, htext, hneeded, hx⟩ := exists_sign_of_escape c
      obtain ⟨signs, hvalue, hall, ht⟩ := ih
      refine ⟨x :: signs, by rw [hx, hvalue]; rfl, List.forall_mem_cons.mpr ⟨hneeded, hall⟩, ?_⟩
      rw [List.flatMap_cons, List.flatMap_cons, htext, ht]
  obtain ⟨signs, hvalue, hall, ht⟩ := hsigns s.toList
  exact ⟨signs, ⟨hvalue, hall⟩, by rw [quoted, quote, ht]⟩

/-- A document with one spelling alone is compact in it. -/
lemma isCompact_of_only {d : Document} {v : Json} {t : Text} (hv : d.Says v) (ht : d.IsSpelling t)
    (honly : ∀ u, d.IsSpelling u → u = t) : v.IsCompact t :=
  ⟨d, hv, ht, fun u hu => by rw [honly u hu]⟩

/-- A list of elements that each are written in a shortest way is written so with commas between them. -/
lemma exists_shortest_listed {α β : Type} {stands : α → β → Prop} {P : α → Text → Prop} {write : β → Text}
    {ys : List β} (h : ∀ y ∈ ys, ∃ x, stands x y ∧ IsShortest (P x) (write y)) :
    ∃ xs, List.Forall₂ stands xs ys ∧ IsShortest (Listed P xs) ([','].intercalate (ys.map write)) := by
  have hlists : ∃ xs, List.Forall₂ stands xs ys
      ∧ List.Forall₂ (fun x t => IsShortest (P x) t) xs (ys.map write) := by
    induction ys with
    | nil => exact ⟨[], .nil, .nil⟩
    | cons y ys ih =>
      obtain ⟨⟨x, hstands, hx⟩, hys⟩ := List.forall_mem_cons.mp h
      obtain ⟨xs, hxs, hts⟩ := ih hys
      exact ⟨x :: xs, .cons hstands hxs, .cons hx hts⟩
  obtain ⟨xs, hxs, hts⟩ := hlists
  exact ⟨xs, hxs, isShortest_listed hts⟩

lemma isCompact_array {vs : List Json} (h : ∀ v ∈ vs, v.IsCompact v.render) :
    (array vs).IsCompact (array vs).render := by
  obtain ⟨items, hitems, hlisted, hmin⟩ := exists_shortest_listed h
  rw [render, renderItems_eq_intercalate]
  refine ⟨.array items, .array hitems, .array hlisted, fun u hu => ?_⟩
  cases hu with
  | array hu =>
    have hle := hmin _ hu
    simp only [List.length_cons, List.length_append]
    omega

lemma isCompact_object {ms : List (String × Json)} (h : ∀ m ∈ ms, m.2.IsCompact m.2.render) :
    (object ms).IsCompact (object ms).render := by
  have hmembers : ∀ m ∈ ms, ∃ x, SaysMember Document.Says x m
      ∧ IsShortest (IsMember Document.IsSpelling x) (memberText m) := by
    intro m hm
    obtain ⟨d, hd, hshortest⟩ := h m hm
    obtain ⟨name, hname, hquote⟩ := exists_signs_of_quote m.1
    refine ⟨(name, d), .mk hname hd, ?_⟩
    rw [memberText, ← hquote]
    exact isShortest_member hshortest
  obtain ⟨members, hsays, hlisted, hmin⟩ := exists_shortest_listed hmembers
  rw [render, renderMembers_eq_intercalate]
  refine ⟨.object members, .object hsays, .object hlisted, fun u hu => ?_⟩
  cases hu with
  | object hu =>
    have hle := hmin _ hu
    simp only [List.length_cons, List.length_append]
    omega

mutual

/-- What is written for a value is compact JSON of it. -/
theorem isCompact_render (v : Json) : v.IsCompact v.render := by
  match v with
  | null => exact isCompact_of_only .null .null fun u h => by cases h; rfl
  | bool true => exact isCompact_of_only (.bool true) (.bool true) fun u h => by cases h; rfl
  | bool false => exact isCompact_of_only (.bool false) (.bool false) fun u h => by cases h; rfl
  | number m =>
    obtain ⟨n, hn, ht⟩ := exists_numeral_of_number m
    rw [render, ← ht]
    exact isCompact_of_only (.number hn) (.number n) fun u h => by cases h; rfl
  | string s =>
    obtain ⟨signs, hs, ht⟩ := exists_signs_of_quote s
    rw [render, ← ht]
    exact isCompact_of_only (.string hs) (.string signs) fun u h => by cases h; rfl
  | array vs => exact isCompact_array (isCompact_render_of_mem vs)
  | object ms => exact isCompact_object (isCompact_render_of_mem_members ms)

theorem isCompact_render_of_mem (vs : List Json) : ∀ v ∈ vs, v.IsCompact v.render := by
  match vs with
  | [] => exact List.forall_mem_nil _
  | v :: vs => exact List.forall_mem_cons.mpr ⟨isCompact_render v, isCompact_render_of_mem vs⟩

theorem isCompact_render_of_mem_members (ms : List (String × Json)) : ∀ m ∈ ms, m.2.IsCompact m.2.render := by
  match ms with
  | [] => exact List.forall_mem_nil _
  | (k, v) :: ms => exact List.forall_mem_cons.mpr ⟨isCompact_render v, isCompact_render_of_mem_members ms⟩

end

end Json

/-! ### Patch documents -/

/-- Whether members are those of an operation: the fields that it has, each under its name, and in this order. -/
structure PatchOperation.HasMembers (o : PatchOperation) (ms : List (String × Json)) : Prop where
  names : (ms.map Prod.fst).Sublist ["op", "path", "from", "value"]
  op : ms.lookup "op" = some (.string o.kind.name)
  path : ms.lookup "path" = some (.string o.path)
  source : ms.lookup "from" = o.source.map .string
  value : ms.lookup "value" = o.value

/-- Compact JSON of a patch document: an array with one object for each operation. -/
def Patch.IsCompact (p : Patch) (t : Text) : Prop :=
  ∃ objects, List.Forall₂ PatchOperation.HasMembers p objects ∧ (Json.array (objects.map .object)).IsCompact t

lemma PatchOperation.hasMembers_members (o : PatchOperation) : o.HasMembers o.members := by
  obtain ⟨kind, path, source, value⟩ := o
  cases source <;> cases value <;> constructor <;> simp [members, List.lookup]

/-- What is written for a patch document is compact JSON of it. -/
theorem Patch.isCompact_render (p : Patch) : p.IsCompact p.render := by
  refine ⟨p.map PatchOperation.members, ?_, ?_⟩
  · exact List.forall₂_map_right_iff.mpr (List.forall₂_same.mpr fun o _ => o.hasMembers_members)
  · have hrender : p.render = (Json.array ((p.map PatchOperation.members).map .object)).render := by
      rw [Json.render, Json.renderItems_eq_intercalate, List.map_map, List.map_map]
      rfl
    rw [hrender]
    exact Json.isCompact_render _

end Courier
