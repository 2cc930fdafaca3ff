import Courier.Proofs.Bracketing
import Mathlib

/-!
# Reading JSON documents

What a reader of JSON texts takes is what spells a document that keeps its limits, and it gives the value that the
document stands for: `parse_eq_ok_iff`. Within these limits every document stands for a value (`isReadable_iff`).
-/

namespace Courier.Json

/-! ### Values -/

namespace Document

/-- Whether a document nests at most `limit` deep and stands for a value. -/
def IsReadAs (limit : Nat) (d : Document) (v : Json) : Prop := d.depth ≤ limit ∧ d.value? = some v

/-- Whether a member has a name and a value, and nests at most `limit` deep. -/
def IsMemberReadAs (limit : Nat) (m : List Sign × Document) (n : String × Json) : Prop :=
  (textOf? m.1).map String.ofList = some n.1 ∧ m.2.IsReadAs limit n.2

variable {limit : Nat} {v : Json}

lemma isSome_toOption_number_iff {n : Numeral} :
    n.number.toOption.isSome ↔ n.number ≠ .error .numberOutOfRange := by
  cases h : n.number with
  | ok m => simp [Except.toOption]
  | error f => simp [Except.toOption, Numeral.eq_of_number_eq_error h]

mutual

/-- A document stands for a value exactly if its numbers are in range and its surrogates stand in pairs. -/
lemma isSome_value?_iff : ∀ d : Document, d.value?.isSome ↔ d.HasValue
  | null => ⟨fun _ => .null, fun _ => rfl⟩
  | bool b => ⟨fun _ => .bool b, fun _ => rfl⟩
  | number n => by
    rw [value?, Option.isSome_map, isSome_toOption_number_iff]
    refine ⟨.number, fun h => ?_⟩
    cases h with
    | number h => exact h
  | string signs => by
    rw [value?, Option.isSome_map]
    refine ⟨.string, fun h => ?_⟩
    cases h with
    | string h => exact h
  | array items => by
    rw [value?, Option.isSome_map, isSome_itemsValue?_iff items]
    refine ⟨.array, fun h => ?_⟩
    cases h with
    | array h => exact h
  | object members => by
    rw [value?, Option.isSome_map, isSome_membersValue?_iff members]
    refine ⟨fun h => .object h.1 h.2, fun h => ?_⟩
    cases h with
    | object hnames h => exact ⟨hnames, h⟩

lemma isSome_itemsValue?_iff : ∀ items : List Document, (itemsValue? items).isSome ↔ ∀ d ∈ items, d.HasValue
  | [] => by simp [itemsValue?]
  | d :: rest => by
    rw [itemsValue?, List.forall_mem_cons, ← isSome_value?_iff d, ← isSome_itemsValue?_iff rest]
    cases value? d <;> cases itemsValue? rest <;> simp

lemma isSome_membersValue?_iff : ∀ members : List (List Sign × Document), (membersValue? members).isSome ↔
    (∀ m ∈ members, (textOf? m.1).isSome) ∧ ∀ m ∈ members, m.2.HasValue
  | [] => by simp [membersValue?]
  | (name, d) :: rest => by
    rw [membersValue?, List.forall_mem_cons, List.forall_mem_cons, and_and_and_comm, ← isSome_value?_iff d,
      ← isSome_membersValue?_iff rest]
    cases textOf? name <;> cases value? d <;> cases membersValue? rest <;> simp

end

lemma isReadable_iff {d : Document} : d.IsReadable ↔ ∃ v, d.IsReadAs depthLimit v := by
  simp only [IsReadable, IsReadAs, ← isSome_value?_iff, Option.isSome_iff_exists, exists_and_left]

lemma forall₂_isReadAs_iff {items : List Document} {vs : List Json} :
    List.Forall₂ (IsReadAs limit) items vs ↔ itemsDepth items ≤ limit ∧ itemsValue? items = some vs := by
  induction items generalizing vs with
  | nil =>
    rw [List.forall₂_nil_left_iff, itemsDepth, itemsValue?, Option.some.injEq, eq_comm]
    simp
  | cons d items ih =>
    simp only [List.forall₂_cons_left_iff, ih, IsReadAs, itemsDepth, itemsValue?, max_le_iff, Option.bind_eq_bind,
      Option.bind_eq_some_iff, Option.pure_def, Option.some.injEq]
    constructor
    · rintro ⟨v, vs, ⟨hdepth, hv⟩, ⟨hdepths, hvs⟩, rfl⟩
      exact ⟨⟨hdepth, hdepths⟩, v, hv, vs, hvs, rfl⟩
    · rintro ⟨⟨hdepth, hdepths⟩, v, hv, vs, hvs, rfl⟩
      exact ⟨v, vs, ⟨hdepth, hv⟩, ⟨hdepths, hvs⟩, rfl⟩

lemma forall₂_isMemberReadAs_iff {members : List (List Sign × Document)} {ms : List (String × Json)} :
    List.Forall₂ (IsMemberReadAs limit) members ms
      ↔ membersDepth members ≤ limit ∧ membersValue? members = some ms := by
  induction members generalizing ms with
  | nil =>
    rw [List.forall₂_nil_left_iff, membersDepth, membersValue?, Option.some.injEq, eq_comm]
    simp
  | cons m members ih =>
    obtain ⟨name, d⟩ := m
    simp only [List.forall₂_cons_left_iff, ih, IsMemberReadAs, IsReadAs, membersDepth, membersValue?, max_le_iff,
      Option.bind_eq_bind, Option.bind_eq_some_iff, Option.map_eq_some_iff, Option.pure_def, Option.some.injEq]
    constructor
    · rintro ⟨⟨k, v⟩, ms, ⟨⟨chars, hname, rfl⟩, hdepth, hv⟩, ⟨hdepths, hms⟩, rfl⟩
      exact ⟨⟨hdepth, hdepths⟩, chars, hname, v, hv, ms, hms, rfl⟩
    · rintro ⟨⟨hdepth, hdepths⟩, chars, hname, v, hv, ms, hms, rfl⟩
      exact ⟨(String.ofList chars, v), ms, ⟨⟨chars, hname, rfl⟩, hdepth, hv⟩, ⟨hdepths, hms⟩, rfl⟩

lemma isReadAs_array_iff {items : List Document} :
    (array items).IsReadAs (limit + 1) v ↔ ∃ vs, List.Forall₂ (IsReadAs limit) items vs ∧ v = .array vs := by
  simp only [forall₂_isReadAs_iff, IsReadAs, depth, value?, Nat.succ_le_succ_iff, Option.map_eq_some_iff]
  constructor
  · rintro ⟨hdepth, vs, hvs, rfl⟩
    exact ⟨vs, ⟨hdepth, hvs⟩, rfl⟩
  · rintro ⟨vs, ⟨hdepth, hvs⟩, rfl⟩
    exact ⟨hdepth, vs, hvs, rfl⟩

lemma isReadAs_object_iff {members : List (List Sign × Document)} :
    (object members).IsReadAs (limit + 1) v
      ↔ ∃ ms, List.Forall₂ (IsMemberReadAs limit) members ms ∧ v = ofMembers ms := by
  simp only [forall₂_isMemberReadAs_iff, IsReadAs, depth, value?, Nat.succ_le_succ_iff, Option.map_eq_some_iff]
  constructor
  · rintro ⟨hdepth, ms, hms, rfl⟩
    exact ⟨ms, ⟨hdepth, hms⟩, rfl⟩
  · rintro ⟨ms, ⟨hdepth, hms⟩, rfl⟩
    exact ⟨hdepth, ms, hms, rfl⟩

/-- The spelling of a document starts with a sign of its own. -/
lemma IsSpelling.opens {d : Document} {s : Text} (h : d.IsSpelling s) (rest : Text) : Opens (s ++ rest) := by
  cases h with
  | null => exact ⟨'n', _, rfl, rfl, by decide⟩
  | bool b => cases b <;> exact ⟨_, _, rfl, rfl, by decide⟩
  | number n =>
    obtain ⟨c, r, hinteger, hc⟩ := n.isDigits.exists_eq_cons
    rw [Numeral.text]
    split_ifs
    · exact ⟨'-', _, rfl, rfl, by decide⟩
    · rw [Numeral.unsigned, hinteger]
      exact ⟨c, _, rfl, isBlank_of_isDigit hc, ne_of_isDigit hc rfl⟩
  | string signs => exact ⟨'"', _, rfl, rfl, by decide⟩
  | array => exact ⟨'[', _, rfl, rfl, by decide⟩
  | object => exact ⟨'{', _, rfl, rfl, by decide⟩

end Document

lemma readWord_eq_ok_iff {word t rest : Text} : readWord word t = .ok rest ↔ t = word ++ rest := by
  fun_induction readWord word t with
  | case1 t => simp
  | case2 => simp
  | case3 => simp [*]
  | case4 w word c t hne =>
    simp only [reduceCtorEq, List.cons_append, List.cons.injEq, false_iff, not_and]
    exact fun h => absurd h hne

section Node

variable {array object : Text → Except Fault (Json × Text)} {t rest s : Text} {v : Json} {d : Document}

/-- What is neither array nor object is read whatever the readers of those are. -/
lemma readNode_of_isSpelling (hs : d.IsSpelling s) (hv : d.IsReadAs 0 v) (hrest : EndsNumber rest) :
    readNode array object (s ++ rest) = .ok (v, rest) := by
  obtain ⟨hdepth, hv⟩ := hv
  cases hs with
  | null =>
    obtain rfl := Option.some.inj hv
    rfl
  | bool b =>
    obtain rfl := Option.some.inj hv
    cases b <;> rfl
  | number n =>
    obtain ⟨m, hm, rfl⟩ := Option.map_eq_some_iff.mp hv
    have hread := readNumber_unsigned_append n (hrest.endsBefore n)
    rw [eq_ok_of_toOption hm] at hread
    rw [Numeral.text]
    cases hsign : n.negative with
    | true =>
      have hminus (t : Text) : readNode array object ('-' :: t)
          = (readNumber true t >>= fun p => .ok (.number p.1, p.2)) := rfl
      rw [hsign] at hread
      rw [if_pos rfl, List.cons_append, hminus, hread]
      rfl
    | false =>
      obtain ⟨c, r, hinteger, hc⟩ := n.isDigits.exists_eq_cons
      rw [hsign] at hread
      rw [if_neg Bool.false_ne_true]
      rw [Numeral.unsigned, hinteger, List.cons_append, List.cons_append] at hread ⊢
      rw [readNode_of_isDigit hc, hread]
      rfl
  | string signs =>
    have hquote (t : Text) : readNode array object ('"' :: t)
        = (readString t >>= fun p => .ok (.string p.1, p.2)) := rfl
    obtain ⟨chars, hchars, rfl⟩ := Option.map_eq_some_iff.mp hv
    have hread : readString (signs.flatMap Sign.text ++ '"' :: rest) = .ok (String.ofList chars, rest) :=
      readString_eq_ok_iff.mpr ⟨signs, by rw [hchars]; rfl, rfl⟩
    rw [quoted, List.cons_append, List.append_assoc, hquote, List.singleton_append, hread]
    rfl
  | array h => exact absurd hdepth (by simp [Document.depth])
  | object h => exact absurd hdepth (by simp [Document.depth])

/-- What stands at the start of a value, without blanks before it. -/
inductive Start (array object : Text → Except Fault (Json × Text)) (rest : Text) (v : Json) : Text → Prop
  | leaf {d : Document} {s : Text} (hs : d.IsSpelling s) (hv : d.IsReadAs 0 v) : Start array object rest v (s ++ rest)
  | array {t : Text} (h : array t = .ok (v, rest)) : Start array object rest v ('[' :: t)
  | object {t : Text} (h : object t = .ok (v, rest)) : Start array object rest v ('{' :: t)

lemma exists_start_of_readNode (h : readNode array object t = .ok (v, rest)) :
    ∃ before u, IsBlankText before ∧ Start array object rest v u ∧ t = before ++ u := by
  rw [readNode] at h
  split at h
  · cases h
  · next c r hcons =>
    obtain ⟨before, hbefore, -, rfl⟩ := exists_blanks_of_skipBlanks hcons
    refine ⟨before, c :: r, hbefore, ?_, rfl⟩
    have hword {word : Text} {w : Json} (hw : ∃ d : Document, d.IsSpelling (c :: word) ∧ d.IsReadAs 0 w)
        (h : (do return (w, ← readWord word r)) = Except.ok (v, rest)) : Start array object rest v (c :: r) := by
      obtain ⟨d, hs, hv⟩ := hw
      obtain ⟨tail, htail, h⟩ := bind_eq_ok_iff.mp h
      obtain ⟨rfl, rfl⟩ := Prod.mk.inj (Except.ok.inj h)
      rw [readWord_eq_ok_iff.mp htail]
      exact .leaf hs hv
    have hnumber {n : Numeral} {m : Number} {u : Text} (hm : n.number = .ok m) (hu : u = n.text ++ rest) :
        Start array object rest (.number m) u := by
      rw [hu]
      exact .leaf (.number n) ⟨Nat.zero_le _, by rw [Document.value?, hm]; rfl⟩
    split_ifs at h with hn ht hf hminus hdigit hquote hbracket hbrace
    · subst hn
      exact hword ⟨.null, .null, Nat.zero_le _, rfl⟩ h
    · subst ht
      exact hword ⟨.bool true, .bool true, Nat.zero_le _, rfl⟩ h
    · subst hf
      exact hword ⟨.bool false, .bool false, Nat.zero_le _, rfl⟩ h
    · obtain ⟨⟨m, tail⟩, hread, h⟩ := bind_eq_ok_iff.mp h
      obtain ⟨rfl, rfl⟩ := Prod.mk.inj (Except.ok.inj h)
      obtain ⟨n, hsign, rfl, hm⟩ := exists_numeral_of_readNumber hread
      exact hnumber hm (by rw [Numeral.text, hsign, hminus]; rfl)
    · obtain ⟨⟨m, tail⟩, hread, h⟩ := bind_eq_ok_iff.mp h
      obtain ⟨rfl, rfl⟩ := Prod.mk.inj (Except.ok.inj h)
      obtain ⟨n, hsign, hcr, hm⟩ := exists_numeral_of_readNumber hread
      exact hnumber hm (by rw [Numeral.text, hsign, hcr]; rfl)
    · obtain ⟨⟨k, tail⟩, hread, h⟩ := bind_eq_ok_iff.mp h
      obtain ⟨rfl, rfl⟩ := Prod.mk.inj (Except.ok.inj h)
      obtain ⟨signs, hsigns, rfl⟩ := readString_eq_ok_iff.mp hread
      obtain ⟨chars, hchars, rfl⟩ := Option.map_eq_some_iff.mp hsigns
      have hv : (Document.string signs).IsReadAs 0 (.string (String.ofList chars)) :=
        ⟨Nat.zero_le _, by rw [Document.value?, hchars]; rfl⟩
      have hstart : Start array object tail (.string (String.ofList chars)) (quoted signs ++ tail) :=
        .leaf (.string signs) hv
      rw [hquote]
      simpa [quoted] using hstart
    · rw [hbracket]
      exact .array h
    · rw [hbrace]
      exact .object h

end Node

lemma read_append {blanks : Text} (h : IsBlankText blanks) (limit : Nat) (t : Text) :
    read limit (blanks ++ t) = read limit t := by
  cases limit <;> simp only [read, readNode, skipBlanks_append h]

/-- Whether a reader of values takes what spells a document that keeps its limits, and nothing else. -/
structure ReadsSpellings (limit : Nat) : Prop where
  complete : ∀ {d : Document} {v s rest}, d.IsSpelling s → d.IsReadAs limit v → EndsNumber rest →
    read limit (s ++ rest) = .ok (v, rest)
  sound : ∀ {t v rest}, read limit t = .ok (v, rest) → ∃ (d : Document) (before s : Text), IsBlankText before
    ∧ d.IsSpelling s ∧ d.IsReadAs limit v ∧ t = before ++ (s ++ rest)

namespace ReadsSpellings

variable {limit : Nat} (hread : ReadsSpellings limit)

include hread

lemma isReader_array :
    Bracketing.array.IsReader (read limit) Document.IsSpelling (Document.IsReadAs limit) where
  complete hs hv hrest := ⟨_, ⟨rfl, hs.opens _⟩, hread.complete hs hv hrest⟩
  sound := by
    rintro u t v rest ⟨rfl, c, r, rfl, hc, -⟩ h
    obtain ⟨d, before, s, hbefore, hs, hv, htext⟩ := hread.sound h
    cases before with
    | nil => exact ⟨d, s, hs, hv, htext⟩
    | cons b before =>
      have hb := hbefore b List.mem_cons_self
      rw [← (List.cons.inj htext).1, hc] at hb
      cases hb

lemma isReader_object :
    Bracketing.object.IsReader (readMember (read limit)) (IsMember Document.IsSpelling)
      (Document.IsMemberReadAs limit) where
  complete := by
    rintro ⟨name, d⟩ ⟨k, v⟩ _ rest (@⟨_, _, before, behind, s, hbefore, hbehind, hs⟩) ⟨hk, hv⟩ hrest
    refine ⟨name.flatMap Sign.text ++ '"' :: (before ++ ':' :: (behind ++ (s ++ rest))), ?_, ?_⟩
    · simp [Bracketing.object, quoted]
    · have hkey (t : Text) : readString (name.flatMap Sign.text ++ '"' :: t) = .ok (k, t) :=
        readString_eq_ok_iff.mpr ⟨name, hk, rfl⟩
      have hcolon (t : Text) : readColon (before ++ ':' :: t) = .ok t :=
        readColon_eq_ok_iff.mpr ⟨before, hbefore, rfl⟩
      simp only [readMember, hkey, hcolon, ok_bind, read_append hbehind, hread.complete hs hv hrest]
      rfl
  sound := by
    rintro u t ⟨k, v⟩ rest rfl h
    obtain ⟨⟨k, t₁⟩, hkey, h⟩ := bind_eq_ok_iff.mp h
    obtain ⟨t₂, hcolon, h⟩ := bind_eq_ok_iff.mp h
    obtain ⟨⟨v, t₃⟩, hvalue, h⟩ := bind_eq_ok_iff.mp h
    obtain ⟨⟨rfl, rfl⟩, rfl⟩ : (k = _ ∧ v = _) ∧ t₃ = rest := by simpa  using h
    obtain ⟨name, hname, rfl⟩ := readString_eq_ok_iff.mp hkey
    obtain ⟨before, hbefore, rfl⟩ := readColon_eq_ok_iff.mp hcolon
    obtain ⟨d, behind, s, hbehind, hs, hv, rfl⟩ := hread.sound hvalue
    exact ⟨(name, d), _, .mk hbefore hbehind hs, ⟨hname, hv⟩, by simp [quoted]⟩

lemma read_bracket_eq_ok_iff {t rest : Text} {v : Json} :
    read (limit + 1) ('[' :: t) = .ok (v, rest) ↔ ∃ (items : List Document) (u : Text),
      Listed Document.IsSpelling items u ∧ (Document.array items).IsReadAs (limit + 1) v ∧ t = u ++ ']' :: rest := by
  rw [read_bracket, readItems_eq, bind_eq_ok_iff]
  constructor
  · rintro ⟨⟨vs, tail⟩, hitems, h⟩
    obtain ⟨rfl, rfl⟩ := Prod.mk.inj (Except.ok.inj h)
    obtain ⟨items, u, hu, hvs, rfl⟩ := (Bracketing.read_length_eq_ok_iff hread.isReader_array).mp hitems
    exact ⟨items, u, hu, Document.isReadAs_array_iff.mpr ⟨vs, hvs, rfl⟩, rfl⟩
  · rintro ⟨items, u, hu, hv, rfl⟩
    obtain ⟨vs, hvs, rfl⟩ := Document.isReadAs_array_iff.mp hv
    exact ⟨(vs, rest), (Bracketing.read_length_eq_ok_iff hread.isReader_array).mpr ⟨items, u, hu, hvs, rfl⟩, rfl⟩

lemma read_brace_eq_ok_iff {t rest : Text} {v : Json} :
    read (limit + 1) ('{' :: t) = .ok (v, rest) ↔ ∃ (members : List (List Sign × Document)) (u : Text),
      Listed (IsMember Document.IsSpelling) members u ∧ (Document.object members).IsReadAs (limit + 1) v
        ∧ t = u ++ '}' :: rest := by
  rw [read_brace, readMembers_eq, bind_eq_ok_iff]
  constructor
  · rintro ⟨⟨ms, tail⟩, hmembers, h⟩
    obtain ⟨rfl, rfl⟩ := Prod.mk.inj (Except.ok.inj h)
    obtain ⟨members, u, hu, hms, rfl⟩ := (Bracketing.read_length_eq_ok_iff hread.isReader_object).mp hmembers
    exact ⟨members, u, hu, Document.isReadAs_object_iff.mpr ⟨ms, hms, rfl⟩, rfl⟩
  · rintro ⟨members, u, hu, hv, rfl⟩
    obtain ⟨ms, hms, rfl⟩ := Document.isReadAs_object_iff.mp hv
    exact ⟨(ms, rest), (Bracketing.read_length_eq_ok_iff hread.isReader_object).mpr ⟨members, u, hu, hms, rfl⟩, rfl⟩

end ReadsSpellings

/-- A reader of values takes what spells a document that keeps its limits, and nothing else. -/
lemma readsSpellings (limit : Nat) : ReadsSpellings limit := by
  -- the limit goes down with every bracket, as the reader does
  induction limit with
  | zero =>
    refine ⟨fun hs hv hrest => readNode_of_isSpelling hs hv hrest, fun h => ?_⟩
    obtain ⟨before, u, hbefore, hstart, rfl⟩ := exists_start_of_readNode h
    cases hstart with
    | leaf hs hv => exact ⟨_, before, _, hbefore, hs, hv, rfl⟩
    | array harray => cases harray
    | object hobject => cases hobject
  | succ limit ih =>
    constructor
    · intro d v s rest hs hv hrest
      cases hs with
      | array hu =>
        rw [List.cons_append, List.append_assoc]
        exact ih.read_bracket_eq_ok_iff.mpr ⟨_, _, hu, hv, rfl⟩
      | object hu =>
        rw [List.cons_append, List.append_assoc]
        exact ih.read_brace_eq_ok_iff.mpr ⟨_, _, hu, hv, rfl⟩
      | null => exact readNode_of_isSpelling .null ⟨Nat.zero_le _, hv.2⟩ hrest
      | bool b => exact readNode_of_isSpelling (.bool b) ⟨Nat.zero_le _, hv.2⟩ hrest
      | number n => exact readNode_of_isSpelling (.number n) ⟨Nat.zero_le _, hv.2⟩ hrest
      | string signs => exact readNode_of_isSpelling (.string signs) ⟨Nat.zero_le _, hv.2⟩ hrest
    · intro t v rest h
      obtain ⟨before, u, hbefore, hstart, rfl⟩ := exists_start_of_readNode h
      cases hstart with
      | leaf hs hv => exact ⟨_, before, _, hbefore, hs, ⟨hv.1.trans (Nat.zero_le _), hv.2⟩, rfl⟩
      | array harray =>
        obtain ⟨items, u, hu, hv, rfl⟩ := ih.read_bracket_eq_ok_iff.mp harray
        exact ⟨.array items, before, _, hbefore, .array hu, hv, by simp⟩
      | object hobject =>
        obtain ⟨members, u, hu, hv, rfl⟩ := ih.read_brace_eq_ok_iff.mp hobject
        exact ⟨.object members, before, _, hbefore, .object hu, hv, by simp⟩

lemma readEnd_eq_ok_iff {t : Text} : readEnd t = .ok () ↔ IsBlankText t := by
  rw [readEnd, isBlankText_iff, ← List.isEmpty_iff]
  split_ifs with h <;> simp [h]

/-- What is read as JSON is what spells a document that keeps the limits of readers, with blanks around it, and it
is read as what the document stands for. -/
theorem parse_eq_ok_iff {t : Text} {v : Json} :
    parse t = .ok v ↔ ∃ d : Document, d.IsText t ∧ d.IsReadAs depthLimit v := by
  have hread := readsSpellings depthLimit
  rw [parse, bind_eq_ok_iff]
  constructor
  · rintro ⟨⟨v, behind⟩, hvalue, h⟩
    obtain ⟨u, hend, h⟩ := bind_eq_ok_iff.mp h
    obtain rfl := Except.ok.inj h
    obtain ⟨d, before, s, hbefore, hs, hv, rfl⟩ := hread.sound hvalue
    exact ⟨d, .mk hbefore hs (readEnd_eq_ok_iff.mp hend), hv⟩
  · rintro ⟨d, ht, hv⟩
    obtain ⟨hbefore, hs, hbehind⟩ := ht
    have hends := EndsNumber.blanks_append hbehind (t := []) ⟨rfl, by simp, rfl⟩
    rw [List.append_nil] at hends
    refine ⟨(v, _), ?_, bind_eq_ok_iff.mpr ⟨(), readEnd_eq_ok_iff.mpr hbehind, rfl⟩⟩
    rw [read_append hbefore]
    exact hread.complete hs hv hends

/-- A text that is not read spells no document that keeps the limits of readers. -/
lemma not_isReadable_of_parse {t : Text} {d : Document} (h : (parse t).toOption = none) (ht : d.IsText t) :
    ¬ d.IsReadable := by
  intro hd
  obtain ⟨v, hv⟩ := Document.isReadable_iff.mp hd
  rw [parse_eq_ok_iff.mpr ⟨d, ht, hv⟩] at h
  cases h

end Courier.Json
