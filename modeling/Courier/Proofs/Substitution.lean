import Courier.Endpoint
import Courier.Proofs.Path
import Mathlib

/-!
# Simultaneous substitution

The placeholders of a template are replaced parameter by parameter, in a text that holds earlier values
already. On a flat template, in which no opening brace is followed by another one before the next
closing brace, this is the same as one pass from left to right that looks every name up once.
-/

namespace Courier.Template

open Percent Url

/-! ### Flat templates -/

/-- Whether no opening brace is followed by another one before the next closing brace. -/
def isFlat : Text → Bool
  | [] => true
  | c :: t => (c ≠ '{' || '}' ∉ t || '{' ∉ t.takeWhile (· ≠ '}')) && isFlat t

/-- How a flat template is put together from its end. -/
inductive Flat : Text → Prop
  | unclosed {t : Text} (h : '}' ∉ t) : Flat t
  | char {c : Char} {t : Text} (hc : c ≠ '{') (ht : Flat t) : Flat (c :: t)
  | hole {name t : Text} (hopen : '{' ∉ name) (hclose : '}' ∉ name) (ht : Flat t) :
      Flat (placeholder name ++ t)

lemma placeholder_append (name t : Text) :
    placeholder name ++ t = '{' :: (name ++ '}' :: t) := by
  simp [placeholder]

lemma isFlat_of_append {s t : Text} (h : isFlat (s ++ t)) : isFlat t := by
  induction s with
  | nil => exact h
  | cons c s ih =>
    rw [List.cons_append, isFlat, Bool.and_eq_true] at h
    exact ih h.2

lemma takeWhile_name_append {name : Text} (hname : '}' ∉ name) (t : Text) :
    (name ++ '}' :: t).takeWhile (· ≠ '}') = name :=
  takeWhile_ne_append hname (by simp)

/-- A text with a closing brace is cut at the first one. -/
lemma exists_eq_takeWhile_append {t : Text} (h : '}' ∈ t) :
    ∃ rest, '}' ∉ t.takeWhile (· ≠ '}') ∧ t = t.takeWhile (· ≠ '}') ++ '}' :: rest := by
  obtain ⟨name, rest, rfl, hname⟩ := List.eq_append_cons_of_mem h
  rw [takeWhile_name_append hname]
  exact ⟨rest, hname, rfl⟩

lemma flat_of_isFlat {t : Text} (h : isFlat t) : Flat t := by
  match t with
  | [] => exact .unclosed (by simp)
  | c :: t =>
    have ht : isFlat t := isFlat_of_append (s := [c]) h
    by_cases hc : c = '{'
    · subst hc
      by_cases hclose : '}' ∈ t
      · obtain ⟨rest, hname, hrest⟩ := exists_eq_takeWhile_append hclose
        have hopen : '{' ∉ t.takeWhile (· ≠ '}') := by
          simp only [isFlat, Bool.and_eq_true, Bool.or_eq_true, decide_eq_true_eq] at h
          exact (h.1.resolve_left (by simp [hclose]))
        have hflat : Flat rest := by
          rw [hrest, List.append_cons] at ht
          exact flat_of_isFlat (isFlat_of_append ht)
        rw [hrest, ← placeholder_append]
        exact .hole hopen hname hflat
      · exact .unclosed (by simp [hclose])
    · exact .char hc (flat_of_isFlat ht)
termination_by t.length
decreasing_by
  · have := congrArg List.length hrest
    simp at this ⊢
    omega
  · simp

lemma Flat.append {s t : Text} (hs : '{' ∉ s) (ht : Flat t) : Flat (s ++ t) := by
  induction s with
  | nil => exact ht
  | cons c s ih =>
    obtain ⟨hc, hs⟩ := not_or.mp (List.mem_cons.not.mp hs)
    exact .char (Ne.symm hc) (ih hs)

/-! ### One pass -/

/-- Replaces every placeholder that has a value, in one pass from left to right. -/
def instantiate (value : Text → Option Text) : Text → Text
  | [] => []
  | c :: t =>
    match if c = '{' ∧ '}' ∈ t then value (t.takeWhile (· ≠ '}')) else none with
    | some v => v ++ instantiate value (t.drop ((t.takeWhile (· ≠ '}')).length + 1))
    | none => c :: instantiate value t
termination_by t => t.length
decreasing_by all_goals simp only [List.length_drop, List.length_cons]; omega

/-- The value of a name as a path segment: that of the first parameter of this name. -/
def valueOf (parameters : List (String × String)) (name : Text) : Option Text :=
  (parameters.lookup (String.ofList name)).map fun value => encodeValue value.toList

section Instantiate

variable {value : Text → Option Text}

@[simp] lemma instantiate_nil : instantiate value [] = [] := by rw [instantiate]

lemma instantiate_cons_of_ne {c : Char} (hc : c ≠ '{') (t : Text) :
    instantiate value (c :: t) = c :: instantiate value t := by
  rw [instantiate]
  simp [hc]

lemma instantiate_append {s : Text} (hs : '{' ∉ s) (t : Text) :
    instantiate value (s ++ t) = s ++ instantiate value t := by
  induction s with
  | nil => rfl
  | cons c s ih =>
    obtain ⟨hc, hs⟩ := not_or.mp (List.mem_cons.not.mp hs)
    rw [List.cons_append, instantiate_cons_of_ne (Ne.symm hc), ih hs, List.cons_append]

lemma instantiate_of_unclosed {t : Text} (h : '}' ∉ t) : instantiate value t = t := by
  induction t with
  | nil => exact instantiate_nil
  | cons c t ih =>
    have ht : '}' ∉ t := fun hmem => h (List.mem_cons_of_mem c hmem)
    rw [instantiate, if_neg fun hopen => ht hopen.2, ih ht]

lemma instantiate_hole_of_some {name v : Text} (hclose : '}' ∉ name) (hv : value name = some v)
    (t : Text) : instantiate value (placeholder name ++ t) = v ++ instantiate value t := by
  have hdrop : (name ++ '}' :: t).drop (name.length + 1) = t := by simp
  rw [placeholder_append, instantiate, if_pos ⟨rfl, by simp⟩, takeWhile_name_append hclose, hv]
  simp only [hdrop]

lemma instantiate_hole_of_none {name : Text} (hopen : '{' ∉ name) (hclose : '}' ∉ name)
    (hv : value name = none) (t : Text) :
    instantiate value (placeholder name ++ t) = placeholder name ++ instantiate value t := by
  have hrest : '{' ∉ name ++ ['}'] := by simp [hopen]
  rw [placeholder_append, instantiate, if_pos ⟨rfl, by simp⟩, takeWhile_name_append hclose, hv]
  simp only []
  rw [List.append_cons, instantiate_append hrest, ← List.append_cons, ← placeholder_append]

end Instantiate

/-! ### One parameter after the other -/

section Replace

variable {name new : Text}

lemma replaceAll_nil : replaceAll (placeholder name) new [] = [] := by rw [replaceAll]

lemma replaceAll_cons_of_unmatched {c : Char} {t : Text} (h : ¬ placeholder name <+: c :: t) :
    replaceAll (placeholder name) new (c :: t) = c :: replaceAll (placeholder name) new t := by
  rw [replaceAll, if_neg (by rwa [List.isPrefixOf_iff_prefix])]

lemma replaceAll_cons_of_ne {c : Char} (hc : c ≠ '{') (t : Text) :
    replaceAll (placeholder name) new (c :: t) = c :: replaceAll (placeholder name) new t :=
  replaceAll_cons_of_unmatched fun h => hc (List.cons_prefix_cons.mp h).1.symm

lemma replaceAll_append {s : Text} (hs : '{' ∉ s) (t : Text) :
    replaceAll (placeholder name) new (s ++ t) = s ++ replaceAll (placeholder name) new t := by
  induction s with
  | nil => rfl
  | cons c s ih =>
    obtain ⟨hc, hs⟩ := not_or.mp (List.mem_cons.not.mp hs)
    rw [List.cons_append, replaceAll_cons_of_ne (Ne.symm hc), ih hs, List.cons_append]

lemma replaceAll_of_unclosed {t : Text} (h : '}' ∉ t) :
    replaceAll (placeholder name) new t = t := by
  induction t with
  | nil => exact replaceAll_nil
  | cons c t ih =>
    have hprefix : ¬ placeholder name <+: c :: t :=
      fun hp => h (hp.subset (by simp [placeholder]))
    rw [replaceAll_cons_of_unmatched hprefix, ih fun hmem => h (List.mem_cons_of_mem c hmem)]

lemma replaceAll_placeholder_append (t : Text) :
    replaceAll (placeholder name) new (placeholder name ++ t)
      = new ++ replaceAll (placeholder name) new t := by
  have hprefix : placeholder name <+: '{' :: (name ++ '}' :: t) :=
    ⟨t, placeholder_append name t⟩
  have hdrop : (name ++ '}' :: t).drop ((placeholder name).length - 1) = t := by
    simp [placeholder]
  rw [placeholder_append, replaceAll, if_pos (List.isPrefixOf_iff_prefix.mpr hprefix), hdrop]

lemma replaceAll_placeholder_append_of_ne (hname : '}' ∉ name) {other : Text}
    (hopen : '{' ∉ other) (hclose : '}' ∉ other) (hne : other ≠ name) (t : Text) :
    replaceAll (placeholder name) new (placeholder other ++ t)
      = placeholder other ++ replaceAll (placeholder name) new t := by
  have hprefix : ¬ placeholder name <+: '{' :: (other ++ '}' :: t) := by
    rintro ⟨r, hr⟩
    rw [placeholder_append, List.cons.injEq] at hr
    have hnames := congrArg (List.takeWhile (· ≠ '}')) hr.2
    rw [takeWhile_name_append hname, takeWhile_name_append hclose] at hnames
    exact hne hnames.symm
  have hrest : '{' ∉ other ++ ['}'] := by simp [hopen]
  rw [placeholder_append, replaceAll_cons_of_unmatched hprefix, List.append_cons,
    replaceAll_append hrest, ← List.append_cons, ← placeholder_append]

/-- Replacing one placeholder in a flat template by text without braces leaves it flat. -/
lemma Flat.replaceAll {t : Text} (ht : Flat t) (hname : '}' ∉ name) (hnew : '{' ∉ new) :
    Flat (replaceAll (placeholder name) new t) := by
  induction ht with
  | unclosed h =>
    rw [replaceAll_of_unclosed h]
    exact .unclosed h
  | char hc _ ih =>
    rw [replaceAll_cons_of_ne hc]
    exact .char hc ih
  | @hole other t hopen hclose _ ih =>
    by_cases hne : other = name
    · rw [hne, replaceAll_placeholder_append]
      exact ih.append hnew
    · rw [replaceAll_placeholder_append_of_ne hname hopen hclose hne]
      exact .hole hopen hclose ih

/-- One pass after the placeholders of one name are replaced is one pass that knows this name, too. -/
lemma instantiate_replaceAll {t : Text} (ht : Flat t) (hname : '}' ∉ name) (hnew : '{' ∉ new)
    (value : Text → Option Text) :
    instantiate value (replaceAll (placeholder name) new t)
      = instantiate (fun other => if other = name then some new else value other) t := by
  induction ht with
  | unclosed h =>
    rw [replaceAll_of_unclosed h, instantiate_of_unclosed h, instantiate_of_unclosed h]
  | char hc _ ih => rw [replaceAll_cons_of_ne hc, instantiate_cons_of_ne hc, ih,
      instantiate_cons_of_ne hc]
  | @hole other t hopen hclose _ ih =>
    by_cases hne : other = name
    · rw [hne, replaceAll_placeholder_append, instantiate_append hnew, ih,
        instantiate_hole_of_some (hne ▸ hclose) (if_pos rfl)]
    · rw [replaceAll_placeholder_append_of_ne hname hopen hclose hne]
      cases hv : value other with
      | none =>
        rw [instantiate_hole_of_none hopen hclose hv, ih,
          instantiate_hole_of_none hopen hclose (by rw [if_neg hne, hv])]
      | some v =>
        rw [instantiate_hole_of_some hclose hv, ih,
          instantiate_hole_of_some hclose (by rw [if_neg hne, hv])]

end Replace

/-! ### Values -/

lemma valueKeep_percent : valueKeep '%' = false := by decide

lemma toNat_lt_of_valueKeep {c : Char} (h : valueKeep c) : c.toNat < 128 := by
  simp only [valueKeep, Char.isAlphanum, Char.isAlpha, Char.isUpper, Char.isLower, Char.isDigit,
    Bool.or_eq_true, Bool.and_eq_true, decide_eq_true_eq, List.mem_cons, List.not_mem_nil,
    or_false, UInt32.le_iff_toNat_le, ge_iff_le] at h
  rcases h with h | h
  · simp at h
    omega
  · rcases h with rfl | rfl | rfl | rfl | rfl | rfl | rfl | rfl | rfl | rfl | rfl | rfl | rfl | rfl |
      rfl | rfl | rfl <;> decide

/-- What is kept in a value is kept in a path, and no path is cut at it. -/
lemma pathKeep_of_valueKeep {c : Char} (h : valueKeep c) :
    pathKeep c ∧ isSeparator .web c = false := by
  have hascii : ∀ n < 128, valueKeep (Char.ofNat n) →
      pathKeep (Char.ofNat n) ∧ isSeparator .web (Char.ofNat n) = false := by decide
  simpa using hascii c.toNat (toNat_lt_of_valueKeep h) (by simpa using h)

/-- A written value is text as it stands in a path. -/
lemma pathKeep_of_mem_encodeValue {value : Text} :
    ∀ c ∈ encodeValue value, pathKeep c ∧ isSeparator .web c = false :=
  forall_mem_encode (fun _ _ => pathKeep_of_valueKeep) (by decide) (by decide)

lemma encode_encodeValue (value : Text) :
    encode pathKeep (encodeValue value) = encodeValue value :=
  encode_eq_self fun c hc => (pathKeep_of_mem_encodeValue c hc).1

lemma open_not_mem_encodeValue (value : Text) : '{' ∉ encodeValue value :=
  fun h => absurd (pathKeep_of_mem_encodeValue _ h).1 (by decide)

lemma slash_not_mem_encodeValue (value : Text) : '/' ∉ encodeValue value :=
  fun h => absurd (pathKeep_of_mem_encodeValue _ h).2 (by decide)

lemma encodeValue_ne_nil {value : Text} (h : value ≠ []) : encodeValue value ≠ [] :=
  fun hnil => h (encode_eq_nil_iff.mp hnil)

@[simp] lemma decode_encodeValue (value : Text) : decode (encodeValue value) = value.utf8 :=
  decode_encode valueKeep_percent value

lemma valueOf_nil : valueOf [] = fun _ => none := rfl

lemma valueOf_cons (name value : String) (rest : List (String × String)) :
    valueOf ((name, value) :: rest) = fun other =>
      if other = name.toList then some (encodeValue value.toList) else valueOf rest other := by
  funext other
  by_cases h : other = name.toList
  · simp [valueOf, h]
  · have hne : (String.ofList other == name) = false := by
      rw [beq_eq_false_iff_ne]
      rintro rfl
      exact h (by simp)
    simp [valueOf, List.lookup_cons, hne, h]

/-- Names without braces and values that are not empty. -/
def IsProper (parameters : List (String × String)) : Prop :=
  ∀ p ∈ parameters, '{' ∉ p.1.toList ∧ '}' ∉ p.1.toList ∧ p.2 ≠ ""

lemma instantiate_none (t : Text) : instantiate (fun _ => none) t = t := by
  induction t with
  | nil => exact instantiate_nil
  | cons c t ih => rw [instantiate, ite_self, ih]

end Courier.Template

namespace Courier.Endpoint

open Template

/-- Replacing the parameters of a flat template in turn is one pass. -/
lemma fill_eq_instantiate {parameters : List (String × String)} (hp : IsProper parameters)
    {t : Text} (ht : Flat t) : fill t parameters = .ok (instantiate (valueOf parameters) t) := by
  induction parameters generalizing t with
  | nil => rw [fill, valueOf_nil, instantiate_none]
  | cons p rest ih =>
    obtain ⟨name, value⟩ := p
    obtain ⟨⟨_, hclose, hvalue⟩, hrest⟩ := List.forall_mem_cons.mp hp
    have hnew := open_not_mem_encodeValue value.toList
    rw [fill, if_neg (by simpa using hvalue), substitute, ih hrest (ht.replaceAll hclose hnew),
      instantiate_replaceAll ht hclose hnew, valueOf_cons]

lemma resolve_congr {service template template' : String} {parameters parameters'}
    (h : fill template.toList parameters = fill template'.toList parameters') :
    resolve service template parameters = resolve service template' parameters' := by
  rw [resolve, resolve, h]

/-! ### The order of parameters -/

lemma lookup_cons_cons_of_ne {p q : String × String} (hne : p.1 ≠ q.1)
    (rest : List (String × String)) (name : String) :
    (p :: q :: rest).lookup name = (q :: p :: rest).lookup name := by
  obtain ⟨m, v⟩ := p
  obtain ⟨n, w⟩ := q
  by_cases hm : name = m
  · subst hm
    simp [List.lookup_cons, beq_eq_false_iff_ne.mpr hne]
  · simp [List.lookup_cons, beq_eq_false_iff_ne.mpr hm]

lemma lookup_eq_of_perm {parameters others : List (String × String)}
    (h : parameters.Perm others) (hnames : (parameters.map Prod.fst).Nodup) (name : String) :
    parameters.lookup name = others.lookup name := by
  induction h with
  | nil => rfl
  | cons p _ ih =>
    rw [List.map_cons, List.nodup_cons] at hnames
    rw [List.lookup_cons, List.lookup_cons, ih hnames.2]
  | swap p q l =>
    refine lookup_cons_cons_of_ne (fun heq => ?_) l name
    rw [List.map_cons, List.map_cons, List.nodup_cons, heq] at hnames
    exact hnames.1 List.mem_cons_self
  | trans h₁ _ ih₁ ih₂ => exact (ih₁ hnames).trans (ih₂ ((h₁.map Prod.fst).nodup hnames))

/-- Only the first value of each name counts. -/
lemma resolve_congr_lookup (service : String) {template : String} (ht : Flat template.toList)
    {parameters others : List (String × String)} (hp : IsProper parameters)
    (ho : ∀ p ∈ others, p ∈ parameters)
    (h : ∀ name, parameters.lookup name = others.lookup name) :
    resolve service template parameters = resolve service template others := by
  have hvalue : valueOf parameters = valueOf others := by
    funext name
    rw [valueOf, valueOf, h]
  apply resolve_congr
  rw [fill_eq_instantiate hp ht, fill_eq_instantiate (fun p hq => hp p (ho p hq)) ht, hvalue]

/-- On a flat template, substitution is simultaneous: `resolve` does with parameters what it does
without any to the template that one pass makes of it. So the order of parameters of different names
does not matter. -/
theorem resolve_eq_resolve_instantiate (service : String) {template : String}
    {parameters : List (String × String)} (ht : isFlat template.toList)
    (hp : IsProper parameters) :
    resolve service template parameters
        = resolve service
            (String.ofList (instantiate (valueOf parameters) template.toList)) []
      ∧ (∀ others, parameters.Perm others → (parameters.map Prod.fst).Nodup →
          resolve service template parameters = resolve service template others)
      ∧ ∀ before p q rest, parameters = before ++ p :: q :: rest → p.1 ≠ q.1 →
          resolve service template parameters
            = resolve service template (before ++ q :: p :: rest) := by
  have hflat := flat_of_isFlat ht
  refine ⟨?_, ?_, ?_⟩
  · apply resolve_congr
    rw [fill_eq_instantiate hp hflat, String.toList_ofList, fill]
  · intro others hperm hnames
    exact resolve_congr_lookup service hflat hp (fun p h => hperm.mem_iff.mpr h)
      (lookup_eq_of_perm hperm hnames)
  · rintro before p q rest rfl hne
    refine resolve_congr_lookup service hflat hp (fun x h => ?_) fun name => ?_
    · simpa [or_left_comm] using h
    · rw [List.lookup_append, List.lookup_append, lookup_cons_cons_of_ne hne]

/-- A value that spells the placeholder of another parameter stays as it is. -/
theorem resolve_eq_resolve_instantiate_braces :
    isFlat "/a{x}/{y}\x7bz".toList ∧ IsProper [("x", "{y}"), ("y", "1/2"), ("x", "3")]
      ∧ instantiate (valueOf [("x", "{y}"), ("y", "1/2"), ("x", "3")]) "/a{x}/{y}\x7bz".toList
          = "/a%7By%7D/1%2F2\x7bz".toList
      ∧ resolve "https://h/v1" "/a{x}/{y}\x7bz" [("x", "{y}"), ("y", "1/2"), ("x", "3")]
          = resolve "https://h/v1" (String.ofList (instantiate
              (valueOf [("x", "{y}"), ("y", "1/2"), ("x", "3")]) "/a{x}/{y}\x7bz".toList)) [] := by
  have ht : isFlat "/a{x}/{y}\x7bz".toList := by decide
  have hp : IsProper [("x", "{y}"), ("y", "1/2"), ("x", "3")] := by
    simp [IsProper]
  exact ⟨ht, hp, by decide +kernel, (resolve_eq_resolve_instantiate _ ht hp).1⟩

end Courier.Endpoint
