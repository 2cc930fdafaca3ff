import Courier.Proofs.Service
import Mathlib

/-!
# What is refused when a template is resolved

A template is resolved unless the service URL is empty, or is no absolute URL that others can be relative to,
or a parameter has an empty value. The first of these faults is the one that is told, and of several empty
values the first one in the list. The template is never at fault: neither its text nor the placeholders in it
decide anything.
-/

namespace Courier.Url

open Percent

/-! ### URLs that others can be relative to -/

/-- What stands behind the scheme of a URL and its colon. -/
def behindScheme (u : Url) : Text := u.text.drop (u.scheme.toList.length + 1)

/-- Whether a slash stands behind the scheme of a URL. Only such a URL can be the base of others. -/
def IsBase (u : Url) : Prop := u.behindScheme.head? = some '/'

lemma behindScheme_eq (u : Url) : u.behindScheme
    = (u.authority.elim [] fun a => '/' :: '/' :: a.text) ++ (if u.guarded then "/.".toList else [])
      ++ u.pathText ++ suffixText '?' u.query ++ suffixText '#' u.fragment := by
  have hlength : u.scheme.toList.length + 1 = (u.scheme.toList ++ [':']).length := by simp
  have htext : u.text = (u.scheme.toList ++ [':'])
      ++ ((u.authority.elim [] fun a => '/' :: '/' :: a.text) ++ (if u.guarded then "/.".toList else [])
        ++ u.pathText ++ suffixText '?' u.query ++ suffixText '#' u.fragment) := by
    cases hauthority : u.authority <;> simp [text, frontText, hauthority]
  rw [behindScheme, htext, hlength, List.drop_left]

lemma settle_ne_nil {k : Kind} {segments : List Text} (h : segments ≠ []) : settle k segments ≠ [] := by
  unfold settle
  split
  · dsimp only
    split
    · simp
    · next hrest => simpa using hrest
  · exact h

/-- A path that starts with a slash has a segment, in every kind of URL. -/
lemma parsePath_ne_nil {k : Kind} {t : Text} (h : t.head? = some '/') : parsePath k t ≠ [] := by
  obtain ⟨r, rfl⟩ := List.head?_eq_some_iff.mp h
  have hclean : clean ('/' :: r) = '/' :: clean r := rfl
  rw [parsePath, rawPath, hclean]
  exact settle_ne_nil (addSegments_ne_nil (by simp [splitPath]) [])

lemma isBase_complete {scheme : String} {authority : Option Authority} {t : Text}
    (h : authority.isSome ∨ t.head? = some '/') : (complete scheme authority t).IsBase := by
  rw [IsBase, behindScheme_eq]
  cases authority with
  | some a => simp [complete]
  | none =>
    have hslash : (t.takeWhile (!endsPath ·)).head? = some '/' := by
      obtain ⟨r, rfl⟩ := List.head?_eq_some_iff.mp (h.resolve_left (by simp))
      simp [endsPath]
    obtain ⟨s, rest, hpath⟩ :=
      List.exists_cons_of_ne_nil (parsePath_ne_nil (k := Kind.ofScheme scheme) hslash)
    have htext : (complete scheme none t).pathText = segmentsText (s :: rest) := by
      rw [← hpath]
      rfl
    rw [htext]
    cases hguarded : (complete scheme none t).guarded <;> simp [complete]

lemma head?_encode_ne_slash {keep : Char → Bool} {t : Text} (h : t.head? ≠ some '/') :
    (encode keep t).head? ≠ some '/' := by
  cases t with
  | nil => simp
  | cons c r =>
    rw [encode_cons]
    cases hkeep : keep c with
    | true => simpa [encodeChar_of_keep hkeep] using h
    | false =>
      obtain ⟨x, hx⟩ := exists_encodeChar_eq_percent_cons hkeep
      simp [hx]

lemma head?_suffixText_ne_slash {sign : Char} (hsign : sign ≠ '/') (t : Option Text) :
    (suffixText sign t).head? ≠ some '/' := by
  cases t with
  | none => simp [suffixText]
  | some t => simpa [suffixText] using hsign

lemma head?_append_ne {c : Char} {s t : Text} (hs : s.head? ≠ some c) (ht : t.head? ≠ some c) :
    (s ++ t).head? ≠ some c := by
  cases s with
  | nil => exact ht
  | cons d s => exact hs

lemma not_isBase_readPlain {scheme : String} {t : Text} (h : t.head? ≠ some '/') :
    ¬ (readPlain scheme t).IsBase := by
  have htake : (t.takeWhile (!endsPath ·)).head? ≠ some '/' := by
    cases t with
    | nil => simp
    | cons c r =>
      rw [List.takeWhile_cons]
      split
      · simpa using h
      · simp
  rw [IsBase, behindScheme_eq]
  exact head?_append_ne (head?_append_ne (head?_encode_ne_slash htake)
    (head?_suffixText_ne_slash (by decide) _)) (head?_suffixText_ne_slash (by decide) _)

/-- The URLs with segments of their own are those that others can be relative to. -/
lemma isSome_segments?_iff_isBase {s : String} {u : Url} (h : parse? s = some u) :
    u.segments?.isSome ↔ u.IsBase := by
  cases isRead_of_parse? h with
  | complete hslash => exact iff_of_true rfl (isBase_complete hslash)
  | plain _ hslash => exact iff_of_false (by simp [readPlain, segments?]) (not_isBase_readPlain hslash)

end Courier.Url

namespace Courier.Endpoint

open Url

/-! ### Service URLs -/

/-- Whether a text is an absolute URL that others can be relative to. -/
def IsService (service : String) : Prop := ∃ u, parse? service = some u ∧ u.IsBase

lemma exists_readService_eq_ok_iff {service : String} :
    (∃ u, readService service = .ok u) ↔ IsService service := by
  refine exists_congr fun u => ?_
  rw [readService_eq_ok_iff]
  exact and_congr_right isSome_segments?_iff_isBase

lemma not_isService_empty : ¬ IsService "" := by
  rintro ⟨u, hu, -⟩
  have hnone : parse? "" = none := by decide
  simp [hnone] at hu

/-- Every other text is refused; only the empty one is not told back. -/
lemma readService_eq_error_iff {service : String} {e : Error} :
    readService service = .error e ↔
      ¬ IsService service ∧ e = if service = "" then .emptyServiceUrl else .invalidServiceUrl service := by
  rw [← exists_readService_eq_ok_iff]
  cases h : readService service with
  | ok u => simp
  | error e' =>
    have he' : e' = if service = "" then .emptyServiceUrl else .invalidServiceUrl service := by
      unfold readService at h
      split at h
      · next hempty => rw [if_pos (String.isEmpty_iff.mp hempty), ← Except.error.inj h]
      · next hempty =>
        rw [if_neg fun hservice => hempty (String.isEmpty_iff.mpr hservice)]
        split at h
        · split at h
          · cases h
          · exact (Except.error.inj h).symm
        · exact (Except.error.inj h).symm
    simp [he', eq_comm]

/-! ### Parameters -/

/-- Whether a name is that of the first entry with an empty value. -/
def IsFirstEmpty (parameters : List (String × String)) (name : String) : Prop :=
  ∃ before after, parameters = before ++ (name, "") :: after ∧ ∀ p ∈ before, p.2 ≠ ""

lemma isFirstEmpty_cons_iff {p : String × String} {rest : List (String × String)} {name : String} :
    IsFirstEmpty (p :: rest) name ↔ p = (name, "") ∨ p.2 ≠ "" ∧ IsFirstEmpty rest name := by
  constructor
  · rintro ⟨before, after, heq, hbefore⟩
    cases before with
    | nil => exact .inl (List.cons.inj heq).1
    | cons q before =>
      obtain ⟨rfl, hrest⟩ := List.cons.inj heq
      obtain ⟨hp, hbefore⟩ := List.forall_mem_cons.mp hbefore
      exact .inr ⟨hp, before, after, hrest, hbefore⟩
  · rintro (rfl | ⟨hp, before, after, rfl, hbefore⟩)
    · exact ⟨[], rest, rfl, by simp⟩
    · exact ⟨p :: before, after, rfl, List.forall_mem_cons.mpr ⟨hp, hbefore⟩⟩

/-- Whatever the template has become before, the first empty value ends its filling. -/
lemma fill_eq_error_iff {t : Text} {parameters : List (String × String)} {e : Error} :
    fill t parameters = .error e ↔ ∃ name, IsFirstEmpty parameters name ∧ e = .emptyParameter name := by
  induction parameters generalizing t with
  | nil => simp [fill, IsFirstEmpty]
  | cons p rest ih =>
    obtain ⟨name, value⟩ := p
    simp only [isFirstEmpty_cons_iff]
    by_cases hvalue : value = ""
    · rw [fill, if_pos (by simpa using hvalue), Except.error.injEq]
      simp [hvalue, eq_comm (a := e)]
    · rw [fill, if_neg (by simpa using hvalue), ih]
      simp [hvalue]

lemma exists_fill_eq_ok_iff {t : Text} {parameters : List (String × String)} :
    (∃ filled, fill t parameters = .ok filled) ↔ ∀ p ∈ parameters, p.2 ≠ "" := by
  induction parameters generalizing t with
  | nil => simp [fill]
  | cons p rest ih =>
    obtain ⟨name, value⟩ := p
    rw [List.forall_mem_cons]
    by_cases hvalue : value = ""
    · simp [fill, hvalue]
    · rw [fill, if_neg (by simpa using hvalue), ih]
      simp [hvalue]

/-! ### Templates -/

section Resolve

variable {service template : String} {parameters : List (String × String)}

lemma exists_resolve_eq_ok_iff :
    (∃ r, resolve service template parameters = .ok r) ↔
      IsService service ∧ ∀ p ∈ parameters, p.2 ≠ "" := by
  rw [← exists_readService_eq_ok_iff, ← exists_fill_eq_ok_iff (t := template.toList)]
  constructor
  · rintro ⟨r, hr⟩
    obtain ⟨u, filled, hu, hfill, -⟩ := resolve_eq_ok hr
    exact ⟨⟨u, hu⟩, filled, hfill⟩
  · rintro ⟨⟨u, hu⟩, filled, hfill⟩
    exact ⟨_, resolve_of_fill hu hfill⟩

lemma resolve_eq_error_iff {e : Error} :
    resolve service template parameters = .error e ↔
      ¬ IsService service ∧ e = (if service = "" then .emptyServiceUrl else .invalidServiceUrl service)
        ∨ IsService service ∧ ∃ name, IsFirstEmpty parameters name ∧ e = .emptyParameter name := by
  have hrest (u : Url) : (do
      let path := relative (← fill template.toList parameters)
      return if path.isEmpty then u else extend u path) = .error e ↔
        fill template.toList parameters = .error e := by
    simp [bind_eq_error_iff]
  simp only [resolve, bind_eq_error_iff (x := readService service), hrest, fill_eq_error_iff,
    exists_and_right, readService_eq_error_iff, exists_readService_eq_ok_iff]

end Resolve

/-- What resolving refuses is decided by the service URL and the values alone, in this order: an empty service
URL; one that is no absolute URL, or to which none can be relative; an empty value, of which the first one in
the list is named. Nothing else is refused, whatever the template is. -/
theorem refuses_exactly (service template : String) (parameters : List (String × String)) :
    (resolve service template parameters = .error .emptyServiceUrl ↔ service = "")
      ∧ (resolve service template parameters = .error (.invalidServiceUrl service) ↔
          service ≠ "" ∧ ¬ IsService service)
      ∧ (∀ name, resolve service template parameters = .error (.emptyParameter name) ↔
          IsService service ∧ IsFirstEmpty parameters name)
      ∧ ((∃ r, resolve service template parameters = .ok r) ↔
          IsService service ∧ ∀ p ∈ parameters, p.2 ≠ "")
      ∧ ∀ e, resolve service template parameters = .error e →
          e.kind = .argument ∧ (e = .emptyServiceUrl ∨ ∃ name, e = .emptyParameter name)
            ∨ e.kind = .serviceUrl ∧ e = .invalidServiceUrl service := by
  refine ⟨?_, ?_, fun name => ?_, exists_resolve_eq_ok_iff, fun e he => ?_⟩
  · by_cases hservice : service = "" <;> simp [resolve_eq_error_iff, hservice, not_isService_empty]
  · by_cases hservice : service = "" <;> simp [resolve_eq_error_iff, hservice]
  · by_cases hservice : service = "" <;> simp [resolve_eq_error_iff, hservice, not_isService_empty]
  · rcases resolve_eq_error_iff.mp he with ⟨-, rfl⟩ | ⟨-, name, -, rfl⟩
    · by_cases hservice : service = "" <;> simp [hservice, Error.kind]
    · exact .inl ⟨rfl, .inr ⟨name, rfl⟩⟩

end Courier.Endpoint
