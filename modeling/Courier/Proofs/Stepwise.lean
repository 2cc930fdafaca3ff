import Courier.Proofs.Extension
import Courier.Proofs.Rereading
import Mathlib

/-!
# Resolving in steps

A path that is appended to a web URL leaves segments behind that are read back as they are, and open at
their end exactly if the next path goes on from there. So a path may as well be appended in two parts,
the second one to the text of the URL that the first one gives.
-/

namespace Courier.Endpoint

open Percent Template Url

/-! ### Segments that are followed by others -/

/-- Adds segments that others follow. -/
def addInner (before list : List Text) : List Text :=
  list.foldl (fun segments s => addSegment .web segments s false) before

lemma addSegments_append_eq_addInner {rest : List Text} (hne : rest ≠ []) (before list : List Text) :
    addSegments .web before (list ++ rest) = addSegments .web (addInner before list) rest := by
  induction list generalizing before with
  | nil => rfl
  | cons s list ih =>
    obtain ⟨t, rest', h⟩ := List.exists_cons_of_ne_nil (show list ++ rest ≠ [] by simp [hne])
    rw [List.cons_append, h, addSegments, ← h, ih]
    rfl

/-- An open end does not count for what follows. -/
lemma stem_addSegment_last (before : List Text) (s : Text) :
    stem (addSegment .web before s true)
      = if s = [] then before else addSegment .web before s false := by
  cases hdouble : isDoubleDot s with
  | true =>
    have hs : s ≠ [] := by
      rintro rfl
      exact absurd hdouble (by decide)
    simp [addSegment_of_double hdouble, stem, hs]
  | false =>
    cases hsingle : isSingleDot s with
    | true =>
      have hs : s ≠ [] := by
        rintro rfl
        exact absurd hsingle (by decide)
      simp [addSegment_of_single hsingle hdouble, stem, hs]
    | false =>
      rw [addSegment_of_not_dot hsingle hdouble, addSegment_of_not_dot hsingle hdouble]
      by_cases hs : s = [] <;> simp [stem, hs]

lemma stem_addSegments (before init : List Text) (s : Text) :
    stem (addSegments .web before (init ++ [s]))
      = addInner before (init ++ if s = [] then [] else [s]) := by
  rw [addSegments_append_eq_addInner (by simp), addSegments, stem_addSegment_last]
  by_cases hs : s = [] <;> simp [hs, addInner]

/-! ### Appending a path -/

/-- The segments of a path to which a text is appended. -/
def appended (base : List Text) (t : Text) : List Text :=
  if (relative t).isEmpty then base else addSegments .web (stem base) ((pieces t).map written)

lemma written_eq_nil_iff {t : Text} (ht : ∀ c ∈ t, isIgnored c = false) : written t = [] ↔ t = [] := by
  rw [written, encode_eq_nil_iff, clean_eq_self ht]

lemma not_isIgnored_of_mem_pieces {t s : Text} (ht : ∀ c ∈ t, isIgnored c = false)
    (hs : s ∈ pieces t) : ∀ c ∈ s, isIgnored c = false :=
  fun c hc => ht c (forall_mem_of_mem_splitOnP (mem_splitOn_of_mem_pieces hs) c hc).1

/-- What follows a path goes on from its pieces that are not empty. -/
lemma stem_appended {t : Text} (ht : ∀ c ∈ t, isIgnored c = false) (base : List Text) :
    stem (appended base t) = addInner (stem base) ((names t).map written) := by
  rw [appended]
  split
  · next hempty =>
    rw [← names_relative, List.isEmpty_iff.mp hempty]
    rfl
  · obtain ⟨init, last, hpieces, hnames⟩ := exists_pieces_eq t
    have hlast : written last = [] ↔ last = [] :=
      written_eq_nil_iff (not_isIgnored_of_mem_pieces ht (by simp [hpieces]))
    rw [hpieces, hnames, List.map_append, List.map_singleton, stem_addSegments, List.map_append]
    by_cases h : last = []
    · rw [if_pos h, if_pos (hlast.mpr h), List.map_nil]
    · rw [if_neg h, if_neg (hlast.not.mpr h), List.map_singleton]

/-- Two paths with a slash between them may as well be appended one after the other. -/
lemma appended_append_slash {s t : Text} (hs : ∀ c ∈ s, isIgnored c = false)
    (ht : ∃ c ∈ t, c ≠ '/') (base : List Text) :
    appended base (s ++ '/' :: t) = appended (appended base s) t := by
  have hboth : relative (s ++ '/' :: t) ≠ [] := by
    apply relative_ne_nil
    obtain ⟨c, hc, hne⟩ := ht
    exact ⟨c, by simp [hc], hne⟩
  have hpieces : (pieces t).map written ≠ [] := by simpa using pieces_ne_nil t
  calc appended base (s ++ '/' :: t)
      = addSegments .web (stem base) ((names s).map written ++ (pieces t).map written) := by
        rw [appended, if_neg (by simpa using hboth), pieces_append_slash, List.map_append]
    _ = addSegments .web (stem (appended base s)) ((pieces t).map written) := by
        rw [addSegments_append_eq_addInner hpieces, stem_appended hs]
    _ = appended (appended base s) t := by
        conv_rhs => rw [appended, if_neg (by simpa using relative_ne_nil ht)]

/-- Resolving a path without parameters appends it. -/
lemma resolve_eq_appended {service : String} {u : Url} (hu : readService service = .ok u)
    (hw : u.kind = .web) {base : List Text} (hpath : u.path = .segments base) (hbase : IsPath base)
    {path : String} (hback : '\\' ∉ path.toList) :
    resolve service path [] = .ok (u.withSegments (appended base path.toList))
      ∧ IsPath (appended base path.toList) := by
  have hfill : fill path.toList [] = .ok path.toList := by rw [fill]
  rw [resolve_of_fill hu hfill, appended]
  split
  · rw [withSegments, ← hpath]
    exact ⟨rfl, hbase⟩
  · have hextend := path_extend hw hpath hbase
      (isSolid_of_mem_pieces fun h => hback (relative_subset path.toList h))
    rw [pieces_relative] at hextend
    refine ⟨?_, isPath_of_path_extend hw hextend⟩
    rw [extend, withSegments] at hextend ⊢
    rw [Path.segments.inj hextend]
    rfl

/-- Resolving in two steps is resolving at once: a path is appended to the text of a URL that was
itself resolved as if both paths had been given together, dot segments and slashes included. -/
theorem resolve_resolve {service : String} {u : Url} (hu : readService service = .ok u)
    (hw : u.kind = .web) (hread : parse? u.toText = some u) {first second : String}
    (hfirst : ∀ c ∈ first.toList, c ≠ '\\' ∧ isIgnored c = false)
    (hsecond : ∀ c ∈ second.toList, c ≠ '\\' ∧ isIgnored c = false)
    (hname : ∃ c ∈ second.toList, c ≠ '/') :
    ∃ r r', resolve service first [] = .ok r
      ∧ resolve r.toText second [] = .ok r'
      ∧ resolve service (first ++ "/" ++ second) [] = .ok r' := by
  obtain ⟨base, hpath, hbase⟩ := exists_isPath hu hw
  have hback : '\\' ∉ first.toList := fun h => (hfirst _ h).1 rfl
  have hback' : '\\' ∉ second.toList := fun h => (hsecond _ h).1 rfl
  have hboth : (first ++ "/" ++ second).toList = first.toList ++ '/' :: second.toList := by
    simp
  obtain ⟨hr, hlist⟩ := resolve_eq_appended hu hw hpath hbase hback
  have hr' : readService (u.withSegments (appended base first.toList)).toText
      = .ok (u.withSegments (appended base first.toList)) :=
    readService_eq_ok_iff.mpr
      ⟨parse?_toText_withSegments (parse?_of_readService hu) hw hread hlist, rfl⟩
  obtain ⟨hsecond', -⟩ := resolve_eq_appended hr' hw rfl hlist hback'
  have hbackslash : '\\' ∉ (first ++ "/" ++ second).toList := by
    rw [hboth]
    simp [hback, hback']
  obtain ⟨hwhole, -⟩ := resolve_eq_appended hu hw hpath hbase hbackslash
  refine ⟨_, _, hr, hsecond', ?_⟩
  rw [hwhole, hboth, appended_append_slash (fun c hc => (hfirst c hc).2) hname]
  rfl

/-- Dot segments that reach over the place where the two paths meet. -/
theorem resolve_resolve_dots :
    let u : Url := ⟨"https", some ⟨"me".toList, [], .domain "h".toList, some 8443⟩, false,
      .segments ["v1".toList, []], some "q".toList, some "f".toList⟩
    let r := u.withSegments ["v1".toList, "x".toList, "y%3F".toList, []]
    let r' := u.withSegments ["v1".toList, "x".toList, "%C3%A9%2F".toList, []]
    let first := "/x//%2e/y?/"
    let second := "//../é%2F/z/.."
    readService "https://me@h:8443/v1/?q#f" = .ok u ∧ u.kind = .web ∧ parse? u.toText = some u
      ∧ (∀ c ∈ first.toList, c ≠ '\\' ∧ isIgnored c = false)
      ∧ (∀ c ∈ second.toList, c ≠ '\\' ∧ isIgnored c = false)
      ∧ (∃ c ∈ second.toList, c ≠ '/')
      ∧ resolve "https://me@h:8443/v1/?q#f" first [] = .ok r ∧ r.toText = "https://me@h:8443/v1/x/y%3F/?q#f"
      ∧ resolve r.toText second [] = .ok r'
      ∧ resolve "https://me@h:8443/v1/?q#f" (first ++ "/" ++ second) [] = .ok r' := by
  intro u r r' first second
  have hu : readService "https://me@h:8443/v1/?q#f" = .ok u := eq_ok_of_toOption (by decide +kernel)
  have hw : u.kind = .web := by decide +kernel
  have hread : parse? u.toText = some u := by decide +kernel
  have hfirst : ∀ c ∈ first.toList, c ≠ '\\' ∧ isIgnored c = false := by
    simp [first, isIgnored]
  have hsecond : ∀ c ∈ second.toList, c ≠ '\\' ∧ isIgnored c = false := by
    simp [second, isIgnored]
  have hname : ∃ c ∈ second.toList, c ≠ '/' := by simp [second]
  have hr : resolve "https://me@h:8443/v1/?q#f" first [] = .ok r := eq_ok_of_toOption (by decide +kernel)
  have hr' : resolve r.toText second [] = .ok r' := eq_ok_of_toOption (by decide +kernel)
  obtain ⟨r₁, r₂, h₁, h₂, hjoined⟩ := resolve_resolve hu hw hread hfirst hsecond hname
  obtain rfl := Except.ok.inj (hr.symm.trans h₁)
  obtain rfl := Except.ok.inj (hr'.symm.trans h₂)
  exact ⟨hu, hw, hread, hfirst, hsecond, hname, hr, by decide +kernel, hr', hjoined⟩

end Courier.Endpoint
