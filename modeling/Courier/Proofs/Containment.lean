import Courier.Proofs.Extension
import Mathlib

/-!
# Templates that leave the service path

A value that spells `..` is written as it is, so that a filled template can climb above the path of its
service URL. `climb` counts how far it does, and `Restores` says when the path of the result starts with
that of the service URL all the same: what is climbed out of has to be written again.
-/

namespace Courier.Endpoint

open Percent Template Url

/-! ### Climbing -/

/-- How often a list of pieces leaves the place where it starts upwards, with some segments added
there already. -/
def climb : List Text → List Text → Nat
  | _, [] => 0
  | inside, s :: rest =>
    (if isDoubleDot s ∧ inside = [] then 1 else 0) + climb (addSegment .web inside s false) rest

lemma climb_eq_zero {list : List Text} (h : ∀ s ∈ list, isDoubleDot s = false)
    (inside : List Text) : climb inside list = 0 := by
  induction list generalizing inside with
  | nil => rfl
  | cons s rest ih =>
    rw [climb, ih fun x hx => h x (List.mem_cons_of_mem s hx)]
    simp [h s List.mem_cons_self]

lemma shorten_append {inside : List Text} (h : inside ≠ []) (base : List Text) :
    shorten (base ++ inside) = base ++ shorten inside := by
  rw [shorten, shorten, List.getLast?_append_of_ne_nil _ h, List.dropLast_append_of_ne_nil h]
  split <;> rfl

lemma iterate_shorten_prefix_self (n : Nat) (segments : List Text) :
    shorten^[n] segments <+: segments := by
  induction n with
  | zero => exact List.prefix_rfl
  | succ n ih =>
    rw [Function.iterate_succ_apply']
    exact (shorten_prefix_self _).trans ih

/-- One piece reaches the segments below only if it climbs. -/
lemma addSegment_append (base inside : List Text) (s : Text) (last : Bool) :
    addSegment .web (base ++ inside) s last
      = (if isDoubleDot s ∧ inside = [] then shorten base else base)
        ++ addSegment .web inside s last := by
  cases hdouble : isDoubleDot s with
  | true =>
    rw [addSegment_of_double hdouble, addSegment_of_double hdouble]
    by_cases hinside : inside = []
    · simp [hinside, shorten]
    · simp [hinside, shorten_append hinside]
  | false =>
    cases hsingle : isSingleDot s with
    | true => simp [addSegment_of_single hsingle hdouble]
    | false => simp [addSegment_of_not_dot hsingle hdouble]

/-- Pieces shorten the path below them as often as they climb, and leave there what they leave
anywhere. -/
lemma addSegments_append_eq {list : List Text} (hne : list ≠ []) (base inside : List Text) :
    addSegments .web (base ++ inside) list
      = shorten^[climb inside list] base ++ addSegments .web inside list := by
  induction list generalizing base inside with
  | nil => exact absurd rfl hne
  | cons s rest ih =>
    have hbase : shorten^[climb inside (s :: rest)] base
        = shorten^[climb (addSegment .web inside s false) rest]
          (if isDoubleDot s ∧ inside = [] then shorten base else base) := by
      rw [climb]
      split
      · rw [Nat.add_comm, Function.iterate_succ_apply]
      · rw [Nat.zero_add]
    cases rest with
    | nil =>
      rw [addSegments, addSegments, addSegment_append, hbase]
      rfl
    | cons t rest =>
      rw [addSegments, addSegments, addSegment_append, ih (by simp), hbase]

/-! ### Prefixes of paths -/

/-- A path goes on with a slash behind some segments exactly if further segments follow them. -/
lemma segmentsText_append_slash_prefix_iff {base segments : List Text}
    (hbase : ∀ s ∈ base, '/' ∉ s) (hsegments : ∀ s ∈ segments, '/' ∉ s) :
    segmentsText base ++ ['/'] <+: segmentsText segments ↔
      ∃ tail ≠ [], segments = base ++ tail := by
  constructor
  · intro h
    induction base generalizing segments with
    | nil =>
      refine ⟨segments, ?_, rfl⟩
      rintro rfl
      simp at h
    | cons b base ih =>
      cases segments with
      | nil => simp at h
      | cons s segments =>
        obtain ⟨hb, hbase'⟩ := List.forall_mem_cons.mp hbase
        obtain ⟨hs, hsegments'⟩ := List.forall_mem_cons.mp hsegments
        rw [segmentsText_cons, segmentsText_cons, List.cons_append, List.cons_prefix_cons,
          List.append_assoc] at h
        obtain ⟨rest, hrest⟩ := h.2
        have hslash : ∀ c ∈ (segmentsText base ++ ['/'] ++ rest).head?, c = '/' := by
          cases base <;> simp
        rw [List.append_assoc] at hrest
        have heq := congrArg (List.takeWhile (· ≠ '/')) hrest
        rw [takeWhile_ne_append hb hslash, takeWhile_ne_append hs (head?_segmentsText _)] at heq
        rw [heq] at hrest ⊢
        obtain ⟨tail, hne, htail⟩ := ih hbase' hsegments' ⟨rest, List.append_cancel_left hrest⟩
        exact ⟨tail, hne, by rw [htail, List.cons_append]⟩
  · rintro ⟨tail, hne, rfl⟩
    rw [segmentsText_append, segmentsText_eq_intercalate hne]
    exact ⟨['/'].intercalate tail, by simp⟩

/-! ### Filled templates -/

/-- Parameters that are not empty fill every template, and what every substitution keeps holds of the
filled one. -/
lemma exists_fill {P : Text → Prop}
    (hstep : ∀ t name value, value ≠ [] → P t → P (substitute t name value))
    {parameters : List (String × String)} (hvalues : ∀ p ∈ parameters, p.2 ≠ "") {t : Text}
    (ht : P t) : ∃ filled, fill t parameters = .ok filled ∧ P filled := by
  induction parameters generalizing t with
  | nil => exact ⟨t, rfl, ht⟩
  | cons p rest ih =>
    obtain ⟨name, value⟩ := p
    obtain ⟨hvalue, hrest⟩ := List.forall_mem_cons.mp hvalues
    rw [fill, if_neg (by simpa using hvalue)]
    exact ih hrest (hstep t name.toList value.toList (by simpa using hvalue) ht)

lemma forall_mem_replaceAll {P : Char → Prop} {old new t : Text} (hnew : ∀ c ∈ new, P c)
    (ht : ∀ c ∈ t, P c) : ∀ c ∈ replaceAll old new t, P c := by
  fun_induction replaceAll old new t with
  | case1 => simp
  | case2 c r _ ih =>
    refine List.forall_mem_append.mpr ⟨hnew, ih fun d hd => ht d ?_⟩
    exact List.mem_cons_of_mem c (List.mem_of_mem_drop hd)
  | case3 c r _ ih =>
    obtain ⟨hc, hr⟩ := List.forall_mem_cons.mp ht
    exact List.forall_mem_cons.mpr ⟨hc, ih hr⟩

lemma exists_mem_replaceAll {P : Char → Prop} {old new t : Text} (hnew : ∃ c ∈ new, P c)
    (ht : ∃ c ∈ t, P c) : ∃ c ∈ replaceAll old new t, P c := by
  fun_induction replaceAll old new t with
  | case1 => exact ht
  | case2 c r _ ih =>
    obtain ⟨d, hd, hP⟩ := hnew
    exact ⟨d, List.mem_append_left _ hd, hP⟩
  | case3 c r _ ih =>
    obtain ⟨d, hd, hP⟩ := ht
    rcases List.mem_cons.mp hd with rfl | hd
    · exact ⟨d, List.mem_cons_self, hP⟩
    · obtain ⟨e, he, hP⟩ := ih ⟨d, hd, hP⟩
      exact ⟨e, List.mem_cons_of_mem c he, hP⟩

/-- What a template is filled with brings no backslash, and leaves something between the slashes. -/
lemma backslash_not_mem_substitute {t : Text} (ht : '\\' ∉ t ∧ ∃ c ∈ t, c ≠ '/') (name : Text)
    {value : Text} (hvalue : value ≠ []) :
    '\\' ∉ substitute t name value ∧ ∃ c ∈ substitute t name value, c ≠ '/' := by
  constructor
  · have hall : ∀ c ∈ substitute t name value, c ≠ '\\' := by
      refine forall_mem_replaceAll (fun c hc => ?_) fun c hc h => ht.1 (h ▸ hc)
      rintro rfl
      exact absurd (pathKeep_of_mem_encodeValue _ hc).2 (by decide)
    exact fun h => hall _ h rfl
  · refine exists_mem_replaceAll ?_ ht.2
    obtain ⟨c, hc⟩ := List.exists_mem_of_ne_nil _ (encodeValue_ne_nil hvalue)
    exact ⟨c, hc, fun h => slash_not_mem_encodeValue value (h ▸ hc)⟩

/-- The pieces of a filled template as they are added to a path. -/
def added (filled : Text) : List Text := (pieces (relative filled)).map written

/-- Whether the segments that some pieces leave start with those they climb out of, and go on. -/
def Restores (base list : List Text) : Prop :=
  ∃ tail ≠ [], addSegments .web [] list
    = base.drop (shorten^[climb [] list] base).length ++ tail

lemma restores_of_not_double {list : List Text} (hne : list ≠ [])
    (h : ∀ s ∈ list, isDoubleDot s = false) (base : List Text) : Restores base list := by
  refine ⟨_, addSegments_ne_nil (k := .web) hne [], ?_⟩
  rw [climb_eq_zero h, Function.iterate_zero, id, List.drop_length, List.nil_append]

/-- Segments are kept below others exactly if what is climbed out of is written again. -/
lemma exists_addSegments_eq_append_iff {base list : List Text} (hne : list ≠ []) :
    (∃ tail ≠ [], addSegments .web base list = base ++ tail) ↔ Restores base list := by
  have hadd := addSegments_append_eq hne base []
  rw [List.append_nil] at hadd
  have hprefix := iterate_shorten_prefix_self (climb [] list) base
  unfold Restores
  generalize shorten^[climb [] list] base = kept at hadd hprefix ⊢
  obtain ⟨lost, rfl⟩ := hprefix
  simp only [hadd, List.drop_left, List.append_assoc, List.append_cancel_left_eq]

/-- The path of a web service URL stays in front exactly if the filled template restores what it climbs
out of; so it does whenever no piece of the filled template is `..` in any spelling. -/
theorem withSlash_prefix_resolve_iff {service : String} {u : Url}
    (hu : readService service = .ok u) (hw : u.kind = .web) {template : String}
    (hback : '\\' ∉ template.toList) (hname : ∃ c ∈ template.toList, c ≠ '/')
    {parameters : List (String × String)} (hvalues : ∀ p ∈ parameters, p.2 ≠ "") :
    ∃ base filled r, u.segments? = some base
      ∧ fill template.toList parameters = .ok filled
      ∧ resolve service template parameters = .ok r
      ∧ (withSlash u.pathText <+: r.pathText ↔ Restores (stem base) (added filled))
      ∧ ((∀ s ∈ filled.splitOn '/', isDoubleDot (clean s) = false) →
          withSlash u.pathText <+: r.pathText) := by
  obtain ⟨base, hpath, hbase⟩ := exists_isPath hu hw
  obtain ⟨filled, hfill, hfback, hfname⟩ := exists_fill
    (P := fun t => '\\' ∉ t ∧ ∃ c ∈ t, c ≠ '/')
    (fun t name value hvalue ht => backslash_not_mem_substitute ht name hvalue) hvalues
    ⟨hback, hname⟩
  have hresolve : resolve service template parameters = .ok (extend u (relative filled)) := by
    rw [resolve_of_fill hu hfill, if_neg (by simpa using relative_ne_nil hfname)]
  have hextend : (extend u (relative filled)).path
      = .segments (addSegments .web (stem base) (added filled)) :=
    path_extend hw hpath hbase
      (isSolid_of_mem_pieces fun h => hfback (relative_subset filled h))
  have hadded : added filled ≠ [] := by simpa [added] using pieces_ne_nil (relative filled)
  have hslash : ∀ s ∈ base, '/' ∉ s := fun s hs => (hbase.isSegment s hs).solid.slash_not_mem
  have hresult : ∀ s ∈ addSegments .web (stem base) (added filled), '/' ∉ s :=
    fun s hs => ((isPath_of_path_extend hw hextend).isSegment s hs).solid.slash_not_mem
  have hiff : withSlash u.pathText <+: (extend u (relative filled)).pathText
      ↔ Restores (stem base) (added filled) := by
    rw [pathText_of_path_eq hpath, pathText_of_path_eq hextend, withSlash_segmentsText hslash,
      segmentsText_append_slash_prefix_iff (fun s hs => hslash s (stem_subset base hs)) hresult,
      exists_addSegments_eq_append_iff hadded]
  refine ⟨base, filled, _, by rw [segments?, hpath], hfill, hresolve, hiff, fun hdouble => ?_⟩
  refine hiff.mpr (restores_of_not_double hadded (fun s hs => ?_) _)
  obtain ⟨piece, hpiece, rfl⟩ := List.mem_map.mp hs
  rw [written, isDoubleDot_encode_pathKeep]
  exact hdouble piece (mem_splitOn_of_mem_relative (mem_splitOn_of_mem_pieces hpiece))

/-- A value that climbs in a template that writes again what it climbs out of, and one whose escaped form does not
climb. -/
theorem withSlash_prefix_resolve_iff_restored :
    let u : Url := ⟨"https", some ⟨[], [], .domain "h".toList, none⟩, false,
      .segments ["v1".toList, "t".toList], none, none⟩
    let r : Url := u.withSegments ["v1".toList, "t".toList, "x".toList]
    let r' : Url := u.withSegments ["v1".toList, "t".toList, "x".toList, "..%2F..".toList]
    readService "https://h/v1/t" = .ok u ∧ u.kind = .web
      ∧ '\\' ∉ "{up}/t/x".toList ∧ (∃ c ∈ "{up}/t/x".toList, c ≠ '/')
      ∧ (∀ p ∈ [("up", "..")], p.2 ≠ "")
      ∧ fill "{up}/t/x".toList [("up", "..")] = .ok "../t/x".toList
      ∧ resolve "https://h/v1/t" "{up}/t/x" [("up", "..")] = .ok r
      ∧ r.toText = "https://h/v1/t/x"
      ∧ Restores ["v1".toList, "t".toList] ["..".toList, "t".toList, "x".toList]
      ∧ withSlash u.pathText = "/v1/t/".toList ∧ withSlash u.pathText <+: r.pathText
      ∧ resolve "https://h/v1/t" "x/{up}" [("up", "../..")] = .ok r' ∧ withSlash u.pathText <+: r'.pathText := by
  intro u r r'
  have hu : readService "https://h/v1/t" = .ok u := eq_ok_of_toOption (by decide +kernel)
  have hw : u.kind = .web := by decide +kernel
  have hback : '\\' ∉ "{up}/t/x".toList := by decide +kernel
  have hname : ∃ c ∈ "{up}/t/x".toList, c ≠ '/' := by simp
  have hvalues : ∀ p ∈ [("up", "..")], p.2 ≠ "" := by decide
  have hfill : fill "{up}/t/x".toList [("up", "..")] = .ok "../t/x".toList :=
    eq_ok_of_toOption (by decide +kernel)
  have hr : resolve "https://h/v1/t" "{up}/t/x" [("up", "..")] = .ok r := eq_ok_of_toOption (by decide +kernel)
  obtain ⟨base, filled, r₁, hbase, h₁, h₂, hiff, -⟩ := withSlash_prefix_resolve_iff hu hw hback hname hvalues
  obtain rfl : ["v1".toList, "t".toList] = base := Option.some.inj hbase
  obtain rfl := Except.ok.inj (hfill.symm.trans h₁)
  obtain rfl := Except.ok.inj (hr.symm.trans h₂)
  have hstem : stem ["v1".toList, "t".toList] = ["v1".toList, "t".toList] := by decide
  have hadded : added "../t/x".toList = ["..".toList, "t".toList, "x".toList] := by decide +kernel
  rw [hstem, hadded] at hiff
  have hrestores : Restores ["v1".toList, "t".toList] ["..".toList, "t".toList, "x".toList] :=
    ⟨["x".toList], by decide, by decide⟩
  have hfill' : fill "x/{up}".toList [("up", "../..")] = .ok "x/..%2F..".toList :=
    eq_ok_of_toOption (by decide +kernel)
  have hr' : resolve "https://h/v1/t" "x/{up}" [("up", "../..")] = .ok r' := eq_ok_of_toOption (by decide +kernel)
  have hname' : ∃ c ∈ "x/{up}".toList, c ≠ '/' := by simp
  have hback' : '\\' ∉ "x/{up}".toList := by decide +kernel
  have hvalues' : ∀ p ∈ [("up", "../..")], p.2 ≠ "" := by decide
  obtain ⟨_, _, _, -, h₁', h₂', -, hplain⟩ := withSlash_prefix_resolve_iff hu hw hback' hname' hvalues'
  obtain rfl := Except.ok.inj (hfill'.symm.trans h₁')
  obtain rfl := Except.ok.inj (hr'.symm.trans h₂')
  exact ⟨hu, hw, hback, hname, hvalues, hfill, hr, by decide +kernel, hrestores, by decide +kernel,
    hiff.mpr hrestores, hr', hplain (by decide +kernel)⟩

/-- A value that spells `..` takes the last segment of the service path away, under a template that has
no dot segment of its own. -/
theorem not_withSlash_prefix_resolve_dots :
    let u : Url := ⟨"https", some ⟨[], [], .domain "h".toList, none⟩, false,
      .segments ["v1".toList, "t".toList], none, none⟩
    let r : Url := u.withSegments ["v1".toList, []]
    readService "https://h/v1/t" = .ok u ∧ u.kind = .web
      ∧ (∀ s ∈ "{id}".toList.splitOn '/', isSingleDot s = false ∧ isDoubleDot s = false)
      ∧ resolve "https://h/v1/t" "{id}" [("id", "..")] = .ok r
      ∧ r.toText = "https://h/v1/"
      ∧ ¬ withSlash u.pathText <+: r.pathText := by
  intro u r
  exact ⟨eq_ok_of_toOption (by decide +kernel), by decide +kernel, by decide +kernel,
    eq_ok_of_toOption (by decide +kernel), by decide +kernel, by decide +kernel⟩

end Courier.Endpoint
