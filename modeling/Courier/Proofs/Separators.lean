import Courier.Proofs.Construction
import Courier.Proofs.Stepwise
import Mathlib

/-!
# Repeated separators

Texts that are added to a path one by one leave no empty segment inside it: each is added in the place of an
empty end. A path without two slashes side by side therefore stays one.

A template is cut at its slashes, and no empty piece counts but the last one. So a run of slashes counts as one
slash, wherever it stands, unless it is the whole template: one slash alone leaves the path as it is, while
behind the first of several a slash at the end is kept.
-/

namespace Courier.Url

/-! ### Slashes side by side -/

lemma slashes_infix_append_iff {s : Text} (hs : '/' ∉ s) (t : Text) :
    ['/', '/'] <:+: s ++ t ↔ ['/', '/'] <:+: t := by
  induction s with
  | nil => rfl
  | cons c s ih =>
    obtain ⟨hc, hs⟩ : '/' ≠ c ∧ '/' ∉ s := by simpa using hs
    rw [List.cons_append, List.infix_cons_iff, List.cons_prefix_cons, ih hs]
    simp [hc]

lemma slash_prefix_append_segmentsText_iff {s : Text} (hs : '/' ∉ s) (rest : List Text) :
    ['/'] <+: s ++ segmentsText rest ↔ s = [] ∧ rest ≠ [] := by
  cases s with
  | nil => cases rest <;> simp
  | cons c s =>
    have hc : '/' ≠ c := fun h => hs (h ▸ List.mem_cons_self)
    simp [hc]

/-- Two slashes stand side by side in a path exactly if a segment before the last one is empty. -/
lemma slashes_infix_segmentsText_iff {segments : List Text} (h : ∀ s ∈ segments, '/' ∉ s) :
    ['/', '/'] <:+: segmentsText segments ↔ [] ∈ segments.dropLast := by
  induction segments with
  | nil => simp
  | cons s rest ih =>
    obtain ⟨hs, hrest⟩ := List.forall_mem_cons.mp h
    rw [segmentsText_cons, List.infix_cons_iff, List.cons_prefix_cons, slashes_infix_append_iff hs,
      ih hrest, slash_prefix_append_segmentsText_iff hs]
    cases rest with
    | nil => simp
    | cons t rest => simp [eq_comm]

end Courier.Url

namespace Courier.Endpoint

open Percent Template Url

/-! ### Paths that grow -/

/-- Whether no segment of a path is empty, the last one apart. -/
def IsTight (segments : List Text) : Prop := [] ∉ segments.dropLast

lemma isTight_concat_iff {segments : List Text} {s : Text} : IsTight (segments ++ [s]) ↔ [] ∉ segments := by
  rw [IsTight, List.dropLast_concat]

/-- What a text is added to holds no empty segment at all. -/
lemma IsTight.nil_not_mem_below {segments : List Text} (h : IsTight segments) : [] ∉ below segments := by
  rcases segments.eq_nil_or_concat' with rfl | ⟨init, s, rfl⟩
  · simp [below, Url.popIfEmpty]
  · have hinit := isTight_concat_iff.mp h
    by_cases hs : s = []
    · subst hs
      by_cases hnil : init = []
      · simp [below, Url.popIfEmpty, hnil]
      · rw [below, popIfEmpty_append_nil hnil]
        split
        · simp
        · exact hinit
    · rw [below_append_of_ne hs]
      simpa [hinit] using hs

lemma IsTight.popIfEmpty {segments : List Text} (h : IsTight segments) : IsTight (popIfEmpty segments) := by
  unfold Url.popIfEmpty
  split
  · exact fun hmem => h (List.dropLast_subset _ hmem)
  · exact h

/-- Adding any text keeps a path tight. -/
lemma IsTight.addPiece {segments : List Text} (h : IsTight segments) (t : Text) :
    IsTight (addPiece .web segments t) := by
  have hbelow := h.nil_not_mem_below
  cases hdot : isDot t with
  | true =>
    rw [addPiece_of_isDot hdot]
    exact h.popIfEmpty
  | false =>
    rw [addPiece_of_not_isDot hdot]
    cases hdouble : isDoubleDot (pushed t) with
    | true =>
      rw [addSegment_of_double hdouble]
      exact isTight_concat_iff.mpr fun hmem => hbelow ((shorten_prefix_self _).subset hmem)
    | false =>
      cases hsingle : isSingleDot (pushed t) with
      | true =>
        rw [addSegment_of_single hsingle hdouble]
        exact isTight_concat_iff.mpr hbelow
      | false =>
        rw [addSegment_of_not_dot hsingle hdouble]
        exact isTight_concat_iff.mpr hbelow

/-- Adding texts in turn keeps a path tight. -/
lemma IsTight.foldl_addPiece {segments : List Text} (h : IsTight segments) (list : List Text) :
    IsTight (list.foldl (Endpoint.addPiece .web) segments) := by
  induction list generalizing segments with
  | nil => exact h
  | cons t rest ih => exact ih (h.addPiece t)

/-- Segments and values, whatever they are, bring no two slashes side by side into the path of a service URL
that has none. -/
theorem construct_keeps_slashes_apart {service : String} {u : Url} (hu : readService service = .ok u)
    (hw : u.kind = .web) (hpath : ¬ ['/', '/'] <:+: u.pathText) (segments values : List String) :
    ∃ r, construct service segments values = .ok r ∧ ¬ ['/', '/'] <:+: r.pathText := by
  obtain ⟨base, hsegments, hbase⟩ := exists_isPath hu hw
  have hsolid {list : List Text} (h : IsPath list) : ∀ s ∈ list, '/' ∉ s :=
    fun s hs => (h.isSegment s hs).solid.slash_not_mem
  have htight : IsTight base := by
    rwa [pathText_of_path_eq hsegments, slashes_infix_segmentsText_iff (hsolid hbase)] at hpath
  refine ⟨_, construct_of_readService hu hw hsegments segments values, ?_⟩
  rw [pathText_of_path_eq rfl,
    slashes_infix_segmentsText_iff (hsolid (isPath_foldl_addPiece hbase _))]
  exact htight.foldl_addPiece (additions segments values)

/-- Runs of slashes, blanks that are left out, and a value that climbs, under a path with an open end. -/
theorem construct_keeps_slashes_apart_runs :
    let u : Url := ⟨"https", some ⟨[], [], .domain "h".toList, none⟩, false,
      .segments ["v1".toList, []], none, none⟩
    let segments := ["//a//b/", "/", "./\t/", "c\\d//"]
    let values := ["", "..\t", "\n", "/x//"]
    let r := u.withSegments ["v1".toList, "a".toList, "c%5Cd".toList, "%2Fx%2F%2F".toList]
    readService "https://h/v1/" = .ok u ∧ u.kind = .web ∧ ¬ ['/', '/'] <:+: u.pathText
      ∧ construct "https://h/v1/" segments values = .ok r ∧ ¬ ['/', '/'] <:+: r.pathText := by
  intro u segments values r
  have hu : readService "https://h/v1/" = .ok u := eq_ok_of_toOption (by decide +kernel)
  have hw : u.kind = .web := by decide +kernel
  have hpath : ¬ ['/', '/'] <:+: u.pathText := by decide +kernel
  have hr : construct "https://h/v1/" segments values = .ok r := eq_ok_of_toOption (by decide +kernel)
  obtain ⟨r', hr', hapart⟩ := construct_keeps_slashes_apart hu hw hpath segments values
  obtain rfl : r = r' := Except.ok.inj (hr.symm.trans hr')
  exact ⟨hu, hw, hpath, hr, hapart⟩

/-! ### Runs of slashes in a template -/

/-- A text with one slash in the place of every run of slashes. -/
def collapse : Text → Text
  | [] => []
  | c :: t => if c = '/' ∧ t.head? = some '/' then collapse t else c :: collapse t

lemma collapse_slash_slash (t : Text) : collapse ('/' :: '/' :: t) = collapse ('/' :: t) := by
  rw [collapse, if_pos ⟨rfl, rfl⟩]

lemma mem_collapse_iff {c : Char} {t : Text} : c ∈ collapse t ↔ c ∈ t := by
  fun_induction collapse t with
  | case1 => rfl
  | case2 d t h ih =>
    obtain ⟨rfl, hhead⟩ := h
    obtain ⟨r, rfl⟩ := List.head?_eq_some_iff.mp hhead
    simp [ih]
  | case3 d t h ih => simp [ih]

/-- A text behind another one falls into the same pieces with all of its slashes. -/
lemma pieces_append_collapse (s t : Text) : pieces (s ++ collapse t) = pieces (s ++ t) := by
  fun_induction collapse t generalizing s with
  | case1 => rfl
  | case2 c t h ih =>
    obtain ⟨rfl, hhead⟩ := h
    obtain ⟨r, rfl⟩ := List.head?_eq_some_iff.mp hhead
    rw [ih, pieces_append_slash, pieces_append_slash, pieces_slash_cons]
  | case3 c t h ih =>
    by_cases hc : c = '/'
    · subst hc
      rw [pieces_append_slash, pieces_append_slash]
      exact congrArg (names s ++ ·) (ih [])
    · simpa using ih (s ++ [c])

lemma pieces_collapse (t : Text) : pieces (collapse t) = pieces t := pieces_append_collapse [] t

lemma extend_congr (u : Url) {s t : Text} (h : pieces s = pieces t) : extend u s = extend u t := by
  rw [extend, extend, h]

/-- Whether a text is a run of at least two slashes. -/
def IsRun (t : Text) : Prop := ∃ n, t = List.replicate (n + 2) '/'

lemma collapse_replicate (n : Nat) : collapse (List.replicate (n + 1) '/') = ['/'] := by
  induction n with
  | zero => rfl
  | succ n ih => rwa [List.replicate_succ, List.replicate_succ, collapse_slash_slash, ← List.replicate_succ]

lemma not_isRun_cases {t : Text} (h : ¬ IsRun t) : t = [] ∨ t = ['/'] ∨ ∃ c ∈ t, c ≠ '/' := by
  by_contra! hcases
  obtain ⟨hnil, hslash, hall⟩ := hcases
  have ht : t = List.replicate t.length '/' := List.eq_replicate_iff.mpr ⟨rfl, hall⟩
  match hlength : t.length with
  | 0 => exact hnil (List.length_eq_zero_iff.mp hlength)
  | 1 => exact hslash (by rw [ht, hlength]; rfl)
  | n + 2 => exact h ⟨n, by rw [ht, hlength]⟩

/-- What comes of a path without parameters. -/
lemma resolve_path {service : String} {u : Url} (hu : readService service = .ok u) (path : String) :
    resolve service path []
      = .ok (if (relative path.toList).isEmpty then u else extend u path.toList) := by
  rw [resolve_of_fill hu (fill.eq_1 _), extend_congr u (pieces_relative path.toList)]

/-- A run of slashes leaves a path open. -/
lemma pathText_extend_of_isRun {u : Url} (hw : u.kind = .web) {base : List Text}
    (hpath : u.path = .segments base) (hbase : IsPath base) {t : Text} (h : IsRun t) :
    (extend u t).pathText = withSlash u.pathText := by
  obtain ⟨n, rfl⟩ := h
  have hpieces : pieces (List.replicate (n + 2) '/') = [[]] := by
    rw [← pieces_collapse, collapse_replicate]
    rfl
  have hextend := path_extend hw hpath hbase (t := List.replicate (n + 2) '/')
    (by simp [hpieces, IsSolid])
  have hopen : addSegments .web (stem base) ([[]].map written) = stem base ++ [[]] := rfl
  rw [pathText_of_path_eq hextend, hpieces, hopen, pathText_of_path_eq hpath,
    withSlash_segmentsText fun s hs => (hbase.isSegment s hs).solid.slash_not_mem, segmentsText_append]
  rfl

lemma withSegments_eq_self_iff {u : Url} {base : List Text} (hpath : u.path = .segments base)
    (hbase : IsPath base) {list : List Text} (hlist : IsPath list) :
    u.withSegments list = u ↔ (u.withSegments list).pathText = u.pathText := by
  constructor
  · intro h
    rw [h]
  · intro h
    rw [pathText_of_path_eq rfl, pathText_of_path_eq hpath] at h
    obtain rfl := eq_of_segmentsText_eq (fun s hs => (hlist.isSegment s hs).solid)
      (fun s hs => (hbase.isSegment s hs).solid) h
    rw [withSegments, ← hpath]

lemma extend_eq_self_iff {u : Url} (hw : u.kind = .web) {base : List Text}
    (hpath : u.path = .segments base) (hbase : IsPath base) (t : Text) :
    extend u t = u ↔ (extend u t).pathText = u.pathText := by
  rw [extend, hw]
  exact withSegments_eq_self_iff hpath hbase (isPath_parsePath _)

lemma withSlash_eq_self_iff {t : Text} : withSlash t = t ↔ t.getLast? = some '/' := by
  unfold withSlash
  split
  · next h => simp [h]
  · next h => simp [h]

/-- Repeated slashes count as one, unless a path consists of nothing else: a single slash is left out, but
behind the first slash of several one is kept at the end of the path, where there was none. -/
theorem resolve_collapse_iff {service : String} {u : Url} (hu : readService service = .ok u)
    (hw : u.kind = .web) (path : String) :
    ∃ r, resolve service path [] = .ok r
      ∧ (resolve service (String.ofList (collapse path.toList)) [] = .ok r ↔
          ¬ (IsRun path.toList ∧ u.pathText.getLast? ≠ some '/'))
      ∧ (IsRun path.toList →
          resolve service (String.ofList (collapse path.toList)) [] = .ok u
            ∧ SameButPath u r ∧ r.pathText = withSlash u.pathText) := by
  obtain ⟨base, hpath, hbase⟩ := exists_isPath hu hw
  have hcollapse := resolve_path hu (String.ofList (collapse path.toList))
  rw [String.toList_ofList, extend_congr u (pieces_collapse path.toList)] at hcollapse
  refine ⟨_, resolve_path hu path, ?_⟩
  by_cases hrun : IsRun path.toList
  · have htext := pathText_extend_of_isRun hw hpath hbase hrun
    have hleft : (relative (collapse path.toList)).isEmpty := by
      obtain ⟨n, hn⟩ := hrun
      rw [hn, collapse_replicate]
      rfl
    have hright : (relative path.toList).isEmpty = false := by
      obtain ⟨n, hn⟩ := hrun
      rw [hn]
      rfl
    rw [hcollapse, if_pos hleft, hright, if_neg (by simp)]
    refine ⟨?_, fun _ => ⟨rfl, sameButPath_withSegments u _, htext⟩⟩
    rw [Except.ok.injEq, eq_comm, extend_eq_self_iff hw hpath hbase, htext, withSlash_eq_self_iff]
    simp [hrun]
  · refine ⟨iff_of_true ?_ fun h => hrun h.1, fun h => absurd h hrun⟩
    rcases not_isRun_cases hrun with hnil | hslash | ⟨c, hc, hne⟩
    · rw [hcollapse, hnil]
      rfl
    · rw [hcollapse, hslash]
      rfl
    · have hleft := relative_ne_nil ⟨c, mem_collapse_iff.mpr hc, hne⟩
      have hright := relative_ne_nil ⟨c, hc, hne⟩
      rw [hcollapse, if_neg (by simpa using hleft), if_neg (by simpa using hright)]

/-- Runs at the start, inside and at the end of a path, beside a backslash and a dot segment; and a path that is
nothing but a run, under a path that has a slash at its end. -/
theorem resolve_collapse_iff_mixed :
    let u : Url := ⟨"https", some ⟨[], [], .domain "h".toList, none⟩, false,
      .segments ["v1".toList, []], some "q".toList, none⟩
    readService "https://h/v1/?q" = .ok u ∧ u.kind = .web
      ∧ String.ofList (collapse "///a//b\\//./c////".toList) = "/a/b\\/./c/"
      ∧ resolve "https://h/v1/?q" "///a//b\\//./c////" [] = resolve "https://h/v1/?q" "/a/b\\/./c/" []
      ∧ IsRun "////".toList
      ∧ resolve "https://h/v1/?q" "////" [] = .ok u := by
  intro u
  have hu : readService "https://h/v1/?q" = .ok u := eq_ok_of_toOption (by decide +kernel)
  have hw : u.kind = .web := by decide +kernel
  have hcollapse : String.ofList (collapse "///a//b\\//./c////".toList) = "/a/b\\/./c/" := by decide +kernel
  have hname : ¬ IsRun "///a//b\\//./c////".toList := by
    rintro ⟨n, hn⟩
    have ha : 'a' ∈ List.replicate (n + 2) '/' := hn ▸ by decide
    exact absurd (List.eq_of_mem_replicate ha) (by decide)
  have hrun : IsRun "////".toList := ⟨2, rfl⟩
  have hopen : u.pathText.getLast? = some '/' := by decide +kernel
  obtain ⟨r, hr, hiff, -⟩ := resolve_collapse_iff hu hw "///a//b\\//./c////"
  rw [hcollapse] at hiff
  obtain ⟨r', hr', hiff', hleft⟩ := resolve_collapse_iff hu hw "////"
  have hsame := hiff'.mpr fun h => h.2 hopen
  rw [(hleft hrun).1] at hsame
  exact ⟨hu, hw, hcollapse, hr.trans (hiff.mpr fun h => hname h.1).symm, hrun, hr'.trans hsame.symm⟩

/-- Two slashes are not as good as one under a path without a slash at its end. -/
theorem not_resolve_collapse_slashes :
    let u : Url := ⟨"https", some ⟨[], [], .domain "h".toList, none⟩, false,
      .segments ["v1".toList], none, none⟩
    readService "https://h/v1" = .ok u ∧ u.kind = .web
      ∧ String.ofList (collapse "//".toList) = "/"
      ∧ resolve "https://h/v1" "//" [] = .ok (u.withSegments ["v1".toList, []])
      ∧ resolve "https://h/v1" "/" [] = .ok u
      ∧ resolve "https://h/v1" "//" [] ≠ resolve "https://h/v1" "/" [] := by
  intro u
  have hdouble : resolve "https://h/v1" "//" [] = .ok (u.withSegments ["v1".toList, []]) :=
    eq_ok_of_toOption (by decide +kernel)
  have hsingle : resolve "https://h/v1" "/" [] = .ok u := eq_ok_of_toOption (by decide +kernel)
  refine ⟨eq_ok_of_toOption (by decide +kernel), by decide +kernel, by decide +kernel, hdouble, hsingle, ?_⟩
  rw [hdouble, hsingle, Ne, Except.ok.injEq]
  decide +kernel

end Courier.Endpoint
