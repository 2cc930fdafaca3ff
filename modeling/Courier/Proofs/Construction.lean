import Courier.Proofs.Service
import Mathlib

/-!
# Segments that are added one by one

A text that is added to a path becomes one segment, which stands for the text without its tabs and line
breaks. Texts that are empty or a dot segment without these add none. `grown` lists what some texts leave
on a path, so that the place of each value among the segments can be told.
-/

namespace Courier.Endpoint

open Percent Url

/-! ### The texts that are added -/

/-- Whether a text adds a segment: it is neither empty nor a dot segment, ignored characters apart. -/
def isName (t : Text) : Bool := clean t ≠ [] && clean t ≠ ['.'] && clean t ≠ ['.', '.']

/-- The texts that add nothing at all. -/
def isDot (t : Text) : Bool := t = ['.'] || t = ['.', '.']

/-- Whether a text takes no segment away. Only one that is `..` behind ignored characters does. -/
def isLevel (t : Text) : Bool := clean t ≠ ['.', '.'] || t = ['.', '.']

/-- The segment of a text that is added as a whole. -/
def pushed (t : Text) : Text := encode (segmentKeep .web) (clean t)

lemma decode_pushed (t : Text) : decode (pushed t) = (clean t).utf8 :=
  decode_encode (by decide) (clean t)

lemma pushed_ne_nil {t : Text} (h : isName t) : pushed t ≠ [] := by
  intro hnil
  simp [isName, encode_eq_nil_iff.mp hnil] at h

lemma isSingleDot_pushed_iff {t : Text} : isSingleDot (pushed t) ↔ clean t = ['.'] := by
  rw [isSingleDot_iff, decode_pushed]
  exact Text.utf8_injective.eq_iff (b := ['.'])

lemma isDoubleDot_pushed_iff {t : Text} : isDoubleDot (pushed t) ↔ clean t = ['.', '.'] := by
  rw [isDoubleDot_iff, decode_pushed]
  exact Text.utf8_injective.eq_iff (b := ['.', '.'])

/-! ### One step -/

/-- The segments that a text is added to: an empty one at the end is left out. -/
def below (segments : List Text) : List Text :=
  if popIfEmpty segments = [[]] then [] else popIfEmpty segments

lemma popIfEmpty_append_of_ne {s : Text} (hs : s ≠ []) (segments : List Text) :
    popIfEmpty (segments ++ [s]) = segments ++ [s] := by
  simp [popIfEmpty, hs]

lemma popIfEmpty_append_nil {segments : List Text} (hne : segments ≠ []) :
    popIfEmpty (segments ++ [[]]) = segments := by
  have hlength : 2 ≤ (segments ++ [[]]).length := by
    rw [List.length_append]
    exact Nat.succ_le_succ (List.length_pos_iff.mpr hne)
  rw [popIfEmpty, if_pos ⟨hlength, List.getLast?_concat⟩, List.dropLast_concat]

lemma below_append_of_ne {s : Text} (hs : s ≠ []) (segments : List Text) :
    below (segments ++ [s]) = segments ++ [s] := by
  rw [below, popIfEmpty_append_of_ne hs, if_neg]
  intro h
  obtain ⟨-, hlast⟩ := List.append_inj' (h.trans (List.nil_append [[]]).symm) rfl
  exact hs (List.singleton_inj.mp hlast)

lemma below_ne_singleton_nil (segments : List Text) : below segments ≠ [[]] := by
  unfold below
  split
  · simp
  · assumption

/-- An open end does not count for what is added. -/
lemma below_below_append (segments : List Text) : below (below segments ++ [[]]) = below segments := by
  have hne := below_ne_singleton_nil segments
  generalize below segments = list at hne
  by_cases hlist : list = []
  · subst hlist
    rfl
  · rw [below, popIfEmpty_append_nil hlist, if_neg hne]

lemma addPiece_of_isDot {t : Text} (h : isDot t) (segments : List Text) :
    addPiece .web segments t = popIfEmpty segments :=
  push_of_dot (by simpa [isDot] using h) _

lemma addPiece_of_not_isDot {t : Text} (h : isDot t = false) (segments : List Text) :
    addPiece .web segments t = addSegment .web (below segments) (pushed t) true :=
  push_of_not_dot (by simpa [isDot] using h) _

/-- Whether a path has a segment at its end that is not empty, an open end apart. Where it has none, even
`.` takes an empty segment away. -/
def IsSteady (segments : List Text) : Prop :=
  ∃ init s, s ≠ [] ∧ below segments = init ++ [s]

lemma IsSteady.popIfEmpty_eq {segments : List Text} (h : IsSteady segments) :
    popIfEmpty segments = below segments := by
  obtain ⟨init, s, -, hbelow⟩ := h
  unfold below at hbelow ⊢
  split
  · next hpop => simp [hpop] at hbelow
  · rfl

lemma IsSteady.below_below {segments : List Text} (h : IsSteady segments) :
    below (below segments) = below segments := by
  obtain ⟨init, s, hs, hbelow⟩ := h
  rw [hbelow, below_append_of_ne hs]

/-! ### Several steps -/

/-- What texts leave on a path. A text that is no name leaves it open, if it is the last one, unless it
is `.` or `..`. -/
def grown : List Text → List Text
  | [] => []
  | [t] => if isName t then [pushed t] else if isDot t then [] else [[]]
  | t :: s :: rest => (if isName t then [pushed t] else []) ++ grown (s :: rest)

section Step

variable {segments : List Text} {t : Text}

lemma isName_eq_false_of_isDot (h : isDot t) : isName t = false := by
  have hdot : t = ['.'] ∨ t = ['.', '.'] := by simpa [isDot] using h
  rcases hdot with rfl | rfl <;> decide

/-- A text that takes no segment away leaves on a path what it leaves on any. -/
lemma addPiece_eq (hlevel : isLevel t) (hdot : isDot t → IsSteady segments) :
    addPiece .web segments t = below segments ++ grown [t] := by
  cases hd : isDot t with
  | true =>
    rw [addPiece_of_isDot hd, (hdot hd).popIfEmpty_eq, grown, isName_eq_false_of_isDot hd, hd]
    simp
  | false =>
    have hdouble : isDoubleDot (pushed t) = false := by
      rw [← Bool.not_eq_true, isDoubleDot_pushed_iff]
      intro hclean
      -- only `..` itself is level with this segment, and it is never added
      have ht : t = ['.', '.'] := by simpa [isLevel, hclean] using hlevel
      simp [isDot, ht] at hd
    rw [addPiece_of_not_isDot hd, grown, hd]
    cases hsingle : isSingleDot (pushed t) with
    | true =>
      have hname : isName t = false := by
        simp [isName, isSingleDot_pushed_iff.mp hsingle]
      rw [addSegment_of_single hsingle hdouble, hname]
      simp
    | false =>
      have hne : clean t ≠ ['.'] := by simp [← isSingleDot_pushed_iff, hsingle]
      have hne' : clean t ≠ ['.', '.'] := by simp [← isDoubleDot_pushed_iff, hdouble]
      rw [addSegment_of_not_dot hsingle hdouble]
      by_cases hclean : clean t = []
      · simp [isName, pushed, hclean]
      · simp [isName, hclean, hne, hne']

/-- What the next text is added to. -/
lemma below_addPiece (hlevel : isLevel t) (hdot : isDot t → IsSteady segments) :
    below (addPiece .web segments t) = below segments ++ if isName t then [pushed t] else [] := by
  rw [addPiece_eq hlevel hdot, grown]
  cases hname : isName t with
  | true => exact below_append_of_ne (pushed_ne_nil hname) (below segments)
  | false =>
    cases hd : isDot t with
    | true => simpa using (hdot hd).below_below
    | false => simpa using below_below_append segments

lemma IsSteady.addPiece (h : IsSteady segments) (hlevel : isLevel t) :
    IsSteady (addPiece .web segments t) := by
  have hbelow := below_addPiece hlevel fun _ => h
  cases hname : isName t with
  | true => exact ⟨below segments, pushed t, pushed_ne_nil hname, by simp [hbelow, hname]⟩
  | false =>
    obtain ⟨init, s, hs, hinit⟩ := h
    exact ⟨init, s, hs, by simp [hbelow, hname, hinit]⟩

end Step

/-- Texts that take no segment away leave on a path what they leave on any, in turn. -/
lemma foldl_addPiece {list : List Text} (hne : list ≠ []) (hlevel : ∀ t ∈ list, isLevel t)
    {segments : List Text} (hdot : (∃ t ∈ list, isDot t) → IsSteady segments) :
    list.foldl (addPiece .web) segments = below segments ++ grown list := by
  -- each text finds the path below as the one before left it, so the steps add up
  induction list generalizing segments with
  | nil => exact absurd rfl hne
  | cons t rest ih =>
    obtain ⟨ht, hrest⟩ := List.forall_mem_cons.mp hlevel
    have hfirst : isDot t → IsSteady segments := fun h => hdot ⟨t, List.mem_cons_self, h⟩
    cases rest with
    | nil => exact addPiece_eq ht hfirst
    | cons s rest =>
      rw [List.foldl_cons, ih (List.cons_ne_nil s rest) hrest, below_addPiece ht hfirst, grown,
        List.append_assoc]
      rintro ⟨x, hx, hdotx⟩
      exact (hdot ⟨x, List.mem_cons_of_mem t hx, hdotx⟩).addPiece ht

/-- Texts of which the last one is a name leave the segments of the names. -/
lemma grown_append_singleton {t : Text} (h : isName t) (list : List Text) :
    grown (list ++ [t]) = ((list ++ [t]).filter isName).map pushed := by
  induction list with
  | nil => simp [grown, h]
  | cons s list ih =>
    obtain ⟨x, rest, hcons⟩ := List.exists_cons_of_ne_nil (show list ++ [t] ≠ [] by simp)
    rw [List.cons_append, hcons, grown, ← hcons, ih]
    cases hs : isName s <;> simp [hs]

/-! ### What new segments stand for -/

/-- Whether a segment stands for a text without ignored characters. -/
def IsClean (s : Text) : Prop := ∃ t, decode s = (clean t).utf8

lemma isClean_nil : IsClean [] := ⟨[], decode_nil⟩

lemma isClean_pushed (t : Text) : IsClean (pushed t) := ⟨t, decode_pushed t⟩

/-- Only empty segments are left out at the end of a path. -/
lemma exists_eq_popIfEmpty_append (segments : List Text) :
    ∃ rest, segments = popIfEmpty segments ++ rest ∧ ∀ s ∈ rest, s = [] := by
  unfold popIfEmpty
  split
  · next h => exact ⟨[[]], (List.dropLast_append_getLast? _ h.2).symm, by simp⟩
  · exact ⟨[], by simp, by simp⟩

lemma exists_eq_below_append (segments : List Text) :
    ∃ rest, segments = below segments ++ rest ∧ ∀ s ∈ rest, s = [] := by
  obtain ⟨rest, heq, hrest⟩ := exists_eq_popIfEmpty_append segments
  unfold below
  split
  · next hpop =>
    rw [hpop] at heq
    exact ⟨[] :: rest, heq, by simpa using hrest⟩
  · exact ⟨rest, heq, hrest⟩

/-- A text leaves some of the segments that are there, and adds what stands for it. -/
lemma exists_addPiece_eq_append (segments : List Text) (t : Text) :
    ∃ kept new, addPiece .web segments t = kept ++ new ∧ kept <+: segments
      ∧ ∀ s ∈ new, IsClean s := by
  cases hd : isDot t with
  | true =>
    rw [addPiece_of_isDot hd]
    obtain ⟨rest, hrest, -⟩ := exists_eq_popIfEmpty_append segments
    exact ⟨_, [], (List.append_nil _).symm, ⟨rest, hrest.symm⟩, by simp⟩
  | false =>
    obtain ⟨rest, hrest, -⟩ := exists_eq_below_append segments
    have hbelow : below segments <+: segments := ⟨rest, hrest.symm⟩
    rw [addPiece_of_not_isDot hd]
    cases hdouble : isDoubleDot (pushed t) with
    | true =>
      exact ⟨_, _, addSegment_of_double hdouble, (shorten_prefix_self _).trans hbelow,
        by simp [isClean_nil]⟩
    | false =>
      cases hsingle : isSingleDot (pushed t) with
      | true =>
        exact ⟨_, _, addSegment_of_single hsingle hdouble, hbelow, by simp [isClean_nil]⟩
      | false =>
        exact ⟨_, _, addSegment_of_not_dot hsingle hdouble, hbelow, by simp [isClean_pushed]⟩

/-- What stands for texts without ignored characters from some place on does so for good. -/
lemma isClean_of_mem_drop_foldl {n : Nat} {segments : List Text}
    (h : ∀ s ∈ segments.drop n, IsClean s) (list : List Text) :
    ∀ s ∈ (list.foldl (addPiece .web) segments).drop n, IsClean s := by
  induction list generalizing segments with
  | nil => exact h
  | cons t rest ih =>
    refine ih fun s hs => ?_
    obtain ⟨kept, new, heq, hkept, hnew⟩ := exists_addPiece_eq_append segments t
    rw [heq, List.drop_append, List.mem_append] at hs
    rcases hs with hs | hs
    · exact h s ((hkept.drop n).subset hs)
    · exact hnew s (List.mem_of_mem_drop hs)

lemma isClean_of_mem_drop_below (segments : List Text) :
    ∀ s ∈ segments.drop (below segments).length, IsClean s := by
  intro s hs
  obtain ⟨rest, heq, hrest⟩ := exists_eq_below_append segments
  have hdrop : (below segments ++ rest).drop (below segments).length = rest := List.drop_left
  rw [← heq] at hdrop
  rw [hdrop] at hs
  rw [hrest s hs]
  exact isClean_nil

/-! ### The place of a value -/

/-- A value that a segment can stand for: it is not empty and no dot segment, and no character of it is
left out. -/
structure IsKept (value : String) : Prop where
  name : value ∉ ["", ".", ".."]
  whole : ∀ c ∈ value.toList, isIgnored c = false

lemma IsKept.clean_eq {value : String} (h : IsKept value) : clean value.toList = value.toList :=
  clean_eq_self h.whole

lemma IsKept.isName {value : String} (h : IsKept value) : isName value.toList := by
  have hname := h.name
  simp only [List.mem_cons, List.not_mem_nil, or_false, not_or, ← String.toList_inj] at hname
  simpa [Endpoint.isName, h.clean_eq, and_assoc] using hname

lemma IsKept.isLevel {value : String} (h : IsKept value) : isLevel value.toList := by
  have hname := h.isName
  simp only [Endpoint.isName, Bool.and_eq_true, decide_eq_true_eq] at hname
  simp [Endpoint.isLevel, hname]

lemma IsKept.not_isDot {value : String} (h : IsKept value) : isDot value.toList = false := by
  cases hdot : isDot value.toList with
  | true => exact absurd h.isName (by simp [isName_eq_false_of_isDot hdot])
  | false => rfl

lemma IsKept.decode_pushed {value : String} (h : IsKept value) :
    decode (pushed value.toList) = Text.utf8 value.toList := by
  rw [Endpoint.decode_pushed, h.clean_eq]

/-- The value at some place stands between the texts before it, up to those of the segment at its
place, and the texts behind it. -/
lemma additions_eq {segments values : List String} {i : Nat} {value : String}
    (hvalue : values[i]? = some value) (hne : value ≠ "") (hi : i < segments.length) :
    additions segments values = additions (segments.take (i + 1)) (values.take i)
      ++ value.toList :: additions (segments.drop (i + 1)) (values.drop (i + 1)) := by
  induction i generalizing segments values with
  | zero =>
    obtain ⟨s, rest, rfl⟩ := List.exists_cons_of_length_pos hi
    cases values with
    | nil => simp at hvalue
    | cons v values =>
      obtain rfl : v = value := by simpa using hvalue
      simp [additions, Option.filter, hne]
  | succ i ih =>
    cases segments with
    | nil => simp at hi
    | cons s rest =>
      cases values with
      | nil => simp at hvalue
      | cons v values =>
        have hrest := @ih rest values (by simpa using hvalue) (by simpa using hi)
        simp only [additions, List.take_succ_cons, List.drop_succ_cons, List.tail_cons,
          List.head?_cons, List.append_assoc, hrest]

lemma construct_of_readService {service : String} {u : Url} (hu : readService service = .ok u)
    (hw : u.kind = .web) {base : List Text} (hpath : u.path = .segments base)
    (segments values : List String) :
    construct service segments values
      = .ok (u.withSegments ((additions segments values).foldl (addPiece .web) base)) := by
  simp only [construct, hu, hw, segments?, hpath, Option.getD_some, ok_bind, pure_eq_ok]

/-- The URL with another value at some place. -/
lemma construct_set {service : String} {u : Url} (hu : readService service = .ok u)
    (hw : u.kind = .web) {base : List Text} (hpath : u.path = .segments base)
    {segments values : List String} (hlength : values.length ≤ segments.length) {i : Nat}
    (hi : i < values.length) {other : String} (hne : other ≠ "") :
    construct service segments (values.set i other) = .ok (u.withSegments
      ((other.toList :: additions (segments.drop (i + 1)) (values.drop (i + 1))).foldl
        (addPiece .web)
        ((additions (segments.take (i + 1)) (values.take i)).foldl (addPiece .web) base))) := by
  rw [construct_of_readService hu hw hpath,
    additions_eq (List.getElem?_set_self hi) hne (hi.trans_le hlength),
    List.take_set_of_le le_rfl, List.drop_set_of_lt (Nat.lt_succ_self i), List.foldl_append]

/-- The segments of a path are told apart by its text. -/
lemma segments_eq_of_toText_withSegments_eq {u : Url} {list list' : List Text} (h : IsPath list)
    (h' : IsPath list') (heq : (u.withSegments list).toText = (u.withSegments list').toText) :
    list = list' := by
  have htext := (sameButPath_withSegments u list).pathText_eq (sameButPath_withSegments u list') heq
  rw [pathText_of_path_eq rfl, pathText_of_path_eq rfl] at htext
  exact eq_of_segmentsText_eq (fun s hs => (h.isSegment s hs).solid)
    (fun s hs => (h'.isSegment s hs).solid) htext

/-- Only a value that is kept has a segment behind those that were there before. -/
lemma isKept_of_foldl_addPiece_eq {value : String} (hne : value ≠ "") {segments : List Text}
    (hsegments : IsPath segments) {s : Text} (hs : decode s = Text.utf8 value.toList)
    {later rest : List Text}
    (h : (value.toList :: later).foldl (addPiece .web) segments = below segments ++ s :: rest) :
    IsKept value where
  name := by
    have hpath := isPath_foldl_addPiece hsegments (value.toList :: later)
    have hsegment : IsSegment s := hpath.isSegment s (by simp [h])
    have hsingle : value ≠ "." := by
      rintro rfl
      exact absurd (isSingleDot_iff.mpr hs) (by simp [hsegment.not_single])
    have hdouble : value ≠ ".." := by
      rintro rfl
      exact absurd (isDoubleDot_iff.mpr hs) (by simp [hsegment.not_double])
    simp [hne, hsingle, hdouble]
  whole := by
    -- what is added stands for texts without ignored characters, even where it is escaped
    have hdrop := isClean_of_mem_drop_foldl (isClean_of_mem_drop_below segments)
      (value.toList :: later)
    rw [h, List.drop_left] at hdrop
    obtain ⟨t, ht⟩ := hdrop s List.mem_cons_self
    rw [Text.utf8_injective (hs.symm.trans ht)]
    exact fun c hc => by simpa using (List.mem_filter.mp hc).2

/-- A value that is kept is one segment in its place, in front of what later texts leave. -/
lemma foldl_addPiece_of_isKept {value : String} (hkept : IsKept value) {later : List Text}
    (hlater : ∀ t ∈ later, isLevel t) (segments : List Text) :
    (value.toList :: later).foldl (addPiece .web) segments
      = below segments ++ pushed value.toList :: grown later := by
  have hvalue : addPiece .web segments value.toList = below segments ++ [pushed value.toList] := by
    rw [addPiece_eq hkept.isLevel fun h => absurd h (by simp [hkept.not_isDot]), grown,
      if_pos hkept.isName]
  have hbelow := below_append_of_ne (pushed_ne_nil hkept.isName) (below segments)
  have hsteady : IsSteady (below segments ++ [pushed value.toList]) :=
    ⟨_, _, pushed_ne_nil hkept.isName, hbelow⟩
  rw [List.foldl_cons, hvalue]
  by_cases hne : later = []
  · simp [hne, grown]
  · rw [foldl_addPiece hne hlater fun _ => hsteady, hbelow, List.append_assoc,
      List.singleton_append]

/-- A value stands for one segment right behind what was added before it exactly if it is no dot segment
and holds no ignored character, whatever is added later, unless that climbs. Then different values give
different URLs. -/
theorem contributes_segment_iff {service : String} {u : Url} (hu : readService service = .ok u)
    (hw : u.kind = .web) {segments values : List String} (hlength : values.length ≤ segments.length)
    {i : Nat} {value : String} (hvalue : values[i]? = some value) (hne : value ≠ "")
    (hlater : ∀ t ∈ additions (segments.drop (i + 1)) (values.drop (i + 1)), isLevel t) :
    ∃ before r list, construct service (segments.take (i + 1)) (values.take i) = .ok before
      ∧ before.path = .segments list
      ∧ construct service segments values = .ok r
      ∧ ((∃ s, decode s = Text.utf8 value.toList ∧ r.path = .segments (below list
            ++ s :: grown (additions (segments.drop (i + 1)) (values.drop (i + 1))))) ↔
          IsKept value)
      ∧ (IsKept value → ∀ other, IsKept other → other ≠ value →
          ∃ r', construct service segments (values.set i other) = .ok r' ∧ r'.toText ≠ r.toText) := by
  obtain ⟨base, hpath, hbase⟩ := exists_isPath hu hw
  obtain ⟨hi, hget⟩ := List.getElem?_eq_some_iff.mp hvalue
  have hbefore := construct_of_readService hu hw hpath (segments.take (i + 1)) (values.take i)
  have hlist := isPath_foldl_addPiece hbase (additions (segments.take (i + 1)) (values.take i))
  have hset := @construct_set service u hu hw base hpath segments values hlength i hi
  have hr := hset hne
  rw [← hget, List.set_getElem_self, hget] at hr
  generalize (additions (segments.take (i + 1)) (values.take i)).foldl (addPiece .web) base = list
    at *
  generalize additions (segments.drop (i + 1)) (values.drop (i + 1)) = later at *
  refine ⟨_, _, list, hbefore, rfl, hr, ⟨?_, ?_⟩, ?_⟩
  · rintro ⟨s, hs, hplace⟩
    exact isKept_of_foldl_addPiece_eq hne hlist hs (Path.segments.inj hplace)
  · intro hkept
    exact ⟨pushed value.toList, hkept.decode_pushed,
      congrArg Path.segments (foldl_addPiece_of_isKept hkept hlater _)⟩
  · intro hkept other hother hdiff
    have hempty : other ≠ "" := fun h => hother.name (by simp [h])
    refine ⟨_, hset hempty, fun htext => hdiff ?_⟩
    have hsegments := segments_eq_of_toText_withSegments_eq (isPath_foldl_addPiece hlist _)
      (isPath_foldl_addPiece hlist _) htext
    rw [foldl_addPiece_of_isKept hother hlater, foldl_addPiece_of_isKept hkept hlater,
      List.append_cancel_left_eq] at hsegments
    have hbytes := congrArg decode (List.cons.inj hsegments).1
    rw [hother.decode_pushed, hkept.decode_pushed] at hbytes
    exact String.toList_inj.mp (Text.utf8_injective hbytes)

/-- A value with the signs of a path, behind a path that ends in empty segments and before dot
segments. -/
theorem contributes_segment_iff_signs :
    let u : Url := ⟨"https", some ⟨[], [], .domain "h".toList, none⟩, false,
      .segments ["v1".toList, [], []], some "q".toList, none⟩
    let segments := ["/a//b/", "./c/", ""]
    let values := ["../é?%2e", "\t", "."]
    let list := ["v1".toList, [], "a".toList, "b".toList]
    readService "https://h/v1//?q" = .ok u ∧ u.kind = .web ∧ values.length ≤ segments.length
      ∧ values[0]? = some "../é?%2e" ∧ "../é?%2e" ≠ ""
      ∧ (∀ t ∈ additions (segments.drop 1) (values.drop 1), isLevel t)
      ∧ construct "https://h/v1//?q" ["/a//b/"] [] = .ok (u.withSegments (list ++ [[]]))
      ∧ construct "https://h/v1//?q" segments values
        = .ok (u.withSegments (list ++ ["..%2F%C3%A9%3F%252e".toList, "c".toList]))
      ∧ decode "..%2F%C3%A9%3F%252e".toList = Text.utf8 "../é?%2e".toList
      ∧ IsKept "../é?%2e"
      ∧ ∀ other, IsKept other → other ≠ "../é?%2e" →
        ∃ r', construct "https://h/v1//?q" segments [other, "\t", "."] = .ok r'
          ∧ r'.toText ≠ "https://h/v1//a/b/..%2F%C3%A9%3F%252e/c?q" := by
  intro u segments values list
  have hu : readService "https://h/v1//?q" = .ok u := eq_ok_of_toOption (by decide +kernel)
  have hw : u.kind = .web := by decide +kernel
  have hlength : values.length ≤ segments.length := le_refl 3
  have hvalue : values[0]? = some "../é?%2e" := rfl
  have hne : "../é?%2e" ≠ "" := by decide +kernel
  have hlater : ∀ t ∈ additions (segments.drop 1) (values.drop 1), isLevel t := by decide +kernel
  have hbefore : construct "https://h/v1//?q" ["/a//b/"] [] = .ok (u.withSegments (list ++ [[]])) :=
    eq_ok_of_toOption (by decide +kernel)
  have hr : construct "https://h/v1//?q" segments values
      = .ok (u.withSegments (list ++ ["..%2F%C3%A9%3F%252e".toList, "c".toList])) :=
    eq_ok_of_toOption (by decide +kernel)
  have hdecode : decode "..%2F%C3%A9%3F%252e".toList = Text.utf8 "../é?%2e".toList := by decide +kernel
  obtain ⟨before, r, list₁, h₁, hlist₁, h₂, hiff, hother⟩ :=
    contributes_segment_iff hu hw hlength hvalue hne hlater
  obtain rfl := Except.ok.inj (hbefore.symm.trans h₁)
  obtain rfl := Except.ok.inj (hr.symm.trans h₂)
  obtain rfl : list ++ [[]] = list₁ := Path.segments.inj hlist₁
  have hkept : IsKept "../é?%2e" := hiff.mp ⟨"..%2F%C3%A9%3F%252e".toList, hdecode, by decide +kernel⟩
  have htext : (u.withSegments (list ++ ["..%2F%C3%A9%3F%252e".toList, "c".toList])).toText
      = "https://h/v1//a/b/..%2F%C3%A9%3F%252e/c?q" := by decide +kernel
  rw [htext] at hother
  exact ⟨hu, hw, hlength, hvalue, hne, hlater, hbefore, hr, hdecode, hkept, hother hkept⟩

/-- A value with a tab becomes a segment without it, as another value does. -/
theorem not_contributes_segment_tab :
    let u : Url := ⟨"https", some ⟨[], [], .domain "h".toList, none⟩, false,
      .segments ["v1".toList], none, none⟩
    let list := ["v1".toList, "a".toList, "xy".toList]
    readService "https://h/v1" = .ok u ∧ u.kind = .web
      ∧ construct "https://h/v1" ["a"] ["x\ty"] = .ok (u.withSegments list)
      ∧ construct "https://h/v1" ["a"] ["xy"] = .ok (u.withSegments list)
      ∧ ∀ s ∈ list, decode s ≠ Text.utf8 "x\ty".toList := by
  intro u list
  exact ⟨eq_ok_of_toOption (by decide +kernel), by decide +kernel,
    eq_ok_of_toOption (by decide +kernel), eq_ok_of_toOption (by decide +kernel),
    by decide +kernel⟩

end Courier.Endpoint
