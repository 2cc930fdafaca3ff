import Courier.Proofs.Construction
import Courier.Proofs.Stepwise
import Courier.Proofs.Values
import Mathlib

/-!
# Two ways to the same URL

Segments and values in turn can be added one by one, or written as a template with a placeholder behind
each segment. The values are escaped in different ways, and separators are left out in different places,
but the segments that come out stand for the same bytes.
-/

namespace Courier.Template

/-! ### The template of some segments -/

/-- Segments with a placeholder behind each, numbered from `k` on: from `0`, the segments `s` and `t`
are the pieces of the template `s/{0}/t/{1}`. -/
def alternation (k : Nat) : List String → List Piece
  | [] => []
  | s :: rest => .literal s.toList :: .hole (toString k) :: alternation (k + 1) rest

/-- Values under the names of those placeholders. -/
def numbered (k : Nat) : List String → List (String × String)
  | [] => []
  | v :: rest => (toString k, v) :: numbered (k + 1) rest

lemma isDigit_of_mem_toString {n : Nat} : ∀ c ∈ (toString n).toList, c.isDigit := by
  intro c hc
  rw [Nat.toString_eq_repr, Nat.toList_repr] at hc
  exact Nat.isDigit_of_mem_toDigits (by decide) (by decide) hc

lemma braces_not_mem_toString (n : Nat) : '{' ∉ (toString n).toList ∧ '}' ∉ (toString n).toList :=
  ⟨fun h => absurd (isDigit_of_mem_toString _ h) (by decide),
    fun h => absurd (isDigit_of_mem_toString _ h) (by decide)⟩

lemma isProper_numbered {values : List String} (h : ∀ v ∈ values, v ≠ "") (k : Nat) :
    IsProper (numbered k values) := by
  induction values generalizing k with
  | nil => simp [numbered, IsProper]
  | cons v rest ih =>
    obtain ⟨hv, hrest⟩ := List.forall_mem_cons.mp h
    obtain ⟨hopen, hclose⟩ := braces_not_mem_toString k
    exact List.forall_mem_cons.mpr ⟨⟨hopen, hclose, hv⟩, ih hrest (k + 1)⟩

lemma hasNoBraces_of_mem_alternation {segments : List String} (h : ∀ s ∈ segments, '{' ∉ s.toList)
    (k : Nat) : ∀ p ∈ alternation k segments, p.HasNoBraces := by
  induction segments generalizing k with
  | nil => simp [alternation]
  | cons s rest ih =>
    obtain ⟨hs, hrest⟩ := List.forall_mem_cons.mp h
    exact List.forall_mem_cons.mpr ⟨hs,
      List.forall_mem_cons.mpr ⟨braces_not_mem_toString k, ih hrest (k + 1)⟩⟩

/-- The parameters before some number do not count behind it. -/
lemma filled_cons_of_lt {k n : Nat} (h : k < n) (v : String) (parameters : List (String × String))
    (segments : List String) :
    (alternation n segments).map (Piece.filled ((toString k, v) :: parameters))
      = (alternation n segments).map (Piece.filled parameters) := by
  induction segments generalizing n with
  | nil => rfl
  | cons s rest ih =>
    have hne : (toString n).toList ≠ (toString k).toList := by
      intro heq
      exact absurd (Nat.repr_inj.mp (String.toList_inj.mp heq)) (by omega)
    have hhole : (Piece.hole (toString n)).filled ((toString k, v) :: parameters)
        = (Piece.hole (toString n)).filled parameters := by
      simp only [Piece.filled, valueOf_cons, if_neg hne]
    rw [alternation, List.map_cons, List.map_cons, hhole, ih (Nat.lt_succ_of_lt h)]
    rfl

/-- The filled template holds each value behind its segment. -/
lemma map_filled_alternation {segments values : List String}
    (hlength : segments.length = values.length) (k : Nat) :
    (alternation k segments).map (Piece.filled (numbered k values))
      = (segments.zip values).flatMap fun p => [p.1.toList, encodeValue p.2.toList] := by
  induction segments generalizing values k with
  | nil => rfl
  | cons s rest ih =>
    cases values with
    | nil => simp at hlength
    | cons v values =>
      have hv : (Piece.hole (toString k)).filled (numbered k (v :: values))
          = encodeValue v.toList := by
        simp [Piece.filled, numbered, valueOf_cons]
      rw [alternation, List.map_cons, List.map_cons, hv, numbered,
        filled_cons_of_lt (Nat.lt_succ_self k), ih (by simpa using hlength), List.zip_cons_cons,
        List.flatMap_cons]
      rfl

end Courier.Template

namespace Courier.Endpoint

open Percent Template Url

/-! ### Segments and values between slashes -/

/-- The pieces of segments that are not empty, each segment with its value behind it. -/
def parts (f : String → Text) (pairs : List (String × String)) : List Text :=
  pairs.flatMap fun p => names p.1.toList ++ [f p.2]

/-- Segments and values between slashes. -/
def alternating (pairs : List (String × String)) : Text :=
  ['/'].intercalate (pairs.flatMap fun p => [p.1.toList, encodeValue p.2.toList])

lemma pieces_alternating {pairs : List (String × String)} (hne : pairs ≠ [])
    (h : ∀ p ∈ pairs, p.2 ≠ "") :
    pieces (alternating pairs) = parts (fun v => encodeValue v.toList) pairs := by
  have hvalue : ∀ p ∈ pairs, names (encodeValue p.2.toList) = [encodeValue p.2.toList] :=
    fun p hp => names_of_not_mem (encodeValue_ne_nil (by simpa using h p hp))
      (slash_not_mem_encodeValue _)
  obtain ⟨init, ⟨s, v⟩, hpairs⟩ := pairs.eq_nil_or_concat'.resolve_left hne
  have hconcat : pairs.flatMap (fun p => [p.1.toList, encodeValue p.2.toList])
      = (init.flatMap (fun p => [p.1.toList, encodeValue p.2.toList]) ++ [s.toList])
        ++ [encodeValue v.toList] := by
    simp [hpairs]
  have hv : v ≠ "" := h (s, v) (by simp [hpairs])
  rw [alternating, hconcat,
    pieces_intercalate_append_singleton (encodeValue_ne_nil (by simpa using hv))
    (slash_not_mem_encodeValue _), ← hconcat, List.flatMap_assoc, parts]
  refine List.flatMap_congr fun p hp => ?_
  simp [hvalue p hp]

/-! ### Segments without escapes -/

/-- A segment in which nothing has a meaning but its slashes: it has no escape, no other separator, no
placeholder, no ignored character and no dot segment. -/
structure IsUnescaped (s : String) : Prop where
  chars : ∀ c ∈ s.toList, c ∉ ['%', '\\', '{'] ∧ isIgnored c = false
  pieces : ∀ t ∈ s.toList.splitOn '/', isDot t = false

namespace IsUnescaped

variable {s : String} {t : Text}

lemma mem_of_mem_splitOn (ht : t ∈ s.toList.splitOn '/') :
    ∀ c ∈ t, c ∈ s.toList ∧ c ≠ '/' := by
  intro c hc
  obtain ⟨hmem, hslash⟩ := forall_mem_of_mem_splitOnP ht c hc
  exact ⟨hmem, by simpa using hslash⟩

lemma clean_eq (h : IsUnescaped s) (ht : t ∈ s.toList.splitOn '/') : clean t = t :=
  clean_eq_self fun c hc => (h.chars c (mem_of_mem_splitOn ht c hc).1).2

lemma isLevel (h : IsUnescaped s) (ht : t ∈ s.toList.splitOn '/') : isLevel t := by
  simp [Endpoint.isLevel, h.clean_eq ht]

lemma ne_dot (h : IsUnescaped s) (ht : t ∈ s.toList.splitOn '/') : t ≠ ['.'] ∧ t ≠ ['.', '.'] := by
  simpa [isDot] using h.pieces t ht

lemma isName_eq (h : IsUnescaped s) (ht : t ∈ s.toList.splitOn '/') : isName t = !t.isEmpty := by
  have hdot := h.ne_dot ht
  cases t with
  | nil => rfl
  | cons c t => simp [isName, h.clean_eq ht, hdot]

lemma decode_eq (h : IsUnescaped s) (ht : t ∈ s.toList.splitOn '/') : decode t = t.utf8 :=
  decode_eq_utf8 fun hc => (h.chars _ (mem_of_mem_splitOn ht _ hc).1).1 (by simp)

lemma isUndivided (h : IsUnescaped s) (ht : t ∈ s.toList.splitOn '/') (hne : t ≠ []) :
    IsUndivided t := by
  have hdot := h.ne_dot ht
  exact {
    ne_nil := hne
    solid := fun c hc => by
      obtain ⟨hmem, hslash⟩ := mem_of_mem_splitOn ht c hc
      have hback : c ≠ '\\' := fun heq => (h.chars c hmem).1 (by simp [heq])
      simp [isSeparator, hslash, hback]
    not_single := by
      rw [h.clean_eq ht, ← Bool.not_eq_true, isSingleDot_iff, h.decode_eq ht]
      exact fun heq => hdot.1 (Text.utf8_injective heq)
    not_double := by
      rw [h.clean_eq ht, ← Bool.not_eq_true, isDoubleDot_iff, h.decode_eq ht]
      exact fun heq => hdot.2 (Text.utf8_injective heq) }

lemma filter_pieces (h : IsUnescaped s) :
    (Template.pieces s.toList).filter isName = names s.toList := by
  rw [← Endpoint.filter_pieces]
  exact List.filter_congr fun t ht => h.isName_eq (mem_splitOn_of_mem_pieces ht)

end IsUnescaped

/-! ### The segments on both ways -/

section Pairs

variable {pairs : List (String × String)}

/-- The texts that are added for segments with a value behind each. -/
def inTurn (pairs : List (String × String)) : List Text :=
  pairs.flatMap fun p => (if p.1.isEmpty then [] else pieces p.1.toList) ++ [p.2.toList]

lemma additions_eq_inTurn {segments values : List String}
    (hlength : segments.length = values.length) (hvalues : ∀ v ∈ values, v ≠ "") :
    additions segments values = inTurn (segments.zip values) := by
  induction segments generalizing values with
  | nil => rfl
  | cons s rest ih =>
    cases values with
    | nil => simp at hlength
    | cons v values =>
      obtain ⟨hv, hrest⟩ := List.forall_mem_cons.mp hvalues
      rw [additions, List.zip_cons_cons, inTurn, List.flatMap_cons, List.tail_cons,
        ih (by simpa using hlength) hrest, inTurn]
      simp [Option.filter, hv]

lemma filter_inTurn (h : ∀ p ∈ pairs, IsUnescaped p.1 ∧ IsKept p.2) :
    (inTurn pairs).filter isName = parts String.toList pairs := by
  rw [inTurn, List.filter_flatMap, parts]
  refine List.flatMap_congr fun p hp => ?_
  obtain ⟨hsegment, hvalue⟩ := h p hp
  rw [List.filter_append, List.filter_singleton, hvalue.isName]
  split
  · next hempty => simp [String.isEmpty_iff.mp hempty, names]
  · rw [hsegment.filter_pieces]
    rfl

lemma isLevel_of_mem_inTurn (h : ∀ p ∈ pairs, IsUnescaped p.1 ∧ IsKept p.2) :
    ∀ t ∈ inTurn pairs, isLevel t ∧ isDot t = false := by
  intro t ht
  obtain ⟨p, hp, htp⟩ := List.mem_flatMap.mp ht
  obtain ⟨hsegment, hvalue⟩ := h p hp
  rcases List.mem_append.mp htp with htp | htp
  · split at htp
    · exact absurd htp List.not_mem_nil
    · have hsplit := mem_splitOn_of_mem_pieces htp
      exact ⟨hsegment.isLevel hsplit, hsegment.pieces t hsplit⟩
  · rw [List.mem_singleton.mp htp]
    exact ⟨hvalue.isLevel, hvalue.not_isDot⟩

/-- Added one by one, segments and values leave their pieces behind the path. -/
lemma foldl_addPiece_inTurn (hne : pairs ≠ []) (h : ∀ p ∈ pairs, IsUnescaped p.1 ∧ IsKept p.2)
    (base : List Text) :
    (inTurn pairs).foldl (addPiece .web) base
      = below base ++ (parts String.toList pairs).map pushed := by
  obtain ⟨init, ⟨s, v⟩, hpairs⟩ := pairs.eq_nil_or_concat'.resolve_left hne
  have hconcat : ∃ list, inTurn pairs = list ++ [v.toList] := by
    refine ⟨inTurn init ++ (if s.isEmpty then [] else pieces s.toList), ?_⟩
    simp [hpairs, inTurn]
  have hvalue : IsKept v := (h (s, v) (by simp [hpairs])).2
  have hadded := isLevel_of_mem_inTurn h
  have hdot : (∃ t ∈ inTurn pairs, isDot t) → IsSteady base := by
    rintro ⟨t, ht, hdot⟩
    simp [(hadded t ht).2] at hdot
  rw [← filter_inTurn h]
  obtain ⟨list, hlist⟩ := hconcat
  rw [foldl_addPiece (by simp [hlist]) (fun t ht => (hadded t ht).1) hdot, hlist,
    grown_append_singleton hvalue.isName]

lemma isUndivided_of_mem_parts (h : ∀ p ∈ pairs, IsUnescaped p.1 ∧ IsKept p.2) :
    ∀ t ∈ parts (fun v => encodeValue v.toList) pairs, IsUndivided t := by
  intro t ht
  obtain ⟨p, hp, htp⟩ := List.mem_flatMap.mp ht
  obtain ⟨hsegment, hvalue⟩ := h p hp
  rcases List.mem_append.mp htp with htp | htp
  · obtain ⟨hsplit, hne⟩ := List.mem_filter.mp htp
    exact hsegment.isUndivided hsplit (by simpa using hne)
  · rw [List.mem_singleton.mp htp]
    exact isUndivided_encodeValue hvalue.name

/-- Written with slashes between them, segments and values leave their pieces behind the path, too. -/
lemma appended_alternating (hne : pairs ≠ []) (h : ∀ p ∈ pairs, IsUnescaped p.1 ∧ IsKept p.2)
    (base : List Text) :
    appended base (alternating pairs)
      = stem base ++ (parts (fun v => encodeValue v.toList) pairs).map written := by
  have hundivided := isUndivided_of_mem_parts h
  have hpieces := pieces_alternating hne fun p hp hempty => (h p hp).2.name (by simp [hempty])
  have hrelative : relative (alternating pairs) ≠ [] := by
    intro hnil
    have hnone := pieces_relative (alternating pairs)
    rw [hnil, hpieces] at hnone
    -- an empty text has one piece, which is empty
    exact (hundivided [] (by rw [← hnone]; decide)).ne_nil rfl
  rw [appended, if_neg (by simpa using hrelative), hpieces, addSegments_of_not_dot]
  intro s hs
  obtain ⟨x, hx, rfl⟩ := List.mem_map.mp hs
  have hsegment := (hundivided x hx).isSegment_written
  exact ⟨hsegment.not_single, hsegment.not_double⟩

/-- The pieces stand for the same bytes, however they are escaped. -/
lemma map_decode_parts (h : ∀ p ∈ pairs, IsUnescaped p.1 ∧ IsKept p.2) :
    ((parts String.toList pairs).map pushed).map decode
      = ((parts (fun v => encodeValue v.toList) pairs).map written).map decode := by
  simp only [parts, List.map_flatMap]
  refine List.flatMap_congr fun p hp => ?_
  obtain ⟨hsegment, hvalue⟩ := h p hp
  have hnames : (names p.1.toList).map (decode ∘ pushed)
      = (names p.1.toList).map (decode ∘ written) := by
    refine List.map_congr_left fun t ht => ?_
    have hsplit := (List.mem_filter.mp ht).1
    rw [Function.comp, Function.comp, decode_pushed, written, hsegment.clean_eq hsplit,
      decode_encode_of_keepsEscapes keepsEscapes_pathKeep, hsegment.decode_eq hsplit]
  have hvalues : decode (pushed p.2.toList) = decode (written (encodeValue p.2.toList)) := by
    rw [hvalue.decode_pushed, written, clean_encodeValue, encode_encodeValue, decode_encodeValue]
  simp only [List.map_append, List.map_map, hnames, List.map_cons, List.map_nil, hvalues]

end Pairs

/-- Both ways start from the same segments, unless the path is two slashes. -/
lemma below_eq_stem {base : List Text} (hne : base ≠ []) (hbase : base ≠ [[], []]) :
    below base = stem base := by
  obtain ⟨init, s, rfl⟩ := base.eq_nil_or_concat'.resolve_left hne
  by_cases hs : s = []
  · subst hs
    rw [stem, if_pos List.getLast?_concat, List.dropLast_concat]
    cases init with
    | nil => rfl
    | cons t init =>
      have hpop : popIfEmpty (t :: init ++ [[]]) = t :: init := popIfEmpty_append_nil (by simp)
      have hinit : t :: init ≠ [[]] := by
        intro heq
        exact hbase (by rw [heq]; rfl)
      rw [below, hpop, if_neg hinit]
  · rw [below_append_of_ne hs, stem, if_neg (by simpa using hs)]

lemma backslash_not_mem_alternating {pairs : List (String × String)}
    (h : ∀ p ∈ pairs, IsUnescaped p.1) : '\\' ∉ alternating pairs := by
  have hall : ∀ c ∈ alternating pairs, c ≠ '\\' := by
    refine forall_mem_intercalate (P := (· ≠ '\\')) (by decide) fun t ht c hc => ?_
    obtain ⟨p, hp, htp⟩ := List.mem_flatMap.mp ht
    simp only [List.mem_cons, List.not_mem_nil, or_false] at htp
    rintro rfl
    rcases htp with rfl | rfl
    · exact ((h p hp).chars _ hc).1 (by simp)
    · exact absurd (pathKeep_of_mem_encodeValue _ hc).2 (by decide)
  exact fun hmem => hall _ hmem rfl

/-- Filling the template of some segments appends them with their values. -/
lemma resolve_alternation {service : String} {u : Url} (hu : readService service = .ok u)
    (hw : u.kind = .web) {base : List Text} (hpath : u.path = .segments base) (hbase : IsPath base)
    {segments values : List String} (hlength : segments.length = values.length)
    (hsegments : ∀ s ∈ segments, IsUnescaped s) (hvalues : ∀ v ∈ values, v ≠ "") :
    resolve service (join (alternation 0 segments)) (numbered 0 values)
      = .ok (u.withSegments (appended base (alternating (segments.zip values)))) := by
  have hopen : ∀ s ∈ segments, '{' ∉ s.toList :=
    fun s hs hc => ((hsegments s hs).chars _ hc).1 (by simp)
  have hfill := fill_join (hasNoBraces_of_mem_alternation hopen 0) (isProper_numbered hvalues 0)
  rw [map_filled_alternation hlength] at hfill
  have hback : '\\' ∉ (String.ofList (alternating (segments.zip values))).toList := by
    rw [String.toList_ofList]
    exact backslash_not_mem_alternating fun p hp => hsegments _ (List.of_mem_zip hp).1
  obtain ⟨hresolve, -⟩ := resolve_eq_appended hu hw hpath hbase hback
  rw [String.toList_ofList] at hresolve
  rw [← hresolve]
  apply resolve_congr
  rw [hfill, String.toList_ofList, fill]
  rfl

/-- Adding segments and values one by one and filling the template that has a placeholder behind each
segment give the same URL, up to the spelling of its segments: they stand for the same bytes. -/
theorem construct_agrees_with_resolve {service : String} {u : Url}
    (hu : readService service = .ok u) (hw : u.kind = .web) (hslash : u.pathText ≠ ['/', '/'])
    {segments values : List String} (hlength : segments.length = values.length)
    (hsegments : ∀ s ∈ segments, IsUnescaped s) (hvalues : ∀ v ∈ values, IsKept v) :
    ∃ r r' list list', construct service segments values = .ok r
      ∧ resolve service (join (alternation 0 segments)) (numbered 0 values) = .ok r'
      ∧ SameButPath r r'
      ∧ r.path = .segments list ∧ r'.path = .segments list'
      ∧ list.map decode = list'.map decode := by
  obtain ⟨base, hpath, hbase⟩ := exists_isPath hu hw
  have hpairs : ∀ p ∈ segments.zip values, IsUnescaped p.1 ∧ IsKept p.2 := fun p hp =>
    ⟨hsegments _ (List.of_mem_zip hp).1, hvalues _ (List.of_mem_zip hp).2⟩
  have hnonempty : ∀ v ∈ values, v ≠ "" := fun v hv hempty => (hvalues v hv).name (by simp [hempty])
  have hconstruct := construct_of_readService hu hw hpath segments values
  rw [additions_eq_inTurn hlength hnonempty] at hconstruct
  refine ⟨_, _, _, _, hconstruct, resolve_alternation hu hw hpath hbase hlength hsegments hnonempty,
    sameButPath_withSegments _ _, rfl, rfl, ?_⟩
  by_cases hne : segments.zip values = []
  · rw [hne]
    rfl
  · have htwo : base ≠ [[], []] := by
      rintro rfl
      exact hslash (pathText_of_path_eq hpath)
    rw [foldl_addPiece_inTurn hne hpairs, appended_alternating hne hpairs,
      below_eq_stem hbase.ne_nil htwo, List.map_append, List.map_append, map_decode_parts hpairs]

/-- Values that are escaped in different ways, one of which spells a placeholder. -/
theorem construct_agrees_with_resolve_escapes :
    let u : Url := ⟨"https", some ⟨[], [], .domain "h".toList, none⟩, false,
      .segments ["v1".toList, []], some "q".toList, none⟩
    let segments := ["/a//b é/", "", "c?"]
    let values := ["^/|", "\x7b2\x7d", "..%"]
    let template := "/a//b é//{0}//{1}/c?/{2}"
    let list := ["v1".toList, "a".toList, "b%20%C3%A9".toList, "^%2F|".toList, "%7B2%7D".toList, "c%3F".toList,
      "..%25".toList]
    let list' := ["v1".toList, "a".toList, "b%20%C3%A9".toList, "%5E%2F%7C".toList, "%7B2%7D".toList, "c%3F".toList,
      "..%25".toList]
    readService "https://h/v1/?q" = .ok u ∧ u.kind = .web ∧ u.pathText ≠ ['/', '/']
      ∧ segments.length = values.length
      ∧ (∀ s ∈ segments, IsUnescaped s) ∧ (∀ v ∈ values, IsKept v)
      ∧ join (alternation 0 segments) = template
      ∧ numbered 0 values = [("0", "^/|"), ("1", "\x7b2\x7d"), ("2", "..%")]
      ∧ construct "https://h/v1/?q" segments values = .ok (u.withSegments list)
      ∧ resolve "https://h/v1/?q" template (numbered 0 values) = .ok (u.withSegments list')
      ∧ list.map decode = list'.map decode := by
  intro u segments values template list list'
  have hu : readService "https://h/v1/?q" = .ok u := eq_ok_of_toOption (by decide +kernel)
  have hw : u.kind = .web := by decide +kernel
  have hslash : u.pathText ≠ ['/', '/'] := by decide +kernel
  have hlength : segments.length = values.length := rfl
  have hsegments : ∀ s ∈ segments, IsUnescaped s := by
    intro s hs
    simp only [segments, List.mem_cons, List.not_mem_nil, or_false] at hs
    rcases hs with rfl | rfl | rfl <;> exact ⟨by simp [isIgnored], by decide +kernel⟩
  have hvalues : ∀ v ∈ values, IsKept v := by
    intro v hv
    simp only [values, List.mem_cons, List.not_mem_nil, or_false] at hv
    rcases hv with rfl | rfl | rfl <;> exact ⟨by decide +kernel, by simp [isIgnored]⟩
  have hr : construct "https://h/v1/?q" segments values = .ok (u.withSegments list) :=
    eq_ok_of_toOption (by decide +kernel)
  have htemplate : join (alternation 0 segments) = template := by decide +kernel
  have hr' : resolve "https://h/v1/?q" template (numbered 0 values) = .ok (u.withSegments list') :=
    eq_ok_of_toOption (by decide +kernel)
  obtain ⟨r₁, r₂, list₁, list₂, h₁, h₂, -, hlist₁, hlist₂, hdecode⟩ :=
    construct_agrees_with_resolve hu hw hslash hlength hsegments hvalues
  rw [htemplate] at h₂
  obtain rfl := Except.ok.inj (hr.symm.trans h₁)
  obtain rfl := Except.ok.inj (hr'.symm.trans h₂)
  obtain rfl : list = list₁ := Path.segments.inj hlist₁
  obtain rfl : list' = list₂ := Path.segments.inj hlist₂
  exact ⟨hu, hw, hslash, hlength, hsegments, hvalues, htemplate, rfl, hr, hr', hdecode⟩

end Courier.Endpoint
