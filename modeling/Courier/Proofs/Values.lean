import Courier.Proofs.Extension
import Mathlib

/-!
# Values as segments

A template of whole pieces, each of them a text without braces or one placeholder, becomes as many
segments below the path of the service URL. The segment of a placeholder decodes to its value, whatever
that holds, and the other segments do not depend on the parameters.
-/

namespace Courier.Template

open Percent Url Endpoint

/-! ### Whole pieces -/

/-- A piece of a template between slashes. -/
inductive Piece
  | literal (t : Text)
  | hole (name : String)
  deriving DecidableEq

namespace Piece

def text : Piece → Text
  | literal t => t
  | hole name => placeholder name.toList

/-- Whether a piece stands for one segment, either of its own or in the place of a value. -/
def IsWhole : Piece → Prop
  | literal t => t ≠ [] ∧ (∀ c ∈ t, c ∉ ['/', '\\', '{', '}'] ∧ isIgnored c = false)
      ∧ isSingleDot t = false ∧ isDoubleDot t = false
  | hole name => ∀ c ∈ name.toList, c ∉ ['/', '{', '}']

instance : DecidablePred IsWhole
  | literal t =>
    have : Decidable (∀ c ∈ t, c ∉ ['/', '\\', '{', '}'] ∧ isIgnored c = false) :=
      List.decidableBAll _ t
    inferInstanceAs (Decidable (_ ∧ _ ∧ _ ∧ _))
  | hole name => List.decidableBAll _ name.toList

/-- What stands for a piece once its placeholder is replaced, if there is a value for it. -/
def filled (parameters : List (String × String)) : Piece → Text
  | literal t => t
  | hole name => (valueOf parameters name.toList).getD (placeholder name.toList)

variable {p : Piece} {parameters : List (String × String)}

/-- Whether a piece has no braces but those of its placeholder. -/
def HasNoBraces : Piece → Prop
  | literal t => '{' ∉ t
  | hole name => '{' ∉ name.toList ∧ '}' ∉ name.toList

lemma hasNoBraces_of_isWhole (hp : p.IsWhole) : p.HasNoBraces := by
  cases p with
  | literal t => exact fun ht => absurd (hp.2.1 _ ht).1 (by decide)
  | hole name =>
    exact ⟨fun ht => absurd (hp _ ht) (by decide), fun ht => absurd (hp _ ht) (by decide)⟩

lemma flat_text_append (hp : p.HasNoBraces) {t : Text} (ht : Flat t) : Flat (p.text ++ t) := by
  cases p with
  | literal s => exact ht.append hp
  | hole name =>
    obtain ⟨hopen, hclose⟩ := hp
    exact .hole hopen hclose ht

lemma instantiate_text_append (hp : p.HasNoBraces) (t : Text) :
    instantiate (valueOf parameters) (p.text ++ t)
      = p.filled parameters ++ instantiate (valueOf parameters) t := by
  cases p with
  | literal s => exact instantiate_append hp t
  | hole name =>
    obtain ⟨hopen, hclose⟩ := hp
    rw [text, filled]
    cases hvalue : valueOf parameters name.toList with
    | none => exact instantiate_hole_of_none hopen hclose hvalue t
    | some v => exact instantiate_hole_of_some hclose hvalue t

end Piece

def join (list : List Piece) : String := String.ofList (['/'].intercalate (list.map Piece.text))

lemma flat_join {list : List Piece} (h : ∀ p ∈ list, p.HasNoBraces) :
    Flat (['/'].intercalate (list.map Piece.text)) := by
  induction list with
  | nil => exact .unclosed (by simp)
  | cons p rest ih =>
    obtain ⟨hp, hrest⟩ := List.forall_mem_cons.mp h
    cases rest with
    | nil => simpa using Piece.flat_text_append hp (.unclosed (t := []) (by simp))
    | cons q rest =>
      rw [List.map_cons, List.map_cons, List.intercalate_cons_cons, ← List.map_cons,
        List.append_assoc]
      exact Piece.flat_text_append hp (.char (by decide) (ih hrest))

lemma instantiate_join {list : List Piece} (h : ∀ p ∈ list, p.HasNoBraces)
    (parameters : List (String × String)) :
    instantiate (valueOf parameters) (['/'].intercalate (list.map Piece.text))
      = ['/'].intercalate (list.map (Piece.filled parameters)) := by
  induction list with
  | nil => exact instantiate_nil
  | cons p rest ih =>
    obtain ⟨hp, hrest⟩ := List.forall_mem_cons.mp h
    cases rest with
    | nil => simpa using Piece.instantiate_text_append (t := []) hp
    | cons q rest =>
      rw [List.map_cons, List.map_cons, List.intercalate_cons_cons, ← List.map_cons,
        List.append_assoc, Piece.instantiate_text_append hp, List.singleton_append,
        instantiate_cons_of_ne (by decide), ih hrest]
      simp

/-- Filling a template of pieces fills its pieces. -/
lemma fill_join {list : List Piece} (h : ∀ p ∈ list, p.HasNoBraces)
    {parameters : List (String × String)} (hp : IsProper parameters) :
    fill (join list).toList parameters
      = .ok (['/'].intercalate (list.map (Piece.filled parameters))) := by
  rw [join, String.toList_ofList, fill_eq_instantiate hp (flat_join h), instantiate_join h]

/-! ### Texts that become one segment -/

/-- A text that becomes one segment when it is added to a path. -/
structure IsUndivided (t : Text) : Prop where
  ne_nil : t ≠ []
  solid : IsSolid t
  not_single : isSingleDot (clean t) = false
  not_double : isDoubleDot (clean t) = false

lemma isUndivided_literal {t : Text} (h : (Piece.literal t).IsWhole) : IsUndivided t := by
  obtain ⟨hne, hplain, hsingle, hdouble⟩ := h
  have hclean : clean t = t := clean_eq_self fun c hc => (hplain c hc).2
  exact {
    ne_nil := hne
    solid := fun c hc => by
      have hsigns := (hplain c hc).1
      simp only [List.mem_cons, List.not_mem_nil, or_false, not_or] at hsigns
      simp [isSeparator, hsigns]
    not_single := by rw [hclean, hsingle]
    not_double := by rw [hclean, hdouble] }

lemma clean_encodeValue (value : Text) : clean (encodeValue value) = encodeValue value :=
  clean_eq_self fun c hc => pathKeep_not_isIgnored (pathKeep_of_mem_encodeValue c hc).1

/-- A value is a dot segment only if it is spelled as one: its escapes do not count. -/
lemma isUndivided_encodeValue {value : String} (h : value ∉ ["", ".", ".."]) :
    IsUndivided (encodeValue value.toList) := by
  simp only [List.mem_cons, List.not_mem_nil, or_false, not_or, ← String.toList_inj] at h
  obtain ⟨hempty, hsingle, hdouble⟩ := h
  have hbytes : ∀ t : Text, value.toList ≠ t → Text.utf8 value.toList ≠ t.utf8 :=
    fun t hne h => hne (Text.utf8_injective h)
  exact {
    ne_nil := encodeValue_ne_nil hempty
    solid := fun c hc => (pathKeep_of_mem_encodeValue c hc).2
    not_single := by
      rw [clean_encodeValue, ← Bool.not_eq_true, isSingleDot_iff, decode_encodeValue]
      exact hbytes _ hsingle
    not_double := by
      rw [clean_encodeValue, ← Bool.not_eq_true, isDoubleDot_iff, decode_encodeValue]
      exact hbytes _ hdouble }

lemma isUndivided_placeholder {name : Text} (hname : IsSolid name) :
    IsUndivided (placeholder name) := by
  have hdot : ∀ bs, decode (clean (placeholder name)) ≠ 0x2E :: bs := by
    intro bs h
    have hclean : clean (placeholder name) = '{' :: clean (name ++ ['}']) := rfl
    obtain ⟨r, hr, -⟩ := decode_eq_dot_cons_iff.mp h
    simp [hclean] at hr
  exact {
    ne_nil := by simp [placeholder]
    solid := by
      refine List.forall_mem_cons.mpr ⟨by decide, List.forall_mem_append.mpr ⟨hname, ?_⟩⟩
      exact List.forall_mem_singleton.mpr (by decide)
    not_single := by
      rw [← Bool.not_eq_true, isSingleDot_iff]
      exact hdot _
    not_double := by
      rw [← Bool.not_eq_true, isDoubleDot_iff]
      exact hdot _ }

/-- The segment of an undivided text. -/
lemma IsUndivided.isSegment_written {t : Text} (h : IsUndivided t) : IsSegment (written t) :=
  isSegment_encode_pathKeep h.solid.clean h.not_single h.not_double

lemma pieces_intercalate {list : List Text} (hne : list ≠ []) (h : ∀ t ∈ list, IsUndivided t) :
    pieces (['/'].intercalate list) = list := by
  have hnames : ∀ t ∈ list, names t = [t] :=
    fun t ht => names_of_not_mem (h t ht).ne_nil (h t ht).solid.slash_not_mem
  obtain ⟨init, t, rfl⟩ := list.eq_nil_or_concat'.resolve_left hne
  have ht := h t (by simp)
  rw [pieces_intercalate_append_singleton ht.ne_nil ht.solid.slash_not_mem,
    List.flatMap_congr hnames, List.flatMap_singleton']

lemma exists_intercalate_eq_cons {list : List Text} (hne : list ≠ [])
    (h : ∀ t ∈ list, IsUndivided t) : ∃ c r, ['/'].intercalate list = c :: r ∧ c ≠ '/' := by
  obtain ⟨t, rest, rfl⟩ := List.exists_cons_of_ne_nil hne
  have ht := h t List.mem_cons_self
  obtain ⟨c, t, rfl⟩ := List.exists_cons_of_ne_nil ht.ne_nil
  have hc : c ≠ '/' := fun heq => ht.solid.slash_not_mem (heq ▸ List.mem_cons_self)
  cases rest with
  | nil => exact ⟨c, t, List.intercalate_singleton, hc⟩
  | cons s rest => exact ⟨c, _, List.intercalate_cons_cons, hc⟩

end Courier.Template

namespace Courier.Endpoint

open Percent Template Url

/-! ### Values for a template -/

/-- Parameters with a value for each placeholder of a template, no value being empty, `.` or `..`. -/
structure IsAssignment (list : List Piece) (parameters : List (String × String)) : Prop where
  names : ∀ p ∈ parameters, '{' ∉ p.1.toList ∧ '}' ∉ p.1.toList
  values : ∀ p ∈ parameters, p.2 ∉ ["", ".", ".."]
  total : ∀ name, Piece.hole name ∈ list → (parameters.lookup name).isSome

lemma IsAssignment.isProper {list : List Piece} {parameters : List (String × String)}
    (h : IsAssignment list parameters) : IsProper parameters := by
  intro p hp
  obtain ⟨hopen, hclose⟩ := h.names p hp
  exact ⟨hopen, hclose, fun hempty => h.values p hp (by simp [hempty])⟩

lemma IsAssignment.exists_value {list : List Piece} {parameters : List (String × String)}
    (h : IsAssignment list parameters) {name : String} (hname : Piece.hole name ∈ list) :
    ∃ value, parameters.lookup name = some value ∧ value ∉ ["", ".", ".."] := by
  obtain ⟨value, hvalue⟩ := Option.isSome_iff_exists.mp (h.total name hname)
  obtain ⟨before, after, heq, -⟩ := List.lookup_eq_some_iff.mp hvalue
  exact ⟨value, hvalue, h.values (name, value) (by simp [heq])⟩

/-- The text in the place of a placeholder is its value, encoded. -/
lemma filled_hole {parameters : List (String × String)} {name value : String}
    (h : parameters.lookup name = some value) :
    (Piece.hole name).filled parameters = encodeValue value.toList := by
  simp [Piece.filled, valueOf, h]

lemma IsAssignment.isUndivided_filled {list : List Piece} {parameters : List (String × String)}
    (h : IsAssignment list parameters) (hlist : ∀ p ∈ list, p.IsWhole) :
    ∀ p ∈ list, IsUndivided (p.filled parameters) := by
  intro p hp
  cases p with
  | literal t => exact isUndivided_literal (hlist _ hp)
  | hole name =>
    obtain ⟨value, hlookup, hvalue⟩ := h.exists_value hp
    rw [filled_hole hlookup]
    exact isUndivided_encodeValue hvalue

lemma isUndivided_filled_nil {list : List Piece} (hlist : ∀ p ∈ list, p.IsWhole)
    (hnames : ∀ name, Piece.hole name ∈ list → '\\' ∉ name.toList) :
    ∀ p ∈ list, IsUndivided (p.filled []) := by
  intro p hp
  cases p with
  | literal t => exact isUndivided_literal (hlist _ hp)
  | hole name =>
    refine isUndivided_placeholder fun c hc => ?_
    have hslash : c ≠ '/' := fun h => hlist _ hp c hc (by simp [h])
    have hback : c ≠ '\\' := fun h => hnames name hp (h ▸ hc)
    simp [isSeparator, hslash, hback]

/-! ### Segments below a service URL -/

def segment (parameters : List (String × String)) (p : Piece) : Text :=
  written (p.filled parameters)

lemma segment_hole {parameters : List (String × String)} {name value : String}
    (h : parameters.lookup name = some value) :
    segment parameters (.hole name) = encodeValue value.toList := by
  rw [segment, filled_hole h, written, clean_encodeValue, encode_encodeValue]

section Below

variable {service : String} {u : Url}

/-- Undivided texts between slashes become one segment each. -/
lemma exists_resolve_of_fill (hu : readService service = .ok u) (hw : u.kind = .web)
    {template : String} {parameters : List (String × String)} {list : List Text} (hne : list ≠ [])
    (hlist : ∀ t ∈ list, IsUndivided t)
    (hfill : fill template.toList parameters = .ok (['/'].intercalate list)) :
    ∃ r, resolve service template parameters = .ok r ∧ SameButPath u r
      ∧ r.pathText = withSlash u.pathText ++ ['/'].intercalate (list.map written) := by
  obtain ⟨base, hpath, hbase⟩ := exists_isPath hu hw
  obtain ⟨c, rest, hcons, hc⟩ := exists_intercalate_eq_cons hne hlist
  have hrelative : relative (['/'].intercalate list) = ['/'].intercalate list := by
    rw [hcons, relative_cons_of_ne hc]
  have hwritten : ∀ s ∈ list.map written, IsSegment s :=
    List.forall_mem_map.mpr fun t ht => (hlist t ht).isSegment_written
  have hpieces := pieces_intercalate hne hlist
  have hsolid : ∀ s ∈ pieces (['/'].intercalate list), IsSolid s := by
    rw [hpieces]
    exact fun s hs => (hlist s hs).solid
  have hextend := path_extend hw hpath hbase hsolid
  refine ⟨extend u (['/'].intercalate list), ?_, sameButPath_withSegments u _, ?_⟩
  · rw [resolve_of_fill hu hfill, hrelative, if_neg (by simp [hcons])]
  · rw [pathText_of_path_eq hextend, hpieces, pathText_of_path_eq hpath,
      addSegments_of_not_dot fun s hs => ⟨(hwritten s hs).not_single, (hwritten s hs).not_double⟩,
      withSlash_append_intercalate (fun s hs => (hbase.isSegment s hs).solid.slash_not_mem)
        (by simpa using hne)]

/-- A template of pieces that are undivided once it is filled. -/
lemma exists_resolve_join (hu : readService service = .ok u) (hw : u.kind = .web)
    {list : List Piece} (hne : list ≠ []) (hlist : ∀ p ∈ list, p.IsWhole)
    {parameters : List (String × String)} (hp : IsProper parameters)
    (hfilled : ∀ p ∈ list, IsUndivided (p.filled parameters)) :
    ∃ r, resolve service (join list) parameters = .ok r ∧ SameButPath u r
      ∧ r.pathText = withSlash u.pathText ++ ['/'].intercalate (list.map (segment parameters))
      ∧ ∀ s ∈ list.map (segment parameters), '/' ∉ s := by
  have hfill := fill_join (fun p h => Piece.hasNoBraces_of_isWhole (hlist p h)) hp
  obtain ⟨r, hr, hsame, hpath⟩ := exists_resolve_of_fill hu hw (by simpa using hne)
    (List.forall_mem_map.mpr hfilled) hfill
  refine ⟨r, hr, hsame, by rw [hpath, List.map_map]; rfl, ?_⟩
  exact List.forall_mem_map.mpr fun p hp => (hfilled p hp).isSegment_written.solid.slash_not_mem

/-- URLs below the same service URL that are written alike have the same segments. -/
lemma segments_eq_of_toText_eq {r r' : Url} (hr : SameButPath u r) (hr' : SameButPath u r')
    {segments segments' : List Text} (hne : segments ≠ []) (hne' : segments' ≠ [])
    (hslash : ∀ s ∈ segments, '/' ∉ s) (hslash' : ∀ s ∈ segments', '/' ∉ s)
    (hpath : r.pathText = withSlash u.pathText ++ ['/'].intercalate segments)
    (hpath' : r'.pathText = withSlash u.pathText ++ ['/'].intercalate segments')
    (h : r.toText = r'.toText) : segments = segments' := by
  have htext := hr.pathText_eq hr' h
  rw [hpath, hpath', List.append_cancel_left_eq] at htext
  rw [← List.splitOn_intercalate '/' hslash hne, htext, List.splitOn_intercalate '/' hslash' hne']

/-- What the segment of a piece is: for a text, the one it becomes as a template of its own; for a
placeholder, one that decodes to its value. -/
def StandsFor (service : String) (u : Url) (parameters : List (String × String)) :
    Piece → Text → Prop
  | .literal t, s => ∃ r, resolve service (String.ofList t) [] = .ok r
      ∧ r.pathText = withSlash u.pathText ++ s
  | .hole name, s => ∃ value, parameters.lookup name = some value
      ∧ decode s = Text.utf8 value.toList

lemma standsFor_segment (hu : readService service = .ok u) (hw : u.kind = .web)
    {list : List Piece} (hlist : ∀ p ∈ list, p.IsWhole) {parameters : List (String × String)}
    (hp : IsAssignment list parameters) :
    ∀ p ∈ list, StandsFor service u parameters p (segment parameters p) := by
  intro p hmem
  cases p with
  | literal t =>
    have hfill : fill (String.ofList t).toList [] = .ok (['/'].intercalate [t]) := by
      rw [String.toList_ofList, List.intercalate_singleton, fill]
    obtain ⟨r, hr, -, hpath⟩ := exists_resolve_of_fill hu hw (List.cons_ne_nil t [])
      (List.forall_mem_singleton.mpr (isUndivided_literal (hlist _ hmem))) hfill
    exact ⟨r, hr, by rw [hpath, List.map_singleton, List.intercalate_singleton]; rfl⟩
  | hole name =>
    obtain ⟨value, hvalue, -⟩ := hp.exists_value hmem
    exact ⟨value, hvalue, by rw [segment_hole hvalue, decode_encodeValue]⟩

end Below

/-- Every piece of a template becomes one segment below the path of a web service URL, in order. The
segment of a placeholder decodes to its value, so that different values give different URLs. The
segment of a text is the one that it becomes on its own, and stands in the same place when no value is
filled in, unless the backslash of a name cuts a placeholder. -/
theorem each_piece_one_segment {service : String} {u : Url}
    (hu : readService service = .ok u) (hw : u.kind = .web) {list : List Piece} (hne : list ≠ [])
    (hlist : ∀ p ∈ list, p.IsWhole) {parameters : List (String × String)}
    (hp : IsAssignment list parameters) :
    ∃ r segments, resolve service (join list) parameters = .ok r
      ∧ r.pathText = withSlash u.pathText ++ ['/'].intercalate segments
      ∧ (∀ s ∈ segments, '/' ∉ s)
      ∧ List.Forall₂ (StandsFor service u parameters) list segments
      ∧ ((∀ name, Piece.hole name ∈ list → '\\' ∉ name.toList) →
          ∃ bare others, resolve service (join list) [] = .ok bare
            ∧ bare.pathText = withSlash u.pathText ++ ['/'].intercalate others
            ∧ (∀ s ∈ others, '/' ∉ s) ∧ others.length = list.length
            ∧ ∀ (i : Nat) (t : Text), list[i]? = some (Piece.literal t) → others[i]? = segments[i]?)
      ∧ ∀ parameters' r' name, IsAssignment list parameters' →
          resolve service (join list) parameters' = .ok r' → Piece.hole name ∈ list →
          parameters'.lookup name ≠ parameters.lookup name → r'.toText ≠ r.toText := by
  have hmap : ∀ parameters', list.map (segment parameters') ≠ [] := by simpa using hne
  obtain ⟨r, hr, hsame, hpath, hslash⟩ :=
    exists_resolve_join hu hw hne hlist hp.isProper (hp.isUndivided_filled hlist)
  refine ⟨r, list.map (segment parameters), hr, hpath, hslash, ?_, fun hnames => ?_, ?_⟩
  · rw [List.forall₂_map_right_iff, List.forall₂_same]
    exact standsFor_segment hu hw hlist hp
  · obtain ⟨bare, hbare, -, hpath', hslash'⟩ :=
      exists_resolve_join hu hw hne hlist (by simp [IsProper]) (isUndivided_filled_nil hlist hnames)
    refine ⟨bare, _, hbare, hpath', hslash', List.length_map .., fun i t hi => ?_⟩
    rw [List.getElem?_map, List.getElem?_map, hi]
    rfl
  · intro parameters' r' name hp' hr' hname hne' htext
    obtain ⟨r'', hr'', hsame', hpath', hslash'⟩ :=
      exists_resolve_join hu hw hne hlist hp'.isProper (hp'.isUndivided_filled hlist)
    obtain rfl : r' = r'' := Except.ok.inj (hr'.symm.trans hr'')
    have hsegments := segments_eq_of_toText_eq hsame' hsame (hmap _) (hmap _) hslash' hslash
      hpath' hpath htext
    obtain ⟨value, hvalue, -⟩ := hp.exists_value hname
    obtain ⟨value', hvalue', -⟩ := hp'.exists_value hname
    have hsegment := List.map_inj_left.mp hsegments _ hname
    rw [segment_hole hvalue, segment_hole hvalue'] at hsegment
    have hbytes := congrArg decode hsegment
    rw [decode_encodeValue, decode_encodeValue] at hbytes
    rw [hvalue, hvalue', String.toList_inj.mp (Text.utf8_injective hbytes)] at hne'
    exact hne' rfl

/-- Values that hold the signs of a path, a query, an escape and a placeholder. -/
theorem each_piece_one_segment_signs :
    let u : Url := ⟨"https", some ⟨[], [], .domain "h".toList, none⟩, false,
      .segments ["v1".toList], none, none⟩
    let list := [Piece.hole "id", .literal "a?b c".toList, .hole "x y"]
    let parameters := [("x y", "../%2e?#"), ("id", "\\\x7bx y\x7d/é")]
    readService "https://h/v1" = .ok u ∧ u.kind = .web ∧ list ≠ [] ∧ (∀ p ∈ list, p.IsWhole)
      ∧ IsAssignment list parameters
      ∧ ∃ r segments, resolve "https://h/v1" (join list) parameters = .ok r
        ∧ r.pathText = withSlash u.pathText ++ ['/'].intercalate segments
        ∧ (∀ s ∈ segments, '/' ∉ s)
        ∧ List.Forall₂ (StandsFor "https://h/v1" u parameters) list segments := by
  intro u list parameters
  have hu : readService "https://h/v1" = .ok u := eq_ok_of_toOption (by decide +kernel)
  have hw : u.kind = .web := by decide +kernel
  have hlist : ∀ p ∈ list, p.IsWhole := by decide +kernel
  have hp : IsAssignment list parameters := {
    names := by decide +kernel
    values := by decide +kernel
    total := fun name hname => by
      rcases (by simpa [list] using hname : name = "id" ∨ name = "x y") with rfl | rfl <;> rfl }
  obtain ⟨r, segments, hr, hpath, hslash, hsegments, -⟩ :=
    each_piece_one_segment hu hw (List.cons_ne_nil _ _) hlist hp
  exact ⟨hu, hw, List.cons_ne_nil _ _, hlist, hp, r, segments, hr, hpath, hslash, hsegments⟩

/-- A placeholder that is not replaced is cut at the backslashes of its name, and may take the piece
before it away. -/
theorem not_same_literals_of_backslash :
    let u : Url := ⟨"https", some ⟨[], [], .domain "h".toList, none⟩, false,
      .segments ["v1".toList], none, none⟩
    let list := [Piece.literal "lit".toList, .hole "a\\..\\..\\b"]
    let bare := u.withSegments ["v1".toList, "b%7D".toList]
    readService "https://h/v1" = .ok u ∧ u.kind = .web ∧ (∀ p ∈ list, p.IsWhole)
      ∧ IsAssignment list [("a\\..\\..\\b", "v")]
      ∧ resolve "https://h/v1" (join list) [("a\\..\\..\\b", "v")]
          = .ok (u.withSegments ["v1".toList, "lit".toList, "v".toList])
      ∧ resolve "https://h/v1" (join list) [] = .ok bare
      ∧ ¬ "lit".toList <:+: bare.pathText := by
  intro u list bare
  have hp : IsAssignment list [("a\\..\\..\\b", "v")] := {
    names := by decide +kernel
    values := by decide +kernel
    total := fun name hname => by
      obtain rfl : name = "a\\..\\..\\b" := by simpa [list] using hname
      rfl }
  exact ⟨eq_ok_of_toOption (by decide +kernel), by decide +kernel, by decide +kernel, hp,
    eq_ok_of_toOption (by decide +kernel), eq_ok_of_toOption (by decide +kernel),
    by decide +kernel⟩

end Courier.Endpoint
