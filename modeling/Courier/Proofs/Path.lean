import Courier.Proofs.Percent
import Courier.Url.Path
import Mathlib

/-!
# Paths of web URLs

What reading a path does to its pieces, and what holds of the segments that come out: they are made
of characters that stay as they are, contain no separator and are no dot segments. Growing a path by
`push` keeps this. A path that is written from such segments is read back as they are.
-/

namespace Courier.Url

open Percent

/-! ### Dot segments -/

lemma toLower_eq_iff {c d : Char} (hd : d.toNat < 65) : c.toLower = d ↔ c = d := by
  unfold Char.toLower
  split
  · next h =>
    rw [← Char.toNat_inj, ← Char.toNat_inj]
    simp [UInt32.le_iff_toNat_le] at h hd ⊢
    omega
  · rfl

lemma toLower_eq_e_iff {c : Char} : c.toLower = 'e' ↔ c = 'E' ∨ c = 'e' := by
  unfold Char.toLower
  split
  · next h =>
    rw [← Char.toNat_inj, ← Char.toNat_inj, ← Char.toNat_inj]
    simp [UInt32.le_iff_toNat_le] at h ⊢
    omega
  · next h =>
    constructor
    · exact Or.inr
    · rintro (rfl | rfl)
      · exact absurd (by decide) h
      · rfl

lemma map_toLower_eq_dot_cons_iff {s t : Text} :
    s.map Char.toLower = '.' :: t ↔ ∃ r, s = '.' :: r ∧ r.map Char.toLower = t := by
  simp only [List.map_eq_cons_iff, toLower_eq_iff (d := '.') (by decide)]
  constructor
  · rintro ⟨_, r, rfl, rfl, h⟩
    exact ⟨r, rfl, h⟩
  · rintro ⟨r, rfl, h⟩
    exact ⟨_, r, rfl, rfl, h⟩

lemma map_toLower_eq_escape_append_iff {s t : Text} :
    s.map Char.toLower = '%' :: '2' :: 'e' :: t ↔
      ∃ r, (s = '%' :: '2' :: 'E' :: r ∨ s = '%' :: '2' :: 'e' :: r) ∧ r.map Char.toLower = t := by
  simp only [List.map_eq_cons_iff, toLower_eq_iff (d := '%') (by decide),
    toLower_eq_iff (d := '2') (by decide), toLower_eq_e_iff]
  constructor
  · rintro ⟨_, _, rfl, rfl, _, _, rfl, rfl, _, r, rfl, rfl | rfl, h⟩
    · exact ⟨r, .inl rfl, h⟩
    · exact ⟨r, .inr rfl, h⟩
  · rintro ⟨r, rfl | rfl, h⟩
    · exact ⟨_, _, rfl, rfl, _, _, rfl, rfl, _, r, rfl, .inl rfl, h⟩
    · exact ⟨_, _, rfl, rfl, _, _, rfl, rfl, _, r, rfl, .inr rfl, h⟩

/-- The segment `.` is the one that stands for the byte of a full stop. -/
lemma isSingleDot_iff {s : Text} : isSingleDot s ↔ decode s = [0x2E] := by
  have hplain : ".".toList = '.' :: [] := rfl
  have hescaped : "%2e".toList = '%' :: '2' :: 'e' :: [] := rfl
  simp only [isSingleDot, decide_eq_true_eq, List.mem_cons, List.not_mem_nil, or_false,
    hplain, hescaped, map_toLower_eq_dot_cons_iff, map_toLower_eq_escape_append_iff,
    List.map_eq_nil_iff, decode_eq_dot_cons_iff, decode_eq_nil_iff]
  grind

/-- The segment `..` is the one that stands for the bytes of two full stops. -/
lemma isDoubleDot_iff {s : Text} : isDoubleDot s ↔ decode s = [0x2E, 0x2E] := by
  have hplain : "..".toList = '.' :: '.' :: [] := rfl
  have hfirst : "%2e.".toList = '%' :: '2' :: 'e' :: '.' :: [] := rfl
  have hsecond : ".%2e".toList = '.' :: '%' :: '2' :: 'e' :: [] := rfl
  have hboth : "%2e%2e".toList = '%' :: '2' :: 'e' :: '%' :: '2' :: 'e' :: [] := rfl
  simp only [isDoubleDot, decide_eq_true_eq, List.mem_cons, List.not_mem_nil, or_false,
    hplain, hfirst, hsecond, hboth, map_toLower_eq_dot_cons_iff,
    map_toLower_eq_escape_append_iff, List.map_eq_nil_iff, decode_eq_dot_cons_iff,
    decode_eq_nil_iff]
  grind

/-! ### Kept characters -/

lemma pathKeep_bounds {c : Char} (h : pathKeep c) :
    '!' ≤ c ∧ c ≤ '~' ∧ c ∉ ['"', '#', '<', '>', '?', '\x60', '{', '}'] := by
  simp only [pathKeep, isPlain, Bool.and_eq_true, decide_eq_true_eq, List.mem_cons, not_or,
    Char.le_def, UInt32.le_iff_toNat_le, ← Char.toNat_inj] at h ⊢
  simp at h ⊢
  omega

lemma pathKeep_not_isIgnored {c : Char} (h : pathKeep c) : isIgnored c = false := by
  obtain ⟨hlow, -, -⟩ := pathKeep_bounds h
  simp only [isIgnored, Bool.or_eq_false_iff, decide_eq_false_iff_not]
  refine ⟨⟨?_, ?_⟩, ?_⟩ <;> rintro rfl <;> exact absurd hlow (by decide)

lemma clean_eq_self {t : Text} (h : ∀ c ∈ t, isIgnored c = false) : clean t = t :=
  List.filter_eq_self.mpr fun c hc => by simp [h c hc]

lemma keepsEscapes_pathKeep : KeepsEscapes pathKeep where
  percent := by decide
  digit c h := by
    have hdigits : ∀ n < 128, (hexValue? (Char.ofNat n)).isSome → pathKeep (Char.ofNat n) := by
      decide
    have hlt : c.toNat < 128 := by
      simp only [hexValue?, Char.le_def, UInt32.le_iff_toNat_le] at h
      split_ifs at h <;> simp at * <;> omega
    simpa using hdigits c.toNat hlt (by simpa using h)

lemma pathKeep_hexDigit : ∀ n < 16, pathKeep (hexDigit n) := by decide

lemma pathKeep_of_mem_encode {keep : Char → Bool} {t : Text}
    (hkeep : ∀ c ∈ t, keep c → pathKeep c) : ∀ c ∈ encode keep t, pathKeep c :=
  forall_mem_encode hkeep keepsEscapes_pathKeep.percent pathKeep_hexDigit

lemma isSeparator_hexDigit : ∀ n < 16, isSeparator .web (hexDigit n) = false := by decide

lemma not_isSeparator_of_mem_encode {keep : Char → Bool} {t : Text}
    (hkeep : ∀ c ∈ t, keep c → isSeparator .web c = false) :
    ∀ c ∈ encode keep t, isSeparator .web c = false :=
  forall_mem_encode hkeep (by decide) isSeparator_hexDigit

@[simp] lemma isSingleDot_encode_pathKeep (s : Text) :
    isSingleDot (encode pathKeep s) = isSingleDot s := by
  rw [Bool.eq_iff_iff, isSingleDot_iff, isSingleDot_iff,
    decode_encode_of_keepsEscapes keepsEscapes_pathKeep]

@[simp] lemma isDoubleDot_encode_pathKeep (s : Text) :
    isDoubleDot (encode pathKeep s) = isDoubleDot s := by
  rw [Bool.eq_iff_iff, isDoubleDot_iff, isDoubleDot_iff,
    decode_encode_of_keepsEscapes keepsEscapes_pathKeep]

/-! ### Segments -/

/-- A text that no path is cut at. -/
def IsSolid (t : Text) : Prop := ∀ c ∈ t, isSeparator .web c = false

lemma IsSolid.clean {t : Text} (h : IsSolid t) : IsSolid (clean t) :=
  fun c hc => h c (List.mem_filter.mp hc).1

lemma IsSolid.slash_not_mem {t : Text} (h : IsSolid t) : '/' ∉ t :=
  fun ht => absurd (h _ ht) (by decide)

/-- A segment as it stands in the path of a web URL that was read. -/
structure IsSegment (s : Text) : Prop where
  kept : ∀ c ∈ s, pathKeep c
  solid : IsSolid s
  not_single : isSingleDot s = false
  not_double : isDoubleDot s = false

lemma isSegment_nil : IsSegment [] := ⟨by simp, by simp [IsSolid], by decide, by decide⟩

lemma IsSegment.encode_eq {s : Text} (h : IsSegment s) : encode pathKeep s = s :=
  encode_eq_self h.kept

lemma IsSegment.clean_eq {s : Text} (h : IsSegment s) : clean s = s :=
  clean_eq_self fun c hc => pathKeep_not_isIgnored (h.kept c hc)

/-- Pieces between separators become segments, dot segments apart. -/
lemma isSegment_encode_pathKeep {s : Text} (hsolid : IsSolid s)
    (hsingle : isSingleDot s = false) (hdouble : isDoubleDot s = false) :
    IsSegment (encode pathKeep s) where
  kept := pathKeep_of_mem_encode fun _ _ h => h
  solid := not_isSeparator_of_mem_encode fun c hc _ => hsolid c hc
  not_single := by rw [isSingleDot_encode_pathKeep, hsingle]
  not_double := by rw [isDoubleDot_encode_pathKeep, hdouble]

/-- The path of a web URL that was read: it has a segment, and segments only. -/
structure IsPath (segments : List Text) : Prop where
  ne_nil : segments ≠ []
  isSegment : ∀ s ∈ segments, IsSegment s

/-! ### Adding segments -/

lemma shorten_prefix_self (segments : List Text) : shorten segments <+: segments := by
  unfold shorten
  split
  · exact List.prefix_rfl
  · exact List.dropLast_prefix segments

section Add

variable {before : List Text} {s : Text} {last : Bool}

lemma addSegment_of_double (hdouble : isDoubleDot s = true) :
    addSegment .web before s last = shorten before ++ if last then [[]] else [] := by
  simp [addSegment, hdouble]

lemma addSegment_of_single (hsingle : isSingleDot s = true) (hdouble : isDoubleDot s = false) :
    addSegment .web before s last = before ++ if last then [[]] else [] := by
  simp [addSegment, hsingle, hdouble]

lemma addSegment_of_not_dot (hsingle : isSingleDot s = false) (hdouble : isDoubleDot s = false) :
    addSegment .web before s last = before ++ [s] := by
  simp [addSegment, hsingle, hdouble]

lemma addSegment_last_ne_nil {k : Kind} : addSegment k before s true ≠ [] := by
  simp only [addSegment, if_true]
  split_ifs <;> simp

/-- Whatever holds of the segments that are there, of the empty one and of the one that is added,
unless it is a dot segment, holds of the result. -/
lemma forall_mem_addSegment {P : Text → Prop} (hbefore : ∀ x ∈ before, P x) (hnil : P [])
    (hs : isSingleDot s = false → isDoubleDot s = false → P s) :
    ∀ x ∈ addSegment .web before s last, P x := by
  have hopen : ∀ x ∈ if last then [([] : Text)] else [], P x := by
    cases last <;> simp [hnil]
  cases hdouble : isDoubleDot s with
  | true =>
    rw [addSegment_of_double hdouble, List.forall_mem_append]
    exact ⟨fun x hx => hbefore x ((shorten_prefix_self before).subset hx), hopen⟩
  | false =>
    cases hsingle : isSingleDot s with
    | true =>
      rw [addSegment_of_single hsingle hdouble, List.forall_mem_append]
      exact ⟨hbefore, hopen⟩
    | false =>
      rw [addSegment_of_not_dot hsingle hdouble, List.forall_mem_append, List.forall_mem_singleton]
      exact ⟨hbefore, hs hsingle hdouble⟩

end Add

lemma forall_mem_addSegments {P : Text → Prop} {before list : List Text}
    (hbefore : ∀ x ∈ before, P x) (hnil : P [])
    (hlist : ∀ s ∈ list, isSingleDot s = false → isDoubleDot s = false → P s) :
    ∀ x ∈ addSegments .web before list, P x := by
  fun_induction addSegments .web before list with
  | case1 before => exact hbefore
  | case2 before s => exact forall_mem_addSegment hbefore hnil (hlist s List.mem_cons_self)
  | case3 before s t rest ih =>
    refine ih (forall_mem_addSegment hbefore hnil (hlist s List.mem_cons_self)) ?_
    exact fun x hx => hlist x (List.mem_cons_of_mem s hx)

lemma addSegments_ne_nil {k : Kind} {list : List Text} (hne : list ≠ []) (before : List Text) :
    addSegments k before list ≠ [] := by
  fun_induction addSegments k before list with
  | case1 => exact absurd rfl hne
  | case2 => exact addSegment_last_ne_nil
  | case3 _ _ _ _ ih => exact ih (by simp)

/-- Segments that are no dot segments are passed over one by one. -/
lemma addSegments_append {list : List Text}
    (hlist : ∀ s ∈ list, isSingleDot s = false ∧ isDoubleDot s = false) (before : List Text)
    {rest : List Text} (hne : rest ≠ []) :
    addSegments .web before (list ++ rest) = addSegments .web (before ++ list) rest := by
  induction list generalizing before with
  | nil => simp
  | cons s list ih =>
    obtain ⟨hsingle, hdouble⟩ := hlist s List.mem_cons_self
    obtain ⟨t, rest', ht⟩ := List.exists_cons_of_ne_nil (show list ++ rest ≠ [] by simp [hne])
    rw [List.cons_append, ht, addSegments, ← ht, addSegment_of_not_dot hsingle hdouble,
      ih (fun x hx => hlist x (List.mem_cons_of_mem s hx)), List.append_assoc,
      List.singleton_append]

lemma addSegments_of_not_dot {list : List Text}
    (hlist : ∀ s ∈ list, isSingleDot s = false ∧ isDoubleDot s = false) (before : List Text) :
    addSegments .web before list = before ++ list := by
  match list.eq_nil_or_concat' with
  | .inl hnil => simp [hnil, addSegments]
  | .inr ⟨init, s, hconcat⟩ =>
    rw [hconcat] at hlist ⊢
    obtain ⟨hinit, hs⟩ := List.forall_mem_append.mp hlist
    obtain ⟨hsingle, hdouble⟩ := hs s List.mem_cons_self
    rw [addSegments_append hinit before (by simp), addSegments,
      addSegment_of_not_dot hsingle hdouble, List.append_assoc]

/-! ### Reading a path -/

@[simp] lemma segmentsText_nil : segmentsText [] = [] := rfl

@[simp] lemma segmentsText_cons (s : Text) (segments : List Text) :
    segmentsText (s :: segments) = '/' :: (s ++ segmentsText segments) := rfl

@[simp] lemma segmentsText_append (xs ys : List Text) :
    segmentsText (xs ++ ys) = segmentsText xs ++ segmentsText ys := List.flatMap_append

lemma segmentsText_eq_intercalate {segments : List Text} (hne : segments ≠ []) :
    segmentsText segments = '/' :: ['/'].intercalate segments := by
  induction segments with
  | nil => exact absurd rfl hne
  | cons s rest ih =>
    cases rest with
    | nil => simp
    | cons t rest => rw [segmentsText_cons, ih (by simp)]; simp

lemma head?_segmentsText (segments : List Text) :
    ∀ c ∈ (segmentsText segments).head?, c = '/' := by
  cases segments <;> simp

/-- Up to the first occurrence of a character, a text is what stands before it. -/
lemma takeWhile_ne_append {a : Char} {s t : Text} (hs : a ∉ s) (ht : ∀ c ∈ t.head?, c = a) :
    (s ++ t).takeWhile (· ≠ a) = s := by
  have hne : ∀ c ∈ s, decide (c ≠ a) = true := fun c hc => decide_eq_true fun h => hs (h ▸ hc)
  rw [List.takeWhile_append_of_pos hne]
  cases t with
  | nil => simp
  | cons c t => simp [ht c rfl]

lemma clean_segmentsText (segments : List Text) :
    clean (segmentsText segments) = segmentsText (segments.map clean) := by
  induction segments with
  | nil => rfl
  | cons s segments ih =>
    rw [segmentsText_cons, List.map_cons, segmentsText_cons, ← ih]
    exact congrArg ('/' :: ·) (List.filter_append ..)

lemma splitOnP_segmentsText {s : Text} {segments : List Text}
    (h : ∀ x ∈ s :: segments, IsSolid x) :
    (s ++ segmentsText segments).splitOnP (isSeparator .web) = s :: segments := by
  induction segments generalizing s with
  | nil =>
    rw [segmentsText_nil, List.append_nil]
    exact List.splitOnP_eq_singleton (h s List.mem_cons_self)
  | cons t segments ih =>
    rw [segmentsText_cons, List.splitOnP_append_cons_of_forall_mem (h s List.mem_cons_self) _ rfl,
      ih fun x hx => h x (List.mem_cons_of_mem s hx)]

/-- Paths are told apart by their texts. -/
lemma eq_of_segmentsText_eq {xs ys : List Text} (hxs : ∀ s ∈ xs, IsSolid s) (hys : ∀ s ∈ ys, IsSolid s)
    (h : segmentsText xs = segmentsText ys) : xs = ys := by
  have hnil : IsSolid [] := by simp [IsSolid]
  have hsplit := splitOnP_segmentsText (List.forall_mem_cons.mpr ⟨hnil, hxs⟩)
  rw [h, splitOnP_segmentsText (List.forall_mem_cons.mpr ⟨hnil, hys⟩)] at hsplit
  exact (List.cons.inj hsplit).2.symm

lemma parsePath_eq_rawPath (t : Text) : parsePath .web t = rawPath .web t := by
  simp [parsePath, settle]

lemma rawPath_of_clean_eq_nil {t : Text} (h : clean t = []) : rawPath .web t = [[]] := by
  simp [rawPath, h, Kind.isSpecial]

lemma rawPath_of_clean_eq_cons {t r : Text} {c : Char} (h : clean t = c :: r) :
    rawPath .web t
      = addSegments .web [] (splitPath .web (if isSeparator .web c then r else c :: r)) := by
  simp [rawPath, h]

/-- Reading the written form of some pieces adds them one by one. -/
lemma parsePath_segmentsText {segments : List Text} (hne : segments ≠ [])
    (h : ∀ s ∈ segments, IsSolid s) :
    parsePath .web (segmentsText segments)
      = addSegments .web [] (segments.map fun s => encode pathKeep (clean s)) := by
  obtain ⟨s, rest, rfl⟩ := List.exists_cons_of_ne_nil hne
  have hclean : clean (segmentsText (s :: rest))
      = '/' :: (clean s ++ segmentsText (rest.map clean)) := clean_segmentsText (s :: rest)
  have hsolid : ∀ x ∈ clean s :: rest.map clean, IsSolid x := by
    rw [← List.map_cons, List.forall_mem_map]
    exact fun x hx => (h x hx).clean
  rw [parsePath_eq_rawPath, rawPath_of_clean_eq_cons hclean, if_pos (by decide), splitPath,
    splitOnP_segmentsText hsolid, ← List.map_cons, List.map_map]
  rfl

/-- A piece holds characters of the text, and none that it is cut at. -/
lemma forall_mem_of_mem_splitOnP {p : Char → Bool} {t s : Text} (hs : s ∈ t.splitOnP p) :
    ∀ c ∈ s, c ∈ t ∧ p c = false := by
  induction t generalizing s with
  | nil => simp_all
  | cons d t ih =>
    have hmem : ∀ x ∈ t.splitOnP p, ∀ c ∈ x, c ∈ d :: t ∧ p c = false :=
      fun x hx c hc => ⟨List.mem_cons_of_mem d (ih hx c hc).1, (ih hx c hc).2⟩
    rw [List.splitOnP_cons_eq_if_modifyHead] at hs
    split_ifs at hs with hd
    · rcases List.mem_cons.mp hs with rfl | hs
      · simp
      · exact hmem s hs
    · obtain ⟨x, xs, hsplit⟩ := List.exists_cons_of_ne_nil (List.splitOnP_ne_nil p t)
      rw [hsplit] at hmem
      rw [hsplit, List.modifyHead_cons] at hs
      rcases List.mem_cons.mp hs with rfl | hs
      · rw [List.forall_mem_cons]
        exact ⟨⟨List.mem_cons_self, by simpa using hd⟩, hmem x List.mem_cons_self⟩
      · exact hmem s (List.mem_cons_of_mem x hs)

/-- Whatever is read as a path becomes one. -/
lemma isPath_parsePath (t : Text) : IsPath (parsePath .web t) := by
  rw [parsePath_eq_rawPath]
  cases h : clean t with
  | nil =>
    rw [rawPath_of_clean_eq_nil h]
    exact ⟨by simp, List.forall_mem_singleton.mpr isSegment_nil⟩
  | cons c r =>
    rw [rawPath_of_clean_eq_cons h]
    refine ⟨addSegments_ne_nil (by simp [splitPath]) [], ?_⟩
    refine forall_mem_addSegments (by simp) isSegment_nil fun s hs hsingle hdouble => ?_
    obtain ⟨x, hx, rfl⟩ := List.mem_map.mp hs
    rw [isSingleDot_encode_pathKeep] at hsingle
    rw [isDoubleDot_encode_pathKeep] at hdouble
    exact isSegment_encode_pathKeep (fun c hc => (forall_mem_of_mem_splitOnP hx c hc).2) hsingle
      hdouble

/-- Segments are read as they are. -/
lemma map_encode_clean_of_isSegment {segments : List Text} (h : ∀ s ∈ segments, IsSegment s) :
    segments.map (fun s => encode pathKeep (clean s)) = segments := by
  conv_rhs => rw [← List.map_id segments]
  refine List.map_congr_left fun s hs => ?_
  rw [(h s hs).clean_eq, (h s hs).encode_eq]
  rfl

/-! ### Growing a path -/

/-- Dropping an empty segment at the end keeps a path. -/
lemma IsPath.popIfEmpty {segments : List Text} (h : IsPath segments) :
    IsPath (popIfEmpty segments) := by
  unfold Url.popIfEmpty
  split
  · next hlast =>
    refine ⟨fun hnil => ?_, fun s hs => h.isSegment s (List.dropLast_subset _ hs)⟩
    have hlength := congrArg List.length hnil
    rw [List.length_dropLast, List.length_nil] at hlength
    omega
  · exact h

lemma push_of_dot {t : Text} (h : t = ['.'] ∨ t = ['.', '.']) (segments : List Text) :
    push .web segments t = segments := if_pos h

lemma push_of_not_dot {t : Text} (h : ¬(t = ['.'] ∨ t = ['.', '.'])) (segments : List Text) :
    push .web segments t = addSegment .web (if segments = [[]] then [] else segments)
      (encode (segmentKeep .web) (clean t)) true := by
  simp [push, h, settle]

/-- Adding any text as one segment keeps a path. -/
lemma IsPath.push {segments : List Text} (h : IsPath segments) (t : Text) :
    IsPath (push .web segments t) := by
  by_cases ht : t = ['.'] ∨ t = ['.', '.']
  · rwa [push_of_dot ht]
  · rw [push_of_not_dot ht]
    refine ⟨addSegment_last_ne_nil, forall_mem_addSegment ?_ isSegment_nil fun hsingle hdouble => ?_⟩
    · split
      · simp
      · exact h.isSegment
    · have hkeep : ∀ c, segmentKeep .web c → pathKeep c ∧ isSeparator .web c = false := by
        simp only [segmentKeep, Bool.and_eq_true, Bool.not_eq_true', decide_eq_true_eq]
        exact fun c hc => hc.1
      exact {
        kept := pathKeep_of_mem_encode fun c _ hc => (hkeep c hc).1
        solid := not_isSeparator_of_mem_encode fun c _ hc => (hkeep c hc).2
        not_single := hsingle
        not_double := hdouble }

end Courier.Url
