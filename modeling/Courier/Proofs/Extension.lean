import Courier.Proofs.Service
import Courier.Proofs.Substitution
import Mathlib

/-!
# Extending a path by a template

A filled template is appended to the path of the service URL as text, and the whole is read again. When
the template holds nothing but slashes that a path is cut at, this comes to adding its pieces, one by
one, to the segments that are there.
-/

namespace Courier.Endpoint

open Percent Template Url

/-! ### The base path -/

/-- The segments of a path without an empty one at its end. -/
def stem (segments : List Text) : List Text :=
  if segments.getLast? = some [] then segments.dropLast else segments

lemma stem_subset (segments : List Text) : stem segments ⊆ segments := by
  unfold stem
  split
  · exact List.dropLast_subset _
  · exact List.Subset.refl _

/-- A slash at the end of a path is there already, or is added. -/
lemma withSlash_segmentsText {segments : List Text} (h : ∀ s ∈ segments, '/' ∉ s) :
    withSlash (segmentsText segments) = segmentsText (stem segments) ++ ['/'] := by
  rcases segments.eq_nil_or_concat' with rfl | ⟨init, s, rfl⟩
  · rfl
  rcases s.eq_nil_or_concat' with rfl | ⟨t, c, rfl⟩
  · simp [withSlash, stem]
  · have hc : c ≠ '/' := by
      rintro rfl
      exact h (t ++ ['/']) (by simp) (by simp)
    have hlast : (segmentsText (init ++ [t ++ [c]])).getLast? = some c := by
      rw [segmentsText_append, segmentsText_cons, segmentsText_nil, List.append_nil,
        ← List.cons_append, ← List.append_assoc, List.getLast?_concat]
    rw [withSlash, hlast, if_neg (by simpa using hc), stem, List.getLast?_concat,
      if_neg (by simp)]

/-- What stands behind the slash at the end of a path goes on with its segments. -/
lemma withSlash_append_intercalate {base : List Text} (hbase : ∀ s ∈ base, '/' ∉ s)
    {list : List Text} (hne : list ≠ []) :
    withSlash (segmentsText base) ++ ['/'].intercalate list = segmentsText (stem base ++ list) := by
  rw [withSlash_segmentsText hbase, segmentsText_append, segmentsText_eq_intercalate hne,
    List.append_assoc, List.singleton_append]

/-! ### The pieces of a template -/

lemma relative_cons_of_ne {c : Char} (hc : c ≠ '/') (t : Text) : relative (c :: t) = c :: t := by
  unfold relative
  split
  · next h => exact absurd (List.cons.inj h).1 hc
  · rfl

lemma relative_eq (t : Text) : t = relative t ∨ t = '/' :: relative t := by
  unfold relative
  split
  · exact Or.inr rfl
  · exact Or.inl rfl

lemma relative_ne_nil {t : Text} (h : ∃ c ∈ t, c ≠ '/') : relative t ≠ [] := by
  intro hnil
  obtain ⟨c, hc, hne⟩ := h
  rcases relative_eq t with heq | heq <;> rw [heq, hnil] at hc
  · exact List.not_mem_nil hc
  · exact hne (List.mem_singleton.mp hc)

lemma relative_subset (t : Text) : relative t ⊆ t := by
  rcases relative_eq t with heq | heq
  · rw [← heq]
    exact List.Subset.refl t
  · exact fun c hc => heq ▸ List.mem_cons_of_mem '/' hc

lemma mem_splitOn_of_mem_relative {t s : Text} (h : s ∈ (relative t).splitOn '/') :
    s ∈ t.splitOn '/' := by
  rcases relative_eq t with heq | heq
  · rwa [← heq] at h
  · rw [heq, List.splitOn_cons_eq_if_modifyHead, if_pos (beq_self_eq_true '/')]
    exact List.mem_cons_of_mem [] h

lemma pieces_ne_nil (t : Text) : pieces t ≠ [] := by
  obtain ⟨init, s, h⟩ := (t.splitOn '/').eq_nil_or_concat'.resolve_left (List.splitOn_ne_nil _ _)
  simp [pieces, h]

lemma mem_splitOn_of_mem_pieces {t s : Text} (h : s ∈ pieces t) : s ∈ t.splitOn '/' := by
  rcases List.mem_append.mp h with h | h
  · exact List.dropLast_subset _ (List.mem_filter.mp h).1
  · exact List.mem_of_getLast? (by simpa using h)

lemma isSolid_of_mem_pieces {t : Text} (ht : '\\' ∉ t) : ∀ s ∈ pieces t, IsSolid s := by
  intro s hs c hc
  obtain ⟨hct, hslash⟩ := forall_mem_of_mem_splitOnP (mem_splitOn_of_mem_pieces hs) c hc
  have hback : c ≠ '\\' := fun h => ht (h ▸ hct)
  simpa [isSeparator, hback] using hslash

/-- The pieces of a path between slashes that are not empty. -/
def names (t : Text) : List Text := (t.splitOn '/').filter (!·.isEmpty)

/-- The last piece of a path is kept even if it is empty. -/
lemma exists_pieces_eq (t : Text) :
    ∃ init last, pieces t = init ++ [last] ∧ names t = init ++ if last = [] then [] else [last] := by
  obtain ⟨init, last, h⟩ := (t.splitOn '/').eq_nil_or_concat'.resolve_left (List.splitOn_ne_nil _ _)
  refine ⟨init.filter (!·.isEmpty), last, ?_, ?_⟩
  · simp [pieces, h]
  · rw [names, h, List.filter_append]
    by_cases hlast : last = [] <;> simp [hlast]

lemma pieces_append_slash (s t : Text) : pieces (s ++ '/' :: t) = names s ++ pieces t := by
  obtain ⟨init, last, h⟩ := (t.splitOn '/').eq_nil_or_concat'.resolve_left (List.splitOn_ne_nil _ _)
  rw [pieces, pieces, names, List.splitOn_append_cons_self, h, ← List.append_assoc]
  simp

lemma pieces_slash_cons (t : Text) : pieces ('/' :: t) = pieces t := pieces_append_slash [] t

lemma names_slash_cons (t : Text) : names ('/' :: t) = names t := by
  rw [names, ← List.nil_append ('/' :: t), List.splitOn_append_cons_self]
  simp [names]

/-- The slash that a path may start with does not count. -/
lemma pieces_relative (t : Text) : pieces (relative t) = pieces t := by
  rcases relative_eq t with h | h
  · rw [← h]
  · conv_rhs => rw [h, pieces_slash_cons]

lemma names_relative (t : Text) : names (relative t) = names t := by
  rcases relative_eq t with h | h
  · rw [← h]
  · conv_rhs => rw [h, names_slash_cons]

lemma splitOn_of_not_mem {t : Text} (h : '/' ∉ t) : t.splitOn '/' = [t] :=
  List.splitOnP_eq_singleton fun c hc => by
    have hne : c ≠ '/' := fun heq => h (heq ▸ hc)
    simpa using hne

lemma names_of_not_mem {t : Text} (hne : t ≠ []) (h : '/' ∉ t) : names t = [t] := by
  simp [names, splitOn_of_not_mem h, hne]

lemma pieces_of_not_mem {t : Text} (h : '/' ∉ t) : pieces t = [t] := by
  simp [pieces, splitOn_of_not_mem h]

lemma filter_pieces (t : Text) : (pieces t).filter (!·.isEmpty) = names t := by
  obtain ⟨init, last, h⟩ := (t.splitOn '/').eq_nil_or_concat'.resolve_left (List.splitOn_ne_nil _ _)
  simp [pieces, names, h]

/-- Texts between slashes of which the last one is not cut fall into their pieces that are not
empty. -/
lemma pieces_intercalate_append_singleton {t : Text} (hne : t ≠ []) (h : '/' ∉ t)
    (list : List Text) :
    pieces (['/'].intercalate (list ++ [t])) = (list ++ [t]).flatMap names := by
  induction list with
  | nil => simp [names_of_not_mem hne h, pieces_of_not_mem h]
  | cons s rest ih =>
    obtain ⟨x, xs, hcons⟩ := List.exists_cons_of_ne_nil (show rest ++ [t] ≠ [] by simp)
    rw [List.cons_append, hcons, List.intercalate_cons_cons, ← hcons, List.append_assoc,
      List.singleton_append, pieces_append_slash, ih, List.flatMap_cons]

/-! ### Appending a template -/

lemma isPath_of_path_extend {u : Url} (hw : u.kind = .web) {t : Text} {segments : List Text}
    (h : (extend u t).path = .segments segments) : IsPath segments := by
  rw [extend, hw, withSegments] at h
  exact Path.segments.inj h ▸ isPath_parsePath _

/-- A piece of a template as it is added to a path. -/
def written (t : Text) : Text := encode pathKeep (clean t)

/-- The path of a URL that is extended by a text whose pieces are not cut again. -/
lemma path_extend {u : Url} (hw : u.kind = .web) {base : List Text}
    (hpath : u.path = .segments base) (hbase : IsPath base) {t : Text}
    (ht : ∀ s ∈ pieces t, IsSolid s) :
    (extend u t).path = .segments (addSegments .web (stem base) ((pieces t).map written)) := by
  have hslash : ∀ s ∈ base, '/' ∉ s := fun s hs => (hbase.isSegment s hs).solid.slash_not_mem
  have hstem : ∀ s ∈ stem base, IsSegment s := fun s hs => hbase.isSegment s (stem_subset base hs)
  have hsolid : ∀ s ∈ stem base ++ pieces t, IsSolid s :=
    List.forall_mem_append.mpr ⟨fun s hs => (hstem s hs).solid, ht⟩
  have hne := pieces_ne_nil t
  calc (extend u t).path
      = .segments (parsePath .web (segmentsText (stem base ++ pieces t))) := by
        rw [extend, hw, pathText_of_path_eq hpath, withSlash_append_intercalate hslash hne,
          withSegments]
    _ = .segments (addSegments .web [] (stem base ++ (pieces t).map written)) := by
        rw [parsePath_segmentsText (by simp [hne]) hsolid, List.map_append,
          map_encode_clean_of_isSegment hstem]
        rfl
    _ = .segments (addSegments .web (stem base) ((pieces t).map written)) := by
        rw [addSegments_append (fun s hs => ⟨(hstem s hs).not_single, (hstem s hs).not_double⟩) []
          (by simpa using hne), List.nil_append]

end Courier.Endpoint
