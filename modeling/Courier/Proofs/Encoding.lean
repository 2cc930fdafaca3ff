import Courier.Proofs.Rereading
import Courier.Proofs.Values
import Mathlib

/-!
# Values as inert text

The written form of a value is made of signs that mean nothing to a template, a path or a query, and of whole
escapes. It stands for the bytes of the value, and a longer value is written piece by piece. Behind the slash at the
end of a path it is read as one more segment, unless the value spells a dot segment.
-/

namespace Courier.Template

open Percent Url Endpoint

/-! ### Signs and escapes -/

/-- The signs that stand for themselves in a written value. -/
def plainSigns : Text :=
  "ABCDEFGHIJKLMNOPQRSTUVWXYZabcdefghijklmnopqrstuvwxyz0123456789-._~!$&\x27()*+,;=:@".toList

/-- The digits of the escapes in a written value. -/
def upperDigits : Text := "0123456789ABCDEF".toList

/-- Texts of plain signs and of whole escapes in upper-case digits. -/
inductive IsInert : Text → Prop
  | nil : IsInert []
  | plain {c : Char} {t : Text} (hc : c ∈ plainSigns) (ht : IsInert t) : IsInert (c :: t)
  | escape {high low : Char} {t : Text} (hhigh : high ∈ upperDigits) (hlow : low ∈ upperDigits)
      (ht : IsInert t) : IsInert ('%' :: high :: low :: t)

lemma IsInert.append {s t : Text} (hs : IsInert s) (ht : IsInert t) : IsInert (s ++ t) := by
  induction hs with
  | nil => exact ht
  | plain hc _ ih => exact .plain hc ih
  | escape hhigh hlow _ ih => exact .escape hhigh hlow ih

lemma hexDigit_mem_upperDigits : ∀ n < 16, hexDigit n ∈ upperDigits := by decide

lemma isInert_flatMap_escape (bs : Bytes) : IsInert (bs.flatMap escape) := by
  induction bs with
  | nil => exact .nil
  | cons b bs ih =>
    have hb := b.toNat_lt
    exact .escape (hexDigit_mem_upperDigits _ (by omega)) (hexDigit_mem_upperDigits _ (by omega)) ih

lemma mem_plainSigns_of_valueKeep {c : Char} (h : valueKeep c) : c ∈ plainSigns := by
  have hascii : ∀ n < 128, valueKeep (Char.ofNat n) → Char.ofNat n ∈ plainSigns := by decide +kernel
  simpa using hascii c.toNat (toNat_lt_of_valueKeep h) (by simpa using h)

/-- Whatever a value holds, it is written as inert text. -/
lemma isInert_encodeValue (value : Text) : IsInert (encodeValue value) := by
  induction value with
  | nil => exact .nil
  | cons c value ih =>
    refine IsInert.append ?_ ih
    cases hc : valueKeep c with
    | true =>
      rw [encodeChar_of_keep hc]
      exact .plain (mem_plainSigns_of_valueKeep hc) .nil
    | false =>
      rw [encodeChar_of_not_keep hc]
      exact isInert_flatMap_escape _

lemma IsInert.forall_mem {t : Text} (h : IsInert t) : ∀ c ∈ t, c = '%' ∨ c ∈ plainSigns := by
  have hdigits : upperDigits.all (· ∈ plainSigns) = true := by decide
  have hplain : ∀ c ∈ upperDigits, c ∈ plainSigns := by simpa using hdigits
  induction h with
  | nil => simp
  | plain hc _ ih => exact List.forall_mem_cons.mpr ⟨Or.inr hc, ih⟩
  | escape hhigh hlow _ ih =>
    refine List.forall_mem_cons.mpr ⟨Or.inl rfl, List.forall_mem_cons.mpr ⟨Or.inr (hplain _ hhigh), ?_⟩⟩
    exact List.forall_mem_cons.mpr ⟨Or.inr (hplain _ hlow), ih⟩

/-- No sign of a path, a query, a fragment or a placeholder stands in inert text, no blank or control, and nothing
beyond ASCII. -/
lemma IsInert.visible {t : Text} (h : IsInert t) :
    ∀ c ∈ t, '!' ≤ c ∧ c ≤ '~' ∧ c ∉ ['/', '?', '#', '{', '}', '\\'] := by
  have hsigns : plainSigns.all fun c => '!' ≤ c ∧ c ≤ '~' ∧ c ∉ ['/', '?', '#', '{', '}', '\\'] := by
    decide
  intro c hc
  rcases h.forall_mem c hc with rfl | hc
  · decide
  · simpa using List.all_eq_true.mp hsigns c hc

/-! ### Values behind a path -/

/-- Only the values `.` and `..` are written as dot segments. -/
lemma isSegment_encodeValue {value : Text} (hsingle : value ≠ ['.']) (hdouble : value ≠ ['.', '.']) :
    IsSegment (encodeValue value) where
  kept c hc := (pathKeep_of_mem_encodeValue c hc).1
  solid c hc := (pathKeep_of_mem_encodeValue c hc).2
  not_single := by
    rw [← Bool.not_eq_true, isSingleDot_iff, decode_encodeValue]
    exact fun h => hsingle (Text.utf8_injective h)
  not_double := by
    rw [← Bool.not_eq_true, isDoubleDot_iff, decode_encodeValue]
    exact fun h => hdouble (Text.utf8_injective h)

end Courier.Template

namespace Courier.Endpoint

open Percent Template Url

/-- A URL with another path, which is read from a text. -/
def withPath (u : Url) (t : Text) : Url := u.withSegments (parsePath u.kind t)

/-- To extend a URL by a text that is not cut is to append the text behind a slash. -/
lemma extend_eq_withPath (u : Url) {t : Text} (ht : '/' ∉ t) :
    extend u t = withPath u (withSlash u.pathText ++ t) := by
  rw [extend, pieces_of_not_mem ht, List.intercalate_singleton]
  rfl

/-- One more segment behind a path is read as it is, and so are those before it. -/
lemma withPath_append {u : Url} (hw : u.kind = .web) {front : List Text} (hfront : ∀ s ∈ front, IsSegment s)
    {s : Text} (hs : IsSegment s) :
    withPath u (segmentsText front ++ '/' :: s) = u.withSegments (front ++ [s])
      ∧ (withPath u (segmentsText front ++ '/' :: s)).pathText = segmentsText front ++ '/' :: s := by
  have htext : segmentsText front ++ '/' :: s = segmentsText (front ++ [s]) := by simp
  have hpath : IsPath (front ++ [s]) :=
    ⟨by simp, List.forall_mem_append.mpr ⟨hfront, List.forall_mem_singleton.mpr hs⟩⟩
  rw [withPath, hw, htext, hpath.parsePath_segmentsText]
  exact ⟨rfl, rfl⟩

/-- A value is written as inert text that stands for its bytes, piece by piece. Unless the value is `.` or `..`, its
written form becomes the last segment of the path of any web URL that it is appended to, be it behind the slash at
the end of that path or behind one more: the text of the path stays as it was put together, and the segments in
front are those that were there. -/
theorem values_are_written_inertly (value : String) :
    IsInert (encodeValue value.toList)
      ∧ (∀ c ∈ encodeValue value.toList, '!' ≤ c ∧ c ≤ '~' ∧ c ∉ ['/', '?', '#', '{', '}', '\\'])
      ∧ decode (encodeValue value.toList) = Text.utf8 value.toList
      ∧ (∀ other : String, encodeValue (value ++ other).toList
          = encodeValue value.toList ++ encodeValue other.toList)
      ∧ (value ≠ "." → value ≠ ".." → ∀ text u, parse? text = some u → u.kind = .web →
          ∃ base, u.segments? = some base
            ∧ extend u (encodeValue value.toList)
                = withPath u (withSlash u.pathText ++ encodeValue value.toList)
            ∧ withPath u (withSlash u.pathText ++ encodeValue value.toList)
                = u.withSegments (stem base ++ [encodeValue value.toList])
            ∧ (withPath u (withSlash u.pathText ++ encodeValue value.toList)).pathText
                = withSlash u.pathText ++ encodeValue value.toList
            ∧ withPath u (u.pathText ++ '/' :: encodeValue value.toList)
                = u.withSegments (base ++ [encodeValue value.toList])
            ∧ (withPath u (u.pathText ++ '/' :: encodeValue value.toList)).pathText
                = u.pathText ++ '/' :: encodeValue value.toList) := by
  have hinert := isInert_encodeValue value.toList
  refine ⟨hinert, hinert.visible, decode_encodeValue _, fun other => ?_, ?_⟩
  · rw [String.toList_append, encodeValue, encode_append]
    rfl
  · intro hsingle hdouble text u hu hw
    obtain ⟨base, hpath, hbase⟩ := exists_isPath_of_parse? hu hw
    have hs : IsSegment (encodeValue value.toList) :=
      isSegment_encodeValue (fun h => hsingle (String.toList_inj.mp h))
        fun h => hdouble (String.toList_inj.mp h)
    have hstem : ∀ s ∈ stem base, IsSegment s := fun s hs => hbase.isSegment s (stem_subset base hs)
    have hslash : withSlash (segmentsText base) ++ encodeValue value.toList
        = segmentsText (stem base) ++ '/' :: encodeValue value.toList := by
      rw [withSlash_segmentsText fun s hs => (hbase.isSegment s hs).solid.slash_not_mem,
        List.append_assoc, List.singleton_append]
    obtain ⟨hclosed, hclosedText⟩ := withPath_append hw hstem hs
    obtain ⟨hopen, hopenText⟩ := withPath_append hw hbase.isSegment hs
    have hextend := extend_eq_withPath u (slash_not_mem_encodeValue value.toList)
    rw [pathText_of_path_eq hpath, hslash] at hextend ⊢
    exact ⟨base, by rw [segments?, hpath], hextend, hclosed, hclosedText, hopen, hopenText⟩

/-- A value that holds the signs of a path, a query, an escape and a placeholder, and spells a dot segment with an
escape, behind a path that ends with a slash. -/
theorem values_are_written_inertly_signs :
    let value := "%2e./?#\x7bn\x7d\\ \té"
    let written := "%252e.%2F%3F%23%7Bn%7D%5C%20%09%C3%A9".toList
    let u : Url := ⟨"https", some ⟨[], [], .domain "h".toList, none⟩, false,
      .segments ["v1".toList, []], some "q".toList, none⟩
    value ≠ "." ∧ value ≠ ".." ∧ parse? "https://h/v1/?q" = some u ∧ u.kind = .web
      ∧ encodeValue value.toList = written ∧ IsInert written ∧ decode written = Text.utf8 value.toList
      ∧ withPath u ("/v1/".toList ++ written) = u.withSegments ["v1".toList, written]
      ∧ withPath u ("/v1//".toList ++ written) = u.withSegments ["v1".toList, [], written] := by
  intro value written u
  have hsingle : value ≠ "." := by decide
  have hdouble : value ≠ ".." := by decide
  have hu : parse? "https://h/v1/?q" = some u := by decide +kernel
  have hw : u.kind = .web := by decide +kernel
  have hwritten : encodeValue value.toList = written := by decide +kernel
  obtain ⟨hinert, -, hbytes, -, hpath⟩ := values_are_written_inertly value
  obtain ⟨base, hbase, -, hclosed, -, hopen, -⟩ := hpath hsingle hdouble _ u hu hw
  obtain rfl := Option.some.inj hbase
  rw [hwritten] at hinert hbytes hclosed hopen
  exact ⟨hsingle, hdouble, hu, hw, hwritten, hinert, hbytes, hclosed, hopen⟩

end Courier.Endpoint
