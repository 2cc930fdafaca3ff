import Courier.Proofs.Except
import Courier.Proofs.Percent
import Courier.Request
import Mathlib

/-!
# Laws of header fields

A text is the value of a header exactly if none of its bytes is forbidden. An entry gives a field exactly
if it is not faulty, and one faulty entry makes a whole list of entries fail. `Headers.insert` keeps one
value for each name, so fields that are inserted in turn leave every name with its last value.
-/

namespace Courier

/-! ### Values -/

/-- The bytes that no header value holds: the controls except the tab. -/
def isForbiddenByte (b : UInt8) : Bool := (b < 0x20 && b ≠ 0x09) || b = 0x7F

lemma exists_isForbiddenByte_iff (c : Char) :
    (∃ b ∈ String.utf8EncodeChar c, isForbiddenByte b) ↔ ¬ (c = '\t' ∨ (' ' ≤ c ∧ c ≠ '\x7f')) := by
  have htab : c = '\t' ↔ c.toNat = 9 := by rw [← Char.toNat_inj]; rfl
  have hdelete : c = '\x7f' ↔ c.toNat = 127 := by rw [← Char.toNat_inj]; rfl
  have hspace : ' ' ≤ c ↔ 32 ≤ c.toNat := by
    rw [Char.le_def, UInt32.le_iff_toNat_le]
    rfl
  have hbyte (b : UInt8) : isForbiddenByte b ↔ (b.toNat < 32 ∧ b.toNat ≠ 9) ∨ b.toNat = 127 := by
    simp [isForbiddenByte, UInt8.lt_iff_toNat_lt, ← UInt8.toNat_inj]
  rw [Ne, htab, hdelete, hspace]
  by_cases hc : c.toNat < 0x80
  · simp [utf8EncodeChar_of_lt hc, hbyte]
    omega
  · constructor
    · rintro ⟨b, hb, hforbidden⟩
      have hle := le_of_mem_utf8EncodeChar (by omega) b hb
      rw [hbyte] at hforbidden
      omega
    · omega

/-- A text is a header value exactly if none of its bytes is forbidden. -/
lemma isHeaderValue_eq_false_iff {s : String} :
    isHeaderValue s = false ↔ ∃ b ∈ Text.utf8 s.toList, isForbiddenByte b := by
  rw [isHeaderValue, List.all_eq_false]
  constructor
  · rintro ⟨c, hc, hrefused⟩
    obtain ⟨b, hb, hforbidden⟩ := (exists_isForbiddenByte_iff c).mpr (by simpa using hrefused)
    exact ⟨b, List.mem_flatMap.mpr ⟨c, hc, hb⟩, hforbidden⟩
  · rintro ⟨b, hb, hforbidden⟩
    obtain ⟨c, hc, hbc⟩ := List.mem_flatMap.mp hb
    have hrefused := (exists_isForbiddenByte_iff c).mp ⟨b, hbc, hforbidden⟩
    exact ⟨c, hc, by simpa using hrefused⟩

/-! ### Fields -/

namespace Headers

def names (hs : Headers) : List String := hs.map Prod.fst

/-- The value of the last field of a name. -/
def last? (n : String) (fields : Headers) : Option String :=
  (fields.filter (·.1 = n)).getLast?.map Prod.snd

def insertAll (hs fields : Headers) : Headers :=
  fields.foldl (fun hs f => insert f.1 f.2 hs) hs

lemma mem_names_insert {n name value : String} {hs : Headers} :
    n ∈ names (insert name value hs) ↔ n = name ∨ n ∈ names hs := by
  induction hs with
  | nil => simp [insert, names]
  | cons f hs ih =>
    rw [insert]
    split_ifs with hf
    · simp [names, hf]
    · simp only [names, List.map_cons, List.mem_cons] at ih ⊢
      rw [ih]
      tauto

lemma nodup_names_insert {hs : Headers} (h : hs.names.Nodup) (name value : String) :
    (names (insert name value hs)).Nodup := by
  induction hs with
  | nil => simp [insert, names]
  | cons f hs ih =>
    obtain ⟨hmem, hnodup⟩ := List.nodup_cons.mp h
    rw [insert]
    split_ifs with hf
    · exact h
    · refine List.nodup_cons.mpr ⟨?_, ih hnodup⟩
      rw [← names, mem_names_insert]
      rintro (heq | hold)
      · exact hf heq
      · exact hmem hold

lemma get?_cons (n : String) (f : String × String) (hs : Headers) :
    get? n (f :: hs) = if n = f.1 then some f.2 else get? n hs := by
  rw [get?, List.lookup_cons]
  by_cases hn : n = f.1
  · rw [if_pos hn, beq_iff_eq.mpr hn]
  · rw [if_neg hn, beq_eq_false_iff_ne.mpr hn, get?]

lemma get?_insert (n name value : String) (hs : Headers) :
    get? n (insert name value hs) = if n = name then some value else get? n hs := by
  induction hs with
  | nil => rw [insert, get?_cons]
  | cons f hs ih =>
    rw [insert]
    by_cases hf : f.1 = name
    · rw [if_pos hf, get?_cons, get?_cons, hf]
      by_cases hn : n = name <;> simp [hn]
    · rw [if_neg hf, get?_cons, get?_cons, ih]
      by_cases hn : n = f.1
      · simp [hn, hf]
      · simp [hn]

lemma mem_names_insertAll {n : String} {hs fields : Headers} :
    n ∈ names (insertAll hs fields) ↔ n ∈ names fields ∨ n ∈ names hs := by
  induction fields generalizing hs with
  | nil => simp [insertAll, names]
  | cons f fields ih =>
    change n ∈ names (insertAll (insert f.1 f.2 hs) fields) ↔ _
    rw [ih, mem_names_insert]
    simp only [names, List.map_cons, List.mem_cons]
    tauto

lemma nodup_names_insertAll {hs : Headers} (h : hs.names.Nodup) (fields : Headers) :
    (names (insertAll hs fields)).Nodup := by
  induction fields generalizing hs with
  | nil => exact h
  | cons f fields ih => exact ih (nodup_names_insert h f.1 f.2)

lemma last?_cons (n : String) (f : String × String) (fields : Headers) :
    last? n (f :: fields) = (last? n fields).or (if n = f.1 then some f.2 else none) := by
  by_cases hf : f.1 = n
  · subst hf
    cases hrest : (fields.filter (·.1 = f.1)).getLast? <;>
      simp [last?, List.getLast?_cons, hrest]
  · simp [last?, hf, Ne.symm hf]

lemma last?_append (n : String) (fields fields' : Headers) :
    last? n (fields ++ fields') = (last? n fields').or (last? n fields) := by
  induction fields with
  | nil => simp [last?]
  | cons f fields ih => rw [List.cons_append, last?_cons, ih, last?_cons, Option.or_assoc]

/-- Of fields that are inserted in turn the last one of each name counts. -/
lemma get?_insertAll (n : String) (hs fields : Headers) :
    get? n (insertAll hs fields) = (last? n fields).or (get? n hs) := by
  induction fields generalizing hs with
  | nil => rfl
  | cons f fields ih =>
    change get? n (insertAll (insert f.1 f.2 hs) fields) = _
    rw [ih, get?_insert, last?_cons]
    by_cases hn : n = f.1 <;> simp [hn]

/-- Where every name occurs once, a field is there exactly if it gives the value of its name. -/
lemma mem_iff_get?_eq_some {n v : String} {hs : Headers} (h : hs.names.Nodup) :
    (n, v) ∈ hs ↔ get? n hs = some v := by
  induction hs with
  | nil => simp [get?]
  | cons f hs ih =>
    obtain ⟨name, value⟩ := f
    obtain ⟨hmem, hnodup⟩ := List.nodup_cons.mp h
    by_cases hn : n = name
    · subst hn
      have hrest : (n, v) ∉ hs := fun hv => hmem (List.mem_map.mpr ⟨(n, v), hv, rfl⟩)
      simp [get?_cons, hrest, eq_comm]
    · simp [get?_cons, hn, ih hnodup]

lemma mem_insert {f : String × String} {name value : String} {hs : Headers}
    (h : f ∈ insert name value hs) : f = (name, value) ∨ f ∈ hs := by
  induction hs with
  | nil => exact Or.inl (List.mem_singleton.mp h)
  | cons g hs ih =>
    rw [insert] at h
    split_ifs at h with hg
    · rcases List.mem_cons.mp h with rfl | hold
      · exact Or.inl (by rw [← hg])
      · exact Or.inr (List.mem_cons_of_mem g hold)
    · rcases List.mem_cons.mp h with rfl | hrest
      · exact Or.inr List.mem_cons_self
      · exact (ih hrest).imp_right (List.mem_cons_of_mem g)

lemma mem_insertAll {f : String × String} {hs fields : Headers} (h : f ∈ insertAll hs fields) :
    f ∈ fields ∨ f ∈ hs := by
  induction fields generalizing hs with
  | nil => exact Or.inr h
  | cons g fields ih =>
    have hrest : f ∈ insertAll (insert g.1 g.2 hs) fields := h
    rcases ih hrest with hnew | hold
    · exact Or.inl (List.mem_cons_of_mem g hnew)
    · rcases mem_insert hold with rfl | hold
      · exact Or.inl List.mem_cons_self
      · exact Or.inr hold

end Headers

/-! ### Entries -/

def lowerCase (s : String) : String := String.ofList (s.toList.map Char.toLower)

namespace Entry

/-- Whether an entry is no header: its name is no token, or longer than the name of a header may be, or it
has no value, or one that holds a forbidden byte. -/
def IsFaulty (e : Entry) : Prop :=
  isToken e.name = false ∨ maxHeaderName < e.name.length ∨ e.value = none
    ∨ ∃ v, e.value = some v ∧ ∃ b ∈ Text.utf8 v.toList, isForbiddenByte b

/-- The field of an entry: its name in lower case, and its value. -/
def field (e : Entry) : String × String := (lowerCase e.name, e.value.getD "")

/-- The last of the entries whose name is the given one in lower case. -/
def last? (n : String) (entries : List Entry) : Option Entry :=
  (entries.filter (lowerCase ·.name = n)).getLast?

lemma last?_map_field (n : String) (entries : List Entry) :
    Headers.last? n (entries.map field) = (last? n entries).map (·.value.getD "") := by
  rw [Headers.last?, List.filter_map, List.getLast?_map, Option.map_map]
  rfl

lemma last?_eq_none_iff {n : String} {entries : List Entry} :
    last? n entries = none ↔ ∀ e ∈ entries, lowerCase e.name ≠ n := by
  simp [last?]

lemma mem_of_last?_eq_some {n : String} {entries : List Entry} {e : Entry}
    (h : last? n entries = some e) : e ∈ entries :=
  List.mem_of_mem_filter (List.mem_of_getLast? h)

lemma exists_value_of_not_isFaulty {e : Entry} (h : ¬ e.IsFaulty) :
    ∃ v, e.value = some v ∧ isHeaderValue v = true := by
  simp only [IsFaulty, not_or] at h
  obtain ⟨-, -, hvalue, hbytes⟩ := h
  obtain ⟨v, hv⟩ := Option.ne_none_iff_exists'.mp hvalue
  refine ⟨v, hv, ?_⟩
  rw [← Bool.not_eq_false, isHeaderValue_eq_false_iff]
  exact fun hforbidden => hbytes ⟨v, hv, hforbidden⟩

end Entry

namespace Draft

/-- An entry that is not faulty gives its field. -/
lemma headerField_of_not_isFaulty {e : Entry} (h : ¬ e.IsFaulty) :
    headerField e = .ok e.field := by
  obtain ⟨v, hv, hlegal⟩ := Entry.exists_value_of_not_isFaulty h
  simp only [Entry.IsFaulty, not_or, Bool.not_eq_false, not_lt] at h
  have hname : headerName? e.name = some (lowerCase e.name) := by
    simp [headerName?, lowerCase, h.1, h.2.1]
  simp [headerField, hname, hv, hlegal, Entry.field]

/-- A faulty entry is refused as an argument. -/
lemma exists_headerField_eq_error {e : Entry} (h : e.IsFaulty) :
    ∃ err, headerField e = .error err ∧ err.kind = .argument := by
  have hname : isToken e.name = false ∨ maxHeaderName < e.name.length → headerName? e.name = none := by
    rintro (htoken | hlong)
    · simp [headerName?, htoken]
    · simp [headerName?, Nat.not_le.mpr hlong]
  rw [Entry.IsFaulty, ← or_assoc] at h
  cases hn : headerName? e.name with
  | none => exact ⟨.invalidHeaderName e.name, by simp [headerField, hn], rfl⟩
  | some name =>
    rcases h with hfault | hvalue | ⟨v, hv, hbytes⟩
    · simp [hname hfault] at hn
    · exact ⟨.missingHeaderValue e.name, by simp [headerField, hn, hvalue], rfl⟩
    · have hrefused := isHeaderValue_eq_false_iff.mpr hbytes
      exact ⟨.invalidHeaderValue e.name, by simp [headerField, hn, hv, hrefused], rfl⟩

lemma mapM_headerField {entries : List Entry} (h : ∀ e ∈ entries, ¬ e.IsFaulty) :
    entries.mapM headerField = .ok (entries.map Entry.field) := by
  induction entries with
  | nil => rfl
  | cons e entries ih =>
    obtain ⟨he, hentries⟩ := List.forall_mem_cons.mp h
    rw [List.mapM_cons, headerField_of_not_isFaulty he, ih hentries]
    rfl

/-- One faulty entry makes the whole list fail, whatever stands before and behind it. -/
lemma exists_mapM_headerField_eq_error {entries : List Entry} (h : ∃ e ∈ entries, e.IsFaulty) :
    ∃ err, entries.mapM headerField = .error err ∧ err.kind = .argument := by
  induction entries with
  | nil => simp at h
  | cons e entries ih =>
    rw [List.mapM_cons]
    by_cases he : e.IsFaulty
    · obtain ⟨err, herr, hkind⟩ := exists_headerField_eq_error he
      exact ⟨err, by rw [herr]; rfl, hkind⟩
    · obtain ⟨e', hmem, hfaulty⟩ := h
      rcases List.mem_cons.mp hmem with rfl | hmem
      · exact absurd hfaulty he
      · obtain ⟨err, herr, hkind⟩ := ih ⟨e', hmem, hfaulty⟩
        exact ⟨err, by rw [headerField_of_not_isFaulty he, herr]; rfl, hkind⟩

/-- The fields that entries and the media type of a body give, in the order of their insertion. -/
def headerFields (entries : List Entry) (contentType : Option String) : Headers :=
  entries.map Entry.field ++ (contentType.map fun t => ("content-type", t)).toList

lemma names_headerFields (entries : List Entry) (contentType : Option String) :
    (headerFields entries contentType).names
      = entries.map (lowerCase ·.name) ++ (contentType.map fun _ => "content-type").toList := by
  cases contentType <;> simp [Headers.names, headerFields, Entry.field]

/-- The last value of a name: the media type of the body stands behind the entries. -/
lemma last?_headerFields (n : String) (entries : List Entry) (contentType : Option String) :
    Headers.last? n (headerFields entries contentType)
      = (if n = "content-type" then contentType else none).or
          ((Entry.last? n entries).map (·.value.getD "")) := by
  rw [headerFields, Headers.last?_append, Entry.last?_map_field]
  congr 1
  cases contentType with
  | none => simp [Headers.last?]
  | some t => simp [Headers.last?, eq_comm]

lemma effectiveHeaders_eq_ok {entries : List Entry} {contentType : Option String}
    (hentries : ∀ e ∈ entries, ¬ e.IsFaulty) (htype : ∀ t ∈ contentType, isHeaderValue t = true) :
    effectiveHeaders entries contentType
      = .ok (Headers.insertAll [("accept", jsonType)] (headerFields entries contentType)) := by
  rw [effectiveHeaders, mapM_headerField hentries]
  cases contentType with
  | none => simp [Headers.insertAll, headerFields]
  | some t =>
    simp [Headers.insertAll, headerFields, htype t rfl]

lemma exists_effectiveHeaders_eq_error {entries : List Entry} {contentType : Option String}
    (h : (∃ e ∈ entries, e.IsFaulty) ∨ ∃ t ∈ contentType, isHeaderValue t = false) :
    ∃ err, effectiveHeaders entries contentType = .error err ∧ err.kind = .argument := by
  by_cases hentries : ∃ e ∈ entries, e.IsFaulty
  · obtain ⟨err, herr, hkind⟩ := exists_mapM_headerField_eq_error hentries
    exact ⟨err, by rw [effectiveHeaders, herr]; rfl, hkind⟩
  · obtain ⟨t, ht, hrefused⟩ := h.resolve_left hentries
    have hsound : ∀ e ∈ entries, ¬ e.IsFaulty := fun e he hfaulty => hentries ⟨e, he, hfaulty⟩
    obtain rfl := Option.mem_def.mp ht
    refine ⟨.invalidHeaderValue "content-type", ?_, rfl⟩
    rw [effectiveHeaders, mapM_headerField hsound]
    simp [hrefused]

end Draft

end Courier
