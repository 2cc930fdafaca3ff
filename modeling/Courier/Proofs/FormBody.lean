import Courier.Proofs.Building
import Courier.Proofs.Form
import Mathlib

/-!
# Form bodies

A form is written in a few characters of ASCII, so its bytes are its characters, and reading it gives one
pair for each entry. On a method with a body, steps with a form entry therefore decide the body and its media
type, whatever other bodies and headers they give.
-/

namespace Courier

namespace Form

/-- The characters of a form. -/
def isFormChar (c : Char) : Bool :=
  isUnreserved c || c = '+' || c = '%' || c = '&' || c = '='

lemma isFormChar_of_isUnreserved {c : Char} (h : isUnreserved c) : isFormChar c := by
  simp [isFormChar, h]

/-- Letters, digits and the eight signs of a form are ASCII. -/
lemma toNat_lt_of_isFormChar {c : Char} (h : isFormChar c) : c.toNat < 0x80 := by
  simp only [isFormChar, isUnreserved, Char.isAlphanum, Char.isAlpha, Char.isUpper, Char.isLower,
    Char.isDigit, Bool.or_eq_true, Bool.and_eq_true, decide_eq_true_eq, UInt32.le_iff_toNat_le,
    ge_iff_le, or_assoc] at h
  rcases h with h | h | h | h
  · simp at h
    omega
  · simp at h
    omega
  · simp at h
    omega
  · rcases h with rfl | rfl | rfl | rfl | rfl | rfl | rfl | rfl <;> decide

lemma isFormChar_of_mem_encode (t : Text) : ∀ c ∈ encode t, isFormChar c = true :=
  forall_mem_encode (P := (isFormChar · = true)) (fun _ h => isFormChar_of_isUnreserved h)
    (by decide) (by decide) t

lemma isFormChar_of_mem_encodeEntry (name : Text) (value : Option Text) :
    ∀ c ∈ encodeEntry name value, isFormChar c = true := by
  cases value with
  | none => exact isFormChar_of_mem_encode name
  | some value =>
    rw [encodeEntry, List.forall_mem_append, List.forall_mem_cons]
    exact ⟨isFormChar_of_mem_encode name, by decide, isFormChar_of_mem_encode value⟩

lemma isFormChar_of_mem_append {written : Text} (h : ∀ c ∈ written, isFormChar c = true)
    (name : Text) (value : Option Text) :
    ∀ c ∈ append written name value, isFormChar c = true := by
  rw [append]
  split
  · exact isFormChar_of_mem_encodeEntry name value
  · rw [List.forall_mem_append, List.forall_mem_cons]
    exact ⟨h, by decide, isFormChar_of_mem_encodeEntry name value⟩

/-- Adding entries keeps to the characters of a form. -/
lemma isFormChar_of_mem_appendAll {written : Text} (h : ∀ c ∈ written, isFormChar c = true)
    (entries : List (Text × Option Text)) :
    ∀ c ∈ appendAll written entries, isFormChar c = true := by
  induction entries generalizing written with
  | nil => exact h
  | cons e entries ih => exact ih (isFormChar_of_mem_append h e.1 e.2)

end Form

/-- The bytes of a text of ASCII are its characters. -/
lemma forall_mem_utf8 {P : Char → Prop} {t : Text} (hascii : ∀ c ∈ t, c.toNat < 0x80)
    (h : ∀ c ∈ t, P c) : ∀ b ∈ t.utf8, P (Char.ofNat b.toNat) := by
  intro b hb
  obtain ⟨c, hc, hbc⟩ := List.mem_flatMap.mp hb
  rw [utf8EncodeChar_of_lt (hascii c hc), List.mem_singleton] at hbc
  have hbyte : b.toNat = c.toNat := by
    have := hascii c hc
    rw [hbc, UInt8.toNat_ofNat']
    omega
  rw [hbyte, Char.ofNat_toNat]
  exact h c hc

namespace Body

/-- A form is read back entry by entry: an entry with an empty name keeps its pair, and a missing value is an
empty one. -/
lemma parse_content_ofForm (entries : List Entry) :
    Form.parse (Utf8.decode (ofForm entries).content)
      = entries.map fun e => (e.name.toList, (e.value.getD "").toList) := by
  rw [ofForm, Utf8.decode_utf8, Form.parse_appendAll, Form.parse_nil, List.nil_append,
    List.filterMap_map]
  simp [Form.pair?, Function.comp_def]

lemma isFormChar_of_mem_content_ofForm (entries : List Entry) :
    ∀ b ∈ (ofForm entries).content, Form.isFormChar (Char.ofNat b.toNat) = true := by
  have hnothing : ∀ c ∈ ([] : Text), Form.isFormChar c = true := by simp
  have hchars := Form.isFormChar_of_mem_appendAll hnothing
    (entries.map fun e => (e.name.toList, some (e.value.getD "").toList))
  exact forall_mem_utf8 (fun c hc => Form.toNat_lt_of_isFormChar (hchars c hc)) hchars

end Body

namespace Draft

open Step

/-- Form entries survive and win. On a method with a body, steps with a form entry that are built give the
form of these entries as the body, whatever bodies were set, and its media type as the only value of
`content-type`, whatever header entries were given. The body is written in the characters of a form, and
reading it gives exactly the entries in order, with empty values for missing ones. -/
theorem form_entries_win {method : Method} {u : Url} {steps : List Step} {d : Draft} {r : Request}
    (hmethod : method ∈ [Method.post, .put, .patch, .delete])
    (hforms : steps.flatMap formEntries ≠ [])
    (hsteps : (start method u).applyAll steps = .ok d) (hbuild : d.build = .ok r) :
    ∃ body, r.body = some body
      ∧ body = Body.ofForm (steps.flatMap formEntries)
      ∧ (∀ v, ("content-type", v) ∈ r.headers ↔ v = "application/x-www-form-urlencoded")
      ∧ (∀ b ∈ body.content, Form.isFormChar (Char.ofNat b.toNat) = true)
      ∧ Form.parse (Utf8.decode body.content)
          = (steps.flatMap formEntries).map fun e => (e.name.toList, (e.value.getD "").toList) := by
  obtain rfl := eq_after_of_applyAll hsteps
  obtain ⟨-, -, rfl⟩ := eq_of_build_eq_ok hbuild
  have hbodiless : method.isBodiless = false := by
    simp only [List.mem_cons, List.not_mem_nil, or_false] at hmethod
    rcases hmethod with rfl | rfl | rfl | rfl <;> decide
  have hbody : sentBody? method steps = some (Body.ofForm (steps.flatMap formEntries)) := by
    simp [sentBody?, hbodiless, finalBody, hforms]
  refine ⟨_, hbody, rfl, fun v => ?_, Body.isFormChar_of_mem_content_ofForm _,
    Body.parse_content_ofForm _⟩
  rw [Headers.mem_iff_get?_eq_some nodup_names_sentHeaders, get?_sentHeaders, hbody]
  simp [Body.ofForm, formType, eq_comm]

/-- Names and values with the signs of a form, an entry without name and value, and a body and media types
that lose. -/
theorem form_entries_win_signs :
    let u : Url := ⟨"https", some ⟨[], [], .domain "h".toList, none⟩, false,
      .segments ["v1".toList], none, none⟩
    let steps : List Step := [.form "a&b=" (.scalar "é +%26"), .header "CONTENT-TYPE" (.scalar "text/html"),
      .forms [("", .absent), ("t", .repeated [none, some "x=y"])], .query "q" (.scalar "1"),
      .body ⟨some "text/plain", [0x61]⟩]
    ∃ d r, Method.delete ∈ [Method.post, .put, .patch, .delete]
      ∧ steps.flatMap formEntries ≠ []
      ∧ (start .delete u).applyAll steps = .ok d ∧ d.build = .ok r
      ∧ r.body.map Body.content = some (Text.utf8 "a%26b%3D=%C3%A9+%2B%2526&=&t=&t=x%3Dy".toList)
      ∧ ∃ body, r.body = some body
        ∧ body = Body.ofForm (steps.flatMap formEntries)
        ∧ (∀ v, ("content-type", v) ∈ r.headers ↔ v = "application/x-www-form-urlencoded")
        ∧ (∀ b ∈ body.content, Form.isFormChar (Char.ofNat b.toNat) = true)
        ∧ Form.parse (Utf8.decode body.content)
            = (steps.flatMap formEntries).map fun e => (e.name.toList, (e.value.getD "").toList) := by
  intro u steps
  have hmethod : Method.delete ∈ [Method.post, .put, .patch, .delete] := by decide
  have hforms : steps.flatMap formEntries ≠ [] := by decide
  have hsteps : (start .delete u).applyAll steps = .ok ((start .delete u).after steps) := rfl
  have hbuild : ((start .delete u).after steps).build = .ok ⟨.delete,
      ((start .delete u).after steps).fullUrl,
      [("accept", "application/json"), ("content-type", formType)],
      some (Body.ofForm (steps.flatMap formEntries))⟩ := rfl
  exact ⟨_, _, hmethod, hforms, hsteps, hbuild, by decide +kernel,
    form_entries_win hmethod hforms hsteps hbuild⟩

end Draft

end Courier
