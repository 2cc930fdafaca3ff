import Courier.Proofs.Decoded
import Courier.Proofs.Patch
import Mathlib

/-!
# The normal form of patch documents

Many texts stand for the same patch document: an operation may be an object with its fields in any order and with
unknown ones among them, or an array; its kind may stand inside an object; missing fields may be given as null. What
is read and written again is in normal form: reading the normal form gives the same operations, so that it is its own
normal form.
-/

namespace Courier.Patch

open Json

/-- The normal form of a document: what is written of the operations that are read. -/
def normalize (t : Text) : Except Fault Text := (parse t).map Patch.render

/-! ### The values of operations -/

/-- Whether a value that an operation may have is there only if it is not null, and then is as values are that
were read. -/
def IsSound (limit : Nat) (value : Option Json) : Prop := ∀ v ∈ value, v ≠ .null ∧ IsDecoded limit v

lemma isBlank_of_skipBlanks {t r : Text} {c : Char} (h : skipBlanks t = c :: r) :
    Json.isBlank c = false := by
  have hhead := List.head?_dropWhile_not Json.isBlank t
  rw [skipBlanks] at h
  rw [h] at hhead
  simpa using hhead

section Reading

variable {limit fuel : Nat} {t rest : Text}

lemma isSound_none (limit : Nat) : IsSound limit none := by simp [IsSound]

lemma isSound_of_orNull {value : Option Json} (h : orNull (read limit) t = .ok (value, rest)) :
    IsSound limit value := by
  rw [orNull] at h
  split at h
  · next c r hcons =>
    have hblank := isBlank_of_skipBlanks hcons
    split_ifs at h with hc
    · obtain ⟨tail, -, h⟩ := bind_eq_ok_iff.mp h
      obtain ⟨rfl, -⟩ := Prod.mk.inj (Except.ok.inj h)
      exact isSound_none limit
    · obtain ⟨⟨v, tail⟩, hread, h⟩ := bind_eq_ok_iff.mp h
      obtain ⟨rfl, -⟩ := Prod.mk.inj (Except.ok.inj h)
      intro w hw
      obtain rfl := Option.some.inj hw
      exact ⟨ne_null_of_read hblank hc hread, isDecoded_of_read hread⟩
  · obtain ⟨⟨v, tail⟩, hread, h⟩ := bind_eq_ok_iff.mp h
    cases limit <;> cases hread

/-- Reading a field keeps the value sound, whichever field it is. -/
lemma isSound_of_readField {p q : Fields} {name : String} (hp : IsSound limit p.value.join)
    (h : readField limit p name t = .ok (q, rest)) : IsSound limit q.value.join := by
  simp only [readField] at h
  split_ifs at h
  · obtain ⟨colon, -, h⟩ := bind_eq_ok_iff.mp h
    obtain ⟨⟨k, tail⟩, -, h⟩ := bind_eq_ok_iff.mp h
    obtain ⟨rfl, -⟩ := Prod.mk.inj (Except.ok.inj h)
    exact hp
  · obtain ⟨colon, -, h⟩ := bind_eq_ok_iff.mp h
    obtain ⟨⟨s, tail⟩, -, h⟩ := bind_eq_ok_iff.mp h
    obtain ⟨rfl, -⟩ := Prod.mk.inj (Except.ok.inj h)
    exact hp
  · obtain ⟨colon, -, h⟩ := bind_eq_ok_iff.mp h
    obtain ⟨⟨s, tail⟩, -, h⟩ := bind_eq_ok_iff.mp h
    obtain ⟨rfl, -⟩ := Prod.mk.inj (Except.ok.inj h)
    exact hp
  · obtain ⟨colon, -, h⟩ := bind_eq_ok_iff.mp h
    obtain ⟨⟨v, tail⟩, hread, h⟩ := bind_eq_ok_iff.mp h
    obtain ⟨rfl, -⟩ := Prod.mk.inj (Except.ok.inj h)
    exact isSound_of_orNull hread
  · obtain ⟨colon, -, h⟩ := bind_eq_ok_iff.mp h
    obtain ⟨tail, -, h⟩ := bind_eq_ok_iff.mp h
    obtain ⟨rfl, -⟩ := Prod.mk.inj (Except.ok.inj h)
    exact hp

lemma isSound_of_finish {p : Fields} {o : PatchOperation} (hp : IsSound limit p.value.join)
    (h : p.finish = .ok o) : IsSound limit o.value := by
  rw [Fields.finish] at h
  split at h
  · cases h
  · cases h
  · obtain rfl := Except.ok.inj h
    exact hp

lemma isSound_of_readFields {first : Bool} {p : Fields} {o : PatchOperation} (hp : IsSound limit p.value.join)
    (h : readFields limit fuel first p t = .ok (o, rest)) : IsSound limit o.value := by
  induction fuel generalizing first p t with
  | zero => cases h
  | succ fuel ih =>
    obtain ⟨next, -, h⟩ := bind_eq_ok_iff.mp h
    cases next with
    | none =>
      obtain ⟨o', hfinish, h⟩ := bind_eq_ok_iff.mp h
      obtain ⟨tail, -, h⟩ := bind_eq_ok_iff.mp h
      obtain ⟨rfl, -⟩ := Prod.mk.inj (Except.ok.inj h)
      exact isSound_of_finish hp hfinish
    | some t' =>
      obtain ⟨⟨name, tail⟩, -, h⟩ := bind_eq_ok_iff.mp h
      obtain ⟨⟨q, tail'⟩, hfield, h⟩ := bind_eq_ok_iff.mp h
      exact ih (isSound_of_readField hp hfield) h

lemma isSound_of_readPart {first : Bool} {value : Option (Option Json)}
    (h : readPart first (orNull (read limit)) t = .ok (value, rest)) : IsSound limit value.join := by
  obtain ⟨next, -, h⟩ := bind_eq_ok_iff.mp h
  cases next with
  | none =>
    obtain ⟨rfl, -⟩ := Prod.mk.inj (Except.ok.inj h)
    exact isSound_none limit
  | some t' =>
    obtain ⟨⟨v, tail⟩, hread, h⟩ := bind_eq_ok_iff.mp h
    obtain ⟨rfl, -⟩ := Prod.mk.inj (Except.ok.inj h)
    exact isSound_of_orNull hread

lemma isSound_of_readParts {o : PatchOperation} (h : readParts limit t = .ok (o, rest)) :
    IsSound limit o.value := by
  obtain ⟨⟨kind, t₁⟩, -, h⟩ := bind_eq_ok_iff.mp h
  cases kind with
  | none => cases h
  | some kind =>
    obtain ⟨⟨path, t₂⟩, -, h⟩ := bind_eq_ok_iff.mp h
    cases path with
    | none => cases h
    | some path =>
      obtain ⟨⟨source, t₃⟩, -, h⟩ := bind_eq_ok_iff.mp h
      obtain ⟨⟨value, t₄⟩, hvalue, h⟩ := bind_eq_ok_iff.mp h
      obtain ⟨tail, -, h⟩ := bind_eq_ok_iff.mp h
      obtain ⟨rfl, -⟩ := Prod.mk.inj (Except.ok.inj h)
      exact isSound_of_readPart hvalue

/-- An operation is read with a sound value, from an object as from an array. -/
lemma isSound_of_readOperation {o : PatchOperation} (h : readOperation limit t = .ok (o, rest)) :
    IsSound (limit - 1) o.value := by
  rw [readOperation] at h
  split at h
  · cases h
  · split_ifs at h
    · exact isSound_of_readFields (isSound_none _) h
    · exact isSound_of_readParts h

lemma isSound_of_parse {p : Patch} (h : parse t = .ok p) : ∀ o ∈ p, IsSound (depthLimit - 2) o.value := by
  rw [parse] at h
  split at h
  · cases h
  · split_ifs at h
    obtain ⟨⟨operations, tail⟩, hitems, h⟩ := bind_eq_ok_iff.mp h
    obtain ⟨_, -, h⟩ := bind_eq_ok_iff.mp h
    obtain rfl := Except.ok.inj h
    exact forall_mem_of_readItems (fun _ _ _ => isSound_of_readOperation) hitems

end Reading

/-! ### Normal forms -/

/-- What is read from a document without doubles is read back from what is written of it. -/
lemma parse_render_of_parse {t : Text} {p : Patch} (h : parse t = .ok p)
    (hnumbers : ∀ o ∈ p, ∀ v ∈ o.value, v.IsIntegral) : parse p.render = .ok p := by
  have hsound := isSound_of_parse h
  have hreadable : ∀ o ∈ p, HasReadableValue (depthLimit - 2) o := by
    intro o ho v hv
    obtain ⟨-, hexact, hdepth⟩ := hsound o ho v hv
    exact ⟨hexact (hnumbers o ho v hv), hdepth⟩
  have hnull : ∀ o ∈ p, o.value ≠ some .null := by
    intro o ho hvalue
    exact (hsound o ho .null hvalue).1 rfl
  rw [parse_render hreadable, map_withoutNull_eq_iff.mpr hnull]

/-- Normalizing loses nothing of what is read, and normalizing again changes nothing. A text that is read as a
document whose values hold no doubles, in whatever form, is written as a body that is valid UTF-8. The text of that
body is read as the same operations in the same order, and what is written of these is the same, byte by byte. -/
theorem normalize_idempotent (contentType : String) (raw : Option RawContent) {t : Text} {p : Patch}
    (h : parse t = .ok p) (hnumbers : ∀ o ∈ p, ∀ v ∈ o.value, v.IsIntegral) :
    ∃ body b, Body.select ⟨some contentType, none, some p, raw⟩ = .ok (some body)
      ∧ Utf8.decode? body.content = some b
      ∧ normalize t = .ok b
      ∧ parse b = .ok p
      ∧ normalize b = .ok b
      ∧ Body.select ⟨some contentType, none, (parse b).toOption, raw⟩ = .ok (some body) := by
  have hread := parse_render_of_parse h hnumbers
  refine ⟨_, p.render, rfl, Utf8.decode?_utf8 _, ?_, hread, ?_, ?_⟩
  · rw [normalize, h]
    rfl
  · rw [normalize, hread]
    rfl
  · rw [hread]
    rfl

/-- An object with its fields in another order, an unknown field that holds a double, a null for a field that is not
there, a key twice, an escape that is not needed, and the kind in an object of its own; an array; and the greatest
integer. -/
theorem normalize_idempotent_shapes :
    let t := (" [\x7b\"more\":[1.5,\x7b\x7d], \"value\":\x7b\"b\":1,\"a\":[null,true],\"b\":-2\x7d,\t"
      ++ "\"path\":\"/\\u0061\",\"op\":\x7b\"add\":null\x7d,\"from\":null\x7d, "
      ++ "[\"move\",\"/b\",\"/\\/\\\"\"],\n"
      ++ "\x7b\"op\":\"test\",\"path\":\"\",\"value\":18446744073709551615\x7d ] ").toList
    let b := ("[\x7b\"op\":\"add\",\"path\":\"/a\",\"value\":\x7b\"a\":[null,true],\"b\":-2\x7d\x7d,"
      ++ "\x7b\"op\":\"move\",\"path\":\"/b\",\"from\":\"//\\\"\"\x7d,"
      ++ "\x7b\"op\":\"test\",\"path\":\"\",\"value\":18446744073709551615\x7d]").toList
    let p : Patch := [.add "/a" (.object [("a", .array [.null, .bool true]), ("b", .number (.integer (-2)))]),
      .moveFrom "//\"" "/b", .test "" (.number (.integer 18446744073709551615))]
    parse t = .ok p ∧ (∀ o ∈ p, ∀ v ∈ o.value, v.IsIntegral)
      ∧ normalize t = .ok b ∧ parse b = .ok p ∧ normalize b = .ok b := by
  intro t b p
  have hparse : parse t = .ok p := eq_ok_of_toOption (by decide +kernel)
  have hnormal : normalize t = .ok b := eq_ok_of_toOption (by decide +kernel)
  have hobject : IsIntegral (.object [("a", .array [.null, .bool true]), ("b", .number (.integer (-2)))]) := by
    have harray : IsIntegral (.array [.null, .bool true]) := .array (by simp [IsIntegral.null, IsIntegral.bool])
    exact .object (by simp [harray, IsIntegral.integer])
  have hnumbers : ∀ o ∈ p, ∀ v ∈ o.value, v.IsIntegral := by
    simp [p, PatchOperation.add, PatchOperation.moveFrom, PatchOperation.test, hobject, IsIntegral.integer]
  obtain ⟨-, b', -, -, hnormal', hread, hagain, -⟩ := normalize_idempotent patchType none hparse hnumbers
  obtain rfl : b = b' := Except.ok.inj (hnormal.symm.trans hnormal')
  exact ⟨hparse, hnumbers, hnormal, hread, hagain⟩

end Courier.Patch
