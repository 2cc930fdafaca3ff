import Courier.Command.Run
import Courier.Proofs.Form
import Courier.Proofs.Json
import Mathlib

/-!
# Reading back patch documents

What `Patch.render` writes is read back operation by operation, whatever fields an operation has. Only null as
the value of an operation is lost: it is written, but a reader takes it for a value that is not there. So a
document is read back as it was exactly if none of its operations has the value null.
-/

namespace Courier

/-- A value, unless it is null. -/
def Json.nonNull? : Json → Option Json
  | .null => none
  | v => some v

lemma Json.nonNull?_of_ne {v : Json} (h : v ≠ .null) : v.nonNull? = some v := by
  cases v with
  | null => exact absurd rfl h
  | _ => rfl

/-- An operation as it is read back: without its value if that is null. -/
def PatchOperation.withoutNull (o : PatchOperation) : PatchOperation :=
  { o with value := o.value.bind Json.nonNull? }

namespace Patch

open Json

/-! ### Fields -/

section Fields

variable {limit fuel : Nat} {p : Fields} {rest : Text}

/-- Whether the value of an operation can be read inside `limit` further levels. -/
def IsReadable (limit : Nat) (v : Json) : Prop := v.IsExact ∧ v.depth ≤ limit

lemma kindOf_name (k : PatchKind) : kindOf k.name = .ok k := by
  cases k <;> rfl

lemma readColon_colon (t : Text) : readColon (':' :: t) = .ok t := rfl

lemma expectString_quote (expected s : String) (rest : Text) :
    expectString expected (quote s ++ rest) = .ok (s, rest) := by
  have hread (t : Text) : expectString expected ('"' :: t) = readString t := rfl
  rw [quote_append, hread, readString_quote]

lemma readField_op (hp : p.kind = none) (k : PatchKind) (rest : Text) :
    readField limit p "op" (':' :: ((Json.string k.name).render ++ rest))
      = .ok ({ p with kind := some k }, rest) := by
  have hread (t : Text) : readKind limit ('"' :: t)
      = (readString t >>= fun s => kindOf s.1 >>= fun k => .ok (k, s.2)) := rfl
  have hkind : readKind limit (quote k.name ++ rest) = .ok (k, rest) := by
    rw [quote_append, hread, readString_quote]
    change (kindOf k.name >>= _) = _
    rw [kindOf_name]
    rfl
  simp [readField, hp, readColon_colon, Json.render, hkind]

lemma readField_path (hp : p.path = none) (s : String) (rest : Text) :
    readField limit p "path" (':' :: ((Json.string s).render ++ rest))
      = .ok ({ p with path := some s }, rest) := by
  simp [readField, hp, readColon_colon, Json.render, expectString_quote]

lemma readField_source (hp : p.source = none) (s : String) (rest : Text) :
    readField limit p "from" (':' :: ((Json.string s).render ++ rest))
      = .ok ({ p with source := some (some s) }, rest) := by
  have hnull : orNull (expectString "a string") (quote s ++ rest) = .ok (some s, rest) := by
    have hread (t : Text) : orNull (expectString "a string") ('"' :: t)
        = (expectString "a string" ('"' :: t) >>= fun s => .ok (some s.1, s.2)) := rfl
    have hstring := expectString_quote "a string" s rest
    rw [quote_append] at hstring ⊢
    rw [hread, hstring]
    rfl
  simp [readField, hp, readColon_colon, Json.render, hnull]

/-- A value is read back unless it is null. -/
lemma orNull_render {v : Json} (hv : IsReadable limit v) (hrest : IsBoundary rest) :
    orNull (read limit) (v.render ++ rest) = .ok (v.nonNull?, rest) := by
  by_cases hnull : v = .null
  · subst hnull
    rfl
  · obtain ⟨c, r, hcons, hblank, -, hletter⟩ := exists_render_eq_cons hv.1
    have hread := read_render hv.1 hv.2 hrest
    rw [hcons, List.cons_append] at hread ⊢
    simp [orNull, skipBlanks_cons hblank, hletter hnull, hread, nonNull?_of_ne hnull]

lemma readField_value (hp : p.value = none) {v : Json} (hv : IsReadable limit v)
    (hrest : IsBoundary rest) :
    readField limit p "value" (':' :: (v.render ++ rest))
      = .ok ({ p with value := some v.nonNull? }, rest) := by
  simp [readField, hp, readColon_colon, orNull_render hv hrest]

/-- One field that is read takes the reader to the next one. -/
lemma readFields_cons {first : Bool} {q : Fields} {t : Text} {name : String} {v : Json}
    (hnext : nextKey first t
      = .ok (some (name.toList.flatMap escape ++ '"' :: ':' :: (v.render ++ rest))))
    (hfield : readField limit p name (':' :: (v.render ++ rest)) = .ok (q, rest)) :
    readFields limit (fuel + 1) first p t = readFields limit fuel false q rest := by
  simp [readFields, hnext, readString_quote, hfield]

lemma readFields_close (limit fuel : Nat) (p : Fields) (rest : Text) :
    readFields limit (fuel + 1) false p ('}' :: rest) = p.finish.map fun o => (o, rest) := by
  have hnext : nextKey false ('}' :: rest) = .ok none := rfl
  have hclose : endObject ('}' :: rest) = .ok rest := rfl
  cases hfinish : p.finish <;>
    simp [readFields, hnext, hclose, hfinish, Except.map]

end Fields

/-! ### Operations -/

/-- The members of an operation behind its kind and path. -/
def optionalMembers (o : PatchOperation) : List (String × Json) :=
  (o.source.map fun s => ("from", Json.string s)).toList ++ (o.value.map fun v => ("value", v)).toList

/-- Whether the value of an operation, if it has one, can be read inside `limit` further levels. -/
def HasReadableValue (limit : Nat) (o : PatchOperation) : Prop :=
  ∀ v ∈ o.value, IsReadable limit v

section Operation

variable {limit : Nat} {o : PatchOperation}

lemma readFields_value (ho : HasReadableValue limit o) {p : Fields} (hp : p.value = none) (fuel : Nat)
    (rest : Text) :
    readFields limit (fuel + 2) false p
        ((o.value.map fun v => ("value", v)).toList.flatMap (fun m => ',' :: memberText m) ++ '}' :: rest)
      = (Fields.finish { p with value := o.value.map nonNull? }).map fun o => (o, rest) := by
  cases hvalue : o.value with
  | none =>
    have hsame : { p with value := none } = p := by rw [← hp]
    simpa [hsame] using readFields_close limit (fuel + 1) p rest
  | some v =>
    have hfield := readField_value hp (ho v hvalue) (isBoundary_cons (c := '}') (by simp) rest)
    rw [Option.map_some, Option.toList_some, List.flatMap_singleton, List.cons_append,
      readFields_cons (nextKey_false ("value", v) _) hfield, readFields_close]
    rfl

/-- The fields behind kind and path are read up to the closing brace, also where one of them is missing. -/
lemma readFields_optionalMembers (ho : HasReadableValue limit o) {p : Fields} (hsource : p.source = none)
    (hvalue : p.value = none) (fuel : Nat) (rest : Text) :
    readFields limit (fuel + 3) false p
        ((optionalMembers o).flatMap (fun m => ',' :: memberText m) ++ '}' :: rest)
      = (Fields.finish { p with source := o.source.map some, value := o.value.map nonNull? }).map
          fun o => (o, rest) := by
  cases hgiven : o.source with
  | none =>
    have hsame : { p with source := none, value := o.value.map nonNull? }
        = { p with value := o.value.map nonNull? } := by rw [← hsource]
    have hread := readFields_value ho hvalue (fuel + 1) rest
    simpa [optionalMembers, hgiven, hsame] using hread
  | some s =>
    have hread := readFields_value ho (p := { p with source := some (some s) }) hvalue fuel rest
    rw [optionalMembers, hgiven, Option.map_some, Option.toList_some, List.singleton_append,
      List.flatMap_cons, List.append_assoc, List.cons_append,
      readFields_cons (nextKey_false ("from", .string s) _) (readField_source hsource s _), hread]
    rfl

lemma render_append (o : PatchOperation) (rest : Text) :
    o.render ++ rest = '{' :: (memberText ("op", .string o.kind.name)
      ++ ',' :: (memberText ("path", .string o.path)
        ++ ((optionalMembers o).flatMap (fun m => ',' :: memberText m) ++ '}' :: rest))) := by
  have hmembers : o.members = ("op", .string o.kind.name) :: ("path", .string o.path)
      :: optionalMembers o := by
    simp [PatchOperation.members, optionalMembers]
  rw [PatchOperation.render, hmembers, renderMembers_eq_intercalate, List.map_cons,
    intercalate_cons_eq_flatMap, List.flatMap_map]
  simp

/-- An operation is read back, but for a value null. -/
lemma readOperation_render (ho : HasReadableValue limit o) (rest : Text) :
    readOperation (limit + 1) (o.render ++ rest) = .ok (o.withoutNull, rest) := by
  have hopen (t : Text) : readOperation (limit + 1) ('{' :: t)
      = readFields limit (t.length + 1) true ⟨none, none, none, none⟩ t := rfl
  rw [render_append, hopen]
  generalize hbehind : (optionalMembers o).flatMap (fun m => ',' :: memberText m) ++ '}' :: rest = behind
  -- at most four fields are read, and already the kind is written in more characters
  obtain ⟨fuel, hfuel⟩ : ∃ fuel, (memberText ("op", .string o.kind.name)
      ++ ',' :: (memberText ("path", .string o.path) ++ behind)).length = fuel + 4 := by
    refine ⟨_, (Nat.sub_add_cancel ?_).symm⟩
    simp [memberText, quote]
    omega
  rw [hfuel, readFields_cons (nextKey_true ("op", .string o.kind.name) _) (readField_op rfl o.kind _),
    readFields_cons (nextKey_false ("path", .string o.path) _) (readField_path rfl o.path _),
    ← hbehind, readFields_optionalMembers ho rfl rfl]
  cases hsource : o.source <;> cases hvalue : o.value <;>
    simp [Fields.finish, Except.map, PatchOperation.withoutNull, hsource, hvalue]

end Operation

/-! ### Documents -/

/-- A document is read back operation by operation, but for values null. -/
lemma parse_render {p : Patch} (hp : ∀ o ∈ p, HasReadableValue (depthLimit - 2) o) :
    parse p.render = .ok (p.map PatchOperation.withoutNull) := by
  have hopen (t : Text) : parse ('[' :: t)
      = (readItems (readOperation (depthLimit - 1)) (t.length + 1) true t >>= fun r =>
          readEnd r.2 >>= fun _ => .ok r.1) := rfl
  have hopens : ∀ o ∈ p, Opens o.render := fun o _ => ⟨'{', _, rfl, by decide, by decide⟩
  have hlength := length_le_length_intercalate fun o ho => (hopens o ho).ne_nil
  have hread : ∀ o ∈ p, ∀ rest, IsBoundary rest →
      readOperation (depthLimit - 1) (o.render ++ rest) = .ok (o.withoutNull, rest) :=
    fun o ho rest _ => readOperation_render (hp o ho) rest
  rw [Patch.render, hopen,
    readItems_intercalate hopens hread [] (by rw [List.length_append]; omega)]
  rfl

/-- Leaving null out changes a document unless no value of an operation is null. -/
lemma map_withoutNull_eq_iff {p : Patch} :
    p.map PatchOperation.withoutNull = p ↔ ∀ o ∈ p, o.value ≠ some .null := by
  have hsame (o : PatchOperation) : o.withoutNull = o ↔ o.value ≠ some .null := by
    obtain ⟨kind, path, source, value⟩ := o
    cases value with
    | none => simp [PatchOperation.withoutNull]
    | some v =>
      cases v <;> simp [PatchOperation.withoutNull, nonNull?]
  conv_lhs => rhs; rw [← List.map_id p]
  exact List.map_inj_left.trans (forall₂_congr fun o _ => hsame o)

/-- A document that is taken as a body is valid UTF-8, and reading its text gives its operations back in order
with their kinds, paths, sources and values, but for values null, which are lost. So it is read back as it was
exactly if no operation has the value null. The same operations are sent for a command line that holds the
text. -/
theorem reads_back_iff (contentType : String) (raw : Option RawContent) {p : Patch}
    (hp : ∀ o ∈ p, HasReadableValue (depthLimit - 2) o) :
    ∃ body t, Body.select ⟨some contentType, none, some p, raw⟩ = .ok (some body)
      ∧ Utf8.decode? body.content = some t
      ∧ parse t = .ok (p.map PatchOperation.withoutNull)
      ∧ (parse t = .ok p ↔ ∀ o ∈ p, o.value ≠ some .null)
      ∧ ∀ file given, Command.bodySources file given (.patch (String.ofList t))
          = .ok ⟨some (given.getD patchType), none, some (p.map PatchOperation.withoutNull), none⟩ := by
  have hread := parse_render hp
  refine ⟨_, p.render, rfl, Utf8.decode?_utf8 _, hread, ?_, fun file given => ?_⟩
  · rw [hread, Except.ok.injEq, map_withoutNull_eq_iff]
  · simp [Command.bodySources, hread]

/-- Operations of all kinds, with the least and the greatest integer, a double (1.5), and null inside of
values. -/
theorem reads_back_iff_kinds :
    let p : Patch := [.add "/a~1b" (.array [.null, .object [("k", .null), ("l", .bool true)]]),
      .add "/d" (.number (.float ⟨false, 6755399441055744, -52⟩)),
      .replace "" (.number (.integer 18446744073709551615)),
      .test "/ü\"" (.number (.integer (-9223372036854775808))), .remove "/n",
      .moveFrom "/from" "/to", .copyFrom "" "/x"]
    (∀ o ∈ p, HasReadableValue (depthLimit - 2) o) ∧ (∀ o ∈ p, o.value ≠ some .null)
      ∧ ∃ body t, Body.select ⟨some patchType, none, some p, none⟩ = .ok (some body)
        ∧ Utf8.decode? body.content = some t
        ∧ parse t = .ok (p.map PatchOperation.withoutNull)
        ∧ (parse t = .ok p ↔ ∀ o ∈ p, o.value ≠ some .null)
        ∧ ∀ file given, Command.bodySources file given (.patch (String.ofList t))
            = .ok ⟨some (given.getD patchType), none, some (p.map PatchOperation.withoutNull), none⟩ := by
  intro p
  have hobject : IsExact (.object [("k", .null), ("l", .bool true)]) := by
    refine .object (by decide) ?_
    simp [IsExact.null, IsExact.bool]
  have hadd : IsReadable (depthLimit - 2) (.array [.null, .object [("k", .null), ("l", .bool true)]]) := by
    refine ⟨.array ?_, by decide⟩
    simp [IsExact.null, hobject]
  have hdouble : IsReadable (depthLimit - 2) (.number (.float ⟨false, 6755399441055744, -52⟩)) :=
    ⟨.float ⟨false, "1.5".toList, by decide +kernel, rfl⟩, Nat.zero_le _⟩
  have hgreatest : IsReadable (depthLimit - 2) (.number (.integer 18446744073709551615)) :=
    ⟨.integer (by simp [IsWord]), Nat.zero_le _⟩
  have hleast : IsReadable (depthLimit - 2) (.number (.integer (-9223372036854775808))) :=
    ⟨.integer (by simp [IsWord]), Nat.zero_le _⟩
  have hp : ∀ o ∈ p, HasReadableValue (depthLimit - 2) o := by
    simp [p, HasReadableValue, PatchOperation.add, PatchOperation.replace, PatchOperation.test,
      PatchOperation.remove, PatchOperation.moveFrom, PatchOperation.copyFrom, hadd, hdouble,
      hgreatest, hleast]
  have hvalues : ∀ o ∈ p, o.value ≠ some .null := by
    simp [p, PatchOperation.add, PatchOperation.replace, PatchOperation.test, PatchOperation.remove,
      PatchOperation.moveFrom, PatchOperation.copyFrom]
  exact ⟨hp, hvalues, reads_back_iff patchType none hp⟩

/-- Null as the value that is added is written, but read as a value that is not there, and then no value is
sent. -/
theorem not_reads_back_null :
    let p : Patch := [.add "/a" .null]
    let t := "[\x7b\"op\":\"add\",\"path\":\"/a\",\"value\":null\x7d]"
    (∀ o ∈ p, HasReadableValue (depthLimit - 2) o)
      ∧ Body.select ⟨some patchType, none, some p, none⟩ = .ok (some (Body.ofText t patchType))
      ∧ parse t.toList = .ok [⟨.add, "/a", none, none⟩]
      ∧ parse t.toList ≠ .ok p
      ∧ Patch.render [⟨.add, "/a", none, none⟩] = "[\x7b\"op\":\"add\",\"path\":\"/a\"\x7d]".toList := by
  intro p t
  have hp : ∀ o ∈ p, HasReadableValue (depthLimit - 2) o := by
    intro o ho v hv
    obtain rfl := List.mem_singleton.mp ho
    obtain rfl : Json.null = v := Option.some.inj hv
    exact ⟨.null, Nat.zero_le _⟩
  have htext : t.toList = p.render := by decide
  have hread : parse t.toList = .ok [⟨.add, "/a", none, none⟩] := by
    rw [htext]
    exact parse_render hp
  refine ⟨hp, by rw [Body.ofText, htext]; rfl, hread, ?_, by decide⟩
  rw [hread]
  simp [p, PatchOperation.add]

end Patch

end Courier
