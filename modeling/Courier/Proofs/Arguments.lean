import Courier.Command.Run
import Courier.Proofs.Client
import Mathlib

/-!
# What the texts of a command line stand for

A request is described on the command line by texts: items with a key and a value, names and values of headers in
turn, and a text or a file for the body. `Inputs` are the pairs and the body that they stand for, and that a caller
of the library gives at once.
-/

namespace Courier

/-! ### Pairs -/

namespace Pairs

/-- A text is split at its first equals sign: the key holds none, and the value may hold more of them. -/
lemma split?_eq_some_iff {s key value : String} :
    split? s = some (key, value) ↔ s = key ++ "=" ++ value ∧ '=' ∉ key.toList := by
  have hsign : ("=" : String).toList = ['='] := rfl
  rw [← String.toList_inj, String.toList_append, String.toList_append, hsign, List.append_assoc,
    List.singleton_append]
  constructor
  · intro h
    simp only [split?] at h
    split_ifs at h with hmem
    obtain ⟨rfl, rfl⟩ := Prod.mk.inj (Option.some.inj h)
    rw [String.toList_ofList, String.toList_ofList]
    refine ⟨?_, fun hkey => by simpa using List.mem_takeWhile_imp hkey⟩
    have happend := List.takeWhile_append_dropWhile (p := (· ≠ '=')) (l := s.toList)
    have hhead := List.head?_dropWhile_not (· ≠ '=') s.toList
    cases hbehind : s.toList.dropWhile (· ≠ '=') with
    | nil =>
      rw [List.dropWhile_eq_nil_iff] at hbehind
      exact absurd rfl (of_decide_eq_true (hbehind '=' (by simpa using hmem)))
    | cons c r =>
      rw [hbehind] at happend hhead
      obtain rfl : c = '=' := by simpa using hhead
      exact happend.symm
  · rintro ⟨hs, hkey⟩
    have hne : ∀ c ∈ key.toList, decide (c ≠ '=') = true := by
      intro c hc
      exact decide_eq_true (ne_of_mem_of_not_mem hc hkey)
    have htake : s.toList.takeWhile (· ≠ '=') = key.toList := by
      rw [hs, List.takeWhile_append_of_pos hne, List.takeWhile_cons_of_neg (by simp), List.append_nil]
    have hdrop : s.toList.dropWhile (· ≠ '=') = '=' :: value.toList := by
      rw [hs, List.dropWhile_append_of_pos hne, List.dropWhile_cons_of_neg (by simp)]
    have hmem : s.toList.contains '=' = true := by simp [hs]
    simp only [split?]
    rw [if_pos hmem, htake, hdrop, List.drop_one, List.tail_cons, String.ofList_toList, String.ofList_toList]

/-- A flat list is split into pairs exactly if it consists of them. -/
lemma ofFlat_eq_ok_iff {texts : List String} {pairs : List (String × String)} :
    ofFlat texts = .ok pairs ↔ texts = pairs.flatMap fun p => [p.1, p.2] := by
  fun_induction ofFlat texts generalizing pairs with
  | case1 => cases pairs <;> simp
  | case2 text => cases pairs <;> simp
  | case3 name value rest ih =>
    rw [bind_eq_ok_iff]
    constructor
    · rintro ⟨behind, hbehind, h⟩
      obtain rfl := Except.ok.inj h
      rw [List.flatMap_cons, ← ih.mp hbehind]
      rfl
    · intro h
      cases pairs with
      | nil => cases h
      | cons p behind =>
        obtain ⟨rfl, rfl, hrest⟩ : name = p.1 ∧ value = p.2 ∧ rest = behind.flatMap fun p => [p.1, p.2] := by
          simpa using h
        exact ⟨behind, ih.mpr hrest, rfl⟩

end Pairs

namespace Command

/-! ### Items -/

/-- Whether an item stands for a pair: it is a key that is not empty, the first equals sign, and a value, in which
more of them may follow. -/
def IsItem (item : String) (pair : String × String) : Prop :=
  item = pair.1 ++ "=" ++ pair.2 ∧ '=' ∉ pair.1.toList ∧ pair.1 ≠ ""

lemma parsePair_eq_ok_iff {flag item : String} {pair : String × String} :
    parsePair flag item = .ok pair ↔ IsItem item pair := by
  obtain ⟨key, value⟩ := pair
  have hsplit : IsItem item (key, value) ↔ Pairs.split? item = some (key, value) ∧ key ≠ "" := by
    rw [Pairs.split?_eq_some_iff, IsItem, and_assoc]
  rw [hsplit, parsePair]
  cases Pairs.split? item with
  | none => simp
  | some found =>
    obtain ⟨key', value'⟩ := found
    dsimp only
    rw [Option.some.injEq]
    split_ifs with hempty
    · obtain rfl := String.isEmpty_iff.mp hempty
      constructor
      · intro h
        cases h
      · rintro ⟨h, hkey⟩
        exact absurd (Prod.mk.inj h).1.symm hkey
    · rw [Except.ok.injEq, iff_self_and]
      intro h hkey
      exact hempty (String.isEmpty_iff.mpr ((Prod.mk.inj h).1.trans hkey))

/-- Items are accepted exactly if each of them stands for a pair; the pairs keep their order. -/
lemma result_parsePairs_eq_ok_iff {flag : String} {items : List String} {pairs : List (String × String)} :
    (parsePairs flag items).result = .ok pairs ↔ List.Forall₂ IsItem items pairs := by
  simp only [parsePairs, Traced.result_ofExcept, mapM_eq_ok_iff_forall₂, parsePair_eq_ok_iff]

/-! ### Bodies -/

/-- The body that a source provides: a JSON value or a patch document as it is written, or what a file that can be
opened delivers up to its end. The media type is the one given, or else that of the source. -/
inductive Provides (file : String → Opened) (contentType : Option String) :
    Option BodySource → Option Body → Prop
  | none : Provides file contentType none none
  | json {text : String} {value : Json} (h : Json.parse text.toList = .ok value) :
      Provides file contentType (some (.json text)) (some (Body.ofJson value (contentType.getD jsonType)))
  | patch {text : String} {p : Patch} (h : Patch.parse text.toList = .ok p) :
      Provides file contentType (some (.patch text))
        (some ⟨some (contentType.getD patchType), Text.utf8 p.render⟩)
  | file {name : String} {steps : List StreamStep} {bytes : Bytes} (hopened : file name = .stream steps)
      (hbytes : Delivers steps bytes) :
      Provides file contentType (some (.file name)) (some ⟨some (contentType.getD bytesType), bytes⟩)

section Body

variable {file : String → Opened} {contentType : Option String} {source : BodySource}

lemma select_stream_eq_ok_iff {contentType : String} {steps : List StreamStep} {b : Option Body} :
    Body.select ⟨some contentType, none, none, some (.stream steps)⟩ = .ok b
      ↔ ∃ bytes, Delivers steps bytes ∧ b = some ⟨some contentType, bytes⟩ := by
  rw [Body.select_of_present rfl rfl, map_eq_ok_iff]
  simp only [Source.content, RawContent.read, readStream_eq_ok_iff, eq_comm]

/-- A body is selected from the source that a command line names exactly if the source provides it. -/
lemma exists_bodySources_iff {b : Option Body} :
    (∃ sources, bodySources file contentType source = .ok sources ∧ Body.select sources = .ok b)
      ↔ Provides file contentType (some source) b := by
  constructor
  · rintro ⟨sources, hsources, hselect⟩
    cases source with
    | json text =>
      rw [bodySources] at hsources
      split at hsources
      · next value hparse =>
        obtain rfl := Except.ok.inj hsources
        exact Except.ok.inj hselect ▸ .json hparse
      · cases hsources
    | patch text =>
      rw [bodySources] at hsources
      split at hsources
      · next p hparse =>
        obtain rfl := Except.ok.inj hsources
        exact Except.ok.inj hselect ▸ .patch hparse
      · cases hsources
    | file name =>
      rw [bodySources] at hsources
      split at hsources
      · next steps hopened =>
        obtain rfl := Except.ok.inj hsources
        obtain ⟨bytes, hbytes, rfl⟩ := select_stream_eq_ok_iff.mp hselect
        exact .file hopened hbytes
      · cases hsources
  · intro h
    cases h with
    | json hparse => exact ⟨_, by rw [bodySources, hparse], rfl⟩
    | patch hparse => exact ⟨_, by rw [bodySources, hparse], rfl⟩
    | file hopened hbytes =>
      exact ⟨_, by rw [bodySources, hopened], select_stream_eq_ok_iff.mpr ⟨_, hbytes, rfl⟩⟩

end Body

/-! ### Inputs -/

/-- What a caller of the library gives for a request, besides the method and the path. -/
structure Inputs where
  pathParams : List (String × String)
  queries : List (String × String)
  headers : List (String × String)
  forms : List (String × String)
  body : Option Body

/-- The steps by which a caller gives them. -/
def Inputs.steps (x : Inputs) : List Step :=
  [.queries (asValues x.queries), .headers (asValues x.headers), .forms (asValues x.forms)]
    ++ (x.body.map Step.body).toList

/-- The inputs that the texts of a command line stand for, with the pairs in the order of the texts. -/
structure Inputs.IsGivenBy (x : Inputs) (file : String → Opened) (r : RequestArguments) : Prop where
  pathParams : List.Forall₂ IsItem r.target.pathParams x.pathParams
  queries : List.Forall₂ IsItem r.target.queries x.queries
  headers : r.headers = x.headers.flatMap fun h => [h.1, h.2]
  forms : List.Forall₂ IsItem r.forms x.forms
  body : Provides file r.contentType r.body x.body

/-- The method that a command line names, in upper case. -/
def methodOf (r : RequestArguments) : Method := ⟨String.ofList (r.method.toList.map Char.toUpper)⟩

@[simp] lemma result_lift_eq_ok_iff {α : Type} {x : Traced Error α} {a : α} :
    (lift x).result = .ok a ↔ x.result = .ok a :=
  mapError_eq_ok_iff

@[simp] lemma result_inContext_eq_ok_iff {α : Type} {context : String} {x : Reported α} {a : α} :
    (inContext context x).result = .ok a ↔ x.result = .ok a :=
  mapError_eq_ok_iff

lemma isToken_of_mem_supported {m : Method} (h : m ∈ Method.supported) : isToken m.name = true := by
  have hall : ∀ m ∈ Method.supported, isToken m.name = true := by decide
  exact hall m h

section Assemble

variable {file : String → Opened} {c : Client} {r : RequestArguments} {q : Request}

/-- Sets the body that a source provides, if there is one. -/
def withBody (file : String → Opened) (contentType : Option String) (source : Option BodySource)
    (d : Draft) : Reported Draft :=
  match source with
  | none => pure d
  | some source => do
    let sources ← Traced.ofExcept (bodySources file contentType source)
    lift (d.applyTraced (.content sources))

lemma applyAll_body (d : Draft) (b : Option Body) :
    d.applyAll (b.map Step.body).toList = .ok (b.elim d d.setBody) := by
  cases b <;> rfl

lemma result_withBody_eq_ok_iff {contentType : Option String} {source : Option BodySource} {d d' : Draft} :
    (withBody file contentType source d).result = .ok d' ↔
      ∃ b, Provides file contentType source b ∧ d.applyAll (b.map Step.body).toList = .ok d' := by
  simp only [applyAll_body, Except.ok.injEq]
  cases source with
  | none =>
    constructor
    · intro h
      exact ⟨none, .none, Except.ok.inj h⟩
    · rintro ⟨b, hb, rfl⟩
      cases hb
      rfl
  | some source =>
    simp only [withBody, Traced.result_bind, bind_eq_ok_iff, Traced.result_ofExcept, result_lift_eq_ok_iff,
      Draft.result_applyTraced, Draft.apply_content, map_eq_ok_iff, ← exists_bodySources_iff]
    constructor
    · rintro ⟨sources, hsources, b, hselect, rfl⟩
      exact ⟨b, ⟨sources, hsources, hselect⟩, rfl⟩
    · rintro ⟨b, ⟨sources, hsources, hselect⟩, rfl⟩
      exact ⟨sources, hsources, b, hselect, rfl⟩

lemma assemble_of_isToken (h : isToken (methodOf r).name = true) :
    assemble file c r = (do
      let headers ← inContext "failed to parse --header arguments" (lift (Traced.ofExcept (Pairs.ofFlat r.headers)))
      let forms ← parsePairs "--form" r.forms
      let d ← startRequest c (methodOf r) r.target
      let d ← lift (d.applyAllTraced [.headers (asValues headers), .forms (asValues forms)])
      let d ← withBody file r.contentType r.body d
      lift d.buildTraced) := by
  have hmethod : Method.ofString? (String.ofList (r.method.toList.map Char.toUpper)) = some (methodOf r) := by
    rw [Method.ofString?]
    exact if_pos h
  rw [assemble, hmethod]
  dsimp only
  rw [pure_bind]
  cases hbody : r.body <;> simp [withBody]

lemma result_startRequest_eq_ok_iff {method : Method} {t : Target} {d : Draft} :
    (startRequest c method t).result = .ok d ↔
      ∃ pathParams queries d₀, List.Forall₂ IsItem t.pathParams pathParams
        ∧ List.Forall₂ IsItem t.queries queries
        ∧ (c.request method t.path pathParams).result = .ok d₀
        ∧ d₀.addQueries (entriesOf (asValues queries)) = d := by
  simp only [startRequest, Traced.result_bind, bind_eq_ok_iff, result_parsePairs_eq_ok_iff,
    result_inContext_eq_ok_iff, result_lift_eq_ok_iff, Draft.result_applyTraced, Draft.apply, Except.ok.injEq,
    exists_and_left]

lemma applyAll_steps (x : Inputs) (d : Draft) :
    d.applyAll x.steps = (d.addQueries (entriesOf (asValues x.queries))).applyAll
        [.headers (asValues x.headers), .forms (asValues x.forms)]
      >>= fun d' => d'.applyAll (x.body.map Step.body).toList := rfl

/-- With a method that is a token, all other checks are those of the texts and of the library. -/
lemma result_assemble_of_isToken (h : isToken (methodOf r).name = true) :
    (assemble file c r).result = .ok q ↔
      ∃ x : Inputs, x.IsGivenBy file r
        ∧ (c.prepare (methodOf r) r.target.path x.pathParams x.steps).result = .ok q := by
  rw [assemble_of_isToken h]
  simp only [Traced.result_bind, bind_eq_ok_iff, result_parsePairs_eq_ok_iff, result_inContext_eq_ok_iff,
    result_lift_eq_ok_iff, Traced.result_ofExcept, Pairs.ofFlat_eq_ok_iff, result_startRequest_eq_ok_iff,
    Draft.result_applyAllTraced, result_withBody_eq_ok_iff, Draft.result_buildTraced,
    Client.result_prepare_eq_ok_iff, applyAll_steps]
  constructor
  · rintro ⟨headers, hheaders, forms, hforms, d₁, ⟨pathParams, queries, d₀, hpath, hqueries, hd₀, rfl⟩,
      d₂, hd₂, d₃, ⟨b, hb, hd₃⟩, hbuild⟩
    exact ⟨⟨pathParams, queries, headers, forms, b⟩, ⟨hpath, hqueries, hheaders, hforms, hb⟩, d₀, hd₀,
      d₃, ⟨d₂, hd₂, hd₃⟩, hbuild⟩
  · rintro ⟨x, hx, d₀, hd₀, d₃, ⟨d₂, hd₂, hd₃⟩, hbuild⟩
    exact ⟨x.headers, hx.headers, x.forms, hx.forms, _,
      ⟨x.pathParams, x.queries, d₀, hx.pathParams, hx.queries, hd₀, rfl⟩,
      d₂, hd₂, d₃, ⟨x.body, hx.body, hd₃⟩, hbuild⟩

/-- What is assembled is what the library prepares from the inputs that the texts stand for. -/
lemma result_assemble_eq_ok_iff :
    (assemble file c r).result = .ok q ↔
      ∃ x : Inputs, x.IsGivenBy file r
        ∧ (c.prepare (methodOf r) r.target.path x.pathParams x.steps).result = .ok q := by
  by_cases htoken : isToken (methodOf r).name = true
  · exact result_assemble_of_isToken htoken
  · -- a method that is no token is refused at once here, and as one that is not supported there
    have hmethod : Method.ofString? (String.ofList (r.method.toList.map Char.toUpper)) = none := by
      rw [Method.ofString?]
      exact if_neg htoken
    constructor
    · intro h
      rw [assemble, hmethod] at h
      cases h
    · rintro ⟨x, -, h⟩
      obtain ⟨d, hd, -⟩ := Client.result_prepare_eq_ok_iff.mp h
      obtain ⟨u, -, hsupported, -⟩ := Client.result_request_eq_ok_iff.mp hd
      exact absurd (isToken_of_mem_supported hsupported) htoken

end Assemble

end Command

end Courier
