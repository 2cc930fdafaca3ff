import Courier.Proofs.Arguments
import Courier.Proofs.Decoded
import Courier.Proofs.Form
import Courier.Proofs.Layout
import Mathlib

/-!
# Dry runs

A dry run sends nothing: it prints the request that it would send. It succeeds exactly if the library builds a request
from the inputs that the command line stands for, and what it prints is a JSON object of that request, with nothing
lost but the bytes of a body that is no text.
-/

namespace Courier.Command

/-! ### Requests as JSON -/

/-- Whether a value describes a request: it is an object with its method, its URL, all of its headers, and its body,
which is null if there is none, and its text if it has one. -/
def Describes (v : Json) (q : Request) : Prop :=
  ∃ body headers,
    v = .object [("body", body), ("headers", .object headers), ("method", .string q.method.name),
      ("url", .string q.url.toText)]
    ∧ headers.Perm (q.headers.map fun f => (f.1, .string f.2))
    ∧ (q.body = none → body = .null)
    ∧ ∀ b ∈ q.body, ∀ t, b.content = Text.utf8 t → body = .string (String.ofList t)

lemma ofMembers_description (method url headers body : Json) :
    Json.ofMembers [("method", method), ("url", url), ("headers", headers), ("body", body)]
      = .object [("body", body), ("headers", headers), ("method", method), ("url", url)] := by
  simp (disch := decide) only [Json.ofMembers, List.foldl_cons, List.foldl_nil, Json.insert, if_neg, if_pos]

/-- The body in a description: null, or the text with replacements for bytes that are no text. -/
def bodyValue : Option Body → Json
  | some b => .string (String.ofList (Utf8.decode b.content))
  | none => .null

lemma describe_eq {q : Request} {headers : List (String × Json)}
    (h : Json.ofMembers (q.headers.map fun f => (f.1, .string f.2)) = .object headers) :
    describe q = .object [("body", bodyValue q.body), ("headers", .object headers),
      ("method", .string q.method.name), ("url", .string q.url.toText)] := by
  rw [describe, h, ofMembers_description]
  cases hbody : q.body <;> simp [bodyValue]

/-- Strings that are the members of an object in order make an exact value without arrays and objects inside. -/
lemma isExact_object_of_strings {members : List (String × Json)} (hsorted : (members.map Prod.fst).Pairwise (· < ·))
    (h : ∀ m ∈ members, ∃ s, m.2 = .string s) :
    (Json.object members).IsExact ∧ (Json.object members).depth ≤ 1 := by
  constructor
  · refine .object hsorted fun m hm => ?_
    obtain ⟨s, hs⟩ := h m hm
    exact hs ▸ .string s
  · refine Nat.succ_le_succ (Json.membersDepth_le fun m hm => ?_)
    obtain ⟨s, hs⟩ := h m hm
    exact hs ▸ Nat.le_refl 0

/-- Where every header has a name of its own, the description of a request describes it, and is read back from what
is printed of it. -/
lemma describes_describe {q : Request} (h : q.headers.names.Nodup) :
    Describes (describe q) q ∧ (describe q).IsExact ∧ (describe q).depth ≤ Json.depthLimit := by
  have hnames : ((q.headers.map fun f => (f.1, Json.string f.2)).map Prod.fst).Nodup := by
    rw [List.map_map]
    exact h
  obtain ⟨headers, hheaders, hsorted, hperm⟩ := Json.exists_ofMembers_perm hnames
  have hstrings : ∀ m ∈ headers, ∃ s, m.2 = .string s := by
    intro m hm
    obtain ⟨f, -, rfl⟩ := List.mem_map.mp (hperm.mem_iff.mp hm)
    exact ⟨f.2, rfl⟩
  obtain ⟨hexact, hdepth⟩ := isExact_object_of_strings hsorted hstrings
  have hbody : (bodyValue q.body).IsExact ∧ (bodyValue q.body).depth = 0 := by
    cases q.body with
    | none => exact ⟨.null, rfl⟩
    | some b => exact ⟨.string _, rfl⟩
  rw [describe_eq hheaders]
  refine ⟨⟨_, headers, rfl, hperm, fun hnone => by rw [hnone]; rfl, fun b hb t ht => ?_⟩, ?_, ?_⟩
  · rw [Option.mem_def.mp hb, bodyValue, ht, Utf8.decode_utf8]
  · have hkeys : ["body", "headers", "method", "url"].Pairwise (· < ·) := by decide
    refine .object hkeys ?_
    simp [hbody.1, hexact, Json.IsExact.string]
  · simp only [Json.depth, Json.membersDepth, Json.depthLimit, hbody.2] at hdepth ⊢
    omega

/-! ### What is put together -/

section

variable {file : String → Opened} {send : Transport} {i : Invocation} {r : RequestArguments} {q : Request}

/-- Whether the library builds a request from what a command line stands for: the service URL is accepted, the method
in upper case is supported, every item stands for a pair and the source of the body provides one, the path is resolved,
and the request is built of these inputs. -/
def Builds (file : String → Opened) (i : Invocation) (r : RequestArguments) (q : Request) : Prop :=
  ∃ (c : Client) (x : Inputs) (u : Url),
    (Client.connect i.serviceUrl i.token).result = .ok c
    ∧ methodOf r ∈ Method.supported
    ∧ x.IsGivenBy file r
    ∧ Endpoint.resolve c.serviceUrl.toText r.target.path x.pathParams = .ok u
    ∧ (c.prepare (methodOf r) r.target.path x.pathParams x.steps).result = .ok q

/-- The conditions on the method and the path are those of the library. -/
lemma builds_iff :
    Builds file i r q ↔ ∃ c, (Client.connect i.serviceUrl i.token).result = .ok c
      ∧ (assemble file c r).result = .ok q := by
  simp only [Builds, result_assemble_eq_ok_iff]
  constructor
  · rintro ⟨c, x, u, hc, -, hx, -, hq⟩
    exact ⟨c, hc, x, hx, hq⟩
  · rintro ⟨c, hc, x, hx, hq⟩
    obtain ⟨d, hd, -⟩ := Client.result_prepare_eq_ok_iff.mp hq
    obtain ⟨u, hu, hsupported, -⟩ := Client.result_request_eq_ok_iff.mp hd
    exact ⟨c, x, u, hc, hsupported, hx, hu, hq⟩

lemma result_plan_request_eq_ok_iff (hr : i.action = .request r) (hdry : r.dryRun = true) {p : Plan} :
    (plan file i).result = .ok p ↔ ∃ q, Builds file i r q ∧ .print (describe q) = p := by
  simp only [plan, hr, hdry, builds_iff, Traced.result_bind, bind_eq_ok_iff, result_inContext_eq_ok_iff,
    result_lift_eq_ok_iff, if_true, Traced.result_pure, Except.ok.injEq]
  constructor
  · rintro ⟨c, hc, q, hq, rfl⟩
    exact ⟨q, ⟨c, hc, hq⟩, rfl⟩
  · rintro ⟨q, ⟨c, hc, hq⟩, rfl⟩
    exact ⟨c, hc, q, hq, rfl⟩

/-- A plan to print is carried out, and nothing is sent. -/
lemma run_of_plan_print {v : Json} (h : (plan file i).result = .ok (.print v)) :
    (i.run file send).exit = 0 ∧ (i.run file send).output = printed i.compact v
      ∧ (i.run file send).sent = none := by
  have hdone : ((plan file i).bind (perform send)).result = .ok v := by
    change (plan file i >>= perform send).result = _
    rw [Traced.result_bind, h]
    rfl
  simp [Invocation.run, hdone, h, Plan.sent?]

/-- Without a plan nothing is printed or sent. -/
lemma run_of_plan_error {e : Report} (h : (plan file i).result = .error e) :
    (i.run file send).exit = 1 ∧ (i.run file send).output = "" ∧ (i.run file send).sent = none := by
  have hdone : ((plan file i).bind (perform send)).result = .error e := by
    change (plan file i >>= perform send).result = _
    rw [Traced.result_bind, h]
    rfl
  simp [Invocation.run, hdone, h]

/-- What is prepared from inputs: every header has a name of its own, and the URL is the one that a request of any
method has for the same path and query. -/
lemma exists_draft_of_prepare {c : Client} {method : Method} {template : String}
    {parameters : List (String × String)} {x : Inputs}
    (h : (c.prepare method template parameters x.steps).result = .ok q) :
    q.headers.names.Nodup ∧ ∃ d, (c.request .get template parameters).result = .ok d
      ∧ (d.addQueries (entriesOf (asValues x.queries))).fullUrl = q.url := by
  obtain ⟨d, hd, d', hsteps, hbuild⟩ := Client.result_prepare_eq_ok_iff.mp h
  obtain ⟨u, hu, -, rfl⟩ := Client.result_request_eq_ok_iff.mp hd
  obtain rfl := Draft.eq_after_of_applyAll hsteps
  rw [← Draft.after_append] at hbuild
  obtain ⟨-, -, rfl⟩ := Draft.eq_of_build_eq_ok hbuild
  refine ⟨Draft.nodup_names_sentHeaders, _,
    Client.result_request_eq_ok_iff.mpr ⟨u, hu, by decide, rfl⟩, ?_⟩
  have hqueries : x.steps.flatMap Step.queryEntries = entriesOf (asValues x.queries) := by
    cases hbody : x.body <;> simp [Inputs.steps, Step.queryEntries, hbody]
  simp [Draft.fullUrl, Draft.after, Draft.addQueries, Draft.start, hqueries]

lemma result_plan_resolve (h : Builds file i r q) :
    (plan file { i with action := .resolve r.target }).result = .ok (.print (.string q.url.toText)) := by
  obtain ⟨c, x, u, hc, -, hx, -, hq⟩ := h
  obtain ⟨-, d, hd, hurl⟩ := exists_draft_of_prepare hq
  have hstart := result_startRequest_eq_ok_iff.mpr ⟨_, _, d, hx.pathParams, hx.queries, hd, rfl⟩
  simp only [plan, Traced.result_bind, bind_eq_ok_iff, result_inContext_eq_ok_iff, result_lift_eq_ok_iff,
    Traced.result_pure]
  exact ⟨c, hc, _, hstart, by rw [hurl]⟩

lemma run_of_builds (hr : i.action = .request r) (hdry : r.dryRun = true) (hq : Builds file i r q) :
    (i.run file send).exit = 0 ∧ (i.run file send).sent = none
      ∧ ∃ v, Json.parse (i.run file send).output.toList = .ok v ∧ Describes v q := by
  have hplan := (result_plan_request_eq_ok_iff hr hdry).mpr ⟨q, hq, rfl⟩
  obtain ⟨hexit, houtput, hsent⟩ : _ ∧ (i.run file send).output = _ ∧ _ := run_of_plan_print hplan
  obtain ⟨c, x, u, -, -, -, -, hprepare⟩ := hq
  obtain ⟨hdescribes, hexact, hdepth⟩ := describes_describe (exists_draft_of_prepare hprepare).1
  refine ⟨hexit, hsent, describe q, ?_, hdescribes⟩
  rw [houtput]
  exact Json.parse_printed hexact hdepth i.compact

lemma run_of_not_builds (hr : i.action = .request r) (hdry : r.dryRun = true)
    (h : ¬ ∃ q, Builds file i r q) :
    (i.run file send).exit = 1 ∧ (i.run file send).output = "" ∧ (i.run file send).sent = none := by
  cases hplan : (plan file i).result with
  | error e => exact run_of_plan_error hplan
  | ok p =>
    obtain ⟨q, hq, -⟩ := (result_plan_request_eq_ok_iff hr hdry).mp hplan
    exact absurd ⟨q, hq⟩ h

/-- The command that resolves the target of a request prints the URL that is built. -/
lemma run_resolve_of_builds (hq : Builds file i r q) :
    ({ i with action := .resolve r.target }.run file send).exit = 0
      ∧ Json.parse ({ i with action := .resolve r.target }.run file send).output.toList
          = .ok (.string q.url.toText) := by
  obtain ⟨hexit, houtput, -⟩ : _ ∧ ({ i with action := .resolve r.target }.run file send).output = _ ∧ _ :=
    run_of_plan_print (result_plan_resolve hq)
  rw [houtput]
  exact ⟨hexit, Json.parse_printed (.string _) (Nat.zero_le _) i.compact⟩

/-- A dry run refines the library. It succeeds exactly if the library builds a request from the inputs that the command
line stands for; otherwise nothing is printed, and in no case is anything sent. What is printed is JSON, on one line or
over several ones, and describes that request. The command that only resolves the same target then prints the URL of
that request. -/
theorem dry_run_describes_what_is_built (file : String → Opened) (send : Transport) {i : Invocation}
    {r : RequestArguments} (hr : i.action = .request r) (hdry : r.dryRun = true) :
    ((i.run file send).exit = 0 ↔ ∃ q, Builds file i r q)
      ∧ ((i.run file send).exit ≠ 0 → (i.run file send).output = "")
      ∧ (i.run file send).sent = none
      ∧ ∀ q, Builds file i r q →
        (∃ v, Json.parse (i.run file send).output.toList = .ok v ∧ Describes v q)
        ∧ ({ i with action := .resolve r.target }.run file send).exit = 0
        ∧ Json.parse ({ i with action := .resolve r.target }.run file send).output.toList
            = .ok (.string q.url.toText) := by
  have hprinted (q : Request) (hq : Builds file i r q) :
      (∃ v, Json.parse (i.run file send).output.toList = .ok v ∧ Describes v q)
        ∧ ({ i with action := .resolve r.target }.run file send).exit = 0
        ∧ Json.parse ({ i with action := .resolve r.target }.run file send).output.toList
            = .ok (.string q.url.toText) :=
    ⟨(run_of_builds hr hdry hq).2.2, run_resolve_of_builds hq⟩
  by_cases hbuilds : ∃ q, Builds file i r q
  · obtain ⟨q, hq⟩ := hbuilds
    obtain ⟨hexit, hsent, -⟩ : (i.run file send).exit = 0 ∧ _ ∧ _ := run_of_builds hr hdry hq
    exact ⟨⟨fun _ => ⟨q, hq⟩, fun _ => hexit⟩, fun hne => absurd hexit hne, hsent, hprinted⟩
  · obtain ⟨hexit, houtput, hsent⟩ : (i.run file send).exit = 1 ∧ _ ∧ _ := run_of_not_builds hr hdry hbuilds
    refine ⟨?_, fun _ => houtput, hsent, hprinted⟩
    simp [hexit, hbuilds]

end

/-- Items with more than one equals sign and with nothing behind it, a method in other letters, and a JSON body; and the
same command line with an item without a key. -/
theorem dry_run_describes_what_is_built_signs :
    let r : RequestArguments := ⟨"pOst", ⟨"/items/\x7bid\x7d", ["id=a=b"], ["q=1=2", "e="]⟩, ["X-A", "1"], [],
      some (.json "[1, null]"), none, true⟩
    let i : Invocation := ⟨"https://h/v1", some "t", false, .request r⟩
    let keyless : RequestArguments := { r with forms := ["=v"] }
    let file (_ : String) : Opened := (none : Option Bytes)
    let send (_ : Request) : Option Reply := none
    let u : Url := ⟨"https", some ⟨[], [], .domain "h".toList, none⟩, false,
      .segments ["v1".toList, "items".toList, "a=b".toList], some "q=1%3D2&e=".toList, none⟩
    let q : Request := ⟨.post, u, [("accept", "application/json"), ("authorization", "Bearer t"), ("x-a", "1"),
      ("content-type", "application/json")], some (Body.ofText "[1,null]" jsonType)⟩
    i.action = .request r ∧ r.dryRun = true ∧ Builds file i r q
      ∧ (i.run file send).exit = 0
      ∧ (∃ v, Json.parse (i.run file send).output.toList = .ok v ∧ Describes v q)
      ∧ Json.parse ({ i with action := .resolve r.target }.run file send).output.toList
          = .ok (.string "https://h/v1/items/a=b?q=1%3D2&e=")
      ∧ ({ i with action := .request keyless }.run file send).output = "" := by
  intro r i keyless file send u q
  let c : Client := ⟨{ u with path := .segments ["v1".toList], query := none }, some "t"⟩
  let x : Inputs := ⟨[("id", "a=b")], [("q", "1=2"), ("e", "")], [("X-A", "1")], [],
    some (Body.ofJson (.array [.number (.integer 1), .null]) jsonType)⟩
  have hconnect : (Client.connect i.serviceUrl i.token).result = .ok c := by
    have hservice : Endpoint.resolve i.serviceUrl "" [] = .ok c.serviceUrl := eq_ok_of_toOption (by decide +kernel)
    rw [Client.connect, Traced.result_bind, Endpoint.result_resolveTraced, hservice]
    rfl
  have hgiven : x.IsGivenBy file r := {
    pathParams := List.Forall₂.cons ⟨rfl, by decide, by decide⟩ List.Forall₂.nil
    queries := List.Forall₂.cons ⟨rfl, by decide, by decide⟩
      (List.Forall₂.cons ⟨rfl, by decide, by decide⟩ List.Forall₂.nil)
    headers := rfl
    forms := List.Forall₂.nil
    body := Provides.json (eq_ok_of_toOption (by decide +kernel)) }
  have hpath : Endpoint.resolve c.serviceUrl.toText r.target.path x.pathParams = .ok { u with query := none } :=
    eq_ok_of_toOption (by decide +kernel)
  have hprepare : (c.prepare (methodOf r) r.target.path x.pathParams x.steps).result = .ok q :=
    eq_ok_of_toOption (by decide +kernel)
  have hbuilds : Builds file i r q := ⟨c, x, _, hconnect, by decide, hgiven, hpath, hprepare⟩
  have hr : i.action = .request r := rfl
  have hdry : r.dryRun = true := rfl
  obtain ⟨-, -, -, hprinted⟩ := dry_run_describes_what_is_built file send hr hdry
  obtain ⟨hdescribed, -, hresolved⟩ := hprinted q hbuilds
  have hurl : q.url.toText = "https://h/v1/items/a=b?q=1%3D2&e=" := by decide +kernel
  rw [hurl] at hresolved
  obtain ⟨hiff, -⟩ := dry_run_describes_what_is_built file send hr hdry
  obtain ⟨-, hfailed, -⟩ :=
    dry_run_describes_what_is_built file send (i := { i with action := .request keyless }) rfl hdry
  exact ⟨hr, hdry, hbuilds, hiff.mpr ⟨q, hbuilds⟩, hdescribed, hresolved, hfailed (by decide +kernel)⟩

end Courier.Command
