import Courier.Client
import Courier.Proofs.Building
import Courier.Proofs.Stepwise
import Courier.Proofs.Trace
import Mathlib

/-!
# Requests of a client

A client keeps its service URL as it was read, and writes it out again for each of its requests. What it prepares
is nevertheless what resolving the same template under the original text leads to, with the token as the first
header entry. So every request of a client with a token has one `authorization` header: the last one that the
steps give, or else the token.
-/

namespace Courier

/-- Where every name occurs once, its only field holds its value. -/
lemma Headers.filter_name_eq {n v : String} {hs : Headers} (h : hs.names.Nodup)
    (hget : Headers.get? n hs = some v) : hs.filter (·.1 = n) = [(n, v)] := by
  induction hs with
  | nil => simp [Headers.get?] at hget
  | cons f hs ih =>
    obtain ⟨hmem, hnodup⟩ := List.nodup_cons.mp h
    rw [Headers.get?_cons] at hget
    split_ifs at hget with hn
    · subst hn
      have hrest : hs.filter (·.1 = f.1) = [] := by
        rw [List.filter_eq_nil_iff]
        intro g hg hname
        exact hmem (List.mem_map.mpr ⟨g, hg, by simpa using hname⟩)
      rw [List.filter_cons_of_pos (by simp), hrest, ← Option.some.inj hget]
    · rw [List.filter_cons_of_neg (by simpa using Ne.symm hn), ih hnodup hget]

lemma Entry.last?_cons (n : String) (e : Entry) (entries : List Entry) :
    last? n (e :: entries) = (last? n entries).or (if lowerCase e.name = n then some e else none) := by
  by_cases he : lowerCase e.name = n
  · cases hrest : (entries.filter (lowerCase ·.name = n)).getLast? <;>
      simp [last?, he, List.getLast?_cons, hrest]
  · simp [last?, he]

namespace Client

open Endpoint Draft

/-! ### With and without a client -/

/-- Prepares a request by steps behind the start that a client makes. -/
def prepare (c : Client) (method : Method) (template : String) (parameters : List (String × String))
    (steps : List Step) : Traced Error Request := do
  let d ← c.request method template parameters
  let d ← d.applyAllTraced steps
  d.buildTraced

/-- Prepares a request without a client: the template is resolved under the text of a service URL, before the
method is looked at. -/
def prepareUnder (service : String) (method : Method) (template : String)
    (parameters : List (String × String)) (steps : List Step) : Traced Error Request := do
  let u ← resolveTraced service template parameters
  let d ← Traced.ofExcept (Draft.ofMethod method u)
  let d ← d.applyAllTraced steps
  d.buildTraced

def tokenSteps (token : Option String) : List Step := (token.map authorization).toList

section Connect

variable {service : String} {token : Option String} {c : Client}

/-- A client holds the service URL as it was read, and its token. -/
lemma eq_of_connect (hc : (connect service token).result = .ok c) :
    readService service = .ok c.serviceUrl ∧ c.token = token := by
  rw [connect, Traced.result_bind, bind_eq_ok_iff] at hc
  obtain ⟨r, hr, hc⟩ := hc
  rw [result_resolveTraced] at hr
  obtain ⟨u, filled, hu, hfill, rfl⟩ := resolve_eq_ok hr
  obtain rfl : [] = filled := by simpa [fill] using hfill
  obtain rfl := Except.ok.inj hc
  exact ⟨hu, rfl⟩

/-- The text of a URL that is read back serves as well as the text that it was read from. -/
lemma resolveTraced_toText {u : Url} (hu : readService service = .ok u)
    (hread : Url.parse? u.toText = some u) (template : String) (parameters : List (String × String)) :
    resolveTraced u.toText template parameters = resolveTraced service template parameters := by
  have hsegments := (readService_eq_ok_iff.mp hu).2
  have hresolve : resolve u.toText template parameters = resolve service template parameters := by
    rw [resolve, resolve, readService_eq_ok_iff.mpr ⟨hread, hsegments⟩, hu]
  rw [resolveTraced, resolveTraced, hresolve]

lemma prepare_eq (hc : (connect service token).result = .ok c)
    (hread : Url.parse? c.serviceUrl.toText = some c.serviceUrl) (method : Method) (template : String)
    (parameters : List (String × String)) (steps : List Step) :
    c.prepare method template parameters steps
      = prepareUnder service method template parameters (tokenSteps token ++ steps) := by
  obtain ⟨hu, rfl⟩ := eq_of_connect hc
  rw [prepare, request, resolveTraced_toText hu hread, prepareUnder]
  cases htoken : c.token with
  | none => simp [tokenSteps]
  | some t => simp [tokenSteps, applyAllTraced]

end Connect

/-! ### The token -/

section Token

variable {method : Method} {u : Url} {steps : List Step} {t : String}

lemma headerEntries_tokenSteps (t : String) (steps : List Step) :
    (tokenSteps (some t) ++ steps).flatMap Step.headerEntries
      = ⟨"Authorization", some ("Bearer " ++ t)⟩ :: steps.flatMap Step.headerEntries := rfl

/-- The last explicit value counts, or else the token. -/
lemma filter_authorization {r : Request}
    (hbuild : ((start method u).after (tokenSteps (some t) ++ steps)).build = .ok r) :
    ∃ v, r.headers.filter (·.1 = "authorization") = [("authorization", v)]
      ∧ (∀ e, Entry.last? "authorization" (steps.flatMap Step.headerEntries) = some e → e.value = some v)
      ∧ (Entry.last? "authorization" (steps.flatMap Step.headerEntries) = none → v = "Bearer " ++ t) := by
  obtain ⟨hbody, hheaders, rfl⟩ := eq_of_build_eq_ok hbuild
  have hentries := (sound_of_not_giveFaultyHeader hbody hheaders).1
  have hname : lowerCase "Authorization" = "authorization" := by decide
  have hget : (sentHeaders method (tokenSteps (some t) ++ steps)).get? "authorization" = _ :=
    get?_sentHeaders "authorization"
  rw [headerEntries_tokenSteps, Entry.last?_cons, if_pos hname] at hget
  cases hlast : Entry.last? "authorization" (steps.flatMap Step.headerEntries) with
  | none =>
    refine ⟨"Bearer " ++ t, Headers.filter_name_eq nodup_names_sentHeaders ?_, by simp, fun _ => rfl⟩
    simpa [hlast] using hget
  | some e =>
    have he : e ∈ (tokenSteps (some t) ++ steps).flatMap Step.headerEntries := by
      rw [headerEntries_tokenSteps]
      exact List.mem_cons_of_mem _ (Entry.mem_of_last?_eq_some hlast)
    obtain ⟨v, hv, -⟩ := Entry.exists_value_of_not_isFaulty (hentries e he)
    refine ⟨v, Headers.filter_name_eq nodup_names_sentHeaders ?_, by simp [hv], by simp⟩
    simpa [hlast, hv] using hget

/-- A token that holds a forbidden byte is refused, whatever the steps give. -/
lemma exists_build_eq_error (ht : ∃ b ∈ Text.utf8 t.toList, isForbiddenByte b) :
    ∃ e, ((start method u).after (tokenSteps (some t) ++ steps)).build = .error e := by
  obtain ⟨b, hb, hforbidden⟩ := ht
  have hmem : b ∈ Text.utf8 ("Bearer " ++ t).toList := by
    rw [String.toList_append, Text.utf8_append]
    exact List.mem_append_right _ hb
  have hfaulty : Entry.IsFaulty ⟨"Authorization", some ("Bearer " ++ t)⟩ :=
    Or.inr (Or.inr (Or.inr ⟨_, rfl, b, hmem, hforbidden⟩))
  have hgive : Step.GiveFaultyHeader (tokenSteps (some t) ++ steps) := by
    refine Or.inl ⟨_, ?_, hfaulty⟩
    rw [headerEntries_tokenSteps]
    exact List.mem_cons_self
  by_cases hbody : Step.SetBodyInVain method (tokenSteps (some t) ++ steps)
  · exact ⟨_, build_of_setBodyInVain hbody⟩
  · obtain ⟨e, he, -⟩ := build_of_giveFaultyHeader (u := u) hbody hgive
    exact ⟨e, he⟩

end Token

/-! ### What is prepared -/

lemma ofMethod_eq_ok_iff {method : Method} {u : Url} {d : Draft} :
    ofMethod method u = .ok d ↔ method ∈ Method.supported ∧ start method u = d := by
  rw [ofMethod]
  split_ifs with h <;> simp [h]

/-- What a client starts with: the template resolved under its service URL, and its token as a header. -/
lemma result_request_eq_ok_iff {c : Client} {method : Method} {template : String}
    {parameters : List (String × String)} {d : Draft} :
    (c.request method template parameters).result = .ok d ↔
      ∃ u, resolve c.serviceUrl.toText template parameters = .ok u ∧ method ∈ Method.supported
        ∧ (start method u).after (tokenSteps c.token) = d := by
  simp only [request, Traced.result_bind, bind_eq_ok_iff, result_resolveTraced, Traced.result_ofExcept,
    ofMethod_eq_ok_iff]
  cases htoken : c.token with
  | none => simp [tokenSteps]
  | some t =>
    have happly (d : Draft) : d.apply (authorization t) = .ok (d.after [authorization t]) :=
      congrArg Except.ok (eq_after_of_apply rfl)
    simp [tokenSteps, happly]

section Prepare

variable {service : String} {method : Method} {template : String} {parameters : List (String × String)}
  {steps : List Step}

/-- What is prepared is what the steps add up to and is built. -/
lemma result_prepareUnder_eq_ok {r : Request}
    (h : (prepareUnder service method template parameters steps).result = .ok r) :
    ∃ u, ((start method u).after steps).build = .ok r := by
  simp only [prepareUnder, Traced.result_bind, bind_eq_ok_iff, result_applyAllTraced, result_buildTraced,
    Traced.result_ofExcept, ofMethod_eq_ok_iff] at h
  obtain ⟨u, -, d, ⟨-, rfl⟩, d', hsteps, hbuild⟩ := h
  obtain rfl := eq_after_of_applyAll hsteps
  exact ⟨u, hbuild⟩

lemma result_prepareUnder_of_error {e : Error} (h : resolve service template parameters = .error e) :
    (prepareUnder service method template parameters steps).result = .error e := by
  simp [prepareUnder, h]

lemma result_prepareUnder_of_not_supported {u : Url}
    (h : resolve service template parameters = .ok u) (hmethod : method ∉ Method.supported) :
    (prepareUnder service method template parameters steps).result
      = .error (.unsupportedMethod method.name) := by
  simp [prepareUnder, h, ofMethod, hmethod]

lemma result_prepare_eq_ok_iff {c : Client} {r : Request} :
    (c.prepare method template parameters steps).result = .ok r ↔
      ∃ d, (c.request method template parameters).result = .ok d
        ∧ ∃ d', d.applyAll steps = .ok d' ∧ d'.build = .ok r := by
  simp only [prepare, Traced.result_bind, bind_eq_ok_iff, result_applyAllTraced, result_buildTraced]

end Prepare

/-- A client adds nothing but its service URL and its token. What it prepares, with everything that is reported on
the way, is what comes of resolving the template under the original text and taking the token as a header before
the other steps; a template that is not resolved is refused before the method is. So a request of a client with a
token has exactly one `authorization` header, with the last value that the steps give for it, in any case of its
name, or else with the token; and with a token that holds a forbidden byte no request is prepared. -/
theorem prepare_eq_prepareUnder {service : String} {token : Option String} {c : Client}
    (hc : (connect service token).result = .ok c)
    (hread : Url.parse? c.serviceUrl.toText = some c.serviceUrl) (method : Method) (template : String)
    (parameters : List (String × String)) (steps : List Step) :
    c.prepare method template parameters steps
        = prepareUnder service method template parameters (tokenSteps token ++ steps)
      ∧ (∀ e, resolve service template parameters = .error e →
          (c.prepare method template parameters steps).result = .error e)
      ∧ (∀ u, resolve service template parameters = .ok u → method ∉ Method.supported →
          (c.prepare method template parameters steps).result = .error (.unsupportedMethod method.name))
      ∧ ∀ t, token = some t →
        (∀ r, (c.prepare method template parameters steps).result = .ok r →
          ∃ v, r.headers.filter (·.1 = "authorization") = [("authorization", v)]
            ∧ (∀ e, Entry.last? "authorization" (steps.flatMap Step.headerEntries) = some e →
                e.value = some v)
            ∧ (Entry.last? "authorization" (steps.flatMap Step.headerEntries) = none →
                v = "Bearer " ++ t))
        ∧ ((∃ b ∈ Text.utf8 t.toList, isForbiddenByte b) →
            ∃ e, (c.prepare method template parameters steps).result = .error e) := by
  rw [prepare_eq hc hread]
  refine ⟨rfl, fun e => result_prepareUnder_of_error, fun u => result_prepareUnder_of_not_supported, ?_⟩
  rintro t rfl
  constructor
  · intro r hr
    obtain ⟨u, hbuild⟩ := result_prepareUnder_eq_ok hr
    exact filter_authorization hbuild
  · intro ht
    cases hresult : (prepareUnder service method template parameters (tokenSteps (some t) ++ steps)).result with
    | error e => exact ⟨e, rfl⟩
    | ok r =>
      obtain ⟨u, hbuild⟩ := result_prepareUnder_eq_ok hresult
      obtain ⟨e, he⟩ : ∃ e, ((start method u).after (tokenSteps (some t) ++ steps)).build = .error e :=
        exists_build_eq_error ht
      rw [he] at hbuild
      cases hbuild

/-- A token that a step replaces, and one with a line break, under a service URL that is written in another way than
it was given. -/
theorem prepare_eq_prepareUnder_replaced :
    let service := "HTTPS://H:443/v1"
    let u : Url := ⟨"https", some ⟨[], [], .domain "h".toList, none⟩, false,
      .segments ["v1".toList], none, none⟩
    let c (token : String) : Client := ⟨u, some token⟩
    let steps : List Step := [.query "q" .absent, .header "AUTHORIZATION" (.scalar "Basic x")]
    (connect service (some "t")).result = .ok (c "t") ∧ (connect service (some "t\n")).result = .ok (c "t\n")
      ∧ Url.parse? u.toText = some u
      ∧ (c "t").prepare .get "/{id}" [("id", "a b")] steps
          = prepareUnder service .get "/{id}" [("id", "a b")] (authorization "t" :: steps)
      ∧ (∃ r, ((c "t").prepare .get "/{id}" [("id", "a b")] steps).result = .ok r
          ∧ r.url.toText = "https://h/v1/a%20b?q"
          ∧ r.headers.filter (·.1 = "authorization") = [("authorization", "Basic x")])
      ∧ ∃ e, ((c "t\n").prepare .get "/{id}" [("id", "a b")] steps).result = .error e := by
  intro service u c steps
  have hconnect (token : String) : (connect service (some token)).result = .ok (c token) := by
    have hresolve : resolve service "" [] = .ok u := eq_ok_of_toOption (by decide +kernel)
    rw [connect, Traced.result_bind, result_resolveTraced, hresolve]
    rfl
  have hread : Url.parse? u.toText = some u := by decide +kernel
  have hresult : ((c "t").prepare .get "/{id}" [("id", "a b")] steps).result
      = .ok ⟨.get, { u with path := .segments ["v1".toList, "a%20b".toList], query := some "q".toList },
          [("accept", "application/json"), ("authorization", "Basic x")], none⟩ :=
    eq_ok_of_toOption (by decide +kernel)
  obtain ⟨heq, -, -, htoken⟩ := prepare_eq_prepareUnder (hconnect "t") hread .get "/{id}" [("id", "a b")] steps
  obtain ⟨-, -, -, hbreak⟩ :=
    prepare_eq_prepareUnder (hconnect "t\n") hread .get "/{id}" [("id", "a b")] steps
  obtain ⟨v, hv, hlast, -⟩ := (htoken "t" rfl).1 _ hresult
  obtain rfl : "Basic x" = v := Option.some.inj (hlast ⟨"AUTHORIZATION", some "Basic x"⟩ rfl)
  exact ⟨hconnect "t", hconnect "t\n", hread, heq, ⟨_, hresult, by decide +kernel, hv⟩,
    (hbreak "t\n" rfl).2 (by decide)⟩

end Client

end Courier
