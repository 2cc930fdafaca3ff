import Courier.Proofs.Accumulation
import Courier.Proofs.Header
import Mathlib

/-!
# The outcome of building a request

What `Draft.build` answers is decided by the steps alone. A body that is set for a method without one is
refused before anything else is looked at; then a faulty header entry, or a media type that is no header
value; everything else is built. The headers of what is built keep, for every name, the last value that
was given: the default first, then the entries, then the media type of the body.
-/

namespace Courier

namespace Step

/-- The body to which steps lead: the form if there is an entry of one, else the last body that was set,
else an empty one. -/
def finalBody (steps : List Step) : Body :=
  if steps.flatMap formEntries = [] then (steps.filterMap body?).getLast?.getD Body.empty
  else Body.ofForm (steps.flatMap formEntries)

/-- The body that is sent after steps. -/
def sentBody? (method : Method) (steps : List Step) : Option Body :=
  if method.isBodiless then none else some (finalBody steps)

/-- Whether steps set a body for a method that never has one. -/
def SetBodyInVain (method : Method) (steps : List Step) : Prop :=
  (method = .get ∨ method = .head) ∧ ∃ s ∈ steps, s.body?.isSome

/-- Whether steps give a header that cannot be sent: a faulty entry, or a body with a media type that is
no header value. -/
def GiveFaultyHeader (steps : List Step) : Prop :=
  (∃ e ∈ steps.flatMap headerEntries, e.IsFaulty)
    ∨ ∃ t ∈ (finalBody steps).contentType, ∃ b ∈ Text.utf8 t.toList, isForbiddenByte b

end Step

open Step

lemma Method.isBodiless_iff {m : Method} : m.isBodiless = true ↔ m = get ∨ m = head := by
  simp [isBodiless]

namespace Draft

variable {method : Method} {u : Url} {steps : List Step}

/-! ### The body -/

lemma effectiveBody_of_setBodyInVain (h : SetBodyInVain method steps) :
    ((start method u).after steps).effectiveBody = .error (.bodyNotAllowed method.name) := by
  obtain ⟨hmethod, s, hs, hbody⟩ := h
  obtain ⟨b, hb⟩ := Option.isSome_iff_exists.mp hbody
  have hset : ((steps.filterMap body?).getLast?).isSome := by
    rw [List.getLast?_isSome]
    exact List.ne_nil_of_mem (List.mem_filterMap.mpr ⟨s, hs, hb⟩)
  rw [effectiveBody, method_after_start, body_after_start, if_pos (Method.isBodiless_iff.mpr hmethod),
    if_pos hset]

lemma filterMap_body?_eq_nil (hmethod : method.isBodiless) (h : ¬ SetBodyInVain method steps) :
    steps.filterMap body? = [] := by
  rw [List.filterMap_eq_nil_iff]
  intro s hs
  by_contra hbody
  exact h ⟨Method.isBodiless_iff.mp hmethod, s, hs, Option.isSome_iff_ne_none.mpr hbody⟩

lemma effectiveBody_of_not_setBodyInVain (h : ¬ SetBodyInVain method steps) :
    ((start method u).after steps).effectiveBody = .ok (sentBody? method steps) := by
  by_cases hmethod : method.isBodiless = true
  · simp [effectiveBody, sentBody?, hmethod, filterMap_body?_eq_nil hmethod h]
  · by_cases hforms : steps.flatMap formEntries = []
    · simp [effectiveBody, sentBody?, finalBody, hmethod, hforms]
    · simp [effectiveBody, sentBody?, finalBody, hmethod, hforms]

/-- Where no body is sent, only a form could have been, and its media type is a header value. -/
lemma isHeaderValue_of_isBodiless (hmethod : method.isBodiless) (h : ¬ SetBodyInVain method steps) :
    ∀ t ∈ (finalBody steps).contentType, isHeaderValue t = true := by
  intro t ht
  rw [finalBody, filterMap_body?_eq_nil hmethod h] at ht
  split_ifs at ht
  · simp [Body.empty] at ht
  · obtain rfl : formType = t := by simpa [Body.ofForm] using ht
    decide

/-- The media type that is sent is a header value exactly if the one of the last body is. -/
lemma exists_isHeaderValue_eq_false_iff (h : ¬ SetBodyInVain method steps) :
    (∃ t ∈ (sentBody? method steps).bind Body.contentType, isHeaderValue t = false)
      ↔ ∃ t ∈ (finalBody steps).contentType, isHeaderValue t = false := by
  by_cases hmethod : method.isBodiless = true
  · have hlegal := isHeaderValue_of_isBodiless hmethod h
    constructor
    · simp [sentBody?, hmethod]
    · rintro ⟨t, ht, hrefused⟩
      simp [hlegal t ht] at hrefused
  · simp [sentBody?, hmethod]

/-! ### The three outcomes -/

lemma build_of_setBodyInVain (h : SetBodyInVain method steps) :
    ((start method u).after steps).build = .error (.bodyNotAllowed method.name) := by
  rw [build, effectiveBody_of_setBodyInVain h]
  rfl

lemma giveFaultyHeader_iff (h : ¬ SetBodyInVain method steps) :
    GiveFaultyHeader steps ↔ (∃ e ∈ steps.flatMap headerEntries, e.IsFaulty)
      ∨ ∃ t ∈ (sentBody? method steps).bind Body.contentType, isHeaderValue t = false := by
  rw [exists_isHeaderValue_eq_false_iff h]
  simp only [isHeaderValue_eq_false_iff]
  rfl

lemma build_of_giveFaultyHeader (hbody : ¬ SetBodyInVain method steps)
    (h : GiveFaultyHeader steps) :
    ∃ err, ((start method u).after steps).build = .error err ∧ err.kind = .argument := by
  obtain ⟨err, herr, hkind⟩ :=
    exists_effectiveHeaders_eq_error ((giveFaultyHeader_iff hbody).mp h)
  refine ⟨err, ?_, hkind⟩
  rw [build, effectiveBody_of_not_setBodyInVain hbody, headers_after_start]
  change (effectiveHeaders _ _ >>= _) = _
  rw [herr]
  rfl

/-- Without a faulty header, all entries are headers and the media type that is sent is a header value. -/
lemma sound_of_not_giveFaultyHeader (hbody : ¬ SetBodyInVain method steps)
    (h : ¬ GiveFaultyHeader steps) :
    (∀ e ∈ steps.flatMap headerEntries, ¬ e.IsFaulty)
      ∧ ∀ t ∈ (sentBody? method steps).bind Body.contentType, isHeaderValue t = true := by
  rw [giveFaultyHeader_iff hbody, not_or] at h
  refine ⟨fun e he hfaulty => h.1 ⟨e, he, hfaulty⟩, fun t ht => ?_⟩
  by_contra hrefused
  exact h.2 ⟨t, ht, Bool.not_eq_true _ ▸ hrefused⟩

def sentHeaders (method : Method) (steps : List Step) : Headers :=
  Headers.insertAll [("accept", jsonType)]
    (headerFields (steps.flatMap headerEntries) ((sentBody? method steps).bind Body.contentType))

lemma build_of_not_giveFaultyHeader (hbody : ¬ SetBodyInVain method steps)
    (h : ¬ GiveFaultyHeader steps) :
    ((start method u).after steps).build
      = .ok ⟨method, ((start method u).after steps).fullUrl, sentHeaders method steps,
          sentBody? method steps⟩ := by
  obtain ⟨hentries, htype⟩ := sound_of_not_giveFaultyHeader hbody h
  rw [build, effectiveBody_of_not_setBodyInVain hbody, headers_after_start]
  change (effectiveHeaders _ _ >>= _) = _
  rw [effectiveHeaders_eq_ok hentries htype]
  rfl

/-- What is built, and that nothing was wrong. -/
lemma eq_of_build_eq_ok {r : Request} (h : ((start method u).after steps).build = .ok r) :
    ¬ SetBodyInVain method steps ∧ ¬ GiveFaultyHeader steps
      ∧ r = ⟨method, ((start method u).after steps).fullUrl, sentHeaders method steps,
          sentBody? method steps⟩ := by
  have hbody : ¬ SetBodyInVain method steps := by
    intro hvain
    simp [build_of_setBodyInVain hvain] at h
  have hheaders : ¬ GiveFaultyHeader steps := by
    intro hfaulty
    obtain ⟨err, herr, -⟩ := build_of_giveFaultyHeader (u := u) hbody hfaulty
    simp [herr] at h
  rw [build_of_not_giveFaultyHeader hbody hheaders, Except.ok.injEq] at h
  exact ⟨hbody, hheaders, h.symm⟩

/-- Every value that is sent comes from a checked one. -/
lemma isHeaderValue_of_mem_sentHeaders (hbody : ¬ SetBodyInVain method steps)
    (h : ¬ GiveFaultyHeader steps) {f : String × String} (hf : f ∈ sentHeaders method steps) :
    isHeaderValue f.2 = true := by
  obtain ⟨hentries, htype⟩ := sound_of_not_giveFaultyHeader hbody h
  rcases Headers.mem_insertAll hf with hgiven | hdefault
  · rcases List.mem_append.mp hgiven with hentry | hbodyType
    · obtain ⟨e, he, rfl⟩ := List.mem_map.mp hentry
      obtain ⟨v, hv, hlegal⟩ := Entry.exists_value_of_not_isFaulty (hentries e he)
      simpa [Entry.field, hv] using hlegal
    · obtain ⟨t, ht, rfl⟩ := Option.map_eq_some_iff.mp (Option.mem_toList.mp hbodyType)
      exact htype t ht
  · obtain rfl := List.mem_singleton.mp hdefault
    decide

/-! ### When building fails -/

/-- Building fails exactly when it must, and with the right kind of error. A body that was set for `GET` or
`HEAD` is an error of state, whatever the headers are. Otherwise an entry that is no header, also one that a
later entry of its name would replace, or a media type of the body that is no header value, is an error of
argument. Otherwise the request is built: it has no body exactly for `GET` and `HEAD`, and none of its
header values holds a control other than the tab. -/
theorem build_fails_iff {d : Draft} (hsteps : (start method u).applyAll steps = .ok d) :
    ((∃ err, d.build = .error err ∧ err.kind = .state) ↔ SetBodyInVain method steps)
      ∧ (¬ SetBodyInVain method steps →
        ((∃ err, d.build = .error err ∧ err.kind = .argument) ↔ GiveFaultyHeader steps)
          ∧ (¬ GiveFaultyHeader steps → ∃ r, d.build = .ok r
            ∧ (r.body = none ↔ method = .get ∨ method = .head)
            ∧ ∀ f ∈ r.headers, ∀ b ∈ Text.utf8 f.2.toList, isForbiddenByte b = false)) := by
  obtain rfl := eq_after_of_applyAll hsteps
  refine ⟨⟨?_, ?_⟩, fun hbody => ⟨⟨?_, build_of_giveFaultyHeader hbody⟩, fun hheaders => ?_⟩⟩
  · -- any outcome but the error of state has another form
    rintro ⟨err, herr, hkind⟩
    by_contra hbody
    by_cases hheaders : GiveFaultyHeader steps
    · obtain ⟨err', herr', hkind'⟩ := build_of_giveFaultyHeader (u := u) hbody hheaders
      obtain rfl : err = err' := by simpa [herr] using herr'
      simp [hkind] at hkind'
    · simp [build_of_not_giveFaultyHeader hbody hheaders] at herr
  · exact fun hbody => ⟨_, build_of_setBodyInVain hbody, rfl⟩
  · rintro ⟨err, herr, -⟩
    by_contra hheaders
    simp [build_of_not_giveFaultyHeader hbody hheaders] at herr
  · refine ⟨_, build_of_not_giveFaultyHeader hbody hheaders, ?_, fun f hf b hb => ?_⟩
    · rw [← Method.isBodiless_iff]
      simp [sentBody?]
    · have hlegal := isHeaderValue_of_mem_sentHeaders hbody hheaders hf
      by_contra hforbidden
      have hrefused : isHeaderValue f.2 = false :=
        isHeaderValue_eq_false_iff.mpr ⟨b, hb, Bool.not_eq_false _ ▸ hforbidden⟩
      simp [hlegal] at hrefused

/-- A line break in the value of an entry makes building fail, though a later entry would have replaced
it. -/
theorem build_fails_iff_replaced :
    let u : Url := ⟨"https", some ⟨[], [], .domain "h".toList, none⟩, false,
      .segments ["v1".toList], none, none⟩
    let steps : List Step := [.header "X-Id" (.scalar "a\nb"), .header "x-id" (.scalar "c"),
      .body ⟨some "text/plain", [0x61]⟩]
    ∃ d, (start .post u).applyAll steps = .ok d
      ∧ d.build = .error (.invalidHeaderValue "X-Id")
      ∧ ((∃ err, d.build = .error err ∧ err.kind = .state) ↔ SetBodyInVain .post steps)
      ∧ (¬ SetBodyInVain .post steps →
        ((∃ err, d.build = .error err ∧ err.kind = .argument) ↔ GiveFaultyHeader steps)
          ∧ (¬ GiveFaultyHeader steps → ∃ r, d.build = .ok r
            ∧ (r.body = none ↔ Method.post = .get ∨ Method.post = .head)
            ∧ ∀ f ∈ r.headers, ∀ b ∈ Text.utf8 f.2.toList, isForbiddenByte b = false)) := by
  intro u steps
  have hsteps : (start .post u).applyAll steps = .ok ((start .post u).after steps) := rfl
  exact ⟨_, hsteps, rfl, build_fails_iff hsteps⟩

/-! ### Which headers are built -/

lemma nodup_names_sentHeaders : (sentHeaders method steps).names.Nodup :=
  Headers.nodup_names_insertAll (by simp [Headers.names]) _

lemma mem_names_sentHeaders {n : String} :
    n ∈ (sentHeaders method steps).names ↔ n = "accept"
      ∨ (∃ e ∈ steps.flatMap headerEntries, lowerCase e.name = n)
      ∨ n = "content-type" ∧ ((sentBody? method steps).bind Body.contentType).isSome := by
  rw [sentHeaders, Headers.mem_names_insertAll, or_comm, names_headerFields, List.mem_append]
  refine or_congr ?_ (or_congr List.mem_map ?_)
  · simp [Headers.names]
  · cases (sentBody? method steps).bind Body.contentType <;> simp

lemma get?_sentHeaders (n : String) :
    (sentHeaders method steps).get? n
      = ((if n = "content-type" then (sentBody? method steps).bind Body.contentType else none).or
          ((Entry.last? n (steps.flatMap headerEntries)).map (·.value.getD ""))).or
          (if n = "accept" then some jsonType else none) := by
  rw [sentHeaders, Headers.get?_insertAll, last?_headerFields, Headers.get?_cons]
  rfl

/-- The built headers are the last-wins map: every name occurs once, and the names are `accept`, those of
the entries in lower case, and `content-type` if the body that is sent declares a type. That type is the
value of `content-type`; every other name has the value of its last entry, and `accept` has its default
where there is no entry of that name. -/
theorem headers_last_wins {d : Draft} {r : Request}
    (hsteps : (start method u).applyAll steps = .ok d) (hbuild : d.build = .ok r) :
    r.body = sentBody? method steps
      ∧ r.headers.names.Nodup
      ∧ (∀ n, n ∈ r.headers.names ↔ n = "accept"
          ∨ (∃ e ∈ steps.flatMap headerEntries, lowerCase e.name = n)
          ∨ n = "content-type" ∧ (r.body.bind Body.contentType).isSome)
      ∧ (∀ t, r.body.bind Body.contentType = some t → r.headers.get? "content-type" = some t)
      ∧ (∀ n e, (n = "content-type" → r.body.bind Body.contentType = none) →
          Entry.last? n (steps.flatMap headerEntries) = some e → r.headers.get? n = e.value)
      ∧ ((∀ e ∈ steps.flatMap headerEntries, lowerCase e.name ≠ "accept") →
          r.headers.get? "accept" = some "application/json") := by
  obtain rfl := eq_after_of_applyAll hsteps
  obtain ⟨hbody, hheaders, rfl⟩ := eq_of_build_eq_ok hbuild
  have hentries := (sound_of_not_giveFaultyHeader hbody hheaders).1
  refine ⟨rfl, nodup_names_sentHeaders, fun n => mem_names_sentHeaders, fun t ht => ?_,
    fun n e hn he => ?_, fun hnone => ?_⟩
  · change (sentBody? method steps).bind Body.contentType = some t at ht
    simp [get?_sentHeaders, ht]
  · obtain ⟨v, hv, -⟩ :=
      Entry.exists_value_of_not_isFaulty (hentries e (Entry.mem_of_last?_eq_some he))
    have htype : (if n = "content-type" then (sentBody? method steps).bind Body.contentType
        else none) = none := by
      split_ifs with h
      · exact hn h
      · rfl
    simp [get?_sentHeaders, htype, he, hv]
  · simp [get?_sentHeaders, Entry.last?_eq_none_iff.mpr hnone, jsonType]

/-- Names in several cases, a repeated value, and a media type given as an entry and by the body. -/
theorem headers_last_wins_mixed :
    let u : Url := ⟨"https", some ⟨[], [], .domain "h".toList, none⟩, false,
      .segments ["v1".toList], none, none⟩
    let steps : List Step := [.header "X-Tag" (.repeated [some "a", some "b"]),
      .headers [("ACCEPT", .scalar "text/csv"), ("Content-Type", .scalar "text/html")],
      .body ⟨some "text/plain", [0x61]⟩, .header "x-TAG" (.scalar "c")]
    ∃ d r, (start .put u).applyAll steps = .ok d ∧ d.build = .ok r
      ∧ r.headers = [("accept", "text/csv"), ("x-tag", "c"), ("content-type", "text/plain")]
      ∧ r.body = sentBody? .put steps
      ∧ r.headers.names.Nodup
      ∧ (∀ n, n ∈ r.headers.names ↔ n = "accept"
          ∨ (∃ e ∈ steps.flatMap headerEntries, lowerCase e.name = n)
          ∨ n = "content-type" ∧ (r.body.bind Body.contentType).isSome)
      ∧ (∀ t, r.body.bind Body.contentType = some t → r.headers.get? "content-type" = some t)
      ∧ (∀ n e, (n = "content-type" → r.body.bind Body.contentType = none) →
          Entry.last? n (steps.flatMap headerEntries) = some e → r.headers.get? n = e.value)
      ∧ ((∀ e ∈ steps.flatMap headerEntries, lowerCase e.name ≠ "accept") →
          r.headers.get? "accept" = some "application/json") := by
  intro u steps
  have hsteps : (start .put u).applyAll steps = .ok ((start .put u).after steps) := rfl
  have hbuild : ((start .put u).after steps).build = .ok ⟨.put, u, [("accept", "text/csv"),
      ("x-tag", "c"), ("content-type", "text/plain")], some ⟨some "text/plain", [0x61]⟩⟩ := rfl
  exact ⟨_, _, hsteps, hbuild, rfl, headers_last_wins hsteps hbuild⟩

end Draft

end Courier
