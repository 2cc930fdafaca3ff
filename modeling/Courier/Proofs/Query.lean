import Courier.Proofs.Except
import Courier.Proofs.Form
import Courier.Request
import Mathlib

/-!
# Query entries

Steps that add query entries change nothing of a draft but its list of entries, to which each adds its
own in order. The URL of the draft carries all of them behind the query that was there, in a form from
which they are read back.
-/

namespace Courier

/-! ### Entries of a query -/

/-- The pair that an entry of a query is read back as. An empty name without a value leaves none; any
other missing value is read as an empty one. -/
def Entry.queryPair? (e : Entry) : Option (Text × Text) :=
  Form.pair? e.name.toList (e.value.map String.toList)

namespace Step

def queryEntries : Step → List Entry
  | query name value => value.entries name
  | queries pairs => entriesOf pairs
  | _ => []

/-- Whether a step adds query entries and does nothing else. -/
def IsQuery : Step → Prop
  | query _ _ | queries _ => True
  | _ => False

end Step

namespace Draft

/-- One step adds its entries behind the others. -/
lemma apply_of_isQuery {s : Step} (hs : s.IsQuery) (d : Draft) :
    d.apply s = .ok (d.addQueries s.queryEntries) := by
  cases s with
  | query name value => rfl
  | queries pairs => rfl
  | _ => exact absurd hs (by simp [Step.IsQuery])

lemma addQueries_addQueries (d : Draft) (entries entries' : List Entry) :
    (d.addQueries entries).addQueries entries' = d.addQueries (entries ++ entries') := by
  simp [addQueries]

/-- Steps in turn add their entries in turn. -/
lemma applyAll_of_isQuery {steps : List Step} (hsteps : ∀ s ∈ steps, s.IsQuery) (d : Draft) :
    d.applyAll steps = .ok (d.addQueries (steps.flatMap Step.queryEntries)) := by
  induction steps generalizing d with
  | nil => simp [applyAll, addQueries]
  | cons s steps ih =>
    obtain ⟨hs, hrest⟩ := List.forall_mem_cons.mp hsteps
    have hstep : d.applyAll (s :: steps) = d.apply s >>= fun d' => d'.applyAll steps := by
      simp [applyAll]
    rw [hstep, apply_of_isQuery hs]
    change (d.addQueries s.queryEntries).applyAll steps = _
    rw [ih hrest, addQueries_addQueries, List.flatMap_cons]

/-- The URL of a draft differs from the one that was given in the query only, which goes on behind
what was there and is read back as the pairs that were there and the entries of the draft. -/
lemma exists_fullUrl_eq (d : Draft) :
    ∃ q, d.fullUrl = { d.url with query := q }
      ∧ d.url.query.getD [] <+: q.getD []
      ∧ Form.parse (q.getD [])
          = Form.parse (d.url.query.getD []) ++ d.queries.filterMap Entry.queryPair?
      ∧ (d.queries = [] → q = d.url.query)
      ∧ (d.queries ≠ [] → q.isSome) := by
  by_cases hempty : d.queries = []
  · refine ⟨d.url.query, ?_, List.prefix_rfl, ?_, fun _ => rfl, fun hne => absurd hempty hne⟩
    · simp [fullUrl, Url.appendQuery, hempty]
    · simp [hempty]
  · refine ⟨some (Form.appendAll (d.url.query.getD [])
        (d.queries.map fun e => (e.name.toList, e.value.map String.toList))),
      ?_, ?_, ?_, fun h => absurd h hempty, fun _ => rfl⟩
    · simp [fullUrl, Url.appendQuery, hempty]
    · exact Form.prefix_appendAll _ _
    · rw [Option.getD_some, Form.parse_appendAll, List.filterMap_map]
      rfl

/-- Query entries survive: whatever names and values the steps give, the URL keeps all of its
components but the query, whose text goes on behind what was there. Reading it gives the pairs of the
given query and then the entries of the steps, in order. Without an entry the URL is the given one. -/
theorem query_entries_read_back (method : Method) (u : Url) {steps : List Step}
    (hsteps : ∀ s ∈ steps, s.IsQuery) :
    ∃ d q, (start method u).applyAll steps = .ok d
      ∧ d.queries = steps.flatMap Step.queryEntries
      ∧ d.fullUrl = { u with query := q }
      ∧ u.query.getD [] <+: q.getD []
      ∧ Form.parse (q.getD [])
          = Form.parse (u.query.getD []) ++ d.queries.filterMap Entry.queryPair?
      ∧ (d.queries = [] → q = u.query)
      ∧ (d.queries ≠ [] → q.isSome) := by
  obtain ⟨q, hq⟩ := exists_fullUrl_eq ((start method u).addQueries (steps.flatMap Step.queryEntries))
  exact ⟨_, q, applyAll_of_isQuery hsteps _, rfl, hq⟩

/-- Names and values with the signs of the format, behind a query that ends in `&`. -/
theorem query_entries_read_back_signs :
    let u : Url := ⟨"https", some ⟨[], [], .domain "h".toList, none⟩, false,
      .segments ["v1".toList], some "x=1&".toList, some "f".toList⟩
    let steps : List Step := [.query "a b&=" (.scalar "é+%26"), .query "none" (.repeated []),
      .queries [("", .absent), ("tag", .repeated [some "x=y", none])]]
    (∀ s ∈ steps, s.IsQuery)
      ∧ ((start .get u).applyAll steps).toOption.map (fun d => d.fullUrl.toText)
          = some "https://h/v1?x=1&&a+b%26%3D=%C3%A9%2B%2526&&tag=x%3Dy&tag#f"
      ∧ ∃ d q, (start .get u).applyAll steps = .ok d
        ∧ d.queries = steps.flatMap Step.queryEntries
        ∧ d.fullUrl = { u with query := q }
        ∧ u.query.getD [] <+: q.getD []
        ∧ Form.parse (q.getD [])
            = Form.parse (u.query.getD []) ++ d.queries.filterMap Entry.queryPair?
        ∧ (d.queries = [] → q = u.query)
        ∧ (d.queries ≠ [] → q.isSome) := by
  intro u steps
  have hsteps : ∀ s ∈ steps, s.IsQuery := by simp [steps, Step.IsQuery]
  exact ⟨hsteps, by decide +kernel, query_entries_read_back .get u hsteps⟩

end Draft

end Courier
