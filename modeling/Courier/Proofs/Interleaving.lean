import Courier.Proofs.Accumulation
import Mathlib

/-!
# The order of steps

A step touches one part of a draft only: the headers, the query, the form, or the body. Steps that touch
different parts may therefore change places, and a step that gives several entries at once may be written as one
step for each entry. `Rewriting` collects these changes; none of them changes the draft that comes out, or the
error of the step that fails first.
-/

namespace Courier

/-! ### Parts of a draft -/

/-- The part of a draft that a step touches. -/
inductive Part
  | headers
  | query
  | form
  | body
  deriving DecidableEq

/-- The parts that are lists of entries. -/
inductive EntryPart
  | headers
  | query
  | form

namespace EntryPart

/-- The step that adds the entries of one named value. -/
def single : EntryPart → String → Value → Step
  | headers => Step.header
  | query => Step.query
  | form => Step.form

/-- The step that adds the entries of several named values. -/
def bulk : EntryPart → List (String × Value) → Step
  | headers => Step.headers
  | query => Step.queries
  | form => Step.forms

end EntryPart

namespace Step

def part : Step → Part
  | header _ _ | headers _ => .headers
  | query _ _ | queries _ => .query
  | form _ _ | forms _ => .form
  | body _ | content _ => .body

/-- The error of a step that fails. It does not depend on the draft. -/
def failure? : Step → Option Error
  | content sources =>
    match Body.select sources with
    | .error e => some e
    | .ok _ => none
  | _ => none

lemma headerEntries_of_part_ne {s : Step} (h : s.part ≠ .headers) : s.headerEntries = [] := by
  cases s with
  | header | headers => exact absurd rfl h
  | _ => rfl

lemma queryEntries_of_part_ne {s : Step} (h : s.part ≠ .query) : s.queryEntries = [] := by
  cases s with
  | query | queries => exact absurd rfl h
  | _ => rfl

lemma formEntries_of_part_ne {s : Step} (h : s.part ≠ .form) : s.formEntries = [] := by
  cases s with
  | form | forms => exact absurd rfl h
  | _ => rfl

lemma body?_of_part_ne {s : Step} (h : s.part ≠ .body) : s.body? = none := by
  cases s with
  | body | content => exact absurd rfl h
  | _ => rfl

lemma failure?_of_part_ne {s : Step} (h : s.part ≠ .body) : s.failure? = none := by
  cases s with
  | content => exact absurd rfl h
  | _ => rfl

end Step

/-! ### What counts of steps -/

/-- Whether two sequences of steps add up to the same: the same entries of each sort in the same order, and the
same body that is set last, or none. -/
structure SameSum (steps steps' : List Step) : Prop where
  headers : steps.flatMap Step.headerEntries = steps'.flatMap Step.headerEntries
  queries : steps.flatMap Step.queryEntries = steps'.flatMap Step.queryEntries
  forms : steps.flatMap Step.formEntries = steps'.flatMap Step.formEntries
  body : (steps.filterMap Step.body?).getLast? = (steps'.filterMap Step.body?).getLast?

/-- Whether two sequences of steps come to the same also where a step fails: the first error is the same, too. -/
structure SameOutcome (steps steps' : List Step) : Prop extends SameSum steps steps' where
  failure : (steps.filterMap Step.failure?).head? = (steps'.filterMap Step.failure?).head?

namespace Draft

lemma after_congr {steps steps' : List Step} (h : SameSum steps steps') (d : Draft) :
    d.after steps = d.after steps' := by
  rw [after, after, h.headers, h.queries, h.forms, h.body]

/-- A step fails with its error, or adds its entries and sets its body. -/
lemma apply_eq (d : Draft) (s : Step) :
    d.apply s = (match s.failure? with
      | some e => .error e
      | none => .ok (d.after [s])) := by
  cases happly : d.apply s with
  | ok d' =>
    have hnone : s.failure? = none := by
      cases s with
      | content sources =>
        rw [apply_content] at happly
        obtain ⟨selected, hselect, -⟩ := map_eq_ok_iff.mp happly
        simp [Step.failure?, hselect]
      | _ => rfl
    rw [hnone, eq_after_of_apply happly]
  | error e =>
    cases s with
    | content sources =>
      rw [apply_content] at happly
      simp [Step.failure?, map_eq_error_iff.mp happly]
    | _ => simp [apply] at happly

/-- Steps in turn fail with the first error of one of them, or add up. -/
lemma applyAll_eq (d : Draft) (steps : List Step) :
    d.applyAll steps = (match (steps.filterMap Step.failure?).head? with
      | some e => .error e
      | none => .ok (d.after steps)) := by
  induction steps generalizing d with
  | nil => simp [applyAll]
  | cons s steps ih =>
    have hsplit : d.applyAll (s :: steps) = d.apply s >>= fun d' => d'.applyAll steps := by
      simp [applyAll]
    rw [hsplit, apply_eq, List.filterMap_cons]
    cases s.failure? with
    | some e => rfl
    | none =>
      change (d.after [s]).applyAll steps = _
      rw [ih, ← after_cons]

/-- Steps with the same outcome lead from a draft to the same draft or the same error. -/
lemma applyAll_congr {steps steps' : List Step} (h : SameOutcome steps steps') (d : Draft) :
    d.applyAll steps = d.applyAll steps' := by
  rw [applyAll_eq, applyAll_eq, h.failure, after_congr h.toSameSum]

end Draft

/-! ### Changes that do not count -/

/-- The changes of a sequence of steps that change nothing of its outcome. -/
inductive Rewriting : List Step → List Step → Prop
  /-- Steps that touch different parts change places: for each part, the steps that touch it stay the same and
  keep their order. -/
  | interleave {steps steps' : List Step}
      (h : ∀ p : Part, steps.filter (·.part = p) = steps'.filter (·.part = p)) : Rewriting steps steps'
  /-- One step with several named values becomes a step for each of them. -/
  | split (k : EntryPart) (pairs : List (String × Value)) :
      Rewriting [k.bulk pairs] (pairs.map fun p => k.single p.1 p.2)
  /-- A step with a repeated value becomes a step for each element. A repeated value without elements adds
  nothing, so its step may come and go. -/
  | unfold (k : EntryPart) (name : String) (elements : List (Option String)) :
      Rewriting [k.single name (.repeated elements)] (elements.map fun v => k.single name (.ofOption v))
  /-- A step whose sources give no body may come and go. -/
  | drop {sources : Sources} (h : Body.select sources = .ok none) : Rewriting [.content sources] []
  | within {steps steps' : List Step} (before after : List Step) (h : Rewriting steps steps') :
      Rewriting (before ++ steps ++ after) (before ++ steps' ++ after)
  | symm {steps steps' : List Step} (h : Rewriting steps steps') : Rewriting steps' steps
  | trans {steps steps' steps'' : List Step} (h : Rewriting steps steps') (h' : Rewriting steps' steps'') :
      Rewriting steps steps''

namespace SameOutcome

variable {steps steps' steps'' : List Step}

lemma symm (h : SameOutcome steps steps') : SameOutcome steps' steps :=
  ⟨⟨h.headers.symm, h.queries.symm, h.forms.symm, h.body.symm⟩, h.failure.symm⟩

lemma trans (h : SameOutcome steps steps') (h' : SameOutcome steps' steps'') :
    SameOutcome steps steps'' :=
  ⟨⟨h.headers.trans h'.headers, h.queries.trans h'.queries, h.forms.trans h'.forms,
    h.body.trans h'.body⟩, h.failure.trans h'.failure⟩

/-- What stands before and behind does not matter. -/
lemma within (h : SameOutcome steps steps') (before after : List Step) :
    SameOutcome (before ++ steps ++ after) (before ++ steps' ++ after) := by
  constructor
  · constructor
    · simp only [List.flatMap_append, h.headers]
    · simp only [List.flatMap_append, h.queries]
    · simp only [List.flatMap_append, h.forms]
    · simp only [List.filterMap_append, List.getLast?_append, h.body]
  · simp only [List.filterMap_append, List.head?_append, h.failure]

/-- The steps that touch one part alone decide what becomes of it. -/
lemma flatMap_eq_of_filter {α : Type} {p : Part} {f : Step → List α}
    (hf : ∀ s : Step, s.part ≠ p → f s = [])
    (h : steps.filter (·.part = p) = steps'.filter (·.part = p)) : steps.flatMap f = steps'.flatMap f := by
  have hfilter (steps : List Step) : (steps.filter (·.part = p)).flatMap f = steps.flatMap f := by
    induction steps with
    | nil => rfl
    | cons s steps ih =>
      by_cases hs : s.part = p
      · simp [hs, ih]
      · simp [hs, ih, hf s hs]
  rw [← hfilter steps, h, hfilter]

lemma filterMap_eq_of_filter {α : Type} {p : Part} {f : Step → Option α}
    (hf : ∀ s : Step, s.part ≠ p → f s = none)
    (h : steps.filter (·.part = p) = steps'.filter (·.part = p)) :
    steps.filterMap f = steps'.filterMap f := by
  rw [List.filterMap_eq_flatMap_toList, List.filterMap_eq_flatMap_toList]
  apply flatMap_eq_of_filter _ h
  intro s hs
  rw [hf s hs, Option.toList_none]

lemma of_filter (h : ∀ p : Part, steps.filter (·.part = p) = steps'.filter (·.part = p)) :
    SameOutcome steps steps' := by
  constructor
  · constructor
    · exact flatMap_eq_of_filter (fun _ => Step.headerEntries_of_part_ne) (h .headers)
    · exact flatMap_eq_of_filter (fun _ => Step.queryEntries_of_part_ne) (h .query)
    · exact flatMap_eq_of_filter (fun _ => Step.formEntries_of_part_ne) (h .form)
    · rw [filterMap_eq_of_filter (fun _ => Step.body?_of_part_ne) (h .body)]
  · rw [filterMap_eq_of_filter (fun _ => Step.failure?_of_part_ne) (h .body)]

lemma split (k : EntryPart) (pairs : List (String × Value)) :
    SameOutcome [k.bulk pairs] (pairs.map fun p => k.single p.1 p.2) := by
  -- whatever the part is, each list is compared entry by entry, and nothing sets a body or fails
  cases k <;> refine ⟨⟨?_, ?_, ?_, ?_⟩, ?_⟩
  all_goals
    simp [EntryPart.bulk, EntryPart.single, Step.headerEntries, Step.queryEntries, Step.formEntries,
      Step.body?, Step.failure?, entriesOf, List.flatMap_map, List.filterMap_map, Function.comp_def]

lemma entries_repeated (name : String) (elements : List (Option String)) :
    (Value.repeated elements).entries name = elements.flatMap fun v => (Value.ofOption v).entries name := by
  have hsingle (v : Option String) : (Value.ofOption v).entries name = [⟨name, v⟩] := by
    cases v <;> rfl
  simp only [hsingle, ← List.map_eq_flatMap]
  rfl

lemma unfold (k : EntryPart) (name : String) (elements : List (Option String)) :
    SameOutcome [k.single name (.repeated elements)]
      (elements.map fun v => k.single name (.ofOption v)) := by
  cases k <;> refine ⟨⟨?_, ?_, ?_, ?_⟩, ?_⟩
  all_goals
    simp [EntryPart.single, Step.headerEntries, Step.queryEntries, Step.formEntries, Step.body?,
      Step.failure?, entries_repeated, List.flatMap_map, List.filterMap_map, Function.comp_def]

lemma drop {sources : Sources} (h : Body.select sources = .ok none) :
    SameOutcome [.content sources] [] := by
  constructor
  · constructor
    · rfl
    · rfl
    · rfl
    · simp [Step.body?, h, Except.toOption]
  · simp [Step.failure?, h]

end SameOutcome

/-- A change of steps that does not count leaves their outcome as it is. -/
lemma Rewriting.sameOutcome {steps steps' : List Step} (h : Rewriting steps steps') :
    SameOutcome steps steps' := by
  induction h with
  | interleave h => exact SameOutcome.of_filter h
  | split k pairs => exact SameOutcome.split k pairs
  | unfold k name elements => exact SameOutcome.unfold k name elements
  | drop h => exact SameOutcome.drop h
  | within before after _ ih => exact ih.within before after
  | symm _ ih => exact ih.symm
  | trans _ _ ih ih' => exact ih.trans ih'

namespace Draft

/-- Only what steps add up to counts. Two sequences of steps that succeed from the same start, with the same
header, query and form entries in their orders and the same body set last, give the same URL, and the same
request or the same error. And a sequence of steps comes to the same draft or the same error when steps that touch
different parts change places, when steps with several entries are split into single ones, and when steps that
add nothing come or go. -/
theorem outcome_depends_on_sum (method : Method) (u : Url) (steps steps' : List Step) :
    (∀ d d', SameSum steps steps' → (start method u).applyAll steps = .ok d →
        (start method u).applyAll steps' = .ok d' → d.fullUrl = d'.fullUrl ∧ d.build = d'.build)
      ∧ (Rewriting steps steps' → (start method u).applyAll steps = (start method u).applyAll steps') := by
  constructor
  · intro d d' hsum hd hd'
    have hsame : d = d' := by
      rw [eq_after_of_applyAll hd, eq_after_of_applyAll hd', after_congr hsum]
    rw [hsame]
    exact ⟨rfl, rfl⟩
  · intro h
    exact applyAll_congr h.sameOutcome (start method u)

/-- Steps of four sorts that are split and mixed, with two steps among them that add nothing. Both ways the
header that has no value is refused. -/
theorem outcome_depends_on_sum_mixed :
    let u : Url := ⟨"https", some ⟨[], [], .domain "h".toList, none⟩, false,
      .segments ["v1".toList], none, none⟩
    let body : Body := ⟨some "text/plain", [0x61]⟩
    let steps : List Step := [.headers [("A", .scalar "1"), ("B", .repeated [some "2", none])],
      .form "f" (.scalar "v"), .body body, .query "q" (.scalar "1")]
    let steps' : List Step := [.query "q" (.scalar "1"), .content ⟨none, none, none, some (.text "t")⟩,
      .header "A" (.scalar "1"), .form "f" (.scalar "v"), .body body, .header "B" (.scalar "2"),
      .form "g" (.repeated []), .header "B" .absent]
    ∃ d d', SameSum steps steps' ∧ Rewriting steps steps'
      ∧ (start .put u).applyAll steps = .ok d ∧ (start .put u).applyAll steps' = .ok d'
      ∧ d.build = .error (.missingHeaderValue "B")
      ∧ d.fullUrl = d'.fullUrl ∧ d.build = d'.build
      ∧ (start .put u).applyAll steps = (start .put u).applyAll steps' := by
  intro u body steps steps'
  have hsum : SameSum steps steps' := ⟨rfl, rfl, rfl, rfl⟩
  -- the steps one by one, in their order
  let a : Step := .header "A" (.scalar "1")
  let b : List Step := [.header "B" (.scalar "2"), .header "B" .absent]
  let rest : List Step := [.body body, .query "q" (.scalar "1")]
  have hsplit : Rewriting steps (a :: .header "B" (.repeated [some "2", none]) :: .form "f" (.scalar "v")
      :: rest) :=
    .within [] (.form "f" (.scalar "v") :: rest) (.split .headers _)
  have hunfold : Rewriting _ (a :: b ++ .form "f" (.scalar "v") :: rest) :=
    .within [a] (.form "f" (.scalar "v") :: rest) (.unfold .headers "B" [some "2", none])
  have hform : Rewriting _ (a :: b ++ [.form "f" (.scalar "v"), .form "g" (.repeated [])] ++ rest) :=
    .within (a :: b ++ [.form "f" (.scalar "v")]) rest (.symm (.unfold .form "g" []))
  have hcontent : Rewriting _ (a :: b ++ [.form "f" (.scalar "v"), .form "g" (.repeated []),
      .content ⟨none, none, none, some (.text "t")⟩] ++ rest) :=
    .within (a :: b ++ [.form "f" (.scalar "v"), .form "g" (.repeated [])]) rest (.symm (.drop rfl))
  have hrewriting : Rewriting steps steps' :=
    hsplit.trans (hunfold.trans (hform.trans (hcontent.trans
      (.interleave fun p => by cases p <;> rfl))))
  have hd : (start .put u).applyAll steps = .ok ((start .put u).after steps) := rfl
  have hd' : (start .put u).applyAll steps' = .ok ((start .put u).after steps') := rfl
  obtain ⟨hresult, houtcome⟩ := outcome_depends_on_sum .put u steps steps'
  obtain ⟨hurl, hbuild⟩ := hresult _ _ hsum hd hd'
  exact ⟨_, _, hsum, hrewriting, hd, hd', rfl, hurl, hbuild, houtcome hrewriting⟩

end Draft

end Courier
