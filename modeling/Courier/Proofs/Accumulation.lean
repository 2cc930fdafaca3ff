import Courier.Proofs.Query
import Courier.Proofs.Selection
import Mathlib

/-!
# What steps add up to

Every step adds its entries to one of the lists of a draft, or sets the body. Steps that all succeed
therefore lead to the draft that holds the entries of all of them in order, and the last body that one of
them has set: `Draft.after` describes it without taking the steps.
-/

namespace Courier

namespace Step

def headerEntries : Step → List Entry
  | header name value => value.entries name
  | headers pairs => entriesOf pairs
  | _ => []

def formEntries : Step → List Entry
  | form name value => value.entries name
  | forms pairs => entriesOf pairs
  | _ => []

/-- The body that a step sets. Sources without a media type, or of which none is there, set none. -/
def body? : Step → Option Body
  | body b => some b
  | content sources => (Body.select sources).toOption.join
  | _ => none

end Step

namespace Draft

/-- The draft to which steps lead, if none of them fails. -/
def after (d : Draft) (steps : List Step) : Draft where
  method := d.method
  url := d.url
  body := (steps.filterMap Step.body?).getLast?.or d.body
  forms := d.forms ++ steps.flatMap Step.formEntries
  headers := d.headers ++ steps.flatMap Step.headerEntries
  queries := d.queries ++ steps.flatMap Step.queryEntries

@[simp] lemma after_nil (d : Draft) : d.after [] = d := by
  simp [after]

lemma after_cons (d : Draft) (s : Step) (steps : List Step) :
    d.after (s :: steps) = (d.after [s]).after steps := by
  have hbody : (s :: steps).filterMap Step.body?
      = [s].filterMap Step.body? ++ steps.filterMap Step.body? := by
    rw [← List.filterMap_append, List.singleton_append]
  simp [after, hbody, List.getLast?_append, Option.or_assoc]

lemma after_append (d : Draft) (steps steps' : List Step) :
    d.after (steps ++ steps') = (d.after steps).after steps' := by
  induction steps generalizing d with
  | nil => rw [List.nil_append, after_nil]
  | cons s steps ih => rw [List.cons_append, after_cons, ih, ← after_cons]

/-- A step that succeeds does nothing but add its entries and set its body. -/
lemma eq_after_of_apply {d d' : Draft} {s : Step} (h : d.apply s = .ok d') : d' = d.after [s] := by
  cases s with
  | content sources =>
    rw [apply_content] at h
    obtain ⟨selected, hselect, rfl⟩ := map_eq_ok_iff.mp h
    cases selected <;>
      simp [after, setBody, Step.body?, Step.formEntries, Step.headerEntries, Step.queryEntries, hselect,
        Except.toOption]
  | _ =>
    simp only [apply, Except.ok.injEq] at h
    simp [← h, after, addHeaders, addQueries, addForms, setBody, Step.body?, Step.formEntries,
      Step.headerEntries, Step.queryEntries]

/-- Steps that all succeed add up: nothing else of the draft changes. -/
lemma eq_after_of_applyAll {d d' : Draft} {steps : List Step} (h : d.applyAll steps = .ok d') :
    d' = d.after steps := by
  induction steps generalizing d with
  | nil =>
    obtain rfl : d = d' := by simpa [applyAll] using h
    exact (after_nil d).symm
  | cons s steps ih =>
    have hsplit : d.applyAll (s :: steps) = d.apply s >>= fun d₁ => d₁.applyAll steps := by
      simp [applyAll]
    rw [hsplit] at h
    obtain ⟨d₁, hs, hrest⟩ := bind_eq_ok_iff.mp h
    rw [after_cons, ← eq_after_of_apply hs]
    exact ih hrest

/-! ### Drafts that start with nothing -/

section Start

variable (method : Method) (u : Url) (steps : List Step)

@[simp] lemma method_after_start : ((start method u).after steps).method = method := rfl

@[simp] lemma body_after_start :
    ((start method u).after steps).body = (steps.filterMap Step.body?).getLast? := by
  simp [after, start]

@[simp] lemma forms_after_start :
    ((start method u).after steps).forms = steps.flatMap Step.formEntries := by
  simp [after, start]

@[simp] lemma headers_after_start :
    ((start method u).after steps).headers = steps.flatMap Step.headerEntries := by
  simp [after, start]

end Start

end Draft

end Courier
