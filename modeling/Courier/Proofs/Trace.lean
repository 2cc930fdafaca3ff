import Courier.Proofs.Except
import Courier.Request
import Mathlib

/-!
# Results without their events

`Traced` is a lawful monad. Its events do not decide anything: what comes of work that reports events is
what comes of the same work without them, step by step.
-/

namespace Courier

namespace Traced

variable {ε ε' α β : Type}

lemma pure_eq (a : α) : (pure a : Traced ε α) = ⟨[], .ok a⟩ := rfl

lemma bind_eq (x : Traced ε α) (f : α → Traced ε β) :
    (x >>= f) = (match x.result with
      | .ok a => ⟨x.events ++ (f a).events, (f a).result⟩
      | .error e => ⟨x.events, .error e⟩) := rfl

instance : LawfulMonad (Traced ε) := LawfulMonad.mk' (Traced ε)
  (by
    rintro α ⟨events, result⟩
    change (⟨events, result⟩ : Traced ε α) >>= (fun a => pure a) = _
    cases result <;> simp [bind_eq, pure_eq])
  (by
    intro α β a f
    simp [bind_eq, pure_eq])
  (by
    rintro α β γ ⟨events, result⟩ f g
    cases result with
    | error e => rfl
    | ok a => cases hf : (f a).result <;> simp [bind_eq, hf])

@[simp] lemma result_pure (a : α) : (pure a : Traced ε α).result = .ok a := rfl

@[simp] lemma result_ofExcept (r : Except ε α) : (ofExcept r).result = r := rfl

@[simp] lemma result_emit (events : List Event) : (emit events : Traced ε Unit).result = .ok () := rfl

@[simp] lemma result_mapError (f : ε → ε') (x : Traced ε α) :
    (x.mapError f).result = x.result.mapError f := rfl

@[simp] lemma result_bind (x : Traced ε α) (f : α → Traced ε β) :
    (x >>= f).result = x.result >>= fun a => (f a).result := by
  cases hx : x.result with
  | error e =>
    rw [bind_eq, hx]
    rfl
  | ok a =>
    rw [bind_eq, hx]
    rfl

@[simp] lemma result_map (f : α → β) (x : Traced ε α) : (f <$> x).result = f <$> x.result := by
  rw [← bind_pure_comp, result_bind, ← bind_pure_comp]
  rfl

end Traced

namespace Draft

@[simp] lemma result_applyTraced (d : Draft) (s : Step) : (d.applyTraced s).result = d.apply s := rfl

@[simp] lemma result_applyAllTraced (d : Draft) (steps : List Step) :
    (d.applyAllTraced steps).result = d.applyAll steps := by
  induction steps generalizing d with
  | nil => rfl
  | cons s steps ih =>
    simp only [applyAllTraced, applyAll] at ih
    simp [applyAllTraced, applyAll, ih]

@[simp] lemma result_buildTraced (d : Draft) : d.buildTraced.result = d.build := by
  simp only [buildTraced, Traced.result_bind, Traced.result_ofExcept, Traced.result_emit, Traced.result_pure]
  exact bind_pure d.build

end Draft

namespace Endpoint

@[simp] lemma result_resolveTraced (service template : String) (parameters : List (String × String)) :
    (resolveTraced service template parameters).result = resolve service template parameters := by
  simp only [resolveTraced, Traced.result_bind, Traced.result_ofExcept, Traced.result_emit,
    Traced.result_pure]
  exact bind_pure (resolve service template parameters)

end Endpoint

end Courier
