import Courier.Proofs.Compact
import Courier.Proofs.Except
import Courier.Request
import Mathlib

/-!
# The source of a body

Of the sources that are given for a body the first one that is there decides alone: the body becomes what it
gives, with the media type, or the step fails as it does. A model and a patch document give compact JSON, and a
stream all that it delivers up to its end; nothing is taken of a stream that fails before. Later sources are not
looked at. Without a media type, or without a source, a draft stays as it is.
-/

namespace Courier

/-! ### Streams -/

def StreamStep.bytes : StreamStep → Bytes
  | delivered first rest => first :: rest
  | _ => []

def IsUnfailing (steps : List StreamStep) : Prop := ∀ reason, .failed reason ∉ steps

/-- What a stream delivers up to its end. -/
inductive Delivers : List StreamStep → Bytes → Prop
  | mk {steps : List StreamStep} (h : IsUnfailing steps) : Delivers steps (steps.flatMap StreamStep.bytes)

/-- The reason of the first failure of a stream. -/
inductive BreaksOff : List StreamStep → String → Prop
  | mk {before rest : List StreamStep} {reason : String} (h : IsUnfailing before) :
      BreaksOff (before ++ .failed reason :: rest) reason

section Stream

variable {steps : List StreamStep} {b : Bytes} {reason : String}

lemma isUnfailing_nil : IsUnfailing [] := fun _ => List.not_mem_nil

/-- A stream has no failure, or a first one. -/
lemma isUnfailing_or_breaksOff (steps : List StreamStep) : IsUnfailing steps ∨ ∃ reason, BreaksOff steps reason := by
  induction steps with
  | nil => exact .inl isUnfailing_nil
  | cons s steps ih =>
    by_cases hs : ∃ reason, s = .failed reason
    · obtain ⟨reason, rfl⟩ := hs
      exact .inr ⟨reason, .mk isUnfailing_nil⟩
    · have hcons {before : List StreamStep} (h : IsUnfailing before) : IsUnfailing (s :: before) := by
        intro reason hmem
        rcases List.mem_cons.mp hmem with heq | hmem
        · exact hs ⟨reason, heq.symm⟩
        · exact h reason hmem
      rcases ih with h | ⟨reason, ⟨h⟩⟩
      · exact .inl (hcons h)
      · exact .inr ⟨reason, .mk (hcons h)⟩

/-- Steps that do not fail are passed over; their bytes stand before what follows. -/
lemma readStream_append {before : List StreamStep} (h : IsUnfailing before) (rest : List StreamStep) :
    readStream (before ++ rest) = (readStream rest).map (before.flatMap StreamStep.bytes ++ ·) := by
  induction before with
  | nil => exact (id_map (readStream rest)).symm
  | cons s before ih =>
    have hbefore := ih fun reason hmem => h reason (List.mem_cons_of_mem _ hmem)
    cases s with
    | delivered first more =>
      rw [List.cons_append, readStream, hbefore]
      cases readStream rest with
      | error e => rfl
      | ok b => exact congrArg Except.ok (List.append_assoc _ _ _).symm
    | interrupted => exact hbefore
    | failed reason => exact absurd List.mem_cons_self (h reason)

lemma Delivers.readStream_eq (h : Delivers steps b) : readStream steps = .ok b := by
  obtain ⟨h⟩ := h
  simpa [readStream, Except.map] using readStream_append h []

lemma BreaksOff.readStream_eq (h : BreaksOff steps reason) : readStream steps = .error (.unreadableBody reason) := by
  obtain ⟨h⟩ := h
  rw [readStream_append h]
  rfl

lemma readStream_eq_ok_iff : readStream steps = .ok b ↔ Delivers steps b := by
  refine ⟨fun h => ?_, Delivers.readStream_eq⟩
  rcases isUnfailing_or_breaksOff steps with hsteps | ⟨reason, hreason⟩
  · rw [Except.ok.inj (h.symm.trans (Delivers.mk hsteps).readStream_eq)]
    exact .mk hsteps
  · cases h.symm.trans hreason.readStream_eq

end Stream

/-! ### Single sources -/

inductive Source
  | model (model : Model)
  | patch (patch : Patch)
  | raw (raw : RawContent)

namespace Source

def content : Source → Except Error Bytes
  | model m => m.render
  | patch p => .ok (Text.utf8 p.render)
  | raw r => r.read

variable {x : Source} {b : Bytes} {e : Error}

end Source

/-! ### Several sources -/

/-- The sources that are there, in the order in which they count. An empty patch document and the model null are
there. -/
def Sources.present (s : Sources) : List Source :=
  (s.model.map Source.model).toList ++ (s.patch.map Source.patch).toList ++ (s.raw.map Source.raw).toList

lemma Sources.content?_eq (s : Sources) : s.content? = s.present.head?.map Source.content := by
  obtain ⟨contentType, model, patch, raw⟩ := s
  cases model <;> cases patch <;> cases raw <;> rfl

lemma Body.select_of_present {s : Sources} {contentType : String} {first : Source} {later : List Source}
    (hcontentType : s.contentType = some contentType) (hpresent : s.present = first :: later) :
    Body.select s = first.content.map fun b => some ⟨some contentType, b⟩ := by
  rw [Body.select, Sources.content?_eq, hcontentType, hpresent]
  rfl

namespace Draft

/-- What is selected is set as the body; nothing else of a draft changes. -/
lemma apply_content (d : Draft) (s : Sources) :
    d.apply (.content s) = (Body.select s).map fun b => b.elim d d.setBody := by
  rw [apply]
  cases Body.select s with
  | error e => rfl
  | ok b => cases b <;> rfl

end Draft

end Courier
