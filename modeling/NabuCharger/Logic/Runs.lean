import Mathlib.Tactic.TypeStar

/-!
# `Logic.Runs`: a step function over a list of events

The run of a deterministic step function is `List.foldl`. `EveryStep step P s events` says
that `P` holds of every state of the run together with the event it meets. One step lemma
with an invariant carries a property of the steps over the whole run
(`EveryStep.of_invariant`), and an invariant alone to its end (`foldl_keeps`).
-/

set_option autoImplicit false

namespace Effectful

variable {σ ι : Type*} {step : σ → ι → σ} {I : σ → Prop} {P Q : σ → ι → Prop}

/-- `P` holds of every state of the run and the event it meets. -/
def EveryStep (step : σ → ι → σ) (P : σ → ι → Prop) : σ → List ι → Prop
  | _, [] => True
  | s, event :: events => P s event ∧ EveryStep step P (step s event) events

/-- There is no step to speak of. -/
@[simp] theorem everyStep_nil (s : σ) : EveryStep step P s [] := trivial

/-- The first step comes first. -/
@[simp] theorem everyStep_cons (s : σ) (event : ι) (events : List ι) :
    EveryStep step P s (event :: events) ↔ P s event ∧ EveryStep step P (step s event) events :=
  Iff.rfl

instance EveryStep.decidable [h : ∀ s event, Decidable (P s event)] :
    ∀ (s : σ) (events : List ι), Decidable (EveryStep step P s events)
  | _, [] => isTrue trivial
  | s, event :: events =>
      match h s event, EveryStep.decidable (step s event) events with
      | isTrue hP, isTrue hrest => isTrue ⟨hP, hrest⟩
      | isFalse hP, _ => isFalse fun hall => hP hall.1
      | _, isFalse hrest => isFalse fun hall => hrest hall.2

/-- A condition that does not look at the state is one on the events. -/
theorem everyStep_const {R : ι → Prop} {events : List ι} :
    ∀ s : σ, EveryStep step (fun _ => R) s events ↔ ∀ event ∈ events, R event := by
  induction events with
  | nil => exact fun s => iff_of_true trivial fun event hmem => nomatch hmem
  | cons event events ih =>
      intro s
      rw [everyStep_cons, ih, List.forall_mem_cons]

/-- An invariant that gives `Q` for a step with `P`, and survives it, gives `Q` for every step
of a run with `P`. -/
theorem EveryStep.of_invariant {events : List ι}
    (hstep : ∀ s, ∀ event ∈ events, I s → P s event → Q s event ∧ I (step s event)) :
    ∀ s, I s → EveryStep step P s events → EveryStep step Q s events := by
  induction events with
  | nil => exact fun s _ _ => trivial
  | cons event events ih =>
      intro s hI hP
      obtain ⟨hQ, hnext⟩ := hstep s event (List.mem_cons_self ..) hI hP.1
      have hrest := ih fun s' e he => hstep s' e (List.mem_cons_of_mem _ he)
      exact ⟨hQ, hrest _ hnext hP.2⟩

/-- An invariant of the steps holds at the end of a run. -/
theorem foldl_keeps {events : List ι} (hstep : ∀ s, ∀ event ∈ events, I s → I (step s event)) :
    ∀ s, I s → I (events.foldl step s) := by
  induction events with
  | nil => exact fun s h => h
  | cons event events ih =>
      intro s hI
      have hrest := ih fun s' e he => hstep s' e (List.mem_cons_of_mem _ he)
      exact hrest _ (hstep s event (List.mem_cons_self ..) hI)

end Effectful
