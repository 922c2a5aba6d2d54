import VDataplane.GuardedRun

namespace VDataplane.GuardedRun

/-!
# Runs side by side

Two machines that take their steps together.  A relation between their states
that every pair of related actions preserves relates the final states of two
runs, however long they are.

A machine refines another one when, besides, both show the same of every step.
What a run shows is its trace.
-/

section Lockstep

variable
  {FirstState SecondState FirstAction SecondAction : Type*}
  {firstStep : FirstState → FirstAction → FirstState}
  {secondStep : SecondState → SecondAction → SecondState}

/-- Runs whose actions are related one by one stay related. -/
theorem run_related
    {related : FirstState → SecondState → Prop}
    {relatedActions : FirstAction → SecondAction → Prop}
    (preserved :
      ∀ {first second firstAction secondAction},
        related first second →
        relatedActions firstAction secondAction →
        related (firstStep first firstAction)
          (secondStep second secondAction))
    {first : FirstState}
    {second : SecondState}
    (atStart : related first second)
    {firstActions : List FirstAction}
    {secondActions : List SecondAction}
    (actions : List.Forall₂ relatedActions firstActions secondActions) :
    related (run firstStep first firstActions)
      (run secondStep second secondActions) := by
  induction actions generalizing first second with
  | nil =>
      exact atStart
  | cons relatedHeads _ inductionHypothesis =>
      exact inductionHypothesis (preserved atStart relatedHeads)

end Lockstep

section Refinement

variable
  {State Action AbstractState AbstractAction Observation : Type*}

/-- What the steps of a run show, in their order. -/
def trace
    (step : State → Action → State)
    (observe : State → Action → Observation) :
    State → List Action → List Observation
  | _, [] =>
      []
  | state, action :: rest =>
      observe state action :: trace step observe (step state action) rest

/--
The refinement rule: while the guard holds, steps that show the same and keep the
states related make runs that show the same and end in related states.
-/
theorem run_refines
    {step : State → Action → State}
    {abstractStep : AbstractState → AbstractAction → AbstractState}
    {observe : State → Action → Observation}
    {abstractObserve : AbstractState → AbstractAction → Observation}
    {related : State → AbstractState → Prop}
    {guard : State → Action → Prop}
    {translate : Action → AbstractAction}
    (refines :
      ∀ {state abstractState action},
        related state abstractState →
        guard state action →
        observe state action =
            abstractObserve abstractState (translate action) ∧
          related (step state action)
            (abstractStep abstractState (translate action)))
    {state : State}
    {abstractState : AbstractState}
    (atStart : related state abstractState)
    {actions : List Action}
    (guarded : EveryStep step guard state actions) :
    trace step observe state actions =
        trace abstractStep abstractObserve abstractState
          (actions.map translate) ∧
      related (run step state actions)
        (run abstractStep abstractState (actions.map translate)) := by
  induction actions generalizing state abstractState with
  | nil =>
      exact ⟨rfl, atStart⟩
  | cons action rest inductionHypothesis =>
      obtain ⟨guardedHead, guardedRest⟩ := everyStep_cons.mp guarded
      obtain ⟨sameHead, relatedNext⟩ := refines atStart guardedHead
      obtain ⟨sameRest, relatedAtEnd⟩ :=
        inductionHypothesis relatedNext guardedRest
      refine ⟨?_, relatedAtEnd⟩
      rw [trace, sameHead, sameRest]
      rfl

end Refinement

end VDataplane.GuardedRun
