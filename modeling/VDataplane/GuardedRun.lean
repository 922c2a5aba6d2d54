import Mathlib

namespace VDataplane.GuardedRun

/-!
# Runs of deterministic labelled machines

A machine is a step function from a state and an action to the next state.
Everything a real step leaves to its environment (an allocator's answer, the
traffic of a peer, a caller's argument) belongs to the action, so a run is
determined by its initial state and its list of actions.

The module packages the inductions over runs once.  A *guard* is a condition
on the state before a step and on its action; the rules below turn facts about
one guarded step into facts about every state of a run.
-/

variable {State Action : Type*}

/-- Execute a list of actions from left to right. -/
def run
    (step : State → Action → State)
    (initial : State)
    (actions : List Action) :
    State :=
  actions.foldl step initial

@[simp] theorem run_nil
    (step : State → Action → State)
    (initial : State) :
    run step initial [] = initial :=
  rfl

@[simp] theorem run_cons
    (step : State → Action → State)
    (initial : State)
    (action : Action)
    (rest : List Action) :
    run step initial (action :: rest) =
      run step (step initial action) rest :=
  rfl

/-- A run may be continued. -/
theorem run_append
    (step : State → Action → State)
    (initial : State)
    (done rest : List Action) :
    run step initial (done ++ rest) = run step (run step initial done) rest :=
  List.foldl_append

/-- `holds` is true of every state in which the run takes a step and of the action it takes there. -/
def EveryStep
    (step : State → Action → State)
    (holds : State → Action → Prop) :
    State → List Action → Prop
  | _, [] =>
      True
  | state, action :: rest =>
      holds state action ∧
        EveryStep step holds (step state action) rest

/-- `property` is true of every state that the run reaches, the initial and the final one included. -/
def Always
    (step : State → Action → State)
    (property : State → Prop)
    (initial : State)
    (actions : List Action) :
    Prop :=
  ∀ done, done <+: actions → property (run step initial done)

/-- Deciding a condition of every step evaluates the run once. -/
instance EveryStep.decidable
    (step : State → Action → State)
    (holds : State → Action → Prop)
    [∀ state action, Decidable (holds state action)] :
    ∀ state actions, Decidable (EveryStep step holds state actions)
  | _, [] =>
      .isTrue trivial
  | state, action :: rest =>
      have := EveryStep.decidable step holds (step state action) rest
      inferInstanceAs (Decidable (_ ∧ _))

@[simp] theorem everyStep_nil
    {step : State → Action → State}
    {holds : State → Action → Prop}
    {state : State} :
    EveryStep step holds state [] :=
  trivial

@[simp] theorem everyStep_cons
    {step : State → Action → State}
    {holds : State → Action → Prop}
    {state : State}
    {action : Action}
    {rest : List Action} :
    EveryStep step holds state (action :: rest) ↔
      holds state action ∧
        EveryStep step holds (step state action) rest :=
  Iff.rfl

/-- Conditions that say the same of every step are true of the same runs. -/
theorem everyStep_congr
    {step : State → Action → State}
    {first second : State → Action → Prop}
    (same : ∀ state action, first state action ↔ second state action)
    (initial : State)
    (actions : List Action) :
    EveryStep step first initial actions ↔
      EveryStep step second initial actions := by
  induction actions generalizing initial with
  | nil =>
      exact Iff.rfl
  | cons action rest inductionHypothesis =>
      rw [everyStep_cons, everyStep_cons, same,
        inductionHypothesis (step initial action)]

/-- Two conditions hold at every step exactly when their conjunction does. -/
theorem everyStep_and
    {step : State → Action → State}
    {first second : State → Action → Prop}
    {initial : State}
    {actions : List Action} :
    EveryStep step
        (fun state action => first state action ∧ second state action)
        initial actions ↔
      EveryStep step first initial actions ∧
        EveryStep step second initial actions := by
  induction actions generalizing initial with
  | nil =>
      simp
  | cons action rest inductionHypothesis =>
      simp only [everyStep_cons, inductionHypothesis]
      exact and_and_and_comm

/-- A run always has a property exactly when it starts with it and every step ends with it. -/
theorem always_iff_everyStep
    {step : State → Action → State}
    {property : State → Prop}
    {initial : State}
    {actions : List Action} :
    Always step property initial actions ↔
      property initial ∧
        EveryStep step
          (fun state action => property (step state action))
          initial actions := by
  induction actions generalizing initial with
  | nil =>
      simp [Always]
  | cons action rest inductionHypothesis =>
      rw [everyStep_cons]
      constructor
      · intro always
        have later : Always step property (step initial action) rest := by
          intro done isPrefix
          exact always (action :: done)
            ((List.prefix_cons_inj action).mpr isPrefix)
        exact ⟨always [] List.nil_prefix,
          inductionHypothesis.mp later⟩
      · rintro ⟨atStart, afterFirst, afterRest⟩ done isPrefix
        cases done with
        | nil =>
            exact atStart
        | cons head tail =>
            obtain ⟨rfl, tailPrefix⟩ := List.cons_prefix_cons.mp isPrefix
            exact inductionHypothesis.mpr ⟨afterFirst, afterRest⟩
              tail tailPrefix

/-- An invariant that every step preserves holds after every run. -/
theorem run_invariant
    {step : State → Action → State}
    {invariant : State → Prop}
    (preserved :
      ∀ state action, invariant state → invariant (step state action))
    {initial : State}
    (atStart : invariant initial)
    (actions : List Action) :
    invariant (run step initial actions) := by
  induction actions generalizing initial with
  | nil =>
      exact atStart
  | cons action rest inductionHypothesis =>
      exact inductionHypothesis (preserved initial action atStart)

/--
The guarded-run rule: when guarded steps preserve an invariant and each of
them has a property, every step of a guarded run has that property.
-/
theorem everyStep_of_guarded
    {step : State → Action → State}
    {invariant : State → Prop}
    {guard holds : State → Action → Prop}
    (preserved :
      ∀ state action,
        invariant state → guard state action →
        invariant (step state action))
    (ofGuard :
      ∀ state action,
        invariant state → guard state action → holds state action)
    {initial : State}
    (atStart : invariant initial)
    {actions : List Action}
    (guarded : EveryStep step guard initial actions) :
    EveryStep step holds initial actions := by
  induction actions generalizing initial with
  | nil =>
      trivial
  | cons action rest inductionHypothesis =>
      obtain ⟨first, later⟩ := guarded
      exact ⟨ofGuard initial action atStart first,
        inductionHypothesis (preserved initial action atStart first) later⟩

/-- A condition that the actions meet in whatever state is true of every step. -/
theorem everyStep_of_forall_mem
    {step : State → Action → State}
    {holds : State → Action → Prop}
    {actions : List Action}
    (always : ∀ action ∈ actions, ∀ state, holds state action)
    (initial : State) :
    EveryStep step holds initial actions := by
  induction actions generalizing initial with
  | nil =>
      trivial
  | cons action rest inductionHypothesis =>
      obtain ⟨first, later⟩ := List.forall_mem_cons.mp always
      exact ⟨first initial, inductionHypothesis later (step initial action)⟩

/-- A condition on the actions alone is true of every step when all actions meet it. -/
theorem everyStep_iff_forall_mem
    {step : State → Action → State}
    {holds : Action → Prop}
    (initial : State)
    (actions : List Action) :
    EveryStep step (fun _ action => holds action) initial actions ↔
      ∀ action ∈ actions, holds action := by
  induction actions generalizing initial with
  | nil =>
      simp
  | cons action rest inductionHypothesis =>
      rw [everyStep_cons, List.forall_mem_cons, inductionHypothesis]

/--
The exact guarded-run rule over runs of enabled actions: when, under an
invariant that guarded steps preserve, an enabled step has a property exactly
if its guard holds, then all steps of a run have the property exactly if all
their guards hold.
-/
theorem everyStep_iff_guarded_of_enabled
    {step : State → Action → State}
    {invariant : State → Prop}
    {enabled guard holds : State → Action → Prop}
    (preserved :
      ∀ state action,
        invariant state → enabled state action → guard state action →
        invariant (step state action))
    (exact :
      ∀ state action,
        invariant state → enabled state action →
        (holds state action ↔ guard state action))
    {initial : State}
    (atStart : invariant initial)
    {actions : List Action}
    (allEnabled : EveryStep step enabled initial actions) :
    EveryStep step holds initial actions ↔
      EveryStep step guard initial actions := by
  induction actions generalizing initial with
  | nil =>
      exact Iff.rfl
  | cons action rest inductionHypothesis =>
      obtain ⟨isEnabled, restEnabled⟩ := allEnabled
      rw [everyStep_cons, everyStep_cons,
        exact initial action atStart isEnabled]
      refine and_congr_right ?_
      intro first
      exact inductionHypothesis
        (preserved initial action atStart isEnabled first) restEnabled

/-- The exact guarded-run rule over all runs. -/
theorem everyStep_iff_guarded
    {step : State → Action → State}
    {invariant : State → Prop}
    {guard holds : State → Action → Prop}
    (preserved :
      ∀ state action,
        invariant state → guard state action →
        invariant (step state action))
    (exact :
      ∀ state action,
        invariant state → (holds state action ↔ guard state action))
    {initial : State}
    (atStart : invariant initial)
    (actions : List Action) :
    EveryStep step holds initial actions ↔
      EveryStep step guard initial actions := by
  apply everyStep_iff_guarded_of_enabled ?_ ?_ atStart
  · exact everyStep_of_forall_mem (fun _ _ _ => trivial) initial
  · intro state action isInvariant _ isGuarded
    exact preserved state action isInvariant isGuarded
  · intro state action isInvariant _
    exact exact state action isInvariant

/--
The exact rule for a state property: a run always has it exactly if all its
steps are guarded.
-/
theorem always_iff_guarded
    {step : State → Action → State}
    {property : State → Prop}
    {guard : State → Action → Prop}
    (exact :
      ∀ state action,
        property state →
        (property (step state action) ↔ guard state action))
    {initial : State}
    (atStart : property initial)
    (actions : List Action) :
    Always step property initial actions ↔
      EveryStep step guard initial actions := by
  rw [always_iff_everyStep, and_iff_right atStart]
  exact everyStep_iff_guarded
    (fun state action holds => (exact state action holds).mpr)
    exact atStart actions

end VDataplane.GuardedRun
