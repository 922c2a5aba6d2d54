import VDataplane.GuardedRun

namespace VDataplane.Interleaving

open GuardedRun

/-!
# Interleavings of threads

A trace lists the actions of several threads in the order in which they happen.
It merges the threads' programs when every thread finds its own program in it.

The last part speaks about what the other threads do until a thread takes its
next action.
-/

variable {Thread Action Call State : Type*}

/-- Execute the actions of a trace, whoever takes them. -/
def execute
    (step : State → Action → State)
    (initial : State)
    (trace : List (Thread × Action)) :
    State :=
  run step initial (trace.map Prod.snd)

@[simp] theorem execute_nil
    (step : State → Action → State)
    (initial : State) :
    execute step initial ([] : List (Thread × Action)) = initial :=
  rfl

@[simp] theorem execute_cons
    (step : State → Action → State)
    (initial : State)
    (event : Thread × Action)
    (rest : List (Thread × Action)) :
    execute step initial (event :: rest) =
      execute step (step initial event.2) rest :=
  rfl

@[simp] theorem execute_append
    (step : State → Action → State)
    (initial : State)
    (first second : List (Thread × Action)) :
    execute step initial (first ++ second) =
      execute step (execute step initial first) second := by
  simp [execute, run]

/-- An action that commutes with all actions of a trace can be taken before it. -/
theorem execute_commute
    {step : State → Action → State}
    {action : Action}
    {trace : List (Thread × Action)}
    (commutes :
      ∀ event ∈ trace, ∀ state,
        step (step state event.2) action = step (step state action) event.2)
    (initial : State) :
    step (execute step initial trace) action =
      execute step (step initial action) trace := by
  induction trace generalizing initial with
  | nil =>
      rfl
  | cons event rest inductionHypothesis =>
      obtain ⟨first, later⟩ := List.forall_mem_cons.mp commutes
      rw [execute_cons, execute_cons, inductionHypothesis later, first]

/--
The simulation rule for traces: one machine follows another one that takes only
those actions that are extracted.
-/
theorem execute_filterMap
    {Other : Type*}
    {step : State → Action → State}
    {otherStep : Other → Call → Other}
    {extract : Action → Option Call}
    {related : State → Other → Prop}
    (skipped :
      ∀ {action state other},
        extract action = none → related state other →
        related (step state action) other)
    (followed :
      ∀ {action call state other},
        extract action = some call → related state other →
        related (step state action) (otherStep other call))
    {initial : State}
    {other : Other}
    (atStart : related initial other)
    (trace : List (Thread × Action)) :
    related (execute step initial trace)
      (execute otherStep other
        (trace.filterMap fun event =>
          (extract event.2).map fun call => (event.1, call))) := by
  induction trace generalizing initial other with
  | nil =>
      exact atStart
  | cons event rest inductionHypothesis =>
      cases extracted : extract event.2 with
      | none =>
          simp only [List.filterMap_cons, extracted, Option.map_none]
          exact inductionHypothesis (skipped extracted atStart)
      | some call =>
          simp only [List.filterMap_cons, extracted, Option.map_some]
          exact inductionHypothesis (followed extracted atStart)

section Threads

variable [DecidableEq Thread]

/-- The actions of one thread, in order. -/
def actionsOf
    (thread : Thread)
    (trace : List (Thread × Action)) :
    List Action :=
  trace.filterMap fun event =>
    if event.1 = thread then some event.2 else none

/-- Every thread's actions in a trace are its program. -/
def Merges
    (programs : Thread → List Action)
    (trace : List (Thread × Action)) :
    Prop :=
  ∀ thread, actionsOf thread trace = programs thread

@[simp] theorem actionsOf_nil (thread : Thread) :
    actionsOf thread ([] : List (Thread × Action)) = [] :=
  rfl

@[simp] theorem actionsOf_cons_self
    (thread : Thread)
    (action : Action)
    (rest : List (Thread × Action)) :
    actionsOf thread ((thread, action) :: rest) =
      action :: actionsOf thread rest := by
  simp [actionsOf]

theorem actionsOf_cons_other
    {owner thread : Thread}
    (different : owner ≠ thread)
    (action : Action)
    (rest : List (Thread × Action)) :
    actionsOf thread ((owner, action) :: rest) = actionsOf thread rest := by
  simp [actionsOf, different]

@[simp] theorem actionsOf_append
    (thread : Thread)
    (first second : List (Thread × Action)) :
    actionsOf thread (first ++ second) =
      actionsOf thread first ++ actionsOf thread second := by
  simp [actionsOf]

/-- A thread has no actions exactly when others take all of them. -/
theorem actionsOf_eq_nil_iff
    {thread : Thread}
    {trace : List (Thread × Action)} :
    actionsOf thread trace = [] ↔ ∀ event ∈ trace, event.1 ≠ thread := by
  simp [actionsOf]

/-- A thread that takes all actions has all of them. -/
theorem actionsOf_eq_map
    {thread : Thread}
    {trace : List (Thread × Action)}
    (own : ∀ event ∈ trace, event.1 = thread) :
    actionsOf thread trace = trace.map Prod.snd := by
  induction trace with
  | nil =>
      rfl
  | cons event rest inductionHypothesis =>
      obtain ⟨rfl, restOwn⟩ := List.forall_mem_cons.mp own
      rw [actionsOf_cons_self, inductionHypothesis restOwn, List.map_cons]

/-- A trace splits at the next action of a thread. -/
theorem exists_next
    {thread : Thread}
    {trace : List (Thread × Action)}
    {action : Action}
    {later : List Action}
    (next : actionsOf thread trace = action :: later) :
    ∃ between after,
      trace = between ++ (thread, action) :: after ∧
        (∀ event ∈ between, event.1 ≠ thread) ∧
        actionsOf thread after = later := by
  induction trace with
  | nil =>
      simp at next
  | cons event rest inductionHypothesis =>
      obtain ⟨owner, taken⟩ := event
      by_cases same : owner = thread
      · subst owner
        obtain ⟨rfl, sameLater⟩ := by
          simpa only [actionsOf_cons_self, List.cons.injEq] using next
        exact ⟨[], rest, rfl, by simp, sameLater⟩
      · rw [actionsOf_cons_other same] at next
        obtain ⟨between, after, rfl, others, sameLater⟩ :=
          inductionHypothesis next
        exact ⟨(owner, taken) :: between, after, rfl,
          List.forall_mem_cons.mpr ⟨same, others⟩, sameLater⟩

/-- Keeping some of the actions keeps those of each thread. -/
theorem actionsOf_filterMap
    (extract : Action → Option Call)
    (thread : Thread)
    (trace : List (Thread × Action)) :
    actionsOf thread
        (trace.filterMap fun event =>
          (extract event.2).map fun call => (event.1, call)) =
      (actionsOf thread trace).filterMap extract := by
  induction trace with
  | nil =>
      rfl
  | cons event rest inductionHypothesis =>
      obtain ⟨owner, action⟩ := event
      cases extracted : extract action with
      | none =>
          by_cases same : owner = thread
          · subst owner
            simp [extracted, inductionHypothesis]
          · simp [actionsOf_cons_other same, extracted, inductionHypothesis]
      | some call =>
          by_cases same : owner = thread
          · subst owner
            simp [extracted, inductionHypothesis]
          · simp [actionsOf_cons_other same, extracted, inductionHypothesis]

/-- Renaming the actions renames those of each thread. -/
theorem actionsOf_map
    (rename : Action → Call)
    (thread : Thread)
    (trace : List (Thread × Action)) :
    actionsOf thread (trace.map fun event => (event.1, rename event.2)) =
      (actionsOf thread trace).map rename := by
  have extracted := actionsOf_filterMap (some ∘ rename) thread trace
  simpa using extracted

namespace Merges

variable
  {programs : Thread → List Action}
  {trace : List (Thread × Action)}

/-- Nothing happens exactly when all programs are empty. -/
theorem nil_iff :
    Merges programs [] ↔ ∀ thread, programs thread = [] := by
  constructor
  · intro merges thread
    exact (merges thread).symm
  · intro allEmpty thread
    exact (allEmpty thread).symm

/-- A trace starts with the first action of some thread's program. -/
theorem cons_iff
    {thread : Thread}
    {action : Action} :
    Merges programs ((thread, action) :: trace) ↔
      ∃ later,
        programs thread = action :: later ∧
          Merges (Function.update programs thread later) trace := by
  constructor
  · intro merges
    refine ⟨actionsOf thread trace, ?_, ?_⟩
    · rw [← merges thread, actionsOf_cons_self]
    · intro other
      by_cases same : other = thread
      · subst other
        rw [Function.update_self]
      · rw [Function.update_of_ne same, ← merges other,
          actionsOf_cons_other (Ne.symm same)]
  · rintro ⟨later, starts, merges⟩ other
    have atOther := merges other
    by_cases same : other = thread
    · subst other
      rw [Function.update_self] at atOther
      rw [actionsOf_cons_self, atOther, starts]
    · rw [Function.update_of_ne same] at atOther
      rw [actionsOf_cons_other (Ne.symm same), atOther]

end Merges

/-! ## Until a thread goes on -/

/-- All actions before the next one of a thread are of a kind. -/
def Meanwhile
    (thread : Thread)
    (kind : Action → Prop)
    (trace : List (Thread × Action)) :
    Prop :=
  ∀ event ∈ trace.takeWhile fun event => event.1 ≠ thread, kind event.2

section Meanwhile

variable
  {thread : Thread}
  {kind : Action → Prop}

@[simp] theorem meanwhile_nil : Meanwhile thread kind [] := by
  simp [Meanwhile]

theorem meanwhile_cons_iff
    {event : Thread × Action}
    {rest : List (Thread × Action)} :
    Meanwhile thread kind (event :: rest) ↔
      event.1 = thread ∨ kind event.2 ∧ Meanwhile thread kind rest := by
  by_cases same : event.1 = thread
  · simp [Meanwhile, same]
  · simp [Meanwhile, same]

/-- A kind of renamed actions. -/
theorem meanwhile_map
    {rename : Call → Action}
    {trace : List (Thread × Call)}
    (meanwhile : Meanwhile thread (kind ∘ rename) trace) :
    Meanwhile thread kind
      (trace.map fun event => (event.1, rename event.2)) := by
  induction trace with
  | nil =>
      exact meanwhile_nil
  | cons event rest inductionHypothesis =>
      rw [List.map_cons, meanwhile_cons_iff]
      exact (meanwhile_cons_iff.mp meanwhile).imp id
        (And.imp id inductionHypothesis)

/-- What all actions are, they are in a wider sense. -/
theorem Meanwhile.imp
    {wider : Action → Prop}
    {trace : List (Thread × Action)}
    (meanwhile : Meanwhile thread kind trace)
    (weaken : ∀ action, kind action → wider action) :
    Meanwhile thread wider trace :=
  fun event member => weaken event.2 (meanwhile event member)

/-- Up to a known next action, all actions are of the kind. -/
theorem meanwhile_append_iff
    {between after : List (Thread × Action)}
    {action : Action}
    (others : ∀ event ∈ between, event.1 ≠ thread) :
    Meanwhile thread kind (between ++ (thread, action) :: after) ↔
      ∀ event ∈ between, kind event.2 := by
  induction between with
  | nil =>
      simp [meanwhile_cons_iff]
  | cons event rest inductionHypothesis =>
      obtain ⟨notNext, restOthers⟩ := List.forall_mem_cons.mp others
      rw [List.cons_append, meanwhile_cons_iff,
        or_iff_right notNext, inductionHypothesis restOthers,
        List.forall_mem_cons]

/-- An action of another thread may be replaced by others of the same kind. -/
theorem meanwhile_replace
    {between after replacement : List (Thread × Action)}
    {event : Thread × Action}
    (notNext : event.1 ≠ thread)
    (sameKind : kind event.2 → ∀ other ∈ replacement, kind other.2)
    (meanwhile : Meanwhile thread kind (between ++ event :: after)) :
    Meanwhile thread kind (between ++ (replacement ++ after)) := by
  induction between with
  | nil =>
      obtain ⟨isKind, afterwards⟩ :=
        (meanwhile_cons_iff.mp meanwhile).resolve_left notNext
      have replaced := sameKind isKind
      rw [List.nil_append]
      clear sameKind meanwhile
      induction replacement with
      | nil =>
          exact afterwards
      | cons other rest inductionHypothesis =>
          obtain ⟨otherKind, restKind⟩ := List.forall_mem_cons.mp replaced
          exact meanwhile_cons_iff.mpr
            (Or.inr ⟨otherKind, inductionHypothesis restKind⟩)
  | cons head rest inductionHypothesis =>
      rcases meanwhile_cons_iff.mp meanwhile with isNext | ⟨isKind, restKind⟩
      · exact meanwhile_cons_iff.mpr (Or.inl isNext)
      · exact meanwhile_cons_iff.mpr
          (Or.inr ⟨isKind, inductionHypothesis restKind⟩)

end Meanwhile

end Threads

end VDataplane.Interleaving
