import VDataplane.Interleaving

namespace VDataplane.TwoPartCalls

open Interleaving

/-!
# Calls of two parts

A call acts on one object first and on another one second, and other threads
may act in between.  A thread that finds its second object untouched by then
might have done both parts at once at the first one; a thread that finds its
first object untouched might have done both at once at the second one.  When
every call is in one of these two situations, all calls take effect in some
order, whichever of the two situations each of them is in.
-/

variable {Thread State Call : Type*}

/-- The two parts of calls, and which parts of two calls stay clear of each other. -/
structure Parts (State Call : Type*) where
  first : State → Call → State
  second : State → Call → State
  FirstApart : Call → Call → Prop
  SecondApart : Call → Call → Prop
  first_symm :
    ∀ {one other}, FirstApart one other → FirstApart other one
  first_comm :
    ∀ {one other},
      FirstApart one other → ∀ state,
        first (first state one) other = first (first state other) one
  second_comm :
    ∀ {one other},
      SecondApart one other → ∀ state,
        second (second state one) other = second (second state other) one
  /-- A first and a second part act on different objects. -/
  cross_comm :
    ∀ one other state,
      second (first state one) other = first (second state other) one

/-- What is seen of a call: one of its parts, or both of them as one step. -/
inductive Event (Call : Type*) where
  | first (call : Call)
  | second (call : Call)
  | whole (call : Call)

/-- A thread's events are these calls, each in one step or in two. -/
inductive Performs : List (Event Call) → List Call → Prop where
  | nil :
      Performs [] []
  | whole {call : Call} {events : List (Event Call)} {calls : List Call} :
      Performs events calls →
      Performs (.whole call :: events) (call :: calls)
  | halves {call : Call} {events : List (Event Call)} {calls : List Call} :
      Performs events calls →
      Performs (.first call :: .second call :: events) (call :: calls)

namespace Performs

variable
  {call : Call}
  {events : List (Event Call)}
  {calls : List Call}

theorem calls_of_nil
    (performs : Performs [] calls) :
    calls = [] := by
  cases performs
  rfl

theorem calls_of_whole
    (performs : Performs (.whole call :: events) calls) :
    ∃ later, calls = call :: later ∧ Performs events later := by
  cases performs with
  | whole later =>
      exact ⟨_, rfl, later⟩

/-- A thread that has begun a call goes on with its second part. -/
theorem calls_of_first
    (performs : Performs (.first call :: events) calls) :
    ∃ rest later,
      events = .second call :: rest ∧
        calls = call :: later ∧ Performs rest later := by
  cases performs with
  | halves later =>
      exact ⟨_, _, rfl, rfl, later⟩

/-- No thread starts with a second part. -/
theorem not_second :
    ¬ Performs (.second call :: events) calls := by
  intro performs
  cases performs

/-- When one thread is through with a call, the others have their calls before them as before. -/
theorem update
    [DecidableEq Thread]
    {programs : Thread → List Call}
    {trace rest : List (Thread × Event Call)}
    (performs : ∀ thread, Performs (actionsOf thread trace) (programs thread))
    {thread : Thread}
    (own : Performs (actionsOf thread rest) calls)
    (others :
      ∀ other, other ≠ thread →
        actionsOf other rest = actionsOf other trace)
    (other : Thread) :
    Performs (actionsOf other rest)
      (Function.update programs thread calls other) := by
  by_cases same : other = thread
  · subst other
    rw [Function.update_self]
    exact own
  · rw [Function.update_of_ne same, others other same]
    exact performs other

end Performs

namespace Parts

variable (parts : Parts State Call)

/-- Both parts of a call at once. -/
def whole
    (state : State)
    (call : Call) :
    State :=
  parts.second (parts.first state call) call

/-- The effect of an event. -/
def step (state : State) : Event Call → State
  | .first call =>
      parts.first state call
  | .second call =>
      parts.second state call
  | .whole call =>
      parts.whole state call

/-- An event stays clear of the first part of a call. -/
def ClearOfFirst (call : Call) : Event Call → Prop
  | .first other
  | .whole other =>
      parts.FirstApart other call
  | .second _ =>
      True

/-- An event stays clear of the second part of a call. -/
def ClearOfSecond (call : Call) : Event Call → Prop
  | .first _ =>
      True
  | .second other
  | .whole other =>
      parts.SecondApart other call

/--
Between the two parts of every call, the other threads stay clear of its first
part, or they stay clear of its second part.
-/
def Undisturbed [DecidableEq Thread] : List (Thread × Event Call) → Prop
  | [] =>
      True
  | (thread, .first call) :: rest =>
      (Meanwhile thread (parts.ClearOfFirst call) rest ∨
          Meanwhile thread (parts.ClearOfSecond call) rest) ∧
        Undisturbed rest
  | (_, .second _) :: rest
  | (_, .whole _) :: rest =>
      Undisturbed rest

variable {parts}

/-! ## Moving a part -/

/-- An event that stays clear of a first part can change places with it. -/
theorem first_commutes
    {call : Call}
    {event : Event Call}
    (clear : parts.ClearOfFirst call event)
    (state : State) :
    parts.step (parts.step state event) (.first call) =
      parts.step (parts.step state (.first call)) event := by
  cases event with
  | first other =>
      exact parts.first_comm clear state
  | second other =>
      exact (parts.cross_comm call other state).symm
  | whole other =>
      have sameFirst := parts.first_comm clear state
      have crossed := parts.cross_comm call other (parts.first state other)
      simp only [step, whole]
      rw [← crossed, sameFirst]

/-- An event that stays clear of a second part can change places with it. -/
theorem second_commutes
    {call : Call}
    {event : Event Call}
    (clear : parts.ClearOfSecond call event)
    (state : State) :
    parts.step (parts.step state event) (.second call) =
      parts.step (parts.step state (.second call)) event := by
  cases event with
  | first other =>
      exact parts.cross_comm other call state
  | second other =>
      exact parts.second_comm clear state
  | whole other =>
      have sameSecond :=
        parts.second_comm clear (parts.first state other)
      have crossed := parts.cross_comm other call state
      simp only [step, whole]
      rw [sameSecond, crossed]

section Traces

variable
  {thread : Thread}
  {call : Call}
  {between after : List (Thread × Event Call)}

/-- A call whose second object stays untouched happens at its first part. -/
theorem execute_early
    (clear : ∀ event ∈ between, parts.ClearOfSecond call event.2)
    (state : State) :
    execute parts.step state
        ((thread, .first call) :: (between ++ (thread, .second call) :: after)) =
      execute parts.step (parts.whole state call) (between ++ after) := by
  have moved :=
    execute_commute
      (fun event member => second_commutes (clear event member))
      (parts.step state (.first call))
  rw [execute_cons, execute_append, execute_append, execute_cons, moved]
  rfl

/-- A call whose first object stays untouched happens at its second part. -/
theorem execute_late
    (clear : ∀ event ∈ between, parts.ClearOfFirst call event.2)
    (state : State) :
    execute parts.step state
        ((thread, .first call) :: (between ++ (thread, .second call) :: after)) =
      execute parts.step state (between ++ (thread, .whole call) :: after) := by
  have moved :=
    execute_commute
      (fun event member => first_commutes (clear event member)) state
  rw [execute_cons, execute_append, execute_append, execute_cons,
    execute_cons, ← moved]
  rfl

/--
Replacing the second part of a call leaves the other calls undisturbed, if the
calls that have begun before do not see the difference.
-/
theorem undisturbed_replace
    [DecidableEq Thread]
    {replacement : List (Thread × Event Call)}
    (others : ∀ event ∈ between, event.1 ≠ thread)
    (sameFirst :
      ∀ owner other, (owner, Event.first other) ∈ between →
        ∀ event ∈ replacement, parts.ClearOfFirst other event.2)
    (sameSecond :
      ∀ other, parts.SecondApart call other →
        ∀ event ∈ replacement, parts.ClearOfSecond other event.2)
    (replaced : parts.Undisturbed after → parts.Undisturbed (replacement ++ after))
    (undisturbed :
      parts.Undisturbed (between ++ (thread, .second call) :: after)) :
    parts.Undisturbed (between ++ (replacement ++ after)) := by
  induction between with
  | nil =>
      exact replaced undisturbed
  | cons event rest inductionHypothesis =>
      obtain ⟨notThread, restOthers⟩ := List.forall_mem_cons.mp others
      have restFirst :
          ∀ owner other, (owner, Event.first other) ∈ rest →
            ∀ event ∈ replacement, parts.ClearOfFirst other event.2 := by
        intro owner other member
        exact sameFirst owner other (List.mem_cons_of_mem event member)
      have restUndisturbed := inductionHypothesis restOthers restFirst
      obtain ⟨owner, step⟩ := event
      cases step with
      | first other =>
          obtain ⟨clear, later⟩ := undisturbed
          refine ⟨?_, restUndisturbed later⟩
          apply clear.imp
          · intro clearOfFirst
            refine meanwhile_replace (Ne.symm notThread) ?_ clearOfFirst
            intro _
            exact sameFirst owner other List.mem_cons_self
          · intro clearOfSecond
            refine meanwhile_replace (Ne.symm notThread) ?_ clearOfSecond
            exact sameSecond other
      | second other =>
          exact restUndisturbed undisturbed
      | whole other =>
          exact restUndisturbed undisturbed

/-- A call may be delayed until its second part when its first object stays untouched. -/
theorem undisturbed_late
    [DecidableEq Thread]
    (others : ∀ event ∈ between, event.1 ≠ thread)
    (clear : ∀ event ∈ between, parts.ClearOfFirst call event.2)
    (undisturbed :
      parts.Undisturbed (between ++ (thread, .second call) :: after)) :
    parts.Undisturbed (between ++ (thread, .whole call) :: after) := by
  have replaced :
      parts.Undisturbed (between ++ ([(thread, .whole call)] ++ after)) := by
    apply undisturbed_replace others ?_ ?_ ?_ undisturbed
    · intro owner other member
      have apart := clear (owner, .first other) member
      exact List.forall_mem_singleton.mpr (parts.first_symm apart)
    · intro other apart
      exact List.forall_mem_singleton.mpr apart
    · exact id
  exact replaced

/-- A call that has happened as a whole disturbs nobody any more. -/
theorem undisturbed_early
    [DecidableEq Thread]
    (others : ∀ event ∈ between, event.1 ≠ thread)
    (undisturbed :
      parts.Undisturbed (between ++ (thread, .second call) :: after)) :
    parts.Undisturbed (between ++ after) := by
  have replaced : parts.Undisturbed (between ++ ([] ++ after)) := by
    apply undisturbed_replace others ?_ ?_ ?_ undisturbed
    · intro owner other _
      exact List.forall_mem_nil _
    · intro other _
      exact List.forall_mem_nil _
    · exact id
  exact replaced

/-- Joining the parts of a call at the second one changes no thread's calls. -/
theorem performs_late
    [DecidableEq Thread]
    {programs : Thread → List Call}
    (others : ∀ event ∈ between, event.1 ≠ thread)
    (performs :
      ∀ other,
        Performs
          (actionsOf other
            ((thread, .first call) ::
              (between ++ (thread, .second call) :: after)))
          (programs other))
    (other : Thread) :
    Performs
      (actionsOf other (between ++ (thread, .whole call) :: after))
      (programs other) := by
  have before := performs other
  by_cases same : other = thread
  · subst other
    have notBetween := actionsOf_eq_nil_iff.mpr others
    rw [actionsOf_cons_self, actionsOf_append, notBetween,
      List.nil_append, actionsOf_cons_self] at before
    obtain ⟨_, later, goesOn, starts, performsLater⟩ := before.calls_of_first
    obtain ⟨_, rfl⟩ := List.cons.inj goesOn
    rw [actionsOf_append, notBetween, List.nil_append, actionsOf_cons_self,
      starts]
    exact .whole performsLater
  · have notOwn := Ne.symm same
    rw [actionsOf_cons_other notOwn, actionsOf_append,
      actionsOf_cons_other notOwn] at before
    rw [actionsOf_append, actionsOf_cons_other notOwn]
    exact before

/-- Taking a call out at its first part leaves its thread with the later calls. -/
theorem performs_early
    [DecidableEq Thread]
    {programs : Thread → List Call}
    {later : List Call}
    (others : ∀ event ∈ between, event.1 ≠ thread)
    (performs :
      ∀ other,
        Performs
          (actionsOf other
            ((thread, .first call) ::
              (between ++ (thread, .second call) :: after)))
          (programs other))
    (performsLater : Performs (actionsOf thread after) later)
    (other : Thread) :
    Performs (actionsOf other (between ++ after))
      (Function.update programs thread later other) := by
  apply Performs.update performs
  · rw [actionsOf_append, actionsOf_eq_nil_iff.mpr others]
    exact performsLater
  · intro other different
    have notOwn := Ne.symm different
    rw [actionsOf_cons_other notOwn, actionsOf_append, actionsOf_append,
      actionsOf_cons_other notOwn]

/--
The reduction: the effect of an undisturbed trace is that of whole calls, in an
order that keeps every thread's own one.
-/
theorem exists_serial_of_undisturbed
    [DecidableEq Thread]
    {programs : Thread → List Call}
    {trace : List (Thread × Event Call)}
    (performs : ∀ thread, Performs (actionsOf thread trace) (programs thread))
    (undisturbed : parts.Undisturbed trace)
    (state : State) :
    ∃ order,
      Merges programs order ∧
        execute parts.whole state order =
          execute parts.step state trace := by
  -- Joining two parts or taking out a call makes the trace shorter.
  induction size : trace.length using Nat.strong_induction_on
    generalizing programs trace state with
  | _ size inductionHypothesis =>
      subst size
      cases trace with
      | nil =>
          refine ⟨[], Merges.nil_iff.mpr ?_, rfl⟩
          intro thread
          exact (performs thread).calls_of_nil
      | cons event rest =>
          obtain ⟨thread, event⟩ := event
          have own := performs thread
          rw [actionsOf_cons_self] at own
          cases event with
          | whole call =>
              obtain ⟨later, starts, performsLater⟩ := own.calls_of_whole
              have restPerforms :=
                Performs.update performs performsLater
                  (fun other different =>
                    (actionsOf_cons_other (Ne.symm different) _ rest).symm)
              obtain ⟨order, merges, sameEffect⟩ :=
                inductionHypothesis rest.length (Nat.lt_succ_self _)
                  restPerforms undisturbed (parts.whole state call) rfl
              exact ⟨(thread, call) :: order,
                Merges.cons_iff.mpr ⟨later, starts, merges⟩, sameEffect⟩
          | second call =>
              exact (Performs.not_second own).elim
          | first call =>
              obtain ⟨_, later, goesOn, starts, performsLater⟩ :=
                own.calls_of_first
              obtain ⟨between, after, rfl, others, rfl⟩ := exists_next goesOn
              obtain ⟨clear, restUndisturbed⟩ := undisturbed
              rw [meanwhile_append_iff others, meanwhile_append_iff others]
                at clear
              rcases clear with clearOfFirst | clearOfSecond
              · rw [execute_late clearOfFirst]
                exact inductionHypothesis _ (by simp)
                  (performs_late others performs)
                  (undisturbed_late others clearOfFirst restUndisturbed)
                  state rfl
              · obtain ⟨order, merges, sameEffect⟩ :=
                  inductionHypothesis _ (by simp)
                    (performs_early others performs performsLater)
                    (undisturbed_early others restUndisturbed)
                    (parts.whole state call) rfl
                refine ⟨(thread, call) :: order,
                  Merges.cons_iff.mpr ⟨later, starts, merges⟩, ?_⟩
                rw [execute_early clearOfSecond]
                exact sameEffect

end Traces

end Parts

end VDataplane.TwoPartCalls
