import VDataplane.Handshake

namespace VDataplane.Startup

open GuardedRun

/-!
# What a packetiser takes with it

A packetiser that ends frees objects that it only looked up, and nobody creates
them a second time.  Whatever the programs do afterwards, no packetiser that had
found nothing yet will ever find everything; and if none has found anything when
that happens, the engine waits for its first message for ever.
-/

/-! ## Lost objects -/

/-- An object that is not registered, and that the engine will not create. -/
structure Lost
    (state : State)
    (role : Role) :
    Prop where
  notPending :
    role ∉ state.primary.pending
  notRegistered :
    ∀ raw, ¬ Registered state.eal role raw

/-- A step that creates nothing and registers nothing finds nothing lost. -/
theorem lost_of_subset
    {state after : State}
    {role : Role}
    (lost : Lost state role)
    (pending : after.primary.pending ⊆ state.primary.pending)
    (registered :
      ∀ role raw, Registered after.eal role raw → Registered state.eal role raw) :
    Lost after role where
  notPending member :=
    lost.notPending (pending member)
  notRegistered raw isRegistered :=
    lost.notRegistered raw (registered role raw isRegistered)

/-- What is lost stays lost. -/
theorem lost_step
    {state : State}
    {role : Role}
    (lost : Lost state role)
    (action : Action) :
    Lost (step state action) role := by
  cases action with
  | primary call =>
      rcases Primary.call_cases state.eal state.primary call with
        createsNothing | ⟨next, raw, creates⟩
      · exact lost_of_subset lost createsNothing.pending.subset
          createsNothing.registered
      · have notPending := lost.notPending
        rw [creates.pending, List.mem_cons, not_or] at notPending
        refine ⟨notPending.2, ?_⟩
        intro address registered
        rcases (creates.gains role address).mp registered with
          earlier | ⟨same, _⟩
        · exact lost.notRegistered address earlier
        · exact notPending.1 same
  | packetiser pid call =>
      refine lost_of_subset lost (List.Subset.refl _) ?_
      intro other raw registered
      simp only [step] at registered
      rcases Process.call_cases state.eal (state.packetisers pid) call with
        keeps | ⟨_, _, finds⟩ | ⟨_, _, _, frees⟩
      · rwa [keeps.environment] at registered
      · rwa [finds.environment] at registered
      · rw [frees.environment] at registered
        exact registered_of_handleDrop registered
  | sayHello pid =>
      simp only [step]
      split
      · exact lost_of_subset lost (List.Subset.refl _) fun _ _ => id
      · exact lost
  | receive hello =>
      simp only [step]
      split
      · split
        · exact lost_of_subset lost (List.nil_subset _) fun _ _ => id
        · exact lost
      · exact lost
  | helloLost hello =>
      exact lost_of_subset lost (List.Subset.refl _) fun _ _ => id
  | traffic rings pools =>
      refine lost_of_subset lost (List.Subset.refl _) ?_
      intro other raw registered
      cases other <;> exact registered

/-- A packetiser frees what the engine created, and it is lost. -/
theorem exists_lost_of_freesHandle
    {state : State}
    {action : Action}
    (sound : Sound state)
    (frees : FreesHandle state action) :
    ∃ role, Lost (step state action) role := by
  rcases frees with ⟨pid, part, rest, rfl, unwinding⟩
  have held := sound.found pid
  rw [unwinding] at held
  have known : part ∈ state.primary.created :=
    held List.mem_cons_self
  obtain ⟨_, createdOnce, apart⟩ := List.nodup_append.mp sound.once
  refine ⟨part.role, ?_, ?_⟩
  · intro pending
    exact apart _ pending _ (List.mem_map_of_mem known) rfl
  · intro raw registered
    simp only [step, unwinding] at registered
    obtain ⟨earlier, elsewhere⟩ := registered_partDrop_iff.mp registered
    have samePart : part.role.part raw = part :=
      List.inj_on_of_nodup_map createdOnce
        (sound.registered part.role raw earlier) known (part_role _ _)
    rw [← samePart] at elsewhere
    simp at elsewhere

/-! ## Packetisers that will never start -/

/-- Something that the process has still to find is lost, unless it is on its way out. -/
def Doomed (state : State) (pid : Nat) : Prop :=
  ∀ needed,
    (state.packetisers pid).needs? = some needed →
    ∃ role ∈ needed, Lost state role

/-- A doomed process has not found everything. -/
theorem connection?_of_doomed
    {state : State}
    {pid : Nat}
    (doomed : Doomed state pid) :
    (state.packetisers pid).connection? = none := by
  unfold Doomed at doomed
  cases phase : state.packetisers pid <;>
    simp [phase, Process.needs?, Process.connection?] at doomed ⊢

/-- A step that leaves a doomed process where it is leaves it doomed. -/
theorem doomed_of_same
    {state : State}
    {action : Action}
    {pid : Nat}
    (doomed : Doomed state pid)
    (same :
      (step state action).packetisers pid = state.packetisers pid) :
    Doomed (step state action) pid := by
  intro needed needs
  rw [same] at needs
  obtain ⟨role, member, lost⟩ := doomed needed needs
  exact ⟨role, member, lost_step lost action⟩

/-- The next lookup of a doomed process does not find what is lost. -/
theorem doomed_packetiser
    {state : State}
    {pid : Nat}
    (doomed : Doomed state pid)
    (call : PacketiserCall) :
    Doomed (step state (.packetiser pid call)) pid := by
  intro needed needs
  simp only [step, Function.update_self] at needs
  rcases Process.call_cases state.eal (state.packetisers pid) call with
    keeps | ⟨role, raw, finds⟩ | ⟨_, _, _, frees⟩
  · obtain ⟨role, member, lost⟩ := doomed needed (keeps.needs needed needs)
    exact ⟨role, member, lost_step lost _⟩
  · obtain ⟨rest, before, after⟩ := finds.needs
    obtain ⟨other, member, lost⟩ := doomed _ before
    obtain rfl := Option.some.inj (after.symm.trans needs)
    rcases List.mem_cons.mp member with rfl | stillNeeded
    · exact (lost.notRegistered raw finds.registered).elim
    · exact ⟨other, stillNeeded, lost_step lost _⟩
  · rw [frees.after] at needs
    simp [Process.needs?] at needs

/-- A doomed process stays doomed. -/
theorem doomed_step
    (state : State)
    (action : Action)
    {pid : Nat}
    (doomed : Doomed state pid) :
    Doomed (step state action) pid := by
  cases action with
  | primary call =>
      exact doomed_of_same doomed rfl
  | packetiser other call =>
      by_cases same : pid = other
      · subst same
        exact doomed_packetiser doomed call
      · exact doomed_of_same doomed (Function.update_of_ne same _ _)
  | sayHello other =>
      refine doomed_of_same doomed ?_
      simp only [step]
      split
      · next connection isCreated =>
          refine Function.update_of_ne ?_ _ _
          rintro rfl
          have unconnected := connection?_of_doomed doomed
          rw [isCreated] at unconnected
          cases unconnected
      · rfl
  | receive hello =>
      refine doomed_of_same doomed ?_
      simp only [step]
      split
      · split <;> rfl
      · rfl
  | helloLost hello =>
      exact doomed_of_same doomed rfl
  | traffic rings pools =>
      exact doomed_of_same doomed rfl

/-- The process has found nothing yet, or is on its way out. -/
def Process.Unconnected : Process → Prop
  | .absent =>
      True
  | .initialised =>
      True
  | .unwinding _ =>
      True
  | .ended =>
      True
  | _ =>
      False

/-- After a packetiser has freed a handle, whoever has found nothing yet is doomed. -/
theorem doomed_of_freesHandle
    {state : State}
    {action : Action}
    (sound : Sound state)
    (frees : FreesHandle state action)
    {pid : Nat}
    (unconnected : (state.packetisers pid).Unconnected) :
    Doomed (step state action) pid := by
  obtain ⟨role, lost⟩ := exists_lost_of_freesHandle sound frees
  rcases frees with ⟨other, part, rest, rfl, unwinding⟩
  intro needed needs
  by_cases same : pid = other
  · subst same
    simp [step, unwinding, Process.call, Process.needs?] at needs
  · simp only [step, Function.update_of_ne same] at needs
    refine ⟨role, ?_, lost⟩
    cases phase : state.packetisers pid <;>
      simp only [phase, Process.Unconnected, Process.needs?, reduceCtorEq,
        Option.some.injEq] at unconnected needs
    all_goals
      subst needs
      cases role <;> decide

/-- Whoever is doomed never comes to work with the engine. -/
theorem never_connected_of_freesHandle
    {state : State}
    {action : Action}
    (sound : Sound state)
    (frees : FreesHandle state action)
    (later : List Action)
    {pid : Nat}
    (unconnected : (state.packetisers pid).Unconnected) :
    ((run step state (action :: later)).packetisers pid).connection? =
      none := by
  have doomed := doomed_of_freesHandle sound frees unconnected
  exact connection?_of_doomed
    (run_invariant (fun state action => doomed_step state action) doomed later)

/--
Once a packetiser has freed a handle, no packetiser that had found nothing by
then ever comes to work with the engine, whatever the programs do later.
-/
theorem no_packetiser_starts_after_free
    {eal : Eal}
    (vacant : Vacant eal)
    {earlier : List Action}
    {action : Action}
    (frees : FreesHandle (run step (start eal) earlier) action)
    (later : List Action)
    {pid : Nat}
    (unconnected :
      ((run step (start eal) earlier).packetisers pid).Unconnected) :
    ((run step (start eal) (earlier ++ action :: later)).packetisers
      pid).connection? = none := by
  rw [run_append]
  exact never_connected_of_freesHandle (sound_run vacant earlier) frees later
    unconnected

/-! ## An engine that waits for ever -/

/-- The engine has not entered its main loop, and nobody will make it. -/
structure Stalled (state : State) : Prop where
  notRunning :
    state.primary.hello? = none
  noneUnderWay :
    state.hellos = []
  doomed :
    ∀ pid, Doomed state pid

/-- A stalled engine receives nothing, since nobody can send anything. -/
theorem stalled_step
    (state : State)
    (action : Action)
    (stalled : Stalled state) :
    Stalled (step state action) := by
  obtain ⟨notRunning, noneUnderWay, doomed⟩ := stalled
  suffices
      (step state action).primary.hello? = none ∧
        (step state action).hellos = [] from
    ⟨this.1, this.2, fun pid => doomed_step state action (doomed pid)⟩
  cases action with
  | primary call =>
      refine ⟨?_, noneUnderWay⟩
      rcases Primary.call_cases state.eal state.primary call with
        createsNothing | ⟨_, _, creates⟩
      · rw [Option.eq_none_iff_forall_ne_some]
        intro hello received
        have already := createsNothing.hello hello received
        simp [notRunning] at already
      · exact creates.hello
  | packetiser pid call =>
      exact ⟨notRunning, noneUnderWay⟩
  | sayHello pid =>
      simp only [step]
      split
      · next connection isCreated =>
          have unconnected := connection?_of_doomed (doomed pid)
          rw [isCreated] at unconnected
          cases unconnected
      · exact ⟨notRunning, noneUnderWay⟩
  | receive hello =>
      simp [step, noneUnderWay, notRunning]
  | helloLost hello =>
      simp [step, noneUnderWay, notRunning]
  | traffic rings pools =>
      exact ⟨notRunning, noneUnderWay⟩

/--
When a packetiser frees a handle before the engine has entered its main loop,
while no message is under way and no other packetiser has found anything, the
engine never enters its main loop.  A packetiser that is started too early, and
finds the first of the two rings only, does this to an engine that is still
starting.
-/
theorem engine_waits_for_ever
    {eal : Eal}
    (vacant : Vacant eal)
    {earlier : List Action}
    {action : Action}
    (frees : FreesHandle (run step (start eal) earlier) action)
    (notRunning : (run step (start eal) earlier).primary.hello? = none)
    (noneUnderWay : (run step (start eal) earlier).hellos = [])
    (unconnected :
      ∀ pid, ((run step (start eal) earlier).packetisers pid).Unconnected)
    (later : List Action) :
    (run step (start eal) (earlier ++ action :: later)).primary.hello? =
      none := by
  have sound := sound_run vacant earlier
  have stalled : Stalled (step (run step (start eal) earlier) action) := by
    refine ⟨?_, ?_, ?_⟩
    · rcases frees with ⟨_, _, _, rfl, _⟩
      exact notRunning
    · rcases frees with ⟨_, _, _, rfl, _⟩
      exact noneUnderWay
    · intro pid
      exact doomed_of_freesHandle sound frees (unconnected pid)
  rw [run_append, run_cons]
  exact (run_invariant stalled_step stalled later).notRunning

/-- The engine has created the first ring, and a packetiser has not found the second. -/
def tooEarly : List Action :=
  engineStarts.take 5 ++
    [.packetiser 0 (.ealInit true), .packetiser 0 .lookupE2c,
      .packetiser 0 .lookupC2e]

/-- The engine goes on, and another packetiser is started. -/
def secondAttempt : List Action :=
  engineStarts.drop 5 ++ packetiserStarts 1 ++ [.receive ⟨1, sampleConnection⟩]

theorem freesHandle_tooEarly :
    FreesHandle (run step (start Eal.initial) tooEarly)
      (.packetiser 0 .dropNext) :=
  ⟨0, .e2c ⟨1, .e2c, 10⟩, [], rfl, by decide⟩

theorem unconnected_tooEarly
    (pid : Nat) :
    ((run step (start Eal.initial) tooEarly).packetisers
      pid).Unconnected := by
  cases pid with
  | zero =>
      exact trivial
  | succ pid =>
      exact trivial

theorem no_packetiser_starts_after_free_second_attempt :
    ((run step (start Eal.initial)
        (tooEarly ++ .packetiser 0 .dropNext :: secondAttempt)).packetisers
      1).connection? = none :=
  no_packetiser_starts_after_free vacant_initial freesHandle_tooEarly
    secondAttempt (unconnected_tooEarly 1)

theorem engine_waits_for_ever_second_attempt :
    (run step (start Eal.initial)
        (tooEarly ++ .packetiser 0 .dropNext ::
          secondAttempt)).primary.hello? = none :=
  engine_waits_for_ever vacant_initial freesHandle_tooEarly (by decide)
    (by decide) unconnected_tooEarly secondAttempt

end VDataplane.Startup
