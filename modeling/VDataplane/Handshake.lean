import VDataplane.GuardedRun
import VDataplane.Startup

namespace VDataplane.Startup

open GuardedRun

/-!
# The handshake of the engine and a packetiser

What one call of either program does to the registries and to the handles that
it holds, and what follows for every order of the calls: two programs that have
met hold the same rings and the same mempool, and a packetiser can be started
until another one has freed what it found.
-/

/-! ## The calls of the engine -/

namespace Primary

/-- A call that creates nothing.  Only an engine on its way out frees anything. -/
structure CreatesNothing
    (eal : Eal)
    (primary : Primary)
    (result : Primary × Eal) :
    Prop where
  created :
    result.1.created = primary.created
  pending :
    result.1.pending <:+ primary.pending
  hello :
    ∀ hello, result.1.hello? = some hello → primary.hello? = some hello
  registered :
    ∀ role raw, Registered result.2 role raw → Registered eal role raw
  alive :
    ¬ result.1.Over → ¬ primary.Over ∧ SameObjects eal result.2

/-- A call that creates the next object. -/
structure Creates
    (eal : Eal)
    (primary : Primary)
    (result : Primary × Eal)
    (role : Role)
    (raw : Address) :
    Prop where
  created :
    result.1.created = role.part raw :: primary.created
  pending :
    primary.pending = role :: result.1.pending
  hello :
    result.1.hello? = none
  gains :
    Gains role raw eal result.2
  alive :
    ¬ primary.Over

/-- An engine on its way out creates nothing any more. -/
theorem createsNothing_of_over
    {eal after : Eal}
    {primary next : Primary}
    (isOver : next.Over)
    (created : next.created = primary.created)
    (registered :
      ∀ role raw, Registered after role raw → Registered eal role raw) :
    CreatesNothing eal primary (next, after) where
  created :=
    created
  pending := by
    cases next <;> simp [Over, pending] at isOver ⊢
  hello hello received := by
    cases next <;> simp [Over, hello?] at isOver received
  registered :=
    registered
  alive notOver :=
    (notOver isOver).elim

/-- A call that panics creates nothing. -/
theorem createsNothing_panic
    {eal after : Eal}
    (primary : Primary)
    (same : SameObjects eal after) :
    CreatesNothing eal primary (panic primary, after) :=
  createsNothing_of_over trivial rfl fun role raw => (same role raw).mp

/-- A call after which the engine stands elsewhere, with the same handles and the same to create. -/
theorem createsNothing_of_same
    {eal after : Eal}
    {primary next : Primary}
    (created : next.created = primary.created)
    (pending : next.pending = primary.pending)
    (hello : ∀ hello, next.hello? = some hello → primary.hello? = some hello)
    (alive : ¬ next.Over → ¬ primary.Over)
    (same : SameObjects eal after) :
    CreatesNothing eal primary (next, after) where
  created :=
    created
  pending :=
    pending ▸ List.suffix_rfl
  hello :=
    hello
  registered role raw registered :=
    (same role raw).mp registered
  alive notOver :=
    ⟨alive notOver, same⟩

/-- Every call creates the next object, or none. -/
theorem call_cases
    (eal : Eal)
    (primary : Primary)
    (next : PrimaryCall) :
    CreatesNothing eal primary (primary.call eal next) ∨
      ∃ role raw, Creates eal primary (primary.call eal next) role raw := by
  fun_cases Primary.call eal primary next
  · -- `eal_init`
    next succeeds =>
      cases succeeds
      · exact Or.inl (createsNothing_panic _ (SameObjects.refl eal))
      · exact Or.inl (createsNothing_of_same rfl rfl nofun (fun _ => id)
          (SameObjects.refl eal))
  · next _ created =>
      exact Or.inr ⟨.mempool, _, rfl, rfl, rfl,
        gains_of_mempoolNew created, id⟩
  · next _ _ failed =>
      exact Or.inl (createsNothing_panic _ (sameObjects_of_mempoolNew failed))
  · -- `Port::new`, `Port::configure`, `Port::start`
    next succeed =>
      cases succeed
      · exact Or.inl (createsNothing_panic _ (SameObjects.refl eal))
      · exact Or.inl (createsNothing_of_same rfl rfl nofun (fun _ => id)
          (SameObjects.refl eal))
  · next _ reserved =>
      exact Or.inl (createsNothing_of_same rfl rfl nofun (fun _ => id)
        (sameObjects_memzoneNew reserved))
  · next _ _ failed =>
      exact Or.inl (createsNothing_panic _ (sameObjects_memzoneNew failed))
  · next mempool memzone _ engineToClient after created =>
      obtain ⟨handle, gains⟩ :=
        gains_of_ringNew .e2c rfl rfl created
      exact Or.inr ⟨.e2c, engineToClient.raw, by
        rw [handle]
        rfl, rfl, rfl, gains, id⟩
  · next failed =>
      exact Or.inl (createsNothing_panic _ (sameObjects_of_ringNew failed))
  · next mempool memzone _ _ clientToEngine after created =>
      obtain ⟨handle, gains⟩ :=
        gains_of_ringNew .c2e rfl rfl created
      exact Or.inr ⟨.c2e, clientToEngine.raw, by
        rw [handle]
        rfl, rfl, rfl, gains, id⟩
  · next failed =>
      exact Or.inl (createsNothing_panic _ (sameObjects_of_ringNew failed))
  · -- `bind`
    next succeeds =>
      cases succeeds
      · exact Or.inl (createsNothing_panic _ (SameObjects.refl eal))
      · exact Or.inl (createsNothing_of_same rfl rfl nofun (fun _ => id)
          (SameObjects.refl eal))
  · exact Or.inl (createsNothing_panic _ (SameObjects.refl eal))
  · exact Or.inl (createsNothing_panic _ (SameObjects.refl eal))
  · exact Or.inl (createsNothing_of_over trivial rfl fun _ _ => id)
  · exact Or.inl (createsNothing_of_over trivial rfl fun _ _ => id)
  · exact Or.inl (createsNothing_of_over trivial rfl
      fun _ _ => registered_of_handleDrop)
  · exact Or.inl (createsNothing_of_over trivial rfl fun _ _ => id)
  · -- The call is not the next one.
    exact Or.inl (createsNothing_of_same rfl rfl (fun _ => id) id
      (SameObjects.refl eal))

end Primary

/-! ## The calls of a packetiser -/

namespace Process

/-- A call that neither finds nor frees anything. -/
structure Keeps
    (eal : Eal)
    (process : Process)
    (result : Process × Eal) :
    Prop where
  environment :
    result.2 = eal
  found :
    result.1.found ⊆ process.found
  needs :
    ∀ needed, result.1.needs? = some needed → process.needs? = some needed
  connection :
    ∀ connection,
      result.1.connection? = some connection →
      process.connection? = some connection

/-- A call that finds the next object. -/
structure Finds
    (eal : Eal)
    (process : Process)
    (result : Process × Eal)
    (role : Role)
    (raw : Address) :
    Prop where
  environment :
    result.2 = eal
  registered :
    Registered eal role raw
  found :
    result.1.found ⊆ role.part raw :: process.found
  needs :
    ∃ rest,
      process.needs? = some (role :: rest) ∧ result.1.needs? = some rest

/-- The destructor of the next handle. -/
structure Frees
    (eal : Eal)
    (process : Process)
    (result : Process × Eal)
    (part : Part)
    (rest : List Part) :
    Prop where
  before :
    process = .unwinding (part :: rest)
  after :
    result.1 = .unwinding rest
  environment :
    result.2 = part.drop eal

/-- A process that leaves keeps what it has to free. -/
theorem keeps_leave
    (eal : Eal)
    (process : Process) :
    Keeps eal process (leave process, eal) where
  environment :=
    rfl
  found :=
    List.Subset.refl _
  needs :=
    nofun
  connection :=
    nofun

/-- Every call keeps what the process holds, finds the next object, or frees one. -/
theorem call_cases
    (eal : Eal)
    (process : Process)
    (next : PacketiserCall) :
    Keeps eal process (process.call eal next) ∨
      (∃ role raw, Finds eal process (process.call eal next) role raw) ∨
      ∃ part rest,
        next = .dropNext ∧
          Frees eal process (process.call eal next) part rest := by
  fun_cases Process.call eal process next
  · next succeeds =>
      cases succeeds
      · exact Or.inl (keeps_leave eal _)
      · exact Or.inl ⟨rfl, List.Subset.refl _, fun _ => id, nofun⟩
  · next engineToClient found =>
      obtain ⟨handle, registered⟩ := Ring.lookup_eq_ok_iff.mp found
      refine Or.inr (Or.inl ⟨.e2c, engineToClient.raw, rfl, registered,
        ?_, _, rfl, rfl⟩)
      rw [handle]
      exact List.Subset.refl _
  · exact Or.inl (keeps_leave eal _)
  · next _ clientToEngine found =>
      obtain ⟨handle, registered⟩ := Ring.lookup_eq_ok_iff.mp found
      refine Or.inr (Or.inl ⟨.c2e, clientToEngine.raw, rfl, registered,
        ?_, _, rfl, rfl⟩)
      rw [handle]
      exact List.Subset.refl _
  · exact Or.inl (keeps_leave eal _)
  · next channel mempool isFound =>
      refine Or.inr (Or.inl ⟨.mempool, mempool.raw, rfl,
        mempoolLookup_eq_ok_iff.mp isFound, ?_, _, rfl, rfl⟩)
      simp [found, Connection.parts, Role.part]
  · exact Or.inl (keeps_leave eal _)
  · exact Or.inl (keeps_leave eal _)
  · exact Or.inl (keeps_leave eal _)
  · exact Or.inl ⟨rfl, List.Subset.refl _, nofun, nofun⟩
  · next part rest =>
      exact Or.inr (Or.inr ⟨part, rest, rfl, rfl, rfl, rfl⟩)
  · exact Or.inl ⟨rfl, List.nil_subset _, nofun, nofun⟩
  · exact Or.inl ⟨rfl, List.Subset.refl _, fun _ => id, fun _ => id⟩

/-- What a process works with it has found. -/
theorem found_of_connection?
    {process : Process}
    {connection : Connection}
    (connected : process.connection? = some connection) :
    process.found = connection.parts := by
  cases process <;> simp [connection?] at connected <;> simp [found, connected]

end Process

/-! ## Every handle is one that the engine created -/

/-- The objects that programs know of are those that the engine created. -/
structure Sound (state : State) : Prop where
  registered :
    ∀ role raw,
      Registered state.eal role raw → role.part raw ∈ state.primary.created
  found :
    ∀ pid, (state.packetisers pid).found ⊆ state.primary.created
  underWay :
    ∀ hello ∈ state.hellos,
      hello.connection.parts ⊆ state.primary.created
  received :
    ∀ hello, state.primary.hello? = some hello →
      hello.connection.parts ⊆ state.primary.created
  handles :
    ∀ part ∈ state.primary.created, part = part.role.part part.raw
  /-- Each object is created once, or not yet. -/
  once :
    (state.primary.pending ++ state.primary.created.map Part.role).Nodup

/-- None of the objects is registered before the engine starts. -/
def Vacant (eal : Eal) : Prop :=
  ∀ role raw, ¬ Registered eal role raw

theorem sound_start
    {eal : Eal}
    (vacant : Vacant eal) :
    Sound (start eal) where
  registered role raw registered :=
    (vacant role raw registered).elim
  found _ :=
    List.nil_subset _
  underWay :=
    nofun
  received :=
    nofun
  handles :=
    nofun
  once := by
    simp [start, Primary.pending, Primary.created]

theorem sound_primary
    {state : State}
    (sound : Sound state)
    (call : PrimaryCall) :
    Sound (step state (.primary call)) := by
  simp only [step]
  rcases Primary.call_cases state.eal state.primary call with
    createsNothing | ⟨role, raw, creates⟩
  · have same := createsNothing.created
    refine ⟨?_, ?_, ?_, ?_, ?_, ?_⟩
    · intro role raw registered
      rw [same]
      exact sound.registered role raw
        (createsNothing.registered role raw registered)
    · rw [same]
      exact sound.found
    · rw [same]
      exact sound.underWay
    · intro hello received
      rw [same]
      exact sound.received hello (createsNothing.hello hello received)
    · rw [same]
      exact sound.handles
    · rw [same]
      exact sound.once.sublist
        (createsNothing.pending.sublist.append_right _)
  · have grown : state.primary.created ⊆
        (state.primary.call state.eal call).1.created := by
      rw [creates.created]
      exact List.subset_cons_self _ _
    refine ⟨?_, ?_, ?_, ?_, ?_, ?_⟩
    · intro other address registered
      rcases (creates.gains other address).mp registered with
        earlier | ⟨rfl, rfl⟩
      · exact grown (sound.registered other address earlier)
      · rw [creates.created]
        exact List.mem_cons_self
    · intro pid
      exact List.Subset.trans (sound.found pid) grown
    · intro hello member
      exact List.Subset.trans (sound.underWay hello member) grown
    · intro hello received
      simp [creates.hello] at received
    · rw [creates.created, List.forall_mem_cons]
      exact ⟨by simp, sound.handles⟩
    · have once := sound.once
      rw [creates.pending] at once
      rw [creates.created, List.map_cons, part_role]
      exact List.perm_middle.nodup_iff.mpr once

/-- A process that moves on holds nothing that the engine did not create. -/
theorem sound_of_process
    {state : State}
    (sound : Sound state)
    {pid : Nat}
    {process : Process}
    {eal : Eal}
    (found : process.found ⊆ state.primary.created)
    (registered :
      ∀ role raw, Registered eal role raw → Registered state.eal role raw) :
    Sound { state with
      eal := eal
      packetisers := Function.update state.packetisers pid process } where
  registered role raw isRegistered :=
    sound.registered role raw (registered role raw isRegistered)
  found other := by
    by_cases same : other = pid
    · subst same
      simpa using found
    · simpa [same] using sound.found other
  underWay :=
    sound.underWay
  received :=
    sound.received
  handles :=
    sound.handles
  once :=
    sound.once

theorem sound_packetiser
    {state : State}
    (sound : Sound state)
    (pid : Nat)
    (call : PacketiserCall) :
    Sound (step state (.packetiser pid call)) := by
  have held := sound.found pid
  simp only [step]
  rcases Process.call_cases state.eal (state.packetisers pid) call with
    keeps | ⟨role, raw, finds⟩ | ⟨part, rest, _, frees⟩
  · rw [keeps.environment]
    exact sound_of_process sound (List.Subset.trans keeps.found held)
      fun _ _ => id
  · rw [finds.environment]
    have known := sound.registered role raw finds.registered
    exact sound_of_process sound
      (List.Subset.trans finds.found (List.cons_subset.mpr ⟨known, held⟩))
      fun _ _ => id
  · rw [frees.before] at held
    rw [frees.after, frees.environment]
    exact sound_of_process sound (List.Subset.trans (List.subset_cons_self _ _) held)
      fun _ _ => registered_of_handleDrop

/-- Every action keeps the handles of all programs sound. -/
theorem sound_step
    (state : State)
    (action : Action)
    (sound : Sound state) :
    Sound (step state action) := by
  cases action with
  | primary call =>
      exact sound_primary sound call
  | packetiser pid call =>
      exact sound_packetiser sound pid call
  | sayHello pid =>
      simp only [step]
      split
      · next connection isCreated =>
          have held := sound.found pid
          rw [isCreated] at held
          have next :=
            @sound_of_process state sound pid (.running connection)
              state.eal held fun _ _ => id
          refine { next with underWay := ?_ }
          intro hello member
          rcases List.mem_append.mp member with earlier | isNew
          · exact sound.underWay hello earlier
          · rw [List.mem_singleton.mp isNew]
            exact held
      · exact sound
  | receive hello =>
      simp only [step]
      split
      · next isUnderWay =>
          split
          · next memzone connection isWaiting =>
              obtain ⟨registered, found, underWay, _, handles, once⟩ := sound
              rw [isWaiting] at registered found underWay handles once
              refine ⟨registered, found, ?_, ?_, handles, once⟩
              · intro other member
                exact underWay other (List.mem_of_mem_erase member)
              · rintro _ ⟨rfl⟩
                exact underWay hello isUnderWay
          · exact sound
      · exact sound
  | helloLost hello =>
      exact { sound with
        underWay := fun other member =>
          sound.underWay other (List.mem_of_mem_erase member) }
  | traffic rings pools =>
      refine { sound with registered := ?_ }
      intro role raw registered
      refine sound.registered role raw ?_
      cases role <;> exact registered

theorem sound_run
    {eal : Eal}
    (vacant : Vacant eal)
    (actions : List Action) :
    Sound (run step (start eal) actions) :=
  run_invariant sound_step (sound_start vacant) actions

/-- What the engine has created is what its main loop will work with. -/
theorem created_of_connection?
    {primary : Primary}
    {connection : Connection}
    (connected : primary.connection? = some connection) :
    primary.created = connection.parts := by
  cases primary <;>
    simp [Primary.connection?] at connected <;>
    simp [Primary.created, connected]

/-- The roles of the handles tell them apart. -/
theorem connection_ext
    {first second : Connection}
    (known : first.parts ⊆ second.parts) :
    first = second := by
  obtain ⟨⟨firstC2e, firstE2c⟩, firstMempool⟩ := first
  obtain ⟨⟨secondC2e, secondE2c⟩, secondMempool⟩ := second
  simpa [Connection.parts, and_assoc] using known

/--
Whatever the order of the calls and however many packetisers are started, once
the engine has created everything, every packetiser that has found everything
works with the engine's rings and mempool, and so did the one whose message let
the engine enter its main loop.
-/
theorem programs_that_met_agree
    {eal : Eal}
    (vacant : Vacant eal)
    (actions : List Action)
    {engine : Connection}
    (created :
      (run step (start eal) actions).primary.connection? = some engine) :
    (∀ pid connection,
      ((run step (start eal) actions).packetisers pid).connection? =
          some connection →
        connection = engine) ∧
      ∀ hello,
        (run step (start eal) actions).primary.hello? = some hello →
        hello.connection = engine := by
  have sound := sound_run vacant actions
  have parts := created_of_connection? created
  refine ⟨?_, ?_⟩
  · intro pid connection connected
    have known := sound.found pid
    rw [parts, Process.found_of_connection? connected] at known
    exact connection_ext known
  · intro hello received
    have known := sound.received hello received
    rw [parts] at known
    exact connection_ext known

theorem vacant_initial : Vacant Eal.initial := by
  intro role raw
  cases role <;> exact NamedRegistry.not_registered_empty _ _

/-- The calls of the engine up to the wait for a message, all of which succeed. -/
def engineStarts : List Action :=
  [.primary (.ealInit true),
    .primary (.createMempool (.ok (Dpdk.PoolMemory.consecutive _ 5 100))),
    .primary (.preparePorts true),
    .primary (.reserveMemzone (.ok 6)),
    .primary (.createE2c (.ok 10)),
    .primary (.createC2e (.ok 20)),
    .primary (.bind true)]

/-- The calls of a packetiser up to its message. -/
def packetiserStarts (pid : Nat) : List Action :=
  [.packetiser pid (.ealInit true),
    .packetiser pid .lookupE2c,
    .packetiser pid .lookupC2e,
    .packetiser pid .lookupMempool,
    .sayHello pid]

/-- What both programs work with after these calls. -/
def sampleConnection : Connection where
  channel :=
    ⟨⟨1, .c2e, 20⟩, ⟨1, .e2c, 10⟩⟩
  mempool :=
    ⟨5⟩

/-- The run in which one packetiser is started and the engine hears of it. -/
def oneHandshake : List Action :=
  engineStarts ++ packetiserStarts 0 ++ [.receive ⟨0, sampleConnection⟩]

theorem programs_that_met_agree_one_handshake :
    (∀ pid connection,
      ((run step (start Eal.initial) oneHandshake).packetisers
          pid).connection? = some connection →
        connection = sampleConnection) ∧
      ∀ hello,
        (run step (start Eal.initial) oneHandshake).primary.hello? =
            some hello →
        hello.connection = sampleConnection :=
  programs_that_met_agree vacant_initial oneHandshake (by decide)

/-! ## Freeing what another program uses -/

/-- The next action is the destructor of a packetiser's handle. -/
def FreesHandle (state : State) (action : Action) : Prop :=
  ∃ pid part rest,
    action = .packetiser pid .dropNext ∧
      state.packetisers pid = .unwinding (part :: rest)

/-- All that the engine has created is registered. -/
def Intact (state : State) : Prop :=
  ∀ part ∈ state.primary.created,
    Registered state.eal part.role part.raw

/-- An engine that is not over was not over before. -/
theorem alive_of_alive_step
    (state : State)
    (action : Action)
    (alive : ¬ (step state action).primary.Over) :
    ¬ state.primary.Over := by
  cases action with
  | primary call =>
      rcases Primary.call_cases state.eal state.primary call with
        createsNothing | ⟨_, _, creates⟩
      · exact (createsNothing.alive alive).1
      · exact creates.alive
  | packetiser pid call =>
      exact alive
  | sayHello pid =>
      simp only [step] at alive
      split at alive <;> exact alive
  | receive hello =>
      simp only [step] at alive
      split at alive
      · split at alive
        · next isWaiting =>
            rw [isWaiting]
            exact id
        · exact alive
      · exact alive
  | helloLost hello =>
      exact alive
  | traffic rings pools =>
      exact alive

/-- What a packetiser frees was created by the engine, and is no longer registered. -/
theorem not_intact_of_freesHandle
    {state : State}
    {action : Action}
    (sound : Sound state)
    (frees : FreesHandle state action) :
    ¬ Intact (step state action) := by
  rcases frees with ⟨pid, part, rest, rfl, unwinding⟩
  have held := sound.found pid
  rw [unwinding] at held
  have known : part ∈ state.primary.created :=
    held List.mem_cons_self
  intro intact
  simp only [step, unwinding] at intact
  exact (registered_partDrop_iff.mp (intact part known)).2 rfl

/-- A call of a living engine frees nothing, and registers what it creates. -/
theorem intact_primary_iff
    {state : State}
    {call : PrimaryCall}
    (sound : Sound state)
    (alive : ¬ (step state (.primary call)).primary.Over) :
    Intact (step state (.primary call)) ↔ Intact state := by
  unfold Intact
  rcases Primary.call_cases state.eal state.primary call with
    createsNothing | ⟨role, raw, creates⟩
  · have same := (createsNothing.alive alive).2
    simp only [step, createsNothing.created, same _ _]
  · have once := sound.once
    rw [creates.pending, List.cons_append, List.nodup_cons] at once
    simp only [step, creates.created, List.forall_mem_cons,
      creates.gains _ _, part_role, part_raw, and_self, or_true, true_and]
    refine forall₂_congr ?_
    intro part known
    have different : part.role ≠ role := by
      rintro rfl
      exact once.1 (List.mem_append_right _ (List.mem_map_of_mem known))
    simp [different]

/--
As long as the engine lives, what it has created stays registered through a step
exactly when that step is not a packetiser's destructor.
-/
theorem intact_step_iff
    {state : State}
    {action : Action}
    (sound : Sound state)
    (alive : ¬ (step state action).primary.Over) :
    Intact (step state action) ↔
      Intact state ∧ ¬ FreesHandle state action := by
  by_cases frees : FreesHandle state action
  · simp [frees, not_intact_of_freesHandle sound frees]
  · rw [and_iff_left frees]
    cases action with
    | primary call =>
        exact intact_primary_iff sound alive
    | packetiser pid call =>
        simp only [step]
        rcases Process.call_cases state.eal (state.packetisers pid) call with
          keeps | ⟨_, _, finds⟩ | ⟨part, rest, rfl, isFree⟩
        · rw [keeps.environment]
          exact Iff.rfl
        · rw [finds.environment]
          exact Iff.rfl
        · exact (frees ⟨pid, part, rest, rfl, isFree.before⟩).elim
    | sayHello pid =>
        simp only [step]
        split <;> exact Iff.rfl
    | receive hello =>
        simp only [step]
        split
        · split
          · next isWaiting =>
              unfold Intact
              rw [isWaiting]
              exact Iff.rfl
          · exact Iff.rfl
        · exact Iff.rfl
    | helloLost hello =>
        exact Iff.rfl
    | traffic rings pools =>
        refine forall₂_congr ?_
        intro part _
        cases part <;> exact Iff.rfl

theorem alive_of_alive_run
    {state : State}
    {actions : List Action}
    (alive : ¬ (run step state actions).primary.Over) :
    ¬ state.primary.Over := by
  induction actions generalizing state with
  | nil =>
      exact alive
  | cons action rest inductionHypothesis =>
      exact alive_of_alive_step state action (inductionHypothesis alive)

/-- The same over a whole run. -/
theorem intact_run_iff
    {state : State}
    {actions : List Action}
    (sound : Sound state)
    (alive : ¬ (run step state actions).primary.Over) :
    Intact (run step state actions) ↔
      Intact state ∧
        EveryStep step (fun state action => ¬ FreesHandle state action)
          state actions := by
  induction actions generalizing state with
  | nil =>
      simp
  | cons action rest inductionHypothesis =>
      have aliveNext : ¬ (step state action).primary.Over :=
        alive_of_alive_run alive
      rw [run_cons, inductionHypothesis (sound_step state action sound) alive,
        intact_step_iff sound aliveNext, everyStep_cons, and_assoc]

/-- A channel is found exactly when both its rings are. -/
theorem channelLookup_eq_ok_iff
    {clientId : UInt16}
    {eal after : Eal}
    {channel : Channel} :
    Channel.lookup clientId eal = (.ok channel, after) ↔
      Ring.lookup .e2c clientId eal = .ok channel.engineToClient ∧
        Ring.lookup .c2e clientId eal = .ok channel.clientToEngine ∧
        after = eal := by
  obtain ⟨clientToEngine, engineToClient⟩ := channel
  unfold Channel.lookup
  cases first : Ring.lookup .e2c clientId eal with
  | error _ =>
      simp
  | ok foundE2c =>
      cases second : Ring.lookup .c2e clientId eal with
      | error _ =>
          simp
      | ok foundC2e =>
          simp only [Prod.mk.injEq, Except.ok.injEq, Channel.mk.injEq]
          tauto

/-- A packetiser starts exactly when its lookups find everything. -/
theorem packetiserNew_eq_ok_iff
    {eal : Eal}
    {connection : Connection}
    {cap : Nat} :
    (∃ packetiser,
      Packetiser.new cap eal = (.ok packetiser, eal) ∧
        packetiser.channel = connection.channel ∧
        packetiser.mempool = connection.mempool) ↔
      Channel.lookup Packetiser.packetiserId eal =
          (.ok connection.channel, eal) ∧
        Mempool.lookup Packetiser.gMempoolName eal =
          .ok connection.mempool := by
  constructor
  · rintro ⟨packetiser, started, sameChannel, sameMempool⟩
    unfold Packetiser.new at started
    split at started
    · simp at started
    · next channel after found =>
        obtain ⟨_, _, rfl⟩ := channelLookup_eq_ok_iff.mp found
        split at started
        · simp at started
        · next mempool alsoFound =>
            obtain rfl := by
              simpa only [Prod.mk.injEq, Except.ok.injEq, and_true] using started
            rw [← sameChannel, ← sameMempool]
            exact ⟨found, alsoFound⟩
  · rintro ⟨found, alsoFound⟩
    exact ⟨_, by
      simp only [Packetiser.new, found, alsoFound]
      rfl, rfl, rfl⟩

/--
While the engine lives and has created everything, `Packetiser::new` finds the
engine's rings and mempool exactly when no packetiser has freed anything so far.
One packetiser that ends, whether it panics or leaves its loop, keeps all later
ones from starting.
-/
theorem packetiser_starts_iff_none_freed
    {eal : Eal}
    (vacant : Vacant eal)
    (actions : List Action)
    {engine : Connection}
    (created :
      (run step (start eal) actions).primary.connection? = some engine)
    (cap : Nat) :
    (∃ packetiser,
      Packetiser.new cap (run step (start eal) actions).eal =
          (.ok packetiser, (run step (start eal) actions).eal) ∧
        packetiser.channel = engine.channel ∧
        packetiser.mempool = engine.mempool) ↔
      EveryStep step (fun state action => ¬ FreesHandle state action)
        (start eal) actions := by
  have sound := sound_run vacant actions
  have parts := created_of_connection? created
  have alive : ¬ (run step (start eal) actions).primary.Over := by
    intro isOver
    cases phase : (run step (start eal) actions).primary <;>
      simp [phase, Primary.Over, Primary.connection?] at isOver created
  have atStart : Intact (start eal) :=
    nofun
  have noneFreed := intact_run_iff (sound_start vacant) alive
  rw [and_iff_right atStart] at noneFreed
  rw [← noneFreed, packetiserNew_eq_ok_iff, channelLookup_eq_ok_iff,
    mempoolLookup_eq_ok_iff, Ring.lookup_eq_ok_iff, Ring.lookup_eq_ok_iff]
  have handles := sound.handles
  unfold Intact
  rw [parts] at handles ⊢
  simp only [Connection.parts, List.forall_mem_cons] at handles ⊢
  obtain ⟨isC2e, isE2c, _⟩ := handles
  constructor
  · rintro ⟨⟨⟨_, e2cRegistered⟩, ⟨_, c2eRegistered⟩, _⟩, mempoolRegistered⟩
    exact ⟨c2eRegistered, e2cRegistered, mempoolRegistered, nofun⟩
  · rintro ⟨c2eRegistered, e2cRegistered, mempoolRegistered, _⟩
    exact ⟨⟨⟨Part.e2c.inj isE2c, e2cRegistered⟩,
      ⟨Part.c2e.inj isC2e, c2eRegistered⟩, trivial⟩, mempoolRegistered⟩

theorem packetiser_starts_iff_none_freed_one_handshake :
    (∃ packetiser,
      Packetiser.new 512 (run step (start Eal.initial) oneHandshake).eal =
          (.ok packetiser, (run step (start Eal.initial) oneHandshake).eal) ∧
        packetiser.channel = sampleConnection.channel ∧
        packetiser.mempool = sampleConnection.mempool) ↔
      EveryStep step (fun state action => ¬ FreesHandle state action)
        (start Eal.initial) oneHandshake :=
  packetiser_starts_iff_none_freed vacant_initial oneHandshake (by decide) 512

end VDataplane.Startup
