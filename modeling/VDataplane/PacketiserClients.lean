import VDataplane.GuardedRun
import VDataplane.Packetiser
import VDataplane.RingRegistry

namespace VDataplane.PacketiserClients

open GuardedRun

/-!
# The clients of the packetiser

`add_client` chooses an id, records it and creates the client's channel;
`remove_clients` undoes the last two.  The ids should be distinct and different
from the two reserved ones, and the recorded ids should be the keys of the
client map.

The first holds until the 16-bit counter wraps, because an id is never reused.
The second holds until a ring creation fails, because the id has been recorded
by then.
-/

/-- One call that changes the set of clients, with DPDK's answers to its creations. -/
inductive Call where
  | addClient (e2c c2e : Dpdk.Allocation)
  | removeClients (key : UInt16)

/-- The packetiser, the global counter and the environment. -/
structure State where
  packetiser : Packetiser
  lastAllocatedId : UInt16
  eal : Eal

/-- The state in which the packetiser has just been created. -/
def start
    (packetiser : Packetiser)
    (eal : Eal) :
    State where
  packetiser :=
    packetiser
  lastAllocatedId :=
    Packetiser.initialLastAllocatedId
  eal :=
    eal

/-- Execute one call; a panic ends the program and leaves the state to nobody. -/
def step (state : State) : Call → State
  | .addClient e2c c2e =>
      let (_, packetiser, lastAllocatedId, eal) :=
        state.packetiser.addClient state.lastAllocatedId e2c c2e state.eal
      ⟨packetiser, lastAllocatedId, eal⟩
  | .removeClients key =>
      match state.packetiser.removeClients key state.eal with
      | .ok (packetiser, eal) =>
          { state with
            packetiser := packetiser
            eal := eal }
      | .error _ =>
          state

/-- Only ids that are currently allocated are removed. -/
def RemovesAllocated (state : State) : Call → Prop
  | .addClient .. =>
      True
  | .removeClients key =>
      key ∈ state.packetiser.allocatedIds

instance (state : State) : ∀ call, Decidable (RemovesAllocated state call)
  | .addClient .. =>
      .isTrue trivial
  | .removeClients key =>
      inferInstanceAs (Decidable (key ∈ state.packetiser.allocatedIds))

/-- The ids and the counter after an addition do not depend on its outcome. -/
theorem step_addClient
    (state : State)
    (e2c c2e : Dpdk.Allocation) :
    let (key, lastAllocatedId) :=
      Packetiser.chooseId state.packetiser.allocatedIds state.lastAllocatedId
    (step state (.addClient e2c c2e)).packetiser.allocatedIds =
        state.packetiser.allocatedIds ++ [key] ∧
      (step state (.addClient e2c c2e)).lastAllocatedId = lastAllocatedId :=
  ⟨rfl, rfl⟩

/-- The state after the removal of an allocated id. -/
theorem step_removeClients
    {state : State}
    {key : UInt16}
    (allocated : key ∈ state.packetiser.allocatedIds) :
    step state (.removeClients key) =
      { state with
        packetiser := {
          state.packetiser with
          allocatedIds := state.packetiser.allocatedIds.erase key
          clientmap :=
            (state.packetiser.clientmap.removeClient key state.eal).1
        }
        eal := (state.packetiser.clientmap.removeClient key state.eal).2 } := by
  simp only [step, Packetiser.removeClients_of_mem allocated]

/-! ## Distinct ids -/

/-- No id is allocated twice, and neither of the reserved ones is allocated. -/
structure IdsDistinct (state : State) : Prop where
  nodup :
    state.packetiser.allocatedIds.Nodup
  noSentinel :
    0 ∉ state.packetiser.allocatedIds
  noPacketiser :
    Packetiser.packetiserId ∉ state.packetiser.allocatedIds

/-- The ids are distinct and lie between the reserved ones and the counter. -/
structure Counted (state : State) : Prop where
  nodup :
    state.packetiser.allocatedIds.Nodup
  above :
    ∀ id ∈ state.packetiser.allocatedIds, 2 ≤ id.toNat
  below :
    ∀ id ∈ state.packetiser.allocatedIds,
      id.toNat ≤ state.lastAllocatedId.toNat
  positive :
    1 ≤ state.lastAllocatedId.toNat

/-- An addition finds the counter below its limit. -/
def BelowLimit (state : State) : Call → Prop
  | .addClient .. =>
      state.lastAllocatedId.toNat < 65535
  | .removeClients _ =>
      True

/-- The number of additions in a run. -/
def additions : List Call → Nat
  | [] =>
      0
  | .addClient .. :: calls =>
      additions calls + 1
  | .removeClients _ :: calls =>
      additions calls

namespace Counted

variable {state : State}

theorem noSentinel
    (counted : Counted state) :
    0 ∉ state.packetiser.allocatedIds := by
  intro member
  have above := counted.above 0 member
  simp at above

/-- What is counted is distinct. -/
theorem idsDistinct
    (counted : Counted state) :
    IdsDistinct state where
  nodup :=
    counted.nodup
  noSentinel :=
    counted.noSentinel
  noPacketiser := by
    intro member
    have above := counted.above _ member
    simp [Packetiser.packetiserId] at above

/-- Since no id is reused, an addition allocates the successor of the counter. -/
theorem step_addClient
    (counted : Counted state)
    (e2c c2e : Dpdk.Allocation) :
    (step state (.addClient e2c c2e)).packetiser.allocatedIds =
        state.packetiser.allocatedIds ++ [state.lastAllocatedId + 1] ∧
      (step state (.addClient e2c c2e)).lastAllocatedId =
        state.lastAllocatedId + 1 := by
  have chosen :=
    Packetiser.chooseId_eq counted.noSentinel state.lastAllocatedId
  have added := PacketiserClients.step_addClient state e2c c2e
  rw [chosen] at added
  exact added

/-- An addition below the limit allocates a new largest id. -/
theorem addClient
    (counted : Counted state)
    (belowLimit : state.lastAllocatedId.toNat < 65535)
    (e2c c2e : Dpdk.Allocation) :
    Counted (step state (.addClient e2c c2e)) ∧
      (step state (.addClient e2c c2e)).lastAllocatedId.toNat =
        state.lastAllocatedId.toNat + 1 := by
  obtain ⟨sameIds, sameLast⟩ := counted.step_addClient e2c c2e
  have successor :
      (state.lastAllocatedId + 1).toNat =
        state.lastAllocatedId.toNat + 1 := by
    rw [UInt16.toNat_add]
    simp only [UInt16.reduceToNat]
    omega
  have isNew :
      state.lastAllocatedId + 1 ∉ state.packetiser.allocatedIds := by
    intro member
    have below := counted.below _ member
    omega
  refine ⟨⟨?_, ?_, ?_, ?_⟩, ?_⟩
  · rw [sameIds, ← List.concat_eq_append]
    exact counted.nodup.concat isNew
  · rw [sameIds, List.forall_mem_append, List.forall_mem_singleton]
    have positive := counted.positive
    exact ⟨counted.above, by omega⟩
  · rw [sameIds, sameLast, List.forall_mem_append,
      List.forall_mem_singleton]
    refine ⟨?_, Nat.le_refl _⟩
    intro id member
    have below := counted.below id member
    omega
  · rw [sameLast]
    omega
  · rw [sameLast, successor]

/-- At the limit the counter wraps and the sentinel itself is allocated. -/
theorem sentinel_of_limit
    (counted : Counted state)
    (atLimit : ¬ state.lastAllocatedId.toNat < 65535)
    (e2c c2e : Dpdk.Allocation) :
    0 ∈ (step state (.addClient e2c c2e)).packetiser.allocatedIds := by
  obtain ⟨sameIds, _⟩ := counted.step_addClient e2c c2e
  have wrapped : state.lastAllocatedId + 1 = 0 := by
    have lastLt := state.lastAllocatedId.toNat_lt
    apply UInt16.toNat_inj.mp
    rw [UInt16.toNat_add]
    simp only [UInt16.reduceToNat]
    omega
  simp [sameIds, wrapped]

/-- A removal leaves fewer ids. -/
theorem removeClients
    (counted : Counted state)
    {key : UInt16}
    (allocated : key ∈ state.packetiser.allocatedIds) :
    Counted (step state (.removeClients key)) := by
  rw [step_removeClients allocated]
  refine ⟨counted.nodup.erase key, ?_, ?_, counted.positive⟩
  · intro id member
    exact counted.above id (List.mem_of_mem_erase member)
  · intro id member
    exact counted.below id (List.mem_of_mem_erase member)

/-- A step below the limit keeps the ids counted. -/
theorem step_of_belowLimit
    (counted : Counted state)
    {call : Call}
    (allocated : RemovesAllocated state call)
    (belowLimit : BelowLimit state call) :
    Counted (step state call) := by
  cases call with
  | addClient e2c c2e =>
      exact (counted.addClient belowLimit e2c c2e).1
  | removeClients key =>
      exact counted.removeClients allocated

/-- A step keeps the ids distinct exactly when it is below the limit. -/
theorem idsDistinct_step_iff
    (counted : Counted state)
    {call : Call}
    (allocated : RemovesAllocated state call) :
    IdsDistinct (step state call) ↔ BelowLimit state call := by
  constructor
  · intro distinct
    cases call with
    | addClient e2c c2e =>
        by_contra atLimit
        exact distinct.noSentinel
          (counted.sentinel_of_limit atLimit e2c c2e)
    | removeClients key =>
        trivial
  · intro belowLimit
    exact (counted.step_of_belowLimit allocated belowLimit).idsDistinct

/-- Every addition of a run is below the limit exactly when there are not too many of them. -/
theorem everyStep_belowLimit_iff
    (counted : Counted state)
    {calls : List Call}
    (allocated : EveryStep step RemovesAllocated state calls) :
    EveryStep step BelowLimit state calls ↔
      state.lastAllocatedId.toNat + additions calls ≤ 65535 := by
  induction calls generalizing state with
  | nil =>
      have lastLt := state.lastAllocatedId.toNat_lt
      simp only [everyStep_nil, additions, true_iff]
      omega
  | cons call rest inductionHypothesis =>
      obtain ⟨isAllocated, restAllocated⟩ := allocated
      rw [everyStep_cons]
      cases call with
      | addClient e2c c2e =>
          simp only [BelowLimit, additions]
          by_cases belowLimit : state.lastAllocatedId.toNat < 65535
          · obtain ⟨countedAfter, lastAfter⟩ :=
              counted.addClient belowLimit e2c c2e
            rw [and_iff_right belowLimit,
              inductionHypothesis countedAfter restAllocated, lastAfter]
            omega
          · simp only [belowLimit, false_and, false_iff]
            omega
      | removeClients key =>
          have countedAfter := counted.removeClients isAllocated
          have sameLast :
              (step state (.removeClients key)).lastAllocatedId =
                state.lastAllocatedId := by
            rw [step_removeClients isAllocated]
          rw [inductionHypothesis countedAfter restAllocated, sameLast]
          simp [BelowLimit, additions]

/-- From a counted state on, the ids stay distinct exactly when the counter does not wrap. -/
theorem always_idsDistinct_iff
    (counted : Counted state)
    {calls : List Call}
    (allocated : EveryStep step RemovesAllocated state calls) :
    Always step IdsDistinct state calls ↔
      state.lastAllocatedId.toNat + additions calls ≤ 65535 := by
  rw [always_iff_everyStep, and_iff_right counted.idsDistinct,
    ← counted.everyStep_belowLimit_iff allocated]
  apply everyStep_iff_guarded_of_enabled ?_ ?_ counted allocated
  · intro before call isCounted isAllocated belowLimit
    exact isCounted.step_of_belowLimit isAllocated belowLimit
  · intro before call isCounted isAllocated
    exact isCounted.idsDistinct_step_iff isAllocated

end Counted

/-- A new packetiser has allocated nothing. -/
theorem counted_start
    {cap : Nat}
    {eal after : Eal}
    {packetiser : Packetiser}
    (created : Packetiser.new cap eal = (.ok packetiser, after)) :
    Counted (start packetiser after) := by
  obtain ⟨channel, mempool, rfl⟩ := Packetiser.of_new created
  refine ⟨?_, ?_, ?_, Nat.le_refl 1⟩ <;>
    simp [start]

/--
From the creation of the packetiser on, in every run that removes allocated ids
only, the ids are distinct and unreserved in every state exactly if the run
makes at most 65534 additions.
-/
theorem always_idsDistinct_iff_additions
    {cap : Nat}
    {eal after : Eal}
    {packetiser : Packetiser}
    (created : Packetiser.new cap eal = (.ok packetiser, after))
    {calls : List Call}
    (allocated :
      EveryStep step RemovesAllocated (start packetiser after) calls) :
    Always step IdsDistinct (start packetiser after) calls ↔
      additions calls ≤ 65534 := by
  rw [(counted_start created).always_idsDistinct_iff allocated]
  simp only [start, Packetiser.initialLastAllocatedId, UInt16.reduceToNat]
  omega

/-- The engine's environment: the packetiser's channel and the mempool are there. -/
def engineEal : Eal := {
  (Channel.new Packetiser.packetiserId
    (.ok 10) (.ok 20) Eal.initial).2 with
  mempoolTailq := {
    entries := [(Packetiser.gMempoolName, 30)]
    namesNodup := by
      decide
    addressesNodup := by
      decide
  }
}

/-- A packetiser created in that environment. -/
def newPacketiser : Packetiser where
  channel := {
    clientToEngine := ⟨Packetiser.packetiserId, .c2e, 20⟩
    engineToClient := ⟨Packetiser.packetiserId, .e2c, 10⟩
  }
  mempool :=
    ⟨30⟩
  clientmap :=
    .new
  iBufqueue :=
    []
  oBufqueue :=
    []
  cap :=
    64
  allocatedIds :=
    []

theorem created_newPacketiser :
    Packetiser.new 64 engineEal = (.ok newPacketiser, engineEal) :=
  rfl

/-- Two additions, of which the second fails, and a removal. -/
theorem always_idsDistinct_add_add_remove :
    Always step IdsDistinct (start newPacketiser engineEal) [
        .addClient (.ok 40) (.ok 50),
        .addClient (.error Errno.enomem) (.ok 60),
        .removeClients 2
      ] ↔
      additions [
        .addClient (.ok 40) (.ok 50),
        .addClient (.error Errno.enomem) (.ok 60),
        .removeClients 2
      ] ≤ 65534 :=
  always_idsDistinct_iff_additions created_newPacketiser
    ⟨trivial, trivial, by decide, trivial⟩

theorem additions_replicate
    (count : Nat)
    (e2c c2e : Dpdk.Allocation) :
    additions (List.replicate count (.addClient e2c c2e)) = count := by
  induction count with
  | zero =>
      rfl
  | succ count inductionHypothesis =>
      simp [List.replicate_succ, additions, inductionHypothesis]

/-- The addition that wraps the counter allocates the sentinel. -/
theorem not_idsDistinct_counter_wraps :
    ¬ Always step IdsDistinct (start newPacketiser engineEal)
      (List.replicate 65535
        (.addClient (.error Errno.enomem) (.error Errno.enomem))) := by
  have allocated :
      EveryStep step RemovesAllocated (start newPacketiser engineEal)
        (List.replicate 65535
          (.addClient (.error Errno.enomem) (.error Errno.enomem))) := by
    apply everyStep_of_forall_mem
    intro call member state
    rw [List.eq_of_mem_replicate member]
    trivial
  rw [(counted_start created_newPacketiser).always_idsDistinct_iff allocated,
    additions_replicate]
  decide

/-! ## Agreement of the ids with the client map -/

/-- The recorded ids are the keys of the client map. -/
def Agrees (state : State) : Prop :=
  ∀ id,
    id ∈ state.packetiser.allocatedIds ↔
      (state.packetiser.clientmap.ringmap id).isSome

/-- An addition that fails leaves the ids, the map and the registered rings alone. -/
def FailureUnchanged (state : State) : Call → Prop
  | .addClient e2c c2e =>
      ∀ error packetiser lastAllocatedId eal,
        state.packetiser.addClient state.lastAllocatedId e2c c2e state.eal =
            (.error error, packetiser, lastAllocatedId, eal) →
        packetiser.allocatedIds = state.packetiser.allocatedIds ∧
          packetiser.clientmap = state.packetiser.clientmap ∧
          eal.ringTailq = state.eal.ringTailq
  | .removeClients _ =>
      True

/-- Both ring creations of an addition succeed. -/
def CreationsSucceed (state : State) : Call → Prop
  | .addClient e2c c2e =>
      Channel.Creatable
        (Packetiser.chooseId state.packetiser.allocatedIds
          state.lastAllocatedId).1
        e2c c2e state.eal
  | .removeClients _ =>
      True

/-- The ids agree with a map that is backed by its rings, and none is recorded twice. -/
structure Synced (state : State) : Prop where
  agrees :
    Agrees state
  nodup :
    state.packetiser.allocatedIds.Nodup
  backed :
    state.packetiser.clientmap.Backed state.eal

namespace Synced

variable {state : State}

/-- An addition whose creations succeed keeps the ids and the map in agreement. -/
theorem addClient
    (synced : Synced state)
    {e2c c2e : Dpdk.Allocation}
    (succeed : CreationsSucceed state (.addClient e2c c2e)) :
    Synced (step state (.addClient e2c c2e)) ∧
      FailureUnchanged state (.addClient e2c c2e) := by
  rcases synced.backed.addClient_cases
      (Packetiser.chooseId state.packetiser.allocatedIds
        state.lastAllocatedId).1 e2c c2e with
    ⟨notCreatable, _⟩ | ⟨_, channel, after, added, absent, created⟩
  · exact (notCreatable succeed).elim
  · have isNew :
        (Packetiser.chooseId state.packetiser.allocatedIds
            state.lastAllocatedId).1 ∉
          state.packetiser.allocatedIds := by
      rw [synced.agrees, absent]
      simp
    refine ⟨⟨?_, ?_, ?_⟩, ?_⟩
    · intro id
      simp only [step, Packetiser.addClient, added, List.mem_append,
        List.mem_singleton, synced.agrees id]
      by_cases same :
          id = (Packetiser.chooseId state.packetiser.allocatedIds
            state.lastAllocatedId).1
      · simp [same]
      · simp [same, PartialMap.insert_other _ same]
    · simp only [step, Packetiser.addClient, ← List.concat_eq_append]
      exact synced.nodup.concat isNew
    · simp only [step, Packetiser.addClient, added]
      exact synced.backed.insert_created created
    · intro error packetiser lastAllocatedId eal failed
      simp [Packetiser.addClient, added] at failed

/-- An addition one of whose creations fails has recorded its id nevertheless. -/
theorem not_failureUnchanged
    (synced : Synced state)
    {e2c c2e : Dpdk.Allocation}
    (fails : ¬ CreationsSucceed state (.addClient e2c c2e)) :
    ¬ FailureUnchanged state (.addClient e2c c2e) := by
  intro unchanged
  rcases synced.backed.addClient_cases
      (Packetiser.chooseId state.packetiser.allocatedIds
        state.lastAllocatedId).1 e2c c2e with
    ⟨_, error, after, failed, _⟩ | ⟨creatable, _⟩
  · have result := unchanged (.memoryError error) _ _ after (by
      simp only [Packetiser.addClient, failed]
      rfl)
    simp at result
  · exact fails creatable

/-- A removal takes its id out of both. -/
theorem removeClients
    (synced : Synced state)
    {key : UInt16}
    (allocated : key ∈ state.packetiser.allocatedIds) :
    Synced (step state (.removeClients key)) := by
  rw [step_removeClients allocated]
  refine ⟨?_, synced.nodup.erase key,
    synced.backed.removeClient key⟩
  intro id
  rw [synced.nodup.mem_erase_iff, RingClientMap.removeClient_ringmap]
  by_cases same : id = key
  · subst id
    simp
  · simp [same, PartialMap.erase_other _ same, synced.agrees id]

/-- A step whose creations succeed keeps everything in agreement. -/
theorem step_of_creationsSucceed
    (synced : Synced state)
    {call : Call}
    (allocated : RemovesAllocated state call)
    (succeed : CreationsSucceed state call) :
    Synced (step state call) ∧ FailureUnchanged state call := by
  cases call with
  | addClient e2c c2e =>
      exact synced.addClient succeed
  | removeClients key =>
      exact ⟨synced.removeClients allocated, trivial⟩

/-- A step keeps the agreement, on success and on failure, exactly when its creations succeed. -/
theorem agrees_step_iff
    (synced : Synced state)
    {call : Call}
    (allocated : RemovesAllocated state call) :
    Agrees (step state call) ∧ FailureUnchanged state call ↔
      CreationsSucceed state call := by
  constructor
  · intro both
    cases call with
    | addClient e2c c2e =>
        by_contra fails
        exact synced.not_failureUnchanged fails both.2
    | removeClients key =>
        trivial
  · intro succeed
    obtain ⟨after, unchanged⟩ :=
      synced.step_of_creationsSucceed allocated succeed
    exact ⟨after.agrees, unchanged⟩

end Synced

/-- A new packetiser has neither ids nor channels. -/
theorem synced_start
    {cap : Nat}
    {eal after : Eal}
    {packetiser : Packetiser}
    (created : Packetiser.new cap eal = (.ok packetiser, after)) :
    Synced (start packetiser after) := by
  obtain ⟨channel, mempool, rfl⟩ := Packetiser.of_new created
  refine ⟨?_, List.nodup_nil, RingClientMap.backed_new after⟩
  intro id
  simp [start, RingClientMap.new]

/--
From the creation of the packetiser on, in every run that removes allocated ids
only, the ids are the keys of the client map in every state, and every failed
addition leaves things as they were, exactly if both ring creations of every
addition succeed.
-/
theorem always_agrees_iff_creationsSucceed
    {cap : Nat}
    {eal after : Eal}
    {packetiser : Packetiser}
    (created : Packetiser.new cap eal = (.ok packetiser, after))
    {calls : List Call}
    (allocated :
      EveryStep step RemovesAllocated (start packetiser after) calls) :
    (Always step Agrees (start packetiser after) calls ∧
        EveryStep step FailureUnchanged (start packetiser after) calls) ↔
      EveryStep step CreationsSucceed (start packetiser after) calls := by
  have synced := synced_start created
  rw [always_iff_everyStep, and_iff_right synced.agrees, ← everyStep_and]
  apply everyStep_iff_guarded_of_enabled ?_ ?_ synced allocated
  · intro before call isSynced isAllocated succeed
    exact (isSynced.step_of_creationsSucceed isAllocated succeed).1
  · intro before call isSynced isAllocated
    exact isSynced.agrees_step_iff isAllocated

/-- An addition and the removal of the id it allocated. -/
theorem always_agrees_add_remove :
    (Always step Agrees (start newPacketiser engineEal)
          [.addClient (.ok 40) (.ok 50), .removeClients 2] ∧
        EveryStep step FailureUnchanged (start newPacketiser engineEal)
          [.addClient (.ok 40) (.ok 50), .removeClients 2]) ↔
      EveryStep step CreationsSucceed (start newPacketiser engineEal)
        [.addClient (.ok 40) (.ok 50), .removeClients 2] :=
  always_agrees_iff_creationsSucceed created_newPacketiser
    ⟨trivial, by decide, trivial⟩

/-- The id of an addition for which there is no memory stays recorded. -/
theorem not_agrees_failed_creation :
    ¬ (Always step Agrees (start newPacketiser engineEal)
          [.addClient (.error Errno.enomem) (.ok 50)] ∧
        EveryStep step FailureUnchanged (start newPacketiser engineEal)
          [.addClient (.error Errno.enomem) (.ok 50)]) := by
  rintro ⟨_, unchanged, _⟩
  have sameIds :=
    (unchanged (.memoryError .noMem) _ _ _ rfl).1
  exact absurd sameIds (by decide)

end VDataplane.PacketiserClients
