import VDataplane.BurstReceive
import VDataplane.ClientIsolation
import VDataplane.Collection

namespace VDataplane.BufferCapacity

open GuardedRun PacketiserClients

/-!
# The capacity of the packetiser's buffers

`cap` is documented as the number of packets to be held in the buffers at any
time.  `Packetiser::new` stores it and nothing reads it: the functions that
fill the two queues take what the rings hold, as far as there are free buffers.
The queues therefore stay within `cap` as long as every call that fills one
finds room for all that it will take.
-/

/-- One call of the packetiser, or what the engine and the clients do in between. -/
inductive Action where
  | recvFromEngineBurst
  | storeIncoming
  | forwardIncomingPackets (table : RoutingTable)
  | storeOutgoing
  | sendOutgoingPackets
  | sendToEngineBulk
  | clients (call : PacketiserClients.Call)
  | traffic
      (rings : Address → RteRing)
      (pools : Address → List RteMbuf)

/-- Take over the packetiser and the environment that a call leaves behind. -/
def leave
    (state : State)
    (left : Packetiser × Eal) :
    State :=
  { state with
    packetiser := left.1
    eal := left.2 }

/-- Execute one action; a call that fails leaves behind what it has done so far. -/
def step (state : State) : Action → State
  | .recvFromEngineBurst =>
      leave state (state.packetiser.recvFromEngineBurst state.eal).2
  | .storeIncoming =>
      leave state (state.packetiser.storeIncoming state.eal).2
  | .forwardIncomingPackets table =>
      leave state (state.packetiser.forwardIncomingPackets table state.eal).2
  | .storeOutgoing =>
      leave state (state.packetiser.storeOutgoing state.eal).2
  | .sendOutgoingPackets =>
      leave state (state.packetiser.sendOutgoingPackets state.eal).2
  | .sendToEngineBulk =>
      leave state (state.packetiser.sendToEngineBulk state.eal).2
  | .clients call =>
      PacketiserClients.step state call
  | .traffic rings pools =>
      { state with
        eal := {
          state.eal with
          rings := rings
          pools := pools
        } }

/-- Neither buffer holds more than `cap` packets. -/
structure WithinCap
    (cap : Nat)
    (state : State) :
    Prop where
  incoming :
    state.packetiser.iBufqueue.length ≤ cap
  outgoing :
    state.packetiser.oBufqueue.length ≤ cap

/-- A call that fills a buffer finds room for all the packets that it will take. -/
def HasRoom
    (cap : Nat)
    (state : State) :
    Action → Prop
  | .recvFromEngineBurst
  | .storeIncoming =>
      state.packetiser.iBufqueue.length +
        state.packetiser.burst state.eal ≤ cap
  | .storeOutgoing =>
      state.packetiser.oBufqueue.length +
        state.packetiser.collectable state.eal ≤ cap
  | _ =>
      True

instance
    (cap : Nat)
    (state : State) :
    ∀ action, Decidable (HasRoom cap state action)
  | .recvFromEngineBurst
  | .storeIncoming =>
      inferInstanceAs (Decidable
        (state.packetiser.iBufqueue.length +
          state.packetiser.burst state.eal ≤ cap))
  | .storeOutgoing =>
      inferInstanceAs (Decidable
        (state.packetiser.oBufqueue.length +
          state.packetiser.collectable state.eal ≤ cap))
  | .forwardIncomingPackets _
  | .sendOutgoingPackets
  | .sendToEngineBulk
  | .clients _
  | .traffic .. =>
      .isTrue trivial

/-- The client map is backed by its rings. -/
def BackedState (state : State) : Prop :=
  state.packetiser.clientmap.Backed state.eal

/-! ## What a call does to the buffers -/

section Calls

variable
  (packetiser : Packetiser)
  (eal : Eal)

/-- Both receiving functions queue a burst. -/
theorem length_received :
    (packetiser.received eal).1.iBufqueue.length =
      packetiser.iBufqueue.length + packetiser.burst eal := by
  have available : packetiser.burst eal ≤ (packetiser.blanks eal).length := by
    rw [Packetiser.length_blanks]
    exact Nat.min_le_left _ _
  simp only [Packetiser.received, List.length_append, List.length_take,
    Nat.min_eq_left available]

/-- Forwarding works its buffer off from the front. -/
theorem forwardLoop_suffix
    (table : RoutingTable)
    (clientmap : RingClientMap)
    (queue : List Mbuf) :
    (Packetiser.forwardLoop table clientmap queue eal).2.1 <:+ queue := by
  induction queue generalizing eal with
  | nil =>
      exact List.suffix_refl []
  | cons pkt rest inductionHypothesis =>
      have restSuffix := List.suffix_cons pkt rest
      rw [Packetiser.forwardLoop]
      split
      · exact restSuffix
      · dsimp only
        split
        · exact restSuffix
        · exact (inductionHypothesis _).trans restSuffix

/-- Forwarding creates and destroys no ring. -/
theorem forwardLoop_ringTailq
    (table : RoutingTable)
    (clientmap : RingClientMap)
    (queue : List Mbuf) :
    (Packetiser.forwardLoop table clientmap queue eal).2.2.ringTailq =
      eal.ringTailq := by
  induction queue generalizing eal with
  | nil =>
      rfl
  | cons pkt rest inductionHypothesis =>
      rw [Packetiser.forwardLoop]
      split
      · rfl
      · next iphdr _ =>
          have sent :=
            (ClientIsolation.send_touchesOnly clientmap
              (table.idFromIp iphdr.getDstAddr) eal pkt).registry
          dsimp only
          split
          · next failed =>
              rw [failed] at sent
              exact sent
          · next succeeded =>
              rw [succeeded] at sent
              rw [inductionHypothesis, sent]

/-- Sending works its buffer off from the front and creates and destroys no ring. -/
theorem sendOne_eq
    (channel : Channel)
    (oBufqueue : List Mbuf) :
    (Packetiser.sendOne channel oBufqueue eal).1 = oBufqueue.tail ∧
      (Packetiser.sendOne channel oBufqueue eal).2.ringTailq =
        eal.ringTailq := by
  cases oBufqueue with
  | nil =>
      exact ⟨rfl, rfl⟩
  | cons buf rest =>
      rcases channel.clientToEngine.enqueue_cases buf eal with
        ⟨_, failed⟩ | ⟨_, _, enqueued⟩
      · simp [Packetiser.sendOne, Channel.sendToEngine, failed]
      · simp [Packetiser.sendOne, Channel.sendToEngine, enqueued]

/-- The whole loop does so as well. -/
theorem sendLoop_suffix
    (channel : Channel)
    (rounds : Nat)
    (oBufqueue : List Mbuf) :
    (Packetiser.sendLoop channel rounds oBufqueue eal).1 <:+ oBufqueue ∧
      (Packetiser.sendLoop channel rounds oBufqueue eal).2.ringTailq =
        eal.ringTailq := by
  induction rounds generalizing oBufqueue eal with
  | zero =>
      exact ⟨List.suffix_refl _, rfl⟩
  | succ rounds inductionHypothesis =>
      obtain ⟨sameTail, sameRegistry⟩ := sendOne_eq eal channel oBufqueue
      obtain ⟨isSuffix, laterRegistry⟩ :=
        inductionHypothesis
          (Packetiser.sendOne channel oBufqueue eal).2
          (Packetiser.sendOne channel oBufqueue eal).1
      refine ⟨?_, laterRegistry.trans sameRegistry⟩
      apply isSuffix.trans
      rw [sameTail]
      exact List.tail_suffix oBufqueue

end Calls

/-! ## Steps -/

/-- How many packets an action puts into the incoming buffer. -/
def arriving
    (state : State) :
    Action → Nat
  | .recvFromEngineBurst
  | .storeIncoming =>
      state.packetiser.burst state.eal
  | _ =>
      0

/-- How many packets an action can put into the outgoing buffer. -/
def leaving
    (state : State) :
    Action → Nat
  | .storeOutgoing =>
      state.packetiser.collectable state.eal
  | _ =>
      0

/-- Between two states the buffers gained at most these numbers of packets. -/
structure Gained
    (before after : State)
    (incoming outgoing : Nat) :
    Prop where
  incoming :
    after.packetiser.iBufqueue.length ≤
      before.packetiser.iBufqueue.length + incoming
  outgoing :
    after.packetiser.oBufqueue.length ≤
      before.packetiser.oBufqueue.length + outgoing
  backed :
    BackedState before → BackedState after

section Steps

variable {state : State}

/-- A receiving function gains a burst. -/
theorem gained_received (state : State) :
    Gained state (leave state (state.packetiser.received state.eal))
      (state.packetiser.burst state.eal) 0 where
  incoming :=
    (length_received state.packetiser state.eal).le
  outgoing :=
    Nat.le_refl _
  backed isBacked :=
    isBacked.of_ringTailq_eq (by
      simp [leave, Packetiser.received, Packetiser.withdrawn])

/-- Forwarding gains nothing. -/
theorem gained_forwarded
    (state : State)
    (table : RoutingTable) :
    Gained state
      (leave state
        (state.packetiser.forwardIncomingPackets table state.eal).2) 0 0 where
  incoming :=
    (forwardLoop_suffix state.eal table state.packetiser.clientmap
      state.packetiser.iBufqueue).length_le
  outgoing :=
    Nat.le_refl _
  backed isBacked :=
    isBacked.of_ringTailq_eq
      (forwardLoop_ringTailq state.eal table state.packetiser.clientmap
        state.packetiser.iBufqueue)

/-- Collecting gains what can be collected. -/
theorem gained_collected
    (isBacked : BackedState state) :
    Gained state
      (leave state (state.packetiser.storeOutgoing state.eal).2)
      0 (state.packetiser.collectable state.eal) where
  incoming := by
    rw [leave, Packetiser.storeOutgoing_eq]
    exact Nat.le_refl _
  outgoing := by
    obtain ⟨collected, lengthEq, atMost, _⟩ :=
      state.packetiser.length_storeOutgoing isBacked
    exact lengthEq.trans_le (Nat.add_le_add_left atMost _)
  backed _ := by
    have sameRegistry :=
      state.packetiser.storeOutgoing_ringTailq state.eal
    have sameMap :
        (state.packetiser.storeOutgoing state.eal).2.1.clientmap =
          state.packetiser.clientmap := by
      rw [Packetiser.storeOutgoing_eq]
    unfold BackedState leave
    rw [sameMap]
    exact isBacked.of_ringTailq_eq sameRegistry

/-- Sending gains nothing. -/
theorem gained_sent (state : State) :
    Gained state
      (leave state (state.packetiser.sendOutgoingPackets state.eal).2)
      0 0 := by
  obtain ⟨isSuffix, sameRegistry⟩ :=
    sendLoop_suffix state.eal state.packetiser.channel
      state.packetiser.oBufqueue.length state.packetiser.oBufqueue
  exact {
    incoming := Nat.le_refl _
    outgoing := isSuffix.length_le
    backed := fun isBacked => isBacked.of_ringTailq_eq sameRegistry
  }

/-- Sending in bulk gains nothing. -/
theorem gained_sentBulk (state : State) :
    Gained state
      (leave state (state.packetiser.sendToEngineBulk state.eal).2) 0 0 := by
  by_cases isEmpty : state.packetiser.oBufqueue.isEmpty
  · simp only [Packetiser.sendToEngineBulk, isEmpty, ↓reduceIte]
    exact ⟨Nat.le_refl _, Nat.le_refl _, id⟩
  · simp only [Packetiser.sendToEngineBulk, isEmpty, Bool.false_eq_true,
      ↓reduceIte, Channel.sendToEngineBulk, Ring.enqueueBulk_eq]
    refine ⟨Nat.le_refl _, ?_, id⟩
    exact (List.tail_suffix state.packetiser.oBufqueue).length_le

/-- Adding and removing clients gains nothing. -/
theorem gained_clients
    (state : State)
    (call : PacketiserClients.Call) :
    Gained state (PacketiserClients.step state call) 0 0 := by
  cases call with
  | addClient e2c c2e =>
      simp only [PacketiserClients.step, Packetiser.addClient]
      refine ⟨Nat.le_refl _, Nat.le_refl _, ?_⟩
      intro isBacked
      have kept :=
        RingClientMap.Backed.addClient isBacked
          (Packetiser.chooseId state.packetiser.allocatedIds
            state.lastAllocatedId).1 e2c c2e
      simp only [BackedState]
      -- Otherwise the unifier unfolds `addClient` on both sides first.
      with_reducible exact kept
  | removeClients key =>
      by_cases allocated : key ∈ state.packetiser.allocatedIds
      · rw [step_removeClients allocated]
        exact {
          incoming := Nat.le_refl _
          outgoing := Nat.le_refl _
          backed := fun isBacked =>
            RingClientMap.Backed.removeClient isBacked key
        }
      · -- The removal panics.
        have notFound := List.idxOf_eq_length allocated
        simp only [PacketiserClients.step, Packetiser.removeClients,
          notFound, Nat.lt_irrefl, ↓reduceIte]
        exact ⟨Nat.le_refl _, Nat.le_refl _, id⟩

/-- No action gains more than arrives and leaves. -/
theorem gained_step
    (isBacked : BackedState state)
    (action : Action) :
    Gained state (step state action)
      (arriving state action) (leaving state action) := by
  cases action with
  | recvFromEngineBurst =>
      simp only [step, Packetiser.recvFromEngineBurst_eq]
      exact gained_received state
  | storeIncoming =>
      simp only [step, Packetiser.storeIncoming_eq]
      exact gained_received state
  | forwardIncomingPackets table =>
      exact gained_forwarded state table
  | storeOutgoing =>
      exact gained_collected isBacked
  | sendOutgoingPackets =>
      exact gained_sent state
  | sendToEngineBulk =>
      exact gained_sentBulk state
  | clients call =>
      exact gained_clients state call
  | traffic rings pools =>
      exact {
        incoming := Nat.le_refl _
        outgoing := Nat.le_refl _
        backed := fun isBacked => isBacked.of_ringTailq_eq rfl
      }

/-- A step that finds room keeps the buffers within the capacity. -/
theorem withinCap_step_of_hasRoom
    {cap : Nat}
    (within : WithinCap cap state)
    (isBacked : BackedState state)
    {action : Action}
    (hasRoom : HasRoom cap state action) :
    WithinCap cap (step state action) := by
  have gained := gained_step isBacked action
  refine ⟨gained.incoming.trans ?_, gained.outgoing.trans ?_⟩
  · cases action with
    | recvFromEngineBurst =>
        exact hasRoom
    | storeIncoming =>
        exact hasRoom
    | _ =>
        exact within.incoming
  · cases action with
    | storeOutgoing =>
        exact hasRoom
    | _ =>
        exact within.outgoing

/--
A call that keeps the buffers within the capacity has found room, if the free
buffers are at home.
-/
theorem hasRoom_of_withinCap_step
    {cap : Nat}
    (isBacked : BackedState state)
    (homed : Packetiser.Homed state.packetiser.mempool state.eal)
    {action : Action}
    (within : WithinCap cap (step state action)) :
    HasRoom cap state action := by
  cases action with
  | recvFromEngineBurst =>
      have incoming := within.incoming
      simp only [step, Packetiser.recvFromEngineBurst_eq, leave] at incoming
      rwa [length_received] at incoming
  | storeIncoming =>
      have incoming := within.incoming
      simp only [step, Packetiser.storeIncoming_eq, leave] at incoming
      rwa [length_received] at incoming
  | storeOutgoing =>
      obtain ⟨collected, lengthEq, _, exactly⟩ :=
        state.packetiser.length_storeOutgoing isBacked
      have outgoing := within.outgoing
      simp only [step, leave] at outgoing
      rwa [lengthEq, exactly homed] at outgoing
  | _ =>
      trivial

end Steps

/-! ## Runs -/

/-- The buffers are within the capacity and the client map is backed. -/
structure Bounded
    (cap : Nat)
    (state : State) :
    Prop where
  within :
    WithinCap cap state
  backed :
    BackedState state

/-- A step that finds room keeps a bounded state bounded. -/
theorem bounded_step
    {cap : Nat}
    {state : State}
    {action : Action}
    (bounded : Bounded cap state)
    (hasRoom : HasRoom cap state action) :
    Bounded cap (step state action) where
  within :=
    withinCap_step_of_hasRoom bounded.within bounded.backed hasRoom
  backed :=
    (gained_step bounded.backed action).backed bounded.backed

/-- A new packetiser holds no packets and no channels. -/
theorem bounded_start
    {cap : Nat}
    {eal after : Eal}
    {packetiser : Packetiser}
    (created : Packetiser.new cap eal = (.ok packetiser, after)) :
    Bounded cap (start packetiser after) := by
  obtain ⟨channel, mempool, rfl⟩ := Packetiser.of_new created
  exact {
    within := ⟨Nat.zero_le cap, Nat.zero_le cap⟩
    backed := RingClientMap.backed_new after
  }

/--
From the creation of the packetiser on, in every run whose filling calls all
find room, both buffers stay within the capacity in every state.
-/
theorem always_withinCap_of_every_call_hasRoom
    {cap : Nat}
    {eal after : Eal}
    {packetiser : Packetiser}
    (created : Packetiser.new cap eal = (.ok packetiser, after))
    {actions : List Action}
    (hasRoom :
      EveryStep step (HasRoom cap) (start packetiser after) actions) :
    Always step (WithinCap cap) (start packetiser after) actions := by
  have atStart := bounded_start created
  refine always_iff_everyStep.mpr ⟨atStart.within, ?_⟩
  apply everyStep_of_guarded ?_ ?_ atStart hasRoom
  · intro state action bounded found
    exact bounded_step bounded found
  · intro state action bounded found
    exact (bounded_step bounded found).within

/-- Two free buffers in the packetiser's mempool. -/
def twoFree : Address → List RteMbuf :=
  Function.update (fun _ => []) 30
    [.reset 30 100 fun _ => 0, .reset 30 101 fun _ => 0]

/-- The engine's ring with two packets on it. -/
def twoWaiting : Address → RteRing :=
  Function.update engineEal.rings 10 {
    capacity := Ring.ringCapacity - 1
    entries := [.reset 30 200 fun _ => 8, .reset 30 201 fun _ => 9]
    fits := by
      decide
  }

/-- A packetiser for one packet in each buffer. -/
def smallPacketiser : Packetiser :=
  { newPacketiser with cap := 1 }

theorem created_smallPacketiser :
    Packetiser.new 1 engineEal = (.ok smallPacketiser, engineEal) :=
  rfl

/-- After a first burst of one packet, a second one and a collection find nothing. -/
theorem always_withinCap_one_packet :
    Always step (WithinCap 1) (start smallPacketiser engineEal) [
      .clients (.addClient (.ok 40) (.ok 50)),
      .traffic BurstReceive.onePacket.rings twoFree,
      .recvFromEngineBurst,
      .storeIncoming,
      .storeOutgoing,
      .sendOutgoingPackets
    ] :=
  always_withinCap_of_every_call_hasRoom created_smallPacketiser (by decide)

/-- A burst takes two packets into the buffer for one. -/
theorem not_always_withinCap_two_packets :
    Packetiser.new 1 engineEal = (.ok smallPacketiser, engineEal) ∧
      ¬ Always step (WithinCap 1) (start smallPacketiser engineEal) [
        .traffic twoWaiting twoFree,
        .recvFromEngineBurst
      ] := by
  refine ⟨created_smallPacketiser, ?_⟩
  intro always
  have within := always _ (List.prefix_refl _)
  exact absurd within.incoming (by decide)

/--
Where the free buffers of the packetiser's mempool are always at home, finding
room at every call is also necessary.
-/
theorem always_withinCap_iff_of_homed
    {cap : Nat}
    {eal after : Eal}
    {packetiser : Packetiser}
    (created : Packetiser.new cap eal = (.ok packetiser, after))
    {actions : List Action}
    (homed :
      EveryStep step
        (fun state _ =>
          Packetiser.Homed state.packetiser.mempool state.eal)
        (start packetiser after) actions) :
    Always step (WithinCap cap) (start packetiser after) actions ↔
      EveryStep step (HasRoom cap) (start packetiser after) actions := by
  have atStart := bounded_start created
  rw [always_iff_everyStep, and_iff_right atStart.within]
  apply everyStep_iff_guarded_of_enabled ?_ ?_ atStart homed
  · intro state action bounded _ found
    exact bounded_step bounded found
  · intro state action bounded isHomed
    constructor
    · intro within
      exact hasRoom_of_withinCap_step bounded.backed isHomed within
    · intro found
      exact (bounded_step bounded found).within

end VDataplane.BufferCapacity
