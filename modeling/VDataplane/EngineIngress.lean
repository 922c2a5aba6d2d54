import VDataplane.Engine
import VDataplane.GuardedRun
import VDataplane.RingRegistry

namespace VDataplane.EngineIngress

open GuardedRun

/-!
# Engine ingress

The engine receives bursts from the NIC, queues the packets it accepts in
`TO_PACKETISER` and sends them over the packetiser's ring, from which the
peer takes them at its own pace.  Every packet should be accounted for: freed,
queued, or passed on in order of arrival.

The queue is unbounded and the ring is not.  A packet that the full ring
refuses has already left the queue and its wrapper has been forgotten, so it is
in none of these places.
-/

/-- One step of the ingress, or of the peer between two of its steps. -/
inductive Action where
  | getExternalPkts (burst : List Mbuf)
  | sendToPacketiser
  | peerDequeues (count : Nat)

/-- The environment and the queue, with a record of what came and went. -/
structure State where
  eal : Eal
  toPacketiser : List Mbuf
  /-- Every packet that `Port::receive` handed over, in order. -/
  arrived : List Mbuf
  /-- Every packet that the peer took from the ring, in order. -/
  taken : List RteMbuf

/-- The engine before its first packet. -/
def start (eal : Eal) : State where
  eal :=
    eal
  toPacketiser :=
    []
  arrived :=
    []
  taken :=
    []

/-- The ring over which the engine sends to the packetiser. -/
def ring
    (channel : Channel)
    (eal : Eal) :
    RteRing :=
  eal.rings channel.engineToClient.raw

/-- Execute one step of an engine whose packetiser has the given channel. -/
def step
    (procChannel : RingClientMap)
    (channel : Channel)
    (state : State) :
    Action → State
  | .getExternalPkts burst =>
      let (_, toPacketiser, eal) :=
        Engine.getExternalPkts burst state.toPacketiser state.eal
      { state with
        eal := eal
        toPacketiser := toPacketiser
        arrived := state.arrived ++ burst }
  | .sendToPacketiser =>
      let (_, toPacketiser, eal) :=
        Engine.sendToPacketiser procChannel state.toPacketiser state.eal
      { state with
        eal := eal
        toPacketiser := toPacketiser }
  | .peerDequeues count =>
      let before := ring channel state.eal
      { state with
        eal :=
          state.eal.setRing channel.engineToClient.raw (before.drop count)
        taken := state.taken ++ before.entries.take count }

/-- The engine keeps a packet unless its `ether_type` is 0. -/
def Accepted (pkt : Mbuf) : Prop :=
  Shim.etherType pkt.raw (Shim.rtePktmbufMtod pkt.raw) ≠ 0

instance (pkt : Mbuf) : Decidable (Accepted pkt) :=
  inferInstanceAs (Decidable (_ ≠ _))

/-- The accepted packets of a burst. -/
def accepted (pkts : List Mbuf) : List RteMbuf :=
  (pkts.filter fun pkt => Accepted pkt).map Mbuf.raw

/-- The packets of a burst that are freed. -/
def rejected (pkts : List Mbuf) : List RteMbuf :=
  (pkts.filter fun pkt => ¬ Accepted pkt).map Mbuf.raw

/-- The packets that have entered the ring: what the peer took and what is still there. -/
def entered
    (channel : Channel)
    (state : State) :
    List RteMbuf :=
  state.taken ++ (ring channel state.eal).entries

/-- A mempool after some packets were freed: its own ones, the last one first, on top. -/
def refilled
    (freed : List RteMbuf)
    (pools : Address → List RteMbuf) :
    Address → List RteMbuf :=
  fun pool =>
    (freed.filter fun mbuf => mbuf.pool = pool).reverse ++ pools pool

/--
Every packet that arrived is in exactly one place.  The rejected ones are back
in their mempools; the others have entered the ring or wait in the queue, in
order of arrival.
-/
structure Accounted
    (channel : Channel)
    (pools : Address → List RteMbuf)
    (state : State) :
    Prop where
  inOrder :
    entered channel state ++ state.toPacketiser.map Mbuf.raw =
      accepted state.arrived
  onePlace :
    (rejected state.arrived ++
        (entered channel state ++ state.toPacketiser.map Mbuf.raw)).Perm
      (state.arrived.map Mbuf.raw)
  freed :
    state.eal.pools = refilled (rejected state.arrived) pools

/-- A send call finds no more packets in the queue than the ring can take. -/
def FitsRing
    (channel : Channel)
    (state : State) :
    Action → Prop
  | .sendToPacketiser =>
      state.toPacketiser.length ≤ (ring channel state.eal).room
  | _ =>
      True

/-! ## What the two loops do -/

@[simp] theorem accepted_append (first later : List Mbuf) :
    accepted (first ++ later) = accepted first ++ accepted later := by
  simp [accepted]

@[simp] theorem rejected_append (first later : List Mbuf) :
    rejected (first ++ later) = rejected first ++ rejected later := by
  simp [rejected]

theorem refilled_nil (pools : Address → List RteMbuf) :
    refilled [] pools = pools := by
  funext pool
  simp [refilled]

theorem refilled_append
    (first later : List RteMbuf)
    (pools : Address → List RteMbuf) :
    refilled (first ++ later) pools = refilled later (refilled first pools) := by
  funext pool
  simp [refilled]

/-- Freeing one packet refills its mempool with it. -/
theorem drop_pools (pkt : Mbuf) (eal : Eal) :
    (pkt.drop eal).pools = refilled [pkt.raw] eal.pools := by
  funext pool
  by_cases same : pkt.raw.pool = pool
  · subst same
    simp [Mbuf.drop, Dpdk.rtePktmbufFree, refilled]
  · simp [Mbuf.drop, Dpdk.rtePktmbufFree, refilled, same,
      Function.update_of_ne (Ne.symm same)]

/-- The receive loop queues the accepted packets and frees the others. -/
theorem receiveLoop_spec
    (pkts : List Mbuf)
    (cnt : Nat)
    (ringPkts : List Mbuf)
    (eal : Eal) :
    ∃ total queued after,
      Engine.receiveLoop pkts cnt ringPkts eal = (total, queued, after) ∧
        queued.map Mbuf.raw = ringPkts.map Mbuf.raw ++ accepted pkts ∧
        after.rings = eal.rings ∧
        after.pools = refilled (rejected pkts) eal.pools := by
  induction pkts generalizing cnt ringPkts eal with
  | nil =>
      exact ⟨cnt, ringPkts, eal, rfl, by simp [accepted], rfl,
        (refilled_nil eal.pools).symm⟩
  | cons pkt rest inductionHypothesis =>
      by_cases keeps : Accepted pkt
      · obtain ⟨total, queued, after, looped, sameQueue, sameRings, samePools⟩ :=
          inductionHypothesis (cnt + 1) (ringPkts ++ [pkt]) eal
        refine ⟨total, queued, after, ?_, ?_, sameRings, ?_⟩
        · rw [← looped]
          have notZero := keeps
          unfold Accepted at notZero
          simp [Engine.receiveLoop, Shim.pktEtherHdr, Mbuf.getPtr, notZero]
        · simp [sameQueue, accepted, keeps]
        · simp [samePools, rejected, keeps]
      · obtain ⟨total, queued, after, looped, sameQueue, sameRings, samePools⟩ :=
          inductionHypothesis cnt ringPkts (pkt.drop eal)
        refine ⟨total, queued, after, ?_, ?_, sameRings, ?_⟩
        · rw [← looped]
          have isZero := keeps
          simp only [Accepted, ne_eq, not_not] at isZero
          simp [Engine.receiveLoop, Shim.pktEtherHdr, Mbuf.getPtr, isZero]
        · simp [sameQueue, accepted, keeps]
        · have isFirst :
              rejected (pkt :: rest) = [pkt.raw] ++ rejected rest := by
            simp [rejected, keeps]
          rw [samePools, isFirst, refilled_append, drop_pools]

/-- One send passes its packet on, or finds the ring full and loses it. -/
theorem send_cases
    {procChannel : RingClientMap}
    {channel : Channel}
    (present : procChannel.ringmap Engine.processorThread = some channel)
    (pkt : Mbuf)
    (eal : Eal) :
    (∃ error,
      (ring channel eal).push? pkt.raw = none ∧
        procChannel.send Engine.processorThread pkt eal = (.error error, eal)) ∨
    ∃ pushed,
      (ring channel eal).push? pkt.raw = some pushed ∧
        procChannel.send Engine.processorThread pkt eal =
          (.ok (), eal.setRing channel.engineToClient.raw pushed) := by
  rcases channel.engineToClient.enqueue_cases pkt eal with
    ⟨full, refused⟩ | ⟨pushed, accepts, enqueued⟩
  · exact Or.inl ⟨_, full, by
      simp only [RingClientMap.send, present, Channel.sendToClient, refused]
      rfl⟩
  · exact Or.inr ⟨pushed, accepts, by
      simp only [RingClientMap.send, present, Channel.sendToClient, enqueued]⟩

/--
The send loop feeds the queue to the ring up to the first refusal; the packet
behind which it stops is in neither of them.
-/
theorem sendLoop_spec
    {procChannel : RingClientMap}
    {channel : Channel}
    (present : procChannel.ringmap Engine.processorThread = some channel)
    (ringPkts : List Mbuf)
    (len : Nat)
    (eal : Eal) :
    ∃ total rest,
      Engine.sendLoop procChannel ringPkts len eal =
          (total, rest,
            eal.setRing channel.engineToClient.raw
              ((ring channel eal).feed (ringPkts.map Mbuf.raw)).1) ∧
        rest.map Mbuf.raw =
          ((ring channel eal).feed (ringPkts.map Mbuf.raw)).2 := by
  induction ringPkts generalizing len eal with
  | nil =>
      refine ⟨len, [], ?_, rfl⟩
      simp [Engine.sendLoop, BoundedFifo.feed, ring]
  | cons pkt rest inductionHypothesis =>
      rcases send_cases present pkt eal with
        ⟨error, full, refused⟩ | ⟨pushed, accepts, sent⟩
      · refine ⟨len, rest, ?_, ?_⟩
        · simp only [Engine.sendLoop, refused, List.map_cons,
            BoundedFifo.feed, full]
          simp [ring]
        · simp [BoundedFifo.feed, full]
      · let passedOn := eal.setRing channel.engineToClient.raw pushed
        have ringAfter : ring channel passedOn = pushed := by
          simp [ring, passedOn]
        obtain ⟨total, left, looped, sameRest⟩ :=
          inductionHypothesis (len + 1) passedOn
        rw [ringAfter] at looped sameRest
        refine ⟨total, left, ?_, ?_⟩
        · simp only [Engine.sendLoop, sent, looped, passedOn, List.map_cons,
            BoundedFifo.feed, accepts]
          rw [Eal.setRing_setRing]
        · simpa [BoundedFifo.feed, accepts] using sameRest

/-- An empty queue needs no loop, so the early return makes no difference. -/
theorem sendToPacketiser_eq_loop
    (procChannel : RingClientMap)
    (ringPkts : List Mbuf)
    (eal : Eal) :
    Engine.sendToPacketiser procChannel ringPkts eal =
      Engine.sendLoop procChannel ringPkts 0 eal := by
  cases ringPkts with
  | nil =>
      rfl
  | cons pkt rest =>
      rfl

/-! ## One step -/

/-- In order and with the rejected packets freed, every packet is in one place. -/
theorem Accounted.of_inOrder
    {channel : Channel}
    {pools : Address → List RteMbuf}
    {state : State}
    (inOrder :
      entered channel state ++ state.toPacketiser.map Mbuf.raw =
        accepted state.arrived)
    (freed :
      state.eal.pools = refilled (rejected state.arrived) pools) :
    Accounted channel pools state where
  inOrder :=
    inOrder
  onePlace := by
    rw [inOrder, rejected, accepted, ← List.map_append]
    apply List.Perm.map
    have parted :=
      List.filter_append_perm (fun pkt => decide (Accepted pkt)) state.arrived
    refine (List.perm_append_comm.trans ?_).trans parted
    simp
  freed :=
    freed

/-- Receiving a burst accounts for its packets. -/
theorem accounted_getExternalPkts
    {procChannel : RingClientMap}
    {channel : Channel}
    {pools : Address → List RteMbuf}
    {state : State}
    (accounted : Accounted channel pools state)
    (burst : List Mbuf) :
    Accounted channel pools
      (step procChannel channel state (.getExternalPkts burst)) := by
  obtain ⟨_, queued, after, looped, sameQueue, sameRings, samePools⟩ :=
    receiveLoop_spec burst 0 state.toPacketiser state.eal
  have received :
      step procChannel channel state (.getExternalPkts burst) =
        { state with
          eal := after
          toPacketiser := queued
          arrived := state.arrived ++ burst } := by
    simp [step, Engine.getExternalPkts, looped]
  rw [received]
  refine .of_inOrder ?_ ?_
  · have sameEntered :
        entered channel
            { state with
              eal := after
              toPacketiser := queued
              arrived := state.arrived ++ burst } =
          entered channel state := by
      simp [entered, ring, sameRings]
    rw [sameEntered, sameQueue, accepted_append, ← accounted.inOrder,
      List.append_assoc]
  · rw [rejected_append, refilled_append, samePools, accounted.freed]

/-- The peer moves packets from the ring to the taken ones, both of which have entered. -/
theorem accounted_peerDequeues
    {procChannel : RingClientMap}
    {channel : Channel}
    {pools : Address → List RteMbuf}
    {state : State}
    (accounted : Accounted channel pools state)
    (count : Nat) :
    Accounted channel pools
      (step procChannel channel state (.peerDequeues count)) := by
  have sameEntered :
      entered channel (step procChannel channel state (.peerDequeues count)) =
        entered channel state := by
    simp [entered, step, ring]
  refine .of_inOrder ?_ accounted.freed
  rw [sameEntered]
  exact accounted.inOrder

/-- What a send call leaves on the ring, in the queue, and of the packets seen so far. -/
structure Sent
    (channel : Channel)
    (before after : State) :
    Prop where
  enters :
    entered channel after =
      entered channel before ++
        (before.toPacketiser.map Mbuf.raw).take (ring channel before.eal).room
  rest :
    after.toPacketiser.map Mbuf.raw =
      (before.toPacketiser.map Mbuf.raw).drop
        ((ring channel before.eal).room + 1)
  arrived :
    after.arrived = before.arrived
  pools :
    after.eal.pools = before.eal.pools

/-- A send call feeds the ring and pops one packet more than fits. -/
theorem sent_sendToPacketiser
    {procChannel : RingClientMap}
    {channel : Channel}
    (present : procChannel.ringmap Engine.processorThread = some channel)
    (state : State) :
    Sent channel state (step procChannel channel state .sendToPacketiser) := by
  obtain ⟨_, rest, looped, sameRest⟩ :=
    sendLoop_spec present state.toPacketiser 0 state.eal
  have sent :
      step procChannel channel state .sendToPacketiser =
        { state with
          eal :=
            state.eal.setRing channel.engineToClient.raw
              ((ring channel state.eal).feed
                (state.toPacketiser.map Mbuf.raw)).1
          toPacketiser := rest } := by
    simp [step, sendToPacketiser_eq_loop, looped]
  rw [sent]
  exact {
    enters := by
      simp [entered, ring, BoundedFifo.feed_entries]
    rest := by
      simp only [sameRest, BoundedFifo.feed_rest]
    arrived := rfl
    pools := rfl
  }

/--
A send call loses nothing exactly when the whole queue fits: otherwise the ring
takes what it has room for, the queue keeps what was never popped, and the
packet in between is gone.
-/
theorem accounted_sendToPacketiser_iff
    {procChannel : RingClientMap}
    {channel : Channel}
    (present : procChannel.ringmap Engine.processorThread = some channel)
    {pools : Address → List RteMbuf}
    {state : State}
    (accounted : Accounted channel pools state) :
    Accounted channel pools (step procChannel channel state .sendToPacketiser) ↔
      state.toPacketiser.length ≤ (ring channel state.eal).room := by
  have sent := sent_sendToPacketiser present state
  constructor
  · intro after
    have inOrder := after.inOrder
    rw [sent.enters, sent.rest, sent.arrived, ← accounted.inOrder,
      List.append_assoc] at inOrder
    have sameLength :=
      congrArg List.length (List.append_cancel_left inOrder)
    simp only [List.length_append, List.length_take, List.length_drop,
      List.length_map] at sameLength
    omega
  · intro fits
    have fitsAll :
        (state.toPacketiser.map Mbuf.raw).length ≤
          (ring channel state.eal).room := by
      rwa [List.length_map]
    refine .of_inOrder ?_ ?_
    · rw [sent.enters, sent.rest, sent.arrived, ← accounted.inOrder,
        List.take_of_length_le fitsAll,
        List.drop_eq_nil_of_le (Nat.le_succ_of_le fitsAll),
        List.append_nil]
    · rw [sent.pools, sent.arrived]
      exact accounted.freed

/-- A step keeps every packet accounted for exactly when its packets fit the ring. -/
theorem accounted_step_iff
    {procChannel : RingClientMap}
    {channel : Channel}
    (present : procChannel.ringmap Engine.processorThread = some channel)
    {pools : Address → List RteMbuf}
    (state : State)
    (action : Action)
    (accounted : Accounted channel pools state) :
    Accounted channel pools (step procChannel channel state action) ↔
      FitsRing channel state action := by
  cases action with
  | getExternalPkts burst =>
      exact iff_of_true (accounted_getExternalPkts accounted burst) trivial
  | sendToPacketiser =>
      exact accounted_sendToPacketiser_iff present accounted
  | peerDequeues count =>
      exact iff_of_true (accounted_peerDequeues accounted count) trivial

/-! ## Whole runs -/

/-- Right after the packetiser's channel was created, there is nothing to account for. -/
theorem accounted_start
    {eal after : Eal}
    {e2c c2e : Dpdk.Allocation}
    {procChannel : RingClientMap}
    {channel : Channel}
    (added :
      RingClientMap.new.addClient Engine.processorThread e2c c2e eal =
        (.ok (), procChannel, after))
    (present : procChannel.ringmap Engine.processorThread = some channel) :
    (ring channel after).room = Ring.ringCapacity - 1 ∧
      Accounted channel after.pools (start after) := by
  rcases (RingClientMap.backed_new eal).addClient_cases
      Engine.processorThread e2c c2e with
    ⟨_, _, _, failed, _⟩ | ⟨_, newChannel, _, succeeded, _, created⟩
  · rw [failed] at added
    simp at added
  · rw [succeeded] at added
    obtain ⟨_, rfl, rfl⟩ := by
      simpa only [Prod.mk.injEq] using added
    obtain rfl : newChannel = channel := by
      simpa using present
    have isEmpty : ring newChannel _ = BoundedFifo.empty _ :=
      created.isEmpty .e2c
    refine ⟨?_, .of_inOrder ?_ ?_⟩
    · rw [isEmpty]
      rfl
    · simp [entered, start, isEmpty, accepted]
    · exact (refilled_nil _).symm

/--
From the creation of the packetiser's channel on, every packet is accounted
for in every state of a run exactly if every send call of the run finds at
most as many queued packets as the ring has free slots.
-/
theorem always_accounted_iff_fitsRing
    {eal after : Eal}
    {e2c c2e : Dpdk.Allocation}
    {procChannel : RingClientMap}
    {channel : Channel}
    (added :
      RingClientMap.new.addClient Engine.processorThread e2c c2e eal =
        (.ok (), procChannel, after))
    (present : procChannel.ringmap Engine.processorThread = some channel)
    (actions : List Action) :
    Always (step procChannel channel) (Accounted channel after.pools)
        (start after) actions ↔
      EveryStep (step procChannel channel) (FitsRing channel)
        (start after) actions :=
  always_iff_guarded (accounted_step_iff present)
    (accounted_start added present).2 actions

/-- The steps that receive a sequence of bursts. -/
def receives (bursts : List (List Mbuf)) : List Action :=
  bursts.map .getExternalPkts

/-- Bursts received one after the other queue their accepted packets and leave the rings alone. -/
theorem run_receives
    (procChannel : RingClientMap)
    (channel : Channel)
    (bursts : List (List Mbuf))
    (state : State) :
    (run (step procChannel channel) state (receives bursts)).toPacketiser.map
          Mbuf.raw =
        state.toPacketiser.map Mbuf.raw ++ accepted bursts.flatten ∧
      (run (step procChannel channel) state (receives bursts)).eal.rings =
        state.eal.rings := by
  induction bursts generalizing state with
  | nil =>
      simp [receives, accepted]
  | cons burst rest inductionHypothesis =>
      obtain ⟨_, queued, after, looped, sameQueue, sameRings, _⟩ :=
        receiveLoop_spec burst 0 state.toPacketiser state.eal
      have received :
          step procChannel channel state (.getExternalPkts burst) =
            { state with
              eal := after
              toPacketiser := queued
              arrived := state.arrived ++ burst } := by
        simp [step, Engine.getExternalPkts, looped]
      obtain ⟨laterQueue, laterRings⟩ :=
        inductionHypothesis
          (step procChannel channel state (.getExternalPkts burst))
      rw [receives, List.map_cons, run_cons, ← receives, laterQueue,
        laterRings, received, List.flatten_cons, accepted_append]
      exact ⟨by rw [sameQueue, List.append_assoc], sameRings⟩

/-- First bursts with more accepted packets than the ring can hold lose a packet. -/
theorem not_accounted_of_overfull
    {eal after : Eal}
    {e2c c2e : Dpdk.Allocation}
    {procChannel : RingClientMap}
    {channel : Channel}
    (added :
      RingClientMap.new.addClient Engine.processorThread e2c c2e eal =
        (.ok (), procChannel, after))
    (present : procChannel.ringmap Engine.processorThread = some channel)
    {bursts : List (List Mbuf)}
    (overfull :
      Ring.ringCapacity - 1 < (accepted bursts.flatten).length) :
    ¬ Always (step procChannel channel) (Accounted channel after.pools)
      (start after) (receives bursts ++ [.sendToPacketiser]) := by
  intro always
  obtain ⟨room, _⟩ := accounted_start added present
  obtain ⟨sameQueue, sameRings⟩ :=
    run_receives procChannel channel bursts (start after)
  have received := always (receives bursts) (List.prefix_append _ _)
  have sent := always _ (List.prefix_refl _)
  rw [run_append, run_cons, run_nil,
    accounted_sendToPacketiser_iff present received] at sent
  have queueLength :
      (run (step procChannel channel) (start after)
          (receives bursts)).toPacketiser.length =
        (accepted bursts.flatten).length := by
    simpa [start] using congrArg List.length sameQueue
  have sameRoom :
      (ring channel (run (step procChannel channel) (start after)
          (receives bursts)).eal).room =
        Ring.ringCapacity - 1 := by
    rw [ring, sameRings, ← room]
    rfl
  rw [queueLength, sameRoom] at sent
  exact absurd overfull (Nat.not_lt.mpr sent)

/-- The engine's map after `add_client` was granted the ring addresses 10 and 20. -/
def procChannel : RingClientMap :=
  (RingClientMap.new.addClient Engine.processorThread
    (.ok 10) (.ok 20) Eal.initial).2.1

/-- The environment after that `add_client`. -/
def withPacketiser : Eal :=
  (RingClientMap.new.addClient Engine.processorThread
    (.ok 10) (.ok 20) Eal.initial).2.2

/-- The channel created by that `add_client`. -/
def packetiserChannel : Channel where
  clientToEngine :=
    ⟨Engine.processorThread, .c2e, 20⟩
  engineToClient :=
    ⟨Engine.processorThread, .e2c, 10⟩

theorem added_packetiser :
    RingClientMap.new.addClient Engine.processorThread
        (.ok 10) (.ok 20) Eal.initial =
      (.ok (), procChannel, withPacketiser) :=
  rfl

theorem present_packetiser :
    procChannel.ringmap Engine.processorThread = some packetiserChannel :=
  rfl

/-- A frame of 60 bytes that are all 8, in a buffer of its own. -/
def numberedFrame (index : Nat) : Mbuf where
  raw := {
    RteMbuf.reset 1 (100 + index) fun _ => 8 with
    dataLen := 60
    pktLen := 60
  }

/-- One received packet that is sent on and taken by the peer. -/
theorem always_accounted_one_packet :
    Always (step procChannel packetiserChannel)
        (Accounted packetiserChannel withPacketiser.pools)
        (start withPacketiser)
        [.getExternalPkts [numberedFrame 0], .sendToPacketiser,
          .peerDequeues 1] ↔
      EveryStep (step procChannel packetiserChannel)
        (FitsRing packetiserChannel) (start withPacketiser)
        [.getExternalPkts [numberedFrame 0], .sendToPacketiser,
          .peerDequeues 1] :=
  always_accounted_iff_fitsRing added_packetiser present_packetiser _

/-- As many frames as the ring has slots, counting the one that stays empty, in full bursts. -/
def fullBursts : List (List Mbuf) :=
  (List.range 16).map fun burst =>
    (List.range Port.rxBurstMax.toNat).map fun index =>
      numberedFrame (Port.rxBurstMax.toNat * burst + index)

/-- Every one of these bursts can be received, and no buffer is received twice. -/
theorem receivable_fullBursts :
    (∀ burst ∈ fullBursts, burst.length = Port.rxBurstMax.toNat) ∧
      (fullBursts.flatten.map fun pkt => pkt.raw.address).Nodup := by
  have addresses :
      (fullBursts.flatten.map fun pkt => pkt.raw.address) =
        (List.range 512).map (100 + ·) := by
    decide +kernel
  refine ⟨?_, ?_⟩
  · intro burst member
    obtain ⟨_, _, rfl⟩ := List.mem_map.mp member
    rw [List.length_map, List.length_range]
  · rw [addresses]
    exact List.nodup_range.map (add_right_injective 100)

/-- Bursts that exceed the ring by one packet lose a packet. -/
theorem not_accounted_full_ring :
    (∀ burst ∈ fullBursts, burst.length = Port.rxBurstMax.toNat) ∧
      (fullBursts.flatten.map fun pkt => pkt.raw.address).Nodup ∧
      ¬ Always (step procChannel packetiserChannel)
        (Accounted packetiserChannel withPacketiser.pools)
        (start withPacketiser)
        (receives fullBursts ++ [.sendToPacketiser]) := by
  obtain ⟨fullLength, distinct⟩ := receivable_fullBursts
  refine ⟨fullLength, distinct, ?_⟩
  apply not_accounted_of_overfull added_packetiser present_packetiser
  have allAccepted : (accepted fullBursts.flatten).length = 512 := by
    decide +kernel
  rw [allAccepted]
  decide

end VDataplane.EngineIngress
