import VDataplane.GuardedRun
import VDataplane.PacketiserClients
import VDataplane.Pools

namespace VDataplane.Egress

open GuardedRun

/-!
# Egress of the packetiser

`send_outgoing_packets` pops as many packets as `o_bufqueue` holds at the start
and sends them one by one, while the engine dequeues at its own pace.  A packet
that finds the ring full has been popped and turned into a raw pointer before
the failure is known; the loop goes on without it.

`send_to_engine_bulk` should have the same effect in one library call.
-/

/-- The ring over which the packetiser sends to the engine. -/
def ring
    (channel : Channel)
    (eal : Eal) :
    RteRing :=
  eal.rings channel.clientToEngine.raw

/-- The queue and the environment in the middle of the loop. -/
structure State where
  oBufqueue : List Mbuf
  eal : Eal
  /-- Every packet that the engine took from the ring, in order. -/
  taken : List RteMbuf

/-- The state before the loop. -/
def start
    (packetiser : Packetiser)
    (eal : Eal) :
    State where
  oBufqueue :=
    packetiser.oBufqueue
  eal :=
    eal
  taken :=
    []

/-- The environment after the engine dequeued some packets. -/
def dequeued
    (channel : Channel)
    (state : State)
    (count : Nat) :
    Eal :=
  state.eal.setRing channel.clientToEngine.raw
    ((ring channel state.eal).drop count)

/-- One round of the loop, before which the engine dequeues `count` packets. -/
def step
    (channel : Channel)
    (state : State)
    (count : Nat) :
    State :=
  let (oBufqueue, eal) :=
    Packetiser.sendOne channel state.oBufqueue (dequeued channel state count)
  {
    oBufqueue := oBufqueue
    eal := eal
    taken := state.taken ++ (ring channel state.eal).entries.take count
  }

/-- What the engine dequeues before each round of `send_outgoing_packets`. -/
def rounds
    (packetiser : Packetiser)
    (dequeues : Nat → Nat) :
    List Nat :=
  (List.range packetiser.oBufqueue.length).map dequeues

/-- The packets that have entered the ring: what the engine took and what is still there. -/
def entered
    (channel : Channel)
    (state : State) :
    List RteMbuf :=
  state.taken ++ (ring channel state.eal).entries

/--
Every packet that was queued is in one place: it entered the ring, where it
keeps its place in the queue's order, it is still queued, or it was freed.
-/
def Accounted
    (channel : Channel)
    (before after : State) :
    Prop :=
  ∃ enqueued freed,
    entered channel after = entered channel before ++ enqueued ∧
      enqueued.Sublist (before.oBufqueue.map Mbuf.raw) ∧
      Returned freed before.eal.pools after.eal.pools ∧
      (enqueued ++ after.oBufqueue.map Mbuf.raw ++ freed).Perm
        (before.oBufqueue.map Mbuf.raw)

/-- The enqueue of a round finds a free slot. -/
def HasSlot
    (channel : Channel)
    (state : State)
    (count : Nat) :
    Prop :=
  0 < ((ring channel state.eal).drop count).room

instance
    (channel : Channel)
    (state : State)
    (count : Nat) :
    Decidable (HasSlot channel state count) :=
  inferInstanceAs (Decidable (_ < _))

/-! ## One round -/

section Round

variable (channel : Channel)

/-- The loop of the code is a run of rounds in which the engine does nothing. -/
theorem sendLoop_eq_run
    (count : Nat)
    (state : State) :
    Packetiser.sendLoop channel count state.oBufqueue state.eal =
      ((run (step channel) state (List.replicate count 0)).oBufqueue,
        (run (step channel) state (List.replicate count 0)).eal) := by
  induction count generalizing state with
  | zero =>
      rfl
  | succ count inductionHypothesis =>
      have noneDequeued : dequeued channel state 0 = state.eal := by
        have sameRing :
            (ring channel state.eal).drop 0 = ring channel state.eal :=
          rfl
        rw [dequeued, sameRing, ring, Eal.setRing_self]
      have sameRound :
          Packetiser.sendOne channel state.oBufqueue state.eal =
            ((step channel state 0).oBufqueue, (step channel state 0).eal) := by
        simp only [step, noneDequeued]
      rw [List.replicate_succ, run_cons, ← inductionHypothesis,
        Packetiser.sendLoop, sameRound]

/-- A round offers the first packet of the queue to the ring. -/
theorem step_cases
    (state : State)
    (count : Nat)
    {buf : Mbuf}
    {rest : List Mbuf}
    (queued : state.oBufqueue = buf :: rest) :
    (((ring channel state.eal).drop count).push? buf.raw = none ∧
      step channel state count = {
        oBufqueue := rest
        eal := dequeued channel state count
        taken := state.taken ++ (ring channel state.eal).entries.take count
      }) ∨
    ∃ pushed,
      ((ring channel state.eal).drop count).push? buf.raw = some pushed ∧
        step channel state count = {
          oBufqueue := rest
          eal :=
            state.eal.setRing channel.clientToEngine.raw pushed
          taken := state.taken ++ (ring channel state.eal).entries.take count
        } := by
  have offered :
      (dequeued channel state count).rings channel.clientToEngine.raw =
        (ring channel state.eal).drop count := by
    simp [dequeued]
  rcases channel.clientToEngine.enqueue_cases buf
      (dequeued channel state count) with
    ⟨full, refused⟩ | ⟨pushed, accepted, enqueued⟩
  · rw [offered] at full
    exact Or.inl ⟨full, by
      simp [step, queued, Packetiser.sendOne, Channel.sendToEngine, refused]⟩
  · rw [offered] at accepted
    have sameRing :
        (dequeued channel state count).setRing
            channel.clientToEngine.raw pushed =
          state.eal.setRing channel.clientToEngine.raw pushed := by
      simp [dequeued]
    rw [sameRing] at enqueued
    exact Or.inr ⟨pushed, accepted, by
      simp [step, queued, Packetiser.sendOne, Channel.sendToEngine, enqueued]⟩

/-- A round that finds a free slot sends the first packet of the queue. -/
theorem step_of_hasSlot
    {state : State}
    {count : Nat}
    (hasSlot : HasSlot channel state count)
    {buf : Mbuf}
    {rest : List Mbuf}
    (queued : state.oBufqueue = buf :: rest) :
    (step channel state count).oBufqueue = rest ∧
      (step channel state count).eal.pools = state.eal.pools ∧
      entered channel (step channel state count) =
        entered channel state ++ [buf.raw] := by
  rcases step_cases channel state count queued with
    ⟨full, _⟩ | ⟨pushed, accepted, stepped⟩
  · exact absurd (BoundedFifo.push?_eq_none_iff.mp full)
      (Nat.ne_of_gt hasSlot)
  · obtain ⟨_, _, ringAfter⟩ := BoundedFifo.push?_eq_some_iff.mp accepted
    rw [stepped]
    refine ⟨rfl, rfl, ?_⟩
    simp only [entered, ring, Eal.setRing_rings, Function.update_self,
      ringAfter, BoundedFifo.drop_entries, List.append_assoc]
    rw [← List.append_assoc (List.take _ _), List.take_append_drop]

/-- A round that finds the ring full loses the first packet of the queue. -/
theorem step_of_full
    {state : State}
    {count : Nat}
    (noSlot : ¬ HasSlot channel state count)
    {buf : Mbuf}
    {rest : List Mbuf}
    (queued : state.oBufqueue = buf :: rest) :
    (step channel state count).oBufqueue = rest ∧
      (step channel state count).eal.pools = state.eal.pools ∧
      entered channel (step channel state count) = entered channel state := by
  rcases step_cases channel state count queued with
    ⟨_, stepped⟩ | ⟨pushed, accepted, _⟩
  · rw [stepped]
    refine ⟨rfl, rfl, ?_⟩
    simp [entered, ring, dequeued]
  · exact (noSlot (BoundedFifo.push?_eq_some_iff.mp accepted).1).elim

end Round

/-! ## The whole loop -/

/--
After any number of rounds, at most one for each packet, the packets of these
rounds have left the queue and some of them have entered the ring, in order;
all of them have exactly if every round found a free slot.
-/
theorem run_enqueued
    (channel : Channel)
    (state : State)
    (counts : List Nat)
    (noMore : counts.length ≤ state.oBufqueue.length) :
    ∃ enqueued,
      (run (step channel) state counts).oBufqueue =
          state.oBufqueue.drop counts.length ∧
        (run (step channel) state counts).eal.pools = state.eal.pools ∧
        entered channel (run (step channel) state counts) =
          entered channel state ++ enqueued ∧
        enqueued.Sublist
          ((state.oBufqueue.take counts.length).map Mbuf.raw) ∧
        (EveryStep (step channel) (HasSlot channel) state counts ↔
          enqueued.length = counts.length) := by
  induction counts generalizing state with
  | nil =>
      exact ⟨[], rfl, rfl, (List.append_nil _).symm, .refl [], by simp⟩
  | cons count later inductionHypothesis =>
      cases queued : state.oBufqueue with
      | nil =>
          simp [queued] at noMore
      | cons buf rest =>
          have fewer : later.length ≤ rest.length := by
            simpa [queued] using noMore
          by_cases hasSlot : HasSlot channel state count
          · obtain ⟨queueAfter, poolsAfter, enteredAfter⟩ :=
              step_of_hasSlot channel hasSlot queued
            obtain ⟨enqueued, sameQueue, samePools, sameEntered, inOrder,
                allIff⟩ :=
              inductionHypothesis _ (by rwa [queueAfter])
            rw [queueAfter] at sameQueue inOrder
            refine ⟨buf.raw :: enqueued, sameQueue,
              samePools.trans poolsAfter, ?_, inOrder.cons_cons _, ?_⟩
            · rw [run_cons, sameEntered, enteredAfter]
              simp
            · simp [hasSlot, allIff]
          · obtain ⟨queueAfter, poolsAfter, enteredAfter⟩ :=
              step_of_full channel hasSlot queued
            obtain ⟨enqueued, sameQueue, samePools, sameEntered, inOrder, _⟩ :=
              inductionHypothesis _ (by rwa [queueAfter])
            rw [queueAfter] at sameQueue inOrder
            refine ⟨enqueued, sameQueue, samePools.trans poolsAfter, ?_,
              inOrder.cons _, ?_⟩
            · rw [run_cons, sameEntered, enteredAfter]
            · have atMost := inOrder.length_le
              simp only [List.length_map, List.length_take] at atMost
              simp only [everyStep_cons, hasSlot, false_and, false_iff,
                List.length_cons]
              omega

/-- With one round for each packet, none is lost exactly if every round finds a free slot. -/
theorem accounted_run_iff
    (channel : Channel)
    (state : State)
    {counts : List Nat}
    (oneForEach : counts.length = state.oBufqueue.length) :
    Accounted channel state (run (step channel) state counts) ↔
      EveryStep (step channel) (HasSlot channel) state counts := by
  obtain ⟨enqueued, queueAfter, poolsAfter, enteredAfter, inOrder, allIff⟩ :=
    run_enqueued channel state counts (Nat.le_of_eq oneForEach)
  rw [oneForEach, List.drop_length] at queueAfter
  rw [oneForEach, List.take_length] at inOrder
  rw [allIff, oneForEach]
  constructor
  · rintro ⟨otherEnqueued, freed, sameEntered, _, returned, onePlace⟩
    obtain rfl : enqueued = otherEnqueued :=
      List.append_cancel_left (enteredAfter.symm.trans sameEntered)
    rw [poolsAfter] at returned
    rw [returned.eq_nil, queueAfter] at onePlace
    simpa using onePlace.length_eq
  · intro allEnqueued
    have isWhole : enqueued = state.oBufqueue.map Mbuf.raw :=
      inOrder.eq_of_length (by rw [allEnqueued, List.length_map])
    refine ⟨enqueued, [], enteredAfter, inOrder, ?_, ?_⟩
    · rw [poolsAfter]
      exact .nil _
    · rw [queueAfter, isWhole]
      simp

/--
No packet of the queue is lost in `send_outgoing_packets`, whatever the engine
dequeues between the enqueues, exactly if every enqueue finds a free slot.
-/
theorem accounted_iff_every_round_hasSlot
    (packetiser : Packetiser)
    (eal : Eal)
    (dequeues : Nat → Nat) :
    Accounted packetiser.channel (start packetiser eal)
        (run (step packetiser.channel) (start packetiser eal)
          (rounds packetiser dequeues)) ↔
      EveryStep (step packetiser.channel) (HasSlot packetiser.channel)
        (start packetiser eal) (rounds packetiser dequeues) := by
  apply accounted_run_iff
  simp [rounds, start]

/-- The packetiser's queue with two packets. -/
def twoPackets : Packetiser :=
  { PacketiserClients.newPacketiser with
    oBufqueue := [⟨.reset 30 100 fun _ => 0⟩, ⟨.reset 30 200 fun _ => 0⟩] }

/-- The ring to the engine with a single free slot. -/
def oneSlot : Eal :=
  PacketiserClients.engineEal.setRing 20 {
    capacity := Ring.ringCapacity - 1
    entries :=
      (List.range (Ring.ringCapacity - 2)).map fun index =>
        .reset 30 (300 + index) fun _ => 0
    fits := by
      rw [List.length_map, List.length_range]
      decide
  }

/-- Unless the engine dequeues in between, the second packet is lost. -/
theorem not_accounted_second_packet :
    ¬ Accounted twoPackets.channel (start twoPackets oneSlot)
      (run (step twoPackets.channel) (start twoPackets oneSlot)
        (rounds twoPackets fun _ => 0)) := by
  rw [accounted_run_iff _ _ rfl]
  decide +kernel

/-! ## The bulk path -/

/-- A path of egress emptied the queue onto the ring, in order. -/
structure MovedAll
    (packetiser : Packetiser)
    (before : Eal)
    (outcome : Packetiser × Eal) :
    Prop where
  emptied :
    outcome.1.oBufqueue = []
  appended :
    (ring packetiser.channel outcome.2).entries =
      (ring packetiser.channel before).entries ++
        packetiser.oBufqueue.map Mbuf.raw

/-- The loop empties a queue that the ring has room for. -/
theorem sendLoop_of_fits
    (channel : Channel)
    {oBufqueue : List Mbuf}
    {eal : Eal}
    (fits : oBufqueue.length ≤ (ring channel eal).room) :
    ∃ pushed,
      (ring channel eal).pushAll? (oBufqueue.map Mbuf.raw) = some pushed ∧
        Packetiser.sendLoop channel oBufqueue.length oBufqueue eal =
          ([], eal.setRing channel.clientToEngine.raw pushed) := by
  induction oBufqueue generalizing eal with
  | nil =>
      refine ⟨ring channel eal, BoundedFifo.pushAll?_nil _, ?_⟩
      rw [ring, Eal.setRing_self]
      rfl
  | cons buf rest inductionHypothesis =>
      rcases channel.clientToEngine.enqueue_cases buf eal with
        ⟨full, _⟩ | ⟨next, accepted, enqueued⟩
      · have noRoom : (ring channel eal).room = 0 :=
          BoundedFifo.push?_eq_none_iff.mp full
        simp [noRoom] at fits
      · let sent := eal.setRing channel.clientToEngine.raw next
        have ringAfter : ring channel sent = next := by
          simp [ring, sent]
        have oneFewer : next.room + 1 = (ring channel eal).room :=
          BoundedFifo.room_of_push accepted
        obtain ⟨pushed, restPushed, looped⟩ :=
          @inductionHypothesis sent (by
            rw [List.length_cons] at fits
            rw [ringAfter]
            omega)
        rw [ringAfter] at restPushed
        refine ⟨pushed, BoundedFifo.pushAll?_cons accepted restPushed, ?_⟩
        simp only [List.length_cons, Packetiser.sendLoop, Packetiser.sendOne,
          Channel.sendToEngine, enqueued]
        rw [looped, Eal.setRing_setRing]

/-- When the ring has room for the whole queue, the plain path moves it there. -/
theorem movedAll_sendOutgoingPackets
    {packetiser : Packetiser}
    {eal : Eal}
    (fits :
      packetiser.oBufqueue.length ≤ (ring packetiser.channel eal).room) :
    MovedAll packetiser eal (packetiser.sendOutgoingPackets eal).2 := by
  obtain ⟨pushed, allPushed, looped⟩ :=
    sendLoop_of_fits packetiser.channel fits
  obtain ⟨_, _, sameEntries⟩ := BoundedFifo.pushAll?_eq_some_iff.mp allPushed
  have sent :
      packetiser.sendOutgoingPackets eal =
        (.ok (), { packetiser with oBufqueue := [] },
          eal.setRing packetiser.channel.clientToEngine.raw pushed) := by
    simp [Packetiser.sendOutgoingPackets, looped]
  rw [sent]
  refine ⟨rfl, ?_⟩
  simpa [ring] using sameEntries

/-- What the bulk path should do: move the queue like the plain path, and count it. -/
structure BulkAgrees
    (packetiser : Packetiser)
    (eal : Eal) :
    Prop where
  sameState :
    (packetiser.sendToEngineBulk eal).2 =
      (packetiser.sendOutgoingPackets eal).2
  movedAll :
    MovedAll packetiser eal (packetiser.sendToEngineBulk eal).2
  counted :
    (packetiser.sendToEngineBulk eal).1 = packetiser.oBufqueue.length

/-- The bulk path pops one packet and hands over none. -/
theorem sendToEngineBulk_eq
    (packetiser : Packetiser)
    (eal : Eal) :
    packetiser.sendToEngineBulk eal =
      (0, { packetiser with oBufqueue := packetiser.oBufqueue.tail }, eal) := by
  unfold Packetiser.sendToEngineBulk
  split
  · next isEmpty =>
      have noPackets := List.isEmpty_iff.mp isEmpty
      have sameQueue :
          packetiser.oBufqueue.tail = packetiser.oBufqueue := by
        rw [noPackets]
        rfl
      rw [sameQueue]
  · simp only [Channel.sendToEngineBulk, Ring.enqueueBulk_eq]

/--
With a free slot for every queued packet, the plain path moves the whole queue
onto the ring; the bulk path agrees with it exactly if the queue is empty.
-/
theorem bulkAgrees_iff_empty
    {packetiser : Packetiser}
    {eal : Eal}
    (fits :
      packetiser.oBufqueue.length ≤ (ring packetiser.channel eal).room) :
    MovedAll packetiser eal (packetiser.sendOutgoingPackets eal).2 ∧
      (BulkAgrees packetiser eal ↔ packetiser.oBufqueue = []) := by
  refine ⟨movedAll_sendOutgoingPackets fits, ?_⟩
  constructor
  · intro agrees
    have counted := agrees.counted
    rw [sendToEngineBulk_eq] at counted
    exact List.length_eq_zero_iff.mp counted.symm
  · intro isEmpty
    have sameState :
        (packetiser.sendToEngineBulk eal).2 =
          (packetiser.sendOutgoingPackets eal).2 := by
      simp [sendToEngineBulk_eq, Packetiser.sendOutgoingPackets,
        Packetiser.sendLoop, isEmpty]
    refine ⟨sameState, ?_, ?_⟩
    · rw [sameState]
      exact movedAll_sendOutgoingPackets fits
    · rw [sendToEngineBulk_eq, isEmpty, List.length_nil]

/-- A packetiser with nothing to send, and one with two packets. -/
theorem bulkAgrees_none_and_two_packets :
    (MovedAll PacketiserClients.newPacketiser PacketiserClients.engineEal
          (PacketiserClients.newPacketiser.sendOutgoingPackets
            PacketiserClients.engineEal).2 ∧
        (BulkAgrees PacketiserClients.newPacketiser
            PacketiserClients.engineEal ↔
          PacketiserClients.newPacketiser.oBufqueue = [])) ∧
      MovedAll twoPackets PacketiserClients.engineEal
          (twoPackets.sendOutgoingPackets PacketiserClients.engineEal).2 ∧
        (BulkAgrees twoPackets PacketiserClients.engineEal ↔
          twoPackets.oBufqueue = []) :=
  ⟨bulkAgrees_iff_empty (by decide), bulkAgrees_iff_empty (by decide)⟩

/-- Of two queued packets and an empty ring the bulk path loses one and leaves one behind. -/
theorem not_bulkAgrees_two_packets :
    twoPackets.oBufqueue.length ≤ Packetiser.burstMax ∧
      twoPackets.oBufqueue.length ≤
        (ring twoPackets.channel PacketiserClients.engineEal).room ∧
      ¬ BulkAgrees twoPackets PacketiserClients.engineEal := by
  refine ⟨by decide, by decide, ?_⟩
  intro agrees
  exact absurd agrees.counted (by decide)

end VDataplane.Egress
