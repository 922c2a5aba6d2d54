import VDataplane.BurstReceive
import VDataplane.Custody
import VDataplane.EngineCollect
import VDataplane.InFlight
import VDataplane.PacketFrame
import VDataplane.PortConfigure
import VDataplane.RunLedger

namespace VDataplane.Dataplane

open Custody EngineIngress GuardedRun

/-!
# The engine and the packetiser at work

The main loops of the two processes, the memory they share, and the NIC between
two of their calls.  The engine's loop calls its four functions in turn; the
packetiser's calls `recv_from_engine_burst` until that fails.  The calls of the
two loops and what the NIC does may come in any order.

The packetiser replaces what it receives by blank buffers and hands nothing
back, so no frame leaves the machine again, and every frame that gets through to
the packetiser costs the common mempool two buffers for good.
-/

/-- The two processes, the environment they share, and the queues of the NIC. -/
structure State where
  eal : Eal
  /-- The frames that the NIC has received and nobody has asked for. -/
  rxQueue : List RteMbuf
  toPacketiser : List Mbuf
  fromPacketiser : List Mbuf
  outPkts : List Mbuf
  /-- The packets that the NIC has taken over. -/
  onNic : List RteMbuf
  packetiser : Packetiser
  /-- The packetiser has not left its main loop. -/
  running : Bool

/-- What the main loop of the engine works with. -/
structure Setup where
  procChannel : RingClientMap
  mempool : Mempool
  port : Port
  lcoreId : UInt32

/-- Both processes have started, and nothing has been received. -/
def start
    (eal : Eal)
    (packetiser : Packetiser) :
    State where
  eal :=
    eal
  rxQueue :=
    []
  toPacketiser :=
    []
  fromPacketiser :=
    []
  outPkts :=
    []
  onNic :=
    []
  packetiser :=
    packetiser
  running :=
    true

/-- A call of one of the two loops, or what the NIC does between two of them. -/
inductive Action where
  | frameArrives (bytes : WireFormat.Frame)
  | getExternalPkts (offers : Nat)
  | sendToPacketiser
  | getFromPacketiser
  | sendPktsOut (accepts : Nat)
  | frameLeaves
  | packetiserLoop

/-- A buffer in which the NIC has stored a frame. -/
def filled
    (mbuf : RteMbuf)
    (bytes : WireFormat.Frame) :
    RteMbuf :=
  { mbuf with
    dataLen := UInt16.ofNat bytes.length
    pktLen := UInt32.ofNat bytes.length
    memory := mbuf.memory.store (Shim.rtePktmbufMtod mbuf) bytes }

/-- The length that a frame has at most; a longer one is discarded. -/
def maxFrameLength : Nat :=
  Port.rteEtherMaxLen.toNat

section Step

variable (setup : Setup)

/-- Execute one action while the packetiser is in its loop. -/
def advance (state : State) : Action → State
  | .frameArrives bytes =>
      if bytes.length ≤ maxFrameLength then
        match Dpdk.rtePktmbufAlloc setup.mempool.raw state.eal with
        | (none, eal) =>
            { state with eal := eal }
        | (some mbuf, eal) =>
            { state with
              eal := eal
              rxQueue := state.rxQueue ++ [filled mbuf bytes] }
      else
        state
  | .getExternalPkts offers =>
      let (pkts, rxQueue) :=
        setup.port.receive setup.lcoreId.toUInt16 offers state.rxQueue
      let (_, toPacketiser, eal) :=
        Engine.getExternalPkts pkts state.toPacketiser state.eal
      { state with
        eal := eal
        rxQueue := rxQueue
        toPacketiser := toPacketiser }
  | .sendToPacketiser =>
      let (_, toPacketiser, eal) :=
        Engine.sendToPacketiser setup.procChannel state.toPacketiser state.eal
      { state with
        eal := eal
        toPacketiser := toPacketiser }
  | .getFromPacketiser =>
      let (_, outPkts, eal) :=
        Engine.getFromPacketiser setup.procChannel setup.mempool
          state.fromPacketiser state.outPkts state.eal
      { state with
        eal := eal
        outPkts := outPkts }
  | .sendPktsOut accepts =>
      match Engine.sendPktsOut setup.port setup.lcoreId accepts state.outPkts
          state.eal with
      | .error _ =>
          state
      | .ok (_, onNic, outPkts, eal) =>
          { state with
            eal := eal
            outPkts := outPkts
            onNic := state.onNic ++ onNic }
  | .frameLeaves =>
      match state.onNic with
      | [] =>
          state
      | mbuf :: rest =>
          { state with
            eal := Dpdk.rtePktmbufFree mbuf state.eal
            onNic := rest }
  | .packetiserLoop =>
      match state.packetiser.recvFromEngineBurst state.eal with
      | (.ok _, packetiser, eal) =>
          { state with
            eal := eal
            packetiser := packetiser }
      | (.error _, packetiser, eal) =>
          { state with
            eal := eal
            packetiser := packetiser
            running := false }

/--
Execute one action.  The description ends where the packetiser leaves its loop:
its destructors then free what the engine goes on using.
-/
def step
    (state : State)
    (action : Action) :
    State :=
  if state.running then
    advance setup state action
  else
    state

end Step

/-! ## Nothing is transmitted -/

/-- There is nothing to transmit, and nothing from which there could be. -/
structure Silent (state : State) : Prop where
  fromPacketiser :
    state.fromPacketiser = []
  outPkts :
    state.outPkts = []
  onNic :
    state.onNic = []

section Run

variable {setup : Setup}

/-- Without packets from the packetiser there is nothing to collect. -/
theorem advance_getFromPacketiser
    {state : State}
    (silent : Silent state) :
    advance setup state .getFromPacketiser =
      state := by
  obtain ⟨noneFrom, _, _⟩ := silent
  cases state
  subst noneFrom
  simp only [advance, EngineCollect.getFromPacketiser_nil]

/-- Without packets to send, a send call does nothing. -/
theorem advance_sendPktsOut
    {state : State}
    (silent : Silent state)
    (accepts : Nat) :
    advance setup state (.sendPktsOut accepts) =
      state := by
  obtain ⟨_, noneOut, _⟩ := silent
  cases state
  subst noneOut
  simp [advance, Engine.sendPktsOut]

/-- No frame can leave a NIC that holds none. -/
theorem advance_frameLeaves
    {state : State}
    (silent : Silent state) :
    advance setup state .frameLeaves =
      state := by
  simp only [advance, silent.onNic]

/-- No action gives the engine anything to transmit. -/
theorem silent_step
    (state : State)
    (action : Action)
    (silent : Silent state) :
    Silent (step setup state action) := by
  have ⟨noneFrom, noneOut, noneOn⟩ := silent
  unfold step
  split
  · cases action with
    | frameArrives bytes =>
        unfold advance
        dsimp only
        split
        · split
          · exact ⟨noneFrom, noneOut, noneOn⟩
          · exact ⟨noneFrom, noneOut, noneOn⟩
        · exact ⟨noneFrom, noneOut, noneOn⟩
    | getExternalPkts offers =>
        exact ⟨noneFrom, noneOut, noneOn⟩
    | sendToPacketiser =>
        exact ⟨noneFrom, noneOut, noneOn⟩
    | getFromPacketiser =>
        rwa [advance_getFromPacketiser silent]
    | sendPktsOut accepts =>
        rwa [advance_sendPktsOut silent]
    | frameLeaves =>
        rwa [advance_frameLeaves silent]
    | packetiserLoop =>
        simp only [advance]
        split
        · exact ⟨noneFrom, noneOut, noneOn⟩
        · exact ⟨noneFrom, noneOut, noneOn⟩
  · exact silent

theorem silent_start
    (eal : Eal)
    (packetiser : Packetiser) :
    Silent (start eal packetiser) :=
  ⟨rfl, rfl, rfl⟩

end Run


/-! ## Every buffer is accounted for -/

/-- The ring over which the engine sends to the packetiser. -/
def ring (state : State) : RteRing :=
  state.packetiser.ingress state.eal

/-- The buffers that are out of their mempools, wherever they are. -/
def inUse (state : State) : List RteMbuf :=
  state.rxQueue ++ state.toPacketiser.map Mbuf.raw ++ (ring state).entries ++
    state.packetiser.iBufqueue.map Mbuf.raw

/-- The buffers of a mempool that are free or in use. -/
def census
    (pool : Address)
    (state : State) :
    Multiset Address :=
  tally pool (state.eal.pools pool) + tally pool (inUse state)

/--
The buffers that an action leaves nowhere: a packet that the ring refuses, and
the packets that the packetiser takes off the ring.
-/
def lost (state : State) : Action → List RteMbuf
  | .sendToPacketiser =>
      ((state.toPacketiser.map Mbuf.raw).drop (ring state).room).take 1
  | .packetiserLoop =>
      (ring state).entries.take (state.packetiser.burst state.eal)
  | _ =>
      []

/-- What the actions lose while the packetiser is in its loop. -/
def losses
    (pool : Address)
    (state : State)
    (action : Action) :
    Multiset Address :=
  if state.running then
    tally pool (lost state action)
  else
    0

/-- The engine sends over the ring on which the packetiser receives, out of one mempool. -/
structure Connected
    (setup : Setup)
    (packetiser : Packetiser) :
    Prop where
  sameRing :
    ∃ channel,
      setup.procChannel.ringmap Engine.processorThread = some channel ∧
        channel.engineToClient.raw =
          packetiser.channel.engineToClient.raw
  sameMempool :
    packetiser.mempool = setup.mempool

/-- The processes are connected, and every buffer in use came out of their mempool. -/
structure Sound
    (setup : Setup)
    (state : State) :
    Prop where
  silent :
    Silent state
  connected :
    Connected setup state.packetiser
  atHome :
    ∀ pool, ∀ mbuf ∈ state.eal.pools pool, mbuf.pool = pool
  belongs :
    ∀ mbuf ∈ inUse state, mbuf.pool = setup.mempool.raw

/-- What an action does: it keeps the state sound and loses these buffers. -/
structure Loses
    (setup : Setup)
    (before after : State)
    (buffers : List RteMbuf) :
    Prop where
  sound :
    Sound setup after
  census :
    ∀ pool, census pool after + tally pool buffers = census pool before

section Steps

variable
  {setup : Setup}
  {state : State}

/-- What leaves the environment and the queues as they are loses nothing. -/
theorem loses_nothing
    (sound : Sound setup state) :
    Loses setup state state [] where
  sound :=
    sound
  census _ :=
    add_zero _

/-- A frame that arrives takes a buffer out of the mempool, or is discarded. -/
theorem loses_frameArrives
    (sound : Sound setup state)
    (bytes : WireFormat.Frame) :
    Loses setup state
      (advance setup state (.frameArrives bytes))
      [] := by
  have ⟨silent, connected, atHome, belongs⟩ := sound
  by_cases short : bytes.length ≤ maxFrameLength
  · rcases Dpdk.rtePktmbufAlloc_cases setup.mempool.raw state.eal with
      ⟨_, failed⟩ | ⟨mbuf, free, shape, allocated⟩
    · simp only [advance, short, if_true, failed]
      exact loses_nothing sound
    · have homed := atHome setup.mempool.raw
      rw [shape] at homed
      obtain ⟨ownPool, restHomed⟩ := List.forall_mem_cons.mp homed
      simp only [advance, short, if_true, allocated]
      refine ⟨⟨⟨silent.1, silent.2, silent.3⟩, connected, ?_, ?_⟩, ?_⟩
      · intro pool
        by_cases same : pool = setup.mempool.raw
        · subst same
          simpa using restHomed
        · simpa [same] using atHome pool
      · intro used member
        have newOrOld :
            used = filled mbuf.recycled bytes ∨ used ∈ inUse state := by
          simp only [inUse, ring, Packetiser.ingress, Eal.setPool_rings,
            List.mem_append, List.mem_singleton] at member ⊢
          tauto
        rcases newOrOld with rfl | old
        · exact ownPool
        · exact belongs used old
      · intro pool
        have sameBuffer :
            tally pool [filled mbuf.recycled bytes] = tally pool [mbuf] :=
          tally_map (fun mbuf => filled mbuf.recycled bytes)
            (fun _ => rfl) (fun _ => rfl) [mbuf]
        have taken :
            tally pool (state.eal.pools pool) =
              tally pool [mbuf] +
                tally pool
                  ((state.eal.setPool setup.mempool.raw free).pools pool) := by
          by_cases same : pool = setup.mempool.raw
          · subst same
            rw [Eal.setPool_pools, Function.update_self, shape, tally_cons]
          · rw [Eal.setPool_pools, Function.update_of_ne same,
              tally_of_ne (by rw [ownPool]; exact Ne.symm same), zero_add]
        simp only [census, inUse, ring, Packetiser.ingress, tally_append,
          Eal.setPool_rings, sameBuffer, taken, tally_nil, add_zero]
        abel
  · simp only [advance, short, if_false]
    exact loses_nothing sound

/-- The packets that the engine queues and those that it frees are all it received. -/
theorem accepted_rejected_perm (pkts : List Mbuf) :
    (accepted pkts ++ rejected pkts).Perm (pkts.map Mbuf.raw) := by
  rw [accepted, rejected, ← List.map_append]
  apply List.Perm.map
  have parted :=
    List.filter_append_perm (fun pkt => decide (Accepted pkt)) pkts
  refine List.Perm.trans ?_ parted
  simp

/-- Refilled mempools got the freed packets back. -/
theorem returned_refilled
    (freed : List RteMbuf)
    (pools : Address → List RteMbuf) :
    Returned freed pools (refilled freed pools) := by
  intro pool
  exact (List.reverse_perm _).append_right _

/-- What the NIC hands over and what it keeps is what it had. -/
theorem received_append_rest
    {port : Port}
    {queueId : UInt16}
    {offers : Nat}
    {before after : List RteMbuf}
    {pkts : List Mbuf}
    (handedOver : port.receive queueId offers before = (pkts, after)) :
    pkts.map Mbuf.raw ++ after = before := by
  simp only [Port.receive, Dpdk.rteEthRxBurst, Prod.mk.injEq] at handedOver
  obtain ⟨rfl, rfl⟩ := handedOver
  have sameBuffers :
      Mbuf.raw ∘ Mbuf.fromPtr = id :=
    rfl
  rw [List.map_map, sameBuffers, List.map_id, List.take_append_drop]

/-- A burst moves packets from the NIC to the queue, or back to their mempools. -/
theorem loses_getExternalPkts
    (sound : Sound setup state)
    (offers : Nat) :
    Loses setup state
      (advance setup state (.getExternalPkts offers))
      [] := by
  have ⟨silent, connected, atHome, belongs⟩ := sound
  rcases handedOver : setup.port.receive setup.lcoreId.toUInt16 offers state.rxQueue with
    ⟨pkts, rxQueue⟩
  have sameFrames : pkts.map Mbuf.raw ++ rxQueue = state.rxQueue :=
    received_append_rest handedOver
  obtain ⟨_, queued, after, looped, sameQueue, sameRings, samePools⟩ :=
    receiveLoop_spec pkts 0 state.toPacketiser state.eal
  simp only [advance, handedOver, Engine.getExternalPkts, looped]
  have returned :
      Returned (rejected pkts) state.eal.pools after.pools := by
    rw [samePools]
    exact returned_refilled _ _
  refine ⟨⟨⟨silent.1, silent.2, silent.3⟩, connected, ?_, ?_⟩, ?_⟩
  · exact InFlight.atHome_of_returned returned atHome
  · intro used member
    apply belongs
    have isFrame : used ∈ accepted pkts → used ∈ state.rxQueue := by
      intro isAccepted
      rw [← sameFrames, List.mem_append]
      apply Or.inl
      exact (accepted_rejected_perm pkts).subset
        (List.mem_append_left _ isAccepted)
    have isLater : used ∈ rxQueue → used ∈ state.rxQueue := by
      intro isRest
      rw [← sameFrames]
      exact List.mem_append_right _ isRest
    simp only [inUse, ring, Packetiser.ingress, sameQueue, sameRings,
      List.mem_append] at member ⊢
    tauto
  · intro pool
    have bothParts :
        tally pool (accepted pkts) + tally pool (rejected pkts) =
          tally pool (pkts.map Mbuf.raw) := by
      rw [← tally_append, tally_perm (accepted_rejected_perm pkts)]
    simp only [census, inUse, ring, Packetiser.ingress, tally_append,
      tally_returned returned, sameQueue, sameRings, ← sameFrames,
      ← bothParts, tally_nil, add_zero]
    abel

/-- A send call feeds the ring and loses the packet that the ring refuses. -/
theorem loses_sendToPacketiser
    (sound : Sound setup state) :
    Loses setup state
      (advance setup state .sendToPacketiser)
      (lost state .sendToPacketiser) := by
  have ⟨silent, connected, atHome, belongs⟩ := sound
  obtain ⟨channel, present, sameRing⟩ := connected.sameRing
  obtain ⟨_, rest, looped, sameRest⟩ :=
    sendLoop_spec present state.toPacketiser 0 state.eal
  have sameRings : EngineIngress.ring channel state.eal = ring state := by
    rw [EngineIngress.ring, sameRing]
    rfl
  rw [sameRings, sameRing] at looped
  rw [sameRings] at sameRest
  simp only [advance, sendToPacketiser_eq_loop, looped]
  let waiting := state.toPacketiser.map Mbuf.raw
  let room := (ring state).room
  refine ⟨⟨⟨silent.1, silent.2, silent.3⟩, connected, atHome, ?_⟩, ?_⟩
  · intro used member
    apply belongs
    have isSent : used ∈ waiting.take room → used ∈ waiting :=
      List.mem_of_mem_take
    have isLeft : used ∈ waiting.drop (room + 1) → used ∈ waiting :=
      List.mem_of_mem_drop
    simp only [waiting, room, ring, Packetiser.ingress] at isSent isLeft
    simp only [inUse, ring, Packetiser.ingress, sameRest,
      Eal.setRing_rings, Function.update_self, BoundedFifo.feed_entries,
      BoundedFifo.feed_rest, List.mem_append] at member ⊢
    tauto
  · intro pool
    have parts :
        tally pool waiting =
          tally pool (waiting.take room) +
            tally pool ((waiting.drop room).take 1) +
            tally pool (waiting.drop (room + 1)) := by
      rw [← tally_append, ← tally_append]
      congr 1
      rw [List.append_assoc, ← List.drop_drop, List.take_append_drop,
        List.take_append_drop]
    have ringAfter :
        tally pool ((ring state).feed waiting).1.entries =
          tally pool (ring state).entries + tally pool (waiting.take room) := by
      rw [BoundedFifo.feed_entries, tally_append]
    have restAfter :
        tally pool (rest.map Mbuf.raw) = tally pool (waiting.drop (room + 1)) := by
      rw [sameRest, BoundedFifo.feed_rest]
    simp only [waiting, room, ring] at parts ringAfter restAfter
    simp only [census, inUse, lost, ring, Packetiser.ingress, tally_append,
      Eal.setRing_rings, Eal.setRing_pools, Function.update_self] at *
    rw [ringAfter, restAfter, parts]
    abel

/-- The packetiser leaves its loop when no buffer is free; it receives nothing then. -/
theorem advance_packetiserLoop
    (setup : Setup)
    (state : State) :
    ∃ running,
      advance setup state .packetiserLoop =
          { state with
            eal := (state.packetiser.received state.eal).2
            packetiser := (state.packetiser.received state.eal).1
            running := running } ∧
        (running = true ↔
          state.running = true ∧
            state.eal.pools state.packetiser.mempool.raw ≠ []) := by
  have result := state.packetiser.recvFromEngineBurst_result state.eal
  have left := state.packetiser.recvFromEngineBurst_eq state.eal
  rcases outcome : state.packetiser.recvFromEngineBurst state.eal with
    ⟨returned, packetiser, after⟩
  rw [outcome] at result left
  simp only [advance, outcome, ← left]
  by_cases noneFree : state.eal.pools state.packetiser.mempool.raw = []
  · rw [if_pos noneFree] at result
    subst result
    exact ⟨false, rfl, by simp [noneFree]⟩
  · rw [if_neg noneFree] at result
    subst result
    exact ⟨state.running, rfl, by simp [noneFree]⟩

/-- The buffers that the packetiser creates come out of its mempool. -/
theorem tally_blanks
    (packetiser : Packetiser)
    {eal : Eal}
    (atHome : ∀ pool, ∀ mbuf ∈ eal.pools pool, mbuf.pool = pool)
    (pool : Address) :
    tally pool ((packetiser.blanks eal).map Mbuf.raw) +
        tally pool ((packetiser.withdrawn eal).pools pool) =
      tally pool (eal.pools pool) := by
  have sameBuffers :
      tally pool ((packetiser.blanks eal).map Mbuf.raw) =
        tally pool
          ((eal.pools packetiser.mempool.raw).take Packetiser.burstMax) := by
    rw [Packetiser.blanks, Mbuf.createdUpTo, List.map_map]
    exact tally_map RteMbuf.recycled (fun _ => rfl) (fun _ => rfl) _
  rw [sameBuffers, Packetiser.withdrawn, Eal.setPool_pools]
  by_cases same : pool = packetiser.mempool.raw
  · subst same
    rw [Function.update_self, ← tally_append, List.take_append_drop]
  · have elsewhere :
        tally pool
            ((eal.pools packetiser.mempool.raw).take Packetiser.burstMax) =
          0 := by
      apply tally_of_forall_ne
      intro mbuf member
      rw [atHome _ mbuf (List.mem_of_mem_take member)]
      exact Ne.symm same
    rw [Function.update_of_ne same, elsewhere, zero_add]

/-- The buffers that the packetiser creates belong to its mempool. -/
theorem pool_of_mem_blanks
    {packetiser : Packetiser}
    {eal : Eal}
    (atHome : ∀ pool, ∀ mbuf ∈ eal.pools pool, mbuf.pool = pool)
    {mbuf : RteMbuf}
    (member : mbuf ∈ (packetiser.blanks eal).map Mbuf.raw) :
    mbuf.pool = packetiser.mempool.raw := by
  simp only [Packetiser.blanks, Mbuf.createdUpTo, List.map_map,
    List.mem_map, Function.comp_apply] at member
  obtain ⟨free, isFree, rfl⟩ := member
  exact atHome _ free (List.mem_of_mem_take isFree)

/-- A received burst takes packets off the ring, and as many blank buffers are queued instead. -/
theorem loses_packetiserLoop
    (sound : Sound setup state) :
    Loses setup state
      (advance setup state .packetiserLoop)
      (lost state .packetiserLoop) := by
  have ⟨silent, connected, atHome, belongs⟩ := sound
  obtain ⟨running, looped, _⟩ :=
    advance_packetiserLoop setup state
  rw [looped]
  let count := state.packetiser.burst state.eal
  let blanks := (state.packetiser.blanks state.eal).map Mbuf.raw
  have returned :
      Returned (blanks.drop count)
        (state.packetiser.withdrawn state.eal).pools
        (state.packetiser.received state.eal).2.pools := by
    simp only [blanks, ← List.map_drop]
    exact Mbuf.returned_dropAll _ _
  have homeWithdrawn :
      ∀ pool, ∀ mbuf ∈ (state.packetiser.withdrawn state.eal).pools pool,
        mbuf.pool = pool := by
    intro pool mbuf member
    by_cases same : pool = state.packetiser.mempool.raw
    · subst same
      apply atHome
      apply List.mem_of_mem_drop (i := Packetiser.burstMax)
      simpa [Packetiser.withdrawn] using member
    · apply atHome
      simpa [Packetiser.withdrawn, same] using member
  have ringAfter :
      ((state.packetiser.received state.eal).1.ingress
          (state.packetiser.received state.eal).2).entries =
        (ring state).entries.drop count := by
    simp [Packetiser.received, Packetiser.ingress, ring, count]
  have queueAfter :
      (state.packetiser.received state.eal).1.iBufqueue.map Mbuf.raw =
        state.packetiser.iBufqueue.map Mbuf.raw ++ blanks.take count := by
    simp [Packetiser.received, blanks, count]
  refine ⟨⟨⟨silent.1, silent.2, silent.3⟩, ?_, ?_, ?_⟩, ?_⟩
  · exact ⟨connected.sameRing, connected.sameMempool⟩
  · exact InFlight.atHome_of_returned returned homeWithdrawn
  · intro used member
    have blankOrOld : used ∈ blanks ∨ used ∈ inUse state := by
      have isBlank : used ∈ blanks.take count → used ∈ blanks :=
        List.mem_of_mem_take
      have wasThere :
          used ∈ (ring state).entries.drop count →
            used ∈ (ring state).entries :=
        List.mem_of_mem_drop
      simp only [inUse, List.mem_append, queueAfter] at member ⊢
      rw [ring, ringAfter] at member
      tauto
    rcases blankOrOld with isBlank | old
    · rw [← connected.sameMempool]
      exact pool_of_mem_blanks atHome isBlank
    · exact belongs used old
  · intro pool
    have blanksSplit :
        tally pool blanks =
          tally pool (blanks.take count) + tally pool (blanks.drop count) := by
      rw [← tally_append, List.take_append_drop]
    have ringSplit :
        tally pool (ring state).entries =
          tally pool ((ring state).entries.take count) +
            tally pool ((ring state).entries.drop count) := by
      rw [← tally_append, List.take_append_drop]
    have created := tally_blanks state.packetiser atHome pool
    rw [blanksSplit] at created
    simp only [census, inUse, lost, tally_append, tally_returned returned,
      queueAfter, ← created, ringSplit]
    rw [ring, ringAfter]
    abel

/-- Every action keeps the state sound and loses what it says. -/
theorem loses_step
    (setup : Setup)
    {state : State}
    (sound : Sound setup state)
    (action : Action) :
    Sound setup (step setup state action) ∧
      ∀ pool,
        census pool (step setup state action) + losses pool state action =
          census pool state := by
  have silent := sound.silent
  by_cases running : state.running = true
  · have loses :
        Loses setup state
          (advance setup state action)
          (lost state action) := by
      cases action with
      | frameArrives bytes =>
          exact loses_frameArrives sound bytes
      | getExternalPkts offers =>
          exact loses_getExternalPkts sound offers
      | sendToPacketiser =>
          exact loses_sendToPacketiser sound
      | getFromPacketiser =>
          rw [advance_getFromPacketiser silent]
          exact loses_nothing sound
      | sendPktsOut accepts =>
          rw [advance_sendPktsOut silent]
          exact loses_nothing sound
      | frameLeaves =>
          rw [advance_frameLeaves silent]
          exact loses_nothing sound
      | packetiserLoop =>
          exact loses_packetiserLoop sound
    simp only [step, losses, running, if_true]
    exact ⟨loses.sound, loses.census⟩
  · simp only [step, losses, running]
    exact ⟨sound, fun _ => add_zero _⟩

theorem sound_step
    (setup : Setup)
    (state : State)
    (action : Action)
    (sound : Sound setup state) :
    Sound setup (step setup state action) :=
  (loses_step setup sound action).1

end Steps

/-! ## Whole runs -/

/--
The processes are connected and have just started: nothing has been sent or
received, and all buffers are in their mempools.
-/
structure Ready
    (setup : Setup)
    (eal : Eal)
    (packetiser : Packetiser) :
    Prop where
  connected :
    Connected setup packetiser
  atHome :
    ∀ pool, ∀ mbuf ∈ eal.pools pool, mbuf.pool = pool
  noneSent :
    (packetiser.ingress eal).entries = []
  noneReceived :
    packetiser.iBufqueue = []

section Runs

variable
  {setup : Setup}
  {eal : Eal}
  {packetiser : Packetiser}

/--
The processes are ready once the engine has added the packetiser to its map and
the packetiser has found the channel.
-/
theorem ready_of_started
    {procChannel : RingClientMap}
    {before after : Eal}
    {e2c c2e : Dpdk.Allocation}
    {cap : Nat}
    (added :
      RingClientMap.new.addClient Engine.processorThread e2c c2e before =
        (.ok (), procChannel, eal))
    (created : Packetiser.new cap eal = (.ok packetiser, after))
    (atHome : ∀ pool, ∀ mbuf ∈ before.pools pool, mbuf.pool = pool)
    (port : Port)
    (lcoreId : UInt32) :
    after = eal ∧
      Ready ⟨procChannel, packetiser.mempool, port, lcoreId⟩ eal
        packetiser := by
  rcases (RingClientMap.backed_new before).addClient_cases
      Engine.processorThread e2c c2e with
    ⟨_, _, _, failed, _⟩ | ⟨_, channel, _, succeeded, _, isCreated⟩
  · rw [failed] at added
    simp at added
  rw [succeeded] at added
  obtain ⟨_, rfl, rfl⟩ := by
    simpa only [Prod.mk.injEq] using added
  have found :
      Channel.lookup Packetiser.packetiserId _ = (.ok channel, _) :=
    Channel.lookup_of_created isCreated
  simp only [Packetiser.new, found] at created
  split at created
  · simp at created
  · next mempool _ =>
      obtain ⟨rfl, rfl⟩ := by
        simpa only [Prod.mk.injEq, Except.ok.injEq] using created
      refine ⟨rfl, ⟨⟨channel, ?_, rfl⟩, rfl⟩, ?_, ?_, rfl⟩
      · simp
      · rw [isCreated.pools]
        exact atHome
      · have isEmpty := isCreated.isEmpty .e2c
        simp only [Channel.ring] at isEmpty
        simp [Packetiser.ingress, isEmpty]

/-- No buffer is in use at the start. -/
theorem inUse_start
    (ready : Ready setup eal packetiser) :
    inUse (start eal packetiser) = [] := by
  simp [inUse, ring, start, ready.noneSent, ready.noneReceived]

theorem sound_start
    (ready : Ready setup eal packetiser) :
    Sound setup (start eal packetiser) where
  silent :=
    silent_start eal packetiser
  connected :=
    ready.connected
  atHome :=
    ready.atHome
  belongs := by
    simp [inUse_start ready]

theorem sound_run
    (ready : Ready setup eal packetiser)
    (actions : List Action) :
    Sound setup (run (step setup) (start eal packetiser) actions) :=
  run_invariant (sound_step setup) (sound_start ready) actions

/-- The buffers that are free or in use, and those that were lost, are the ones of the start. -/
theorem census_run
    (setup : Setup)
    (ready : Ready setup eal packetiser)
    (actions : List Action)
    (pool : Address) :
    census pool (run (step setup) (start eal packetiser) actions) +
        total (step setup) (losses pool) (start eal packetiser) actions =
      tally pool (eal.pools pool) := by
  have accounted :=
    run_add_total (sound_step setup)
      (fun _ action sound => (loses_step setup sound action).2 pool)
      (sound_start ready) actions
  rw [accounted, census, inUse_start ready, tally_nil, add_zero]
  rfl

/--
No buffer is ever in two places: where all buffers of the mempool are different
ones at the start, the free ones and those in use always are.
-/
theorem no_buffer_twice
    (ready : Ready setup eal packetiser)
    (distinct : ((eal.pools setup.mempool.raw).map RteMbuf.address).Nodup)
    (actions : List Action) :
    let state :=
      run (step setup) (start eal packetiser) actions
    ((state.eal.pools setup.mempool.raw ++ inUse state).map
      RteMbuf.address).Nodup := by
  intro state
  have sound : Sound setup state :=
    sound_run ready actions
  have accounted :=
    census_run setup ready actions setup.mempool.raw
  have allOwn :
      ∀ mbuf ∈ state.eal.pools setup.mempool.raw ++ inUse state,
        mbuf.pool = setup.mempool.raw := by
    intro mbuf member
    rcases List.mem_append.mp member with isFree | isUsed
    · exact sound.atHome _ mbuf isFree
    · exact sound.belongs mbuf isUsed
  have noMore :
      tally setup.mempool.raw (state.eal.pools setup.mempool.raw ++ inUse state) ≤
        tally setup.mempool.raw (eal.pools setup.mempool.raw) := by
    rw [tally_append, ← accounted]
    exact le_self_add
  rw [tally_of_forall_eq allOwn, tally_of_forall_eq (ready.atHome _)]
    at noMore
  exact Multiset.coe_nodup.mp
    (Multiset.nodup_of_le noMore (Multiset.coe_nodup.mpr distinct))

/-- An environment with the packetiser's rings and two free buffers. -/
def twoBuffers : Eal :=
  PacketiserClients.engineEal.setPool 30
    [.reset 30 100 fun _ => 0, .reset 30 200 fun _ => 0]

/-- The engine's map, its mempool and a port. -/
def sampleSetup : Setup where
  procChannel :=
    EngineIngress.procChannel
  mempool :=
    ⟨30⟩
  port :=
    ⟨0⟩
  lcoreId :=
    0

theorem ready_twoBuffers :
    Ready sampleSetup twoBuffers
      PacketiserClients.newPacketiser where
  connected :=
    ⟨⟨_, EngineIngress.present_packetiser, rfl⟩, rfl⟩
  atHome := by
    intro pool mbuf member
    by_cases same : pool = 30
    · subst same
      simp only [twoBuffers, Eal.setPool_pools, Function.update_self,
        List.mem_cons, List.not_mem_nil, or_false] at member
      rcases member with rfl | rfl
      · rfl
      · rfl
    · simp only [twoBuffers, Eal.setPool_pools, Function.update_of_ne same]
        at member
      cases member
  noneSent :=
    rfl
  noneReceived :=
    rfl

/-- A frame whose bytes are all 8. -/
def frame : WireFormat.Frame :=
  List.replicate 14 8

/-- A frame goes from the NIC to the packetiser. -/
def oneFrame : List Action :=
  [.frameArrives frame, .getExternalPkts 1, .sendToPacketiser, .packetiserLoop]

theorem no_buffer_twice_one_frame :
    let state :=
      run (step sampleSetup)
        (start twoBuffers PacketiserClients.newPacketiser) oneFrame
    ((state.eal.pools 30 ++ inUse state).map RteMbuf.address).Nodup :=
  no_buffer_twice ready_twoBuffers (by decide) oneFrame

/-- However the loops take turns, nothing is ever transmitted. -/
theorem nothing_transmitted
    (setup : Setup)
    (eal : Eal)
    (packetiser : Packetiser)
    (actions : List Action) :
    Silent
      (run (step setup) (start eal packetiser) actions) :=
  run_invariant silent_step (silent_start eal packetiser) actions

end Runs

end VDataplane.Dataplane
