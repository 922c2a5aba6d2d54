import VDataplane.BufferCapacity
import VDataplane.Simulation

namespace VDataplane.PacketiserContents

open BufferCapacity GuardedRun
open PacketiserClients (State)

/-!
# What reaches the packetiser of a packet

Every function of the packetiser that takes packets off a ring keeps the blank
buffers it has created for them.  Its queues hold blank buffers in every state,
and nothing that it does depends on the packets on the rings, except on how
many there are.
-/

/-! ## Blank buffers -/

/-- A buffer without data. -/
structure Blank (pkt : Mbuf) : Prop where
  dataLen :
    pkt.raw.dataLen = 0
  pktLen :
    pkt.raw.pktLen = 0

/-- All packets in both queues are blank. -/
structure AllBlank (packetiser : Packetiser) : Prop where
  incoming :
    ∀ pkt ∈ packetiser.iBufqueue, Blank pkt
  outgoing :
    ∀ pkt ∈ packetiser.oBufqueue, Blank pkt

/-- A buffer is blank when it is created. -/
theorem blank_recycled (mbuf : RteMbuf) : Blank ⟨mbuf.recycled⟩ :=
  ⟨rfl, rfl⟩

theorem blank_of_mem_blanks
    {packetiser : Packetiser}
    {eal : Eal}
    {pkt : Mbuf}
    (member : pkt ∈ packetiser.blanks eal) :
    Blank pkt := by
  rw [Packetiser.blanks, Mbuf.createdUpTo, List.mem_map] at member
  obtain ⟨mbuf, _, rfl⟩ := member
  exact blank_recycled mbuf

/-- A burst queues blank buffers, whatever it takes off the ring. -/
theorem allBlank_received
    {packetiser : Packetiser}
    (allBlank : AllBlank packetiser)
    (eal : Eal) :
    AllBlank (packetiser.received eal).1 where
  incoming := by
    intro pkt member
    rcases List.mem_append.mp member with queued | isNew
    · exact allBlank.incoming pkt queued
    · exact blank_of_mem_blanks (List.mem_of_mem_take isNew)
  outgoing :=
    allBlank.outgoing

/-- A visit to every client queues blank buffers, whatever it takes off their rings. -/
theorem blank_collectRound
    (mempool : Mempool)
    (clientmap : RingClientMap)
    (keys : List UInt16)
    {oBufqueue : List Mbuf}
    (allBlank : ∀ pkt ∈ oBufqueue, Blank pkt)
    (eal : Eal) :
    ∀ pkt ∈ (Packetiser.collectRound mempool clientmap keys oBufqueue
      eal).2.1, Blank pkt := by
  induction keys generalizing oBufqueue eal with
  | nil =>
      exact allBlank
  | cons key keys inductionHypothesis =>
      rcases Packetiser.collectRound_cons_cases mempool clientmap key keys
          oBufqueue eal with
        ⟨_, failed⟩ | ⟨_, _, _, _, nothing⟩ |
          ⟨mbuf, _, _, _, _, _, _, _, taken⟩
      · rw [failed]
        exact allBlank
      · rw [nothing]
        exact inductionHypothesis allBlank _
      · rw [taken]
        apply inductionHypothesis
        intro pkt member
        rcases List.mem_append.mp member with queued | isNew
        · exact allBlank pkt queued
        · rw [List.mem_singleton.mp isNew]
          exact blank_recycled mbuf

/-- All rounds do. -/
theorem blank_collectLoop
    (mempool : Mempool)
    (clientmap : RingClientMap)
    (allocatedIds : List UInt16)
    (rounds : Nat)
    {oBufqueue : List Mbuf}
    (allBlank : ∀ pkt ∈ oBufqueue, Blank pkt)
    (eal : Eal) :
    ∀ pkt ∈ (Packetiser.collectLoop mempool clientmap allocatedIds rounds
      oBufqueue eal).2.1, Blank pkt := by
  induction rounds generalizing oBufqueue eal with
  | zero =>
      exact allBlank
  | succ rounds inductionHypothesis =>
      have afterRound :=
        blank_collectRound mempool clientmap allocatedIds allBlank eal
      rw [Packetiser.collectLoop]
      split
      · next failed =>
          rwa [failed] at afterRound
      · next visited =>
          rw [visited] at afterRound
          exact inductionHypothesis afterRound _

/-- No call puts a packet with data into a queue. -/
theorem allBlank_step
    (state : State)
    (action : Action)
    (allBlank : AllBlank state.packetiser) :
    AllBlank (step state action).packetiser := by
  cases action with
  | recvFromEngineBurst =>
      simp only [step, leave, Packetiser.recvFromEngineBurst_eq]
      exact allBlank_received allBlank state.eal
  | storeIncoming =>
      simp only [step, leave, Packetiser.storeIncoming_eq]
      exact allBlank_received allBlank state.eal
  | forwardIncomingPackets table =>
      have isSuffix :=
        forwardLoop_suffix state.eal table state.packetiser.clientmap
          state.packetiser.iBufqueue
      exact ⟨fun pkt member => allBlank.incoming pkt (isSuffix.subset member),
        allBlank.outgoing⟩
  | storeOutgoing =>
      exact ⟨allBlank.incoming,
        blank_collectLoop _ _ _ _ allBlank.outgoing _⟩
  | sendOutgoingPackets =>
      have isSuffix :=
        (sendLoop_suffix state.eal state.packetiser.channel
          state.packetiser.oBufqueue.length state.packetiser.oBufqueue).1
      exact ⟨allBlank.incoming,
        fun pkt member => allBlank.outgoing pkt (isSuffix.subset member)⟩
  | sendToEngineBulk =>
      simp only [step, leave, Packetiser.sendToEngineBulk]
      split
      · exact allBlank
      · exact ⟨allBlank.incoming,
          fun pkt member =>
            allBlank.outgoing pkt (List.mem_of_mem_tail member)⟩
  | clients call =>
      cases call with
      | addClient e2c c2e =>
          exact ⟨allBlank.incoming, allBlank.outgoing⟩
      | removeClients key =>
          by_cases allocated :
              state.packetiser.allocatedIds.idxOf key <
                state.packetiser.allocatedIds.length
          · simp only [step, PacketiserClients.step,
              Packetiser.removeClients, allocated, if_true]
            exact ⟨allBlank.incoming, allBlank.outgoing⟩
          · simp only [step, PacketiserClients.step,
              Packetiser.removeClients, allocated, if_false]
            exact allBlank
  | traffic rings pools =>
      exact allBlank

/--
From its creation on, whatever the engine and the clients put on the rings, all
packets in both queues of the packetiser are blank: no byte of a packet that it
has received is ever passed on.
-/
theorem queues_always_blank
    {cap : Nat}
    {before eal : Eal}
    {packetiser : Packetiser}
    (created : Packetiser.new cap before = (.ok packetiser, eal))
    (actions : List Action) :
    AllBlank
      (run step (PacketiserClients.start packetiser eal)
        actions).packetiser := by
  have atStart :
      AllBlank (PacketiserClients.start packetiser eal).packetiser := by
    obtain ⟨_, _, rfl⟩ := Packetiser.of_new created
    exact ⟨List.forall_mem_nil _, List.forall_mem_nil _⟩
  exact run_invariant allBlank_step atStart actions

/-- A packet from the engine is received, and a blank buffer is queued. -/
theorem queues_always_blank_one_packet :
    AllBlank
      (run step
        (PacketiserClients.start PacketiserClients.newPacketiser
          PacketiserClients.engineEal)
        [.traffic BurstReceive.onePacket.rings
            (Function.update (fun _ => []) 30
              [.reset 30 100 fun _ => 0]),
          .recvFromEngineBurst]).packetiser :=
  queues_always_blank PacketiserClients.created_newPacketiser _

/-! ## Environments that differ in the packets on the rings -/

section Environments

variable {related : RteMbuf → RteMbuf → Prop}

/-- Two environments that differ in their packets, which are related in pairs. -/
def Alike
    (related : RteMbuf → RteMbuf → Prop)
    (first second : Eal) :
    Prop :=
  ∃ rings,
    second = { first with rings := rings } ∧
      ∀ address, (first.rings address).Alike related (rings address)

/-- Any environment is like itself when every packet is. -/
theorem Alike.refl
    (reflexive : ∀ mbuf, related mbuf mbuf)
    (eal : Eal) :
    Alike related eal eal :=
  ⟨eal.rings, rfl, fun address => .refl reflexive (eal.rings address)⟩

/-- A change of one ring that leaves both rings alike. -/
theorem Alike.setRing
    {first second : Eal}
    (alike : Alike related first second)
    (address : Address)
    {firstRing secondRing : RteRing}
    (alikeRings : firstRing.Alike related secondRing) :
    Alike related (first.setRing address firstRing)
      (second.setRing address secondRing) := by
  obtain ⟨rings, rfl, alikeBefore⟩ := alike
  refine ⟨Function.update rings address secondRing, rfl, ?_⟩
  intro other
  by_cases same : other = address
  · subst same
    simpa using alikeRings
  · simpa [same] using alikeBefore other

/-- A buffer is freed in the same way in both. -/
theorem Alike.drop
    {first second : Eal}
    (alike : Alike related first second)
    (pkt : Mbuf) :
    Alike related (pkt.drop first) (pkt.drop second) := by
  obtain ⟨rings, rfl, alikeBefore⟩ := alike
  exact ⟨rings, rfl, alikeBefore⟩

/-- A vector of buffers is, too. -/
theorem Alike.dropAll
    {first second : Eal}
    (alike : Alike related first second)
    (pkts : List Mbuf) :
    Alike related (Mbuf.dropAll pkts first) (Mbuf.dropAll pkts second) := by
  induction pkts generalizing first second with
  | nil =>
      exact alike
  | cons pkt rest inductionHypothesis =>
      exact inductionHypothesis (alike.drop pkt)

/-- The same buffers are free in both. -/
theorem Alike.setPool
    {first second : Eal}
    (alike : Alike related first second)
    (mempool : Address)
    (free : List RteMbuf) :
    Alike related (first.setPool mempool free)
      (second.setPool mempool free) := by
  obtain ⟨rings, rfl, alikeBefore⟩ := alike
  exact ⟨rings, rfl, alikeBefore⟩

end Environments

/-! ## Calls with the same outcome in both -/

section Calls

variable
  {related : RteMbuf → RteMbuf → Prop}
  {first second : Eal}

/-- The same buffers are free in both, so the creation of one ends in the same way. -/
theorem mbufNew_alike
    (alike : Alike related first second)
    (mp : Mempool) :
    ∃ result firstAfter secondAfter,
      Mbuf.new mp first = (result, firstAfter) ∧
        Mbuf.new mp second = (result, secondAfter) ∧
        Alike related firstAfter secondAfter := by
  obtain ⟨rings, rfl, alikeRings⟩ := alike
  rcases Mbuf.new_cases mp first with
    ⟨noneFree, failed⟩ | ⟨mbuf, free, shape, created⟩
  · refine ⟨_, _, _, failed, ?_, rings, rfl, alikeRings⟩
    simp [Mbuf.new, Dpdk.rtePktmbufAlloc, noneFree]
  · refine ⟨_, _, _, created, ?_, rings, rfl, alikeRings⟩
    simp [Mbuf.new, Dpdk.rtePktmbufAlloc, shape, Eal.setPool]

/-- As many buffers, and the same ones, can be created in both. -/
theorem createUpTo_alike
    (alike : Alike related first second)
    (mp : Mempool)
    (count : Nat)
    (pkts : List Mbuf) :
    ∃ created firstAfter secondAfter,
      Mbuf.createUpTo mp count pkts first = (created, firstAfter) ∧
        Mbuf.createUpTo mp count pkts second = (created, secondAfter) ∧
        Alike related firstAfter secondAfter := by
  obtain ⟨rings, rfl, alikeRings⟩ := alike
  exact ⟨_, _, _, Mbuf.createUpTo_eq mp count pkts first,
    Mbuf.createUpTo_eq mp count pkts _, rings, rfl, alikeRings⟩

/-- Both rings are full, or both take the packet. -/
theorem enqueue_alike
    (alike : Alike related first second)
    (reflexive : ∀ mbuf, related mbuf mbuf)
    (ring : Ring)
    (pkt : Mbuf) :
    ∃ result firstAfter secondAfter,
      ring.enqueue pkt first = (result, firstAfter) ∧
        ring.enqueue pkt second = (result, secondAfter) ∧
        Alike related firstAfter secondAfter := by
  obtain ⟨rings, rfl, alikeRings⟩ := alike
  have both := (alikeRings ring.raw).push? (reflexive pkt.intoPtr)
  have stillAlike : Alike related first { first with rings := rings } :=
    ⟨rings, rfl, alikeRings⟩
  rcases both with
    ⟨full, alsoFull⟩ | ⟨pushed, alsoPushed, accepts, alsoAccepts, alikePushed⟩
  · refine ⟨.error (.new first.errno), _, _, ?_, ?_, stillAlike⟩
    · simp [Ring.enqueue, Dpdk.rteRingEnqueue, full, Errno.enobufs]
    · simp [Ring.enqueue, Dpdk.rteRingEnqueue, alsoFull, Errno.enobufs]
  · refine ⟨.ok (), _, _, ?_, ?_, stillAlike.setRing ring.raw alikePushed⟩
    · simp [Ring.enqueue, Dpdk.rteRingEnqueue, accepts]
    · simp [Ring.enqueue, Dpdk.rteRingEnqueue, alsoAccepts]

/-- Both rings are empty, or both lose a packet; the caller keeps its buffer. -/
theorem dequeue_alike
    (alike : Alike related first second)
    (ring : Ring)
    (pkt : Mbuf) :
    ∃ result firstAfter secondAfter,
      ring.dequeue pkt first = (result, pkt, firstAfter) ∧
        ring.dequeue pkt second = (result, pkt, secondAfter) ∧
        Alike related firstAfter secondAfter := by
  obtain ⟨rings, rfl, alikeRings⟩ := alike
  have stillAlike : Alike related first { first with rings := rings } :=
    ⟨rings, rfl, alikeRings⟩
  rcases (alikeRings ring.raw).pop? with
    ⟨isEmpty, alsoEmpty⟩ |
      ⟨_, _, popped, alsoPopped, taken, alsoTaken, alikePopped⟩
  · refine ⟨.error (.new first.errno), _, _, ?_, ?_, stillAlike⟩
    · simp [Ring.dequeue, Dpdk.rteRingDequeue, isEmpty, Errno.enoent]
    · simp [Ring.dequeue, Dpdk.rteRingDequeue, alsoEmpty, Errno.enoent]
  · refine ⟨.ok (), _, _, ?_, ?_, stillAlike.setRing ring.raw alikePopped⟩
    · simp [Ring.dequeue, Dpdk.rteRingDequeue, taken]
    · simp [Ring.dequeue, Dpdk.rteRingDequeue, alsoTaken]

theorem send_alike
    (alike : Alike related first second)
    (reflexive : ∀ mbuf, related mbuf mbuf)
    (map : RingClientMap)
    (key : UInt16)
    (pkt : Mbuf) :
    ∃ result firstAfter secondAfter,
      map.send key pkt first = (result, firstAfter) ∧
        map.send key pkt second = (result, secondAfter) ∧
        Alike related firstAfter secondAfter := by
  cases present : map.ringmap key with
  | none =>
      exact ⟨.error (.clientNotFound key), _, _,
        by simp only [RingClientMap.send, present],
        by simp only [RingClientMap.send, present], alike.drop pkt⟩
  | some channel =>
      obtain ⟨result, firstAfter, secondAfter, sent, alsoSent, alikeAfter⟩ :=
        enqueue_alike alike reflexive channel.engineToClient pkt
      cases result with
      | error error =>
          exact ⟨.error (.memoryError error), firstAfter, secondAfter,
            by simp only [RingClientMap.send, present, Channel.sendToClient,
              sent],
            by simp only [RingClientMap.send, present, Channel.sendToClient,
              alsoSent], alikeAfter⟩
      | ok _ =>
          exact ⟨.ok (), firstAfter, secondAfter,
            by simp only [RingClientMap.send, present, Channel.sendToClient,
              sent],
            by simp only [RingClientMap.send, present, Channel.sendToClient,
              alsoSent], alikeAfter⟩

theorem receive_alike
    (alike : Alike related first second)
    (map : RingClientMap)
    (key : UInt16)
    (pkt : Mbuf) :
    ∃ result firstAfter secondAfter,
      map.receive key pkt first = (result, pkt, firstAfter) ∧
        map.receive key pkt second = (result, pkt, secondAfter) ∧
        Alike related firstAfter secondAfter := by
  cases present : map.ringmap key with
  | none =>
      exact ⟨.error (.clientNotFound key), _, _,
        by simp only [RingClientMap.receive, present],
        by simp only [RingClientMap.receive, present], alike⟩
  | some channel =>
      obtain ⟨result, firstAfter, secondAfter, taken, alsoTaken, alikeAfter⟩ :=
        dequeue_alike alike channel.clientToEngine pkt
      cases result with
      | error error =>
          exact ⟨.error (.memoryError error), firstAfter, secondAfter,
            by simp only [RingClientMap.receive, present,
              Channel.receiveFromClient, taken],
            by simp only [RingClientMap.receive, present,
              Channel.receiveFromClient, alsoTaken], alikeAfter⟩
      | ok _ =>
          exact ⟨.ok (), firstAfter, secondAfter,
            by simp only [RingClientMap.receive, present,
              Channel.receiveFromClient, taken],
            by simp only [RingClientMap.receive, present,
              Channel.receiveFromClient, alsoTaken], alikeAfter⟩

/-- Both bursts take as many packets and queue the same blank buffers. -/
theorem received_alike
    (alike : Alike related first second)
    (packetiser : Packetiser) :
    (packetiser.received first).1 = (packetiser.received second).1 ∧
      Alike related (packetiser.received first).2
        (packetiser.received second).2 := by
  have ⟨rings, sameRest, alikeRings⟩ := alike
  let address := packetiser.channel.engineToClient.raw
  have sameBlanks : packetiser.blanks second = packetiser.blanks first := by
    rw [sameRest]
    rfl
  have sameBurst : packetiser.burst second = packetiser.burst first := by
    have sameLength := (alikeRings address).length_entries
    have secondRing : packetiser.ingress second = rings address := by
      rw [sameRest]
      rfl
    have samePools : second.pools = first.pools := by
      rw [sameRest]
    rw [Packetiser.burst, Packetiser.burst, secondRing, sameLength,
      samePools]
    rfl
  have withdrawnAlike :
      Alike related (packetiser.withdrawn first)
        (packetiser.withdrawn second) := by
    subst sameRest
    exact ⟨rings, rfl, alikeRings⟩
  refine ⟨?_, ?_⟩
  · simp only [Packetiser.received, sameBlanks, sameBurst]
  · simp only [Packetiser.received, sameBlanks, sameBurst]
    apply Alike.dropAll
    apply withdrawnAlike.setRing
    subst sameRest
    exact (alikeRings address).drop _

/-- Forwarding reads its own buffers only, and both clients' rings accept as many of them. -/
theorem forwardLoop_alike
    (alike : Alike related first second)
    (reflexive : ∀ mbuf, related mbuf mbuf)
    (table : RoutingTable)
    (clientmap : RingClientMap)
    (queue : List Mbuf) :
    ∃ result left firstAfter secondAfter,
      Packetiser.forwardLoop table clientmap queue first =
          (result, left, firstAfter) ∧
        Packetiser.forwardLoop table clientmap queue second =
          (result, left, secondAfter) ∧
        Alike related firstAfter secondAfter := by
  induction queue generalizing first second with
  | nil =>
      exact ⟨_, _, _, _, rfl, rfl, alike⟩
  | cons pkt rest inductionHypothesis =>
      cases header : Ipv4Hdr.fromMbuf pkt with
      | error fault =>
          exact ⟨.error fault, rest, first, second,
            by simp only [Packetiser.forwardLoop, header],
            by simp only [Packetiser.forwardLoop, header], alike⟩
      | ok iphdr =>
          obtain ⟨result, firstSent, secondSent, sent, alsoSent, alikeSent⟩ :=
            send_alike alike reflexive clientmap
              (table.idFromIp iphdr.getDstAddr) pkt
          cases result with
          | error error =>
              exact ⟨.error .panicked, rest, firstSent, secondSent,
                by simp only [Packetiser.forwardLoop, header, sent],
                by simp only [Packetiser.forwardLoop, header, alsoSent],
                alikeSent⟩
          | ok _ =>
              obtain ⟨result, left, firstAfter, secondAfter, looped,
                alsoLooped, alikeAfter⟩ := inductionHypothesis alikeSent
              exact ⟨result, left, firstAfter, secondAfter,
                by simp only [Packetiser.forwardLoop, header, sent, looped],
                by simp only [Packetiser.forwardLoop, header, alsoSent,
                  alsoLooped],
                alikeAfter⟩

/-- A visit to a client queues the same blank buffer in both, or none. -/
theorem collectRound_alike
    (alike : Alike related first second)
    (mempool : Mempool)
    (clientmap : RingClientMap)
    (keys : List UInt16)
    (oBufqueue : List Mbuf) :
    ∃ result queued firstAfter secondAfter,
      Packetiser.collectRound mempool clientmap keys oBufqueue first =
          (result, queued, firstAfter) ∧
        Packetiser.collectRound mempool clientmap keys oBufqueue second =
          (result, queued, secondAfter) ∧
        Alike related firstAfter secondAfter := by
  induction keys generalizing oBufqueue first second with
  | nil =>
      exact ⟨_, _, _, _, rfl, rfl, alike⟩
  | cons key keys inductionHypothesis =>
      obtain ⟨creation, firstNew, secondNew, created, alsoCreated, alikeNew⟩ :=
        mbufNew_alike alike mempool
      cases creation with
      | error error =>
          exact ⟨.error error, oBufqueue, firstNew, secondNew,
            by simp only [Packetiser.collectRound, created],
            by simp only [Packetiser.collectRound, alsoCreated], alikeNew⟩
      | ok pkt =>
          obtain ⟨reception, firstTaken, secondTaken, taken, alsoTaken,
            alikeTaken⟩ := receive_alike alikeNew clientmap key pkt
          cases reception with
          | error error =>
              obtain ⟨result, queued, firstAfter, secondAfter, looped,
                alsoLooped, alikeAfter⟩ :=
                inductionHypothesis (alikeTaken.drop pkt) oBufqueue
              exact ⟨result, queued, firstAfter, secondAfter,
                by simp only [Packetiser.collectRound, created, taken, looped],
                by simp only [Packetiser.collectRound, alsoCreated, alsoTaken,
                  alsoLooped],
                alikeAfter⟩
          | ok _ =>
              obtain ⟨result, queued, firstAfter, secondAfter, looped,
                alsoLooped, alikeAfter⟩ :=
                inductionHypothesis alikeTaken (oBufqueue ++ [pkt])
              exact ⟨result, queued, firstAfter, secondAfter,
                by simp only [Packetiser.collectRound, created, taken, looped],
                by simp only [Packetiser.collectRound, alsoCreated, alsoTaken,
                  alsoLooped],
                alikeAfter⟩

/-- All rounds do. -/
theorem collectLoop_alike
    (alike : Alike related first second)
    (mempool : Mempool)
    (clientmap : RingClientMap)
    (allocatedIds : List UInt16)
    (rounds : Nat)
    (oBufqueue : List Mbuf) :
    ∃ result queued firstAfter secondAfter,
      Packetiser.collectLoop mempool clientmap allocatedIds rounds oBufqueue
            first =
          (result, queued, firstAfter) ∧
        Packetiser.collectLoop mempool clientmap allocatedIds rounds oBufqueue
            second =
          (result, queued, secondAfter) ∧
        Alike related firstAfter secondAfter := by
  induction rounds generalizing oBufqueue first second with
  | zero =>
      exact ⟨_, _, _, _, rfl, rfl, alike⟩
  | succ rounds inductionHypothesis =>
      obtain ⟨round, queued, firstRound, secondRound, visited, alsoVisited,
        alikeRound⟩ :=
        collectRound_alike alike mempool clientmap allocatedIds oBufqueue
      cases round with
      | error error =>
          exact ⟨.error error, queued, firstRound, secondRound,
            by simp only [Packetiser.collectLoop, visited],
            by simp only [Packetiser.collectLoop, alsoVisited], alikeRound⟩
      | ok _ =>
          obtain ⟨result, left, firstAfter, secondAfter, looped, alsoLooped,
            alikeAfter⟩ := inductionHypothesis alikeRound queued
          exact ⟨result, left, firstAfter, secondAfter,
            by simp only [Packetiser.collectLoop, visited, looped],
            by simp only [Packetiser.collectLoop, alsoVisited, alsoLooped],
            alikeAfter⟩

/-- Sending takes the same packets from the queue, whatever the ring says. -/
theorem sendLoop_alike
    (alike : Alike related first second)
    (reflexive : ∀ mbuf, related mbuf mbuf)
    (channel : Channel)
    (rounds : Nat)
    (oBufqueue : List Mbuf) :
    ∃ left firstAfter secondAfter,
      Packetiser.sendLoop channel rounds oBufqueue first =
          (left, firstAfter) ∧
        Packetiser.sendLoop channel rounds oBufqueue second =
          (left, secondAfter) ∧
        Alike related firstAfter secondAfter := by
  induction rounds generalizing oBufqueue first second with
  | zero =>
      exact ⟨_, _, _, rfl, rfl, alike⟩
  | succ rounds inductionHypothesis =>
      cases oBufqueue with
      | nil =>
          exact inductionHypothesis alike []
      | cons buf rest =>
          obtain ⟨result, firstSent, secondSent, sent, alsoSent, alikeSent⟩ :=
            enqueue_alike alike reflexive channel.clientToEngine buf
          obtain ⟨left, firstAfter, secondAfter, looped, alsoLooped,
            alikeAfter⟩ := inductionHypothesis alikeSent rest
          refine ⟨left, firstAfter, secondAfter, ?_, ?_, alikeAfter⟩
          · rw [← looped]
            cases result <;>
              simp only [Packetiser.sendLoop, Packetiser.sendOne,
                Channel.sendToEngine, sent]
          · rw [← alsoLooped]
            cases result <;>
              simp only [Packetiser.sendLoop, Packetiser.sendOne,
                Channel.sendToEngine, alsoSent]

/-- New rings are empty in both. -/
theorem ringNew_alike
    (alike : Alike related first second)
    (clientId : UInt16)
    (rtype : RingType)
    (allocation : Dpdk.Allocation) :
    ∃ result firstAfter secondAfter,
      Ring.new clientId rtype allocation first = (result, firstAfter) ∧
        Ring.new clientId rtype allocation second = (result, secondAfter) ∧
        Alike related firstAfter secondAfter := by
  obtain ⟨rings, rfl, alikeRings⟩ := alike
  simp only [Ring.new, Ring.toCstring_registeredName]
  cases allocation with
  | error errno =>
      exact ⟨_, _, _, rfl, rfl, rings, rfl, alikeRings⟩
  | ok address =>
      cases registration :
          first.ringTailq.register? (Ring.registeredName rtype clientId)
            address with
      | none =>
          simp only [Dpdk.rteRingCreate, registration]
          exact ⟨_, _, _, rfl, rfl, rings, rfl, alikeRings⟩
      | some ringTailq =>
          simp only [Dpdk.rteRingCreate, registration]
          refine ⟨_, _, _, rfl, rfl,
            Function.update rings address (.empty (Ring.ringCapacity - 1)),
            rfl, ?_⟩
          intro other
          by_cases same : other = address
          · subst same
            simpa using ⟨rfl, .nil⟩
          · simpa [same] using alikeRings other

/-- The same rings are freed in both. -/
theorem channelDrop_alike
    (alike : Alike related first second)
    (channel : Channel) :
    Alike related (channel.drop first) (channel.drop second) := by
  obtain ⟨rings, rfl, alikeRings⟩ := alike
  exact ⟨rings, rfl, alikeRings⟩

theorem channelNew_alike
    (alike : Alike related first second)
    (clientId : UInt16)
    (e2c c2e : Dpdk.Allocation) :
    ∃ result firstAfter secondAfter,
      Channel.new clientId e2c c2e first = (result, firstAfter) ∧
        Channel.new clientId e2c c2e second = (result, secondAfter) ∧
        Alike related firstAfter secondAfter := by
  obtain ⟨e2cResult, firstOne, secondOne, created, alsoCreated, alikeOne⟩ :=
    ringNew_alike alike clientId .e2c e2c
  cases e2cResult with
  | error error =>
      exact ⟨.error error, firstOne, secondOne,
        by simp only [Channel.new, created],
        by simp only [Channel.new, alsoCreated], alikeOne⟩
  | ok engineToClient =>
      obtain ⟨c2eResult, firstBoth, secondBoth, createdBoth, alsoCreatedBoth,
        alikeBoth⟩ := ringNew_alike alikeOne clientId .c2e c2e
      cases c2eResult with
      | error error =>
          refine ⟨.error error, engineToClient.drop firstBoth,
            engineToClient.drop secondBoth,
            by simp only [Channel.new, created, createdBoth],
            by simp only [Channel.new, alsoCreated, alsoCreatedBoth], ?_⟩
          obtain ⟨rings, rfl, alikeRings⟩ := alikeBoth
          exact ⟨rings, rfl, alikeRings⟩
      | ok clientToEngine =>
          exact ⟨.ok ⟨clientToEngine, engineToClient⟩, firstBoth, secondBoth,
            by simp only [Channel.new, created, createdBoth],
            by simp only [Channel.new, alsoCreated, alsoCreatedBoth],
            alikeBoth⟩

theorem addClient_alike
    (alike : Alike related first second)
    (map : RingClientMap)
    (clientId : UInt16)
    (e2c c2e : Dpdk.Allocation) :
    ∃ result mapAfter firstAfter secondAfter,
      map.addClient clientId e2c c2e first =
          (result, mapAfter, firstAfter) ∧
        map.addClient clientId e2c c2e second =
          (result, mapAfter, secondAfter) ∧
        Alike related firstAfter secondAfter := by
  obtain ⟨result, firstAfter, secondAfter, created, alsoCreated, alikeAfter⟩ :=
    channelNew_alike alike clientId e2c c2e
  cases result with
  | error error =>
      exact ⟨.error (.memoryError error), map, firstAfter, secondAfter,
        by simp only [RingClientMap.addClient, created],
        by simp only [RingClientMap.addClient, alsoCreated], alikeAfter⟩
  | ok channel =>
      cases present : map.ringmap clientId with
      | none =>
          exact ⟨.ok (), ⟨map.ringmap.insert clientId channel⟩, firstAfter,
            secondAfter,
            by simp only [RingClientMap.addClient, created, present],
            by simp only [RingClientMap.addClient, alsoCreated, present],
            alikeAfter⟩
      | some replaced =>
          exact ⟨.ok (), ⟨map.ringmap.insert clientId channel⟩, _, _,
            by simp only [RingClientMap.addClient, created, present],
            by simp only [RingClientMap.addClient, alsoCreated, present],
            channelDrop_alike alikeAfter replaced⟩

theorem removeClient_alike
    (alike : Alike related first second)
    (map : RingClientMap)
    (clientId : UInt16) :
    ∃ mapAfter firstAfter secondAfter,
      map.removeClient clientId first = (mapAfter, firstAfter) ∧
        map.removeClient clientId second = (mapAfter, secondAfter) ∧
        Alike related firstAfter secondAfter := by
  cases present : map.ringmap clientId with
  | none =>
      exact ⟨⟨map.ringmap.erase clientId⟩, first, second,
        by simp only [RingClientMap.removeClient, present],
        by simp only [RingClientMap.removeClient, present], alike⟩
  | some removed =>
      exact ⟨⟨map.ringmap.erase clientId⟩, _, _,
        by simp only [RingClientMap.removeClient, present],
        by simp only [RingClientMap.removeClient, present],
        channelDrop_alike alike removed⟩

end Calls

/-! ## Runs that differ in the packets on the rings -/

/-- Two states of the packetiser that differ in the packets on the rings only. -/
structure AlikeStates
    (related : RteMbuf → RteMbuf → Prop)
    (first second : State) :
    Prop where
  packetiser :
    second.packetiser = first.packetiser
  lastAllocatedId :
    second.lastAllocatedId = first.lastAllocatedId
  eal :
    Alike related first.eal second.eal

/-- The same call of the packetiser, or traffic that differs in the packets only. -/
inductive AlikeActions (related : RteMbuf → RteMbuf → Prop) :
    Action → Action → Prop
  | same (action : Action) :
      (∀ rings pools, action ≠ .traffic rings pools) →
      AlikeActions related action action
  | traffic
      (firstRings secondRings : Address → RteRing)
      (pools : Address → List RteMbuf) :
      (∀ address,
        (firstRings address).Alike related (secondRings address)) →
      AlikeActions related (.traffic firstRings pools)
        (.traffic secondRings pools)

section Runs

variable {related : RteMbuf → RteMbuf → Prop}

/-- Clients come and go in the same way in both. -/
theorem alike_clients
    {first second : Eal}
    (alike : Alike related first second)
    (packetiser : Packetiser)
    (lastAllocatedId : UInt16)
    (call : PacketiserClients.Call) :
    AlikeStates related
      (PacketiserClients.step ⟨packetiser, lastAllocatedId, first⟩ call)
      (PacketiserClients.step ⟨packetiser, lastAllocatedId, second⟩ call) := by
  cases call with
  | addClient e2c c2e =>
      obtain ⟨_, _, _, _, added, alsoAdded, alikeAfter⟩ :=
        addClient_alike alike packetiser.clientmap
          (Packetiser.chooseId packetiser.allocatedIds lastAllocatedId).1
          e2c c2e
      simp only [PacketiserClients.step, Packetiser.addClient, added,
        alsoAdded]
      exact ⟨rfl, rfl, alikeAfter⟩
  | removeClients key =>
      obtain ⟨_, _, _, removed, alsoRemoved, alikeAfter⟩ :=
        removeClient_alike alike packetiser.clientmap key
      by_cases allocated :
          packetiser.allocatedIds.idxOf key < packetiser.allocatedIds.length
      · simp only [PacketiserClients.step, Packetiser.removeClients,
          allocated, if_true, removed, alsoRemoved]
        exact ⟨rfl, rfl, alikeAfter⟩
      · simp only [PacketiserClients.step, Packetiser.removeClients,
          allocated, if_false]
        exact ⟨rfl, rfl, alike⟩

/-- One step of each. -/
theorem alike_step
    (reflexive : ∀ mbuf, related mbuf mbuf)
    {first second : State}
    {firstAction secondAction : Action}
    (alike : AlikeStates related first second)
    (alikeActions : AlikeActions related firstAction secondAction) :
    AlikeStates related (step first firstAction)
      (step second secondAction) := by
  obtain ⟨_, _, firstEal⟩ := first
  obtain ⟨packetiser, lastAllocatedId, secondEal⟩ := second
  obtain ⟨rfl, rfl, alikeEal⟩ := alike
  simp only at alikeEal
  cases alikeActions with
  | traffic firstRings secondRings pools alikeRings =>
      obtain ⟨rings, rfl, _⟩ := alikeEal
      exact ⟨rfl, rfl, secondRings, rfl, alikeRings⟩
  | same _ notTraffic =>
      cases firstAction with
      | recvFromEngineBurst =>
          obtain ⟨sameQueues, alikeAfter⟩ :=
            received_alike alikeEal packetiser
          simp only [step, leave, Packetiser.recvFromEngineBurst_eq]
          exact ⟨sameQueues.symm, rfl, alikeAfter⟩
      | storeIncoming =>
          obtain ⟨sameQueues, alikeAfter⟩ :=
            received_alike alikeEal packetiser
          simp only [step, leave, Packetiser.storeIncoming_eq]
          exact ⟨sameQueues.symm, rfl, alikeAfter⟩
      | forwardIncomingPackets table =>
          obtain ⟨_, _, _, _, looped, alsoLooped, alikeAfter⟩ :=
            forwardLoop_alike alikeEal reflexive table packetiser.clientmap
              packetiser.iBufqueue
          simp only [step, leave, Packetiser.forwardIncomingPackets, looped,
            alsoLooped]
          exact ⟨rfl, rfl, alikeAfter⟩
      | storeOutgoing =>
          obtain ⟨pkts, _, _, created, alsoCreated, alikeCreated⟩ :=
            createUpTo_alike alikeEal packetiser.mempool Packetiser.burstMax []
          obtain ⟨_, _, _, _, looped, alsoLooped, alikeAfter⟩ :=
            collectLoop_alike alikeCreated packetiser.mempool
              packetiser.clientmap packetiser.allocatedIds pkts.length
              packetiser.oBufqueue
          simp only [step, leave, Packetiser.storeOutgoing, created,
            alsoCreated, looped, alsoLooped]
          exact ⟨rfl, rfl, alikeAfter.dropAll pkts⟩
      | sendOutgoingPackets =>
          obtain ⟨_, _, _, looped, alsoLooped, alikeAfter⟩ :=
            sendLoop_alike alikeEal reflexive packetiser.channel
              packetiser.oBufqueue.length packetiser.oBufqueue
          simp only [step, leave, Packetiser.sendOutgoingPackets, looped,
            alsoLooped]
          exact ⟨rfl, rfl, alikeAfter⟩
      | sendToEngineBulk =>
          by_cases isEmpty : packetiser.oBufqueue.isEmpty = true
          · simp only [step, leave, Packetiser.sendToEngineBulk, isEmpty,
              if_true]
            exact ⟨rfl, rfl, alikeEal⟩
          · simp only [step, leave, Packetiser.sendToEngineBulk, isEmpty,
              Channel.sendToEngineBulk, Ring.enqueueBulk_eq]
            exact ⟨rfl, rfl, alikeEal⟩
      | clients call =>
          exact alike_clients alikeEal packetiser lastAllocatedId call
      | traffic rings pools =>
          exact absurd rfl (notTraffic rings pools)

/--
Two runs of the packetiser that differ in the packets on the rings only, from
states that do, end in states that do: the packetiser has the same clients and
the same packets in its queues, the same buffers are free, and what it has put
on the rings itself is related as the other packets are.
-/
theorem packets_make_no_difference
    (reflexive : ∀ mbuf, related mbuf mbuf)
    {first second : State}
    (alike : AlikeStates related first second)
    {firstActions secondActions : List Action}
    (alikeActions :
      List.Forall₂ (AlikeActions related) firstActions secondActions) :
    AlikeStates related (run step first firstActions)
      (run step second secondActions) :=
  run_related (alike_step reflexive) alike alikeActions

/-- The engine's ring with a packet whose bytes are all the same. -/
def filledRing (byte : UInt8) : Address → RteRing :=
  Function.update PacketiserClients.engineEal.rings 10 {
    capacity := Ring.ringCapacity - 1
    entries := [.reset 30 200 fun _ => byte]
    fits := by
      rw [List.length_singleton]
      decide
  }

/-- A packet with these bytes waits, and the packetiser receives it. -/
def receivesOne (byte : UInt8) : List Action :=
  [.traffic (filledRing byte)
      (Function.update (fun _ => []) 30 [.reset 30 100 fun _ => 0]),
    .recvFromEngineBurst]

/-- The packetiser cannot tell one packet from another. -/
theorem packets_make_no_difference_one_packet :
    AlikeStates (fun _ _ => True)
      (run step
        (PacketiserClients.start PacketiserClients.newPacketiser
          PacketiserClients.engineEal) (receivesOne 8))
      (run step
        (PacketiserClients.start PacketiserClients.newPacketiser
          PacketiserClients.engineEal) (receivesOne 9)) := by
  apply packets_make_no_difference (fun _ => trivial)
  · exact ⟨rfl, rfl, .refl (fun _ => trivial) _⟩
  · refine .cons (.traffic _ _ _ ?_) (.cons (.same _ (by simp)) .nil)
    intro address
    by_cases same : address = 10
    · subst same
      simp only [filledRing, Function.update_self]
      exact ⟨rfl, .cons trivial .nil⟩
    · simp only [filledRing, Function.update_of_ne same]
      exact .refl (fun _ => trivial) _

end Runs

end VDataplane.PacketiserContents
