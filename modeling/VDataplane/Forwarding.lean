import VDataplane.BoundedFifo
import VDataplane.PacketFrame
import VDataplane.Packetiser
import VDataplane.RingRegistry

namespace VDataplane.Forwarding

/-!
# Forwarding incoming packets to clients

`forward_incoming_packets` reads the destination of every queued packet, looks
its client up and sends the packet over the client's ring.

A packet's destination is the address in its IPv4 header, in wire order.  The
code reads the address as a little-endian number and takes the most significant
byte for the first octet, so it looks up the address with its octets reversed.
And each of the ways in which a packet can turn out to be undeliverable ends the
program: the missing header is dereferenced and the failed send unwrapped.

Both the loop and its intended effect are compared with a distribution of the
packets over the rings, each under its own routing.
-/

/-- The destination in the IPv4 header of a packet, unless it has none. -/
def wireDst (pkt : RteMbuf) : Option Ipv4Addr :=
  (Shim.pktIpv4Hdr pkt).map fun ipv4 =>
    .onWire pkt.memory (ipv4 + Ipv4Hdr.dstAddrOffset)

/-- The engine-to-client ring of a live client. -/
def clientRing
    (clientmap : RingClientMap)
    (clientId : UInt16) :
    Option Address :=
  (clientmap.ringmap clientId).map fun channel => channel.engineToClient.raw

/-- The ring that a packet should be sent over: the one of the client at its destination. -/
def wireRoute
    (table : RoutingTable)
    (clientmap : RingClientMap)
    (pkt : RteMbuf) :
    Option Address :=
  (wireDst pkt).bind fun clientIp =>
    (table.ipIdMap clientIp).bind (clientRing clientmap)

/-- The ring that the code sends a packet over. -/
def codeRoute
    (table : RoutingTable)
    (clientmap : RingClientMap)
    (pkt : RteMbuf) :
    Option Address :=
  (wireDst pkt).bind fun clientIp =>
    clientRing clientmap (table.idFromIp clientIp.reversed)

/-- The table has the same answer for a packet's destination and its reversal. -/
def SameClient
    (table : RoutingTable)
    (pkt : Mbuf) :
    Prop :=
  ∀ clientIp,
    wireDst pkt.raw = some clientIp →
    table.idFromIp clientIp.reversed = table.idFromIp clientIp

/-! ## The loop as a distribution -/

section Loop

variable
  {table : RoutingTable}
  {clientmap : RingClientMap}

/-- The header of a packet with a destination yields the reversed destination. -/
theorem fromMbuf_of_wireDst
    {pkt : Mbuf}
    {clientIp : Ipv4Addr}
    (hasDst : wireDst pkt.raw = some clientIp) :
    ∃ iphdr,
      Ipv4Hdr.fromMbuf pkt = .ok iphdr ∧
        iphdr.getDstAddr = clientIp.reversed := by
  obtain ⟨ipv4, found, rfl⟩ := Option.map_eq_some_iff.mp hasDst
  refine ⟨_, by
    simp only [Ipv4Hdr.fromMbuf, Mbuf.getPtr, found]
    rfl, ?_⟩
  exact Ipv4Hdr.convert_load32 _ _

/-- Reading the header of a packet without one dereferences NULL. -/
theorem fromMbuf_of_no_wireDst
    {pkt : Mbuf}
    (noDst : wireDst pkt.raw = none) :
    Ipv4Hdr.fromMbuf pkt = .error .nullDereference := by
  have notFound := Option.map_eq_none_iff.mp noDst
  simp only [Ipv4Hdr.fromMbuf, Mbuf.getPtr, notFound]

/-- A send over a ring with room appends the packet to it. -/
theorem send_of_push
    {clientId : UInt16}
    {address : Address}
    {pkt : Mbuf}
    {eal : Eal}
    {pushed : RteRing}
    (live : clientRing clientmap clientId = some address)
    (accepted : (eal.rings address).push? pkt.raw = some pushed) :
    clientmap.send clientId pkt eal = (.ok (), eal.setRing address pushed) := by
  obtain ⟨channel, present, rfl⟩ := Option.map_eq_some_iff.mp live
  rcases channel.engineToClient.enqueue_cases pkt eal with
    ⟨full, _⟩ | ⟨other, sameRing, enqueued⟩
  · exact absurd (accepted.symm.trans full) (by simp)
  · obtain rfl : pushed = other :=
      Option.some.inj (accepted.symm.trans sameRing)
    simp only [RingClientMap.send, present, Channel.sendToClient, enqueued]

/-- A send to nobody or over a full ring fails. -/
theorem send_fails
    {clientId : UInt16}
    {pkt : Mbuf}
    {eal : Eal}
    (undeliverable :
      ∀ address pushed,
        clientRing clientmap clientId = some address →
        (eal.rings address).push? pkt.raw ≠ some pushed) :
    ∃ error after, clientmap.send clientId pkt eal = (.error error, after) := by
  cases present : clientmap.ringmap clientId with
  | none =>
      exact ⟨_, _, by
        simp only [RingClientMap.send, present]
        rfl⟩
  | some channel =>
      rcases channel.engineToClient.enqueue_cases pkt eal with
        ⟨_, refused⟩ | ⟨pushed, accepted, _⟩
      · exact ⟨_, _, by
          simp only [RingClientMap.send, present, Channel.sendToClient,
            refused]
          rfl⟩
      · exact (undeliverable _ pushed (by simp [clientRing, present])
          accepted).elim

/-- One deliverable packet: the loop goes on with the rest of the queue. -/
theorem forwardLoop_cons
    {pkt : Mbuf}
    {address : Address}
    {eal : Eal}
    {pushed : RteRing}
    (routed : codeRoute table clientmap pkt.raw = some address)
    (accepted : (eal.rings address).push? pkt.raw = some pushed)
    (queue : List Mbuf) :
    Packetiser.forwardLoop table clientmap (pkt :: queue) eal =
      Packetiser.forwardLoop table clientmap queue
        (eal.setRing address pushed) := by
  obtain ⟨clientIp, hasDst, live⟩ := Option.bind_eq_some_iff.mp routed
  obtain ⟨iphdr, hasHeader, reversed⟩ := fromMbuf_of_wireDst hasDst
  simp only [Packetiser.forwardLoop, hasHeader, reversed,
    send_of_push live accepted]

/-- One undeliverable packet ends the program. -/
theorem forwardLoop_fails
    {pkt : Mbuf}
    {eal : Eal}
    (undeliverable :
      ∀ address pushed,
        codeRoute table clientmap pkt.raw = some address →
        (eal.rings address).push? pkt.raw ≠ some pushed)
    (queue : List Mbuf) :
    ∃ fault rest after,
      Packetiser.forwardLoop table clientmap (pkt :: queue) eal =
        (.error fault, rest, after) := by
  cases hasDst : wireDst pkt.raw with
  | none =>
      exact ⟨_, _, _, by
        simp only [Packetiser.forwardLoop, fromMbuf_of_no_wireDst hasDst]
        rfl⟩
  | some clientIp =>
      obtain ⟨iphdr, hasHeader, reversed⟩ := fromMbuf_of_wireDst hasDst
      obtain ⟨error, after, failed⟩ :
          ∃ error after,
            clientmap.send (table.idFromIp clientIp.reversed) pkt eal =
              (.error error, after) := by
        apply send_fails
        intro address pushed live
        exact undeliverable address pushed (by
          simp [codeRoute, hasDst, live])
      exact ⟨_, _, _, by
        simp only [Packetiser.forwardLoop, hasHeader, reversed, failed]
        rfl⟩

/-- When the distribution under the code's routing succeeds, so does the loop, with its rings. -/
theorem forwardLoop_of_distribute
    {queue : List Mbuf}
    {eal : Eal}
    {rings : Address → RteRing}
    (succeeded :
      BoundedFifo.distribute (codeRoute table clientmap) eal.rings
          (queue.map Mbuf.raw) =
        some rings) :
    Packetiser.forwardLoop table clientmap queue eal =
      (.ok (), [], { eal with rings := rings }) := by
  induction queue generalizing eal with
  | nil =>
      obtain rfl := Option.some.inj succeeded
      rfl
  | cons pkt rest inductionHypothesis =>
      rw [List.map_cons] at succeeded
      cases routed : codeRoute table clientmap pkt.raw with
      | none =>
          simp [BoundedFifo.distribute, routed] at succeeded
      | some address =>
          cases offered : (eal.rings address).push? pkt.raw with
          | none =>
              simp [BoundedFifo.distribute, routed, offered] at succeeded
          | some pushed =>
              simp only [BoundedFifo.distribute, routed, offered] at succeeded
              rw [forwardLoop_cons routed offered]
              exact inductionHypothesis succeeded

/-- When that distribution fails, the program ends in the middle of the loop. -/
theorem forwardLoop_of_not_distribute
    {queue : List Mbuf}
    {eal : Eal}
    (failed :
      BoundedFifo.distribute (codeRoute table clientmap) eal.rings
          (queue.map Mbuf.raw) =
        none) :
    ∃ fault rest after,
      Packetiser.forwardLoop table clientmap queue eal =
        (.error fault, rest, after) := by
  induction queue generalizing eal with
  | nil =>
      simp [BoundedFifo.distribute] at failed
  | cons pkt rest inductionHypothesis =>
      rw [List.map_cons] at failed
      cases routed : codeRoute table clientmap pkt.raw with
      | none =>
          apply forwardLoop_fails
          simp [routed]
      | some address =>
          cases offered : (eal.rings address).push? pkt.raw with
          | none =>
              apply forwardLoop_fails
              intro target pushed toTarget
              obtain rfl := Option.some.inj (routed.symm.trans toTarget)
              simp [offered]
          | some pushed =>
              simp only [BoundedFifo.distribute, routed, offered] at failed
              rw [forwardLoop_cons routed offered]
              exact inductionHypothesis failed

end Loop

/-! ## Delivery to the real destination -/

/-- The packets that wait for being forwarded. -/
def waiting (packetiser : Packetiser) : List RteMbuf :=
  packetiser.iBufqueue.map Mbuf.raw

/--
Forwarding ends well with an empty queue, and every ring has received, behind
what it held, the packets that are destined for it, in their order.
-/
structure Delivered
    (packetiser : Packetiser)
    (table : RoutingTable)
    (eal : Eal) :
    Prop where
  ends :
    (packetiser.forwardIncomingPackets table eal).1 = .ok ()
  drained :
    (packetiser.forwardIncomingPackets table eal).2.1.iBufqueue = []
  appended :
    ∀ address,
      ((packetiser.forwardIncomingPackets table eal).2.2.rings
          address).entries =
        (eal.rings address).entries ++
          BoundedFifo.load (wireRoute table packetiser.clientmap)
            address (waiting packetiser)

section Delivery

variable
  {packetiser : Packetiser}
  {table : RoutingTable}
  {eal : Eal}

/-- Forwarding under a successful distribution. -/
theorem forwardIncomingPackets_of_distribute
    {rings : Address → RteRing}
    (succeeded :
      BoundedFifo.distribute (codeRoute table packetiser.clientmap)
          eal.rings (waiting packetiser) =
        some rings) :
    packetiser.forwardIncomingPackets table eal =
      (.ok (), { packetiser with iBufqueue := [] },
        { eal with rings := rings }) := by
  simp only [Packetiser.forwardIncomingPackets,
    forwardLoop_of_distribute succeeded]

/-- Forwarding ends well only if the distribution succeeds. -/
theorem distribute_of_ends
    (ends : (packetiser.forwardIncomingPackets table eal).1 = .ok ()) :
    ∃ rings,
      BoundedFifo.distribute (codeRoute table packetiser.clientmap)
          eal.rings (waiting packetiser) =
        some rings := by
  cases outcome :
      BoundedFifo.distribute (codeRoute table packetiser.clientmap)
        eal.rings (waiting packetiser) with
  | some rings =>
      exact ⟨rings, rfl⟩
  | none =>
      obtain ⟨fault, rest, after, failed⟩ :=
        forwardLoop_of_not_distribute outcome
      simp [Packetiser.forwardIncomingPackets, failed] at ends

/--
For a packet with a live destination, the two routings agree exactly when the
table answers alike for the reversed address: different clients have different
rings.
-/
theorem codeRoute_eq_iff
    (backed : packetiser.clientmap.Backed eal)
    {pkt : Mbuf}
    (routed : (wireRoute table packetiser.clientmap pkt.raw).isSome) :
    codeRoute table packetiser.clientmap pkt.raw =
        wireRoute table packetiser.clientmap pkt.raw ↔
      SameClient table pkt := by
  obtain ⟨address, toAddress⟩ := Option.isSome_iff_exists.mp routed
  obtain ⟨clientIp, hasDst, mappedLive⟩ :=
    Option.bind_eq_some_iff.mp toAddress
  obtain ⟨clientId, mapped, live⟩ := Option.bind_eq_some_iff.mp mappedLive
  have direct : table.idFromIp clientIp = clientId := by
    simp [RoutingTable.idFromIp, mapped]
  have byCode :
      codeRoute table packetiser.clientmap pkt.raw =
        clientRing packetiser.clientmap
          (table.idFromIp clientIp.reversed) := by
    simp [codeRoute, hasDst]
  rw [toAddress, byCode]
  constructor
  · intro sameRing otherIp hasOther
    obtain rfl : clientIp = otherIp :=
      Option.some.inj (hasDst.symm.trans hasOther)
    obtain ⟨first, atFirst, firstRaw⟩ := Option.map_eq_some_iff.mp sameRing
    obtain ⟨second, atSecond, secondRaw⟩ := Option.map_eq_some_iff.mp live
    have sameRaw : (first.ring .e2c).raw = (second.ring .e2c).raw :=
      firstRaw.trans secondRaw.symm
    rw [(backed.raw_inj atFirst atSecond sameRaw).2, direct]
  · intro sameClient
    rw [sameClient clientIp hasDst, direct]
    exact live

/-- Where all packets can be delivered, the routings agree on them exactly if the table does. -/
theorem routes_agree_iff
    (backed : packetiser.clientmap.Backed eal)
    (fits :
      BoundedFifo.Fits (wireRoute table packetiser.clientmap)
        eal.rings (waiting packetiser)) :
    (∀ pkt ∈ waiting packetiser,
        codeRoute table packetiser.clientmap pkt =
          wireRoute table packetiser.clientmap pkt) ↔
      ∀ pkt ∈ packetiser.iBufqueue, SameClient table pkt := by
  rw [waiting, List.forall_mem_map]
  refine forall₂_congr ?_
  intro pkt member
  exact codeRoute_eq_iff backed
    (fits.routed pkt.raw (List.mem_map_of_mem member))

/-- Where all packets can be delivered, forwarding delivers them exactly if the routings agree. -/
theorem delivered_iff_routes
    (fits :
      BoundedFifo.Fits (wireRoute table packetiser.clientmap)
        eal.rings (waiting packetiser)) :
    Delivered packetiser table eal ↔
      ∀ pkt ∈ waiting packetiser,
        codeRoute table packetiser.clientmap pkt =
          wireRoute table packetiser.clientmap pkt := by
  constructor
  · intro delivered
    obtain ⟨rings, succeeded⟩ := distribute_of_ends delivered.ends
    apply BoundedFifo.routes_eq_of_load_eq fits.routed
    intro address
    have appended := delivered.appended address
    rw [forwardIncomingPackets_of_distribute succeeded,
      BoundedFifo.distribute_entries succeeded] at appended
    exact List.append_cancel_left appended
  · intro sameRoutes
    obtain ⟨rings, succeeded⟩ :=
      Option.isSome_iff_exists.mp
        ((BoundedFifo.distribute_isSome_iff _ _ _).mpr fits)
    have byCode :=
      (BoundedFifo.distribute_congr sameRoutes eal.rings).trans succeeded
    have forwarded := forwardIncomingPackets_of_distribute byCode
    refine ⟨?_, ?_, ?_⟩
    · rw [forwarded]
    · rw [forwarded]
    · intro address
      rw [forwarded]
      exact BoundedFifo.distribute_entries succeeded address

/--
When every waiting frame is an IPv4 frame for a live client whose ring has room
for its frames, forwarding delivers them exactly if, for every frame, the table
gives the same id for its destination and for the address with the octets in
the opposite order.
-/
theorem delivered_iff_sameClient
    (backed : packetiser.clientmap.Backed eal)
    (fits :
      BoundedFifo.Fits (wireRoute table packetiser.clientmap)
        eal.rings (waiting packetiser)) :
    Delivered packetiser table eal ↔
      ∀ pkt ∈ packetiser.iBufqueue, SameClient table pkt := by
  rw [delivered_iff_routes fits]
  exact routes_agree_iff backed fits

end Delivery

/-- The client map after clients 2 and 3 were granted two ring addresses each. -/
def twoClients : RingClientMap :=
  let (_, map, eal) :=
    RingClientMap.new.addClient 2 (.ok 40) (.ok 50) Eal.initial
  (map.addClient 3 (.ok 60) (.ok 70) eal).2.1

/-- The environment after these additions. -/
def withClients : Eal :=
  let (_, map, eal) :=
    RingClientMap.new.addClient 2 (.ok 40) (.ok 50) Eal.initial
  (map.addClient 3 (.ok 60) (.ok 70) eal).2.2

theorem backed_twoClients : twoClients.Backed withClients :=
  ((RingClientMap.backed_new Eal.initial).addClient 2 (.ok 40)
    (.ok 50)).addClient 3 (.ok 60) (.ok 70)

/-- A packetiser with these clients and some waiting packets. -/
def withQueue (queue : List Mbuf) : Packetiser where
  channel := {
    clientToEngine := ⟨Packetiser.packetiserId, .c2e, 20⟩
    engineToClient := ⟨Packetiser.packetiserId, .e2c, 10⟩
  }
  mempool :=
    ⟨30⟩
  clientmap :=
    twoClients
  iBufqueue :=
    queue
  oBufqueue :=
    []
  cap :=
    64
  allocatedIds :=
    [2, 3]

/--
A frame of 34 bytes with an IPv4 header without options: its buffer, the first
byte of its EtherType, and its destination in wire order.
-/
def frameTo
    (address : Address)
    (etherType : UInt8)
    (clientIp : Ipv4Addr) :
    Mbuf where
  raw := {
    RteMbuf.reset 30 address fun index =>
      if index = 128 + 12 then etherType
      else if index = 128 + 14 then 0x45
      else if index = 128 + 14 + 16 then clientIp.a
      else if index = 128 + 14 + 17 then clientIp.b
      else if index = 128 + 14 + 18 then clientIp.c
      else if index = 128 + 14 + 19 then clientIp.d
      else 0
    with
    dataLen := 34
    pktLen := 34
  }

/-- Two clients at addresses that read the same in both directions. -/
def palindromes : RoutingTable :=
  (RoutingTable.new.addClient 2 ⟨10, 1, 1, 10⟩).addClient 3 ⟨10, 2, 2, 10⟩

/-- Two frames for the first of these clients and one for the second between them. -/
def threeFrames : List Mbuf :=
  [frameTo 100 8 ⟨10, 1, 1, 10⟩, frameTo 200 8 ⟨10, 2, 2, 10⟩,
    frameTo 300 8 ⟨10, 1, 1, 10⟩]

/-- Frames for addresses that read the same in both directions. -/
theorem delivered_palindrome :
    Delivered (withQueue threeFrames) palindromes withClients ↔
      ∀ pkt ∈ (withQueue threeFrames).iBufqueue,
        SameClient palindromes pkt :=
  delivered_iff_sameClient backed_twoClients
    ((BoundedFifo.distribute_isSome_iff _ _ _).mp rfl)

/-- Clients at 10.0.0.2 and 10.0.0.3. -/
def tenNet : RoutingTable :=
  (RoutingTable.new.addClient 2 ⟨10, 0, 0, 2⟩).addClient 3 ⟨10, 0, 0, 3⟩

/-- One frame for each of these clients. -/
def twoFrames : List Mbuf :=
  [frameTo 100 8 ⟨10, 0, 0, 2⟩, frameTo 200 8 ⟨10, 0, 0, 3⟩]

/-- A frame for 10.0.0.2, the address of client 2, is looked up under 2.0.0.10. -/
theorem not_delivered_reversed :
    twoClients.Backed withClients ∧
      BoundedFifo.Fits (wireRoute tenNet twoClients)
        withClients.rings (waiting (withQueue twoFrames)) ∧
      ¬ Delivered (withQueue twoFrames) tenNet withClients := by
  refine ⟨backed_twoClients,
    (BoundedFifo.distribute_isSome_iff _ _ _).mp rfl, ?_⟩
  intro delivered
  exact absurd delivered.ends (by decide)

/-! ## Disposal of hostile traffic -/

/-- The destination of the IPv4 packet that a buffer holds, unless it holds none. -/
def ipv4Dst (pkt : RteMbuf) : Option Ipv4Addr :=
  let frame := PacketFrame.frame pkt
  if WireFormat.CarriesIpv4 frame then
    some {
      a := WireFormat.octet frame WireFormat.ipv4DestinationOffset
      b := WireFormat.octet frame (WireFormat.ipv4DestinationOffset + 1)
      c := WireFormat.octet frame (WireFormat.ipv4DestinationOffset + 2)
      d := WireFormat.octet frame (WireFormat.ipv4DestinationOffset + 3)
    }
  else
    none

/--
The ring that a packet is to be delivered over: the one of the live client that
the table has at the destination of its IPv4 packet.
-/
def deliveryRoute
    (table : RoutingTable)
    (clientmap : RingClientMap)
    (pkt : RteMbuf) :
    Option Address :=
  (ipv4Dst pkt).bind fun clientIp =>
    (table.ipIdMap clientIp).bind (clientRing clientmap)

/-- What should happen to one packet: it is sent to the client at its destination, or freed. -/
def dispose
    (table : RoutingTable)
    (clientmap : RingClientMap)
    (eal : Eal)
    (pkt : Mbuf) :
    Eal :=
  match deliveryRoute table clientmap pkt.raw with
  | none =>
      pkt.drop eal
  | some address =>
      match (eal.rings address).push? pkt.raw with
      | none =>
          pkt.drop eal
      | some pushed =>
          eal.setRing address pushed

/--
Forwarding ends well with an empty queue, and has disposed of the packets one
after the other.
-/
def Handled
    (packetiser : Packetiser)
    (table : RoutingTable)
    (eal : Eal) :
    Prop :=
  packetiser.forwardIncomingPackets table eal =
    (.ok (), { packetiser with iBufqueue := [] },
      packetiser.iBufqueue.foldl (dispose table packetiser.clientmap) eal)

section Disposal

variable
  {table : RoutingTable}
  {clientmap : RingClientMap}

/-- The number of free buffers of one mempool. -/
def freeCount (pool : Address) (eal : Eal) : Nat :=
  (eal.pools pool).length

/-- Dropping a packet frees one buffer of its mempool and none is taken. -/
theorem freeCount_drop (pool : Address) (pkt : Mbuf) (eal : Eal) :
    freeCount pool (pkt.drop eal) =
      freeCount pool eal + if pkt.raw.pool = pool then 1 else 0 := by
  by_cases same : pkt.raw.pool = pool
  · subst same
    simp [freeCount, Mbuf.drop, Dpdk.rtePktmbufFree]
  · simp [freeCount, Mbuf.drop, Dpdk.rtePktmbufFree, same,
      Function.update_of_ne (Ne.symm same)]

/-- A disposal takes no buffer from any mempool. -/
theorem freeCount_le_dispose (pool : Address) (eal : Eal) (pkt : Mbuf) :
    freeCount pool eal ≤ freeCount pool (dispose table clientmap eal pkt) := by
  unfold dispose
  split
  · rw [freeCount_drop]
    exact Nat.le_add_right _ _
  · split
    · rw [freeCount_drop]
      exact Nat.le_add_right _ _
    · exact Nat.le_refl _

/-- Nor does a whole sequence of disposals. -/
theorem freeCount_le_foldl (pool : Address) (queue : List Mbuf) (eal : Eal) :
    freeCount pool eal ≤
      freeCount pool (queue.foldl (dispose table clientmap) eal) := by
  induction queue generalizing eal with
  | nil =>
      exact Nat.le_refl _
  | cons pkt rest inductionHypothesis =>
      exact Nat.le_trans (freeCount_le_dispose pool eal pkt)
        (inductionHypothesis (dispose table clientmap eal pkt))

/-- Where every packet can be delivered, disposal is distribution. -/
theorem foldl_dispose_of_distribute
    {queue : List Mbuf}
    {eal : Eal}
    {rings : Address → RteRing}
    (succeeded :
      BoundedFifo.distribute (deliveryRoute table clientmap) eal.rings
          (queue.map Mbuf.raw) =
        some rings) :
    queue.foldl (dispose table clientmap) eal =
      { eal with rings := rings } := by
  induction queue generalizing eal with
  | nil =>
      obtain rfl := Option.some.inj succeeded
      rfl
  | cons pkt rest inductionHypothesis =>
      rw [List.map_cons] at succeeded
      cases routed : deliveryRoute table clientmap pkt.raw with
      | none =>
          simp [BoundedFifo.distribute, routed] at succeeded
      | some address =>
          cases offered : (eal.rings address).push? pkt.raw with
          | none =>
              simp [BoundedFifo.distribute, routed, offered] at succeeded
          | some pushed =>
              simp only [BoundedFifo.distribute, routed, offered] at succeeded
              have first :
                  dispose table clientmap eal pkt =
                    eal.setRing address pushed := by
                simp only [dispose, routed, offered]
              rw [List.foldl_cons, first]
              exact inductionHypothesis succeeded

/-- A first packet that is dropped frees a buffer. -/
theorem freeCount_lt_of_dropped
    {pkt : Mbuf}
    {rest : List Mbuf}
    {eal : Eal}
    (dropped : dispose table clientmap eal pkt = pkt.drop eal) :
    freeCount pkt.raw.pool eal <
      freeCount pkt.raw.pool
        ((pkt :: rest).foldl (dispose table clientmap) eal) := by
  have oneMore := freeCount_drop pkt.raw.pool pkt eal
  have noneTaken :
      freeCount pkt.raw.pool (pkt.drop eal) ≤
        freeCount pkt.raw.pool
          (rest.foldl (dispose table clientmap) (pkt.drop eal)) :=
    freeCount_le_foldl pkt.raw.pool rest (pkt.drop eal)
  rw [List.foldl_cons, dropped]
  simp only [↓reduceIte] at oneMore
  omega

/-- Where some packet cannot be delivered, disposal frees a buffer. -/
theorem foldl_dispose_of_not_distribute
    {queue : List Mbuf}
    {eal : Eal}
    (failed :
      BoundedFifo.distribute (deliveryRoute table clientmap) eal.rings
          (queue.map Mbuf.raw) =
        none) :
    ∃ pool,
      freeCount pool eal <
        freeCount pool (queue.foldl (dispose table clientmap) eal) := by
  induction queue generalizing eal with
  | nil =>
      simp [BoundedFifo.distribute] at failed
  | cons pkt rest inductionHypothesis =>
      rw [List.map_cons] at failed
      cases routed : deliveryRoute table clientmap pkt.raw with
      | none =>
          exact ⟨_, freeCount_lt_of_dropped (by
            simp only [dispose, routed])⟩
      | some address =>
          cases offered : (eal.rings address).push? pkt.raw with
          | none =>
              exact ⟨_, freeCount_lt_of_dropped (by
                simp only [dispose, routed, offered])⟩
          | some pushed =>
              simp only [BoundedFifo.distribute, routed, offered] at failed
              have first :
                  dispose table clientmap eal pkt =
                    eal.setRing address pushed := by
                simp only [dispose, routed, offered]
              have later :
                  ∃ pool,
                    freeCount pool (eal.setRing address pushed) <
                      freeCount pool
                        (rest.foldl (dispose table clientmap)
                          (eal.setRing address pushed)) :=
                inductionHypothesis failed
              rw [List.foldl_cons, first]
              exact later

/--
Forwarding handles the packets as it should exactly if all of them can be
delivered and the routings agree: the one thing that the loop can do for a
packet is to send it.
-/
theorem handled_iff_routes
    {packetiser : Packetiser}
    {eal : Eal} :
    Handled packetiser table eal ↔
      BoundedFifo.Fits (deliveryRoute table packetiser.clientmap)
          eal.rings (waiting packetiser) ∧
        ∀ pkt ∈ waiting packetiser,
          codeRoute table packetiser.clientmap pkt =
            deliveryRoute table packetiser.clientmap pkt := by
  constructor
  · intro handled
    have ends : (packetiser.forwardIncomingPackets table eal).1 = .ok () := by
      rw [handled]
    obtain ⟨codeRings, byCode⟩ := distribute_of_ends ends
    rw [Handled, forwardIncomingPackets_of_distribute byCode] at handled
    simp only [Prod.mk.injEq, true_and] at handled
    cases outcome :
        BoundedFifo.distribute (deliveryRoute table packetiser.clientmap)
          eal.rings (waiting packetiser) with
    | none =>
        obtain ⟨pool, freed⟩ := foldl_dispose_of_not_distribute outcome
        rw [← handled] at freed
        exact (Nat.lt_irrefl _ freed).elim
    | some rings =>
        have fits :=
          (BoundedFifo.distribute_isSome_iff _ _ _).mp
            (Option.isSome_of_eq_some outcome)
        refine ⟨fits, BoundedFifo.routes_eq_of_load_eq fits.routed ?_⟩
        intro address
        rw [foldl_dispose_of_distribute outcome] at handled
        have sameRings : codeRings = rings := congrArg Eal.rings handled
        subst sameRings
        have sameEntries :=
          (BoundedFifo.distribute_entries byCode address).symm.trans
            (BoundedFifo.distribute_entries outcome address)
        exact List.append_cancel_left sameEntries
  · rintro ⟨fits, sameRoutes⟩
    obtain ⟨rings, succeeded⟩ :=
      Option.isSome_iff_exists.mp
        ((BoundedFifo.distribute_isSome_iff _ _ _).mpr fits)
    have byCode :=
      (BoundedFifo.distribute_congr sameRoutes eal.rings).trans succeeded
    rw [Handled, forwardIncomingPackets_of_distribute byCode,
      foldl_dispose_of_distribute succeeded]

/-- The code reads the destination of an IPv4 packet where the packet has it. -/
theorem wireDst_of_ipv4Dst
    {pkt : RteMbuf}
    {clientIp : Ipv4Addr}
    (hasDst : ipv4Dst pkt = some clientIp) :
    wireDst pkt = some clientIp := by
  rw [ipv4Dst, Option.ite_none_right_eq_some, Option.some.injEq] at hasDst
  obtain ⟨carries, rfl⟩ := hasDst
  have complete := carries.complete
  rw [PacketFrame.length_frame, WireFormat.etherHeaderSize,
    WireFormat.ipv4HeaderSize] at complete
  have readsIpv4 : PacketFrame.ReadsIpv4 pkt :=
    (PacketFrame.readsIpv4_iff (by omega)).mpr carries.etherType
  have octetAt :
      ∀ distance, distance < 4 →
        WireFormat.octet (PacketFrame.frame pkt)
            (WireFormat.ipv4DestinationOffset + distance) =
          pkt.memory
            (Shim.rtePktmbufMtod pkt + Shim.sizeofEtherHdr +
              Ipv4Hdr.dstAddrOffset + UInt64.ofNat distance) := by
    intro distance below
    rw [PacketFrame.octet_frame (by
        rw [WireFormat.ipv4DestinationOffset, WireFormat.etherHeaderSize]
        omega),
      UInt64.ofNat_add, UInt64.add_assoc, UInt64.add_assoc,
      ← UInt64.add_assoc Shim.sizeofEtherHdr]
    rfl
  have noDistance : UInt64.ofNat 0 = 0 :=
    rfl
  have first := octetAt 0 (by decide)
  rw [Nat.add_zero, noDistance, UInt64.add_zero] at first
  rw [wireDst, PacketFrame.pktIpv4Hdr_of_reads readsIpv4, Option.map_some,
    Option.some.injEq, Ipv4Addr.onWire, first, octetAt 1 (by decide),
    octetAt 2 (by decide), octetAt 3 (by decide)]
  rfl

/-- Where a packet can be delivered, the address at the place of the destination is its own. -/
theorem wireRoute_of_deliveryRoute
    {pkt : RteMbuf}
    (deliverable : (deliveryRoute table clientmap pkt).isSome) :
    wireRoute table clientmap pkt = deliveryRoute table clientmap pkt := by
  obtain ⟨address, toAddress⟩ := Option.isSome_iff_exists.mp deliverable
  obtain ⟨clientIp, hasDst, live⟩ := Option.bind_eq_some_iff.mp toAddress
  rw [wireRoute, deliveryRoute, hasDst, wireDst_of_ipv4Dst hasDst]

end Disposal

/--
Forwarding ends without a fault and disposes of every packet exactly if every
packet is an IPv4 packet for a live client, the rings have room for all of
them, and the table gives the same id for each destination and for the address
with the octets in the opposite order.
-/
theorem handled_iff_fits_and_sameClient
    {packetiser : Packetiser}
    {table : RoutingTable}
    {eal : Eal}
    (backed : packetiser.clientmap.Backed eal) :
    Handled packetiser table eal ↔
      BoundedFifo.Fits (deliveryRoute table packetiser.clientmap)
          eal.rings (waiting packetiser) ∧
        ∀ pkt ∈ packetiser.iBufqueue, SameClient table pkt := by
  rw [handled_iff_routes]
  refine and_congr_right ?_
  intro fits
  rw [waiting, List.forall_mem_map]
  refine forall₂_congr ?_
  intro pkt member
  have deliverable :=
    fits.routed pkt.raw (List.mem_map_of_mem member)
  have sameRoute := wireRoute_of_deliveryRoute deliverable
  rw [← sameRoute] at deliverable ⊢
  exact codeRoute_eq_iff backed deliverable

/-- Three packets for two clients, at addresses that read the same in both directions. -/
theorem handled_palindrome :
    Handled (withQueue threeFrames) palindromes withClients ↔
      BoundedFifo.Fits (deliveryRoute palindromes twoClients)
          withClients.rings (waiting (withQueue threeFrames)) ∧
        ∀ pkt ∈ (withQueue threeFrames).iBufqueue,
          SameClient palindromes pkt :=
  handled_iff_fits_and_sameClient backed_twoClients

/-- A frame that is not IPv4 makes the program dereference NULL, behind a packet that it delivers. -/
theorem not_handled_not_ipv4 :
    (Packetiser.forwardIncomingPackets
          (withQueue [frameTo 100 8 ⟨10, 1, 1, 10⟩,
            frameTo 200 6 ⟨10, 2, 2, 10⟩])
          palindromes withClients).1 =
        .error .nullDereference ∧
      ¬ Handled
        (withQueue [frameTo 100 8 ⟨10, 1, 1, 10⟩,
          frameTo 200 6 ⟨10, 2, 2, 10⟩])
        palindromes withClients := by
  have faults :
      (Packetiser.forwardIncomingPackets
          (withQueue [frameTo 100 8 ⟨10, 1, 1, 10⟩,
            frameTo 200 6 ⟨10, 2, 2, 10⟩])
          palindromes withClients).1 =
        .error .nullDereference := by
    decide
  refine ⟨faults, ?_⟩
  intro handled
  rw [handled] at faults
  simp at faults

end VDataplane.Forwarding
