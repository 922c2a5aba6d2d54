import VDataplane.ChannelLifecycle
import VDataplane.Ipv4Hdr
import VDataplane.Memory
import VDataplane.RoutingTable

namespace VDataplane

/-!
# The packetiser

The `Packetiser` of the secondary process: the clients it creates channels for
and the packets it forwards to them.  `LAST_ALLOCATED_ID` is a global of the
module and `TABLE` one of the program; the methods take them as arguments and
return the counter they leave behind.
-/

/-- The state of the packetiser; a queue is a list with its head in front. -/
structure Packetiser where
  channel : Channel
  mempool : Mempool
  clientmap : RingClientMap
  iBufqueue : List Mbuf
  oBufqueue : List Mbuf
  cap : Nat
  allocatedIds : List UInt16

namespace Packetiser

/-- `PACKETISER_ID`: the client id of the packetiser at the engine. -/
def packetiserId : UInt16 := 1

/-- The initial value of `LAST_ALLOCATED_ID`. -/
def initialLastAllocatedId : UInt16 := 1

def gMempoolName : String := "GLOBAL_MEMPOOL"

/-- `Packetiser::new`: both lookups are unwrapped. -/
def new
    (cap : Nat)
    (eal : Eal) :
    Except Fault Packetiser × Eal :=
  match Channel.lookup packetiserId eal with
  | (.error _, failed) =>
      (.error .panicked, failed)
  | (.ok channel, found) =>
      match Mempool.lookup gMempoolName found with
      | .error _ =>
          -- Unwinding drops the channel.
          (.error .panicked, channel.drop found)
      | .ok mempool =>
          (.ok {
            channel := channel
            mempool := mempool
            clientmap := .new
            iBufqueue := []
            oBufqueue := []
            cap := cap
            allocatedIds := []
          }, found)

/-- The loop of `add_client` over candidate ids; 0 when all of them are taken. -/
def firstFree (allocatedIds : List UInt16) : List UInt16 → UInt16
  | [] =>
      0
  | id :: ids =>
      if id ∉ allocatedIds then
        id
      else
        firstFree allocatedIds ids

/-- The range `0..end` of ids. -/
def idsBelow (last : UInt16) : List UInt16 :=
  (List.range last.toNat).map UInt16.ofNat

/--
The choice of an id in `add_client`, and the counter after it.  The result 0 of
the loop is read as "none found"; the sum wraps.
-/
def chooseId
    (allocatedIds : List UInt16)
    (lastAllocatedId : UInt16) :
    UInt16 × UInt16 :=
  let key := firstFree allocatedIds (idsBelow lastAllocatedId)
  if key = 0 then
    (lastAllocatedId + 1, lastAllocatedId + 1)
  else
    (key, lastAllocatedId)

/-- `Packetiser::add_client`: the id is recorded before its channel is created. -/
def addClient
    (packetiser : Packetiser)
    (lastAllocatedId : UInt16)
    (e2c c2e : Dpdk.Allocation)
    (eal : Eal) :
    Except RingClientMapError Unit × Packetiser × UInt16 × Eal :=
  let (key, lastAllocatedId) :=
    chooseId packetiser.allocatedIds lastAllocatedId
  let (result, clientmap, eal) :=
    packetiser.clientmap.addClient key e2c c2e eal
  (result, {
    packetiser with
    allocatedIds := packetiser.allocatedIds ++ [key]
    clientmap := clientmap
  }, lastAllocatedId, eal)

/-- `Packetiser::remove_clients`: removing at an index out of bounds panics. -/
def removeClients
    (packetiser : Packetiser)
    (key : UInt16)
    (eal : Eal) :
    Except Fault (Packetiser × Eal) :=
  let index := packetiser.allocatedIds.idxOf key
  if index < packetiser.allocatedIds.length then
    let allocatedIds := packetiser.allocatedIds.eraseIdx index
    let (clientmap, eal) := packetiser.clientmap.removeClient key eal
    .ok ({
      packetiser with
      allocatedIds := allocatedIds
      clientmap := clientmap
    }, eal)
  else
    .error .panicked

/-- The loop of `forward_incoming_packets`; it stops where the program does. -/
def forwardLoop
    (table : RoutingTable)
    (clientmap : RingClientMap) :
    List Mbuf → Eal → Except Fault Unit × List Mbuf × Eal
  | [], eal =>
      (.ok (), [], eal)
  | pkt :: queue, eal =>
      match Ipv4Hdr.fromMbuf pkt with
      | .error fault =>
          (.error fault, queue, eal)
      | .ok iphdr =>
          let clientId := table.idFromIp iphdr.getDstAddr
          match clientmap.send clientId pkt eal with
          | (.error _, eal) =>
              (.error .panicked, queue, eal)
          | (.ok (), eal) =>
              forwardLoop table clientmap queue eal

/-- `Packetiser::forward_incoming_packets`. -/
def forwardIncomingPackets
    (packetiser : Packetiser)
    (table : RoutingTable)
    (eal : Eal) :
    Except Fault Unit × Packetiser × Eal :=
  let (result, iBufqueue, eal) :=
    forwardLoop table packetiser.clientmap packetiser.iBufqueue eal
  (result, { packetiser with iBufqueue := iBufqueue }, eal)

/-- `BURST_MAX` of a build without the `debug` feature. -/
def burstMax : Nat := 512

/--
`Packetiser::recv_from_engine_burst`: the buffers that are not pushed are
dropped with the vector.
-/
def recvFromEngineBurst
    (packetiser : Packetiser)
    (eal : Eal) :
    Except MemoryError Nat × Packetiser × Eal :=
  let (pkts, eal) := Mbuf.createUpTo packetiser.mempool burstMax [] eal
  if pkts.length = 0 then
    (.error (.new eal.errno), packetiser, Mbuf.dropAll pkts eal)
  else
    -- `Channel::recv_from_engine_burst`: there is memory for `BURST_MAX` pointers.
    let (count, pkts, eal) :=
      packetiser.channel.engineToClient.takeBurst pkts eal
    if count ≠ 0 then
      (.ok count, {
        packetiser with
        iBufqueue := packetiser.iBufqueue ++ pkts.take count
      }, Mbuf.dropAll (pkts.drop count) eal)
    else
      (.ok count, packetiser, Mbuf.dropAll pkts eal)

/--
`Packetiser::send_to_engine_bulk`.

`pop` returns an `Option`, so the `for` loop over it collects at most one
packet.
-/
def sendToEngineBulk
    (packetiser : Packetiser)
    (eal : Eal) :
    Nat × Packetiser × Eal :=
  if packetiser.oBufqueue.isEmpty then
    (0, packetiser, eal)
  else
    let popped := packetiser.oBufqueue.head?
    let pkts := popped.toList
    let (count, eal) := packetiser.channel.sendToEngineBulk pkts eal
    (count, { packetiser with oBufqueue := packetiser.oBufqueue.tail }, eal)

/-- `Packetiser::store_incoming`. -/
def storeIncoming
    (packetiser : Packetiser)
    (eal : Eal) :
    Except MemoryError Unit × Packetiser × Eal :=
  let (pkts, eal) := Mbuf.createUpTo packetiser.mempool burstMax [] eal
  -- `Channel::recv_from_engine_burst`: there is memory for `BURST_MAX` pointers.
  let (count, pkts, eal) :=
    packetiser.channel.engineToClient.takeBurst pkts eal
  (.ok (), {
    packetiser with
    iBufqueue := packetiser.iBufqueue ++ pkts.take count
  }, Mbuf.dropAll (pkts.drop count) eal)

/--
The inner loop of `store_outgoing`: ask every client for one packet.  The `?`
on the creation of a buffer leaves both loops; a buffer that nothing was
received for is dropped.
-/
def collectRound
    (mempool : Mempool)
    (clientmap : RingClientMap) :
    List UInt16 → List Mbuf → Eal →
      Except MemoryError Unit × List Mbuf × Eal
  | [], oBufqueue, eal =>
      (.ok (), oBufqueue, eal)
  | key :: keys, oBufqueue, eal =>
      match Mbuf.new mempool eal with
      | (.error error, eal) =>
          (.error error, oBufqueue, eal)
      | (.ok pkt, eal) =>
          match clientmap.receive key pkt eal with
          | (.ok (), pkt, eal) =>
              collectRound mempool clientmap keys (oBufqueue ++ [pkt]) eal
          | (.error _, pkt, eal) =>
              collectRound mempool clientmap keys oBufqueue (pkt.drop eal)

/-- The outer loop of `store_outgoing`. -/
def collectLoop
    (mempool : Mempool)
    (clientmap : RingClientMap)
    (allocatedIds : List UInt16) :
    Nat → List Mbuf → Eal → Except MemoryError Unit × List Mbuf × Eal
  | 0, oBufqueue, eal =>
      (.ok (), oBufqueue, eal)
  | rounds + 1, oBufqueue, eal =>
      match collectRound mempool clientmap allocatedIds oBufqueue eal with
      | (.error error, oBufqueue, eal) =>
          (.error error, oBufqueue, eal)
      | (.ok (), oBufqueue, eal) =>
          collectLoop mempool clientmap allocatedIds rounds oBufqueue eal

/--
`Packetiser::store_outgoing`: the first buffers created only count the rounds;
they are dropped at the end, however the loops are left.
-/
def storeOutgoing
    (packetiser : Packetiser)
    (eal : Eal) :
    Except MemoryError Unit × Packetiser × Eal :=
  let (pkts, eal) := Mbuf.createUpTo packetiser.mempool burstMax [] eal
  let (result, oBufqueue, eal) :=
    collectLoop packetiser.mempool packetiser.clientmap
      packetiser.allocatedIds pkts.length packetiser.oBufqueue eal
  (result, { packetiser with oBufqueue := oBufqueue },
    Mbuf.dropAll pkts eal)

/--
The body of the loop of `send_outgoing_packets`: pop a packet and send it.
A failed send is only logged, as is an empty queue.
-/
def sendOne
    (channel : Channel)
    (oBufqueue : List Mbuf)
    (eal : Eal) :
    List Mbuf × Eal :=
  match oBufqueue with
  | [] =>
      ([], eal)
  | buf :: rest =>
      match channel.sendToEngine buf eal with
      | (.ok (), eal) =>
          (rest, eal)
      | (.error _, eal) =>
          (rest, eal)

/-- The loop of `send_outgoing_packets`. -/
def sendLoop (channel : Channel) :
    Nat → List Mbuf → Eal → List Mbuf × Eal
  | 0, oBufqueue, eal =>
      (oBufqueue, eal)
  | rounds + 1, oBufqueue, eal =>
      let (oBufqueue, eal) := sendOne channel oBufqueue eal
      sendLoop channel rounds oBufqueue eal

/-- `Packetiser::send_outgoing_packets`: `len` is taken before the loop. -/
def sendOutgoingPackets
    (packetiser : Packetiser)
    (eal : Eal) :
    Except RingClientMapError Unit × Packetiser × Eal :=
  let len := packetiser.oBufqueue.length
  let (oBufqueue, eal) :=
    sendLoop packetiser.channel len packetiser.oBufqueue eal
  (.ok (), { packetiser with oBufqueue := oBufqueue }, eal)

/-- `Packetiser::u32_to_ipaddr`: the most significant byte becomes the first octet. -/
def u32ToIpaddr (ip : UInt32) : Ipv4Addr where
  a :=
    ((ip >>> 24) &&& 0xFF).toUInt8
  b :=
    ((ip >>> 16) &&& 0xFF).toUInt8
  c :=
    ((ip >>> 8) &&& 0xFF).toUInt8
  d :=
    (ip &&& 0xFF).toUInt8

/-- A new packetiser has no clients and no packets. -/
theorem of_new
    {cap : Nat}
    {eal after : Eal}
    {packetiser : Packetiser}
    (created : Packetiser.new cap eal = (.ok packetiser, after)) :
    ∃ channel mempool,
      packetiser = {
        channel := channel
        mempool := mempool
        clientmap := .new
        iBufqueue := []
        oBufqueue := []
        cap := cap
        allocatedIds := []
      } := by
  unfold Packetiser.new at created
  split at created
  · simp at created
  · split at created
    · simp at created
    · obtain ⟨rfl, rfl⟩ := by
        simpa only [Prod.mk.injEq, Except.ok.injEq] using created
      exact ⟨_, _, rfl⟩

/-- Removing an allocated id takes one occurrence of it out of the list. -/
theorem removeClients_of_mem
    {packetiser : Packetiser}
    {key : UInt16}
    (allocated : key ∈ packetiser.allocatedIds)
    (eal : Eal) :
    packetiser.removeClients key eal =
      .ok ({
        packetiser with
        allocatedIds := packetiser.allocatedIds.erase key
        clientmap := (packetiser.clientmap.removeClient key eal).1
      }, (packetiser.clientmap.removeClient key eal).2) := by
  have inBounds := List.idxOf_lt_length_of_mem allocated
  simp only [removeClients, inBounds, ↓reduceIte,
    List.eraseIdx_idxOf_eq_erase]

/-- As long as the sentinel 0 is not allocated, the loop never gets past it. -/
theorem firstFree_idsBelow
    {allocatedIds : List UInt16}
    (noSentinel : 0 ∉ allocatedIds)
    (last : UInt16) :
    firstFree allocatedIds (idsBelow last) = 0 := by
  cases count : last.toNat with
  | zero =>
      simp [idsBelow, count, firstFree]
  | succ predecessor =>
      simp [idsBelow, count, List.range_succ_eq_map, firstFree, noSentinel]

/-- An id is then never reused: the next one is always beyond the counter. -/
theorem chooseId_eq
    {allocatedIds : List UInt16}
    (noSentinel : 0 ∉ allocatedIds)
    (last : UInt16) :
    chooseId allocatedIds last = (last + 1, last + 1) := by
  simp [chooseId, firstFree_idsBelow noSentinel]

end Packetiser

end VDataplane
