import VDataplane.Mbuf
import VDataplane.PartialMap

namespace VDataplane

/-!
# Rings, channels and the client map

The wrappers of `apis/memring.rs`.  Every operation takes the DPDK environment
and returns the environment it leaves behind; a method on `&mut Mbuf` returns
the caller's buffer as well.  Destructors are written where the language runs
them: at an early return, at the end of a statement that discards a value and
at the end of a scope that still owns one.
-/

/-- The direction of a ring, named from the client's perspective. -/
inductive RingType where
  | c2e
  | e2c
  deriving Repr, DecidableEq

/-- The prefix of a ring's name. -/
def RingType.label : RingType → String
  | .c2e =>
      "C2E"
  | .e2c =>
      "E2C"

/-- A handle on one `rte_ring`. -/
structure Ring where
  clientId : UInt16
  rtype : RingType
  raw : Address
  deriving Repr, DecidableEq

/-- The pair of rings that connects the engine and one client. -/
structure Channel where
  clientToEngine : Ring
  engineToClient : Ring
  deriving Repr, DecidableEq

/-- The channels of the registered clients. -/
structure RingClientMap where
  ringmap : PartialMap UInt16 Channel

namespace Ring

def ringCapacity : Nat := 512

/-- The name under which a ring is created and looked up. -/
def registeredName
    (rtype : RingType)
    (clientId : UInt16) :
    String :=
  rtype.label ++ "-" ++ toString clientId

/-- `Ring::from_ptr`: a handle on a pointer that is not NULL. -/
def fromPtr
    (clientId : UInt16)
    (rtype : RingType)
    (ptr : Option Address) :
    Except MemoryError Ring :=
  match ptr with
  | some raw =>
      .ok ⟨clientId, rtype, raw⟩
  | none =>
      .error .noBuf

/-- `Ring::new`: create the ring of one direction of a client. -/
def new
    (clientId : UInt16)
    (rtype : RingType)
    (allocation : Dpdk.Allocation)
    (eal : Eal) :
    Except MemoryError Ring × Eal :=
  match toCstring (registeredName rtype clientId) with
  | .error error =>
      (.error error, eal)
  | .ok name =>
      match Dpdk.rteRingCreate name ringCapacity allocation eal with
      | (some raw, created) =>
          (.ok ⟨clientId, rtype, raw⟩, created)
      | (none, failed) =>
          (.error (.new failed.errno), failed)

/-- `Ring::name`. -/
def name (ring : Ring) : String :=
  match ring.rtype with
  | .c2e =>
      "C2E-" ++ toString ring.clientId
  | .e2c =>
      "E2C-" ++ toString ring.clientId

/-- `Ring::lookup`: a handle on a ring that some process created. -/
def lookup
    (rtype : RingType)
    (clientId : UInt16)
    (eal : Eal) :
    Except MemoryError Ring :=
  match toCstring (registeredName rtype clientId) with
  | .error error =>
      .error error
  | .ok name =>
      match Dpdk.rteRingLookup name eal with
      | none =>
          .error .noEntries
      | some raw =>
          fromPtr clientId rtype (some raw)

/-- `Ring::enqueue`: the packet is given up before the result is known. -/
def enqueue
    (ring : Ring)
    (pkt : Mbuf)
    (eal : Eal) :
    Except MemoryError Unit × Eal :=
  match Dpdk.rteRingEnqueue ring.raw pkt.intoPtr eal with
  | (0, enqueued) =>
      (.ok (), enqueued)
  | (_, failed) =>
      (.error (.new failed.errno), failed)

/--
`Ring::dequeue`.

The out-pointer is the address of a temporary that holds a copy of the
caller's pointer.  The library stores the dequeued pointer in that temporary,
which then goes out of scope; the caller's `Mbuf` is not written.
-/
def dequeue
    (ring : Ring)
    (pkt : Mbuf)
    (eal : Eal) :
    Except MemoryError Unit × Mbuf × Eal :=
  match Dpdk.rteRingDequeue ring.raw pkt.getPtr eal with
  | (0, _temporary, dequeued) =>
      (.ok (), pkt, dequeued)
  | (_, _temporary, failed) =>
      (.error (.new failed.errno), pkt, failed)

/--
`Ring::enqueue_bulk`.

The vector is drained into `ptrs` before its length is taken, so the length
passed to the library is that of the drained vector.
-/
def enqueueBulk
    (ring : Ring)
    (pkts : List Mbuf)
    (eal : Eal) :
    Nat × Eal :=
  let ptrs := pkts.map Mbuf.intoPtr
  let drained : List Mbuf := []
  Dpdk.rteRingEnqueueBulk ring.raw ptrs (UInt32.ofNat drained.length) eal

/--
`Ring::dequeue_burst`, once `ptrs` has been created.

The library writes the dequeued pointers into `ptrs`, a copy of the caller's
pointers that goes out of scope; the caller's `Vec<Mbuf>` is not written.
-/
def takeBurst
    (ring : Ring)
    (pkts : List Mbuf)
    (eal : Eal) :
    Nat × List Mbuf × Eal :=
  let ptrs := pkts.map Mbuf.getPtr
  let (count, _ptrs, eal) :=
    Dpdk.rteRingDequeueBurst ring.raw ptrs (UInt32.ofNat ptrs.length) eal
  (count, pkts, eal)

/--
`Ring::dequeue_burst`.

`rx_burst_max` only sizes `ptrs`, which grows where the caller's vector is
longer; `allocated` is the allocator's answer to both requests.
-/
def dequeueBurst
    (ring : Ring)
    (pkts : List Mbuf)
    (rxBurstMax : UInt64)
    (allocated : Bool)
    (eal : Eal) :
    Except Fault (Nat × List Mbuf × Eal) :=
  match ptrsWithCapacity (max rxBurstMax.toNat pkts.length) allocated with
  | .error fault =>
      .error fault
  | .ok () =>
      .ok (ring.takeBurst pkts eal)

/-- `Drop for Ring`: free the ring, whoever created it. -/
def drop
    (ring : Ring)
    (eal : Eal) :
    Eal :=
  Dpdk.rteRingFree ring.raw eal

end Ring

namespace Channel

/-- The ring of one direction. -/
def ring (channel : Channel) : RingType → Ring
  | .c2e =>
      channel.clientToEngine
  | .e2c =>
      channel.engineToClient

/-- `Drop` of a channel drops its fields in declaration order. -/
def drop
    (channel : Channel)
    (eal : Eal) :
    Eal :=
  channel.engineToClient.drop (channel.clientToEngine.drop eal)

/-- `Channel::new`: when the second creation fails, the first ring is dropped. -/
def new
    (clientId : UInt16)
    (e2c c2e : Dpdk.Allocation)
    (eal : Eal) :
    Except MemoryError Channel × Eal :=
  match Ring.new clientId .e2c e2c eal with
  | (.error error, failed) =>
      (.error error, failed)
  | (.ok engineToClient, created) =>
      match Ring.new clientId .c2e c2e created with
      | (.error error, failed) =>
          (.error error, engineToClient.drop failed)
      | (.ok clientToEngine, both) =>
          (.ok ⟨clientToEngine, engineToClient⟩, both)

/-- `Channel::lookup`: when the second lookup fails, the first handle is dropped. -/
def lookup
    (clientId : UInt16)
    (eal : Eal) :
    Except MemoryError Channel × Eal :=
  match Ring.lookup .e2c clientId eal with
  | .error error =>
      (.error error, eal)
  | .ok engineToClient =>
      match Ring.lookup .c2e clientId eal with
      | .error error =>
          (.error error, engineToClient.drop eal)
      | .ok clientToEngine =>
          (.ok ⟨clientToEngine, engineToClient⟩, eal)

/-- `Channel::send_to_engine`. -/
def sendToEngine
    (channel : Channel)
    (pkt : Mbuf)
    (eal : Eal) :
    Except MemoryError Unit × Eal :=
  channel.clientToEngine.enqueue pkt eal

/-- `Channel::receive_from_engine`. -/
def receiveFromEngine
    (channel : Channel)
    (pkt : Mbuf)
    (eal : Eal) :
    Except MemoryError Unit × Mbuf × Eal :=
  channel.engineToClient.dequeue pkt eal

/-- `Channel::send_to_client`. -/
def sendToClient
    (channel : Channel)
    (pkt : Mbuf)
    (eal : Eal) :
    Except MemoryError Unit × Eal :=
  channel.engineToClient.enqueue pkt eal

/-- `Channel::receive_from_client`. -/
def receiveFromClient
    (channel : Channel)
    (pkt : Mbuf)
    (eal : Eal) :
    Except MemoryError Unit × Mbuf × Eal :=
  channel.clientToEngine.dequeue pkt eal

/-- `Channel::send_to_client_bulk`. -/
def sendToClientBulk
    (channel : Channel)
    (pkts : List Mbuf)
    (eal : Eal) :
    Nat × Eal :=
  channel.engineToClient.enqueueBulk pkts eal

/-- `Channel::recv_from_client_bulk`. -/
def recvFromClientBulk
    (channel : Channel)
    (pkts : List Mbuf)
    (rxBurstMax : UInt64)
    (allocated : Bool)
    (eal : Eal) :
    Except Fault (Nat × List Mbuf × Eal) :=
  channel.clientToEngine.dequeueBurst pkts rxBurstMax allocated eal

/-- `Channel::send_to_engine_bulk`. -/
def sendToEngineBulk
    (channel : Channel)
    (pkts : List Mbuf)
    (eal : Eal) :
    Nat × Eal :=
  channel.clientToEngine.enqueueBulk pkts eal

/-- `Channel::recv_from_engine_burst`. -/
def recvFromEngineBurst
    (channel : Channel)
    (pkts : List Mbuf)
    (rxBurstMax : UInt64)
    (allocated : Bool)
    (eal : Eal) :
    Except Fault (Nat × List Mbuf × Eal) :=
  channel.engineToClient.dequeueBurst pkts rxBurstMax allocated eal

end Channel

namespace RingClientMap

/-- `RingClientMap::new`. -/
def new : RingClientMap where
  ringmap :=
    PartialMap.empty

/-- `RingClientMap::add_client`: the channel that `insert` replaces, if any, is dropped. -/
def addClient
    (map : RingClientMap)
    (clientId : UInt16)
    (e2c c2e : Dpdk.Allocation)
    (eal : Eal) :
    Except RingClientMapError Unit × RingClientMap × Eal :=
  match Channel.new clientId e2c c2e eal with
  | (.error error, failed) =>
      (.error (.memoryError error), map, failed)
  | (.ok channel, created) =>
      let inserted : RingClientMap := ⟨map.ringmap.insert clientId channel⟩
      match map.ringmap clientId with
      | none =>
          (.ok (), inserted, created)
      | some replaced =>
          (.ok (), inserted, replaced.drop created)

/-- `RingClientMap::remove_client`: the removed channel, if any, is dropped. -/
def removeClient
    (map : RingClientMap)
    (clientId : UInt16)
    (eal : Eal) :
    RingClientMap × Eal :=
  let erased : RingClientMap := ⟨map.ringmap.erase clientId⟩
  match map.ringmap clientId with
  | none =>
      (erased, eal)
  | some removed =>
      (erased, removed.drop eal)

/-- `RingClientMap::send`: without a channel the packet is dropped with the call's frame. -/
def send
    (map : RingClientMap)
    (key : UInt16)
    (pkt : Mbuf)
    (eal : Eal) :
    Except RingClientMapError Unit × Eal :=
  match map.ringmap key with
  | none =>
      (.error (.clientNotFound key), pkt.drop eal)
  | some channel =>
      match channel.sendToClient pkt eal with
      | (.error error, failed) =>
          (.error (.memoryError error), failed)
      | (.ok (), sent) =>
          (.ok (), sent)

/-- `RingClientMap::receive`. -/
def receive
    (map : RingClientMap)
    (key : UInt16)
    (pkt : Mbuf)
    (eal : Eal) :
    Except RingClientMapError Unit × Mbuf × Eal :=
  match map.ringmap key with
  | none =>
      (.error (.clientNotFound key), pkt, eal)
  | some channel =>
      match channel.receiveFromClient pkt eal with
      | (.error error, caller, failed) =>
          (.error (.memoryError error), caller, failed)
      | (.ok (), caller, received) =>
          (.ok (), caller, received)

/-- `RingClientMap::send_bulk`: without a channel the vector is dropped with the call's frame. -/
def sendBulk
    (map : RingClientMap)
    (key : UInt16)
    (pkts : List Mbuf)
    (eal : Eal) :
    Except RingClientMapError Nat × Eal :=
  match map.ringmap key with
  | none =>
      (.error (.clientNotFound key), Mbuf.dropAll pkts eal)
  | some channel =>
      let (count, eal) := channel.sendToClientBulk pkts eal
      (.ok count, eal)

/-- `RingClientMap::receive_bulk`. -/
def receiveBulk
    (map : RingClientMap)
    (key : UInt16)
    (pkts : List Mbuf)
    (rxBurstMax : UInt64)
    (allocated : Bool)
    (eal : Eal) :
    Except Fault (Except RingClientMapError Nat × List Mbuf × Eal) :=
  match map.ringmap key with
  | none =>
      .ok (.error (.clientNotFound key), pkts, eal)
  | some channel =>
      match channel.recvFromClientBulk pkts rxBurstMax allocated eal with
      | .error fault =>
          .error fault
      | .ok (count, pkts, eal) =>
          .ok (.ok count, pkts, eal)

end RingClientMap

/-! ## Names -/

namespace Ring

private theorem nul_not_mem_toString (clientId : UInt16) :
    Char.ofNat 0 ∉ (toString clientId).toList := by
  intro member
  have digit : (Char.ofNat 0).isDigit = true := by
    refine Nat.isDigit_of_mem_toDigits (b := 10) (by decide) (by decide)
      (n := clientId.toNat) ?_
    rw [← Nat.toList_repr]
    exact member
  exact absurd digit (by decide)

/-- Ring names contain no NUL character, so their conversion never fails. -/
@[simp] theorem toCstring_registeredName
    (rtype : RingType)
    (clientId : UInt16) :
    toCstring (registeredName rtype clientId) =
      .ok (registeredName rtype clientId) := by
  have noNul :
      Char.ofNat 0 ∉ (registeredName rtype clientId).toList := by
    simp only [registeredName, String.toList_append, List.mem_append,
      not_or]
    refine ⟨⟨?_, by decide⟩, nul_not_mem_toString clientId⟩
    cases rtype <;> decide
  simp [toCstring, noNul]

/-- Creation, lookup and `Ring::name` agree on a ring's name. -/
theorem name_eq_registeredName (ring : Ring) :
    ring.name = registeredName ring.rtype ring.clientId := by
  obtain ⟨clientId, rtype, raw⟩ := ring
  cases rtype <;> rfl

private theorem label_inj
    {first second : RingType}
    {firstRest secondRest : String}
    (same :
      first.label ++ firstRest = second.label ++ secondRest) :
    first = second := by
  have sameChars := congrArg String.toList same
  cases first <;> cases second <;>
    simp [RingType.label] at sameChars ⊢

/-- Different directions and different clients have differently named rings. -/
theorem registeredName_inj
    {firstType secondType : RingType}
    {firstId secondId : UInt16} :
    registeredName firstType firstId =
        registeredName secondType secondId ↔
      firstType = secondType ∧ firstId = secondId := by
  constructor
  · intro same
    simp only [registeredName, String.append_assoc] at same
    obtain rfl := label_inj same
    have sameDigits : toString firstId = toString secondId :=
      (String.append_right_inj _).mp ((String.append_right_inj _).mp same)
    exact ⟨rfl, UInt16.toNat_inj.mp (Nat.repr_injective sameDigits)⟩
  · rintro ⟨rfl, rfl⟩
    rfl

end Ring

end VDataplane
