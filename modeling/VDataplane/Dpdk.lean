import VDataplane.BoundedFifo
import VDataplane.ByteMemory
import VDataplane.NamedRegistry

namespace VDataplane

/-!
# The DPDK environment

The state that the wrapped C library keeps and the part of its documented
behaviour that the wrappers rely on.  An `rte_ring` is a bounded FIFO of
pointers, rings, mempools and memzones are registered under names that every
process of the primary's group can look up, and a mempool hands out and takes
back message buffers.

Choices the library makes for itself (the address of a new object, the errno
of a failed creation) are arguments of the operation that makes them.
-/

/-- The address of an object that DPDK allocates in shared memory. -/
abbrev Address :=
  Nat

/-! `errno` values that the wrappers tell apart. -/

namespace Errno

def enoent : Int := 2
def enomem : Int := 12
def eexist : Int := 17
def enodev : Int := 19
def einval : Int := 22
def enospc : Int := 28
def enotsup : Int := 95
def enobufs : Int := 105
def eRteSecondary : Int := 1001
def eRteNoConfig : Int := 1002

end Errno

/--
An `rte_mbuf`.

Pointers to it are owned by exactly one place of a well-behaved program, so
the model moves the buffer itself where the code moves the pointer; `address`
is the pointer's value.  `memory` is the whole address space as seen from
`buf_addr`: index `i` is the byte at `buf_addr + i`.
-/
structure RteMbuf where
  address : Address
  pool : Address
  bufLen : UInt16
  dataOff : UInt16
  dataLen : UInt16
  pktLen : UInt32
  memory : ByteMemory

/-- A buffer as an allocation hands it out: no data behind the default headroom. -/
def RteMbuf.reset
    (pool address : Address)
    (memory : ByteMemory) :
    RteMbuf where
  address :=
    address
  pool :=
    pool
  bufLen :=
    2048 + 128
  dataOff :=
    128
  dataLen :=
    0
  pktLen :=
    0
  memory :=
    memory

/-- `RTE_PKTMBUF_HEADROOM`. -/
def pktmbufHeadroom : UInt16 := 128

/--
A buffer that was freed, as the next allocation hands it out: its length stays,
and its data is empty and starts behind the headroom, as far as that fits.
-/
def RteMbuf.recycled (mbuf : RteMbuf) : RteMbuf :=
  { mbuf with
    dataOff := min pktmbufHeadroom mbuf.bufLen
    dataLen := 0
    pktLen := 0 }

/-- An `rte_ring` of message buffers. -/
abbrev RteRing :=
  BoundedFifo RteMbuf

/-- The state of the environment abstraction layer that the wrappers touch. -/
structure Eal where
  /-- `rte_errno` of the calling thread. -/
  errno : Int
  /-- The tail queue of rings: the ones created and not yet freed. -/
  ringTailq : NamedRegistry String Address
  /-- Ring memory.  It outlives the registration, as a dangling pointer would find it. -/
  rings : Address → RteRing
  /-- The tail queue of mempools. -/
  mempoolTailq : NamedRegistry String Address
  /-- The free buffers of each mempool, the next one to hand out first. -/
  pools : Address → List RteMbuf
  /-- The reserved memzones. -/
  memzones : NamedRegistry String Address

/-- Replace the contents of one ring. -/
def Eal.setRing
    (eal : Eal)
    (address : Address)
    (ring : RteRing) :
    Eal :=
  { eal with rings := Function.update eal.rings address ring }

@[simp] theorem Eal.setRing_rings
    (eal : Eal)
    (address : Address)
    (ring : RteRing) :
    (eal.setRing address ring).rings =
      Function.update eal.rings address ring :=
  rfl

@[simp] theorem Eal.setRing_ringTailq
    (eal : Eal)
    (address : Address)
    (ring : RteRing) :
    (eal.setRing address ring).ringTailq = eal.ringTailq :=
  rfl

@[simp] theorem Eal.setRing_pools
    (eal : Eal)
    (address : Address)
    (ring : RteRing) :
    (eal.setRing address ring).pools = eal.pools :=
  rfl

/-- Replacing a ring by itself changes nothing. -/
@[simp] theorem Eal.setRing_self
    (eal : Eal)
    (address : Address) :
    eal.setRing address (eal.rings address) = eal := by
  simp [Eal.setRing]

/-- Of two replacements of one ring the later one counts. -/
@[simp] theorem Eal.setRing_setRing
    (eal : Eal)
    (address : Address)
    (first second : RteRing) :
    (eal.setRing address first).setRing address second =
      eal.setRing address second := by
  simp [Eal.setRing]

/-- Replace the free buffers of one mempool. -/
def Eal.setPool
    (eal : Eal)
    (mempool : Address)
    (free : List RteMbuf) :
    Eal :=
  { eal with pools := Function.update eal.pools mempool free }

@[simp] theorem Eal.setPool_pools
    (eal : Eal)
    (mempool : Address)
    (free : List RteMbuf) :
    (eal.setPool mempool free).pools =
      Function.update eal.pools mempool free :=
  rfl

@[simp] theorem Eal.setPool_rings
    (eal : Eal)
    (mempool : Address)
    (free : List RteMbuf) :
    (eal.setPool mempool free).rings = eal.rings :=
  rfl

@[simp] theorem Eal.setPool_ringTailq
    (eal : Eal)
    (mempool : Address)
    (free : List RteMbuf) :
    (eal.setPool mempool free).ringTailq = eal.ringTailq :=
  rfl

/-- Replacing the free buffers of a mempool by themselves changes nothing. -/
@[simp] theorem Eal.setPool_self
    (eal : Eal)
    (mempool : Address) :
    eal.setPool mempool (eal.pools mempool) = eal := by
  simp [Eal.setPool]

/-- Of two replacements of one mempool the later one counts. -/
@[simp] theorem Eal.setPool_setPool
    (eal : Eal)
    (mempool : Address)
    (first second : List RteMbuf) :
    (eal.setPool mempool first).setPool mempool second =
      eal.setPool mempool second := by
  simp [Eal.setPool]

/-- The environment in which nothing has been created yet. -/
def Eal.initial : Eal where
  errno :=
    0
  ringTailq :=
    NamedRegistry.empty
  rings _ :=
    BoundedFifo.empty 0
  mempoolTailq :=
    NamedRegistry.empty
  pools _ :=
    []
  memzones :=
    NamedRegistry.empty

namespace Dpdk

/-- The library's answer to a creation: the address of the new object, or an errno. -/
abbrev Allocation :=
  Except Int Address

/--
`rte_ring_create`: NULL when the allocation fails or the name is registered.

A ring of `count` slots can hold `count - 1` entries.  The socket and the
single-producer/single-consumer flags choose memory and code paths, never a
result, and are left out.
-/
def rteRingCreate
    (name : String)
    (count : Nat)
    (allocation : Allocation)
    (eal : Eal) :
    Option Address × Eal :=
  match allocation with
  | .error errno =>
      (none, { eal with errno := errno })
  | .ok address =>
      match eal.ringTailq.register? name address with
      | none =>
          (none, { eal with errno := Errno.eexist })
      | some ringTailq =>
          (some address, {
            eal with
            ringTailq := ringTailq
            rings :=
              Function.update eal.rings address
                (BoundedFifo.empty (count - 1))
          })

/-- `rte_ring_lookup`: the ring registered under a name, or NULL. -/
def rteRingLookup
    (name : String)
    (eal : Eal) :
    Option Address :=
  eal.ringTailq.find? name

/-- `rte_ring_free`: unregister a ring; the pointers stored in it are not touched. -/
def rteRingFree
    (ring : Address)
    (eal : Eal) :
    Eal :=
  { eal with ringTailq := eal.ringTailq.unregister ring }

/-- `rte_ring_enqueue`: 0, or `-ENOBUFS` when the ring is full. -/
def rteRingEnqueue
    (ring : Address)
    (obj : RteMbuf)
    (eal : Eal) :
    Int × Eal :=
  match (eal.rings ring).push? obj with
  | none =>
      (-Errno.enobufs, eal)
  | some pushed =>
      (0, eal.setRing ring pushed)

/--
`rte_ring_dequeue`: 0, or `-ENOENT` when the ring is empty.

`objP` is the pointer held by the cell that `void **obj_p` points at; the
second component of the result is what the cell holds afterwards.
-/
def rteRingDequeue
    (ring : Address)
    (objP : RteMbuf)
    (eal : Eal) :
    Int × RteMbuf × Eal :=
  match (eal.rings ring).pop? with
  | none =>
      (-Errno.enoent, objP, eal)
  | some (oldest, popped) =>
      (0, oldest, eal.setRing ring popped)

/--
`rte_ring_enqueue_bulk`: store the first `n` pointers of a table and return
`n`, or store none of them and return 0.
-/
def rteRingEnqueueBulk
    (ring : Address)
    (objTable : List RteMbuf)
    (n : UInt32)
    (eal : Eal) :
    Nat × Eal :=
  match (eal.rings ring).pushAll? (objTable.take n.toNat) with
  | none =>
      (0, eal)
  | some pushed =>
      (n.toNat, eal.setRing ring pushed)

/--
`rte_ring_dequeue_burst`: take up to `n` pointers from the head of the ring,
write them over the first cells of a table and return their number.

The second component of the result is the table afterwards.
-/
def rteRingDequeueBurst
    (ring : Address)
    (objTable : List RteMbuf)
    (n : UInt32)
    (eal : Eal) :
    Nat × List RteMbuf × Eal :=
  let taken := (eal.rings ring).entries.take n.toNat
  (taken.length,
    taken ++ objTable.drop taken.length,
    eal.setRing ring ((eal.rings ring).drop n.toNat))

/-- `rte_pktmbuf_alloc`: reset and hand out a free buffer of a mempool, or NULL. -/
def rtePktmbufAlloc
    (mempool : Address)
    (eal : Eal) :
    Option RteMbuf × Eal :=
  match eal.pools mempool with
  | [] =>
      (none, eal)
  | mbuf :: free =>
      (some mbuf.recycled, eal.setPool mempool free)

/--
`rte_pktmbuf_alloc_bulk`: reset and hand out `count` free buffers of a mempool
and return 0, or hand out none of them.

The library may also refuse when enough buffers are free, since other cores
cache some of them; `granted` is its choice.
-/
def rtePktmbufAllocBulk
    (mempool : Address)
    (count : UInt32)
    (granted : Bool)
    (eal : Eal) :
    Int × List RteMbuf × Eal :=
  if granted ∧ count.toNat ≤ (eal.pools mempool).length then
    (0, ((eal.pools mempool).take count.toNat).map RteMbuf.recycled,
      eal.setPool mempool ((eal.pools mempool).drop count.toNat))
  else
    (-Errno.enoent, [], eal)

/-- `rte_pktmbuf_free`: put a buffer back into the mempool it belongs to. -/
def rtePktmbufFree
    (mbuf : RteMbuf)
    (eal : Eal) :
    Eal :=
  { eal with
    pools :=
      Function.update eal.pools mbuf.pool (mbuf :: eal.pools mbuf.pool) }

/-- The arguments of one call of `rte_mempool_put_bulk`. -/
structure PutBulk where
  mempool : Address
  objTable : List RteMbuf
  n : UInt32

/-- The objects that the call passes: the first `n` of the table. -/
def PutBulk.objects (call : PutBulk) : List RteMbuf :=
  call.objTable.take call.n.toNat

/-- `rte_mempool_put_bulk`: put objects into a mempool, wherever they came from. -/
def rteMempoolPutBulk
    (call : PutBulk)
    (eal : Eal) :
    Eal :=
  eal.setPool call.mempool
    (call.objects.reverse ++ eal.pools call.mempool)

/--
`rte_eth_tx_burst`: the number of packets that the NIC takes over, and these
packets.  They are the first ones of the table; how many of the `nbPkts`
offered ones it takes is the driver's choice.
-/
def rteEthTxBurst
    (txPkts : List RteMbuf)
    (nbPkts : UInt16)
    (accepts : Nat) :
    Nat × List RteMbuf :=
  let count := min accepts nbPkts.toNat
  (count, txPkts.take count)

/--
The memory in which the library builds a mempool of `n` buffers: the address of
the mempool, and the address and the contents of each buffer.
-/
structure PoolMemory (n : Nat) where
  address : Address
  buffers : List (Address × ByteMemory)
  length_eq : buffers.length = n
  nodup : (buffers.map Prod.fst).Nodup

/-- Blank elements, one behind the other. -/
def PoolMemory.consecutive
    (n : Nat)
    (address first : Address) :
    PoolMemory n where
  address :=
    address
  buffers :=
    (List.range n).map fun index => (first + index, fun _ => 0)
  length_eq := by
    simp
  nodup := by
    rw [List.map_map]
    refine List.Nodup.map ?_ List.nodup_range
    intro firstIndex secondIndex same
    simpa using same

/-- `sizeof(struct rte_mbuf)`. -/
def sizeOfRteMbuf : UInt32 := 128

/--
The buffers as `rte_pktmbuf_init` leaves them.  What an element has room for
behind its `rte_mbuf` is the buffer.
-/
def PoolMemory.mbufs
    {n : Nat}
    (memory : PoolMemory n)
    (eltSize : UInt32) :
    List RteMbuf :=
  memory.buffers.map fun (address, bytes) =>
    { RteMbuf.reset memory.address address bytes with
      bufLen := (eltSize - sizeOfRteMbuf).toUInt16 }

/--
`rte_mempool_create` with `rte_pktmbuf_pool_init` and `rte_pktmbuf_init`: NULL
when the allocation fails or the name is registered.

The cache size, the socket and the flags choose memory and code paths, never a
result, and are left out.
-/
def rteMempoolCreate
    (name : String)
    (n eltSize : UInt32)
    (allocation : Except Int (PoolMemory n.toNat))
    (eal : Eal) :
    Option Address × Eal :=
  match allocation with
  | .error errno =>
      (none, { eal with errno := errno })
  | .ok memory =>
      match eal.mempoolTailq.register? name memory.address with
      | none =>
          (none, { eal with errno := Errno.eexist })
      | some mempoolTailq =>
          (some memory.address, {
            eal with
            mempoolTailq := mempoolTailq
            pools :=
              Function.update eal.pools memory.address
                (memory.mbufs eltSize)
          })

/-- `rte_mempool_lookup`: the mempool registered under a name, or NULL. -/
def rteMempoolLookup
    (name : String)
    (eal : Eal) :
    Option Address :=
  eal.mempoolTailq.find? name

/-- `rte_mempool_free`: unregister a mempool. -/
def rteMempoolFree
    (mempool : Address)
    (eal : Eal) :
    Eal :=
  { eal with mempoolTailq := eal.mempoolTailq.unregister mempool }

/--
`rte_memzone_reserve`: NULL when the allocation fails or the name is reserved.
The length, the socket and the flags are left out.
-/
def rteMemzoneReserve
    (name : String)
    (allocation : Allocation)
    (eal : Eal) :
    Option Address × Eal :=
  match allocation with
  | .error errno =>
      (none, { eal with errno := errno })
  | .ok address =>
      match eal.memzones.register? name address with
      | none =>
          (none, { eal with errno := Errno.eexist })
      | some memzones =>
          (some address, { eal with memzones := memzones })

/-- `rte_memzone_lookup`: the memzone reserved under a name, or NULL. -/
def rteMemzoneLookup
    (name : String)
    (eal : Eal) :
    Option Address :=
  eal.memzones.find? name

/-- `rte_memzone_free`: release a memzone; `-EINVAL` when it is not reserved. -/
def rteMemzoneFree
    (memzone : Address)
    (eal : Eal) :
    Int × Eal :=
  if memzone ∈ eal.memzones.entries.map Prod.snd then
    (0, { eal with memzones := eal.memzones.unregister memzone })
  else
    (-Errno.einval, eal)

/-- A ring creation either changes nothing but `rte_errno` or registers one fresh, empty ring. -/
theorem rteRingCreate_cases
    (name : String)
    (count : Nat)
    (allocation : Allocation)
    (eal : Eal) :
    (∃ errno,
      rteRingCreate name count allocation eal =
        (none, { eal with errno := errno })) ∨
    ∃ address ringTailq,
      allocation = .ok address ∧
        eal.ringTailq.register? name address = some ringTailq ∧
        rteRingCreate name count allocation eal =
          (some address, {
            eal with
            ringTailq := ringTailq
            rings :=
              Function.update eal.rings address
                (BoundedFifo.empty (count - 1))
          }) := by
  cases allocation with
  | error errno =>
      exact Or.inl ⟨errno, rfl⟩
  | ok address =>
      cases registration : eal.ringTailq.register? name address with
      | none =>
          exact Or.inl ⟨Errno.eexist, by
            simp [rteRingCreate, registration]⟩
      | some ringTailq =>
          exact Or.inr ⟨address, ringTailq, rfl, registration, by
            simp [rteRingCreate, registration]⟩

/-- An enqueue fails exactly on a full ring, and then changes nothing. -/
theorem rteRingEnqueue_cases
    (ring : Address)
    (obj : RteMbuf)
    (eal : Eal) :
    ((eal.rings ring).push? obj = none ∧
      rteRingEnqueue ring obj eal = (-Errno.enobufs, eal)) ∨
    ∃ pushed,
      (eal.rings ring).push? obj = some pushed ∧
        rteRingEnqueue ring obj eal = (0, eal.setRing ring pushed) := by
  cases offered : (eal.rings ring).push? obj with
  | none =>
      exact Or.inl ⟨rfl, by simp [rteRingEnqueue, offered]⟩
  | some pushed =>
      exact Or.inr ⟨pushed, rfl, by simp [rteRingEnqueue, offered]⟩

/-- A dequeue fails exactly on an empty ring, and then changes nothing. -/
theorem rteRingDequeue_cases
    (ring : Address)
    (objP : RteMbuf)
    (eal : Eal) :
    ((eal.rings ring).pop? = none ∧
      rteRingDequeue ring objP eal = (-Errno.enoent, objP, eal)) ∨
    ∃ oldest popped,
      (eal.rings ring).pop? = some (oldest, popped) ∧
        rteRingDequeue ring objP eal =
          (0, oldest, eal.setRing ring popped) := by
  cases taken : (eal.rings ring).pop? with
  | none =>
      exact Or.inl ⟨rfl, by simp [rteRingDequeue, taken]⟩
  | some pair =>
      obtain ⟨oldest, popped⟩ := pair
      exact Or.inr ⟨oldest, popped, rfl, by simp [rteRingDequeue, taken]⟩

/-- An allocation fails exactly when no buffer is free, and then changes nothing. -/
theorem rtePktmbufAlloc_cases
    (mempool : Address)
    (eal : Eal) :
    (eal.pools mempool = [] ∧
      rtePktmbufAlloc mempool eal = (none, eal)) ∨
    ∃ mbuf free,
      eal.pools mempool = mbuf :: free ∧
        rtePktmbufAlloc mempool eal =
          (some mbuf.recycled, eal.setPool mempool free) := by
  cases shape : eal.pools mempool with
  | nil =>
      exact Or.inl ⟨rfl, by simp [rtePktmbufAlloc, shape]⟩
  | cons mbuf free =>
      exact Or.inr ⟨mbuf, free, rfl, by simp [rtePktmbufAlloc, shape]⟩

end Dpdk

end VDataplane
