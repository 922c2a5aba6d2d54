import VDataplane.Memory

namespace VDataplane

/-!
# Message buffers

The `Mbuf` wrapper of `apis/mbuf.rs`.  A wrapper owns its `rte_mbuf`; methods
that take `&mut self` return the buffer they leave behind.  `usize` is 64 bits
wide and, as in a release build, unsigned arithmetic wraps silently.
-/

/-- The owner of one `rte_mbuf`. -/
structure Mbuf where
  raw : RteMbuf

/--
A `&[T]`: `count` elements of `size` bytes each.

No object of the language is larger than `isize::MAX` bytes.
-/
structure Slice where
  size : UInt64
  count : UInt64
  bytes : List UInt8
  occupied : bytes.length = size.toNat * count.toNat
  bounded : bytes.length < 2 ^ 63

/-- A `NonNull<[T]>`: where the first element is, and how many there are. -/
structure SlicePtr where
  address : UInt64
  count : UInt64
  deriving Repr, DecidableEq

/-- A `&[u8]`. -/
structure ByteSlice where
  bytes : List UInt8
  bounded : bytes.length < 2 ^ 63

namespace ByteSlice

/-- `len` of a slice of bytes. -/
def len (data : ByteSlice) : UInt64 :=
  UInt64.ofNat data.bytes.length

/-- The length of a slice fits a `usize`. -/
@[simp] theorem toNat_len (data : ByteSlice) :
    data.len.toNat = data.bytes.length := by
  have bounded := data.bounded
  rw [len, UInt64.toNat_ofNat']
  exact Nat.mod_eq_of_lt (bounded.trans (by decide))

/-- Bytes as elements of size 1. -/
def toSlice (data : ByteSlice) : Slice where
  size :=
    1
  count :=
    data.len
  bytes :=
    data.bytes
  occupied := by
    simp
  bounded :=
    data.bounded

end ByteSlice

namespace Mbuf

/-- `Mbuf::new`: a buffer allocated from a mempool. -/
def new
    (mp : Mempool)
    (eal : Eal) :
    Except MemoryError Mbuf × Eal :=
  match Dpdk.rtePktmbufAlloc mp.raw eal with
  | (some raw, eal) =>
      (.ok ⟨raw⟩, eal)
  | (none, eal) =>
      (.error .noBuf, eal)

/-- `Mbuf::get_ptr`: the pointer, while the wrapper keeps the buffer. -/
def getPtr (pkt : Mbuf) : RteMbuf :=
  pkt.raw

/-- `Mbuf::into_ptr`: the pointer; the wrapper is forgotten without being dropped. -/
def intoPtr (pkt : Mbuf) : RteMbuf :=
  pkt.raw

/-- `Mbuf::from_ptr`: a wrapper that takes the buffer over. -/
def fromPtr (ptr : RteMbuf) : Mbuf where
  raw :=
    ptr

/-- `Drop for Mbuf`: give the buffer back to its mempool. -/
def drop
    (pkt : Mbuf)
    (eal : Eal) :
    Eal :=
  Dpdk.rtePktmbufFree pkt.raw eal

/-- `Drop` of the buffers of a vector, in order. -/
def dropAll
    (pkts : List Mbuf)
    (eal : Eal) :
    Eal :=
  pkts.foldl (fun eal pkt => pkt.drop eal) eal

/--
The loop with which a receiver creates up to `count` buffers: it stops at the
first allocation that fails.  The receivers that `truncate` their vector behind
a failure do so to the number of buffers pushed, which leaves it as it is.
-/
def createUpTo (mp : Mempool) :
    Nat → List Mbuf → Eal → List Mbuf × Eal
  | 0, pkts, eal =>
      (pkts, eal)
  | count + 1, pkts, eal =>
      match Mbuf.new mp eal with
      | (.ok buf, eal) =>
          createUpTo mp count (pkts ++ [buf]) eal
      | (.error _, eal) =>
          (pkts, eal)

/--
The loop of `mbuf_free_bulk`, as the calls of `rte_mempool_put_bulk` that it
makes.  `pool` is the one of the first buffer throughout: a change of pool
flushes `toFree` without updating it.
-/
def freeLoop (pool : Address) :
    List RteMbuf → List RteMbuf → List Dpdk.PutBulk
  | [], toFree =>
      [⟨pool, toFree, UInt32.ofNat toFree.length⟩]
  | mbuf :: mbufs, toFree =>
      if pool = mbuf.pool then
        freeLoop pool mbufs (toFree ++ [mbuf])
      else
        ⟨pool, toFree, UInt32.ofNat toFree.length⟩ ::
          freeLoop pool mbufs [mbuf]

/-- `Mbuf::mbuf_free_bulk`, as the calls that it makes. -/
def mbufFreeBulk (mbufs : List RteMbuf) : List Dpdk.PutBulk :=
  match mbufs with
  | [] =>
      []
  | first :: _ =>
      freeLoop first.pool mbufs []

/-- Execute a sequence of calls of `rte_mempool_put_bulk`. -/
def putBulks
    (calls : List Dpdk.PutBulk)
    (eal : Eal) :
    Eal :=
  calls.foldl (fun eal call => Dpdk.rteMempoolPutBulk call eal) eal

/-- `Mbuf::free_bulk`. -/
def freeBulk
    (mbufs : List Mbuf)
    (eal : Eal) :
    Eal :=
  let ptrs := mbufs.map intoPtr
  putBulks (mbufFreeBulk ptrs) eal

/-- `Mbuf::data_len`. -/
def dataLen (pkt : Mbuf) : UInt64 :=
  pkt.raw.dataLen.toUInt64

/-- `Mbuf::data_address`: the offset is added as a signed number, that is, modulo 2^64. -/
def dataAddress
    (pkt : Mbuf)
    (offset : UInt64) :
    UInt64 :=
  pkt.raw.dataOff.toUInt64 + offset

/-- `Mbuf::tailroom`: computed in 16 bits. -/
def tailroom (pkt : Mbuf) : UInt64 :=
  (pkt.raw.bufLen - pkt.raw.dataOff - pkt.raw.dataLen).toUInt64

/-- `Mbuf::extend`: make room for `len` bytes at `offset`. -/
def extend
    (pkt : Mbuf)
    (offset len : UInt64) :
    Except BufError Unit × Mbuf :=
  if len ≤ 0 ∨ pkt.dataLen < offset ∨ pkt.tailroom < len then
    (.error .notResized, pkt)
  else
    let toCopy := pkt.dataLen - offset
    let memory :=
      if 0 < toCopy then
        pkt.raw.memory.copy
          (pkt.dataAddress offset) (pkt.dataAddress (offset + len)) toCopy
      else
        pkt.raw.memory
    (.ok (), {
      raw := {
        pkt.raw with
        memory := memory
        dataLen := pkt.raw.dataLen + len.toUInt16
        pktLen := pkt.raw.pktLen + len.toUInt32
      }
    })

/-- `Mbuf::shrink`: remove the `len` bytes at `offset`; the sum in the check wraps. -/
def shrink
    (pkt : Mbuf)
    (offset len : UInt64) :
    Except BufError Unit × Mbuf :=
  if len ≤ 0 ∨ pkt.dataLen < offset + len then
    (.error .notResized, pkt)
  else
    let toCopy := pkt.dataLen - offset - len
    let memory :=
      if 0 < toCopy then
        pkt.raw.memory.copy
          (pkt.dataAddress (offset + len)) (pkt.dataAddress offset) toCopy
      else
        pkt.raw.memory
    (.ok (), {
      raw := {
        pkt.raw with
        memory := memory
        dataLen := pkt.raw.dataLen - len.toUInt16
        pktLen := pkt.raw.pktLen - len.toUInt32
      }
    })

/-- `Mbuf::resize`: shrink for a negative length, extend otherwise. -/
def resize
    (pkt : Mbuf)
    (offset : UInt64)
    (len : Int64) :
    Except BufError Unit × Mbuf :=
  if len < 0 then
    pkt.shrink offset (-len).toUInt64
  else
    pkt.extend offset len.toUInt64

/-- `Mbuf::truncate`: cut the data down to `toLen` bytes. -/
def truncate
    (pkt : Mbuf)
    (toLen : UInt64) :
    Except BufError Unit × Mbuf :=
  if pkt.dataLen ≤ toLen then
    (.error .notResized, pkt)
  else
    (.ok (), {
      raw := {
        pkt.raw with
        dataLen := toLen.toUInt16
        pktLen := toLen.toUInt32
      }
    })

/-- `Mbuf::read_data`: the address of an element of `size` bytes; the sum in the check wraps. -/
def readData
    (pkt : Mbuf)
    (size offset : UInt64) :
    Except BufError UInt64 :=
  if pkt.dataLen ≤ offset then
    .error (.badOffset offset pkt.dataLen)
  else if pkt.dataLen < offset + size then
    .error (.outOfBuffer size (pkt.dataLen - offset))
  else
    .ok (pkt.dataAddress offset)

/-- `Mbuf::read_data_slice`: `count` elements of `size` bytes. -/
def readDataSlice
    (pkt : Mbuf)
    (size offset count : UInt64) :
    Except BufError SlicePtr :=
  if pkt.dataLen ≤ offset then
    .error (.badOffset offset pkt.dataLen)
  else if pkt.dataLen - offset < offset + size * count then
    .error (.outOfBuffer (size * count) (pkt.dataLen - offset))
  else
    .ok ⟨pkt.dataAddress offset, count⟩

/-- `Mbuf::write_data_slice`: the write happens before the result is decided by a read. -/
def writeDataSlice
    (pkt : Mbuf)
    (offset : UInt64)
    (slice : Slice) :
    Except BufError SlicePtr × Mbuf :=
  if pkt.dataLen < offset + slice.size * slice.count then
    (.error
      (.outOfBuffer (slice.size * slice.count) (pkt.dataLen - offset)),
      pkt)
  else
    let written : Mbuf := {
      raw := {
        pkt.raw with
        memory :=
          pkt.raw.memory.store (pkt.dataAddress offset) slice.bytes
      }
    }
    (written.readDataSlice slice.size offset slice.count, written)

/-- `Mbuf::from_bytes`: where a `?` leaves the function, the buffer is dropped. -/
def fromBytes
    (data : ByteSlice)
    (mp : Mempool)
    (eal : Eal) :
    Except BoxedError Mbuf × Eal :=
  match Mbuf.new mp eal with
  | (.error error, eal) =>
      (.error (.memoryError error), eal)
  | (.ok mbuf, eal) =>
      match mbuf.extend 0 data.len with
      | (.error error, mbuf) =>
          (.error (.bufError error), mbuf.drop eal)
      | (.ok (), mbuf) =>
          match mbuf.writeDataSlice 0 data.toSlice with
          | (.error error, mbuf) =>
              (.error (.bufError error), mbuf.drop eal)
          | (.ok _, mbuf) =>
              (.ok mbuf, eal)

/--
`Mbuf::alloc_bulk`.

`len` is cast to 32 bits for the library, and the vector of pointers is then
declared to be `len` long; `none` is a wrapper around a pointer that nobody has
written.
-/
def allocBulk
    (len : UInt64)
    (mp : Mempool)
    (allocated granted : Bool)
    (eal : Eal) :
    Except Fault (Except MemoryError (List (Option Mbuf)) × Eal) :=
  match ptrsWithCapacity len.toNat allocated with
  | .error fault =>
      .error fault
  | .ok () =>
      match Dpdk.rtePktmbufAllocBulk mp.raw len.toUInt32 granted eal with
      | (0, filled, eal) =>
          let uninitialised := len.toNat - filled.length
          .ok (.ok (filled.map (fun ptr => some (fromPtr ptr)) ++
            List.replicate uninitialised none), eal)
      | (_, _, eal) =>
          .ok (.error .noBuf, eal)

end Mbuf

/--
`apis::mbuf_free_bulk`, the twin of `Mbuf::mbuf_free_bulk`: the loop is the
same, but the list is asserted not to be empty.
-/
def Apis.mbufFreeBulk
    (mbufs : List RteMbuf) :
    Except Fault (List Dpdk.PutBulk) :=
  match mbufs with
  | [] =>
      .error .panicked
  | first :: _ =>
      .ok (Mbuf.freeLoop first.pool mbufs [])

end VDataplane
