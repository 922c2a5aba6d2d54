import VDataplane.Pools
import VDataplane.SliceAccess

namespace VDataplane.FromBytes

open MbufInvariant PacketBytes SliceAccess

/-!
# Packets made from bytes

A packet is made in three steps: a buffer is allocated, extended and written.
Each step has a check of its own, and where one fails the buffer is dropped on
the way out.
-/

/-- A buffer as an allocation hands it out is well formed. -/
theorem wellFormed_recycled (mbuf : RteMbuf) :
    WellFormed ⟨mbuf.recycled⟩ where
  inside := by
    have dataOffLe : min pktmbufHeadroom mbuf.bufLen ≤ mbuf.bufLen := by
      show (if pktmbufHeadroom ≤ mbuf.bufLen then
          pktmbufHeadroom
        else
          mbuf.bufLen) ≤ mbuf.bufLen
      split
      · next behindHeadroom =>
          exact behindHeadroom
      · exact UInt16.le_refl _
    exact UInt16.le_iff_toNat_le.mp dataOffLe
  lengths :=
    rfl

section Steps

variable
  {pkt : Mbuf}
  {data : ByteSlice}

/-- An extension at the start is refused for no bytes, and for more than the tailroom. -/
theorem extend_refused
    (refused :
      ¬ (1 ≤ data.bytes.length ∧
        data.bytes.length ≤ pkt.tailroom.toNat)) :
    pkt.extend 0 data.len = (.error .notResized, pkt) := by
  have check :
      data.len ≤ 0 ∨ pkt.dataLen < 0 ∨ pkt.tailroom < data.len := by
    simp only [UInt64.le_iff_toNat_le, UInt64.lt_iff_toNat_lt,
      ByteSlice.toNat_len, UInt64.toNat_zero]
    omega
  rw [Mbuf.extend, if_pos check]

/-- An extension stays in its buffer. -/
theorem address_extend {offset len : UInt64} :
    (pkt.extend offset len).2.raw.address = pkt.raw.address := by
  rw [Mbuf.extend]
  split
  · rfl
  · rfl

/-- A write over all of the data succeeds. -/
theorem write_all
    (positive : 1 ≤ data.bytes.length)
    (sameLength : pkt.raw.dataLen.toNat = data.bytes.length) :
    (stored pkt 0 data.toSlice).readDataSlice 1 0 data.len =
        .ok ⟨pkt.dataAddress 0, data.len⟩ ∧
      pkt.writeDataSlice 0 data.toSlice =
        (.ok ⟨pkt.dataAddress 0, data.len⟩, stored pkt 0 data.toSlice) := by
  have noWrap :
      (0 : UInt64).toNat + data.toSlice.bytes.length < 2 ^ 64 := by
    have bounded := data.toSlice.bounded
    rw [UInt64.toNat_zero]
    omega
  have inside :
      (0 : UInt64).toNat + data.toSlice.bytes.length ≤
        pkt.raw.dataLen.toNat := by
    rw [UInt64.toNat_zero, Nat.zero_add]
    exact sameLength.ge
  have before : (0 : UInt64).toNat < pkt.raw.dataLen.toNat := by
    rw [UInt64.toNat_zero, sameLength]
    exact positive
  have readBack :=
    (readBack_ok_iff noWrap).mpr ⟨rfl, before, inside⟩
  refine ⟨readBack, ?_⟩
  rw [writeDataSlice_of_inside noWrap inside, readBack]
  rfl

end Steps

/-- A packet whose data is a list of bytes, as its lengths and a read of it say. -/
structure Holds
    (pkt : Mbuf)
    (data : ByteSlice) :
    Prop where
  dataLen :
    pkt.raw.dataLen.toNat = data.bytes.length
  pktLen :
    pkt.raw.pktLen.toNat = data.bytes.length
  readBack :
    ∃ slice,
      pkt.readDataSlice 1 0 data.len = .ok slice ∧
        slice.count = data.len ∧
        pkt.raw.memory.window slice.address data.bytes.length = data.bytes

section Outcomes

variable
  {data : ByteSlice}
  {mp : Mempool}
  {eal : Eal}
  {mbuf : RteMbuf}
  {free : List RteMbuf}

/-- Bytes that fit the buffer at the head of the mempool become a packet in that buffer. -/
theorem fromBytes_of_fits
    (shape : eal.pools mp.raw = mbuf :: free)
    (positive : 1 ≤ data.bytes.length)
    (fits :
      data.bytes.length ≤ (Mbuf.mk mbuf.recycled).tailroom.toNat) :
    ∃ pkt,
      Mbuf.fromBytes data mp eal = (.ok pkt, eal.setPool mp.raw free) ∧
        pkt.raw.address = mbuf.address ∧
        Holds pkt data := by
  have atStart :
      (0 : UInt64).toNat ≤ (Mbuf.mk mbuf.recycled).raw.dataLen.toNat :=
    Nat.zero_le _
  rw [← ByteSlice.toNat_len] at positive fits
  obtain ⟨extended, isExtended, opened⟩ :=
    extend_opens (wellFormed_recycled mbuf) atStart positive fits
  rw [ByteSlice.toNat_len] at positive
  have sameLength :
      extended.raw.dataLen.toNat = data.bytes.length := by
    rw [opened.dataLen, ByteSlice.toNat_len]
    exact Nat.zero_add _
  obtain ⟨readBack, isWritten⟩ := write_all positive sameLength
  have sameAddress : extended.raw.address = mbuf.address := by
    have kept :
        ((Mbuf.mk mbuf.recycled).extend 0 data.len).2.raw.address =
          mbuf.address :=
      address_extend
    rw [isExtended] at kept
    exact kept
  refine ⟨stored extended 0 data.toSlice, ?_, sameAddress, sameLength, ?_, _,
    readBack, rfl, window_stored⟩
  · rcases Mbuf.new_cases mp eal with
      ⟨noneFree, _⟩ | ⟨_, _, sameShape, created⟩
    · rw [noneFree] at shape
      cases shape
    · rw [sameShape] at shape
      cases shape
      simp [Mbuf.fromBytes, created, isExtended, isWritten]
  · exact opened.wellFormed.lengths.trans sameLength

/-- Bytes that do not fit are refused, and the buffer is dropped. -/
theorem fromBytes_of_refused
    (shape : eal.pools mp.raw = mbuf :: free)
    (refused :
      ¬ (1 ≤ data.bytes.length ∧
        data.bytes.length ≤ (Mbuf.mk mbuf.recycled).tailroom.toNat)) :
    Mbuf.fromBytes data mp eal =
      (.error (.bufError .notResized),
        (Mbuf.mk mbuf.recycled).drop (eal.setPool mp.raw free)) := by
  rcases Mbuf.new_cases mp eal with
    ⟨noneFree, _⟩ | ⟨_, _, sameShape, created⟩
  · rw [noneFree] at shape
    cases shape
  · rw [sameShape] at shape
    cases shape
    simp [Mbuf.fromBytes, created, extend_refused refused]

/-- Dropping a buffer just allocated puts it back where it was. -/
theorem addresses_drop_recycled
    (homed : mbuf.pool = mp.raw)
    (shape : eal.pools mp.raw = mbuf :: free)
    (mempool : Address) :
    (((Mbuf.mk mbuf.recycled).drop (eal.setPool mp.raw free)).pools
        mempool).map RteMbuf.address =
      (eal.pools mempool).map RteMbuf.address := by
  have samePool : mbuf.recycled.pool = mp.raw :=
    homed
  have sameAddress : mbuf.recycled.address = mbuf.address :=
    rfl
  by_cases same : mempool = mp.raw
  · subst same
    simp [Mbuf.drop, Dpdk.rtePktmbufFree, samePool, sameAddress, shape]
  · simp [Mbuf.drop, Dpdk.rtePktmbufFree, samePool, same]

end Outcomes

/--
What making a packet from bytes promises: when a buffer is free it succeeds
exactly for the lengths that fit, the packet holds the bytes, the mempool keeps
its other buffers, and a failure leaves every mempool with the buffers it had.
-/
structure RoundTrips
    (data : ByteSlice)
    (mp : Mempool)
    (before : Eal) :
    Prop where
  accepts :
    ∀ mbuf free,
      before.pools mp.raw = mbuf :: free →
      ((∃ pkt, (Mbuf.fromBytes data mp before).1 = .ok pkt) ↔
        1 ≤ data.bytes.length ∧
          data.bytes.length ≤ (Mbuf.mk mbuf.recycled).tailroom.toNat)
  holds :
    ∀ pkt,
      (Mbuf.fromBytes data mp before).1 = .ok pkt →
      Holds pkt data
  takesOne :
    ∀ mbuf free,
      before.pools mp.raw = mbuf :: free →
      ∀ pkt,
        (Mbuf.fromBytes data mp before).1 = .ok pkt →
        pkt.raw.address = mbuf.address ∧
          (Mbuf.fromBytes data mp before).2 = before.setPool mp.raw free
  noLeak :
    ∀ error,
      (Mbuf.fromBytes data mp before).1 = .error error →
      ∀ mempool,
        ((Mbuf.fromBytes data mp before).2.pools mempool).map
            RteMbuf.address =
          (before.pools mempool).map RteMbuf.address

section RoundTrips

variable
  {data : ByteSlice}
  {mp : Mempool}
  {eal after : Eal}

/-- A packet that fits and holds the bytes round-trips. -/
theorem roundTrips_of_ok
    {mbuf : RteMbuf}
    {free : List RteMbuf}
    (shape : eal.pools mp.raw = mbuf :: free)
    (fits :
      1 ≤ data.bytes.length ∧
        data.bytes.length ≤ (Mbuf.mk mbuf.recycled).tailroom.toNat)
    {pkt : Mbuf}
    (outcome :
      Mbuf.fromBytes data mp eal = (.ok pkt, eal.setPool mp.raw free))
    (sameAddress : pkt.raw.address = mbuf.address)
    (isHeld : Holds pkt data) :
    RoundTrips data mp eal := by
  refine ⟨?_, ?_, ?_, ?_⟩
  · intro other rest sameShape
    rw [shape] at sameShape
    cases sameShape
    rw [outcome]
    exact iff_of_true ⟨pkt, rfl⟩ fits
  · intro _ isOk
    rw [outcome] at isOk
    cases isOk
    exact isHeld
  · intro other rest sameShape _ isOk
    rw [shape] at sameShape
    cases sameShape
    rw [outcome] at isOk ⊢
    cases isOk
    exact ⟨sameAddress, rfl⟩
  · intro _ isError
    rw [outcome] at isError
    cases isError

/-- A failure round-trips when no free buffer fits the bytes and every buffer stays where it was. -/
theorem roundTrips_of_error
    (refused :
      ∀ mbuf free,
        eal.pools mp.raw = mbuf :: free →
        ¬ (1 ≤ data.bytes.length ∧
          data.bytes.length ≤ (Mbuf.mk mbuf.recycled).tailroom.toNat))
    {error : BoxedError}
    (outcome : Mbuf.fromBytes data mp eal = (.error error, after))
    (sameBuffers :
      ∀ mempool,
        (after.pools mempool).map RteMbuf.address =
          (eal.pools mempool).map RteMbuf.address) :
    RoundTrips data mp eal := by
  refine ⟨?_, ?_, ?_, ?_⟩
  · intro mbuf free shape
    rw [outcome]
    refine iff_of_false ?_ (refused mbuf free shape)
    rintro ⟨_, isOk⟩
    cases isOk
  · intro _ isOk
    rw [outcome] at isOk
    cases isOk
  · intro _ _ _ _ isOk
    rw [outcome] at isOk
    cases isOk
  · intro _ _
    rw [outcome]
    exact sameBuffers

end RoundTrips

/--
For every mempool that holds its own buffers, whatever they contain, and for
every sequence of bytes, making a packet round-trips and never leaks.
-/
theorem fromBytes_roundTrips
    {mp : Mempool}
    {eal : Eal}
    (homed : ∀ mbuf ∈ eal.pools mp.raw, mbuf.pool = mp.raw)
    (data : ByteSlice) :
    RoundTrips data mp eal := by
  rcases Mbuf.new_cases mp eal with
    ⟨noneFree, failed⟩ | ⟨mbuf, free, shape, _⟩
  · have outcome :
        Mbuf.fromBytes data mp eal =
          (.error (.memoryError .noBuf), eal) := by
      simp [Mbuf.fromBytes, failed]
    apply roundTrips_of_error ?_ outcome fun _ => rfl
    intro mbuf free shape
    rw [noneFree] at shape
    cases shape
  · by_cases fits :
        1 ≤ data.bytes.length ∧
          data.bytes.length ≤ (Mbuf.mk mbuf.recycled).tailroom.toNat
    · obtain ⟨pkt, outcome, sameAddress, isHeld⟩ :=
        fromBytes_of_fits shape fits.1 fits.2
      exact roundTrips_of_ok shape fits outcome sameAddress isHeld
    · have isHomed : mbuf.pool = mp.raw := by
        apply homed
        rw [shape]
        exact List.mem_cons_self
      apply roundTrips_of_error ?_ (fromBytes_of_refused shape fits)
        (addresses_drop_recycled isHomed shape)
      intro other rest sameShape
      rw [shape] at sameShape
      cases sameShape
      exact fits

/-- An environment with one free buffer, whose memory holds other bytes. -/
def oneFree : Eal :=
  Eal.initial.setPool 1 [RteMbuf.reset 1 100 fun _ => 0xFF]

/-- Three bytes. -/
def threeBytes : ByteSlice where
  bytes :=
    [1, 2, 3]
  bounded := by
    decide

/-- Three bytes become a packet, and no bytes give the buffer back. -/
theorem roundTrips_oneFree :
    RoundTrips threeBytes ⟨1⟩ oneFree ∧
      RoundTrips ⟨[], by decide⟩ ⟨1⟩ oneFree := by
  have homed : ∀ mbuf ∈ oneFree.pools (Mempool.mk 1).raw, mbuf.pool = 1 := by
    intro mbuf member
    simp only [oneFree, Eal.setPool_pools, Function.update_self,
      List.mem_singleton] at member
    rw [member]
    rfl
  exact ⟨fromBytes_roundTrips homed threeBytes,
    fromBytes_roundTrips homed ⟨[], by decide⟩⟩

end VDataplane.FromBytes
