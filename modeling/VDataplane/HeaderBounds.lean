import VDataplane.MemoryReads
import VDataplane.TransportHeaders

namespace VDataplane.HeaderBounds

open PacketFrame
open TransportHeaders (Transport)

/-!
# How far the header accessors reach

None of the accessors looks at `data_len`.  What they read before they decide is
given by writing them as computations on memory; these compute what the
accessors compute.
-/

/-- The headers with an accessor. -/
inductive Header where
  | ether
  | ipv4
  | arp
  | transport (transport : Transport)
  deriving Repr, DecidableEq

/-- `_pkt_ipv4_hdr`, as a computation: it reads the EtherType. -/
def readIpv4Hdr (start : UInt64) : MemoryReads (Option UInt64) :=
  (MemoryReads.load16 (start + 12)).bind fun etherType =>
    .done (if etherType = 8 then some (start + Shim.sizeofEtherHdr) else none)

/-- The accessor of a transport header: it also reads the protocol of an IPv4 packet. -/
def readTransportHdr
    (protocol : UInt8)
    (start : UInt64) :
    MemoryReads (Option UInt64) :=
  (readIpv4Hdr start).bind fun ipv4Hdr =>
    match ipv4Hdr with
    | none =>
        .done none
    | some ipv4 =>
        (MemoryReads.load8 (ipv4 + 9)).bind fun nextProtoId =>
          .done
            (if nextProtoId ≠ protocol then
              none
            else
              some (start + Shim.sizeofEtherHdr + Shim.sizeofIpv4Hdr))

namespace Header

/-- The accessor of a header. -/
def accessor : Header → RteMbuf → Option UInt64
  | .ether, pkt =>
      Shim.pktEtherHdr (some pkt)
  | .ipv4, pkt =>
      Shim.pktIpv4Hdr pkt
  | .arp, pkt =>
      some (Shim.pktArpHdr pkt)
  | .transport carried, pkt =>
      carried.accessor pkt

/-- The size of the structure that a pointer to a header denotes. -/
def size : Header → Nat
  | .ether =>
      14
  | .ipv4 =>
      20
  | .arp =>
      28
  | .transport carried =>
      carried.headerSize

/-- The accessor of a header as a computation, given where the data starts. -/
def reads : Header → UInt64 → MemoryReads (Option UInt64)
  | .ether, start =>
      .done (some start)
  | .ipv4, start =>
      readIpv4Hdr start
  | .arp, start =>
      .done (some (start + Shim.sizeofEtherHdr))
  | .transport carried, start =>
      readTransportHdr carried.protocol start

end Header

/-- An address lies in the data of a packet, and so do the bytes up to `count` behind it. -/
def Within
    (pkt : RteMbuf)
    (address : UInt64)
    (count : Nat) :
    Prop :=
  (address - Shim.rtePktmbufMtod pkt).toNat + count ≤ pkt.dataLen.toNat

/-- An accessor neither points nor looks outside the data of a packet. -/
structure StaysInside
    (header : Header)
    (pkt : RteMbuf) :
    Prop where
  pointed :
    ∀ address,
      header.accessor pkt = some address →
      Within pkt address header.size
  read :
    ∀ address ∈
      (header.reads (Shim.rtePktmbufMtod pkt)).touched pkt.memory,
      Within pkt address 1

/-! ## The computations are the accessors -/

theorem run_readIpv4Hdr (pkt : RteMbuf) :
    (readIpv4Hdr (Shim.rtePktmbufMtod pkt)).run pkt.memory =
      Shim.pktIpv4Hdr pkt :=
  rfl

theorem run_readTransportHdr
    (protocol : UInt8)
    (pkt : RteMbuf) :
    (readTransportHdr protocol (Shim.rtePktmbufMtod pkt)).run pkt.memory =
      Shim.pktTransportHdr protocol pkt := by
  rw [readTransportHdr, MemoryReads.run_bind, run_readIpv4Hdr,
    Shim.pktTransportHdr]
  cases Shim.pktIpv4Hdr pkt with
  | none =>
      rfl
  | some ipv4 =>
      rfl

/-- The computation of a header yields what its accessor returns. -/
theorem run_reads
    (header : Header)
    (pkt : RteMbuf) :
    (header.reads (Shim.rtePktmbufMtod pkt)).run pkt.memory =
      header.accessor pkt := by
  cases header with
  | ether =>
      rfl
  | ipv4 =>
      exact run_readIpv4Hdr pkt
  | arp =>
      rfl
  | transport transport =>
      rw [Header.reads, run_readTransportHdr, Header.accessor,
        transport.accessor_eq]

/-! ## What they read -/

theorem touched_readIpv4Hdr
    (start : UInt64)
    (memory : ByteMemory) :
    (readIpv4Hdr start).touched memory = [start + 12, start + 12 + 1] := by
  simp [readIpv4Hdr]

/-- The protocol is read of packets that are taken for IPv4. -/
theorem touched_readTransportHdr
    (protocol : UInt8)
    (pkt : RteMbuf) :
    (readTransportHdr protocol (Shim.rtePktmbufMtod pkt)).touched pkt.memory =
      [Shim.rtePktmbufMtod pkt + 12, Shim.rtePktmbufMtod pkt + 12 + 1] ++
        if ReadsIpv4 pkt then
          [Shim.rtePktmbufMtod pkt + Shim.sizeofEtherHdr + 9]
        else
          [] := by
  rw [readTransportHdr, MemoryReads.touched_bind, touched_readIpv4Hdr,
    run_readIpv4Hdr, Shim.pktIpv4Hdr]
  by_cases readsIpv4 : ReadsIpv4 pkt
  · have isIpv4 : Shim.etherType pkt (Shim.rtePktmbufMtod pkt) = 8 :=
      readsIpv4
    simp [readsIpv4, isIpv4]
  · have isOther : Shim.etherType pkt (Shim.rtePktmbufMtod pkt) ≠ 8 :=
      readsIpv4
    simp [readsIpv4, isOther]

/-- Where a place behind the start of the data lies within it. -/
theorem within_add_iff
    (pkt : RteMbuf)
    (offset : UInt64)
    (count : Nat) :
    Within pkt (Shim.rtePktmbufMtod pkt + offset) count ↔
      offset.toNat + count ≤ pkt.dataLen.toNat := by
  have distance :
      Shim.rtePktmbufMtod pkt + offset - Shim.rtePktmbufMtod pkt =
        offset := by
    grind
  rw [Within, distance]

/-! ## How far they reach -/

/-- The length that the accessor of a header takes for granted. -/
def reach (header : Header) (pkt : RteMbuf) : Nat :=
  match header with
  | .ether =>
      14
  | .ipv4 =>
      if ReadsIpv4 pkt then 34 else 14
  | .arp =>
      42
  | .transport transport =>
      if transport.ReadFrom pkt then
        34 + transport.headerSize
      else if ReadsIpv4 pkt then
        24
      else
        14

/-- The EtherType is read within the frame when it has an Ethernet header. -/
theorem etherType_within_iff (pkt : RteMbuf) :
    (∀ address ∈
        [Shim.rtePktmbufMtod pkt + 12, Shim.rtePktmbufMtod pkt + 12 + 1],
      Within pkt address 1) ↔
      14 ≤ pkt.dataLen.toNat := by
  simp only [List.forall_mem_cons, UInt64.add_assoc, within_add_iff]
  simp
  omega

/-- The protocol is read within the frame when it reaches that far. -/
theorem protocol_within_iff (pkt : RteMbuf) :
    (∀ address ∈
        if ReadsIpv4 pkt then
          [Shim.rtePktmbufMtod pkt + Shim.sizeofEtherHdr + 9]
        else
          [],
      Within pkt address 1) ↔
      (ReadsIpv4 pkt → 24 ≤ pkt.dataLen.toNat) := by
  by_cases readsIpv4 : ReadsIpv4 pkt
  · simp only [readsIpv4, if_true, List.forall_mem_cons, UInt64.add_assoc,
      within_add_iff, true_implies]
    simp [Shim.sizeofEtherHdr]
  · simp [readsIpv4]

/-- Where a header that starts at a fixed place ends within the frame. -/
theorem pointed_iff
    {result : Option UInt64}
    {pkt : RteMbuf}
    {offset : UInt64}
    (isFound : result = some (Shim.rtePktmbufMtod pkt + offset))
    (size : Nat) :
    (∀ address, result = some address → Within pkt address size) ↔
      offset.toNat + size ≤ pkt.dataLen.toNat := by
  rw [← within_add_iff, isFound]
  constructor
  · intro pointed
    exact pointed _ rfl
  · rintro within _ ⟨rfl⟩
    exact within

/-- NULL points at nothing. -/
theorem pointed_of_eq_none
    {result : Option UInt64}
    (isNull : result = none)
    (pkt : RteMbuf)
    (size : Nat) :
    ∀ address, result = some address → Within pkt address size := by
  rintro address isFound
  rw [isNull] at isFound
  exact absurd isFound (Option.some_ne_none address).symm

theorem staysInside_iff
    (header : Header)
    (pkt : RteMbuf) :
    StaysInside header pkt ↔
      (∀ address,
        header.accessor pkt = some address →
        Within pkt address header.size) ∧
      (∀ address ∈
        (header.reads (Shim.rtePktmbufMtod pkt)).touched pkt.memory,
        Within pkt address 1) :=
  ⟨fun ⟨pointed, read⟩ => ⟨pointed, read⟩,
    fun ⟨pointed, read⟩ => ⟨pointed, read⟩⟩

/-- An accessor that decides without reading stays inside when its header does. -/
theorem staysInside_of_no_read
    {header : Header}
    {pkt : RteMbuf}
    {offset : UInt64}
    (isFound :
      header.accessor pkt = some (Shim.rtePktmbufMtod pkt + offset))
    (noRead :
      (header.reads (Shim.rtePktmbufMtod pkt)).touched pkt.memory = []) :
    StaysInside header pkt ↔
      offset.toNat + header.size ≤ pkt.dataLen.toNat := by
  rw [staysInside_iff, pointed_iff isFound, noRead]
  simp

theorem staysInside_ipv4_iff (pkt : RteMbuf) :
    StaysInside .ipv4 pkt ↔
      (if ReadsIpv4 pkt then 34 else 14) ≤ pkt.dataLen.toNat := by
  rw [staysInside_iff, Header.reads, touched_readIpv4Hdr,
    etherType_within_iff]
  by_cases readsIpv4 : ReadsIpv4 pkt
  · have isFound :
        Header.accessor .ipv4 pkt =
          some (Shim.rtePktmbufMtod pkt + Shim.sizeofEtherHdr) :=
      pktIpv4Hdr_of_reads readsIpv4
    rw [pointed_iff isFound, if_pos readsIpv4]
    simp only [Shim.sizeofEtherHdr, UInt64.reduceToNat, Header.size]
    omega
  · have isNull : Header.accessor .ipv4 pkt = none :=
      pktIpv4Hdr_of_not_reads readsIpv4
    rw [if_neg readsIpv4]
    exact and_iff_right (pointed_of_eq_none isNull _ _)

theorem staysInside_transport_iff
    (transport : Transport)
    (pkt : RteMbuf) :
    StaysInside (.transport transport) pkt ↔
      (if transport.ReadFrom pkt then
        34 + transport.headerSize
      else if ReadsIpv4 pkt then
        24
      else
        14) ≤ pkt.dataLen.toNat := by
  rw [staysInside_iff, Header.reads, touched_readTransportHdr,
    List.forall_mem_append, etherType_within_iff, protocol_within_iff]
  by_cases readFrom : transport.ReadFrom pkt
  · have isFound :
        Header.accessor (.transport transport) pkt =
          some (Shim.rtePktmbufMtod pkt + UInt64.ofNat 34) :=
      TransportHeaders.accessor_of_readFrom readFrom
    rw [pointed_iff isFound, if_pos readFrom]
    simp only [UInt64.reduceOfNat, UInt64.reduceToNat, Header.size]
    omega
  · have isNull : Header.accessor (.transport transport) pkt = none :=
      TransportHeaders.accessor_of_not_readFrom readFrom
    rw [if_neg readFrom, and_iff_right (pointed_of_eq_none isNull _ _)]
    split
    · rename_i readsIpv4
      simp only [readsIpv4, true_implies]
      omega
    · rename_i notReadsIpv4
      simp [notReadsIpv4]

/-! ## Where they are safe -/

/-- An accessor stays inside the data exactly if the data is as long as it takes for granted. -/
theorem staysInside_iff_reach_le
    (header : Header)
    (pkt : RteMbuf) :
    StaysInside header pkt ↔ reach header pkt ≤ pkt.dataLen.toNat := by
  cases header with
  | ether =>
      have isFound :
          Header.accessor .ether pkt =
            some (Shim.rtePktmbufMtod pkt + 0) := by
        rw [UInt64.add_zero]
        rfl
      exact staysInside_of_no_read isFound rfl
  | ipv4 =>
      exact staysInside_ipv4_iff pkt
  | arp =>
      have isFound :
          Header.accessor .arp pkt =
            some (Shim.rtePktmbufMtod pkt + Shim.sizeofEtherHdr) :=
        rfl
      exact staysInside_of_no_read isFound rfl
  | transport transport =>
      exact staysInside_transport_iff transport pkt

/-- Behind the data are the bytes of a frame that the buffer held before. -/
def recycledBuffer : RteMbuf where
  address :=
    0
  pool :=
    0
  bufLen :=
    2176
  dataOff :=
    128
  dataLen :=
    1
  pktLen :=
    1
  memory :=
    ByteMemory.store (fun _ => 0) (128 + 12) [0x08, 0x00, 0x45]

/-- A frame of one byte is taken for an IPv4 packet. -/
theorem not_staysInside_recycledBuffer :
    ¬ StaysInside .ipv4 recycledBuffer := by
  intro staysInside
  have isFound :
      Header.accessor .ipv4 recycledBuffer = some 142 := by
    decide
  have within := staysInside.pointed 142 isFound
  unfold Within at within
  exact absurd within (by decide)

/-! ## What safety would give -/

/-- A packet with the same frame at the same place has the same byte within the data. -/
theorem memory_eq_of_within
    {pkt other : RteMbuf}
    {address : UInt64}
    (sameStart : other.dataOff = pkt.dataOff)
    (sameFrame : frame other = frame pkt)
    (within : Within pkt address 1) :
    pkt.memory address = other.memory address := by
  have sameLength : other.dataLen.toNat = pkt.dataLen.toNat := by
    rw [← length_frame, sameFrame, length_frame]
  have isPlace :
      Shim.rtePktmbufMtod pkt +
          UInt64.ofNat (address - Shim.rtePktmbufMtod pkt).toNat =
        address := by
    rw [UInt64.ofNat_toNat]
    grind
  calc
    pkt.memory address
        = WireFormat.octet (frame pkt)
            (address - Shim.rtePktmbufMtod pkt).toNat := by
          rw [octet_frame within, isPlace]
    _ = WireFormat.octet (frame other)
            (address - Shim.rtePktmbufMtod pkt).toNat := by
          rw [sameFrame]
    _ = other.memory address := by
          rw [octet_frame (sameLength ▸ within),
            rtePktmbufMtod_congr sameStart, isPlace]

/-- An accessor that stays inside decides by the frame, whatever the buffer held before. -/
theorem accessor_eq_of_sameFrame
    {header : Header}
    {pkt other : RteMbuf}
    (staysInside : StaysInside header pkt)
    (sameStart : other.dataOff = pkt.dataOff)
    (sameFrame : frame other = frame pkt) :
    header.accessor pkt = header.accessor other := by
  rw [← run_reads header pkt, ← run_reads header other,
    rtePktmbufMtod_congr sameStart]
  apply MemoryReads.run_congr
  intro address touched
  exact memory_eq_of_within sameStart sameFrame
    (staysInside.read address touched)

end VDataplane.HeaderBounds
