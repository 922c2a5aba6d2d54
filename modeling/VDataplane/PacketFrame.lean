import VDataplane.PacketBytes
import VDataplane.Shim
import VDataplane.WireFormat

namespace VDataplane.PacketFrame

open ByteMemory WireFormat

/-!
# The frame in a buffer

The shim reads the memory of a buffer behind the start of its data, as far as
it likes; the frame that was received is the first `data_len` bytes of that.
Where a field lies within the frame, the two agree.
-/

/-- The frame in a buffer: the first `data_len` bytes of its data. -/
def frame (pkt : RteMbuf) : Frame :=
  PacketBytes.data (Mbuf.fromPtr pkt)

@[simp] theorem length_frame (pkt : RteMbuf) :
    (frame pkt).length = pkt.dataLen.toNat :=
  PacketBytes.length_data _

/-- The frame is a window of the memory, at the address that the shim computes. -/
theorem frame_eq_window (pkt : RteMbuf) :
    frame pkt =
      pkt.memory.window (Shim.rtePktmbufMtod pkt) pkt.dataLen.toNat := by
  have sameStart :
      (Mbuf.fromPtr pkt).dataAddress (UInt64.ofNat 0) =
        Shim.rtePktmbufMtod pkt := by
    simp [Mbuf.dataAddress, Mbuf.fromPtr, Shim.rtePktmbufMtod]
  rw [frame, PacketBytes.data, PacketBytes.bytes, sameStart]
  rfl

/-- Data that starts at the same offset starts at the same address. -/
theorem rtePktmbufMtod_congr
    {pkt other : RteMbuf}
    (sameStart : other.dataOff = pkt.dataOff) :
    Shim.rtePktmbufMtod other = Shim.rtePktmbufMtod pkt :=
  congrArg UInt16.toUInt64 sameStart

/-- A field of the frame, as the shim reads it. -/
theorem field_frame
    {pkt : RteMbuf}
    {offset count : Nat}
    (inside : offset + count ≤ pkt.dataLen.toNat) :
    field (frame pkt) offset count =
      pkt.memory.window
        (Shim.rtePktmbufMtod pkt + UInt64.ofNat offset) count := by
  rw [frame_eq_window, field_window inside]

/-- A byte of the frame, as the shim reads it. -/
theorem octet_frame
    {pkt : RteMbuf}
    {offset : Nat}
    (inside : offset < pkt.dataLen.toNat) :
    octet (frame pkt) offset =
      pkt.memory (Shim.rtePktmbufMtod pkt + UInt64.ofNat offset) := by
  rw [frame_eq_window, octet_window inside]

/-- The test for IPv4 that the shim makes on the raw field. -/
def ReadsIpv4 (pkt : RteMbuf) : Prop :=
  Shim.etherType pkt (Shim.rtePktmbufMtod pkt) = 8

instance (pkt : RteMbuf) : Decidable (ReadsIpv4 pkt) :=
  inferInstanceAs (Decidable (_ = _))

/-- The IPv4 header of a packet that passes the test. -/
theorem pktIpv4Hdr_of_reads
    {pkt : RteMbuf}
    (readsIpv4 : ReadsIpv4 pkt) :
    Shim.pktIpv4Hdr pkt =
      some (Shim.rtePktmbufMtod pkt + Shim.sizeofEtherHdr) :=
  if_pos readsIpv4

theorem pktIpv4Hdr_of_not_reads
    {pkt : RteMbuf}
    (notReadsIpv4 : ¬ ReadsIpv4 pkt) :
    Shim.pktIpv4Hdr pkt = none :=
  if_neg notReadsIpv4

/-- The test for ARP that the shim makes. -/
def ReadsArp (pkt : RteMbuf) : Prop :=
  Shim.rteCpuToBe16 (Shim.etherType pkt (Shim.rtePktmbufMtod pkt)) =
    Shim.rteEtherTypeArp

instance (pkt : RteMbuf) : Decidable (ReadsArp pkt) :=
  inferInstanceAs (Decidable (_ = _))

/-- The raw field has the value 8 when the EtherType is that of IPv4. -/
theorem readsIpv4_iff
    {pkt : RteMbuf}
    (inside : 14 ≤ pkt.dataLen.toNat) :
    ReadsIpv4 pkt ↔ etherType (frame pkt) = etherTypeIpv4 := by
  have sameBytes : bytes16 8 = etherTypeIpv4 := by
    decide
  rw [ReadsIpv4, Shim.etherType, load16_eq_iff, etherType,
    field_frame inside, sameBytes]
  rfl

/-- The converted field has the value 0x0806 when the EtherType is that of ARP. -/
theorem readsArp_iff
    {pkt : RteMbuf}
    (inside : 14 ≤ pkt.dataLen.toNat) :
    ReadsArp pkt ↔ etherType (frame pkt) = etherTypeArp := by
  have sameBytes :
      (bytes16 Shim.rteEtherTypeArp).reverse = etherTypeArp := by
    decide
  rw [ReadsArp, Shim.rteCpuToBe16, Shim.etherType, swap16_load16_eq_iff,
    etherType, field_frame inside, sameBytes]
  rfl

end VDataplane.PacketFrame
