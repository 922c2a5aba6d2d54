import VDataplane.PacketFrame

namespace VDataplane.TransportHeaders

open PacketFrame WireFormat

/-!
# Where the transport headers are found

An IPv4 header is four times as long as its length field says.  The accessors
of the shim assume a header of 20 bytes, and read the EtherType and the protocol
whether or not the frame reaches that far.
-/

/-- The transport protocols with an accessor. -/
inductive Transport where
  | tcp
  | udp
  | icmp
  deriving Repr, DecidableEq

namespace Transport

/-- The number of a protocol. -/
def protocol : Transport → UInt8
  | .tcp =>
      6
  | .udp =>
      17
  | .icmp =>
      1

/-- The size of the header of a protocol, without options. -/
def headerSize : Transport → Nat
  | .tcp =>
      20
  | .udp =>
      8
  | .icmp =>
      8

/-- The accessor of the header of a protocol. -/
def accessor : Transport → RteMbuf → Option UInt64
  | .tcp =>
      Shim.pktTcpHdr
  | .udp =>
      Shim.pktUdpHdr
  | .icmp =>
      Shim.pktIcmpHdr

theorem accessor_eq
    (transport : Transport)
    (pkt : RteMbuf) :
    transport.accessor pkt =
      Shim.pktTransportHdr transport.protocol pkt := by
  cases transport <;> rfl

/-- A frame carries a packet of the protocol. -/
def CarriedBy
    (transport : Transport)
    (frame : Frame) :
    Prop :=
  CarriesIpv4 frame ∧ ipv4Protocol frame = transport.protocol

/-- The header of the protocol, behind the IPv4 header, lies within a frame. -/
def HeaderWithin
    (transport : Transport)
    (frame : Frame) :
    Prop :=
  ipv4PayloadOffset frame + transport.headerSize ≤ frame.length

/-- The tests that an accessor makes on the memory behind the start of the data. -/
def ReadFrom
    (transport : Transport)
    (pkt : RteMbuf) :
    Prop :=
  ReadsIpv4 pkt ∧
    Shim.nextProtoId pkt (Shim.rtePktmbufMtod pkt + Shim.sizeofEtherHdr) =
      transport.protocol

instance
    (transport : Transport)
    (pkt : RteMbuf) :
    Decidable (transport.ReadFrom pkt) :=
  inferInstanceAs (Decidable (_ ∧ _))

end Transport

open Transport

/-- An accessor of a transport header does what its name says. -/
structure Located
    (transport : Transport)
    (pkt : RteMbuf) :
    Prop where
  found :
    transport.CarriedBy (frame pkt) →
    5 ≤ ipv4Ihl (frame pkt) →
    transport.HeaderWithin (frame pkt) →
    transport.accessor pkt =
      some
        (Shim.rtePktmbufMtod pkt +
          UInt64.ofNat (ipv4PayloadOffset (frame pkt)))
  refused :
    ¬ transport.CarriedBy (frame pkt) →
    transport.accessor pkt = none

/-! ## What the accessors compute -/

/-- An accessor that finds its tests met. -/
theorem accessor_of_readFrom
    {transport : Transport}
    {pkt : RteMbuf}
    (readFrom : transport.ReadFrom pkt) :
    transport.accessor pkt =
      some (Shim.rtePktmbufMtod pkt + UInt64.ofNat 34) := by
  obtain ⟨readsIpv4, sameProtocol⟩ := readFrom
  have fixedHeaders :
      Shim.sizeofEtherHdr + Shim.sizeofIpv4Hdr = UInt64.ofNat 34 := by
    decide
  rw [accessor_eq, Shim.pktTransportHdr, pktIpv4Hdr_of_reads readsIpv4]
  simp only [sameProtocol, ne_eq, not_true_eq_false, if_false]
  rw [UInt64.add_assoc, fixedHeaders]

/-- An accessor that finds one of its tests not met. -/
theorem accessor_of_not_readFrom
    {transport : Transport}
    {pkt : RteMbuf}
    (notReadFrom : ¬ transport.ReadFrom pkt) :
    transport.accessor pkt = none := by
  rw [accessor_eq, Shim.pktTransportHdr]
  by_cases readsIpv4 : ReadsIpv4 pkt
  · have otherProtocol :
        Shim.nextProtoId pkt
            (Shim.rtePktmbufMtod pkt + Shim.sizeofEtherHdr) ≠
          transport.protocol :=
      fun sameProtocol => notReadFrom ⟨readsIpv4, sameProtocol⟩
    rw [pktIpv4Hdr_of_reads readsIpv4]
    exact if_pos otherProtocol
  · rw [pktIpv4Hdr_of_not_reads readsIpv4]

/-- The tests of an accessor are met when the frame carries its protocol. -/
theorem readFrom_of_carriedBy
    {transport : Transport}
    {pkt : RteMbuf}
    (carriedBy : transport.CarriedBy (frame pkt)) :
    transport.ReadFrom pkt := by
  obtain ⟨carriesIpv4, sameProtocol⟩ := carriedBy
  have complete : 34 ≤ pkt.dataLen.toNat := by
    simpa [etherHeaderSize, ipv4HeaderSize] using carriesIpv4.complete
  have samePlace :
      Shim.rtePktmbufMtod pkt + Shim.sizeofEtherHdr + 9 =
        Shim.rtePktmbufMtod pkt + UInt64.ofNat 23 := by
    rw [UInt64.add_assoc]
    rfl
  constructor
  · exact (readsIpv4_iff (by omega)).mpr carriesIpv4.etherType
  · rw [Shim.nextProtoId, samePlace, ← octet_frame (by omega)]
    exact sameProtocol

/-- The offsets at which a header may start are different addresses. -/
theorem sameAddress_iff
    (pkt : RteMbuf)
    (frame : Frame) :
    some (Shim.rtePktmbufMtod pkt + UInt64.ofNat 34) =
        some
          (Shim.rtePktmbufMtod pkt +
            UInt64.ofNat (ipv4PayloadOffset frame)) ↔
      ipv4Ihl frame = 5 := by
  have ihlLt := ipv4Ihl_lt frame
  rw [Option.some_inj, UInt64.add_right_inj, ← UInt64.toNat_inj,
    UInt64.toNat_ofNat', UInt64.toNat_ofNat', ipv4PayloadOffset,
    etherHeaderSize]
  omega

/-! ## Where they are right -/

/--
An accessor finds the header of its protocol exactly if the frame really carries
the protocol when the tests are met, and has then no IPv4 options, unless the
header would not lie within the frame.
-/
theorem located_iff_no_options
    (transport : Transport)
    (pkt : RteMbuf) :
    Located transport pkt ↔
      (transport.ReadFrom pkt →
        transport.CarriedBy (frame pkt) ∧
          (transport.HeaderWithin (frame pkt) →
            ipv4Ihl (frame pkt) ≤ 5)) := by
  constructor
  · intro located readFrom
    have isFound := accessor_of_readFrom readFrom
    have carriedBy : transport.CarriedBy (frame pkt) := by
      by_contra notCarried
      rw [located.refused notCarried] at isFound
      exact Option.some_ne_none _ isFound.symm
    refine ⟨carriedBy, ?_⟩
    intro headerWithin
    by_contra hasOptions
    have found := located.found carriedBy (by omega) headerWithin
    rw [isFound, sameAddress_iff] at found
    exact hasOptions found.le
  · intro noOptions
    constructor
    · intro carriedBy ihlGe headerWithin
      have readFrom := readFrom_of_carriedBy carriedBy
      have ihlLe := (noOptions readFrom).2 headerWithin
      rw [accessor_of_readFrom readFrom, sameAddress_iff]
      omega
    · intro notCarried
      apply accessor_of_not_readFrom
      intro readFrom
      exact notCarried (noOptions readFrom).1

/-- A UDP packet with four bytes of IPv4 options. -/
def withOptions : RteMbuf where
  address :=
    0
  pool :=
    0
  bufLen :=
    2176
  dataOff :=
    128
  dataLen :=
    46
  pktLen :=
    46
  memory :=
    ByteMemory.store (fun _ => 0) (128 + 12)
      [0x08, 0x00, 0x46, 0, 0, 32, 0, 0, 0, 0, 64, 17]

/-- Its header is looked for among the options. -/
theorem not_located_withOptions :
    ¬ Located .udp withOptions := by
  have carriedBy : Transport.udp.CarriedBy (frame withOptions) := by
    refine ⟨⟨?_, ?_, ?_⟩, ?_⟩ <;> decide
  intro located
  have found := located.found carriedBy (by decide) (by unfold HeaderWithin; decide)
  exact absurd found (by decide)

end VDataplane.TransportHeaders
