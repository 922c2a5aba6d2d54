import VDataplane.ByteWindow

namespace VDataplane.WireFormat

open ByteMemory

/-!
# Ethernet, IPv4 and ARP on the wire

A frame is the list of its bytes, and a field is a part of it at a fixed place.
Fields of more than one byte are compared as lists of bytes, in the order in
which they are sent, and so need no byte order.
-/

/-- The bytes of a frame, its Ethernet header first. -/
abbrev Frame :=
  List UInt8

/-- The `count` bytes of a frame at a place. -/
def field
    (frame : Frame)
    (offset count : Nat) :
    List UInt8 :=
  (frame.drop offset).take count

/-- The byte of a frame at a place. -/
def octet
    (frame : Frame)
    (offset : Nat) :
    UInt8 :=
  frame.getD offset 0

/-- A field of two bytes. -/
theorem field_two
    {frame : Frame}
    {offset : Nat}
    (inside : offset + 2 ≤ frame.length) :
    field frame offset 2 = [octet frame offset, octet frame (offset + 1)] := by
  have firstInside : offset < frame.length := by
    omega
  have secondInside : offset + 1 < frame.length := by
    omega
  rw [field, octet, octet, List.drop_eq_getElem_cons firstInside,
    List.drop_eq_getElem_cons secondInside,
    List.getD_eq_getElem _ _ firstInside,
    List.getD_eq_getElem _ _ secondInside]
  rfl

/-! ## Ethernet -/

/-- The size of an Ethernet header. -/
def etherHeaderSize : Nat := 14

/-- The destination address of a frame. -/
def etherDestination (frame : Frame) : List UInt8 :=
  field frame 0 6

/-- The source address of a frame. -/
def etherSource (frame : Frame) : List UInt8 :=
  field frame 6 6

/-- The EtherType of a frame. -/
def etherType (frame : Frame) : List UInt8 :=
  field frame 12 2

/-- The EtherType of IPv4, 0x0800. -/
def etherTypeIpv4 : List UInt8 :=
  [0x08, 0x00]

/-- The EtherType of ARP, 0x0806. -/
def etherTypeArp : List UInt8 :=
  [0x08, 0x06]

/-! ## IPv4 -/

/-- The size of an IPv4 header without options. -/
def ipv4HeaderSize : Nat := 20

/-- The version of an IPv4 header. -/
def ipv4Version (frame : Frame) : Nat :=
  (octet frame 14).toNat / 16

/-- The header length field IHL, in words of four bytes. -/
def ipv4Ihl (frame : Frame) : Nat :=
  (octet frame 14).toNat % 16

/-- The protocol that an IPv4 packet carries. -/
def ipv4Protocol (frame : Frame) : UInt8 :=
  octet frame 23

/-- A frame with an IPv4 header. -/
structure CarriesIpv4 (frame : Frame) : Prop where
  complete :
    etherHeaderSize + ipv4HeaderSize ≤ frame.length
  etherType :
    etherType frame = etherTypeIpv4
  version :
    ipv4Version frame = 4

instance (frame : Frame) : Decidable (CarriesIpv4 frame) :=
  decidable_of_iff
    (etherHeaderSize + ipv4HeaderSize ≤ frame.length ∧
      etherType frame = etherTypeIpv4 ∧ ipv4Version frame = 4)
    ⟨fun ⟨complete, etherType, version⟩ => ⟨complete, etherType, version⟩,
      fun carries =>
        ⟨carries.complete, carries.etherType, carries.version⟩⟩

/-- The place of the destination address in a frame with an IPv4 header. -/
def ipv4DestinationOffset : Nat :=
  etherHeaderSize + 16

/-- The first byte behind the IPv4 header and its options. -/
def ipv4PayloadOffset (frame : Frame) : Nat :=
  etherHeaderSize + 4 * ipv4Ihl frame

theorem ipv4Ihl_lt (frame : Frame) :
    ipv4Ihl frame < 16 :=
  Nat.mod_lt _ (by decide)

/-! ## ARP -/

/-- The size of an ARP message that maps IPv4 to Ethernet addresses. -/
def arpSize : Nat := 28

/-- The operation of an ARP message. -/
def arpOperation (frame : Frame) : List UInt8 :=
  field frame 20 2

/-- The sender hardware address. -/
def arpSenderHardware (frame : Frame) : List UInt8 :=
  field frame 22 6

/-- The sender protocol address. -/
def arpSenderProtocol (frame : Frame) : List UInt8 :=
  field frame 28 4

/-- The target hardware address. -/
def arpTargetHardware (frame : Frame) : List UInt8 :=
  field frame 32 6

/-- The target protocol address. -/
def arpTargetProtocol (frame : Frame) : List UInt8 :=
  field frame 38 4

/-- The operation of a request. -/
def arpRequest : List UInt8 :=
  [0, 1]

/-- The operation of a reply. -/
def arpReply : List UInt8 :=
  [0, 2]

/-- A frame with an ARP message that maps IPv4 to Ethernet addresses. -/
structure CarriesArp (frame : Frame) : Prop where
  complete :
    etherHeaderSize + arpSize ≤ frame.length
  etherType :
    etherType frame = etherTypeArp
  hardware :
    field frame 14 2 = [0, 1]
  protocol :
    field frame 16 2 = etherTypeIpv4
  hardwareSize :
    field frame 18 1 = [6]
  protocolSize :
    field frame 19 1 = [4]

/-! ## Frames in memory -/

/-- A field of a frame in memory. -/
theorem field_window
    {memory : ByteMemory}
    {base : UInt64}
    {offset count total : Nat}
    (inside : offset + count ≤ total) :
    field (memory.window base total) offset count =
      memory.window (base + UInt64.ofNat offset) count := by
  have offsetLe : offset ≤ total :=
    (Nat.le_add_right _ _).trans inside
  rw [field, drop_window _ _ offsetLe]
  apply take_window
  omega

/-- A byte of a frame in memory. -/
theorem octet_window
    {memory : ByteMemory}
    {base : UInt64}
    {offset total : Nat}
    (inside : offset < total) :
    octet (memory.window base total) offset =
      memory (base + UInt64.ofNat offset) := by
  have isIndex : offset < (memory.window base total).length := by
    rwa [length_window]
  rw [octet, List.getD_eq_getElem _ _ isIndex]
  simp [window]

end VDataplane.WireFormat
