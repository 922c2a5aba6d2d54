import VDataplane.Ipv4Hdr

namespace VDataplane

/-!
# The ARP server

The part of `server.rs` that recognises an ARP request, and its conversion of
addresses.  Packets are taken apart by the packet library `pnet`, which is not
part of the repository and is a parameter here.
-/

/-- What the server uses of `pnet`: views of bytes as packets, and their fields. -/
structure Pnet where
  EthernetPacket : Type
  ArpPacket : Type
  /-- `EthernetPacket::new`. -/
  ethernetNew : List UInt8 → Option EthernetPacket
  /-- `EthernetPacket::get_ethertype`. -/
  getEthertype : EthernetPacket → UInt16
  /-- `Packet::payload`. -/
  payload : EthernetPacket → List UInt8
  /-- `ArpPacket::new`. -/
  arpNew : List UInt8 → Option ArpPacket
  /-- `ArpPacket::get_target_proto_addr`. -/
  getTargetProtoAddr : ArpPacket → Ipv4Addr
  /-- `ArpPacket::get_sender_proto_addr`. -/
  getSenderProtoAddr : ArpPacket → Ipv4Addr

/-- `IpNetwork`: a network that an interface is on, and its address there. -/
inductive IpNetwork where
  | v4 (ip : Ipv4Addr)
  | v6
  deriving Repr, DecidableEq

/-- `NetworkInterface`. -/
structure NetworkInterface where
  ips : List IpNetwork

/-- `Server`. -/
structure Server where
  interfaces : List NetworkInterface

namespace Server

/-- `Server::ipaddr_to_u32`: the second octet also takes the place of the fourth. -/
def ipaddrToU32 (ip : Ipv4Addr) : UInt32 :=
  (ip.a &&& 0xFF).toUInt32 <<< 24 |||
    (ip.b &&& 0xFF).toUInt32 <<< 16 |||
    (ip.c &&& 0xFF).toUInt32 <<< 8 |||
    (ip.b &&& 0xFF).toUInt32

/-- `EtherTypes::Arp`. -/
def etherTypesArp : UInt16 := 0x0806

/-- How a loop whose body may return from the function ends. -/
inductive LoopEnd (α : Type) where
  | finished
  | returned (result : α)
  deriving Repr, DecidableEq

section

variable (pnet : Pnet)

/-- The inner loop of `detect_arp`, over the networks of one interface. -/
def searchNetworks (ethPkt : pnet.EthernetPacket) :
    List IpNetwork → LoopEnd (Option (Ipv4Addr × Ipv4Addr))
  | [] =>
      .finished
  | .v4 localIp :: rest =>
      match pnet.arpNew (pnet.payload ethPkt) with
      | none =>
          .returned none
      | some arp =>
          if pnet.getTargetProtoAddr arp = localIp then
            .returned (some (localIp, pnet.getSenderProtoAddr arp))
          else
            searchNetworks ethPkt rest
  | .v6 :: _ =>
      .returned none

/-- The outer loop of `detect_arp`, over the interfaces. -/
def searchInterfaces (ethPkt : pnet.EthernetPacket) :
    List NetworkInterface → LoopEnd (Option (Ipv4Addr × Ipv4Addr))
  | [] =>
      .finished
  | iface :: rest =>
      match searchNetworks pnet ethPkt iface.ips with
      | .returned result =>
          .returned result
      | .finished =>
          searchInterfaces ethPkt rest

/-- `Server::detect_arp`: the local and the remote address of an ARP request. -/
def detectArp
    (server : Server)
    (buf : Mbuf) :
    Option (Ipv4Addr × Ipv4Addr) :=
  let pkt := Shim.pktRawAddr buf.getPtr
  let len := buf.dataLen
  match pnet.ethernetNew (buf.getPtr.memory.window pkt len.toNat) with
  | some ethPkt =>
      if pnet.getEthertype ethPkt = etherTypesArp then
        match searchInterfaces pnet ethPkt server.interfaces with
        | .returned result =>
            result
        | .finished =>
            none
      else
        none
  | none =>
      none

end

end Server

end VDataplane
