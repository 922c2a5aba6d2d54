import VDataplane.ByteOrder
import VDataplane.Dpdk

namespace VDataplane.Shim

/-!
# Packet headers in the C shim

`shim.c` finds the headers of a packet, recognises ARP requests and answers
them.  A pointer into a packet is modelled by its index relative to `buf_addr`,
the same index that addresses the packet's memory.  The host is little-endian,
so a 16- or 32-bit field reads its first wire byte as the least significant one.
-/

open ByteMemory

/-- `sizeof(struct rte_ether_hdr)`. -/
def sizeofEtherHdr : UInt64 := 14

/-- `rte_pktmbuf_mtod`: the first byte of the packet data. -/
def rtePktmbufMtod (pkt : RteMbuf) : UInt64 :=
  pkt.dataOff.toUInt64

/-- `_pkt_ether_hdr`: NULL for a NULL packet only. -/
def pktEtherHdr (pkt : Option RteMbuf) : Option UInt64 :=
  match pkt with
  | none =>
      none
  | some pkt =>
      some (rtePktmbufMtod pkt)

/-- The `ether_type` field of an Ethernet header of a packet. -/
def etherType
    (pkt : RteMbuf)
    (etherHdr : UInt64) :
    UInt16 :=
  pkt.memory.load16 (etherHdr + 12)

/--
`_pkt_ipv4_hdr` of a packet that is not NULL: what follows the Ethernet header
when the raw `ether_type` field reads 8, and NULL otherwise.
-/
def pktIpv4Hdr (pkt : RteMbuf) : Option UInt64 :=
  let ethHdr := rtePktmbufMtod pkt
  let ipv4 := ethHdr + sizeofEtherHdr
  if etherType pkt ethHdr = 8 then
    some ipv4
  else
    none

/-! ## Transport headers -/

/-- `sizeof(struct rte_ipv4_hdr)`: a header without options. -/
def sizeofIpv4Hdr : UInt64 := 20

/-- `IP_PROTOCOL_ICMP`. -/
def ipProtocolIcmp : UInt8 := 1

/-- `IP_PROTOCOL_TCP`. -/
def ipProtocolTcp : UInt8 := 6

/-- `IP_PROTOCOL_UDP`. -/
def ipProtocolUdp : UInt8 := 17

/-- The `next_proto_id` field of an IPv4 header of a packet. -/
def nextProtoId
    (pkt : RteMbuf)
    (ipv4 : UInt64) :
    UInt8 :=
  pkt.memory (ipv4 + 9)

/--
The accessor of the transport header of one protocol: what follows an IPv4
header of 20 bytes, and NULL for packets that are not IPv4 or carry another
protocol.
-/
def pktTransportHdr
    (protocol : UInt8)
    (pkt : RteMbuf) :
    Option UInt64 :=
  match pktIpv4Hdr pkt with
  | none =>
      none
  | some ipv4 =>
      if nextProtoId pkt ipv4 ≠ protocol then
        none
      else
        some (rtePktmbufMtod pkt + sizeofEtherHdr + sizeofIpv4Hdr)

/-- `_pkt_tcp_hdr`. -/
def pktTcpHdr (pkt : RteMbuf) : Option UInt64 :=
  pktTransportHdr ipProtocolTcp pkt

/-- `_pkt_udp_hdr`. -/
def pktUdpHdr (pkt : RteMbuf) : Option UInt64 :=
  pktTransportHdr ipProtocolUdp pkt

/-- `_pkt_icmp_hdr`. -/
def pktIcmpHdr (pkt : RteMbuf) : Option UInt64 :=
  pktTransportHdr ipProtocolIcmp pkt

/-! ## ARP -/

/-- `sizeof(struct rte_arp_hdr)`. -/
def sizeofArpHdr : UInt64 := 28

/-- `RTE_ETHER_TYPE_IPV4`. -/
def rteEtherTypeIpv4 : UInt16 := 0x0800

/-- `RTE_ETHER_TYPE_ARP`. -/
def rteEtherTypeArp : UInt16 := 0x0806

/-- `RTE_ETHER_ADDR_LEN`. -/
def rteEtherAddrLen : UInt8 := 6

/-- `RTE_ARP_HRD_ETHER`. -/
def rteArpHrdEther : UInt16 := 1

/-- `RTE_ARP_OP_REQUEST`. -/
def rteArpOpRequest : UInt16 := 1

/-- `RTE_ARP_OP_REPLY`. -/
def rteArpOpReply : UInt16 := 2

/-- `rte_cpu_to_be_16`. -/
def rteCpuToBe16 (x : UInt16) : UInt16 :=
  swap16 x

/-- `rte_be_to_cpu_32`. -/
def rteBeToCpu32 (x : UInt32) : UInt32 :=
  swap32 x

/-- `_pkt_raw_addr`. -/
def pktRawAddr (pkt : RteMbuf) : UInt64 :=
  rtePktmbufMtod pkt

/-- `_pkt_arp_hdr`: what follows the Ethernet header, whatever it is. -/
def pktArpHdr (pkt : RteMbuf) : UInt64 :=
  rtePktmbufMtod pkt + sizeofEtherHdr

/-- The `arp_opcode` field of an ARP header of a packet. -/
def arpOpcode
    (pkt : RteMbuf)
    (arpHdr : UInt64) :
    UInt16 :=
  pkt.memory.load16 (arpHdr + 6)

/-- The `arp_data.arp_sip` field. -/
def arpSip
    (pkt : RteMbuf)
    (arpHdr : UInt64) :
    UInt32 :=
  pkt.memory.load32 (arpHdr + 14)

/-- The `arp_data.arp_tip` field. -/
def arpTip
    (pkt : RteMbuf)
    (arpHdr : UInt64) :
    UInt32 :=
  pkt.memory.load32 (arpHdr + 24)

/-- `_pkt_detect_arp`: 1 for an ARP request for the address, and 0 otherwise. -/
def pktDetectArp
    (pkt : RteMbuf)
    (localIp : UInt32) :
    Int :=
  let etherHdr := rtePktmbufMtod pkt
  if rteCpuToBe16 (etherType pkt etherHdr) = rteEtherTypeArp then
    let arpHdr := pktArpHdr pkt
    if rteCpuToBe16 (arpOpcode pkt arpHdr) = rteArpOpRequest then
      if rteBeToCpu32 (arpTip pkt arpHdr) = localIp then
        1
      else
        0
    else
      0
  else
    0

/-- Store bytes into the memory of a packet. -/
def write
    (pkt : RteMbuf)
    (address : UInt64)
    (bytes : List UInt8) :
    RteMbuf :=
  { pkt with memory := pkt.memory.store address bytes }

/--
The assignments of `_pkt_arp_response` to the buffer it allocated, in order.
`tha` and `frm` are the six bytes at the pointers of these names.
-/
def fillArpResponse
    (outPkt : RteMbuf)
    (tha frm : List UInt8)
    (sip tip : UInt32) :
    RteMbuf :=
  let pktSize := sizeofEtherHdr + sizeofArpHdr
  let outPkt :=
    { outPkt with
      dataLen := pktSize.toUInt16
      pktLen := pktSize.toUInt32 }
  let ethHdr := rtePktmbufMtod outPkt
  let outPkt := write outPkt (ethHdr + 6) frm
  let outPkt :=
    write outPkt (ethHdr + 12) (bytes16 (rteCpuToBe16 rteEtherTypeArp))
  let outPkt := write outPkt (ethHdr + 0) tha
  let outArpHdr := pktArpHdr outPkt
  let outPkt :=
    write outPkt (outArpHdr + 0) (bytes16 (rteCpuToBe16 rteArpHrdEther))
  let outPkt :=
    write outPkt (outArpHdr + 2) (bytes16 (rteCpuToBe16 rteEtherTypeIpv4))
  let outPkt := write outPkt (outArpHdr + 4) [rteEtherAddrLen]
  let outPkt := write outPkt (outArpHdr + 5) [4]
  let outPkt :=
    write outPkt (outArpHdr + 6) (bytes16 (rteCpuToBe16 rteArpOpReply))
  let outPkt := write outPkt (outArpHdr + 8) frm
  let outPkt := write outPkt (outArpHdr + 14) (bytes32 sip)
  let outPkt := write outPkt (outArpHdr + 18) tha
  write outPkt (outArpHdr + 24) (bytes32 tip)

/-- `_pkt_arp_response`: a reply from the mempool, or NULL. -/
def pktArpResponse
    (pkt : RteMbuf)
    (mp : Address)
    (eal : Eal) :
    Option RteMbuf × Eal :=
  let etherHdr := rtePktmbufMtod pkt
  if rteCpuToBe16 (etherType pkt etherHdr) ≠ rteEtherTypeArp then
    (none, eal)
  else
    let arpHdr := pktArpHdr pkt
    if rteCpuToBe16 (arpOpcode pkt arpHdr) ≠ rteArpOpRequest then
      (none, eal)
    else
      -- The two pointers are named after what they are copied to.
      let tha := pkt.memory.window (etherHdr + 0) 6
      let frm := pkt.memory.window (etherHdr + 6) 6
      let tip := arpSip pkt arpHdr
      let sip := arpTip pkt arpHdr
      match Dpdk.rtePktmbufAlloc mp eal with
      | (none, eal) =>
          (none, eal)
      | (some outPkt, eal) =>
          (some (fillArpResponse outPkt tha frm sip tip), eal)

end VDataplane.Shim
