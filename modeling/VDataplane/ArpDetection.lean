import VDataplane.PacketFrame
import VDataplane.Server

namespace VDataplane.ArpDetection

open ByteMemory PacketFrame WireFormat

/-!
# The two detectors of ARP requests

`Server::detect_arp` searches the addresses of the interfaces for the target of
an ARP message, and `_pkt_detect_arp` compares the target of an ARP request with
one address.  The first one gives up at the first IPv6 network, and does not look
at the operation of the message.
-/

/-! ## Addresses -/

/-- The address in four bytes of a frame. -/
def addressOf (bytes : List UInt8) : Ipv4Addr where
  a :=
    octet bytes 0
  b :=
    octet bytes 1
  c :=
    octet bytes 2
  d :=
    octet bytes 3

/-- The octets of an address, as they are sent. -/
def octets (ip : Ipv4Addr) : List UInt8 :=
  [ip.a, ip.b, ip.c, ip.d]

/-- An address in host order. -/
def hostOrder (ip : Ipv4Addr) : UInt32 :=
  word32 ip.d ip.c ip.b ip.a

theorem addressOf_octets (ip : Ipv4Addr) :
    addressOf (octets ip) = ip :=
  rfl

theorem octets_addressOf
    {bytes : List UInt8}
    (isAddress : bytes.length = 4) :
    octets (addressOf bytes) = bytes := by
  match bytes, isAddress with
  | [_, _, _, _], _ =>
      rfl

theorem octets_inj {first second : Ipv4Addr} :
    octets first = octets second ↔ first = second := by
  constructor
  · intro sameOctets
    rw [← addressOf_octets first, sameOctets, addressOf_octets]
  · rintro rfl
    rfl

/-- Host order is the reverse of the order on the wire. -/
theorem bytes32_hostOrder (ip : Ipv4Addr) :
    (bytes32 (hostOrder ip)).reverse = octets ip := by
  rw [hostOrder, bytes32_word32]
  rfl

/-! ## What is assumed of `pnet` -/

/-- The accessors of `pnet` read the standard fields, of packets that are long enough. -/
structure ReadsStandardFields (pnet : Pnet) : Prop where
  ethernetNew :
    ∀ bytes,
      (pnet.ethernetNew bytes).isSome ↔ etherHeaderSize ≤ bytes.length
  ethertype :
    ∀ bytes ethPkt,
      pnet.ethernetNew bytes = some ethPkt →
      pnet.getEthertype ethPkt = word16 (octet bytes 13) (octet bytes 12)
  payload :
    ∀ bytes ethPkt,
      pnet.ethernetNew bytes = some ethPkt →
      pnet.payload ethPkt = bytes.drop etherHeaderSize
  arpNew :
    ∀ bytes, (pnet.arpNew bytes).isSome ↔ arpSize ≤ bytes.length
  targetProtoAddr :
    ∀ bytes arp,
      pnet.arpNew bytes = some arp →
      pnet.getTargetProtoAddr arp = addressOf (field bytes 24 4)
  senderProtoAddr :
    ∀ bytes arp,
      pnet.arpNew bytes = some arp →
      pnet.getSenderProtoAddr arp = addressOf (field bytes 14 4)

/-! ## Agreement -/

/-- The networks of all interfaces, in the order in which they are searched. -/
def networks (server : Server) : List IpNetwork :=
  server.interfaces.flatMap NetworkInterface.ips

/-- The networks that stand before the first IPv6 network. -/
def beforeV6 (server : Server) : List IpNetwork :=
  (networks server).takeWhile (· ≠ IpNetwork.v6)

/-- The target of the ARP message in a packet. -/
def target (buf : Mbuf) : Ipv4Addr :=
  addressOf (arpTargetProtocol (frame buf.raw))

/-- The sender of the ARP message in a packet. -/
def sender (buf : Mbuf) : Ipv4Addr :=
  addressOf (arpSenderProtocol (frame buf.raw))

/-- The server finds the local addresses for which the shim detects a request. -/
def DetectorsAgree
    (pnet : Pnet)
    (server : Server)
    (buf : Mbuf) :
    Prop :=
  ∀ localIp remoteIp,
    Server.detectArp pnet server buf = some (localIp, remoteIp) ↔
      IpNetwork.v4 localIp ∈ networks server ∧
        Shim.pktDetectArp buf.raw (hostOrder localIp) = 1 ∧
        remoteIp = sender buf

/-! ## What the shim detects -/

theorem pktDetectArp_eq_one_iff
    (pkt : RteMbuf)
    (localIp : UInt32) :
    Shim.pktDetectArp pkt localIp = 1 ↔
      ReadsArp pkt ∧
        Shim.rteCpuToBe16 (Shim.arpOpcode pkt (Shim.pktArpHdr pkt)) =
          Shim.rteArpOpRequest ∧
        Shim.rteBeToCpu32 (Shim.arpTip pkt (Shim.pktArpHdr pkt)) =
          localIp := by
  simp only [Shim.pktDetectArp, ReadsArp]
  split_ifs <;> simp_all

/-- Of a frame that is long enough, the shim detects the requests for an address. -/
theorem pktDetectArp_iff_request
    {buf : Mbuf}
    (complete : 42 ≤ buf.raw.dataLen.toNat)
    (localIp : Ipv4Addr) :
    Shim.pktDetectArp buf.raw (hostOrder localIp) = 1 ↔
      etherType (frame buf.raw) = etherTypeArp ∧
        arpOperation (frame buf.raw) = arpRequest ∧
        localIp = target buf := by
  have requestBytes :
      (bytes16 Shim.rteArpOpRequest).reverse = arpRequest := by
    decide
  have operation :
      arpOperation (frame buf.raw) =
        buf.raw.memory.window
          (Shim.rtePktmbufMtod buf.raw + (Shim.sizeofEtherHdr + 6)) 2 :=
    field_frame (Nat.le_trans (by decide) complete)
  have protocol :
      arpTargetProtocol (frame buf.raw) =
        buf.raw.memory.window
          (Shim.rtePktmbufMtod buf.raw + (Shim.sizeofEtherHdr + 24)) 4 :=
    field_frame (Nat.le_trans (by decide) complete)
  have isAddress : (arpTargetProtocol (frame buf.raw)).length = 4 := by
    rw [protocol, length_window]
  have isTarget :
      arpTargetProtocol (frame buf.raw) = octets localIp ↔
        localIp = target buf := by
    rw [target, ← octets_inj, octets_addressOf isAddress, eq_comm]
  rw [pktDetectArp_eq_one_iff, readsArp_iff (Nat.le_trans (by decide) complete),
    Shim.rteCpuToBe16, Shim.arpOpcode, swap16_load16_eq_iff, requestBytes,
    Shim.rteBeToCpu32, Shim.arpTip, swap32_load32_eq_iff,
    bytes32_hostOrder, Shim.pktArpHdr, UInt64.add_assoc, UInt64.add_assoc,
    ← operation, ← protocol, isTarget]

/-! ## What the server detects -/

section

variable {pnet : Pnet}

/-- A search that returned does not look at what stands behind. -/
theorem searchNetworks_append
    (ethPkt : pnet.EthernetPacket)
    (first second : List IpNetwork) :
    Server.searchNetworks pnet ethPkt (first ++ second) =
      match Server.searchNetworks pnet ethPkt first with
      | .returned result =>
          .returned result
      | .finished =>
          Server.searchNetworks pnet ethPkt second := by
  induction first with
  | nil =>
      rfl
  | cons network rest inductionHypothesis =>
      cases network with
      | v4 localIp =>
          simp only [List.cons_append, Server.searchNetworks,
            inductionHypothesis]
          cases pnet.arpNew (pnet.payload ethPkt) with
          | none =>
              rfl
          | some arp =>
              by_cases isLocal : pnet.getTargetProtoAddr arp = localIp
              · simp [isLocal]
              · simp [isLocal]
      | v6 =>
          rfl

/-- The nested loops search the networks of all interfaces in order. -/
theorem searchInterfaces_eq
    (ethPkt : pnet.EthernetPacket)
    (interfaces : List NetworkInterface) :
    Server.searchInterfaces pnet ethPkt interfaces =
      Server.searchNetworks pnet ethPkt
        (interfaces.flatMap NetworkInterface.ips) := by
  induction interfaces with
  | nil =>
      rfl
  | cons iface rest inductionHypothesis =>
      cases searched : Server.searchNetworks pnet ethPkt iface.ips with
      | finished =>
          simp only [Server.searchInterfaces, List.flatMap_cons,
            searchNetworks_append, searched, inductionHypothesis]
      | returned result =>
          simp only [Server.searchInterfaces, List.flatMap_cons,
            searchNetworks_append, searched]

/-- A search finds the target when it stands before the first IPv6 network. -/
theorem searchNetworks_eq_returned_iff
    {ethPkt : pnet.EthernetPacket}
    {arp : pnet.ArpPacket}
    (isArp : pnet.arpNew (pnet.payload ethPkt) = some arp)
    (ips : List IpNetwork)
    (localIp remoteIp : Ipv4Addr) :
    Server.searchNetworks pnet ethPkt ips =
        .returned (some (localIp, remoteIp)) ↔
      IpNetwork.v4 localIp ∈ ips.takeWhile (· ≠ IpNetwork.v6) ∧
        localIp = pnet.getTargetProtoAddr arp ∧
        remoteIp = pnet.getSenderProtoAddr arp := by
  induction ips with
  | nil =>
      simp [Server.searchNetworks]
  | cons network rest inductionHypothesis =>
      cases network with
      | v4 address =>
          rw [Server.searchNetworks, isArp]
          by_cases isLocal : pnet.getTargetProtoAddr arp = address
          · simp [isLocal]
            grind
          · simp [isLocal, inductionHypothesis]
            grind
      | v6 =>
          simp [Server.searchNetworks]

/-- What `pnet` makes of a frame that is long enough for an ARP message. -/
structure Views
    (pnet : Pnet)
    (buf : Mbuf)
    (ethPkt : pnet.EthernetPacket)
    (arp : pnet.ArpPacket) :
    Prop where
  ethernetNew :
    pnet.ethernetNew (frame buf.raw) = some ethPkt
  arpNew :
    pnet.arpNew (pnet.payload ethPkt) = some arp
  ethertype :
    pnet.getEthertype ethPkt = Server.etherTypesArp ↔
      etherType (frame buf.raw) = etherTypeArp
  targetProtoAddr :
    pnet.getTargetProtoAddr arp = target buf
  senderProtoAddr :
    pnet.getSenderProtoAddr arp = sender buf

theorem field_drop
    (bytes : List UInt8)
    (skipped offset count : Nat) :
    field (bytes.drop skipped) offset count =
      field bytes (skipped + offset) count := by
  rw [field, field, List.drop_drop]

/-- The EtherType as a number and as two bytes. -/
theorem ethertype_iff
    {frame : Frame}
    (complete : etherHeaderSize ≤ frame.length) :
    word16 (octet frame 13) (octet frame 12) = Server.etherTypesArp ↔
      etherType frame = etherTypeArp := by
  have isField : etherType frame = [octet frame 12, octet frame 13] :=
    field_two complete
  have sameBytes :
      bytes16 Server.etherTypesArp = [0x06, 0x08] := by
    decide
  rw [← bytes16_inj, bytes16_word16, sameBytes, isField, etherTypeArp]
  simp [and_comm]

theorem views_of_standard
    {buf : Mbuf}
    (standard : ReadsStandardFields pnet)
    (complete : 42 ≤ buf.raw.dataLen.toNat) :
    ∃ ethPkt arp, Views pnet buf ethPkt arp := by
  have frameLength : 42 ≤ (frame buf.raw).length := by
    rwa [length_frame]
  have etherComplete : etherHeaderSize ≤ (frame buf.raw).length :=
    Nat.le_trans (by decide) frameLength
  obtain ⟨ethPkt, isEthernet⟩ :=
    Option.isSome_iff_exists.mp
      ((standard.ethernetNew (frame buf.raw)).mpr etherComplete)
  have isPayload := standard.payload _ _ isEthernet
  have arpComplete : arpSize ≤ (pnet.payload ethPkt).length := by
    rw [isPayload, List.length_drop, arpSize, etherHeaderSize]
    omega
  obtain ⟨arp, isArp⟩ :=
    Option.isSome_iff_exists.mp
      ((standard.arpNew (pnet.payload ethPkt)).mpr arpComplete)
  have isEthertype := standard.ethertype _ _ isEthernet
  have isTarget := standard.targetProtoAddr _ _ isArp
  have isSender := standard.senderProtoAddr _ _ isArp
  refine ⟨ethPkt, arp, isEthernet, isArp, ?_, ?_, ?_⟩
  · rw [isEthertype, ethertype_iff etherComplete]
  · rw [isTarget, isPayload, field_drop]
    rfl
  · rw [isSender, isPayload, field_drop]
    rfl

/-- Of a frame that is long enough, the server finds ARP messages for its first addresses. -/
theorem detectArp_eq_some_iff
    {buf : Mbuf}
    (standard : ReadsStandardFields pnet)
    (complete : 42 ≤ buf.raw.dataLen.toNat)
    (server : Server)
    (localIp remoteIp : Ipv4Addr) :
    Server.detectArp pnet server buf = some (localIp, remoteIp) ↔
      etherType (frame buf.raw) = etherTypeArp ∧
        IpNetwork.v4 localIp ∈ beforeV6 server ∧
        localIp = target buf ∧
        remoteIp = sender buf := by
  obtain ⟨ethPkt, arp, views⟩ := views_of_standard standard complete
  have found :=
    searchNetworks_eq_returned_iff views.arpNew (networks server)
      localIp remoteIp
  rw [views.targetProtoAddr, views.senderProtoAddr] at found
  have isFrame :
      buf.getPtr.memory.window (Shim.pktRawAddr buf.getPtr)
          buf.dataLen.toNat =
        frame buf.raw := by
    rw [frame_eq_window, Mbuf.dataLen, UInt16.toNat_toUInt64]
    rfl
  simp only [Server.detectArp, isFrame, views.ethernetNew,
    searchInterfaces_eq]
  by_cases isArp : etherType (frame buf.raw) = etherTypeArp
  · rw [if_pos (views.ethertype.mpr isArp), beforeV6, ← found]
    simp only [isArp, true_and]
    rw [networks]
    cases Server.searchNetworks pnet ethPkt
        (server.interfaces.flatMap NetworkInterface.ips) with
    | finished =>
        simp
    | returned result =>
        simp
  · rw [if_neg (fun isEthertype => isArp (views.ethertype.mp isEthertype))]
    simp [isArp]

end

/-! ## Where they agree -/

/--
The detectors agree exactly if an ARP message, when it is a request for an
address of an interface, asks for one that stands before the first IPv6 network,
and when it is no request, names none of these as its target.
-/
theorem detectorsAgree_iff
    (pnet : Pnet)
    (standard : ReadsStandardFields pnet)
    (server : Server)
    (buf : Mbuf)
    (complete : etherHeaderSize + arpSize ≤ (frame buf.raw).length) :
    DetectorsAgree pnet server buf ↔
      (etherType (frame buf.raw) = etherTypeArp →
        (arpOperation (frame buf.raw) = arpRequest →
          IpNetwork.v4 (target buf) ∈ networks server →
          IpNetwork.v4 (target buf) ∈ beforeV6 server) ∧
        (arpOperation (frame buf.raw) ≠ arpRequest →
          IpNetwork.v4 (target buf) ∉ beforeV6 server)) := by
  have isLong : 42 ≤ buf.raw.dataLen.toNat := by
    simpa [etherHeaderSize, arpSize] using complete
  have amongNetworks :
      ∀ network ∈ beforeV6 server, network ∈ networks server :=
    fun _ isBefore => (List.takeWhile_subset _) isBefore
  simp only [DetectorsAgree, detectArp_eq_some_iff standard isLong,
    pktDetectArp_iff_request isLong]
  constructor
  · intro agree isArp
    have agreeOnTarget := agree (target buf) (sender buf)
    refine ⟨?_, ?_⟩
    · intro isRequest isLocal
      exact (agreeOnTarget.mpr
        ⟨isLocal, ⟨isArp, isRequest, rfl⟩, rfl⟩).2.1
    · intro notRequest isBefore
      exact notRequest
        (agreeOnTarget.mp ⟨isArp, isBefore, rfl, rfl⟩).2.1.2.1
  · intro sameAnswer localIp remoteIp
    constructor
    · rintro ⟨isArp, isBefore, rfl, rfl⟩
      have isRequest : arpOperation (frame buf.raw) = arpRequest := by
        by_contra notRequest
        exact (sameAnswer isArp).2 notRequest isBefore
      exact ⟨amongNetworks _ isBefore, ⟨isArp, isRequest, rfl⟩, rfl⟩
    · rintro ⟨isLocal, ⟨isArp, isRequest, rfl⟩, rfl⟩
      exact ⟨isArp, (sameAnswer isArp).1 isRequest isLocal, rfl, rfl⟩

/-- `pnet` on lists of bytes. -/
def byteViews : Pnet where
  EthernetPacket :=
    List UInt8
  ArpPacket :=
    List UInt8
  ethernetNew bytes :=
    if etherHeaderSize ≤ bytes.length then some bytes else none
  getEthertype ethPkt :=
    word16 (octet ethPkt 13) (octet ethPkt 12)
  payload ethPkt :=
    ethPkt.drop etherHeaderSize
  arpNew bytes :=
    if arpSize ≤ bytes.length then some bytes else none
  getTargetProtoAddr arp :=
    addressOf (field arp 24 4)
  getSenderProtoAddr arp :=
    addressOf (field arp 14 4)

theorem byteViews_standard :
    ReadsStandardFields byteViews := by
  constructor
  · simp [byteViews]
  · simp +contextual [byteViews]
  · simp +contextual [byteViews]
  · simp [byteViews]
  · simp +contextual [byteViews]
  · simp +contextual [byteViews]

/-- An ARP request of 10.0.0.1 for 10.0.0.2. -/
def requestFor : Mbuf :=
  Mbuf.fromPtr {
    address := 0
    pool := 0
    bufLen := 2176
    dataOff := 128
    dataLen := 42
    pktLen := 42
    memory :=
      ByteMemory.store (fun _ => 0) (128 + 12)
        [8, 6, 0, 1, 8, 0, 6, 4, 0, 1, 2, 0, 0, 0, 0, 1, 10, 0, 0, 1,
          0, 0, 0, 0, 0, 0, 10, 0, 0, 2]
  }

/-- A server with one interface, which is on an IPv4 network only. -/
def ipv4Server : Server where
  interfaces :=
    [⟨[.v4 ⟨10, 0, 0, 2⟩]⟩]

/-- A server whose interface is on an IPv6 network first. -/
def ipv6FirstServer : Server where
  interfaces :=
    [⟨[.v6, .v4 ⟨10, 0, 0, 2⟩]⟩]

theorem detectorsAgree_ipv4Server :
    DetectorsAgree byteViews ipv4Server requestFor :=
  (detectorsAgree_iff byteViews byteViews_standard ipv4Server requestFor
    (by decide)).mpr (by decide)

/-- The request for the second network of the interface is not found. -/
theorem not_detectorsAgree_ipv6FirstServer :
    ¬ DetectorsAgree byteViews ipv6FirstServer requestFor := by
  intro agree
  have found := (agree ⟨10, 0, 0, 2⟩ (sender requestFor)).mpr (by decide)
  exact absurd found (by decide)

end VDataplane.ArpDetection
