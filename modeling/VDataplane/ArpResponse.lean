import VDataplane.PacketFrame

namespace VDataplane.ArpResponse

open ByteMemory PacketFrame WireFormat

/-!
# To whom an ARP response is addressed

The reply to an ARP request goes back to the machine that asked.
`_pkt_arp_response` takes the two hardware addresses from the Ethernet header of
the request and leaves each of them in its place, so that the reply carries the
destination of the request as its destination.
-/

/-- A request, as a machine sends it, to map an IPv4 to an Ethernet address. -/
structure IsRequest (frame : Frame) : Prop where
  carriesArp :
    CarriesArp frame
  operation :
    arpOperation frame = arpRequest
  sender :
    arpSenderHardware frame = etherSource frame

/-- The data of a buffer with a request is long enough for its fields. -/
theorem IsRequest.le_dataLen
    {pkt : RteMbuf}
    (isRequest : IsRequest (frame pkt)) :
    42 ≤ pkt.dataLen.toNat := by
  simpa [etherHeaderSize, arpSize] using isRequest.carriesArp.complete

/-- A reply that answers the machine that sent a request. -/
structure AnswersRequester (request reply : Frame) : Prop where
  size :
    reply.length = etherHeaderSize + arpSize
  operation :
    arpOperation reply = arpReply
  destination :
    etherDestination reply = etherSource request
  targetHardware :
    arpTargetHardware reply = etherSource request
  targetProtocol :
    arpTargetProtocol reply = arpSenderProtocol request
  senderProtocol :
    arpSenderProtocol reply = arpTargetProtocol request

/-- Requests are answered as long as a buffer is free, and nothing else is. -/
structure Answers
    (pkt : RteMbuf)
    (mp : Address)
    (eal : Eal) :
    Prop where
  request :
    IsRequest (frame pkt) →
    eal.pools mp ≠ [] →
    ∃ reply,
      (Shim.pktArpResponse pkt mp eal).1 = some reply ∧
        AnswersRequester (frame pkt) (frame reply)
  other :
    ¬ IsRequest (frame pkt) →
    Shim.pktArpResponse pkt mp eal = (none, eal)

/-- The tests that `_pkt_arp_response` makes. -/
def ReadsRequest (pkt : RteMbuf) : Prop :=
  ReadsArp pkt ∧
    Shim.rteCpuToBe16 (Shim.arpOpcode pkt (Shim.pktArpHdr pkt)) =
      Shim.rteArpOpRequest

instance (pkt : RteMbuf) : Decidable (ReadsRequest pkt) :=
  inferInstanceAs (Decidable (_ ∧ _))

/-! ## The bytes of the reply -/

/-- The fields of a reply, in the order in which they are stored. -/
def replyFields
    (tha frm : List UInt8)
    (sip tip : UInt32) :
    List PlacedBytes :=
  [⟨6, frm⟩, ⟨12, etherTypeArp⟩, ⟨0, tha⟩, ⟨14, [0, 1]⟩,
    ⟨16, etherTypeIpv4⟩, ⟨18, [6]⟩, ⟨19, [4]⟩, ⟨20, arpReply⟩,
    ⟨22, frm⟩, ⟨28, bytes32 sip⟩, ⟨32, tha⟩, ⟨38, bytes32 tip⟩]

/-- The assignments store the fields of a reply. -/
theorem memory_fillArpResponse
    (outPkt : RteMbuf)
    (tha frm : List UInt8)
    (sip tip : UInt32) :
    (Shim.fillArpResponse outPkt tha frm sip tip).memory =
      outPkt.memory.storeFields (Shim.rtePktmbufMtod outPkt)
        (replyFields tha frm sip tip) := by
  have etherType :
      bytes16 (Shim.rteCpuToBe16 Shim.rteEtherTypeArp) = etherTypeArp := by
    decide
  have hardware :
      bytes16 (Shim.rteCpuToBe16 Shim.rteArpHrdEther) = [0, 1] := by
    decide
  have protocol :
      bytes16 (Shim.rteCpuToBe16 Shim.rteEtherTypeIpv4) =
        etherTypeIpv4 := by
    decide
  have operation :
      bytes16 (Shim.rteCpuToBe16 Shim.rteArpOpReply) = arpReply := by
    decide
  simp only [Shim.fillArpResponse, Shim.write, Shim.pktArpHdr,
    Shim.rtePktmbufMtod, Shim.sizeofEtherHdr, Shim.rteEtherAddrLen,
    etherType, hardware, protocol, operation, UInt64.add_assoc,
    UInt64.reduceAdd, storeFields, replyFields, List.foldl_cons,
    List.foldl_nil]

/-- The fields of a reply lie one behind the other. -/
theorem replyFields_apart
    {tha frm : List UInt8}
    (thaLength : tha.length = 6)
    (frmLength : frm.length = 6)
    (sip tip : UInt32) :
    (replyFields tha frm sip tip).Pairwise PlacedBytes.Apart := by
  simp [replyFields, PlacedBytes.Apart, thaLength, frmLength,
    etherTypeArp, etherTypeIpv4, arpReply]

theorem replyFields_within
    {tha frm : List UInt8}
    (thaLength : tha.length = 6)
    (frmLength : frm.length = 6)
    (sip tip : UInt32) :
    ∀ stored ∈ replyFields tha frm sip tip,
      stored.offset.toNat + stored.bytes.length ≤ 42 := by
  simp [replyFields, thaLength, frmLength, etherTypeArp, etherTypeIpv4,
    arpReply]

theorem dataLen_fillArpResponse
    (outPkt : RteMbuf)
    (tha frm : List UInt8)
    (sip tip : UInt32) :
    (Shim.fillArpResponse outPkt tha frm sip tip).dataLen.toNat = 42 :=
  rfl

theorem mtod_fillArpResponse
    (outPkt : RteMbuf)
    (tha frm : List UInt8)
    (sip tip : UInt32) :
    Shim.rtePktmbufMtod (Shim.fillArpResponse outPkt tha frm sip tip) =
      Shim.rtePktmbufMtod outPkt := by
  simp only [Shim.rtePktmbufMtod, Shim.fillArpResponse, Shim.write]

/-- Every field of a reply is found in its frame. -/
theorem field_fillArpResponse
    {tha frm : List UInt8}
    {sip tip : UInt32}
    {stored : PlacedBytes}
    (outPkt : RteMbuf)
    (thaLength : tha.length = 6)
    (frmLength : frm.length = 6)
    (member : stored ∈ replyFields tha frm sip tip) :
    field (frame (Shim.fillArpResponse outPkt tha frm sip tip))
        stored.offset.toNat stored.bytes.length =
      stored.bytes := by
  have within := replyFields_within thaLength frmLength sip tip
  have fits : ∀ stored ∈ replyFields tha frm sip tip, stored.Fits :=
    fun stored isStored => (within stored isStored).trans (by decide)
  have isInside :
      stored.offset.toNat + stored.bytes.length ≤
        (Shim.fillArpResponse outPkt tha frm sip tip).dataLen.toNat := by
    rw [dataLen_fillArpResponse]
    exact within stored member
  rw [field_frame isInside, UInt64.ofNat_toNat, mtod_fillArpResponse,
    memory_fillArpResponse]
  exact window_storeFields fits
    (replyFields_apart thaLength frmLength sip tip) member

/-! ## The reply to a packet -/

/-- The reply to a packet, in a buffer. -/
def reply (pkt outPkt : RteMbuf) : RteMbuf :=
  Shim.fillArpResponse outPkt
    (pkt.memory.window (Shim.rtePktmbufMtod pkt + 0) 6)
    (pkt.memory.window (Shim.rtePktmbufMtod pkt + 6) 6)
    (Shim.arpTip pkt (Shim.pktArpHdr pkt))
    (Shim.arpSip pkt (Shim.pktArpHdr pkt))

/-- A stored field of a reply, as a field of its frame. -/
theorem field_reply
    (pkt outPkt : RteMbuf)
    (offset : UInt64)
    (bytes : List UInt8)
    (member :
      (⟨offset, bytes⟩ : PlacedBytes) ∈
        replyFields
          (pkt.memory.window (Shim.rtePktmbufMtod pkt + 0) 6)
          (pkt.memory.window (Shim.rtePktmbufMtod pkt + 6) 6)
          (Shim.arpTip pkt (Shim.pktArpHdr pkt))
          (Shim.arpSip pkt (Shim.pktArpHdr pkt))) :
    field (frame (reply pkt outPkt)) offset.toNat bytes.length = bytes :=
  field_fillArpResponse outPkt (length_window _ _ _)
    (length_window _ _ _) member

/-- A reply is made of the fields of the request; the hardware addresses stay in their places. -/
structure MadeFrom (request reply : Frame) : Prop where
  size :
    reply.length = etherHeaderSize + arpSize
  operation :
    arpOperation reply = arpReply
  destination :
    etherDestination reply = etherDestination request
  targetHardware :
    arpTargetHardware reply = etherDestination request
  targetProtocol :
    arpTargetProtocol reply = arpSenderProtocol request
  senderProtocol :
    arpSenderProtocol reply = arpTargetProtocol request

theorem madeFrom_reply
    {pkt : RteMbuf}
    (outPkt : RteMbuf)
    (complete : 42 ≤ pkt.dataLen.toNat) :
    MadeFrom (frame pkt) (frame (reply pkt outPkt)) := by
  have destination :
      etherDestination (frame pkt) =
        pkt.memory.window (Shim.rtePktmbufMtod pkt + UInt64.ofNat 0) 6 :=
    field_frame (Nat.le_trans (by decide) complete)
  have senderProtocol :
      arpSenderProtocol (frame pkt) =
        bytes32 (Shim.arpSip pkt (Shim.pktArpHdr pkt)) := by
    rw [Shim.arpSip, bytes32_load32, Shim.pktArpHdr, UInt64.add_assoc]
    exact field_frame (Nat.le_trans (by decide) complete)
  have targetProtocol :
      arpTargetProtocol (frame pkt) =
        bytes32 (Shim.arpTip pkt (Shim.pktArpHdr pkt)) := by
    rw [Shim.arpTip, bytes32_load32, Shim.pktArpHdr, UInt64.add_assoc]
    exact field_frame (Nat.le_trans (by decide) complete)
  constructor
  · rw [length_frame]
    exact dataLen_fillArpResponse _ _ _ _ _
  · exact field_reply pkt outPkt 20 arpReply (by simp [replyFields])
  · rw [destination]
    exact field_reply pkt outPkt 0
      (pkt.memory.window (Shim.rtePktmbufMtod pkt + 0) 6)
      (by simp [replyFields])
  · rw [destination]
    exact field_reply pkt outPkt 32
      (pkt.memory.window (Shim.rtePktmbufMtod pkt + 0) 6)
      (by simp [replyFields])
  · rw [senderProtocol]
    exact field_reply pkt outPkt 38
      (bytes32 (Shim.arpSip pkt (Shim.pktArpHdr pkt)))
      (by simp [replyFields])
  · rw [targetProtocol]
    exact field_reply pkt outPkt 28
      (bytes32 (Shim.arpTip pkt (Shim.pktArpHdr pkt)))
      (by simp [replyFields])

/-- Such a reply reaches the requester only if the request was addressed to itself. -/
theorem answersRequester_iff
    {request reply : Frame}
    (madeFrom : MadeFrom request reply) :
    AnswersRequester request reply ↔
      etherDestination request = etherSource request := by
  constructor
  · intro answers
    rw [← madeFrom.destination, answers.destination]
  · intro sameAddress
    exact {
      size := madeFrom.size
      operation := madeFrom.operation
      destination := madeFrom.destination.trans sameAddress
      targetHardware := madeFrom.targetHardware.trans sameAddress
      targetProtocol := madeFrom.targetProtocol
      senderProtocol := madeFrom.senderProtocol
    }

/-! ## What is answered -/

theorem pktArpResponse_of_not_reads
    {pkt : RteMbuf}
    (notReads : ¬ ReadsRequest pkt)
    (mp : Address)
    (eal : Eal) :
    Shim.pktArpResponse pkt mp eal = (none, eal) := by
  unfold Shim.pktArpResponse
  by_cases readsArp : ReadsArp pkt
  · have otherOperation :
        Shim.rteCpuToBe16 (Shim.arpOpcode pkt (Shim.pktArpHdr pkt)) ≠
          Shim.rteArpOpRequest :=
      fun isRequest => notReads ⟨readsArp, isRequest⟩
    exact (if_neg (not_not_intro readsArp)).trans (if_pos otherOperation)
  · exact if_pos readsArp

theorem pktArpResponse_of_reads
    {pkt : RteMbuf}
    (reads : ReadsRequest pkt)
    (mp : Address)
    (eal : Eal) :
    Shim.pktArpResponse pkt mp eal =
      match Dpdk.rtePktmbufAlloc mp eal with
      | (none, eal) =>
          (none, eal)
      | (some outPkt, eal) =>
          (some (reply pkt outPkt), eal) := by
  obtain ⟨readsArp, isRequest⟩ := reads
  unfold Shim.pktArpResponse
  exact (if_neg (not_not_intro readsArp)).trans
    (if_neg (not_not_intro isRequest))

/-- Without a free buffer there is no reply, whatever the packet is. -/
theorem pktArpResponse_of_empty
    {mp : Address}
    {eal : Eal}
    (noneFree : eal.pools mp = [])
    (pkt : RteMbuf) :
    Shim.pktArpResponse pkt mp eal = (none, eal) := by
  by_cases reads : ReadsRequest pkt
  · rw [pktArpResponse_of_reads reads, Dpdk.rtePktmbufAlloc, noneFree]
  · exact pktArpResponse_of_not_reads reads mp eal

/-- With a free buffer, what is read as a request is replied to. -/
theorem pktArpResponse_of_free
    {pkt mbuf : RteMbuf}
    {mp : Address}
    {eal : Eal}
    {free : List RteMbuf}
    (reads : ReadsRequest pkt)
    (isFree : eal.pools mp = mbuf :: free) :
    Shim.pktArpResponse pkt mp eal =
      (some (reply pkt mbuf.recycled), eal.setPool mp free) := by
  rw [pktArpResponse_of_reads reads, Dpdk.rtePktmbufAlloc, isFree]

/-- A request is read as one. -/
theorem readsRequest_of_isRequest
    {pkt : RteMbuf}
    (isRequest : IsRequest (frame pkt)) :
    ReadsRequest pkt := by
  have complete := isRequest.le_dataLen
  have sameBytes :
      (bytes16 Shim.rteArpOpRequest).reverse = arpRequest := by
    decide
  have operation :
      pkt.memory.window (Shim.rtePktmbufMtod pkt + UInt64.ofNat 20) 2 =
        arpRequest := by
    rw [← field_frame (by omega)]
    exact isRequest.operation
  constructor
  · exact (readsArp_iff (by omega)).mpr isRequest.carriesArp.etherType
  · rw [Shim.rteCpuToBe16, Shim.arpOpcode, swap16_load16_eq_iff, sameBytes,
      Shim.pktArpHdr, UInt64.add_assoc]
    exact operation

/--
Requests are answered, and nothing else is, exactly if every packet that is read
as a request while a buffer is free is a request that is addressed to its own
sender.
-/
theorem answers_iff_addressed_to_sender
    (pkt : RteMbuf)
    (mp : Address)
    (eal : Eal) :
    Answers pkt mp eal ↔
      (ReadsRequest pkt →
        eal.pools mp ≠ [] →
        IsRequest (frame pkt) ∧
          etherDestination (frame pkt) = etherSource (frame pkt)) := by
  constructor
  · intro answers reads someFree
    obtain ⟨mbuf, free, isFree⟩ := List.exists_cons_of_ne_nil someFree
    have replied := pktArpResponse_of_free reads isFree
    have isRequest : IsRequest (frame pkt) := by
      by_contra notRequest
      have refused := answers.other notRequest
      rw [replied] at refused
      exact absurd (congrArg Prod.fst refused) (Option.some_ne_none _)
    obtain ⟨answer, isAnswer, answersRequester⟩ :=
      answers.request isRequest someFree
    rw [replied] at isAnswer
    obtain rfl := Option.some_inj.mp isAnswer
    exact ⟨isRequest,
      (answersRequester_iff (madeFrom_reply _ isRequest.le_dataLen)).mp
        answersRequester⟩
  · intro addressedToSender
    constructor
    · intro isRequest someFree
      have reads := readsRequest_of_isRequest isRequest
      have sameAddress := (addressedToSender reads someFree).2
      obtain ⟨mbuf, free, isFree⟩ := List.exists_cons_of_ne_nil someFree
      refine ⟨reply pkt mbuf.recycled, ?_, ?_⟩
      · rw [pktArpResponse_of_free reads isFree]
      · exact (answersRequester_iff
          (madeFrom_reply _ isRequest.le_dataLen)).mpr sameAddress
    · intro notRequest
      by_cases reads : ReadsRequest pkt
      · by_cases noneFree : eal.pools mp = []
        · exact pktArpResponse_of_empty noneFree pkt
        · exact absurd (addressedToSender reads noneFree).1 notRequest
      · exact pktArpResponse_of_not_reads reads mp eal

/-- A request for 10.0.0.2, broadcast by the machine with the address 10.0.0.1. -/
def broadcastRequest : RteMbuf where
  address :=
    1
  pool :=
    0
  bufLen :=
    2176
  dataOff :=
    128
  dataLen :=
    42
  pktLen :=
    42
  memory :=
    ByteMemory.store (fun _ => 0) 128
      [0xff, 0xff, 0xff, 0xff, 0xff, 0xff, 2, 0, 0, 0, 0, 1, 8, 6,
        0, 1, 8, 0, 6, 4, 0, 1, 2, 0, 0, 0, 0, 1, 10, 0, 0, 1,
        0, 0, 0, 0, 0, 0, 10, 0, 0, 2]

/-- An environment with one free buffer in mempool 0. -/
def oneFree : Eal :=
  Eal.initial.setPool 0 [RteMbuf.reset 0 2 fun _ => 0]

theorem isRequest_broadcastRequest :
    IsRequest (frame broadcastRequest) := by
  refine ⟨⟨?_, ?_, ?_, ?_, ?_, ?_⟩, ?_, ?_⟩ <;> decide

/-- The reply is broadcast as well, instead of going to the requester. -/
theorem not_answers_broadcastRequest :
    ¬ Answers broadcastRequest 0 oneFree := by
  have someFree : oneFree.pools 0 ≠ [] := by
    simp [oneFree]
  intro answers
  obtain ⟨answer, isAnswer, answersRequester⟩ :=
    answers.request isRequest_broadcastRequest someFree
  have reads := readsRequest_of_isRequest isRequest_broadcastRequest
  have isFree : oneFree.pools 0 = [RteMbuf.reset 0 2 fun _ => 0] := by
    simp [oneFree]
  rw [pktArpResponse_of_free reads isFree] at isAnswer
  obtain rfl := Option.some_inj.mp isAnswer
  have sameAddress :=
    (answersRequester_iff (madeFrom_reply _ (by decide))).mp
      answersRequester
  exact absurd sameAddress (by decide)

end VDataplane.ArpResponse
