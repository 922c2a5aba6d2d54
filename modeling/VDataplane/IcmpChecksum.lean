import VDataplane.OnesComplement

namespace VDataplane.IcmpChecksum

open OnesComplement

/-!
# The checksum of an ICMP echo reply

`_pkt_icmp_checksum` computes the checksum of a reply from that of the request,
which differs from it in its type only.  Every intermediate sum is stored back
into the 16-bit parameter, so that the two lines that are to fold the carry back
never see one.
-/

/-- `RTE_IP_ICMP_ECHO_REPLY`. -/
def rteIpIcmpEchoReply : UInt8 := 0

/-- `RTE_IP_ICMP_ECHO_REQUEST`. -/
def rteIpIcmpEchoRequest : UInt8 := 8

/-- `htons` on a little-endian host. -/
def htons (hostshort : UInt16) : UInt16 :=
  (hostshort <<< 8) ||| (hostshort >>> 8)

/-- The mask of the lower 16 bits. -/
def mask16 : UInt32 := 0xffff

/-- `cksum = (cksum & 0xffff) + (cksum >> 16)`, the sum in 32 bits and its result in 16. -/
def foldCarry (cksum : UInt16) : UInt16 :=
  UInt32.toUInt16
    ((cksum.toUInt32 &&& mask16) + (cksum.toUInt32 >>> 16))

/--
`_pkt_icmp_checksum`: the operands are promoted to 32 bits, and every
assignment to `cksum` keeps the lower 16.
-/
def pktIcmpChecksum (cksum : UInt16) : UInt16 :=
  let cksum := UInt32.toUInt16 (~~~cksum.toUInt32 &&& mask16)
  let request := htons (rteIpIcmpEchoRequest.toUInt16 <<< 8)
  let cksum :=
    UInt32.toUInt16
      (cksum.toUInt32 + (~~~request.toUInt32 &&& mask16))
  let reply := htons (rteIpIcmpEchoReply.toUInt16 <<< 8)
  let cksum := UInt32.toUInt16 (cksum.toUInt32 + reply.toUInt32)
  let cksum := foldCarry cksum
  let cksum := foldCarry cksum
  UInt32.toUInt16 (~~~cksum.toUInt32)

/-- An ICMP echo message; the 16-bit fields as a little-endian host reads them. -/
structure IcmpMessage where
  icmpType : UInt8
  icmpCode : UInt8
  icmpCksum : UInt16
  icmpIdent : UInt16
  icmpSeqNb : UInt16
  payload : List UInt8
  deriving Repr, DecidableEq

namespace IcmpMessage

/-- The message as it is on the wire. -/
def bytes (message : IcmpMessage) : List UInt8 :=
  message.icmpType :: message.icmpCode ::
    message.icmpCksum.toUInt8 :: (message.icmpCksum >>> 8).toUInt8 ::
    message.icmpIdent.toUInt8 :: (message.icmpIdent >>> 8).toUInt8 ::
    message.icmpSeqNb.toUInt8 :: (message.icmpSeqNb >>> 8).toUInt8 ::
    message.payload

/-- The checksum of the message is right. -/
def ChecksumValid (message : IcmpMessage) : Prop :=
  Valid (words message.bytes)

instance (message : IcmpMessage) : Decidable message.ChecksumValid :=
  inferInstanceAs (Decidable (Valid (words message.bytes)))

/-- An echo request. -/
structure EchoRequest (message : IcmpMessage) : Prop where
  isRequest :
    message.icmpType = rteIpIcmpEchoRequest
  noCode :
    message.icmpCode = 0

/-- Something behind the checksum is not zero. -/
def CarriesData (message : IcmpMessage) : Prop :=
  message.icmpIdent ≠ 0 ∨ message.icmpSeqNb ≠ 0 ∨
    ∃ byte ∈ message.payload, byte ≠ 0

instance (message : IcmpMessage) : Decidable message.CarriesData :=
  inferInstanceAs (Decidable (_ ∨ _))

/-- The reply to a request: another type, and the checksum that the shim computes. -/
def reply (message : IcmpMessage) : IcmpMessage :=
  { message with
    icmpType := rteIpIcmpEchoReply
    icmpCksum := pktIcmpChecksum message.icmpCksum }

/-- The words of a message. -/
theorem words_bytes (message : IcmpMessage) :
    words message.bytes =
      (message.icmpType.toUInt16 + 256 * message.icmpCode.toUInt16) ::
        message.icmpCksum :: message.icmpIdent :: message.icmpSeqNb ::
          words message.payload := by
  simp only [bytes, words_cons_cons, word_of_bytes]

end IcmpMessage

/-! ## The computation -/

/-- The lines that are to fold a carry into a 16-bit variable leave it as it is. -/
theorem foldCarry_eq (cksum : UInt16) :
    foldCarry cksum = cksum := by
  have cksumLt := cksum.toNat_lt
  have masked : cksum.toNat &&& 65535 = cksum.toNat % 65536 :=
    Nat.and_two_pow_sub_one_eq_mod cksum.toNat 16
  apply UInt16.toNat_inj.mp
  simp only [foldCarry, UInt32.toNat_toUInt16, UInt32.toNat_add,
    UInt32.toNat_and, UInt16.toNat_toUInt32, UInt32.toNat_shiftRight,
    UInt32.reduceToNat, mask16, masked, Nat.shiftRight_eq_div_pow, Nat.reduceMod,
    Nat.reducePow]
  omega

/-- The complement of a word that was promoted, cut down again. -/
theorem toUInt16_not_toUInt32 (word : UInt16) :
    (~~~word.toUInt32).toUInt16 = ~~~word := by
  rw [UInt32.toUInt16_not, UInt16.toUInt16_toUInt32]

/-- A mask of the lower 16 bits changes nothing that is cut down to 16 bits. -/
theorem toUInt16_and_mask16 (word : UInt32) :
    (word &&& mask16).toUInt16 = word.toUInt16 := by
  have masked : word.toNat &&& 65535 = word.toNat % 65536 :=
    Nat.and_two_pow_sub_one_eq_mod word.toNat 16
  apply UInt16.toNat_inj.mp
  simp only [UInt32.toNat_toUInt16, UInt32.toNat_and, mask16,
    UInt32.reduceToNat, masked]
  omega

/-- The whole computation adds 9, and a carry is lost. -/
theorem pktIcmpChecksum_eq (cksum : UInt16) :
    pktIcmpChecksum cksum = cksum + 9 := by
  have request : ~~~htons (rteIpIcmpEchoRequest.toUInt16 <<< 8) = 0xfff7 := by
    decide
  have reply : htons (rteIpIcmpEchoReply.toUInt16 <<< 8) = 0 := by
    decide
  simp only [pktIcmpChecksum, foldCarry_eq, toUInt16_not_toUInt32,
    toUInt16_and_mask16, UInt32.toUInt16_add, UInt16.toUInt16_toUInt32,
    request, reply]
  apply UInt16.toNat_inj.mp
  have cksumLt := cksum.toNat_lt
  simp only [UInt16.toNat_not, UInt16.toNat_add, UInt16.reduceToNat,
    UInt16.size]
  omega

/-! ## The order of bytes -/

/-- `htons` exchanges the bytes of a word. -/
theorem htons_eq_swap (word : UInt16) :
    htons word = swap word := by
  have wordLt := word.toNat_lt
  have highLt : word.toNat / 256 < 2 ^ 8 := by
    omega
  have lowFirst :
      word.toNat * 256 % 65536 = 2 ^ 8 * (word.toNat % 256) := by
    omega
  apply UInt16.toNat_inj.mp
  rw [toNat_swap]
  simp only [htons, UInt16.toNat_or, UInt16.toNat_shiftLeft,
    UInt16.toNat_shiftRight, UInt16.reduceToNat, Nat.shiftLeft_eq,
    Nat.shiftRight_eq_div_pow, Nat.reduceMod, Nat.reducePow, lowFirst]
  rw [← Nat.two_pow_add_eq_or_of_lt highLt]
  omega

/-- A receiver that reads the words in network order decides the same. -/
theorem IcmpMessage.valid_map_htons_iff (message : IcmpMessage) :
    Valid ((words message.bytes).map htons) ↔ message.ChecksumValid := by
  rw [funext htons_eq_swap]
  exact valid_swap_iff (words message.bytes)

/-! ## The reply -/

section Reply

variable {message : IcmpMessage}

/-- What is behind the checksum adds up to something exactly if it is not all zero. -/
theorem total_pos_iff_carriesData (message : IcmpMessage) :
    0 < total (message.icmpIdent :: message.icmpSeqNb ::
        words message.payload) ↔
      message.CarriesData := by
  have payloadZero := total_words_eq_zero_iff message.payload
  rw [Nat.pos_iff_ne_zero, IcmpMessage.CarriesData, ← not_iff_not]
  push Not
  rw [← payloadZero, ← UInt16.toNat_inj, ← UInt16.toNat_inj, total_cons,
    total_cons]
  simp only [UInt16.reduceToNat]
  omega

/-- The ordinary sum of the words of a request. -/
theorem total_request
    (request : message.EchoRequest) :
    total (words message.bytes) =
      8 + message.icmpCksum.toNat +
        total (message.icmpIdent :: message.icmpSeqNb ::
          words message.payload) := by
  rw [message.words_bytes, request.isRequest, request.noCode]
  simp only [total_cons]
  have typeWord :
      (rteIpIcmpEchoRequest.toUInt16 +
        256 * (0 : UInt8).toUInt16).toNat = 8 := by
    decide
  rw [typeWord]
  ring

/-- The ordinary sum of the words of the reply. -/
theorem total_reply
    (request : message.EchoRequest) :
    total (words message.reply.bytes) =
      (pktIcmpChecksum message.icmpCksum).toNat +
        total (message.icmpIdent :: message.icmpSeqNb ::
          words message.payload) := by
  have replyWords :
      words message.reply.bytes =
        (rteIpIcmpEchoReply.toUInt16 + 256 * message.icmpCode.toUInt16) ::
          pktIcmpChecksum message.icmpCksum :: message.icmpIdent ::
            message.icmpSeqNb :: words message.payload :=
    message.reply.words_bytes
  have typeWord :
      (rteIpIcmpEchoReply.toUInt16 +
        256 * (0 : UInt8).toUInt16).toNat = 0 := by
    decide
  rw [replyWords, request.noCode, total_cons, typeWord, total_cons,
    Nat.zero_add]

end Reply

/--
The reply to a request with a valid checksum has a valid checksum if and only if
the checksum of the request is at least `0xfff7`, so that adding 9 to it loses a
carry and thereby the one that was too much, and the reply is not all zero.
-/
theorem reply_valid_iff_carries
    {message : IcmpMessage}
    (request : message.EchoRequest)
    (valid : message.ChecksumValid) :
    message.reply.ChecksumValid ↔
      0xfff7 ≤ message.icmpCksum ∧ message.CarriesData := by
  have before := total_request request
  have after := total_reply request
  have cksumLt := message.icmpCksum.toNat_lt
  rw [IcmpMessage.ChecksumValid, valid_iff] at valid ⊢
  rw [UInt16.le_iff_toNat_le, ← total_pos_iff_carriesData]
  rw [pktIcmpChecksum_eq, UInt16.toNat_add] at after
  simp only [UInt16.reduceToNat] at after ⊢
  omega

/-- A request with an identifier whose checksum is large enough. -/
def largeChecksum : IcmpMessage where
  icmpType :=
    rteIpIcmpEchoRequest
  icmpCode :=
    0
  icmpCksum :=
    0xfff8
  icmpIdent :=
    0xfffe
  icmpSeqNb :=
    0
  payload :=
    []

/-- The reply to a request with a large checksum is valid. -/
theorem reply_valid_largeChecksum :
    largeChecksum.ChecksumValid ∧ largeChecksum.reply.ChecksumValid := by
  have valid : largeChecksum.ChecksumValid := by
    decide
  exact ⟨valid,
    (reply_valid_iff_carries ⟨rfl, rfl⟩ valid).mpr (by decide)⟩

/-- A request with a small checksum. -/
def smallChecksum : IcmpMessage :=
  { largeChecksum with
    icmpCksum := 1
    icmpIdent := 0xfff6 }

/-- The words of the reply to a request with a small checksum add up to one too much. -/
theorem not_reply_valid_smallChecksum :
    smallChecksum.EchoRequest ∧ smallChecksum.ChecksumValid ∧
      ¬ smallChecksum.reply.ChecksumValid :=
  ⟨⟨rfl, rfl⟩, by decide, by decide⟩

end VDataplane.IcmpChecksum
