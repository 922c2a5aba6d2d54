import VDataplane.ArpDetection
import VDataplane.IfaceEmulator
import VDataplane.Packetiser

namespace VDataplane.AddressConversions

open ArpDetection (bytes32_hostOrder hostOrder octets octets_inj)
open ByteMemory
open Packetiser (u32ToIpaddr)
open Server (ipaddrToU32)

/-!
# Conversions of IPv4 addresses

An address and the word that holds it in host order determine each other.  Both
conversions from words to addresses follow this correspondence.  The one back
from addresses takes the second octet for the fourth, and an interface is given
the first octet of its address four times.
-/

/-! ## Addresses and words -/

/-- The bytes of a word, most significant first, are the octets it is converted to. -/
theorem octets_convert (value : UInt32) :
    octets (Ipv4Hdr.convert value) = (bytes32 value).reverse := by
  simp only [octets, Ipv4Hdr.convert, toUInt8_mask]
  rfl

/-- The order of the host, as a correspondence of addresses and words. -/
def hostOrderEquiv : Ipv4Addr ≃ UInt32 where
  toFun :=
    hostOrder
  invFun :=
    Ipv4Hdr.convert
  left_inv ip := by
    rw [← octets_inj, octets_convert, bytes32_hostOrder]
  right_inv value := by
    rw [← bytes32_inj, ← List.reverse_inj, bytes32_hostOrder, octets_convert]

/-- An address with the second octet in the place of the fourth. -/
def secondTwice (ip : Ipv4Addr) : Ipv4Addr :=
  { ip with d := ip.b }

theorem secondTwice_eq_self_iff (ip : Ipv4Addr) :
    secondTwice ip = ip ↔ ip.b = ip.d := by
  constructor
  · intro sameAddress
    exact congrArg Ipv4Addr.d sameAddress
  · intro sameOctet
    rw [secondTwice]
    exact congrArg (fun octet => { ip with d := octet }) sameOctet

/-- `ipaddr_to_u32` is the order of the host, of an address without its fourth octet. -/
theorem ipaddrToU32_eq (ip : Ipv4Addr) :
    ipaddrToU32 ip = hostOrderEquiv (secondTwice ip) := by
  have unmasked : ∀ octet : UInt8, octet &&& 0xFF = octet := by
    intro octet
    exact UInt8.and_neg_one
  rw [ipaddrToU32, unmasked, unmasked, unmasked, or_shiftLeft_eq_word32]
  rfl

/-- `u32_to_ipaddr` is the order of the host, backwards. -/
theorem u32ToIpaddr_eq (value : UInt32) :
    u32ToIpaddr value = hostOrderEquiv.symm value :=
  rfl

/-- An address comes back exactly if its second octet is its fourth. -/
theorem u32ToIpaddr_ipaddrToU32_iff (ip : Ipv4Addr) :
    u32ToIpaddr (ipaddrToU32 ip) = ip ↔ ip.b = ip.d := by
  rw [u32ToIpaddr_eq, ipaddrToU32_eq, Equiv.symm_apply_apply,
    secondTwice_eq_self_iff]

/-- A word comes back exactly if its second byte is its fourth. -/
theorem ipaddrToU32_u32ToIpaddr_iff (value : UInt32) :
    ipaddrToU32 (u32ToIpaddr value) = value ↔
      (value >>> 16).toUInt8 = value.toUInt8 := by
  have isSecond : (u32ToIpaddr value).b = (value >>> 16).toUInt8 :=
    toUInt8_mask _
  have isFourth : (u32ToIpaddr value).d = value.toUInt8 :=
    toUInt8_mask _
  rw [ipaddrToU32_eq, ← Equiv.eq_symm_apply, ← u32ToIpaddr_eq,
    secondTwice_eq_self_iff, isSecond, isFourth]

/-- Two addresses have one word exactly if they differ in the fourth octet at most. -/
theorem ipaddrToU32_eq_iff (ip other : Ipv4Addr) :
    ipaddrToU32 ip = ipaddrToU32 other ↔
      ip.a = other.a ∧ ip.b = other.b ∧ ip.c = other.c := by
  rw [ipaddrToU32_eq, ipaddrToU32_eq, hostOrderEquiv.apply_eq_iff_eq,
    secondTwice, secondTwice]
  constructor
  · intro sameAddress
    obtain ⟨sameFirst, sameSecond, sameThird, -⟩ :=
      Ipv4Addr.mk.inj sameAddress
    exact ⟨sameFirst, sameSecond, sameThird⟩
  · rintro ⟨sameFirst, sameSecond, sameThird⟩
    rw [sameFirst, sameSecond, sameThird]

/-! ## Faithfulness -/

/--
The conversions are faithful on addresses, words and arguments of interfaces:
what is converted comes back, an interface carries the address it is given, and
what differs is told apart.
-/
structure FaithfulOn
    (smoltcp : Smoltcp)
    (addresses : Set Ipv4Addr)
    (words : Set UInt32)
    (ifaces : Set IfaceArgs) :
    Prop where
  inverse :
    Set.InvOn u32ToIpaddr ipaddrToU32 addresses words
  headerInverse :
    Set.InvOn Ipv4Hdr.convert ipaddrToU32 addresses words
  sameMapping :
    Set.EqOn Ipv4Hdr.convert u32ToIpaddr words
  carried :
    ∀ args ∈ ifaces, args.Carried smoltcp
  addressesTold :
    Set.InjOn ipaddrToU32 addresses
  wordsTold :
    Set.InjOn u32ToIpaddr words
  interfacesTold :
    ∀ args ∈ ifaces, ∀ other ∈ ifaces,
      args.SharesAddress smoltcp other →
        args.addr = other.addr

/-- The two conversions are inverse exactly where the second octet is the fourth. -/
theorem invOn_iff
    (addresses : Set Ipv4Addr)
    (words : Set UInt32) :
    Set.InvOn u32ToIpaddr ipaddrToU32 addresses words ↔
      (∀ ip ∈ addresses, ip.b = ip.d) ∧
        ∀ value ∈ words, (value >>> 16).toUInt8 = value.toUInt8 := by
  refine and_congr ?_ ?_
  · exact forall₂_congr fun ip _ => u32ToIpaddr_ipaddrToU32_iff ip
  · exact forall₂_congr fun value _ => ipaddrToU32_u32ToIpaddr_iff value

/-- The header's conversion is the one of the packetiser. -/
theorem convert_eq_u32ToIpaddr :
    Ipv4Hdr.convert = u32ToIpaddr :=
  rfl

theorem u32ToIpaddr_injective : Function.Injective u32ToIpaddr :=
  hostOrderEquiv.symm.injective

/--
The conversions are faithful exactly on addresses whose second octet is their
fourth, on the words of such addresses, and on interfaces of four equal octets.
-/
theorem faithfulOn_iff
    (smoltcp : Smoltcp)
    (keeps : KeepsAddresses smoltcp)
    (addresses : Set Ipv4Addr)
    (words : Set UInt32)
    (ifaces : Set IfaceArgs) :
    FaithfulOn smoltcp addresses words ifaces ↔
      (∀ ip ∈ addresses, ip.b = ip.d) ∧
        (∀ value ∈ words, (value >>> 16).toUInt8 = value.toUInt8) ∧
        ∀ args ∈ ifaces, args.Uniform := by
  constructor
  · intro faithful
    obtain ⟨ofAddresses, ofWords⟩ :=
      (invOn_iff addresses words).mp faithful.inverse
    refine ⟨ofAddresses, ofWords, ?_⟩
    intro args isIface
    exact (carried_iff_uniform keeps args).mp (faithful.carried args isIface)
  · rintro ⟨ofAddresses, ofWords, ofIfaces⟩
    have inverse : Set.InvOn u32ToIpaddr ipaddrToU32 addresses words :=
      (invOn_iff addresses words).mpr ⟨ofAddresses, ofWords⟩
    exact {
      inverse := inverse
      headerInverse := by
        rw [convert_eq_u32ToIpaddr]
        exact inverse
      sameMapping := by
        rw [convert_eq_u32ToIpaddr]
        exact Set.eqOn_refl u32ToIpaddr words
      carried := by
        intro args isIface
        exact (carried_iff_uniform keeps args).mpr (ofIfaces args isIface)
      addressesTold :=
        inverse.left.injOn
      wordsTold :=
        u32ToIpaddr_injective.injOn
      interfacesTold := by
        intro args isIface other isOther shares
        exact addr_eq_of_sharesAddress keeps
          (ofIfaces args isIface) (ofIfaces other isOther) shares
    }

/-- Addresses that are their octets, and blocks that panic above 32 bits. -/
def octetSmoltcp : Smoltcp where
  EthernetAddress :=
    Fin 6 → UInt8
  Ipv4Address :=
    Fin 4 → UInt8
  IpAddress :=
    Fin 4 → UInt8
  IpCidr :=
    (Fin 4 → UInt8) × UInt8
  ethernetAddress :=
    id
  ipv4AddressNew first second third fourth :=
    ![first, second, third, fourth]
  ipv4 :=
    id
  ipCidrNew address prefixLen :=
    if prefixLen ≤ 32 then .ok (address, prefixLen) else .error .panicked
  address :=
    Prod.fst
  prefixLen :=
    Prod.snd

theorem octetSmoltcp_keepsAddresses : KeepsAddresses octetSmoltcp where
  ipv4AddressNew first second sameAddress := by
    funext index
    fin_cases index
    · exact congrFun sameAddress 0
    · exact congrFun sameAddress 1
    · exact congrFun sameAddress 2
    · exact congrFun sameAddress 3
  ipv4 :=
    Function.injective_id
  ipCidrNew address prefixLen isPrefix :=
    ⟨(address, prefixLen), if_pos isPrefix, rfl, rfl⟩
  ipCidrNewPanics _ _ notPrefix :=
    if_neg (UInt8.not_le.mpr notPrefix)

/--
The conversions are faithful on `1.2.3.2` and `1.2.4.2`, their words, and
`7.7.7.7/24` and `9.9.9.9/24`, and so tell these apart.
-/
theorem faithfulOn_repeated_octets :
    FaithfulOn octetSmoltcp {⟨1, 2, 3, 2⟩, ⟨1, 2, 4, 2⟩}
      {0x01020302, 0x01020402} {
        ⟨![2, 0, 0, 0, 0, 1], ![7, 7, 7, 7], 24⟩,
        ⟨![2, 0, 0, 0, 0, 1], ![9, 9, 9, 9], 24⟩
      } := by
  refine (faithfulOn_iff octetSmoltcp octetSmoltcp_keepsAddresses _ _ _).mpr
    ⟨?_, ?_, ?_⟩
  · rintro ip (rfl | rfl)
    · rfl
    · rfl
  · rintro value (rfl | rfl)
    · decide
    · decide
  · rintro args (rfl | rfl)
    · exact ⟨by decide, by decide⟩
    · exact ⟨by decide, by decide⟩

/--
The word of `10.0.0.2` is the one of `10.0.0.0`, and an interface of the first
address carries `10.10.10.10`.
-/
theorem not_faithful_ten_zero_zero_two :
    u32ToIpaddr (ipaddrToU32 ⟨10, 0, 0, 2⟩) = ⟨10, 0, 0, 0⟩ ∧
      ipaddrToU32 ⟨10, 0, 0, 2⟩ = ipaddrToU32 ⟨10, 0, 0, 0⟩ ∧
      (IfaceEmulator.new octetSmoltcp
          ![2, 0, 0, 0, 0, 1] ![10, 0, 0, 2] 24).map
        (fun iface => octetSmoltcp.address iface.ip) =
          .ok ![10, 10, 10, 10] ∧
      ¬ FaithfulOn octetSmoltcp Set.univ Set.univ Set.univ := by
  refine ⟨by decide, by decide, ?_, ?_⟩
  · refine congrArg Except.ok ?_
    rfl
  · intro faithful
    have comesBack :
        u32ToIpaddr (ipaddrToU32 ⟨10, 0, 0, 2⟩) = ⟨10, 0, 0, 2⟩ :=
      faithful.inverse.left (Set.mem_univ _)
    exact absurd comesBack (by decide)

end VDataplane.AddressConversions
