import VDataplane.EthDevEmulator

namespace VDataplane

/-!
# The emulated interface

An interface is the emulated device with the addresses of `net/device.rs`: values
of the network library `smoltcp`, which is not part of the repository and is a
parameter here.  The address it is built with is not the one that is asked for:
the first octet stands in all four places.
-/

/-- What the interface uses of `smoltcp`: addresses, and blocks of them. -/
structure Smoltcp where
  EthernetAddress : Type
  Ipv4Address : Type
  IpAddress : Type
  IpCidr : Type
  /-- The constructor `EthernetAddress`. -/
  ethernetAddress : (Fin 6 → UInt8) → EthernetAddress
  /-- `Ipv4Address::new`. -/
  ipv4AddressNew : UInt8 → UInt8 → UInt8 → UInt8 → Ipv4Address
  /-- The constructor `IpAddress::Ipv4`. -/
  ipv4 : Ipv4Address → IpAddress
  /-- `IpCidr::new`. -/
  ipCidrNew : IpAddress → UInt8 → Except Fault IpCidr
  /-- `IpCidr::address`. -/
  address : IpCidr → IpAddress
  /-- `IpCidr::prefix_len`. -/
  prefixLen : IpCidr → UInt8

/-- `IfaceEmulator`. -/
structure IfaceEmulator (smoltcp : Smoltcp) where
  device : EthDevEmulator
  mac : smoltcp.EthernetAddress
  ip : smoltcp.IpCidr

/-- `IfaceEmulator::new`: all four octets of the address are the first one of `addr`. -/
def IfaceEmulator.new
    (smoltcp : Smoltcp)
    (mac : Fin 6 → UInt8)
    (addr : Fin 4 → UInt8)
    (prefixLen : UInt8) :
    Except Fault (IfaceEmulator smoltcp) :=
  let ipv4 :=
    smoltcp.ipv4
      (smoltcp.ipv4AddressNew (addr 0) (addr 0) (addr 0) (addr 0))
  match smoltcp.ipCidrNew ipv4 prefixLen with
  | .error fault =>
      .error fault
  | .ok ip =>
      .ok {
        device := .new
        mac := smoltcp.ethernetAddress mac
        ip := ip
      }

/-- The addresses and address blocks of `smoltcp` keep what they are made of. -/
structure KeepsAddresses (smoltcp : Smoltcp) : Prop where
  ipv4AddressNew :
    ∀ first second : Fin 4 → UInt8,
      smoltcp.ipv4AddressNew (first 0) (first 1) (first 2) (first 3) =
          smoltcp.ipv4AddressNew
            (second 0) (second 1) (second 2) (second 3) →
        first = second
  ipv4 :
    Function.Injective smoltcp.ipv4
  ipCidrNew :
    ∀ address prefixLen,
      prefixLen ≤ 32 →
      ∃ cidr,
        smoltcp.ipCidrNew (smoltcp.ipv4 address) prefixLen = .ok cidr ∧
          smoltcp.address cidr = smoltcp.ipv4 address ∧
          smoltcp.prefixLen cidr = prefixLen
  ipCidrNewPanics :
    ∀ address prefixLen,
      32 < prefixLen →
      smoltcp.ipCidrNew (smoltcp.ipv4 address) prefixLen =
        .error .panicked

/-- The arguments of `IfaceEmulator::new`. -/
structure IfaceArgs where
  mac : Fin 6 → UInt8
  addr : Fin 4 → UInt8
  prefixLen : UInt8

namespace IfaceArgs

variable (smoltcp : Smoltcp)

/-- The interface that is built of the arguments. -/
def built (args : IfaceArgs) : Except Fault (IfaceEmulator smoltcp) :=
  IfaceEmulator.new smoltcp args.mac args.addr args.prefixLen

/-- The address that the octets of `addr` stand for. -/
def address (args : IfaceArgs) : smoltcp.IpAddress :=
  smoltcp.ipv4
    (smoltcp.ipv4AddressNew
      (args.addr 0) (args.addr 1) (args.addr 2) (args.addr 3))

/-- The arguments with the first octet of the address in all four places. -/
def firstFourTimes (args : IfaceArgs) : IfaceArgs :=
  { args with addr := fun _ => args.addr 0 }

/-- An interface is built, and it carries the address and the prefix of the arguments. -/
def Carried (args : IfaceArgs) : Prop :=
  ∃ iface,
    args.built smoltcp = .ok iface ∧
      smoltcp.address iface.ip = args.address smoltcp ∧
      smoltcp.prefixLen iface.ip = args.prefixLen

/-- The arguments give an interface of the same address as other arguments. -/
def SharesAddress (args other : IfaceArgs) : Prop :=
  ∃ iface otherIface,
    args.built smoltcp = .ok iface ∧
      other.built smoltcp = .ok otherIface ∧
      smoltcp.address iface.ip = smoltcp.address otherIface.ip

/-- All octets of the address are the first one, and the prefix is one of IPv4. -/
structure Uniform (args : IfaceArgs) : Prop where
  octets :
    ∀ index, args.addr index = args.addr 0
  prefixLen :
    args.prefixLen ≤ 32

end IfaceArgs

section KeepsAddresses

variable {smoltcp : Smoltcp}

theorem address_inj
    (keeps : KeepsAddresses smoltcp)
    (args other : IfaceArgs) :
    args.address smoltcp = other.address smoltcp ↔
      args.addr = other.addr := by
  constructor
  · intro sameAddress
    exact keeps.ipv4AddressNew args.addr other.addr (keeps.ipv4 sameAddress)
  · intro sameOctets
    rw [IfaceArgs.address, IfaceArgs.address, sameOctets]

/-- A prefix of IPv4 gives an interface with the first octet in all four places. -/
theorem built_of_prefixLen_le
    (keeps : KeepsAddresses smoltcp)
    {args : IfaceArgs}
    (isPrefix : args.prefixLen ≤ 32) :
    ∃ iface,
      args.built smoltcp = .ok iface ∧
        smoltcp.address iface.ip = args.firstFourTimes.address smoltcp ∧
        smoltcp.prefixLen iface.ip = args.prefixLen := by
  obtain ⟨cidr, isCidr, isAddress, isPrefixLen⟩ :=
    keeps.ipCidrNew
      (smoltcp.ipv4AddressNew
        (args.addr 0) (args.addr 0) (args.addr 0) (args.addr 0))
      args.prefixLen isPrefix
  refine ⟨⟨.new, smoltcp.ethernetAddress args.mac, cidr⟩, ?_, isAddress,
    isPrefixLen⟩
  simp only [IfaceArgs.built, IfaceEmulator.new, isCidr]

/-- No interface is built of a longer prefix. -/
theorem prefixLen_le_of_built
    (keeps : KeepsAddresses smoltcp)
    {args : IfaceArgs}
    {iface : IfaceEmulator smoltcp}
    (isBuilt : args.built smoltcp = .ok iface) :
    args.prefixLen ≤ 32 := by
  by_contra notPrefix
  have panics :=
    keeps.ipCidrNewPanics
      (smoltcp.ipv4AddressNew
        (args.addr 0) (args.addr 0) (args.addr 0) (args.addr 0))
      args.prefixLen (UInt8.not_le.mp notPrefix)
  simp [IfaceArgs.built, IfaceEmulator.new, panics] at isBuilt

/-- An interface carries its address exactly if all octets are the same. -/
theorem carried_iff_uniform
    (keeps : KeepsAddresses smoltcp)
    (args : IfaceArgs) :
    args.Carried smoltcp ↔ args.Uniform := by
  constructor
  · rintro ⟨iface, isBuilt, carried, -⟩
    have isPrefix := prefixLen_le_of_built keeps isBuilt
    obtain ⟨_, isIface, isAddress, -⟩ := built_of_prefixLen_le keeps isPrefix
    obtain rfl := Except.ok.inj (isBuilt.symm.trans isIface)
    rw [isAddress, address_inj keeps] at carried
    exact ⟨fun index => (congrFun carried index).symm, isPrefix⟩
  · intro uniform
    obtain ⟨iface, isIface, isAddress, isPrefixLen⟩ :=
      built_of_prefixLen_le keeps uniform.prefixLen
    refine ⟨iface, isIface, ?_, isPrefixLen⟩
    rw [isAddress, address_inj keeps]
    funext index
    exact (uniform.octets index).symm

/-- Two interfaces share an address exactly if the first octets are the same. -/
theorem sharesAddress_iff
    (keeps : KeepsAddresses smoltcp)
    (args other : IfaceArgs) :
    args.SharesAddress smoltcp other ↔
      (args.prefixLen ≤ 32 ∧ other.prefixLen ≤ 32) ∧
        args.addr 0 = other.addr 0 := by
  have address_iff :
      args.firstFourTimes.address smoltcp =
          other.firstFourTimes.address smoltcp ↔
        args.addr 0 = other.addr 0 := by
    rw [address_inj keeps]
    exact ⟨fun sameOctets => congrFun sameOctets 0,
      fun sameFirst => funext fun _ => sameFirst⟩
  rw [← address_iff]
  constructor
  · rintro ⟨_, _, isBuilt, otherIsBuilt, sameAddress⟩
    have isPrefix := prefixLen_le_of_built keeps isBuilt
    have otherIsPrefix := prefixLen_le_of_built keeps otherIsBuilt
    obtain ⟨_, isIface, isAddress, -⟩ := built_of_prefixLen_le keeps isPrefix
    obtain ⟨_, isOther, otherIsAddress, -⟩ :=
      built_of_prefixLen_le keeps otherIsPrefix
    obtain rfl := Except.ok.inj (isBuilt.symm.trans isIface)
    obtain rfl := Except.ok.inj (otherIsBuilt.symm.trans isOther)
    rw [isAddress, otherIsAddress] at sameAddress
    exact ⟨⟨isPrefix, otherIsPrefix⟩, sameAddress⟩
  · rintro ⟨⟨isPrefix, otherIsPrefix⟩, sameAddress⟩
    obtain ⟨iface, isIface, isAddress, -⟩ :=
      built_of_prefixLen_le keeps isPrefix
    obtain ⟨otherIface, isOther, otherIsAddress, -⟩ :=
      built_of_prefixLen_le keeps otherIsPrefix
    refine ⟨iface, otherIface, isIface, isOther, ?_⟩
    rw [isAddress, otherIsAddress, sameAddress]

/-- Interfaces of four equal octets share an address only for the same octets. -/
theorem addr_eq_of_sharesAddress
    (keeps : KeepsAddresses smoltcp)
    {args other : IfaceArgs}
    (uniform : args.Uniform)
    (otherUniform : other.Uniform)
    (shares : args.SharesAddress smoltcp other) :
    args.addr = other.addr := by
  obtain ⟨-, sameFirst⟩ := (sharesAddress_iff keeps args other).mp shares
  funext index
  calc
    args.addr index = args.addr 0 := uniform.octets index
    _ = other.addr 0 := sameFirst
    _ = other.addr index := (otherUniform.octets index).symm

end KeepsAddresses

end VDataplane
