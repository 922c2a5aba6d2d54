import VDataplane.Mbuf
import VDataplane.Shim

namespace VDataplane

/-!
# IPv4 addresses and headers

`net/ipv4hdr.rs` and the address type of the standard library.  Reading the
header of a packet without one dereferences NULL, which is a fault of the
program and no value of any type it computes with.
-/

/-- `Ipv4Addr`: the four octets in the order in which they are written. -/
structure Ipv4Addr where
  a : UInt8
  b : UInt8
  c : UInt8
  d : UInt8
  deriving Repr, DecidableEq

/-- The two address fields of an `rte_ipv4_hdr`, as raw little-endian words. -/
structure Ipv4Hdr where
  srcAddr : UInt32
  dstAddr : UInt32
  deriving Repr, DecidableEq

namespace Ipv4Hdr

/-- `offsetof(struct rte_ipv4_hdr, src_addr)`. -/
def srcAddrOffset : UInt64 := 12

/-- `offsetof(struct rte_ipv4_hdr, dst_addr)`. -/
def dstAddrOffset : UInt64 := 16

/-- `Ipv4Hdr::from_mbuf`: copy the header that the shim found, without a check for NULL. -/
def fromMbuf (buf : Mbuf) : Except Fault Ipv4Hdr :=
  match Shim.pktIpv4Hdr buf.getPtr with
  | none =>
      .error .nullDereference
  | some ipv4 =>
      .ok {
        srcAddr := buf.getPtr.memory.load32 (ipv4 + srcAddrOffset)
        dstAddr := buf.getPtr.memory.load32 (ipv4 + dstAddrOffset)
      }

/-- `Ipv4Hdr::convert`: the most significant byte becomes the first octet. -/
def convert (ip : UInt32) : Ipv4Addr where
  a :=
    ((ip >>> 24) &&& 0xFF).toUInt8
  b :=
    ((ip >>> 16) &&& 0xFF).toUInt8
  c :=
    ((ip >>> 8) &&& 0xFF).toUInt8
  d :=
    (ip &&& 0xFF).toUInt8

/-- `Ipv4Hdr::get_src_addr`. -/
def getSrcAddr (hdr : Ipv4Hdr) : Ipv4Addr :=
  convert hdr.srcAddr

/-- `Ipv4Hdr::get_dst_addr`. -/
def getDstAddr (hdr : Ipv4Hdr) : Ipv4Addr :=
  convert hdr.dstAddr

end Ipv4Hdr

/-- The address with the octets in the opposite order. -/
def Ipv4Addr.reversed (ip : Ipv4Addr) : Ipv4Addr where
  a :=
    ip.d
  b :=
    ip.c
  c :=
    ip.b
  d :=
    ip.a

/-- The address whose octets stand at an index of a packet's memory, in wire order. -/
def Ipv4Addr.onWire
    (memory : ByteMemory)
    (address : UInt64) :
    Ipv4Addr where
  a :=
    memory address
  b :=
    memory (address + 1)
  c :=
    memory (address + 2)
  d :=
    memory (address + 3)

/-- Converting a little-endian load reverses the octets of the wire. -/
theorem Ipv4Hdr.convert_load32
    (memory : ByteMemory)
    (address : UInt64) :
    convert (memory.load32 address) =
      (Ipv4Addr.onWire memory address).reversed := by
  have loaded := memory.load32_toNat address
  have first := (memory address).toNat_lt
  have second := (memory (address + 1)).toNat_lt
  have third := (memory (address + 2)).toNat_lt
  have fourth := (memory (address + 3)).toNat_lt
  simp only [convert, Ipv4Addr.onWire, Ipv4Addr.reversed, Ipv4Addr.mk.injEq]
  refine ⟨?_, ?_, ?_, ?_⟩ <;>
    rw [ByteMemory.toUInt8_mask, ← UInt8.toNat_inj,
      UInt32.toNat_toUInt8] <;>
    simp [loaded, Nat.shiftRight_eq_div_pow] <;>
    omega

/-- The address 10.0.0.2 comes out as 2.0.0.10. -/
example :
    let memory : ByteMemory := fun index =>
      if index = 0 then 10 else if index = 3 then 2 else 0
    Ipv4Hdr.convert (memory.load32 0) = ⟨2, 0, 0, 10⟩ := by
  decide

end VDataplane
