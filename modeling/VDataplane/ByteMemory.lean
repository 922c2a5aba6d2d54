import Mathlib

namespace VDataplane

/-!
# Byte memory with 64-bit addresses

Memory is a total function from addresses to bytes.  Address arithmetic wraps,
so a block that starts near the top of the address space continues at the
bottom, and an offset that is negative as a signed number reaches the bytes
below its base.
-/

/-- One byte at every 64-bit address. -/
abbrev ByteMemory :=
  UInt64 → UInt8

namespace ByteMemory

/-- Load a 16-bit value whose first byte is the least significant one. -/
def load16
    (memory : ByteMemory)
    (address : UInt64) :
    UInt16 :=
  (memory address).toUInt16 + 256 * (memory (address + 1)).toUInt16

/-- Load a 32-bit value whose first byte is the least significant one. -/
def load32
    (memory : ByteMemory)
    (address : UInt64) :
    UInt32 :=
  (memory address).toUInt32 +
    256 * (memory (address + 1)).toUInt32 +
    65536 * (memory (address + 2)).toUInt32 +
    16777216 * (memory (address + 3)).toUInt32

/-- Copy `count` bytes from `source` to `target`; the two blocks may overlap. -/
def copy
    (memory : ByteMemory)
    (source target count : UInt64) :
    ByteMemory :=
  fun address =>
    if address - target < count then
      memory (source + (address - target))
    else
      memory address

/-- Store a list of bytes from `target` upwards. -/
def store
    (memory : ByteMemory)
    (target : UInt64)
    (bytes : List UInt8) :
    ByteMemory :=
  fun address =>
    bytes.getD (address - target).toNat (memory address)

/-- A copy leaves every address outside its target block as it was. -/
theorem copy_outside
    {memory : ByteMemory}
    {source target count address : UInt64}
    (outside : count ≤ address - target) :
    memory.copy source target count address = memory address := by
  have notInside : ¬ address - target < count :=
    UInt64.not_lt.mpr outside
  simp [copy, notInside]

/-- A store leaves every address outside its target block as it was. -/
theorem store_outside
    {memory : ByteMemory}
    {target address : UInt64}
    {bytes : List UInt8}
    (outside : bytes.length ≤ (address - target).toNat) :
    memory.store target bytes address = memory address := by
  unfold store
  exact List.getD_eq_default _ _ outside

/-- A distance from `base + shift` is the distance from `base`, less the shift. -/
theorem sub_base_add
    {address base shift : UInt64}
    (behind : shift.toNat ≤ (address - base).toNat) :
    (address - (base + shift)).toNat =
      (address - base).toNat - shift.toNat := by
  have addressLt := address.toNat_lt
  have baseLt := base.toNat_lt
  have shiftLt := shift.toNat_lt
  rw [UInt64.toNat_sub, UInt64.toNat_add]
  rw [UInt64.toNat_sub] at behind ⊢
  omega

/-- A copy into a window above `base` leaves what is beyond the window as it was. -/
theorem copy_window
    {memory : ByteMemory}
    {source base shift count address : UInt64}
    {limit : Nat}
    (fits : shift.toNat + count.toNat ≤ limit)
    (beyond : limit ≤ (address - base).toNat) :
    memory.copy source (base + shift) count address = memory address := by
  apply copy_outside
  rw [UInt64.le_iff_toNat_le, sub_base_add (by omega)]
  omega

/-- A store into a window above `base` leaves what is beyond the window as it was. -/
theorem store_window
    {memory : ByteMemory}
    {base shift address : UInt64}
    {bytes : List UInt8}
    {limit : Nat}
    (fits : shift.toNat + bytes.length ≤ limit)
    (beyond : limit ≤ (address - base).toNat) :
    memory.store (base + shift) bytes address = memory address := by
  apply store_outside
  rw [sub_base_add (by omega)]
  omega

theorem load32_toNat
    (memory : ByteMemory)
    (address : UInt64) :
    (memory.load32 address).toNat =
      (memory address).toNat +
        256 * (memory (address + 1)).toNat +
        65536 * (memory (address + 2)).toNat +
        16777216 * (memory (address + 3)).toNat := by
  have first := (memory address).toNat_lt
  have second := (memory (address + 1)).toNat_lt
  have third := (memory (address + 2)).toNat_lt
  have fourth := (memory (address + 3)).toNat_lt
  simp only [load32, UInt32.toNat_add, UInt32.toNat_mul,
    UInt8.toNat_toUInt32, UInt32.reduceToNat]
  omega

end ByteMemory

end VDataplane
