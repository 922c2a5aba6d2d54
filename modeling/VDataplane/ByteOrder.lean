import VDataplane.ByteWindow

namespace VDataplane.ByteMemory

/-!
# Byte order

The bytes of 16- and 32-bit words, least significant first, and the words with
their bytes in the opposite order.  A load and the window it reads determine
each other, in either order of the bytes.
-/

/-- The 16-bit word of two bytes, the least significant one first. -/
def word16 (low high : UInt8) : UInt16 :=
  low.toUInt16 + 256 * high.toUInt16

/-- The 32-bit word of four bytes, the least significant one first. -/
def word32 (first second third fourth : UInt8) : UInt32 :=
  first.toUInt32 + 256 * second.toUInt32 +
    65536 * third.toUInt32 + 16777216 * fourth.toUInt32

/-- The bytes of a 16-bit word, least significant first. -/
def bytes16 (word : UInt16) : List UInt8 :=
  [word.toUInt8, (word >>> 8).toUInt8]

/-- The bytes of a 32-bit word, least significant first. -/
def bytes32 (word : UInt32) : List UInt8 :=
  [word.toUInt8, (word >>> 8).toUInt8,
    (word >>> 16).toUInt8, (word >>> 24).toUInt8]

/-- A 16-bit word with its bytes in the opposite order. -/
def swap16 (word : UInt16) : UInt16 :=
  word16 (word >>> 8).toUInt8 word.toUInt8

/-- A 32-bit word with its bytes in the opposite order. -/
def swap32 (word : UInt32) : UInt32 :=
  word32 (word >>> 24).toUInt8 (word >>> 16).toUInt8
    (word >>> 8).toUInt8 word.toUInt8

@[simp] theorem length_bytes16 (word : UInt16) :
    (bytes16 word).length = 2 :=
  rfl

@[simp] theorem length_bytes32 (word : UInt32) :
    (bytes32 word).length = 4 :=
  rfl

/-! ## Words and their bytes -/

theorem toNat_word16 (low high : UInt8) :
    (word16 low high).toNat = low.toNat + 256 * high.toNat := by
  have lowLt := low.toNat_lt
  have highLt := high.toNat_lt
  simp only [word16, UInt16.toNat_add, UInt16.toNat_mul,
    UInt8.toNat_toUInt16, UInt16.reduceToNat]
  omega

theorem toNat_word32 (first second third fourth : UInt8) :
    (word32 first second third fourth).toNat =
      first.toNat + 256 * second.toNat + 65536 * third.toNat +
        16777216 * fourth.toNat := by
  have firstLt := first.toNat_lt
  have secondLt := second.toNat_lt
  have thirdLt := third.toNat_lt
  have fourthLt := fourth.toNat_lt
  simp only [word32, UInt32.toNat_add, UInt32.toNat_mul,
    UInt8.toNat_toUInt32, UInt32.reduceToNat]
  omega

/-- The bytes of a 16-bit word are those it is put together from. -/
theorem bytes16_word16 (low high : UInt8) :
    bytes16 (word16 low high) = [low, high] := by
  have lowLt := low.toNat_lt
  have highLt := high.toNat_lt
  simp only [bytes16, List.cons.injEq, and_true, ← UInt8.toNat_inj,
    UInt16.toNat_toUInt8, UInt16.toNat_shiftRight, toNat_word16,
    UInt16.reduceToNat, Nat.reduceMod, Nat.reducePow,
    Nat.shiftRight_eq_div_pow]
  omega

/-- The bytes of a 32-bit word are those it is put together from. -/
theorem bytes32_word32 (first second third fourth : UInt8) :
    bytes32 (word32 first second third fourth) =
      [first, second, third, fourth] := by
  have firstLt := first.toNat_lt
  have secondLt := second.toNat_lt
  have thirdLt := third.toNat_lt
  have fourthLt := fourth.toNat_lt
  simp only [bytes32, List.cons.injEq, and_true, ← UInt8.toNat_inj,
    UInt32.toNat_toUInt8, UInt32.toNat_shiftRight, toNat_word32,
    UInt32.reduceToNat, Nat.reduceMod, Nat.reducePow,
    Nat.shiftRight_eq_div_pow]
  omega

/-- A 16-bit word is put together from its bytes. -/
theorem word16_bytes (word : UInt16) :
    word16 word.toUInt8 (word >>> 8).toUInt8 = word := by
  have wordLt := word.toNat_lt
  apply UInt16.toNat_inj.mp
  simp only [toNat_word16, UInt16.toNat_toUInt8, UInt16.toNat_shiftRight,
    UInt16.reduceToNat, Nat.reduceMod, Nat.reducePow,
    Nat.shiftRight_eq_div_pow]
  omega

/-- A 32-bit word is put together from its bytes. -/
theorem word32_bytes (word : UInt32) :
    word32 word.toUInt8 (word >>> 8).toUInt8
        (word >>> 16).toUInt8 (word >>> 24).toUInt8 =
      word := by
  have wordLt := word.toNat_lt
  apply UInt32.toNat_inj.mp
  simp only [toNat_word32, UInt32.toNat_toUInt8, UInt32.toNat_shiftRight,
    UInt32.reduceToNat, Nat.reduceMod, Nat.reducePow,
    Nat.shiftRight_eq_div_pow]
  omega

/-- A 16-bit word is determined by its bytes. -/
theorem bytes16_inj {first second : UInt16} :
    bytes16 first = bytes16 second ↔ first = second := by
  constructor
  · intro sameBytes
    simp only [bytes16, List.cons.injEq, and_true] at sameBytes
    rw [← word16_bytes first, ← word16_bytes second,
      sameBytes.1, sameBytes.2]
  · rintro rfl
    rfl

/-- A 32-bit word is determined by its bytes. -/
theorem bytes32_inj {first second : UInt32} :
    bytes32 first = bytes32 second ↔ first = second := by
  constructor
  · intro sameBytes
    simp only [bytes32, List.cons.injEq, and_true] at sameBytes
    obtain ⟨sameFirst, sameSecond, sameThird, sameFourth⟩ := sameBytes
    rw [← word32_bytes first, ← word32_bytes second,
      sameFirst, sameSecond, sameThird, sameFourth]
  · rintro rfl
    rfl

/-- Exchanging the bytes of a 16-bit word reverses their list. -/
theorem bytes16_swap16 (word : UInt16) :
    bytes16 (swap16 word) = (bytes16 word).reverse :=
  bytes16_word16 _ _

/-- Exchanging the bytes of a 32-bit word reverses their list. -/
theorem bytes32_swap32 (word : UInt32) :
    bytes32 (swap32 word) = (bytes32 word).reverse :=
  bytes32_word32 _ _ _ _

/-- Masking a word keeps its least significant byte. -/
theorem mask_eq_toUInt8 (word : UInt32) :
    word &&& 0xFF = word.toUInt8.toUInt32 := by
  have masked : word.toNat &&& 255 = word.toNat % 256 :=
    Nat.and_two_pow_sub_one_eq_mod word.toNat 8
  apply UInt32.toNat_inj.mp
  rw [UInt32.toNat_and, UInt8.toNat_toUInt32, UInt32.toNat_toUInt8]
  exact masked

/-- A mask of the least significant byte changes nothing that is cut down to it. -/
theorem toUInt8_mask (word : UInt32) :
    (word &&& 0xFF).toUInt8 = word.toUInt8 := by
  rw [mask_eq_toUInt8, UInt8.toUInt8_toUInt32]

/-- A byte that is shifted to its place in a word. -/
theorem toNat_toUInt32_shiftLeft
    (byte : UInt8)
    (shift : Nat)
    (isByteShift : shift ≤ 24) :
    (byte.toUInt32 <<< UInt32.ofNat shift).toNat = byte.toNat <<< shift := by
  have isShift : (UInt32.ofNat shift).toNat % 32 = shift := by
    rw [UInt32.toNat_ofNat']
    omega
  have fits : byte.toNat <<< shift < 2 ^ 32 := by
    calc
      byte.toNat <<< shift
          = byte.toNat * 2 ^ shift := Nat.shiftLeft_eq _ _
      _ < 2 ^ 8 * 2 ^ shift :=
          Nat.mul_lt_mul_of_pos_right byte.toNat_lt (Nat.two_pow_pos _)
      _ ≤ 2 ^ 8 * 2 ^ 24 :=
          Nat.mul_le_mul_left _ (Nat.pow_le_pow_right (by decide) isByteShift)
      _ = 2 ^ 32 := rfl
  rw [UInt32.toNat_shiftLeft, UInt8.toNat_toUInt32, isShift,
    Nat.mod_eq_of_lt fits]

/-- Four bytes that are shifted to their places do not overlap. -/
theorem or_shiftLeft_eq_word32 (first second third fourth : UInt8) :
    fourth.toUInt32 <<< 24 ||| third.toUInt32 <<< 16 |||
        second.toUInt32 <<< 8 ||| first.toUInt32 =
      word32 first second third fourth := by
  have highest := toNat_toUInt32_shiftLeft fourth 24 (by decide)
  have high := toNat_toUInt32_shiftLeft third 16 (by decide)
  have low := toNat_toUInt32_shiftLeft second 8 (by decide)
  have belowLow : first.toNat < 2 ^ 8 :=
    first.toNat_lt
  have belowHigh : second.toNat <<< 8 + first.toNat < 2 ^ 16 := by
    have secondLt := second.toNat_lt
    rw [Nat.shiftLeft_eq]
    omega
  have belowHighest :
      third.toNat <<< 16 + (second.toNat <<< 8 + first.toNat) < 2 ^ 24 := by
    have thirdLt := third.toNat_lt
    rw [Nat.shiftLeft_eq]
    omega
  simp only [UInt32.reduceOfNat] at highest high low
  apply UInt32.toNat_inj.mp
  rw [UInt32.toNat_or, UInt32.toNat_or, UInt32.toNat_or, highest, high, low,
    UInt8.toNat_toUInt32, Nat.or_assoc, Nat.or_assoc,
    ← Nat.shiftLeft_add_eq_or_of_lt belowLow,
    ← Nat.shiftLeft_add_eq_or_of_lt belowHigh,
    ← Nat.shiftLeft_add_eq_or_of_lt belowHighest, toNat_word32]
  simp only [Nat.shiftLeft_eq]
  omega

/-! ## Loads -/

/-- The bytes of a 16-bit load are the ones it reads. -/
theorem bytes16_load16
    (memory : ByteMemory)
    (address : UInt64) :
    bytes16 (memory.load16 address) = memory.window address 2 := by
  have loaded :
      bytes16 (memory.load16 address) =
        [memory address, memory (address + 1)] :=
    bytes16_word16 _ _
  rw [loaded]
  simp [window, List.range_succ]

/-- The bytes of a 32-bit load are the ones it reads. -/
theorem bytes32_load32
    (memory : ByteMemory)
    (address : UInt64) :
    bytes32 (memory.load32 address) = memory.window address 4 := by
  have loaded :
      bytes32 (memory.load32 address) =
        [memory address, memory (address + 1),
          memory (address + 2), memory (address + 3)] :=
    bytes32_word32 _ _ _ _
  rw [loaded]
  simp [window, List.range_succ]

/-- Which bytes a 16-bit load finds. -/
theorem load16_eq_iff
    {memory : ByteMemory}
    {address : UInt64}
    {word : UInt16} :
    memory.load16 address = word ↔
      memory.window address 2 = bytes16 word := by
  rw [← bytes16_load16, bytes16_inj]

/-- Which bytes a 16-bit load finds whose result is converted from network order. -/
theorem swap16_load16_eq_iff
    {memory : ByteMemory}
    {address : UInt64}
    {word : UInt16} :
    swap16 (memory.load16 address) = word ↔
      memory.window address 2 = (bytes16 word).reverse := by
  rw [← bytes16_inj, bytes16_swap16, bytes16_load16, List.reverse_eq_iff]

/-- Which bytes a 32-bit load finds whose result is converted from network order. -/
theorem swap32_load32_eq_iff
    {memory : ByteMemory}
    {address : UInt64}
    {word : UInt32} :
    swap32 (memory.load32 address) = word ↔
      memory.window address 4 = (bytes32 word).reverse := by
  rw [← bytes32_inj, bytes32_swap32, bytes32_load32, List.reverse_eq_iff]

end VDataplane.ByteMemory
