import Mathlib

namespace VDataplane.Toeplitz

/-!
# Toeplitz hashes

A Toeplitz hash combines, for every input bit that is set, the window of the key
that starts at the index of the bit.  Where the windows repeat after some number
of bits, two neighbouring parts of the input that are this far apart can be
exchanged.
-/

/-! ## Hashes of bits -/

section Hash

variable
  {width : Nat}
  {window : Nat → BitVec width}

/-- The hash of input bits of which the first one has the given index. -/
def hashFrom (window : Nat → BitVec width) : Nat → List Bool → BitVec width
  | _, [] =>
      0
  | index, bit :: rest =>
      (if bit then window index else 0) ^^^
        hashFrom window (index + 1) rest

/-- The hash of an input consists of the hashes of its parts. -/
theorem hashFrom_append
    (index : Nat)
    (first second : List Bool) :
    hashFrom window index (first ++ second) =
      hashFrom window index first ^^^
        hashFrom window (index + first.length) second := by
  induction first generalizing index with
  | nil =>
      exact (BitVec.zero_xor).symm
  | cons bit rest inductionHypothesis =>
      rw [List.cons_append, hashFrom, hashFrom, inductionHypothesis,
        List.length_cons, BitVec.xor_assoc, Nat.add_assoc,
        Nat.add_comm 1]

/-- Two places where the windows are the same give an input the same hash. -/
theorem hashFrom_congr
    {first second : Nat}
    {bits : List Bool}
    (same :
      ∀ distance, distance < bits.length →
        window (first + distance) = window (second + distance)) :
    hashFrom window first bits = hashFrom window second bits := by
  induction bits generalizing first second with
  | nil =>
      rfl
  | cons bit rest inductionHypothesis =>
      have sameHead : window first = window second :=
        same 0 (Nat.succ_pos _)
      have sameRest :
          hashFrom window (first + 1) rest =
            hashFrom window (second + 1) rest := by
        apply inductionHypothesis
        intro distance below
        rw [Nat.add_assoc, Nat.add_assoc, Nat.add_comm 1]
        exact same (distance + 1) (Nat.succ_lt_succ below)
      rw [hashFrom, hashFrom, sameHead, sameRest]

/-- Two parts of the same length can be exchanged where the windows repeat after it. -/
theorem hashFrom_swap
    {index : Nat}
    {first second : List Bool}
    (sameLength : first.length = second.length)
    (repeats :
      ∀ distance, distance < first.length →
        window (index + distance) =
          window (index + first.length + distance)) :
    hashFrom window index (first ++ second) =
      hashFrom window index (second ++ first) := by
  have firstMoved :
      hashFrom window index first =
        hashFrom window (index + first.length) first :=
    hashFrom_congr repeats
  have secondMoved :
      hashFrom window index second =
        hashFrom window (index + first.length) second := by
    apply hashFrom_congr
    rwa [← sameLength]
  rw [hashFrom_append, hashFrom_append, firstMoved, ← secondMoved,
    ← sameLength, BitVec.xor_comm]

end Hash

/-! ## Windows of a key -/

/-- The bits of a byte, the most significant one first. -/
def byteBits (byte : UInt8) : List Bool :=
  (List.range 8).map fun index => byte.toNat.testBit (7 - index)

/-- The bits of a sequence of bytes. -/
def bits (bytes : List UInt8) : List Bool :=
  bytes.flatMap byteBits

@[simp] theorem length_bits (bytes : List UInt8) :
    (bits bytes).length = 8 * bytes.length := by
  simp [bits, byteBits, List.length_flatMap, Nat.mul_comm]

@[simp] theorem bits_append (first second : List UInt8) :
    bits (first ++ second) = bits first ++ bits second :=
  List.flatMap_append

/-- The number that a sequence of bits denotes, the most significant one first. -/
def number (width : Nat) (bits : List Bool) : BitVec width :=
  bits.foldl
    (fun value bit => value <<< 1 ||| (BitVec.ofBool bit).setWidth width) 0

/-- The window of a key that starts at an index. -/
def keyWindow
    (width : Nat)
    (key : List UInt8)
    (index : Nat) :
    BitVec width :=
  number width (((bits key).drop index).take width)

/-- The hash of an input under a key. -/
def hash
    (width : Nat)
    (key input : List UInt8) :
    BitVec width :=
  hashFrom (keyWindow width key) 0 (bits input)

/-- A published test vector: 66.9.149.187 to 161.142.100.80. -/
example :
    hash 32 [
      0x6d, 0x5a, 0x56, 0xda, 0x25, 0x5b, 0x0e, 0xc2, 0x41, 0x67,
      0x25, 0x3d, 0x43, 0xa3, 0x8f, 0xb0, 0xd0, 0xca, 0x2b, 0xcb,
      0xae, 0x7b, 0x30, 0xb4, 0x77, 0xcb, 0x2d, 0xa3, 0x80, 0x30,
      0xf2, 0x0c, 0x6a, 0x42, 0xb7, 0x3b, 0xbe, 0xac, 0x01, 0xfa
    ] [66, 9, 149, 187, 161, 142, 100, 80] = 0x323e8fc2 := by
  decide +kernel

/-- The windows of a key that repeats a block are those of one block less, as long as they end in it. -/
theorem keyWindow_replicate_succ
    {width count index : Nat}
    {block : List UInt8}
    (inside : index + width ≤ 8 * block.length * count) :
    keyWindow width (List.replicate (count + 1) block).flatten index =
      keyWindow width (List.replicate count block).flatten index := by
  have shorter :
      (bits (List.replicate count block).flatten).length =
        8 * block.length * count := by
    simp [Nat.mul_comm, Nat.mul_assoc]
  have split :
      (List.replicate (count + 1) block).flatten =
        (List.replicate count block).flatten ++ block := by
    rw [List.replicate_succ', List.flatten_append, List.flatten_singleton]
  rw [keyWindow, keyWindow, split, bits_append,
    List.drop_append_of_le_length (by omega),
    List.take_append_of_le_length (by rw [List.length_drop]; omega)]

/-- The windows of a key that repeats a block repeat with it. -/
theorem keyWindow_add_block
    {width count index : Nat}
    {block : List UInt8}
    (inside :
      index + 8 * block.length + width ≤ 8 * block.length * count) :
    keyWindow width (List.replicate count block).flatten
        (index + 8 * block.length) =
      keyWindow width (List.replicate count block).flatten index := by
  cases count with
  | zero =>
      have noBlock : 8 * block.length = 0 := by
        omega
      rw [noBlock, Nat.add_zero]
  | succ count =>
      have shorter : index + width ≤ 8 * block.length * count := by
        rw [Nat.mul_succ] at inside
        omega
      have blockLength : (bits block).length = 8 * block.length :=
        length_bits block
      rw [keyWindow_replicate_succ shorter, keyWindow, keyWindow,
        List.replicate_succ, List.flatten_cons, bits_append,
        Nat.add_comm index, ← blockLength, List.drop_length_add_append]

/-- The windows of a key that repeats a block repeat after any number of blocks. -/
theorem keyWindow_add_blocks
    {width count index : Nat}
    {block : List UInt8}
    (blocks : Nat)
    (inside :
      index + 8 * block.length * blocks + width ≤
        8 * block.length * count) :
    keyWindow width (List.replicate count block).flatten
        (index + 8 * block.length * blocks) =
      keyWindow width (List.replicate count block).flatten index := by
  induction blocks with
  | zero =>
      rfl
  | succ blocks inductionHypothesis =>
      rw [Nat.mul_succ, ← Nat.add_assoc] at inside ⊢
      rw [keyWindow_add_block inside]
      exact inductionHypothesis (by omega)

end VDataplane.Toeplitz
