import VDataplane.ByteMemory

namespace VDataplane.ByteMemory

/-!
# Windows of byte memory

The bytes of a block, as a list, and what copies and stores do to them.  All
addresses are given by their distance from a common base, so that blocks are
compared by comparing numbers.
-/

/-- The `count` bytes from `base` upwards. -/
def window
    (memory : ByteMemory)
    (base : UInt64)
    (count : Nat) :
    List UInt8 :=
  (List.range count).map fun index => memory (base + UInt64.ofNat index)

@[simp] theorem length_window
    (memory : ByteMemory)
    (base : UInt64)
    (count : Nat) :
    (memory.window base count).length = count := by
  simp [window]

/-- A window consists of a lower and an upper part. -/
theorem window_add
    (memory : ByteMemory)
    (base : UInt64)
    (lower upper : Nat) :
    memory.window base (lower + upper) =
      memory.window base lower ++
        memory.window (base + UInt64.ofNat lower) upper := by
  unfold window
  rw [List.range_add, List.map_append, List.map_map]
  congr 1
  apply List.map_congr_left
  intro index _
  rw [Function.comp_apply, UInt64.ofNat_add, ← UInt64.add_assoc]

/-- Windows are the same where the memories are. -/
theorem window_congr
    {memory other : ByteMemory}
    {base otherBase : UInt64}
    {count : Nat}
    (same :
      ∀ index, index < count →
        memory (base + UInt64.ofNat index) =
          other (otherBase + UInt64.ofNat index)) :
    memory.window base count = other.window otherBase count := by
  apply List.map_congr_left
  intro index member
  exact same index (List.mem_range.mp member)

/-- The lower part of a window. -/
theorem take_window
    (memory : ByteMemory)
    (base : UInt64)
    {lower count : Nat}
    (inside : lower ≤ count) :
    (memory.window base count).take lower = memory.window base lower := by
  obtain ⟨upper, rfl⟩ := Nat.exists_eq_add_of_le inside
  rw [window_add]
  apply List.take_left'
  exact length_window _ _ _

/-- The upper part of a window. -/
theorem drop_window
    (memory : ByteMemory)
    (base : UInt64)
    {lower count : Nat}
    (inside : lower ≤ count) :
    (memory.window base count).drop lower =
      memory.window (base + UInt64.ofNat lower) (count - lower) := by
  obtain ⟨upper, rfl⟩ := Nat.exists_eq_add_of_le inside
  rw [window_add, Nat.add_sub_cancel_left]
  apply List.drop_left'
  exact length_window _ _ _

/-! ## Copies -/

/-- A copy, at distances from a base. -/
theorem copy_add
    (memory : ByteMemory)
    (base source target count index : UInt64) :
    memory.copy (base + source) (base + target) count (base + index) =
      if index - target < count then
        memory (base + (source + (index - target)))
      else
        memory (base + index) := by
  have sameDistance : base + index - (base + target) = index - target := by
    grind
  rw [copy, sameDistance, UInt64.add_assoc]

/-- Inside its target block a copy reads the source block as it was before. -/
theorem copy_inside
    {memory : ByteMemory}
    {base source target count index : UInt64}
    (from_target : target.toNat ≤ index.toNat)
    (inside : index.toNat < target.toNat + count.toNat) :
    memory.copy (base + source) (base + target) count (base + index) =
      memory (base + (source + (index - target))) := by
  have distance : (index - target).toNat = index.toNat - target.toNat :=
    UInt64.toNat_sub_of_le _ _ (UInt64.le_iff_toNat_le.mpr from_target)
  have isInside : index - target < count := by
    rw [UInt64.lt_iff_toNat_lt, distance]
    omega
  rw [copy_add, if_pos isInside]

/-- Below its target block a copy changes nothing. -/
theorem copy_below
    {memory : ByteMemory}
    {base source target count index : UInt64}
    (fits : target.toNat + count.toNat ≤ 2 ^ 64)
    (below : index.toNat < target.toNat) :
    memory.copy source (base + target) count (base + index) =
      memory (base + index) := by
  have indexLt := index.toNat_lt
  have targetLt := target.toNat_lt
  apply copy_outside
  have sameDistance : base + index - (base + target) = index - target := by
    grind
  rw [sameDistance, UInt64.le_iff_toNat_le, UInt64.toNat_sub]
  omega

/-- Above its target block a copy changes nothing. -/
theorem copy_above
    {memory : ByteMemory}
    {base source target count index : UInt64}
    (above : target.toNat + count.toNat ≤ index.toNat) :
    memory.copy source (base + target) count (base + index) =
      memory (base + index) := by
  have targetLe : target.toNat ≤ index.toNat :=
    (Nat.le_add_right _ _).trans above
  apply copy_outside
  have sameDistance : base + index - (base + target) = index - target := by
    grind
  rw [sameDistance, UInt64.le_iff_toNat_le,
    UInt64.toNat_sub_of_le _ _ (UInt64.le_iff_toNat_le.mpr targetLe)]
  omega

/-! ## Stores -/

/-- A store is read back. -/
theorem window_store
    {memory : ByteMemory}
    {target : UInt64}
    {bytes : List UInt8}
    (fits : bytes.length ≤ 2 ^ 64) :
    (memory.store target bytes).window target bytes.length = bytes := by
  apply List.ext_getElem
  · exact length_window _ _ _
  · intro index _ isIndex
    have sameIndex : (UInt64.ofNat index).toNat = index :=
      UInt64.toNat_ofNat_of_lt' (isIndex.trans_le fits)
    have sameDistance :
        target + UInt64.ofNat index - target = UInt64.ofNat index := by
      grind
    have readBack :
        memory.store target bytes (target + UInt64.ofNat index) =
          bytes[index] := by
      rw [store, sameDistance, sameIndex]
      exact List.getD_eq_getElem _ _ isIndex
    simpa [window] using readBack

/-- A store changes nothing in the window that ends where it starts. -/
theorem window_store_below
    {memory : ByteMemory}
    {base : UInt64}
    {offset : Nat}
    {bytes : List UInt8}
    (fits : offset + bytes.length ≤ 2 ^ 64) :
    (memory.store (base + UInt64.ofNat offset) bytes).window base offset =
      memory.window base offset := by
  apply window_congr
  intro index below
  apply store_outside
  have sameDistance :
      base + UInt64.ofNat index - (base + UInt64.ofNat offset) =
        UInt64.ofNat index - UInt64.ofNat offset := by
    grind
  rw [sameDistance, UInt64.toNat_sub, UInt64.toNat_ofNat',
    UInt64.toNat_ofNat']
  omega

/-- A store changes nothing in the window behind it. -/
theorem window_store_above
    {memory : ByteMemory}
    {target : UInt64}
    {bytes : List UInt8}
    {count : Nat}
    (fits : bytes.length + count ≤ 2 ^ 64) :
    (memory.store target bytes).window
        (target + UInt64.ofNat bytes.length) count =
      memory.window (target + UInt64.ofNat bytes.length) count := by
  apply window_congr
  intro index isIndex
  apply store_outside
  have sameDistance :
      target + UInt64.ofNat bytes.length + UInt64.ofNat index - target =
        UInt64.ofNat (bytes.length + index) := by
    rw [UInt64.ofNat_add]
    grind
  rw [sameDistance, UInt64.toNat_ofNat']
  omega

/-- A store changes nothing in a window that does not overlap it. -/
theorem window_store_apart
    {memory : ByteMemory}
    {base target index : UInt64}
    {bytes : List UInt8}
    {count : Nat}
    (storeFits : target.toNat + bytes.length ≤ 2 ^ 64)
    (windowFits : index.toNat + count ≤ 2 ^ 64)
    (apart :
      target.toNat + bytes.length ≤ index.toNat ∨
        index.toNat + count ≤ target.toNat) :
    (memory.store (base + target) bytes).window (base + index) count =
      memory.window (base + index) count := by
  apply window_congr
  intro place isPlace
  have targetLt := target.toNat_lt
  have indexLt := index.toNat_lt
  have sameDistance :
      base + index + UInt64.ofNat place - (base + target) =
        index + UInt64.ofNat place - target := by
    grind
  apply store_outside
  rw [sameDistance, UInt64.toNat_sub, UInt64.toNat_add, UInt64.toNat_ofNat']
  omega

/-- A store inside a window replaces as many bytes as it stores. -/
theorem window_store_inside
    {memory : ByteMemory}
    {base : UInt64}
    {offset count : Nat}
    {bytes : List UInt8}
    (fits : count ≤ 2 ^ 64)
    (inside : offset + bytes.length ≤ count) :
    (memory.store (base + UInt64.ofNat offset) bytes).window base count =
      (memory.window base count).take offset ++ bytes ++
        (memory.window base count).drop (offset + bytes.length) := by
  obtain ⟨rest, rfl⟩ := Nat.exists_eq_add_of_le inside
  have offsetLe : offset ≤ offset + bytes.length + rest :=
    (Nat.le_add_right _ _).trans inside
  rw [take_window _ _ offsetLe, drop_window _ _ inside,
    Nat.add_sub_cancel_left, window_add, window_add, UInt64.ofNat_add,
    ← UInt64.add_assoc, window_store_below (inside.trans fits),
    window_store (by omega), window_store_above (by omega)]

/-! ## Records -/

/-- Bytes at a distance from the start of a record. -/
structure PlacedBytes where
  offset : UInt64
  bytes : List UInt8

namespace PlacedBytes

/-- A field ends before the address space does. -/
def Fits (field : PlacedBytes) : Prop :=
  field.offset.toNat + field.bytes.length ≤ 2 ^ 64

/-- Two fields do not overlap. -/
def Apart (first second : PlacedBytes) : Prop :=
  first.offset.toNat + first.bytes.length ≤ second.offset.toNat ∨
    second.offset.toNat + second.bytes.length ≤ first.offset.toNat

end PlacedBytes

/-- Store the fields of a record one after the other. -/
def storeFields
    (memory : ByteMemory)
    (base : UInt64)
    (fields : List PlacedBytes) :
    ByteMemory :=
  fields.foldl
    (fun memory field => memory.store (base + field.offset) field.bytes)
    memory

/-- Fields that are stored apart from another one leave it as it is. -/
theorem window_storeFields_apart
    {memory : ByteMemory}
    {base : UInt64}
    {field : PlacedBytes}
    {fields : List PlacedBytes}
    (fieldFits : field.Fits)
    (fits : ∀ stored ∈ fields, stored.Fits)
    (apart : ∀ stored ∈ fields, field.Apart stored) :
    (memory.storeFields base fields).window
        (base + field.offset) field.bytes.length =
      memory.window (base + field.offset) field.bytes.length := by
  induction fields generalizing memory with
  | nil =>
      rfl
  | cons stored rest inductionHypothesis =>
      have storedApart :
          stored.offset.toNat + stored.bytes.length ≤ field.offset.toNat ∨
            field.offset.toNat + field.bytes.length ≤
              stored.offset.toNat :=
        (apart stored (List.mem_cons_self ..)).symm
      calc
        (memory.storeFields base (stored :: rest)).window
            (base + field.offset) field.bytes.length
            = (memory.store (base + stored.offset) stored.bytes).window
                (base + field.offset) field.bytes.length :=
              inductionHypothesis
                (fun other isRest =>
                  fits other (List.mem_cons_of_mem _ isRest))
                (fun other isRest =>
                  apart other (List.mem_cons_of_mem _ isRest))
        _ = memory.window (base + field.offset) field.bytes.length :=
              window_store_apart (fits stored (List.mem_cons_self ..))
                fieldFits storedApart

/-- Every field of a record is read back, when no two of them overlap. -/
theorem window_storeFields
    {memory : ByteMemory}
    {base : UInt64}
    {field : PlacedBytes}
    {fields : List PlacedBytes}
    (fits : ∀ stored ∈ fields, stored.Fits)
    (pairwiseApart : fields.Pairwise PlacedBytes.Apart)
    (member : field ∈ fields) :
    (memory.storeFields base fields).window
        (base + field.offset) field.bytes.length =
      field.bytes := by
  induction fields generalizing memory with
  | nil =>
      exact absurd member List.not_mem_nil
  | cons stored rest inductionHypothesis =>
      obtain ⟨storedApart, restApart⟩ := List.pairwise_cons.mp pairwiseApart
      have restFits : ∀ other ∈ rest, other.Fits :=
        fun other isRest => fits other (List.mem_cons_of_mem _ isRest)
      rcases List.mem_cons.mp member with rfl | isRest
      · have fieldFits := fits field member
        calc
          (memory.storeFields base (field :: rest)).window
              (base + field.offset) field.bytes.length
              = (memory.store (base + field.offset) field.bytes).window
                  (base + field.offset) field.bytes.length :=
                window_storeFields_apart fieldFits restFits storedApart
          _ = field.bytes :=
                window_store ((Nat.le_add_left _ _).trans fieldFits)
      · exact inductionHypothesis restFits restApart isRest

end VDataplane.ByteMemory
