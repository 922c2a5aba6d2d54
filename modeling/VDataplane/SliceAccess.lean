import VDataplane.PacketBytes

namespace VDataplane.SliceAccess

open MbufInvariant PacketBytes

/-!
# Slices of packet data

Reads and writes of typed elements, addressed by the offset of the first byte.
A write compares the end of the slice with the length of the data.  A read of a
slice compares the same end with the bytes that are left behind the offset, so
that the offset counts twice.  A write finishes with such a read, which decides
its result when the bytes are already stored.
-/

/-- An element type.  No type is larger than `isize::MAX` bytes. -/
structure ElementType where
  size : UInt64
  bounded : size.toNat < 2 ^ 63

/-- Where `count` elements from `offset` on end, in bytes from the start of the data. -/
def windowEnd (size offset count : UInt64) : Nat :=
  offset.toNat + size.toNat * count.toNat

/-- A window of elements that starts and ends inside the data. -/
def InBounds
    (pkt : Mbuf)
    (size offset count : UInt64) :
    Prop :=
  offset.toNat < pkt.raw.dataLen.toNat ∧
    windowEnd size offset count ≤ pkt.raw.dataLen.toNat

instance
    (pkt : Mbuf)
    (size offset count : UInt64) :
    Decidable (InBounds pkt size offset count) :=
  inferInstanceAs (Decidable (_ ∧ _))

/-- The end of a window as the code computes it. -/
theorem toNat_windowEnd (size offset count : UInt64) :
    (offset + size * count).toNat = windowEnd size offset count % 2 ^ 64 := by
  rw [UInt64.toNat_add, UInt64.toNat_mul, Nat.add_mod_mod, windowEnd]

section Reads

variable
  {pkt : Mbuf}
  {size offset count address : UInt64}
  {slice : SlicePtr}

/-- Two checks in a row let pass what neither of them refuses. -/
private theorem twoChecks_ok_iff
    {Found : Type}
    {refusedFirst refusedSecond : Prop}
    [Decidable refusedFirst]
    [Decidable refusedSecond]
    {firstError secondError : BufError}
    {found returned : Found} :
    (if refusedFirst then
        .error firstError
      else if refusedSecond then
        .error secondError
      else
        .ok found) = (.ok returned : Except BufError Found) ↔
      returned = found ∧ ¬ refusedFirst ∧ ¬ refusedSecond := by
  by_cases first : refusedFirst
  · simp [first]
  · by_cases second : refusedSecond
    · simp [first, second]
    · simp only [first, second, if_false, not_false_eq_true, and_true,
        Except.ok.injEq]
      exact eq_comm

/-- The check of the offset lets pass what starts before the end of the data. -/
private theorem not_dataLen_le_iff :
    ¬ pkt.dataLen ≤ offset ↔ offset.toNat < pkt.raw.dataLen.toNat := by
  rw [UInt64.not_le, UInt64.lt_iff_toNat_lt, toNat_dataLen]

/-- What the two checks of a slice read let pass. -/
theorem readDataSlice_ok_iff :
    pkt.readDataSlice size offset count = .ok slice ↔
      slice = ⟨pkt.dataAddress offset, count⟩ ∧
        offset.toNat < pkt.raw.dataLen.toNat ∧
        windowEnd size offset count % 2 ^ 64 ≤
          pkt.raw.dataLen.toNat - offset.toNat := by
  rw [Mbuf.readDataSlice, twoChecks_ok_iff, not_dataLen_le_iff]
  apply and_congr_right'
  apply and_congr_right
  intro before
  have isLe : offset ≤ pkt.dataLen := by
    rw [UInt64.le_iff_toNat_le, toNat_dataLen]
    exact Nat.le_of_lt before
  rw [UInt64.not_lt, UInt64.le_iff_toNat_le, toNat_windowEnd,
    UInt64.toNat_sub_of_le _ _ isLe, toNat_dataLen]

/-- What the two checks of a read of one element let pass. -/
theorem readData_ok_iff :
    pkt.readData size offset = .ok address ↔
      address = pkt.dataAddress offset ∧
        offset.toNat < pkt.raw.dataLen.toNat ∧
        windowEnd size offset 1 % 2 ^ 64 ≤ pkt.raw.dataLen.toNat := by
  rw [Mbuf.readData, twoChecks_ok_iff, not_dataLen_le_iff, UInt64.not_lt,
    UInt64.le_iff_toNat_le, toNat_dataLen, ← toNat_windowEnd, UInt64.mul_one]

end Reads

/--
Slice reads accept exactly the windows inside the data, return the elements
there, and agree with reads of one element.
-/
structure ReadsInBounds
    (pkt : Mbuf)
    (element : ElementType)
    (offset count : UInt64) :
    Prop where
  accepts :
    (∃ slice,
      pkt.readDataSlice element.size offset count = .ok slice) ↔
      InBounds pkt element.size offset count
  elements :
    ∀ slice,
      pkt.readDataSlice element.size offset count = .ok slice →
      slice = ⟨pkt.dataAddress offset, count⟩ ∧
        pkt.raw.memory.window slice.address
            (element.size.toNat * slice.count.toNat) =
          ((data pkt).drop offset.toNat).take
            (element.size.toNat * count.toNat)
  single :
    count = 1 →
    ∀ address,
      pkt.readDataSlice element.size offset count = .ok ⟨address, 1⟩ ↔
        pkt.readData element.size offset = .ok address

/--
The window starts behind the data, ends inside it even with the offset counted
twice, or ends behind it by so much that the end which the code computes does,
too, with the offset counted twice.
-/
def ReadCheckExact
    (pkt : Mbuf)
    (element : ElementType)
    (offset count : UInt64) :
    Prop :=
  pkt.raw.dataLen.toNat ≤ offset.toNat ∨
    offset.toNat + windowEnd element.size offset count ≤
      pkt.raw.dataLen.toNat ∨
    pkt.raw.dataLen.toNat < windowEnd element.size offset count ∧
      pkt.raw.dataLen.toNat <
        offset.toNat + windowEnd element.size offset count % 2 ^ 64

section ReadsInBounds

variable
  {pkt : Mbuf}
  {element : ElementType}
  {offset count : UInt64}
  {slice : SlicePtr}

/-- A window inside the data does not wrap. -/
theorem windowEnd_mod
    {size : UInt64}
    (inside : windowEnd size offset count ≤ pkt.raw.dataLen.toNat) :
    windowEnd size offset count % 2 ^ 64 = windowEnd size offset count := by
  have dataLenLt := pkt.raw.dataLen.toNat_lt
  exact Nat.mod_eq_of_lt (by omega)

/-- The elements of a window inside the data. -/
theorem window_of_inBounds
    {size : UInt64}
    (inBounds : InBounds pkt size offset count) :
    pkt.raw.memory.window (pkt.dataAddress offset)
        (size.toNat * count.toNat) =
      ((data pkt).drop offset.toNat).take (size.toNat * count.toNat) := by
  obtain ⟨before, inside⟩ := inBounds
  have sameAddress :
      pkt.dataAddress offset =
        pkt.dataAddress (UInt64.ofNat 0) + UInt64.ofNat offset.toNat := by
    simp [Mbuf.dataAddress]
  have fits :
      size.toNat * count.toNat ≤
        pkt.raw.dataLen.toNat - offset.toNat := by
    rw [windowEnd] at inside
    exact Nat.le_sub_of_add_le' inside
  rw [data, bytes, ByteMemory.drop_window _ _ before.le,
    ByteMemory.take_window _ _ fits, sameAddress]

/-- One element always ends before its end could wrap. -/
theorem windowEnd_single
    (before : offset.toNat < pkt.raw.dataLen.toNat) :
    windowEnd element.size offset 1 % 2 ^ 64 =
      windowEnd element.size offset 1 := by
  have dataLenLt := pkt.raw.dataLen.toNat_lt
  have sizeLt := element.bounded
  rw [windowEnd, UInt64.toNat_one, Nat.mul_one]
  exact Nat.mod_eq_of_lt (by omega)

/-- Where the check is exact, only windows inside the data are read. -/
theorem inBounds_of_readDataSlice
    (exactCheck : ReadCheckExact pkt element offset count)
    (isOk :
      pkt.readDataSlice element.size offset count = .ok slice) :
    slice = ⟨pkt.dataAddress offset, count⟩ ∧
      InBounds pkt element.size offset count := by
  obtain ⟨sameSlice, before, passed⟩ := readDataSlice_ok_iff.mp isOk
  refine ⟨sameSlice, before, ?_⟩
  rcases exactCheck with notBefore | inside | ⟨_, beyond⟩
  · exact absurd before (Nat.not_lt.mpr notBefore)
  · exact (Nat.le_add_left _ _).trans inside
  · omega

/-- Where the check is exact, every window inside the data is read. -/
theorem readDataSlice_of_inBounds
    (exactCheck : ReadCheckExact pkt element offset count)
    (inBounds : InBounds pkt element.size offset count) :
    pkt.readDataSlice element.size offset count =
      .ok ⟨pkt.dataAddress offset, count⟩ := by
  obtain ⟨before, inside⟩ := inBounds
  refine readDataSlice_ok_iff.mpr ⟨rfl, before, ?_⟩
  rw [windowEnd_mod inside]
  rcases exactCheck with notBefore | insideTwice | ⟨beyond, _⟩
  · exact absurd before (Nat.not_lt.mpr notBefore)
  · exact Nat.le_sub_of_add_le' insideTwice
  · exact absurd inside (Nat.not_le.mpr beyond)

/-- Where the check is exact, a slice read does what it is meant to. -/
theorem readsInBounds_of_exact
    (exactCheck : ReadCheckExact pkt element offset count) :
    ReadsInBounds pkt element offset count := by
  refine ⟨⟨?_, ?_⟩, ?_, ?_⟩
  · rintro ⟨slice, isOk⟩
    exact (inBounds_of_readDataSlice exactCheck isOk).2
  · intro inBounds
    exact ⟨_, readDataSlice_of_inBounds exactCheck inBounds⟩
  · intro slice isOk
    obtain ⟨rfl, inBounds⟩ := inBounds_of_readDataSlice exactCheck isOk
    exact ⟨rfl, window_of_inBounds inBounds⟩
  · rintro rfl address
    constructor
    · intro isOk
      obtain ⟨sameSlice, before, inside⟩ :=
        inBounds_of_readDataSlice exactCheck isOk
      refine readData_ok_iff.mpr
        ⟨congrArg SlicePtr.address sameSlice, before, ?_⟩
      rwa [windowEnd_mod inside]
    · intro isOk
      obtain ⟨rfl, before, passed⟩ := readData_ok_iff.mp isOk
      rw [windowEnd_single before] at passed
      exact readDataSlice_of_inBounds exactCheck ⟨before, passed⟩

/-- A slice read that accepts exactly the windows inside the data has an exact check. -/
theorem exact_of_readsInBounds
    (reads : ReadsInBounds pkt element offset count) :
    ReadCheckExact pkt element offset count := by
  rcases Nat.lt_or_ge offset.toNat pkt.raw.dataLen.toNat with
    before | notBefore
  · right
    by_cases inside :
        windowEnd element.size offset count ≤ pkt.raw.dataLen.toNat
    · obtain ⟨slice, isOk⟩ := reads.accepts.mpr ⟨before, inside⟩
      have passed := (readDataSlice_ok_iff.mp isOk).2.2
      rw [windowEnd_mod inside] at passed
      exact Or.inl (by omega)
    · refine Or.inr ⟨Nat.lt_of_not_le inside, ?_⟩
      by_contra notBeyond
      have isOk :
          pkt.readDataSlice element.size offset count =
            .ok ⟨pkt.dataAddress offset, count⟩ :=
        readDataSlice_ok_iff.mpr ⟨rfl, before, by omega⟩
      exact inside (reads.accepts.mp ⟨_, isOk⟩).2
  · exact Or.inl notBefore

end ReadsInBounds

/--
A slice read accepts exactly the windows inside the data if and only if the
window starts behind the data, or lies on the same side of its end with the
offset counted once more.
-/
theorem readsInBounds_iff
    (pkt : Mbuf)
    (element : ElementType)
    (offset count : UInt64) :
    ReadsInBounds pkt element offset count ↔
      ReadCheckExact pkt element offset count :=
  ⟨exact_of_readsInBounds, readsInBounds_of_exact⟩

/-- `u8` as an element type. -/
def byteElement : ElementType where
  size :=
    1
  bounded := by
    decide

/-- The last of four bytes cannot be read as a slice. -/
theorem not_readsInBounds_last_byte :
    WellFormed fourBytes ∧ ¬ ReadsInBounds fourBytes byteElement 3 1 := by
  refine ⟨wellFormed_fourBytes, ?_⟩
  intro reads
  obtain ⟨slice, isOk⟩ := reads.accepts.mpr (by decide)
  have refused :
      fourBytes.readDataSlice byteElement.size 3 1 =
        .error (.outOfBuffer 1 1) := by
    decide
  rw [refused] at isOk
  cases isOk

/-! ## Writes -/

/-- The buffer behind the store of a write. -/
def stored
    (pkt : Mbuf)
    (offset : UInt64)
    (slice : Slice) :
    Mbuf where
  raw := {
    pkt.raw with
    memory :=
      pkt.raw.memory.store (pkt.dataAddress offset) slice.bytes
  }

section Writes

variable
  {pkt : Mbuf}
  {offset : UInt64}
  {slice : Slice}

/-- The window of a slice ends behind its bytes. -/
theorem windowEnd_slice :
    windowEnd slice.size offset slice.count =
      offset.toNat + slice.bytes.length := by
  rw [windowEnd, slice.occupied]

/-- The first check of a write, on a sum that does not wrap. -/
theorem dataLen_lt_sum_iff
    (noWrap : offset.toNat + slice.bytes.length < 2 ^ 64) :
    pkt.dataLen < offset + slice.size * slice.count ↔
      pkt.raw.dataLen.toNat < offset.toNat + slice.bytes.length := by
  rw [UInt64.lt_iff_toNat_lt, toNat_dataLen, toNat_windowEnd,
    windowEnd_slice, Nat.mod_eq_of_lt noWrap]

/-- A write past the data is refused before anything is stored. -/
theorem writeDataSlice_of_beyond
    (noWrap : offset.toNat + slice.bytes.length < 2 ^ 64)
    (beyond : pkt.raw.dataLen.toNat < offset.toNat + slice.bytes.length) :
    ∃ error, pkt.writeDataSlice offset slice = (.error error, pkt) := by
  rw [Mbuf.writeDataSlice, if_pos ((dataLen_lt_sum_iff noWrap).mpr beyond)]
  exact ⟨_, rfl⟩

/-- A write inside the data stores, and then reads the slice. -/
theorem writeDataSlice_of_inside
    (noWrap : offset.toNat + slice.bytes.length < 2 ^ 64)
    (inside : offset.toNat + slice.bytes.length ≤ pkt.raw.dataLen.toNat) :
    pkt.writeDataSlice offset slice =
      ((stored pkt offset slice).readDataSlice slice.size offset slice.count,
        stored pkt offset slice) := by
  have accepted : ¬ pkt.dataLen < offset + slice.size * slice.count :=
    mt (dataLen_lt_sum_iff noWrap).mp (Nat.not_lt.mpr inside)
  rw [Mbuf.writeDataSlice, if_neg accepted]
  rfl

/-- The read at the end of a write passes when the offset can count twice. -/
theorem readBack_ok_iff
    {returned : SlicePtr}
    (noWrap : offset.toNat + slice.bytes.length < 2 ^ 64) :
    (stored pkt offset slice).readDataSlice slice.size offset slice.count =
        .ok returned ↔
      returned = ⟨pkt.dataAddress offset, slice.count⟩ ∧
        offset.toNat < pkt.raw.dataLen.toNat ∧
        offset.toNat + slice.bytes.length ≤
          pkt.raw.dataLen.toNat - offset.toNat := by
  rw [readDataSlice_ok_iff, windowEnd_slice, Nat.mod_eq_of_lt noWrap]
  rfl

/-- What a store inside the data makes of it. -/
theorem data_stored
    (inside : offset.toNat + slice.bytes.length ≤ pkt.raw.dataLen.toNat) :
    data (stored pkt offset slice) =
      (data pkt).take offset.toNat ++ slice.bytes ++
        (data pkt).drop (offset.toNat + slice.bytes.length) := by
  have dataLenLt := pkt.raw.dataLen.toNat_lt
  have sameAddress :
      pkt.dataAddress offset =
        pkt.dataAddress (UInt64.ofNat 0) + UInt64.ofNat offset.toNat := by
    simp [Mbuf.dataAddress]
  have fits : pkt.raw.dataLen.toNat ≤ 2 ^ 64 := by
    omega
  rw [data, bytes, stored, sameAddress]
  exact ByteMemory.window_store_inside fits inside

/-- The bytes of a store, read back from its address. -/
theorem window_stored :
    (stored pkt offset slice).raw.memory.window (pkt.dataAddress offset)
        slice.bytes.length =
      slice.bytes :=
  ByteMemory.window_store (slice.bounded.le.trans (by decide))

end Writes

/--
A write succeeds exactly when the slice fits the data; it then replaces that
part of the data and returns the values written, and otherwise it changes no
byte.
-/
structure ExactWrite
    (pkt : Mbuf)
    (offset : UInt64)
    (slice : Slice) :
    Prop where
  accepts :
    (∃ returned, (pkt.writeDataSlice offset slice).1 = .ok returned) ↔
      offset.toNat + slice.bytes.length ≤ pkt.raw.dataLen.toNat
  replaces :
    ∀ returned,
      (pkt.writeDataSlice offset slice).1 = .ok returned →
      data (pkt.writeDataSlice offset slice).2 =
          (data pkt).take offset.toNat ++ slice.bytes ++
            (data pkt).drop (offset.toNat + slice.bytes.length) ∧
        returned.count = slice.count ∧
        (pkt.writeDataSlice offset slice).2.raw.memory.window
            returned.address slice.bytes.length =
          slice.bytes
  atomic :
    ∀ error,
      (pkt.writeDataSlice offset slice).1 = .error error →
      (pkt.writeDataSlice offset slice).2.raw.memory = pkt.raw.memory

/-- A slice that does not fit the data, or fits it even with the offset counted twice. -/
def WriteCheckExact
    (pkt : Mbuf)
    (offset : UInt64)
    (slice : Slice) :
    Prop :=
  pkt.raw.dataLen.toNat < offset.toNat + slice.bytes.length ∨
    offset.toNat < pkt.raw.dataLen.toNat ∧
      2 * offset.toNat + slice.bytes.length ≤ pkt.raw.dataLen.toNat

section ExactWrite

variable
  {pkt : Mbuf}
  {offset : UInt64}
  {slice : Slice}

theorem exactWrite_of_beyond
    (noWrap : offset.toNat + slice.bytes.length < 2 ^ 64)
    (beyond : pkt.raw.dataLen.toNat < offset.toNat + slice.bytes.length) :
    ExactWrite pkt offset slice := by
  obtain ⟨error, refused⟩ := writeDataSlice_of_beyond noWrap beyond
  refine ⟨⟨?_, ?_⟩, ?_, ?_⟩
  · rintro ⟨returned, isOk⟩
    rw [refused] at isOk
    cases isOk
  · intro inside
    exact absurd inside (Nat.not_le.mpr beyond)
  · intro returned isOk
    rw [refused] at isOk
    cases isOk
  · intro _ _
    rw [refused]

theorem exactWrite_of_inside
    (noWrap : offset.toNat + slice.bytes.length < 2 ^ 64)
    (before : offset.toNat < pkt.raw.dataLen.toNat)
    (inside :
      2 * offset.toNat + slice.bytes.length ≤ pkt.raw.dataLen.toNat) :
    ExactWrite pkt offset slice := by
  have fits :
      offset.toNat + slice.bytes.length ≤ pkt.raw.dataLen.toNat := by
    omega
  have fitsBehind :
      offset.toNat + slice.bytes.length ≤
        pkt.raw.dataLen.toNat - offset.toNat := by
    omega
  have readBack :=
    (readBack_ok_iff noWrap).mpr ⟨rfl, before, fitsBehind⟩
  have performed := writeDataSlice_of_inside noWrap fits
  rw [readBack] at performed
  refine ⟨⟨?_, ?_⟩, ?_, ?_⟩
  · intro _
    exact fits
  · intro _
    rw [performed]
    exact ⟨_, rfl⟩
  · intro returned isOk
    rw [performed] at isOk ⊢
    cases isOk
    exact ⟨data_stored fits, rfl, window_stored⟩
  · intro error isError
    rw [performed] at isError
    cases isError

/-- A write that is exact is refused before it stores, or reads back what it stored. -/
theorem writeCheckExact_of_exactWrite
    (noWrap : offset.toNat + slice.bytes.length < 2 ^ 64)
    (exactWrite : ExactWrite pkt offset slice) :
    WriteCheckExact pkt offset slice := by
  by_cases inside :
      offset.toNat + slice.bytes.length ≤ pkt.raw.dataLen.toNat
  · obtain ⟨returned, isOk⟩ := exactWrite.accepts.mpr inside
    rw [writeDataSlice_of_inside noWrap inside] at isOk
    obtain ⟨_, before, fitsBehind⟩ := (readBack_ok_iff noWrap).mp isOk
    exact Or.inr ⟨before, by omega⟩
  · exact Or.inl (Nat.lt_of_not_le inside)

end ExactWrite

/--
A write of a slice is exact and atomic if and only if it is refused at once or
the slice fits the data with the offset counted twice.
-/
theorem exactWrite_iff
    (pkt : Mbuf)
    {offset : UInt64}
    {slice : Slice}
    (noWrap : offset.toNat + slice.bytes.length < 2 ^ 64) :
    ExactWrite pkt offset slice ↔ WriteCheckExact pkt offset slice := by
  constructor
  · exact writeCheckExact_of_exactWrite noWrap
  · rintro (beyond | ⟨before, inside⟩)
    · exact exactWrite_of_beyond noWrap beyond
    · exact exactWrite_of_inside noWrap before inside

/-- A byte is written over the second of four bytes. -/
theorem exactWrite_second_byte : ExactWrite fourBytes 1 oneByte := by
  have noWrap :
      (1 : UInt64).toNat + oneByte.bytes.length < 2 ^ 64 := by
    decide
  exact (exactWrite_iff fourBytes noWrap).mpr
    (Or.inr ⟨by decide, by decide⟩)

/-- A byte written over the last of four bytes is stored and reported as not stored. -/
theorem not_exactWrite_last_byte :
    WellFormed fourBytes ∧ ¬ ExactWrite fourBytes 3 oneByte := by
  refine ⟨wellFormed_fourBytes, ?_⟩
  intro exactWrite
  obtain ⟨returned, isOk⟩ := exactWrite.accepts.mpr (by decide)
  have refused :
      (fourBytes.writeDataSlice 3 oneByte).1 =
        .error (.outOfBuffer 1 1) := by
    decide
  rw [refused] at isOk
  cases isOk

end VDataplane.SliceAccess
