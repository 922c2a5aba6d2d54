import VDataplane.ByteWindow
import VDataplane.MbufInvariant

namespace VDataplane.PacketBytes

open MbufInvariant

/-!
# The bytes of a packet

The data of a buffer as a list of bytes, and the two edits that open and close
a gap in it.  Both move the bytes behind the gap with a copy whose source and
target overlap as soon as the gap is shorter than what is moved.
-/

/-- The byte at an index of the data, or beyond it. -/
def byteAt
    (pkt : Mbuf)
    (index : Nat) :
    UInt8 :=
  pkt.raw.memory (pkt.dataAddress (UInt64.ofNat index))

/-- The bytes from an index on. -/
def bytes
    (pkt : Mbuf)
    (start count : Nat) :
    List UInt8 :=
  pkt.raw.memory.window (pkt.dataAddress (UInt64.ofNat start)) count

/-- The data of a buffer. -/
def data (pkt : Mbuf) : List UInt8 :=
  bytes pkt 0 pkt.raw.dataLen.toNat

@[simp] theorem length_bytes
    (pkt : Mbuf)
    (start count : Nat) :
    (bytes pkt start count).length = count :=
  ByteMemory.length_window _ _ _

@[simp] theorem length_data (pkt : Mbuf) :
    (data pkt).length = pkt.raw.dataLen.toNat :=
  length_bytes _ _ _

/-- Bytes consist of a lower and an upper part. -/
theorem bytes_add
    (pkt : Mbuf)
    (start lower upper : Nat) :
    bytes pkt start (lower + upper) =
      bytes pkt start lower ++ bytes pkt (start + lower) upper := by
  rw [bytes, ByteMemory.window_add, bytes, bytes, Mbuf.dataAddress,
    Mbuf.dataAddress, UInt64.ofNat_add, UInt64.add_assoc]

/-- Bytes of two buffers are the same when they are the same one by one. -/
theorem bytes_congr
    {pkt other : Mbuf}
    {start otherStart count : Nat}
    (same :
      ∀ index, index < count →
        byteAt pkt (start + index) = byteAt other (otherStart + index)) :
    bytes pkt start count = bytes other otherStart count := by
  apply ByteMemory.window_congr
  intro index isBelow
  have sameByte := same index isBelow
  simp only [byteAt, Mbuf.dataAddress, UInt64.ofNat_add] at sameByte ⊢
  rwa [UInt64.add_assoc, UInt64.add_assoc]

/-- The first bytes of the data. -/
theorem take_data
    {pkt : Mbuf}
    {lower : Nat}
    (inside : lower ≤ pkt.raw.dataLen.toNat) :
    (data pkt).take lower = bytes pkt 0 lower :=
  ByteMemory.take_window _ _ inside

/-- The bytes of the data from an index on. -/
theorem drop_data
    {pkt : Mbuf}
    {lower : Nat}
    (inside : lower ≤ pkt.raw.dataLen.toNat) :
    (data pkt).drop lower =
      bytes pkt lower (pkt.raw.dataLen.toNat - lower) := by
  obtain ⟨upper, sameLength⟩ := Nat.exists_eq_add_of_le inside
  rw [data, sameLength, bytes_add, Nat.add_sub_cancel_left, Nat.zero_add]
  exact List.drop_left' (length_bytes _ _ _)

/-! ## Opening and closing a gap -/

/-- A gap of `len` bytes was opened at `offset`. -/
structure Opened
    (before after : Mbuf)
    (offset len : Nat) :
    Prop where
  wellFormed :
    WellFormed after
  dataLen :
    after.raw.dataLen.toNat = before.raw.dataLen.toNat + len
  below :
    ∀ index,
      index < offset →
      byteAt after index = byteAt before index
  moved :
    ∀ index,
      offset ≤ index →
      index < before.raw.dataLen.toNat →
      byteAt after (index + len) = byteAt before index
  above :
    ∀ index,
      index < 2 ^ 64 →
      after.raw.dataLen.toNat ≤ index →
      byteAt after index = byteAt before index

/-- The gap of `len` bytes at `offset` was closed. -/
structure Closed
    (before after : Mbuf)
    (offset len : Nat) :
    Prop where
  wellFormed :
    WellFormed after
  bufLen :
    after.raw.bufLen = before.raw.bufLen
  dataOff :
    after.raw.dataOff = before.raw.dataOff
  dataLen :
    before.raw.dataLen.toNat = after.raw.dataLen.toNat + len
  below :
    ∀ index,
      index < offset →
      byteAt after index = byteAt before index
  moved :
    ∀ index,
      offset ≤ index →
      index < after.raw.dataLen.toNat →
      byteAt after index = byteAt before (index + len)
  above :
    ∀ index,
      index < 2 ^ 64 →
      after.raw.dataLen.toNat ≤ index →
      byteAt after index = byteAt before index

section Edits

variable
  {pkt : Mbuf}
  {offset len : UInt64}

/-- The memory after an edit that moves `count` bytes, if there are any to move. -/
def moveIfAny
    (pkt : Mbuf)
    (source target count : UInt64) :
    ByteMemory :=
  if 0 < count then
    pkt.raw.memory.copy (pkt.dataAddress source)
      (pkt.dataAddress target) count
  else
    pkt.raw.memory

section Move

variable
  {source target count : UInt64}
  {index : Nat}

/-- The bytes below the target stay. -/
theorem moveIfAny_below
    (fits : target.toNat + count.toNat ≤ 2 ^ 64)
    (below : index < target.toNat) :
    moveIfAny pkt source target count
        (pkt.dataAddress (UInt64.ofNat index)) =
      byteAt pkt index := by
  have targetLt := target.toNat_lt
  have sameIndex : (UInt64.ofNat index).toNat = index :=
    UInt64.toNat_ofNat_of_lt' (below.trans targetLt)
  unfold moveIfAny
  split
  · exact ByteMemory.copy_below fits (by rwa [sameIndex])
  · rfl

/-- The bytes of the source arrive at the target. -/
theorem moveIfAny_inside
    (inside : index < count.toNat)
    (fits : target.toNat + count.toNat ≤ 2 ^ 64) :
    moveIfAny pkt source target count
        (pkt.dataAddress (UInt64.ofNat (target.toNat + index))) =
      byteAt pkt (source.toNat + index) := by
  have any : 0 < count := by
    rw [UInt64.lt_iff_toNat_lt]
    exact Nat.zero_lt_of_lt inside
  have isIndex : target.toNat + index < 2 ^ 64 := by
    omega
  have sameIndex :
      (UInt64.ofNat (target.toNat + index)).toNat = target.toNat + index :=
    UInt64.toNat_ofNat_of_lt' isIndex
  have sameSource :
      source + (UInt64.ofNat (target.toNat + index) - target) =
        UInt64.ofNat (source.toNat + index) := by
    rw [UInt64.ofNat_add, UInt64.ofNat_add, UInt64.ofNat_toNat,
      UInt64.ofNat_toNat]
    grind
  rw [moveIfAny, if_pos any, byteAt, ← sameSource]
  apply ByteMemory.copy_inside
  · rw [sameIndex]
    exact Nat.le_add_right _ _
  · rw [sameIndex]
    exact Nat.add_lt_add_left inside _

/-- The bytes above the target stay. -/
theorem moveIfAny_above
    (isIndex : index < 2 ^ 64)
    (above : target.toNat + count.toNat ≤ index) :
    moveIfAny pkt source target count
        (pkt.dataAddress (UInt64.ofNat index)) =
      byteAt pkt index := by
  have sameIndex : (UInt64.ofNat index).toNat = index :=
    UInt64.toNat_ofNat_of_lt' isIndex
  unfold moveIfAny
  split
  · exact ByteMemory.copy_above (by rwa [sameIndex])
  · rfl

end Move

/-- An extension within the tailroom opens a gap. -/
theorem extend_opens
    (wellFormed : WellFormed pkt)
    (offsetLe : offset.toNat ≤ pkt.raw.dataLen.toNat)
    (positive : 1 ≤ len.toNat)
    (fits : len.toNat ≤ pkt.tailroom.toNat) :
    ∃ extended,
      pkt.extend offset len = (.ok (), extended) ∧
        Opened pkt extended offset.toNat len.toNat := by
  have accepted :
      ¬ (len ≤ 0 ∨ pkt.dataLen < offset ∨ pkt.tailroom < len) := by
    simp only [UInt64.le_iff_toNat_le, UInt64.lt_iff_toNat_lt,
      toNat_dataLen, UInt64.toNat_zero]
    omega
  have confined := confined_extend wellFormed offset len
  have room := toNat_tailroom wellFormed
  have bufLenLt := pkt.raw.bufLen.toNat_lt
  have target : (offset + len).toNat = offset.toNat + len.toNat := by
    rw [UInt64.toNat_add]
    omega
  have copied :
      (pkt.dataLen - offset).toNat =
        pkt.raw.dataLen.toNat - offset.toNat := by
    rw [UInt64.toNat_sub_of_le _ _ (by
      rwa [UInt64.le_iff_toNat_le, toNat_dataLen]), toNat_dataLen]
  have dataLenAfter :
      (pkt.raw.dataLen + len.toUInt16).toNat =
        pkt.raw.dataLen.toNat + len.toNat := by
    rw [UInt16.toNat_add, UInt64.toNat_toUInt16]
    omega
  simp only [Mbuf.extend, accepted, ↓reduceIte] at confined ⊢
  refine ⟨_, rfl, confined.wellFormed, dataLenAfter, ?_, ?_, ?_⟩
  · intro index isBelow
    apply moveIfAny_below
    · omega
    · omega
  · intro index fromOffset inside
    obtain ⟨distance, rfl⟩ := Nat.exists_eq_add_of_le fromOffset
    have sameTarget :
        offset.toNat + distance + len.toNat =
          (offset + len).toNat + distance := by
      omega
    rw [sameTarget]
    apply moveIfAny_inside
    · omega
    · omega
  · intro index isIndex isAbove
    simp only [dataLenAfter] at isAbove
    apply moveIfAny_above isIndex
    omega

/-- A shrinking within the data closes a gap. -/
theorem shrink_closes
    (wellFormed : WellFormed pkt)
    (positive : 1 ≤ len.toNat)
    (inside : offset.toNat + len.toNat ≤ pkt.raw.dataLen.toNat) :
    ∃ shrunk,
      pkt.shrink offset len = (.ok (), shrunk) ∧
        Closed pkt shrunk offset.toNat len.toNat := by
  have dataLenLt := pkt.raw.dataLen.toNat_lt
  have source : (offset + len).toNat = offset.toNat + len.toNat := by
    rw [UInt64.toNat_add]
    omega
  have accepted : ¬ (len ≤ 0 ∨ pkt.dataLen < offset + len) := by
    simp only [UInt64.le_iff_toNat_le, UInt64.lt_iff_toNat_lt,
      toNat_dataLen, UInt64.toNat_zero, source]
    omega
  have checked : SumChecked pkt offset len := by
    apply Or.inl
    omega
  have confined := confined_shrink wellFormed checked
  have copied :
      (pkt.dataLen - offset - len).toNat =
        pkt.raw.dataLen.toNat - offset.toNat - len.toNat := by
    rw [UInt64.toNat_sub, UInt64.toNat_sub, toNat_dataLen]
    omega
  have dataLenAfter :
      (pkt.raw.dataLen - len.toUInt16).toNat =
        pkt.raw.dataLen.toNat - len.toNat := by
    rw [UInt16.toNat_sub, UInt64.toNat_toUInt16]
    omega
  simp only [Mbuf.shrink, accepted, ↓reduceIte] at confined ⊢
  refine ⟨_, rfl, confined.wellFormed, rfl, rfl, ?_, ?_, ?_, ?_⟩
  · simp only [dataLenAfter]
    omega
  · intro index isBelow
    apply moveIfAny_below
    · omega
    · exact isBelow
  · intro index fromOffset isInside
    simp only [dataLenAfter] at isInside
    obtain ⟨distance, rfl⟩ := Nat.exists_eq_add_of_le fromOffset
    have sameSource :
        offset.toNat + distance + len.toNat =
          (offset + len).toNat + distance := by
      omega
    rw [sameSource]
    apply moveIfAny_inside
    · omega
    · omega
  · intro index isIndex isAbove
    simp only [dataLenAfter] at isAbove
    apply moveIfAny_above isIndex
    omega

end Edits

section Gaps

variable
  {before middle after : Mbuf}
  {offset len : Nat}

/-- Opening a gap puts that many bytes between the two parts of the data. -/
theorem Opened.data
    (opened : Opened before after offset len)
    (offsetLe : offset ≤ before.raw.dataLen.toNat) :
    ∃ gap,
      gap.length = len ∧
        data after =
          (data before).take offset ++ gap ++ (data before).drop offset := by
  obtain ⟨rest, sameLength⟩ := Nat.exists_eq_add_of_le offsetLe
  have lower : bytes after 0 offset = bytes before 0 offset := by
    apply bytes_congr
    intro index isBelow
    exact opened.below (0 + index) (by omega)
  have upper : bytes after (offset + len) rest = bytes before offset rest := by
    apply bytes_congr
    intro index inside
    have moved := opened.moved (offset + index) (by omega) (by omega)
    rwa [Nat.add_right_comm] at moved
  refine ⟨bytes after offset len, length_bytes _ _ _, ?_⟩
  rw [take_data offsetLe, drop_data offsetLe, ← lower, sameLength,
    Nat.add_sub_cancel_left, ← upper, PacketBytes.data, opened.dataLen,
    sameLength, Nat.add_right_comm, bytes_add, bytes_add, Nat.zero_add,
    Nat.zero_add]

/-- Closing a gap leaves the two parts of the data around it. -/
theorem Closed.data
    (closed : Closed before after offset len)
    (inside : offset + len ≤ before.raw.dataLen.toNat) :
    data after =
      (data before).take offset ++ (data before).drop (offset + len) := by
  have dataLen := closed.dataLen
  obtain ⟨rest, sameLength⟩ := Nat.exists_eq_add_of_le inside
  have lower : bytes after 0 offset = bytes before 0 offset := by
    apply bytes_congr
    intro index isBelow
    exact closed.below (0 + index) (by omega)
  have upper : bytes after offset rest = bytes before (offset + len) rest := by
    apply bytes_congr
    intro index isBelow
    have moved := closed.moved (offset + index) (by omega) (by omega)
    rwa [Nat.add_right_comm] at moved
  have afterLength : after.raw.dataLen.toNat = offset + rest := by
    omega
  rw [take_data (by omega), drop_data inside, ← lower, sameLength,
    Nat.add_sub_cancel_left, ← upper, PacketBytes.data, afterLength,
    bytes_add, Nat.zero_add]

/-- Nothing but bytes of a gap at the end of the edits is different from before. -/
structure Restored
    (before after : Mbuf)
    (offset len : Nat) :
    Prop where
  dataLen :
    after.raw.dataLen = before.raw.dataLen
  pktLen :
    after.raw.pktLen = before.raw.pktLen
  outside :
    ∀ index,
      index < 2 ^ 64 →
      index < offset ∨ offset + len ≤ index →
      byteAt after index = byteAt before index

/-- Both length fields follow from the length of the data. -/
theorem lengths_eq
    (wellFormed : WellFormed before)
    (wellFormedAfter : WellFormed after)
    (sameLength : after.raw.dataLen.toNat = before.raw.dataLen.toNat) :
    after.raw.dataLen = before.raw.dataLen ∧
      after.raw.pktLen = before.raw.pktLen := by
  refine ⟨UInt16.toNat_inj.mp sameLength, UInt32.toNat_inj.mp ?_⟩
  rw [wellFormedAfter.lengths, wellFormed.lengths, sameLength]

/-- Closing the gap just opened restores all data. -/
theorem Opened.close
    (wellFormed : WellFormed before)
    (opened : Opened before middle offset len)
    (closed : Closed middle after offset len) :
    PacketBytes.data after = PacketBytes.data before ∧
      after.raw.dataLen = before.raw.dataLen ∧
      after.raw.pktLen = before.raw.pktLen := by
  have sameLength : after.raw.dataLen.toNat = before.raw.dataLen.toNat := by
    have longer := opened.dataLen
    have shorter := closed.dataLen
    omega
  refine ⟨?_, lengths_eq wellFormed closed.wellFormed sameLength⟩
  rw [PacketBytes.data, PacketBytes.data, sameLength]
  apply bytes_congr
  intro index inside
  rw [Nat.zero_add]
  by_cases isBelow : index < offset
  · rw [closed.below index isBelow, opened.below index isBelow]
  · have fromOffset := Nat.le_of_not_lt isBelow
    rw [closed.moved index fromOffset (by omega),
      opened.moved index fromOffset inside]

/-- Opening the gap just closed restores everything outside the gap. -/
theorem Closed.reopen
    (wellFormed : WellFormed before)
    (closed : Closed before middle offset len)
    (opened : Opened middle after offset len) :
    Restored before after offset len := by
  have shorter := closed.dataLen
  have longer := opened.dataLen
  have sameLength : after.raw.dataLen.toNat = before.raw.dataLen.toNat := by
    omega
  obtain ⟨sameDataLen, samePktLen⟩ :=
    lengths_eq wellFormed opened.wellFormed sameLength
  refine ⟨sameDataLen, samePktLen, ?_⟩
  intro index isIndex isOutside
  rcases isOutside with isBelow | isAbove
  · rw [opened.below index isBelow, closed.below index isBelow]
  · by_cases inside : index < before.raw.dataLen.toNat
    · obtain ⟨distance, rfl⟩ := Nat.exists_eq_add_of_le isAbove
      rw [Nat.add_right_comm] at inside ⊢
      rw [opened.moved (offset + distance) (by omega) (by omega),
        closed.moved (offset + distance) (by omega) (by omega)]
    · rw [opened.above index isIndex (by omega),
        closed.above index isIndex (by omega)]

end Gaps

/-! ## The edits are inverse to each other -/

/-- Opening a gap succeeds, and closing it restores the packet; so do the two resizings. -/
def ExtendsAndShrinks
    (pkt : Mbuf)
    (offset len : UInt64) :
    Prop :=
  ∃ extended shrunk gap,
    pkt.extend offset len = (.ok (), extended) ∧
      gap.length = len.toNat ∧
      data extended =
        (data pkt).take offset.toNat ++ gap ++
          (data pkt).drop offset.toNat ∧
      extended.shrink offset len = (.ok (), shrunk) ∧
      data shrunk = data pkt ∧
      shrunk.raw.dataLen = pkt.raw.dataLen ∧
      shrunk.raw.pktLen = pkt.raw.pktLen ∧
      pkt.resize offset len.toInt64 = (.ok (), extended) ∧
      extended.resize offset (-len.toInt64) = (.ok (), shrunk)

/-- Closing a gap succeeds, and opening it again restores all other bytes. -/
def ShrinksAndExtends
    (pkt : Mbuf)
    (offset len : UInt64) :
    Prop :=
  ∃ shrunk extended,
    pkt.shrink offset len = (.ok (), shrunk) ∧
      data shrunk =
        (data pkt).take offset.toNat ++
          (data pkt).drop (offset.toNat + len.toNat) ∧
      shrunk.extend offset len = (.ok (), extended) ∧
      Restored pkt extended offset.toNat len.toNat

section Inverse

variable
  {pkt : Mbuf}
  {offset len : UInt64}

/-- A length up to `isize::MAX` is the same number as an `isize`. -/
theorem toInt_toInt64
    (small : len.toNat < 2 ^ 63) :
    len.toInt64.toInt = len.toNat := by
  show len.toBitVec.toInt = len.toBitVec.toNat
  apply BitVec.toInt_eq_toNat_of_lt
  rw [UInt64.toNat_toBitVec]
  omega

/-- A resizing by a positive length is an extension. -/
theorem resize_positive
    (small : len.toNat < 2 ^ 63) :
    pkt.resize offset len.toInt64 = pkt.extend offset len := by
  have notNegative : ¬ len.toInt64 < 0 := by
    rw [Int64.lt_iff_toInt_lt, toInt_toInt64 small, Int64.toInt_zero]
    omega
  rw [Mbuf.resize, if_neg notNegative, UInt64.toUInt64_toInt64]

/-- A resizing by the negative of a positive length is a shrinking. -/
theorem resize_negative
    (positive : 1 ≤ len.toNat)
    (small : len.toNat < 2 ^ 63) :
    pkt.resize offset (-len.toInt64) = pkt.shrink offset len := by
  have isNegative : -len.toInt64 < 0 := by
    rw [Int64.lt_iff_toInt_lt, Int64.toInt_neg, toInt_toInt64 small,
      Int64.toInt_zero, Int.bmod_eq_of_le (by omega) (by omega)]
    omega
  rw [Mbuf.resize, if_pos isNegative, Int64.neg_neg,
    UInt64.toUInt64_toInt64]

theorem extendsAndShrinks_of_fits
    (wellFormed : WellFormed pkt)
    (positive : 1 ≤ len.toNat)
    (offsetLe : offset.toNat ≤ (data pkt).length)
    (fits : len.toNat ≤ pkt.tailroom.toNat) :
    ExtendsAndShrinks pkt offset len := by
  rw [length_data] at offsetLe
  obtain ⟨extended, isExtended, opened⟩ :=
    extend_opens wellFormed offsetLe positive fits
  obtain ⟨gap, gapLength, extendedData⟩ := opened.data offsetLe
  have inside :
      offset.toNat + len.toNat ≤ extended.raw.dataLen.toNat := by
    rw [opened.dataLen]
    exact Nat.add_le_add_right offsetLe _
  obtain ⟨shrunk, isShrunk, closed⟩ :=
    shrink_closes opened.wellFormed positive inside
  obtain ⟨sameData, sameDataLen, samePktLen⟩ :=
    opened.close wellFormed closed
  have small : len.toNat < 2 ^ 63 := by
    have extendedLt := extended.raw.dataLen.toNat_lt
    omega
  refine ⟨extended, shrunk, gap, isExtended, gapLength, extendedData,
    isShrunk, sameData, sameDataLen, samePktLen, ?_, ?_⟩
  · rw [resize_positive small, isExtended]
  · rw [resize_negative positive small, isShrunk]

theorem shrinksAndExtends_of_inside
    (wellFormed : WellFormed pkt)
    (positive : 1 ≤ len.toNat)
    (inside : offset.toNat + len.toNat ≤ (data pkt).length) :
    ShrinksAndExtends pkt offset len := by
  rw [length_data] at inside
  obtain ⟨shrunk, isShrunk, closed⟩ :=
    shrink_closes wellFormed positive inside
  have shorter := closed.dataLen
  have room : len.toNat ≤ shrunk.tailroom.toNat := by
    have insideBuffer := wellFormed.inside
    rw [toNat_tailroom closed.wellFormed, closed.bufLen, closed.dataOff]
    omega
  have offsetLe : offset.toNat ≤ shrunk.raw.dataLen.toNat := by
    omega
  obtain ⟨extended, isExtended, opened⟩ :=
    extend_opens closed.wellFormed offsetLe positive room
  exact ⟨shrunk, extended, isShrunk, closed.data inside, isExtended,
    closed.reopen wellFormed opened⟩

end Inverse

/--
In a well-formed buffer, an extension that fits is undone by the shrinking of
the same place, and a shrinking inside the data by the extension of the same
place, up to the bytes removed.
-/
theorem extend_shrink_inverse
    {pkt : Mbuf}
    (wellFormed : WellFormed pkt)
    (offset : UInt64)
    {len : UInt64}
    (positive : 1 ≤ len.toNat) :
    (offset.toNat ≤ (data pkt).length →
        len.toNat ≤ pkt.tailroom.toNat →
        ExtendsAndShrinks pkt offset len) ∧
      (offset.toNat + len.toNat ≤ (data pkt).length →
        ShrinksAndExtends pkt offset len) :=
  ⟨extendsAndShrinks_of_fits wellFormed positive,
    shrinksAndExtends_of_inside wellFormed positive⟩

/-- A packet of four bytes. -/
def fourBytes : Mbuf where
  raw := {
    RteMbuf.reset 1 100 (fun address => address.toUInt8) with
    dataLen := 4
    pktLen := 4
  }

theorem wellFormed_fourBytes : WellFormed fourBytes where
  inside := by
    decide
  lengths := by
    decide

/-- Three bytes are inserted and removed again, and two removed and inserted again. -/
theorem extend_shrink_fourBytes :
    ExtendsAndShrinks fourBytes 1 3 ∧ ShrinksAndExtends fourBytes 1 3 := by
  have positive : 1 ≤ (3 : UInt64).toNat := by
    decide
  have inverse := extend_shrink_inverse wellFormed_fourBytes 1 positive
  exact ⟨inverse.1 (by decide) (by decide), inverse.2 (by decide)⟩

end VDataplane.PacketBytes
