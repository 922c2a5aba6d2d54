import VDataplane.GuardedRun
import VDataplane.Mbuf

namespace VDataplane.MbufInvariant

open GuardedRun

/-!
# The window of a message buffer

The data of a single-segment buffer is a window of its memory.  The mutators
are meant to keep the window inside the buffer, to keep the two length fields
in agreement and to write nowhere else.

Two of them compare an unchecked sum with the data length.  Where the sum
wraps, the check passes for an offset far outside the window; everywhere else
the mutators are shown to behave, over whole runs.
-/

/-- One call of a mutator. -/
inductive MbufCall where
  | extend (offset len : UInt64)
  | shrink (offset len : UInt64)
  | resize (offset : UInt64) (len : Int64)
  | truncate (toLen : UInt64)
  | writeDataSlice (offset : UInt64) (slice : Slice)

/-- Execute one call and keep the buffer, whatever the call returned. -/
def step (pkt : Mbuf) : MbufCall → Mbuf
  | .extend offset len =>
      (pkt.extend offset len).2
  | .shrink offset len =>
      (pkt.shrink offset len).2
  | .resize offset len =>
      (pkt.resize offset len).2
  | .truncate toLen =>
      (pkt.truncate toLen).2
  | .writeDataSlice offset slice =>
      (pkt.writeDataSlice offset slice).2

/-- The data lies inside the buffer and both length fields give its length. -/
structure WellFormed (pkt : Mbuf) : Prop where
  inside :
    pkt.raw.dataOff.toNat + pkt.raw.dataLen.toNat ≤ pkt.raw.bufLen.toNat
  lengths :
    pkt.raw.pktLen.toNat = pkt.raw.dataLen.toNat

/--
A call left a well-formed buffer in the same place and wrote only inside the
longer of the two data windows.
-/
structure Confined (before after : Mbuf) : Prop where
  wellFormed :
    WellFormed after
  dataOff :
    after.raw.dataOff = before.raw.dataOff
  bufLen :
    after.raw.bufLen = before.raw.bufLen
  beyond :
    ∀ address,
      max before.raw.dataLen.toNat after.raw.dataLen.toNat ≤
        (address - before.raw.dataOff.toUInt64).toNat →
      after.raw.memory address = before.raw.memory address

/-- The check of a sum with the data length is not deceived by a wrap of the sum. -/
def SumChecked (pkt : Mbuf) (offset len : UInt64) : Prop :=
  offset.toNat + len.toNat < 2 ^ 64 ∨ pkt.dataLen < offset + len

instance (pkt : Mbuf) (offset len : UInt64) :
    Decidable (SumChecked pkt offset len) :=
  inferInstanceAs (Decidable (_ ∨ _))

/-- A call whose sum of an offset and a length, if it checks one, is not deceived. -/
def Checked (pkt : Mbuf) : MbufCall → Prop
  | .extend .. =>
      True
  | .shrink offset len =>
      SumChecked pkt offset len
  | .resize offset len =>
      len < 0 → SumChecked pkt offset (-len).toUInt64
  | .truncate _ =>
      True
  | .writeDataSlice offset slice =>
      SumChecked pkt offset (slice.size * slice.count)

/-! ## Lengths as natural numbers -/

@[simp] theorem toNat_dataLen (pkt : Mbuf) :
    pkt.dataLen.toNat = pkt.raw.dataLen.toNat := by
  simp [Mbuf.dataLen]

/-- In a well-formed buffer the 16-bit difference does not wrap. -/
theorem toNat_tailroom
    {pkt : Mbuf}
    (wellFormed : WellFormed pkt) :
    pkt.tailroom.toNat =
      pkt.raw.bufLen.toNat - pkt.raw.dataOff.toNat - pkt.raw.dataLen.toNat := by
  have inside := wellFormed.inside
  have bufLenLt := pkt.raw.bufLen.toNat_lt
  simp only [Mbuf.tailroom, UInt16.toNat_toUInt64, UInt16.toNat_sub]
  omega

/-- The size of a slice in bytes fits a `usize`. -/
theorem toNat_sliceBytes (slice : Slice) :
    (slice.size * slice.count).toNat = slice.bytes.length := by
  have bounded := slice.bounded
  rw [slice.occupied] at bounded ⊢
  rw [UInt64.toNat_mul]
  omega

/-- A sum that passes the check without deceiving it is within the data. -/
theorem sum_le_dataLen
    {pkt : Mbuf}
    {offset len : UInt64}
    (checked : SumChecked pkt offset len)
    (passed : ¬ pkt.dataLen < offset + len) :
    offset.toNat + len.toNat ≤ pkt.raw.dataLen.toNat := by
  have noWrap := checked.resolve_right passed
  rw [UInt64.not_lt, UInt64.le_iff_toNat_le, UInt64.toNat_add,
    toNat_dataLen] at passed
  omega

/-- A call that was refused changed nothing. -/
theorem Confined.refl
    {pkt : Mbuf}
    (wellFormed : WellFormed pkt) :
    Confined pkt pkt where
  wellFormed :=
    wellFormed
  dataOff :=
    rfl
  bufLen :=
    rfl
  beyond _ _ :=
    rfl

/-- A conditional copy inside a window writes nothing beyond it. -/
theorem copyIfAny_beyond
    {pkt : Mbuf}
    {source shift count address : UInt64}
    {limit : Nat}
    (fits : shift.toNat + count.toNat ≤ limit)
    (beyond : limit ≤ (address - pkt.raw.dataOff.toUInt64).toNat) :
    (if 0 < count then
        pkt.raw.memory.copy source (pkt.dataAddress shift) count
      else
        pkt.raw.memory) address =
      pkt.raw.memory address := by
  split
  · exact ByteMemory.copy_window fits beyond
  · rfl

/-! ## One call -/

/-- An extension stays inside the buffer: its length is compared with the tailroom. -/
theorem confined_extend
    {pkt : Mbuf}
    (wellFormed : WellFormed pkt)
    (offset len : UInt64) :
    Confined pkt (pkt.extend offset len).2 := by
  unfold Mbuf.extend
  split
  · exact .refl wellFormed
  · next accepted =>
      simp only [not_or, UInt64.not_lt, UInt64.le_iff_toNat_le,
        toNat_dataLen, toNat_tailroom wellFormed] at accepted
      obtain ⟨_, offsetLe, lenLe⟩ := accepted
      have inside := wellFormed.inside
      have bufLenLt := pkt.raw.bufLen.toNat_lt
      have dataLenAfter :
          (pkt.raw.dataLen + len.toUInt16).toNat =
            pkt.raw.dataLen.toNat + len.toNat := by
        rw [UInt16.toNat_add, UInt64.toNat_toUInt16]
        omega
      have pktLenAfter :
          (pkt.raw.pktLen + len.toUInt32).toNat =
            pkt.raw.pktLen.toNat + len.toNat := by
        rw [UInt32.toNat_add, UInt64.toNat_toUInt32, wellFormed.lengths]
        omega
      have target : (offset + len).toNat = offset.toNat + len.toNat := by
        rw [UInt64.toNat_add]
        omega
      have copied :
          (pkt.dataLen - offset).toNat =
            pkt.raw.dataLen.toNat - offset.toNat := by
        rw [UInt64.toNat_sub, toNat_dataLen]
        omega
      refine ⟨⟨?_, ?_⟩, rfl, rfl, ?_⟩
      · show pkt.raw.dataOff.toNat + (pkt.raw.dataLen + len.toUInt16).toNat ≤
          pkt.raw.bufLen.toNat
        omega
      · show (pkt.raw.pktLen + len.toUInt32).toNat =
          (pkt.raw.dataLen + len.toUInt16).toNat
        rw [pktLenAfter, dataLenAfter, wellFormed.lengths]
      · intro address beyond
        apply copyIfAny_beyond ?_ beyond
        simp only [dataLenAfter]
        omega

/-- A shrinking whose sum is checked soundly removes bytes that are there. -/
theorem confined_shrink
    {pkt : Mbuf}
    (wellFormed : WellFormed pkt)
    {offset len : UInt64}
    (checked : SumChecked pkt offset len) :
    Confined pkt (pkt.shrink offset len).2 := by
  unfold Mbuf.shrink
  split
  · exact .refl wellFormed
  · next accepted =>
      rw [not_or] at accepted
      have sumLe := sum_le_dataLen checked accepted.2
      have inside := wellFormed.inside
      have dataLenLt := pkt.raw.dataLen.toNat_lt
      have dataLenAfter :
          (pkt.raw.dataLen - len.toUInt16).toNat =
            pkt.raw.dataLen.toNat - len.toNat := by
        rw [UInt16.toNat_sub, UInt64.toNat_toUInt16]
        omega
      have pktLenAfter :
          (pkt.raw.pktLen - len.toUInt32).toNat =
            pkt.raw.pktLen.toNat - len.toNat := by
        rw [UInt32.toNat_sub, UInt64.toNat_toUInt32, wellFormed.lengths]
        omega
      have copied :
          (pkt.dataLen - offset - len).toNat =
            pkt.raw.dataLen.toNat - offset.toNat - len.toNat := by
        rw [UInt64.toNat_sub, UInt64.toNat_sub, toNat_dataLen]
        omega
      refine ⟨⟨?_, ?_⟩, rfl, rfl, ?_⟩
      · show pkt.raw.dataOff.toNat + (pkt.raw.dataLen - len.toUInt16).toNat ≤
          pkt.raw.bufLen.toNat
        omega
      · show (pkt.raw.pktLen - len.toUInt32).toNat =
          (pkt.raw.dataLen - len.toUInt16).toNat
        rw [pktLenAfter, dataLenAfter, wellFormed.lengths]
      · intro address beyond
        apply copyIfAny_beyond ?_ beyond
        simp only [dataLenAfter]
        omega

/-- A resizing is one of the two above. -/
theorem confined_resize
    {pkt : Mbuf}
    (wellFormed : WellFormed pkt)
    {offset : UInt64}
    {len : Int64}
    (checked : len < 0 → SumChecked pkt offset (-len).toUInt64) :
    Confined pkt (pkt.resize offset len).2 := by
  unfold Mbuf.resize
  split
  · next negative =>
      exact confined_shrink wellFormed (checked negative)
  · exact confined_extend wellFormed offset len.toUInt64

/-- A truncation only lowers the two lengths. -/
theorem confined_truncate
    {pkt : Mbuf}
    (wellFormed : WellFormed pkt)
    (toLen : UInt64) :
    Confined pkt (pkt.truncate toLen).2 := by
  unfold Mbuf.truncate
  split
  · exact .refl wellFormed
  · next shorter =>
      rw [UInt64.le_iff_toNat_le, toNat_dataLen] at shorter
      have inside := wellFormed.inside
      have dataLenLt := pkt.raw.dataLen.toNat_lt
      have dataLenAfter : toLen.toUInt16.toNat = toLen.toNat := by
        rw [UInt64.toNat_toUInt16]
        omega
      have pktLenAfter : toLen.toUInt32.toNat = toLen.toNat := by
        rw [UInt64.toNat_toUInt32]
        omega
      refine ⟨⟨?_, ?_⟩, rfl, rfl, fun _ _ => rfl⟩
      · show pkt.raw.dataOff.toNat + toLen.toUInt16.toNat ≤
          pkt.raw.bufLen.toNat
        omega
      · show toLen.toUInt32.toNat = toLen.toUInt16.toNat
        rw [pktLenAfter, dataLenAfter]

/-- A write whose sum is checked soundly stays inside the data, even when it then fails. -/
theorem confined_writeDataSlice
    {pkt : Mbuf}
    (wellFormed : WellFormed pkt)
    {offset : UInt64}
    {slice : Slice}
    (checked : SumChecked pkt offset (slice.size * slice.count)) :
    Confined pkt (pkt.writeDataSlice offset slice).2 := by
  unfold Mbuf.writeDataSlice
  split
  · exact .refl wellFormed
  · next passed =>
      have sumLe := sum_le_dataLen checked passed
      rw [toNat_sliceBytes] at sumLe
      refine ⟨⟨wellFormed.inside, wellFormed.lengths⟩, rfl, rfl, ?_⟩
      intro address beyond
      exact ByteMemory.store_window (by omega) beyond

/-- Every call that is not deceived is confined. -/
theorem confined_step
    {pkt : Mbuf}
    (wellFormed : WellFormed pkt)
    {call : MbufCall}
    (checked : Checked pkt call) :
    Confined pkt (step pkt call) := by
  cases call with
  | extend offset len =>
      exact confined_extend wellFormed offset len
  | shrink offset len =>
      exact confined_shrink wellFormed checked
  | resize offset len =>
      exact confined_resize wellFormed checked
  | truncate toLen =>
      exact confined_truncate wellFormed toLen
  | writeDataSlice offset slice =>
      exact confined_writeDataSlice wellFormed checked

/-! ## Whole runs -/

/--
From any well-formed buffer on, every call of a run is confined, whether it
succeeds or fails, if no call of the run is deceived by a sum that wraps.
-/
theorem everyStep_confined
    {pkt : Mbuf}
    (wellFormed : WellFormed pkt)
    {calls : List MbufCall}
    (checked : EveryStep step Checked pkt calls) :
    EveryStep step
      (fun before call => Confined before (step before call)) pkt calls := by
  refine everyStep_of_guarded ?_ ?_ wellFormed checked
  · intro before call isWellFormed isChecked
    exact (confined_step isWellFormed isChecked).wellFormed
  · intro before call isWellFormed isChecked
    exact confined_step isWellFormed isChecked

/-- A freshly allocated buffer in zeroed memory. -/
def fresh : Mbuf where
  raw :=
    RteMbuf.reset 1 100 fun _ => 0

theorem wellFormed_fresh : WellFormed fresh where
  inside := by
    decide
  lengths := by
    decide

/-- A slice of one byte. -/
def oneByte : Slice where
  size :=
    1
  count :=
    1
  bytes :=
    [1]
  occupied :=
    rfl
  bounded := by
    decide

/-- Each mutator once, the last one refused. -/
theorem confined_each_mutator :
    EveryStep step
      (fun before call => Confined before (step before call)) fresh [
        .extend 0 4,
        .writeDataSlice 3 oneByte,
        .shrink 1 2,
        .resize 0 (-1),
        .truncate 1
      ] :=
  everyStep_confined wellFormed_fresh (by
    simp only [everyStep_cons, everyStep_nil, Checked, SumChecked, and_true]
    decide)

/-- An offset of -1 passes the check of a write and reaches the byte below the data. -/
theorem not_confined_write_below :
    ¬ EveryStep step
      (fun before call => Confined before (step before call)) fresh
      [.writeDataSlice 0xFFFFFFFFFFFFFFFF oneByte] := by
  rintro ⟨confined, _⟩
  have unchanged := confined.beyond 127 (by decide +kernel)
  exact absurd unchanged (by decide +kernel)

end VDataplane.MbufInvariant
