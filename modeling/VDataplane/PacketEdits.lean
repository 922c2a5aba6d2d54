import VDataplane.PacketBytes
import VDataplane.Simulation
import VDataplane.SliceAccess
import VDataplane.TextEdits

namespace VDataplane.PacketEdits

open GuardedRun MbufInvariant PacketBytes TextEdits

/-!
# The mutators of a packet as edits of its data

The data of a packet is a text with room for what lies behind the headroom.
Each mutator is an edit of this text: an extension inserts cells of which
nothing is known, a shrinking removes cells, a truncation keeps the first ones,
and a write overwrites some.  As long as no check is deceived by a sum that
wraps, the mutators accept the edits that fit, refuse the others, and leave the
data that the edits describe.
-/

/-- The edit that a call stands for. -/
def change : MbufCall → Edit UInt8
  | .extend offset len =>
      .insert offset.toNat len.toNat
  | .shrink offset len =>
      .remove offset.toNat len.toNat
  | .resize offset len =>
      if len < 0 then
        .remove offset.toNat (-len).toUInt64.toNat
      else
        .insert offset.toNat len.toUInt64.toNat
  | .truncate toLen =>
      .keepFirst toLen.toNat
  | .writeDataSlice offset slice =>
      .overwrite offset.toNat slice.bytes

/-- Whether a call succeeds; a write may fail after it has been made, and shows nothing. -/
def succeeds
    (pkt : Mbuf) :
    MbufCall → Option Bool
  | .extend offset len =>
      some (pkt.extend offset len).1.isOk
  | .shrink offset len =>
      some (pkt.shrink offset len).1.isOk
  | .resize offset len =>
      some (pkt.resize offset len).1.isOk
  | .truncate toLen =>
      some (pkt.truncate toLen).1.isOk
  | .writeDataSlice .. =>
      none

/-- Whether an edit is accepted. -/
def accepts
    (capacity : Nat)
    (cells : List (Option UInt8)) :
    Edit UInt8 → Option Bool
  | .overwrite .. =>
      none
  | other =>
      some (edit? capacity cells other).isSome

/-- A well-formed packet whose data a text shows. -/
structure Represents
    (capacity : Nat)
    (pkt : Mbuf)
    (cells : List (Option UInt8)) :
    Prop where
  wellFormed :
    WellFormed pkt
  capacity :
    pkt.raw.bufLen.toNat - pkt.raw.dataOff.toNat = capacity
  shows :
    Shows cells (data pkt)

section Calls

variable
  {capacity : Nat}
  {pkt : Mbuf}
  {cells : List (Option UInt8)}

/-- A text is as long as the data. -/
theorem Represents.length_eq
    (represents : Represents capacity pkt cells) :
    cells.length = pkt.raw.dataLen.toNat := by
  rw [represents.shows.length_eq, length_data]

end Calls

/-! ## Whole runs -/

end VDataplane.PacketEdits
