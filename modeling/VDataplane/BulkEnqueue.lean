import VDataplane.ChannelLifecycle
import VDataplane.Pools

namespace VDataplane.BulkEnqueue

/-!
# Bulk enqueue

`Ring::enqueue_bulk` should store all its packets or give all of them back.
It turns the packets into raw pointers, which nobody frees any more, and then
asks the library to enqueue as many of them as the drained vector has left:
none.
-/

/-- All packets are on the ring, or they did not fit and all of them are back in their pools. -/
structure AllOrNothing
    (ring : Ring)
    (pkts : List Mbuf)
    (before : Eal)
    (count : Nat)
    (after : Eal) :
    Prop where
  stored :
    pkts.length ≤ (before.rings ring.raw).room →
    count = pkts.length ∧
      (after.rings ring.raw).entries =
        (before.rings ring.raw).entries ++ pkts.map Mbuf.raw ∧
      after.pools = before.pools
  refused :
    (before.rings ring.raw).room < pkts.length →
    count = 0 ∧
      after.rings ring.raw = before.rings ring.raw ∧
      Returned (pkts.map Mbuf.raw) before.pools after.pools

/-- A bulk enqueue is all-or-nothing exactly if there is nothing to enqueue. -/
theorem allOrNothing_iff_nil
    (ring : Ring)
    (pkts : List Mbuf)
    (eal : Eal) :
    AllOrNothing ring pkts eal
        (ring.enqueueBulk pkts eal).1 (ring.enqueueBulk pkts eal).2 ↔
      pkts = [] := by
  rw [ring.enqueueBulk_eq pkts eal]
  constructor
  · intro allOrNothing
    rcases Nat.lt_or_ge (eal.rings ring.raw).room pkts.length with
      tooMany | fits
    · obtain ⟨_, _, returned⟩ := allOrNothing.refused tooMany
      exact List.map_eq_nil_iff.mp returned.eq_nil
    · obtain ⟨sameCount, _⟩ := allOrNothing.stored fits
      exact List.length_eq_zero_iff.mp sameCount.symm
  · rintro rfl
    refine ⟨?_, ?_⟩
    · intro _
      exact ⟨rfl, (List.append_nil _).symm, rfl⟩
    · intro tooMany
      exact absurd tooMany (Nat.not_lt_zero _)

/-- A ring with a free slot does not take a single packet. -/
theorem not_allOrNothing_one_packet :
    ¬ AllOrNothing ⟨2, .c2e, 10⟩ [⟨.reset 1 100 fun _ => 0⟩]
      (Eal.initial.setRing 10 (BoundedFifo.empty 511))
      (Ring.enqueueBulk ⟨2, .c2e, 10⟩ [⟨.reset 1 100 fun _ => 0⟩]
        (Eal.initial.setRing 10 (BoundedFifo.empty 511))).1
      (Ring.enqueueBulk ⟨2, .c2e, 10⟩ [⟨.reset 1 100 fun _ => 0⟩]
        (Eal.initial.setRing 10 (BoundedFifo.empty 511))).2 := by
  intro allOrNothing
  have fits :
      1 ≤ ((Eal.initial.setRing 10 (BoundedFifo.empty 511)).rings 10).room := by
    decide
  obtain ⟨sameCount, _⟩ := allOrNothing.stored fits
  exact absurd sameCount (by decide)

end VDataplane.BulkEnqueue
