import VDataplane.BufferCapacity

namespace VDataplane.ClientRemoval

open GuardedRun PacketiserClients

/-!
# The removal of a client from the packetiser

`remove_clients` searches the id by hand and removes whatever index the search
ends at.  For an id that is not there this is the length of the list, and for an
id that is there twice it is the first of the two.
-/

/-- One id is gone from the list and from the map, and nothing else has changed. -/
structure Removed
    (before : State)
    (key : UInt16)
    (packetiser : Packetiser)
    (eal : Eal) :
    Prop where
  noId :
    key ∉ packetiser.allocatedIds
  noChannel :
    packetiser.clientmap.ringmap key = none
  otherIds :
    packetiser.allocatedIds =
      before.packetiser.allocatedIds.filter (fun id => id ≠ key)
  otherChannels :
    ∀ other, other ≠ key →
      packetiser.clientmap.ringmap other =
        before.packetiser.clientmap.ringmap other
  otherRings :
    ∀ other channel, other ≠ key →
      before.packetiser.clientmap.ringmap other = some channel →
      ∀ rtype,
        eal.ringTailq.Registered
            (Ring.registeredName rtype other) (channel.ring rtype).raw ∧
          eal.rings (channel.ring rtype).raw =
            before.eal.rings (channel.ring rtype).raw
  unallocated :
    key ∉ before.packetiser.allocatedIds →
    packetiser = before.packetiser ∧ eal = before.eal

/-- The removal of an id does not panic, and removes exactly this id. -/
def RemovesExactly
    (state : State)
    (key : UInt16) :
    Prop :=
  ∃ packetiser eal,
    state.packetiser.removeClients key state.eal = .ok (packetiser, eal) ∧
      Removed state key packetiser eal

/-- Erasing an id that is there once keeps all others in their order. -/
theorem erase_eq_filter
    {ids : List UInt16}
    {key : UInt16}
    (once : ids.count key = 1) :
    ids.erase key = ids.filter (fun id => id ≠ key) := by
  have member : key ∈ ids := by
    rw [← List.count_pos_iff, once]
    exact Nat.one_pos
  obtain ⟨lower, upper, notLower, rfl, erased⟩ :=
    List.exists_erase_eq member
  have notUpper : key ∉ upper := by
    rw [List.count_append, List.count_cons_self,
      List.count_eq_zero.mpr notLower] at once
    exact List.count_eq_zero.mp (by omega)
  have lowerKept : lower.filter (fun id => id ≠ key) = lower := by
    rw [List.filter_eq_self]
    intro id isLower
    simpa using ne_of_mem_of_not_mem isLower notLower
  have upperKept : upper.filter (fun id => id ≠ key) = upper := by
    rw [List.filter_eq_self]
    intro id isUpper
    simpa using ne_of_mem_of_not_mem isUpper notUpper
  rw [erased, List.filter_append, List.filter_cons_of_neg (by simp),
    lowerKept, upperKept]

/-- The removal of an id that is not allocated panics. -/
theorem removeClients_of_not_mem
    {packetiser : Packetiser}
    {key : UInt16}
    (notAllocated : key ∉ packetiser.allocatedIds)
    (eal : Eal) :
    packetiser.removeClients key eal = .error .panicked := by
  have notFound := List.idxOf_eq_length notAllocated
  simp only [Packetiser.removeClients, notFound, Nat.lt_irrefl, ↓reduceIte]

section Removal

variable
  {state : State}
  {key : UInt16}

/-- Removing a client leaves the rings of the others registered, and every ring as it was. -/
theorem otherRings_removeClient
    (backed : BufferCapacity.BackedState state)
    {other : UInt16}
    {channel : Channel}
    (different : other ≠ key)
    (present :
      state.packetiser.clientmap.ringmap other = some channel)
    (rtype : RingType) :
    (state.packetiser.clientmap.removeClient key
          state.eal).2.ringTailq.Registered
        (Ring.registeredName rtype other) (channel.ring rtype).raw ∧
      (state.packetiser.clientmap.removeClient key state.eal).2.rings
          (channel.ring rtype).raw =
        state.eal.rings (channel.ring rtype).raw := by
  have backedAfter := RingClientMap.Backed.removeClient backed key
  have kept :
      (state.packetiser.clientmap.removeClient key
          state.eal).1.ringmap other =
        some channel := by
    rw [RingClientMap.removeClient_ringmap,
      PartialMap.erase_other _ different]
    exact present
  refine ⟨backedAfter.registered kept rtype, ?_⟩
  rcases state.packetiser.clientmap.removeClient_cases key state.eal with
    ⟨_, removed⟩ | ⟨_, _, removed⟩
  · rw [removed]
  · rw [removed]
    rfl

/-- An id that is allocated once is removed exactly. -/
theorem removesExactly_of_once
    (backed : BufferCapacity.BackedState state)
    (once : state.packetiser.allocatedIds.count key = 1) :
    RemovesExactly state key := by
  have allocated : key ∈ state.packetiser.allocatedIds := by
    rw [← List.count_pos_iff, once]
    exact Nat.one_pos
  have sameIds := erase_eq_filter once
  refine ⟨_, _, Packetiser.removeClients_of_mem allocated state.eal, ?_⟩
  exact {
    noId := by
      show key ∉ state.packetiser.allocatedIds.erase key
      rw [sameIds]
      simp
    noChannel :=
      state.packetiser.clientmap.removeClient_absent key state.eal
    otherIds :=
      sameIds
    otherChannels := fun other different => by
      show (state.packetiser.clientmap.removeClient key
        state.eal).1.ringmap other = _
      rw [RingClientMap.removeClient_ringmap]
      exact PartialMap.erase_other _ different
    otherRings := fun other channel different present =>
      otherRings_removeClient backed different present
    unallocated := fun notAllocated => absurd allocated notAllocated
  }

/-- An id that is removed exactly is allocated once. -/
theorem once_of_removesExactly
    (removes : RemovesExactly state key) :
    state.packetiser.allocatedIds.count key = 1 := by
  obtain ⟨packetiser, eal, completed, removed⟩ := removes
  by_cases allocated : key ∈ state.packetiser.allocatedIds
  · rw [Packetiser.removeClients_of_mem allocated] at completed
    cases completed
    have noneLeft := List.count_eq_zero.mpr removed.noId
    rw [List.count_erase_self] at noneLeft
    have positive := List.count_pos_iff.mpr allocated
    omega
  · rw [removeClients_of_not_mem allocated] at completed
    cases completed

end Removal

/--
In every state that a packetiser reaches, the removal of an id completes and
removes exactly this id if and only if the id is allocated once.
-/
theorem removesExactly_iff_once
    {cap : Nat}
    {eal after : Eal}
    {packetiser : Packetiser}
    (created : Packetiser.new cap eal = (.ok packetiser, after))
    (actions : List BufferCapacity.Action)
    (key : UInt16) :
    RemovesExactly
        (run BufferCapacity.step (start packetiser after) actions) key ↔
      (run BufferCapacity.step (start packetiser after)
        actions).packetiser.allocatedIds.count key = 1 := by
  have atStart : BufferCapacity.BackedState (start packetiser after) := by
    obtain ⟨channel, mempool, rfl⟩ := Packetiser.of_new created
    exact RingClientMap.backed_new after
  have backed :
      BufferCapacity.BackedState
        (run BufferCapacity.step (start packetiser after) actions) := by
    apply run_invariant ?_ atStart
    intro state action isBacked
    exact (BufferCapacity.gained_step isBacked action).backed isBacked
  exact ⟨once_of_removesExactly, removesExactly_of_once backed⟩

/-- Two additions of a client. -/
def twoClients : List BufferCapacity.Action := [
  .clients (.addClient (.ok 40) (.ok 50)),
  .clients (.addClient (.ok 60) (.ok 70))
]

/-- The first of two clients is removed, and the second stays. -/
theorem removesExactly_one_of_two :
    (run BufferCapacity.step (start newPacketiser engineEal)
        twoClients).packetiser.allocatedIds = [2, 3] ∧
      ((run BufferCapacity.step (start newPacketiser engineEal)
        twoClients).packetiser.clientmap.ringmap 3).isSome ∧
      RemovesExactly
        (run BufferCapacity.step (start newPacketiser engineEal)
          twoClients) 2 := by
  have exactly :=
    removesExactly_iff_once created_newPacketiser twoClients 2
  exact ⟨by decide, by decide, exactly.mpr (by decide)⟩

/-- The removal of an id that was never allocated panics. -/
theorem not_removesExactly_unallocated :
    Packetiser.new 64 engineEal = (.ok newPacketiser, engineEal) ∧
      ¬ RemovesExactly (start newPacketiser engineEal) 7 := by
  refine ⟨created_newPacketiser, ?_⟩
  intro removes
  exact absurd (once_of_removesExactly removes) (by decide)

end VDataplane.ClientRemoval
