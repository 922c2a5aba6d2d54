import VDataplane.Mbuf

namespace VDataplane

/-!
# Buffers that leave their mempools and come back

What it means that buffers were returned, as a relation between the free
buffers before and after, and what creating and dropping vectors of buffers
does to them.
-/

/-- Every buffer of `freed` was put back once, into the mempool that it belongs to. -/
def Returned
    (freed : List RteMbuf)
    (before after : Address → List RteMbuf) :
    Prop :=
  ∀ mempool,
    (after mempool).Perm
      (freed.filter (fun mbuf => mbuf.pool = mempool) ++ before mempool)

namespace Returned

variable
  {first second : List RteMbuf}
  {before between after : Address → List RteMbuf}

/-- As long as no buffer comes back, nothing changes. -/
theorem nil (pools : Address → List RteMbuf) :
    Returned [] pools pools := by
  intro mempool
  simp

/-- Returning buffers in two steps returns all of them. -/
theorem append
    (firstReturned : Returned first before between)
    (secondReturned : Returned second between after) :
    Returned (first ++ second) before after := by
  intro mempool
  rw [List.filter_append, List.append_assoc]
  refine (secondReturned mempool).trans ?_
  refine ((firstReturned mempool).append_left _).trans ?_
  rw [← List.append_assoc, ← List.append_assoc]
  exact List.perm_append_comm.append_right _

/-- The order in which the buffers came back does not matter. -/
theorem of_perm
    (returned : Returned first before after)
    (reordered : first.Perm second) :
    Returned second before after := by
  intro mempool
  exact (returned mempool).trans
    ((reordered.filter _).append_right _)

/-- Which buffers came back can be told from the mempools before and after. -/
theorem perm
    (firstReturned : Returned first before after)
    (secondReturned : Returned second before after) :
    first.Perm second := by
  classical
  rw [List.perm_iff_count]
  intro mbuf
  have sameFree :=
    (firstReturned mbuf.pool).symm.trans (secondReturned mbuf.pool)
  have sameFiltered :=
    ((List.perm_append_right_iff _).mp sameFree).count_eq mbuf
  rwa [List.count_filter (by simp), List.count_filter (by simp)]
    at sameFiltered

/-- Nothing came back when no mempool changed. -/
theorem eq_nil
    (returned : Returned first before before) :
    first = [] :=
  List.perm_nil.mp (returned.perm (nil before))

end Returned

namespace Mbuf

/-- Dropping a buffer returns it. -/
theorem returned_drop
    (pkt : Mbuf)
    (eal : Eal) :
    Returned [pkt.raw] eal.pools (pkt.drop eal).pools := by
  intro mempool
  by_cases same : pkt.raw.pool = mempool
  · subst same
    simp [Mbuf.drop, Dpdk.rtePktmbufFree]
  · simp [Mbuf.drop, Dpdk.rtePktmbufFree, same,
      Function.update_of_ne (Ne.symm same)]

@[simp] theorem dropAll_nil (eal : Eal) :
    dropAll [] eal = eal :=
  rfl

@[simp] theorem dropAll_cons
    (pkt : Mbuf)
    (pkts : List Mbuf)
    (eal : Eal) :
    dropAll (pkt :: pkts) eal = dropAll pkts (pkt.drop eal) :=
  rfl

/-- Dropping a vector returns all its buffers. -/
theorem returned_dropAll
    (pkts : List Mbuf)
    (eal : Eal) :
    Returned (pkts.map Mbuf.raw) eal.pools (dropAll pkts eal).pools := by
  induction pkts generalizing eal with
  | nil =>
      exact .nil eal.pools
  | cons pkt rest inductionHypothesis =>
      have headReturned := returned_drop pkt eal
      exact headReturned.append (inductionHypothesis (pkt.drop eal))

/-- Dropping a vector changes nothing but the mempools. -/
theorem dropAll_eq
    (pkts : List Mbuf)
    (eal : Eal) :
    dropAll pkts eal = { eal with pools := (dropAll pkts eal).pools } := by
  induction pkts generalizing eal with
  | nil =>
      rfl
  | cons pkt rest inductionHypothesis =>
      rw [dropAll_cons, inductionHypothesis (pkt.drop eal)]
      rfl

@[simp] theorem dropAll_rings
    (pkts : List Mbuf)
    (eal : Eal) :
    (dropAll pkts eal).rings = eal.rings := by
  rw [dropAll_eq]

@[simp] theorem dropAll_ringTailq
    (pkts : List Mbuf)
    (eal : Eal) :
    (dropAll pkts eal).ringTailq = eal.ringTailq := by
  rw [dropAll_eq]

/-- Creating a buffer fails exactly when none is free, and otherwise takes the next free one. -/
theorem new_cases
    (mp : Mempool)
    (eal : Eal) :
    (eal.pools mp.raw = [] ∧
      Mbuf.new mp eal = (.error .noBuf, eal)) ∨
    ∃ mbuf free,
      eal.pools mp.raw = mbuf :: free ∧
        Mbuf.new mp eal = (.ok ⟨mbuf.recycled⟩, eal.setPool mp.raw free) := by
  rcases Dpdk.rtePktmbufAlloc_cases mp.raw eal with
    ⟨noneFree, failed⟩ | ⟨mbuf, free, shape, allocated⟩
  · exact Or.inl ⟨noneFree, by simp [Mbuf.new, failed]⟩
  · exact Or.inr ⟨mbuf, free, shape, by simp [Mbuf.new, allocated]⟩

/-- The buffers that creating up to `count` of them yields. -/
def createdUpTo
    (mp : Mempool)
    (count : Nat)
    (eal : Eal) :
    List Mbuf :=
  ((eal.pools mp.raw).take count).map fun mbuf => ⟨mbuf.recycled⟩

/-- The loop creates as many of the asked-for buffers as are free. -/
theorem createUpTo_eq
    (mp : Mempool)
    (count : Nat)
    (pkts : List Mbuf)
    (eal : Eal) :
    createUpTo mp count pkts eal =
      (pkts ++ createdUpTo mp count eal,
        eal.setPool mp.raw ((eal.pools mp.raw).drop count)) := by
  induction count generalizing pkts eal with
  | zero =>
      simp [createUpTo, createdUpTo]
  | succ count inductionHypothesis =>
      rcases new_cases mp eal with
        ⟨noneFree, failed⟩ | ⟨mbuf, free, shape, created⟩
      · have unchanged := eal.setPool_self mp.raw
        rw [noneFree] at unchanged
        simp [createUpTo, createdUpTo, failed, noneFree, unchanged]
      · simp [createUpTo, createdUpTo, created, inductionHypothesis, shape]

@[simp] theorem length_createdUpTo
    (mp : Mempool)
    (count : Nat)
    (eal : Eal) :
    (createdUpTo mp count eal).length =
      min count (eal.pools mp.raw).length := by
  simp [createdUpTo]

end Mbuf

end VDataplane
