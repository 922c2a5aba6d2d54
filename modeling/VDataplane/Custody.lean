import VDataplane.Pools
import VDataplane.RingRegistry

namespace VDataplane.Custody

/-!
# The buffers of a mempool, wherever they are

Buffers of one mempool are counted by their addresses, with multiplicity, so
that a buffer that is lost and one that is in two places both show.
-/

/-- The addresses of the buffers that belong to a mempool. -/
def tally
    (pool : Address)
    (mbufs : List RteMbuf) :
    Multiset Address :=
  Multiset.ofList
    ((mbufs.filter fun mbuf => mbuf.pool = pool).map RteMbuf.address)

section Tally

variable (pool : Address)

@[simp] theorem tally_nil : tally pool [] = 0 :=
  rfl

@[simp] theorem tally_append (first second : List RteMbuf) :
    tally pool (first ++ second) = tally pool first + tally pool second := by
  rw [tally, List.filter_append, List.map_append]
  exact (Multiset.coe_add _ _).symm

theorem tally_cons
    (mbuf : RteMbuf)
    (mbufs : List RteMbuf) :
    tally pool (mbuf :: mbufs) = tally pool [mbuf] + tally pool mbufs :=
  tally_append pool [mbuf] mbufs

variable {pool}

/-- The order of the buffers does not matter. -/
theorem tally_perm
    {first second : List RteMbuf}
    (reordered : first.Perm second) :
    tally pool first = tally pool second :=
  Multiset.coe_eq_coe.mpr ((reordered.filter _).map _)

/-- A buffer of another mempool does not count. -/
theorem tally_of_ne
    {mbuf : RteMbuf}
    (different : mbuf.pool ≠ pool) :
    tally pool [mbuf] = 0 := by
  simp [tally, different]

/-- Buffers count by their mempool and their address. -/
theorem tally_map
    (change : RteMbuf → RteMbuf)
    (samePool : ∀ mbuf, (change mbuf).pool = mbuf.pool)
    (sameAddress : ∀ mbuf, (change mbuf).address = mbuf.address)
    (mbufs : List RteMbuf) :
    tally pool (mbufs.map change) = tally pool mbufs := by
  have sameFilter :
      (fun mbuf => decide (mbuf.pool = pool)) ∘ change =
        fun mbuf => decide (mbuf.pool = pool) := by
    funext mbuf
    simp [samePool]
  have sameMap : RteMbuf.address ∘ change = RteMbuf.address :=
    funext sameAddress
  rw [tally, List.filter_map, List.map_map, sameFilter, sameMap, tally]

/-- Buffers of other mempools do not count. -/
theorem tally_of_forall_ne
    {mbufs : List RteMbuf}
    (different : ∀ mbuf ∈ mbufs, mbuf.pool ≠ pool) :
    tally pool mbufs = 0 := by
  have none : mbufs.filter (fun mbuf => mbuf.pool = pool) = [] := by
    simpa using different
  rw [tally, none]
  rfl

/-- Buffers that all belong to the mempool count by their addresses. -/
theorem tally_of_forall_eq
    {mbufs : List RteMbuf}
    (belong : ∀ mbuf ∈ mbufs, mbuf.pool = pool) :
    tally pool mbufs = Multiset.ofList (mbufs.map RteMbuf.address) := by
  have all : mbufs.filter (fun mbuf => mbuf.pool = pool) = mbufs := by
    simpa using belong
  rw [tally, all]

/-- Only a list without buffers counts nothing for every mempool. -/
theorem eq_nil_of_tally_eq_zero
    {mbufs : List RteMbuf}
    (nothing : ∀ pool, tally pool mbufs = 0) :
    mbufs = [] := by
  cases mbufs with
  | nil =>
      rfl
  | cons mbuf rest =>
      have isZero := nothing mbuf.pool
      rw [tally_cons, add_eq_zero] at isZero
      have one : tally mbuf.pool [mbuf] = {mbuf.address} := by
        simp [tally]
      rw [one] at isZero
      exact absurd isZero.1 (Multiset.singleton_ne_zero _)

/-- Returned buffers count where they were returned to. -/
theorem tally_returned
    {freed : List RteMbuf}
    {before after : Address → List RteMbuf}
    (returned : Returned freed before after) :
    tally pool (after pool) =
      tally pool freed + tally pool (before pool) := by
  rw [tally_perm (returned pool), tally_append]
  congr 1
  rw [tally, List.filter_filter, tally]
  simp

/-- Taking one buffer out of a list leaves the others. -/
theorem perm_eraseIdx
    {mbufs : List RteMbuf}
    {index : Nat}
    {mbuf : RteMbuf}
    (found : mbufs[index]? = some mbuf) :
    mbufs.Perm ([mbuf] ++ mbufs.eraseIdx index) := by
  obtain ⟨isIndex, rfl⟩ := List.getElem?_eq_some_iff.mp found
  exact (List.getElem_cons_eraseIdx_perm isIndex).symm

end Tally

/-! ## Queues -/

/-- The packets in the two rings of a client, none for a client without rings. -/
def queued
    (map : RingClientMap)
    (eal : Eal)
    (clientId : UInt16) :
    List RteMbuf :=
  match map.ringmap clientId with
  | none =>
      []
  | some channel =>
      (eal.rings channel.clientToEngine.raw).entries ++
        (eal.rings channel.engineToClient.raw).entries

/-- The buffers of a mempool in the rings of all clients. -/
def inRings
    (pool : Address)
    (map : RingClientMap)
    (eal : Eal) :
    Multiset Address :=
  ∑ clientId, tally pool (queued map eal clientId)

/-- Sums that differ in one summand have the rest in common. -/
theorem sum_one_change
    {Key Count : Type*}
    [Fintype Key]
    [DecidableEq Key]
    [AddCommMonoid Count]
    {before after : Key → Count}
    {key : Key}
    (othersSame : ∀ other, other ≠ key → after other = before other) :
    ∃ rest,
      ∑ other, before other = before key + rest ∧
        ∑ other, after other = after key + rest := by
  refine ⟨∑ other ∈ Finset.univ.erase key, before other, ?_, ?_⟩
  · exact (Finset.add_sum_erase _ _ (Finset.mem_univ key)).symm
  · rw [← Finset.add_sum_erase _ _ (Finset.mem_univ key)]
    congr 1
    apply Finset.sum_congr rfl
    intro other member
    exact othersSame other (Finset.ne_of_mem_erase member)

section Queues

variable
  {map : RingClientMap}
  {eal : Eal}
  {clientId : UInt16}
  {channel : Channel}

theorem queued_of_absent
    (absent : map.ringmap clientId = none) :
    queued map eal clientId = [] := by
  rw [queued, absent]

theorem queued_of_present
    (present : map.ringmap clientId = some channel) :
    queued map eal clientId =
      (eal.rings channel.clientToEngine.raw).entries ++
        (eal.rings channel.engineToClient.raw).entries := by
  rw [queued, present]

/-- Queues are the same as long as the rings of the client are. -/
theorem queued_congr
    {otherMap : RingClientMap}
    {after : Eal}
    (sameChannel : otherMap.ringmap clientId = map.ringmap clientId)
    (sameRings :
      ∀ channel rtype,
        map.ringmap clientId = some channel →
        after.rings (channel.ring rtype).raw =
          eal.rings (channel.ring rtype).raw) :
    queued otherMap after clientId = queued map eal clientId := by
  cases present : map.ringmap clientId with
  | none =>
      rw [queued_of_absent present,
        queued_of_absent (sameChannel.trans present)]
  | some channel =>
      have sameC2e :
          after.rings channel.clientToEngine.raw =
            eal.rings channel.clientToEngine.raw :=
        sameRings channel .c2e present
      have sameE2c :
          after.rings channel.engineToClient.raw =
            eal.rings channel.engineToClient.raw :=
        sameRings channel .e2c present
      rw [queued_of_present present,
        queued_of_present (sameChannel.trans present), sameC2e, sameE2c]

/-- Without a change to any ring the sum is the same. -/
theorem inRings_congr
    (pool : Address)
    {after : Eal}
    (sameRings : after.rings = eal.rings) :
    inRings pool map after = inRings pool map eal := by
  simp only [inRings, queued, sameRings]

/-- What changes in one ring of one client changes in the sum. -/
theorem inRings_setRing
    (pool : Address)
    (backed : map.Backed eal)
    (present : map.ringmap clientId = some channel)
    (rtype : RingType)
    (ring : RteRing) :
    inRings pool map (eal.setRing (channel.ring rtype).raw ring) +
        tally pool (eal.rings (channel.ring rtype).raw).entries =
      inRings pool map eal + tally pool ring.entries := by
  have othersSame :
      ∀ other, other ≠ clientId →
        tally pool
            (queued map (eal.setRing (channel.ring rtype).raw ring)
              other) =
          tally pool (queued map eal other) := by
    intro other different
    congr 1
    apply queued_congr rfl
    intro otherChannel otherType otherPresent
    apply Function.update_of_ne
    intro same
    exact different (backed.raw_inj otherPresent present same).2
  obtain ⟨rest, sumBefore, sumAfter⟩ := sum_one_change othersSame
  have apart : channel.clientToEngine.raw ≠ channel.engineToClient.raw := by
    intro same
    have sameRing : RingType.c2e = RingType.e2c ∧ clientId = clientId :=
      backed.raw_inj present present same
    cases sameRing.1
  rw [inRings, inRings, sumBefore, sumAfter, queued_of_present present,
    queued_of_present present, tally_append, tally_append]
  cases rtype with
  | c2e =>
      simp only [Channel.ring, Eal.setRing_rings, Function.update_self,
        Function.update_of_ne apart.symm]
      abel
  | e2c =>
      simp only [Channel.ring, Eal.setRing_rings, Function.update_self,
        Function.update_of_ne apart]
      abel

/-- Another packet on a ring. -/
theorem inRings_push
    (pool : Address)
    (backed : map.Backed eal)
    (present : map.ringmap clientId = some channel)
    (rtype : RingType)
    {mbuf : RteMbuf}
    {pushed : RteRing}
    (accepts :
      (eal.rings (channel.ring rtype).raw).push? mbuf = some pushed) :
    inRings pool map (eal.setRing (channel.ring rtype).raw pushed) =
      inRings pool map eal + tally pool [mbuf] := by
  have changed := inRings_setRing pool backed present rtype pushed
  obtain ⟨_, _, sameEntries⟩ := BoundedFifo.push?_eq_some_iff.mp accepts
  rw [sameEntries, tally_append, ← add_assoc, add_right_comm] at changed
  exact add_right_cancel changed

/-- Packets taken from the head of a ring. -/
theorem inRings_drop
    (pool : Address)
    (backed : map.Backed eal)
    (present : map.ringmap clientId = some channel)
    (rtype : RingType)
    (count : Nat) :
    inRings pool map
          (eal.setRing (channel.ring rtype).raw
            ((eal.rings (channel.ring rtype).raw).drop count)) +
        tally pool
          ((eal.rings (channel.ring rtype).raw).entries.take count) =
      inRings pool map eal := by
  have changed := inRings_setRing pool backed present rtype
    ((eal.rings (channel.ring rtype).raw).drop count)
  have split :
      tally pool (eal.rings (channel.ring rtype).raw).entries =
        tally pool
            ((eal.rings (channel.ring rtype).raw).entries.take count) +
          tally pool
            ((eal.rings (channel.ring rtype).raw).entries.drop count) := by
    rw [← tally_append, List.take_append_drop]
  rw [split, BoundedFifo.drop_entries, ← add_assoc] at changed
  exact add_right_cancel changed

/-- The oldest packet taken from a ring. -/
theorem inRings_pop
    (pool : Address)
    (backed : map.Backed eal)
    (present : map.ringmap clientId = some channel)
    (rtype : RingType)
    {oldest : RteMbuf}
    {popped : RteRing}
    (taken :
      (eal.rings (channel.ring rtype).raw).pop? = some (oldest, popped)) :
    inRings pool map (eal.setRing (channel.ring rtype).raw popped) +
        tally pool [oldest] =
      inRings pool map eal := by
  have changed := inRings_setRing pool backed present rtype popped
  have sameEntries := (BoundedFifo.pop?_eq_some_iff.mp taken).2
  rw [sameEntries, tally_cons, ← add_assoc] at changed
  exact add_right_cancel changed

/-- The rings of a new client are empty, and those of a failed creation are nobody's. -/
theorem inRings_addClient
    (pool : Address)
    (backed : map.Backed eal)
    (clientId : UInt16)
    (e2c c2e : Dpdk.Allocation) :
    inRings pool (map.addClient clientId e2c c2e eal).2.1
          (map.addClient clientId e2c c2e eal).2.2 =
        inRings pool map eal ∧
      (map.addClient clientId e2c c2e eal).2.2.pools = eal.pools := by
  rcases backed.addClient_cases clientId e2c c2e with
    ⟨_, _, after, failed, notCreated⟩ |
      ⟨_, channel, after, added, absent, created⟩
  · rw [failed]
    refine ⟨?_, notCreated.pools⟩
    apply Finset.sum_congr rfl
    intro other _
    congr 1
    apply queued_congr rfl
    intro otherChannel rtype present
    exact notCreated.rings _ _ (backed.registered present rtype)
  · rw [added]
    refine ⟨?_, created.pools⟩
    apply Finset.sum_congr rfl
    intro other _
    congr 1
    by_cases same : other = clientId
    · subst same
      have present :
          (RingClientMap.mk (map.ringmap.insert other channel)).ringmap
              other =
            some channel :=
        PartialMap.insert_self _ _ _
      have c2eEmpty := created.isEmpty .c2e
      have e2cEmpty := created.isEmpty .e2c
      rw [queued_of_absent absent, queued_of_present present]
      simp only [Channel.ring] at c2eEmpty e2cEmpty
      rw [c2eEmpty, e2cEmpty]
      rfl
    · apply queued_congr (PartialMap.insert_other _ same _)
      intro otherChannel rtype present
      apply created.otherRings
      intro createdType sameAddress
      apply created.addressFresh createdType
      rw [← sameAddress]
      exact backed.registered present rtype

/-- The packets in the rings of a removed client are in no ring of a client any more. -/
theorem inRings_removeClient
    (pool : Address)
    (map : RingClientMap)
    (clientId : UInt16)
    (eal : Eal) :
    inRings pool (map.removeClient clientId eal).1
          (map.removeClient clientId eal).2 +
        tally pool (queued map eal clientId) =
      inRings pool map eal ∧
      (map.removeClient clientId eal).2.pools = eal.pools := by
  rcases map.removeClient_cases clientId eal with
    ⟨absent, removed⟩ | ⟨channel, present, removed⟩
  · rw [removed, queued_of_absent absent]
    exact ⟨add_zero _, rfl⟩
  · rw [removed]
    refine ⟨?_, Channel.drop_pools channel eal⟩
    have othersSame :
        ∀ other, other ≠ clientId →
          tally pool
              (queued ⟨map.ringmap.erase clientId⟩ (channel.drop eal)
                other) =
            tally pool (queued map eal other) := by
      intro other different
      congr 1
      apply queued_congr (PartialMap.erase_other _ different)
      intro otherChannel rtype _
      rw [Channel.drop_rings]
    obtain ⟨rest, sumBefore, sumAfter⟩ := sum_one_change othersSame
    have gone :
        queued ⟨map.ringmap.erase clientId⟩ (channel.drop eal) clientId =
          [] :=
      queued_of_absent (PartialMap.erase_self _ _)
    rw [inRings, inRings, sumBefore, sumAfter, gone, tally_nil, zero_add,
      add_comm]

end Queues

end VDataplane.Custody
