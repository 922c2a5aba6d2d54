import VDataplane.FreeBulk
import VDataplane.FromBytes

namespace VDataplane.BulkAlloc

open MbufInvariant FromBytes

/-!
# Allocating buffers in bulk

The number of buffers asked for is cast to 32 bits on its way to the library,
but the vector of pointers is declared to be as long as the number itself.  The
two agree for every number that 32 bits can hold.  And before the library is
asked at all, the vector has to be allocated, which can end the program.
-/

/-- A mempool whose free buffers are different buffers of its own. -/
structure Stocked
    (mp : Mempool)
    (eal : Eal) :
    Prop where
  homed :
    ∀ mbuf ∈ eal.pools mp.raw, mbuf.pool = mp.raw
  distinct :
    ((eal.pools mp.raw).map RteMbuf.address).Nodup

/--
`count` different, valid buffers left a mempool that had them, and freeing them
in bulk gives every mempool its buffers back.
-/
structure Granted
    (count : Nat)
    (mp : Mempool)
    (pkts : List Mbuf)
    (before after : Eal) :
    Prop where
  enough :
    count ≤ (before.pools mp.raw).length
  exactly :
    pkts.length = count
  distinct :
    (pkts.map fun pkt => pkt.raw.address).Nodup
  wasFree :
    ∀ pkt ∈ pkts,
      pkt.raw.address ∈ (before.pools mp.raw).map RteMbuf.address
  wellFormed :
    ∀ pkt ∈ pkts, WellFormed pkt
  undone :
    ∀ mempool,
      (((Mbuf.freeBulk pkts after).pools mempool).map
          RteMbuf.address).Perm
        ((before.pools mempool).map RteMbuf.address)

/-- All buffers asked for are handed out, or none and nothing changes. -/
def AllOrNothing
    (len : UInt64)
    (mp : Mempool)
    (allocated granted : Bool)
    (before : Eal) :
    Prop :=
  (∃ error,
    Mbuf.allocBulk len mp allocated granted before =
      .ok (.error error, before)) ∨
  ∃ pkts after,
    Mbuf.allocBulk len mp allocated granted before =
        .ok (.ok (pkts.map some), after) ∧
      Granted len.toNat mp pkts before after

/-- The library hands out as many buffers as the cast asks for. -/
def GrantsCast
    (len : UInt64)
    (mp : Mempool)
    (granted : Bool)
    (eal : Eal) :
    Prop :=
  granted = true ∧ len.toNat % 2 ^ 32 ≤ (eal.pools mp.raw).length

/--
There is memory for the vector of pointers, and the cast keeps the number of
buffers or the library refuses what it is asked for.
-/
def CountKept
    (len : UInt64)
    (mp : Mempool)
    (allocated granted : Bool)
    (eal : Eal) :
    Prop :=
  PtrsFit len.toNat allocated ∧
    (len.toNat < 2 ^ 32 ∨ ¬ GrantsCast len mp granted eal)

section Outcomes

variable
  {len : UInt64}
  {mp : Mempool}
  {allocated granted : Bool}
  {eal : Eal}

/-- Without memory for the vector the program ends. -/
theorem allocBulk_of_not_fit
    (noFit : ¬ PtrsFit len.toNat allocated) :
    ∃ fault,
      Mbuf.allocBulk len mp allocated granted eal = .error fault := by
  obtain ⟨fault, failed⟩ := ptrsWithCapacity_of_not_fit noFit
  exact ⟨fault, by rw [Mbuf.allocBulk, failed]⟩

/-- A refusal of the library is passed on. -/
theorem allocBulk_of_refused
    (fits : PtrsFit len.toNat allocated)
    (refused : ¬ GrantsCast len mp granted eal) :
    Mbuf.allocBulk len mp allocated granted eal =
      .ok (.error .noBuf, eal) := by
  have noGrant :
      ¬ (granted = true ∧
        len.toUInt32.toNat ≤ (eal.pools mp.raw).length) := by
    rwa [UInt64.toNat_toUInt32]
  rw [Mbuf.allocBulk, ptrsWithCapacity_of_fit fits,
    Dpdk.rtePktmbufAllocBulk, if_neg noGrant]
  rfl

/-- The vector holds the buffers that the library filled in, and what the cast lost. -/
theorem allocBulk_of_granted
    (fits : PtrsFit len.toNat allocated)
    (grants : GrantsCast len mp granted eal) :
    Mbuf.allocBulk len mp allocated granted eal =
      .ok
        (.ok ((Mbuf.createdUpTo mp (len.toNat % 2 ^ 32) eal).map some ++
          List.replicate (len.toNat - len.toNat % 2 ^ 32) none),
        eal.setPool mp.raw
          ((eal.pools mp.raw).drop (len.toNat % 2 ^ 32))) := by
  have cast : len.toUInt32.toNat = len.toNat % 2 ^ 32 :=
    UInt64.toNat_toUInt32 len
  have grant :
      granted = true ∧
        len.toUInt32.toNat ≤ (eal.pools mp.raw).length := by
    rwa [cast]
  have filled :
      min (len.toNat % 2 ^ 32) (eal.pools mp.raw).length =
        len.toNat % 2 ^ 32 :=
    Nat.min_eq_left grants.2
  rw [Mbuf.allocBulk, ptrsWithCapacity_of_fit fits,
    Dpdk.rtePktmbufAllocBulk, if_pos grant, cast]
  simp only [List.length_map, List.length_take, filled, List.map_map,
    Mbuf.createdUpTo]
  rfl

end Outcomes

section Granted

variable
  {count : Nat}
  {mp : Mempool}
  {eal : Eal}

/-- The buffers created are at the addresses of the first free ones. -/
theorem addresses_createdUpTo :
    (Mbuf.createdUpTo mp count eal).map (fun pkt => pkt.raw.address) =
      ((eal.pools mp.raw).map RteMbuf.address).take count := by
  rw [Mbuf.createdUpTo, List.map_map, ← List.map_take]
  rfl

/-- The buffers created belong to the mempool that they come from. -/
theorem pool_createdUpTo
    (homed : ∀ mbuf ∈ eal.pools mp.raw, mbuf.pool = mp.raw) :
    ∀ mbuf ∈ (Mbuf.createdUpTo mp count eal).map Mbuf.raw,
      mbuf.pool = mp.raw := by
  intro mbuf member
  simp only [Mbuf.createdUpTo, List.map_map, List.mem_map] at member
  obtain ⟨origin, taken, rfl⟩ := member
  exact homed origin (List.mem_of_mem_take taken)

/-- Buffers of one mempool, few enough to count, are all returned by a bulk free. -/
theorem returned_freeBulk
    {pkts : List Mbuf}
    (samePool : ∀ mbuf ∈ pkts.map Mbuf.raw, mbuf.pool = mp.raw)
    (short : pkts.length < 2 ^ 32)
    (after : Eal) :
    Returned (pkts.map Mbuf.raw) after.pools
      (Mbuf.freeBulk pkts after).pools := by
  cases pkts with
  | nil =>
      exact .nil after.pools
  | cons first rest =>
      obtain ⟨firstPool, restPool⟩ := List.forall_mem_cons.mp samePool
      have freed :=
        (FreeBulk.freedToOwnPools_freeLoop_iff first.raw
          (rest.map Mbuf.raw)).mpr ⟨fun mbuf member => by
            rw [restPool mbuf member, firstPool], by simpa using short⟩
      exact freed.returned after

/-- Freeing what was created gives every mempool its buffers back. -/
theorem undone_createdUpTo
    (homed : ∀ mbuf ∈ eal.pools mp.raw, mbuf.pool = mp.raw)
    (short : count < 2 ^ 32)
    (mempool : Address) :
    (((Mbuf.freeBulk (Mbuf.createdUpTo mp count eal)
        (eal.setPool mp.raw ((eal.pools mp.raw).drop count))).pools
          mempool).map RteMbuf.address).Perm
      ((eal.pools mempool).map RteMbuf.address) := by
  have samePool :
      ∀ mbuf ∈ (Mbuf.createdUpTo mp count eal).map Mbuf.raw,
        mbuf.pool = mp.raw :=
    pool_createdUpTo homed
  have fewer : (Mbuf.createdUpTo mp count eal).length < 2 ^ 32 := by
    rw [Mbuf.length_createdUpTo]
    exact (Nat.min_le_left _ _).trans_lt short
  have returned := returned_freeBulk samePool fewer
    (eal.setPool mp.raw ((eal.pools mp.raw).drop count)) mempool
  refine (returned.map RteMbuf.address).trans ?_
  by_cases same : mempool = mp.raw
  · subst same
    have allKept :
        ((Mbuf.createdUpTo mp count eal).map Mbuf.raw).filter
            (fun mbuf => mbuf.pool = mp.raw) =
          (Mbuf.createdUpTo mp count eal).map Mbuf.raw := by
      simpa using samePool
    have created :
        ((Mbuf.createdUpTo mp count eal).map Mbuf.raw).map
            RteMbuf.address =
          ((eal.pools mp.raw).map RteMbuf.address).take count := by
      rw [List.map_map, ← addresses_createdUpTo]
      rfl
    rw [allKept, Eal.setPool_pools, Function.update_self, List.map_append,
      List.map_drop, created, List.take_append_drop]
  · have noneKept :
        ((Mbuf.createdUpTo mp count eal).map Mbuf.raw).filter
            (fun mbuf => mbuf.pool = mempool) = [] := by
      rw [List.filter_eq_nil_iff]
      intro mbuf member
      simpa [samePool mbuf member] using Ne.symm same
    rw [noneKept, Eal.setPool_pools, Function.update_of_ne same]
    rfl

/-- What is created of a stocked mempool is granted. -/
theorem granted_createdUpTo
    (stocked : Stocked mp eal)
    (short : count < 2 ^ 32)
    (enough : count ≤ (eal.pools mp.raw).length) :
    Granted count mp (Mbuf.createdUpTo mp count eal) eal
      (eal.setPool mp.raw ((eal.pools mp.raw).drop count)) where
  enough :=
    enough
  exactly := by
    rw [Mbuf.length_createdUpTo]
    exact Nat.min_eq_left enough
  distinct := by
    rw [addresses_createdUpTo]
    exact stocked.distinct.sublist (List.take_sublist _ _)
  wasFree := by
    intro pkt member
    have isCreated := List.mem_map_of_mem
      (f := fun pkt : Mbuf => pkt.raw.address) member
    rw [addresses_createdUpTo] at isCreated
    exact List.mem_of_mem_take isCreated
  wellFormed := by
    intro pkt member
    obtain ⟨mbuf, _, rfl⟩ := List.mem_map.mp member
    exact wellFormed_recycled mbuf
  undone :=
    undone_createdUpTo stocked.homed short

end Granted

section AllOrNothing

variable
  {len : UInt64}
  {mp : Mempool}
  {allocated granted : Bool}
  {eal : Eal}

/-- As long as the cast loses nothing that the library is asked for, nothing goes wrong. -/
theorem allOrNothing_of_countKept
    (stocked : Stocked mp eal)
    (kept : CountKept len mp allocated granted eal) :
    AllOrNothing len mp allocated granted eal := by
  obtain ⟨fits, shortOrRefused⟩ := kept
  by_cases grants : GrantsCast len mp granted eal
  · have short : len.toNat < 2 ^ 32 :=
      shortOrRefused.resolve_right (not_not_intro grants)
    have sameCount := Nat.mod_eq_of_lt short
    have outcome := allocBulk_of_granted fits grants
    rw [sameCount, Nat.sub_self, List.replicate_zero, List.append_nil]
      at outcome
    have enough := grants.2
    rw [sameCount] at enough
    exact Or.inr
      ⟨_, _, outcome, granted_createdUpTo stocked short enough⟩
  · exact Or.inl ⟨_, allocBulk_of_refused fits grants⟩

/-- Where the cast loses something, the call declares pointers that nobody wrote. -/
theorem not_allOrNothing_of_wrapped
    (fits : PtrsFit len.toNat allocated)
    (long : 2 ^ 32 ≤ len.toNat)
    (grants : GrantsCast len mp granted eal) :
    ¬ AllOrNothing len mp allocated granted eal := by
  have outcome := allocBulk_of_granted fits grants
  have someLost : len.toNat - len.toNat % 2 ^ 32 ≠ 0 := by
    have fewer := Nat.mod_lt len.toNat (Nat.two_pow_pos 32)
    omega
  rintro (⟨error, isError⟩ | ⟨pkts, after, isOk, _⟩)
  · rw [outcome] at isError
    cases isError
  · rw [outcome] at isOk
    simp only [Except.ok.injEq, Prod.mk.injEq] at isOk
    have unwritten : none ∈ pkts.map some := by
      rw [← isOk.1]
      exact List.mem_append_right _
        (List.mem_replicate.mpr ⟨someLost, rfl⟩)
    obtain ⟨_, _, isNone⟩ := List.mem_map.mp unwritten
    cases isNone

/-- Where there is no memory for the vector, the call does not return. -/
theorem not_allOrNothing_of_not_fit
    (noFit : ¬ PtrsFit len.toNat allocated) :
    ¬ AllOrNothing len mp allocated granted eal := by
  obtain ⟨fault, outcome⟩ :
      ∃ fault, Mbuf.allocBulk len mp allocated granted eal = .error fault :=
    allocBulk_of_not_fit noFit
  rintro (⟨error, isError⟩ | ⟨pkts, after, isOk, _⟩)
  · rw [outcome] at isError
    cases isError
  · rw [outcome] at isOk
    cases isOk

end AllOrNothing

/--
A bulk allocation from a stocked mempool is all or nothing, and undone by a
bulk free, exactly if there is memory for the pointers and 32 bits can hold the
number of buffers or the library refuses what it is asked for.
-/
theorem allOrNothing_iff
    {mp : Mempool}
    {eal : Eal}
    (stocked : Stocked mp eal)
    (len : UInt64)
    (allocated granted : Bool) :
    AllOrNothing len mp allocated granted eal ↔
      CountKept len mp allocated granted eal := by
  constructor
  · intro allOrNothing
    by_contra lost
    by_cases fits : PtrsFit len.toNat allocated
    · obtain ⟨long, grants⟩ :=
        not_or.mp fun shortOrRefused => lost ⟨fits, shortOrRefused⟩
      exact not_allOrNothing_of_wrapped fits (Nat.not_lt.mp long)
        (not_not.mp grants) allOrNothing
    · exact not_allOrNothing_of_not_fit fits allOrNothing
  · exact allOrNothing_of_countKept stocked

/-- A mempool with two free buffers. -/
def twoFree : Eal :=
  Eal.initial.setPool 1
    [.reset 1 100 fun _ => 0, .reset 1 200 fun _ => 0]

theorem stocked_twoFree : Stocked ⟨1⟩ twoFree where
  homed := by
    simp [twoFree, RteMbuf.reset]
  distinct := by
    simp [twoFree, RteMbuf.reset]

/-- Two buffers are handed out and come back, and three are refused. -/
theorem allOrNothing_twoFree :
    AllOrNothing 2 ⟨1⟩ true true twoFree ∧
      AllOrNothing 3 ⟨1⟩ true true twoFree :=
  ⟨(allOrNothing_iff stocked_twoFree 2 true true).mpr
      ⟨by decide, Or.inl (by decide)⟩,
    (allOrNothing_iff stocked_twoFree 3 true true).mpr
      ⟨by decide, Or.inl (by decide)⟩⟩

/-- Asked for `2 ^ 32` buffers, the library hands out none and reports success. -/
theorem not_allOrNothing_wrapped :
    Stocked ⟨1⟩ twoFree ∧
      ¬ AllOrNothing 0x100000000 ⟨1⟩ true true twoFree :=
  ⟨stocked_twoFree, not_allOrNothing_of_wrapped (by decide) (by decide)
    ⟨rfl, Nat.zero_le _⟩⟩

end VDataplane.BulkAlloc
