import VDataplane.Pools

namespace VDataplane

/-!
# Freeing buffers in bulk

`mbuf_free_bulk` walks over a list of buffers and flushes a batch to
`rte_mempool_put_bulk` whenever the pool changes.  The variable that holds the
current pool is never updated, so every batch goes to the pool of the first
buffer of the list.
-/

/-- The counts of a sequence of calls are the lengths of their tables, as 32-bit numbers. -/
def CountsTables (calls : List Dpdk.PutBulk) : Prop :=
  ∀ call ∈ calls, call.n = UInt32.ofNat call.objTable.length

/-- No table of a sequence of calls is too long for a 32-bit count. -/
def TablesCountable (calls : List Dpdk.PutBulk) : Prop :=
  ∀ call ∈ calls, call.objTable.length < 2 ^ 32

/--
No stretch of a list of buffers is too long for a 32-bit count, where all
buffers of a stretch but the first belong to one pool.
-/
def StretchesCountable
    (pool : Address)
    (mbufs : List RteMbuf) :
    Prop :=
  ∀ stretch,
    stretch <:+: mbufs →
    (∀ mbuf ∈ stretch.tail, mbuf.pool = pool) →
    stretch.length < 2 ^ 32

/-- A stretch that has an element at its front only is on one side of it. -/
theorem infix_append_cons
    {α : Type*}
    {stretch first later : List α}
    {element : α}
    (isInfix : stretch <:+: first ++ element :: later)
    (notInTail : element ∉ stretch.tail) :
    stretch <:+: first ∨ stretch <:+: element :: later := by
  obtain ⟨before, behind, together⟩ := isInfix
  rw [List.append_assoc, List.append_eq_append_iff] at together
  rcases together with ⟨head, isFirst, rest⟩ | ⟨head, _, rest⟩
  · rcases List.append_eq_append_iff.mp rest with
      ⟨more, isHead, _⟩ | ⟨more, isStretch, remainder⟩
    · exact Or.inl ⟨before, more, by
        rw [isFirst, isHead, List.append_assoc]⟩
    · cases more with
      | nil =>
          rw [List.append_nil] at isStretch
          exact Or.inl ⟨before, [], by
            rw [isFirst, isStretch, List.append_nil]⟩
      | cons inside others =>
          have isElement := (List.cons.inj remainder).1
          cases head with
          | nil =>
              exact Or.inr ⟨[], behind, by
                rw [isStretch]
                exact remainder.symm⟩
          | cons other between =>
              have inTail : element ∈ stretch.tail := by
                simp [isStretch, isElement]
              exact absurd inTail notInTail
  · exact Or.inr ⟨head, behind, by rw [rest, List.append_assoc]⟩

namespace CountsTables

variable {calls : List Dpdk.PutBulk}

/-- The objects of a call are its whole table, cut down to what 32 bits can count. -/
theorem length_objects
    {call : Dpdk.PutBulk}
    (counts : call.n = UInt32.ofNat call.objTable.length) :
    call.objects.length = call.objTable.length % 2 ^ 32 := by
  have noMore := Nat.mod_le call.objTable.length (2 ^ 32)
  rw [Dpdk.PutBulk.objects, counts, List.length_take, UInt32.toNat_ofNat']
  exact Nat.min_eq_left noMore

/-- Countable tables are passed as a whole. -/
theorem flatMap_objects
    (counts : CountsTables calls)
    (countable : TablesCountable calls) :
    calls.flatMap Dpdk.PutBulk.objects =
      calls.flatMap Dpdk.PutBulk.objTable := by
  rw [List.flatMap_congr]
  intro call member
  have sameLength := length_objects (counts call member)
  rw [Nat.mod_eq_of_lt (countable call member)] at sameLength
  rw [Dpdk.PutBulk.objects, List.length_take] at sameLength
  exact List.take_of_length_le (by omega)

/-- What the calls leave out is a multiple of `2 ^ 32` objects. -/
theorem length_flatMap_objects
    (counts : CountsTables calls) :
    ∃ wraps,
      (calls.flatMap Dpdk.PutBulk.objTable).length =
          (calls.flatMap Dpdk.PutBulk.objects).length + 2 ^ 32 * wraps ∧
        (wraps = 0 → TablesCountable calls) := by
  induction calls with
  | nil =>
      exact ⟨0, rfl, by simp [TablesCountable]⟩
  | cons call rest inductionHypothesis =>
      obtain ⟨headCounts, restCounts⟩ := List.forall_mem_cons.mp counts
      obtain ⟨wraps, restLength, restCountable⟩ :=
        inductionHypothesis restCounts
      have headLength := length_objects headCounts
      have divided := Nat.div_add_mod call.objTable.length (2 ^ 32)
      refine ⟨call.objTable.length / 2 ^ 32 + wraps, ?_, ?_⟩
      · rw [List.flatMap_cons, List.flatMap_cons, List.length_append,
          List.length_append, restLength, headLength]
        omega
      · intro noWrap
        obtain ⟨headNone, restNone⟩ := Nat.add_eq_zero_iff.mp noWrap
        refine List.forall_mem_cons.mpr ⟨?_, restCountable restNone⟩
        exact (Nat.div_eq_zero_iff_lt (by decide)).mp headNone

end CountsTables

namespace Mbuf

/-- Every call of the loop passes the length of its table. -/
theorem freeLoop_countsTables
    (pool : Address)
    (mbufs toFree : List RteMbuf) :
    CountsTables (freeLoop pool mbufs toFree) := by
  induction mbufs generalizing toFree with
  | nil =>
      simp [freeLoop, CountsTables]
  | cons mbuf rest inductionHypothesis =>
      unfold freeLoop
      split
      · exact inductionHypothesis _
      · exact List.forall_mem_cons.mpr ⟨rfl, inductionHypothesis _⟩

/-- The tables of the loop's calls are the pending batch and the rest of the list, in order. -/
theorem freeLoop_objTables
    (pool : Address)
    (mbufs toFree : List RteMbuf) :
    (freeLoop pool mbufs toFree).flatMap Dpdk.PutBulk.objTable =
      toFree ++ mbufs := by
  induction mbufs generalizing toFree with
  | nil =>
      simp [freeLoop]
  | cons mbuf rest inductionHypothesis =>
      unfold freeLoop
      split
      · simp [inductionHypothesis]
      · simp [inductionHypothesis]

/-- The current pool never changes: all calls put their objects into the same one. -/
theorem freeLoop_mempool
    {pool : Address}
    {mbufs toFree : List RteMbuf}
    {call : Dpdk.PutBulk}
    (member : call ∈ freeLoop pool mbufs toFree) :
    call.mempool = pool := by
  induction mbufs generalizing toFree with
  | nil =>
      simp only [freeLoop, List.mem_singleton] at member
      rw [member]
  | cons mbuf rest inductionHypothesis =>
      unfold freeLoop at member
      split at member
      · exact inductionHypothesis member
      · rcases List.mem_cons.mp member with isFlush | later
        · rw [isFlush]
        · exact inductionHypothesis later

/-- The batches of the loop are the longest stretches, so they are countable if all stretches are. -/
theorem tablesCountable_freeLoop_iff
    (pool : Address)
    (mbufs : List RteMbuf)
    {toFree : List RteMbuf}
    (samePool : ∀ mbuf ∈ toFree.tail, mbuf.pool = pool) :
    TablesCountable (freeLoop pool mbufs toFree) ↔
      StretchesCountable pool (toFree ++ mbufs) := by
  induction mbufs generalizing toFree with
  | nil =>
      simp only [freeLoop, TablesCountable, List.forall_mem_singleton,
        List.append_nil]
      constructor
      · intro countable stretch isInfix _
        exact isInfix.length_le.trans_lt countable
      · intro countable
        exact countable toFree List.infix_rfl samePool
  | cons mbuf rest inductionHypothesis =>
      by_cases own : pool = mbuf.pool
      · have stillSame :
            ∀ other ∈ (toFree ++ [mbuf]).tail, other.pool = pool := by
          intro other member
          cases toFree with
          | nil =>
              cases member
          | cons first others =>
              rcases List.mem_append.mp member with earlier | isLast
              · exact samePool other earlier
              · rw [List.mem_singleton.mp isLast, own]
        rw [freeLoop, if_pos own, inductionHypothesis stillSame,
          List.append_assoc]
        rfl
      · have noneYet : ∀ other ∈ [mbuf].tail, other.pool = pool := by
          simp
        have flushed := inductionHypothesis noneYet
        rw [TablesCountable] at flushed
        rw [freeLoop, if_neg own, TablesCountable, List.forall_mem_cons,
          flushed, List.singleton_append]
        constructor
        · rintro ⟨pending, later⟩ stretch isInfix tailSame
          have notInTail : mbuf ∉ stretch.tail := by
            intro inTail
            exact own (tailSame mbuf inTail).symm
          rcases infix_append_cons isInfix notInTail with
            inPending | inLater
          · exact inPending.length_le.trans_lt pending
          · exact later stretch inLater tailSame
        · intro countable
          refine ⟨?_, ?_⟩
          · exact countable toFree List.infix_append_left samePool
          · intro stretch inLater tailSame
            exact countable stretch
              (List.infix_append_of_infix_right inLater) tailSame

/-- As long as the pool does not change, there is one batch. -/
theorem freeLoop_of_same_pool
    {pool : Address}
    {mbufs : List RteMbuf}
    (samePool : ∀ mbuf ∈ mbufs, mbuf.pool = pool)
    (toFree : List RteMbuf) :
    freeLoop pool mbufs toFree =
      [⟨pool, toFree ++ mbufs,
        UInt32.ofNat (toFree ++ mbufs).length⟩] := by
  induction mbufs generalizing toFree with
  | nil =>
      simp [freeLoop]
  | cons mbuf rest inductionHypothesis =>
      obtain ⟨headPool, restPool⟩ := List.forall_mem_cons.mp samePool
      simp only [freeLoop, headPool, ↓reduceIte]
      rw [inductionHypothesis restPool]
      simp

/-- Calls that put every object into its own mempool return all of them. -/
theorem returned_putBulks
    {calls : List Dpdk.PutBulk}
    (ownPool :
      ∀ call ∈ calls, ∀ mbuf ∈ call.objects, mbuf.pool = call.mempool)
    (eal : Eal) :
    Returned (calls.flatMap Dpdk.PutBulk.objects)
      eal.pools (putBulks calls eal).pools := by
  induction calls generalizing eal with
  | nil =>
      exact .nil eal.pools
  | cons call rest inductionHypothesis =>
      obtain ⟨headOwn, restOwn⟩ := List.forall_mem_cons.mp ownPool
      have headReturned :
          Returned call.objects eal.pools
            (Dpdk.rteMempoolPutBulk call eal).pools := by
        intro mempool
        by_cases same : mempool = call.mempool
        · subst same
          have allKept :
              call.objects.filter (fun mbuf => mbuf.pool = call.mempool) =
                call.objects := by
            simpa using headOwn
          simp only [Dpdk.rteMempoolPutBulk, Eal.setPool_pools,
            Function.update_self, allKept]
          exact (List.reverse_perm _).append_right _
        · have noneKept :
              call.objects.filter (fun mbuf => mbuf.pool = mempool) = [] := by
            rw [List.filter_eq_nil_iff]
            intro mbuf member
            simpa [headOwn mbuf member] using Ne.symm same
          simp [Dpdk.rteMempoolPutBulk, Function.update_of_ne same, noneKept]
      exact headReturned.append
        (inductionHypothesis restOwn (Dpdk.rteMempoolPutBulk call eal))

/-- The twins make the same calls for a list that is not empty. -/
theorem apis_mbufFreeBulk_eq
    {mbufs : List RteMbuf}
    (nonEmpty : mbufs ≠ []) :
    Apis.mbufFreeBulk mbufs = .ok (mbufFreeBulk mbufs) := by
  cases mbufs with
  | nil =>
      exact (nonEmpty rfl).elim
  | cons first rest =>
      rfl

/-- Every call of the bulk function passes the length of its table. -/
theorem mbufFreeBulk_countsTables (mbufs : List RteMbuf) :
    CountsTables (mbufFreeBulk mbufs) := by
  cases mbufs with
  | nil =>
      simp [mbufFreeBulk, CountsTables]
  | cons first rest =>
      exact freeLoop_countsTables _ _ _

/-- The tables of its calls are the whole list, in order. -/
theorem mbufFreeBulk_objTables (mbufs : List RteMbuf) :
    (mbufFreeBulk mbufs).flatMap Dpdk.PutBulk.objTable = mbufs := by
  cases mbufs with
  | nil =>
      rfl
  | cons first rest =>
      exact freeLoop_objTables _ _ _

end Mbuf

namespace FreeBulk

/-- Every buffer is passed to `rte_mempool_put_bulk` once, with the pool it belongs to. -/
structure FreedToOwnPools
    (mbufs : List RteMbuf)
    (calls : List Dpdk.PutBulk) :
    Prop where
  once :
    (calls.flatMap Dpdk.PutBulk.objects).Perm mbufs
  ownPool :
    ∀ call ∈ calls, ∀ mbuf ∈ call.objects, mbuf.pool = call.mempool

/-- Calls that free the buffers to their own pools return all of them. -/
theorem FreedToOwnPools.returned
    {mbufs : List RteMbuf}
    {calls : List Dpdk.PutBulk}
    (freed : FreedToOwnPools mbufs calls)
    (eal : Eal) :
    Returned mbufs eal.pools (Mbuf.putBulks calls eal).pools :=
  (Mbuf.returned_putBulks freed.ownPool eal).of_perm freed.once

/-- Both bulk functions free a list of buffers to their own pools. -/
def FreedByBoth (mbufs : List RteMbuf) : Prop :=
  FreedToOwnPools mbufs (Mbuf.mbufFreeBulk mbufs) ∧
    ∃ calls,
      Apis.mbufFreeBulk mbufs = .ok calls ∧
        FreedToOwnPools mbufs calls

/-- The loop is right about buffers of one pool, as many as 32 bits can count, and no others. -/
theorem freedToOwnPools_freeLoop_iff
    (first : RteMbuf)
    (rest : List RteMbuf) :
    FreedToOwnPools (first :: rest)
        (Mbuf.freeLoop first.pool (first :: rest) []) ↔
      (∀ mbuf ∈ rest, mbuf.pool = first.pool) ∧
        (first :: rest).length < 2 ^ 32 := by
  have counts :=
    Mbuf.freeLoop_countsTables first.pool (first :: rest) []
  have tables :=
    Mbuf.freeLoop_objTables first.pool (first :: rest) []
  constructor
  · rintro ⟨once, ownPool⟩
    have samePool : ∀ mbuf ∈ first :: rest, mbuf.pool = first.pool := by
      intro mbuf member
      obtain ⟨call, isCall, passed⟩ :=
        List.mem_flatMap.mp (once.mem_iff.mpr member)
      rw [ownPool call isCall mbuf passed, Mbuf.freeLoop_mempool isCall]
    refine ⟨fun mbuf member => samePool mbuf (by simp [member]), ?_⟩
    obtain ⟨wraps, sameLength, countable⟩ := counts.length_flatMap_objects
    rw [tables, once.length_eq, List.nil_append] at sameLength
    have oneBatch := Mbuf.freeLoop_of_same_pool samePool []
    rw [oneBatch] at countable
    simpa [TablesCountable] using countable (by omega)
  · rintro ⟨samePool, short⟩
    have allSame : ∀ mbuf ∈ first :: rest, mbuf.pool = first.pool :=
      List.forall_mem_cons.mpr ⟨rfl, samePool⟩
    have oneBatch := Mbuf.freeLoop_of_same_pool allSame []
    have countable :
        TablesCountable (Mbuf.freeLoop first.pool (first :: rest) []) := by
      rw [oneBatch]
      simpa [TablesCountable] using short
    refine ⟨?_, ?_⟩
    · rw [counts.flatMap_objects countable, tables, List.nil_append]
    · intro call isCall mbuf passed
      rw [Mbuf.freeLoop_mempool isCall]
      rw [oneBatch, List.mem_singleton] at isCall
      subst call
      exact allSame mbuf (List.mem_of_mem_take passed)

/--
Both bulk functions free a non-empty list of buffers to their own pools exactly
if all of them belong to the pool of the first one (and a 32-bit number can
count them).
-/
theorem freedByBoth_iff_one_pool
    (first : RteMbuf)
    (rest : List RteMbuf) :
    FreedByBoth (first :: rest) ↔
      (∀ mbuf ∈ rest, mbuf.pool = first.pool) ∧
        (first :: rest).length < 2 ^ 32 := by
  rw [← freedToOwnPools_freeLoop_iff first rest]
  constructor
  · intro both
    exact both.1
  · intro freed
    exact ⟨freed, _, rfl, freed⟩

/-- The second of two buffers of different pools ends up in the pool of the first one. -/
theorem not_freedByBoth_two_pools :
    ¬ FreedByBoth [.reset 1 100 fun _ => 0, .reset 2 200 fun _ => 0] := by
  rintro ⟨⟨_, ownPool⟩, _⟩
  have secondPool :=
    ownPool ⟨1, [.reset 2 200 fun _ => 0], 1⟩ (by
      simp [Mbuf.mbufFreeBulk, Mbuf.freeLoop, RteMbuf.reset])
      (.reset 2 200 fun _ => 0) (by
        simp [Dpdk.PutBulk.objects])
  exact absurd secondPool (by decide)

end FreeBulk

end VDataplane
