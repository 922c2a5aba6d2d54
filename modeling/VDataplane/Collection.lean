import VDataplane.Packetiser
import VDataplane.Pools
import VDataplane.RingRegistry
import VDataplane.RoundRobin

namespace VDataplane.Packetiser

open RoundRobin

/-!
# Collecting packets from the clients

`store_outgoing` visits the clients in rounds.  A visit creates a buffer, asks
the client's ring for a packet and queues the buffer when there is one.  The
number of buffers queued is what the visits find on the rings, as far as there
are buffers left for it.
-/

/-- How many packets wait in the client-to-engine ring of a client. -/
def backlog
    (clientmap : RingClientMap)
    (eal : Eal)
    (key : UInt16) :
    Nat :=
  match clientmap.ringmap key with
  | none =>
      0
  | some channel =>
      (eal.rings channel.clientToEngine.raw).entries.length

/-- The free buffers of a mempool belong to it. -/
def Homed
    (mempool : Mempool)
    (eal : Eal) :
    Prop :=
  ∀ mbuf ∈ eal.pools mempool.raw, mbuf.pool = mempool.raw

/-- How many buffers `store_outgoing` finds free behind the ones that count its rounds. -/
def spare
    (packetiser : Packetiser)
    (eal : Eal) :
    Nat :=
  (eal.pools packetiser.mempool.raw).length - burstMax

/-- How many rounds `store_outgoing` makes. -/
def rounds
    (packetiser : Packetiser)
    (eal : Eal) :
    Nat :=
  min burstMax (eal.pools packetiser.mempool.raw).length

/--
How many packets `store_outgoing` can collect: every round visits every
allocated id once for each of its occurrences.
-/
def collectable
    (packetiser : Packetiser)
    (eal : Eal) :
    Nat :=
  min (packetiser.spare eal)
    (∑ key ∈ packetiser.allocatedIds.toFinset,
      min (packetiser.rounds eal * packetiser.allocatedIds.count key)
        (backlog packetiser.clientmap eal key))

/-! ## One visit -/

/-- A blank buffer that was taken from a mempool and dropped again. -/
def putBack
    (mempool : Mempool)
    (mbuf : RteMbuf)
    (free : List RteMbuf)
    (eal : Eal) :
    Eal :=
  Mbuf.drop ⟨mbuf.recycled⟩ (eal.setPool mempool.raw free)

section Visit

variable
  {mempool : Mempool}
  {eal : Eal}
  {mbuf : RteMbuf}
  {free : List RteMbuf}

/-- Putting a buffer back frees no more buffers than were free before. -/
theorem length_putBack_le
    (shape : eal.pools mempool.raw = mbuf :: free) :
    ((putBack mempool mbuf free eal).pools mempool.raw).length ≤
      (eal.pools mempool.raw).length := by
  have returned :=
    Mbuf.returned_drop ⟨mbuf.recycled⟩ (eal.setPool mempool.raw free)
      mempool.raw
  have lengths := returned.length_eq
  have atMostOne :=
    List.length_filter_le (fun other => other.pool = mempool.raw)
      [mbuf.recycled]
  simp only [List.length_append, Eal.setPool_pools, Function.update_self]
    at lengths
  rw [putBack, lengths, shape, List.length_cons]
  simp only [List.length_singleton] at atMostOne
  omega

/-- A buffer of the mempool is free again after it was put back. -/
theorem putBack_of_homed
    (homed : Homed mempool eal)
    (shape : eal.pools mempool.raw = mbuf :: free) :
    (putBack mempool mbuf free eal).pools mempool.raw =
      mbuf.recycled :: free := by
  have ownPool : mbuf.recycled.pool = mempool.raw :=
    homed mbuf (by simp [shape])
  simp [putBack, Mbuf.drop, Dpdk.rtePktmbufFree, ownPool]

/-- As many buffers of the mempool are free again as before. -/
theorem length_putBack
    (homed : Homed mempool eal)
    (shape : eal.pools mempool.raw = mbuf :: free) :
    ((putBack mempool mbuf free eal).pools mempool.raw).length =
      (eal.pools mempool.raw).length := by
  rw [putBack_of_homed homed shape, shape, List.length_cons,
    List.length_cons]

/-- Putting a buffer back keeps the mempool's buffers at home. -/
theorem homed_putBack
    (homed : Homed mempool eal)
    (shape : eal.pools mempool.raw = mbuf :: free) :
    Homed mempool (putBack mempool mbuf free eal) := by
  unfold Homed at homed ⊢
  rw [putBack_of_homed homed shape]
  rw [shape] at homed
  exact List.forall_mem_cons.mpr (List.forall_mem_cons.mp homed)

variable {clientmap : RingClientMap}

/-- A visit without a packet leaves the map backed. -/
theorem backed_putBack
    (backed : clientmap.Backed eal) :
    clientmap.Backed (putBack mempool mbuf free eal) :=
  backed.of_ringTailq_eq rfl

/-- A visit that takes a packet leaves the map backed. -/
theorem backed_taken
    (backed : clientmap.Backed eal)
    {ring : Address}
    {popped : RteRing} :
    clientmap.Backed
      ((eal.setPool mempool.raw free).setRing ring popped) :=
  backed.of_ringTailq_eq rfl

/-- A visit that takes a packet keeps the mempool's buffers at home. -/
theorem homed_taken
    (homed : Homed mempool eal)
    (shape : eal.pools mempool.raw = mbuf :: free)
    {ring : Address}
    {popped : RteRing} :
    Homed mempool
      ((eal.setPool mempool.raw free).setRing ring popped) := by
  intro other member
  rw [Eal.setRing_pools, Eal.setPool_pools, Function.update_self] at member
  exact homed other (by simp [shape, member])

/--
A visit finds no buffer and ends the collection; or finds no packet and puts
its buffer back; or takes a packet off the client's ring and queues its buffer.
-/
theorem collectRound_cons_cases
    (mempool : Mempool)
    (clientmap : RingClientMap)
    (key : UInt16)
    (keys : List UInt16)
    (oBufqueue : List Mbuf)
    (eal : Eal) :
    (eal.pools mempool.raw = [] ∧
      collectRound mempool clientmap (key :: keys) oBufqueue eal =
        (.error .noBuf, oBufqueue, eal)) ∨
    (∃ mbuf free,
      eal.pools mempool.raw = mbuf :: free ∧
        backlog clientmap eal key = 0 ∧
        collectRound mempool clientmap (key :: keys) oBufqueue eal =
          collectRound mempool clientmap keys oBufqueue
            (putBack mempool mbuf free eal)) ∨
    ∃ mbuf free channel oldest popped,
      eal.pools mempool.raw = mbuf :: free ∧
        clientmap.ringmap key = some channel ∧
        (eal.rings channel.clientToEngine.raw).pop? =
          some (oldest, popped) ∧
        collectRound mempool clientmap (key :: keys) oBufqueue eal =
          collectRound mempool clientmap keys
            (oBufqueue ++ [⟨mbuf.recycled⟩])
            ((eal.setPool mempool.raw free).setRing
              channel.clientToEngine.raw popped) := by
  rcases Mbuf.new_cases mempool eal with
    ⟨noneFree, failed⟩ | ⟨mbuf, free, shape, created⟩
  · exact Or.inl ⟨noneFree, by simp [collectRound, failed]⟩
  · right
    cases present : clientmap.ringmap key with
    | none =>
        exact Or.inl ⟨mbuf, free, shape, by simp [backlog, present], by
          simp [collectRound, created, RingClientMap.receive, present,
            putBack]⟩
    | some channel =>
        rcases channel.clientToEngine.dequeue_cases ⟨mbuf.recycled⟩
            (eal.setPool mempool.raw free) with
          ⟨isEmpty, failed⟩ | ⟨oldest, popped, taken, dequeued⟩
        · have noneWaits := BoundedFifo.pop?_eq_none_iff.mp isEmpty
          exact Or.inl ⟨mbuf, free, shape, by
              simpa [backlog, present] using noneWaits, by
            simp [collectRound, created, RingClientMap.receive, present,
              Channel.receiveFromClient, failed, putBack]⟩
        · exact Or.inr ⟨mbuf, free, channel, oldest, popped, shape, rfl,
            taken, by
              simp [collectRound, created, RingClientMap.receive, present,
                Channel.receiveFromClient, dequeued]⟩

/-- A visit that takes a packet leaves one fewer on its client's ring, and the other rings alone. -/
theorem backlog_after_visit
    (backed : clientmap.Backed eal)
    {key : UInt16}
    {channel : Channel}
    (present : clientmap.ringmap key = some channel)
    {oldest : RteMbuf}
    {popped : RteRing}
    (taken :
      (eal.rings channel.clientToEngine.raw).pop? = some (oldest, popped))
    (pools : Address → List RteMbuf) :
    let after : Eal := {
      eal.setRing channel.clientToEngine.raw popped with
      pools := pools
    }
    backlog clientmap eal key = backlog clientmap after key + 1 ∧
      ∀ other, other ≠ key →
        backlog clientmap after other = backlog clientmap eal other := by
  intro after
  obtain ⟨_, sameEntries⟩ := BoundedFifo.pop?_eq_some_iff.mp taken
  refine ⟨?_, ?_⟩
  · simp [backlog, present, after, sameEntries]
  · intro other different
    cases otherPresent : clientmap.ringmap other with
    | none =>
        simp [backlog, otherPresent]
    | some otherChannel =>
        have apart :
            otherChannel.clientToEngine.raw ≠ channel.clientToEngine.raw := by
          intro same
          have sameRing :
              (otherChannel.ring .c2e).raw = (channel.ring .c2e).raw :=
            same
          exact different (backed.raw_inj otherPresent present sameRing).2
        simp [backlog, otherPresent, after, Function.update_of_ne apart]

end Visit

/-! ## The loops -/

section Loops

variable
  (mempool : Mempool)
  {clientmap : RingClientMap}

/--
Visits queue no more packets than the rings hold and buffers are free for, and
exactly as many when the buffers belong to the mempool.
-/
theorem length_collectRound
    {eal : Eal}
    (backed : clientmap.Backed eal)
    {keys : Finset UInt16}
    {visits : List UInt16}
    (visited : ∀ key ∈ visits, key ∈ keys)
    (oBufqueue : List Mbuf) :
    ∃ collected,
      (collectRound mempool clientmap visits oBufqueue eal).2.1.length =
          oBufqueue.length + collected ∧
        collected ≤
          min (eal.pools mempool.raw).length
            (served keys visits (backlog clientmap eal)) ∧
        (Homed mempool eal →
          collected =
            min (eal.pools mempool.raw).length
              (served keys visits (backlog clientmap eal))) := by
  induction visits generalizing eal oBufqueue with
  | nil =>
      exact ⟨0, rfl, by simp, by simp⟩
  | cons key rest inductionHypothesis =>
      have isKey := visited key List.mem_cons_self
      have restVisited : ∀ other ∈ rest, other ∈ keys := by
        intro other member
        exact visited other (List.mem_cons_of_mem key member)
      rcases collectRound_cons_cases mempool clientmap key rest oBufqueue
          eal with
        ⟨noneFree, ended⟩ | ⟨mbuf, free, shape, noneWaits, skipped⟩ |
          ⟨mbuf, free, channel, oldest, popped, shape, present, taken, queued⟩
      · exact ⟨0, by rw [ended]; rfl, by simp, by simp [noneFree]⟩
      · obtain ⟨collected, lengthEq, atMost, exactly⟩ :=
          inductionHypothesis (backed_putBack backed) restVisited oBufqueue
        have sameBacklog :
            backlog clientmap (putBack mempool mbuf free eal) =
              backlog clientmap eal :=
          rfl
        rw [sameBacklog] at atMost exactly
        rw [skipped, served_cons_empty keys rest noneWaits]
        refine ⟨collected, lengthEq, ?_, ?_⟩
        · have lengths := length_putBack_le shape
          omega
        · intro homed
          rw [exactly (homed_putBack homed shape),
            length_putBack homed shape]
      · obtain ⟨collected, lengthEq, atMost, exactly⟩ :=
          inductionHypothesis (backed_taken backed) restVisited
            (oBufqueue ++ [⟨mbuf.recycled⟩])
        obtain ⟨oneFewer, othersSame⟩ :=
          backlog_after_visit backed present taken
            (eal.setPool mempool.raw free).pools
        have servedOneMore := served_cons_pos isKey rest oneFewer othersSame
        have freeAfter :
            ((eal.setPool mempool.raw free).setRing
                channel.clientToEngine.raw popped).pools mempool.raw =
              free := by
          simp
        rw [freeAfter] at atMost exactly
        rw [queued, shape, List.length_cons, servedOneMore,
          Nat.add_min_add_right]
        refine ⟨collected + 1, ?_, Nat.add_le_add_right atMost 1, ?_⟩
        · rw [lengthEq, List.length_append, List.length_singleton]
          ring
        · intro homed
          rw [exactly (homed_taken homed shape)]
          rfl

/-- Two lists of visits one after the other; a failure ends both. -/
theorem collectRound_append
    (clientmap : RingClientMap)
    (first second : List UInt16)
    (oBufqueue : List Mbuf)
    (eal : Eal) :
    collectRound mempool clientmap (first ++ second) oBufqueue eal =
      match collectRound mempool clientmap first oBufqueue eal with
      | (.error error, oBufqueue, eal) =>
          (.error error, oBufqueue, eal)
      | (.ok (), oBufqueue, eal) =>
          collectRound mempool clientmap second oBufqueue eal := by
  induction first generalizing oBufqueue eal with
  | nil =>
      rfl
  | cons key rest inductionHypothesis =>
      rw [List.cons_append, collectRound, collectRound]
      split
      · rfl
      · split
        · exact inductionHypothesis _ _
        · exact inductionHypothesis _ _

/-- The rounds are one long list of visits. -/
theorem collectLoop_eq
    (clientmap : RingClientMap)
    (allocatedIds : List UInt16)
    (rounds : Nat)
    (oBufqueue : List Mbuf)
    (eal : Eal) :
    collectLoop mempool clientmap allocatedIds rounds oBufqueue eal =
      collectRound mempool clientmap
        (List.replicate rounds allocatedIds).flatten oBufqueue eal := by
  induction rounds generalizing oBufqueue eal with
  | zero =>
      rfl
  | succ rounds inductionHypothesis =>
      rw [List.replicate_succ, List.flatten_cons, collectRound_append,
        collectLoop]
      rcases collectRound mempool clientmap allocatedIds oBufqueue eal with
        ⟨result, queued, after⟩
      cases result with
      | error error =>
          rfl
      | ok _ =>
          exact inductionHypothesis queued after

/-- Visits create and destroy no ring. -/
theorem collectRound_ringTailq
    (clientmap : RingClientMap)
    (visits : List UInt16)
    (oBufqueue : List Mbuf)
    (eal : Eal) :
    (collectRound mempool clientmap visits oBufqueue eal).2.2.ringTailq =
      eal.ringTailq := by
  induction visits generalizing oBufqueue eal with
  | nil =>
      rfl
  | cons key rest inductionHypothesis =>
      rcases collectRound_cons_cases mempool clientmap key rest oBufqueue
          eal with
        ⟨_, ended⟩ | ⟨mbuf, free, _, _, skipped⟩ |
          ⟨mbuf, free, channel, _, popped, _, _, _, queued⟩
      · rw [ended]
      · rw [skipped, inductionHypothesis]
        rfl
      · rw [queued, inductionHypothesis]
        rfl

end Loops

/-! ## The whole collection -/

section Store

variable
  (packetiser : Packetiser)
  {eal : Eal}

/-- `store_outgoing` visits the clients in rounds while the counting buffers are withdrawn. -/
theorem storeOutgoing_eq
    (eal : Eal) :
    (packetiser.storeOutgoing eal).2 =
      let collection :=
        collectRound packetiser.mempool packetiser.clientmap
          (List.replicate (packetiser.rounds eal)
            packetiser.allocatedIds).flatten
          packetiser.oBufqueue
          (eal.setPool packetiser.mempool.raw
            ((eal.pools packetiser.mempool.raw).drop burstMax))
      ({ packetiser with oBufqueue := collection.2.1 },
        Mbuf.dropAll (Mbuf.createdUpTo packetiser.mempool burstMax eal)
          collection.2.2) := by
  simp only [storeOutgoing, Mbuf.createUpTo_eq, List.nil_append,
    collectLoop_eq, Mbuf.length_createdUpTo, rounds]

/--
`store_outgoing` queues at most `collectable` packets, and exactly as many when
the free buffers belong to the mempool.
-/
theorem length_storeOutgoing
    (backed : packetiser.clientmap.Backed eal) :
    ∃ collected,
      (packetiser.storeOutgoing eal).2.1.oBufqueue.length =
          packetiser.oBufqueue.length + collected ∧
        collected ≤ packetiser.collectable eal ∧
        (Homed packetiser.mempool eal →
          collected = packetiser.collectable eal) := by
  have backedWithdrawn :
      packetiser.clientmap.Backed
        (eal.setPool packetiser.mempool.raw
          ((eal.pools packetiser.mempool.raw).drop burstMax)) :=
    backed.of_ringTailq_eq rfl
  have visited :
      ∀ key ∈ (List.replicate (packetiser.rounds eal)
          packetiser.allocatedIds).flatten,
        key ∈ packetiser.allocatedIds.toFinset := by
    intro key member
    exact List.mem_toFinset.mpr (mem_of_mem_rounds member)
  obtain ⟨collected, lengthEq, atMost, exactly⟩ :=
    length_collectRound packetiser.mempool backedWithdrawn visited
      packetiser.oBufqueue
  have isCollectable :
      min ((eal.setPool packetiser.mempool.raw
            ((eal.pools packetiser.mempool.raw).drop burstMax)).pools
              packetiser.mempool.raw).length
          (served packetiser.allocatedIds.toFinset
            (List.replicate (packetiser.rounds eal)
              packetiser.allocatedIds).flatten
            (backlog packetiser.clientmap
              (eal.setPool packetiser.mempool.raw
                ((eal.pools packetiser.mempool.raw).drop burstMax)))) =
        packetiser.collectable eal := by
    rw [served_rounds]
    simp [collectable, spare, backlog]
  rw [isCollectable] at atMost exactly
  rw [storeOutgoing_eq]
  refine ⟨collected, lengthEq, atMost, ?_⟩
  intro homed
  apply exactly
  intro mbuf member
  apply homed mbuf
  apply List.mem_of_mem_drop
  simpa using member

/-- Collecting creates and destroys no ring. -/
theorem storeOutgoing_ringTailq
    (eal : Eal) :
    (packetiser.storeOutgoing eal).2.2.ringTailq = eal.ringTailq := by
  rw [storeOutgoing_eq, Mbuf.dropAll_ringTailq, collectRound_ringTailq]
  rfl

end Store

end VDataplane.Packetiser
