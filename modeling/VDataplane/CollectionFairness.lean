import VDataplane.BurstReceive
import VDataplane.Collection

namespace VDataplane.CollectionFairness

open Packetiser RoundRobin

/-!
# Fairness and progress of a collection

`store_outgoing` visits the clients in rounds, and a visit takes one packet
from a client that has one.  With enough free buffers the clients are served in
step, up to `BURST_MAX` packets each.

The buffers that count the rounds stay withdrawn from the mempool until the
end, so that a mempool of no more than `BURST_MAX` free buffers has none left
for the first visit.
-/

/-! ## Visits -/

section Visits

variable
  {mempool : Mempool}
  {clientmap : RingClientMap}
  {eal : Eal}

/-- Visits that succeed take one packet each from their clients, as long as there are any. -/
theorem backlog_of_succeeded
    (backed : clientmap.Backed eal)
    {visits : List UInt16}
    {oBufqueue : List Mbuf}
    (succeeded :
      (collectRound mempool clientmap visits oBufqueue eal).1 = .ok ())
    (key : UInt16) :
    backlog clientmap
        (collectRound mempool clientmap visits oBufqueue eal).2.2 key =
      backlog clientmap eal key - visits.count key := by
  induction visits generalizing eal oBufqueue with
  | nil =>
      rfl
  | cons visit rest inductionHypothesis =>
      rcases collectRound_cons_cases mempool clientmap visit rest oBufqueue
          eal with
        ⟨_, ended⟩ | ⟨mbuf, free, _, noneWaits, skipped⟩ |
          ⟨mbuf, free, channel, oldest, popped, _, present, taken, queued⟩
      · rw [ended] at succeeded
        cases succeeded
      · rw [skipped] at succeeded ⊢
        rw [inductionHypothesis (backed_putBack backed) succeeded]
        have sameBacklog :
            backlog clientmap (putBack mempool mbuf free eal) =
              backlog clientmap eal :=
          rfl
        rw [sameBacklog]
        by_cases same : visit = key
        · subst same
          rw [noneWaits, Nat.zero_sub, Nat.zero_sub]
        · rw [List.count_cons_of_ne same]
      · obtain ⟨oneFewer, othersSame⟩ :=
          backlog_after_visit backed present taken
            (eal.setPool mempool.raw free).pools
        rw [queued] at succeeded ⊢
        rw [inductionHypothesis (backed_taken backed) succeeded]
        by_cases same : visit = key
        · subst same
          rw [oneFewer, List.count_cons_self, Nat.add_sub_add_right]
          rfl
        · rw [List.count_cons_of_ne same, ← othersSame key (Ne.symm same)]
          rfl

/-- Whatever the outcome, visits queue one buffer for every packet that they take. -/
theorem balanced_collectRound
    (backed : clientmap.Backed eal)
    {keys : Finset UInt16}
    {visits : List UInt16}
    (visited : ∀ key ∈ visits, key ∈ keys)
    (oBufqueue : List Mbuf) :
    ∃ added,
      (collectRound mempool clientmap visits oBufqueue eal).2.1 =
          oBufqueue ++ added ∧
        ∑ key ∈ keys, backlog clientmap eal key =
          ∑ key ∈ keys,
              backlog clientmap
                (collectRound mempool clientmap visits oBufqueue eal).2.2
                key +
            added.length := by
  induction visits generalizing eal oBufqueue with
  | nil =>
      exact ⟨[], (List.append_nil oBufqueue).symm, rfl⟩
  | cons visit rest inductionHypothesis =>
      have isKey := visited visit List.mem_cons_self
      have restVisited : ∀ key ∈ rest, key ∈ keys := by
        intro key member
        exact visited key (List.mem_cons_of_mem visit member)
      rcases collectRound_cons_cases mempool clientmap visit rest oBufqueue
          eal with
        ⟨_, ended⟩ | ⟨mbuf, free, _, noneWaits, skipped⟩ |
          ⟨mbuf, free, channel, oldest, popped, _, present, taken, queued⟩
      · rw [ended]
        exact ⟨[], (List.append_nil oBufqueue).symm, rfl⟩
      · rw [skipped]
        exact inductionHypothesis (backed_putBack backed) restVisited
          oBufqueue
      · obtain ⟨oneFewer, othersSame⟩ :=
          backlog_after_visit backed present taken
            (eal.setPool mempool.raw free).pools
        obtain ⟨added, sameQueue, balanced⟩ :=
          inductionHypothesis (backed_taken backed) restVisited
            (oBufqueue ++ [⟨mbuf.recycled⟩])
        rw [queued]
        refine ⟨⟨mbuf.recycled⟩ :: added, ?_, ?_⟩
        · rw [sameQueue, List.append_assoc]
          rfl
        · rw [sum_oneFewer isKey oneFewer othersSame, List.length_cons,
            ← Nat.add_assoc]
          exact congrArg (· + 1) balanced

/-- Visits succeed as long as there is a buffer more than the packets that they take. -/
theorem collectRound_succeeds
    (backed : clientmap.Backed eal)
    (homed : Homed mempool eal)
    {keys : Finset UInt16}
    {visits : List UInt16}
    (visited : ∀ key ∈ visits, key ∈ keys)
    (enough :
      served keys visits (backlog clientmap eal) <
        (eal.pools mempool.raw).length)
    (oBufqueue : List Mbuf) :
    (collectRound mempool clientmap visits oBufqueue eal).1 = .ok () := by
  induction visits generalizing eal oBufqueue with
  | nil =>
      rfl
  | cons visit rest inductionHypothesis =>
      have isKey := visited visit List.mem_cons_self
      have restVisited : ∀ key ∈ rest, key ∈ keys := by
        intro key member
        exact visited key (List.mem_cons_of_mem visit member)
      rcases collectRound_cons_cases mempool clientmap visit rest oBufqueue
          eal with
        ⟨noneFree, _⟩ | ⟨mbuf, free, shape, noneWaits, skipped⟩ |
          ⟨mbuf, free, channel, oldest, popped, shape, present, taken, queued⟩
      · rw [noneFree] at enough
        exact absurd enough (Nat.not_lt_zero _)
      · rw [skipped]
        apply inductionHypothesis (backed_putBack backed)
          (homed_putBack homed shape) restVisited
        rw [served_cons_empty keys rest noneWaits] at enough
        rw [length_putBack homed shape]
        exact enough
      · obtain ⟨oneFewer, othersSame⟩ :=
          backlog_after_visit backed present taken
            (eal.setPool mempool.raw free).pools
        have freeAfter :
            ((eal.setPool mempool.raw free).setRing
                channel.clientToEngine.raw popped).pools mempool.raw =
              free := by
          simp
        rw [queued]
        apply inductionHypothesis (backed_taken backed)
          (homed_taken homed shape) restVisited
        rw [served_cons_pos isKey rest oneFewer othersSame, shape,
          List.length_cons] at enough
        rw [freeAfter]
        exact Nat.lt_of_succ_lt_succ enough

/-- Where a list of visits succeeds, so does every beginning of it, and the rest goes on from there. -/
theorem succeeded_of_append
    {visits later : List UInt16}
    {oBufqueue : List Mbuf}
    (succeeded :
      (collectRound mempool clientmap (visits ++ later) oBufqueue eal).1 =
        .ok ()) :
    ∃ queue after,
      collectRound mempool clientmap visits oBufqueue eal =
          (.ok (), queue, after) ∧
        collectRound mempool clientmap (visits ++ later) oBufqueue eal =
          collectRound mempool clientmap later queue after := by
  rw [collectRound_append] at succeeded ⊢
  rcases outcome : collectRound mempool clientmap visits oBufqueue eal with
    ⟨result, queue, after⟩
  rw [outcome] at succeeded
  cases result with
  | error error =>
      cases succeeded
  | ok _ =>
      exact ⟨queue, after, rfl, rfl⟩

end Visits

/-! ## The whole collection -/

/-- How many packets a client has lost between two states. -/
def taken
    (clientmap : RingClientMap)
    (before after : Eal)
    (key : UInt16) :
    Nat :=
  backlog clientmap before key - backlog clientmap after key

/-- All visits of a collection that is not cut short. -/
def allVisits (packetiser : Packetiser) : List UInt16 :=
  (List.replicate burstMax packetiser.allocatedIds).flatten

/--
What a collection makes of the outcome of its loops: the buffers that counted
the rounds are dropped.
-/
def finish
    (packetiser : Packetiser)
    (before : Eal)
    (loops : Except MemoryError Unit × List Mbuf × Eal) :
    Except MemoryError Unit × Packetiser × Eal :=
  (loops.1, { packetiser with oBufqueue := loops.2.1 },
    Mbuf.dropAll
      (Mbuf.createdUpTo packetiser.mempool burstMax before) loops.2.2)

/--
A collection serves the clients in step: `BURST_MAX` rounds, each of which
takes one packet from every client that has one.  The states after a number of
rounds, and between two visits, are those that the collection itself passes
through: it ends as the rounds or visits still to come end from there.
-/
structure Fair
    (packetiser : Packetiser)
    (before : Eal) :
    Prop where
  succeeds :
    (packetiser.storeOutgoing before).1 = .ok ()
  removes :
    ∀ key ∈ packetiser.allocatedIds,
      backlog packetiser.clientmap before key =
        backlog packetiser.clientmap
            (packetiser.storeOutgoing before).2.2 key +
          min (backlog packetiser.clientmap before key) burstMax
  adds :
    ∃ added,
      (packetiser.storeOutgoing before).2.1.oBufqueue =
          packetiser.oBufqueue ++ added ∧
        added.length =
          ∑ key ∈ packetiser.allocatedIds.toFinset,
            min (backlog packetiser.clientmap before key) burstMax
  isLoop :
    packetiser.storeOutgoing before =
      finish packetiser before
        (collectLoop packetiser.mempool packetiser.clientmap
          packetiser.allocatedIds burstMax packetiser.oBufqueue
          (packetiser.withdrawn before))
  inRounds :
    ∀ rounds later, rounds + later = burstMax →
      ∃ queue after,
        collectLoop packetiser.mempool packetiser.clientmap
            packetiser.allocatedIds rounds packetiser.oBufqueue
            (packetiser.withdrawn before) =
          (.ok (), queue, after) ∧
        packetiser.storeOutgoing before =
          finish packetiser before
            (collectLoop packetiser.mempool packetiser.clientmap
              packetiser.allocatedIds later queue after) ∧
        ∀ key ∈ packetiser.allocatedIds,
          taken packetiser.clientmap before after key =
            min (backlog packetiser.clientmap before key) rounds
  inStep :
    ∀ visits later, visits ++ later = allVisits packetiser →
      ∃ queue after,
        collectRound packetiser.mempool packetiser.clientmap visits
            packetiser.oBufqueue (packetiser.withdrawn before) =
          (.ok (), queue, after) ∧
        packetiser.storeOutgoing before =
          finish packetiser before
            (collectRound packetiser.mempool packetiser.clientmap later
              queue after) ∧
        ∀ first ∈ packetiser.allocatedIds,
          ∀ second ∈ packetiser.allocatedIds,
            0 < backlog packetiser.clientmap after second →
            taken packetiser.clientmap before after first ≤
              taken packetiser.clientmap before after second + 1

/-- A collection adds as many buffers to its queue as it takes packets off the clients' rings. -/
def Balanced
    (packetiser : Packetiser)
    (before : Eal) :
    Prop :=
  ∃ added,
    (packetiser.storeOutgoing before).2.1.oBufqueue =
        packetiser.oBufqueue ++ added ∧
      ∑ key, backlog packetiser.clientmap before key =
        ∑ key,
            backlog packetiser.clientmap
              (packetiser.storeOutgoing before).2.2 key +
          added.length

section Store

variable
  {packetiser : Packetiser}
  {eal : Eal}

/-- A collection makes as many rounds as it has created buffers. -/
theorem storeOutgoing_eq_finish :
    packetiser.storeOutgoing eal =
      finish packetiser eal
        (collectLoop packetiser.mempool packetiser.clientmap
          packetiser.allocatedIds (packetiser.rounds eal)
          packetiser.oBufqueue (packetiser.withdrawn eal)) := by
  simp only [storeOutgoing, Mbuf.createUpTo_eq, List.nil_append,
    Mbuf.length_createdUpTo, rounds, withdrawn, finish]

/-- Behind a collection the backlogs are those behind its visits. -/
theorem backlog_storeOutgoing :
    backlog packetiser.clientmap (packetiser.storeOutgoing eal).2.2 =
      backlog packetiser.clientmap
        (collectRound packetiser.mempool packetiser.clientmap
          (List.replicate (packetiser.rounds eal)
            packetiser.allocatedIds).flatten
          packetiser.oBufqueue (packetiser.withdrawn eal)).2.2 := by
  funext key
  simp only [storeOutgoing_eq, backlog, Mbuf.dropAll_rings]
  rfl

/-- Withdrawing buffers changes no backlog. -/
theorem backlog_withdrawn :
    backlog packetiser.clientmap (packetiser.withdrawn eal) =
      backlog packetiser.clientmap eal :=
  rfl

/-- Withdrawing buffers leaves the map backed. -/
theorem backed_withdrawn
    (backed : packetiser.clientmap.Backed eal) :
    packetiser.clientmap.Backed (packetiser.withdrawn eal) :=
  backed.of_ringTailq_eq rfl

/-- The buffers withdrawn are the first ones. -/
theorem pools_withdrawn :
    (packetiser.withdrawn eal).pools packetiser.mempool.raw =
      (eal.pools packetiser.mempool.raw).drop burstMax :=
  Function.update_self _ _ _

/-- Withdrawing buffers leaves the others at home. -/
theorem homed_withdrawn
    (homed : Homed packetiser.mempool eal) :
    Homed packetiser.mempool (packetiser.withdrawn eal) := by
  intro mbuf member
  rw [pools_withdrawn] at member
  exact homed mbuf (List.mem_of_mem_drop member)

/-- Among any keys that include the clients, a collection queues a buffer for each packet it takes. -/
theorem balanced_of_allocated
    (backed : packetiser.clientmap.Backed eal)
    {keys : Finset UInt16}
    (allocated : ∀ key ∈ packetiser.allocatedIds, key ∈ keys) :
    ∃ added,
      (packetiser.storeOutgoing eal).2.1.oBufqueue =
          packetiser.oBufqueue ++ added ∧
        ∑ key ∈ keys, backlog packetiser.clientmap eal key =
          ∑ key ∈ keys,
              backlog packetiser.clientmap
                (packetiser.storeOutgoing eal).2.2 key +
            added.length := by
  have visited :
      ∀ key ∈ (List.replicate (packetiser.rounds eal)
          packetiser.allocatedIds).flatten,
        key ∈ keys := by
    intro key member
    exact allocated key (mem_of_mem_rounds member)
  rw [backlog_storeOutgoing, storeOutgoing_eq, ← backlog_withdrawn]
  exact balanced_collectRound (backed_withdrawn backed) visited
    packetiser.oBufqueue

/-- Whatever the size of the mempool, a collection is balanced. -/
theorem balanced_storeOutgoing
    (backed : packetiser.clientmap.Backed eal) :
    Balanced packetiser eal :=
  balanced_of_allocated backed fun key _ => Finset.mem_univ key

/-- The premise of a fair collection: distinct clients and enough buffers for all visits. -/
structure WellStocked
    (packetiser : Packetiser)
    (eal : Eal) :
    Prop where
  distinct :
    packetiser.allocatedIds.Nodup
  homed :
    Homed packetiser.mempool eal
  enough :
    burstMax + 1 +
        ∑ key ∈ packetiser.allocatedIds.toFinset,
          min (backlog packetiser.clientmap eal key) burstMax ≤
      (eal.pools packetiser.mempool.raw).length

/-- A well-stocked collection makes all its rounds. -/
theorem rounds_of_wellStocked
    (wellStocked : WellStocked packetiser eal) :
    packetiser.rounds eal = burstMax := by
  have enough := wellStocked.enough
  exact Nat.min_eq_left (by omega)

/-- All visits of a well-stocked collection succeed. -/
theorem allVisits_succeed
    (backed : packetiser.clientmap.Backed eal)
    (wellStocked : WellStocked packetiser eal) :
    (collectRound packetiser.mempool packetiser.clientmap
      (allVisits packetiser) packetiser.oBufqueue
      (packetiser.withdrawn eal)).1 = .ok () := by
  have visited :
      ∀ key ∈ allVisits packetiser,
        key ∈ packetiser.allocatedIds.toFinset := by
    intro key member
    exact List.mem_toFinset.mpr (mem_of_mem_rounds member)
  apply collectRound_succeeds (backed_withdrawn backed)
    (homed_withdrawn wellStocked.homed) visited
  have enough := wellStocked.enough
  rw [allVisits, served_distinct_rounds wellStocked.distinct,
    backlog_withdrawn, pools_withdrawn, List.length_drop]
  omega

/-- A well-stocked collection consists of all its visits. -/
theorem storeOutgoing_of_wellStocked
    (wellStocked : WellStocked packetiser eal) :
    packetiser.storeOutgoing eal =
      finish packetiser eal
        (collectRound packetiser.mempool packetiser.clientmap
          (allVisits packetiser) packetiser.oBufqueue
          (packetiser.withdrawn eal)) := by
  rw [storeOutgoing_eq_finish, rounds_of_wellStocked wellStocked,
    collectLoop_eq, allVisits]

/--
At any point of a well-stocked collection, every client has lost a packet for
every visit, and the collection goes on with the visits still to come.
-/
theorem taken_of_append
    (backed : packetiser.clientmap.Backed eal)
    (wellStocked : WellStocked packetiser eal)
    {visits later : List UInt16}
    (together : visits ++ later = allVisits packetiser) :
    ∃ queue after,
      collectRound packetiser.mempool packetiser.clientmap visits
          packetiser.oBufqueue (packetiser.withdrawn eal) =
        (.ok (), queue, after) ∧
      packetiser.storeOutgoing eal =
        finish packetiser eal
          (collectRound packetiser.mempool packetiser.clientmap later
            queue after) ∧
      ∀ key,
        backlog packetiser.clientmap after key =
          backlog packetiser.clientmap eal key - visits.count key := by
  have allSucceed := allVisits_succeed backed wellStocked
  rw [← together] at allSucceed
  obtain ⟨queue, after, outcome, goesOn⟩ := succeeded_of_append allSucceed
  have succeeded :
      (collectRound packetiser.mempool packetiser.clientmap visits
        packetiser.oBufqueue (packetiser.withdrawn eal)).1 = .ok () := by
    rw [outcome]
  have backlogs :=
    backlog_of_succeeded (backed_withdrawn backed) succeeded
  rw [outcome] at backlogs
  refine ⟨queue, after, outcome, ?_, backlogs⟩
  rw [storeOutgoing_of_wellStocked wellStocked, ← together, goesOn]

/-- A well-stocked collection takes up to `BURST_MAX` packets from every client. -/
theorem backlog_of_wellStocked
    (backed : packetiser.clientmap.Backed eal)
    (wellStocked : WellStocked packetiser eal)
    {key : UInt16}
    (allocated : key ∈ packetiser.allocatedIds) :
    backlog packetiser.clientmap eal key =
      backlog packetiser.clientmap (packetiser.storeOutgoing eal).2.2 key +
        min (backlog packetiser.clientmap eal key) burstMax := by
  obtain ⟨queue, after, outcome, _, backlogs⟩ :=
    taken_of_append backed wellStocked (List.append_nil _)
  have visits : (allVisits packetiser).count key = burstMax :=
    count_rounds wellStocked.distinct burstMax allocated
  rw [allVisits] at outcome
  rw [backlog_storeOutgoing, rounds_of_wellStocked wellStocked, outcome,
    backlogs, visits]
  omega

/-- What a well-stocked mempool allows to collect is what the clients are to give up. -/
theorem collectable_of_wellStocked
    (wellStocked : WellStocked packetiser eal) :
    packetiser.collectable eal =
      ∑ key ∈ packetiser.allocatedIds.toFinset,
        min (backlog packetiser.clientmap eal key) burstMax := by
  have enough := wellStocked.enough
  rw [collectable, rounds_of_wellStocked wellStocked, ← served_rounds,
    served_distinct_rounds wellStocked.distinct, spare]
  exact Nat.min_eq_right (by omega)

/-- A well-stocked collection is fair. -/
theorem fair_of_wellStocked
    (backed : packetiser.clientmap.Backed eal)
    (wellStocked : WellStocked packetiser eal) :
    Fair packetiser eal := by
  have distinct := wellStocked.distinct
  refine ⟨?_, ?_, ?_, ?_, ?_, ?_⟩
  · rw [storeOutgoing_of_wellStocked wellStocked]
    exact allVisits_succeed backed wellStocked
  · intro key allocated
    exact backlog_of_wellStocked backed wellStocked allocated
  · obtain ⟨added, sameQueue, _⟩ := balanced_storeOutgoing backed
    obtain ⟨collected, lengthEq, _, exactly⟩ :=
      packetiser.length_storeOutgoing backed
    refine ⟨added, sameQueue, ?_⟩
    rw [sameQueue, List.length_append, Nat.add_left_cancel_iff,
      exactly wellStocked.homed] at lengthEq
    rw [lengthEq, collectable_of_wellStocked wellStocked]
  · rw [storeOutgoing_eq_finish, rounds_of_wellStocked wellStocked]
  · intro rounds later together
    have allTogether :
        (List.replicate rounds packetiser.allocatedIds).flatten ++
            (List.replicate later packetiser.allocatedIds).flatten =
          allVisits packetiser := by
      rw [allVisits, ← together, List.replicate_add, List.flatten_append]
    obtain ⟨queue, after, outcome, goesOn, backlogs⟩ :=
      taken_of_append backed wellStocked allTogether
    refine ⟨queue, after, by rw [collectLoop_eq, outcome],
      by rw [collectLoop_eq, goesOn], ?_⟩
    intro key allocated
    rw [taken, backlogs, count_rounds distinct rounds allocated,
      Nat.sub_sub_eq_min]
  · intro visits later together
    obtain ⟨queue, after, outcome, goesOn, backlogs⟩ :=
      taken_of_append backed wellStocked together
    refine ⟨queue, after, outcome, goesOn, ?_⟩
    intro first _ second allocated waiting
    have isPrefix : visits <+: allVisits packetiser :=
      ⟨later, together⟩
    have counts := count_le_of_rounds distinct isPrefix first allocated
    rw [backlogs] at waiting
    rw [taken, taken, backlogs, backlogs]
    omega

end Store

/--
A collection with distinct clients and enough free buffers is fair, and every
collection is balanced, whatever the size of the mempool.
-/
theorem storeOutgoing_fair_and_balanced
    {packetiser : Packetiser}
    {eal : Eal}
    (backed : packetiser.clientmap.Backed eal) :
    (WellStocked packetiser eal → Fair packetiser eal) ∧
      Balanced packetiser eal :=
  ⟨fair_of_wellStocked backed, balanced_storeOutgoing backed⟩

/-- A packetiser that has added two clients. -/
def twoClients : PacketiserClients.State :=
  GuardedRun.run PacketiserClients.step
    (PacketiserClients.start PacketiserClients.newPacketiser
      PacketiserClients.engineEal)
    [.addClient (.ok 40) (.ok 50), .addClient (.ok 60) (.ok 70)]

/-- A client's ring with some packets. -/
def ringWith
    (entries : List RteMbuf)
    (fits : entries.length ≤ Ring.ringCapacity - 1) :
    RteRing where
  capacity :=
    Ring.ringCapacity - 1
  entries :=
    entries
  fits :=
    fits

/-- Three packets wait on the first client's ring, one on the second's, and some buffers are free. -/
def packetsWait (freeBuffers : Nat) : Eal :=
  ((twoClients.eal.setRing 50
    (ringWith [.reset 30 200 fun _ => 8, .reset 30 201 fun _ => 8,
      .reset 30 202 fun _ => 8] (by decide))).setRing 70
    (ringWith [.reset 30 203 fun _ => 8] (by decide))).setPool 30
    ((List.range freeBuffers).map fun index =>
      .reset 30 (300 + index) fun _ => 0)

theorem backed_packetsWait
    (freeBuffers : Nat) :
    twoClients.packetiser.clientmap.Backed (packetsWait freeBuffers) := by
  have backed :=
    ((RingClientMap.backed_new PacketiserClients.engineEal).addClient 2
      (.ok 40) (.ok 50)).addClient 3 (.ok 60) (.ok 70)
  exact backed.of_ringTailq_eq rfl

theorem length_pool_packetsWait
    (freeBuffers : Nat) :
    ((packetsWait freeBuffers).pools
      twoClients.packetiser.mempool.raw).length = freeBuffers := by
  have pool :
      (packetsWait freeBuffers).pools
          twoClients.packetiser.mempool.raw =
        (List.range freeBuffers).map fun index =>
          .reset 30 (300 + index) fun _ => 0 :=
    rfl
  rw [pool, List.length_map, List.length_range]

theorem homed_packetsWait
    (freeBuffers : Nat) :
    Homed twoClients.packetiser.mempool (packetsWait freeBuffers) := by
  intro mbuf member
  obtain ⟨_, _, rfl⟩ := List.mem_map.mp member
  rfl

/-- With four packets waiting, five buffers are enough behind those that count the rounds. -/
theorem storeOutgoing_fair_two_clients :
    Fair twoClients.packetiser (packetsWait 517) ∧
      Balanced twoClients.packetiser (packetsWait 517) := by
  have wellStocked :
      WellStocked twoClients.packetiser (packetsWait 517) := {
    distinct := by
      decide
    homed :=
      homed_packetsWait 517
    enough := by
      rw [length_pool_packetsWait]
      decide
  }
  obtain ⟨fair, balanced⟩ :=
    storeOutgoing_fair_and_balanced (backed_packetsWait 517)
  exact ⟨fair wellStocked, balanced⟩

/-! ## Progress -/

/-- A collection takes at least one packet off a client's ring and queues a buffer for it. -/
structure MakesProgress
    (packetiser : Packetiser)
    (before : Eal) :
    Prop where
  takes :
    ∃ key ∈ packetiser.allocatedIds,
      backlog packetiser.clientmap
          (packetiser.storeOutgoing before).2.2 key <
        backlog packetiser.clientmap before key
  queues :
    packetiser.oBufqueue.length <
      (packetiser.storeOutgoing before).2.1.oBufqueue.length

section Progress

variable
  {packetiser : Packetiser}
  {eal : Eal}

/-- A collection that queues a buffer makes progress. -/
theorem makesProgress_of_queues
    (backed : packetiser.clientmap.Backed eal)
    (queues :
      packetiser.oBufqueue.length <
        (packetiser.storeOutgoing eal).2.1.oBufqueue.length) :
    MakesProgress packetiser eal := by
  obtain ⟨added, sameQueue, balanced⟩ :=
    balanced_of_allocated backed
      fun _ allocated => List.mem_toFinset.mpr allocated
  have fewer :
      ∑ key ∈ packetiser.allocatedIds.toFinset,
          backlog packetiser.clientmap
            (packetiser.storeOutgoing eal).2.2 key <
        ∑ key ∈ packetiser.allocatedIds.toFinset,
          backlog packetiser.clientmap eal key := by
    rw [sameQueue, List.length_append] at queues
    omega
  obtain ⟨key, member, taken⟩ := Finset.exists_lt_of_sum_lt fewer
  exact ⟨⟨key, List.mem_toFinset.mp member, taken⟩, queues⟩

/-- With a packet waiting and a spare buffer, there is something to collect. -/
theorem collectable_pos
    {key : UInt16}
    (allocated : key ∈ packetiser.allocatedIds)
    (waiting : 0 < backlog packetiser.clientmap eal key)
    (spareBuffer :
      burstMax < (eal.pools packetiser.mempool.raw).length) :
    0 < packetiser.collectable eal := by
  have visits : 0 < packetiser.allocatedIds.count key :=
    List.count_pos_iff.mpr allocated
  have allRounds : packetiser.rounds eal = burstMax :=
    Nat.min_eq_left spareBuffer.le
  have ownShare :
      0 < min (packetiser.rounds eal * packetiser.allocatedIds.count key)
        (backlog packetiser.clientmap eal key) := by
    rw [allRounds]
    exact lt_min (Nat.mul_pos (by decide) visits) waiting
  have atMostSum :=
    Finset.single_le_sum
      (f := fun other =>
        min (packetiser.rounds eal * packetiser.allocatedIds.count other)
          (backlog packetiser.clientmap eal other))
      (fun _ _ => Nat.zero_le _) (List.mem_toFinset.mpr allocated)
  exact lt_min (Nat.sub_pos_of_lt spareBuffer)
    (ownShare.trans_le atMostSum)

end Progress

/--
While a packet waits, a collection makes progress if and only if more than
`BURST_MAX` buffers are free.
-/
theorem makesProgress_iff_more_than_burstMax
    {packetiser : Packetiser}
    {eal : Eal}
    (backed : packetiser.clientmap.Backed eal)
    (homed : Homed packetiser.mempool eal)
    {key : UInt16}
    (allocated : key ∈ packetiser.allocatedIds)
    (waiting : 0 < backlog packetiser.clientmap eal key) :
    MakesProgress packetiser eal ↔
      burstMax < (eal.pools packetiser.mempool.raw).length := by
  obtain ⟨collected, lengthEq, atMost, exactly⟩ :=
    packetiser.length_storeOutgoing backed
  constructor
  · intro progress
    have queues := progress.queues
    have atMostSpare : packetiser.collectable eal ≤ packetiser.spare eal :=
      Nat.min_le_left _ _
    have spareBuffer : 0 < packetiser.spare eal := by
      omega
    exact Nat.lt_of_sub_pos spareBuffer
  · intro spareBuffer
    have positive := collectable_pos allocated waiting spareBuffer
    apply makesProgress_of_queues backed
    rw [lengthEq, exactly homed]
    omega

/-- One buffer more than `BURST_MAX` lets a packet be collected. -/
theorem makesProgress_one_spare :
    MakesProgress twoClients.packetiser (packetsWait 513) := by
  have allocated : 2 ∈ twoClients.packetiser.allocatedIds := by
    decide
  have progress :=
    makesProgress_iff_more_than_burstMax (backed_packetsWait 513)
      (homed_packetsWait 513) allocated (by decide)
  rw [length_pool_packetsWait] at progress
  exact progress.mpr (by decide)

/-- The only free buffer is taken to count the rounds, and none is left for a packet. -/
theorem not_makesProgress_one_free :
    0 < ((packetsWait 1).pools twoClients.packetiser.mempool.raw).length ∧
      2 ∈ twoClients.packetiser.allocatedIds ∧
      0 < backlog twoClients.packetiser.clientmap (packetsWait 1) 2 ∧
      ¬ MakesProgress twoClients.packetiser (packetsWait 1) := by
  refine ⟨by decide, by decide, by decide, ?_⟩
  intro progress
  exact absurd progress.queues (by decide)

end VDataplane.CollectionFairness
