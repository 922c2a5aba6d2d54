import VDataplane.ChannelLifecycle
import VDataplane.GuardedRun

namespace VDataplane

open GuardedRun

/-!
# The ring registry behind a client map

A `RingClientMap` owns the rings of its channels: DPDK's tail queue holds the
two rings of every key and, unless somebody else creates rings with client
names, no other client ring.  The argument runs through the implicit drops, so
the invariant is proved for every order of additions, removals and creation
failures.
-/

namespace RingClientMap

/-- Every channel of the map points at rings registered under its own names. -/
structure Backed
    (map : RingClientMap)
    (eal : Eal) :
    Prop where
  handle :
    ∀ {clientId channel},
      map.ringmap clientId = some channel →
      ∀ rtype,
        channel.ring rtype = ⟨clientId, rtype, (channel.ring rtype).raw⟩
  registered :
    ∀ {clientId channel},
      map.ringmap clientId = some channel →
      ∀ rtype,
        eal.ringTailq.Registered
          (Ring.registeredName rtype clientId) (channel.ring rtype).raw

/-- The map's channels are backed, and no other ring has a client's name. -/
structure Exact
    (map : RingClientMap)
    (eal : Eal) :
    Prop extends Backed map eal where
  complete :
    ∀ {rtype clientId address},
      eal.ringTailq.Registered
        (Ring.registeredName rtype clientId) address →
      ∃ channel,
        map.ringmap clientId = some channel ∧
          (channel.ring rtype).raw = address

/-- The empty map is backed by any registry. -/
theorem backed_new (eal : Eal) : Backed new eal where
  handle present := by
    simp [new] at present
  registered present := by
    simp [new] at present

namespace Backed

variable
  {map : RingClientMap}
  {eal : Eal}

/-- A ring belongs to one direction of one client. -/
theorem raw_inj
    (backed : Backed map eal)
    {firstId secondId : UInt16}
    {first second : Channel}
    (atFirst : map.ringmap firstId = some first)
    (atSecond : map.ringmap secondId = some second)
    {firstType secondType : RingType}
    (same :
      (first.ring firstType).raw = (second.ring secondType).raw) :
    firstType = secondType ∧ firstId = secondId := by
  have underFirst := backed.registered atFirst firstType
  have underSecond := backed.registered atSecond secondType
  rw [same] at underFirst
  exact Ring.registeredName_inj.mp
    (NamedRegistry.name_unique underFirst underSecond)

/-- A channel can be created only for a client that has none. -/
theorem absent_of_created
    (backed : Backed map eal)
    {clientId : UInt16}
    {channel : Channel}
    {after : Eal}
    (created : Channel.Created clientId eal channel after) :
    map.ringmap clientId = none := by
  rw [Option.eq_none_iff_forall_ne_some]
  intro existing present
  exact created.nameFresh .e2c _ (backed.registered present .e2c)

/--
An addition fails, changing neither the map nor anything registered, or
inserts a newly created channel for a client that had none.
-/
theorem addClient_cases
    (backed : Backed map eal)
    (clientId : UInt16)
    (e2c c2e : Dpdk.Allocation) :
    (¬ Channel.Creatable clientId e2c c2e eal ∧
      ∃ error after,
        map.addClient clientId e2c c2e eal =
            (.error (.memoryError error), map, after) ∧
          Channel.NotCreated eal after) ∨
    Channel.Creatable clientId e2c c2e eal ∧
      ∃ channel after,
        map.addClient clientId e2c c2e eal =
            (.ok (), ⟨map.ringmap.insert clientId channel⟩, after) ∧
          map.ringmap clientId = none ∧
          Channel.Created clientId eal channel after := by
  rw [← Channel.new_isOk_iff]
  rcases Channel.new_cases clientId e2c c2e eal with
    ⟨error, after, failed, notCreated⟩ | ⟨channel, after, succeeded, _, _, created⟩
  · exact Or.inl ⟨by simp [failed], error, after, by
      simp [addClient, failed], notCreated⟩
  · have absent := backed.absent_of_created created
    exact Or.inr ⟨⟨channel, after, succeeded⟩, channel, after, by
      simp [addClient, succeeded, absent], absent, created⟩

/-- A client that is already in the map cannot be added again. -/
theorem addClient_present
    (backed : Backed map eal)
    {clientId : UInt16}
    {channel : Channel}
    (present : map.ringmap clientId = some channel)
    (e2c c2e : Dpdk.Allocation) :
    ∃ error after,
      map.addClient clientId e2c c2e eal =
        (.error (.memoryError error), map, after) := by
  rcases backed.addClient_cases clientId e2c c2e with
    ⟨_, error, after, failed, _⟩ | ⟨_, _, _, _, absent, _⟩
  · exact ⟨error, after, failed⟩
  · rw [present] at absent
    simp at absent

/-- Whatever leaves the registry alone leaves the map backed. -/
theorem of_ringTailq_eq
    (backed : Backed map eal)
    {after : Eal}
    (sameRegistry : after.ringTailq = eal.ringTailq) :
    Backed map after where
  handle :=
    backed.handle
  registered present rtype := by
    rw [sameRegistry]
    exact backed.registered present rtype

/-- A failed creation leaves the map backed. -/
theorem of_notCreated
    (backed : Backed map eal)
    {after : Eal}
    (notCreated : Channel.NotCreated eal after) :
    Backed map after :=
  backed.of_ringTailq_eq notCreated.ringTailq

/-- Inserting a newly created channel leaves the map backed. -/
theorem insert_created
    (backed : Backed map eal)
    {clientId : UInt16}
    {channel : Channel}
    {after : Eal}
    (created : Channel.Created clientId eal channel after) :
    Backed ⟨map.ringmap.insert clientId channel⟩ after := by
  refine ⟨?_, ?_⟩
  · intro otherId other present rtype
    by_cases same : otherId = clientId
    · subst otherId
      obtain rfl : channel = other := by
        simpa using present
      exact created.handle rtype
    · simp only [PartialMap.insert_other _ same] at present
      exact backed.handle present rtype
  · intro otherId other present rtype
    by_cases same : otherId = clientId
    · subst otherId
      obtain rfl : channel = other := by
        simpa using present
      exact (created.registered _ _).mpr (Or.inr ⟨rtype, rfl, rfl⟩)
    · simp only [PartialMap.insert_other _ same] at present
      exact (created.registered _ _).mpr
        (Or.inl (backed.registered present rtype))

/-- Dropping the channel of an erased client leaves the map backed. -/
theorem erase_dropped
    (backed : Backed map eal)
    {clientId : UInt16}
    {channel : Channel}
    (present : map.ringmap clientId = some channel) :
    Backed ⟨map.ringmap.erase clientId⟩ (channel.drop eal) := by
  refine ⟨?_, ?_⟩
  · intro otherId other kept rtype
    have different : otherId ≠ clientId := by
      intro same
      subst otherId
      simp at kept
    simp only [PartialMap.erase_other _ different] at kept
    exact backed.handle kept rtype
  · intro otherId other kept rtype
    have different : otherId ≠ clientId := by
      intro same
      subst otherId
      simp at kept
    simp only [PartialMap.erase_other _ different] at kept
    refine Channel.registered_drop_iff.mpr
      ⟨backed.registered kept rtype, ?_⟩
    intro droppedType same
    exact different (backed.raw_inj kept present same).2

end Backed

/-- A removal erases the client and drops its channel, if it has one. -/
theorem removeClient_cases
    (map : RingClientMap)
    (clientId : UInt16)
    (eal : Eal) :
    (map.ringmap clientId = none ∧
      map.removeClient clientId eal = (map, eal)) ∨
    ∃ channel,
      map.ringmap clientId = some channel ∧
        map.removeClient clientId eal =
          (⟨map.ringmap.erase clientId⟩, channel.drop eal) := by
  cases present : map.ringmap clientId with
  | none =>
      exact Or.inl ⟨rfl, by
        simp [removeClient, present, PartialMap.erase_of_none present]⟩
  | some channel =>
      exact Or.inr ⟨channel, rfl, by simp [removeClient, present]⟩

/-- Whatever the registry, a removal erases exactly its client from the map. -/
theorem removeClient_ringmap
    (map : RingClientMap)
    (clientId : UInt16)
    (eal : Eal) :
    (map.removeClient clientId eal).1.ringmap =
      map.ringmap.erase clientId := by
  unfold removeClient
  split <;> rfl

/-- Whatever the registry, a removed client is absent. -/
theorem removeClient_absent
    (map : RingClientMap)
    (clientId : UInt16)
    (eal : Eal) :
    (map.removeClient clientId eal).1.ringmap clientId = none := by
  rw [removeClient_ringmap]
  exact PartialMap.erase_self _ _

/-- Removals keep the map backed. -/
theorem Backed.removeClient
    {map : RingClientMap}
    {eal : Eal}
    (backed : Backed map eal)
    (clientId : UInt16) :
    Backed (map.removeClient clientId eal).1
      (map.removeClient clientId eal).2 := by
  rcases map.removeClient_cases clientId eal with
    ⟨_, removed⟩ | ⟨channel, present, removed⟩
  · rw [removed]
    exact backed
  · rw [removed]
    exact backed.erase_dropped present

/-- Additions keep the map backed, whether they succeed or fail. -/
theorem Backed.addClient
    {map : RingClientMap}
    {eal : Eal}
    (backed : Backed map eal)
    (clientId : UInt16)
    (e2c c2e : Dpdk.Allocation) :
    Backed (map.addClient clientId e2c c2e eal).2.1
      (map.addClient clientId e2c c2e eal).2.2 := by
  rcases backed.addClient_cases clientId e2c c2e with
    ⟨_, _, _, failed, notCreated⟩ | ⟨_, _, _, added, _, created⟩
  · rw [failed]
    exact backed.of_notCreated notCreated
  · rw [added]
    exact backed.insert_created created

namespace Exact

variable
  {map : RingClientMap}
  {eal : Eal}

/-- Additions keep the registry exact, whether they succeed or fail. -/
theorem addClient
    (exact : Exact map eal)
    (clientId : UInt16)
    (e2c c2e : Dpdk.Allocation) :
    Exact (map.addClient clientId e2c c2e eal).2.1
      (map.addClient clientId e2c c2e eal).2.2 := by
  refine ⟨exact.toBacked.addClient clientId e2c c2e, ?_⟩
  intro rtype otherId address registered
  rcases exact.addClient_cases clientId e2c c2e with
    ⟨_, _, _, failed, notCreated⟩ |
      ⟨_, channel, after, added, absent, created⟩
  · rw [failed] at registered ⊢
    rw [notCreated.ringTailq] at registered
    exact exact.complete registered
  · rw [added] at registered ⊢
    rcases (created.registered _ _).mp registered with
      earlier | ⟨createdType, sameName, sameAddress⟩
    · obtain ⟨other, present, atAddress⟩ := exact.complete earlier
      have different : otherId ≠ clientId := by
        intro same
        subst otherId
        rw [absent] at present
        simp at present
      exact ⟨other, by
        simpa [PartialMap.insert_other _ different] using present, atAddress⟩
    · obtain ⟨rfl, rfl⟩ := Ring.registeredName_inj.mp sameName
      exact ⟨channel, PartialMap.insert_self _ _ _, sameAddress.symm⟩

/-- Removals keep the registry exact. -/
theorem removeClient
    (exact : Exact map eal)
    (clientId : UInt16) :
    Exact (map.removeClient clientId eal).1
      (map.removeClient clientId eal).2 := by
  refine ⟨exact.toBacked.removeClient clientId, ?_⟩
  intro rtype otherId address registered
  rcases map.removeClient_cases clientId eal with
    ⟨_, removed⟩ | ⟨channel, present, removed⟩
  · rw [removed] at registered ⊢
    exact exact.complete registered
  · rw [removed] at registered ⊢
    obtain ⟨earlier, elsewhere⟩ :=
      Channel.registered_drop_iff.mp registered
    obtain ⟨other, atOther, atAddress⟩ := exact.complete earlier
    have different : otherId ≠ clientId := by
      intro same
      subst otherId
      obtain rfl : channel = other :=
        Option.some.inj (present.symm.trans atOther)
      exact elsewhere rtype atAddress.symm
    exact ⟨other, by
      simpa [PartialMap.erase_other _ different] using atOther, atAddress⟩

/-- An absent client can be added whenever DPDK grants two unused addresses. -/
theorem addClient_absent
    (exact : Exact map eal)
    {clientId : UInt16}
    (absent : map.ringmap clientId = none)
    {first second : Address}
    (different : first ≠ second)
    (firstUnused : ∀ name, ¬ eal.ringTailq.Registered name first)
    (secondUnused : ∀ name, ¬ eal.ringTailq.Registered name second) :
    ∃ added after,
      map.addClient clientId (.ok first) (.ok second) eal =
        (.ok (), added, after) := by
  have unnamed :
      ∀ rtype address,
        ¬ eal.ringTailq.Registered
          (Ring.registeredName rtype clientId) address := by
    intro rtype address registered
    obtain ⟨channel, present, _⟩ := exact.complete registered
    rw [absent] at present
    simp at present
  have creatable : Channel.Creatable clientId (.ok first) (.ok second) eal :=
    ⟨first, second, rfl, rfl, different, firstUnused, secondUnused, unnamed⟩
  rcases exact.addClient_cases clientId (.ok first) (.ok second) with
    ⟨notCreatable, _⟩ | ⟨_, channel, after, added, _⟩
  · exact (notCreatable creatable).elim
  · exact ⟨_, after, added⟩

end Exact

end RingClientMap

namespace RingRegistry

/-- One call that changes the set of clients, with DPDK's answers to its creations. -/
inductive Call where
  | addClient (clientId : UInt16) (e2c c2e : Dpdk.Allocation)
  | removeClient (clientId : UInt16)

/-- A client map and the environment that it lives in. -/
structure Clients where
  map : RingClientMap
  eal : Eal

/-- Execute one call. -/
def step (clients : Clients) : Call → Clients
  | .addClient clientId e2c c2e =>
      let (_, map, eal) := clients.map.addClient clientId e2c c2e clients.eal
      ⟨map, eal⟩
  | .removeClient clientId =>
      let (map, eal) := clients.map.removeClient clientId clients.eal
      ⟨map, eal⟩

/--
What a successful addition does: a client that was absent has a channel, whose
two rings are registered under its names, and nothing else changes.
-/
structure Added
    (clientId : UInt16)
    (before after : Clients) :
    Prop where
  wasAbsent :
    before.map.ringmap clientId = none
  inserted :
    ∃ channel,
      after.map.ringmap clientId = some channel ∧
        ∀ rtype,
          channel.ring rtype = ⟨clientId, rtype, (channel.ring rtype).raw⟩ ∧
            after.eal.ringTailq.Registered
              (Ring.registeredName rtype clientId) (channel.ring rtype).raw
  otherClients :
    ∀ otherId,
      otherId ≠ clientId →
      after.map.ringmap otherId = before.map.ringmap otherId
  otherRings :
    ∀ name address,
      (∀ rtype, name ≠ Ring.registeredName rtype clientId) →
      (after.eal.ringTailq.Registered name address ↔
        before.eal.ringTailq.Registered name address)
  contents :
    ∀ name address,
      before.eal.ringTailq.Registered name address →
      after.eal.rings address = before.eal.rings address

/--
The registry agrees with the map.  The channel of every key points at its two
rings, which are registered under the names that `Ring::name` gives them, no
other ring has a client's name, and no name is registered twice.  And every
operation keeps its part of the bargain in this state.
-/
structure Consistent (clients : Clients) : Prop where
  pointsAt :
    ∀ clientId channel,
      clients.map.ringmap clientId = some channel →
      ∀ rtype,
        channel.ring rtype = ⟨clientId, rtype, (channel.ring rtype).raw⟩ ∧
          (channel.ring rtype).name = Ring.registeredName rtype clientId ∧
          clients.eal.ringTailq.Registered
            (channel.ring rtype).name (channel.ring rtype).raw
  exact :
    ∀ rtype clientId address,
      clients.eal.ringTailq.Registered
          (Ring.registeredName rtype clientId) address ↔
        ∃ channel,
          clients.map.ringmap clientId = some channel ∧
            channel.ring rtype = ⟨clientId, rtype, address⟩
  once :
    (clients.eal.ringTailq.entries.map Prod.fst).Nodup
  successfulAdd :
    ∀ clientId e2c c2e map after,
      clients.map.addClient clientId e2c c2e clients.eal =
          (.ok (), map, after) →
      Added clientId clients ⟨map, after⟩
  failedAdd :
    ∀ clientId e2c c2e error map after,
      clients.map.addClient clientId e2c c2e clients.eal =
          (.error error, map, after) →
      map = clients.map ∧
        after.ringTailq = clients.eal.ringTailq ∧
        ∀ name address,
          clients.eal.ringTailq.Registered name address →
          after.rings address = clients.eal.rings address
  repeatedAdd :
    ∀ clientId channel e2c c2e,
      clients.map.ringmap clientId = some channel →
      ∃ error after,
        clients.map.addClient clientId e2c c2e clients.eal =
          (.error (.memoryError error), clients.map, after)
  removed :
    ∀ clientId,
      (clients.map.removeClient clientId clients.eal).1.ringmap =
        clients.map.ringmap.erase clientId
  addable :
    ∀ clientId first second,
      clients.map.ringmap clientId = none →
      first ≠ second →
      (∀ name, ¬ clients.eal.ringTailq.Registered name first) →
      (∀ name, ¬ clients.eal.ringTailq.Registered name second) →
      ∃ map after,
        clients.map.addClient clientId
            (.ok first) (.ok second) clients.eal =
          (.ok (), map, after)

/-- The map is backed by the registry of the environment. -/
def BackedRegistry (clients : Clients) : Prop :=
  clients.map.Backed clients.eal

/-- The registry of the environment is exact for the map. -/
def ExactRegistry (clients : Clients) : Prop :=
  clients.map.Exact clients.eal

/-- In a backed map, what a successful addition does. -/
theorem added_of_addClient
    {clients : Clients}
    (backed : BackedRegistry clients)
    {clientId : UInt16}
    {e2c c2e : Dpdk.Allocation}
    {map : RingClientMap}
    {after : Eal}
    (succeeded :
      clients.map.addClient clientId e2c c2e clients.eal =
        (.ok (), map, after)) :
    Added clientId clients ⟨map, after⟩ := by
  rcases backed.addClient_cases clientId e2c c2e with
    ⟨_, _, _, failed, _⟩ | ⟨_, channel, created, added, absent, isCreated⟩
  · rw [failed] at succeeded
    simp at succeeded
  · rw [added] at succeeded
    obtain ⟨_, rfl, rfl⟩ := by
      simpa only [Prod.mk.injEq] using succeeded
    exact {
      wasAbsent := absent
      inserted := by
        refine ⟨channel, PartialMap.insert_self _ _ _, ?_⟩
        intro rtype
        exact ⟨isCreated.handle rtype,
          (isCreated.registered _ _).mpr (Or.inr ⟨rtype, rfl, rfl⟩)⟩
      otherClients := by
        intro otherId different
        exact PartialMap.insert_other _ different _
      otherRings := by
        intro name address otherName
        rw [isCreated.registered, or_iff_left_iff_imp]
        rintro ⟨rtype, sameName, _⟩
        exact absurd sameName (otherName rtype)
      contents := by
        intro name address registered
        apply isCreated.otherRings
        rintro rtype rfl
        exact isCreated.addressFresh rtype name registered
    }

/-- The exact registry invariant implies every clause of consistency. -/
theorem Consistent.of_exact
    {clients : Clients}
    (exact : ExactRegistry clients) :
    Consistent clients where
  pointsAt clientId channel present rtype := by
    have handle := exact.handle present rtype
    have sameName :
        (channel.ring rtype).name = Ring.registeredName rtype clientId := by
      rw [Ring.name_eq_registeredName, handle]
    rw [sameName]
    exact ⟨handle, rfl, exact.registered present rtype⟩
  exact rtype clientId address := by
    constructor
    · intro registered
      obtain ⟨channel, present, rfl⟩ := exact.complete registered
      exact ⟨channel, present, exact.handle present rtype⟩
    · rintro ⟨channel, present, handle⟩
      have registered := exact.registered present rtype
      rwa [handle] at registered
  once :=
    clients.eal.ringTailq.namesNodup
  successfulAdd _ _ _ _ _ succeeded :=
    added_of_addClient exact.toBacked succeeded
  failedAdd clientId e2c c2e error map after failed := by
    rcases exact.addClient_cases clientId e2c c2e with
      ⟨_, _, _, failedSo, notCreated⟩ | ⟨_, _, _, added, _⟩
    · rw [failedSo] at failed
      obtain ⟨_, rfl, rfl⟩ := by
        simpa only [Prod.mk.injEq] using failed
      exact ⟨rfl, notCreated.ringTailq, notCreated.rings⟩
    · rw [failed] at added
      simp at added
  repeatedAdd _ _ e2c c2e present :=
    exact.addClient_present present e2c c2e
  removed clientId :=
    clients.map.removeClient_ringmap clientId clients.eal
  addable _ _ _ absent different firstUnused secondUnused :=
    exact.addClient_absent absent different firstUnused secondUnused

/-- The state after an addition, whatever its result. -/
theorem step_addClient
    (clients : Clients)
    (clientId : UInt16)
    (e2c c2e : Dpdk.Allocation) :
    step clients (.addClient clientId e2c c2e) =
      ⟨(clients.map.addClient clientId e2c c2e clients.eal).2.1,
        (clients.map.addClient clientId e2c c2e clients.eal).2.2⟩ := by
  rcases outcome : clients.map.addClient clientId e2c c2e clients.eal with
    ⟨result, map, after⟩
  simp only [step, outcome]

/-- Every call keeps the map backed. -/
theorem backed_step
    (clients : Clients)
    (call : Call)
    (backed : BackedRegistry clients) :
    BackedRegistry (step clients call) := by
  cases call with
  | addClient clientId e2c c2e =>
      rw [step_addClient]
      exact RingClientMap.Backed.addClient backed clientId e2c c2e
  | removeClient clientId =>
      exact RingClientMap.Backed.removeClient backed clientId

/-- Whatever else is registered, every map that a run builds up is backed. -/
theorem backed_run
    (eal : Eal)
    (calls : List Call) :
    BackedRegistry (run step ⟨RingClientMap.new, eal⟩ calls) := by
  have atStart : BackedRegistry ⟨RingClientMap.new, eal⟩ :=
    RingClientMap.backed_new eal
  exact run_invariant backed_step atStart calls

/-- Every call keeps the registry exact. -/
theorem exact_step
    (clients : Clients)
    (call : Call)
    (exact : ExactRegistry clients) :
    ExactRegistry (step clients call) := by
  cases call with
  | addClient clientId e2c c2e =>
      rw [step_addClient]
      exact RingClientMap.Exact.addClient exact clientId e2c c2e
  | removeClient clientId =>
      exact RingClientMap.Exact.removeClient exact clientId

/--
Starting from an empty map and a registry without client rings, the registry
agrees with the map after every sequence of additions and removals.
-/
theorem consistent_run
    {eal : Eal}
    (noClientRings :
      ∀ rtype clientId address,
        ¬ eal.ringTailq.Registered
          (Ring.registeredName rtype clientId) address)
    (calls : List Call) :
    Consistent (run step ⟨RingClientMap.new, eal⟩ calls) := by
  have atStart : ExactRegistry ⟨RingClientMap.new, eal⟩ :=
    { RingClientMap.backed_new eal with
      complete := fun registered =>
        (noClientRings _ _ _ registered).elim }
  exact .of_exact (run_invariant exact_step atStart calls)

/-- An addition, a removal and a half-failed second addition of client 2. -/
theorem consistent_add_remove_add :
    Consistent (run step ⟨RingClientMap.new, Eal.initial⟩ [
      .addClient 2 (.ok 10) (.ok 20),
      .removeClient 2,
      .addClient 2 (.ok 10) (.error Errno.enomem)
    ]) :=
  consistent_run
    (fun _ _ _ => NamedRegistry.not_registered_empty _ _) _

end RingRegistry

end VDataplane
