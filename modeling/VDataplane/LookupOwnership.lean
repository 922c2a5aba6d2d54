import VDataplane.ChannelLifecycle
import VDataplane.Memory

namespace VDataplane.LookupOwnership

/-!
# Lookups of a secondary process

A secondary process finds rings, mempools and memzones that the primary
created, and drops what it found when it is done.  A created handle and a
handle that was looked up have one type and therefore one destructor, which
frees the object; the primary is left with a pointer to something that is no
longer registered.
-/

/-- The three kinds of objects that are registered by name. -/
inductive Kind where
  | ring
  | mempool
  | memzone
  deriving Repr, DecidableEq

/-- The registry of one kind. -/
def registry (eal : Eal) : Kind → NamedRegistry String Address
  | .ring =>
      eal.ringTailq
  | .mempool =>
      eal.mempoolTailq
  | .memzone =>
      eal.memzones

/-- One lookup call. -/
inductive Lookup where
  | channel (clientId : UInt16)
  | ring (rtype : RingType) (clientId : UInt16)
  | mempool (name : String)
  | memzone (name : String)
  deriving Repr, DecidableEq

/-- What a successful lookup returns. -/
inductive Handle where
  | channel (channel : Channel)
  | ring (ring : Ring)
  | mempool (mempool : Mempool)
  | memzone (memzone : Memzone)
  deriving Repr, DecidableEq

/-- Execute one lookup. -/
def Lookup.call
    (lookup : Lookup)
    (eal : Eal) :
    Except MemoryError Handle × Eal :=
  match lookup with
  | .channel clientId =>
      let (result, after) := Channel.lookup clientId eal
      (result.map Handle.channel, after)
  | .ring rtype clientId =>
      ((Ring.lookup rtype clientId eal).map Handle.ring, eal)
  | .mempool name =>
      ((Mempool.lookup name eal).map Handle.mempool, eal)
  | .memzone name =>
      ((Memzone.lookup name eal).map Handle.memzone, eal)

/-- The destructor of a handle. -/
def Handle.drop
    (handle : Handle)
    (eal : Eal) :
    Eal :=
  match handle with
  | .channel held =>
      held.drop eal
  | .ring held =>
      held.drop eal
  | .mempool held =>
      held.drop eal
  | .memzone held =>
      held.drop eal

/-- Execute lookups in order and keep the handles of the successful ones. -/
def lookupAll :
    List Lookup → Eal → List Handle × Eal
  | [], eal =>
      ([], eal)
  | lookup :: rest, eal =>
      match lookup.call eal with
      | (.error _, after) =>
          lookupAll rest after
      | (.ok handle, after) =>
          let (handles, final) := lookupAll rest after
          (handle :: handles, final)

/-- Drop handles in the given order. -/
def dropAll
    (handles : List Handle)
    (eal : Eal) :
    Eal :=
  handles.foldl (fun current handle => handle.drop current) eal

/-- Everything that was registered is still registered, at the same address. -/
def Preserved (before after : Eal) : Prop :=
  ∀ kind name address,
    (registry before kind).Registered name address →
    (registry after kind).Registered name address

/--
A lookup finds nothing.  For a channel this is about its E2C ring alone, which
is looked up first.
-/
def Misses (eal : Eal) : Lookup → Prop
  | .channel clientId =>
      ∀ address,
        ¬ eal.ringTailq.Registered
          (Ring.registeredName .e2c clientId) address
  | .ring rtype clientId =>
      ∀ address,
        ¬ eal.ringTailq.Registered
          (Ring.registeredName rtype clientId) address
  | .mempool name =>
      toCstring name = .ok name →
      ∀ address, ¬ eal.mempoolTailq.Registered name address
  | .memzone name =>
      toCstring name = .ok name →
      ∀ address, ¬ eal.memzones.Registered name address

/-! ## Registries only shrink -/

/-- The objects that dropping a handle frees. -/
def Handle.frees : Handle → List (Kind × Address)
  | .channel held =>
      [(.ring, held.clientToEngine.raw), (.ring, held.engineToClient.raw)]
  | .ring held =>
      [(.ring, held.raw)]
  | .mempool held =>
      [(.mempool, held.raw)]
  | .memzone held =>
      [(.memzone, held.raw)]

/-- Freeing a ring unregisters it and leaves the other kinds alone. -/
theorem registered_ringDrop_iff
    {ring : Ring}
    {eal : Eal}
    {kind : Kind}
    {name : String}
    {address : Address} :
    (registry (ring.drop eal) kind).Registered name address ↔
      (registry eal kind).Registered name address ∧
        (kind, address) ≠ (.ring, ring.raw) := by
  cases kind <;>
    simp [registry, Ring.drop, Dpdk.rteRingFree,
      NamedRegistry.registered_unregister_iff]

/-- Freeing a memzone unregisters it, if it was registered at all. -/
theorem registered_memzoneDrop_iff
    {memzone : Memzone}
    {eal : Eal}
    {kind : Kind}
    {name : String}
    {address : Address} :
    (registry (memzone.drop eal) kind).Registered name address ↔
      (registry eal kind).Registered name address ∧
        (kind, address) ≠ (.memzone, memzone.raw) := by
  unfold Memzone.drop Dpdk.rteMemzoneFree
  split
  · cases kind <;>
      simp [registry, NamedRegistry.registered_unregister_iff]
  · next unregistered =>
      refine ⟨fun registered => ⟨registered, ?_⟩, And.left⟩
      rintro ⟨rfl, rfl⟩
      exact unregistered (List.mem_map_of_mem registered)

/-- Dropping a handle unregisters exactly the objects it frees. -/
theorem registered_drop_iff
    {handle : Handle}
    {eal : Eal}
    {kind : Kind}
    {name : String}
    {address : Address} :
    (registry (handle.drop eal) kind).Registered name address ↔
      (registry eal kind).Registered name address ∧
        (kind, address) ∉ handle.frees := by
  cases handle with
  | channel channel =>
      simp only [Handle.drop, Channel.drop, registered_ringDrop_iff,
        Handle.frees, List.mem_cons, List.not_mem_nil, or_false, not_or,
        and_assoc, ne_eq]
  | ring ring =>
      simp only [Handle.drop, registered_ringDrop_iff, Handle.frees,
        List.mem_singleton, ne_eq]
  | mempool mempool =>
      cases kind <;>
        simp [Handle.drop, Mempool.drop, Dpdk.rteMempoolFree, registry,
          Handle.frees, NamedRegistry.registered_unregister_iff]
  | memzone memzone =>
      simp only [Handle.drop, registered_memzoneDrop_iff, Handle.frees,
        List.mem_singleton, ne_eq]

/-- Dropping handles in any order unregisters exactly what one of them frees. -/
theorem registered_dropAll_iff
    {handles : List Handle}
    {eal : Eal}
    {kind : Kind}
    {name : String}
    {address : Address} :
    (registry (dropAll handles eal) kind).Registered name address ↔
      (registry eal kind).Registered name address ∧
        ∀ handle ∈ handles, (kind, address) ∉ handle.frees := by
  induction handles generalizing eal with
  | nil =>
      simp [dropAll]
  | cons first rest inductionHypothesis =>
      have dropped :
          dropAll (first :: rest) eal = dropAll rest (first.drop eal) :=
        rfl
      rw [dropped, inductionHypothesis, registered_drop_iff,
        List.forall_mem_cons, and_assoc]

/-- A lookup registers nothing. -/
theorem registered_of_call
    {lookup : Lookup}
    {eal : Eal}
    {kind : Kind}
    {name : String}
    {address : Address}
    (registered :
      (registry (lookup.call eal).2 kind).Registered name address) :
    (registry eal kind).Registered name address := by
  cases lookup with
  | channel clientId =>
      simp only [Lookup.call, Channel.lookup] at registered
      split at registered
      · exact registered
      · split at registered
        · exact (registered_ringDrop_iff.mp registered).1
        · exact registered
  | ring rtype clientId =>
      exact registered
  | mempool name =>
      exact registered
  | memzone name =>
      exact registered

/-- No sequence of lookups registers anything. -/
theorem registered_of_lookupAll
    {lookups : List Lookup}
    {eal : Eal}
    {kind : Kind}
    {name : String}
    {address : Address}
    (registered :
      (registry (lookupAll lookups eal).2 kind).Registered name address) :
    (registry eal kind).Registered name address := by
  induction lookups generalizing eal with
  | nil =>
      exact registered
  | cons lookup rest inductionHypothesis =>
      have afterFirst :
          (registry (lookup.call eal).2 kind).Registered name address := by
        apply inductionHypothesis
        cases called : lookup.call eal with
        | mk result after =>
            cases result <;> simpa [lookupAll, called] using registered
      exact registered_of_call afterFirst

/-! ## What one lookup does -/

/-- A lookup that finds nothing fails and leaves everything as it was. -/
theorem call_of_misses
    {lookup : Lookup}
    {eal : Eal}
    (misses : Misses eal lookup) :
    ∃ error, lookup.call eal = (.error error, eal) := by
  cases lookup with
  | channel clientId =>
      have failed := Ring.lookup_eq_error_iff.mpr misses
      exact ⟨_, by
        simp only [Lookup.call, Channel.lookup, failed]
        rfl⟩
  | ring rtype clientId =>
      have failed := Ring.lookup_eq_error_iff.mpr misses
      exact ⟨_, by
        simp only [Lookup.call, failed]
        rfl⟩
  | mempool name =>
      rcases lookupNamed_cases eal.mempoolTailq Mempool.mk .noEntries name with
        ⟨_, error, failed⟩ | ⟨raw, converted, registered, _⟩
      · exact ⟨error, by
          simp only [Lookup.call, Mempool.lookup, Dpdk.rteMempoolLookup, failed]
          rfl⟩
      · exact (misses converted raw registered).elim
  | memzone name =>
      rcases lookupNamed_cases eal.memzones Memzone.mk (.new eal.errno) name with
        ⟨_, error, failed⟩ | ⟨raw, converted, registered, _⟩
      · exact ⟨error, by
          simp only [Lookup.call, Memzone.lookup, Dpdk.rteMemzoneLookup, failed]
          rfl⟩
      · exact (misses converted raw registered).elim

/-- A registered object that a lookup frees at once, or hands over for freeing. -/
def Claims
    (lookup : Lookup)
    (eal : Eal)
    (kind : Kind)
    (name : String)
    (address : Address) :
    Prop :=
  (registry eal kind).Registered name address ∧
    ((∃ error after,
        lookup.call eal = (.error error, after) ∧
          ¬ (registry after kind).Registered name address) ∨
      ∃ handle after,
        lookup.call eal = (.ok handle, after) ∧
          (kind, address) ∈ handle.frees)

/--
Half a channel is freed on the spot: `?` drops the E2C handle when the C2E
lookup fails.  A whole channel is freed with its handle.
-/
theorem claims_of_channel
    {clientId : UInt16}
    {eal : Eal}
    {address : Address}
    (registered :
      eal.ringTailq.Registered
        (Ring.registeredName .e2c clientId) address) :
    Claims (.channel clientId) eal .ring
      (Ring.registeredName .e2c clientId) address := by
  have foundE2c :
      Ring.lookup .e2c clientId eal = .ok ⟨clientId, .e2c, address⟩ :=
    Ring.lookup_eq_ok_iff.mpr ⟨rfl, registered⟩
  refine ⟨registered, ?_⟩
  cases secondLookup : Ring.lookup .c2e clientId eal with
  | error error =>
      refine Or.inl ⟨error, Ring.drop ⟨clientId, .e2c, address⟩ eal, ?_, ?_⟩
      · simp only [Lookup.call, Channel.lookup, foundE2c, secondLookup]
        rfl
      · rw [registered_ringDrop_iff]
        simp
  | ok clientToEngine =>
      refine Or.inr
        ⟨.channel ⟨clientToEngine, ⟨clientId, .e2c, address⟩⟩, eal, ?_, ?_⟩
      · simp only [Lookup.call, Channel.lookup, foundE2c, secondLookup]
        rfl
      · simp [Handle.frees]

/-- A lookup that finds something will have freed it in the end. -/
theorem claims_of_not_misses
    {lookup : Lookup}
    {eal : Eal}
    (finds : ¬ Misses eal lookup) :
    ∃ kind name address, Claims lookup eal kind name address := by
  cases lookup with
  | channel clientId =>
      simp only [Misses, not_forall, not_not] at finds
      obtain ⟨address, registered⟩ := finds
      exact ⟨_, _, _, claims_of_channel registered⟩
  | ring rtype clientId =>
      simp only [Misses, not_forall, not_not] at finds
      obtain ⟨address, registered⟩ := finds
      have found :
          Ring.lookup rtype clientId eal = .ok ⟨clientId, rtype, address⟩ :=
        Ring.lookup_eq_ok_iff.mpr ⟨rfl, registered⟩
      refine ⟨.ring, _, address, registered,
        Or.inr ⟨.ring ⟨clientId, rtype, address⟩, eal, ?_, ?_⟩⟩
      · simp only [Lookup.call, found]
        rfl
      · simp [Handle.frees]
  | mempool name =>
      rcases lookupNamed_cases eal.mempoolTailq Mempool.mk .noEntries name with
        ⟨unregistered, _⟩ | ⟨raw, _, registered, found⟩
      · exact (finds unregistered).elim
      · refine ⟨.mempool, name, raw, registered,
          Or.inr ⟨.mempool ⟨raw⟩, eal, ?_, ?_⟩⟩
        · simp only [Lookup.call, Mempool.lookup, Dpdk.rteMempoolLookup, found]
          rfl
        · simp [Handle.frees]
  | memzone name =>
      rcases lookupNamed_cases eal.memzones Memzone.mk (.new eal.errno) name with
        ⟨unregistered, _⟩ | ⟨raw, _, registered, found⟩
      · exact (finds unregistered).elim
      · refine ⟨.memzone, name, raw, registered,
          Or.inr ⟨.memzone ⟨raw⟩, eal, ?_, ?_⟩⟩
        · simp only [Lookup.call, Memzone.lookup, Dpdk.rteMemzoneLookup, found]
          rfl
        · simp [Handle.frees]

/-! ## Whole runs -/

/-- Nothing registered is freed by the lookups or by one of their handles. -/
def Spares (lookups : List Lookup) (eal : Eal) : Prop :=
  ∀ kind name address,
    (registry eal kind).Registered name address →
    (registry (lookupAll lookups eal).2 kind).Registered name address ∧
      ∀ handle ∈ (lookupAll lookups eal).1, (kind, address) ∉ handle.frees

/-- What a lookup claims is not spared, whatever is looked up later. -/
theorem not_spares_of_claims
    {lookup : Lookup}
    {eal : Eal}
    {kind : Kind}
    {name : String}
    {address : Address}
    (claims : Claims lookup eal kind name address)
    (rest : List Lookup) :
    ¬ Spares (lookup :: rest) eal := by
  intro spares
  obtain ⟨registered, freed⟩ := claims
  obtain ⟨stillRegistered, notFreed⟩ := spares kind name address registered
  rcases freed with
    ⟨error, after, failed, unregistered⟩ | ⟨handle, after, found, frees⟩
  · simp only [lookupAll, failed] at stillRegistered
    exact unregistered (registered_of_lookupAll stillRegistered)
  · simp only [lookupAll, found] at notFreed
    exact notFreed handle List.mem_cons_self frees

/-- A sequence of lookups spares everything exactly when all of them miss. -/
theorem spares_iff
    {lookups : List Lookup}
    {eal : Eal} :
    Spares lookups eal ↔ ∀ lookup ∈ lookups, Misses eal lookup := by
  induction lookups with
  | nil =>
      simp [Spares, lookupAll]
  | cons lookup rest inductionHypothesis =>
      rw [List.forall_mem_cons]
      by_cases misses : Misses eal lookup
      · obtain ⟨error, failed⟩ := call_of_misses misses
        have unchanged :
            lookupAll (lookup :: rest) eal = lookupAll rest eal := by
          simp only [lookupAll, failed]
        rw [and_iff_right misses, ← inductionHypothesis]
        simp only [Spares, unchanged]
      · obtain ⟨kind, name, address, claims⟩ := claims_of_not_misses misses
        simp only [misses, false_and, iff_false]
        exact not_spares_of_claims claims rest

/-- In whatever order the handles are dropped, what is left is what was spared. -/
theorem preserved_dropAll_iff
    {lookups : List Lookup}
    {eal : Eal}
    {order : List Handle}
    (everyHandle : order.Perm (lookupAll lookups eal).1) :
    Preserved eal (dropAll order (lookupAll lookups eal).2) ↔
      Spares lookups eal := by
  simp only [Preserved, Spares, registered_dropAll_iff, everyHandle.mem_iff]

/--
A secondary process that looks objects up and then drops its handles, in any
order, leaves everything registered exactly when it found nothing at all.
-/
theorem preserved_iff_all_miss
    (lookups : List Lookup)
    (eal : Eal)
    (order : List Handle)
    (everyHandle : order.Perm (lookupAll lookups eal).1) :
    Preserved eal (dropAll order (lookupAll lookups eal).2) ↔
      ∀ lookup ∈ lookups, Misses eal lookup := by
  rw [preserved_dropAll_iff everyHandle, spares_iff]

/-- The environment after the primary process created the channel of client 1. -/
def withChannel : Eal :=
  (Channel.new 1 (.ok 10) (.ok 20) Eal.initial).2

/-- A found channel and a missing mempool, with the handles dropped last to first. -/
theorem preserved_channel_and_mempool :
    Preserved withChannel
        (dropAll
          (lookupAll [.channel 1, .mempool "G_MEMPOOL"] withChannel).1.reverse
          (lookupAll [.channel 1, .mempool "G_MEMPOOL"] withChannel).2) ↔
      ∀ lookup ∈ [Lookup.channel 1, .mempool "G_MEMPOOL"],
        Misses withChannel lookup :=
  preserved_iff_all_miss _ _ _ (List.reverse_perm _)

/-- Looking the channel of client 1 up and dropping it unregisters both its rings. -/
theorem not_preserved_channel_lookup :
    ¬ Preserved withChannel
      (dropAll (lookupAll [.channel 1] withChannel).1
        (lookupAll [.channel 1] withChannel).2) := by
  have registered :
      withChannel.ringTailq.Registered (Ring.registeredName .e2c 1) 10 := by
    decide
  rw [preserved_dropAll_iff (List.Perm.refl _)]
  exact not_spares_of_claims (claims_of_channel registered) []

end VDataplane.LookupOwnership
