import VDataplane.Memring

namespace VDataplane

/-!
# What creating, finding and dropping rings does to the environment

One specification lemma for each operation.  The modules above use these
instead of unfolding the operations, so that a change to a wrapper is absorbed
here.
-/

namespace Ring

/-- Creating a ring changes nothing but `rte_errno`, or registers one fresh, empty ring. -/
theorem new_cases
    (clientId : UInt16)
    (rtype : RingType)
    (allocation : Dpdk.Allocation)
    (eal : Eal) :
    (∃ errno,
      Ring.new clientId rtype allocation eal =
        (.error (.new errno), { eal with errno := errno })) ∨
    ∃ address ringTailq,
      allocation = .ok address ∧
        eal.ringTailq.register?
            (registeredName rtype clientId) address = some ringTailq ∧
        Ring.new clientId rtype allocation eal =
          (.ok ⟨clientId, rtype, address⟩, {
            eal with
            ringTailq := ringTailq
            rings :=
              Function.update eal.rings address
                (BoundedFifo.empty (ringCapacity - 1))
          }) := by
  rcases Dpdk.rteRingCreate_cases (registeredName rtype clientId)
      ringCapacity allocation eal with
    ⟨errno, failed⟩ | ⟨address, ringTailq, granted, registration, created⟩
  · exact Or.inl ⟨errno, by simp [Ring.new, failed]⟩
  · exact Or.inr ⟨address, ringTailq, granted, registration, by
      simp [Ring.new, created]⟩

/-- A creation that is granted an unused address for an unregistered name succeeds. -/
theorem new_of_fresh
    {clientId : UInt16}
    {rtype : RingType}
    {address : Address}
    {eal : Eal}
    (nameFresh :
      ∀ other,
        ¬ eal.ringTailq.Registered (registeredName rtype clientId) other)
    (addressFresh :
      ∀ name, ¬ eal.ringTailq.Registered name address) :
    ∃ ringTailq,
      eal.ringTailq.register?
          (registeredName rtype clientId) address = some ringTailq ∧
        Ring.new clientId rtype (.ok address) eal =
          (.ok ⟨clientId, rtype, address⟩, {
            eal with
            ringTailq := ringTailq
            rings :=
              Function.update eal.rings address
                (BoundedFifo.empty (ringCapacity - 1))
          }) := by
  obtain ⟨ringTailq, registration⟩ :=
    Option.isSome_iff_exists.mp
      (NamedRegistry.register?_isSome_iff.mpr ⟨nameFresh, addressFresh⟩)
  exact ⟨ringTailq, registration, by
    simp [Ring.new, Dpdk.rteRingCreate, registration]⟩

/-- A lookup finds exactly the registered ring of that name. -/
theorem lookup_eq_ok_iff
    {rtype : RingType}
    {clientId : UInt16}
    {eal : Eal}
    {ring : Ring} :
    Ring.lookup rtype clientId eal = .ok ring ↔
      ring = ⟨clientId, rtype, ring.raw⟩ ∧
        eal.ringTailq.Registered
          (registeredName rtype clientId) ring.raw := by
  rw [← NamedRegistry.find?_eq_some_iff]
  unfold Ring.lookup Dpdk.rteRingLookup
  rw [toCstring_registeredName]
  cases found : eal.ringTailq.find? (registeredName rtype clientId) with
  | none =>
      simp [found]
  | some raw =>
      obtain ⟨ringClient, ringDirection, ringRaw⟩ := ring
      simp only [found, fromPtr, Except.ok.injEq, Ring.mk.injEq,
        Option.some.injEq, and_true]
      constructor
      · rintro ⟨rfl, rfl, rfl⟩
        exact ⟨⟨rfl, rfl⟩, rfl⟩
      · rintro ⟨⟨rfl, rfl⟩, rfl⟩
        exact ⟨rfl, rfl, rfl⟩

/-- A lookup fails exactly when no ring of that name is registered. -/
theorem lookup_eq_error_iff
    {rtype : RingType}
    {clientId : UInt16}
    {eal : Eal} :
    Ring.lookup rtype clientId eal = .error .noEntries ↔
      ∀ address,
        ¬ eal.ringTailq.Registered
          (registeredName rtype clientId) address := by
  rw [← NamedRegistry.find?_eq_none_iff]
  unfold Ring.lookup Dpdk.rteRingLookup
  rw [toCstring_registeredName]
  cases found : eal.ringTailq.find? (registeredName rtype clientId) with
  | none =>
      simp [found]
  | some raw =>
      simp [found, fromPtr]

/-- An enqueue is refused by a full ring, and otherwise appends the packet. -/
theorem enqueue_cases
    (ring : Ring)
    (pkt : Mbuf)
    (eal : Eal) :
    ((eal.rings ring.raw).push? pkt.intoPtr = none ∧
      ring.enqueue pkt eal = (.error (.new eal.errno), eal)) ∨
    ∃ pushed,
      (eal.rings ring.raw).push? pkt.intoPtr = some pushed ∧
        ring.enqueue pkt eal =
          (.ok (), eal.setRing ring.raw pushed) := by
  rcases Dpdk.rteRingEnqueue_cases ring.raw pkt.intoPtr eal with
    ⟨full, refused⟩ | ⟨pushed, accepted, enqueued⟩
  · exact Or.inl ⟨full, by
      simp [Ring.enqueue, refused, Errno.enobufs]⟩
  · exact Or.inr ⟨pushed, accepted, by
      simp [Ring.enqueue, enqueued]⟩

/--
A dequeue finds an empty ring, or removes the oldest packet from the ring; in
both cases the caller's buffer is the one it passed in.
-/
theorem dequeue_cases
    (ring : Ring)
    (pkt : Mbuf)
    (eal : Eal) :
    ((eal.rings ring.raw).pop? = none ∧
      ring.dequeue pkt eal = (.error (.new eal.errno), pkt, eal)) ∨
    ∃ oldest popped,
      (eal.rings ring.raw).pop? = some (oldest, popped) ∧
        ring.dequeue pkt eal =
          (.ok (), pkt, eal.setRing ring.raw popped) := by
  rcases Dpdk.rteRingDequeue_cases ring.raw pkt.getPtr eal with
    ⟨isEmpty, failed⟩ | ⟨oldest, popped, taken, dequeued⟩
  · exact Or.inl ⟨isEmpty, by
      simp [Ring.dequeue, failed, Errno.enoent]⟩
  · exact Or.inr ⟨oldest, popped, taken, by
      simp [Ring.dequeue, dequeued]⟩

/-- A bulk enqueue passes no packet at all, so it returns 0 and changes nothing. -/
theorem enqueueBulk_eq
    (ring : Ring)
    (pkts : List Mbuf)
    (eal : Eal) :
    ring.enqueueBulk pkts eal = (0, eal) := by
  simp [Ring.enqueueBulk, Dpdk.rteRingEnqueueBulk]

/-- How many packets a burst takes from a ring for a vector of buffers. -/
def burstCount
    (ring : Ring)
    (pkts : List Mbuf)
    (eal : Eal) :
    Nat :=
  min (pkts.length % 2 ^ 32) (eal.rings ring.raw).entries.length

/--
A burst takes packets from the head of the ring; the caller's vector is the
one it passed in.
-/
theorem takeBurst_eq
    (ring : Ring)
    (pkts : List Mbuf)
    (eal : Eal) :
    ring.takeBurst pkts eal =
      (ring.burstCount pkts eal, pkts,
        eal.setRing ring.raw
          ((eal.rings ring.raw).drop (pkts.length % 2 ^ 32))) := by
  simp [Ring.takeBurst, Dpdk.rteRingDequeueBurst, burstCount]

/-- There is memory for the pointers of a burst. -/
def BurstFits
    (pkts : List Mbuf)
    (rxBurstMax : UInt64)
    (allocated : Bool) :
    Prop :=
  PtrsFit (max rxBurstMax.toNat pkts.length) allocated

instance
    (pkts : List Mbuf)
    (rxBurstMax : UInt64)
    (allocated : Bool) :
    Decidable (BurstFits pkts rxBurstMax allocated) :=
  inferInstanceAs (Decidable (PtrsFit _ _))

/-- With memory for its pointers, `dequeue_burst` takes a burst. -/
theorem dequeueBurst_of_fits
    (ring : Ring)
    {pkts : List Mbuf}
    {rxBurstMax : UInt64}
    {allocated : Bool}
    (fits : BurstFits pkts rxBurstMax allocated)
    (eal : Eal) :
    ring.dequeueBurst pkts rxBurstMax allocated eal =
      .ok (ring.takeBurst pkts eal) := by
  rw [dequeueBurst, ptrsWithCapacity_of_fit fits]

/-- Without it, `dequeue_burst` ends the program. -/
theorem dequeueBurst_of_not_fits
    (ring : Ring)
    {pkts : List Mbuf}
    {rxBurstMax : UInt64}
    {allocated : Bool}
    (noFit : ¬ BurstFits pkts rxBurstMax allocated)
    (eal : Eal) :
    ∃ fault,
      ring.dequeueBurst pkts rxBurstMax allocated eal = .error fault := by
  obtain ⟨fault, failed⟩ := ptrsWithCapacity_of_not_fit noFit
  exact ⟨fault, by rw [dequeueBurst, failed]⟩

end Ring

namespace Channel

/-- The outcome of a successful `Channel::new`. -/
structure Created
    (clientId : UInt16)
    (eal : Eal)
    (channel : Channel)
    (after : Eal) :
    Prop where
  handle :
    ∀ rtype,
      channel.ring rtype = ⟨clientId, rtype, (channel.ring rtype).raw⟩
  nameFresh :
    ∀ rtype address,
      ¬ eal.ringTailq.Registered
        (Ring.registeredName rtype clientId) address
  addressFresh :
    ∀ rtype name,
      ¬ eal.ringTailq.Registered name (channel.ring rtype).raw
  apart :
    channel.engineToClient.raw ≠ channel.clientToEngine.raw
  registered :
    ∀ name address,
      after.ringTailq.Registered name address ↔
        eal.ringTailq.Registered name address ∨
          ∃ rtype,
            name = Ring.registeredName rtype clientId ∧
              address = (channel.ring rtype).raw
  isEmpty :
    ∀ rtype,
      after.rings (channel.ring rtype).raw =
        BoundedFifo.empty (Ring.ringCapacity - 1)
  otherRings :
    ∀ address,
      (∀ rtype, address ≠ (channel.ring rtype).raw) →
      after.rings address = eal.rings address
  pools :
    after.pools = eal.pools

/-- The outcome of a failed `Channel::new`: every registered object is as it was. -/
structure NotCreated
    (eal after : Eal) :
    Prop where
  ringTailq :
    after.ringTailq = eal.ringTailq
  rings :
    ∀ name address,
      eal.ringTailq.Registered name address →
      after.rings address = eal.rings address
  pools :
    after.pools = eal.pools

/-- Registering the two rings of a client one after the other creates its channel. -/
theorem created_of_registered
    {clientId : UInt16}
    {eal : Eal}
    {first second : Address}
    {withFirst withBoth : NamedRegistry String Address}
    (firstFresh :
      eal.ringTailq.register? (Ring.registeredName .e2c clientId) first =
        some withFirst)
    (secondFresh :
      withFirst.register? (Ring.registeredName .c2e clientId) second =
        some withBoth) :
    Created clientId eal
      ⟨⟨clientId, .c2e, second⟩, ⟨clientId, .e2c, first⟩⟩ {
        eal with
        ringTailq := withBoth
        rings :=
          Function.update
            (Function.update eal.rings first
              (BoundedFifo.empty (Ring.ringCapacity - 1)))
            second (BoundedFifo.empty (Ring.ringCapacity - 1))
      } := by
  have firstRegistered := NamedRegistry.registered_of_register? firstFresh
  obtain ⟨e2cNameFresh, firstAddressFresh⟩ :=
    NamedRegistry.register?_isSome_iff.mp
      (Option.isSome_of_eq_some firstFresh)
  have bothRegistered := NamedRegistry.registered_of_register? secondFresh
  obtain ⟨c2eNameFresh, secondAddressFresh⟩ :=
    NamedRegistry.register?_isSome_iff.mp
      (Option.isSome_of_eq_some secondFresh)
  have apart : first ≠ second := by
    rintro rfl
    exact secondAddressFresh _
      ((firstRegistered _ _).mpr (Or.inr ⟨rfl, rfl⟩))
  refine {
    handle := ?_
    nameFresh := ?_
    addressFresh := ?_
    apart := apart
    registered := ?_
    isEmpty := ?_
    otherRings := ?_
    pools := rfl
  }
  · intro rtype
    cases rtype <;> rfl
  · intro rtype address registered
    cases rtype with
    | e2c =>
        exact e2cNameFresh address registered
    | c2e =>
        exact c2eNameFresh address
          ((firstRegistered _ _).mpr (Or.inl registered))
  · intro rtype name registered
    cases rtype with
    | e2c =>
        exact firstAddressFresh name registered
    | c2e =>
        exact secondAddressFresh name
          ((firstRegistered _ _).mpr (Or.inl registered))
  · intro name address
    simp only [bothRegistered, firstRegistered, or_assoc]
    refine or_congr_right ?_
    constructor
    · rintro (isFirst | isSecond)
      · exact ⟨.e2c, isFirst⟩
      · exact ⟨.c2e, isSecond⟩
    · rintro ⟨rtype, named⟩
      cases rtype with
      | e2c =>
          exact Or.inl named
      | c2e =>
          exact Or.inr named
  · intro rtype
    cases rtype with
    | e2c =>
        simp [Channel.ring, Function.update_of_ne apart]
    | c2e =>
        simp [Channel.ring]
  · intro address elsewhere
    have notFirst : address ≠ first := elsewhere .e2c
    have notSecond : address ≠ second := elsewhere .c2e
    simp [Function.update_of_ne notSecond, Function.update_of_ne notFirst]

/--
Creating a channel either fails, after freeing a first ring that it had
already created, or registers the two rings of the client.
-/
theorem new_cases
    (clientId : UInt16)
    (e2c c2e : Dpdk.Allocation)
    (eal : Eal) :
    (∃ error after,
      Channel.new clientId e2c c2e eal = (.error error, after) ∧
        NotCreated eal after) ∨
    ∃ channel after,
      Channel.new clientId e2c c2e eal = (.ok channel, after) ∧
        e2c = .ok channel.engineToClient.raw ∧
        c2e = .ok channel.clientToEngine.raw ∧
        Created clientId eal channel after := by
  rcases Ring.new_cases clientId .e2c e2c eal with
    ⟨errno, failed⟩ | ⟨first, withFirst, firstGranted, firstFresh, firstNew⟩
  · refine Or.inl ⟨_, _, by
      simp only [Channel.new, failed]
      rfl, ?_⟩
    exact ⟨rfl, fun _ _ _ => rfl, rfl⟩
  · rcases Ring.new_cases clientId .c2e c2e {
        eal with
        ringTailq := withFirst
        rings :=
          Function.update eal.rings first
            (BoundedFifo.empty (Ring.ringCapacity - 1))
      } with
      ⟨errno, failed⟩ |
        ⟨second, withBoth, secondGranted, secondFresh, secondNew⟩
    · -- The `?` on the second creation drops the ring of the first.
      refine Or.inl ⟨_, _, by
        simp only [Channel.new, firstNew, failed]
        rfl, ?_⟩
      obtain ⟨_, firstAddressFresh⟩ :=
        NamedRegistry.register?_isSome_iff.mp
          (Option.isSome_of_eq_some firstFresh)
      refine ⟨NamedRegistry.unregister_of_register? firstFresh, ?_, rfl⟩
      intro name address registered
      refine Function.update_of_ne ?_ _ _
      rintro rfl
      exact firstAddressFresh name registered
    · exact Or.inr ⟨_, _, by
        simp only [Channel.new, firstNew, secondNew], firstGranted,
        secondGranted,
        created_of_registered firstFresh secondFresh⟩

/-- Both ring creations of `Channel::new` succeed. -/
def Creatable
    (clientId : UInt16)
    (e2c c2e : Dpdk.Allocation)
    (eal : Eal) :
    Prop :=
  ∃ first second,
    e2c = .ok first ∧ c2e = .ok second ∧ first ≠ second ∧
      (∀ name, ¬ eal.ringTailq.Registered name first) ∧
      (∀ name, ¬ eal.ringTailq.Registered name second) ∧
      ∀ rtype address,
        ¬ eal.ringTailq.Registered
          (Ring.registeredName rtype clientId) address

/-- A channel whose names are unregistered is created once two unused addresses are granted. -/
theorem new_of_fresh
    {clientId : UInt16}
    {first second : Address}
    {eal : Eal}
    (nameFresh :
      ∀ rtype address,
        ¬ eal.ringTailq.Registered
          (Ring.registeredName rtype clientId) address)
    (firstFresh : ∀ name, ¬ eal.ringTailq.Registered name first)
    (secondFresh : ∀ name, ¬ eal.ringTailq.Registered name second)
    (different : first ≠ second) :
    ∃ channel after,
      Channel.new clientId (.ok first) (.ok second) eal =
        (.ok channel, after) := by
  obtain ⟨withFirst, registration, firstNew⟩ :=
    Ring.new_of_fresh (nameFresh .e2c) firstFresh
  have firstRegistered := NamedRegistry.registered_of_register? registration
  have c2eFresh :
      ∀ other,
        ¬ withFirst.Registered
          (Ring.registeredName .c2e clientId) other := by
    intro other registered
    rcases (firstRegistered _ _).mp registered with earlier | ⟨sameName, _⟩
    · exact nameFresh .c2e other earlier
    · simp [Ring.registeredName_inj] at sameName
  have secondStillFresh : ∀ name, ¬ withFirst.Registered name second := by
    intro name registered
    rcases (firstRegistered _ _).mp registered with
      earlier | ⟨_, sameAddress⟩
    · exact secondFresh name earlier
    · exact different sameAddress.symm
  obtain ⟨withBoth, _, secondNew⟩ :=
    @Ring.new_of_fresh clientId .c2e second {
      eal with
      ringTailq := withFirst
      rings :=
        Function.update eal.rings first
          (BoundedFifo.empty (Ring.ringCapacity - 1))
    } c2eFresh secondStillFresh
  exact ⟨_, _, by
    simp only [Channel.new, firstNew]
    rw [secondNew]⟩

/-- A creation succeeds exactly when both of its ring creations do. -/
theorem new_isOk_iff
    {clientId : UInt16}
    {e2c c2e : Dpdk.Allocation}
    {eal : Eal} :
    (∃ channel after,
        Channel.new clientId e2c c2e eal = (.ok channel, after)) ↔
      Creatable clientId e2c c2e eal := by
  constructor
  · rintro ⟨channel, after, succeeded⟩
    rcases new_cases clientId e2c c2e eal with
      ⟨_, _, failed, _⟩ | ⟨created, _, _, rfl, rfl, isCreated⟩
    · rw [failed] at succeeded
      simp at succeeded
    · exact ⟨_, _, rfl, rfl, isCreated.apart, isCreated.addressFresh .e2c,
        isCreated.addressFresh .c2e, isCreated.nameFresh⟩
  · rintro ⟨_, _, rfl, rfl, different, firstFresh, secondFresh, nameFresh⟩
    exact new_of_fresh nameFresh firstFresh secondFresh different

/-- Dropping a channel unregisters its two rings and touches nothing else. -/
theorem registered_drop_iff
    {channel : Channel}
    {eal : Eal}
    {name : String}
    {address : Address} :
    (channel.drop eal).ringTailq.Registered name address ↔
      eal.ringTailq.Registered name address ∧
        ∀ rtype, address ≠ (channel.ring rtype).raw := by
  simp only [Channel.drop, Ring.drop, Dpdk.rteRingFree,
    NamedRegistry.registered_unregister_iff, and_assoc]
  refine and_congr_right ?_
  intro registered
  constructor
  · rintro ⟨notC2e, notE2c⟩ rtype
    cases rtype with
    | c2e =>
        exact notC2e
    | e2c =>
        exact notE2c
  · intro elsewhere
    exact ⟨elsewhere .c2e, elsewhere .e2c⟩

@[simp] theorem drop_rings
    (channel : Channel)
    (eal : Eal) :
    (channel.drop eal).rings = eal.rings :=
  rfl

@[simp] theorem drop_pools
    (channel : Channel)
    (eal : Eal) :
    (channel.drop eal).pools = eal.pools :=
  rfl

/-- Whoever looks a fresh channel up holds the same two rings as its creator. -/
theorem lookup_of_created
    {clientId : UInt16}
    {eal after : Eal}
    {channel : Channel}
    (created : Created clientId eal channel after) :
    Channel.lookup clientId after = (.ok channel, after) := by
  have found :
      ∀ rtype,
        Ring.lookup rtype clientId after = .ok (channel.ring rtype) := by
    intro rtype
    rw [Ring.lookup_eq_ok_iff]
    exact ⟨created.handle rtype,
      (created.registered _ _).mpr (Or.inr ⟨rtype, rfl, rfl⟩)⟩
  simp only [Channel.lookup, found]
  rfl

end Channel

/--
A bulk receive finds no channel, takes a burst off the client's ring, or ends
the program for want of memory.
-/
theorem RingClientMap.receiveBulk_cases
    (map : RingClientMap)
    (key : UInt16)
    (pkts : List Mbuf)
    (rxBurstMax : UInt64)
    (allocated : Bool)
    (eal : Eal) :
    (map.ringmap key = none ∧
      map.receiveBulk key pkts rxBurstMax allocated eal =
        .ok (.error (.clientNotFound key), pkts, eal)) ∨
    (∃ channel,
      map.ringmap key = some channel ∧
        Ring.BurstFits pkts rxBurstMax allocated ∧
        map.receiveBulk key pkts rxBurstMax allocated eal =
          .ok (.ok (channel.clientToEngine.burstCount pkts eal), pkts,
            eal.setRing channel.clientToEngine.raw
              ((eal.rings channel.clientToEngine.raw).drop
                (pkts.length % 2 ^ 32)))) ∨
    ∃ channel,
      map.ringmap key = some channel ∧
        ¬ Ring.BurstFits pkts rxBurstMax allocated ∧
        ∃ fault,
          map.receiveBulk key pkts rxBurstMax allocated eal =
            .error fault := by
  cases present : map.ringmap key with
  | none =>
      exact Or.inl ⟨rfl, by simp only [receiveBulk, present]⟩
  | some channel =>
      by_cases fits : Ring.BurstFits pkts rxBurstMax allocated
      · have taken := channel.clientToEngine.dequeueBurst_of_fits fits eal
        rw [Ring.takeBurst_eq] at taken
        exact Or.inr (Or.inl ⟨channel, rfl, fits, by
          simp only [receiveBulk, present, Channel.recvFromClientBulk,
            taken]⟩)
      · obtain ⟨fault, failed⟩ :=
          channel.clientToEngine.dequeueBurst_of_not_fits fits eal
        exact Or.inr (Or.inr ⟨channel, rfl, fits, fault, by
          simp only [receiveBulk, present, Channel.recvFromClientBulk,
            failed]⟩)

end VDataplane
