import VDataplane.Pools
import VDataplane.RingRegistry

namespace VDataplane.ClientIsolation

open GuardedRun
open RingRegistry (Clients)

/-!
# Isolation of clients

An operation on one client of a `RingClientMap` leaves every other client
alone: its presence, its two rings and the packets queued in them.  The reason
is that the rings of different clients have different names, so DPDK keeps them
at different addresses; the drops that the operations imply free rings of the
operation's own client only.
-/

/-- One call of an operation of the map, with DPDK's answers to its creations. -/
inductive Call where
  | addClient (clientId : UInt16) (e2c c2e : Dpdk.Allocation)
  | removeClient (clientId : UInt16)
  | send (key : UInt16) (pkt : Mbuf)
  | receive (key : UInt16) (pkt : Mbuf)
  | sendBulk (key : UInt16) (pkts : List Mbuf)
  | receiveBulk
      (key : UInt16)
      (pkts : List Mbuf)
      (rxBurstMax : UInt64)
      (allocated : Bool)

/-- The client that a call is about. -/
def Call.client : Call → UInt16
  | .addClient clientId _ _ =>
      clientId
  | .removeClient clientId =>
      clientId
  | .send key _ =>
      key
  | .receive key _ =>
      key
  | .sendBulk key _ =>
      key
  | .receiveBulk key _ _ _ =>
      key

/-- What a call leaves behind, whatever its result; a fault leaves everything as it was. -/
def execute (clients : Clients) : Call → Clients
  | .addClient clientId e2c c2e =>
      let (_, map, eal) := clients.map.addClient clientId e2c c2e clients.eal
      ⟨map, eal⟩
  | .removeClient clientId =>
      let (map, eal) := clients.map.removeClient clientId clients.eal
      ⟨map, eal⟩
  | .send key pkt =>
      let (_, eal) := clients.map.send key pkt clients.eal
      ⟨clients.map, eal⟩
  | .receive key pkt =>
      let (_, _, eal) := clients.map.receive key pkt clients.eal
      ⟨clients.map, eal⟩
  | .sendBulk key pkts =>
      let (_, eal) := clients.map.sendBulk key pkts clients.eal
      ⟨clients.map, eal⟩
  | .receiveBulk key pkts rxBurstMax allocated =>
      match
        clients.map.receiveBulk key pkts rxBurstMax allocated clients.eal with
      | .error _ =>
          clients
      | .ok (_, _, eal) =>
          ⟨clients.map, eal⟩

/-- A call, or whatever the processes at the other ends do to rings and mempools. -/
inductive Event where
  | call (call : Call)
  | traffic (rings : Address → RteRing) (pools : Address → List RteMbuf)

/-- The state after an event. -/
def step (clients : Clients) : Event → Clients
  | .call call =>
      execute clients call
  | .traffic rings pools =>
      ⟨clients.map, { clients.eal with rings := rings, pools := pools }⟩

/-- A client's place in the map, its registered rings and their packets are the same. -/
structure Unaffected
    (clientId : UInt16)
    (before after : Clients) :
    Prop where
  channel :
    after.map.ringmap clientId = before.map.ringmap clientId
  registered :
    ∀ rtype address,
      after.eal.ringTailq.Registered
          (Ring.registeredName rtype clientId) address ↔
        before.eal.ringTailq.Registered
          (Ring.registeredName rtype clientId) address
  queued :
    ∀ {channel},
      before.map.ringmap clientId = some channel →
      ∀ rtype,
        after.eal.rings (channel.ring rtype).raw =
          before.eal.rings (channel.ring rtype).raw

/-- Operations on packets of an absent client: no ring changes and no packet is lost. -/
structure NotFound
    (key : UInt16)
    (clients : Clients) :
    Prop where
  send :
    ∀ pkt,
      ∃ after,
        clients.map.send key pkt clients.eal =
            (.error (.clientNotFound key), after) ∧
          after.rings = clients.eal.rings ∧
          after.ringTailq = clients.eal.ringTailq ∧
          Returned [pkt.raw] clients.eal.pools after.pools
  sendBulk :
    ∀ pkts,
      ∃ after,
        clients.map.sendBulk key pkts clients.eal =
            (.error (.clientNotFound key), after) ∧
          after.rings = clients.eal.rings ∧
          after.ringTailq = clients.eal.ringTailq ∧
          Returned (pkts.map Mbuf.raw) clients.eal.pools after.pools
  receive :
    ∀ pkt,
      clients.map.receive key pkt clients.eal =
        (.error (.clientNotFound key), pkt, clients.eal)
  receiveBulk :
    ∀ pkts rxBurstMax allocated,
      clients.map.receiveBulk key pkts rxBurstMax allocated clients.eal =
        .ok (.error (.clientNotFound key), pkts, clients.eal)

/-- In this state every operation keeps to its client. -/
structure Isolated (clients : Clients) : Prop where
  unaffected :
    ∀ call other,
      other ≠ call.client →
      Unaffected other clients (execute clients call)
  notFound :
    ∀ key,
      clients.map.ringmap key = none →
      NotFound key clients

/-! ## Operations on packets -/

/-- Only rings of one client changed, and only in what they hold. -/
structure TouchesOnly
    (key : UInt16)
    (map : RingClientMap)
    (before after : Eal) :
    Prop where
  registry :
    after.ringTailq = before.ringTailq
  rings :
    ∀ address,
      (∀ channel,
        map.ringmap key = some channel →
        ∀ rtype, address ≠ (channel.ring rtype).raw) →
      after.rings address = before.rings address

namespace TouchesOnly

variable
  {key : UInt16}
  {map : RingClientMap}
  {eal : Eal}

/-- Freeing packets touches no ring. -/
theorem dropAll (pkts : List Mbuf) :
    TouchesOnly key map eal (Mbuf.dropAll pkts eal) where
  registry :=
    Mbuf.dropAll_ringTailq pkts eal
  rings address _ :=
    congrFun (Mbuf.dropAll_rings pkts eal) address

/-- Replacing what one of the client's rings holds touches that ring only. -/
theorem setRing
    {channel : Channel}
    (present : map.ringmap key = some channel)
    (rtype : RingType)
    (ring : RteRing) :
    TouchesOnly key map eal (eal.setRing (channel.ring rtype).raw ring) where
  registry :=
    rfl
  rings _ elsewhere :=
    Function.update_of_ne (elsewhere channel present rtype) _ _

/-- No change is no ring of anybody's. -/
theorem refl : TouchesOnly key map eal eal where
  registry :=
    rfl
  rings _ _ :=
    rfl

end TouchesOnly

section Operations

variable
  (map : RingClientMap)
  (key : UInt16)
  (eal : Eal)

theorem send_touchesOnly (pkt : Mbuf) :
    TouchesOnly key map eal (map.send key pkt eal).2 := by
  cases present : map.ringmap key with
  | none =>
      have dropped : TouchesOnly key map eal (pkt.drop eal) := .dropAll [pkt]
      simpa [RingClientMap.send, present] using dropped
  | some channel =>
      rcases channel.engineToClient.enqueue_cases pkt eal with
        ⟨_, refused⟩ | ⟨pushed, _, enqueued⟩
      · simpa [RingClientMap.send, present, Channel.sendToClient, refused]
          using TouchesOnly.refl
      · simpa [RingClientMap.send, present, Channel.sendToClient, Channel.ring,
          enqueued] using TouchesOnly.setRing present .e2c pushed

theorem receive_touchesOnly (pkt : Mbuf) :
    TouchesOnly key map eal (map.receive key pkt eal).2.2 := by
  cases present : map.ringmap key with
  | none =>
      simpa [RingClientMap.receive, present] using TouchesOnly.refl
  | some channel =>
      rcases channel.clientToEngine.dequeue_cases pkt eal with
        ⟨_, failed⟩ | ⟨_, popped, _, dequeued⟩
      · simpa [RingClientMap.receive, present, Channel.receiveFromClient,
          failed] using TouchesOnly.refl
      · simpa [RingClientMap.receive, present, Channel.receiveFromClient,
          Channel.ring, dequeued] using TouchesOnly.setRing present .c2e popped

theorem sendBulk_touchesOnly (pkts : List Mbuf) :
    TouchesOnly key map eal (map.sendBulk key pkts eal).2 := by
  cases present : map.ringmap key with
  | none =>
      simpa [RingClientMap.sendBulk, present] using TouchesOnly.dropAll pkts
  | some channel =>
      simpa [RingClientMap.sendBulk, present, Channel.sendToClientBulk,
        Ring.enqueueBulk_eq] using TouchesOnly.refl

theorem receiveBulk_touchesOnly
    {pkts left : List Mbuf}
    {rxBurstMax : UInt64}
    {allocated : Bool}
    {result : Except RingClientMapError Nat}
    {after : Eal}
    (received :
      map.receiveBulk key pkts rxBurstMax allocated eal =
        .ok (result, left, after)) :
    TouchesOnly key map eal after := by
  rcases map.receiveBulk_cases key pkts rxBurstMax allocated eal with
    ⟨_, notFound⟩ | ⟨channel, present, _, taken⟩ | ⟨_, _, _, fault, failed⟩
  · rw [notFound] at received
    cases received
    exact TouchesOnly.refl
  · rw [taken] at received
    cases received
    exact TouchesOnly.setRing present .c2e _
  · rw [failed] at received
    cases received

/-- Without a channel every operation on packets fails and gives its packets back. -/
theorem notFound_of_absent
    (absent : map.ringmap key = none) :
    NotFound key ⟨map, eal⟩ where
  send pkt :=
    ⟨pkt.drop eal, by simp [RingClientMap.send, absent], rfl, rfl,
      pkt.returned_drop eal⟩
  sendBulk pkts :=
    ⟨Mbuf.dropAll pkts eal, by simp [RingClientMap.sendBulk, absent],
      Mbuf.dropAll_rings pkts eal, Mbuf.dropAll_ringTailq pkts eal,
      Mbuf.returned_dropAll pkts eal⟩
  receive pkt := by
    simp [RingClientMap.receive, absent]
  receiveBulk pkts rxBurstMax allocated := by
    simp [RingClientMap.receiveBulk, absent]

end Operations

/-! ## One call -/

/-- What touches one client's rings only leaves every other client alone. -/
theorem Unaffected.of_touchesOnly
    {key other : UInt16}
    {map : RingClientMap}
    {eal after : Eal}
    (backed : map.Backed eal)
    (different : other ≠ key)
    (touches : TouchesOnly key map eal after) :
    Unaffected other ⟨map, eal⟩ ⟨map, after⟩ where
  channel :=
    rfl
  registered rtype address := by
    rw [touches.registry]
  queued := by
    intro channel present rtype
    apply touches.rings
    intro keyChannel keyPresent keyType same
    exact different (backed.raw_inj present keyPresent same).2

/-- An addition leaves every other client alone, whether it succeeds or fails. -/
theorem unaffected_addClient
    {clients : Clients}
    (backed : RingRegistry.BackedRegistry clients)
    {clientId other : UInt16}
    (different : other ≠ clientId)
    (e2c c2e : Dpdk.Allocation) :
    Unaffected other clients
      (execute clients (.addClient clientId e2c c2e)) := by
  rcases backed.addClient_cases clientId e2c c2e with
    ⟨_, error, after, failed, notCreated⟩ |
      ⟨_, newChannel, after, added, _, created⟩
  · have executed :
        execute clients (.addClient clientId e2c c2e) =
          ⟨clients.map, after⟩ := by
      simp [execute, failed]
    rw [executed]
    refine ⟨rfl, ?_, ?_⟩
    · intro rtype address
      rw [notCreated.ringTailq]
    · intro channel present rtype
      exact notCreated.rings _ _ (backed.registered present rtype)
  · have executed :
        execute clients (.addClient clientId e2c c2e) =
          ⟨⟨clients.map.ringmap.insert clientId newChannel⟩, after⟩ := by
      simp [execute, added]
    rw [executed]
    refine ⟨PartialMap.insert_other _ different _, ?_, ?_⟩
    · intro rtype address
      simp [created.registered, Ring.registeredName_inj, different]
    · intro channel present rtype
      apply created.otherRings
      intro newType same
      have registered := backed.registered present rtype
      rw [same] at registered
      exact created.addressFresh newType _ registered

/-- A removal leaves every other client alone. -/
theorem unaffected_removeClient
    {clients : Clients}
    (backed : RingRegistry.BackedRegistry clients)
    {clientId other : UInt16}
    (different : other ≠ clientId) :
    Unaffected other clients (execute clients (.removeClient clientId)) := by
  rcases clients.map.removeClient_cases clientId clients.eal with
    ⟨_, removed⟩ | ⟨removedChannel, present, removed⟩
  · have executed : execute clients (.removeClient clientId) = clients := by
      simp [execute, removed]
    rw [executed]
    exact ⟨rfl, fun _ _ => Iff.rfl, fun _ _ => rfl⟩
  · have executed :
        execute clients (.removeClient clientId) =
          ⟨⟨clients.map.ringmap.erase clientId⟩,
            removedChannel.drop clients.eal⟩ := by
      simp [execute, removed]
    rw [executed]
    refine ⟨PartialMap.erase_other _ different, ?_, fun _ _ => rfl⟩
    intro rtype address
    rw [Channel.registered_drop_iff]
    refine and_iff_left_of_imp ?_
    intro registered removedType same
    have underRemoved := backed.registered present removedType
    rw [← same] at underRemoved
    have sameName := NamedRegistry.name_unique registered underRemoved
    exact different (Ring.registeredName_inj.mp sameName).2

/-- A bulk receive leaves every other client alone, also where it faults. -/
theorem unaffected_receiveBulk
    {clients : Clients}
    (backed : RingRegistry.BackedRegistry clients)
    {key other : UInt16}
    (different : other ≠ key)
    (pkts : List Mbuf)
    (rxBurstMax : UInt64)
    (allocated : Bool) :
    Unaffected other clients
      (execute clients (.receiveBulk key pkts rxBurstMax allocated)) := by
  cases received :
      clients.map.receiveBulk key pkts rxBurstMax allocated clients.eal with
  | error fault =>
      simp only [execute, received]
      exact ⟨rfl, fun _ _ => Iff.rfl, fun _ _ => rfl⟩
  | ok outcome =>
      simp only [execute, received]
      exact .of_touchesOnly backed different
        (receiveBulk_touchesOnly _ _ _ received)

/-- In a backed map every operation keeps to its client. -/
theorem isolated_of_backed
    {clients : Clients}
    (backed : RingRegistry.BackedRegistry clients) :
    Isolated clients where
  unaffected call other different := by
    cases call with
    | addClient clientId e2c c2e =>
        exact unaffected_addClient backed different e2c c2e
    | removeClient clientId =>
        exact unaffected_removeClient backed different
    | send key pkt =>
        exact .of_touchesOnly backed different
          (send_touchesOnly _ _ _ pkt)
    | receive key pkt =>
        exact .of_touchesOnly backed different
          (receive_touchesOnly _ _ _ pkt)
    | sendBulk key pkts =>
        exact .of_touchesOnly backed different
          (sendBulk_touchesOnly _ _ _ pkts)
    | receiveBulk key pkts rxBurstMax allocated =>
        exact unaffected_receiveBulk backed different pkts rxBurstMax
          allocated
  notFound key absent :=
    notFound_of_absent _ key _ absent

/-! ## Whole runs -/

/-- Every event keeps the map backed. -/
theorem backed_step
    (clients : Clients)
    (event : Event)
    (backed : RingRegistry.BackedRegistry clients) :
    RingRegistry.BackedRegistry (step clients event) := by
  cases event with
  | traffic rings pools =>
      exact backed.of_ringTailq_eq rfl
  | call call =>
      cases call with
      | addClient clientId e2c c2e =>
          exact RingRegistry.backed_step clients (.addClient clientId e2c c2e)
            backed
      | removeClient clientId =>
          exact RingRegistry.backed_step clients (.removeClient clientId)
            backed
      | send key pkt =>
          exact backed.of_ringTailq_eq (send_touchesOnly _ _ _ pkt).registry
      | receive key pkt =>
          exact backed.of_ringTailq_eq
            (receive_touchesOnly _ _ _ pkt).registry
      | sendBulk key pkts =>
          exact backed.of_ringTailq_eq
            (sendBulk_touchesOnly _ _ _ pkts).registry
      | receiveBulk key pkts rxBurstMax allocated =>
          cases received :
              clients.map.receiveBulk key pkts rxBurstMax allocated
                clients.eal with
          | error fault =>
              simpa only [step, execute, received] using backed
          | ok outcome =>
              simp only [step, execute, received]
              exact backed.of_ringTailq_eq
                (receiveBulk_touchesOnly _ _ _ received).registry

/--
Clients are isolated from each other in every state that an initially empty map
reaches, whatever rings other programs have registered and whatever happens at
the other ends of the rings.
-/
theorem always_isolated
    (eal : Eal)
    (events : List Event) :
    Always step Isolated ⟨RingClientMap.new, eal⟩ events := by
  intro done _
  have atStart : RingRegistry.BackedRegistry ⟨RingClientMap.new, eal⟩ :=
    RingClientMap.backed_new eal
  exact isolated_of_backed (run_invariant backed_step atStart done)

end VDataplane.ClientIsolation
