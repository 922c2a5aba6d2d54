import VDataplane.ClientIsolation
import VDataplane.Simulation
import VDataplane.Switchboard

namespace VDataplane.ClientSwitchboard

open GuardedRun Switchboard
open RingRegistry (Clients)

/-!
# The client map as a switchboard

A `RingClientMap` and the ends that its clients have looked up behave like a
switchboard with one line for each client.  The queues of a line are the two
rings of the client's channel.

Three methods do less than their names say, and the switchboard shows it:
`receive` and the client's `receive_from_engine` discard the packet that they
take, and `send_bulk` only asks whether the client is there.
-/

/-- A call of the map, or of a client on the channel that it looks up. -/
inductive Action where
  | call (call : ClientIsolation.Call)
  | sendToEngine (key : UInt16) (pkt : Mbuf)
  | receiveFromEngine (key : UInt16) (pkt : Mbuf)

/-- What a call without a value shows; the exact error is left out. -/
def unitReply : Except RingClientMapError Unit → Reply
  | .ok () =>
      .done
  | .error (.clientNotFound _) =>
      .noLine
  | .error (.memoryError _) =>
      .refused

/-- What a call that counts shows. -/
def countReply : Except RingClientMapError Nat → Reply
  | .ok number =>
      .count number
  | .error (.clientNotFound _) =>
      .noLine
  | .error (.memoryError _) =>
      .refused

/-- What an action shows. -/
def reply (clients : Clients) : Action → Reply
  | .call (.addClient clientId e2c c2e) =>
      unitReply (clients.map.addClient clientId e2c c2e clients.eal).1
  | .call (.removeClient _) =>
      .done
  | .call (.send key pkt) =>
      unitReply (clients.map.send key pkt clients.eal).1
  | .call (.receive key pkt) =>
      unitReply (clients.map.receive key pkt clients.eal).1
  | .call (.sendBulk key pkts) =>
      countReply (clients.map.sendBulk key pkts clients.eal).1
  | .call (.receiveBulk key pkts rxBurstMax allocated) =>
      match
        clients.map.receiveBulk key pkts rxBurstMax allocated clients.eal with
      | .error _ =>
          .refused
      | .ok (result, _, _) =>
          countReply result
  | .sendToEngine key pkt =>
      match Channel.lookup key clients.eal with
      | (.error _, _) =>
          .noLine
      | (.ok channel, found) =>
          unitReply ((channel.sendToEngine pkt found).1.mapError .memoryError)
  | .receiveFromEngine key pkt =>
      match Channel.lookup key clients.eal with
      | (.error _, _) =>
          .noLine
      | (.ok channel, found) =>
          unitReply
            ((channel.receiveFromEngine pkt found).1.mapError .memoryError)

/-- The state after an action.  A client keeps the handles that it has looked up. -/
def step (clients : Clients) : Action → Clients
  | .call call =>
      ClientIsolation.execute clients call
  | .sendToEngine key pkt =>
      match Channel.lookup key clients.eal with
      | (.error _, failed) =>
          ⟨clients.map, failed⟩
      | (.ok channel, found) =>
          ⟨clients.map, (channel.sendToEngine pkt found).2⟩
  | .receiveFromEngine key pkt =>
      match Channel.lookup key clients.eal with
      | (.error _, failed) =>
          ⟨clients.map, failed⟩
      | (.ok channel, found) =>
          ⟨clients.map, (channel.receiveFromEngine pkt found).2.2⟩

/-- The request that an action stands for. -/
def request : Action → Request UInt16 RteMbuf
  | .call (.addClient clientId e2c c2e) =>
      .openLine clientId (e2c.isOk && c2e.isOk)
  | .call (.removeClient clientId) =>
      .closeLine clientId
  | .call (.send key pkt) =>
      .offerDown key pkt.raw
  | .call (.receive key _) =>
      .takeUp key
  | .call (.sendBulk key _) =>
      .ask key
  | .call (.receiveBulk key pkts _ _) =>
      .takeUpTo key (pkts.length % 2 ^ 32)
  | .sendToEngine key pkt =>
      .offerUp key pkt.raw
  | .receiveFromEngine key _ =>
      .takeDown key

/--
The library grants two rings at different addresses, at which no ring is
registered, and there is memory for the pointers of a burst.
-/
def Honest (clients : Clients) : Action → Prop
  | .call (.addClient _ (.ok first) (.ok second)) =>
      first ≠ second ∧
        ∀ name,
          ¬ clients.eal.ringTailq.Registered name first ∧
            ¬ clients.eal.ringTailq.Registered name second
  | .call (.receiveBulk _ pkts rxBurstMax allocated) =>
      Ring.BurstFits pkts rxBurstMax allocated
  | _ =>
      True

/-- How many packets a ring can hold. -/
def capacity : Nat :=
  Ring.ringCapacity - 1

/-- The rings of a channel as a line. -/
def line (eal : Eal) (channel : Channel) : Line RteMbuf where
  down :=
    eal.rings channel.engineToClient.raw
  up :=
    eal.rings channel.clientToEngine.raw

/-- The board shows the rings of all clients, and no other ring has a client's name. -/
structure Shows
    (clients : Clients)
    (board : Board UInt16 RteMbuf) :
    Prop where
  exact :
    clients.map.Exact clients.eal
  lines :
    ∀ key, board key = (clients.map.ringmap key).map (line clients.eal)

/-- What an action of the map and a request have in common. -/
structure Answers
    (clients : Clients)
    (board : Board UInt16 RteMbuf)
    (action : Action) :
    Prop where
  reply :
    reply clients action =
      (serve capacity board (request action)).1
  shows :
    Shows (step clients action)
      (serve capacity board (request action)).2

/-! ## Lines -/

section Lines

variable
  {clients : Clients}
  {board : Board UInt16 RteMbuf}

/-- A client without a channel has no line. -/
theorem Shows.absent
    (shows : Shows clients board)
    {key : UInt16}
    (absent : clients.map.ringmap key = none) :
    board key = none := by
  rw [shows.lines, absent]
  rfl

/-- The rings of a client's channel are its line. -/
theorem Shows.present
    (shows : Shows clients board)
    {key : UInt16}
    {channel : Channel}
    (present : clients.map.ringmap key = some channel) :
    board key = some (line clients.eal channel) := by
  rw [shows.lines, present]
  rfl

/-- What keeps all registered rings and their contents shows nothing new. -/
theorem Shows.of_registered
    (shows : Shows clients board)
    {after : Eal}
    (sameRegistry : after.ringTailq = clients.eal.ringTailq)
    (sameRings :
      ∀ name address,
        clients.eal.ringTailq.Registered name address →
        after.rings address = clients.eal.rings address) :
    Shows ⟨clients.map, after⟩ board where
  exact := by
    refine ⟨shows.exact.toBacked.of_ringTailq_eq sameRegistry, ?_⟩
    rw [sameRegistry]
    exact shows.exact.complete
  lines key := by
    rw [shows.lines]
    cases present : clients.map.ringmap key with
    | none =>
        rfl
    | some channel =>
        have registered := shows.exact.registered present
        have sameLine : line after channel = line clients.eal channel :=
          congrArg₂ Line.mk (sameRings _ _ (registered .e2c))
            (sameRings _ _ (registered .c2e))
        rw [Option.map_some, Option.map_some, sameLine]

/-- What changes no ring shows nothing new. -/
theorem Shows.of_same
    (shows : Shows clients board)
    {after : Eal}
    (sameRegistry : after.ringTailq = clients.eal.ringTailq)
    (sameRings : after.rings = clients.eal.rings) :
    Shows ⟨clients.map, after⟩ board :=
  shows.of_registered sameRegistry fun _ address _ => congrFun sameRings address

/-- Replace the queue of one direction. -/
def setQueue
    (line : Line RteMbuf)
    (rtype : RingType)
    (queue : RteRing) :
    Line RteMbuf :=
  match rtype with
  | .e2c =>
      { line with down := queue }
  | .c2e =>
      { line with up := queue }

/-- A change of one ring is a change of one queue of one line. -/
theorem Shows.setRing
    (shows : Shows clients board)
    {key : UInt16}
    {channel : Channel}
    (present : clients.map.ringmap key = some channel)
    (rtype : RingType)
    (queue : RteRing) :
    Shows ⟨clients.map, clients.eal.setRing (channel.ring rtype).raw queue⟩
      (board.insert key
        (setQueue (line clients.eal channel) rtype queue)) where
  exact :=
    ⟨shows.exact.toBacked.of_ringTailq_eq rfl, shows.exact.complete⟩
  lines other := by
    have backed := shows.exact.toBacked
    by_cases same : other = key
    · subst same
      rw [PartialMap.insert_self, present, Option.map_some]
      have apart :
          channel.clientToEngine.raw ≠ channel.engineToClient.raw := by
        intro sameRaw
        exact absurd
          (@RingClientMap.Backed.raw_inj _ _ backed _ _ _ _ present present
            .c2e .e2c sameRaw).1 (by decide)
      cases rtype with
      | e2c =>
          simp [setQueue, line, Channel.ring, apart]
      | c2e =>
          simp [setQueue, line, Channel.ring, apart.symm]
    · rw [PartialMap.insert_other _ same, shows.lines]
      cases otherPresent : clients.map.ringmap other with
      | none =>
          rfl
      | some otherChannel =>
          have elsewhere :
              ∀ otherType,
                (otherChannel.ring otherType).raw ≠
                  (channel.ring rtype).raw := by
            intro otherType sameRaw
            exact same (backed.raw_inj otherPresent present sameRaw).2
          have sameLine :
              line (clients.eal.setRing (channel.ring rtype).raw queue)
                  otherChannel =
                line clients.eal otherChannel :=
            congrArg₂ Line.mk (Function.update_of_ne (elsewhere .e2c) _ _)
              (Function.update_of_ne (elsewhere .c2e) _ _)
          rw [Option.map_some, Option.map_some, sameLine]

end Lines

/-! ## One action -/

/-- An enqueue offers its packet to the ring. -/
theorem enqueue_offers
    (ring : Ring)
    (pkt : Mbuf)
    (eal : Eal) :
    unitReply ((ring.enqueue pkt eal).1.mapError .memoryError) =
        (offer (eal.rings ring.raw) pkt.raw).1 ∧
      (ring.enqueue pkt eal).2 =
        eal.setRing ring.raw (offer (eal.rings ring.raw) pkt.raw).2 := by
  rcases ring.enqueue_cases pkt eal with
    ⟨full, refused⟩ | ⟨pushed, isOpen, enqueued⟩
  · rw [Mbuf.intoPtr] at full
    simp [offer, full, refused, unitReply, Except.mapError]
  · rw [Mbuf.intoPtr] at isOpen
    simp [offer, isOpen, enqueued, unitReply, Except.mapError]

/-- A dequeue takes a packet from the ring, which the caller never sees. -/
theorem dequeue_takes
    (ring : Ring)
    (pkt : Mbuf)
    (eal : Eal) :
    unitReply ((ring.dequeue pkt eal).1.mapError .memoryError) =
        (take (eal.rings ring.raw)).1 ∧
      (ring.dequeue pkt eal).2.2 =
        eal.setRing ring.raw (take (eal.rings ring.raw)).2 := by
  rcases ring.dequeue_cases pkt eal with
    ⟨isEmpty, failed⟩ | ⟨oldest, popped, waiting, dequeued⟩
  · simp [take, isEmpty, failed, unitReply, Except.mapError]
  · simp [take, waiting, dequeued, unitReply, Except.mapError]

section Actions

variable
  {clients : Clients}
  {board : Board UInt16 RteMbuf}

/-- An action on a client without a channel. -/
theorem answers_absent
    (shows : Shows clients board)
    {key : UInt16}
    (absent : clients.map.ringmap key = none)
    {action : Action}
    {use : Line RteMbuf → Reply × Line RteMbuf}
    (served :
      serve capacity board (request action) =
        useLine board key use)
    (isReply : reply clients action = .noLine)
    (sameMap : (step clients action).map = clients.map)
    (sameRegistry :
      (step clients action).eal.ringTailq = clients.eal.ringTailq)
    (sameRings : (step clients action).eal.rings = clients.eal.rings) :
    Answers clients board action := by
  have unused : useLine board key use = (.noLine, board) := by
    simp only [useLine, shows.absent absent]
  rw [unused] at served
  refine ⟨by rw [served, isReply], ?_⟩
  rw [served]
  have next := shows.of_same sameRegistry sameRings
  rwa [← sameMap] at next

/-- An action on one ring of a client's channel. -/
theorem answers_present
    (shows : Shows clients board)
    {key : UInt16}
    {channel : Channel}
    (present : clients.map.ringmap key = some channel)
    {action : Action}
    {use : Line RteMbuf → Reply × Line RteMbuf}
    (served :
      serve capacity board (request action) =
        useLine board key use)
    (rtype : RingType)
    {queue : RteRing}
    (used :
      (use (line clients.eal channel)).2 =
        setQueue (line clients.eal channel) rtype queue)
    (sameReply :
      reply clients action = (use (line clients.eal channel)).1)
    (stepped :
      step clients action =
        ⟨clients.map,
          clients.eal.setRing (channel.ring rtype).raw queue⟩) :
    Answers clients board action := by
  simp only [useLine, shows.present present] at served
  refine ⟨by rw [served, sameReply], ?_⟩
  rw [served, stepped, used]
  exact shows.setRing present rtype queue

/-- A send to a client with a channel is an enqueue. -/
theorem send_eq
    {map : RingClientMap}
    {key : UInt16}
    {channel : Channel}
    (present : map.ringmap key = some channel)
    (pkt : Mbuf)
    (eal : Eal) :
    map.send key pkt eal =
      ((channel.engineToClient.enqueue pkt eal).1.mapError .memoryError,
        (channel.engineToClient.enqueue pkt eal).2) := by
  rcases outcome : channel.engineToClient.enqueue pkt eal with
    ⟨error | _, after⟩ <;>
    simp [RingClientMap.send, present, Channel.sendToClient, outcome,
      Except.mapError]

/-- A receive from a client with a channel is a dequeue. -/
theorem receive_eq
    {map : RingClientMap}
    {key : UInt16}
    {channel : Channel}
    (present : map.ringmap key = some channel)
    (pkt : Mbuf)
    (eal : Eal) :
    map.receive key pkt eal =
      ((channel.clientToEngine.dequeue pkt eal).1.mapError .memoryError,
        (channel.clientToEngine.dequeue pkt eal).2) := by
  rcases outcome : channel.clientToEngine.dequeue pkt eal with
    ⟨error | _, caller, after⟩ <;>
    simp [RingClientMap.receive, present, Channel.receiveFromClient, outcome,
      Except.mapError]

theorem answers_send
    (shows : Shows clients board)
    (key : UInt16)
    (pkt : Mbuf) :
    Answers clients board (.call (.send key pkt)) := by
  cases present : clients.map.ringmap key with
  | none =>
      apply answers_absent shows present rfl
      · simp [reply, RingClientMap.send, present, unitReply]
      · rfl
      · simp only [step, ClientIsolation.execute, RingClientMap.send, present]
        rfl
      · simp only [step, ClientIsolation.execute, RingClientMap.send, present]
        rfl
  | some channel =>
      obtain ⟨sameReply, sent⟩ :=
        enqueue_offers channel.engineToClient pkt clients.eal
      apply answers_present shows present rfl .e2c rfl
      · rw [reply, send_eq present, sameReply]
        rfl
      · simp only [step, ClientIsolation.execute, send_eq present, sent]
        rfl

theorem answers_receive
    (shows : Shows clients board)
    (key : UInt16)
    (pkt : Mbuf) :
    Answers clients board (.call (.receive key pkt)) := by
  cases present : clients.map.ringmap key with
  | none =>
      apply answers_absent shows present rfl
      · simp [reply, RingClientMap.receive, present, unitReply]
      · rfl
      · simp only [step, ClientIsolation.execute, RingClientMap.receive,
          present]
      · simp only [step, ClientIsolation.execute, RingClientMap.receive,
          present]
  | some channel =>
      obtain ⟨sameReply, received⟩ :=
        dequeue_takes channel.clientToEngine pkt clients.eal
      apply answers_present shows present rfl .c2e rfl
      · rw [reply, receive_eq present, sameReply]
        rfl
      · simp only [step, ClientIsolation.execute, receive_eq present, received]
        rfl

theorem answers_sendBulk
    (shows : Shows clients board)
    (key : UInt16)
    (pkts : List Mbuf) :
    Answers clients board (.call (.sendBulk key pkts)) := by
  cases present : clients.map.ringmap key with
  | none =>
      apply answers_absent shows present rfl
      · simp [reply, RingClientMap.sendBulk, present, countReply]
      · rfl
      · simp only [step, ClientIsolation.execute, RingClientMap.sendBulk,
          present, Mbuf.dropAll_ringTailq]
      · simp only [step, ClientIsolation.execute, RingClientMap.sendBulk,
          present, Mbuf.dropAll_rings]
  | some channel =>
      apply answers_present shows present rfl .e2c rfl
      · simp [reply, RingClientMap.sendBulk, present,
          Channel.sendToClientBulk, Ring.enqueueBulk_eq, countReply]
      · simp [step, ClientIsolation.execute, RingClientMap.sendBulk, present,
          Channel.sendToClientBulk, Ring.enqueueBulk_eq, Channel.ring]

theorem answers_receiveBulk
    (shows : Shows clients board)
    (key : UInt16)
    {pkts : List Mbuf}
    {rxBurstMax : UInt64}
    {allocated : Bool}
    (fits : Ring.BurstFits pkts rxBurstMax allocated) :
    Answers clients board
      (.call (.receiveBulk key pkts rxBurstMax allocated)) := by
  rcases clients.map.receiveBulk_cases key pkts rxBurstMax allocated
      clients.eal with
    ⟨absent, notFound⟩ | ⟨channel, present, _, taken⟩ | ⟨_, _, noFit, _⟩
  · apply answers_absent shows absent rfl
    · simp only [reply, notFound, countReply]
    · simp only [step, ClientIsolation.execute, notFound]
    · simp only [step, ClientIsolation.execute, notFound]
    · simp only [step, ClientIsolation.execute, notFound]
  · apply answers_present shows present rfl .c2e rfl
    · simp only [reply, taken, countReply, Ring.burstCount, line]
    · simp only [step, ClientIsolation.execute, taken, line, Channel.ring]
  · exact absurd fits noFit

/-- A client finds the channel that the map has for it. -/
theorem lookup_present
    (exact : clients.map.Exact clients.eal)
    {key : UInt16}
    {channel : Channel}
    (present : clients.map.ringmap key = some channel) :
    Channel.lookup key clients.eal = (.ok channel, clients.eal) := by
  have found :
      ∀ rtype,
        Ring.lookup rtype key clients.eal = .ok (channel.ring rtype) := by
    intro rtype
    exact Ring.lookup_eq_ok_iff.mpr
      ⟨exact.handle present rtype, exact.registered present rtype⟩
  simp only [Channel.lookup, found]
  rfl

/-- A client that the map does not have finds no channel. -/
theorem lookup_absent
    (exact : clients.map.Exact clients.eal)
    {key : UInt16}
    (absent : clients.map.ringmap key = none) :
    Channel.lookup key clients.eal = (.error .noEntries, clients.eal) := by
  have notFound :
      Ring.lookup .e2c key clients.eal = .error .noEntries := by
    rw [Ring.lookup_eq_error_iff]
    intro address registered
    obtain ⟨_, present, _⟩ := exact.complete registered
    simp [absent] at present
  simp only [Channel.lookup, notFound]

theorem answers_sendToEngine
    (shows : Shows clients board)
    (key : UInt16)
    (pkt : Mbuf) :
    Answers clients board (.sendToEngine key pkt) := by
  cases present : clients.map.ringmap key with
  | none =>
      have notFound := lookup_absent shows.exact present
      apply answers_absent shows present rfl
      · simp only [reply, notFound]
      · simp only [step, notFound]
      · simp only [step, notFound]
      · simp only [step, notFound]
  | some channel =>
      have found := lookup_present shows.exact present
      obtain ⟨sameReply, sent⟩ :=
        enqueue_offers channel.clientToEngine pkt clients.eal
      apply answers_present shows present rfl .c2e rfl
      · simp only [reply, found, Channel.sendToEngine, sameReply]
        rfl
      · simp only [step, found, Channel.sendToEngine, sent]
        rfl

theorem answers_receiveFromEngine
    (shows : Shows clients board)
    (key : UInt16)
    (pkt : Mbuf) :
    Answers clients board (.receiveFromEngine key pkt) := by
  cases present : clients.map.ringmap key with
  | none =>
      have notFound := lookup_absent shows.exact present
      apply answers_absent shows present rfl
      · simp only [reply, notFound]
      · simp only [step, notFound]
      · simp only [step, notFound]
      · simp only [step, notFound]
  | some channel =>
      have found := lookup_present shows.exact present
      obtain ⟨sameReply, received⟩ :=
        dequeue_takes channel.engineToClient pkt clients.eal
      apply answers_present shows present rfl .e2c rfl
      · simp only [reply, found, Channel.receiveFromEngine, sameReply]
        rfl
      · simp only [step, found, Channel.receiveFromEngine, received]
        rfl

/-- A removal closes the client's line. -/
theorem answers_removeClient
    (shows : Shows clients board)
    (clientId : UInt16) :
    Answers clients board (.call (.removeClient clientId)) := by
  have exact := shows.exact.removeClient clientId
  refine ⟨rfl, ?_⟩
  simp only [step, ClientIsolation.execute, request, serve]
  rcases clients.map.removeClient_cases clientId clients.eal with
    ⟨absent, removed⟩ | ⟨channel, present, removed⟩
  · rw [removed, PartialMap.erase_of_none (shows.absent absent)]
    exact shows
  · rw [removed] at exact ⊢
    refine ⟨exact, ?_⟩
    intro key
    by_cases same : key = clientId
    · subst same
      simp
    · simp only [PartialMap.erase_other _ same, shows.lines]
      rfl

/-- A newly created channel is a fresh line. -/
theorem Shows.of_created
    (shows : Shows clients board)
    {clientId : UInt16}
    {channel : Channel}
    {after : Eal}
    (exact :
      RingClientMap.Exact ⟨clients.map.ringmap.insert clientId channel⟩ after)
    (created : Channel.Created clientId clients.eal channel after) :
    Shows ⟨⟨clients.map.ringmap.insert clientId channel⟩, after⟩
      (board.insert clientId (.fresh capacity)) where
  exact :=
    exact
  lines key := by
    by_cases same : key = clientId
    · subst same
      have isFresh :
          line after channel = .fresh capacity :=
        congrArg₂ Line.mk (created.isEmpty .e2c) (created.isEmpty .c2e)
      simp [isFresh]
    · simp only [PartialMap.insert_other _ same, shows.lines]
      cases present : clients.map.ringmap key with
      | none =>
          rfl
      | some other =>
          have kept :
              ∀ rtype,
                after.rings (other.ring rtype).raw =
                  clients.eal.rings (other.ring rtype).raw := by
            intro rtype
            apply created.otherRings
            intro newType sameRaw
            have registered := shows.exact.registered present rtype
            rw [sameRaw] at registered
            exact created.addressFresh newType _ registered
          have sameLine : line after other = line clients.eal other :=
            congrArg₂ Line.mk (kept .e2c) (kept .c2e)
          rw [Option.map_some, Option.map_some, sameLine]

/-- An addition opens a line, if the library grants it and there is none. -/
theorem answers_addClient
    (shows : Shows clients board)
    {clientId : UInt16}
    {e2c c2e : Dpdk.Allocation}
    (honest : Honest clients (.call (.addClient clientId e2c c2e))) :
    Answers clients board (.call (.addClient clientId e2c c2e)) := by
  have exact := shows.exact.addClient clientId e2c c2e
  rcases shows.exact.addClient_cases clientId e2c c2e with
    ⟨_, error, after, failed, notCreated⟩ |
      ⟨⟨first, second, rfl, rfl, _⟩, channel, after, added, absent, created⟩
  · have isRefused :
        ¬ ((e2c.isOk && c2e.isOk) = true ∧ board clientId = none) := by
      rintro ⟨granted, noLine⟩
      obtain ⟨first, second, rfl, rfl⟩ :
          ∃ first second, e2c = .ok first ∧ c2e = .ok second := by
        cases e2c <;> cases c2e <;>
          simp_all [Except.isOk, Except.toBool]
      have absent : clients.map.ringmap clientId = none := by
        simpa [shows.lines] using noLine
      obtain ⟨different, unused⟩ := honest
      obtain ⟨_, _, added⟩ :=
        shows.exact.addClient_absent absent different
          (fun name => (unused name).1) (fun name => (unused name).2)
      simp [added] at failed
    refine ⟨?_, ?_⟩
    · simp only [reply, failed, unitReply, request, serve, if_neg isRefused]
    · simp only [step, ClientIsolation.execute, failed, request, serve,
        if_neg isRefused]
      exact shows.of_registered notCreated.ringTailq notCreated.rings
  · have noLine := shows.absent absent
    rw [added] at exact
    refine ⟨?_, ?_⟩
    · simp [reply, added, unitReply, request, serve, noLine, Except.isOk,
        Except.toBool]
    · simp only [step, ClientIsolation.execute, added, request, serve, noLine,
        Except.isOk, Except.toBool, Bool.and_self, and_self, if_true]
      exact shows.of_created exact created

end Actions

/-- Every action of the map is answered as its request is. -/
theorem answers_action
    {clients : Clients}
    {board : Board UInt16 RteMbuf}
    {action : Action}
    (shows : Shows clients board)
    (honest : Honest clients action) :
    Answers clients board action := by
  cases action with
  | call call =>
      cases call with
      | addClient clientId e2c c2e =>
          exact answers_addClient shows honest
      | removeClient clientId =>
          exact answers_removeClient shows clientId
      | send key pkt =>
          exact answers_send shows key pkt
      | receive key pkt =>
          exact answers_receive shows key pkt
      | sendBulk key pkts =>
          exact answers_sendBulk shows key pkts
      | receiveBulk key pkts rxBurstMax allocated =>
          exact answers_receiveBulk shows key honest
  | sendToEngine key pkt =>
      exact answers_sendToEngine shows key pkt
  | receiveFromEngine key pkt =>
      exact answers_receiveFromEngine shows key pkt

/-! ## Whole runs -/

/-- No ring has a client's name. -/
def Unnamed (eal : Eal) : Prop :=
  ∀ rtype clientId address,
    ¬ eal.ringTailq.Registered
      (Ring.registeredName rtype clientId) address

theorem shows_new
    {eal : Eal}
    (unnamed : Unnamed eal) :
    Shows ⟨.new, eal⟩ PartialMap.empty where
  exact :=
    ⟨RingClientMap.backed_new eal,
      fun registered => (unnamed _ _ _ registered).elim⟩
  lines _ :=
    rfl

/--
The client map refines a switchboard.  Over every run of calls of the map and of
its clients, in every order, all results are those of the switchboard, and at
the end the rings of every client hold what the queues of its line hold.
-/
theorem client_map_refines_switchboard
    {eal : Eal}
    (unnamed : Unnamed eal)
    {actions : List Action}
    (honest : EveryStep step Honest ⟨.new, eal⟩ actions) :
    let clients := run step ⟨.new, eal⟩ actions
    let board := run (next capacity) PartialMap.empty (actions.map request)
    trace step reply ⟨.new, eal⟩ actions =
        trace (next capacity) (answer capacity) PartialMap.empty
          (actions.map request) ∧
      ∀ key,
        board key = (clients.map.ringmap key).map (line clients.eal) := by
  intro clients board
  have answered :
      ∀ {clients board action},
        Shows clients board →
        Honest clients action →
        reply clients action = answer capacity board (request action) ∧
          Shows (step clients action)
            (next capacity board (request action)) := by
    intro clients board action shows isHonest
    have answers := answers_action shows isHonest
    exact ⟨answers.reply, answers.shows⟩
  obtain ⟨sameTrace, atEnd⟩ :=
    run_refines answered (shows_new unnamed) honest
  exact ⟨sameTrace, atEnd.lines⟩

/-- A client is added, called on both ends, and removed. -/
def oneClient : List Action :=
  [.call (.addClient 5 (.ok 10) (.ok 20)),
    .call (.send 5 ⟨.reset 30 100 fun _ => 0⟩),
    .receiveFromEngine 5 ⟨.reset 30 200 fun _ => 0⟩,
    .call (.sendBulk 5 [⟨.reset 30 200 fun _ => 0⟩]),
    .call (.removeClient 5),
    .sendToEngine 5 ⟨.reset 30 200 fun _ => 0⟩]

theorem honest_oneClient :
    EveryStep step Honest ⟨.new, Eal.initial⟩ oneClient := by
  refine ⟨⟨by decide, fun name => ⟨?_, ?_⟩⟩, trivial, trivial, trivial,
    trivial, trivial, trivial⟩
  · exact NamedRegistry.not_registered_empty _ _
  · exact NamedRegistry.not_registered_empty _ _

theorem client_map_refines_switchboard_one_client :
    let clients := run step ⟨.new, Eal.initial⟩ oneClient
    let board := run (next capacity) PartialMap.empty (oneClient.map request)
    trace step reply ⟨.new, Eal.initial⟩ oneClient =
        trace (next capacity) (answer capacity) PartialMap.empty
          (oneClient.map request) ∧
      ∀ key,
        board key = (clients.map.ringmap key).map (line clients.eal) :=
  client_map_refines_switchboard
    (fun _ _ _ => NamedRegistry.not_registered_empty _ _) honest_oneClient

end VDataplane.ClientSwitchboard
