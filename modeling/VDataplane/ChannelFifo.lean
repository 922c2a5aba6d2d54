import VDataplane.ChannelLifecycle
import VDataplane.GuardedRun

namespace VDataplane.ChannelFifo

open GuardedRun

/-!
# Single-packet delivery over a channel

The engine creates a channel, the client looks it up, and from then on both
send and receive single packets in any interleaving.  Observed from outside, a
direction has delivered what the successful receives left in their callers'
buffers; it should be an initial part of what was sent.

The rings themselves simulate an abstract FIFO queue on every run.  The
wrapper around the dequeue is what breaks delivery: the dequeued pointer never
reaches the caller.
-/

/-- The two holders of a handle on the channel. -/
inductive EndPoint where
  | engine
  | client
  deriving Repr, DecidableEq

/--
One single-packet call at one end.

In direction `c2e` a send is `send_to_engine` and a receive is
`receive_from_client`; in direction `e2c` they are `send_to_client` and
`receive_from_engine`.
-/
inductive Call where
  | send (endPoint : EndPoint) (rtype : RingType) (pkt : Mbuf)
  | receive (endPoint : EndPoint) (rtype : RingType) (pkt : Mbuf)

/-- The sending method of a direction. -/
def send (channel : Channel) :
    RingType → Mbuf → Eal → Except MemoryError Unit × Eal
  | .c2e =>
      channel.sendToEngine
  | .e2c =>
      channel.sendToClient

/-- The receiving method of a direction. -/
def receive (channel : Channel) :
    RingType → Mbuf → Eal → Except MemoryError Unit × Mbuf × Eal
  | .c2e =>
      channel.receiveFromClient
  | .e2c =>
      channel.receiveFromEngine

theorem send_eq_enqueue
    (channel : Channel)
    (rtype : RingType) :
    send channel rtype = (channel.ring rtype).enqueue := by
  cases rtype <;> rfl

theorem receive_eq_dequeue
    (channel : Channel)
    (rtype : RingType) :
    receive channel rtype = (channel.ring rtype).dequeue := by
  cases rtype <;> rfl

/-- What a successful receive did to the buffer that its caller passed in. -/
structure Receipt where
  before : RteMbuf
  after : RteMbuf

/-- The environment and, for each direction, what its callers have observed. -/
structure State where
  eal : Eal
  /-- The packets whose send returned `Ok`, in order. -/
  sent : RingType → List RteMbuf
  /-- The successful receives, in order. -/
  received : RingType → List Receipt

/-- Nothing has been sent or received yet. -/
def start (eal : Eal) : State where
  eal :=
    eal
  sent _ :=
    []
  received _ :=
    []

/-- The handle held at each end. -/
def handles (engineEnd clientEnd : Channel) : EndPoint → Channel
  | .engine =>
      engineEnd
  | .client =>
      clientEnd

/-- Execute one call and record what its caller observes. -/
def step
    (held : EndPoint → Channel)
    (state : State) :
    Call → State
  | .send endPoint rtype pkt =>
      match send (held endPoint) rtype pkt state.eal with
      | (.ok (), eal) =>
          { state with
            eal := eal
            sent :=
              Function.update state.sent rtype
                (state.sent rtype ++ [pkt.raw]) }
      | (.error _, eal) =>
          { state with eal := eal }
  | .receive endPoint rtype pkt =>
      match receive (held endPoint) rtype pkt state.eal with
      | (.ok (), caller, eal) =>
          { state with
            eal := eal
            received :=
              Function.update state.received rtype
                (state.received rtype ++ [⟨pkt.raw, caller.raw⟩]) }
      | (.error _, _, eal) =>
          { state with eal := eal }

/--
Lossless FIFO delivery: in each direction the packets received are an initial
part of the packets sent, and no successful receive leaves its caller with the
buffer it passed in.
-/
structure Lossless (state : State) : Prop where
  inOrder :
    ∀ rtype,
      (state.received rtype).map Receipt.after <+: state.sent rtype
  notOwn :
    ∀ rtype, ∀ receipt ∈ state.received rtype,
      receipt.after ≠ receipt.before

/-- A receive is called only while no packet has been sent in its direction. -/
def ReceivesPrecedeSends (state : State) : Call → Prop
  | .send .. =>
      True
  | .receive _ rtype _ =>
      state.sent rtype = []

/-! ## The rings simulate FIFO queues -/

/-- Both ends hold the same two rings. -/
structure Connected
    (held : EndPoint → Channel) :
    Prop where
  shared :
    ∀ endPoint rtype,
      ((held endPoint).ring rtype).raw =
        ((held .engine).ring rtype).raw
  apart :
    ((held .engine).ring .e2c).raw ≠ ((held .engine).ring .c2e).raw

/-- The ring of one direction. -/
def ringOf
    (held : EndPoint → Channel)
    (state : State)
    (rtype : RingType) :
    RteRing :=
  state.eal.rings ((held .engine).ring rtype).raw

/--
Each direction is an abstract FIFO queue: what was sent has been removed from
its head, one packet for each successful receive, or is still on the ring.
Every receipt returns the caller's own buffer.
-/
structure Simulates
    (held : EndPoint → Channel)
    (state : State) :
    Prop where
  queue :
    ∀ rtype, ∃ removed,
      removed.length = (state.received rtype).length ∧
        state.sent rtype =
          removed ++ (ringOf held state rtype).entries
  own :
    ∀ rtype, ∀ receipt ∈ state.received rtype,
      receipt.after = receipt.before

namespace Connected

variable
  {held : EndPoint → Channel}
  (connected : Connected held)

include connected

/-- The rings of the two directions are different objects. -/
theorem raw_inj
    {first second : RingType}
    (same :
      ((held .engine).ring first).raw =
        ((held .engine).ring second).raw) :
    first = second := by
  cases first <;> cases second
  · rfl
  · exact (connected.apart same.symm).elim
  · exact (connected.apart same).elim
  · rfl

/-- Replacing the ring of one direction leaves the other direction's ring alone. -/
theorem ringOf_update
    (state : State)
    (rtype other : RingType)
    (ring : RteRing)
    (sent : RingType → List RteMbuf)
    (received : RingType → List Receipt) :
    ringOf held
        { eal := state.eal.setRing ((held .engine).ring rtype).raw ring
          sent := sent
          received := received } other =
      if other = rtype then ring else ringOf held state other := by
  unfold ringOf
  split
  · next same =>
      subst other
      simp
  · next different =>
      refine Function.update_of_ne ?_ _ _
      intro same
      exact different (connected.raw_inj same)

/-- A call is refused and changes nothing, or pushes or pops the ring of its direction. -/
theorem step_cases
    (state : State)
    (call : Call) :
    step held state call = state ∧
        (∀ endPoint rtype pkt,
          call = .receive endPoint rtype pkt →
          (ringOf held state rtype).entries = []) ∨
      (∃ endPoint rtype pkt pushed,
        call = .send endPoint rtype pkt ∧
          (ringOf held state rtype).push? pkt.raw = some pushed ∧
          step held state call = {
            eal :=
              state.eal.setRing ((held .engine).ring rtype).raw pushed
            sent :=
              Function.update state.sent rtype
                (state.sent rtype ++ [pkt.raw])
            received := state.received }) ∨
      ∃ endPoint rtype pkt oldest popped,
        call = .receive endPoint rtype pkt ∧
          (ringOf held state rtype).pop? = some (oldest, popped) ∧
          step held state call = {
            eal :=
              state.eal.setRing ((held .engine).ring rtype).raw popped
            sent := state.sent
            received :=
              Function.update state.received rtype
                (state.received rtype ++ [⟨pkt.raw, pkt.raw⟩]) } := by
  cases call with
  | send endPoint rtype pkt =>
      rcases Ring.enqueue_cases ((held endPoint).ring rtype) pkt state.eal with
        ⟨_, refused⟩ | ⟨pushed, accepted, enqueued⟩
      · left
        refine ⟨?_, by simp⟩
        simp only [step, send_eq_enqueue, refused]
      · right; left
        rw [connected.shared] at accepted enqueued
        refine ⟨endPoint, rtype, pkt, pushed, rfl, accepted, ?_⟩
        simp only [step, send_eq_enqueue, enqueued]
  | receive endPoint rtype pkt =>
      rcases Ring.dequeue_cases ((held endPoint).ring rtype) pkt state.eal with
        ⟨isEmpty, failed⟩ | ⟨oldest, popped, taken, dequeued⟩
      · left
        rw [connected.shared] at isEmpty
        refine ⟨?_, ?_⟩
        · simp only [step, receive_eq_dequeue, failed]
        · rintro _ _ _ ⟨⟩
          exact BoundedFifo.pop?_eq_none_iff.mp isEmpty
      · right; right
        rw [connected.shared] at taken dequeued
        refine ⟨endPoint, rtype, pkt, oldest, popped, rfl, taken, ?_⟩
        simp only [step, receive_eq_dequeue, dequeued]

/-- Every call preserves the simulation. -/
theorem simulates_step
    (state : State)
    (call : Call)
    (simulates : Simulates held state) :
    Simulates held (step held state call) := by
  rcases connected.step_cases state call with
    ⟨unchanged, _⟩ |
      ⟨endPoint, rtype, pkt, pushed, rfl, accepted, stepped⟩ |
      ⟨endPoint, rtype, pkt, oldest, popped, rfl, taken, stepped⟩
  · rw [unchanged]
    exact simulates
  · obtain ⟨_, _, appended⟩ := BoundedFifo.push?_eq_some_iff.mp accepted
    rw [stepped]
    refine ⟨?_, simulates.own⟩
    intro other
    obtain ⟨removed, sameLength, split⟩ := simulates.queue other
    refine ⟨removed, sameLength, ?_⟩
    rw [connected.ringOf_update]
    by_cases same : other = rtype
    · subst other
      simp [split, appended]
    · simp [same, split]
  · obtain ⟨_, head⟩ := BoundedFifo.pop?_eq_some_iff.mp taken
    rw [stepped]
    refine ⟨?_, ?_⟩
    · intro other
      obtain ⟨removed, sameLength, split⟩ := simulates.queue other
      by_cases same : other = rtype
      · subst other
        refine ⟨removed ++ [oldest], by simp [sameLength], ?_⟩
        rw [connected.ringOf_update]
        simp [split, head]
      · refine ⟨removed, by simp [same, sameLength], ?_⟩
        rw [connected.ringOf_update]
        simp [same, split]
    · intro other receipt member
      by_cases same : other = rtype
      · subst other
        simp only [Function.update_self, List.mem_append,
          List.mem_singleton] at member
        rcases member with earlier | rfl
        · exact simulates.own _ receipt earlier
        · rfl
      · simp only [Function.update_of_ne same] at member
        exact simulates.own other receipt member

/-- The rings simulate FIFO queues after every run. -/
theorem simulates_run
    {state : State}
    (simulates : Simulates held state)
    (calls : List Call) :
    Simulates held (run (step held) state calls) :=
  run_invariant connected.simulates_step simulates calls

end Connected

/-- On a new channel that was looked up, the ends are connected and the queues are empty. -/
theorem connected_of_lookup
    {clientId : UInt16}
    {e2c c2e : Dpdk.Allocation}
    {eal created found : Eal}
    {engineEnd clientEnd : Channel}
    (isNew :
      Channel.new clientId e2c c2e eal = (.ok engineEnd, created))
    (isFound :
      Channel.lookup clientId created = (.ok clientEnd, found)) :
    Connected (handles engineEnd clientEnd) ∧
      Simulates (handles engineEnd clientEnd) (start found) := by
  rcases Channel.new_cases clientId e2c c2e eal with
    ⟨error, after, failed, _⟩ | ⟨channel, after, succeeded, _, _, isCreated⟩
  · rw [failed] at isNew
    simp at isNew
  · rw [succeeded] at isNew
    obtain ⟨sameChannel, rfl⟩ := Prod.mk.inj isNew
    obtain rfl := Except.ok.inj sameChannel
    rw [Channel.lookup_of_created isCreated] at isFound
    obtain ⟨sameHandle, rfl⟩ := Prod.mk.inj isFound
    obtain rfl := Except.ok.inj sameHandle
    refine ⟨⟨?_, isCreated.apart⟩, ⟨?_, by simp [start]⟩⟩
    · intro endPoint rtype
      cases endPoint <;> rfl
    · intro rtype
      refine ⟨[], rfl, ?_⟩
      have isEmpty := isCreated.isEmpty rtype
      simp [start, ringOf, handles, isEmpty]

/-! ## When delivery is lossless -/

/-- As long as nothing has been received, everything sent is still on the ring. -/
theorem Simulates.entries_of_nothing_received
    {held : EndPoint → Channel}
    {state : State}
    (simulates : Simulates held state)
    {rtype : RingType}
    (nothing : state.received rtype = []) :
    (ringOf held state rtype).entries = state.sent rtype := by
  obtain ⟨removed, sameLength, split⟩ := simulates.queue rtype
  rw [nothing, List.length_nil, List.length_eq_zero_iff] at sameLength
  rw [split, sameLength, List.nil_append]

/-- Delivery is lossless as long as nothing has been received. -/
theorem lossless_of_nothing_received
    {state : State}
    (nothing : ∀ rtype, state.received rtype = []) :
    Lossless state where
  inOrder rtype := by
    simp [nothing rtype]
  notOwn rtype := by
    simp [nothing rtype]

/-- No receive has succeeded yet, so both queues still hold all that was sent. -/
structure Unreceived
    (held : EndPoint → Channel)
    (state : State) :
    Prop where
  simulates :
    Simulates held state
  nothing :
    ∀ rtype, state.received rtype = []

/--
Before the first successful receive, a call that is not a receive behind a
send leaves everything unreceived, and any other call breaks delivery.
-/
private theorem Unreceived.step_cases
    {held : EndPoint → Channel}
    (connected : Connected held)
    {state : State}
    (unreceived : Unreceived held state)
    (call : Call) :
    (ReceivesPrecedeSends state call ∧
        Unreceived held (step held state call)) ∨
      (¬ ReceivesPrecedeSends state call ∧
        ¬ Lossless (step held state call)) := by
  obtain ⟨simulates, nothing⟩ := unreceived
  have simulatesAfter := connected.simulates_step state call simulates
  have stillQueued :
      ∀ rtype, (ringOf held state rtype).entries = state.sent rtype :=
    fun rtype => simulates.entries_of_nothing_received (nothing rtype)
  rcases connected.step_cases state call with
    ⟨unchanged, foundEmpty⟩ |
      ⟨endPoint, rtype, pkt, pushed, rfl, _, stepped⟩ |
      ⟨endPoint, rtype, pkt, oldest, popped, rfl, taken, stepped⟩
  · left
    refine ⟨?_, simulatesAfter, by rwa [unchanged]⟩
    cases call with
    | send =>
        trivial
    | receive endPoint rtype pkt =>
        exact (stillQueued rtype).symm.trans
          (foundEmpty endPoint rtype pkt rfl)
  · left
    exact ⟨trivial, simulatesAfter, by rwa [stepped]⟩
  · right
    obtain ⟨_, head⟩ := BoundedFifo.pop?_eq_some_iff.mp taken
    refine ⟨?_, ?_⟩
    · intro precedes
      have sentNothing : state.sent rtype = [] := precedes
      rw [stillQueued rtype, sentNothing] at head
      exact List.cons_ne_nil _ _ head.symm
    · intro lossless
      refine lossless.notOwn rtype ⟨pkt.raw, pkt.raw⟩ ?_ rfl
      simp [stepped]

/--
Delivery over a channel is lossless in every state of a run exactly when, in
each direction, every receive of the run comes before the first packet sent.
-/
theorem lossless_iff_receives_precede_sends
    {clientId : UInt16}
    {e2c c2e : Dpdk.Allocation}
    {eal created found : Eal}
    {engineEnd clientEnd : Channel}
    (isNew :
      Channel.new clientId e2c c2e eal = (.ok engineEnd, created))
    (isFound :
      Channel.lookup clientId created = (.ok clientEnd, found))
    (calls : List Call) :
    Always (step (handles engineEnd clientEnd)) Lossless
        (start found) calls ↔
      EveryStep (step (handles engineEnd clientEnd)) ReceivesPrecedeSends
        (start found) calls := by
  obtain ⟨connected, simulates⟩ := connected_of_lookup isNew isFound
  have atStart :
      Unreceived (handles engineEnd clientEnd) (start found) :=
    ⟨simulates, fun _ => rfl⟩
  rw [always_iff_everyStep,
    and_iff_right (lossless_of_nothing_received atStart.nothing)]
  refine everyStep_iff_guarded ?_ ?_ atStart calls
  · intro state call unreceived precedes
    rcases unreceived.step_cases connected call with
      ⟨_, still⟩ | ⟨behind, _⟩
    · exact still
    · exact (behind precedes).elim
  · intro state call unreceived
    rcases unreceived.step_cases connected call with
      ⟨precedes, still⟩ | ⟨behind, broken⟩
    · exact iff_of_true
        (lossless_of_nothing_received still.nothing) precedes
    · exact iff_of_false broken behind

/-- A receive on the fresh channel of client 2 followed by a send. -/
theorem lossless_receive_then_send :
    let packet : Mbuf := ⟨.reset 0 1 fun _ => 0⟩
    let channel : Channel := ⟨⟨2, .c2e, 20⟩, ⟨2, .e2c, 10⟩⟩
    let created := (Channel.new 2 (.ok 10) (.ok 20) Eal.initial).2
    Always (step (handles channel channel)) Lossless (start created)
      [.receive .client .e2c packet, .send .engine .e2c packet] := by
  intro packet channel created
  have isNew :
      Channel.new 2 (.ok 10) (.ok 20) Eal.initial =
        (.ok channel, created) := by
    rfl
  have isFound :
      Channel.lookup 2 created = (.ok channel, created) := by
    rfl
  refine (lossless_iff_receives_precede_sends isNew isFound _).mpr ?_
  exact ⟨rfl, trivial, trivial⟩

/-- The first packet sent to client 2 is taken off the ring but not received. -/
theorem not_lossless_send_then_receive :
    let packet : Mbuf := ⟨.reset 0 1 fun _ => 0⟩
    let blank : Mbuf := ⟨.reset 0 2 fun _ => 0⟩
    let channel : Channel := ⟨⟨2, .c2e, 20⟩, ⟨2, .e2c, 10⟩⟩
    let created := (Channel.new 2 (.ok 10) (.ok 20) Eal.initial).2
    Channel.new 2 (.ok 10) (.ok 20) Eal.initial = (.ok channel, created) ∧
      Channel.lookup 2 created = (.ok channel, created) ∧
      ¬ Always (step (handles channel channel)) Lossless (start created)
        [.send .engine .e2c packet, .receive .client .e2c blank] := by
  intro packet blank channel created
  refine ⟨by rfl, by rfl, ?_⟩
  intro always
  have atEnd := always _ (List.prefix_refl _)
  have received :
      (run (step (handles channel channel)) (start created)
        [.send .engine .e2c packet,
          .receive .client .e2c blank]).received .e2c =
        [⟨blank.raw, blank.raw⟩] := by
    rfl
  have sameBuffer := atEnd.notOwn .e2c ⟨blank.raw, blank.raw⟩
  rw [received] at sameBuffer
  exact sameBuffer (List.mem_singleton_self _) rfl

end VDataplane.ChannelFifo
