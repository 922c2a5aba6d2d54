import VDataplane.EngineIngress

namespace VDataplane.EngineCollect

open GuardedRun

/-!
# Collecting packets from the packetiser

`get_from_packetiser` should move packets from the packetiser's ring to
`OUT_PKTS`.  How many it asks for is the length of the queue `FROM_PACKETISER`,
which no part of the engine ever pushes to.
-/

/-- The environment and the global queues of the engine. -/
structure State where
  eal : Eal
  outPkts : List Mbuf
  toPacketiser : List Mbuf
  fromPacketiser : List Mbuf

/-- The engine when its main loop starts. -/
def start (eal : Eal) : State where
  eal :=
    eal
  outPkts :=
    []
  toPacketiser :=
    []
  fromPacketiser :=
    []

/-- One step of the main loop, or of the world around the engine between two of them. -/
inductive Action where
  | getExternalPkts (burst : List Mbuf)
  | sendToPacketiser
  | getFromPacketiser
  | sendPktsOut (lcoreId : UInt32) (accepts : Nat)
  | elsewhere (rings : Address → RteRing) (pools : Address → List RteMbuf)

section Run

variable
  (procChannel : RingClientMap)
  (mempool : Mempool)
  (port : Port)

/-- Execute one step. -/
def step (state : State) : Action → State
  | .getExternalPkts burst =>
      let (_, toPacketiser, eal) :=
        Engine.getExternalPkts burst state.toPacketiser state.eal
      { state with
        eal := eal
        toPacketiser := toPacketiser }
  | .sendToPacketiser =>
      let (_, toPacketiser, eal) :=
        Engine.sendToPacketiser procChannel state.toPacketiser state.eal
      { state with
        eal := eal
        toPacketiser := toPacketiser }
  | .getFromPacketiser =>
      let (_, outPkts, eal) :=
        Engine.getFromPacketiser procChannel mempool state.fromPacketiser
          state.outPkts state.eal
      { state with
        eal := eal
        outPkts := outPkts }
  | .sendPktsOut lcoreId accepts =>
      match Engine.sendPktsOut port lcoreId accepts state.outPkts state.eal with
      | .error _ =>
          state
      | .ok (_, _, outPkts, eal) =>
          { state with
            eal := eal
            outPkts := outPkts }
  | .elsewhere rings pools =>
      { state with eal := { state.eal with rings := rings, pools := pools } }

/-- The packets in the processor's client-to-engine ring. -/
def waiting (eal : Eal) : List RteMbuf :=
  match procChannel.ringmap Engine.processorThread with
  | none =>
      []
  | some channel =>
      (eal.rings channel.clientToEngine.raw).entries

/-- How many packets can be moved: one for every packet that waits and every free buffer. -/
def movable (eal : Eal) : Nat :=
  min (waiting procChannel eal).length (eal.pools mempool.raw).length

/-- Nothing was pushed to `FROM_PACKETISER`. -/
def NeverFilled (state : State) : Prop :=
  state.fromPacketiser = []

/-- A call moved all packets that it could and returned the number of the others. -/
structure Collected
    (state : State)
    (outcome : Nat × List Mbuf × Eal) :
    Prop where
  collected :
    outcome.2.1.map Mbuf.raw =
      state.outPkts.map Mbuf.raw ++
        (waiting procChannel state.eal).take
          (movable procChannel mempool state.eal)
  removed :
    waiting procChannel outcome.2.2 =
      (waiting procChannel state.eal).drop
        (movable procChannel mempool state.eal)
  counted :
    outcome.1 =
      (waiting procChannel state.eal).length -
        movable procChannel mempool state.eal

/-- Without packets in `FROM_PACKETISER` a call does nothing and returns 0. -/
theorem getFromPacketiser_nil
    (outPkts : List Mbuf)
    (eal : Eal) :
    Engine.getFromPacketiser procChannel mempool [] outPkts eal =
      (0, outPkts, eal) :=
  rfl

/-- No step pushes to `FROM_PACKETISER`. -/
theorem neverFilled_step
    (state : State)
    (action : Action)
    (neverFilled : NeverFilled state) :
    NeverFilled (step procChannel mempool port state action) := by
  cases action with
  | getExternalPkts burst =>
      exact neverFilled
  | sendToPacketiser =>
      exact neverFilled
  | getFromPacketiser =>
      exact neverFilled
  | sendPktsOut lcoreId accepts =>
      simp only [step]
      split
      · exact neverFilled
      · exact neverFilled
  | elsewhere rings pools =>
      exact neverFilled

/-- In every state of the engine `FROM_PACKETISER` is empty. -/
theorem neverFilled_run
    (eal : Eal)
    (actions : List Action) :
    NeverFilled
      (run (step procChannel mempool port) (start eal) actions) := by
  have atStart : NeverFilled (start eal) :=
    rfl
  exact run_invariant (neverFilled_step procChannel mempool port)
    atStart actions

/--
In every state that the engine reaches, a call of `get_from_packetiser` moves
what it should exactly if no packet waits in the processor's ring.
-/
theorem collected_iff_nothing_waits
    (eal : Eal)
    (actions : List Action) :
    let state := run (step procChannel mempool port) (start eal) actions
    Collected procChannel mempool state
        (Engine.getFromPacketiser procChannel mempool state.fromPacketiser
          state.outPkts state.eal) ↔
      waiting procChannel state.eal = [] := by
  intro state
  have neverFilled : state.fromPacketiser = [] :=
    neverFilled_run procChannel mempool port eal actions
  rw [neverFilled, getFromPacketiser_nil]
  constructor
  · intro isCollected
    have noneMovable : movable procChannel mempool state.eal = 0 := by
      have lengths := congrArg List.length isCollected.collected
      simp only [List.length_append, List.length_take, movable] at lengths
      unfold movable
      omega
    have counted := isCollected.counted
    rw [noneMovable, Nat.sub_zero] at counted
    exact List.length_eq_zero_iff.mp counted.symm
  · intro nothingWaits
    refine ⟨?_, ?_, ?_⟩
    · simp [nothingWaits]
    · simp [nothingWaits]
    · simp [nothingWaits]

end Run

/-- The packetiser puts one packet on its ring and one buffer is free. -/
def onePacketWaits : Action :=
  .elsewhere
    (Function.update (fun _ => BoundedFifo.empty 511) 20 {
      capacity := 511
      entries := [.reset 1 100 fun _ => 8]
      fits := by
        decide
    })
    (Function.update (fun _ => []) 1 [.reset 1 200 fun _ => 0])

/-- The packet stays on the ring and the call returns 0. -/
theorem not_collected_one_packet :
    let state :=
      run (step EngineIngress.procChannel ⟨1⟩ ⟨0⟩)
        (start EngineIngress.withPacketiser) [onePacketWaits]
    ¬ Collected EngineIngress.procChannel ⟨1⟩ state
      (Engine.getFromPacketiser EngineIngress.procChannel ⟨1⟩
        state.fromPacketiser state.outPkts state.eal) := by
  intro state isCollected
  have lengths := congrArg List.length isCollected.collected
  exact absurd lengths (by decide)

end VDataplane.EngineCollect
