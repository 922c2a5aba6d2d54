import VDataplane.ClientIsolation
import VDataplane.Custody

namespace VDataplane.InFlight

open Custody GuardedRun

/-!
# Packets in flight when a client leaves

Removing a client from the map drops its channel, and dropping a ring frees the
ring and nothing else.  A ring holds raw pointers whose wrappers were forgotten
when they were enqueued, so nobody is left who could free the packets on it.

The buffers of a mempool are followed through whole runs of arrivals, traffic
and departures: they are free, in a ring of a client, or held by a caller.
-/

/-- The client map, the environment, and the buffers that callers hold. -/
structure State where
  map : RingClientMap
  eal : Eal
  held : List RteMbuf

/--
A call of the client map, an allocation or a release by a caller, or what the
process at the other end of a ring does to it.
-/
inductive Action where
  | addClient (clientId : UInt16) (e2c c2e : Dpdk.Allocation)
  | removeClient (clientId : UInt16)
  | alloc (mp : Mempool)
  | drop (index : Nat)
  | send (clientId : UInt16) (index : Nat)
  | sendBulk (clientId : UInt16) (count : Nat)
  | receive (clientId : UInt16) (index : Nat)
  | receiveBulk
      (clientId : UInt16)
      (count : Nat)
      (rxBurstMax : UInt64)
      (allocated : Bool)
  | peerEnqueues (clientId : UInt16) (rtype : RingType) (index : Nat)
  | peerDequeues (clientId : UInt16) (rtype : RingType)

/-- The state before the first client, with all buffers in their mempools. -/
def start (eal : Eal) : State where
  map :=
    .new
  eal :=
    eal
  held :=
    []

/-- A step with a buffer that a caller holds, if there is one at that index. -/
def withHeld
    (state : State)
    (index : Nat)
    (act : RteMbuf → State) :
    State :=
  match state.held[index]? with
  | none =>
      state
  | some mbuf =>
      act mbuf

/-- A step with the channel of a client, if the client has one. -/
def withChannel
    (state : State)
    (clientId : UInt16)
    (act : Channel → State) :
    State :=
  match state.map.ringmap clientId with
  | none =>
      state
  | some channel =>
      act channel

/-- Execute one action; one that faults leaves everything where it was. -/
def step (state : State) : Action → State
  | .addClient clientId e2c c2e =>
      let (_, map, eal) := state.map.addClient clientId e2c c2e state.eal
      { state with
        map := map
        eal := eal }
  | .removeClient clientId =>
      let (map, eal) := state.map.removeClient clientId state.eal
      { state with
        map := map
        eal := eal }
  | .alloc mp =>
      match Mbuf.new mp state.eal with
      | (.error _, eal) =>
          { state with eal := eal }
      | (.ok pkt, eal) =>
          { state with
            eal := eal
            held := pkt.raw :: state.held }
  | .drop index =>
      withHeld state index fun mbuf =>
        { state with
          eal := (Mbuf.mk mbuf).drop state.eal
          held := state.held.eraseIdx index }
  | .send clientId index =>
      withHeld state index fun mbuf =>
        let (_, eal) := state.map.send clientId ⟨mbuf⟩ state.eal
        { state with
          eal := eal
          held := state.held.eraseIdx index }
  | .sendBulk clientId count =>
      let pkts := (state.held.take count).map Mbuf.mk
      let (_, eal) := state.map.sendBulk clientId pkts state.eal
      { state with
        eal := eal
        held := state.held.drop count }
  | .receive clientId index =>
      withHeld state index fun mbuf =>
        let (_, pkt, eal) := state.map.receive clientId ⟨mbuf⟩ state.eal
        { state with
          eal := eal
          held := state.held.set index pkt.raw }
  | .receiveBulk clientId count rxBurstMax allocated =>
      let pkts := (state.held.take count).map Mbuf.mk
      match
        state.map.receiveBulk clientId pkts rxBurstMax allocated state.eal with
      | .error _ =>
          state
      | .ok (_, pkts, eal) =>
          { state with
            eal := eal
            held := pkts.map Mbuf.raw ++ state.held.drop count }
  | .peerEnqueues clientId rtype index =>
      withChannel state clientId fun channel =>
        withHeld state index fun mbuf =>
          match (state.eal.rings (channel.ring rtype).raw).push? mbuf with
          | none =>
              state
          | some pushed =>
              { state with
                eal := state.eal.setRing (channel.ring rtype).raw pushed
                held := state.held.eraseIdx index }
  | .peerDequeues clientId rtype =>
      withChannel state clientId fun channel =>
        match (state.eal.rings (channel.ring rtype).raw).pop? with
        | none =>
            state
        | some (oldest, popped) =>
            { state with
              eal := state.eal.setRing (channel.ring rtype).raw popped
              held := oldest :: state.held }

/-- The buffers of a mempool that are free, on a ring of a client, or held by a caller. -/
def census
    (pool : Address)
    (state : State) :
    Multiset Address :=
  tally pool (state.eal.pools pool) +
    inRings pool state.map state.eal +
    tally pool state.held

/-- All buffers of every mempool are accounted for, each of them once. -/
def Accounted
    (initial : Eal)
    (state : State) :
    Prop :=
  ∀ pool, census pool state = tally pool (initial.pools pool)

/-- A removal returns the packets in the client's rings to their mempools. -/
def ReturnsInFlight (state : State) : Action → Prop
  | .removeClient clientId =>
      Returned (queued state.map state.eal clientId) state.eal.pools
        (step state (.removeClient clientId)).eal.pools
  | _ =>
      True

/--
A removal finds both rings of its client empty.  A send finds room on the ring,
and a receive finds no packet there; the bulk calls pass no buffers, or fault
before they touch the ring.
-/
def NothingToLose (state : State) : Action → Prop
  | .removeClient clientId =>
      ∀ channel,
        state.map.ringmap clientId = some channel →
        ∀ rtype, (state.eal.rings (channel.ring rtype).raw).entries = []
  | .send clientId index =>
      ∀ channel,
        state.map.ringmap clientId = some channel →
        index < state.held.length →
        0 < (state.eal.rings channel.engineToClient.raw).room
  | .sendBulk clientId count =>
      state.map.ringmap clientId = none ∨ state.held.take count = []
  | .receive clientId index =>
      ∀ channel,
        state.map.ringmap clientId = some channel →
        index < state.held.length →
        (state.eal.rings channel.clientToEngine.raw).entries = []
  | .receiveBulk clientId count rxBurstMax allocated =>
      ∀ channel,
        state.map.ringmap clientId = some channel →
        Ring.BurstFits ((state.held.take count).map Mbuf.mk)
          rxBurstMax allocated →
        (state.held.take count).length % 2 ^ 32 = 0 ∨
          (state.eal.rings channel.clientToEngine.raw).entries = []
  | _ =>
      True

/-- The buffers that an action leaves nowhere. -/
def lost (state : State) : Action → List RteMbuf
  | .removeClient clientId =>
      queued state.map state.eal clientId
  | .send clientId index =>
      match state.map.ringmap clientId, state.held[index]? with
      | some channel, some mbuf =>
          if 0 < (state.eal.rings channel.engineToClient.raw).room then
            []
          else
            [mbuf]
      | _, _ =>
          []
  | .sendBulk clientId count =>
      match state.map.ringmap clientId with
      | none =>
          []
      | some _ =>
          state.held.take count
  | .receive clientId index =>
      match state.map.ringmap clientId, state.held[index]? with
      | some channel, some _ =>
          (state.eal.rings channel.clientToEngine.raw).entries.take 1
      | _, _ =>
          []
  | .receiveBulk clientId count rxBurstMax allocated =>
      match state.map.ringmap clientId with
      | none =>
          []
      | some channel =>
          if Ring.BurstFits ((state.held.take count).map Mbuf.mk)
              rxBurstMax allocated then
            (state.eal.rings channel.clientToEngine.raw).entries.take
              ((state.held.take count).length % 2 ^ 32)
          else
            []
  | _ =>
      []

/-- The free buffers of every mempool belong to it, and the map is backed by its rings. -/
structure Sound (state : State) : Prop where
  atHome :
    ∀ pool, ∀ mbuf ∈ state.eal.pools pool, mbuf.pool = pool
  backed :
    state.map.Backed state.eal

/-- What a step does: it keeps the state sound and loses these buffers. -/
structure Loses
    (before after : State)
    (buffers : List RteMbuf) :
    Prop where
  sound :
    Sound after
  census :
    ∀ pool,
      census pool after + tally pool buffers = census pool before

/-! ## Steps -/

/-- Buffers that come back to their own mempools are at home there. -/
theorem atHome_of_returned
    {freed : List RteMbuf}
    {before after : Address → List RteMbuf}
    (returned : Returned freed before after)
    (atHome : ∀ pool, ∀ mbuf ∈ before pool, mbuf.pool = pool) :
    ∀ pool, ∀ mbuf ∈ after pool, mbuf.pool = pool := by
  intro pool mbuf member
  rw [(returned pool).mem_iff, List.mem_append, List.mem_filter,
    decide_eq_true_iff] at member
  rcases member with ⟨_, isHome⟩ | wasFree
  · exact isHome
  · exact atHome pool mbuf wasFree

section Steps

variable {state : State}

/-- A step that does nothing loses nothing. -/
theorem loses_nothing
    (sound : Sound state) :
    Loses state state [] where
  sound :=
    sound
  census _ :=
    add_zero _

/-- Buffers that leave the caller for their mempools are not lost. -/
theorem loses_freed
    (sound : Sound state)
    {freed kept : List RteMbuf}
    {after : Eal}
    (reordered : state.held.Perm (freed ++ kept))
    (returned : Returned freed state.eal.pools after.pools)
    (sameRings : after.rings = state.eal.rings)
    (sameRegistry : after.ringTailq = state.eal.ringTailq) :
    Loses state { state with eal := after, held := kept } [] where
  sound := {
    atHome := atHome_of_returned returned sound.atHome
    backed := sound.backed.of_ringTailq_eq sameRegistry
  }
  census pool := by
    simp only [census, tally_returned returned, tally_perm reordered,
      tally_append, inRings_congr pool sameRings, tally_nil]
    abel

/-- Buffers whose wrappers are forgotten are lost. -/
theorem loses_forgotten
    (sound : Sound state)
    {forgotten kept : List RteMbuf}
    (reordered : state.held.Perm (forgotten ++ kept)) :
    Loses state { state with held := kept } forgotten where
  sound :=
    ⟨sound.atHome, sound.backed⟩
  census pool := by
    simp only [census, tally_perm reordered, tally_append]
    abel

/-- A buffer that moves from the caller to a ring is not lost. -/
theorem loses_pushed
    (sound : Sound state)
    {index : Nat}
    {mbuf : RteMbuf}
    (found : state.held[index]? = some mbuf)
    {clientId : UInt16}
    {channel : Channel}
    (present : state.map.ringmap clientId = some channel)
    (rtype : RingType)
    {pushed : RteRing}
    (accepts :
      (state.eal.rings (channel.ring rtype).raw).push? mbuf =
        some pushed) :
    Loses state {
        state with
        eal := state.eal.setRing (channel.ring rtype).raw pushed
        held := state.held.eraseIdx index
      } [] where
  sound := {
    atHome := sound.atHome
    backed := sound.backed.of_ringTailq_eq rfl
  }
  census pool := by
    simp only [census, inRings_push pool sound.backed present rtype accepts,
      tally_perm (perm_eraseIdx found), tally_append, tally_nil,
      Eal.setRing_pools]
    abel

/-- The state after an addition, whatever its result. -/
theorem step_addClient
    (clientId : UInt16)
    (e2c c2e : Dpdk.Allocation) :
    step state (.addClient clientId e2c c2e) =
      ⟨(state.map.addClient clientId e2c c2e state.eal).2.1,
        (state.map.addClient clientId e2c c2e state.eal).2.2,
        state.held⟩ := by
  rcases outcome : state.map.addClient clientId e2c c2e state.eal with
    ⟨result, map, after⟩
  simp only [step, outcome]

/-- The state after a removal. -/
theorem step_removeClient (clientId : UInt16) :
    step state (.removeClient clientId) =
      ⟨(state.map.removeClient clientId state.eal).1,
        (state.map.removeClient clientId state.eal).2,
        state.held⟩ := by
  rcases outcome : state.map.removeClient clientId state.eal with
    ⟨map, after⟩
  simp only [step, outcome]

/-- An addition loses nothing, whether it succeeds or fails. -/
theorem loses_addClient
    (sound : Sound state)
    (clientId : UInt16)
    (e2c c2e : Dpdk.Allocation) :
    Loses state (step state (.addClient clientId e2c c2e)) [] := by
  have backedAfter := sound.backed.addClient clientId e2c c2e
  have samePools :=
    (inRings_addClient 0 sound.backed clientId e2c c2e).2
  rw [step_addClient]
  refine ⟨⟨?_, backedAfter⟩, ?_⟩
  · dsimp only
    rw [samePools]
    exact sound.atHome
  · intro pool
    have sameRings :=
      (inRings_addClient pool sound.backed clientId e2c c2e).1
    simp only [census, sameRings, samePools, tally_nil, add_zero]

/-- A removal loses what its client's rings hold. -/
theorem loses_removeClient
    (sound : Sound state)
    (clientId : UInt16) :
    Loses state (step state (.removeClient clientId))
      (queued state.map state.eal clientId) := by
  have backedAfter := sound.backed.removeClient clientId
  have samePools :=
    (inRings_removeClient 0 state.map clientId state.eal).2
  rw [step_removeClient]
  refine ⟨⟨?_, backedAfter⟩, ?_⟩
  · dsimp only
    rw [samePools]
    exact sound.atHome
  · intro pool
    have fewer :=
      (inRings_removeClient pool state.map clientId state.eal).1
    simp only [census, ← fewer, samePools]
    abel

/-- An allocated buffer moves from its mempool to the caller. -/
theorem loses_alloc
    (sound : Sound state)
    (mp : Mempool) :
    Loses state (step state (.alloc mp)) [] := by
  rcases Mbuf.new_cases mp state.eal with
    ⟨_, failed⟩ | ⟨mbuf, free, shape, created⟩
  · simp only [step, failed]
    exact loses_nothing sound
  · have homed := sound.atHome mp.raw
    rw [shape] at homed
    obtain ⟨ownPool, restHomed⟩ := List.forall_mem_cons.mp homed
    simp only [step, created]
    refine ⟨⟨?_, sound.backed.of_ringTailq_eq rfl⟩, ?_⟩
    · intro pool
      by_cases same : pool = mp.raw
      · subst same
        simpa using restHomed
      · simpa [same] using sound.atHome pool
    · intro pool
      have sameRings :
          inRings pool state.map (state.eal.setPool mp.raw free) =
            inRings pool state.map state.eal :=
        inRings_congr pool rfl
      have sameBuffer : tally pool [mbuf.recycled] = tally pool [mbuf] := by
        by_cases same : mbuf.pool = pool <;>
          simp [tally, RteMbuf.recycled, same]
      simp only [census, sameRings, tally_cons pool _ state.held,
        sameBuffer, Eal.setPool_pools, tally_nil, add_zero]
      by_cases same : pool = mp.raw
      · subst same
        rw [Function.update_self, shape, tally_cons _ _ free]
        abel
      · have elsewhere : tally pool [mbuf] = 0 := by
          apply tally_of_ne
          rw [ownPool]
          exact Ne.symm same
        rw [Function.update_of_ne same, elsewhere, zero_add]

/-- A released buffer goes back to its mempool. -/
theorem loses_drop
    (sound : Sound state)
    (index : Nat) :
    Loses state (step state (.drop index)) [] := by
  cases found : state.held[index]? with
  | none =>
      simp only [step, withHeld, found]
      exact loses_nothing sound
  | some mbuf =>
      simp only [step, withHeld, found]
      exact loses_freed sound (perm_eraseIdx found)
        (Mbuf.returned_drop ⟨mbuf⟩ state.eal) rfl rfl

/-- A send loses a packet that the full ring refuses. -/
theorem loses_send
    (sound : Sound state)
    (clientId : UInt16)
    (index : Nat) :
    Loses state (step state (.send clientId index))
      (lost state (.send clientId index)) := by
  cases found : state.held[index]? with
  | none =>
      cases present : state.map.ringmap clientId <;>
        simpa only [step, withHeld, lost, found, present] using
          loses_nothing sound
  | some mbuf =>
      cases present : state.map.ringmap clientId with
      | none =>
          simp only [step, withHeld, lost, found, present,
            RingClientMap.send]
          exact loses_freed sound (perm_eraseIdx found)
            (Mbuf.returned_drop ⟨mbuf⟩ state.eal) rfl rfl
      | some channel =>
          rcases channel.engineToClient.enqueue_cases ⟨mbuf⟩ state.eal with
            ⟨full, refused⟩ | ⟨pushed, accepts, enqueued⟩
          · have noRoom :
                ¬ 0 < (state.eal.rings channel.engineToClient.raw).room := by
              rw [BoundedFifo.push?_eq_none_iff] at full
              exact full.not_gt
            simp only [step, withHeld, lost, found, present,
              RingClientMap.send, Channel.sendToClient, refused, noRoom,
              ↓reduceIte]
            exact loses_forgotten sound (perm_eraseIdx found)
          · have room := (BoundedFifo.push?_eq_some_iff.mp accepts).1
            simp only [step, withHeld, lost, found, present,
              RingClientMap.send, Channel.sendToClient, enqueued, room,
              ↓reduceIte]
            exact loses_pushed sound found present .e2c accepts

/-- A bulk send loses all its packets. -/
theorem loses_sendBulk
    (sound : Sound state)
    (clientId : UInt16)
    (count : Nat) :
    Loses state (step state (.sendBulk clientId count))
      (lost state (.sendBulk clientId count)) := by
  have reordered :
      state.held.Perm (state.held.take count ++ state.held.drop count) := by
    rw [List.take_append_drop]
  have samePkts :
      ((state.held.take count).map Mbuf.mk).map Mbuf.raw =
        state.held.take count := by
    rw [List.map_map]
    exact List.map_id _
  cases present : state.map.ringmap clientId with
  | none =>
      have returned :=
        Mbuf.returned_dropAll ((state.held.take count).map Mbuf.mk)
          state.eal
      rw [samePkts] at returned
      simp only [step, lost, present, RingClientMap.sendBulk]
      exact loses_freed sound reordered returned
        (Mbuf.dropAll_rings _ _) (Mbuf.dropAll_ringTailq _ _)
  | some channel =>
      simp only [step, lost, present, RingClientMap.sendBulk,
        Channel.sendToClientBulk, Ring.enqueueBulk_eq]
      exact loses_forgotten sound reordered

/-- A receive loses the packet that it takes off the ring. -/
theorem loses_receive
    (sound : Sound state)
    (clientId : UInt16)
    (index : Nat) :
    Loses state (step state (.receive clientId index))
      (lost state (.receive clientId index)) := by
  cases found : state.held[index]? with
  | none =>
      cases present : state.map.ringmap clientId <;>
        simpa only [step, withHeld, lost, found, present] using
          loses_nothing sound
  | some mbuf =>
      have sameHeld : state.held.set index mbuf = state.held := by
        obtain ⟨isIndex, rfl⟩ := List.getElem?_eq_some_iff.mp found
        exact List.set_getElem_self isIndex
      cases present : state.map.ringmap clientId with
      | none =>
          simpa only [step, withHeld, lost, found, present,
            RingClientMap.receive, sameHeld] using loses_nothing sound
      | some channel =>
          rcases channel.clientToEngine.dequeue_cases ⟨mbuf⟩ state.eal with
            ⟨isEmpty, failed⟩ | ⟨oldest, popped, taken, dequeued⟩
          · rw [BoundedFifo.pop?_eq_none_iff] at isEmpty
            simpa only [step, withHeld, lost, found, present,
              RingClientMap.receive, Channel.receiveFromClient, failed,
              sameHeld, isEmpty, List.take_nil] using loses_nothing sound
          · have entries := (BoundedFifo.pop?_eq_some_iff.mp taken).2
            simp only [step, withHeld, lost, found, present,
              RingClientMap.receive, Channel.receiveFromClient, dequeued,
              sameHeld, entries, List.take_succ_cons, List.take_zero]
            refine ⟨⟨sound.atHome, sound.backed.of_ringTailq_eq rfl⟩, ?_⟩
            intro pool
            have fewer :=
              inRings_pop pool sound.backed present .c2e taken
            simp only [Channel.ring] at fewer
            simp only [census, ← fewer, Eal.setRing_pools]
            abel

/-- A bulk receive loses all packets that it takes off the ring. -/
theorem loses_receiveBulk
    (sound : Sound state)
    (clientId : UInt16)
    (count : Nat)
    (rxBurstMax : UInt64)
    (allocated : Bool) :
    Loses state
      (step state (.receiveBulk clientId count rxBurstMax allocated))
      (lost state (.receiveBulk clientId count rxBurstMax allocated)) := by
  have sameHeld :
      ((state.held.take count).map Mbuf.mk).map Mbuf.raw ++
          state.held.drop count =
        state.held := by
    rw [List.map_map]
    exact (congrArg (· ++ state.held.drop count) (List.map_id _)).trans
      (List.take_append_drop _ _)
  rcases state.map.receiveBulk_cases clientId
      ((state.held.take count).map Mbuf.mk) rxBurstMax allocated
      state.eal with
    ⟨absent, notFound⟩ | ⟨channel, present, fits, taken⟩ |
      ⟨channel, present, noFit, fault, failed⟩
  · simpa only [step, lost, absent, notFound, sameHeld] using
      loses_nothing sound
  · simp only [step, lost, present, fits, taken, sameHeld, if_true,
      List.length_map]
    refine ⟨⟨sound.atHome, sound.backed.of_ringTailq_eq rfl⟩, ?_⟩
    intro pool
    have fewer := inRings_drop pool sound.backed present .c2e
      ((state.held.take count).length % 2 ^ 32)
    simp only [Channel.ring] at fewer
    simp only [census, ← fewer, Eal.setRing_pools]
    abel
  · simpa only [step, lost, present, noFit, failed, if_false] using
      loses_nothing sound

/-- A peer that enqueues moves a buffer, if there is room. -/
theorem loses_peerEnqueues
    (sound : Sound state)
    (clientId : UInt16)
    (rtype : RingType)
    (index : Nat) :
    Loses state (step state (.peerEnqueues clientId rtype index)) [] := by
  cases present : state.map.ringmap clientId with
  | none =>
      simpa only [step, withChannel, present] using loses_nothing sound
  | some channel =>
      cases found : state.held[index]? with
      | none =>
          simpa only [step, withChannel, withHeld, present, found] using
            loses_nothing sound
      | some mbuf =>
          cases offered :
              (state.eal.rings (channel.ring rtype).raw).push? mbuf with
          | none =>
              simpa only [step, withChannel, withHeld, present, found,
                offered] using loses_nothing sound
          | some pushed =>
              simp only [step, withChannel, withHeld, present, found,
                offered]
              exact loses_pushed sound found present rtype offered

/-- A peer that dequeues moves a packet from the ring to itself. -/
theorem loses_peerDequeues
    (sound : Sound state)
    (clientId : UInt16)
    (rtype : RingType) :
    Loses state (step state (.peerDequeues clientId rtype)) [] := by
  cases present : state.map.ringmap clientId with
  | none =>
      simpa only [step, withChannel, present] using loses_nothing sound
  | some channel =>
      cases taken : (state.eal.rings (channel.ring rtype).raw).pop? with
      | none =>
          simpa only [step, withChannel, present, taken] using
            loses_nothing sound
      | some pair =>
          obtain ⟨oldest, popped⟩ := pair
          simp only [step, withChannel, present, taken]
          refine ⟨⟨sound.atHome, sound.backed.of_ringTailq_eq rfl⟩, ?_⟩
          intro pool
          have fewer := inRings_pop pool sound.backed present rtype taken
          simp only [census, ← fewer, tally_cons pool oldest state.held,
            tally_nil, Eal.setRing_pools]
          abel

/-- What each action loses. -/
theorem loses_step
    (sound : Sound state)
    (action : Action) :
    Loses state (step state action) (lost state action) := by
  cases action with
  | addClient clientId e2c c2e =>
      exact loses_addClient sound clientId e2c c2e
  | removeClient clientId =>
      exact loses_removeClient sound clientId
  | alloc mp =>
      exact loses_alloc sound mp
  | drop index =>
      exact loses_drop sound index
  | send clientId index =>
      exact loses_send sound clientId index
  | sendBulk clientId count =>
      exact loses_sendBulk sound clientId count
  | receive clientId index =>
      exact loses_receive sound clientId index
  | receiveBulk clientId count rxBurstMax allocated =>
      exact loses_receiveBulk sound clientId count rxBurstMax allocated
  | peerEnqueues clientId rtype index =>
      exact loses_peerEnqueues sound clientId rtype index
  | peerDequeues clientId rtype =>
      exact loses_peerDequeues sound clientId rtype

/-- A removal changes no mempool, so it returns packets only where there are none. -/
theorem returnsInFlight_iff
    (state : State)
    (clientId : UInt16) :
    ReturnsInFlight state (.removeClient clientId) ↔
      queued state.map state.eal clientId = [] := by
  have samePools :
      (step state (.removeClient clientId)).eal.pools = state.eal.pools := by
    rw [step_removeClient]
    exact (inRings_removeClient 0 state.map clientId state.eal).2
  rw [ReturnsInFlight, samePools]
  constructor
  · exact Returned.eq_nil
  · intro isEmpty
    rw [isEmpty]
    exact .nil _

end Steps

section Losses

variable {state : State}

theorem queued_eq_nil_iff (clientId : UInt16) :
    queued state.map state.eal clientId = [] ↔
      NothingToLose state (.removeClient clientId) := by
  cases present : state.map.ringmap clientId with
  | none =>
      simp [queued_of_absent present, NothingToLose, present]
  | some channel =>
      rw [queued_of_present present, List.append_eq_nil_iff]
      simp only [NothingToLose, present, Option.some.injEq,
        forall_eq']
      constructor
      · rintro ⟨c2eEmpty, e2cEmpty⟩ rtype
        cases rtype with
        | c2e =>
            exact c2eEmpty
        | e2c =>
            exact e2cEmpty
      · intro bothEmpty
        exact ⟨bothEmpty .c2e, bothEmpty .e2c⟩

/-- An action loses nothing exactly when there is nothing to lose. -/
theorem lost_eq_nil_iff (action : Action) :
    lost state action = [] ↔ NothingToLose state action := by
  cases action with
  | removeClient clientId =>
      exact queued_eq_nil_iff clientId
  | send clientId index =>
      cases present : state.map.ringmap clientId with
      | none =>
          simp [lost, NothingToLose, present]
      | some channel =>
          cases found : state.held[index]? with
          | none =>
              have beyond := List.getElem?_eq_none_iff.mp found
              simp [lost, NothingToLose, present, beyond.not_gt]
          | some mbuf =>
              have isIndex := (List.getElem?_eq_some_iff.mp found).1
              simp [lost, NothingToLose, present, isIndex]
  | sendBulk clientId count =>
      cases present : state.map.ringmap clientId <;>
        simp [lost, NothingToLose, present]
  | receive clientId index =>
      cases present : state.map.ringmap clientId with
      | none =>
          simp [lost, NothingToLose, present]
      | some channel =>
          cases found : state.held[index]? with
          | none =>
              have beyond := List.getElem?_eq_none_iff.mp found
              simp [lost, NothingToLose, present, beyond.not_gt]
          | some mbuf =>
              have isIndex := (List.getElem?_eq_some_iff.mp found).1
              simp [lost, NothingToLose, present, isIndex,
                List.take_eq_nil_iff]
  | receiveBulk clientId count rxBurstMax allocated =>
      cases present : state.map.ringmap clientId <;>
        simp [lost, NothingToLose, present, List.take_eq_nil_iff]
  | _ =>
      exact iff_of_true rfl trivial

/-- A step that loses nothing keeps all buffers accounted for, and no other step does. -/
theorem accounted_step_iff
    {initial : Eal}
    (sound : Sound state)
    (accounted : Accounted initial state)
    (action : Action) :
    Accounted initial (step state action) ↔ NothingToLose state action := by
  have loses := loses_step sound action
  rw [← lost_eq_nil_iff]
  constructor
  · intro stillAccounted
    apply eq_nil_of_tally_eq_zero
    intro pool
    have sameCensus := loses.census pool
    rwa [stillAccounted pool, accounted pool, add_eq_left] at sameCensus
  · intro nothing pool
    have sameCensus := loses.census pool
    rwa [nothing, tally_nil, add_zero, accounted pool] at sameCensus

/-- What returns the packets in flight as well. -/
theorem returnsInFlight_of_nothingToLose
    {action : Action}
    (nothing : NothingToLose state action) :
    ReturnsInFlight state action := by
  cases action with
  | removeClient clientId =>
      exact (returnsInFlight_iff state clientId).mpr
        ((queued_eq_nil_iff clientId).mpr nothing)
  | _ =>
      trivial

end Losses

/-! ## Runs -/

/-- A sound state in which every buffer is accounted for. -/
structure Followed
    (initial : Eal)
    (state : State) :
    Prop where
  sound :
    Sound state
  accounted :
    Accounted initial state

/-- In the beginning all buffers are free. -/
theorem followed_start
    {eal : Eal}
    (atHome : ∀ pool, ∀ mbuf ∈ eal.pools pool, mbuf.pool = pool) :
    Followed eal (start eal) where
  sound :=
    ⟨atHome, RingClientMap.backed_new eal⟩
  accounted pool := by
    have noRings : inRings pool .new eal = 0 :=
      Finset.sum_eq_zero fun _ _ => rfl
    simp only [census, start, noRings, tally_nil, add_zero]

/--
In every run of arrivals, traffic and departures, removals return the packets
in flight and every buffer stays accounted for, exactly if every removal finds
both rings of its client empty and no other call meets a packet or a ring that
it would lose a buffer to.
-/
theorem inFlight_returned_iff_nothingToLose
    {eal : Eal}
    (atHome : ∀ pool, ∀ mbuf ∈ eal.pools pool, mbuf.pool = pool)
    (actions : List Action) :
    (EveryStep step ReturnsInFlight (start eal) actions ∧
        Always step (Accounted eal) (start eal) actions) ↔
      EveryStep step NothingToLose (start eal) actions := by
  have atStart := followed_start atHome
  rw [always_iff_everyStep, and_iff_right atStart.accounted,
    ← everyStep_and]
  apply everyStep_iff_guarded ?_ ?_ atStart
  · intro state action followed nothing
    exact {
      sound := (loses_step followed.sound action).sound
      accounted :=
        (accounted_step_iff followed.sound followed.accounted action).mpr
          nothing
    }
  · intro state action followed
    rw [accounted_step_iff followed.sound followed.accounted,
      and_iff_right_iff_imp]
    exact returnsInFlight_of_nothingToLose

/-- One free buffer in mempool 1. -/
def oneBuffer : Eal :=
  Eal.initial.setPool 1 [.reset 1 100 fun _ => 0]

theorem atHome_oneBuffer :
    ∀ pool, ∀ mbuf ∈ oneBuffer.pools pool, mbuf.pool = pool := by
  intro pool
  by_cases same : pool = 1
  · subst same
    simp [oneBuffer, RteMbuf.reset]
  · simp [oneBuffer, same, Eal.initial]

/-- A packet passes a client's ring before the client leaves. -/
theorem inFlight_returned_passed_packet :
    EveryStep step ReturnsInFlight (start oneBuffer) [
        .alloc ⟨1⟩,
        .addClient 2 (.ok 40) (.ok 50),
        .send 2 0,
        .peerDequeues 2 .e2c,
        .removeClient 2
      ] ∧
      Always step (Accounted oneBuffer) (start oneBuffer) [
        .alloc ⟨1⟩,
        .addClient 2 (.ok 40) (.ok 50),
        .send 2 0,
        .peerDequeues 2 .e2c,
        .removeClient 2
      ] := by
  apply (inFlight_returned_iff_nothingToLose atHome_oneBuffer _).mpr
  refine ⟨trivial, trivial, ?_, trivial, ?_, trivial⟩
  · rintro channel present -
    obtain rfl := Option.some.inj present
    decide
  · rintro channel present rtype
    obtain rfl := Option.some.inj present
    cases rtype <;> rfl

/-- A packet that waits when its client is removed is nowhere afterwards. -/
theorem not_inFlight_returned_waiting_packet :
    ¬ (EveryStep step ReturnsInFlight (start oneBuffer) [
          .alloc ⟨1⟩,
          .addClient 2 (.ok 40) (.ok 50),
          .send 2 0,
          .removeClient 2
        ] ∧
      Always step (Accounted oneBuffer) (start oneBuffer) [
          .alloc ⟨1⟩,
          .addClient 2 (.ok 40) (.ok 50),
          .send 2 0,
          .removeClient 2
        ]) := by
  rintro ⟨⟨_, _, _, returns, _⟩, _⟩
  have isEmpty := (returnsInFlight_iff _ 2).mp returns
  cases isEmpty

end VDataplane.InFlight
