import VDataplane.PacketiserClients
import VDataplane.Pools

namespace VDataplane

/-!
# Burst receive

`Ring::dequeue_burst` takes packets off a ring and should leave them in the
caller's vector.  The library writes the dequeued pointers into a temporary
array that holds a copy of the vector's pointers, so the vector keeps its own
blank buffers.  The two functions of the packetiser that receive bursts queue
these blank buffers, and the dequeued packets are nowhere.
-/

namespace Packetiser

/-- The ring over which the engine sends to the packetiser. -/
def ingress
    (packetiser : Packetiser)
    (eal : Eal) :
    RteRing :=
  eal.rings packetiser.channel.engineToClient.raw

/-- The buffers that a receiving function creates first. -/
def blanks
    (packetiser : Packetiser)
    (eal : Eal) :
    List Mbuf :=
  Mbuf.createdUpTo packetiser.mempool burstMax eal

/-- The environment while these buffers are out of their mempool. -/
def withdrawn
    (packetiser : Packetiser)
    (eal : Eal) :
    Eal :=
  eal.setPool packetiser.mempool.raw
    ((eal.pools packetiser.mempool.raw).drop burstMax)

/-- How many packets a burst takes: no more than wait, are asked for, or find a free buffer. -/
def burst
    (packetiser : Packetiser)
    (eal : Eal) :
    Nat :=
  min (min burstMax (eal.pools packetiser.mempool.raw).length)
    (packetiser.ingress eal).entries.length

/-- What both receiving functions leave behind. -/
def received
    (packetiser : Packetiser)
    (eal : Eal) :
    Packetiser × Eal :=
  let count := packetiser.burst eal
  ({
    packetiser with
    iBufqueue :=
      packetiser.iBufqueue ++ (packetiser.blanks eal).take count
  },
    Mbuf.dropAll ((packetiser.blanks eal).drop count)
      ((packetiser.withdrawn eal).setRing
        packetiser.channel.engineToClient.raw
        ((packetiser.ingress eal).drop count)))

section Receive

variable
  (packetiser : Packetiser)
  (eal : Eal)

@[simp] theorem length_blanks :
    (packetiser.blanks eal).length =
      min burstMax (eal.pools packetiser.mempool.raw).length :=
  Mbuf.length_createdUpTo _ _ _

/-- Creating the buffers withdraws them from their mempool. -/
theorem createUpTo_blanks :
    Mbuf.createUpTo packetiser.mempool burstMax [] eal =
      (packetiser.blanks eal, packetiser.withdrawn eal) := by
  rw [Mbuf.createUpTo_eq, List.nil_append]
  rfl

/-- A burst for the buffers just created takes `burst` packets and leaves the buffers. -/
theorem takeBurst_blanks :
    packetiser.channel.engineToClient.takeBurst (packetiser.blanks eal)
        (packetiser.withdrawn eal) =
      (packetiser.burst eal, packetiser.blanks eal,
        (packetiser.withdrawn eal).setRing
          packetiser.channel.engineToClient.raw
          ((packetiser.ingress eal).drop (packetiser.burst eal))) := by
  have atMost : (packetiser.blanks eal).length ≤ burstMax := by
    rw [length_blanks]
    exact Nat.min_le_left _ _
  have small : (packetiser.blanks eal).length % 2 ^ 32 =
      min burstMax (eal.pools packetiser.mempool.raw).length := by
    rw [Nat.mod_eq_of_lt (atMost.trans_lt (by decide)), length_blanks]
  have sameDrop :
      (packetiser.ingress eal).drop
          (min burstMax (eal.pools packetiser.mempool.raw).length) =
        (packetiser.ingress eal).drop (packetiser.burst eal) := by
    ext1
    · rfl
    · simp only [BoundedFifo.drop_entries, burst]
      rw [List.drop_eq_drop_iff]
      omega
  rw [Ring.takeBurst_eq, Ring.burstCount, small, ← sameDrop]
  rfl

/-- `recv_from_engine_burst` of the channel is that burst, as long as there is memory for it. -/
theorem recvFromEngineBurst_blanks :
    packetiser.channel.recvFromEngineBurst (packetiser.blanks eal)
        (UInt64.ofNat (packetiser.blanks eal).length) true
        (packetiser.withdrawn eal) =
      .ok (packetiser.channel.engineToClient.takeBurst
        (packetiser.blanks eal) (packetiser.withdrawn eal)) := by
  have atMost : (packetiser.blanks eal).length ≤ burstMax := by
    rw [length_blanks]
    exact Nat.min_le_left _ _
  have converted :
      (UInt64.ofNat (packetiser.blanks eal).length).toNat ≤ burstMax :=
    (Nat.mod_le _ _).trans atMost
  apply Ring.dequeueBurst_of_fits
  refine ⟨?_, Or.inr rfl⟩
  have atMostBoth := max_le converted atMost
  rw [burstMax] at atMostBoth
  omega

/-- `store_incoming` is one burst. -/
theorem storeIncoming_eq :
    packetiser.storeIncoming eal =
      (.ok (), packetiser.received eal) := by
  simp only [storeIncoming, createUpTo_blanks,
    takeBurst_blanks packetiser eal]
  rfl

/-- `recv_from_engine_burst` leaves behind the same, even where it fails. -/
theorem recvFromEngineBurst_eq :
    (packetiser.recvFromEngineBurst eal).2 = packetiser.received eal := by
  simp only [recvFromEngineBurst, createUpTo_blanks,
    takeBurst_blanks packetiser eal]
  split
  · next noBuffer =>
      have noBlanks := List.length_eq_zero_iff.mp noBuffer
      have nothing : packetiser.burst eal = 0 := by
        rw [length_blanks] at noBuffer
        rw [burst, noBuffer, Nat.zero_min]
      have sameIngress :
          (packetiser.withdrawn eal).rings
              packetiser.channel.engineToClient.raw =
            (packetiser.ingress eal).drop 0 :=
        rfl
      simp only [received, noBlanks, nothing, ← sameIngress,
        Eal.setRing_self]
      simp
  · split
    · rfl
    · next isZero =>
        simp only [ne_eq, not_not] at isZero
        simp [received, isZero]

/-- `recv_from_engine_burst` fails exactly when no buffer is free. -/
theorem recvFromEngineBurst_result :
    (packetiser.recvFromEngineBurst eal).1 =
      if eal.pools packetiser.mempool.raw = [] then
        .error (.new eal.errno)
      else
        .ok (packetiser.burst eal) := by
  have noBlanks :
      (packetiser.blanks eal).length = 0 ↔
        eal.pools packetiser.mempool.raw = [] := by
    simp [burstMax]
  simp only [recvFromEngineBurst, createUpTo_blanks,
    takeBurst_blanks packetiser eal, noBlanks]
  split
  · rfl
  · split
    · rfl
    · rfl

end Receive

end Packetiser

namespace BurstReceive

/--
What `dequeue_burst` leaves: the first buffers of the caller's vector are the
packets that the ring has lost from its head.
-/
structure Filled
    (ring : Ring)
    (pkts : List Mbuf)
    (rxBurstMax : UInt64)
    (before : Eal)
    (outcome : Nat × List Mbuf × Eal) :
    Prop where
  bounded :
    outcome.1 ≤ min pkts.length rxBurstMax.toNat
  inOrder :
    (outcome.2.1.take outcome.1).map Mbuf.raw =
      (before.rings ring.raw).entries.take outcome.1
  removed :
    (outcome.2.2.rings ring.raw).entries =
      (before.rings ring.raw).entries.drop outcome.1

/-- `dequeue_burst` returns and hands over what it takes. -/
def HandsOver
    (ring : Ring)
    (pkts : List Mbuf)
    (rxBurstMax : UInt64)
    (allocated : Bool)
    (before : Eal) :
    Prop :=
  ∃ outcome,
    ring.dequeueBurst pkts rxBurstMax allocated before = .ok outcome ∧
      Filled ring pkts rxBurstMax before outcome

/-- There is memory for the pointers, and the burst takes nothing. -/
def TakesNothing
    (ring : Ring)
    (pkts : List Mbuf)
    (rxBurstMax : UInt64)
    (allocated : Bool)
    (eal : Eal) :
    Prop :=
  Ring.BurstFits pkts rxBurstMax allocated ∧
    (pkts.length % 2 ^ 32 = 0 ∨ (eal.rings ring.raw).entries = [])

/--
A burst moved packets from the ring to `i_bufqueue`, and every buffer involved
is in one place: on the ring, in the queue or back in its mempool.
-/
structure Received
    (packetiser : Packetiser)
    (before : Eal)
    (outcome : Packetiser × Eal) :
    Prop where
  appended :
    outcome.1.iBufqueue.map Mbuf.raw =
      packetiser.iBufqueue.map Mbuf.raw ++
        (packetiser.ingress before).entries.take (packetiser.burst before)
  removed :
    (packetiser.ingress outcome.2).entries =
      (packetiser.ingress before).entries.drop (packetiser.burst before)
  onePlace :
    ∃ returned,
      Returned returned
          (packetiser.withdrawn before).pools outcome.2.pools ∧
        (((packetiser.ingress outcome.2).entries ++
              outcome.1.iBufqueue.map Mbuf.raw ++ returned).map
            RteMbuf.address).Perm
          (((packetiser.ingress before).entries ++
              packetiser.iBufqueue.map Mbuf.raw ++
              (packetiser.blanks before).map Mbuf.raw).map
            RteMbuf.address)

/-- A burst fills the vector with what it takes exactly if it takes nothing. -/
theorem filled_iff
    {ring : Ring}
    {pkts : List Mbuf}
    {eal : Eal}
    (owned : ∀ pkt ∈ pkts, pkt.raw ∉ (eal.rings ring.raw).entries)
    (rxBurstMax : UInt64) :
    Filled ring pkts rxBurstMax eal (ring.takeBurst pkts eal) ↔
      pkts.length % 2 ^ 32 = 0 ∨ (eal.rings ring.raw).entries = [] := by
  have takesNothing :
      ring.burstCount pkts eal = 0 ↔
        pkts.length % 2 ^ 32 = 0 ∨ (eal.rings ring.raw).entries = [] := by
    rw [Ring.burstCount, Nat.min_eq_zero_iff, List.length_eq_zero_iff]
  rw [Ring.takeBurst_eq, ← takesNothing]
  constructor
  · intro filled
    by_contra takesSome
    have inOrder :
        (pkts.take (ring.burstCount pkts eal)).map Mbuf.raw =
          (eal.rings ring.raw).entries.take (ring.burstCount pkts eal) :=
      filled.inOrder
    have someWait : (eal.rings ring.raw).entries ≠ [] := by
      intro noneWait
      exact takesSome (takesNothing.mpr (Or.inr noneWait))
    have someBuffer : pkts ≠ [] := by
      rintro rfl
      exact takesSome (takesNothing.mpr (Or.inl rfl))
    obtain ⟨oldest, later, queued⟩ := List.exists_cons_of_ne_nil someWait
    obtain ⟨buffer, others, vector⟩ := List.exists_cons_of_ne_nil someBuffer
    obtain ⟨count, isSucc⟩ := Nat.exists_eq_succ_of_ne_zero takesSome
    have sameFirst : buffer.raw = oldest := by
      rw [isSucc, queued, vector] at inOrder
      exact (List.cons.inj inOrder).1
    apply owned buffer (by simp [vector])
    rw [sameFirst, queued]
    exact List.mem_cons_self
  · intro takesNone
    have nothingLost :
        (eal.rings ring.raw).entries.drop (pkts.length % 2 ^ 32) =
          (eal.rings ring.raw).entries := by
      rcases takesNothing.mp takesNone with noBuffer | isEmpty
      · rw [noBuffer, List.drop_zero]
      · rw [isEmpty, List.drop_nil]
    refine ⟨?_, ?_, ?_⟩
    · simp only [takesNone]
      exact Nat.zero_le _
    · simp only [takesNone, List.take_zero, List.map_nil]
    · simp only [takesNone, Eal.setRing_rings, Function.update_self,
        BoundedFifo.drop_entries, nothingLost, List.drop_zero]

/-- `dequeue_burst` hands over what it takes exactly if it returns and takes nothing. -/
theorem handsOver_iff
    {ring : Ring}
    {pkts : List Mbuf}
    {eal : Eal}
    (owned : ∀ pkt ∈ pkts, pkt.raw ∉ (eal.rings ring.raw).entries)
    (rxBurstMax : UInt64)
    (allocated : Bool) :
    HandsOver ring pkts rxBurstMax allocated eal ↔
      TakesNothing ring pkts rxBurstMax allocated eal := by
  by_cases fits : Ring.BurstFits pkts rxBurstMax allocated
  · have returns := ring.dequeueBurst_of_fits fits eal
    rw [TakesNothing, and_iff_right fits, ← filled_iff owned rxBurstMax]
    constructor
    · rintro ⟨outcome, sameOutcome, filled⟩
      rw [returns, Except.ok.injEq] at sameOutcome
      rwa [sameOutcome]
    · intro filled
      exact ⟨_, returns, filled⟩
  · obtain ⟨fault, ends⟩ := ring.dequeueBurst_of_not_fits fits eal
    refine iff_of_false ?_ fun takesNothing => fits takesNothing.1
    rintro ⟨outcome, returns, _⟩
    rw [ends] at returns
    cases returns

/-- The packetiser receives a burst as it should exactly if the burst is empty. -/
theorem received_iff
    (packetiser : Packetiser)
    (eal : Eal) :
    Received packetiser eal (packetiser.received eal) ↔
      eal.pools packetiser.mempool.raw = [] ∨
        (packetiser.ingress eal).entries = [] := by
  have takesNothing :
      packetiser.burst eal = 0 ↔
        eal.pools packetiser.mempool.raw = [] ∨
          (packetiser.ingress eal).entries = [] := by
    simp [Packetiser.burst, Packetiser.burstMax]
  have atMostBlanks :
      packetiser.burst eal ≤ (packetiser.blanks eal).length := by
    rw [Packetiser.length_blanks]
    exact Nat.min_le_left _ _
  have atMostQueued :
      packetiser.burst eal ≤ (packetiser.ingress eal).entries.length :=
    Nat.min_le_right _ _
  have ingressAfter :
      (packetiser.ingress (packetiser.received eal).2).entries =
        (packetiser.ingress eal).entries.drop (packetiser.burst eal) := by
    simp [Packetiser.received, Packetiser.ingress]
  have queueAfter :
      (packetiser.received eal).1.iBufqueue.map Mbuf.raw =
        packetiser.iBufqueue.map Mbuf.raw ++
          ((packetiser.blanks eal).take (packetiser.burst eal)).map
            Mbuf.raw := by
    simp [Packetiser.received]
  have givenBack :
      Returned
        (((packetiser.blanks eal).drop (packetiser.burst eal)).map Mbuf.raw)
        (packetiser.withdrawn eal).pools
        (packetiser.received eal).2.pools :=
    Mbuf.returned_dropAll _ _
  rw [← takesNothing]
  constructor
  · intro isReceived
    obtain ⟨returned, back, samePlaces⟩ := isReceived.onePlace
    have sameReturned := (back.perm givenBack).length_eq
    have sameCount := samePlaces.length_eq
    simp only [List.length_map, List.length_append, List.length_drop,
      ingressAfter, queueAfter, sameReturned, List.length_take] at sameCount
    omega
  · intro takesNone
    refine ⟨?_, ingressAfter, _, givenBack, ?_⟩
    · simp [queueAfter, takesNone]
    · simp [ingressAfter, queueAfter, takesNone]

/--
Burst receive hands over what it takes exactly if it takes nothing, in
`dequeue_burst`, provided that there is memory for its pointers, and in both of
its callers.  The buffers of the vector belong to the caller, so none of them is
on the ring.
-/
theorem burstReceive_iff_takes_nothing
    {ring : Ring}
    {pkts : List Mbuf}
    {eal : Eal}
    (owned : ∀ pkt ∈ pkts, pkt.raw ∉ (eal.rings ring.raw).entries)
    (rxBurstMax : UInt64)
    (allocated : Bool)
    (packetiser : Packetiser) :
    (HandsOver ring pkts rxBurstMax allocated eal ↔
        TakesNothing ring pkts rxBurstMax allocated eal) ∧
      (Received packetiser eal (packetiser.recvFromEngineBurst eal).2 ↔
        eal.pools packetiser.mempool.raw = [] ∨
          (packetiser.ingress eal).entries = []) ∧
      (Received packetiser eal (packetiser.storeIncoming eal).2 ↔
        eal.pools packetiser.mempool.raw = [] ∨
          (packetiser.ingress eal).entries = []) := by
  rw [packetiser.recvFromEngineBurst_eq, packetiser.storeIncoming_eq]
  exact ⟨handsOver_iff owned rxBurstMax allocated,
    received_iff packetiser eal, received_iff packetiser eal⟩

/-- The engine's ring with one packet on it. -/
def onePacket : Eal :=
  PacketiserClients.engineEal.setRing 10 {
    capacity := Ring.ringCapacity - 1
    entries := [.reset 30 200 fun _ => 8]
    fits := by
      decide
  }

/-- A vector with one blank buffer. -/
def oneBlank : List Mbuf :=
  [⟨.reset 30 100 fun _ => 0⟩]

/-- A burst from a ring with one packet, by a packetiser without free buffers. -/
theorem burstReceive_one_packet :
    (HandsOver ⟨1, .e2c, 10⟩ oneBlank 1 true onePacket ↔
        TakesNothing ⟨1, .e2c, 10⟩ oneBlank 1 true onePacket) ∧
      (Received PacketiserClients.newPacketiser onePacket
          (PacketiserClients.newPacketiser.recvFromEngineBurst onePacket).2 ↔
        onePacket.pools 30 = [] ∨
          (PacketiserClients.newPacketiser.ingress onePacket).entries = []) ∧
      (Received PacketiserClients.newPacketiser onePacket
          (PacketiserClients.newPacketiser.storeIncoming onePacket).2 ↔
        onePacket.pools 30 = [] ∨
          (PacketiserClients.newPacketiser.ingress onePacket).entries = []) :=
  burstReceive_iff_takes_nothing
    (by simp [oneBlank, onePacket, RteMbuf.reset]) 1 true
    PacketiserClients.newPacketiser

/-- The packet is taken off the ring and the vector still holds its blank buffer. -/
theorem not_handsOver_one_packet :
    ¬ HandsOver ⟨1, .e2c, 10⟩ oneBlank 1 true onePacket := by
  rintro ⟨outcome, returns, filled⟩
  have fits : Ring.BurstFits oneBlank 1 true := by
    decide
  rw [Ring.dequeueBurst_of_fits _ fits, Except.ok.injEq] at returns
  have sameAddresses := congrArg (List.map RteMbuf.address) filled.inOrder
  rw [← returns] at sameAddresses
  exact absurd sameAddresses (by decide)

end BurstReceive

end VDataplane
