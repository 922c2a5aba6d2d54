import VDataplane.FreeBulk
import VDataplane.Port

namespace VDataplane.PortSend

/-!
# Disposing of transmitted packets

`Port::send` gives up a vector of packets: the NIC takes over the first ones
and the others should be freed.  The length that the burst gets has 16 bits,
so the NIC never sees more than the first `length % 65536` packets; and when it
does not take all packets, the code frees all of them.
-/

/-- How many packets the NIC takes over: as many as the driver wants of those that are offered. -/
def taken
    (pkts : List Mbuf)
    (accepts : Nat) :
    Nat :=
  min accepts (pkts.length % 2 ^ 16)

/-- The batches in which `mbuf_free_bulk` frees a list of packets. -/
def batches (pkts : List Mbuf) : List Dpdk.PutBulk :=
  Mbuf.mbufFreeBulk (pkts.map Mbuf.raw)

/--
A 32-bit number can count every stretch of packets of which all but the first
belong to the pool of the very first packet.
-/
def Countable (pkts : List Mbuf) : Prop :=
  ∀ first ∈ pkts.head?,
    StretchesCountable first.raw.pool (pkts.map Mbuf.raw)

/--
Every packet was disposed of once: the first `count` ones belong to the NIC,
each of the others was freed once, and none is in both places.
-/
structure DisposedOnce
    (pkts : List Mbuf)
    (count : Nat)
    (sent : Transmission) :
    Prop where
  returnsCount :
    sent.count = count
  onNic :
    sent.onNic = (pkts.map Mbuf.raw).take count
  freed :
    (sent.freed.flatMap Dpdk.PutBulk.objects).Perm
      ((pkts.map Mbuf.raw).drop count)
  apart :
    ∀ mbuf ∈ sent.onNic,
      mbuf ∉ sent.freed.flatMap Dpdk.PutBulk.objects

/-- A send returns what the NIC took; unless that is everything, all packets are freed. -/
theorem send_eq
    (port : Port)
    (pkts : List Mbuf)
    (queueId : UInt16)
    (accepts : Nat) :
    port.send pkts queueId accepts =
      .ok {
        count := taken pkts accepts
        onNic := (pkts.map Mbuf.raw).take (taken pkts accepts)
        freed := if taken pkts accepts < pkts.length then batches pkts else []
      } := by
  have samePtrs : pkts.map Mbuf.intoPtr = pkts.map Mbuf.raw :=
    rfl
  have offered :
      (UInt16.ofNat (pkts.map Mbuf.raw).length).toNat =
        pkts.length % 2 ^ 16 := by
    simp
  simp only [Port.send, Dpdk.rteEthTxBurst, samePtrs, offered]
  change (if taken pkts accepts < pkts.length then _ else _) = _
  split
  · next fewer =>
      have nonEmpty : pkts.map Mbuf.raw ≠ [] := by
        rintro isEmpty
        rw [List.map_eq_nil_iff.mp isEmpty] at fewer
        exact absurd fewer (Nat.not_lt_zero _)
      rw [Mbuf.apis_mbufFreeBulk_eq nonEmpty]
      rfl
  · next all =>
      rfl

/-- What the code frees is short of all packets by a multiple of `2 ^ 32`. -/
theorem length_batches (pkts : List Mbuf) :
    ∃ wraps,
      pkts.length =
          ((batches pkts).flatMap Dpdk.PutBulk.objects).length +
            2 ^ 32 * wraps ∧
        (wraps = 0 → TablesCountable (batches pkts)) := by
  have counts := Mbuf.mbufFreeBulk_countsTables (pkts.map Mbuf.raw)
  have lengths := counts.length_flatMap_objects
  rwa [Mbuf.mbufFreeBulk_objTables, List.length_map] at lengths

/-- The batches are as long as the stretches. -/
theorem tablesCountable_batches_iff (pkts : List Mbuf) :
    TablesCountable (batches pkts) ↔ Countable pkts := by
  cases pkts with
  | nil =>
      simp [batches, Mbuf.mbufFreeBulk, TablesCountable, Countable]
  | cons first rest =>
      have byStretches :
          TablesCountable (batches (first :: rest)) ↔
            StretchesCountable first.raw.pool
              ((first :: rest).map Mbuf.raw) :=
        Mbuf.tablesCountable_freeLoop_iff first.raw.pool
          ((first :: rest).map Mbuf.raw) (by simp)
      rw [byStretches, Countable]
      simp

/--
`Port::send` disposes of every packet once exactly if the NIC takes all packets
or none, the latter as long as no stretch of packets of one pool is too long for
a 32-bit count.
-/
theorem disposedOnce_iff_all_or_none
    (port : Port)
    (pkts : List Mbuf)
    (queueId : UInt16)
    (accepts : Nat) :
    (∃ sent,
      port.send pkts queueId accepts = .ok sent ∧
        DisposedOnce pkts (taken pkts accepts) sent) ↔
      taken pkts accepts = pkts.length ∨
        taken pkts accepts = 0 ∧ Countable pkts := by
  have notMore : taken pkts accepts ≤ pkts.length :=
    (Nat.min_le_right _ _).trans (Nat.mod_le _ _)
  have sixteenBits : taken pkts accepts < 2 ^ 16 :=
    (Nat.min_le_right _ _).trans_lt (Nat.mod_lt _ (by decide))
  rw [send_eq, ← tablesCountable_batches_iff]
  constructor
  · rintro ⟨sent, isSent, disposed⟩
    obtain rfl := Except.ok.inj isSent
    by_cases all : taken pkts accepts = pkts.length
    · exact Or.inl all
    · right
      have fewer := Nat.lt_of_le_of_ne notMore all
      obtain ⟨wraps, sameLength, countable⟩ := length_batches pkts
      have freedLength := disposed.freed.length_eq
      simp only [fewer, ↓reduceIte, List.length_drop, List.length_map]
        at freedLength
      have noWrap : wraps = 0 := by
        omega
      exact ⟨by omega, countable noWrap⟩
  · intro allOrNone
    refine ⟨_, rfl, rfl, rfl, ?_, ?_⟩
    · by_cases fewer : taken pkts accepts < pkts.length
      · obtain ⟨none, countable⟩ :=
          allOrNone.resolve_left (Nat.ne_of_lt fewer)
        have counts := Mbuf.mbufFreeBulk_countsTables (pkts.map Mbuf.raw)
        have allFreed := counts.flatMap_objects countable
        rw [Mbuf.mbufFreeBulk_objTables] at allFreed
        rw [if_pos fewer, none, List.drop_zero]
        exact .of_eq allFreed
      · have all := Nat.le_antisymm notMore (Nat.not_lt.mp fewer)
        simp [all]
    · rcases allOrNone with all | ⟨none, _⟩
      · simp [all]
      · simp [none]

/-- A packet of the given address. -/
def packet (address : Address) : Mbuf where
  raw :=
    .reset 1 address fun _ => 0

/-- Of two packets the NIC takes one; the code frees both. -/
theorem not_disposedOnce_one_of_two :
    ¬ ∃ sent,
      (Port.mk 0).send [packet 100, packet 200] 1 1 = .ok sent ∧
        DisposedOnce [packet 100, packet 200] 1 sent := by
  rintro ⟨sent, isSent, disposed⟩
  obtain rfl := Except.ok.inj isSent
  have twoFreed := disposed.freed.length_eq
  exact absurd twoFreed (by decide)

end VDataplane.PortSend
