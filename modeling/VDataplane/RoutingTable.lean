import VDataplane.GuardedRun
import VDataplane.Ipv4Hdr
import VDataplane.PartialMap

namespace VDataplane

open GuardedRun

/-!
# The routing table

The `RoutingTable` of the packetiser keeps a map from addresses to client ids
and one from client ids to addresses, which are meant to be inverse to each
other.  Additions update both maps, removals only the one that their argument
is a key of.
-/

/-- The two maps between clients and their addresses. -/
structure RoutingTable where
  ipIdMap : PartialMap Ipv4Addr UInt16
  idIpMap : PartialMap UInt16 Ipv4Addr

namespace RoutingTable

/-- `RoutingTable::new`. -/
def new : RoutingTable where
  ipIdMap :=
    PartialMap.empty
  idIpMap :=
    PartialMap.empty

/-- `RoutingTable::add_client`. -/
def addClient
    (table : RoutingTable)
    (clientId : UInt16)
    (clientIp : Ipv4Addr) :
    RoutingTable where
  ipIdMap :=
    table.ipIdMap.insert clientIp clientId
  idIpMap :=
    table.idIpMap.insert clientId clientIp

/-- `RoutingTable::remove_by_id`. -/
def removeById
    (table : RoutingTable)
    (clientId : UInt16) :
    RoutingTable :=
  { table with idIpMap := table.idIpMap.erase clientId }

/-- `RoutingTable::remove_by_ip`. -/
def removeByIp
    (table : RoutingTable)
    (clientIp : Ipv4Addr) :
    RoutingTable :=
  { table with ipIdMap := table.ipIdMap.erase clientIp }

/-- `RoutingTable::lookup_by_ip`. -/
def lookupByIp
    (table : RoutingTable)
    (clientIp : Ipv4Addr) :
    Bool :=
  (table.ipIdMap clientIp).isSome

/-- `RoutingTable::lookup_by_id`. -/
def lookupById
    (table : RoutingTable)
    (clientId : UInt16) :
    Bool :=
  (table.idIpMap clientId).isSome

/-- `RoutingTable::id_from_ip`: 0 for an unknown address. -/
def idFromIp
    (table : RoutingTable)
    (clientIp : Ipv4Addr) :
    UInt16 :=
  match table.ipIdMap clientIp with
  | some clientId =>
      clientId
  | none =>
      0

/-- An id other than the sentinel is returned exactly for the addresses mapped to it. -/
theorem idFromIp_eq_iff
    {table : RoutingTable}
    {clientId : UInt16}
    {clientIp : Ipv4Addr}
    (notSentinel : clientId ≠ 0) :
    table.idFromIp clientIp = clientId ↔
      table.ipIdMap clientIp = some clientId := by
  unfold idFromIp
  cases table.ipIdMap clientIp with
  | some mapped =>
      simp
  | none =>
      simp [notSentinel.symm]

/-- One call that changes the table. -/
inductive Call where
  | addClient (clientId : UInt16) (clientIp : Ipv4Addr)
  | removeById (clientId : UInt16)
  | removeByIp (clientIp : Ipv4Addr)
  deriving Repr, DecidableEq

/-- Execute one call. -/
def step (table : RoutingTable) : Call → RoutingTable
  | .addClient clientId clientIp =>
      table.addClient clientId clientIp
  | .removeById clientId =>
      table.removeById clientId
  | .removeByIp clientIp =>
      table.removeByIp clientIp

/-- Each map of the table is the reverse reading of the other. -/
def MapsInverse (table : RoutingTable) : Prop :=
  table.ipIdMap.Inverse table.idIpMap

/-- What a removal promises: nothing leads to what was removed any more. -/
def Forgotten (table : RoutingTable) : Call → Prop
  | .addClient .. =>
      True
  | .removeById clientId =>
      (∀ clientIp, table.ipIdMap clientIp ≠ some clientId) ∧
        (clientId ≠ 0 → ∀ clientIp, table.idFromIp clientIp ≠ clientId)
  | .removeByIp clientIp =>
      ∀ clientId, table.idIpMap clientId ≠ some clientIp

/--
A call that touches no pair of the table but its own: an addition whose id and
address are unused or already paired with each other, a removal of something
that is not in the map it is removed from.
-/
def Fresh (table : RoutingTable) : Call → Prop
  | .addClient clientId clientIp =>
      (∀ other, table.ipIdMap clientIp = some other → other = clientId) ∧
        ∀ other, table.idIpMap clientId = some other → other = clientIp
  | .removeById clientId =>
      table.idIpMap clientId = none
  | .removeByIp clientIp =>
      table.ipIdMap clientIp = none

/-- The maps of a new table are inverse. -/
theorem mapsInverse_new : MapsInverse new :=
  PartialMap.Inverse.empty_empty

/-- A call keeps inverse maps inverse exactly when it is fresh. -/
theorem mapsInverse_step_iff
    (table : RoutingTable)
    (call : Call)
    (inverse : MapsInverse table) :
    MapsInverse (table.step call) ↔ Fresh table call := by
  cases call with
  | addClient clientId clientIp =>
      exact inverse.insert_iff clientIp clientId
  | removeById clientId =>
      exact inverse.erase_right_iff clientId
  | removeByIp clientIp =>
      exact inverse.erase_left_iff clientIp

/-- Where the maps are inverse after a removal, the removal kept its promise. -/
theorem forgotten_of_mapsInverse
    {table : RoutingTable}
    {call : Call}
    (inverse : MapsInverse (table.step call)) :
    Forgotten (table.step call) call := by
  cases call with
  | addClient clientId clientIp =>
      trivial
  | removeById clientId =>
      have unmapped :
          ∀ clientIp,
            (table.removeById clientId).ipIdMap clientIp ≠ some clientId := by
        intro clientIp mapped
        have back := (inverse clientIp clientId).mp mapped
        simp [step, removeById] at back
      refine ⟨unmapped, ?_⟩
      intro notSentinel clientIp returned
      exact unmapped clientIp ((idFromIp_eq_iff notSentinel).mp returned)
  | removeByIp clientIp =>
      intro clientId mapped
      have forth := (inverse clientIp clientId).mpr mapped
      simp [step, removeByIp] at forth

/-- Every removal of a run of fresh calls keeps its promise. -/
theorem everyStep_forgotten
    {calls : List Call}
    (fresh : EveryStep step Fresh new calls) :
    EveryStep step
      (fun table call => Forgotten (table.step call) call) new calls := by
  have preserved :
      ∀ table call,
        MapsInverse table → Fresh table call → MapsInverse (table.step call) := by
    intro table call inverse isFresh
    exact (mapsInverse_step_iff table call inverse).mpr isFresh
  refine everyStep_of_guarded preserved ?_ mapsInverse_new fresh
  intro table call inverse isFresh
  exact forgotten_of_mapsInverse (preserved table call inverse isFresh)

/--
The maps are inverse in every state of a run, and every removal keeps its
promise, exactly if every call of the run is fresh.
-/
theorem always_mapsInverse_iff_fresh (calls : List Call) :
    (Always step MapsInverse new calls ∧
        EveryStep step
          (fun table call => Forgotten (table.step call) call) new calls) ↔
      EveryStep step Fresh new calls := by
  rw [always_iff_guarded mapsInverse_step_iff mapsInverse_new calls]
  constructor
  · intro both
    exact both.1
  · intro fresh
    exact ⟨fresh, everyStep_forgotten fresh⟩

/-- After client 2 is removed by its id, its address still leads to it. -/
theorem not_forgotten_removeById :
    ¬ (Always step MapsInverse new
          [.addClient 2 ⟨10, 0, 0, 2⟩, .removeById 2] ∧
        EveryStep step
          (fun table call => Forgotten (table.step call) call) new
          [.addClient 2 ⟨10, 0, 0, 2⟩, .removeById 2]) := by
  rintro ⟨_, _, ⟨unmapped, _⟩, _⟩
  exact unmapped ⟨10, 0, 0, 2⟩ rfl

end RoutingTable

end VDataplane
