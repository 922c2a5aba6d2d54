import VDataplane.LastWriters
import VDataplane.RoutingTable
import VDataplane.TwoPartCalls

namespace VDataplane.RoutingTable

open GuardedRun Interleaving LastWriters TwoPartCalls

/-!
# Concurrent updates of the routing table

The table is shared and its maps lock themselves, so that each insertion and
each removal is one atomic step.  An addition is two of them, and steps of other
threads may come in between.  Each map alone is then as after the same calls in
some order, but the order may differ between the maps.  Whether one order does
for both depends on the calls that may have written the entries last.
-/

/-- One atomic step on one of the two maps. -/
inductive MapStep where
  | insertIp (clientIp : Ipv4Addr) (clientId : UInt16)
  | insertId (clientId : UInt16) (clientIp : Ipv4Addr)
  | removeId (clientId : UInt16)
  | removeIp (clientIp : Ipv4Addr)
  deriving Repr, DecidableEq

/-- Take one atomic step. -/
def mapStep (table : RoutingTable) : MapStep → RoutingTable
  | .insertIp clientIp clientId =>
      { table with ipIdMap := table.ipIdMap.insert clientIp clientId }
  | .insertId clientId clientIp =>
      { table with idIpMap := table.idIpMap.insert clientId clientIp }
  | .removeId clientId =>
      { table with idIpMap := table.idIpMap.erase clientId }
  | .removeIp clientIp =>
      { table with ipIdMap := table.ipIdMap.erase clientIp }

/-- The steps of a call, in program order. -/
def Call.steps : Call → List MapStep
  | .addClient clientId clientIp =>
      [.insertIp clientIp clientId, .insertId clientId clientIp]
  | .removeById clientId =>
      [.removeId clientId]
  | .removeByIp clientIp =>
      [.removeIp clientIp]

/-- Without interference a call is the sequence of its steps. -/
theorem run_steps
    (table : RoutingTable)
    (call : Call) :
    run mapStep table call.steps = table.step call := by
  cases call <;> rfl

section Threads

variable
  {Thread : Type*}
  [DecidableEq Thread]

/-- A trace interleaves the map steps of the calls that every thread makes. -/
def Interleaves
    (programs : Thread → List Call)
    (trace : List (Thread × MapStep)) :
    Prop :=
  Merges (fun thread => (programs thread).flatMap Call.steps) trace

/-! ## Each map alone -/

/-- The call that takes its step on `ip_id_map`, or its only step, here. -/
def MapStep.opens : MapStep → Option Call
  | .insertIp clientIp clientId =>
      some (.addClient clientId clientIp)
  | .insertId .. =>
      none
  | .removeId clientId =>
      some (.removeById clientId)
  | .removeIp clientIp =>
      some (.removeByIp clientIp)

/-- The call that takes its step on `id_ip_map`, or its only step, here. -/
def MapStep.closes : MapStep → Option Call
  | .insertIp .. =>
      none
  | .insertId clientId clientIp =>
      some (.addClient clientId clientIp)
  | .removeId clientId =>
      some (.removeById clientId)
  | .removeIp clientIp =>
      some (.removeByIp clientIp)

/-- The calls of a trace, in the order of one particular step of each. -/
def orderBy
    (extract : MapStep → Option Call)
    (trace : List (Thread × MapStep)) :
    List (Thread × Call) :=
  trace.filterMap fun event =>
    (extract event.2).map fun call => (event.1, call)

/-- Taking one step of every call for the call keeps every thread's order. -/
theorem merges_orderBy
    {extract : MapStep → Option Call}
    (onePerCall : ∀ call : Call, call.steps.filterMap extract = [call])
    {programs : Thread → List Call}
    {trace : List (Thread × MapStep)}
    (interleaves : Interleaves programs trace) :
    Merges programs (orderBy extract trace) := by
  intro thread
  rw [orderBy, actionsOf_filterMap, interleaves thread,
    List.filterMap_flatMap]
  simp only [onePerCall, List.flatMap_singleton']

/-- Two tables agree on `ip_id_map`. -/
def SameIps (table other : RoutingTable) : Prop :=
  table.ipIdMap = other.ipIdMap

/-- Two tables agree on `id_ip_map`. -/
def SameIds (table other : RoutingTable) : Prop :=
  table.idIpMap = other.idIpMap

omit [DecidableEq Thread] in
/-- The first map is as if every addition had happened at its first step. -/
theorem ipIdMap_orderBy_opens
    (table : RoutingTable)
    (trace : List (Thread × MapStep)) :
    SameIps (execute mapStep table trace)
      (execute step table (orderBy MapStep.opens trace)) := by
  have skipped :
      ∀ {action : MapStep} {concurrent serial : RoutingTable},
        action.opens = none → SameIps concurrent serial →
        SameIps (concurrent.mapStep action) serial := by
    intro action concurrent serial notOpening same
    cases action with
    | insertId clientId clientIp =>
        exact same
    | _ =>
        cases notOpening
  have followed :
      ∀ {action : MapStep} {call : Call} {concurrent serial : RoutingTable},
        action.opens = some call → SameIps concurrent serial →
        SameIps (concurrent.mapStep action) (serial.step call) := by
    intro action call concurrent serial opening same
    cases action with
    | insertId clientId clientIp =>
        cases opening
    | insertIp clientIp clientId =>
        obtain rfl := Option.some.inj opening
        exact congrArg (PartialMap.insert · clientIp clientId) same
    | removeId clientId =>
        obtain rfl := Option.some.inj opening
        exact same
    | removeIp clientIp =>
        obtain rfl := Option.some.inj opening
        exact congrArg (PartialMap.erase · clientIp) same
  have atStart : SameIps table table :=
    rfl
  exact execute_filterMap skipped followed atStart trace

omit [DecidableEq Thread] in
/-- The second map is as if every addition had happened at its second step. -/
theorem idIpMap_orderBy_closes
    (table : RoutingTable)
    (trace : List (Thread × MapStep)) :
    SameIds (execute mapStep table trace)
      (execute step table (orderBy MapStep.closes trace)) := by
  have skipped :
      ∀ {action : MapStep} {concurrent serial : RoutingTable},
        action.closes = none → SameIds concurrent serial →
        SameIds (concurrent.mapStep action) serial := by
    intro action concurrent serial notClosing same
    cases action with
    | insertIp clientIp clientId =>
        exact same
    | _ =>
        cases notClosing
  have followed :
      ∀ {action : MapStep} {call : Call} {concurrent serial : RoutingTable},
        action.closes = some call → SameIds concurrent serial →
        SameIds (concurrent.mapStep action) (serial.step call) := by
    intro action call concurrent serial closing same
    cases action with
    | insertIp clientIp clientId =>
        cases closing
    | insertId clientId clientIp =>
        obtain rfl := Option.some.inj closing
        exact congrArg (PartialMap.insert · clientId clientIp) same
    | removeId clientId =>
        obtain rfl := Option.some.inj closing
        exact congrArg (PartialMap.erase · clientId) same
    | removeIp clientIp =>
        obtain rfl := Option.some.inj closing
        exact same
  have atStart : SameIds table table :=
    rfl
  exact execute_filterMap skipped followed atStart trace

/-! ## Both maps -/

/-- The key of a step on `ip_id_map`. -/
def MapStep.ipKey : MapStep → Option Ipv4Addr
  | .insertIp clientIp _
  | .removeIp clientIp =>
      some clientIp
  | .insertId ..
  | .removeId _ =>
      none

/-- The key of a step on `id_ip_map`. -/
def MapStep.idKey : MapStep → Option UInt16
  | .insertId clientId _
  | .removeId clientId =>
      some clientId
  | .insertIp ..
  | .removeIp _ =>
      none

/--
Between the two steps of every addition, the other threads leave the entry of
its address alone, or they leave the entry of its id alone.
-/
def Undisturbed : List (Thread × MapStep) → Prop
  | [] =>
      True
  | (thread, .insertIp clientIp clientId) :: rest =>
      (Meanwhile thread (fun other => other.ipKey ≠ some clientIp) rest ∨
          Meanwhile thread (fun other => other.idKey ≠ some clientId) rest) ∧
        Undisturbed rest
  | (_, .insertId ..) :: rest
  | (_, .removeId _) :: rest
  | (_, .removeIp _) :: rest =>
      Undisturbed rest

/-- The entry of `ip_id_map` that a call writes, and what it writes there. -/
def Call.ipEntry : Call → Option (Ipv4Addr × Option UInt16)
  | .addClient clientId clientIp =>
      some (clientIp, some clientId)
  | .removeById _ =>
      none
  | .removeByIp clientIp =>
      some (clientIp, none)

/-- The entry of `id_ip_map` that a call writes, and what it writes there. -/
def Call.idEntry : Call → Option (UInt16 × Option Ipv4Addr)
  | .addClient clientId clientIp =>
      some (clientId, some clientIp)
  | .removeById clientId =>
      some (clientId, none)
  | .removeByIp _ =>
      none

/-- The two steps of a call as parts; a removal has only one that does something. -/
def parts : Parts RoutingTable Call where
  first table call :=
    { table with ipIdMap := table.ipIdMap.write call.ipEntry }
  second table call :=
    { table with idIpMap := table.idIpMap.write call.idEntry }
  FirstApart one other :=
    PartialMap.Apart one.ipEntry other.ipEntry
  SecondApart one other :=
    PartialMap.Apart one.idEntry other.idEntry
  first_symm :=
    PartialMap.Apart.symm
  first_comm apart table := by
    rw [apart.write_comm]
  second_comm apart table := by
    rw [apart.write_comm]
  cross_comm _ _ _ :=
    rfl

/-- The part of a call that a step is; a removal is whole. -/
def MapStep.event : MapStep → Event Call
  | .insertIp clientIp clientId =>
      .first (.addClient clientId clientIp)
  | .insertId clientId clientIp =>
      .second (.addClient clientId clientIp)
  | .removeId clientId =>
      .whole (.removeById clientId)
  | .removeIp clientIp =>
      .whole (.removeByIp clientIp)

/-- Both parts of a call are the call. -/
theorem whole_eq_step : parts.whole = step := by
  funext table call
  cases call <;> rfl

/-- The part that a step is does what the step does. -/
theorem step_event
    (table : RoutingTable)
    (taken : MapStep) :
    parts.step table taken.event = table.mapStep taken := by
  cases taken <;> rfl

/-- The steps of calls perform the calls. -/
theorem performs_steps (calls : List Call) :
    Performs ((calls.flatMap Call.steps).map MapStep.event) calls := by
  induction calls with
  | nil =>
      exact .nil
  | cons call rest inductionHypothesis =>
      cases call with
      | addClient clientId clientIp =>
          exact .halves inductionHypothesis
      | removeById clientId =>
          exact .whole inductionHypothesis
      | removeByIp clientIp =>
          exact .whole inductionHypothesis

/-- The parts of a trace. -/
def events (trace : List (Thread × MapStep)) : List (Thread × Event Call) :=
  trace.map fun event => (event.1, event.2.event)

omit [DecidableEq Thread] in
theorem execute_events
    (table : RoutingTable)
    (trace : List (Thread × MapStep)) :
    execute parts.step table (events trace) =
      execute mapStep table trace := by
  induction trace generalizing table with
  | nil =>
      rfl
  | cons event rest inductionHypothesis =>
      exact (inductionHypothesis _).trans
        (congrArg (execute mapStep · rest) (step_event table event.2))

/-- A step that leaves the address's entry alone stays clear of the addition's first part. -/
theorem clearOfFirst_of_ipKey
    {clientIp : Ipv4Addr}
    (clientId : UInt16)
    {other : MapStep}
    (elsewhere : other.ipKey ≠ some clientIp) :
    parts.ClearOfFirst (.addClient clientId clientIp) other.event := by
  cases other with
  | insertIp otherIp otherId =>
      exact .of_ne (fun same => elsewhere (congrArg some same)) _ _
  | removeIp otherIp =>
      exact .of_ne (fun same => elsewhere (congrArg some same)) _ _
  | insertId otherId otherIp =>
      trivial
  | removeId otherId =>
      exact .none_left _

/-- A step that leaves the id's entry alone stays clear of the addition's second part. -/
theorem clearOfSecond_of_idKey
    {clientId : UInt16}
    (clientIp : Ipv4Addr)
    {other : MapStep}
    (elsewhere : other.idKey ≠ some clientId) :
    parts.ClearOfSecond (.addClient clientId clientIp) other.event := by
  cases other with
  | insertId otherId otherIp =>
      exact .of_ne (fun same => elsewhere (congrArg some same)) _ _
  | removeId otherId =>
      exact .of_ne (fun same => elsewhere (congrArg some same)) _ _
  | insertIp otherIp otherId =>
      trivial
  | removeIp otherIp =>
      exact .none_left _

/-- An undisturbed trace is one in terms of its parts. -/
theorem undisturbed_events
    {trace : List (Thread × MapStep)}
    (undisturbed : Undisturbed trace) :
    parts.Undisturbed (events trace) := by
  induction trace with
  | nil =>
      trivial
  | cons event rest inductionHypothesis =>
      obtain ⟨thread, taken⟩ := event
      cases taken with
      | insertIp clientIp clientId =>
          obtain ⟨alone, restUndisturbed⟩ := undisturbed
          refine ⟨alone.imp ?_ ?_, inductionHypothesis restUndisturbed⟩
          · intro meanwhile
            apply meanwhile_map
            refine Meanwhile.imp meanwhile ?_
            intro other elsewhere
            exact clearOfFirst_of_ipKey clientId elsewhere
          · intro meanwhile
            apply meanwhile_map
            refine Meanwhile.imp meanwhile ?_
            intro other elsewhere
            exact clearOfSecond_of_idKey clientIp elsewhere
      | _ =>
          exact inductionHypothesis undisturbed

/--
Whatever the interleaving, each of the two maps alone is the one that the same
calls produce one after the other in some order that respects every thread's
own.  One such order produces both maps whenever, between the two steps of
every addition, the other threads leave the entry of its address or the entry
of its id alone.
-/
theorem serializable_of_interleaves
    {programs : Thread → List Call}
    {trace : List (Thread × MapStep)}
    (interleaves : Interleaves programs trace)
    (table : RoutingTable) :
    (∃ order,
      Merges programs order ∧
        (execute mapStep table trace).ipIdMap =
          (execute step table order).ipIdMap) ∧
      (∃ order,
        Merges programs order ∧
          (execute mapStep table trace).idIpMap =
            (execute step table order).idIpMap) ∧
      (Undisturbed trace →
        ∃ order,
          Merges programs order ∧
            execute mapStep table trace = execute step table order) := by
  refine ⟨⟨orderBy MapStep.opens trace, ?_, ?_⟩,
    ⟨orderBy MapStep.closes trace, ?_, ?_⟩, ?_⟩
  · apply merges_orderBy ?_ interleaves
    intro call
    cases call <;> rfl
  · exact ipIdMap_orderBy_opens table trace
  · apply merges_orderBy ?_ interleaves
    intro call
    cases call <;> rfl
  · exact idIpMap_orderBy_closes table trace
  · intro undisturbed
    have performs :
        ∀ thread,
          Performs (actionsOf thread (events trace)) (programs thread) := by
      intro thread
      rw [events, actionsOf_map, interleaves thread]
      exact performs_steps (programs thread)
    obtain ⟨order, merges, sameEffect⟩ :=
      Parts.exists_serial_of_undisturbed performs
        (undisturbed_events undisturbed) table
    rw [whole_eq_step, execute_events] at sameEffect
    exact ⟨order, merges, sameEffect.symm⟩

/-! ## The last writers of the entries -/

/-- An entry of one of the two maps. -/
inductive Entry where
  | ip (clientIp : Ipv4Addr)
  | id (clientId : UInt16)
  deriving Repr, DecidableEq

namespace Entry

/-- What an entry can hold, if anything. -/
def Content : Entry → Type
  | .ip _ =>
      Option UInt16
  | .id _ =>
      Option Ipv4Addr

/-- What an entry holds. -/
def read : ∀ entry : Entry, RoutingTable → entry.Content
  | .ip clientIp, table =>
      table.ipIdMap clientIp
  | .id clientId, table =>
      table.idIpMap clientId

/-- What a call writes to an entry, if it writes to it. -/
def written : ∀ entry : Entry, Call → Option entry.Content
  | .ip clientIp, call =>
      PartialMap.writtenTo clientIp call.ipEntry
  | .id clientId, call =>
      PartialMap.writtenTo clientId call.idEntry

end Entry

/-- The table as the cells that its entries are. -/
def cells : Cells RoutingTable Call Entry Entry.Content where
  step :=
    step
  read :=
    Entry.read
  written :=
    Entry.written
  read_step entry table call := by
    rw [← whole_eq_step]
    cases entry with
    | ip clientIp =>
        exact table.ipIdMap.write_apply call.ipEntry clientIp
    | id clientId =>
        exact table.idIpMap.write_apply call.idEntry clientId
  ext := by
    rintro ⟨firstIps, firstIds⟩ ⟨secondIps, secondIds⟩ sameEntries
    obtain rfl : firstIps = secondIps :=
      funext fun clientIp => sameEntries (.ip clientIp)
    obtain rfl : firstIds = secondIds :=
      funext fun clientId => sameEntries (.id clientId)
    rfl

/--
Whatever the interleaving, one order produces both maps exactly if every entry
that the calls write to can be given a last writer that wrote what the entry
holds in the end, so that no call has to come before itself.
-/
theorem serializable_iff_settles
    {programs : Thread → List Call}
    {trace : List (Thread × MapStep)}
    (interleaves : Interleaves programs trace)
    (table : RoutingTable) :
    (∃ order,
      Merges programs order ∧
        execute step table order = execute mapStep table trace) ↔
      ∃ lastWriter,
        Settles cells programs table (execute mapStep table trace)
          lastWriter := by
  have merges : Merges programs (orderBy MapStep.opens trace) := by
    apply merges_orderBy ?_ interleaves
    intro call
    cases call <;> rfl
  exact exists_serial_iff cells merges table (execute mapStep table trace)

end Threads

/-- One thread adds a client while another one removes it. -/
def addAndRemove : Bool → List Call
  | false =>
      [.addClient 2 ⟨10, 0, 0, 2⟩]
  | true =>
      [.removeByIp ⟨10, 0, 0, 2⟩, .removeById 2]

/-- The address is removed between the steps of the addition, the id after them. -/
def undisturbedRemoval : List (Bool × MapStep) :=
  [
    (false, .insertIp ⟨10, 0, 0, 2⟩ 2),
    (true, .removeIp ⟨10, 0, 0, 2⟩),
    (false, .insertId 2 ⟨10, 0, 0, 2⟩),
    (true, .removeId 2)
  ]

/-- Both removals come between the steps of the addition. -/
def disturbedRemoval : List (Bool × MapStep) :=
  [
    (false, .insertIp ⟨10, 0, 0, 2⟩ 2),
    (true, .removeIp ⟨10, 0, 0, 2⟩),
    (true, .removeId 2),
    (false, .insertId 2 ⟨10, 0, 0, 2⟩)
  ]

theorem interleaves_undisturbedRemoval :
    Interleaves addAndRemove undisturbedRemoval := by
  intro thread
  cases thread <;> rfl

theorem serializable_undisturbedRemoval :
    (∃ order,
      Merges addAndRemove order ∧
        (execute mapStep new undisturbedRemoval).ipIdMap =
          (execute step new order).ipIdMap) ∧
      (∃ order,
        Merges addAndRemove order ∧
          (execute mapStep new undisturbedRemoval).idIpMap =
            (execute step new order).idIpMap) ∧
      ∃ order,
        Merges addAndRemove order ∧
          execute mapStep new undisturbedRemoval =
            execute step new order := by
  obtain ⟨sameIps, sameIds, both⟩ :=
    serializable_of_interleaves interleaves_undisturbedRemoval new
  refine ⟨sameIps, sameIds, both ?_⟩
  simp [undisturbedRemoval, Undisturbed, meanwhile_cons_iff, MapStep.idKey]

/-- One thread adds a client while another one replaces it. -/
def addAndReplace : Bool → List Call
  | false =>
      [.addClient 2 ⟨10, 0, 0, 2⟩]
  | true =>
      [.removeByIp ⟨10, 0, 0, 2⟩, .removeById 2,
        .addClient 2 ⟨10, 0, 0, 2⟩]

/-- Both removals come between the steps of the first addition. -/
def disturbedReplacement : List (Bool × MapStep) :=
  [
    (false, .insertIp ⟨10, 0, 0, 2⟩ 2),
    (true, .removeIp ⟨10, 0, 0, 2⟩),
    (true, .removeId 2),
    (false, .insertId 2 ⟨10, 0, 0, 2⟩),
    (true, .insertIp ⟨10, 0, 0, 2⟩ 2),
    (true, .insertId 2 ⟨10, 0, 0, 2⟩)
  ]

/-- The second addition is the last writer of both of its entries. -/
def replacement : Entry → Option (Occurrence Bool Call)
  | .ip clientIp =>
      if clientIp = ⟨10, 0, 0, 2⟩ then
        some (true, (.addClient 2 ⟨10, 0, 0, 2⟩, 2))
      else
        none
  | .id clientId =>
      if clientId = 2 then
        some (true, (.addClient 2 ⟨10, 0, 0, 2⟩, 2))
      else
        none

theorem occurs_addAndReplace
    {occurrence : Occurrence Bool Call}
    (occurs : Occurs addAndReplace occurrence) :
    occurrence = (false, (.addClient 2 ⟨10, 0, 0, 2⟩, 0)) ∨
      occurrence = (true, (.removeByIp ⟨10, 0, 0, 2⟩, 0)) ∨
      occurrence = (true, (.removeById 2, 1)) ∨
      occurrence = (true, (.addClient 2 ⟨10, 0, 0, 2⟩, 2)) := by
  obtain ⟨thread, call, place⟩ := occurrence
  cases thread with
  | false =>
      simpa [Occurs, numbered, addAndReplace] using occurs
  | true =>
      simpa [Occurs, numbered, addAndReplace] using occurs

theorem replacement_eq_some
    {entry : Entry}
    {occurrence : Occurrence Bool Call}
    (isLast : replacement entry = some occurrence) :
    (entry = .ip ⟨10, 0, 0, 2⟩ ∨ entry = .id 2) ∧
      occurrence = (true, (.addClient 2 ⟨10, 0, 0, 2⟩, 2)) := by
  cases entry with
  | ip clientIp =>
      simpa [replacement, eq_comm] using isLast
  | id clientId =>
      simpa [replacement, eq_comm] using isLast

/-- The replacement asks for no cycle. -/
theorem acyclic_replacement :
    Acyclic (Precedes cells addAndReplace replacement) := by
  apply acyclic_of_rank fun occurrence =>
    if occurrence.1 then occurrence.2.2 + 1 else 0
  rintro earlier later ⟨⟨earlierOccurs, laterOccurs⟩,
    ⟨sameThread, smaller⟩ | ⟨different, entry, isLast, -⟩⟩
  · obtain ⟨thread, call, place⟩ := earlier
    rcases occurs_addAndReplace laterOccurs with rfl | rfl | rfl | rfl
    · cases smaller
    · cases smaller
    · obtain rfl : thread = true := sameThread
      exact Nat.succ_lt_succ smaller
    · obtain rfl : thread = true := sameThread
      exact Nat.succ_lt_succ smaller
  · obtain ⟨-, rfl⟩ := replacement_eq_some isLast
    rcases occurs_addAndReplace earlierOccurs with rfl | rfl | rfl | rfl
    · decide
    · decide
    · decide
    · exact (different rfl).elim

/-- The second addition settles both entries, though both are touched in between. -/
theorem settles_replacement :
    Settles cells addAndReplace new
      (execute mapStep new disturbedReplacement) replacement where
  occurs := by
    intro entry occurrence isLast
    obtain ⟨-, rfl⟩ := replacement_eq_some isLast
    decide
  writes := by
    intro entry occurrence isLast
    obtain ⟨rfl | rfl, rfl⟩ := replacement_eq_some isLast
    · rfl
    · rfl
  unwritten := by
    rintro (clientIp | clientId) noneLast occurrence occurs
    · have otherKey : clientIp ≠ ⟨10, 0, 0, 2⟩ := by
        simpa [replacement] using noneLast
      rcases occurs_addAndReplace occurs with rfl | rfl | rfl | rfl
      · exact if_neg otherKey
      · exact if_neg otherKey
      · rfl
      · exact if_neg otherKey
    · have otherKey : clientId ≠ 2 := by
        simpa [replacement] using noneLast
      rcases occurs_addAndReplace occurs with rfl | rfl | rfl | rfl
      · exact if_neg otherKey
      · rfl
      · exact if_neg otherKey
      · exact if_neg otherKey
  keeps := by
    rintro (clientIp | clientId) noneLast
    · have otherKey : clientIp ≠ ⟨10, 0, 0, 2⟩ := by
        simpa [replacement] using noneLast
      show (execute mapStep new disturbedReplacement).ipIdMap clientIp =
        new.ipIdMap clientIp
      simp [execute, run, disturbedReplacement, mapStep,
        PartialMap.insert_other, PartialMap.erase_other, otherKey]
    · have otherKey : clientId ≠ 2 := by
        simpa [replacement] using noneLast
      show (execute mapStep new disturbedReplacement).idIpMap clientId =
        new.idIpMap clientId
      simp [execute, run, disturbedReplacement, mapStep,
        PartialMap.insert_other, PartialMap.erase_other, otherKey]
  acyclic :=
    acyclic_replacement

theorem interleaves_disturbedReplacement :
    Interleaves addAndReplace disturbedReplacement := by
  intro thread
  cases thread <;> rfl

/-- An order for a trace that touches both entries between the steps of an addition. -/
theorem serializable_disturbedReplacement :
    ¬ Undisturbed disturbedReplacement ∧
      ∃ order,
        Merges addAndReplace order ∧
          execute step new order =
            execute mapStep new disturbedReplacement := by
  refine ⟨?_, (serializable_iff_settles interleaves_disturbedReplacement
    new).mpr ⟨replacement, settles_replacement⟩⟩
  rintro ⟨ipAlone | idAlone, -⟩
  · simp [meanwhile_cons_iff, MapStep.ipKey] at ipAlone
  · simp [meanwhile_cons_iff, MapStep.idKey] at idAlone

/-- The addition happens before, between or after the removals. -/
theorem orders_addAndRemove
    {order : List (Bool × Call)}
    (merges : Merges addAndRemove order) :
    ∃ before after,
      order.map Prod.snd = before ++ .addClient 2 ⟨10, 0, 0, 2⟩ :: after ∧
        before ++ after =
          [.removeByIp ⟨10, 0, 0, 2⟩, .removeById 2] := by
  obtain ⟨between, after, rfl, others, noneLater⟩ := exists_next (merges false)
  have ownBetween : ∀ event ∈ between, event.1 = true := by
    intro event member
    exact Bool.eq_true_of_not_eq_false (others event member)
  have ownAfter : ∀ event ∈ after, event.1 = true := by
    intro event member
    exact Bool.eq_true_of_not_eq_false
      (actionsOf_eq_nil_iff.mp noneLater event member)
  refine ⟨actionsOf true between, actionsOf true after, ?_, ?_⟩
  · rw [actionsOf_eq_map ownBetween, actionsOf_eq_map ownAfter,
      List.map_append, List.map_cons]
  · have removals := merges true
    rwa [actionsOf_append, actionsOf_cons_other (by decide)] at removals

/--
No order of the calls leaves the id in one map without its address in the
other one.
-/
theorem not_serializable_disturbedRemoval :
    Interleaves addAndRemove disturbedRemoval ∧
      ∀ order,
        Merges addAndRemove order →
        execute mapStep new disturbedRemoval ≠ execute step new order := by
  constructor
  · intro thread
    cases thread <;> rfl
  · intro order merges same
    have sameIp :=
      congrArg (fun table => table.ipIdMap ⟨10, 0, 0, 2⟩) same
    have sameId := congrArg (fun table => table.idIpMap 2) same
    obtain ⟨before, after, ordered, removals⟩ := orders_addAndRemove merges
    unfold execute at sameIp sameId
    rw [ordered] at sameIp sameId
    match before, after, removals with
    | [], _, rfl =>
        exact absurd sameId (by decide)
    | [_], _, rfl =>
        exact absurd sameId (by decide)
    | [_, _], [], rfl =>
        exact absurd sameIp (by decide)

end VDataplane.RoutingTable
