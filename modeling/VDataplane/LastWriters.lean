import VDataplane.Interleaving

namespace VDataplane.LastWriters

open GuardedRun Interleaving

/-!
# Orders of calls that overwrite cells

A state consists of cells.  A call overwrites some of them, whatever they held,
and leaves the others alone, so a cell ends up with what its last writer wrote.
The calls of several threads can be put into an order with a given outcome
exactly when every cell can be given a last writer without asking for a cycle.
-/

/-! ## Demands on an order -/

section Demands

variable
  {Member : Type*}
  {before : Member → Member → Prop}

/-- No chain of demands leads back to where it starts. -/
def Acyclic (before : Member → Member → Prop) : Prop :=
  ∀ member, ¬ Relation.TransGen before member member

/-- Without a cycle, a finite set has an order that meets all demands. -/
theorem exists_order
    (acyclic : Acyclic before)
    (members : Finset Member) :
    ∃ order : List Member,
      order.Nodup ∧
        (∀ member, member ∈ order ↔ member ∈ members) ∧
        order.Pairwise fun earlier later => ¬ before later earlier := by
  classical
  have isPartialOrder :
      IsPartialOrder Member (Relation.ReflTransGen before) := {
    refl := fun _ => .refl
    trans := fun _ _ _ => .trans
    antisymm := by
      intro first second forth back
      rcases Relation.reflTransGen_iff_eq_or_transGen.mp forth with
        same | path
      · exact same.symm
      · exact (acyclic first (path.trans_left back)).elim
  }
  obtain ⟨linear, isLinear, contained⟩ :=
    extend_partialOrder (Relation.ReflTransGen before)
  have distinct := members.sort_nodup linear
  refine ⟨members.sort linear, distinct, fun _ => members.mem_sort linear, ?_⟩
  refine ((members.pairwise_sort linear).and distinct).imp ?_
  rintro earlier later ⟨isEarlier, different⟩ demand
  have isLater : linear later earlier := contained _ _ (.single demand)
  exact different (antisymm isEarlier isLater)

/-- Demands that a rank meets have no cycle. -/
theorem acyclic_of_rank
    (rank : Member → Nat)
    (increases :
      ∀ {earlier later}, before earlier later → rank earlier < rank later) :
    Acyclic before := by
  intro member cycle
  have path : Relation.TransGen (· < ·) (rank member) (rank member) :=
    cycle.lift rank fun _ _ => increases
  rw [Relation.transGen_eq_self] at path
  exact Nat.lt_irrefl _ path

/-- Demands that an order meets have no cycle. -/
theorem acyclic_of_order
    {order : List Member}
    (distinct : order.Nodup)
    (met :
      ∀ {earlier later},
        before earlier later →
        ∃ front back, order = front ++ later :: back ∧ earlier ∈ front) :
    Acyclic before := by
  classical
  apply acyclic_of_rank fun member => order.idxOf member
  intro earlier later demand
  obtain ⟨front, back, split, isFront⟩ := met demand
  rw [split] at distinct
  have notFront : later ∉ front := by
    intro isAlsoFront
    exact (List.nodup_append.mp distinct).2.2 later isAlsoFront later
      List.mem_cons_self rfl
  rw [split, List.idxOf_append_of_mem isFront,
    List.idxOf_append_of_notMem notFront, List.idxOf_cons_self, Nat.add_zero]
  exact List.idxOf_lt_length_of_mem isFront

/-- What holds of any two members of a list holds of one and any behind it. -/
theorem of_pairwise_split
    {related : Member → Member → Prop}
    {front back : List Member}
    {member other : Member}
    (pairwise : (front ++ member :: back).Pairwise related)
    (isBack : other ∈ back) :
    related member other :=
  List.rel_of_pairwise_cons (List.pairwise_append.mp pairwise).2.1 isBack

end Demands

/-! ## The calls of threads, numbered -/

section Occurrences

variable
  {Thread Call : Type*}
  [DecidableEq Thread]
  {programs : Thread → List Call}

/-- A call that a thread makes, with its place in the thread's program. -/
abbrev Occurrence (Thread Call : Type*) :=
  Thread × (Call × Nat)

/-- The programs of all threads, their calls numbered. -/
def numbered
    (programs : Thread → List Call)
    (thread : Thread) :
    List (Call × Nat) :=
  (programs thread).zipIdx

/-- The call stands at this place of the thread's program. -/
def Occurs
    (programs : Thread → List Call)
    (occurrence : Occurrence Thread Call) :
    Prop :=
  occurrence.2 ∈ numbered programs occurrence.1

instance
    [DecidableEq Call]
    (programs : Thread → List Call)
    (occurrence : Occurrence Thread Call) :
    Decidable (Occurs programs occurrence) :=
  inferInstanceAs (Decidable (_ ∈ _))

/-- An order of calls without their numbers. -/
def calls (order : List (Occurrence Thread Call)) : List (Thread × Call) :=
  order.map fun occurrence => (occurrence.1, occurrence.2.1)

theorem merges_calls
    {order : List (Occurrence Thread Call)}
    (merges : Merges (numbered programs) order) :
    Merges programs (calls order) := by
  intro thread
  rw [calls, actionsOf_map, merges thread, numbered, List.zipIdx_map_fst]

/-- The calls of an order can be numbered, from any numbers on. -/
theorem exists_numbered_from
    {order : List (Thread × Call)}
    (merges : Merges programs order)
    (first : Thread → Nat) :
    ∃ occurrences,
      Merges (fun thread => (programs thread).zipIdx (first thread))
          occurrences ∧
        calls occurrences = order := by
  induction order generalizing programs first with
  | nil =>
      refine ⟨[], Merges.nil_iff.mpr ?_, rfl⟩
      intro thread
      rw [Merges.nil_iff.mp merges thread, List.zipIdx_nil]
  | cons event rest inductionHypothesis =>
      obtain ⟨thread, call⟩ := event
      obtain ⟨later, starts, restMerges⟩ := Merges.cons_iff.mp merges
      obtain ⟨occurrences, isMerged, sameCalls⟩ :=
        inductionHypothesis restMerges
          (Function.update first thread (first thread + 1))
      refine ⟨(thread, (call, first thread)) :: occurrences,
        Merges.cons_iff.mpr
          ⟨later.zipIdx (first thread + 1), ?_, ?_⟩, ?_⟩
      · rw [starts, List.zipIdx_cons]
      · intro other
        rw [isMerged other]
        by_cases same : other = thread
        · subst other
          simp only [Function.update_self]
        · simp only [Function.update_of_ne same]
      · rw [← sameCalls]
        rfl

/-- The calls of an order can be numbered. -/
theorem exists_numbered
    {order : List (Thread × Call)}
    (merges : Merges programs order) :
    ∃ occurrences,
      Merges (numbered programs) occurrences ∧ calls occurrences = order :=
  exists_numbered_from merges fun _ => 0

/-- A thread takes the actions that a trace lists for it. -/
theorem mem_actionsOf_iff
    {Action : Type*}
    {thread : Thread}
    {action : Action}
    {trace : List (Thread × Action)} :
    action ∈ actionsOf thread trace ↔ (thread, action) ∈ trace := by
  simp only [actionsOf, List.mem_filterMap, Option.ite_none_right_eq_some,
    Option.some.injEq, Prod.exists]
  constructor
  · rintro ⟨_, _, member, rfl, rfl⟩
    exact member
  · intro member
    exact ⟨thread, action, member, rfl, rfl⟩

/-- What holds of any two actions of a thread holds of any two events with one thread. -/
theorem pairwise_actionsOf_iff
    {Action : Type*}
    {related : Action → Action → Prop}
    {trace : List (Thread × Action)} :
    (∀ thread, (actionsOf thread trace).Pairwise related) ↔
      trace.Pairwise fun earlier later =>
        earlier.1 = later.1 → related earlier.2 later.2 := by
  induction trace with
  | nil =>
      simp
  | cons event rest inductionHypothesis =>
      obtain ⟨owner, action⟩ := event
      rw [List.pairwise_cons, ← inductionHypothesis]
      constructor
      · intro own
        refine ⟨?_, ?_⟩
        · rintro ⟨_, later⟩ member rfl
          have atOwner := own owner
          rw [actionsOf_cons_self, List.pairwise_cons] at atOwner
          exact atOwner.1 later (mem_actionsOf_iff.mpr member)
        · intro thread
          exact (own thread).sublist
            ((List.sublist_cons_self _ _).filterMap _)
      · rintro ⟨first, later⟩ thread
        by_cases same : owner = thread
        · subst owner
          rw [actionsOf_cons_self, List.pairwise_cons]
          refine ⟨?_, later thread⟩
          intro other isOther
          exact first _ (mem_actionsOf_iff.mp isOther) rfl
        · rw [actionsOf_cons_other same]
          exact later thread

theorem mem_iff_occurs
    {order : List (Occurrence Thread Call)}
    (merges : Merges (numbered programs) order)
    (occurrence : Occurrence Thread Call) :
    occurrence ∈ order ↔ Occurs programs occurrence := by
  rw [Occurs, ← merges occurrence.1, mem_actionsOf_iff]

omit [DecidableEq Thread] in
/-- The numbers of a thread's calls increase. -/
theorem pairwise_numbered
    (programs : Thread → List Call)
    (thread : Thread) :
    (numbered programs thread).Pairwise fun earlier later =>
      earlier.2 < later.2 := by
  rw [← List.pairwise_map, numbered, List.zipIdx_map_snd]
  exact List.pairwise_lt_range'

omit [DecidableEq Thread] in
/-- A place in a program belongs to one call. -/
theorem eq_of_sameNumber
    {thread : Thread}
    {first second : Call × Nat}
    (isFirst : first ∈ numbered programs thread)
    (isSecond : second ∈ numbered programs thread)
    (sameNumber : first.2 = second.2) :
    first = second := by
  have sameCall : some first.1 = some second.1 := by
    rw [← List.mem_zipIdx_iff_getElem?.mp isFirst, sameNumber,
      List.mem_zipIdx_iff_getElem?.mp isSecond]
  exact Prod.ext (Option.some.inj sameCall) sameNumber

/-- An order of all calls that keeps the threads' own merges their programs. -/
theorem merges_of_ordered
    {order : List (Occurrence Thread Call)}
    (distinct : order.Nodup)
    (listed : ∀ occurrence, occurrence ∈ order ↔ Occurs programs occurrence)
    (ordered :
      order.Pairwise fun earlier later =>
        earlier.1 = later.1 → earlier.2.2 ≤ later.2.2) :
    Merges (numbered programs) order := by
  intro thread
  have members :
      ∀ action,
        action ∈ actionsOf thread order ↔
          action ∈ numbered programs thread := by
    intro action
    rw [mem_actionsOf_iff, listed, Occurs]
  have ownOrdered :
      (actionsOf thread order).Pairwise fun earlier later =>
        earlier.2 ≤ later.2 :=
    pairwise_actionsOf_iff.mpr ordered thread
  have ownDistinct : (actionsOf thread order).Nodup := by
    refine pairwise_actionsOf_iff.mpr (distinct.imp ?_) thread
    intro earlier later different sameThread sameCall
    exact different (Prod.ext sameThread sameCall)
  have numberedDistinct : (numbered programs thread).Nodup := by
    refine (pairwise_numbered programs thread).imp ?_
    rintro earlier later increases rfl
    exact Nat.lt_irrefl _ increases
  refine List.Perm.eq_of_pairwise ?_ ownOrdered
    ((pairwise_numbered programs thread).imp Nat.le_of_lt)
    ((List.perm_ext_iff_of_nodup ownDistinct numberedDistinct).mpr members)
  intro first second isFirst isSecond forth back
  exact eq_of_sameNumber ((members first).mp isFirst) isSecond
    (Nat.le_antisymm forth back)

/-- An order that merges the programs keeps the threads' own. -/
theorem ordered_of_merges
    {order : List (Occurrence Thread Call)}
    (merges : Merges (numbered programs) order) :
    order.Pairwise fun earlier later =>
      earlier.1 = later.1 → earlier.2.2 < later.2.2 := by
  have own :
      ∀ thread,
        (actionsOf thread order).Pairwise fun earlier later =>
          earlier.2 < later.2 := by
    intro thread
    rw [merges thread]
    exact pairwise_numbered programs thread
  exact pairwise_actionsOf_iff.mp own

end Occurrences

/-! ## Cells -/

/-- States that consist of cells, and calls that overwrite some of them. -/
structure Cells (State Call Cell : Type*) (Value : Cell → Type*) where
  step : State → Call → State
  read : ∀ cell, State → Value cell
  /-- What a call writes to a cell, if it writes to it. -/
  written : ∀ cell, Call → Option (Value cell)
  read_step :
    ∀ cell state call,
      read cell (step state call) =
        (written cell call).getD (read cell state)
  ext :
    ∀ {first second},
      (∀ cell, read cell first = read cell second) → first = second

namespace Cells

variable
  {State Call Cell : Type*}
  {Value : Cell → Type*}
  (cells : Cells State Call Cell Value)
  {cell : Cell}

/-- A cell that no call writes to keeps what it holds. -/
theorem read_run_of_unwritten
    {performed : List Call}
    (unwritten : ∀ call ∈ performed, cells.written cell call = none)
    (state : State) :
    cells.read cell (run cells.step state performed) =
      cells.read cell state := by
  induction performed generalizing state with
  | nil =>
      rfl
  | cons call rest inductionHypothesis =>
      obtain ⟨first, later⟩ := List.forall_mem_cons.mp unwritten
      rw [run_cons, inductionHypothesis later, cells.read_step, first,
        Option.getD_none]

/-- A cell holds what its last writer wrote. -/
theorem read_run_of_lastWriter
    {front back : List Call}
    {call : Call}
    {value : Value cell}
    (writes : cells.written cell call = some value)
    (unwritten : ∀ other ∈ back, cells.written cell other = none)
    (state : State) :
    cells.read cell (run cells.step state (front ++ call :: back)) =
      value := by
  rw [run_append, run_cons, cells.read_run_of_unwritten unwritten,
    cells.read_step, writes, Option.getD_some]

end Cells

/-! ## Last writers -/

section LastWriters

variable
  {Thread State Call Cell : Type*}
  {Value : Cell → Type*}
  (cells : Cells State Call Cell Value)

/--
What has to come first: every thread keeps its own order, and all other writers
of a cell come before its last one.
-/
def Precedes
    (programs : Thread → List Call)
    (lastWriter : Cell → Option (Occurrence Thread Call))
    (earlier later : Occurrence Thread Call) :
    Prop :=
  (Occurs programs earlier ∧ Occurs programs later) ∧
    (earlier.1 = later.1 ∧ earlier.2.2 < later.2.2 ∨
      earlier ≠ later ∧
        ∃ cell,
          lastWriter cell = some later ∧
            (cells.written cell earlier.2.1).isSome)

/-- Last writers that lead from one state to another one and ask for no cycle. -/
structure Settles
    (programs : Thread → List Call)
    (before after : State)
    (lastWriter : Cell → Option (Occurrence Thread Call)) :
    Prop where
  occurs :
    ∀ {cell occurrence},
      lastWriter cell = some occurrence → Occurs programs occurrence
  writes :
    ∀ {cell occurrence},
      lastWriter cell = some occurrence →
      cells.written cell occurrence.2.1 = some (cells.read cell after)
  unwritten :
    ∀ {cell},
      lastWriter cell = none →
      ∀ {occurrence},
        Occurs programs occurrence →
        cells.written cell occurrence.2.1 = none
  keeps :
    ∀ {cell},
      lastWriter cell = none →
      cells.read cell after = cells.read cell before
  acyclic :
    Acyclic (Precedes cells programs lastWriter)

section Execution

variable {cell : Cell}

/-- An order in which nothing is written to a cell leaves the cell alone. -/
theorem read_execute_of_unwritten
    {order : List (Occurrence Thread Call)}
    (unwritten :
      ∀ occurrence ∈ order, cells.written cell occurrence.2.1 = none)
    (state : State) :
    cells.read cell (execute cells.step state (calls order)) =
      cells.read cell state := by
  apply cells.read_run_of_unwritten
  rw [calls, List.map_map, List.forall_mem_map]
  exact unwritten

/-- An order leaves in a cell what the cell's last writer wrote. -/
theorem read_execute_of_lastWriter
    {front back : List (Occurrence Thread Call)}
    {last : Occurrence Thread Call}
    {value : Value cell}
    (writes : cells.written cell last.2.1 = some value)
    (unwritten :
      ∀ other ∈ back, cells.written cell other.2.1 = none)
    (state : State) :
    cells.read cell
        (execute cells.step state (calls (front ++ last :: back))) =
      value := by
  rw [calls, List.map_append, List.map_cons, execute, List.map_append,
    List.map_cons]
  apply cells.read_run_of_lastWriter writes
  rw [List.map_map, List.forall_mem_map]
  exact unwritten

end Execution

variable
  [DecidableEq Thread]
  {programs : Thread → List Call}

/-- Last writers without a cycle lead to an order. -/
theorem exists_serial_of_settles
    {order : List (Thread × Call)}
    (merges : Merges programs order)
    {before after : State}
    {lastWriter : Cell → Option (Occurrence Thread Call)}
    (settles : Settles cells programs before after lastWriter) :
    ∃ serial,
      Merges programs serial ∧
        execute cells.step before serial = after := by
  classical
  obtain ⟨occurrences, isMerged, -⟩ := exists_numbered merges
  obtain ⟨serial, distinct, members, ordered⟩ :=
    exists_order settles.acyclic occurrences.toFinset
  have listed :
      ∀ occurrence, occurrence ∈ serial ↔ Occurs programs occurrence := by
    intro occurrence
    rw [members, List.mem_toFinset, mem_iff_occurs isMerged]
  have keepsOrder :
      serial.Pairwise fun earlier later =>
        earlier.1 = later.1 → earlier.2.2 ≤ later.2.2 := by
    refine ordered.imp_of_mem ?_
    intro earlier later isEarlier isLater noDemand sameThread
    by_contra decreases
    exact noDemand ⟨⟨(listed later).mp isLater, (listed earlier).mp isEarlier⟩,
      Or.inl ⟨sameThread.symm, Nat.not_le.mp decreases⟩⟩
  refine ⟨calls serial,
    merges_calls (merges_of_ordered distinct listed keepsOrder), ?_⟩
  apply cells.ext
  intro cell
  cases isLast : lastWriter cell with
  | none =>
      rw [settles.keeps isLast]
      apply read_execute_of_unwritten
      intro occurrence member
      exact settles.unwritten isLast ((listed occurrence).mp member)
  | some last =>
      have lastOccurs := settles.occurs isLast
      obtain ⟨front, back, rfl⟩ :=
        List.append_of_mem ((listed last).mpr lastOccurs)
      apply read_execute_of_lastWriter cells (settles.writes isLast)
      intro other isBack
      have otherOccurs :=
        (listed other).mp (by simp [isBack])
      have different : other ≠ last :=
        (of_pairwise_split distinct isBack).symm
      by_contra isWritten
      exact of_pairwise_split ordered isBack ⟨⟨otherOccurs, lastOccurs⟩,
        Or.inr ⟨different, cell, isLast,
          Option.isSome_iff_ne_none.mpr isWritten⟩⟩

/-- The last call of an order that writes to a cell. -/
def lastWriterIn
    (order : List (Occurrence Thread Call))
    (cell : Cell) :
    Option (Occurrence Thread Call) :=
  order.findRev? fun occurrence =>
    (cells.written cell occurrence.2.1).isSome

section Order

variable
  {order : List (Occurrence Thread Call)}
  {cell : Cell}

omit [DecidableEq Thread] in
theorem lastWriterIn_eq_some
    {last : Occurrence Thread Call}
    (isLast : lastWriterIn cells order cell = some last) :
    ∃ front back,
      order = front ++ last :: back ∧
        (cells.written cell last.2.1).isSome ∧
        ∀ other ∈ back, cells.written cell other.2.1 = none := by
  rw [lastWriterIn, List.findRev?_eq_find?_reverse,
    List.find?_eq_some_iff_append] at isLast
  obtain ⟨isWritten, reversedBack, reversedFront, split, unwritten⟩ := isLast
  refine ⟨reversedFront.reverse, reversedBack.reverse, ?_, isWritten, ?_⟩
  · rw [← List.reverse_reverse order, split]
    simp
  · intro other isBack
    have notWritten := unwritten other (List.mem_reverse.mp isBack)
    simpa using notWritten

omit [DecidableEq Thread] in
theorem lastWriterIn_eq_none
    (noneLast : lastWriterIn cells order cell = none)
    {occurrence : Occurrence Thread Call}
    (member : occurrence ∈ order) :
    cells.written cell occurrence.2.1 = none := by
  rw [lastWriterIn, List.findRev?_eq_find?_reverse, List.find?_eq_none]
    at noneLast
  simpa using noneLast occurrence (List.mem_reverse.mpr member)

end Order

/-- What the threads and the last writers of an order ask for, the order meets. -/
theorem acyclic_of_merges
    {order : List (Occurrence Thread Call)}
    (merges : Merges (numbered programs) order) :
    Acyclic (Precedes cells programs (lastWriterIn cells order)) := by
  have ordered := ordered_of_merges merges
  have distinct : order.Nodup := by
    refine ordered.imp ?_
    rintro occurrence _ increases rfl
    exact Nat.lt_irrefl _ (increases rfl)
  have inFront :
      ∀ {front back} {earlier later : Occurrence Thread Call},
        order = front ++ later :: back →
        Occurs programs earlier →
        earlier ≠ later →
        earlier ∉ back →
        earlier ∈ front := by
    intro front back earlier later split occurs different notBack
    have listed := (mem_iff_occurs merges earlier).mpr occurs
    rw [split] at listed
    simpa [different, notBack] using listed
  apply acyclic_of_order distinct
  rintro earlier later ⟨⟨earlierOccurs, laterOccurs⟩,
    ⟨sameThread, smaller⟩ | ⟨different, cell, isLast, isWritten⟩⟩
  · obtain ⟨front, back, split⟩ :=
      List.append_of_mem ((mem_iff_occurs merges later).mpr laterOccurs)
    refine ⟨front, back, split, inFront split earlierOccurs ?_ ?_⟩
    · rintro rfl
      exact Nat.lt_irrefl _ smaller
    · intro isBack
      rw [split] at ordered
      exact Nat.lt_asymm smaller
        (of_pairwise_split ordered isBack sameThread.symm)
  · obtain ⟨front, back, split, -, unwritten⟩ :=
      lastWriterIn_eq_some cells isLast
    refine ⟨front, back, split, inFront split earlierOccurs different ?_⟩
    intro isBack
    rw [unwritten earlier isBack] at isWritten
    cases isWritten

/-- The last writers of an order lead to where the order leads. -/
theorem settles_of_merges
    {order : List (Occurrence Thread Call)}
    (merges : Merges (numbered programs) order)
    (before : State) :
    Settles cells programs before (execute cells.step before (calls order))
      (lastWriterIn cells order) where
  occurs := by
    intro cell occurrence isLast
    obtain ⟨front, back, rfl, -⟩ := lastWriterIn_eq_some cells isLast
    exact (mem_iff_occurs merges occurrence).mp (by simp)
  writes := by
    intro cell occurrence isLast
    obtain ⟨front, back, rfl, isWritten, unwritten⟩ :=
      lastWriterIn_eq_some cells isLast
    obtain ⟨value, writes⟩ := Option.isSome_iff_exists.mp isWritten
    rw [writes, read_execute_of_lastWriter cells writes unwritten]
  unwritten := by
    intro cell noneLast occurrence occurs
    exact lastWriterIn_eq_none cells noneLast
      ((mem_iff_occurs merges occurrence).mpr occurs)
  keeps := by
    intro cell noneLast
    apply read_execute_of_unwritten
    intro occurrence member
    exact lastWriterIn_eq_none cells noneLast member
  acyclic :=
    acyclic_of_merges cells merges

/--
The calls of several threads have an order that leads from one state to another
one exactly if every cell that they write to can be given a last writer that
wrote what the cell holds in the end, so that no call has to come before itself.
-/
theorem exists_serial_iff
    {order : List (Thread × Call)}
    (merges : Merges programs order)
    (before after : State) :
    (∃ serial,
      Merges programs serial ∧
        execute cells.step before serial = after) ↔
      ∃ lastWriter, Settles cells programs before after lastWriter := by
  constructor
  · rintro ⟨serial, serialMerges, rfl⟩
    obtain ⟨occurrences, isMerged, rfl⟩ := exists_numbered serialMerges
    exact ⟨_, settles_of_merges cells isMerged before⟩
  · rintro ⟨lastWriter, settles⟩
    exact exists_serial_of_settles cells merges settles

end LastWriters

end VDataplane.LastWriters
