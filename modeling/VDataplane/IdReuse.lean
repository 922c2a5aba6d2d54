import VDataplane.PacketiserClients

namespace VDataplane.IdReuse

open GuardedRun PacketiserClients

/-!
# The reuse of client ids

The scan of `add_client` is there to find an id that was allocated once and has
been given back.  It starts at 0, which is free as long as the counter has not
wrapped, and 0 is also how the scan says that it found nothing.
-/

/-- An id of `2..=LAST_ALLOCATED_ID` that is not allocated. -/
structure FreeId
    (state : State)
    (id : UInt16) :
    Prop where
  above :
    2 ≤ id.toNat
  below :
    id.toNat ≤ state.lastAllocatedId.toNat
  free :
    id ∉ state.packetiser.allocatedIds

/--
An addition allocates a free id and leaves the counter alone, or advances the
counter when there is no free id.
-/
def Reuses (state : State) : Call → Prop
  | .addClient e2c c2e =>
      ∃ key,
        (step state (.addClient e2c c2e)).packetiser.allocatedIds =
            state.packetiser.allocatedIds ++ [key] ∧
          ((∃ id, FreeId state id) →
            FreeId state key ∧
              (step state (.addClient e2c c2e)).lastAllocatedId =
                state.lastAllocatedId) ∧
          ((¬ ∃ id, FreeId state id) →
            key = state.lastAllocatedId + 1 ∧
              (step state (.addClient e2c c2e)).lastAllocatedId =
                state.lastAllocatedId + 1)
  | .removeClients _ =>
      True

/--
The scan of an addition gets past both reserved ids and finds a free one, if
there is any; if there is none, it stops at the first reserved id or does not
stop at the second one.
-/
def ScanFindsFree (state : State) : Call → Prop
  | .addClient .. =>
      ((∃ id, FreeId state id) →
        0 ∈ state.packetiser.allocatedIds ∧
          Packetiser.packetiserId ∈ state.packetiser.allocatedIds ∧
          ∃ id,
            FreeId state id ∧ id.toNat < state.lastAllocatedId.toNat) ∧
      ((¬ ∃ id, FreeId state id) →
        0 ∉ state.packetiser.allocatedIds ∨
          Packetiser.packetiserId ∈ state.packetiser.allocatedIds ∨
          state.lastAllocatedId.toNat < 2)
  | .removeClients _ =>
      True

/-! ## The scan -/

section Scan

variable
  {allocatedIds ids : List UInt16}
  {last : UInt16}

/-- The candidates of a scan. -/
theorem mem_idsBelow_iff {id : UInt16} :
    id ∈ Packetiser.idsBelow last ↔ id.toNat < last.toNat := by
  rw [Packetiser.idsBelow, List.mem_map]
  constructor
  · rintro ⟨index, member, rfl⟩
    rw [List.mem_range] at member
    have lastLt := last.toNat_lt
    rwa [UInt16.toNat_ofNat_of_lt' (member.trans lastLt)]
  · intro below
    exact ⟨id.toNat, List.mem_range.mpr below, UInt16.ofNat_toNat⟩

/-- A scan that returns another id than 0 has found it. -/
theorem firstFree_found
    (found : Packetiser.firstFree allocatedIds ids ≠ 0) :
    Packetiser.firstFree allocatedIds ids ∈ ids ∧
      Packetiser.firstFree allocatedIds ids ∉ allocatedIds := by
  induction ids with
  | nil =>
      exact (found rfl).elim
  | cons id rest inductionHypothesis =>
      unfold Packetiser.firstFree at found ⊢
      split at found
      · next isFree =>
          rw [if_pos isFree]
          exact ⟨List.mem_cons_self, isFree⟩
      · next isAllocated =>
          obtain ⟨member, isFree⟩ := inductionHypothesis found
          rw [if_neg isAllocated]
          exact ⟨List.mem_cons_of_mem _ member, isFree⟩

/-- Once 0 is allocated, a scan that returns 0 has found nothing. -/
theorem allocated_of_firstFree_eq_zero
    (sentinel : 0 ∈ allocatedIds)
    (nothing : Packetiser.firstFree allocatedIds ids = 0) :
    ∀ id ∈ ids, id ∈ allocatedIds := by
  induction ids with
  | nil =>
      simp
  | cons id rest inductionHypothesis =>
      unfold Packetiser.firstFree at nothing
      split at nothing
      · next isFree =>
          rw [nothing] at isFree
          exact absurd sentinel isFree
      · next isAllocated =>
          rw [not_not] at isAllocated
          exact List.forall_mem_cons.mpr
            ⟨isAllocated, inductionHypothesis nothing⟩

/-- Once 0 is allocated, the scan stops at 1 if 1 is free. -/
theorem firstFree_idsBelow_one
    (sentinel : 0 ∈ allocatedIds)
    (isFree : Packetiser.packetiserId ∉ allocatedIds)
    (enough : 2 ≤ last.toNat) :
    Packetiser.firstFree allocatedIds (Packetiser.idsBelow last) =
      Packetiser.packetiserId := by
  obtain ⟨count, sameLast⟩ := Nat.exists_eq_add_of_le' enough
  have zeroAllocated : ¬ UInt16.ofNat 0 ∉ allocatedIds :=
    not_not_intro sentinel
  have oneFree : UInt16.ofNat 1 ∉ allocatedIds :=
    isFree
  rw [Packetiser.idsBelow, sameLast, List.range_succ_eq_map,
    List.range_succ_eq_map, List.map_cons, List.map_cons, List.map_cons,
    Packetiser.firstFree, if_neg zeroAllocated, Packetiser.firstFree,
    if_pos oneFree]
  rfl

/--
What `add_client` chooses: the successor of the counter, when 0 is free or
nothing below the counter is; otherwise the first free id.
-/
theorem chooseId_cases (allocatedIds : List UInt16) (last : UInt16) :
    (Packetiser.chooseId allocatedIds last = (last + 1, last + 1) ∧
      (0 ∉ allocatedIds ∨
        ∀ id : UInt16, id.toNat < last.toNat → id ∈ allocatedIds)) ∨
    ∃ key,
      Packetiser.chooseId allocatedIds last = (key, last) ∧
        0 ∈ allocatedIds ∧
        key ∉ allocatedIds ∧
        1 ≤ key.toNat ∧
        key.toNat < last.toNat ∧
        (Packetiser.packetiserId ∉ allocatedIds →
          key = Packetiser.packetiserId) := by
  by_cases sentinel : 0 ∈ allocatedIds
  · by_cases nothing :
        Packetiser.firstFree allocatedIds (Packetiser.idsBelow last) = 0
    · refine Or.inl ⟨by simp [Packetiser.chooseId, nothing], Or.inr ?_⟩
      intro id below
      exact allocated_of_firstFree_eq_zero sentinel nothing id
        (mem_idsBelow_iff.mpr below)
    · obtain ⟨member, isFree⟩ := firstFree_found nothing
      have below := mem_idsBelow_iff.mp member
      have positive :
          1 ≤ (Packetiser.firstFree allocatedIds
            (Packetiser.idsBelow last)).toNat := by
        rw [Nat.one_le_iff_ne_zero]
        intro isZero
        exact nothing (UInt16.toNat_inj.mp isZero)
      refine Or.inr ⟨_, by simp [Packetiser.chooseId, nothing], sentinel,
        isFree, positive, below, ?_⟩
      intro oneFree
      exact firstFree_idsBelow_one sentinel oneFree (by omega)
  · exact Or.inl ⟨Packetiser.chooseId_eq sentinel last, Or.inl sentinel⟩

end Scan

/-! ## One addition -/

section Additions

variable {state : State}

/-- What an addition is to do, in terms of the id it chooses and the counter it leaves. -/
theorem reuses_addClient_iff
    {key last : UInt16}
    (chosen :
      Packetiser.chooseId state.packetiser.allocatedIds
          state.lastAllocatedId =
        (key, last))
    (e2c c2e : Dpdk.Allocation) :
    Reuses state (.addClient e2c c2e) ↔
      ((∃ id, FreeId state id) →
        FreeId state key ∧ last = state.lastAllocatedId) ∧
      ((¬ ∃ id, FreeId state id) →
        key = state.lastAllocatedId + 1 ∧
          last = state.lastAllocatedId + 1) := by
  have added := step_addClient state e2c c2e
  rw [chosen] at added
  obtain ⟨sameIds, sameLast⟩ := added
  simp only [Reuses, sameIds, sameLast, List.append_cancel_left_eq,
    List.cons.injEq, and_true, exists_eq_left']

/-- A counter is not its own successor. -/
theorem add_one_ne (last : UInt16) : last + 1 ≠ last := by
  intro same
  have sameNat := congrArg UInt16.toNat same
  have lastLt := last.toNat_lt
  rw [UInt16.toNat_add, UInt16.toNat_one] at sameNat
  omega

/-- An addition that advances the counter does the right thing exactly when no id is free. -/
theorem reuses_iff_of_advanced
    (chosen :
      Packetiser.chooseId state.packetiser.allocatedIds
          state.lastAllocatedId =
        (state.lastAllocatedId + 1, state.lastAllocatedId + 1))
    (e2c c2e : Dpdk.Allocation) :
    Reuses state (.addClient e2c c2e) ↔ ¬ ∃ id, FreeId state id := by
  rw [reuses_addClient_iff chosen]
  constructor
  · rintro ⟨reused, _⟩ someFree
    exact add_one_ne _ (reused someFree).2
  · intro noneFree
    exact ⟨fun someFree => absurd someFree noneFree, fun _ => ⟨rfl, rfl⟩⟩

/-- A scan that stops at 0, or does not stop, finds a free id exactly when there is none to find. -/
theorem scanFindsFree_iff_of_blocked
    (blocked :
      0 ∉ state.packetiser.allocatedIds ∨
        ∀ id : UInt16,
          id.toNat < state.lastAllocatedId.toNat →
          id ∈ state.packetiser.allocatedIds)
    (e2c c2e : Dpdk.Allocation) :
    ScanFindsFree state (.addClient e2c c2e) ↔
      ¬ ∃ id, FreeId state id := by
  constructor
  · rintro ⟨found, _⟩ someFree
    obtain ⟨sentinel, _, id, isFree, below⟩ := found someFree
    rcases blocked with noSentinel | allAllocated
    · exact noSentinel sentinel
    · exact isFree.free (allAllocated id below)
  · intro noneFree
    refine ⟨fun someFree => absurd someFree noneFree, fun _ => ?_⟩
    rcases blocked with noSentinel | allAllocated
    · exact Or.inl noSentinel
    · right
      by_cases few : state.lastAllocatedId.toNat < 2
      · exact Or.inr few
      · exact Or.inl
          (allAllocated Packetiser.packetiserId (Nat.le_of_not_lt few))

/-- An addition that takes the packetiser's own id does the wrong thing. -/
theorem not_reuses_packetiserId
    (chosen :
      Packetiser.chooseId state.packetiser.allocatedIds
          state.lastAllocatedId =
        (Packetiser.packetiserId, state.lastAllocatedId))
    (e2c c2e : Dpdk.Allocation) :
    ¬ Reuses state (.addClient e2c c2e) := by
  rw [reuses_addClient_iff chosen]
  rintro ⟨reused, advanced⟩
  by_cases someFree : ∃ id, FreeId state id
  · exact absurd (reused someFree).1.above (by decide)
  · exact add_one_ne _ (advanced someFree).2.symm

/-- A scan that stops at 1 finds no free id. -/
theorem not_scanFindsFree_of_oneFree
    (sentinel : 0 ∈ state.packetiser.allocatedIds)
    (oneFree :
      Packetiser.packetiserId ∉ state.packetiser.allocatedIds)
    (below :
      Packetiser.packetiserId.toNat < state.lastAllocatedId.toNat)
    (e2c c2e : Dpdk.Allocation) :
    ¬ ScanFindsFree state (.addClient e2c c2e) := by
  rintro ⟨found, stopped⟩
  by_cases someFree : ∃ id, FreeId state id
  · exact oneFree (found someFree).2.1
  · rcases stopped someFree with noSentinel | allocated | few
    · exact noSentinel sentinel
    · exact oneFree allocated
    · exact Nat.not_lt.mpr below few

/-- An addition reuses ids exactly when its scan gets to a free one. -/
theorem reuses_iff_scanFindsFree (state : State) (call : Call) :
    Reuses state call ↔ ScanFindsFree state call := by
  cases call with
  | removeClients key =>
      exact Iff.rfl
  | addClient e2c c2e =>
      rcases chooseId_cases state.packetiser.allocatedIds
          state.lastAllocatedId with
        ⟨chosen, blocked⟩ |
          ⟨key, chosen, sentinel, isFree, positive, below, oneFirst⟩
      · rw [reuses_iff_of_advanced chosen,
          scanFindsFree_iff_of_blocked blocked]
      · by_cases isOne : key = Packetiser.packetiserId
        · subst isOne
          exact iff_of_false (not_reuses_packetiserId chosen e2c c2e)
            (not_scanFindsFree_of_oneFree sentinel isFree below e2c c2e)
        · have oneAllocated :
              Packetiser.packetiserId ∈ state.packetiser.allocatedIds := by
            by_contra oneFree
            exact isOne (oneFirst oneFree)
          have atLeastTwo : 2 ≤ key.toNat := by
            by_contra small
            have isOneNat : key.toNat = 1 := by
              omega
            exact isOne (UInt16.toNat_inj.mp isOneNat)
          have keyFree : FreeId state key :=
            ⟨atLeastTwo, below.le, isFree⟩
          have someFree : ∃ id, FreeId state id :=
            ⟨key, keyFree⟩
          rw [reuses_addClient_iff chosen]
          exact iff_of_true
            ⟨fun _ => ⟨keyFree, rfl⟩, fun none => absurd someFree none⟩
            ⟨fun _ => ⟨sentinel, oneAllocated, key, keyFree, below⟩,
              fun none => absurd someFree none⟩

/-- As long as the counter has not wrapped, ids are never reused. -/
theorem reuses_iff_noFreeId
    (counted : Counted state)
    (e2c c2e : Dpdk.Allocation) :
    Reuses state (.addClient e2c c2e) ↔ ¬ ∃ id, FreeId state id := by
  rw [reuses_iff_scanFindsFree]
  constructor
  · rintro ⟨found, _⟩ someFree
    exact counted.noSentinel (found someFree).1
  · intro noneFree
    exact ⟨fun someFree => absurd someFree noneFree,
      fun _ => Or.inl counted.noSentinel⟩

end Additions

/-! ## Whole runs -/

/-- The number of ids that are allocated. -/
def allocatedCount (state : State) : Nat :=
  state.packetiser.allocatedIds.toFinset.card

/--
The counter never exceeds 1 plus the largest number of ids allocated at the same
time so far.
-/
def WithinPeak
    (initial : State)
    (calls : List Call) :
    Prop :=
  ∀ done, done <+: calls →
    ∃ earlier, earlier <+: done ∧
      (run step initial done).lastAllocatedId.toNat ≤
        1 + allocatedCount (run step initial earlier)

/-- As many ids are allocated as lie in a range of allocated ids. -/
theorem le_allocatedCount
    {state : State}
    {last : Nat}
    (lastLt : last < 2 ^ 16)
    (allAllocated :
      ∀ id : UInt16,
        2 ≤ id.toNat → id.toNat ≤ last →
        id ∈ state.packetiser.allocatedIds) :
    last ≤ 1 + allocatedCount state := by
  have isId : ∀ number ∈ Finset.Icc 2 last,
      (UInt16.ofNat number).toNat = number := by
    intro number member
    have atMost := (Finset.mem_Icc.mp member).2
    exact UInt16.toNat_ofNat_of_lt' (atMost.trans_lt lastLt)
  have counted :
      (Finset.Icc 2 last).card ≤ allocatedCount state := by
    apply Finset.card_le_card_of_injOn UInt16.ofNat
    · intro number member
      have sameNumber := isId number member
      obtain ⟨atLeast, atMost⟩ := Finset.mem_Icc.mp member
      have allocated := allAllocated (UInt16.ofNat number)
        (by rwa [sameNumber]) (by rwa [sameNumber])
      simpa using allocated
    · intro first firstMember second secondMember same
      rw [← isId first firstMember, same, isId second secondMember]
  rw [Nat.card_Icc] at counted
  omega

/-- A step that reuses ids advances the counter only when as many ids are in use. -/
theorem lastAllocatedId_step
    {state : State}
    {call : Call}
    (reuses : Reuses state call) :
    (step state call).lastAllocatedId.toNat ≤
        state.lastAllocatedId.toNat ∨
      (step state call).lastAllocatedId.toNat ≤
        1 + allocatedCount (step state call) := by
  cases call with
  | removeClients key =>
      apply Or.inl
      simp only [step]
      split
      · exact Nat.le_refl _
      · exact Nat.le_refl _
  | addClient e2c c2e =>
      obtain ⟨key, sameIds, reused, advanced⟩ := reuses
      by_cases someFree : ∃ id, FreeId state id
      · exact Or.inl (by rw [(reused someFree).2])
      · obtain ⟨isNext, sameLast⟩ := advanced someFree
        have lastLt := state.lastAllocatedId.toNat_lt
        by_cases atLimit : state.lastAllocatedId.toNat + 1 < 2 ^ 16
        · have successor :
              (state.lastAllocatedId + 1).toNat =
                state.lastAllocatedId.toNat + 1 := by
            rw [UInt16.toNat_add, UInt16.toNat_one]
            exact Nat.mod_eq_of_lt atLimit
          apply Or.inr
          rw [sameLast, successor]
          apply le_allocatedCount atLimit
          intro id above below
          rw [sameIds, List.mem_append, List.mem_singleton, isNext]
          rcases Nat.lt_or_eq_of_le below with isBelow | isLast
          · apply Or.inl
            by_contra isFree
            exact someFree ⟨id, above, Nat.le_of_lt_succ isBelow, isFree⟩
          · exact Or.inr (UInt16.toNat_inj.mp (isLast.trans successor.symm))
        · have wrapped : (state.lastAllocatedId + 1).toNat = 0 := by
            rw [UInt16.toNat_add, UInt16.toNat_one]
            omega
          apply Or.inl
          rw [sameLast, wrapped]
          exact Nat.zero_le _

/-- In a run that reuses ids, the counter stays below where it began or some peak of the run. -/
theorem lastAllocatedId_run
    {initial : State}
    {calls : List Call}
    {peak : Nat}
    (atStart : initial.lastAllocatedId.toNat ≤ 1 + peak)
    (reuses : EveryStep step Reuses initial calls)
    {done : List Call}
    (isPrefix : done <+: calls) :
    (run step initial done).lastAllocatedId.toNat ≤ 1 + peak ∨
      ∃ earlier, earlier <+: done ∧
        (run step initial done).lastAllocatedId.toNat ≤
          1 + allocatedCount (run step initial earlier) := by
  induction done generalizing initial calls peak with
  | nil =>
      exact Or.inl atStart
  | cons call tail inductionHypothesis =>
      obtain ⟨rest, rfl⟩ := isPrefix
      obtain ⟨first, later⟩ := reuses
      have tailPrefix : tail <+: tail ++ rest :=
        List.prefix_append _ _
      rcases lastAllocatedId_step first with sameBound | ownBound
      · rcases inductionHypothesis (sameBound.trans atStart) later
            tailPrefix with
          within | ⟨earlier, isEarlier, within⟩
        · exact Or.inl within
        · exact Or.inr ⟨call :: earlier,
            (List.prefix_cons_inj call).mpr isEarlier, within⟩
      · rcases inductionHypothesis ownBound later tailPrefix with
          within | ⟨earlier, isEarlier, within⟩
        · exact Or.inr ⟨[call],
            (List.prefix_cons_inj call).mpr List.nil_prefix, within⟩
        · exact Or.inr ⟨call :: earlier,
            (List.prefix_cons_inj call).mpr isEarlier, within⟩

/-- A run that reuses ids stays within its peak. -/
theorem withinPeak_of_reuses
    {initial : State}
    {calls : List Call}
    (atStart :
      initial.lastAllocatedId.toNat ≤ 1 + allocatedCount initial)
    (reuses : EveryStep step Reuses initial calls) :
    WithinPeak initial calls := by
  intro done isPrefix
  rcases lastAllocatedId_run atStart reuses isPrefix with
    within | isWithin
  · exact ⟨[], List.nil_prefix, within⟩
  · exact isWithin

/--
From the creation of a packetiser on, in every run, every addition reuses a free
id if there is one, and the counter stays within the peak, exactly if the scan
of every addition gets to a free id whenever there is one.
-/
theorem everyStep_reuses_iff_scanFindsFree
    (packetiser : Packetiser)
    (eal : Eal)
    (calls : List Call) :
    (EveryStep step Reuses (start packetiser eal) calls ∧
        WithinPeak (start packetiser eal) calls) ↔
      EveryStep step ScanFindsFree (start packetiser eal) calls := by
  have atStart :
      (start packetiser eal).lastAllocatedId.toNat ≤
        1 + allocatedCount (start packetiser eal) :=
    Nat.le_add_right _ _
  rw [and_iff_left_of_imp (withinPeak_of_reuses atStart)]
  exact everyStep_congr reuses_iff_scanFindsFree _ calls

/-- An id that was given back is not reused by the next addition. -/
theorem not_reuses_removed_id :
    Packetiser.new 64 engineEal = (.ok newPacketiser, engineEal) ∧
      ¬ (EveryStep step Reuses (start newPacketiser engineEal) [
            .addClient (.ok 40) (.ok 50),
            .removeClients 2,
            .addClient (.ok 60) (.ok 70)
          ] ∧
        WithinPeak (start newPacketiser engineEal) [
            .addClient (.ok 40) (.ok 50),
            .removeClients 2,
            .addClient (.ok 60) (.ok 70)
          ]) := by
  refine ⟨created_newPacketiser, ?_⟩
  rintro ⟨⟨_, _, ⟨key, _, reused, _⟩, _⟩, _⟩
  obtain ⟨_, sameLast⟩ := reused ⟨2, by decide, by decide, by decide⟩
  exact absurd sameLast (by decide)

end VDataplane.IdReuse
