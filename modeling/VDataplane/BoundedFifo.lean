import Mathlib

namespace VDataplane

/-!
# Bounded first-in first-out queues

A queue of fixed capacity that refuses a push when it is full.  The bound is a
field of the queue, so no operation can leave an overfull one behind.

Two derived operations are closed forms of loops that feed a list of items:
`feed` offers items to one queue until the first refusal, and `distribute`
routes every item to one queue of a family and fails as a whole when an item
has no route or its queue is full.
-/

variable {Item Key : Type*}

/-- A queue that never holds more than `capacity` items. -/
@[ext]
structure BoundedFifo (Item : Type*) where
  capacity : Nat
  entries : List Item
  fits : entries.length ≤ capacity

namespace BoundedFifo

/-- The queue of a given capacity that holds nothing. -/
def empty (capacity : Nat) : BoundedFifo Item where
  capacity :=
    capacity
  entries :=
    []
  fits :=
    Nat.zero_le capacity

/-- The number of items the queue can still take. -/
def room (queue : BoundedFifo Item) : Nat :=
  queue.capacity - queue.entries.length

/-- Append one item, unless the queue is full. -/
def push? (queue : BoundedFifo Item) (item : Item) : Option (BoundedFifo Item) :=
  if isOpen : queue.entries.length < queue.capacity then
    some {
      capacity := queue.capacity
      entries := queue.entries ++ [item]
      fits := by
        rw [List.length_append, List.length_singleton]
        exact isOpen
    }
  else
    none

/-- Append all items, or none of them when they do not all fit. -/
def pushAll?
    (queue : BoundedFifo Item)
    (items : List Item) :
    Option (BoundedFifo Item) :=
  if isOpen : queue.entries.length + items.length ≤ queue.capacity then
    some {
      capacity := queue.capacity
      entries := queue.entries ++ items
      fits := by
        rw [List.length_append]
        exact isOpen
    }
  else
    none

/-- Remove the oldest item, unless the queue is empty. -/
def pop? (queue : BoundedFifo Item) : Option (Item × BoundedFifo Item) :=
  match shape : queue.entries with
  | [] =>
      none
  | oldest :: rest =>
      some (oldest, {
        capacity := queue.capacity
        entries := rest
        fits := by
          have fits := queue.fits
          rw [shape] at fits
          exact Nat.le_of_succ_le fits
      })

/-- Remove the oldest `count` items, or all of them when there are fewer. -/
def drop (queue : BoundedFifo Item) (count : Nat) : BoundedFifo Item where
  capacity :=
    queue.capacity
  entries :=
    queue.entries.drop count
  fits := by
    rw [List.length_drop]
    exact Nat.le_trans (Nat.sub_le _ _) queue.fits

@[simp] theorem empty_entries (capacity : Nat) :
    (empty capacity : BoundedFifo Item).entries = [] :=
  rfl

@[simp] theorem empty_capacity (capacity : Nat) :
    (empty capacity : BoundedFifo Item).capacity = capacity :=
  rfl

@[simp] theorem drop_entries
    (queue : BoundedFifo Item)
    (count : Nat) :
    (queue.drop count).entries = queue.entries.drop count :=
  rfl

@[simp] theorem drop_capacity
    (queue : BoundedFifo Item)
    (count : Nat) :
    (queue.drop count).capacity = queue.capacity :=
  rfl

/-- A queue has room exactly when it is not full. -/
theorem room_pos_iff {queue : BoundedFifo Item} :
    0 < queue.room ↔ queue.entries.length < queue.capacity :=
  Nat.sub_pos_iff_lt

/-- A successful push appends the item to a queue that had room. -/
theorem push?_eq_some_iff
    {queue pushed : BoundedFifo Item}
    {item : Item} :
    queue.push? item = some pushed ↔
      0 < queue.room ∧
        pushed.capacity = queue.capacity ∧
        pushed.entries = queue.entries ++ [item] := by
  rw [room_pos_iff]
  unfold push?
  split
  · next isOpen =>
      simp only [Option.some.injEq]
      constructor
      · rintro rfl
        exact ⟨isOpen, rfl, rfl⟩
      · rintro ⟨_, sameCapacity, sameEntries⟩
        ext1
        · exact sameCapacity.symm
        · exact sameEntries.symm
  · next full =>
      simp [full]

/-- A push is refused exactly when the queue has no room. -/
theorem push?_eq_none_iff
    {queue : BoundedFifo Item}
    {item : Item} :
    queue.push? item = none ↔ queue.room = 0 := by
  unfold push? room
  split
  · next isOpen =>
      simp only [reduceCtorEq, false_iff]
      omega
  · next full =>
      simp only [true_iff]
      omega

/-- A successful pop removes the oldest item. -/
theorem pop?_eq_some_iff
    {queue popped : BoundedFifo Item}
    {item : Item} :
    queue.pop? = some (item, popped) ↔
      popped.capacity = queue.capacity ∧
        queue.entries = item :: popped.entries := by
  unfold pop?
  split
  · next shape =>
      simp [shape]
  · next oldest rest shape =>
      simp only [Option.some.injEq, Prod.mk.injEq]
      constructor
      · rintro ⟨rfl, rfl⟩
        exact ⟨rfl, shape⟩
      · rintro ⟨sameCapacity, sameEntries⟩
        obtain ⟨rfl, rfl⟩ := List.cons.inj (shape.symm.trans sameEntries)
        refine ⟨rfl, ?_⟩
        ext1
        · exact sameCapacity.symm
        · rfl

/-- A pop finds nothing exactly when the queue is empty. -/
theorem pop?_eq_none_iff {queue : BoundedFifo Item} :
    queue.pop? = none ↔ queue.entries = [] := by
  unfold pop?
  split
  · next shape =>
      simp [shape]
  · next oldest rest shape =>
      simp [shape]

/-- A push leaves one slot fewer. -/
theorem room_of_push
    {queue pushed : BoundedFifo Item}
    {item : Item}
    (accepted : queue.push? item = some pushed) :
    pushed.room + 1 = queue.room := by
  obtain ⟨hasRoom, sameCapacity, sameEntries⟩ :=
    push?_eq_some_iff.mp accepted
  unfold room at *
  rw [sameCapacity, sameEntries, List.length_append, List.length_singleton]
  omega

/-- Several items are accepted together exactly when there is room for all of them. -/
theorem pushAll?_eq_some_iff
    {queue pushed : BoundedFifo Item}
    {items : List Item} :
    queue.pushAll? items = some pushed ↔
      items.length ≤ queue.room ∧
        pushed.capacity = queue.capacity ∧
        pushed.entries = queue.entries ++ items := by
  have roomForAll :
      queue.entries.length + items.length ≤ queue.capacity ↔
        items.length ≤ queue.room := by
    have fits := queue.fits
    unfold room
    omega
  rw [← roomForAll]
  unfold pushAll?
  split
  · next isOpen =>
      simp only [Option.some.injEq]
      constructor
      · rintro rfl
        exact ⟨isOpen, rfl, rfl⟩
      · rintro ⟨_, sameCapacity, sameEntries⟩
        ext1
        · exact sameCapacity.symm
        · exact sameEntries.symm
  · next full =>
      simp [full]

/-- Nothing can always be appended. -/
@[simp] theorem pushAll?_nil (queue : BoundedFifo Item) :
    queue.pushAll? [] = some queue :=
  pushAll?_eq_some_iff.mpr ⟨Nat.zero_le _, rfl, (List.append_nil _).symm⟩

/-- Appending items one after the other, all of them accepted, appends them all. -/
theorem pushAll?_cons
    {queue next pushed : BoundedFifo Item}
    {item : Item}
    {rest : List Item}
    (first : queue.push? item = some next)
    (later : next.pushAll? rest = some pushed) :
    queue.pushAll? (item :: rest) = some pushed := by
  have oneFewer := room_of_push first
  obtain ⟨_, sameCapacity, sameEntries⟩ := push?_eq_some_iff.mp first
  obtain ⟨restFits, capacityAfter, entriesAfter⟩ :=
    pushAll?_eq_some_iff.mp later
  refine pushAll?_eq_some_iff.mpr ⟨?_, ?_, ?_⟩
  · rw [List.length_cons]
    omega
  · exact capacityAfter.trans sameCapacity
  · simp [entriesAfter, sameEntries]

/--
Offer items in order until the first refusal.

The second component holds the items that were never offered: the refused item
is in neither result.
-/
def feed : BoundedFifo Item → List Item → BoundedFifo Item × List Item
  | queue, [] =>
      (queue, [])
  | queue, item :: rest =>
      match queue.push? item with
      | none =>
          (queue, rest)
      | some pushed =>
          feed pushed rest

/-- Feeding appends as many leading items as the queue has room for. -/
theorem feed_entries
    (queue : BoundedFifo Item)
    (items : List Item) :
    (queue.feed items).1.entries =
      queue.entries ++ items.take queue.room := by
  induction items generalizing queue with
  | nil =>
      simp [feed]
  | cons item rest inductionHypothesis =>
      cases offered : queue.push? item with
      | none =>
          have full := push?_eq_none_iff.mp offered
          simp [feed, offered, full]
      | some pushed =>
          have oneFewer := room_of_push offered
          obtain ⟨_, _, sameEntries⟩ := push?_eq_some_iff.mp offered
          simp [feed, offered, inductionHypothesis, sameEntries,
            ← oneFewer]

/-- The items never offered start behind the first refused one. -/
theorem feed_rest
    (queue : BoundedFifo Item)
    (items : List Item) :
    (queue.feed items).2 = items.drop (queue.room + 1) := by
  induction items generalizing queue with
  | nil =>
      simp [feed]
  | cons item rest inductionHypothesis =>
      cases offered : queue.push? item with
      | none =>
          have full := push?_eq_none_iff.mp offered
          simp [feed, offered, full]
      | some pushed =>
          have oneFewer := room_of_push offered
          simp [feed, offered, inductionHypothesis, ← oneFewer]

section Alike

/-- Two queues of one capacity whose items are related in pairs. -/
structure Alike
    (related : Item → Item → Prop)
    (first second : BoundedFifo Item) :
    Prop where
  capacity :
    second.capacity = first.capacity
  entries :
    List.Forall₂ related first.entries second.entries

namespace Alike

variable
  {related : Item → Item → Prop}
  {first second : BoundedFifo Item}

/-- A queue is like itself when every item is. -/
theorem refl
    (reflexive : ∀ item, related item item)
    (queue : BoundedFifo Item) :
    Alike related queue queue where
  capacity :=
    rfl
  entries :=
    List.forall₂_same.mpr fun item _ => reflexive item

/-- Queues that are alike hold as many items. -/
theorem length_entries (alike : Alike related first second) :
    second.entries.length = first.entries.length :=
  alike.entries.length_eq.symm

/-- Queues that are alike have room for as many items. -/
theorem room (alike : Alike related first second) :
    second.room = first.room := by
  rw [BoundedFifo.room, BoundedFifo.room, alike.capacity,
    alike.length_entries]

/-- Both queues refuse a pair of related items, or both accept it and stay alike. -/
theorem push?
    (alike : Alike related first second)
    {firstItem secondItem : Item}
    (relatedItems : related firstItem secondItem) :
    (first.push? firstItem = none ∧ second.push? secondItem = none) ∨
      ∃ firstPushed secondPushed,
        first.push? firstItem = some firstPushed ∧
          second.push? secondItem = some secondPushed ∧
          Alike related firstPushed secondPushed := by
  cases offered : first.push? firstItem with
  | none =>
      have full := push?_eq_none_iff.mp offered
      rw [← alike.room] at full
      exact Or.inl ⟨rfl, push?_eq_none_iff.mpr full⟩
  | some firstPushed =>
      obtain ⟨hasRoom, sameCapacity, sameEntries⟩ :=
        push?_eq_some_iff.mp offered
      cases alsoOffered : second.push? secondItem with
      | none =>
          have full := push?_eq_none_iff.mp alsoOffered
          rw [alike.room] at full
          omega
      | some secondPushed =>
          obtain ⟨_, alsoCapacity, alsoEntries⟩ :=
            push?_eq_some_iff.mp alsoOffered
          refine Or.inr ⟨firstPushed, secondPushed, rfl, rfl, ?_, ?_⟩
          · rw [alsoCapacity, sameCapacity, alike.capacity]
          · rw [alsoEntries, sameEntries]
            exact List.rel_append alike.entries
              (.cons relatedItems .nil)

/-- Both queues are empty, or both give up an item and stay alike. -/
theorem pop? (alike : Alike related first second) :
    (first.pop? = none ∧ second.pop? = none) ∨
      ∃ firstItem secondItem firstPopped secondPopped,
        first.pop? = some (firstItem, firstPopped) ∧
          second.pop? = some (secondItem, secondPopped) ∧
          Alike related firstPopped secondPopped := by
  have sameLength := alike.length_entries
  cases taken : first.pop? with
  | none =>
      have isEmpty := pop?_eq_none_iff.mp taken
      rw [isEmpty, List.length_nil, List.length_eq_zero_iff] at sameLength
      exact Or.inl ⟨rfl, pop?_eq_none_iff.mpr sameLength⟩
  | some pair =>
      obtain ⟨firstItem, firstPopped⟩ := pair
      obtain ⟨sameCapacity, sameEntries⟩ := pop?_eq_some_iff.mp taken
      cases alsoTaken : second.pop? with
      | none =>
          have isEmpty := pop?_eq_none_iff.mp alsoTaken
          rw [isEmpty, sameEntries] at sameLength
          simp at sameLength
      | some pair =>
          obtain ⟨secondItem, secondPopped⟩ := pair
          obtain ⟨alsoCapacity, alsoEntries⟩ :=
            pop?_eq_some_iff.mp alsoTaken
          refine Or.inr ⟨firstItem, secondItem, firstPopped, secondPopped,
            rfl, rfl, ?_, ?_⟩
          · rw [alsoCapacity, sameCapacity, alike.capacity]
          · have both := alike.entries
            rw [sameEntries, alsoEntries] at both
            exact (List.forall₂_cons.mp both).2

/-- Queues without their oldest items are alike. -/
theorem drop
    (alike : Alike related first second)
    (count : Nat) :
    Alike related (first.drop count) (second.drop count) where
  capacity :=
    alike.capacity
  entries :=
    List.forall₂_drop count alike.entries

end Alike

end Alike

section Distribution

variable [DecidableEq Key]

/-- Push every item on the queue its route names; fail when one has no route or is refused. -/
def distribute
    (route : Item → Option Key) :
    (Key → BoundedFifo Item) →
      List Item →
      Option (Key → BoundedFifo Item)
  | queues, [] =>
      some queues
  | queues, item :: rest =>
      match route item with
      | none =>
          none
      | some key =>
          match (queues key).push? item with
          | none =>
              none
          | some pushed =>
              distribute route (Function.update queues key pushed) rest

/-- The items routed to one queue, in their original order. -/
def load
    (route : Item → Option Key)
    (key : Key)
    (items : List Item) :
    List Item :=
  items.filter fun item => route item = some key

/-- Every item has a route and every queue has room for its whole load. -/
structure Fits
    (route : Item → Option Key)
    (queues : Key → BoundedFifo Item)
    (items : List Item) :
    Prop where
  routed :
    ∀ item ∈ items, (route item).isSome
  room :
    ∀ key, (load route key items).length ≤ (queues key).room

theorem load_cons_same
    {route : Item → Option Key}
    {key : Key}
    {item : Item}
    (routed : route item = some key)
    (rest : List Item) :
    load route key (item :: rest) = item :: load route key rest := by
  simp [load, routed]

theorem load_cons_other
    {route : Item → Option Key}
    {key : Key}
    {item : Item}
    (routed : route item ≠ some key)
    (rest : List Item) :
    load route key (item :: rest) = load route key rest := by
  simp [load, routed]

/-- One accepted item moves the rest of the distribution to the updated family. -/
theorem fits_cons_iff
    {route : Item → Option Key}
    {queues : Key → BoundedFifo Item}
    {key : Key}
    {item : Item}
    {pushed : BoundedFifo Item}
    {rest : List Item}
    (routed : route item = some key)
    (accepted : (queues key).push? item = some pushed) :
    Fits route queues (item :: rest) ↔
      Fits route (Function.update queues key pushed) rest := by
  have oneFewer := room_of_push accepted
  constructor
  · rintro ⟨allRouted, allRoom⟩
    refine ⟨fun other member => allRouted other (by simp [member]), ?_⟩
    intro other
    have fitsOther := allRoom other
    by_cases same : other = key
    · subst other
      rw [load_cons_same routed, List.length_cons] at fitsOther
      rw [Function.update_self]
      omega
    · rw [load_cons_other (by simpa [routed] using Ne.symm same)]
        at fitsOther
      rwa [Function.update_of_ne same]
  · rintro ⟨restRouted, restRoom⟩
    refine ⟨?_, ?_⟩
    · intro other member
      rcases List.mem_cons.mp member with isHead | inRest
      · simp [isHead, routed]
      · exact restRouted other inRest
    · intro other
      have fitsOther := restRoom other
      by_cases same : other = key
      · subst other
        rw [Function.update_self] at fitsOther
        rw [load_cons_same routed, List.length_cons]
        omega
      · rw [Function.update_of_ne same] at fitsOther
        rwa [load_cons_other (by simpa [routed] using Ne.symm same)]

/-- A distribution succeeds exactly when everything fits. -/
theorem distribute_isSome_iff
    (route : Item → Option Key)
    (queues : Key → BoundedFifo Item)
    (items : List Item) :
    (distribute route queues items).isSome ↔ Fits route queues items := by
  induction items generalizing queues with
  | nil =>
      simp only [distribute, Option.isSome_some, true_iff]
      exact ⟨by simp, by simp [load]⟩
  | cons item rest inductionHypothesis =>
      cases routed : route item with
      | none =>
          simp only [distribute, routed, Option.isSome_none,
            Bool.false_eq_true, false_iff]
          intro fits
          have hasRoute := fits.routed item (by simp)
          simp [routed] at hasRoute
      | some key =>
          cases offered : (queues key).push? item with
          | none =>
              simp only [distribute, routed, offered, Option.isSome_none,
                Bool.false_eq_true, false_iff]
              intro fits
              have full := push?_eq_none_iff.mp offered
              have fitsKey := fits.room key
              rw [load_cons_same routed, List.length_cons] at fitsKey
              omega
          | some pushed =>
              simp only [distribute, routed, offered]
              rw [inductionHypothesis, fits_cons_iff routed offered]

/-- A successful distribution appends to every queue exactly its load. -/
theorem distribute_entries
    {route : Item → Option Key}
    {queues after : Key → BoundedFifo Item}
    {items : List Item}
    (succeeded : distribute route queues items = some after)
    (key : Key) :
    (after key).entries = (queues key).entries ++ load route key items := by
  induction items generalizing queues with
  | nil =>
      simp only [distribute, Option.some.injEq] at succeeded
      subst after
      simp [load]
  | cons item rest inductionHypothesis =>
      cases routed : route item with
      | none =>
          simp [distribute, routed] at succeeded
      | some target =>
          cases offered : (queues target).push? item with
          | none =>
              simp [distribute, routed, offered] at succeeded
          | some pushed =>
              simp only [distribute, routed, offered] at succeeded
              obtain ⟨_, _, sameEntries⟩ := push?_eq_some_iff.mp offered
              rw [inductionHypothesis succeeded]
              by_cases same : key = target
              · subst key
                rw [Function.update_self, sameEntries,
                  load_cons_same routed]
                simp
              · rw [Function.update_of_ne same,
                  load_cons_other (by simpa [routed] using Ne.symm same)]

/-- A distribution depends on the routes of its own items only. -/
theorem distribute_congr
    {first second : Item → Option Key}
    {items : List Item}
    (sameRoutes : ∀ item ∈ items, first item = second item)
    (queues : Key → BoundedFifo Item) :
    distribute first queues items = distribute second queues items := by
  induction items generalizing queues with
  | nil =>
      rfl
  | cons item rest inductionHypothesis =>
      obtain ⟨sameHead, sameRest⟩ := List.forall_mem_cons.mp sameRoutes
      simp only [distribute, sameHead, inductionHypothesis sameRest]

/--
Two routings that deliver all items with the same loads agree on every item: an
item is in the load of its own queue only.
-/
theorem routes_eq_of_load_eq
    {first second : Item → Option Key}
    {items : List Item}
    (routed : ∀ item ∈ items, (second item).isSome)
    (sameLoads : ∀ key, load first key items = load second key items) :
    ∀ item ∈ items, first item = second item := by
  intro item member
  obtain ⟨key, toKey⟩ := Option.isSome_iff_exists.mp (routed item member)
  have inSecond : item ∈ load second key items := by
    simp [load, member, toKey]
  rw [← sameLoads key] at inSecond
  have toKeyFirst : first item = some key := by
    simpa [load, member] using inSecond
  rw [toKeyFirst, toKey]

end Distribution

end BoundedFifo

end VDataplane
