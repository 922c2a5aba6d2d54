import Mathlib

namespace VDataplane

/-!
# Partial maps and mutually inverse pairs of them

A finite map is modelled by its lookup function.  A pair of maps in opposite
directions is *inverse* when each of them is the reverse reading of the other;
the lemmas below say exactly when an update of the pair keeps it inverse.
-/

variable {Key Value : Type*}

/-- A map given by its lookup function. -/
abbrev PartialMap (Key Value : Type*) :=
  Key → Option Value

namespace PartialMap

/-- The map without any key. -/
def empty : PartialMap Key Value :=
  fun _ => none

@[simp] theorem empty_apply (key : Key) :
    (empty : PartialMap Key Value) key = none :=
  rfl

section Update

variable [DecidableEq Key]

/-- Map a key to a value, replacing what it was mapped to. -/
def insert
    (map : PartialMap Key Value)
    (key : Key)
    (value : Value) :
    PartialMap Key Value :=
  Function.update map key (some value)

/-- Remove a key. -/
def erase
    (map : PartialMap Key Value)
    (key : Key) :
    PartialMap Key Value :=
  Function.update map key none

@[simp] theorem insert_self
    (map : PartialMap Key Value)
    (key : Key)
    (value : Value) :
    map.insert key value key = some value := by
  simp [insert]

theorem insert_other
    (map : PartialMap Key Value)
    {key other : Key}
    (different : other ≠ key)
    (value : Value) :
    map.insert key value other = map other := by
  simp [insert, different]

@[simp] theorem erase_self
    (map : PartialMap Key Value)
    (key : Key) :
    map.erase key key = none := by
  simp [erase]

theorem erase_other
    (map : PartialMap Key Value)
    {key other : Key}
    (different : other ≠ key) :
    map.erase key other = map other := by
  simp [erase, different]

/-- Removing an absent key changes nothing. -/
theorem erase_of_none
    {map : PartialMap Key Value}
    {key : Key}
    (absent : map key = none) :
    map.erase key = map := by
  rw [erase, ← absent, Function.update_eq_self]

/-- Write one entry, or none. -/
def write (map : PartialMap Key Value) :
    Option (Key × Option Value) → PartialMap Key Value
  | none =>
      map
  | some (key, value) =>
      Function.update map key value

/-- What a write puts at a key, if it writes there. -/
def writtenTo (key : Key) :
    Option (Key × Option Value) → Option (Option Value)
  | none =>
      none
  | some (writtenKey, value) =>
      if key = writtenKey then some value else none

/-- A key holds what is written to it, or else what it held before. -/
theorem write_apply
    (map : PartialMap Key Value)
    (entry : Option (Key × Option Value))
    (key : Key) :
    map.write entry key = (writtenTo key entry).getD (map key) := by
  cases entry with
  | none =>
      rfl
  | some written =>
      rw [write, writtenTo, Function.update_apply]
      split
      · rfl
      · rfl

end Update

/-- Two writes do not have their key in common. -/
def Apart (one other : Option (Key × Option Value)) : Prop :=
  ∀ key ∈ one.map Prod.fst, key ∉ other.map Prod.fst

namespace Apart

variable {one other : Option (Key × Option Value)}

theorem symm
    (apart : Apart one other) :
    Apart other one :=
  fun key isOther isOne => apart key isOne isOther

/-- No write is apart from every write. -/
theorem none_left (other : Option (Key × Option Value)) :
    Apart none other := by
  intro key member
  simp at member

/-- Writes to different keys are apart. -/
theorem of_ne
    {key otherKey : Key}
    (different : key ≠ otherKey)
    (value otherValue : Option Value) :
    Apart (some (key, value)) (some (otherKey, otherValue)) := by
  intro shared isKey isOther
  obtain rfl : key = shared := by
    simpa using isKey
  obtain rfl : otherKey = key := by
    simpa using isOther
  exact different rfl

/-- Writes that are apart commute. -/
theorem write_comm
    [DecidableEq Key]
    (apart : Apart one other)
    (map : PartialMap Key Value) :
    (map.write one).write other = (map.write other).write one := by
  cases one with
  | none =>
      rfl
  | some first =>
      cases other with
      | none =>
          rfl
      | some second =>
          have different : first.1 ≠ second.1 := by
            intro same
            exact apart first.1 (by simp) (by simp [same])
          exact Function.update_comm different first.2 second.2 map

end Apart

/-- Each map is the reverse reading of the other. -/
def Inverse
    (forward : PartialMap Key Value)
    (backward : PartialMap Value Key) :
    Prop :=
  ∀ key value, forward key = some value ↔ backward value = some key

namespace Inverse

theorem empty_empty :
    Inverse
      (PartialMap.empty : PartialMap Key Value)
      (PartialMap.empty : PartialMap Value Key) := by
  simp [Inverse]

theorem symm
    {forward : PartialMap Key Value}
    {backward : PartialMap Value Key}
    (inverse : Inverse forward backward) :
    Inverse backward forward :=
  fun value key => (inverse key value).symm

/-- A key that a pair is inserted for has no other value, if the maps are inverse afterwards. -/
theorem eq_of_insert
    [DecidableEq Key] [DecidableEq Value]
    {forward : PartialMap Key Value}
    {backward : PartialMap Value Key}
    (inverse : Inverse forward backward)
    {key : Key}
    {value : Value}
    (inserted :
      Inverse (forward.insert key value) (backward.insert value key))
    (other : Value)
    (mapped : forward key = some other) :
    other = value := by
  by_contra different
  -- The old value still points back at the key, which now maps elsewhere.
  have back : backward.insert value key other = some key := by
    rw [insert_other _ different]
    exact (inverse key other).mp mapped
  have forth := (inserted key other).mpr back
  rw [insert_self] at forth
  exact different (Option.some.inj forth).symm

/--
Inserting a pair on both sides keeps the maps inverse exactly when neither its
key nor its value belongs to a different pair.
-/
theorem insert_iff
    [DecidableEq Key] [DecidableEq Value]
    {forward : PartialMap Key Value}
    {backward : PartialMap Value Key}
    (inverse : Inverse forward backward)
    (key : Key)
    (value : Value) :
    Inverse (forward.insert key value) (backward.insert value key) ↔
      (∀ other, forward key = some other → other = value) ∧
        ∀ other, backward value = some other → other = key := by
  constructor
  · intro inserted
    exact ⟨inverse.eq_of_insert inserted,
      inverse.symm.eq_of_insert inserted.symm⟩
  · rintro ⟨keyFree, valueFree⟩ otherKey otherValue
    by_cases sameKey : otherKey = key
    · subst otherKey
      by_cases sameValue : otherValue = value
      · subst otherValue
        simp
      · rw [insert_self, insert_other _ sameValue, ← inverse key otherValue]
        constructor
        · intro same
          exact (sameValue (Option.some.inj same).symm).elim
        · intro mapped
          exact (sameValue (keyFree otherValue mapped)).elim
    · by_cases sameValue : otherValue = value
      · subst otherValue
        rw [insert_self, insert_other _ sameKey, inverse otherKey value]
        constructor
        · intro mapped
          exact (sameKey (valueFree otherKey mapped)).elim
        · intro same
          exact (sameKey (Option.some.inj same).symm).elim
      · rw [insert_other _ sameKey, insert_other _ sameValue]
        exact inverse otherKey otherValue

/-- Erasing one side only keeps the maps inverse exactly when nothing was erased. -/
theorem erase_right_iff
    [DecidableEq Value]
    {forward : PartialMap Key Value}
    {backward : PartialMap Value Key}
    (inverse : Inverse forward backward)
    (value : Value) :
    Inverse forward (backward.erase value) ↔ backward value = none := by
  constructor
  · intro erased
    rw [Option.eq_none_iff_forall_ne_some]
    intro key mapped
    have forth := (inverse key value).mpr mapped
    have back := (erased key value).mp forth
    simp at back
  · intro absent
    rw [erase_of_none absent]
    exact inverse

/-- The left-hand counterpart of `erase_right_iff`. -/
theorem erase_left_iff
    [DecidableEq Key]
    {forward : PartialMap Key Value}
    {backward : PartialMap Value Key}
    (inverse : Inverse forward backward)
    (key : Key) :
    Inverse (forward.erase key) backward ↔ forward key = none := by
  constructor
  · intro erased
    exact (inverse.symm.erase_right_iff key).mp erased.symm
  · intro absent
    rw [erase_of_none absent]
    exact inverse

end Inverse

end PartialMap

end VDataplane
