import Mathlib

namespace VDataplane

/-!
# Registries of named objects

A registry lists the objects that are currently registered, each under a name
and at an address.  No name and no address is registered twice; both facts are
fields of the registry, so registering an object has to establish them and
lookups can rely on them.
-/

variable {Name Address : Type*}

/-- Registered objects in registration order, unique by name and by address. -/
@[ext]
structure NamedRegistry (Name Address : Type*) where
  entries : List (Name × Address)
  namesNodup : (entries.map Prod.fst).Nodup
  addressesNodup : (entries.map Prod.snd).Nodup

namespace NamedRegistry

/-- The object called `name` is registered and lives at `address`. -/
def Registered
    (registry : NamedRegistry Name Address)
    (name : Name)
    (address : Address) :
    Prop :=
  (name, address) ∈ registry.entries

instance
    [DecidableEq Name] [DecidableEq Address]
    (registry : NamedRegistry Name Address)
    (name : Name)
    (address : Address) :
    Decidable (registry.Registered name address) :=
  inferInstanceAs (Decidable ((name, address) ∈ registry.entries))

/-- The registry without any object. -/
def empty : NamedRegistry Name Address where
  entries :=
    []
  namesNodup :=
    List.nodup_nil
  addressesNodup :=
    List.nodup_nil

theorem not_registered_empty
    (name : Name)
    (address : Address) :
    ¬ (empty : NamedRegistry Name Address).Registered name address :=
  List.not_mem_nil

/-- A name is registered at one address only. -/
theorem address_unique
    {registry : NamedRegistry Name Address}
    {name : Name}
    {first second : Address}
    (atFirst : registry.Registered name first)
    (atSecond : registry.Registered name second) :
    first = second :=
  congrArg Prod.snd
    (List.inj_on_of_nodup_map registry.namesNodup atFirst atSecond rfl)

/-- An address carries one name only. -/
theorem name_unique
    {registry : NamedRegistry Name Address}
    {first second : Name}
    {address : Address}
    (underFirst : registry.Registered first address)
    (underSecond : registry.Registered second address) :
    first = second :=
  congrArg Prod.fst
    (List.inj_on_of_nodup_map registry.addressesNodup
      underFirst underSecond rfl)

section Lookup

variable [DecidableEq Name]

/-- The address registered under a name. -/
def find?
    (registry : NamedRegistry Name Address)
    (name : Name) :
    Option Address :=
  (registry.entries.find? fun entry => entry.1 = name).map Prod.snd

/-- A lookup returns exactly the registered address. -/
theorem find?_eq_some_iff
    {registry : NamedRegistry Name Address}
    {name : Name}
    {address : Address} :
    registry.find? name = some address ↔
      registry.Registered name address := by
  constructor
  · intro found
    obtain ⟨entry, entryFound, rfl⟩ := Option.map_eq_some_iff.mp found
    have sameName : entry.1 = name := by
      simpa using List.find?_some entryFound
    subst sameName
    exact List.mem_of_find?_eq_some entryFound
  · intro registered
    cases search :
        registry.entries.find? fun entry => entry.1 = name with
    | none =>
        have unnamed :=
          List.find?_eq_none.mp search (name, address) registered
        simp at unnamed
    | some entry =>
        have sameName : entry.1 = name := by
          simpa using List.find?_some search
        have foundRegistered : registry.Registered name entry.2 := by
          subst sameName
          exact List.mem_of_find?_eq_some search
        simp [find?, search, address_unique foundRegistered registered]

/-- A lookup finds nothing exactly when the name is not registered. -/
theorem find?_eq_none_iff
    {registry : NamedRegistry Name Address}
    {name : Name} :
    registry.find? name = none ↔
      ∀ address, ¬ registry.Registered name address := by
  simp [Option.eq_none_iff_forall_ne_some, find?_eq_some_iff]

end Lookup

section Registration

variable [DecidableEq Address]

/-- Register an object at the end, unless its name or its address is taken. -/
def register?
    [DecidableEq Name]
    (registry : NamedRegistry Name Address)
    (name : Name)
    (address : Address) :
    Option (NamedRegistry Name Address) :=
  if fresh :
      name ∉ registry.entries.map Prod.fst ∧
        address ∉ registry.entries.map Prod.snd then
    some {
      entries := registry.entries ++ [(name, address)]
      namesNodup := by
        rw [List.map_append]
        exact List.Nodup.append registry.namesNodup (by simp)
          (by simpa using fresh.1)
      addressesNodup := by
        rw [List.map_append]
        exact List.Nodup.append registry.addressesNodup (by simp)
          (by simpa using fresh.2)
    }
  else
    none

/-- A registration succeeds exactly when neither its name nor its address is taken. -/
theorem register?_isSome_iff
    [DecidableEq Name]
    {registry : NamedRegistry Name Address}
    {name : Name}
    {address : Address} :
    (registry.register? name address).isSome ↔
      (∀ other, ¬ registry.Registered name other) ∧
        ∀ other, ¬ registry.Registered other address := by
  unfold register? Registered
  split
  · next fresh =>
      simpa using fresh
  · next taken =>
      simpa using taken

/-- A successful registration adds exactly one object. -/
theorem register?_entries
    [DecidableEq Name]
    {registry after : NamedRegistry Name Address}
    {name : Name}
    {address : Address}
    (succeeded : registry.register? name address = some after) :
    after.entries = registry.entries ++ [(name, address)] := by
  unfold register? at succeeded
  split at succeeded
  · simp only [Option.some.injEq] at succeeded
    subst after
    rfl
  · contradiction

/-- What is registered after a successful registration. -/
theorem registered_of_register?
    [DecidableEq Name]
    {registry after : NamedRegistry Name Address}
    {name : Name}
    {address : Address}
    (succeeded : registry.register? name address = some after)
    (otherName : Name)
    (otherAddress : Address) :
    after.Registered otherName otherAddress ↔
      registry.Registered otherName otherAddress ∨
        otherName = name ∧ otherAddress = address := by
  unfold Registered
  rw [register?_entries succeeded]
  simp

/-- Unregister whatever lives at an address. -/
def unregister
    (registry : NamedRegistry Name Address)
    (address : Address) :
    NamedRegistry Name Address where
  entries :=
    registry.entries.filter fun entry => entry.2 ≠ address
  namesNodup :=
    registry.namesNodup.sublist (List.filter_sublist.map Prod.fst)
  addressesNodup :=
    registry.addressesNodup.sublist (List.filter_sublist.map Prod.snd)

/-- Unregistering removes exactly the objects at that address. -/
theorem registered_unregister_iff
    {registry : NamedRegistry Name Address}
    {removed address : Address}
    {name : Name} :
    (registry.unregister removed).Registered name address ↔
      registry.Registered name address ∧ address ≠ removed := by
  simp [unregister, Registered]

/-- Unregistering what was just registered restores the registry. -/
theorem unregister_of_register?
    [DecidableEq Name]
    {registry after : NamedRegistry Name Address}
    {name : Name}
    {address : Address}
    (succeeded : registry.register? name address = some after) :
    after.unregister address = registry := by
  have fresh :=
    (register?_isSome_iff.mp (Option.isSome_of_eq_some succeeded)).2
  ext1
  simp only [unregister, register?_entries succeeded, List.filter_append]
  have kept :
      registry.entries.filter (fun entry => entry.2 ≠ address) =
        registry.entries := by
    rw [List.filter_eq_self]
    intro entry member
    simp only [ne_eq, decide_not, Bool.not_eq_eq_eq_not, Bool.not_true,
      decide_eq_false_iff_not]
    rintro rfl
    exact fresh entry.1 member
  rw [kept]
  simp

end Registration

end NamedRegistry

end VDataplane
