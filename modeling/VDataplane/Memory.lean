import VDataplane.ApiErrors

namespace VDataplane

/-!
# Mempools and memzones

The handles of `apis/mempool.rs` and `apis/memzone.rs`: how another process
finds a mempool or a memzone by name, and what dropping the handle does.
-/

/-- A handle on one `rte_mempool`. -/
structure Mempool where
  raw : Address
  deriving Repr, DecidableEq

/-- A handle on one `rte_memzone`. -/
structure Memzone where
  raw : Address
  deriving Repr, DecidableEq

namespace Mempool

def rxMbufDataSize : UInt32 := 2048

def rtePktmbufHeadroom : UInt32 := 128

def mbufOverhead : UInt32 :=
  Dpdk.sizeOfRteMbuf + rtePktmbufHeadroom

def numMbufs : UInt32 := 32767

def mbufSize : UInt32 :=
  rxMbufDataSize + mbufOverhead

/-- `Mempool::new`. -/
def new
    (name : String)
    (allocation : Except Int (Dpdk.PoolMemory numMbufs.toNat))
    (eal : Eal) :
    Except MemoryError Mempool × Eal :=
  match toCstring name with
  | .error error =>
      (.error error, eal)
  | .ok cname =>
      match Dpdk.rteMempoolCreate cname numMbufs mbufSize allocation eal with
      | (some raw, created) =>
          (.ok ⟨raw⟩, created)
      | (none, failed) =>
          (.error (.new failed.errno), failed)

end Mempool

/-- `Memzone::new`. -/
def Memzone.new
    (name : String)
    (allocation : Dpdk.Allocation)
    (eal : Eal) :
    Except MemoryError Memzone × Eal :=
  match toCstring name with
  | .error error =>
      (.error error, eal)
  | .ok cname =>
      match Dpdk.rteMemzoneReserve cname allocation eal with
      | (some raw, created) =>
          (.ok ⟨raw⟩, created)
      | (none, failed) =>
          (.error (.new failed.errno), failed)

/-- Convert a name, look it up and wrap the pointer, unless it is NULL. -/
def lookupNamed
    {Handle : Type}
    (find : String → Option Address)
    (wrap : Address → Handle)
    (missing : MemoryError)
    (name : String) :
    Except MemoryError Handle :=
  match toCstring name with
  | .error error =>
      .error error
  | .ok cname =>
      match find cname with
      | some raw =>
          .ok (wrap raw)
      | none =>
          .error missing

/-- `Mempool::lookup`. -/
def Mempool.lookup
    (name : String)
    (eal : Eal) :
    Except MemoryError Mempool :=
  lookupNamed (fun cname => Dpdk.rteMempoolLookup cname eal)
    Mempool.mk .noEntries name

/-- `Drop for Mempool`. -/
def Mempool.drop
    (mempool : Mempool)
    (eal : Eal) :
    Eal :=
  Dpdk.rteMempoolFree mempool.raw eal

/-- `Memzone::lookup`: the error is whatever `rte_errno` happens to say. -/
def Memzone.lookup
    (name : String)
    (eal : Eal) :
    Except MemoryError Memzone :=
  lookupNamed (fun cname => Dpdk.rteMemzoneLookup cname eal)
    Memzone.mk (.new eal.errno) name

/-- `Drop for Memzone`: a failed release is only logged. -/
def Memzone.drop
    (memzone : Memzone)
    (eal : Eal) :
    Eal :=
  (Dpdk.rteMemzoneFree memzone.raw eal).2

/--
Creating a mempool changes nothing but `rte_errno`, or registers it with one
reset buffer in each element of its memory.
-/
theorem Mempool.new_cases
    {name : String}
    (converted : toCstring name = .ok name)
    (allocation : Except Int (Dpdk.PoolMemory numMbufs.toNat))
    (eal : Eal) :
    (∃ errno,
      Mempool.new name allocation eal =
        (.error (.new errno), { eal with errno := errno })) ∨
    ∃ memory mempoolTailq,
      allocation = .ok memory ∧
        eal.mempoolTailq.register? name memory.address =
          some mempoolTailq ∧
        Mempool.new name allocation eal =
          (.ok ⟨memory.address⟩, {
            eal with
            mempoolTailq := mempoolTailq
            pools :=
              Function.update eal.pools memory.address
                (memory.mbufs mbufSize)
          }) := by
  cases allocation with
  | error errno =>
      exact Or.inl ⟨errno, by
        simp [Mempool.new, converted, Dpdk.rteMempoolCreate]⟩
  | ok memory =>
      cases registration :
          eal.mempoolTailq.register? name memory.address with
      | none =>
          exact Or.inl ⟨Errno.eexist, by
            simp [Mempool.new, converted, Dpdk.rteMempoolCreate,
              registration]⟩
      | some mempoolTailq =>
          exact Or.inr ⟨memory, mempoolTailq, rfl, registration, by
            simp [Mempool.new, converted, Dpdk.rteMempoolCreate,
              registration]⟩

/-- Reserving a memzone changes nothing but `rte_errno`, or registers it. -/
theorem Memzone.new_cases
    (name : String)
    (allocation : Dpdk.Allocation)
    (eal : Eal) :
    (∃ error errno,
      Memzone.new name allocation eal =
        (.error error, { eal with errno := errno })) ∨
    ∃ raw memzones,
      Memzone.new name allocation eal =
        (.ok ⟨raw⟩, { eal with memzones := memzones }) := by
  cases converted : toCstring name with
  | error error =>
      exact Or.inl ⟨error, eal.errno, by simp [Memzone.new, converted]⟩
  | ok cname =>
      cases allocation with
      | error errno =>
          exact Or.inl ⟨.new errno, errno, by
            simp [Memzone.new, converted, Dpdk.rteMemzoneReserve]⟩
      | ok raw =>
          cases registration : eal.memzones.register? cname raw with
          | none =>
              exact Or.inl ⟨.new Errno.eexist, Errno.eexist, by
                simp [Memzone.new, converted, Dpdk.rteMemzoneReserve,
                  registration]⟩
          | some memzones =>
              exact Or.inr ⟨raw, memzones, by
                simp [Memzone.new, converted, Dpdk.rteMemzoneReserve,
                  registration]⟩

/-- A name finds the object registered under it, if C can represent the name. -/
theorem lookupNamed_cases
    {Handle : Type}
    (registry : NamedRegistry String Address)
    (wrap : Address → Handle)
    (missing : MemoryError)
    (name : String) :
    ((toCstring name = .ok name →
        ∀ address, ¬ registry.Registered name address) ∧
      ∃ error,
        lookupNamed registry.find? wrap missing name = .error error) ∨
    ∃ raw,
      toCstring name = .ok name ∧
        registry.Registered name raw ∧
        lookupNamed registry.find? wrap missing name = .ok (wrap raw) := by
  by_cases hasNul : Char.ofNat 0 ∈ name.toList
  · have refused : toCstring name = .error .badVal := by
      simp [toCstring, hasNul]
    exact Or.inl ⟨by simp [refused], .badVal, by
      simp [lookupNamed, refused]⟩
  · have converted : toCstring name = .ok name := by
      simp [toCstring, hasNul]
    cases found : registry.find? name with
    | none =>
        have unregistered := NamedRegistry.find?_eq_none_iff.mp found
        exact Or.inl ⟨fun _ => unregistered, missing, by
          simp [lookupNamed, converted, found]⟩
    | some raw =>
        have registered := NamedRegistry.find?_eq_some_iff.mp found
        exact Or.inr ⟨raw, converted, registered, by
          simp [lookupNamed, converted, found]⟩

end VDataplane
