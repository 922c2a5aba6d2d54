import VDataplane.Dpdk

namespace VDataplane

/-!
# Errors of the DPDK wrappers

The error types of `apis/mod.rs` and the translation of `rte_errno` into them.
-/

/-- Failures of operations on rings, mempools and memzones. -/
inductive MemoryError where
  | noConfig
  | secondaryProcess
  | invalid
  | noSpace
  | exists
  | noMem
  | noBuf
  | noEntries
  | badVal
  deriving Repr, DecidableEq

/-- Failures of operations on a client's channel. -/
inductive RingClientMapError where
  | memoryError (error : MemoryError)
  | clientNotFound (clientId : UInt16)
  deriving Repr, DecidableEq

/-- Failures of operations on the bytes of a message buffer. -/
inductive BufError where
  | badOffset (offset length : UInt64)
  | notResized
  | outOfBuffer (size remaining : UInt64)
  deriving Repr, DecidableEq

/-- Failures of operations on ports. -/
inductive PortError where
  | noDevice
  | invalid
  | noSupport
  | noMem
  | badVal
  deriving Repr, DecidableEq

/-- A `Box<dyn Error>`, with the errors that are boxed. -/
inductive BoxedError where
  | memoryError (error : MemoryError)
  | bufError (error : BufError)
  deriving Repr, DecidableEq

/-- Ends of the program that no caller can handle. -/
inductive Fault where
  /-- A NULL pointer is dereferenced. -/
  | nullDereference
  /-- `unwrap` on a failed operation. -/
  | panicked
  /-- The allocator has no memory left. -/
  | aborted
  deriving Repr, DecidableEq

namespace MemoryError

/-- `MemoryError::new`: the error that `rte_errno` stands for. -/
def new (errno : Int) : MemoryError :=
  if errno = Errno.eRteSecondary then
    .secondaryProcess
  else if errno = Errno.eRteNoConfig then
    .noConfig
  else if errno = Errno.einval then
    .invalid
  else if errno = Errno.enospc then
    .noSpace
  else if errno = Errno.eexist then
    .exists
  else if errno = Errno.enomem then
    .noMem
  else if errno = Errno.enobufs then
    .noBuf
  else if errno = Errno.enoent then
    .noEntries
  else
    .badVal

end MemoryError

namespace PortError

/-- `PortError::new`: the error that `rte_errno` stands for. -/
def new (errno : Int) : PortError :=
  if errno = Errno.enodev then
    .noDevice
  else if errno = Errno.einval then
    .invalid
  else if errno = Errno.enotsup then
    .noSupport
  else if errno = Errno.enomem then
    .noMem
  else
    .badVal

end PortError

/-! ## Memory for pointers -/

/--
`Vec::with_capacity` for pointers.

More than `isize::MAX` bytes overflow the capacity.  Any other request goes to
the allocator, whose answer is `allocated` and whose refusal aborts the program;
nothing is requested for no pointers.
-/
def ptrsWithCapacity
    (capacity : Nat)
    (allocated : Bool) :
    Except Fault Unit :=
  if 2 ^ 63 ≤ 8 * capacity then
    .error .panicked
  else if capacity ≠ 0 ∧ allocated = false then
    .error .aborted
  else
    .ok ()

/-- There is memory for a vector of pointers. -/
def PtrsFit
    (capacity : Nat)
    (allocated : Bool) :
    Prop :=
  8 * capacity < 2 ^ 63 ∧ (capacity = 0 ∨ allocated = true)

instance
    (capacity : Nat)
    (allocated : Bool) :
    Decidable (PtrsFit capacity allocated) :=
  inferInstanceAs (Decidable (_ ∧ _))

/-- Where there is memory, the vector is created. -/
theorem ptrsWithCapacity_of_fit
    {capacity : Nat}
    {allocated : Bool}
    (fit : PtrsFit capacity allocated) :
    ptrsWithCapacity capacity allocated = .ok () := by
  have granted : ¬ (capacity ≠ 0 ∧ allocated = false) := by
    rintro ⟨notNone, refused⟩
    rcases fit.2 with isNone | isGranted
    · exact notNone isNone
    · simp [refused] at isGranted
  rw [ptrsWithCapacity, if_neg (Nat.not_le.mpr fit.1), if_neg granted]

/-- Where there is no memory, the program ends. -/
theorem ptrsWithCapacity_of_not_fit
    {capacity : Nat}
    {allocated : Bool}
    (noFit : ¬ PtrsFit capacity allocated) :
    ∃ fault, ptrsWithCapacity capacity allocated = .error fault := by
  by_cases overflow : 2 ^ 63 ≤ 8 * capacity
  · exact ⟨.panicked, if_pos overflow⟩
  · have refused : capacity ≠ 0 ∧ allocated = false := by
      constructor
      · intro isNone
        exact noFit ⟨Nat.not_le.mp overflow, Or.inl isNone⟩
      · rw [Bool.eq_false_iff]
        intro granted
        exact noFit ⟨Nat.not_le.mp overflow, Or.inr granted⟩
    exact ⟨.aborted, by
      rw [ptrsWithCapacity, if_neg overflow, if_pos refused]⟩

/-! ## Strings -/

/-- `WrappedCString::to_cstring`: a string with a NUL character becomes `BadVal`. -/
def toCstring (name : String) : Except MemoryError String :=
  if Char.ofNat 0 ∈ name.toList then
    .error .badVal
  else
    .ok name

end VDataplane
