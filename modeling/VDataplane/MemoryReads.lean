import VDataplane.ByteMemory

namespace VDataplane

/-!
# Computations that read memory

A computation is a tree of loads: each load names an address, and the byte it
finds there decides how the computation goes on.  What a computation yields and
which addresses it touches depend on the memory only at the addresses that it
touches.
-/

/-- A computation that loads bytes one after the other and then yields a result. -/
inductive MemoryReads (α : Type) where
  | done (result : α)
  | load (address : UInt64) (next : UInt8 → MemoryReads α)

namespace MemoryReads

variable {α β : Type}

/-- The result of a computation. -/
def run (memory : ByteMemory) : MemoryReads α → α
  | done result =>
      result
  | load address next =>
      run memory (next (memory address))

/-- The addresses that a computation loads from, in order. -/
def touched (memory : ByteMemory) : MemoryReads α → List UInt64
  | done _ =>
      []
  | load address next =>
      address :: touched memory (next (memory address))

/-- One computation, and then another one that depends on its result. -/
def bind (next : α → MemoryReads β) : MemoryReads α → MemoryReads β
  | done result =>
      next result
  | load address rest =>
      load address fun byte => bind next (rest byte)

/-- Load one byte. -/
def load8 (address : UInt64) : MemoryReads UInt8 :=
  load address done

/-- Load a 16-bit word, its least significant byte first. -/
def load16 (address : UInt64) : MemoryReads UInt16 :=
  load address fun low =>
    load (address + 1) fun high =>
      done (low.toUInt16 + 256 * high.toUInt16)

@[simp] theorem run_bind
    (memory : ByteMemory)
    (next : α → MemoryReads β)
    (reads : MemoryReads α) :
    (reads.bind next).run memory = (next (reads.run memory)).run memory := by
  induction reads with
  | done result =>
      rfl
  | load address rest inductionHypothesis =>
      exact inductionHypothesis (memory address)

@[simp] theorem touched_bind
    (memory : ByteMemory)
    (next : α → MemoryReads β)
    (reads : MemoryReads α) :
    (reads.bind next).touched memory =
      reads.touched memory ++ (next (reads.run memory)).touched memory := by
  induction reads with
  | done result =>
      rfl
  | load address rest inductionHypothesis =>
      exact congrArg (address :: ·) (inductionHypothesis (memory address))

@[simp] theorem run_done
    (memory : ByteMemory)
    (result : α) :
    (done result).run memory = result :=
  rfl

@[simp] theorem touched_done
    (memory : ByteMemory)
    (result : α) :
    (done result).touched memory = [] :=
  rfl

@[simp] theorem run_load8
    (memory : ByteMemory)
    (address : UInt64) :
    (load8 address).run memory = memory address :=
  rfl

@[simp] theorem touched_load8
    (memory : ByteMemory)
    (address : UInt64) :
    (load8 address).touched memory = [address] :=
  rfl

@[simp] theorem run_load16
    (memory : ByteMemory)
    (address : UInt64) :
    (load16 address).run memory = memory.load16 address :=
  rfl

@[simp] theorem touched_load16
    (memory : ByteMemory)
    (address : UInt64) :
    (load16 address).touched memory = [address, address + 1] :=
  rfl

/-- A computation yields the same on two memories that agree where it reads. -/
theorem run_congr
    {memory other : ByteMemory}
    (reads : MemoryReads α)
    (agree :
      ∀ address ∈ reads.touched memory,
        memory address = other address) :
    reads.run memory = reads.run other := by
  induction reads with
  | done result =>
      rfl
  | load address rest inductionHypothesis =>
      have sameByte : memory address = other address :=
        agree address (List.mem_cons_self ..)
      have agreeBehind :
          ∀ behind ∈ (rest (memory address)).touched memory,
            memory behind = other behind :=
        fun behind member => agree behind (List.mem_cons_of_mem _ member)
      rw [run, run, ← sameByte]
      exact inductionHypothesis _ agreeBehind

end MemoryReads

end VDataplane
