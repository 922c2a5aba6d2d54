import VDataplane.EthDevEmulator
import VDataplane.GuardedRun

namespace VDataplane.DeviceTokens

open GuardedRun

/-!
# What the emulated device advertises

The network stack may call the device in any order, and consume or drop every
token it gets.  Both buffers of the device are empty, and nothing ever puts a
byte into them, so that a token has no room for any frame and `receive` hands
out tokens when nothing has come in.
-/

/-- What the stack does with a transmit token. -/
inductive TxUse where
  | dropped
  | consumed (len : Nat) (f : FrameClosure)

/-- What the stack does with a receive token. -/
inductive RxUse where
  | dropped
  | consumed (f : FrameClosure)

/-- One call of the device, and what becomes of the tokens before the next one. -/
inductive Call where
  | receive (rx : RxUse) (tx : TxUse)
  | transmit (tx : TxUse)

/-- The incoming buffer after a receive token has been used. -/
def useRx (token : EthDevRxToken) : RxUse → List UInt8
  | .dropped =>
      token.slice
  | .consumed f =>
      token.consume f

/-- The outgoing buffer after a transmit token has been used; a panic leaves it as it was. -/
def useTx (token : EthDevTxToken) : TxUse → List UInt8
  | .dropped =>
      token.slice
  | .consumed len f =>
      match token.consume len f with
      | .error _ =>
          token.slice
      | .ok slice =>
          slice

/-- The device after a call; tokens that were not handed out are not used. -/
def step (device : EthDevEmulator) : Call → EthDevEmulator
  | .receive rx tx =>
      match device.receive with
      | none =>
          device
      | some (rxToken, txToken) =>
          ⟨useRx rxToken rx, useTx txToken tx⟩
  | .transmit tx =>
      match device.transmit with
      | none =>
          device
      | some txToken =>
          { device with outgoing := useTx txToken tx }

/-! ## What is promised -/

/-- The frame that has come in, if any. -/
def pendingFrame (device : EthDevEmulator) : Option (List UInt8) :=
  if device.incoming = [] then
    none
  else
    some device.incoming

/-- Within the advertised MTU, a transmit token has a buffer of the length asked for. -/
def TxHonoured
    (device : EthDevEmulator)
    (token : EthDevTxToken) :
    TxUse → Prop
  | .dropped =>
      True
  | .consumed len _ =>
      len ≤ device.capabilities.maxTransmissionUnit →
      ∃ buffer, token.passed len = .ok buffer ∧ buffer.length = len

/-- A call keeps what the device promises. -/
def Honoured (device : EthDevEmulator) : Call → Prop
  | .receive _ tx =>
      ∀ rxToken txToken,
        device.receive = some (rxToken, txToken) →
        pendingFrame device = some rxToken.passed ∧
          TxHonoured device txToken tx
  | .transmit tx =>
      ∀ txToken,
        device.transmit = some txToken →
        TxHonoured device txToken tx

/-- A transmit token is used without room for a frame. -/
def TxUse.NeedsNoRoom : TxUse → Prop
  | dropped =>
      True
  | consumed len _ =>
      len = 0 ∨ EthDevEmulator.mtu < len

/-- A call asks neither for a frame nor for room for one. -/
def Call.NeedsNoBuffer : Call → Prop
  | receive _ _ =>
      False
  | transmit tx =>
      tx.NeedsNoRoom

/-! ## The buffers stay empty -/

/-- Both buffers are empty. -/
structure Empty (device : EthDevEmulator) : Prop where
  incoming :
    device.incoming = []
  outgoing :
    device.outgoing = []

theorem empty_new : Empty .new :=
  ⟨rfl, rfl⟩

/-- A closure cannot lengthen what it is given. -/
theorem length_useRx
    (token : EthDevRxToken)
    (use : RxUse) :
    (useRx token use).length = token.slice.length := by
  cases use with
  | dropped =>
      rfl
  | consumed f =>
      exact f.sameLength _

/-- Consuming a transmit token leaves the length of the buffer as it is. -/
theorem length_useTx
    (token : EthDevTxToken)
    (use : TxUse) :
    (useTx token use).length = token.slice.length := by
  cases use with
  | dropped =>
      rfl
  | consumed len f =>
      by_cases hasRoom : len ≤ token.slice.length
      · have written := f.sameLength (token.slice.take len)
        rw [useTx, EthDevTxToken.consume, EthDevTxToken.passed,
          if_pos hasRoom]
        simp only [List.length_append, written, List.length_take,
          List.length_drop]
        omega
      · rw [useTx, EthDevTxToken.consume, EthDevTxToken.passed,
          if_neg hasRoom]

/-- No call fills a buffer. -/
theorem empty_step
    (device : EthDevEmulator)
    (call : Call)
    (empty : Empty device) :
    Empty (step device call) := by
  have noOutgoing :
      ∀ tx, useTx ⟨device.outgoing⟩ tx = [] := by
    intro tx
    apply List.eq_nil_of_length_eq_zero
    rw [length_useTx, empty.outgoing]
    rfl
  cases call with
  | receive rx tx =>
      have noIncoming : useRx ⟨device.incoming⟩ rx = [] := by
        apply List.eq_nil_of_length_eq_zero
        rw [length_useRx, empty.incoming]
        rfl
      exact ⟨noIncoming, noOutgoing tx⟩
  | transmit tx =>
      exact ⟨empty.incoming, noOutgoing tx⟩

/-- The buffers are empty after every sequence of calls. -/
theorem empty_run (calls : List Call) :
    Empty (run step .new calls) :=
  run_invariant empty_step empty_new calls

/-! ## Which calls keep the promises -/

/-- A token of an empty buffer has room for nothing. -/
theorem txHonoured_iff
    {device : EthDevEmulator}
    {token : EthDevTxToken}
    (noRoom : token.slice = [])
    (tx : TxUse) :
    TxHonoured device token tx ↔ tx.NeedsNoRoom := by
  cases tx with
  | dropped =>
      exact Iff.rfl
  | consumed len f =>
      constructor
      · intro honoured
        by_contra needsRoom
        obtain ⟨notZero, withinMtu⟩ := not_or.mp needsRoom
        obtain ⟨buffer, isPassed, -⟩ := honoured (not_lt.mp withinMtu)
        have noSpace : ¬ len ≤ token.slice.length := by
          rw [noRoom, List.length_nil]
          omega
        rw [EthDevTxToken.passed, if_neg noSpace] at isPassed
        exact absurd isPassed (by simp)
      · rintro (rfl | aboveMtu) withinMtu
        · exact ⟨[], by simp [EthDevTxToken.passed], rfl⟩
        · exact absurd withinMtu (not_le.mpr aboveMtu)

/-- Of an empty device, the calls that need no buffer keep the promises. -/
theorem honoured_iff
    (device : EthDevEmulator)
    (call : Call)
    (empty : Empty device) :
    Honoured device call ↔ call.NeedsNoBuffer := by
  cases call with
  | receive rx tx =>
      constructor
      · intro honoured
        have isPending := (honoured _ _ rfl).1
        rw [pendingFrame, if_pos empty.incoming] at isPending
        exact absurd isPending.symm (Option.some_ne_none _)
      · intro impossible
        exact impossible.elim
  | transmit tx =>
      have isToken :
          TxHonoured device ⟨device.outgoing⟩ tx ↔ tx.NeedsNoRoom :=
        txHonoured_iff empty.outgoing tx
      constructor
      · intro honoured
        exact isToken.mp (honoured _ rfl)
      · rintro needsNoRoom _ ⟨rfl⟩
        exact isToken.mpr needsNoRoom

/--
Every call of a run keeps the promises of the device exactly if none of them is
a `receive` and every transmit token that is consumed is asked for no byte, or
for more than the device advertises.
-/
theorem everyStep_honoured_iff_no_buffer_needed (calls : List Call) :
    EveryStep step Honoured .new calls ↔
      ∀ call ∈ calls, call.NeedsNoBuffer := by
  have sameConditions :
      EveryStep step Honoured .new calls ↔
        EveryStep step (fun _ call => call.NeedsNoBuffer) .new calls :=
    everyStep_iff_guarded
      (fun device call empty _ => empty_step device call empty)
      honoured_iff empty_new calls
  rw [sameConditions, everyStep_iff_forall_mem]

/-- A closure that leaves its buffer as it is. -/
def untouched : FrameClosure where
  write buffer :=
    buffer
  sameLength _ :=
    rfl

/-- The network stack asks for the buffer of a frame of one byte. -/
theorem not_honoured_transmit_one :
    ¬ EveryStep step Honoured .new [.transmit (.consumed 1 untouched)] := by
  intro everyHonoured
  obtain ⟨buffer, isPassed, -⟩ :=
    everyHonoured.1 ⟨[]⟩ rfl (by decide)
  exact absurd isPassed (by simp [EthDevTxToken.passed])

/-- The token that the stack gets after any sequence of calls has room for no byte. -/
theorem passed_eq_panicked
    (calls : List Call)
    {token : EthDevTxToken}
    (handedOut : (run step .new calls).transmit = some token)
    {len : Nat}
    (needsRoom : 0 < len) :
    token.passed len = .error .panicked := by
  obtain rfl := Option.some_inj.mp handedOut
  have noSpace :
      ¬ len ≤ (run step .new calls).outgoing.length := by
    rw [(empty_run calls).outgoing, List.length_nil]
    omega
  exact if_neg noSpace

end VDataplane.DeviceTokens
