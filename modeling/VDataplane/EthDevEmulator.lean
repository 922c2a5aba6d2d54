import VDataplane.ApiErrors

namespace VDataplane

/-!
# The emulated Ethernet device

The device of `net/device.rs` that the packetiser's network stack drives.  It
hands out tokens that borrow its two buffers; the stack consumes a token at most
once, with a closure that works on the bytes it is given, or drops it.
-/

/-- `Vec::with_capacity`: an empty vector.  What it reserves is in no slice of it. -/
def vecWithCapacity (_capacity : Nat) : List UInt8 :=
  []

/-- A closure that works on a `&mut [u8]`: it overwrites the bytes in place. -/
structure FrameClosure where
  write : List UInt8 → List UInt8
  sameLength : ∀ buffer, (write buffer).length = buffer.length

/-- The fields of `DeviceCapabilities` that the device sets. -/
structure DeviceCapabilities where
  maxTransmissionUnit : Nat
  maxBurstSize : Option Nat
  deriving Repr, DecidableEq

/-- `EthDevRxToken`: the slice it borrows. -/
structure EthDevRxToken where
  slice : List UInt8
  deriving Repr, DecidableEq

/-- `EthDevTxToken`: the slice it borrows. -/
structure EthDevTxToken where
  slice : List UInt8
  deriving Repr, DecidableEq

/-- `EthDevEmulator`. -/
structure EthDevEmulator where
  incoming : List UInt8
  outgoing : List UInt8
  deriving Repr, DecidableEq

namespace EthDevRxToken

/-- What `consume` passes to its closure. -/
def passed (token : EthDevRxToken) : List UInt8 :=
  token.slice

/-- `RxToken::consume`: the slice after the closure has worked on it. -/
def consume
    (token : EthDevRxToken)
    (f : FrameClosure) :
    List UInt8 :=
  f.write token.passed

end EthDevRxToken

namespace EthDevTxToken

/-- What `consume` passes to its closure: the first `len` bytes, or a panic. -/
def passed
    (token : EthDevTxToken)
    (len : Nat) :
    Except Fault (List UInt8) :=
  if len ≤ token.slice.length then
    .ok (token.slice.take len)
  else
    .error .panicked

/-- `TxToken::consume`: the slice after the closure has worked on a part of it. -/
def consume
    (token : EthDevTxToken)
    (len : Nat)
    (f : FrameClosure) :
    Except Fault (List UInt8) :=
  match token.passed len with
  | .error fault =>
      .error fault
  | .ok buffer =>
      .ok (f.write buffer ++ token.slice.drop len)

end EthDevTxToken

namespace EthDevEmulator

/-- `EthDevEmulator::MTU`. -/
def mtu : Nat := 1536

/-- `EthDevEmulator::new`. -/
def new : EthDevEmulator where
  incoming :=
    vecWithCapacity mtu
  outgoing :=
    vecWithCapacity mtu

/-- `Device::receive`: a token for each of the two buffers. -/
def receive (device : EthDevEmulator) :
    Option (EthDevRxToken × EthDevTxToken) :=
  some (⟨device.incoming⟩, ⟨device.outgoing⟩)

/-- `Device::transmit`: a token for the outgoing buffer. -/
def transmit (device : EthDevEmulator) : Option EthDevTxToken :=
  some ⟨device.outgoing⟩

/-- `Device::capabilities`. -/
def capabilities (_device : EthDevEmulator) : DeviceCapabilities where
  maxTransmissionUnit :=
    mtu
  maxBurstSize :=
    some 1

end EthDevEmulator

end VDataplane
