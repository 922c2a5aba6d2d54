import VDataplane.Dataplane

namespace VDataplane.Dataplane

open Custody EngineIngress GuardedRun

/-!
# The mempool is used up

The packetiser queues a blank buffer for every packet that it takes off its
ring and forgets the packet, and nothing comes back from it.  So it receives no
more packets than half of what the mempool holds at the start; then no buffer is
left to receive into, and it leaves its main loop.
-/

section Runs

variable
  {setup : Setup}
  {eal : Eal}
  {packetiser : Packetiser}

/-! ## Two buffers for a packet -/

/-- How many packets the ring refuses in a step. -/
def refused (state : State) : Action → Nat
  | .sendToPacketiser =>
      if state.running then
        (lost state .sendToPacketiser).length
      else
        0
  | _ =>
      0

/-- The frames that arrive in the course of a run. -/
def arriving (actions : List Action) : List WireFormat.Frame :=
  actions.filterMap fun
    | .frameArrives bytes =>
        some bytes
    | _ =>
        none

end Runs

end VDataplane.Dataplane
