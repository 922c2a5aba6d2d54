import VDataplane.Mbuf

namespace VDataplane

/-!
# Ports

The receive and the transmit path of `apis/port.rs`.  A port's device name and
its device information are read by the configuration only.
-/

/-- A physical NIC port. -/
structure Port where
  id : UInt16
  deriving Repr, DecidableEq

/-- What one call of `Port::send` did. -/
structure Transmission where
  /-- The value that the call returns. -/
  count : Nat
  /-- The packets that the NIC took over. -/
  onNic : List RteMbuf
  /-- The calls of `rte_mempool_put_bulk` that freed packets. -/
  freed : List Dpdk.PutBulk

/--
`rte_eth_rx_burst`: the frames that the NIC hands over, and those that it keeps.
They are the oldest ones it has received; how many of the `nbPkts` asked for it
hands over is the driver's choice.
-/
def Dpdk.rteEthRxBurst
    (rxQueue : List RteMbuf)
    (nbPkts : UInt16)
    (offers : Nat) :
    List RteMbuf × List RteMbuf :=
  let count := min offers nbPkts.toNat
  (rxQueue.take count, rxQueue.drop count)

namespace Port

/-- `RX_BURST_MAX`. -/
def rxBurstMax : UInt16 := 32

/-- `Port::receive`. -/
def receive
    (_port : Port)
    (_queueId : UInt16)
    (offers : Nat)
    (rxQueue : List RteMbuf) :
    List Mbuf × List RteMbuf :=
  let (ptrs, rxQueue) := Dpdk.rteEthRxBurst rxQueue rxBurstMax offers
  (ptrs.map Mbuf.fromPtr, rxQueue)

/--
`Port::send`.

The length of the vector is cast to the 16 bits of the burst's argument.  The
whole pointer array is freed as soon as the NIC has taken fewer packets than
the vector held.
-/
def send
    (_port : Port)
    (pkts : List Mbuf)
    (_queueId : UInt16)
    (accepts : Nat) :
    Except Fault Transmission :=
  let len := pkts.length
  let ptrs := pkts.map Mbuf.intoPtr
  let (count, onNic) :=
    Dpdk.rteEthTxBurst ptrs (UInt16.ofNat ptrs.length) accepts
  if count < len then
    match Apis.mbufFreeBulk ptrs with
    | .error fault =>
        .error fault
    | .ok freed =>
        .ok ⟨count, onNic, freed⟩
  else
    .ok ⟨count, onNic, []⟩

end Port

end VDataplane
