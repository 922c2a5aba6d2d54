import VDataplane.Memring
import VDataplane.Port
import VDataplane.Shim

namespace VDataplane.Engine

/-!
# The packet loops of the main engine

The functions of `rxbin.rs` and `txbin.rs` that move packets between the NIC
and the packetiser.  The global queues are unbounded FIFO queues, modelled by
lists with their head in front; the functions take the queues they read and
return what they leave behind.
-/

/-- The id of the process that will process the packets. -/
def processorThread : UInt16 := 1

/--
The loop of `get_external_pkts`: queue every packet whose `ether_type` is not
0 and drop the others.  `cnt` counts the queued packets for a debug message.
-/
def receiveLoop :
    List Mbuf → Nat → List Mbuf → Eal → Nat × List Mbuf × Eal
  | [], cnt, ringPkts, eal =>
      (cnt, ringPkts, eal)
  | pkt :: pkts, cnt, ringPkts, eal =>
      match Shim.pktEtherHdr (some pkt.getPtr) with
      | some etherHdr =>
          if Shim.etherType pkt.getPtr etherHdr ≠ 0 then
            receiveLoop pkts (cnt + 1) (ringPkts ++ [pkt]) eal
          else
            receiveLoop pkts cnt ringPkts (pkt.drop eal)
      | none =>
          receiveLoop pkts cnt ringPkts (pkt.drop eal)

/-- `get_external_pkts`, given the packets that `Port::receive` returned. -/
def getExternalPkts
    (pkts : List Mbuf)
    (ringPkts : List Mbuf)
    (eal : Eal) :
    Nat × List Mbuf × Eal :=
  let (_cnt, ringPkts, eal) := receiveLoop pkts 0 ringPkts eal
  (pkts.length, ringPkts, eal)

/-- The loop of `send_to_packetiser`; `len` counts the packets sent so far. -/
def sendLoop
    (ch : RingClientMap) :
    List Mbuf → Nat → Eal → Nat × List Mbuf × Eal
  | [], len, eal =>
      (len, [], eal)
  | pkt :: ringPkts, len, eal =>
      match ch.send processorThread pkt eal with
      | (.ok (), eal) =>
          sendLoop ch ringPkts (len + 1) eal
      | (.error _, eal) =>
          (len, ringPkts, eal)

/-- `send_to_packetiser`: pop and send queued packets until one is refused. -/
def sendToPacketiser
    (ch : RingClientMap)
    (ringPkts : List Mbuf)
    (eal : Eal) :
    Nat × List Mbuf × Eal :=
  if ringPkts.isEmpty then
    (0, ringPkts, eal)
  else
    sendLoop ch ringPkts 0 eal

/--
The receive loop of `get_from_packetiser`; `sLen` counts the packets gotten so
far.  A failed receive drops its buffer and the ones not used yet.
-/
def collectLoop
    (ch : RingClientMap) :
    List Mbuf → Nat → List Mbuf → Eal → Nat × List Mbuf × Eal
  | [], sLen, outPkts, eal =>
      (sLen, outPkts, eal)
  | pkt :: pkts, sLen, outPkts, eal =>
      match ch.receive processorThread pkt eal with
      | (.ok (), pkt, eal) =>
          collectLoop ch pkts (sLen + 1) (outPkts ++ [pkt]) eal
      | (.error _, pkt, eal) =>
          (sLen, outPkts, Mbuf.dropAll pkts (pkt.drop eal))

/--
`get_from_packetiser`: the number of buffers to create is the length of the
queue `FROM_PACKETISER`, which the function itself does not change.
-/
def getFromPacketiser
    (ch : RingClientMap)
    (mp : Mempool)
    (fromPacketiser outPkts : List Mbuf)
    (eal : Eal) :
    Nat × List Mbuf × Eal :=
  let len := fromPacketiser.length
  let (pkts, eal) := Mbuf.createUpTo mp len [] eal
  let (sLen, outPkts, eal) := collectLoop ch pkts 0 outPkts eal
  (len - sLen, outPkts, eal)

/--
`send_pkts_out`: send the whole queue out of `ports[0]`, here `port`.

The result holds the value returned, the packets that the NIC took over, the
queue and the environment.
-/
def sendPktsOut
    (port : Port)
    (lcoreId : UInt32)
    (accepts : Nat)
    (outPkts : List Mbuf)
    (eal : Eal) :
    Except Fault (Nat × List RteMbuf × List Mbuf × Eal) :=
  let queueId := lcoreId.toUInt16
  if outPkts.isEmpty then
    .ok (0, [], outPkts, eal)
  else
    match port.send outPkts (queueId ^^^ 1) accepts with
    | .error fault =>
        .error fault
    | .ok sent =>
        .ok (sent.count, sent.onNic, [], Mbuf.putBulks sent.freed eal)

end VDataplane.Engine
