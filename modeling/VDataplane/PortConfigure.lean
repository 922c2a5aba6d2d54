import VDataplane.Port

namespace VDataplane

/-!
# The configuration of a port

The part of `apis/port.rs` that sets up a device: one call that says how many
queues there are, one call for each queue, and the choice of the hash that
steers packets to the queues.

Socket, descriptor counts and the mempool of a receive queue choose no result
and are left out.
-/

/-- The part of `rte_eth_dev_info` that the configuration reads. -/
structure EthDevInfo where
  flowTypeRssOffloads : UInt64
  txOffloadCapa : UInt64
  deriving Repr, DecidableEq

/--
The fields of `rte_eth_conf` that the configuration sets, and the length field
beside the key, which keeps its default.
-/
structure EthConf where
  rxMqMode : UInt32
  maxRxPktLen : UInt32
  splitHdrSize : UInt16
  rxOffloads : UInt64
  rssHf : UInt64
  /-- What `rss_key` points to. -/
  rssKey : List UInt8
  rssKeyLen : UInt8
  txMqMode : UInt32
  txOffloads : UInt64
  deriving Repr, DecidableEq

/-- A device, as far as the library lets it be configured. -/
structure EthDev where
  /-- How many queues the device can provide. -/
  maxRxQueues : Nat
  maxTxQueues : Nat
  /-- The modes and offloads that the device supports. -/
  supports : EthConf → Bool
  promiscuousCapable : Bool
  /-- The last configuration. -/
  conf : Option EthConf
  nbRxQueues : Nat
  nbTxQueues : Nat
  /-- The queues that have been set up since then, in order. -/
  rxQueues : List UInt16
  txQueues : List UInt16
  promiscuous : Bool

namespace Dpdk

/--
`rte_eth_dev_configure`: 0, or `-EINVAL` for more queues or other modes than the
device provides.  A new configuration releases the queues of the last one.
-/
def rteEthDevConfigure
    (nbRxQ nbTxQ : UInt16)
    (conf : EthConf)
    (dev : EthDev) :
    Int × EthDev :=
  if nbRxQ.toNat ≤ dev.maxRxQueues ∧ nbTxQ.toNat ≤ dev.maxTxQueues ∧
      dev.supports conf then
    (0, {
      dev with
      conf := some conf
      nbRxQueues := nbRxQ.toNat
      nbTxQueues := nbTxQ.toNat
      rxQueues := []
      txQueues := []
    })
  else
    (-Errno.einval, dev)

/-- `rte_eth_rx_queue_setup`: 0, or `-EINVAL` for an index not below the configured count. -/
def rteEthRxQueueSetup
    (rxQueueId : UInt16)
    (dev : EthDev) :
    Int × EthDev :=
  if rxQueueId.toNat < dev.nbRxQueues then
    (0, { dev with rxQueues := dev.rxQueues ++ [rxQueueId] })
  else
    (-Errno.einval, dev)

/-- `rte_eth_tx_queue_setup`: 0, or `-EINVAL` for an index not below the configured count. -/
def rteEthTxQueueSetup
    (txQueueId : UInt16)
    (dev : EthDev) :
    Int × EthDev :=
  if txQueueId.toNat < dev.nbTxQueues then
    (0, { dev with txQueues := dev.txQueues ++ [txQueueId] })
  else
    (-Errno.einval, dev)

/-- `rte_eth_promiscuous_enable`: 0, or `-ENOTSUP`. -/
def rteEthPromiscuousEnable (dev : EthDev) : Int × EthDev :=
  if dev.promiscuousCapable then
    (0, { dev with promiscuous := true })
  else
    (-Errno.enotsup, dev)

end Dpdk

namespace Port

/-- `ETH_MQ_RX_RSS`. -/
def ethMqRxRss : UInt32 := 1

/-- `RTE_ETHER_MAX_LEN`. -/
def rteEtherMaxLen : UInt32 := 1518

/-- `DEV_RX_OFFLOAD_CHECKSUM`. -/
def devRxOffloadChecksum : UInt32 := 14

/-- `DEV_TX_OFFLOAD_MBUF_FAST_FREE`. -/
def devTxOffloadMbufFastFree : UInt32 := 65536

/-- `DEFAULT_RSS_HF`: IP, TCP, UDP, SCTP and the layer 2 payload. -/
def defaultRssHf : UInt64 :=
  41868 ||| 66576 ||| 133152 ||| 4160 ||| 16384

/-- `RSS_SYMMETRIC_KEY`. -/
def rssSymmetricKey : List UInt8 := [
  0x6d, 0x5a, 0x6d, 0x5a, 0x6d, 0x5a, 0x6d, 0x5a, 0x6d, 0x5a,
  0x6d, 0x5a, 0x6d, 0x5a, 0x6d, 0x5a, 0x6d, 0x5a, 0x6d, 0x5a,
  0x6d, 0x5a, 0x6d, 0x5a, 0x6d, 0x5a, 0x6d, 0x5a, 0x6d, 0x5a,
  0x6d, 0x5a, 0x6d, 0x5a, 0x6d, 0x5a, 0x6d, 0x5a, 0x6d, 0x5a
]

/-- The configuration that `Port::configure` asks for. -/
def ethConf (devInfo : EthDevInfo) : EthConf where
  rxMqMode :=
    ethMqRxRss
  maxRxPktLen :=
    rteEtherMaxLen
  splitHdrSize :=
    0
  rxOffloads :=
    devRxOffloadChecksum.toUInt64
  rssHf :=
    defaultRssHf &&& devInfo.flowTypeRssOffloads
  rssKey :=
    rssSymmetricKey
  rssKeyLen :=
    0
  txMqMode :=
    0
  txOffloads :=
    if 0 < devInfo.txOffloadCapa &&& devTxOffloadMbufFastFree.toUInt64 then
      0x2 ||| 0x4 ||| 0x8 ||| devTxOffloadMbufFastFree.toUInt64
    else
      0x2 ||| 0x4 ||| 0x8

/-- The loop of `Port::configure` that sets up a receive and a transmit queue for each id. -/
def setUpQueues
    (errno : Int) :
    List UInt16 → EthDev → Except PortError Unit × EthDev
  | [], dev =>
      (.ok (), dev)
  | i :: rest, dev =>
      match Dpdk.rteEthRxQueueSetup i dev with
      | (0, dev) =>
          match Dpdk.rteEthTxQueueSetup i dev with
          | (0, dev) =>
              setUpQueues errno rest dev
          | (_, dev) =>
              (.error (.new errno), dev)
      | (_, dev) =>
          (.error (.new errno), dev)

/-- The ids `0..count`. -/
def queueIds (count : Nat) : List UInt16 :=
  (List.range count).map UInt16.ofNat

/--
`Port::configure`.

`errno` is the `rte_errno` of the calling thread, which none of the calls sets.
The number of queues is rounded up for the set-up and not for the configuration.
-/
def configure
    (_port : Port)
    (devInfo : EthDevInfo)
    (numCores : UInt16)
    (errno : Int)
    (dev : EthDev) :
    Except PortError Unit × EthDev :=
  match Dpdk.rteEthDevConfigure numCores numCores (ethConf devInfo) dev with
  | (0, dev) =>
      let nCores :=
        if numCores % 2 = 1 then
          numCores + 1
        else
          numCores
      match setUpQueues errno (queueIds nCores.toNat) dev with
      | (.error error, dev) =>
          (.error error, dev)
      | (.ok (), dev) =>
          match Dpdk.rteEthPromiscuousEnable dev with
          | (0, dev) =>
              (.ok (), dev)
          | (_, dev) =>
              (.error (.new errno), dev)
  | (_, dev) =>
      (.error (.new errno), dev)

/-- Setting up queues keeps the configuration. -/
theorem setUpQueues_conf
    (errno : Int)
    (ids : List UInt16)
    (dev : EthDev) :
    (setUpQueues errno ids dev).2.conf = dev.conf := by
  induction ids generalizing dev with
  | nil =>
      rfl
  | cons first rest inductionHypothesis =>
      by_cases rxBelow : first.toNat < dev.nbRxQueues
      · by_cases txBelow : first.toNat < dev.nbTxQueues
        · simp [setUpQueues, Dpdk.rteEthRxQueueSetup,
            Dpdk.rteEthTxQueueSetup, rxBelow, txBelow, inductionHypothesis]
        · simp [setUpQueues, Dpdk.rteEthRxQueueSetup,
            Dpdk.rteEthTxQueueSetup, rxBelow, txBelow, Errno.einval]
      · simp [setUpQueues, Dpdk.rteEthRxQueueSetup, rxBelow, Errno.einval]

/-- A port that could be configured has the configuration that was asked for. -/
theorem configure_conf
    {port : Port}
    {devInfo : EthDevInfo}
    {numCores : UInt16}
    {errno : Int}
    {dev configured : EthDev}
    (succeeded :
      port.configure devInfo numCores errno dev = (.ok (), configured)) :
    configured.conf = some (ethConf devInfo) := by
  by_cases accepted :
      numCores.toNat ≤ dev.maxRxQueues ∧ numCores.toNat ≤ dev.maxTxQueues ∧
        dev.supports (ethConf devInfo)
  · simp only [configure, Dpdk.rteEthDevConfigure, if_pos accepted]
      at succeeded
    split at succeeded
    · simp at succeeded
    · next setUp =>
        have sameConf := congrArg (fun outcome => outcome.2.conf) setUp
        rw [setUpQueues_conf] at sameConf
        rw [Dpdk.rteEthPromiscuousEnable] at succeeded
        split at succeeded
        · next enabled =>
            split at enabled
            · cases enabled
              cases succeeded
              exact sameConf.symm
            · cases enabled
        · simp at succeeded
  · simp [configure, Dpdk.rteEthDevConfigure, if_neg accepted,
      Errno.einval] at succeeded

end Port

end VDataplane
