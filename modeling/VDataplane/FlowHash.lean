import VDataplane.PortConfigure
import VDataplane.Toeplitz

namespace VDataplane.FlowHash

open Toeplitz

/-!
# The hash of a flow and of its replies

The key of a port repeats two bytes, so that its windows repeat after 16 bits.
Addresses and ports are multiples of 16 bits long, and exchanging them in the
input of the hash changes nothing.

The configuration of a port passes this key and asks for RSS.  It leaves
`rss_key_len` at 0, so that its key takes effect with a driver that loads the
40 bytes at `rss_key` whatever that field says.
-/

/-- The addresses that take part in the hash. -/
inductive AddressKind where
  | ipv4
  | ipv6
  deriving Repr, DecidableEq

/-- The number of bytes of an address. -/
def AddressKind.size : AddressKind → Nat
  | .ipv4 =>
      4
  | .ipv6 =>
      16

/-- The bytes of an address in wire order. -/
structure EndpointAddress (kind : AddressKind) where
  bytes : List UInt8
  hasSize : bytes.length = kind.size

/-- A flow from one endpoint to another. -/
structure Flow (kind : AddressKind) where
  src : EndpointAddress kind
  dst : EndpointAddress kind
  sport : UInt16
  dport : UInt16

/-- The bytes of a port in wire order. -/
def portBytes (port : UInt16) : List UInt8 :=
  [(port >>> 8).toUInt8, port.toUInt8]

namespace Flow

variable {kind : AddressKind}

/-- The replies to a flow. -/
def reversed (flow : Flow kind) : Flow kind where
  src :=
    flow.dst
  dst :=
    flow.src
  sport :=
    flow.dport
  dport :=
    flow.sport

/-- The input of the hash: the addresses, and the ports where the hash function includes them. -/
def hashInput
    (flow : Flow kind)
    (withPorts : Bool) :
    List UInt8 :=
  flow.src.bytes ++ flow.dst.bytes ++
    if withPorts then
      portBytes flow.sport ++ portBytes flow.dport
    else
      []

/-- The standard hash of a packet of a flow under a key. -/
def rssHash
    (key : List UInt8)
    (flow : Flow kind)
    (withPorts : Bool) :
    BitVec 32 :=
  hash 32 key (flow.hashInput withPorts)

end Flow

/-- What a NIC and its driver make of a configuration: the key of the hash, and a redirection table. -/
structure Nic where
  hashKey : EthConf → List UInt8
  reta : List UInt16

namespace Nic

/-- The driver takes `rss_key` for 40 bytes, whatever `rss_key_len` says. -/
def TakesKey (nic : Nic) : Prop :=
  ∀ conf, conf.rssKey.length = 40 → nic.hashKey conf = conf.rssKey

/-- The receive queue of a packet: with RSS the one at its hash in the redirection table, and the first one otherwise. -/
def rxQueue
    {kind : AddressKind}
    (nic : Nic)
    (conf : EthConf)
    (flow : Flow kind)
    (withPorts : Bool) :
    Option UInt16 :=
  if conf.rxMqMode = Port.ethMqRxRss ∧ conf.rssHf ≠ 0 then
    let rssHash := flow.rssHash (nic.hashKey conf) withPorts
    nic.reta[rssHash.toNat % nic.reta.length]?
  else
    some 0

end Nic

/-! ## The key -/

/-- The key repeats two bytes. -/
theorem rssSymmetricKey_eq :
    Port.rssSymmetricKey = (List.replicate 20 [0x6d, 0x5a]).flatten :=
  rfl

/-- The windows of the key repeat after any number of two bytes. -/
theorem keyWindow_repeats
    {index : Nat}
    (blocks : Nat)
    (inside : index + 16 * blocks + 32 ≤ 320) :
    keyWindow 32 Port.rssSymmetricKey (index + 16 * blocks) =
      keyWindow 32 Port.rssSymmetricKey index := by
  rw [rssSymmetricKey_eq]
  exact keyWindow_add_blocks blocks inside

/-- Two neighbouring parts of the input can be exchanged if they have the same even length. -/
theorem hashFrom_exchange
    {index blocks : Nat}
    {first second : List UInt8}
    (firstLength : first.length = 2 * blocks)
    (secondLength : second.length = 2 * blocks)
    (inside : index + 32 * blocks + 31 ≤ 320) :
    hashFrom (keyWindow 32 Port.rssSymmetricKey) index
        (bits first ++ bits second) =
      hashFrom (keyWindow 32 Port.rssSymmetricKey) index
        (bits second ++ bits first) := by
  have bitsLength : (bits first).length = 16 * blocks := by
    rw [length_bits, firstLength]
    ring
  apply hashFrom_swap
  · rw [length_bits, length_bits, firstLength, secondLength]
  · intro distance below
    rw [bitsLength] at below ⊢
    rw [Nat.add_right_comm, keyWindow_repeats blocks (by omega)]

/-! ## The two directions of a flow -/

/-- An address is short enough for the key, and a multiple of two bytes long. -/
theorem size_bounds (kind : AddressKind) :
    ∃ blocks, kind.size = 2 * blocks ∧ blocks ≤ 8 := by
  cases kind with
  | ipv4 =>
      exact ⟨2, rfl, by decide⟩
  | ipv6 =>
      exact ⟨8, rfl, by decide⟩

section Directions

variable
  {kind : AddressKind}
  (flow : Flow kind)

/-- Exchanging the addresses does not change their hash. -/
theorem addresses_exchange :
    hashFrom (keyWindow 32 Port.rssSymmetricKey) 0
        (bits (flow.dst.bytes ++ flow.src.bytes)) =
      hashFrom (keyWindow 32 Port.rssSymmetricKey) 0
        (bits (flow.src.bytes ++ flow.dst.bytes)) := by
  obtain ⟨blocks, isSize, atMost⟩ := size_bounds kind
  rw [bits_append, bits_append]
  exact hashFrom_exchange (flow.dst.hasSize.trans isSize)
    (flow.src.hasSize.trans isSize) (by omega)

/-- Exchanging the ports behind the addresses does not change their hash. -/
theorem ports_exchange :
    hashFrom (keyWindow 32 Port.rssSymmetricKey) (16 * kind.size)
        (bits (portBytes flow.dport ++ portBytes flow.sport)) =
      hashFrom (keyWindow 32 Port.rssSymmetricKey) (16 * kind.size)
        (bits (portBytes flow.sport ++ portBytes flow.dport)) := by
  obtain ⟨blocks, isSize, atMost⟩ := size_bounds kind
  have sportLength : (portBytes flow.sport).length = 2 * 1 :=
    rfl
  have dportLength : (portBytes flow.dport).length = 2 * 1 :=
    rfl
  rw [bits_append, bits_append]
  exact hashFrom_exchange dportLength sportLength (by omega)

/-- The replies have the hash of the flow. -/
theorem rssHash_reversed_eq
    (withPorts : Bool) :
    flow.reversed.rssHash Port.rssSymmetricKey withPorts =
      flow.rssHash Port.rssSymmetricKey withPorts := by
  have length :
      (bits (flow.src.bytes ++ flow.dst.bytes)).length = 16 * kind.size := by
    rw [length_bits, List.length_append, flow.src.hasSize, flow.dst.hasSize]
    ring
  have reversedLength :
      (bits (flow.dst.bytes ++ flow.src.bytes)).length =
        16 * kind.size := by
    rw [length_bits, List.length_append, flow.src.hasSize, flow.dst.hasSize]
    ring
  have addresses := addresses_exchange flow
  cases withPorts with
  | false =>
      simpa [Flow.rssHash, Toeplitz.hash, Flow.hashInput, Flow.reversed]
        using addresses
  | true =>
      simp only [Flow.rssHash, Toeplitz.hash, Flow.hashInput, Flow.reversed,
        ↓reduceIte]
      rw [bits_append (flow.dst.bytes ++ flow.src.bytes), hashFrom_append,
        bits_append (flow.src.bytes ++ flow.dst.bytes), hashFrom_append,
        addresses, reversedLength, length, Nat.zero_add,
        ports_exchange flow]

/-- A driver that takes the key steers the replies to the queue of the flow. -/
theorem rxQueue_reversed_eq
    {nic : Nic}
    (takesKey : nic.TakesKey)
    {conf : EthConf}
    (symmetricKey : conf.rssKey = Port.rssSymmetricKey)
    (withPorts : Bool) :
    nic.rxQueue conf flow.reversed withPorts =
      nic.rxQueue conf flow withPorts := by
  have loaded : nic.hashKey conf = Port.rssSymmetricKey := by
    rw [takesKey conf (by rw [symmetricKey]; rfl), symmetricKey]
  simp only [Nic.rxQueue, loaded, rssHash_reversed_eq]

end Directions

/--
A flow and its replies have the same hash under the symmetric key, with or
without ports.  A port that was configured hashes with this key, and a driver
that takes it steers both to the same receive queue.
-/
theorem flow_and_replies_hash_alike
    {kind : AddressKind}
    (flow : Flow kind)
    (withPorts : Bool) :
    flow.reversed.rssHash Port.rssSymmetricKey withPorts =
        flow.rssHash Port.rssSymmetricKey withPorts ∧
      ∀ (port : Port) (devInfo : EthDevInfo) (numCores : UInt16)
        (errno : Int) (dev configured : EthDev),
        port.configure devInfo numCores errno dev = (.ok (), configured) →
        ∃ conf,
          configured.conf = some conf ∧
            conf.rxMqMode = Port.ethMqRxRss ∧
            conf.rssKey = Port.rssSymmetricKey ∧
            ∀ nic : Nic,
              nic.TakesKey →
              nic.rxQueue conf flow.reversed withPorts =
                nic.rxQueue conf flow withPorts := by
  refine ⟨rssHash_reversed_eq flow withPorts, ?_⟩
  intro port devInfo numCores errno dev configured succeeded
  exact ⟨_, Port.configure_conf succeeded, rfl, rfl, fun nic takesKey =>
    rxQueue_reversed_eq flow takesKey rfl withPorts⟩

/-- A device with two queues in each direction, before its first configuration. -/
def twoQueues : EthDev where
  maxRxQueues :=
    2
  maxTxQueues :=
    2
  supports _ :=
    true
  promiscuousCapable :=
    true
  conf :=
    none
  nbRxQueues :=
    0
  nbTxQueues :=
    0
  rxQueues :=
    []
  txQueues :=
    []
  promiscuous :=
    false

/-- A NIC that hashes with the configured key and has two queues. -/
def plainNic : Nic where
  hashKey conf :=
    conf.rssKey
  reta :=
    [0, 1]

/-- From 10.0.0.2:1024 to 10.0.0.3:80. -/
def webFlow : Flow .ipv4 where
  src :=
    ⟨[10, 0, 0, 2], rfl⟩
  dst :=
    ⟨[10, 0, 0, 3], rfl⟩
  sport :=
    1024
  dport :=
    80

/-- A configured port with two queues, and a flow over it. -/
theorem flow_and_replies_hash_alike_two_queues :
    let devInfo : EthDevInfo := ⟨Port.defaultRssHf, 0⟩
    ∃ conf,
      ((Port.mk 0).configure devInfo 2 0 twoQueues).2.conf = some conf ∧
        conf.rxMqMode = Port.ethMqRxRss ∧
        conf.rssKey = Port.rssSymmetricKey ∧
        plainNic.rxQueue conf webFlow.reversed true =
          plainNic.rxQueue conf webFlow true := by
  intro devInfo
  obtain ⟨_, steered⟩ := flow_and_replies_hash_alike webFlow true
  obtain ⟨conf, sameConf, mode, key, sameQueue⟩ :=
    steered ⟨0⟩ devInfo 2 0 twoQueues _ rfl
  exact ⟨conf, sameConf, mode, key, sameQueue plainNic fun _ _ => rfl⟩

end VDataplane.FlowHash
