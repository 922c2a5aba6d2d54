import VDataplane.PortConfigure

namespace VDataplane.QueuePairing

open Port

/-!
# Pairs of queues

The transmit path sends the packets of queue `q` over queue `q ^ 1`, for which a
port is to have an even number of queues.  `configure` rounds the number up for
the set-up of the queues, but configures the device with the number as it is.
-/

/-- The number of cores, rounded up to an even number. -/
def roundedUp (numCores : UInt16) : Nat :=
  numCores.toNat + numCores.toNat % 2

/-- The device can provide the queues and everything else that the configuration asks for. -/
structure Provides
    (dev : EthDev)
    (devInfo : EthDevInfo)
    (queues : Nat) :
    Prop where
  rxQueues :
    queues ≤ dev.maxRxQueues
  txQueues :
    queues ≤ dev.maxTxQueues
  modes :
    dev.supports (ethConf devInfo)
  promiscuous :
    dev.promiscuousCapable

/--
A configuration succeeded, has set up exactly the queues `0..queues` within
those that the device was configured with, and every one of them has its partner.
-/
structure Paired
    (queues : Nat)
    (outcome : Except PortError Unit × EthDev) :
    Prop where
  succeeds :
    outcome.1 = .ok ()
  rxQueues :
    outcome.2.rxQueues = queueIds queues
  txQueues :
    outcome.2.txQueues = queueIds queues
  rxWithin :
    ∀ queueId ∈ outcome.2.rxQueues, queueId.toNat < outcome.2.nbRxQueues
  txWithin :
    ∀ queueId ∈ outcome.2.txQueues, queueId.toNat < outcome.2.nbTxQueues
  partner :
    ∀ queueId ∈ outcome.2.rxQueues, queueId ^^^ 1 ∈ outcome.2.txQueues

/-! ## Setting up queues -/

section SetUp

variable
  {errno : Int}
  {dev : EthDev}

/-- A queue below the configured counts is set up before the others. -/
theorem setUpQueues_cons
    {first : UInt16}
    (rest : List UInt16)
    (rxWithin : first.toNat < dev.nbRxQueues)
    (txWithin : first.toNat < dev.nbTxQueues) :
    setUpQueues errno (first :: rest) dev =
      setUpQueues errno rest {
        dev with
        rxQueues := dev.rxQueues ++ [first]
        txQueues := dev.txQueues ++ [first]
      } := by
  simp only [setUpQueues, Dpdk.rteEthRxQueueSetup, Dpdk.rteEthTxQueueSetup,
    rxWithin, txWithin, ↓reduceIte]

/-- Queues below the configured counts are set up one after the other. -/
theorem setUpQueues_of_within
    {ids : List UInt16}
    (rxWithin : ∀ queueId ∈ ids, queueId.toNat < dev.nbRxQueues)
    (txWithin : ∀ queueId ∈ ids, queueId.toNat < dev.nbTxQueues) :
    setUpQueues errno ids dev =
      (.ok (), {
        dev with
        rxQueues := dev.rxQueues ++ ids
        txQueues := dev.txQueues ++ ids
      }) := by
  induction ids generalizing dev with
  | nil =>
      simp [setUpQueues]
  | cons first rest inductionHypothesis =>
      obtain ⟨firstRx, restRx⟩ := List.forall_mem_cons.mp rxWithin
      obtain ⟨firstTx, restTx⟩ := List.forall_mem_cons.mp txWithin
      have later :=
        @inductionHypothesis {
          dev with
          rxQueues := dev.rxQueues ++ [first]
          txQueues := dev.txQueues ++ [first]
        } restRx restTx
      rw [setUpQueues_cons rest firstRx firstTx, later]
      simp

/-- A queue that is not below the configured count cannot be set up. -/
theorem setUpQueues_of_beyond
    {ids : List UInt16}
    {queueId : UInt16}
    (member : queueId ∈ ids)
    (beyond : dev.nbRxQueues ≤ queueId.toNat) :
    (setUpQueues errno ids dev).1 = .error (.new errno) := by
  induction ids generalizing dev with
  | nil =>
      cases member
  | cons first rest inductionHypothesis =>
      by_cases firstRx : first.toNat < dev.nbRxQueues
      · have inRest : queueId ∈ rest := by
          rcases List.mem_cons.mp member with rfl | inRest
          · exact absurd firstRx (Nat.not_lt.mpr beyond)
          · exact inRest
        by_cases firstTx : first.toNat < dev.nbTxQueues
        · rw [setUpQueues_cons rest firstRx firstTx]
          exact inductionHypothesis inRest beyond
        · simp [setUpQueues, Dpdk.rteEthRxQueueSetup,
            Dpdk.rteEthTxQueueSetup, firstRx, firstTx, Errno.einval]
      · simp [setUpQueues, Dpdk.rteEthRxQueueSetup, firstRx, Errno.einval]

end SetUp

/-! ## Ids -/

/-- The ids of queues are the numbers below their count. -/
theorem mem_queueIds_iff
    {count : Nat}
    (countLe : count ≤ 2 ^ 16)
    {queueId : UInt16} :
    queueId ∈ queueIds count ↔ queueId.toNat < count := by
  rw [queueIds, List.mem_map]
  constructor
  · rintro ⟨index, member, rfl⟩
    rw [List.mem_range] at member
    rwa [UInt16.toNat_ofNat_of_lt' (member.trans_le countLe)]
  · intro below
    exact ⟨queueId.toNat, List.mem_range.mpr below, UInt16.ofNat_toNat⟩

@[simp] theorem length_queueIds (count : Nat) :
    (queueIds count).length = count := by
  simp [queueIds]

/-- The partner of a number below an even number is below it, too. -/
theorem partner_lt
    {queueId : UInt16}
    {count : Nat}
    (isEven : count % 2 = 0)
    (below : queueId.toNat < count) :
    (queueId ^^^ 1).toNat < count := by
  rw [UInt16.toNat_xor, UInt16.toNat_one]
  rcases Nat.even_or_odd queueId.toNat with even | odd
  · rw [Nat.xor_one_of_even even]
    rw [Nat.even_iff] at even
    omega
  · rw [Nat.xor_one_of_odd odd]
    omega

/-! ## The configuration -/

section Configuration

variable
  {port : Port}
  {devInfo : EthDevInfo}
  {numCores : UInt16}
  {errno : Int}
  {dev : EthDev}

/-- The device after it was configured, before any queue was set up. -/
def configured
    (devInfo : EthDevInfo)
    (numCores : UInt16)
    (dev : EthDev) :
    EthDev := {
  dev with
  conf := some (ethConf devInfo)
  nbRxQueues := numCores.toNat
  nbTxQueues := numCores.toNat
  rxQueues := []
  txQueues := []
}

/-- A device that provides the queues is configured. -/
theorem rteEthDevConfigure_of_provides
    (provides : Provides dev devInfo (roundedUp numCores)) :
    Dpdk.rteEthDevConfigure numCores numCores (ethConf devInfo) dev =
      (0, configured devInfo numCores dev) := by
  have rxEnough := provides.rxQueues
  have txEnough := provides.txQueues
  rw [roundedUp] at rxEnough txEnough
  rw [Dpdk.rteEthDevConfigure, if_pos ⟨by omega, by omega, provides.modes⟩]
  rfl

/-- The ids of the configured queues are below their number. -/
theorem queueIds_within (numCores : UInt16) :
    ∀ queueId ∈ queueIds numCores.toNat,
      queueId.toNat < numCores.toNat :=
  fun _ member => (mem_queueIds_iff numCores.toNat_lt.le).mp member

/-- As many queues are set up as the device was configured with. -/
theorem configure_of_even
    (provides : Provides dev devInfo (roundedUp numCores))
    (isEven : numCores % 2 = 0) :
    port.configure devInfo numCores errno dev =
      (.ok (), {
        configured devInfo numCores dev with
        rxQueues := queueIds numCores.toNat
        txQueues := queueIds numCores.toNat
        promiscuous := true
      }) := by
  have notOdd : ¬ numCores % 2 = 1 := by
    rw [isEven]
    decide
  have setUp :
      setUpQueues errno (queueIds numCores.toNat)
          (configured devInfo numCores dev) =
        (.ok (), {
          configured devInfo numCores dev with
          rxQueues := [] ++ queueIds numCores.toNat
          txQueues := [] ++ queueIds numCores.toNat
        }) :=
    setUpQueues_of_within (queueIds_within numCores)
      (queueIds_within numCores)
  simp only [configure, rteEthDevConfigure_of_provides provides, notOdd,
    ↓reduceIte, setUp, List.nil_append, Dpdk.rteEthPromiscuousEnable]
  rw [if_pos]
  · rfl
  · exact provides.promiscuous

/-- An even number of queues is set up in pairs. -/
theorem paired_of_even
    (provides : Provides dev devInfo (roundedUp numCores))
    (isEven : numCores % 2 = 0) :
    Paired (roundedUp numCores)
      (port.configure devInfo numCores errno dev) := by
  have evenNat : numCores.toNat % 2 = 0 := by
    simpa using congrArg UInt16.toNat isEven
  have sameCount : roundedUp numCores = numCores.toNat := by
    rw [roundedUp, evenNat, Nat.add_zero]
  rw [configure_of_even provides isEven, sameCount]
  exact {
    succeeds := rfl
    rxQueues := rfl
    txQueues := rfl
    rxWithin := queueIds_within numCores
    txWithin := queueIds_within numCores
    partner := fun _ member =>
      (mem_queueIds_iff numCores.toNat_lt.le).mpr
        (partner_lt evenNat (queueIds_within numCores _ member))
  }

/-- The set-up of one queue more than the device was configured with fails. -/
theorem configure_of_odd
    (provides : Provides dev devInfo (roundedUp numCores))
    (isOdd : numCores % 2 = 1)
    (noWrap : numCores.toNat + 1 < 2 ^ 16) :
    (port.configure devInfo numCores errno dev).1 =
      .error (.new errno) := by
  have oneMore : (numCores + 1).toNat = numCores.toNat + 1 := by
    rw [UInt16.toNat_add, UInt16.toNat_one]
    omega
  have member : numCores ∈ queueIds (numCores + 1).toNat := by
    rw [oneMore]
    exact (mem_queueIds_iff noWrap.le).mpr (Nat.lt_succ_self _)
  have failed :
      (setUpQueues errno (queueIds (numCores + 1).toNat)
        (configured devInfo numCores dev)).1 = .error (.new errno) :=
    setUpQueues_of_beyond member (Nat.le_refl _)
  rcases setUp :
      setUpQueues errno (queueIds (numCores + 1).toNat)
        (configured devInfo numCores dev) with
    ⟨result, after⟩
  rw [setUp] at failed
  have isError : result = .error (.new errno) :=
    failed
  simp only [configure, rteEthDevConfigure_of_provides provides, isOdd,
    ↓reduceIte, setUp, isError]

/-- The number of queues of the largest number of cores wraps to 0. -/
theorem configure_of_wraps
    (provides : Provides dev devInfo (roundedUp numCores))
    (isOdd : numCores % 2 = 1)
    (wraps : numCores + 1 = 0) :
    (port.configure devInfo numCores errno dev).2.rxQueues = [] := by
  have noIds : queueIds (0 : UInt16).toNat = [] :=
    rfl
  simp only [configure, rteEthDevConfigure_of_provides provides, isOdd,
    ↓reduceIte, wraps, noIds, setUpQueues, Dpdk.rteEthPromiscuousEnable]
  rw [if_pos]
  · rfl
  · exact provides.promiscuous

/-- An odd number of queues is never set up in pairs. -/
theorem not_paired_of_odd
    (provides : Provides dev devInfo (roundedUp numCores))
    (isOdd : numCores % 2 = 1) :
    ¬ Paired (roundedUp numCores)
      (port.configure devInfo numCores errno dev) := by
  intro paired
  by_cases noWrap : numCores.toNat + 1 < 2 ^ 16
  · have succeeds := paired.succeeds
    rw [configure_of_odd provides isOdd noWrap] at succeeds
    cases succeeds
  · have wraps : numCores + 1 = 0 := by
      have numCoresLt := numCores.toNat_lt
      apply UInt16.toNat_inj.mp
      rw [UInt16.toNat_add, UInt16.toNat_one]
      simp only [UInt16.reduceToNat]
      omega
    have rxQueues := paired.rxQueues
    rw [configure_of_wraps provides isOdd wraps] at rxQueues
    have sameLength := congrArg List.length rxQueues
    rw [length_queueIds, roundedUp, List.length_nil] at sameLength
    omega

end Configuration

/--
On a device that can provide the queues, a configuration sets up the queues in
pairs if and only if the number of cores is even.
-/
theorem configure_paired_iff_even
    {numCores : UInt16}
    {dev : EthDev}
    {devInfo : EthDevInfo}
    (provides : Provides dev devInfo (roundedUp numCores))
    (port : Port)
    (errno : Int) :
    Paired (roundedUp numCores)
        (port.configure devInfo numCores errno dev) ↔
      numCores % 2 = 0 := by
  constructor
  · intro paired
    by_contra notEven
    have isOdd : numCores % 2 = 1 := by
      rw [← UInt16.toNat_inj, UInt16.toNat_mod] at notEven ⊢
      simp only [UInt16.reduceToNat] at notEven ⊢
      omega
    exact not_paired_of_odd provides isOdd paired
  · exact paired_of_even provides

/-- What a device without optional offloads says about itself. -/
def plainInfo : EthDevInfo where
  flowTypeRssOffloads :=
    0
  txOffloadCapa :=
    0

/-- A device with four queues of each kind that has not been configured. -/
def fourQueues : EthDev where
  maxRxQueues :=
    4
  maxTxQueues :=
    4
  supports _ :=
    true
  promiscuousCapable :=
    true
  conf :=
    none
  nbRxQueues :=
    0
  nbTxQueues :=
    0
  rxQueues :=
    []
  txQueues :=
    []
  promiscuous :=
    false

/-- The device provides up to four queues. -/
theorem provides_fourQueues
    {queues : Nat}
    (atMost : queues ≤ 4) :
    Provides fourQueues plainInfo queues :=
  ⟨atMost, atMost, rfl, rfl⟩

/-- Two cores get two queues of each kind. -/
theorem configure_paired_two :
    Paired 2 ((⟨0⟩ : Port).configure plainInfo 2 0 fourQueues) := by
  have provides : Provides fourQueues plainInfo (roundedUp 2) :=
    provides_fourQueues (by decide)
  exact (configure_paired_iff_even provides ⟨0⟩ 0).mpr rfl

/-- For three cores the device is configured with three queues, and the fourth is refused. -/
theorem not_configure_paired_three :
    Provides fourQueues plainInfo (roundedUp 3) ∧
      ¬ Paired (roundedUp 3)
        ((⟨0⟩ : Port).configure plainInfo 3 0 fourQueues) := by
  refine ⟨provides_fourQueues (by decide), ?_⟩
  intro paired
  have succeeds := paired.succeeds
  have refused :
      ((⟨0⟩ : Port).configure plainInfo 3 0 fourQueues).1 =
        .error .badVal := by
    decide
  rw [refused] at succeeds
  cases succeeds

end VDataplane.QueuePairing
