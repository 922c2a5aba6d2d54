import VDataplane.DataplaneExhaustion
import VDataplane.Disconnection

namespace VDataplane.Lifetime

open GuardedRun Startup

/-!
# From the start of both programs to the end of the service

However the calls of the engine and of its packetisers interleave while they
start, the main loops begin with all buffers of the mempool free and an empty
ring between them.  From there they come to an end: when as many frames have
arrived as the mempool has buffers, the packetiser leaves its loop, frees what
it found, and none that is started later can take its place.
-/

/-! ## What the programs have when they start to work -/

/-- No buffer of the mempool has been handed out, and no packet sent. -/
structure Fresh (state : Startup.State) : Prop where
  buffers :
    ∀ mempool, .mempool mempool ∈ state.primary.created →
      ∃ memory : Dpdk.PoolMemory Mempool.numMbufs.toNat,
        memory.address = mempool.raw ∧
          state.eal.pools mempool.raw = memory.mbufs Mempool.mbufSize
  noneSent :
    ∀ ring, .e2c ring ∈ state.primary.created →
      (state.eal.rings ring.raw).entries = []
  atHome :
    ∀ pool, ∀ mbuf ∈ state.eal.pools pool, mbuf.pool = pool

/-- The packetiser that works with a connection, as `Packetiser::new` leaves it. -/
def newPacketiser (connection : Connection) : Packetiser where
  channel :=
    connection.channel
  mempool :=
    connection.mempool
  clientmap :=
    .new
  iBufqueue :=
    []
  oBufqueue :=
    []
  cap :=
    Packetiser.burstMax
  allocatedIds :=
    []

theorem eq_newPacketiser
    {eal after : Eal}
    {packetiser : Packetiser}
    (started :
      Packetiser.new Packetiser.burstMax eal = (.ok packetiser, after)) :
    packetiser = newPacketiser ⟨packetiser.channel, packetiser.mempool⟩ := by
  obtain ⟨channel, mempool, rfl⟩ := Packetiser.of_new started
  rfl

/-- Only rings and mempools may differ; what is registered is the same. -/
def OnlyMemory (eal after : Eal) : Prop :=
  ∃ rings pools, after = { eal with rings := rings, pools := pools }

theorem OnlyMemory.refl (eal : Eal) : OnlyMemory eal eal :=
  ⟨eal.rings, eal.pools, rfl⟩

theorem OnlyMemory.trans
    {eal between after : Eal}
    (first : OnlyMemory eal between)
    (second : OnlyMemory between after) :
    OnlyMemory eal after := by
  rcases first with ⟨_, _, rfl⟩
  rcases second with ⟨rings, pools, rfl⟩
  exact ⟨rings, pools, rfl⟩

end VDataplane.Lifetime
