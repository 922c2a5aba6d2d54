import VDataplane.LookupOwnership
import VDataplane.Packetiser

namespace VDataplane.Startup

open LookupOwnership

/-!
# How the engine and the packetiser find each other

The engine's `main` creates the mempool, a memzone and the two rings of the
packetiser's channel, and then waits for a message.  The packetiser's `main`
looks the rings and the mempool up and sends that message.  Any number of
packetiser processes may be started, at any time.

A step is one call of the library, or the destructor of one handle, so the
calls of all processes may come in any order.  What a process's environment
decides (whether a call succeeds, at which address an object is created, when
the process is interrupted or killed) belongs to the step.
-/

/-- The objects through which the two programs meet. -/
inductive Role where
  | mempool
  | e2c
  | c2e
  deriving Repr, DecidableEq

/-- A handle on one of these objects. -/
inductive Part where
  | mempool (mempool : Mempool)
  | e2c (ring : Ring)
  | c2e (ring : Ring)
  deriving Repr, DecidableEq

namespace Role

def kind : Role → Kind
  | .mempool =>
      .mempool
  | .e2c =>
      .ring
  | .c2e =>
      .ring

/-- The name under which both programs know the object. -/
def name : Role → String
  | .mempool =>
      Packetiser.gMempoolName
  | .e2c =>
      Ring.registeredName .e2c Packetiser.packetiserId
  | .c2e =>
      Ring.registeredName .c2e Packetiser.packetiserId

/-- The handle on the object at an address. -/
def part
    (role : Role)
    (raw : Address) :
    Part :=
  match role with
  | .mempool =>
      .mempool ⟨raw⟩
  | .e2c =>
      .e2c ⟨Packetiser.packetiserId, .e2c, raw⟩
  | .c2e =>
      .c2e ⟨Packetiser.packetiserId, .c2e, raw⟩

end Role

namespace Part

def role : Part → Role
  | .mempool _ =>
      .mempool
  | .e2c _ =>
      .e2c
  | .c2e _ =>
      .c2e

def handle : Part → Handle
  | .mempool held =>
      .mempool held
  | .e2c held =>
      .ring held
  | .c2e held =>
      .ring held

def raw : Part → Address
  | .mempool held =>
      held.raw
  | .e2c held =>
      held.raw
  | .c2e held =>
      held.raw

/-- The destructor. -/
def drop
    (part : Part)
    (eal : Eal) :
    Eal :=
  part.handle.drop eal

end Part

/-- What a packetiser works with, and the engine on the other side. -/
structure Connection where
  channel : Channel
  mempool : Mempool
  deriving Repr, DecidableEq

/-- The handles, in the order in which a `Packetiser` drops them. -/
def Connection.parts (connection : Connection) : List Part :=
  [.c2e connection.channel.clientToEngine,
    .e2c connection.channel.engineToClient,
    .mempool connection.mempool]

/--
The message "Hello".  Its text is the same for every sender; who sent it, and
what the sender worked with, is kept for the statements below.
-/
structure Hello where
  sender : Nat
  connection : Connection
  deriving Repr, DecidableEq

/-! ## The engine -/

/--
Where the engine's `main` stands, with the values it has obtained.  A process
that has come to its end keeps the handles that it had created.
-/
inductive Primary where
  | begun
  | initialised
  | pooled (mempool : Mempool)
  | equipped (mempool : Mempool)
  | zoned (mempool : Mempool) (memzone : Memzone)
  | halfway (mempool : Mempool) (memzone : Memzone) (engineToClient : Ring)
  | mapped (memzone : Memzone) (connection : Connection)
  | waiting (memzone : Memzone) (connection : Connection)
  | running (memzone : Memzone) (connection : Connection) (hello : Hello)
  | unwinding (created : List Part) (rest : List Handle)
  | ended (created : List Part)
  deriving Repr, DecidableEq

/-- The engine's next call, and what becomes of it. -/
inductive PrimaryCall where
  | ealInit (succeeds : Bool)
  | createMempool
      (allocation : Except Int (Dpdk.PoolMemory Mempool.numMbufs.toNat))
  | preparePorts (succeed : Bool)
  | reserveMemzone (allocation : Dpdk.Allocation)
  | createE2c (allocation : Dpdk.Allocation)
  | createC2e (allocation : Dpdk.Allocation)
  | bind (succeeds : Bool)
  | receiveFails
  | panics
  | interrupted
  | dropNext
  | killed

namespace Primary

/-- The handles that the engine has created, the newest first. -/
def created : Primary → List Part
  | .begun =>
      []
  | .initialised =>
      []
  | .pooled mempool =>
      [.mempool mempool]
  | .equipped mempool =>
      [.mempool mempool]
  | .zoned mempool _ =>
      [.mempool mempool]
  | .halfway mempool _ engineToClient =>
      [.e2c engineToClient, .mempool mempool]
  | .mapped _ connection =>
      connection.parts
  | .waiting _ connection =>
      connection.parts
  | .running _ connection _ =>
      connection.parts
  | .unwinding created _ =>
      created
  | .ended created =>
      created

/-- What the engine has still to create. -/
def pending : Primary → List Role
  | .begun =>
      [.mempool, .e2c, .c2e]
  | .initialised =>
      [.mempool, .e2c, .c2e]
  | .pooled _ =>
      [.e2c, .c2e]
  | .equipped _ =>
      [.e2c, .c2e]
  | .zoned _ _ =>
      [.e2c, .c2e]
  | .halfway _ _ _ =>
      [.c2e]
  | _ =>
      []

/-- What the engine's main loop will work with, once all of it is created. -/
def connection? : Primary → Option Connection
  | .mapped _ connection =>
      some connection
  | .waiting _ connection =>
      some connection
  | .running _ connection _ =>
      some connection
  | _ =>
      none

/-- The message on which the engine has entered its main loop. -/
def hello? : Primary → Option Hello
  | .running _ _ hello =>
      some hello
  | _ =>
      none

/-- The engine is on its way out, or gone. -/
def Over : Primary → Prop
  | .unwinding _ _ =>
      True
  | .ended _ =>
      True
  | _ =>
      False

/-- What the locals of `main` own when a call panics, in the order in which unwinding drops it. -/
def locals : Primary → List Handle
  | .zoned _ memzone =>
      [.memzone memzone]
  | .halfway _ memzone engineToClient =>
      -- The `?` in `Channel::new` drops the first ring.
      [.ring engineToClient, .memzone memzone]
  | .mapped memzone connection =>
      [.ring connection.channel.clientToEngine,
        .ring connection.channel.engineToClient, .memzone memzone]
  | .waiting memzone connection =>
      [.ring connection.channel.clientToEngine,
        .ring connection.channel.engineToClient, .memzone memzone]
  | .running memzone _ _ =>
      -- The ring map is in a static by now, as the mempool always was.
      [.memzone memzone]
  | .unwinding _ rest =>
      rest
  | _ =>
      []

/-- A call panics. -/
def panic (primary : Primary) : Primary :=
  .unwinding primary.created primary.locals

/-- Make the next call.  A call that is not the next one changes nothing. -/
def call
    (eal : Eal) :
    Primary → PrimaryCall → Primary × Eal
  | .begun, .ealInit succeeds =>
      (if succeeds then .initialised else panic .begun, eal)
  | .initialised, .createMempool allocation =>
      match Mempool.new Packetiser.gMempoolName allocation eal with
      | (.ok mempool, created) =>
          (.pooled mempool, created)
      | (.error _, failed) =>
          (panic .initialised, failed)
  | .pooled mempool, .preparePorts succeed =>
      (if succeed then .equipped mempool else panic (.pooled mempool), eal)
  | .equipped mempool, .reserveMemzone allocation =>
      match Memzone.new "TEST_MEMZONE" allocation eal with
      | (.ok memzone, reserved) =>
          (.zoned mempool memzone, reserved)
      | (.error _, failed) =>
          (panic (.equipped mempool), failed)
  | .zoned mempool memzone, .createE2c allocation =>
      match Ring.new Packetiser.packetiserId .e2c allocation eal with
      | (.ok engineToClient, created) =>
          (.halfway mempool memzone engineToClient, created)
      | (.error _, failed) =>
          (panic (.zoned mempool memzone), failed)
  | .halfway mempool memzone engineToClient, .createC2e allocation =>
      match Ring.new Packetiser.packetiserId .c2e allocation eal with
      | (.ok clientToEngine, created) =>
          (.mapped memzone ⟨⟨clientToEngine, engineToClient⟩, mempool⟩,
            created)
      | (.error _, failed) =>
          (panic (.halfway mempool memzone engineToClient), failed)
  | .mapped memzone connection, .bind succeeds =>
      (if succeeds then .waiting memzone connection
        else panic (.mapped memzone connection), eal)
  | .waiting memzone connection, .receiveFails =>
      (panic (.waiting memzone connection), eal)
  | .running memzone connection hello, .panics =>
      (panic (.running memzone connection hello), eal)
  | .running memzone connection hello, .interrupted =>
      -- `_pkt_stop_and_close_ports` calls `exit`, so `main` drops nothing.
      (.ended (Primary.running memzone connection hello).created, eal)
  | .unwinding created [], .dropNext =>
      (.ended created, eal)
  | .unwinding created (handle :: rest), .dropNext =>
      (.unwinding created rest, handle.drop eal)
  | primary, .killed =>
      (.ended primary.created, eal)
  | primary, _ =>
      (primary, eal)

end Primary

/-! ## The packetisers -/

/-- Where the `main` of one packetiser stands, with the handles it has obtained. -/
inductive Process where
  | absent
  | initialised
  | foundE2c (engineToClient : Ring)
  | foundChannel (channel : Channel)
  | created (connection : Connection)
  | running (connection : Connection)
  | unwinding (rest : List Part)
  | ended
  deriving Repr, DecidableEq

/-- A packetiser's next call, and what becomes of it. -/
inductive PacketiserCall where
  | ealInit (succeeds : Bool)
  | lookupE2c
  | lookupC2e
  | lookupMempool
  | connectFails
  | leavesLoop
  | dropNext
  | killed
  deriving Repr, DecidableEq

namespace Process

/-- The handles that the process has to drop before it ends, the first one first. -/
def found : Process → List Part
  | .absent =>
      []
  | .initialised =>
      []
  | .foundE2c engineToClient =>
      [.e2c engineToClient]
  | .foundChannel channel =>
      [.c2e channel.clientToEngine, .e2c channel.engineToClient]
  | .created connection =>
      connection.parts
  | .running connection =>
      connection.parts
  | .unwinding rest =>
      rest
  | .ended =>
      []

/-- What the process works with, once all of it is found. -/
def connection? : Process → Option Connection
  | .created connection =>
      some connection
  | .running connection =>
      some connection
  | _ =>
      none

/-- What the process has still to find, unless it is on its way out. -/
def needs? : Process → Option (List Role)
  | .absent =>
      some [.e2c, .c2e, .mempool]
  | .initialised =>
      some [.e2c, .c2e, .mempool]
  | .foundE2c _ =>
      some [.c2e, .mempool]
  | .foundChannel _ =>
      some [.mempool]
  | .created _ =>
      some []
  | .running _ =>
      some []
  | .unwinding _ =>
      none
  | .ended =>
      none

/-- A call panics, or `main` returns: destructors free everything that was found. -/
def leave (process : Process) : Process :=
  .unwinding process.found

/-- Make the next call.  A call that is not the next one changes nothing. -/
def call
    (eal : Eal) :
    Process → PacketiserCall → Process × Eal
  | .absent, .ealInit succeeds =>
      (if succeeds then .initialised else leave .absent, eal)
  | .initialised, .lookupE2c =>
      match Ring.lookup .e2c Packetiser.packetiserId eal with
      | .ok engineToClient =>
          (.foundE2c engineToClient, eal)
      | .error _ =>
          (leave .initialised, eal)
  | .foundE2c engineToClient, .lookupC2e =>
      match Ring.lookup .c2e Packetiser.packetiserId eal with
      | .ok clientToEngine =>
          (.foundChannel ⟨clientToEngine, engineToClient⟩, eal)
      | .error _ =>
          (leave (.foundE2c engineToClient), eal)
  | .foundChannel channel, .lookupMempool =>
      match Mempool.lookup Packetiser.gMempoolName eal with
      | .ok mempool =>
          (.created ⟨channel, mempool⟩, eal)
      | .error _ =>
          (leave (.foundChannel channel), eal)
  | .created connection, .connectFails =>
      (leave (.created connection), eal)
  | .running connection, .leavesLoop =>
      (leave (.running connection), eal)
  | .unwinding [], .dropNext =>
      (.ended, eal)
  | .unwinding (part :: rest), .dropNext =>
      (.unwinding rest, part.drop eal)
  | _, .killed =>
      (.ended, eal)
  | process, _ =>
      (process, eal)

end Process

/-! ## The system -/

/-- The engine, the packetisers by process number, and the messages under way. -/
structure State where
  eal : Eal
  primary : Primary
  packetisers : Nat → Process
  hellos : List Hello

/-- What happens next. -/
inductive Action where
  | primary (call : PrimaryCall)
  | packetiser (pid : Nat) (call : PacketiserCall)
  | sayHello (pid : Nat)
  | receive (hello : Hello)
  | helloLost (hello : Hello)
  /-- What the main loops do to rings and mempools. -/
  | traffic
      (rings : Address → RteRing)
      (pools : Address → List RteMbuf)

/-- No process has been started. -/
def start (eal : Eal) : State where
  eal :=
    eal
  primary :=
    .begun
  packetisers _ :=
    .absent
  hellos :=
    []

/-- Execute one action. -/
def step (state : State) : Action → State
  | .primary call =>
      let (primary, eal) := state.primary.call state.eal call
      { state with
        eal := eal
        primary := primary }
  | .packetiser pid call =>
      let (process, eal) := (state.packetisers pid).call state.eal call
      { state with
        eal := eal
        packetisers := Function.update state.packetisers pid process }
  | .sayHello pid =>
      match state.packetisers pid with
      | .created connection =>
          { state with
            packetisers :=
              Function.update state.packetisers pid (.running connection)
            hellos := state.hellos ++ [⟨pid, connection⟩] }
      | _ =>
          state
  | .receive hello =>
      if hello ∈ state.hellos then
        match state.primary with
        | .waiting memzone connection =>
            { state with
              primary := .running memzone connection hello
              hellos := state.hellos.erase hello }
        | _ =>
            state
      else
        state
  | .helloLost hello =>
      { state with hellos := state.hellos.erase hello }
  | .traffic rings pools =>
      { state with
        eal :=
          { state.eal with
            rings := rings
            pools := pools } }

/-! ## Whole functions

Without another program in between, the calls of a process are those of the
functions that its `main` calls.
-/

/-- Make several calls of the engine in a row. -/
def Primary.callAll
    (calls : List PrimaryCall)
    (eal : Eal)
    (primary : Primary) :
    Primary × Eal :=
  calls.foldl (fun current call => current.1.call current.2 call)
    (primary, eal)

/-- Make several calls of a packetiser in a row. -/
def Process.callAll
    (calls : List PacketiserCall)
    (eal : Eal)
    (process : Process) :
    Process × Eal :=
  calls.foldl (fun current call => current.1.call current.2 call)
    (process, eal)

section WholeFunctions

variable
  {eal after : Eal}
  {e2c c2e : Dpdk.Allocation}
  {map : RingClientMap}

/-- `add_client` succeeds: the engine goes on with the new channel. -/
theorem callAll_of_addClient
    (added :
      RingClientMap.new.addClient Packetiser.packetiserId e2c c2e eal =
        (.ok (), map, after))
    (mempool : Mempool)
    (memzone : Memzone) :
    ∃ channel,
      map = ⟨RingClientMap.new.ringmap.insert Packetiser.packetiserId channel⟩ ∧
        Primary.callAll [.createE2c e2c, .createC2e c2e] eal
            (.zoned mempool memzone) =
          (.mapped memzone ⟨channel, mempool⟩, after) := by
  simp only [RingClientMap.addClient, Channel.new] at added
  cases first : Ring.new Packetiser.packetiserId .e2c e2c eal with
  | mk firstResult created =>
      cases firstResult with
      | error _ =>
          simp [first] at added
      | ok engineToClient =>
          cases second :
              Ring.new Packetiser.packetiserId .c2e c2e created with
          | mk secondResult both =>
              cases secondResult with
              | error _ =>
                  simp [first, second] at added
              | ok clientToEngine =>
                  simp only [first, second, RingClientMap.new,
                    PartialMap.empty, Prod.mk.injEq, true_and] at added
                  obtain ⟨rfl, rfl⟩ := added
                  refine ⟨⟨clientToEngine, engineToClient⟩, rfl, ?_⟩
                  simp only [Primary.callAll, List.foldl, Primary.call,
                    first, second]

/-- `add_client` fails: the engine unwinds, and drops a first ring that it had created. -/
theorem callAll_of_addClient_fails
    {error : RingClientMapError}
    (failed :
      RingClientMap.new.addClient Packetiser.packetiserId e2c c2e eal =
        (.error error, map, after))
    (mempool : Mempool)
    (memzone : Memzone) :
    ∃ created rest between,
      Primary.callAll [.createE2c e2c, .createC2e c2e] eal
          (.zoned mempool memzone) =
        (.unwinding created (rest ++ [.memzone memzone]), between) ∧
        dropAll rest between = after := by
  simp only [RingClientMap.addClient, Channel.new] at failed
  cases first : Ring.new Packetiser.packetiserId .e2c e2c eal with
  | mk firstResult created =>
      cases firstResult with
      | error _ =>
          simp only [first, Prod.mk.injEq] at failed
          obtain ⟨_, _, rfl⟩ := failed
          refine ⟨[.mempool mempool], [], created, ?_, rfl⟩
          simp only [Primary.callAll, List.foldl, Primary.call, first]
          rfl
      | ok engineToClient =>
          cases second :
              Ring.new Packetiser.packetiserId .c2e c2e created with
          | mk secondResult both =>
              cases secondResult with
              | error _ =>
                  simp only [first, second, Prod.mk.injEq] at failed
                  obtain ⟨_, _, rfl⟩ := failed
                  refine ⟨[.e2c engineToClient, .mempool mempool],
                    [.ring engineToClient], both, ?_, rfl⟩
                  simp only [Primary.callAll, List.foldl, Primary.call,
                    first, second]
                  rfl
              | ok clientToEngine =>
                  simp [first, second, RingClientMap.new,
                    PartialMap.empty] at failed

/-- `Packetiser::new` succeeds: the packetiser goes on with what it found. -/
theorem callAll_of_packetiserNew
    {cap : Nat}
    {packetiser : Packetiser}
    (started : Packetiser.new cap eal = (.ok packetiser, after)) :
    Process.callAll [.lookupE2c, .lookupC2e, .lookupMempool] eal
        .initialised =
      (.created ⟨packetiser.channel, packetiser.mempool⟩, after) := by
  cases first : Ring.lookup .e2c Packetiser.packetiserId eal with
  | error _ =>
      simp [Packetiser.new, Channel.lookup, first] at started
  | ok engineToClient =>
      cases second : Ring.lookup .c2e Packetiser.packetiserId eal with
      | error _ =>
          simp [Packetiser.new, Channel.lookup, first, second] at started
      | ok clientToEngine =>
          cases third : Mempool.lookup Packetiser.gMempoolName eal with
          | error _ =>
              simp [Packetiser.new, Channel.lookup, first, second, third]
                at started
          | ok mempool =>
              simp only [Packetiser.new, Channel.lookup, first, second, third,
                Prod.mk.injEq, Except.ok.injEq] at started
              obtain ⟨rfl, rfl⟩ := started
              simp only [Process.callAll, List.foldl, Process.call, first,
                second, third]

/-- `Packetiser::new` fails: the packetiser unwinds and drops what it found. -/
theorem callAll_of_packetiserNew_fails
    {cap : Nat}
    {fault : Fault}
    (failed : Packetiser.new cap eal = (.error fault, after)) :
    ∃ rest,
      Process.callAll [.lookupE2c, .lookupC2e, .lookupMempool] eal
          .initialised =
        (.unwinding rest, eal) ∧
        dropAll (rest.map Part.handle) eal = after := by
  cases first : Ring.lookup .e2c Packetiser.packetiserId eal with
  | error _ =>
      simp only [Packetiser.new, Channel.lookup, first, Prod.mk.injEq]
        at failed
      obtain ⟨_, rfl⟩ := failed
      refine ⟨[], ?_, rfl⟩
      simp only [Process.callAll, List.foldl, Process.call, first]
      rfl
  | ok engineToClient =>
      cases second : Ring.lookup .c2e Packetiser.packetiserId eal with
      | error _ =>
          simp only [Packetiser.new, Channel.lookup, first, second,
            Prod.mk.injEq] at failed
          obtain ⟨_, rfl⟩ := failed
          refine ⟨[.e2c engineToClient], ?_, rfl⟩
          simp only [Process.callAll, List.foldl, Process.call, first, second]
          rfl
      | ok clientToEngine =>
          cases third : Mempool.lookup Packetiser.gMempoolName eal with
          | error _ =>
              simp only [Packetiser.new, Channel.lookup, first, second, third,
                Prod.mk.injEq] at failed
              obtain ⟨_, rfl⟩ := failed
              refine ⟨[.c2e clientToEngine, .e2c engineToClient], ?_, rfl⟩
              simp only [Process.callAll, List.foldl, Process.call, first,
                second, third]
              rfl
          | ok mempool =>
              simp [Packetiser.new, Channel.lookup, first, second, third]
                at failed

end WholeFunctions

/-! ## The registries -/

/-- The object of a role is registered, at an address. -/
def Registered
    (eal : Eal)
    (role : Role)
    (raw : Address) :
    Prop :=
  (registry eal role.kind).Registered role.name raw

/-- Two environments register the same objects. -/
def SameObjects (eal after : Eal) : Prop :=
  ∀ role raw, Registered after role raw ↔ Registered eal role raw

/-- One more object is registered. -/
def Gains
    (role : Role)
    (raw : Address)
    (eal after : Eal) :
    Prop :=
  ∀ other address,
    Registered after other address ↔
      Registered eal other address ∨ other = role ∧ address = raw

theorem SameObjects.refl (eal : Eal) : SameObjects eal eal :=
  fun _ _ => Iff.rfl

@[simp] theorem part_role
    (role : Role)
    (raw : Address) :
    (role.part raw).role = role := by
  cases role <;> rfl

@[simp] theorem part_raw
    (role : Role)
    (raw : Address) :
    (role.part raw).raw = raw := by
  cases role <;> rfl

/-- Dropping a handle unregisters the object at its address. -/
theorem registered_partDrop_iff
    {part : Part}
    {eal : Eal}
    {role : Role}
    {raw : Address} :
    Registered (part.drop eal) role raw ↔
      Registered eal role raw ∧
        (role.kind, raw) ≠ (part.role.kind, part.raw) := by
  unfold Registered Part.drop
  rw [registered_drop_iff]
  cases part <;>
    simp [Part.handle, Handle.frees, Part.role, Part.raw, Role.kind]

/-- Dropping a handle registers nothing. -/
theorem registered_of_handleDrop
    {handle : Handle}
    {eal : Eal}
    {role : Role}
    {raw : Address}
    (registered : Registered (handle.drop eal) role raw) :
    Registered eal role raw :=
  (registered_drop_iff.mp registered).1

/-- No two objects of one kind have one name. -/
theorem role_ext
    {first second : Role}
    (sameKind : first.kind = second.kind)
    (sameName : first.name = second.name) :
    first = second := by
  cases first <;> cases second <;>
    simp_all [Role.kind, Role.name, Ring.registeredName_inj]

/-- Registering an object under its name gains it. -/
theorem gains_of_register?
    {role : Role}
    {raw : Address}
    {eal after : Eal}
    {grown : NamedRegistry String Address}
    (registration :
      (registry eal role.kind).register? role.name raw = some grown)
    (grows : registry after role.kind = grown)
    (rest :
      ∀ kind, kind ≠ role.kind → registry after kind = registry eal kind) :
    Gains role raw eal after := by
  intro other address
  by_cases sameKind : other.kind = role.kind
  · have named : other.name = role.name ↔ other = role :=
      ⟨role_ext sameKind, congrArg Role.name⟩
    rw [Registered, Registered, sameKind, grows,
      NamedRegistry.registered_of_register? registration, named]
  · have different : other ≠ role := fun same => sameKind (same ▸ rfl)
    simp [Registered, rest other.kind sameKind, different]

/-- Creating a ring gains it. -/
theorem gains_of_ringNew
    (role : Role)
    {rtype : RingType}
    (isRing : role.kind = .ring)
    (isNamed :
      role.name = Ring.registeredName rtype Packetiser.packetiserId)
    {allocation : Dpdk.Allocation}
    {eal after : Eal}
    {ring : Ring}
    (created :
      Ring.new Packetiser.packetiserId rtype allocation eal =
        (.ok ring, after)) :
    ring = ⟨Packetiser.packetiserId, rtype, ring.raw⟩ ∧
      Gains role ring.raw eal after := by
  rcases Ring.new_cases Packetiser.packetiserId rtype allocation eal with
    ⟨errno, failed⟩ | ⟨raw, ringTailq, _, registration, succeeded⟩
  · simp [failed] at created
  · rw [succeeded] at created
    obtain ⟨rfl, rfl⟩ := by
      simpa only [Prod.mk.injEq, Except.ok.injEq] using created
    have registers :
        (registry eal role.kind).register? role.name raw =
          some ringTailq := by
      rw [isRing, isNamed]
      exact registration
    refine ⟨rfl, gains_of_register? registers ?_ ?_⟩
    · rw [isRing]
      rfl
    · intro kind notRing
      rw [isRing] at notRing
      cases kind with
      | ring =>
          exact (notRing rfl).elim
      | mempool =>
          rfl
      | memzone =>
          rfl

/-- A failed creation of a ring changes no registry. -/
theorem sameObjects_of_ringNew
    {rtype : RingType}
    {allocation : Dpdk.Allocation}
    {eal after : Eal}
    {error : MemoryError}
    (failed :
      Ring.new Packetiser.packetiserId rtype allocation eal =
        (.error error, after)) :
    SameObjects eal after := by
  rcases Ring.new_cases Packetiser.packetiserId rtype allocation eal with
    ⟨errno, alsoFailed⟩ | ⟨_, _, _, _, succeeded⟩
  · rw [alsoFailed] at failed
    obtain ⟨_, rfl⟩ := Prod.mk.inj failed
    exact SameObjects.refl eal
  · simp [succeeded] at failed

theorem toCstring_gMempoolName :
    toCstring Packetiser.gMempoolName = .ok Packetiser.gMempoolName := by
  decide

/-- The mempool is found exactly where it is registered. -/
theorem mempoolLookup_eq_ok_iff
    {eal : Eal}
    {mempool : Mempool} :
    Mempool.lookup Packetiser.gMempoolName eal = .ok mempool ↔
      Registered eal .mempool mempool.raw := by
  have isFound :
      Registered eal .mempool mempool.raw ↔
        eal.mempoolTailq.find? Packetiser.gMempoolName =
          some mempool.raw :=
    NamedRegistry.find?_eq_some_iff.symm
  rw [isFound]
  simp only [Mempool.lookup, lookupNamed, toCstring_gMempoolName,
    Dpdk.rteMempoolLookup]
  cases search : eal.mempoolTailq.find? Packetiser.gMempoolName with
  | none =>
      simp
  | some raw =>
      obtain ⟨address⟩ := mempool
      simp

/-- Creating the mempool gains it. -/
theorem gains_of_mempoolNew
    {allocation : Except Int (Dpdk.PoolMemory Mempool.numMbufs.toNat)}
    {eal after : Eal}
    {mempool : Mempool}
    (created :
      Mempool.new Packetiser.gMempoolName allocation eal =
        (.ok mempool, after)) :
    Gains .mempool mempool.raw eal after := by
  rcases Mempool.new_cases toCstring_gMempoolName allocation eal with
    ⟨errno, failed⟩ | ⟨memory, mempoolTailq, _, registration, succeeded⟩
  · simp [failed] at created
  · rw [succeeded] at created
    obtain ⟨rfl, rfl⟩ := by
      simpa only [Prod.mk.injEq, Except.ok.injEq] using created
    refine gains_of_register? registration rfl ?_
    intro kind notMempool
    cases kind with
    | mempool =>
        exact (notMempool rfl).elim
    | ring =>
        rfl
    | memzone =>
        rfl

/-- A failed creation of the mempool changes no registry. -/
theorem sameObjects_of_mempoolNew
    {allocation : Except Int (Dpdk.PoolMemory Mempool.numMbufs.toNat)}
    {eal after : Eal}
    {error : MemoryError}
    (failed :
      Mempool.new Packetiser.gMempoolName allocation eal =
        (.error error, after)) :
    SameObjects eal after := by
  rcases Mempool.new_cases toCstring_gMempoolName allocation eal with
    ⟨errno, alsoFailed⟩ | ⟨_, _, _, _, succeeded⟩
  · rw [alsoFailed] at failed
    obtain ⟨_, rfl⟩ := Prod.mk.inj failed
    exact SameObjects.refl eal
  · simp [succeeded] at failed

/-- A memzone is none of the objects through which the programs meet. -/
theorem sameObjects_memzoneNew
    {name : String}
    {allocation : Dpdk.Allocation}
    {eal after : Eal}
    {result : Except MemoryError Memzone}
    (called : Memzone.new name allocation eal = (result, after)) :
    SameObjects eal after := by
  intro role raw
  rcases Memzone.new_cases name allocation eal with
    ⟨_, _, outcome⟩ | ⟨_, _, outcome⟩
  all_goals
    rw [outcome] at called
    obtain ⟨_, rfl⟩ := Prod.mk.inj called
    cases role <;> rfl

end VDataplane.Startup
