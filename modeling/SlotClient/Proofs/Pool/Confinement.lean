import Mathlib.Data.Set.Basic
import SlotClient.Proofs.Network.History
import SlotClient.Proofs.Pool.Location

/-!
# Where a pool acts

All that a pool does to a network it does at the node that its address means, and on connections of
its own: those that wait in its queue, and those that it opens. So connections that are open already
and are not in the queue of a pool are spared by it, whatever it is asked for and however that ends.
What is spared here is any set of connections, so that the steps of several pools can be put one
after the other.
-/

namespace SlotClient

open Lending (Step Steps)

/-- An event at a node that one of the addresses means, which is on no connection that is spared. -/
structure Event.IsWithin (hosts : List (String × List IpAddress)) (addresses : List String)
    (spared : Set (String × Nat)) (event : Event) : Prop where
  isAt : ∃ address ∈ addresses, ∃ socket,
    SocketAddress.resolve? hosts address = some socket ∧ event.address = socket.text
  spares : ∀ number ∈ event.connection, (event.address, number) ∉ spared

namespace World

/-- All that happens between two worlds happens at nodes that the addresses mean, and on no
connection that is spared. -/
structure StaysWithin (addresses : List String) (spared : Set (String × Nat))
    (world final : World) : Prop where
  hosts_eq : final.hosts = world.hosts
  opened : ∀ node, world.opened node ≤ final.opened node
  events : ∃ events, final.events = world.events ++ events ∧
    ∀ event ∈ events, event.IsWithin world.hosts addresses spared

variable {addresses more : List String} {spared : Set (String × Nat)}
  {world middle final : World}

theorem StaysWithin.refl (addresses : List String) (spared : Set (String × Nat)) (world : World) :
    StaysWithin addresses spared world world :=
  ⟨rfl, fun _ => le_rfl, [], (List.append_nil _).symm, List.forall_mem_nil _⟩

theorem StaysWithin.ofNetwork (same : final.network = world.network) :
    StaysWithin addresses spared world final := by
  have nodes := congrArg World.nodes same
  change final.nodes = world.nodes at nodes
  have opened (node : String) : final.opened node = world.opened node := by
    rw [World.opened, nodes, World.opened]
  exact ⟨hosts_of_network same, fun node => (opened node).ge, [],
    (events_of_network same).trans (List.append_nil _).symm, List.forall_mem_nil _⟩

theorem StaysWithin.logged (within : StaysWithin addresses spared world final)
    (entry : LogEntry) : StaysWithin addresses spared world (final.logged entry) :=
  ⟨within.hosts_eq, within.opened, within.events⟩

theorem StaysWithin.extend (within : StaysWithin addresses spared world middle)
    (hosts : final.hosts = middle.hosts) (opened : ∀ node, middle.opened node ≤ final.opened node)
    {more : List Event} (appended : final.events = middle.events ++ more)
    (each : ∀ event ∈ more, event.IsWithin world.hosts addresses spared) :
    StaysWithin addresses spared world final := by
  rcases within with ⟨known, grows, events, happened, eachBefore⟩
  refine ⟨hosts.trans known, fun node => (grows node).trans (opened node), events ++ more, ?_,
    List.forall_mem_append.mpr ⟨eachBefore, each⟩⟩
  rw [appended, happened, List.append_assoc]

theorem StaysWithin.trans (first : StaysWithin addresses spared world middle)
    (second : StaysWithin addresses spared middle final) :
    StaysWithin addresses spared world final := by
  rcases second with ⟨same, opened, events, appended, each⟩
  rw [first.hosts_eq] at each
  exact first.extend same opened appended each

theorem StaysWithin.mono (within : StaysWithin addresses spared world final)
    (included : addresses ⊆ more) : StaysWithin more spared world final := by
  rcases within with ⟨known, grows, events, happened, each⟩
  refine ⟨known, grows, events, happened, ?_⟩
  intro event member
  rcases each event member with ⟨⟨address, inAddresses, isAt⟩, spares⟩
  exact ⟨⟨address, included inAddresses, isAt⟩, spares⟩

/-- Connections that are open stay so in that others are opened. -/
theorem StaysWithin.numbered (within : StaysWithin addresses spared world final)
    (numbered : ∀ identity ∈ spared, identity.2 ≤ world.opened identity.1) :
    ∀ identity ∈ spared, identity.2 ≤ final.opened identity.1 :=
  fun identity member => (numbered identity member).trans (within.opened _)

end World

namespace Lending

variable {origin : World} {settings : PoolSettings} {spared : Set (String × Nat)}

/-- Since a world, a pool has acted within its address, and none of its connections is spared. -/
structure IsConfined (origin : World) (settings : PoolSettings) (spared : Set (String × Nat))
    (lending : Lending) : Prop where
  located : lending.IsLocated origin.hosts settings
  within : origin.StaysWithin [settings.connections.address] spared lending.world
  idle : ∀ connection ∈ lending.pool.idle, connection.identity ∉ spared
  out : ∀ lease ∈ lending.out, lease.connection.identity ∉ spared

/-- What is done on a connection that leads to the address and is not spared. -/
theorem isWithin_event {hosts : List (String × List IpAddress)} {address : String}
    {connection : Connection} (isAt : connection.IsAt hosts address)
    (own : connection.identity ∉ spared) (activity : Activity) :
    (connection.event activity).IsWithin hosts [address] spared := by
  rcases isAt with ⟨socket, resolved, same⟩
  refine ⟨⟨address, List.mem_singleton_self _, socket, resolved, same⟩, ?_⟩
  rintro number ⟨⟩
  exact own

theorem Step.isConfined (numbered : ∀ identity ∈ spared, identity.2 ≤ origin.opened identity.1)
    {before after : Lending} (step : Step before after)
    (confined : before.IsConfined origin settings spared) :
    after.IsConfined origin settings spared := by
  have located := step.isLocated confined.located
  rcases confined with ⟨⟨known, set, _, leads⟩, within, idle, out⟩
  cases step with
  | noted entry => exact ⟨located, within.logged entry, idle, out⟩
  | rotated password => exact ⟨located, within, idle, out⟩
  | taken first =>
      cases Pool.takeIdle?_eq_some first
      rw [List.forall_mem_cons] at idle
      exact ⟨located, within, idle.2, Multiset.forall_mem_cons.mpr ⟨idle.1, out⟩⟩
  | @refused pool others world after socket fault resolved attempt =>
      refine ⟨located, ?_, idle, out⟩
      rw [known, Pool.address, set] at resolved
      have opened := (Connection.opened_establish attempt).1
      rcases Connection.establish_error attempt with ⟨unchanged | appended, _, hosts⟩
      · exact within.extend hosts opened (unchanged.trans (List.append_nil _).symm)
          (List.forall_mem_nil _)
      · refine within.extend hosts opened appended (List.forall_mem_singleton.mpr ⟨?_, ?_⟩)
        · exact ⟨_, List.mem_singleton_self _, socket, resolved, rfl⟩
        · intro number impossible
          contradiction
  | @opened pool grown connection others world after socket reserved resolved attempt =>
      rcases Connection.opened_establish attempt with ⟨opened, isNext⟩
      rcases Connection.establish_ok attempt with ⟨_, _, appended, _, hosts⟩
      rcases Pool.reserve?_eq_some reserved with ⟨_, rfl⟩
      rcases isNext connection rfl with ⟨rfl, counted⟩
      -- The number of a new connection is above those of all that were open before.
      have fresh : (socket.text, world.opened socket.text + 1) ∉ spared := by
        intro member
        have old := (within.numbered numbered) _ member
        dsimp only at old
        omega
      have isAt := (Multiset.forall_mem_cons.mp located.out).1
      refine ⟨located, within.extend hosts opened appended (List.forall_mem_singleton.mpr ?_), idle,
        Multiset.forall_mem_cons.mpr ⟨fresh, out⟩⟩
      exact isWithin_event isAt fresh _
  | configured setting =>
      refine ⟨located, within.extend rfl (fun _ => le_rfl) rfl ?_, idle, out⟩
      rw [Multiset.forall_mem_cons] at leads out
      exact List.forall_mem_singleton.mpr (isWithin_event leads.1 out.1 _)
  | @exchanged pool lease used others world after arguments reply exchange =>
      rw [Lease.run_exchange] at exchange
      cases exchange
      rw [Multiset.forall_mem_cons] at leads out
      have appended : (lease.connection.writtenWorld (Wire.encodeCommand arguments) world).events =
          world.events ++ [lease.connection.sendEvent arguments] := World.events_advance _ _
      have opened (node : String) : (lease.connection.writtenWorld (Wire.encodeCommand arguments)
          world).opened node = world.opened node := World.opened_advance _ _ _
      have own : (lease.connection.answered
          (world.pending lease.connection.address).head?).2.identity ∉ spared := by
        rw [Connection.identity_answered]
        exact out.1
      refine ⟨located, within.extend (World.hosts_advance _ _) (fun node => (opened node).ge)
        appended ?_, idle, Multiset.forall_mem_cons.mpr ⟨own, out.2⟩⟩
      exact List.forall_mem_singleton.mpr (isWithin_event leads.1 out.1 _)
  | kept intact room =>
      rw [Multiset.forall_mem_cons] at out
      exact ⟨located, within,
        List.forall_mem_append.mpr ⟨idle, List.forall_mem_singleton.mpr out.1⟩, out.2⟩
  | closed counted =>
      rw [Multiset.forall_mem_cons] at leads out
      refine ⟨located, within.extend rfl (fun _ => le_rfl) rfl ?_, idle, out.2⟩
      exact List.forall_mem_singleton.mpr (isWithin_event leads.1 out.1 _)

theorem Steps.isConfined (numbered : ∀ identity ∈ spared, identity.2 ≤ origin.opened identity.1)
    {before after : Lending} (steps : Steps before after)
    (confined : before.IsConfined origin settings spared) :
    after.IsConfined origin settings spared :=
  steps.preserve (Step.isConfined numbered) confined

end Lending

/-- Steps of a pool stay within its address, and on no connection that is open already and not in
its queue. Such a connection does not get into the queue either. -/
theorem Pool.IsSound.staysWithin {settings : PoolSettings} {spared : Set (String × Nat)}
    {pool after : Pool} {world final : World} (sound : pool.IsSound world.hosts settings)
    (steps : Steps ⟨pool, 0, world⟩ ⟨after, 0, final⟩)
    (numbered : ∀ identity ∈ spared, identity.2 ≤ world.opened identity.1)
    (apart : ∀ connection ∈ pool.idle, connection.identity ∉ spared) :
    world.StaysWithin [settings.connections.address] spared final ∧
      ∀ connection ∈ after.idle, connection.identity ∉ spared := by
  have confined := steps.isConfined numbered ⟨sound.isLocated rfl, .refl _ _ world, apart,
    fun lease impossible => absurd impossible (Multiset.notMem_zero lease)⟩
  exact ⟨confined.within, confined.idle⟩

end SlotClient
