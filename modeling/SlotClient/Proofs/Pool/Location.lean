import SlotClient.Proofs.Pool.Operations

/-!
# Where the connections of a pool lead

A pool opens connections to its own address only, so each of its connections leads to the node that
this address means. A pool from which nothing is lent out is sound if moreover it counts just the
connections in its queue.
-/

namespace SlotClient

open Lending (Step Steps)

variable {hosts : List (String × List IpAddress)} {settings : PoolSettings}

namespace Lending

/-- All connections lead to where the address of the pool means. -/
structure IsLocated (hosts : List (String × List IpAddress)) (settings : PoolSettings)
    (lending : Lending) : Prop where
  hosts_eq : lending.world.hosts = hosts
  settings_eq : lending.pool.settings = settings
  idle : ∀ connection ∈ lending.pool.idle, connection.IsAt hosts settings.connections.address
  out : ∀ lease ∈ lending.out, lease.connection.IsAt hosts settings.connections.address

theorem Step.isLocated {before after : Lending} (step : Step before after)
    (located : before.IsLocated hosts settings) : after.IsLocated hosts settings := by
  rcases located with ⟨known, set, idle, out⟩
  cases step with
  | noted entry => exact ⟨known, set, idle, out⟩
  | rotated password => exact ⟨known, set, idle, out⟩
  | taken first =>
      cases Pool.takeIdle?_eq_some first
      rw [List.forall_mem_cons] at idle
      exact ⟨known, set, idle.2, Multiset.forall_mem_cons.mpr ⟨idle.1, out⟩⟩
  | refused resolved attempt =>
      rcases Connection.establish_error attempt with ⟨_, _, same⟩
      exact ⟨same.trans known, set, idle, out⟩
  | @opened pool grown connection others world after socket reserved resolved attempt =>
      rcases Connection.establish_ok attempt with ⟨address, _, _, _, same⟩
      rcases Pool.reserve?_eq_some reserved with ⟨_, rfl⟩
      refine ⟨same.trans known, set, idle, Multiset.forall_mem_cons.mpr ⟨?_, out⟩⟩
      rw [← known, ← set]
      exact ⟨socket, resolved, address⟩
  | configured setting => exact ⟨known, set, idle, out⟩
  | @exchanged pool lease used others world after arguments reply exchange =>
      rw [Lease.run_exchange] at exchange
      cases exchange
      rw [Multiset.forall_mem_cons] at out
      refine ⟨(World.hosts_advance _ _).trans known, set, idle,
        Multiset.forall_mem_cons.mpr ⟨?_, out.2⟩⟩
      rcases out.1 with ⟨socket, resolved, address⟩
      exact ⟨socket, resolved, (congrArg Prod.fst (Connection.identity_answered _ _)).trans address⟩
  | kept intact room =>
      rw [Multiset.forall_mem_cons] at out
      refine ⟨known, set, ?_, out.2⟩
      rw [List.forall_mem_append, List.forall_mem_singleton]
      exact ⟨idle, out.1⟩
  | closed counted =>
      rw [Multiset.forall_mem_cons] at out
      exact ⟨known, set, idle, out.2⟩

theorem Steps.isLocated {before after : Lending} (steps : Steps before after)
    (located : before.IsLocated hosts settings) : after.IsLocated hosts settings :=
  steps.preserve Step.isLocated located

end Lending

namespace Pool

/-- A pool from which no connection is lent out. -/
structure IsSound (hosts : List (String × List IpAddress)) (settings : PoolSettings)
    (pool : Pool) : Prop where
  settings_eq : pool.settings = settings
  total_eq : pool.total = pool.idle.length
  idle : ∀ connection ∈ pool.idle, connection.IsAt hosts settings.connections.address

theorem isSound_create (settings : PoolSettings) (password : Option String) :
    (create settings password).IsSound hosts settings :=
  ⟨rfl, rfl, List.forall_mem_nil _⟩

variable {pool after : Pool} {world final : World}

theorem IsSound.setPassword (sound : pool.IsSound hosts settings) (password : Option String) :
    (pool.setPassword password).IsSound hosts settings :=
  ⟨sound.settings_eq, sound.total_eq, sound.idle⟩

theorem IsSound.isBalanced (sound : pool.IsSound hosts settings) (world : World) :
    Lending.IsBalanced ⟨pool, 0, world⟩ :=
  sound.total_eq

theorem IsSound.isLocated (sound : pool.IsSound hosts settings) (known : world.hosts = hosts) :
    Lending.IsLocated hosts settings ⟨pool, 0, world⟩ :=
  ⟨known, sound.settings_eq, sound.idle, fun lease member =>
    absurd member (Multiset.notMem_zero lease)⟩

/-- Steps at the end of which all connections are back leave a sound pool. -/
theorem IsSound.ofSteps (sound : pool.IsSound hosts settings) (known : world.hosts = hosts)
    (steps : Steps ⟨pool, 0, world⟩ ⟨after, 0, final⟩) :
    after.IsSound hosts settings ∧ final.hosts = hosts := by
  have located := steps.isLocated (sound.isLocated known)
  have balanced := steps.isBalanced (sound.isBalanced world)
  exact ⟨⟨located.settings_eq, balanced, located.idle⟩, located.hosts_eq⟩

end Pool

end SlotClient
