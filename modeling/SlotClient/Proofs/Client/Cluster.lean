import SlotClient.Proofs.Client.Order
import SlotClient.Proofs.Client.Sending

/-!
# Clients of a cluster between two sends

A client touches its pools one at a time, and makes the ones that it needs. So what holds of new
pools and is kept by the operations of one pool holds of all pools of a client, whatever it does.

While a client sends nothing, no connection is lent out from any of its pools, so that all of them
are sound: the pool of an address has the settings for this address, and its connections lead to the
node that the address means.
-/

namespace SlotClient

open Lending (Steps)
open Wire (Value)

/-- What holds of new pools and is kept by a rotation of their password, in worlds of which
something is known that is kept as well. -/
structure Pool.IsKept (Known : World → Prop) (Holds : PoolSettings → Pool → Prop) : Prop where
  created : ∀ settings password, Holds settings (Pool.create settings password)
  rotated : ∀ {settings : PoolSettings} {pool : Pool}, Holds settings pool →
    ∀ password, Holds settings (pool.setPassword password)
  reauthenticated : ∀ {settings : PoolSettings} {pool after : Pool} {world final : World}
    {outcome : Except Failure Unit}, Holds settings pool → Known world →
      pool.reauthenticate.run world = ((outcome, after), final) →
        Holds settings after ∧ Known final
  logged : ∀ {world : World}, Known world → ∀ entry, Known (world.logged entry)

namespace Cluster

/-- Something holds of each pool of a client and of the settings for its address. -/
def EachPool (Holds : PoolSettings → Pool → Prop) (cluster : Cluster) : Prop :=
  ∀ entry ∈ cluster.pools, Holds (cluster.configuration.poolSettings entry.1) entry.2

/-- All pools of a client are sound. -/
def IsSound (hosts : List (String × List IpAddress)) (cluster : Cluster) : Prop :=
  ∀ entry ∈ cluster.pools, entry.2.IsSound hosts (cluster.configuration.poolSettings entry.1)

variable {Known : World → Prop} {Holds : PoolSettings → Pool → Prop}
  {hosts : List (String × List IpAddress)} {cluster after : Cluster} {world final : World}
  {target : String} {asking : Bool} {arguments : List Bytes} {reply : Except Failure Value}

theorem EachPool.withPool {pool : Pool} (holds : cluster.EachPool Holds)
    (poolHolds : Holds (cluster.configuration.poolSettings target) pool) :
    (cluster.withPool target pool).EachPool Holds := by
  unfold Cluster.withPool EachPool
  rw [List.forall_mem_map]
  intro entry member
  split
  · exact poolHolds
  · exact holds entry member

theorem EachPool.withPools {pools : List (String × Pool)} (holds : cluster.EachPool Holds)
    (poolsHold : ∀ entry ∈ pools, Holds (cluster.configuration.poolSettings entry.1) entry.2) :
    (cluster.withPools pools).EachPool Holds := by
  induction pools generalizing cluster with
  | nil => exact holds
  | cons entry pools ih =>
      rw [List.forall_mem_cons] at poolsHold
      exact ih (holds.withPool poolsHold.1) poolsHold.2

theorem reauthenticate_cases {outcome : Except Failure Unit}
    (ran : cluster.reauthenticate.run world = ((outcome, after), final)) :
    ∃ pools, (reauthenticateAll (cluster.arranged world.order)).run world =
      ((outcome, pools), final) ∧ after = cluster.withPools pools := by
  have inOrder : (cluster.reauthenticateIn world.order).run world = ((outcome, after), final) := ran
  rcases Action.bind_cases inOrder with ⟨⟨answer, pools⟩, last, authenticated, ran⟩
  cases ran
  exact ⟨pools, authenticated, rfl⟩

/-- What comes of replacing the password. Either this is rejected, or the password is set, and then
all pools are authenticated if that is to be done at once. -/
inductive Rotates (cluster : Cluster) (requested : Option String) (world : World) :
    Bool → Except Failure String → Cluster → World → Prop
  | rejected {immediate : Bool} {violation : Violation}
      (rejected : rotatedPassword requested immediate = .error violation) :
      Rotates cluster requested world immediate (.error (.violation violation)) cluster world
  | stored {password : Option String} (accepted : rotatedPassword requested false = .ok password) :
      Rotates cluster requested world false (.ok rotationStatus) (cluster.setPassword password)
        world
  | authenticated {password : Option String} {between after : Cluster} {middle final : World}
      {outcome : Except Failure Unit} (accepted : rotatedPassword requested true = .ok password)
      (ensured : (cluster.setPassword password).ensureAnyPool.run world = (between, middle))
      (reauthenticated : between.reauthenticate.run middle = ((outcome, after), final)) :
      Rotates cluster requested world true (outcome.map fun _ => rotationStatus) after final

theorem rotates {requested : Option String} {immediate : Bool} {outcome : Except Failure String}
    (ran : (cluster.updatePassword requested immediate).run world = ((outcome, after), final)) :
    cluster.Rotates requested world immediate outcome after final := by
  unfold Cluster.updatePassword at ran
  rcases rotated : rotatedPassword requested immediate with violation | password
  · rw [rotated] at ran
    cases ran
    exact .rejected rotated
  · rw [rotated] at ran
    cases immediate with
    | false =>
        cases ran
        exact .stored rotated
    | true =>
        rcases Action.bind_cases ran with ⟨between, middle, ensured, ran⟩
        rcases Action.bind_cases ran with ⟨⟨answer, used⟩, last, reauthenticated, ran⟩
        cases ran
        exact .authenticated rotated ensured reauthenticated

theorem ensurePool_cases {pool : Pool}
    (ran : (cluster.ensurePool target).run world = ((pool, after), final)) :
    (cluster.pools.lookup target = some pool ∧ after = cluster ∧ final = world) ∨
      cluster.pools.lookup target = none ∧
        pool = Pool.create (cluster.configuration.poolSettings target) cluster.password ∧
        after = { cluster with pools := cluster.pools ++ [(target, pool)] } ∧
        final = world.logged (.poolCreated target) := by
  unfold ensurePool at ran
  rcases found : cluster.pools.lookup target with _ | known
  · rw [found] at ran
    cases ran
    exact Or.inr ⟨rfl, rfl, rfl, rfl⟩
  · rw [found] at ran
    cases ran
    exact Or.inl ⟨rfl, rfl, rfl⟩

theorem network_ensurePool {pool : Pool}
    (ran : (cluster.ensurePool target).run world = ((pool, after), final)) :
    after.configuration = cluster.configuration ∧ final.network = world.network := by
  rcases ensurePool_cases ran with ⟨_, rfl, rfl⟩ | ⟨_, _, rfl, rfl⟩
  · exact ⟨rfl, rfl⟩
  · exact ⟨rfl, rfl⟩

theorem EachPool.ensurePool {pool : Pool} (holds : cluster.EachPool Holds)
    (created : ∀ settings password, Holds settings (Pool.create settings password))
    (ran : (cluster.ensurePool target).run world = ((pool, after), final)) :
    Holds (after.configuration.poolSettings target) pool ∧ after.EachPool Holds := by
  rcases ensurePool_cases ran with ⟨found, rfl, rfl⟩ | ⟨_, rfl, rfl, rfl⟩
  · exact ⟨holds _ (mem_of_lookup found), holds⟩
  · refine ⟨created _ _, ?_⟩
    exact List.forall_mem_append.mpr ⟨holds, List.forall_mem_singleton.mpr (created _ _)⟩

theorem EachPool.setPassword (holds : cluster.EachPool Holds) (kept : Pool.IsKept Known Holds)
    (password : Option String) : (cluster.setPassword password).EachPool Holds := by
  unfold Cluster.setPassword EachPool
  rw [List.forall_mem_map]
  exact fun entry member => kept.rotated (holds entry member) password

theorem EachPool.ensureAnyPool (holds : cluster.EachPool Holds) (kept : Pool.IsKept Known Holds)
    (known : Known world) (ran : cluster.ensureAnyPool.run world = (after, final)) :
    after.EachPool Holds ∧ after.configuration = cluster.configuration ∧ Known final := by
  unfold Cluster.ensureAnyPool at ran
  split at ran
  · rcases Action.bind_cases ran with ⟨⟨pool, between⟩, last, ensured, ran⟩
    cases ran
    refine ⟨(holds.ensurePool kept.created ensured).2, (network_ensurePool ensured).1, ?_⟩
    rcases ensurePool_cases ensured with ⟨_, _, rfl⟩ | ⟨_, _, _, rfl⟩
    · exact known
    · exact kept.logged known _
  · cases ran
    exact ⟨holds, rfl, known⟩

/-- The pools are authenticated one after the other. -/
theorem eachPool_reauthenticateAll (kept : Pool.IsKept Known Holds)
    {configuration : ClusterConfiguration} {pools rest : List (String × Pool)}
    {outcome : Except Failure Unit}
    (holds : ∀ entry ∈ pools, Holds (configuration.poolSettings entry.1) entry.2)
    (known : Known world) (ran : (reauthenticateAll pools).run world = ((outcome, rest), final)) :
    (∀ entry ∈ rest, Holds (configuration.poolSettings entry.1) entry.2) ∧ Known final := by
  induction pools generalizing world outcome rest final with
  | nil =>
      cases ran
      exact ⟨List.forall_mem_nil _, known⟩
  | cons entry pools ih =>
      rw [List.forall_mem_cons] at holds
      unfold reauthenticateAll at ran
      rcases Action.bind_cases ran with ⟨⟨first, used⟩, middle, authenticated, ran⟩
      rcases Action.bind_cases ran with ⟨⟨later, remaining⟩, last, others, ran⟩
      cases ran
      rcases kept.reauthenticated holds.1 known authenticated with ⟨usedHolds, known⟩
      rcases ih holds.2 known others with ⟨restHolds, known⟩
      exact ⟨List.forall_mem_cons.mpr ⟨usedHolds, restHolds⟩, known⟩

/-- What is kept by the rotation of a pool is kept by a rotation of the client. -/
theorem EachPool.updatePassword (holds : cluster.EachPool Holds) (kept : Pool.IsKept Known Holds)
    (known : Known world) {password : Option String} {immediate : Bool}
    {outcome : Except Failure String}
    (ran : (cluster.updatePassword password immediate).run world = ((outcome, after), final)) :
    after.EachPool Holds ∧ after.configuration = cluster.configuration ∧ Known final := by
  cases rotates ran with
  | rejected rejected => exact ⟨holds, rfl, known⟩
  | stored accepted => exact ⟨holds.setPassword kept _, rfl, known⟩
  | @authenticated password between after middle final outcome accepted ensured reauthenticated =>
      rcases (holds.setPassword kept password).ensureAnyPool kept known ensured with
        ⟨betweenHolds, same, known⟩
      rcases reauthenticate_cases reauthenticated with ⟨pools, authenticated, rfl⟩
      have each : ∀ entry ∈ between.arranged middle.order,
          Holds (between.configuration.poolSettings entry.1) entry.2 :=
        fun entry member => betweenHolds entry (mem_of_mem_arranged member)
      rcases eachPool_reauthenticateAll kept each known authenticated with ⟨poolsHold, known⟩
      refine ⟨betweenHolds.withPools poolsHold, ?_, known⟩
      rw [withPools_eq]
      exact same

theorem isKept_isSound (hosts : List (String × List IpAddress)) :
    Pool.IsKept (fun world => world.hosts = hosts)
      fun settings pool => pool.IsSound hosts settings where
  created := Pool.isSound_create
  rotated sound password := sound.setPassword password
  reauthenticated sound known authenticated :=
    sound.ofSteps known (Pool.steps_reauthenticate 0 (sound.isBalanced _) authenticated)
  logged known _ := known

theorem IsSound.withPool (sound : cluster.IsSound hosts) {pool : Pool}
    (poolSound : pool.IsSound hosts (cluster.configuration.poolSettings target)) :
    (cluster.withPool target pool).IsSound hosts :=
  EachPool.withPool sound poolSound

theorem IsSound.ensurePool (sound : cluster.IsSound hosts) {pool : Pool}
    (ran : (cluster.ensurePool target).run world = ((pool, after), final)) :
    after.configuration = cluster.configuration ∧ final.network = world.network ∧
      pool.IsSound hosts (cluster.configuration.poolSettings target) ∧ after.IsSound hosts := by
  rcases network_ensurePool ran with ⟨same, network⟩
  have ensured := EachPool.ensurePool sound (isKept_isSound hosts).created ran
  rw [same] at ensured
  exact ⟨same, network, ensured⟩

theorem IsSound.updatePassword (sound : cluster.IsSound world.hosts) {password : Option String}
    {immediate : Bool} {outcome : Except Failure String}
    (ran : (cluster.updatePassword password immediate).run world = ((outcome, after), final)) :
    after.IsSound world.hosts ∧ final.hosts = world.hosts := by
  rcases EachPool.updatePassword sound (isKept_isSound world.hosts) rfl ran with
    ⟨afterSound, _, known⟩
  exact ⟨afterSound, known⟩

/-- A client sends a command by a visit of the node, and its pools are sound afterwards. -/
theorem Sends.isMade {writes : List (List Bytes × Except Failure Value)}
    (sends : cluster.Sends target asking arguments world writes reply after final)
    (sound : cluster.IsSound world.hosts) :
    Visit.IsMade cluster.configuration arguments ⟨target, asking, writes, reply, world, final⟩ ∧
      after.configuration = cluster.configuration ∧ after.IsSound world.hosts ∧
      final.hosts = world.hosts := by
  cases sends with
  | @unreached pool rest between start _ failure ensured acquires =>
      rcases sound.ensurePool ensured with ⟨configured, network, poolSound, betweenSound⟩
      have known := World.hosts_of_network network
      have set := poolSound.settings_eq
      have opening := (World.SendsOnly.ofEvents (World.events_of_network network)).trans
        acquires.sendsOnly.1
      rw [set] at opening
      rw [← known] at poolSound
      rcases poolSound.ofSteps rfl (Pool.steps_acquire_error 0 acquires) with ⟨restSound, same⟩
      rw [known, ← configured] at restSound
      exact ⟨.unreached set network acquires opening, configured, betweenSound.withPool restSound,
        same.trans known⟩
  | @reached pool rest returned between lease used start taken answered _ _ _ ensured acquires
      exchanges delivers intact released =>
      rcases sound.ensurePool ensured with ⟨configured, network, poolSound, betweenSound⟩
      have known := World.hosts_of_network network
      have set := poolSound.settings_eq
      have opening := (World.SendsOnly.ofEvents (World.events_of_network network)).trans
        acquires.sendsOnly.1
      rw [set] at opening
      rw [← known] at poolSound
      have isAt := acquires.isAt poolSound
      have steps := Pool.steps_lend poolSound acquires exchanges intact released
      rcases poolSound.ofSteps rfl steps with ⟨restSound, same⟩
      rw [known] at isAt
      rw [known, ← configured] at restSound
      exact ⟨.reached set network acquires opening isAt exchanges delivers
        (Pool.network_release released), configured, betweenSound.withPool restSound,
        same.trans known⟩

end Cluster

end SlotClient
