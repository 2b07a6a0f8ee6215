import SlotClient.Proofs.Client.Learning
import SlotClient.Proofs.Pool.Confinement

/-!
# Which nodes a command has to do with

A client sends a command to one node after the other, and has to do with no other nodes in that
time. Their pools stay as they are, and nothing happens on the connections that wait in them. The
only addresses under which a client gets a pool are those that it has tried: to send a command
there, or to authenticate at once after its password was replaced. It gets one pool for each, and
keeps it.
-/

namespace SlotClient

open Wire (Value)

/-- Addresses to which targets have been added behind: those that were not there yet, once each. -/
structure Gains (addresses targets after : List String) : Prop where
  fresh : ∃ fresh, after = addresses ++ fresh ∧ fresh.Nodup ∧
    ∀ address, address ∈ fresh ↔ address ∈ targets ∧ address ∉ addresses

namespace Gains

variable {addresses targets others middle after : List String}

theorem nothing (known : targets ⊆ addresses) : Gains addresses targets addresses := by
  refine ⟨[], (List.append_nil _).symm, List.nodup_nil, ?_⟩
  intro address
  constructor
  · intro impossible
    contradiction
  · rintro ⟨isTarget, missing⟩
    exact absurd (known isTarget) missing

theorem single {target : String} (missing : target ∉ addresses) :
    Gains addresses [target] (addresses ++ [target]) := by
  refine ⟨[target], rfl, List.nodup_singleton target, ?_⟩
  intro address
  constructor
  · intro isTarget
    exact ⟨isTarget, List.mem_singleton.mp isTarget ▸ missing⟩
  · exact And.left

theorem trans (first : Gains addresses targets middle) (second : Gains middle others after) :
    Gains addresses (targets ++ others) after := by
  rcases first with ⟨fresh, rfl, distinct, isFresh⟩
  rcases second with ⟨later, rfl, laterDistinct, isLater⟩
  refine ⟨fresh ++ later, List.append_assoc _ _ _, ?_, ?_⟩
  · refine List.nodup_append.mpr ⟨distinct, laterDistinct, ?_⟩
    rintro address inFresh other inLater rfl
    exact ((isLater address).mp inLater).2 (List.mem_append_right _ inFresh)
  · intro address
    have known := isFresh address
    have added := isLater address
    simp only [List.mem_append] at added ⊢
    tauto

/-- What has been added is added as well if all that is there now are the targets. -/
theorem self (gains : Gains addresses targets after) : Gains addresses after after := by
  rcases gains with ⟨fresh, rfl, distinct, isFresh⟩
  refine ⟨fresh, rfl, distinct, ?_⟩
  intro address
  constructor
  · intro inFresh
    exact ⟨List.mem_append_right _ inFresh, ((isFresh address).mp inFresh).2⟩
  · rintro ⟨member, missing⟩
    exact (List.mem_append.mp member).resolve_left missing

/-- It does not matter in which order the targets are, nor how often. -/
theorem congr (gains : Gains addresses targets after)
    (same : ∀ address, address ∈ others ↔ address ∈ targets) : Gains addresses others after := by
  rcases gains with ⟨fresh, rfl, distinct, isFresh⟩
  refine ⟨fresh, rfl, distinct, fun address => ?_⟩
  rw [same]
  exact isFresh address

/-- Where there was nothing, there are just the targets, once each. -/
theorem ofNothing (gains : Gains [] targets after) :
    after.Nodup ∧ ∀ address, address ∈ after ↔ address ∈ targets := by
  rcases gains with ⟨fresh, rfl, distinct, isFresh⟩
  refine ⟨distinct, fun address => ?_⟩
  simpa using isFresh address

end Gains

namespace Cluster

/-- The connections that are idle in pools for other addresses than the targets. -/
def idleApart (cluster : Cluster) (targets : List String) : Set (String × Nat) :=
  {identity | ∃ entry ∈ cluster.pools, entry.1 ∉ targets ∧
    ∃ connection ∈ entry.2.idle, connection.identity = identity}

/-- Whatever a client does that has to do with the targets only: it gets pools for those of them for
which it has none, all other pools stay as they are, and everything on the network happens at nodes
that the targets mean, and nothing on a connection that is idle in another pool. -/
structure Touches (cluster : Cluster) (targets : List String) (world : World) (after : Cluster)
    (final : World) : Prop where
  gains : Gains cluster.addresses targets after.addresses
  kept : ∀ address, address ∉ targets →
    after.pools.lookup address = cluster.pools.lookup address
  within : world.StaysWithin targets (cluster.idleApart targets) final

/-- No connection that is idle in the pool of a target is spared. -/
def KeepsApart (targets : List String) (spared : Set (String × Nat)) (cluster : Cluster) : Prop :=
  ∀ entry ∈ cluster.pools, entry.1 ∈ targets →
    ∀ connection ∈ entry.2.idle, connection.identity ∉ spared

variable {cluster after : Cluster} {target : String} {asking : Bool} {arguments : List Bytes}
  {world final : World} {reply : Except Failure Value} {targets : List String}
  {spared : Set (String × Nat)}

theorem lookup_withPool_of_ne {address : String} (different : address ≠ target) (pool : Pool) :
    (cluster.withPool target pool).pools.lookup address = cluster.pools.lookup address := by
  rw [Cluster.withPool, lookup_replace, if_neg different]

theorem pools_learn (cluster : Cluster) (target : String) (redirect : Redirect) :
    (cluster.learn target redirect).pools = cluster.pools := by
  cases redirect <;> rfl

theorem gains_ensurePool {pool : Pool}
    (ran : (cluster.ensurePool target).run world = ((pool, after), final)) :
    Gains cluster.addresses [target] after.addresses := by
  rcases ensurePool_cases ran with ⟨found, rfl, rfl⟩ | ⟨missing, rfl, rfl, rfl⟩
  · have member : target ∈ after.addresses := List.mem_map_of_mem (mem_of_lookup found)
    exact .nothing (List.cons_subset.mpr ⟨member, List.nil_subset _⟩)
  · rw [addresses, addresses, List.map_append]
    exact .single (lookup_eq_none_iff_notMem.mp missing)

theorem lookup_ensurePool_of_ne {pool : Pool} {address : String} (different : address ≠ target)
    (ran : (cluster.ensurePool target).run world = ((pool, after), final)) :
    after.pools.lookup address = cluster.pools.lookup address := by
  rcases ensurePool_cases ran with ⟨found, rfl, rfl⟩ | ⟨missing, rfl, rfl, rfl⟩
  · rfl
  · rw [List.lookup_append, lookup_cons_ite, if_neg different]
    exact Option.or_none

/-- To send a command is to take steps with the pool of its target. -/
theorem Sends.steps {writes : List (List Bytes × Except Failure Value)}
    (sends : cluster.Sends target asking arguments world writes reply after final) :
    ∃ pool rest between start,
      (cluster.ensurePool target).run world = ((pool, between), start) ∧
      after = between.withPool target rest ∧
      ∀ settings, pool.IsSound start.hosts settings →
        Lending.Steps ⟨pool, 0, start⟩ ⟨rest, 0, final⟩ := by
  cases sends with
  | unreached ensured acquires =>
      exact ⟨_, _, _, _, ensured, rfl, fun _ _ => Pool.steps_acquire_error 0 acquires⟩
  | reached ensured acquires exchanges delivers intact released =>
      exact ⟨_, _, _, _, ensured, rfl, fun _ sound =>
        Pool.steps_lend sound acquires exchanges intact released⟩

theorem Sends.gains {writes : List (List Bytes × Except Failure Value)}
    (sends : cluster.Sends target asking arguments world writes reply after final) :
    Gains cluster.addresses [target] after.addresses := by
  rcases sends.steps with ⟨pool, rest, between, start, ensured, rfl, _⟩
  rw [addresses_withPool]
  exact gains_ensurePool ensured

theorem Sends.lookup_of_ne {writes : List (List Bytes × Except Failure Value)} {address : String}
    (sends : cluster.Sends target asking arguments world writes reply after final)
    (different : address ≠ target) :
    after.pools.lookup address = cluster.pools.lookup address := by
  rcases sends.steps with ⟨pool, rest, between, start, ensured, rfl, _⟩
  rw [lookup_withPool_of_ne different]
  exact lookup_ensurePool_of_ne different ensured

/-- To send a command to a target is to act within it and to spare what other pools have. -/
theorem Sends.staysWithin {writes : List (List Bytes × Except Failure Value)}
    (sends : cluster.Sends target asking arguments world writes reply after final)
    (sound : cluster.IsSound world.hosts) (isTarget : target ∈ targets)
    (numbered : ∀ identity ∈ spared, identity.2 ≤ world.opened identity.1)
    (apart : cluster.KeepsApart targets spared) :
    world.StaysWithin targets spared final ∧ after.KeepsApart targets spared := by
  rcases sends.steps with ⟨pool, rest, between, start, ensured, rfl, steps⟩
  rcases sound.ensurePool ensured with ⟨_, network, poolSound, _⟩
  have opening : world.StaysWithin targets spared start := .ofNetwork network
  rw [← opening.hosts_eq] at poolSound
  have poolApart : (∀ connection ∈ pool.idle, connection.identity ∉ spared) ∧
      between.KeepsApart targets spared := by
    rcases ensurePool_cases ensured with ⟨found, rfl, rfl⟩ | ⟨_, rfl, rfl, _⟩
    · exact ⟨apart _ (mem_of_lookup found) isTarget, apart⟩
    · refine ⟨List.forall_mem_nil _, List.forall_mem_append.mpr ⟨apart, ?_⟩⟩
      exact List.forall_mem_singleton.mpr fun _ => List.forall_mem_nil _
  rcases poolSound.staysWithin (steps _ poolSound) (opening.numbered numbered) poolApart.1 with
    ⟨within, restApart⟩
  refine ⟨opening.trans (within.mono ?_), ?_⟩
  · exact List.cons_subset.mpr ⟨isTarget, List.nil_subset _⟩
  · rw [KeepsApart, Cluster.withPool, List.forall_mem_map]
    intro entry member
    split
    · exact fun _ => restApart
    · exact poolApart.2 entry member

/-- To follow redirects adds the addresses of the visits. -/
theorem Follows.gains {route : Route} {limit : Nat} {outcome : Except Failure Value}
    {visits : List Visit}
    (follows : Follows route arguments limit target asking cluster world visits outcome after
      final) :
    Gains cluster.addresses (visits.map Visit.target) after.addresses := by
  induction follows with
  | exhausted entry => exact .nothing (List.nil_subset _)
  | answered sends answered => exact sends.gains
  | @redirected limit target asking cluster between after world middle final writes reply outcome
      redirect visits sends stated entry _ ih =>
      rw [addresses, pools_learn] at ih
      exact sends.gains.trans ih

theorem Follows.lookup_of_notMem {route : Route} {limit : Nat} {outcome : Except Failure Value}
    {visits : List Visit} {address : String}
    (follows : Follows route arguments limit target asking cluster world visits outcome after final)
    (unvisited : address ∉ visits.map Visit.target) :
    after.pools.lookup address = cluster.pools.lookup address := by
  induction follows with
  | exhausted entry => rfl
  | answered sends answered => exact sends.lookup_of_ne (List.ne_of_not_mem_cons unvisited)
  | @redirected limit target asking cluster between after world middle final writes reply outcome
      redirect visits sends stated entry _ ih =>
      rw [List.map_cons, List.mem_cons, not_or] at unvisited
      rw [ih unvisited.2, pools_learn, sends.lookup_of_ne unvisited.1]

/-- To follow redirects is to act within the targets, if these are all that is visited. -/
theorem Follows.staysWithin {route : Route} {limit : Nat} {outcome : Except Failure Value}
    {visits : List Visit}
    (follows : Follows route arguments limit target asking cluster world visits outcome after final)
    (sound : cluster.IsSound world.hosts) (visited : ∀ visit ∈ visits, visit.target ∈ targets)
    (numbered : ∀ identity ∈ spared, identity.2 ≤ world.opened identity.1)
    (apart : cluster.KeepsApart targets spared) : world.StaysWithin targets spared final := by
  induction follows with
  | exhausted entry => exact (World.StaysWithin.refl _ _ _).logged entry
  | answered sends answered =>
      have isTarget := visited _ List.mem_cons_self
      exact (sends.staysWithin sound isTarget numbered apart).1
  | @redirected limit target asking cluster between after world middle final writes reply outcome
      redirect visits sends stated entry _ ih =>
      rw [List.forall_mem_cons] at visited
      rcases sends.staysWithin sound visited.1 numbered apart with ⟨within, betweenApart⟩
      rcases sends.isMade sound with ⟨_, _, betweenSound, known⟩
      rw [← known] at betweenSound
      have learned : (between.learn target redirect).KeepsApart targets spared := by
        rw [KeepsApart, pools_learn]
        exact betweenApart
      have rest := ih (betweenSound.learn target redirect) visited.2 (within.numbered numbered)
        learned
      exact (within.logged entry).trans rest

/-- In a client no two idle connections are the same, so what is idle in the pool of a target is not
idle in another one. -/
theorem keepsApart_idleApart (distinct : (cluster.held.map Connection.identity).Nodup)
    (targets : List String) : cluster.KeepsApart targets (cluster.idleApart targets) := by
  rw [held, Multiset.map_coe, Multiset.coe_nodup, idleOf, List.map_flatMap,
    List.nodup_flatMap] at distinct
  rintro entry member isTarget connection idle ⟨other, otherMem, elsewhere, twin, otherIdle, same⟩
  have different : entry ≠ other := by
    rintro rfl
    exact elsewhere isTarget
  have symmetric : Std.Symm (Function.onFun List.Disjoint fun entry : String × Pool =>
      entry.2.idle.map Connection.identity) := ⟨fun _ _ => List.Disjoint.symm⟩
  have disjoint := distinct.2.forall member otherMem different
  exact disjoint (List.mem_map_of_mem idle) (same ▸ List.mem_map_of_mem otherIdle)

/-- Following redirects has to do with the nodes that are visited. -/
theorem IsWatched.touches {origin : World} {route : Route} {limit : Nat}
    {outcome : Except Failure Value} {visits : List Visit}
    (watched : cluster.IsWatched origin world) (sound : cluster.IsSound world.hosts)
    (follows : Follows route arguments limit target asking cluster world visits outcome after
      final) : cluster.Touches (visits.map Visit.target) world after final where
  gains := follows.gains
  kept _ unvisited := follows.lookup_of_notMem unvisited
  within := by
    have apart := keepsApart_idleApart watched.tracked.distinct (visits.map Visit.target)
    apply follows.staysWithin sound (fun visit member => List.mem_map_of_mem member) ?_ apart
    rintro identity ⟨entry, member, _, connection, idle, rfl⟩
    apply watched.tracked.numbered connection
    exact Multiset.mem_coe.mpr (List.mem_flatMap_of_mem member idle)

end Cluster

end SlotClient
