import SlotClient.Proofs.Client.Confinement

/-!
# Addresses that have been tried

An address is tried when a command is sent there, also if no connection is to be had, and when the
connections of its pool are authenticated at once after a rotation. A client has a pool for each
address that it has tried since it was created, and for no others, and its statistics list the
counts of these pools.
-/

namespace SlotClient

open Wire (Value)

namespace Cluster

/-- The addresses that a client has tried since it was created, in this order: those that were
visited for a command, and those of all pools when their connections were authenticated, which the
world lets come in any order. -/
inductive HasTried : List String → Cluster → World → Prop
  | created {configuration : ClusterConfiguration} {cluster : Cluster}
      (world : World) (created : create configuration = .ok cluster) :
      HasTried [] cluster world.forget
  | noted {tried : List String} {cluster : Cluster} {world : World} (entry : LogEntry)
      (before : HasTried tried cluster world) : HasTried tried cluster (world.logged entry)
  | executed {tried : List String} {cluster after : Cluster} {world final : World} {route : Route}
      {arguments : List Bytes} {outcome : Except Failure Value} {visits : List Visit}
      (before : HasTried tried cluster world)
      (ran : (cluster.execute route arguments).run world = ((outcome, after), final))
      (follows : Follows route arguments (cluster.configuration.maxRedirects.toNat + 1)
        (cluster.firstTarget route) false cluster world visits outcome after final) :
      HasTried (tried ++ visits.map Visit.target) after final
  | rotated {tried : List String} {cluster : Cluster} {world : World} (password : Option String)
      (before : HasTried tried cluster world) : HasTried tried (cluster.setPassword password) world
  | authenticated {tried : List String} {cluster between after : Cluster}
      {world middle final : World} {outcome : Except Failure Unit}
      (before : HasTried tried cluster world)
      (ensured : cluster.ensureAnyPool.run world = (between, middle))
      (ran : between.reauthenticate.run middle = ((outcome, after), final)) :
      HasTried (tried ++ middle.order.arrange between.addresses) after final

/-- The visits that a client makes for a command: none if it is refused, and otherwise an itinerary
that begins where the route of the command leads. -/
inductive Makes (cluster : Cluster) (command : Command) (world : World) :
    List Visit → World → Prop
  | refused {violation : Violation}
      (refused : command.dispatch (Executor.policy cluster) = .error violation) :
      Makes cluster command world [] world
  | dispatched {route : Route} {arguments : List Bytes} {visits : List Visit}
      {outcome : Except Failure Value} {final : World}
      (dispatched : command.dispatch (Executor.policy cluster) = .ok (route, arguments))
      (itinerary : IsItinerary cluster.configuration route arguments
        (cluster.configuration.maxRedirects.toNat + 1) (cluster.firstTarget route) false
        (command.noted route world) visits outcome final) :
      Makes cluster command world visits final

variable {cluster after : Cluster} {world final : World} {tried : List String}

theorem addresses_setPassword (cluster : Cluster) (password : Option String) :
    (cluster.setPassword password).addresses = cluster.addresses := by
  rw [addresses, addresses, Cluster.setPassword, List.map_map]
  rfl

theorem addresses_reauthenticate {outcome : Except Failure Unit}
    (ran : cluster.reauthenticate.run world = ((outcome, after), final)) :
    after.addresses = cluster.addresses := by
  rcases reauthenticate_cases ran with ⟨pools, _, rfl⟩
  exact cluster.addresses_withPools pools

/-- Where all connections are to be authenticated, all pools are those of addresses that are
tried. -/
theorem gains_ensureAnyPool (ran : cluster.ensureAnyPool.run world = (after, final)) :
    Gains cluster.addresses after.addresses after.addresses := by
  unfold Cluster.ensureAnyPool at ran
  split at ran
  · rcases Action.bind_cases ran with ⟨⟨pool, between⟩, last, ensured, ran⟩
    cases ran
    exact (gains_ensurePool ensured).self
  · cases ran
    exact .nothing (List.Subset.refl _)

theorem HasTried.gains (before : HasTried tried cluster world) :
    Gains [] tried cluster.addresses := by
  induction before with
  | created world created =>
      rcases create_eq_ok created with ⟨_, _, noPools, _⟩
      rw [addresses, noPools]
      exact .nothing (List.nil_subset _)
  | noted entry _ ih => exact ih
  | executed _ ran follows ih => exact ih.trans follows.gains
  | rotated password _ ih =>
      rw [addresses_setPassword]
      exact ih
  | @authenticated tried cluster between after world middle final outcome _ ensured ran ih =>
      rw [addresses_reauthenticate ran]
      refine ih.trans ((gains_ensureAnyPool ensured).congr ?_)
      exact fun address => (middle.order.perm _).mem_iff

theorem HasTried.updatePassword {password : Option String} {immediate : Bool}
    {outcome : Except Failure String} (before : HasTried tried cluster world)
    (ran : (cluster.updatePassword password immediate).run world = ((outcome, after), final)) :
    ∃ more, HasTried (tried ++ more) after final := by
  cases rotates ran with
  | rejected rejected => exact ⟨[], (List.append_nil tried).symm ▸ before⟩
  | stored accepted => exact ⟨[], (List.append_nil tried).symm ▸ before.rotated _⟩
  | authenticated accepted ensured reauthenticated =>
      exact ⟨_, (before.rotated _).authenticated ensured reauthenticated⟩

theorem HasTried.commandNoted (before : HasTried tried cluster world) (command : Command)
    (route : Route) : HasTried tried cluster (command.noted route world) := by
  unfold Command.noted
  split
  · exact before.noted _
  · exact before

/-- For every client there are the addresses that it has tried. -/
theorem IsReachable.hasTried (reachable : cluster.IsReachable world) :
    ∃ tried, HasTried tried cluster world := by
  induction reachable with
  | created world created => exact ⟨[], .created world created⟩
  | noted entry _ ih =>
      rcases ih with ⟨tried, before⟩
      exact ⟨tried, before.noted entry⟩
  | executed route arguments _ ih =>
      rcases ih with ⟨tried, before⟩
      rcases follows (rfl : (execute _ route arguments).run _ = _) with ⟨visits, follows⟩
      exact ⟨_, before.executed rfl follows⟩
  | rotated password immediate _ ih =>
      rcases ih with ⟨tried, before⟩
      rcases before.updatePassword rfl with ⟨more, tried⟩
      exact ⟨_, tried⟩

theorem perm_statistics (cluster : Cluster) :
    cluster.statistics.Perm (cluster.pools.map fun entry => (entry.1, entry.2.statistics)) :=
  List.mergeSort_perm _ _

theorem perm_addresses_statistics (cluster : Cluster) :
    (cluster.statistics.map Prod.fst).Perm cluster.addresses := by
  have perm := cluster.perm_statistics.map Prod.fst
  rwa [List.map_map] at perm

/-- The statistics tell of each pool its counts under its address. -/
theorem mem_statistics_iff (distinct : cluster.addresses.Nodup) {address : String}
    {counts : PoolStatistics} :
    (address, counts) ∈ cluster.statistics ↔
      ∃ pool, cluster.pools.lookup address = some pool ∧ counts = pool.statistics := by
  rw [cluster.perm_statistics.mem_iff, List.mem_map]
  constructor
  · rintro ⟨⟨name, pool⟩, member, same⟩
    cases same
    exact ⟨pool, (lookup_eq_some_iff_mem distinct).mpr member, rfl⟩
  · rintro ⟨pool, found, rfl⟩
    exact ⟨(address, pool), mem_of_lookup found, rfl⟩

theorem IsReachable.commandNoted (reachable : cluster.IsReachable world) (command : Command)
    (route : Route) : cluster.IsReachable (command.noted route world) := by
  unfold Command.noted
  split
  · exact reachable.noted _
  · exact reachable

/-- A command has to do with the nodes that are visited for it, which are then tried. -/
theorem IsReachable.touches (reachable : cluster.IsReachable world) {command : Command}
    {result : Except Failure command.Result}
    (ran : (command.run cluster).run world = ((result, after), final)) :
    ∃ visits, cluster.Makes command world visits final ∧
      cluster.Touches (visits.map Visit.target) world after final ∧
      ∀ tried, HasTried tried cluster world →
        HasTried (tried ++ visits.map Visit.target) after final := by
  rcases dispatched : command.dispatch (Executor.policy cluster) with violation | ⟨route, arguments⟩
  · rw [Command.run_of_dispatch_error dispatched] at ran
    cases ran
    refine ⟨[], .refused dispatched, ⟨.nothing (List.nil_subset _), fun _ _ => rfl,
      .ofNetwork rfl⟩, ?_⟩
    intro tried before
    rw [List.map_nil, List.append_nil]
    exact before
  · rw [Command.run_of_dispatch_ok dispatched] at ran
    have noted := reachable.commandNoted command route
    rcases executed : (cluster.execute route arguments).run (command.noted route world) with
      ⟨⟨outcome, used⟩, last⟩
    rw [show (Executor.execute cluster route arguments).run (command.noted route world) = _ from
      executed] at ran
    cases ran
    rcases follows executed with ⟨visits, follows⟩
    rcases noted.hasVisited with ⟨_, _, _, watched, _⟩
    rcases watched.touches noted.isSound follows with ⟨gains, kept, within⟩
    have silent : world.StaysWithin (visits.map Visit.target)
        (cluster.idleApart (visits.map Visit.target)) (command.noted route world) :=
      .ofNetwork (command.network_noted route world)
    refine ⟨visits, .dispatched dispatched (follows.isItinerary noted.isSound).1,
      ⟨gains, kept, silent.trans within⟩, ?_⟩
    intro tried before
    exact (before.commandNoted command route).executed executed follows

/-- A command touches only the nodes that it visits. Whatever a client has done before, and whatever
it is asked for: for a command it visits the node where its route leads, and from there those that
redirects lead to. The pools of all other addresses stay as they are, with their queues, counts and
passwords. All that happens on the network happens at nodes that the visited addresses mean, and
nothing on a connection that is idle in another pool. No pool is lost, and there is one more for
each visited address that had none. At any time the pool of an address leads to this address, and
the statistics list the counts of each pool once. The addresses that they list are those that the
client has tried since it was created, by visits for commands and in authenticating at once. -/
theorem commands_touch_visited_nodes (reachable : cluster.IsReachable world) :
    (∀ entry ∈ cluster.pools, entry.2.address = entry.1) ∧
    (∀ address counts, (address, counts) ∈ cluster.statistics ↔
      ∃ pool, cluster.pools.lookup address = some pool ∧ counts = pool.statistics) ∧
    (cluster.statistics.map Prod.fst).Nodup ∧
    (∃ tried, HasTried tried cluster world) ∧
    (∀ tried, HasTried tried cluster world →
      ∀ address, address ∈ cluster.statistics.map Prod.fst ↔ address ∈ tried) ∧
    ∀ command : Command,
      let after := ((command.run cluster).run world).1.2
      let final := ((command.run cluster).run world).2
      ∃ visits, cluster.Makes command world visits final ∧
        cluster.Touches (visits.map Visit.target) world after final ∧
        ∀ tried, HasTried tried cluster world →
          HasTried (tried ++ visits.map Visit.target) after final := by
  have listed := cluster.perm_addresses_statistics
  rcases reachable.hasTried with ⟨tried, before⟩
  have distinct := before.gains.ofNothing.1
  refine ⟨?_, fun address counts => mem_statistics_iff distinct, listed.nodup_iff.mpr distinct,
    ⟨tried, before⟩, ?_, fun command => reachable.touches rfl⟩
  · intro entry member
    rw [Pool.address, (reachable.isSound entry member).settings_eq]
    rfl
  · intro others before address
    rw [listed.mem_iff]
    exact before.gains.ofNothing.2 address

/-- A client whose seed has led it to another port, where it had no pool, is to ask whether the seed
is there. -/
theorem commands_touch_visited_nodes_moved :
    ∃ (cluster : Cluster) (world : World) (tried : List String) (visits : List Visit),
      cluster.IsReachable world ∧ HasTried tried cluster world ∧
      "1.2.3.4:5" ∈ tried ∧ "1.2.3.4:6" ∈ tried ∧ "1.2.3.4:7" ∉ tried ∧
      cluster.Makes (.ping none) world visits (((Command.ping none).run cluster).run world).2 ∧
      cluster.Touches (visits.map Visit.target) world
        (((Command.ping none).run cluster).run world).1.2
        (((Command.ping none).run cluster).run world).2 := by
  have created : create { nodes := ["1.2.3.4:5"], maxRedirects := 1 } =
      .ok ⟨{ nodes := ["1.2.3.4:5"], maxRedirects := 1 }, none, [], {}, List.cons_ne_nil _ _⟩ := rfl
  have reachable := IsReachable.executed (.slot 1) [[71]] (.created { nodes := [
    ("1.2.3.4:5", ⟨[], [.data [45, 77, 79, 86, 69, 68, 32, 49, 32, 58, 54, 13, 10] none], 0⟩),
    ("1.2.3.4:6", ⟨[], [.data [43, 79, 75, 13, 10] none], 0⟩)] } created)
  rcases commands_touch_visited_nodes reachable with
    ⟨_, _, _, ⟨tried, before⟩, listed, touches⟩
  rcases touches (.ping none) with ⟨visits, makes, touches, _⟩
  have known (address : String) := (perm_addresses_statistics _).mem_iff.symm.trans
    (listed tried before address)
  refine ⟨_, _, tried, visits, reachable, before, ?_, ?_, ?_, makes, touches⟩
  · rw [← known]
    decide +kernel
  · rw [← known]
    decide +kernel
  · rw [← known]
    decide +kernel

end Cluster

end SlotClient
