import SlotClient.Proofs.Client.Dealings
import SlotClient.Proofs.Client.Reachability

/-!
# What clients of a cluster learn

The table of slots of a client holds what its nodes have named in replies to commands: for each slot
the owner in the latest `MOVED` that names it. It does not matter by which slot the command was
routed, nor what came of following the redirect. Nothing else that happens to a client changes the
table.
-/

namespace SlotClient

open Wire (Value)

theorem SlotTable.owner?_assign (table : SlotTable) (slot other : Slot) (owner : String) :
    (table.assign slot owner).owner? other =
      if other = slot then some owner else table.owner? other := by
  unfold assign owner?
  rw [lookup_cons_ite]
  split
  · rfl
  · rename_i different
    exact lookup_filter_ne different table.entries

/-- The owner that the reply of a visit names of a slot, if it names one: that of a `MOVED`, where a
port alone is one on the host that was visited. -/
def Visit.owner? (slot : Slot) (visit : Visit) : Option String :=
  match Cluster.redirect? visit.reply with
  | some (.moved named address) =>
    if slot = named then some (Redirect.target visit.target address) else none
  | _ => none

theorem Visit.owner?_of_answered (visit : Visit) (answered : Cluster.redirect? visit.reply = none)
    (slot : Slot) : visit.owner? slot = none := by
  rw [owner?, answered]

/-- A reply that names an owner is the reply to the command, which has been written last. -/
theorem Visit.IsMade.writes_of_owner? {configuration : ClusterConfiguration}
    {arguments : List Bytes} {visit : Visit} (made : visit.IsMade configuration arguments)
    {slot : Slot} {owner : String} (named : visit.owner? slot = some owner) :
    visit.writes.getLast? = some (arguments, visit.reply) := by
  cases made with
  | unreached set network acquires opening => cases named
  | reached set network acquires opening isAt exchanges delivers returned =>
      cases delivers with
      | plain reply => rfl
      | announced text reply => rfl
      | unannounced refused => cases named

namespace Cluster

variable {cluster after : Cluster} {target : String} {asking : Bool} {arguments : List Bytes}
  {world final : World} {reply : Except Failure Value}

theorem slots_ensurePool {pool : Pool}
    (ran : (cluster.ensurePool target).run world = ((pool, after), final)) :
    after.slots = cluster.slots := by
  rcases ensurePool_cases ran with ⟨_, rfl, _⟩ | ⟨_, _, rfl, _⟩ <;> rfl

theorem slots_ensureAnyPool (ran : cluster.ensureAnyPool.run world = (after, final)) :
    after.slots = cluster.slots := by
  unfold Cluster.ensureAnyPool at ran
  split at ran
  · rcases Action.bind_cases ran with ⟨⟨pool, between⟩, last, ensured, ran⟩
    cases ran
    exact slots_ensurePool ensured
  · cases ran
    rfl

theorem Sends.slots_eq {writes : List (List Bytes × Except Failure Value)}
    (sends : cluster.Sends target asking arguments world writes reply after final) :
    after.slots = cluster.slots := by
  cases sends with
  | @unreached _ _ between _ _ _ ensured acquires =>
      have same : between.slots = cluster.slots := slots_ensurePool ensured
      exact same
  | @reached _ _ _ between _ _ _ _ _ _ _ _ ensured acquires exchanges delivers intact released =>
      have same : between.slots = cluster.slots := slots_ensurePool ensured
      exact same

/-- What is known of a slot after a redirect is what it names, or else what was known before. -/
theorem slotOwner?_learn (cluster : Cluster) (visit : Visit) {redirect : Redirect}
    (stated : redirect? visit.reply = some redirect) (slot : Slot) :
    (cluster.learn visit.target redirect).slotOwner? slot =
      (visit.owner? slot).or (cluster.slotOwner? slot) := by
  unfold Visit.owner?
  rw [stated]
  cases redirect with
  | moved named address =>
      simp only [slotOwner?, learn, SlotTable.owner?_assign]
      split <;> rfl
  | ask named address => rfl

/-- What is known of a slot after following redirects is what they have named last, or else what
was known before. -/
theorem Follows.slotOwner? {route : Route} {limit : Nat} {outcome : Except Failure Value}
    {visits : List Visit}
    (follows : Follows route arguments limit target asking cluster world visits outcome after final)
    (slot : Slot) :
    after.slotOwner? slot =
      (visits.filterMap (Visit.owner? slot)).getLast?.or (cluster.slotOwner? slot) := by
  induction follows with
  | exhausted entry => rfl
  | @answered limit target asking cluster after world final writes reply sends answered =>
      have names := Visit.owner?_of_answered ⟨target, asking, writes, reply, world, final⟩
        answered slot
      rw [List.filterMap_cons_none names, Cluster.slotOwner?, sends.slots_eq]
      rfl
  | @redirected limit target asking cluster between after world middle final writes reply outcome
      redirect visits sends stated entry _ ih =>
      have learned := slotOwner?_learn between ⟨target, asking, writes, reply, world, middle⟩
        stated slot
      have before : between.slotOwner? slot = cluster.slotOwner? slot := by
        rw [Cluster.slotOwner?, sends.slots_eq, Cluster.slotOwner?]
      rw [ih, learned, before]
      -- What this visit names is known only until a later one names another owner.
      rcases names : Visit.owner? slot ⟨target, asking, writes, reply, world, middle⟩ with
        _ | owner
      · rw [List.filterMap_cons_none names, Option.none_or]
      · rw [List.filterMap_cons_some names, List.getLast?_cons]
        rcases (visits.filterMap (Visit.owner? slot)).getLast? <;> rfl

theorem slots_updatePassword {password : Option String} {immediate : Bool}
    {outcome : Except Failure String}
    (ran : (cluster.updatePassword password immediate).run world = ((outcome, after), final)) :
    after.slots = cluster.slots := by
  cases rotates ran with
  | rejected rejected => rfl
  | stored accepted => rfl
  | @authenticated password between after middle final outcome accepted ensured reauthenticated =>
      have same : between.slots = (cluster.setPassword password).slots :=
        slots_ensureAnyPool ensured
      rcases reauthenticate_cases reauthenticated with ⟨pools, _, rfl⟩
      rw [withPools_eq]
      exact same

/-- The visits that a client has made for commands since it was created. Those for one command are
an itinerary, and all that is seen while it is executed is what is seen of them, one after the
other. -/
inductive HasVisited (origin : World) : List Visit → Cluster → World → Prop
  | created {configuration : ClusterConfiguration} {cluster : Cluster}
      (created : create configuration = .ok cluster) : HasVisited origin [] cluster origin
  | noted {visits : List Visit} {cluster : Cluster} {world : World} (entry : LogEntry)
      (visited : HasVisited origin visits cluster world) :
      HasVisited origin visits cluster (world.logged entry)
  | executed {visits more : List Visit} {cluster after : Cluster} {world final : World}
      {route : Route} {arguments : List Bytes} {outcome : Except Failure Value}
      {shown : List (List Deed)} (visited : HasVisited origin visits cluster world)
      (ran : (cluster.execute route arguments).run world = ((outcome, after), final))
      (itinerary : IsItinerary cluster.configuration route arguments
        (cluster.configuration.maxRedirects.toNat + 1) (cluster.firstTarget route) false world more
        outcome final)
      (shows : List.Forall₂ cluster.Shows more shown)
      (seen : origin.history final = origin.history world ++ shown.flatten) :
      HasVisited origin (visits ++ more) after final
  | rotated {visits : List Visit} {cluster after : Cluster} {world final : World}
      {password : Option String} {immediate : Bool} {outcome : Except Failure String}
      (visited : HasVisited origin visits cluster world)
      (ran : (cluster.updatePassword password immediate).run world = ((outcome, after), final)) :
      HasVisited origin visits after final

/-- The pools of a client are alike, and an observer keeps track of their connections. -/
structure IsWatched (origin : World) (cluster : Cluster) (world : World) : Prop where
  uniform : cluster.IsUniform
  tracked : origin.IsTracked (origin.history world) cluster.held world

variable {origin : World}

/-- Executing a command is a number of visits. What is known of a slot afterwards is what these have
named last, or else what was known before. -/
theorem IsWatched.executed {visits : List Visit} (watched : cluster.IsWatched origin world)
    (visited : HasVisited origin visits cluster world) (sound : cluster.IsSound world.hosts)
    {route : Route} {outcome : Except Failure Value}
    (ran : (cluster.execute route arguments).run world = ((outcome, after), final)) :
    ∃ more, HasVisited origin (visits ++ more) after final ∧ after.IsWatched origin final ∧
      IsItinerary cluster.configuration route arguments
        (cluster.configuration.maxRedirects.toNat + 1) (cluster.firstTarget route) false world more
        outcome final ∧
      ∀ slot, after.slotOwner? slot =
        (more.filterMap (Visit.owner? slot)).getLast?.or (cluster.slotOwner? slot) := by
  have on : cluster.IsOn (Client.Setup.terms (.cluster cluster.configuration) cluster.password
      [askingArguments, arguments]) := fun _ => ⟨Iff.rfl, rfl⟩
  rcases follows ran with ⟨more, follows⟩
  rcases follows.dealings watched.uniform on (List.mem_cons_of_mem _ List.mem_cons_self)
    List.mem_cons_self with ⟨shown, dealings, shows, uniform, _⟩
  have itinerary := (follows.isItinerary sound).1
  have tracked := dealings.isTracked watched.tracked
  have seen := tracked.history
  rw [← seen] at tracked
  exact ⟨more, .executed visited ran itinerary shows seen, ⟨uniform, tracked⟩, itinerary,
    follows.slotOwner?⟩

theorem IsWatched.updatePassword {password : Option String} {immediate : Bool}
    {outcome : Except Failure String} (watched : cluster.IsWatched origin world)
    (ran : (cluster.updatePassword password immediate).run world = ((outcome, after), final)) :
    after.IsWatched origin final := by
  cases accepted : rotatedPassword password immediate with
  | error violation =>
      unfold Cluster.updatePassword at ran
      rw [accepted] at ran
      cases ran
      exact watched
  | ok rotated =>
      have on : (cluster.setPassword rotated).IsOn (Client.Setup.terms
          (.cluster cluster.configuration) rotated (rotated.toList.map
            (Connection.authentication cluster.configuration.username))) := fun _ => ⟨Iff.rfl, rfl⟩
      have agreed : ∀ secret ∈ rotated,
          Connection.authentication cluster.configuration.username secret ∈
            rotated.toList.map (Connection.authentication cluster.configuration.username) :=
        fun secret set => List.mem_map_of_mem (Option.mem_toList.mpr set)
      rcases watched.uniform.dealings_updatePassword accepted on agreed ran with
        ⟨deeds, dealings, uniform, _⟩
      have tracked := dealings.isTracked watched.tracked
      rw [← tracked.history] at tracked
      exact ⟨uniform, tracked⟩

/-- Every client has made visits, and what it knows of a slot is what they have named last. -/
theorem IsReachable.hasVisited (reachable : cluster.IsReachable world) :
    ∃ origin visits, HasVisited (World.forget origin) visits cluster world ∧
      cluster.IsWatched origin.forget world ∧
      ∀ slot, cluster.slotOwner? slot = (visits.filterMap (Visit.owner? slot)).getLast? := by
  induction reachable with
  | created origin created =>
      rcases create_eq_ok created with ⟨_, _, noPools, noSlots⟩
      refine ⟨origin, [], .created created, ⟨?_, ?_⟩, ?_⟩
      · constructor <;> rw [noPools]
        · exact List.forall_mem_nil _
        · exact List.forall_mem_nil _
        · exact List.nodup_nil
      · rw [held, noPools]
        have tracked := World.isTracked_self origin.forget
        rw [← tracked.history] at tracked
        exact tracked
      · intro slot
        rw [Cluster.slotOwner?, noSlots]
        rfl
  | noted entry _ ih =>
      rcases ih with ⟨origin, visits, visited, watched, known⟩
      exact ⟨origin, visits, .noted entry visited,
        ⟨watched.uniform, watched.tracked.logged entry⟩, known⟩
  | @executed cluster world route arguments reachable ih =>
      rcases ih with ⟨origin, visits, visited, watched, known⟩
      rcases ran : (cluster.execute route arguments).run world with ⟨⟨outcome, after⟩, final⟩
      rcases watched.executed visited reachable.isSound ran with
        ⟨more, visitedAfter, watchedAfter, _, learned⟩
      refine ⟨origin, visits ++ more, visitedAfter, watchedAfter, ?_⟩
      intro slot
      rw [learned slot, known, List.filterMap_append, List.getLast?_append]
  | @rotated cluster world password immediate _ ih =>
      rcases ih with ⟨origin, visits, visited, watched, known⟩
      refine ⟨origin, visits, .rotated visited rfl, watched.updatePassword rfl, ?_⟩
      have same : ((cluster.updatePassword password immediate).run world).1.2.slots =
          cluster.slots := slots_updatePassword rfl
      intro slot
      rw [← known, Cluster.slotOwner?, same, Cluster.slotOwner?]

theorem HasVisited.writes_of_owner? {visits : List Visit}
    (visited : HasVisited origin visits cluster world) :
    ∀ visit ∈ visits, ∀ slot owner, visit.owner? slot = some owner →
      ∃ arguments, visit.writes.getLast? = some (arguments, visit.reply) := by
  induction visited with
  | created created => exact List.forall_mem_nil _
  | noted entry _ ih => exact ih
  | @executed visits more _ _ _ _ route arguments _ _ _ ran itinerary shows seen ih =>
      refine List.forall_mem_append.mpr ⟨ih, ?_⟩
      intro visit member slot owner named
      exact ⟨arguments, (itinerary.made visit member).writes_of_owner? named⟩
  | rotated _ ran ih => exact ih

/-- The table of slots is the history of `MOVED`. Whatever a client has done before: the known owner
of a slot is the one that the replies to its commands have named last, and there is none if they
have named none. A further command changes what is known only by the owners that its own replies
name, however it ends. To replace the password changes nothing, and a command that is refused
does not even change the client. -/
theorem slots_hold_latest_moved (reachable : cluster.IsReachable world) :
    (∃ origin visits, HasVisited (World.forget origin) visits cluster world ∧
      (∀ visit ∈ visits, ∀ slot owner, visit.owner? slot = some owner →
        ∃ arguments, visit.writes.getLast? = some (arguments, visit.reply)) ∧
      (∀ slot, cluster.slotOwner? slot = (visits.filterMap (Visit.owner? slot)).getLast?) ∧
      ∀ route arguments,
        let result := ((cluster.execute route arguments).run world).1.1
        let after := ((cluster.execute route arguments).run world).1.2
        let final := ((cluster.execute route arguments).run world).2
        ∃ more, HasVisited origin.forget (visits ++ more) after final ∧
          IsItinerary cluster.configuration route arguments
            (cluster.configuration.maxRedirects.toNat + 1) (cluster.firstTarget route) false world
            more result final ∧
          ∀ slot, after.slotOwner? slot =
            (more.filterMap (Visit.owner? slot)).getLast?.or (cluster.slotOwner? slot)) ∧
      (∀ password immediate,
        ((cluster.updatePassword password immediate).run world).1.2.slots = cluster.slots) ∧
      ∀ (command : Command) (violation : Violation),
        command.dispatch (Executor.policy cluster) = .error violation →
          (command.run cluster).run world = ((.error (.violation violation), cluster), world) := by
  rcases reachable.hasVisited with ⟨origin, visits, visited, watched, known⟩
  refine ⟨⟨origin, visits, visited, visited.writes_of_owner?, known, ?_⟩, ?_, ?_⟩
  · intro route arguments result after final
    have ran : (cluster.execute route arguments).run world = ((result, after), final) := rfl
    rcases watched.executed visited reachable.isSound ran with ⟨more, visitedAfter, _, rest⟩
    exact ⟨more, visitedAfter, rest⟩
  · exact fun password immediate => slots_updatePassword rfl
  · exact fun command violation refused => Command.run_of_dispatch_error refused world

/-- A client that knows from a `MOVED 1 :6` of the seed that slot 1 has moved to another port. -/
theorem slots_hold_latest_moved_port :
    ∃ (cluster : Cluster) (world : World) (visits : List Visit), cluster.IsReachable world ∧
      cluster.slotOwner? 1 = some "1.2.3.4:6" ∧ cluster.slotOwner? 2 = none ∧
      (visits.filterMap (Visit.owner? 1)).getLast? = some "1.2.3.4:6" := by
  have created : create { nodes := ["1.2.3.4:5"], maxRedirects := 0 } =
      .ok ⟨{ nodes := ["1.2.3.4:5"], maxRedirects := 0 }, none, [], {}, List.cons_ne_nil _ _⟩ := rfl
  have reachable := IsReachable.executed .anywhere [[71]] (.created { nodes := [
    ("1.2.3.4:5", ⟨[], [.data [45, 77, 79, 86, 69, 68, 32, 49, 32, 58, 54, 13, 10] none], 0⟩)] }
    created)
  rcases slots_hold_latest_moved reachable with ⟨⟨origin, visits, _, _, known, _⟩, _⟩
  refine ⟨_, _, visits, reachable, by decide +kernel, by decide +kernel, ?_⟩
  rw [← known 1]
  decide +kernel

end Cluster

end SlotClient
