import SlotClient.Proofs.Client.Cluster
import SlotClient.Proofs.Client.Turns
import SlotClient.Proofs.Command.Dispatch
import SlotClient.Proofs.Pool.Dealings
import SlotClient.Proofs.Wire.Command

/-!
# What clients do to a network, call by call

All pools of a client are set up alike and have the password of the client, whether they were there
when it was set or were made later. So whatever a client is asked for, it deals with the network on
the terms that its setup and its password make, and sends nothing else than the command that it was
asked to perform or the authentication that it was asked for.
-/

namespace SlotClient

open Wire (Value)

/-- All idle connections of pools. -/
def idleOf (pools : List (String × Pool)) : List Connection :=
  pools.flatMap fun entry => entry.2.idle

theorem idleOf_cons (address : String) (pool : Pool) (pools : List (String × Pool)) :
    (idleOf ((address, pool) :: pools) : Multiset Connection) = pool.idle + idleOf pools := by
  rw [idleOf, List.flatMap_cons, ← Multiset.coe_add]
  rfl

/-- Replacing the pool of an address changes no idle connections but its own. -/
theorem idleOf_replace {pools : List (String × Pool)} {address : String} {pool : Pool}
    (distinct : (pools.map Prod.fst).Nodup) (found : pools.lookup address = some pool) :
    ∃ others : Multiset Connection, idleOf pools = pool.idle + others ∧
      ∀ replacement : Pool,
        (idleOf (pools.map fun entry =>
          if entry.1 = address then (address, replacement) else entry) : Multiset Connection) =
            replacement.idle + others := by
  induction pools with
  | nil => cases found
  | cons entry pools ih =>
      rcases entry with ⟨name, old⟩
      rw [List.map_cons, List.nodup_cons] at distinct
      rw [lookup_cons_ite] at found
      split at found
      · rename_i here
        subst here
        cases found
        refine ⟨idleOf pools, idleOf_cons _ _ _, ?_⟩
        intro replacement
        rw [List.map_cons, if_pos rfl, idleOf_cons, replace_eq_self distinct.1]
      · rename_i elsewhere
        rcases ih distinct.2 found with ⟨others, whole, replaced⟩
        refine ⟨old.idle + others, ?_, ?_⟩
        · rw [idleOf_cons, whole]
          exact add_left_comm _ _ _
        · intro replacement
          rw [List.map_cons, if_neg (Ne.symm elsewhere), idleOf_cons, replaced]
          exact add_left_comm _ _ _

/-- What no operation of a pool changes: its address, its settings and its password. -/
def constants (entry : String × Pool) : String × PoolSettings × Option String :=
  (entry.1, entry.2.settings, entry.2.password)

/-- What is seen of a visit. If the node is not reached this is at most the making of a connection
that does not get ready. Otherwise a connection is possibly made, what is written is exchanged on
it, and it is possibly closed. -/
inductive Visit.Shows (settings : ConnectionSettings) (password : Option String) (visit : Visit) :
    List Deed → Prop
  | unreached {deeds : List Deed} {failure : Failure} (unwritten : visit.writes = [])
      (failed : visit.reply = .error failure) (made : settings.Makes password deeds (.error failure)) :
      Shows settings password visit deeds
  | reached (connection : Connection) {made back : List Deed}
      (opening : made = [] ∨ settings.Makes password made (.ok connection.identity))
      (closing : back = [] ∨ back = [.closed connection.identity]) :
      Shows settings password visit (made ++ (connection.deeds visit.writes ++ back))

namespace Cluster

/-- All pools of a client are set up for their address and have the password of the client, and
there is one for each address. -/
structure IsUniform (cluster : Cluster) : Prop where
  settings : ∀ entry ∈ cluster.pools,
    entry.2.settings = cluster.configuration.poolSettings entry.1
  password : ∀ entry ∈ cluster.pools, entry.2.password = cluster.password
  distinct : (cluster.pools.map Prod.fst).Nodup

/-- The idle connections of a client. -/
def held (cluster : Cluster) : Multiset Connection := idleOf cluster.pools

/-- Another state of a client, set up in the same way and with the same password. -/
def IsStateOf (after cluster : Cluster) : Prop :=
  after.configuration = cluster.configuration ∧ after.password = cluster.password

theorem IsStateOf.trans {cluster middle after : Cluster} (second : after.IsStateOf middle)
    (first : middle.IsStateOf cluster) : after.IsStateOf cluster :=
  ⟨second.1.trans first.1, second.2.trans first.2⟩

/-- A client prepares its connections on the terms, to whatever address. -/
def IsOn (terms : Terms) (cluster : Cluster) : Prop :=
  ∀ address, Connection.IsPreparedOn terms
    (cluster.configuration.poolSettings address).connections cluster.password

variable {terms : Terms} {cluster after : Cluster} {world final : World}
  {target : String} {asking : Bool} {arguments : List Bytes} {reply : Except Failure Value}

theorem IsStateOf.isOn (same : after.IsStateOf cluster) (on : cluster.IsOn terms) :
    after.IsOn terms := by
  rw [IsOn, same.1, same.2]
  exact on

theorem IsUniform.withPool {pool replacement : Pool} (uniform : cluster.IsUniform)
    (found : cluster.pools.lookup target = some pool) (same : replacement.IsStateOf pool) :
    (cluster.withPool target replacement).IsUniform where
  settings := by
    rw [Cluster.withPool, List.forall_mem_map]
    intro entry member
    split
    · exact same.1.trans (uniform.settings _ (mem_of_lookup found))
    · exact uniform.settings entry member
  password := by
    rw [Cluster.withPool, List.forall_mem_map]
    intro entry member
    split
    · exact same.2.trans (uniform.password _ (mem_of_lookup found))
    · exact uniform.password entry member
  distinct := by
    have same := cluster.addresses_withPool target replacement
    rw [addresses, addresses] at same
    rw [same]
    exact uniform.distinct

theorem IsUniform.held_withPool {pool : Pool} (uniform : cluster.IsUniform)
    (found : cluster.pools.lookup target = some pool) :
    ∃ others : Multiset Connection, cluster.held = pool.idle + others ∧
      ∀ replacement : Pool,
        (cluster.withPool target replacement).held = replacement.idle + others :=
  idleOf_replace uniform.distinct found

theorem IsUniform.ensurePool (terms : Terms) {pool : Pool} (uniform : cluster.IsUniform)
    (ran : (cluster.ensurePool target).run world = ((pool, after), final)) :
    after.IsUniform ∧ after.IsStateOf cluster ∧ after.pools.lookup target = some pool ∧
      Dealings terms cluster.held world [] after.held final := by
  rcases ensurePool_cases ran with ⟨found, rfl, rfl⟩ | ⟨missing, rfl, rfl, rfl⟩
  · exact ⟨uniform, ⟨rfl, rfl⟩, found, .nothing _ _⟩
  · refine ⟨⟨?_, ?_, ?_⟩, ⟨rfl, rfl⟩, ?_, ?_⟩
    · exact List.forall_mem_append.mpr ⟨uniform.settings, List.forall_mem_singleton.mpr rfl⟩
    · exact List.forall_mem_append.mpr ⟨uniform.password, List.forall_mem_singleton.mpr rfl⟩
    · rw [List.map_append, List.map_singleton]
      refine List.nodup_append.mpr ⟨uniform.distinct, List.nodup_singleton _, ?_⟩
      rintro name member other isNew rfl
      rw [List.mem_singleton.mp isNew] at member
      exact lookup_eq_none_iff_notMem.mp missing member
    · rw [List.lookup_append, missing, Option.none_or]
      simp
    · have empty : held { cluster with pools := cluster.pools ++ [(target, Pool.create
          (cluster.configuration.poolSettings target) cluster.password)] } = cluster.held := by
        simp [held, idleOf, Pool.create]
      rw [empty]
      exact (Dealing.noted _).single

theorem IsUniform.isOn {pool : Pool} (uniform : cluster.IsUniform) (on : cluster.IsOn terms)
    (found : cluster.pools.lookup target = some pool) : pool.IsOn terms := by
  have member := mem_of_lookup found
  rw [Pool.IsOn, uniform.settings _ member, uniform.password _ member]
  exact on target

theorem IsUniform.learn (uniform : cluster.IsUniform) (target : String) (redirect : Redirect) :
    (cluster.learn target redirect).IsUniform := by
  cases redirect <;> exact ⟨uniform.settings, uniform.password, uniform.distinct⟩

theorem held_learn (cluster : Cluster) (target : String) (redirect : Redirect) :
    (cluster.learn target redirect).held = cluster.held := by
  cases redirect <;> rfl

theorem isStateOf_learn (cluster : Cluster) (target : String) (redirect : Redirect) :
    (cluster.learn target redirect).IsStateOf cluster := by
  cases redirect <;> exact ⟨rfl, rfl⟩

/-- What is seen of a visit that a client makes. -/
def Shows (cluster : Cluster) (visit : Visit) : List Deed → Prop :=
  visit.Shows (cluster.configuration.poolSettings visit.target).connections cluster.password

theorem IsStateOf.shows {other : Cluster} {visit : Visit} {deeds : List Deed}
    (same : other.IsStateOf cluster) (shows : other.Shows visit deeds) :
    cluster.Shows visit deeds := by
  rw [Shows, ← same.1, ← same.2]
  exact shows

/-- A command is sent, possibly behind its announcement, on a connection to its node. -/
theorem Sends.dealings {writes : List (List Bytes × Except Failure Value)}
    (sends : cluster.Sends target asking arguments world writes reply after final)
    (uniform : cluster.IsUniform) (on : cluster.IsOn terms)
    (agreed : arguments ∈ terms.commands) (announced : askingArguments ∈ terms.commands) :
    ∃ deeds, Dealings terms cluster.held world deeds after.held final ∧
      cluster.Shows ⟨target, asking, writes, reply, world, final⟩ deeds ∧
      after.IsUniform ∧ after.IsStateOf cluster := by
  cases sends with
  | unreached ensured acquires =>
      rcases uniform.ensurePool terms ensured with ⟨betweenUniform, same, found, ensures⟩
      have poolOn := betweenUniform.isOn (same.isOn on) found
      rcases betweenUniform.held_withPool found with ⟨others, whole, replaced⟩
      rw [whole] at ensures
      rcases acquires.dealings_error poolOn others with ⟨deeds, acquires, lends⟩
      rw [replaced]
      refine ⟨_, ensures.trans acquires, ?_, betweenUniform.withPool found lends.isStateOf, same⟩
      have made := lends.makes_error
      rw [betweenUniform.settings _ (mem_of_lookup found),
        betweenUniform.password _ (mem_of_lookup found)] at made
      exact same.shows (.unreached rfl rfl made)
  | @reached pool rest returned between lease used _ _ _ _ _ _ ensured acquires exchanges delivers
      intact released =>
      rcases uniform.ensurePool terms ensured with ⟨betweenUniform, same, found, ensures⟩
      have poolOn := betweenUniform.isOn (same.isOn on) found
      rcases betweenUniform.held_withPool found with ⟨others, whole, replaced⟩
      rw [whole] at ensures
      rcases acquires.dealings_ok poolOn others with ⟨made, acquires, lends⟩
      have delivery := exchanges.dealings (delivers.mem agreed announced) (rest.idle + others)
      rcases Pool.comesBack_release released others with ⟨back, releases, settles⟩
      rw [replaced]
      refine ⟨_, (ensures.trans acquires).trans (delivery.trans releases), ?_,
        betweenUniform.withPool found (settles.isStateOf.trans lends.isStateOf), same⟩
      have opening := lends.makes_ok
      rw [betweenUniform.settings _ (mem_of_lookup found),
        betweenUniform.password _ (mem_of_lookup found)] at opening
      have closing := settles.deeds_eq
      rw [exchanges.identity_eq] at closing
      exact same.shows (.reached lease.connection opening closing)

/-- To follow redirects is to deal with the network visit by visit. -/
theorem Follows.dealings {route : Route} {limit : Nat} {outcome : Except Failure Value}
    {visits : List Visit}
    (follows : Follows route arguments limit target asking cluster world visits outcome after final)
    (uniform : cluster.IsUniform) (on : cluster.IsOn terms) (agreed : arguments ∈ terms.commands)
    (announced : askingArguments ∈ terms.commands) :
    ∃ shown, Dealings terms cluster.held world (List.flatten shown) after.held final ∧
      List.Forall₂ cluster.Shows visits shown ∧ after.IsUniform ∧ after.IsStateOf cluster := by
  induction follows with
  | exhausted entry => exact ⟨[], (Dealing.noted _).single, .nil, uniform, rfl, rfl⟩
  | answered sends answered =>
      rcases sends.dealings uniform on agreed announced with
        ⟨deeds, dealings, shows, afterUniform, same⟩
      refine ⟨[deeds], ?_, .cons shows .nil, afterUniform, same⟩
      rw [List.flatten_singleton]
      exact dealings
  | @redirected limit target asking cluster between after world middle final writes reply outcome
      redirect visits sends stated entry _ ih =>
      rcases sends.dealings uniform on agreed announced with
        ⟨deeds, dealings, shows, betweenUniform, same⟩
      have learned := (isStateOf_learn between target redirect).trans same
      rcases ih (betweenUniform.learn target redirect) (learned.isOn on) with
        ⟨shown, follows, showsRest, afterUniform, sameAfter⟩
      rw [held_learn] at follows
      refine ⟨deeds :: shown, ?_, .cons shows ?_, afterUniform, sameAfter.trans learned⟩
      · rw [List.flatten_cons]
        exact dealings.trans (.next (.noted entry) follows)
      · exact showsRest.imp fun _ _ => learned.shows

theorem IsUniform.dealings_follow {route : Route} {limit : Nat} {outcome : Except Failure Value}
    (uniform : cluster.IsUniform) (on : cluster.IsOn terms) (agreed : arguments ∈ terms.commands)
    (announced : askingArguments ∈ terms.commands)
    (ran : (follow route arguments limit target asking cluster).run world =
      ((outcome, after), final)) :
    ∃ deeds, Dealings terms cluster.held world deeds after.held final ∧
      after.IsUniform ∧ after.IsStateOf cluster := by
  rcases follows ran with ⟨visits, follows⟩
  rcases follows.dealings uniform on agreed announced with ⟨shown, dealings, _, rest⟩
  exact ⟨_, dealings, rest⟩

/-- If the pools of a client are authenticated and none of it fails, then all that was sent is
confirmed, and on each connection that is idle afterwards the authentication has been sent. -/
theorem dealings_reauthenticateAll {pools rest : List (String × Pool)} {password : String}
    {username : Option String} {outcome : Except Failure Unit}
    (on : ∀ entry ∈ pools, entry.2.IsOn terms)
    (passwords : ∀ entry ∈ pools, entry.2.password = some password)
    (usernames : ∀ entry ∈ pools, entry.2.settings.connections.username = username)
    (agreed : Connection.authentication username password ∈ terms.commands)
    (ran : (reauthenticateAll pools).run world = ((outcome, rest), final))
    (others : Multiset Connection) :
    ∃ deeds, Dealings terms (idleOf pools + others) world deeds (idleOf rest + others) final ∧
      rest.map constants = pools.map constants ∧
      (outcome = .ok () → (∀ deed ∈ deeds, deed.IsConfirmed) ∧
        ∀ connection ∈ idleOf rest, ∃ reply, .exchanged connection.identity
          (Wire.encodeCommand (Connection.authentication username password)) reply ∈ deeds) := by
  induction pools generalizing world outcome rest others with
  | nil =>
      cases ran
      exact ⟨[], .nothing _ _, rfl, fun _ => ⟨List.forall_mem_nil _, List.forall_mem_nil _⟩⟩
  | cons entry pools ih =>
      rcases entry with ⟨address, pool⟩
      rw [List.forall_mem_cons] at on passwords usernames
      unfold reauthenticateAll at ran
      rcases Action.bind_cases ran with ⟨⟨first, used⟩, middle, authenticated, ran⟩
      rcases Action.bind_cases ran with ⟨⟨later, remaining⟩, last, authenticatedRest, ran⟩
      cases ran
      have poolAgreed : ∀ secret ∈ pool.password, Connection.authentication
          pool.settings.connections.username secret ∈ terms.commands := by
        intro secret isSecret
        rw [passwords.1] at isSecret
        cases isSecret
        rw [usernames.1]
        exact agreed
      rcases Pool.dealings_reauthenticate on.1 poolAgreed authenticated
        (idleOf pools + others) with ⟨deeds, authenticates, reauthenticates⟩
      have same := reauthenticates.isStateOf
      rcases ih on.2 passwords.2 usernames.2 authenticatedRest (used.idle + others) with
        ⟨more, authenticatesRest, sameRest, acceptsRest⟩
      rw [add_left_comm (used.idle : Multiset Connection)] at authenticates
      rw [add_left_comm (idleOf remaining : Multiset Connection)] at authenticatesRest
      rw [idleOf_cons, idleOf_cons, add_assoc, add_assoc]
      have sameConstants : constants (address, used) = constants (address, pool) := by
        rw [constants, constants, same.1, same.2]
      refine ⟨_, authenticates.trans authenticatesRest, ?_, ?_⟩
      · rw [List.map_cons, List.map_cons, sameRest, sameConstants]
      intro accepted
      rcases first with failure | _
      · cases accepted
      rcases reauthenticates.confirmed_of_ok rfl passwords.1 with ⟨confirmed, sent⟩
      rcases acceptsRest accepted with ⟨confirmedRest, sentRest⟩
      refine ⟨List.forall_mem_append.mpr ⟨confirmed, confirmedRest⟩, ?_⟩
      rw [idleOf, List.flatMap_cons, List.forall_mem_append]
      refine ⟨fun connection member => ?_, fun connection member => ?_⟩
      · rcases sent connection member with ⟨reply, sent⟩
        rw [usernames.1] at sent
        exact ⟨reply, List.mem_append_left _ sent⟩
      · rcases sentRest connection member with ⟨reply, sent⟩
        exact ⟨reply, List.mem_append_right _ sent⟩

/-- To authenticate the connections of pools fails for reasons that lie in the network. -/
theorem failure_of_reauthenticateAll {pools rest : List (String × Pool)} {failure : Failure}
    (ran : (reauthenticateAll pools).run world = ((.error failure, rest), final)) :
    failure.isOfExchange = true ∨ ∃ address, failure = .invalidAddress address := by
  induction pools generalizing world rest with
  | nil => cases ran
  | cons entry pools ih =>
      rcases entry with ⟨address, pool⟩
      unfold reauthenticateAll at ran
      rcases Action.bind_cases ran with ⟨⟨first, used⟩, middle, authenticated, ran⟩
      rcases Action.bind_cases ran with ⟨⟨later, remaining⟩, last, authenticatedRest, ran⟩
      rcases first with cause | _
      · cases ran
        rcases Pool.failure_of_reauthenticate authenticated with exchange | unknown
        · exact Or.inl exchange
        · exact Or.inr ⟨_, unknown⟩
      · cases ran
        exact ih authenticatedRest

theorem failure_of_reauthenticate {failure : Failure}
    (ran : cluster.reauthenticate.run world = ((.error failure, after), final)) :
    failure.isOfExchange = true ∨ ∃ address, failure = .invalidAddress address := by
  rcases reauthenticate_cases ran with ⟨pools, authenticated, _⟩
  exact failure_of_reauthenticateAll authenticated

theorem create_eq_ok {configuration : ClusterConfiguration}
    (created : create configuration = .ok cluster) :
    cluster.configuration = configuration ∧ cluster.password = configuration.password ∧
      cluster.pools = [] ∧ cluster.slots = {} := by
  unfold create at created
  split at created
  · cases created
    exact ⟨rfl, rfl, rfl, rfl⟩
  · cases created

theorem constants_map_fst {pools others : List (String × Pool)}
    (same : pools.map constants = others.map constants) :
    pools.map Prod.fst = others.map Prod.fst := by
  have addresses := congrArg (List.map Prod.fst) same
  rwa [List.map_map, List.map_map] at addresses

/-- A client is still uniform after all its pools have been put back with their constants. -/
theorem IsUniform.withPools {pools : List (String × Pool)} {order : KeyOrder}
    (uniform : cluster.IsUniform)
    (same : pools.map constants = (cluster.arranged order).map constants) :
    (cluster.withPools pools).IsUniform ∧ (cluster.withPools pools).IsStateOf cluster ∧
      (idleOf (cluster.withPools pools).pools).Perm (idleOf pools) := by
  have put := perm_withPools_arranged uniform.distinct (constants_map_fst same)
  have settings : ∀ constant ∈ pools.map constants,
      constant.2.1 = cluster.configuration.poolSettings constant.1 := by
    rw [same, List.forall_mem_map]
    exact fun entry member => uniform.settings entry (mem_of_mem_arranged member)
  have passwords : ∀ constant ∈ pools.map constants, constant.2.2 = cluster.password := by
    rw [same, List.forall_mem_map]
    exact fun entry member => uniform.password entry (mem_of_mem_arranged member)
  rw [List.forall_mem_map] at settings passwords
  have distinct : (cluster.withPools pools).addresses.Nodup := by
    rw [addresses_withPools]
    exact uniform.distinct
  refine ⟨⟨?_, ?_, distinct⟩, ?_, put.flatMap_right _⟩
  · rw [withPools_eq]
    exact fun entry member => settings entry (put.mem_iff.mp member)
  · rw [withPools_eq]
    exact fun entry member => passwords entry (put.mem_iff.mp member)
  · rw [withPools_eq]
    exact ⟨rfl, rfl⟩

theorem IsUniform.setPassword (uniform : cluster.IsUniform) (password : Option String) :
    (cluster.setPassword password).IsUniform where
  settings := by
    rw [Cluster.setPassword, List.forall_mem_map]
    exact uniform.settings
  password := by
    rw [Cluster.setPassword, List.forall_mem_map]
    exact fun _ _ => rfl
  distinct := by
    rw [Cluster.setPassword, List.map_map]
    exact uniform.distinct

theorem held_setPassword (cluster : Cluster) (password : Option String) :
    (cluster.setPassword password).held = cluster.held := by
  rw [held, held, idleOf, idleOf, Cluster.setPassword, List.flatMap_map]
  rfl

theorem IsUniform.ensureAnyPool (terms : Terms) (uniform : cluster.IsUniform)
    (ran : cluster.ensureAnyPool.run world = (after, final)) :
    after.IsUniform ∧ after.IsStateOf cluster ∧
      Dealings terms cluster.held world [] after.held final := by
  unfold Cluster.ensureAnyPool at ran
  split at ran
  · rcases Action.bind_cases ran with ⟨⟨pool, between⟩, last, ensured, ran⟩
    cases ran
    rcases uniform.ensurePool terms ensured with ⟨afterUniform, same, _, ensures⟩
    exact ⟨afterUniform, same, ensures⟩
  · cases ran
    exact ⟨uniform, ⟨rfl, rfl⟩, .nothing _ _⟩

end Cluster

theorem rotatedPassword_eq_ok {password rotated : Option String} {immediate : Bool}
    (accepted : rotatedPassword password immediate = .ok rotated) :
    rotated = password.filter (fun text => text != "") ∧
      (immediate = true → ∃ secret, rotated = some secret) := by
  unfold rotatedPassword at accepted
  dsimp only at accepted
  split at accepted
  · cases accepted
  · rename_i wanting
    cases accepted
    refine ⟨rfl, ?_⟩
    rintro rfl
    rw [Bool.true_and, Option.isNone_iff_eq_none] at wanting
    exact Option.ne_none_iff_exists'.mp wanting

theorem rotatedPassword_eq_error {password : Option String} {immediate : Bool}
    {violation : Violation} (rejected : rotatedPassword password immediate = .error violation) :
    violation = .missingPassword := by
  unfold rotatedPassword at rejected
  dsimp only at rejected
  split at rejected
  · cases rejected
    rfl
  · cases rejected

/-- In the course of deeds all that is sent has been confirmed, and on each of the connections a
password has been sent. -/
structure Deed.Authenticate (deeds : List Deed) (username : Option String) (password : String)
    (connections : List Connection) : Prop where
  confirmed : ∀ deed ∈ deeds, deed.IsConfirmed
  sent : ∀ connection ∈ connections, ∃ reply, .exchanged connection.identity
    (Wire.encodeCommand (Connection.authentication username password)) reply ∈ deeds

namespace Cluster

variable {terms : Terms} {cluster after : Cluster} {world final : World}
  {password rotated : Option String} {immediate : Bool} {outcome : Except Failure String}

/-- A rotation reaches all pools of a client. If they are authenticated at once and none of it
fails, each connection that is idle afterwards has been authenticated with the new password. -/
theorem IsUniform.dealings_updatePassword (uniform : cluster.IsUniform)
    (accepted : rotatedPassword password immediate = .ok rotated)
    (on : (cluster.setPassword rotated).IsOn terms)
    (agreed : ∀ secret ∈ rotated,
      Connection.authentication cluster.configuration.username secret ∈ terms.commands)
    (ran : (cluster.updatePassword password immediate).run world = ((outcome, after), final)) :
    ∃ deeds, Dealings terms cluster.held world deeds after.held final ∧
      after.IsUniform ∧ after.IsStateOf (cluster.setPassword rotated) ∧
      (immediate = true → ∀ status, outcome = .ok status → ∃ secret, rotated = some secret ∧
        Deed.Authenticate deeds cluster.configuration.username secret (idleOf after.pools)) := by
  have updated := uniform.setPassword rotated
  rw [← held_setPassword cluster rotated]
  cases rotates ran with
  | rejected rejected =>
      rw [accepted] at rejected
      cases rejected
  | stored also =>
      cases accepted.symm.trans also
      exact ⟨[], .nothing _ _, updated, ⟨rfl, rfl⟩, fun impossible => nomatch impossible⟩
  | @authenticated _ between after middle final answer also ensured reauthenticated =>
      cases accepted.symm.trans also
      rcases (rotatedPassword_eq_ok accepted).2 rfl with ⟨secret, rfl⟩
      rcases reauthenticate_cases reauthenticated with ⟨pools, authenticated, rfl⟩
      rcases updated.ensureAnyPool terms ensured with ⟨betweenUniform, same, ensures⟩
      have entryOn : ∀ entry ∈ between.arranged middle.order, entry.2.IsOn terms := by
        intro entry member
        have member := mem_of_mem_arranged member
        rw [Pool.IsOn, betweenUniform.settings entry member, betweenUniform.password entry member]
        exact same.isOn on entry.1
      have passwords : ∀ entry ∈ between.arranged middle.order,
          entry.2.password = some secret :=
        fun entry member =>
          (betweenUniform.password entry (mem_of_mem_arranged member)).trans same.2
      have usernames : ∀ entry ∈ between.arranged middle.order,
          entry.2.settings.connections.username = cluster.configuration.username := by
        intro entry member
        rw [betweenUniform.settings entry (mem_of_mem_arranged member), same.1]
        rfl
      rcases dealings_reauthenticateAll entryOn passwords usernames (agreed secret rfl)
        authenticated 0 with ⟨deeds, authenticates, constant, accepts⟩
      rcases betweenUniform.withPools constant with ⟨afterUniform, sameAfter, idle⟩
      have arranged : (idleOf (between.arranged middle.order)).Perm (idleOf between.pools) :=
        (perm_arranged betweenUniform.distinct middle.order).flatMap_right _
      rw [add_zero, add_zero, ← Multiset.coe_eq_coe.mpr idle,
        Multiset.coe_eq_coe.mpr arranged] at authenticates
      refine ⟨_, ensures.trans authenticates, afterUniform, sameAfter.trans same, ?_⟩
      intro _ status succeeded
      rcases answer with failure | _
      · cases succeeded
      rcases accepts rfl with ⟨confirmed, sent⟩
      exact ⟨secret, rfl, confirmed, fun connection member =>
        sent connection (idle.mem_iff.mp member)⟩

end Cluster

namespace Standalone

variable {terms : Terms} {client after : Standalone} {world final : World}

/-- What is replied to a command is the reply of an exchange. -/
theorem dealings_execute {arguments : List Bytes} {outcome : Except Failure Value}
    (on : client.pool.IsOn terms) (agreed : arguments ∈ terms.commands)
    (ran : (client.execute arguments).run world = ((outcome, after), final)) :
    ∃ deeds, Dealings terms client.pool.idle world deeds after.pool.idle final ∧
      after.pool.IsStateOf client.pool ∧
      ∀ value, outcome = .ok value → ∃ connection,
        .exchanged connection (Wire.encodeCommand arguments) (.ok value) ∈ deeds := by
  cases executes ran with
  | unreached acquires =>
      rcases acquires.dealings_error on 0 with ⟨deeds, acquires, lends⟩
      rw [add_zero, add_zero] at acquires
      exact ⟨deeds, acquires, lends.isStateOf, nofun⟩
  | @reached rest _ lease _ taken answered _ _ acquires exchanged released =>
      rcases acquires.dealings_ok on 0 with ⟨deeds, acquires, lends⟩
      have exchange := (Lease.exchange_cases exchanged).1
      have exchanges : Dealings terms (lease.connection ::ₘ (rest.idle + 0)) taken _ _ answered :=
        (Dealing.exchanged agreed exchange).single
      rcases Pool.comesBack_release released 0 with ⟨more, releases, settles⟩
      have dealings := acquires.trans (exchanges.trans releases)
      rw [add_zero, add_zero] at dealings
      refine ⟨_, dealings, settles.isStateOf.trans lends.isStateOf, ?_⟩
      rintro value rfl
      refine ⟨lease.connection.identity, List.mem_append_right _ (List.mem_append_left _ ?_)⟩
      exact Connection.mem_deeds List.mem_cons_self

theorem dealings_updatePassword {password rotated : Option String} {immediate : Bool}
    {outcome : Except Failure String}
    (accepted : rotatedPassword password immediate = .ok rotated)
    (on : (client.pool.setPassword rotated).IsOn terms)
    (agreed : ∀ secret ∈ rotated, Connection.authentication
      client.pool.settings.connections.username secret ∈ terms.commands)
    (ran : (client.updatePassword password immediate).run world = ((outcome, after), final)) :
    ∃ deeds, Dealings terms client.pool.idle world deeds after.pool.idle final ∧
      after.pool.IsStateOf (client.pool.setPassword rotated) ∧
      (immediate = true → ∀ status, outcome = .ok status → ∃ secret, rotated = some secret ∧
        Deed.Authenticate deeds client.pool.settings.connections.username secret
          after.pool.idle) := by
  unfold Standalone.updatePassword at ran
  rw [accepted] at ran
  dsimp only at ran
  cases immediate with
  | false =>
      rw [if_neg Bool.false_ne_true] at ran
      cases ran
      exact ⟨[], .nothing _ _, ⟨rfl, rfl⟩, fun impossible => nomatch impossible⟩
  | true =>
      rcases (rotatedPassword_eq_ok accepted).2 rfl with ⟨secret, rfl⟩
      rw [if_pos rfl] at ran
      rcases Action.bind_cases ran with ⟨⟨answer, used⟩, last, authenticated, ran⟩
      cases ran
      rcases Pool.dealings_reauthenticate on agreed authenticated 0 with
        ⟨deeds, authenticates, reauthenticates⟩
      rw [add_zero, add_zero] at authenticates
      refine ⟨deeds, authenticates, reauthenticates.isStateOf, ?_⟩
      intro _ status succeeded
      rcases answer with failure | _
      · cases succeeded
      rcases reauthenticates.confirmed_of_ok rfl rfl with ⟨confirmed, sent⟩
      exact ⟨secret, rfl, confirmed, sent⟩

end Standalone

namespace Client

/-- The idle connections of a client. -/
def held (client : Client) : Multiset Connection := idleOf client.pools

theorem held_standalone (client : Standalone) :
    (Client.standalone client).held = client.pool.idle := by
  simp [held, pools, idleOf]

/-- A client that is set up in a certain way and has a certain password. -/
inductive IsOf : Setup → Option String → Client → Prop
  | standalone {configuration : ServerConfiguration} {client : Standalone}
      (settings : client.pool.settings = configuration.poolSettings) :
      IsOf (.server configuration) client.pool.password (.standalone client)
  | cluster {client : Cluster} (uniform : client.IsUniform) :
      IsOf (.cluster client.configuration) client.password (.cluster client)

/-- The terms that a setup and a password make, with the commands that are sent. -/
def Setup.terms (setup : Setup) (password : Option String) (commands : List (List Bytes)) :
    Terms where
  limitsAreAccepted := setup.LimitsAreAccepted
  handshake := password.toList.map (Connection.authentication setup.username) ++
    setup.database.toList.map Connection.selection
  commands := commands

theorem isOf_client {setup : Setup} {client : Client} (created : setup.client = .ok client) :
    client.IsOf setup setup.password ∧ client.held = 0 := by
  cases setup with
  | server configuration =>
      cases created
      have settings : (Standalone.create configuration).pool.settings =
          configuration.poolSettings := rfl
      exact ⟨IsOf.standalone settings, held_standalone _⟩
  | cluster configuration =>
      dsimp only [Setup.client, ofCluster] at created
      rcases new : Cluster.create configuration with violation | cluster
      · rw [new] at created
        cases created
      · rw [new] at created
        cases created
        rcases Cluster.create_eq_ok new with ⟨rfl, samePassword, noPools, _⟩
        have uniform : cluster.IsUniform := by
          constructor <;> simp [noPools]
        have isOf := IsOf.cluster uniform
        rw [samePassword] at isOf
        refine ⟨isOf, ?_⟩
        rw [held, Client.pools, noPools]
        rfl

end Client

end SlotClient
