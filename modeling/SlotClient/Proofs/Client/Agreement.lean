import SlotClient.Proofs.Client.Credentials
import SlotClient.Proofs.Client.Disguise

/-!
# Clients of clusters that do not redirect

As long as no node redirects it, a client of a cluster has to do with its first seed alone, and does
there what a client of a single server does. The one makes its pool when it is first needed and the
other has it from the beginning; in between there is nothing in the pool, and its password is in the
client. So at any time the one client mirrors the other, and whatever both are asked for, they do
the same to the network and have the same result.
-/

namespace SlotClient

open Wire (Value)

namespace Cluster

/-- The client with a pool for its seed and no other. -/
def withSeedPool (cluster : Cluster) (pool : Pool) : Cluster :=
  { cluster with pools := [(cluster.seed, pool)] }

/-- A client of a cluster mirrors a client of a single server. It knows no owner of a slot, and its
only pool is in the same state, or it has none yet and would make it as it is. -/
structure Mirrors (cluster : Cluster) (server : Standalone) : Prop where
  slots : cluster.slots = {}
  pools : cluster = cluster.withSeedPool server.pool ∨
    cluster.pools = [] ∧ server.pool =
      Pool.create (cluster.configuration.poolSettings cluster.seed) cluster.password

variable {cluster : Cluster} {server : Standalone} {world other : World}

theorem Mirrors.withSeedPool (mirrors : cluster.Mirrors server) (after : Standalone) :
    (cluster.withSeedPool after.pool).Mirrors after :=
  ⟨mirrors.slots, Or.inl rfl⟩

theorem Mirrors.ensurePool (mirrors : cluster.Mirrors server) (world : World) :
    ∃ start, (cluster.ensurePool cluster.seed).run world =
        ((server.pool, cluster.withSeedPool server.pool), start) ∧
      start.network = world.network := by
  rcases mirrors.pools with present | ⟨missing, new⟩
  · have found : cluster.pools.lookup cluster.seed = some server.pool := by
      rw [present]
      exact List.lookup_cons_self
    refine ⟨world, ?_, rfl⟩
    rw [Cluster.ensurePool, found, ← present]
    rfl
  · refine ⟨world.logged (.poolCreated cluster.seed), ?_, rfl⟩
    rw [Cluster.ensurePool, missing, new]
    rfl

theorem withPool_withSeedPool (cluster : Cluster) (pool replacement : Pool) :
    (cluster.withSeedPool pool).withPool cluster.seed replacement =
      cluster.withSeedPool replacement := by
  simp [withPool, withSeedPool]

theorem firstTarget_of_slots (unmoved : cluster.slots = {}) (route : Route) :
    cluster.firstTarget route = cluster.seed := by
  cases route with
  | anywhere => rfl
  | slot number =>
      rw [firstTarget, unmoved]
      rfl

/-- What is sent to the seed is what the other client sends. -/
theorem Mirrors.send (mirrors : cluster.Mirrors server) (arguments : List Bytes) (world : World) :
    ∃ start, start.network = world.network ∧
      (cluster.send cluster.seed false arguments).run world =
        let ran := (server.execute arguments).run start
        ((ran.1.1, cluster.withSeedPool ran.1.2.pool), ran.2) := by
  rcases mirrors.ensurePool world with ⟨start, ensured, unchanged⟩
  refine ⟨start, unchanged, ?_⟩
  rw [Cluster.send, Action.run_bind, ensured]
  dsimp only
  rw [Action.run_bind, Standalone.execute, Action.run_bind]
  rcases server.pool.acquire.run start with ⟨⟨failure | lease, rest⟩, taken⟩
  · dsimp only
    rw [withPool_withSeedPool]
    rfl
  · dsimp only
    simp only [Action.run_bind, withPool_withSeedPool]
    rfl

end Cluster

namespace Standalone

variable {client : Standalone}

/-- Where what is sent is seen, clients that resemble each other are equal. -/
theorem Resemble.eq {twin : Standalone} (resemble : client.Resemble .network twin) :
    twin = client :=
  congrArg mk (Pool.Resemble.eq resemble)

theorem eq_of_alikeAfter {Result : Type} (first second : Result × Standalone)
    (alike : Action.AlikeAfter (Resemble .network) first second) : first = second :=
  Prod.ext alike.1.symm alike.2.eq.symm

theorem ignoresLog_execute (client : Standalone) (arguments : List Bytes) :
    (client.execute arguments).IgnoresLog :=
  ((agree_execute (Pool.Resemble.refl _) (.refl arguments)).mono eq_of_alikeAfter).ignoresLog

theorem ignoresLog_updatePassword (client : Standalone) (password : Option String)
    (immediate : Bool) : (client.updatePassword password immediate).IgnoresLog := by
  have alike : client.Resemble .network client := Pool.Resemble.refl client.pool
  have agree := agree_updatePassword alike immediate (.refl (password.filter (· != "")))
  exact (agree.mono eq_of_alikeAfter).ignoresLog

end Standalone

namespace Cluster

variable {cluster : Cluster} {server : Standalone}

/-- A command that is not redirected is executed as the other client executes it. -/
theorem Mirrors.execute (mirrors : cluster.Mirrors server) (route : Route) (arguments : List Bytes)
    (world : World) :
    ∃ start, start.network = world.network ∧
      let ran := (server.execute arguments).run start
      (redirect? ran.1.1 = none → (cluster.execute route arguments).run world =
        ((ran.1.1, cluster.withSeedPool ran.1.2.pool), ran.2)) := by
  rcases mirrors.send arguments world with ⟨start, unchanged, sent⟩
  refine ⟨start, unchanged, ?_⟩
  intro ran answered
  rw [Cluster.execute, firstTarget_of_slots mirrors.slots, follow, Action.run_bind, sent]
  dsimp only
  rw [answered]
  rfl

theorem Mirrors.setPassword (mirrors : cluster.Mirrors server) (password : Option String) :
    (cluster.setPassword password).Mirrors ⟨server.pool.setPassword password⟩ := by
  refine ⟨mirrors.slots, ?_⟩
  rcases mirrors.pools with present | ⟨missing, new⟩
  · left
    rw [present]
    rfl
  · right
    rw [Cluster.setPassword, missing, new]
    exact ⟨rfl, rfl⟩

theorem Mirrors.ensureAnyPool (mirrors : cluster.Mirrors server) (world : World) :
    ∃ start, start.network = world.network ∧
      cluster.ensureAnyPool.run world = (cluster.withSeedPool server.pool, start) := by
  rcases mirrors.ensurePool world with ⟨start, ensured, unchanged⟩
  rcases mirrors.pools with present | ⟨missing, _⟩
  · refine ⟨world, rfl, ?_⟩
    rw [present]
    rfl
  · refine ⟨start, unchanged, ?_⟩
    rw [Cluster.ensureAnyPool, missing, List.isEmpty_nil, if_pos rfl, Action.run_bind, ensured]
    rfl

theorem run_reauthenticateAll_single (address : String) (pool : Pool) (world : World) :
    (reauthenticateAll [(address, pool)]).run world =
      let ran := pool.reauthenticate.run world
      ((ran.1.1, [(address, ran.1.2)]), ran.2) := by
  rw [reauthenticateAll, Action.run_bind]
  rcases pool.reauthenticate.run world with ⟨⟨failure | _, after⟩, final⟩ <;> rfl

/-- The connections of a single pool are authenticated as those of the pool alone. -/
theorem run_reauthenticate_withSeedPool (cluster : Cluster) (pool : Pool) (world : World) :
    (cluster.withSeedPool pool).reauthenticate.run world =
      let ran := pool.reauthenticate.run world
      ((ran.1.1, cluster.withSeedPool ran.1.2), ran.2) := by
  have single := (cluster.withSeedPool pool).arranged_of_single rfl world.order
  have inOrder : (cluster.withSeedPool pool).reauthenticate.run world =
      ((cluster.withSeedPool pool).reauthenticateIn world.order).run world := rfl
  have putBack (after : Pool) :
      (cluster.withSeedPool pool).withPools [(cluster.seed, after)] = cluster.withSeedPool after :=
    cluster.withPool_withSeedPool pool after
  rw [inOrder, reauthenticateIn, Action.run_bind, single, run_reauthenticateAll_single]
  dsimp only
  rw [putBack]
  rfl

/-- A rotation is made as the other client makes it. -/
theorem Mirrors.updatePassword (mirrors : cluster.Mirrors server) (password : Option String)
    (immediate : Bool) (world : World) :
    ∃ start, start.network = world.network ∧
      let ran := (server.updatePassword password immediate).run start
      let updated := (cluster.updatePassword password immediate).run world
      updated.1.1 = ran.1.1 ∧ updated.1.2.Mirrors ran.1.2 ∧ updated.2 = ran.2 := by
  rw [Cluster.updatePassword, Standalone.updatePassword]
  rcases rotatedPassword password immediate with violation | rotated
  · exact ⟨world, rfl, rfl, mirrors, rfl⟩
  have updated := mirrors.setPassword rotated
  cases immediate with
  | false => exact ⟨world, rfl, rfl, updated, rfl⟩
  | true =>
      rcases updated.ensureAnyPool world with ⟨start, unchanged, ensured⟩
      refine ⟨start, unchanged, ?_⟩
      dsimp only
      rw [if_pos rfl, if_pos rfl, Action.run_bind, ensured, Action.run_bind]
      rw [run_reauthenticate_withSeedPool, Action.run_bind]
      exact ⟨rfl, updated.withSeedPool ⟨_⟩, rfl⟩

end Cluster

/-- Whether a deed is the sending of a command of the store, which the reply redirects. -/
def Deed.IsRedirected (deed : Deed) : Prop :=
  ∃ (command : Command) (arguments : List Bytes) (connection : String × Nat)
    (reply : Except Failure Value), command.arguments = .ok arguments ∧
      deed = .exchanged connection (Wire.encodeCommand arguments) reply ∧
      (Cluster.redirect? reply).isSome = true

/-- The redirect in the reply to a deed, whatever was sent. -/
def Deed.redirect? : Deed → Option Redirect
  | exchanged _ _ reply => Cluster.redirect? reply
  | opened _ | closed _ => none

theorem Deed.isSome_redirect? {deed : Deed} (redirected : deed.IsRedirected) :
    deed.redirect?.isSome = true := by
  rcases redirected with ⟨_, _, _, _, _, rfl, found⟩
  exact found

namespace Client

/-- A client of a cluster mirrors a client of a single server. -/
inductive Mirrors : Client → Client → Prop
  | ofCluster {cluster : Cluster} {server : Standalone} (mirrors : cluster.Mirrors server) :
      Mirrors (.cluster cluster) (.standalone server)

/-- Two clients have made the same of something: the results are equal, the network is the same, and
the one client mirrors the other. -/
structure Agree {Result : Type} (clustered alone : (Result × Client) × World) : Prop where
  result : clustered.1.1 = alone.1.1
  client : clustered.1.2.Mirrors alone.1.2
  network : clustered.2.network = alone.2.network

variable {cluster : Cluster} {server : Standalone} {client alone : Client}
  {origin world other final : World} {turns : List Turn}

theorem Mirrors.statistics_eq (mirrors : client.Mirrors alone) :
    client.totalConnections = alone.totalConnections ∧
      client.idleConnections = alone.idleConnections := by
  rcases mirrors with ⟨mirrors⟩
  rcases mirrors.pools with present | ⟨missing, new⟩
  · rw [present]
    simp [totalConnections, idleConnections, statistics, Cluster.statistics, Cluster.withSeedPool,
      Standalone.statistics]
  · simp [totalConnections, idleConnections, statistics, Cluster.statistics, missing,
      Standalone.statistics, Pool.statistics, new, Pool.create]

theorem agree_updatePassword (mirrors : cluster.Mirrors server)
    (same : other.network = world.network) (password : Option String) (immediate : Bool) :
    Agree ((Client.updatePassword (.cluster cluster) password immediate).run other)
      ((Client.updatePassword (.standalone server) password immediate).run world) := by
  rcases mirrors.updatePassword password immediate other with
    ⟨start, unchanged, result, client, network⟩
  rcases server.ignoresLog_updatePassword password immediate (unchanged.trans same) with
    ⟨sameResult, sameNetwork⟩
  refine ⟨?_, ?_, ?_⟩
  · exact result.trans (congrArg Prod.fst sameResult)
  · rw [sameResult] at client
    exact .ofCluster client
  · exact (congrArg World.network network).trans sameNetwork

theorem agree_execute (mirrors : cluster.Mirrors server) (same : other.network = world.network)
    {arguments : List Bytes}
    (answered : Cluster.redirect? ((server.execute arguments).run world).1.1 = none)
    (route direct : Route) :
    Agree ((Executor.execute (Client.cluster cluster) route arguments).run other)
      ((Executor.execute (Client.standalone server) direct arguments).run world) := by
  rcases mirrors.execute route arguments other with ⟨start, unchanged, executed⟩
  rcases server.ignoresLog_execute arguments (unchanged.trans same) with ⟨sameResult, sameNetwork⟩
  rw [← sameResult] at answered
  have executed := executed answered
  have ran : (Executor.execute (Client.cluster cluster) route arguments).run other =
      let ran := (cluster.execute route arguments).run other
      ((ran.1.1, .cluster ran.1.2), ran.2) := rfl
  rw [ran, executed]
  have sameReply := congrArg Prod.fst sameResult
  refine ⟨sameReply, ?_, sameNetwork⟩
  refine .ofCluster ?_
  dsimp only
  rw [sameResult]
  exact mirrors.withSeedPool ⟨_⟩

/-- If no command in the history is redirected, then this one, which is in it, is not. -/
theorem IsFollowed.redirect?_eq_none {setup : Setup} {command : Command} {arguments : List Bytes}
    {route : Route} {reply : Except Failure Value} {after : Standalone}
    (followed : IsFollowed setup origin turns (.standalone server) world)
    (acceptable : command.arguments = .ok arguments)
    (ran : (server.execute arguments).run (command.noted route world) = ((reply, after), final))
    (unredirected : ∀ deed ∈ origin.history final, ¬deed.IsRedirected) :
    Cluster.redirect? reply = none := by
  rcases reply with failure | value
  · rfl
  rw [← Option.not_isSome_iff_eq_none]
  intro redirected
  let terms : Terms := ⟨server.pool.settings.connections.LimitsAreAccepted,
    server.pool.settings.connections.handshake server.pool.password, [arguments]⟩
  have on : server.pool.IsOn terms := ⟨Iff.rfl, rfl⟩
  rcases Standalone.dealings_execute on (List.mem_singleton_self _) ran with
    ⟨deeds, dealings, _, exchanged⟩
  rcases exchanged value rfl with ⟨connection, member⟩
  have tracked := followed.tracked
  rw [held_standalone] at tracked
  have noted : Dealings terms server.pool.idle world [] _ _ := command.dealings_noted route _ _
  have history := ((noted.trans dealings).isTracked tracked).history
  refine unredirected _ ?_ ⟨command, arguments, connection, .ok value, acceptable, rfl, redirected⟩
  rw [history]
  exact List.mem_append_right _ (List.mem_append_right _ member)

/-- A command whose keys share a slot is run alike if no reply redirects it. -/
theorem agree_run {setup : Setup} {command : Command} (mirrors : cluster.Mirrors server)
    (same : other.network = world.network)
    (followed : IsFollowed setup origin turns (.standalone server) world)
    (shared : Slot.AreShared (command.keys?.getD []))
    (unredirected : ∀ deed ∈ origin.history ((command.run (Client.standalone server)).run world).2,
      ¬deed.IsRedirected) :
    Agree ((command.run (Client.cluster cluster)).run other)
      ((command.run (Client.standalone server)).run world) := by
  rcases RoutingPolicy.route_bySlot_isOk_iff.mpr shared with ⟨route, routed⟩
  rw [← Command.route_bySlot] at routed
  have bySlot : command.dispatch (Executor.policy (Client.cluster cluster)) = _ :=
    Command.dispatch_of_route routed
  have anywhere : command.dispatch (Executor.policy (Client.standalone server)) = _ :=
    Command.dispatch_of_route command.route_singleServer
  cases acceptable : command.arguments with
  | error violation =>
      rw [acceptable] at bySlot anywhere
      rw [Command.run_of_dispatch_error bySlot, Command.run_of_dispatch_error anywhere]
      exact ⟨rfl, .ofCluster mirrors, same⟩
  | ok arguments =>
      rw [acceptable] at bySlot anywhere
      rw [Command.run_of_dispatch_ok anywhere] at unredirected
      rw [Command.run_of_dispatch_ok bySlot, Command.run_of_dispatch_ok anywhere]
      have answered := followed.redirect?_eq_none acceptable rfl unredirected
      have noted : (command.noted route other).network = (command.noted .anywhere world).network :=
        (command.network_noted route other).trans
          (same.trans (command.network_noted .anywhere world).symm)
      have executed := agree_execute mirrors noted answered route .anywhere
      refine ⟨?_, executed.client, executed.network⟩
      dsimp only
      rw [executed.result]

/-- One call is answered alike. -/
theorem agree_call {setup : Setup} {call : Call} (mirrors : cluster.Mirrors server)
    (same : other.network = world.network)
    (followed : IsFollowed setup origin turns (.standalone server) world)
    (shared : ∀ command, call = .perform command → Slot.AreShared (command.keys?.getD []))
    (unredirected : ∀ deed ∈ origin.history ((call.run (.standalone server)).run world).2,
      ¬deed.IsRedirected) :
    Agree ((call.run (.cluster cluster)).run other)
      ((call.run (.standalone server)).run world) := by
  cases call with
  | perform command => exact agree_run mirrors same followed (shared command rfl) unredirected
  | updatePassword password immediate => exact agree_updatePassword mirrors same password immediate
  | resetPassword => exact agree_updatePassword mirrors same none false

/-- Calls are answered alike, one after the other. -/
theorem agree_answer {setup : Setup} {calls : List Call} (mirrors : cluster.Mirrors server)
    (same : other.network = world.network)
    (followed : IsFollowed setup origin turns (.standalone server) world)
    (shared : ∀ command, .perform command ∈ calls → Slot.AreShared (command.keys?.getD []))
    (unredirected : ∀ deed ∈ origin.history (((Client.standalone server).answer calls).run world).2,
      ¬deed.IsRedirected) :
    Agree (((Client.cluster cluster).answer calls).run other)
      (((Client.standalone server).answer calls).run world) := by
  induction calls generalizing cluster server world other turns with
  | nil => exact ⟨rfl, .ofCluster mirrors, same⟩
  | cons call calls ih =>
      have sharedFirst (command : Command) (isFirst : call = .perform command) :
          Slot.AreShared (command.keys?.getD []) := shared command (by rw [isFirst]; simp)
      have sharedRest (command : Command) (member : .perform command ∈ calls) :
          Slot.AreShared (command.keys?.getD []) := shared command (List.mem_cons_of_mem _ member)
      rw [run_answer_cons] at unredirected ⊢
      rw [run_answer_cons]
      have called := agree_call mirrors same followed sharedFirst
      rcases ranAlone : (call.run (.standalone server)).run world with ⟨⟨result, between⟩, middle⟩
      rcases ran : (call.run (.cluster cluster)).run other with ⟨⟨answer, used⟩, later⟩
      rw [ranAlone] at unredirected called
      rw [ran] at called
      have next := (followed.call ranAlone).1
      -- What the first call does stays in the history, so no command in it is redirected.
      have grown : origin.history middle <+: origin.history ((between.answer calls).run middle).2 :=
        (next.answer rfl).2
      rcases called fun deed member => unredirected deed (grown.subset member) with
        ⟨sameResult, mirrorsNext, sameNetwork⟩
      dsimp only at sameResult mirrorsNext sameNetwork unredirected ⊢
      subst sameResult
      cases mirrorsNext with
      | ofCluster mirrorsNext =>
          have rest := ih mirrorsNext sameNetwork next sharedRest unredirected
          exact ⟨congrArg (_ :: ·) rest.result, rest.client, rest.network⟩

end Client

/-- A configuration of a client of a cluster is like one of a client of a single server that selects
no database: the first seed is the server, and limits and credentials are the same. -/
structure ClusterConfiguration.IsLike (cluster : ClusterConfiguration)
    (server : ServerConfiguration) : Prop where
  seed : cluster.nodes.head? = some server.address
  database : server.database = none
  maxIdle : cluster.maxIdle = server.maxIdle
  maxTotal : cluster.maxTotal = server.maxTotal
  readTimeout : cluster.readTimeout = server.readTimeout
  writeTimeout : cluster.writeTimeout = server.writeTimeout
  connectTimeout : cluster.connectTimeout = server.connectTimeout
  username : cluster.username = server.username
  password : cluster.password = server.password

namespace Client

theorem mirrors_create {cluster : ClusterConfiguration} {server : ServerConfiguration}
    (alike : cluster.IsLike server) :
    ∃ client, Cluster.create cluster = .ok client ∧ client.Mirrors (.create server) := by
  have hasSeed : cluster.nodes ≠ [] := by
    intro empty
    have seed := alike.seed
    rw [empty] at seed
    cases seed
  refine ⟨{ configuration := cluster, password := cluster.password, hasSeed }, dif_pos hasSeed, rfl,
    Or.inr ⟨rfl, ?_⟩⟩
  have seed : cluster.nodes.head hasSeed = server.address := by
    rw [← Option.some_inj, ← List.head?_eq_some_head, alike.seed]
  simp [Standalone.create, Pool.create, ServerConfiguration.poolSettings,
    ClusterConfiguration.poolSettings, Cluster.seed, seed, alike.database, alike.maxIdle,
    alike.maxTotal, alike.readTimeout, alike.writeTimeout, alike.connectTimeout, alike.username,
    alike.password]

/-- On a cluster that does not redirect both kinds of clients do the same. Let a client of a cluster
be set up like a client of a single server without a database, with any limit for redirects. On
whatever network, let both be asked for the same, one call after the other, where the keys of each
command share a slot, and let no reply to a command redirect it. Then after each call the results so
far, values and failures, are the same, so are the events on the network, and so are the counts of
connections that are open and of those that are idle. -/
theorem agree_without_redirects {cluster : ClusterConfiguration} {server : ServerConfiguration}
    (alike : cluster.IsLike server) (world : World) (calls : List Call)
    (shared : ∀ command, .perform command ∈ calls → Slot.AreShared (command.keys?.getD []))
    (unredirected : ∀ deed ∈ world.history (((ofServer server).answer calls).run world).2,
      ¬deed.IsRedirected) :
    ∃ client, ofCluster cluster = .ok client ∧ ∀ made, made <+: calls →
      let clustered := (client.answer made).run world
      let alone := ((ofServer server).answer made).run world
      clustered.1.1 = alone.1.1 ∧ clustered.2.events = alone.2.events ∧
        clustered.1.2.totalConnections = alone.1.2.totalConnections ∧
        clustered.1.2.idleConnections = alone.1.2.idleConnections := by
  rcases mirrors_create alike with ⟨client, created, mirrors⟩
  refine ⟨.cluster client, by rw [ofCluster, created]; rfl, ?_⟩
  rintro made ⟨later, rfl⟩ clustered alone
  have sharedMade (command : Command) (member : .perform command ∈ made) :
      Slot.AreShared (command.keys?.getD []) := shared command (List.mem_append_left _ member)
  have started : IsFollowed (.server server) world [] (ofServer server) world :=
    isFollowed_client rfl world
  have followed : IsFollowed (.server server) world ([] ++ alone.1.1) alone.1.2 alone.2 :=
    (started.answer rfl).1
  have grown : world.history alone.2 <+: world.history ((alone.1.2.answer later).run alone.2).2 :=
    (followed.answer rfl).2
  rw [run_answer_append] at unredirected
  have agree := agree_answer mirrors rfl started sharedMade
    fun deed member => unredirected deed (grown.subset member)
  exact ⟨agree.result, World.events_of_network agree.network, agree.client.statistics_eq⟩

/-- Both clients authenticate before anything else with a password that they were not set up with,
ask for two keys with the same tag, which is refused, clear the password, and ping. -/
theorem agree_without_redirects_rotated :
    let cluster : ClusterConfiguration := { nodes := ["1.2.3.4:5", "1.2.3.4:6"], maxRedirects := 0 }
    let server : ServerConfiguration := { address := "1.2.3.4:5", maxIdle := 4, maxTotal := 8 }
    let world : World := { nodes := [("1.2.3.4:5", ⟨[], [
      .data [43, 79, 75, 13, 10] none, .data [45, 69, 13, 10] none,
      .data [43, 80, 79, 78, 71, 13, 10] none], 0⟩)] }
    let calls : List Call := [.updatePassword (some "b") true,
      .perform (.mget [[123, 97, 125, 49], [123, 97, 125, 50]]), .resetPassword,
      .perform (.ping none)]
    let alone := ((ofServer server).answer calls).run world
    (∀ deed ∈ world.history alone.2, ¬deed.IsRedirected) ∧ alone.1.2.idleConnections = 1 ∧
      ∃ client, ofCluster cluster = .ok client ∧
        ((client.answer calls).run world).2.events = alone.2.events ∧
        ((client.answer calls).run world).1.2.idleConnections = 1 := by
  intro cluster server world calls alone
  have alike : cluster.IsLike server := by constructor <;> rfl
  have shared (command : Command) (member : .perform command ∈ calls) :
      Slot.AreShared (command.keys?.getD []) := by
    simp only [calls, List.mem_cons, reduceCtorEq, Call.perform.injEq, List.not_mem_nil, false_or,
      or_false] at member
    rcases member with rfl | rfl
    · exact ⟨15495, by decide +kernel⟩
    · exact ⟨0, List.forall_mem_nil _⟩
  have unredirected : ∀ deed ∈ world.history alone.2, ¬deed.IsRedirected := by
    have none : ∀ deed ∈ world.history alone.2, ¬deed.redirect?.isSome = true := by
      decide +kernel
    exact fun deed member redirected => none deed member (Deed.isSome_redirect? redirected)
  have idle : alone.1.2.idleConnections = 1 := by decide +kernel
  rcases agree_without_redirects alike world calls shared unredirected with
    ⟨client, created, agree⟩
  rcases agree calls (List.prefix_refl _) with ⟨_, events, _, sameIdle⟩
  exact ⟨unredirected, idle, client, created, events, sameIdle.trans idle⟩

end Client

end SlotClient
