import SlotClient.Proofs.Client.Credentials
import SlotClient.Proofs.Command.Decoding
import SlotClient.Proofs.Pool.Rest

/-!
# Clients at rest

A client makes one call after the other, and gives each connection back before it asks for the next
one: when it is redirected, before it turns to the other node, and when it authenticates its pools,
before it turns to the next pool. So between calls all its pools are at rest, and since a pool at
rest is not exhausted, no call is refused a connection for that reason.
-/

namespace SlotClient

open Wire (Value)

namespace Client.Setup

/-- The count of idle connections that a pool may keep. -/
def maxIdle : Setup → Nat
  | server configuration => configuration.maxIdle.toNat
  | cluster configuration => configuration.maxIdle.toNat

/-- The count of connections that a pool may have. -/
def maxTotal : Setup → Nat
  | server configuration => configuration.maxTotal.toNat
  | cluster configuration => configuration.maxTotal.toNat

end Client.Setup

theorem Pool.isKept_isResting : Pool.IsKept (fun _ => True) Pool.IsResting where
  created := Pool.isResting_create
  rotated resting password := resting.setPassword password
  reauthenticated resting _ authenticated := by
    rcases Pool.reauthenticates authenticated with ⟨deeds, reauthenticates⟩
    exact ⟨resting.reauthenticates reauthenticates, trivial⟩
  logged _ _ := trivial

/-- What is kept by the rotation of a pool is kept by a rotation of the client. -/
theorem Standalone.keeps_updatePassword {Known : World → Prop}
    {Holds : PoolSettings → Pool → Prop} (kept : Pool.IsKept Known Holds) {settings : PoolSettings}
    {client after : Standalone} {world final : World} (holds : Holds settings client.pool)
    (known : Known world) {requested : Option String} {immediate : Bool}
    {outcome : Except Failure String}
    (ran : (client.updatePassword requested immediate).run world = ((outcome, after), final)) :
    Holds settings after.pool ∧ Known final := by
  unfold Standalone.updatePassword at ran
  rcases rotated : rotatedPassword requested immediate with violation | password
  · rw [rotated] at ran
    cases ran
    exact ⟨holds, known⟩
  · rw [rotated] at ran
    have updated := kept.rotated holds password
    cases immediate with
    | false =>
        cases ran
        exact ⟨updated, known⟩
    | true =>
        rcases Action.bind_cases ran with ⟨⟨answer, pool⟩, last, authenticated, ran⟩
        cases ran
        exact kept.reauthenticated updated known authenticated

/-- A reply that cannot be decoded does not blame the pool. -/
theorem ResultKind.ne_poolExhausted (kind : ResultKind) {reply : Except Failure Value}
    (notExhausted : reply ≠ .error .poolExhausted) :
    reply.bind kind.decode ≠ .error .poolExhausted := by
  rcases reply with failure | value
  · exact fun failed => notExhausted (by cases failed; rfl)
  · intro undecodable
    have exchange := kind.isOnlyOfExchange_decode value _ undecodable
    contradiction

namespace Cluster

variable {cluster after : Cluster} {target : String} {asking : Bool} {arguments : List Bytes}
  {world final : World} {reply : Except Failure Value}

/-- The connection that a command is sent on is back before the command has been answered. -/
theorem Sends.isResting {writes : List (List Bytes × Except Failure Value)}
    (sends : cluster.Sends target asking arguments world writes reply after final)
    (resting : cluster.EachPool Pool.IsResting)
    (admits : 1 ≤ cluster.configuration.maxTotal.toNat) :
    after.EachPool Pool.IsResting ∧ after.configuration = cluster.configuration ∧
      reply ≠ .error .poolExhausted := by
  cases sends with
  | unreached ensured acquires =>
      rcases resting.ensurePool Pool.isResting_create ensured with ⟨poolResting, betweenResting⟩
      have same := (network_ensurePool ensured).1
      rcases acquires.lends with ⟨deeds, lends⟩
      refine ⟨betweenResting.withPool (lends.noneIdle_of_error.2 ▸ poolResting), same, ?_⟩
      rintro ⟨⟩
      rw [same] at poolResting
      exact poolResting.ne_poolExhausted admits lends rfl
  | reached ensured acquires exchanges delivers intact released =>
      rcases resting.ensurePool Pool.isResting_create ensured with ⟨poolResting, betweenResting⟩
      rcases acquires.lends with ⟨deeds, lends⟩
      rcases Pool.settles released with ⟨back, settles⟩
      have returned := (poolResting.lends_ok lends).settles settles
      refine ⟨betweenResting.withPool returned, (network_ensurePool ensured).1, ?_⟩
      rintro rfl
      have exchange := delivers.isOfExchange exchanges.breaksConnection
      contradiction

theorem EachPool.learn {Holds : PoolSettings → Pool → Prop} (holds : cluster.EachPool Holds)
    (target : String) (redirect : Redirect) : (cluster.learn target redirect).EachPool Holds := by
  cases redirect <;> exact holds

/-- However often a command is redirected, and wherever to, only one connection is in use. -/
theorem Follows.isResting {route : Route} {limit : Nat} {visits : List Visit}
    (follows : Follows route arguments limit target asking cluster world visits reply after final)
    (resting : cluster.EachPool Pool.IsResting)
    (admits : 1 ≤ cluster.configuration.maxTotal.toNat) :
    after.EachPool Pool.IsResting ∧ after.configuration = cluster.configuration ∧
      reply ≠ .error .poolExhausted := by
  induction follows with
  | exhausted entry => exact ⟨resting, rfl, nofun⟩
  | answered sends answered => exact sends.isResting resting admits
  | @redirected limit target asking cluster between after world middle final writes reply outcome
      redirect visits sends stated entry rest ih =>
      rcases sends.isResting resting admits with ⟨betweenResting, same, _⟩
      have sameLearned := (isStateOf_learn between target redirect).1.trans same
      have still := ih (betweenResting.learn target redirect) (by rwa [sameLearned])
      rw [sameLearned] at still
      exact still

end Cluster

namespace Client

/-- All pools of a client are at rest. -/
inductive IsResting : Setup → Client → Prop
  | standalone {configuration : ServerConfiguration} {client : Standalone}
      (resting : client.pool.IsResting configuration.poolSettings) :
      IsResting (.server configuration) (.standalone client)
  | cluster {client : Cluster} (resting : client.EachPool Pool.IsResting) :
      IsResting (.cluster client.configuration) (.cluster client)

variable {setup : Setup} {client after : Client} {world final : World}

theorem isResting_client (created : setup.client = .ok client) : client.IsResting setup := by
  cases setup with
  | server configuration =>
      cases created
      exact .standalone (Pool.isResting_create _ _)
  | cluster configuration =>
      dsimp only [Setup.client, ofCluster] at created
      rcases new : Cluster.create configuration with violation | cluster
      · rw [new] at created
        cases created
      · rw [new] at created
        cases created
        rcases Cluster.create_eq_ok new with ⟨rfl, _, noPools, _⟩
        refine .cluster ?_
        rw [Cluster.EachPool, noPools]
        exact List.forall_mem_nil _

theorem IsResting.execute (resting : client.IsResting setup) (admits : 1 ≤ setup.maxTotal)
    {route : Route} {arguments : List Bytes} {reply : Except Failure Value}
    (ran : (Executor.execute client route arguments).run world = ((reply, after), final)) :
    after.IsResting setup ∧ reply ≠ .error .poolExhausted := by
  change (Client.execute client route arguments).run world = _ at ran
  unfold Client.execute at ran
  cases resting with
  | standalone resting =>
      rcases Action.bind_cases ran with ⟨⟨answer, used⟩, last, executed, ran⟩
      cases ran
      cases Standalone.executes executed with
      | unreached acquires =>
          rcases acquires.lends with ⟨deeds, lends⟩
          refine ⟨.standalone (lends.noneIdle_of_error.2 ▸ resting), ?_⟩
          rintro ⟨⟩
          exact resting.ne_poolExhausted admits lends rfl
      | reached acquires exchange released =>
          rcases acquires.lends with ⟨deeds, lends⟩
          rcases Pool.settles released with ⟨back, settles⟩
          refine ⟨.standalone ((resting.lends_ok lends).settles settles), ?_⟩
          rintro rfl
          have cause := Lease.isOfExchange_exchange exchange
          contradiction
  | cluster resting =>
      rcases Action.bind_cases ran with ⟨⟨answer, used⟩, last, executed, ran⟩
      cases ran
      rcases Cluster.follows executed with ⟨visits, follows⟩
      rcases follows.isResting resting admits with ⟨afterResting, same, notExhausted⟩
      have atRest := IsResting.cluster afterResting
      rw [same] at atRest
      exact ⟨atRest, notExhausted⟩

theorem IsResting.run (resting : client.IsResting setup) (admits : 1 ≤ setup.maxTotal)
    {command : Command} {outcome : Except Failure command.Result}
    (ran : (command.run client).run world = ((outcome, after), final)) :
    after.IsResting setup ∧ outcome ≠ .error .poolExhausted := by
  cases dispatched : command.dispatch (Executor.policy client) with
  | error violation =>
      rw [Command.run_of_dispatch_error dispatched] at ran
      cases ran
      exact ⟨resting, nofun⟩
  | ok call =>
      rw [Command.run_of_dispatch_ok dispatched] at ran
      cases ran
      rcases resting.execute admits rfl with ⟨afterResting, notExhausted⟩
      exact ⟨afterResting, command.resultKind.ne_poolExhausted notExhausted⟩

theorem IsResting.updatePassword (resting : client.IsResting setup) {requested : Option String}
    {immediate : Bool} {outcome : Except Failure String}
    (ran : (client.updatePassword requested immediate).run world = ((outcome, after), final)) :
    after.IsResting setup := by
  unfold Client.updatePassword at ran
  cases resting with
  | @standalone configuration client resting =>
      rcases Action.bind_cases ran with ⟨⟨answer, used⟩, last, updated, ran⟩
      cases ran
      exact .standalone (Standalone.keeps_updatePassword Pool.isKept_isResting resting trivial
        updated).1
  | cluster resting =>
      rcases Action.bind_cases ran with ⟨⟨answer, used⟩, last, updated, ran⟩
      cases ran
      rcases resting.updatePassword Pool.isKept_isResting trivial updated with
        ⟨afterResting, same, _⟩
      have atRest := IsResting.cluster afterResting
      rw [same] at atRest
      exact atRest

/-- A pool that is exhausted is no failure of a rotation. -/
theorem ne_poolExhausted_of_updatePassword {requested : Option String} {immediate : Bool}
    {outcome : Except Failure String}
    (ran : (client.updatePassword requested immediate).run world = ((outcome, after), final)) :
    outcome ≠ .error .poolExhausted := by
  rintro rfl
  rcases rotated : rotatedPassword requested immediate with violation | password
  · rw [updatePassword_of_rejected rotated] at ran
    cases ran
  · rcases failure_of_updatePassword rotated ran with exchange | ⟨address, unknown⟩
    · cases exchange
    · cases unknown

/-- After a call all pools are at rest again, and none of them was exhausted. -/
theorem IsResting.call (resting : client.IsResting setup) (admits : 1 ≤ setup.maxTotal)
    {call : Call} {result : Except Failure call.Result}
    (ran : (call.run client).run world = ((result, after), final)) :
    after.IsResting setup ∧ result ≠ .error .poolExhausted := by
  cases call with
  | perform command => exact resting.run admits ran
  | updatePassword requested immediate =>
      exact ⟨resting.updatePassword ran, ne_poolExhausted_of_updatePassword ran⟩
  | resetPassword => exact ⟨resting.updatePassword ran, ne_poolExhausted_of_updatePassword ran⟩

theorem IsResting.answer (resting : client.IsResting setup) (admits : 1 ≤ setup.maxTotal)
    {calls : List Call} {turns : List Turn}
    (ran : (client.answer calls).run world = ((turns, after), final)) :
    after.IsResting setup ∧ ∀ turn ∈ turns, turn.result ≠ .error .poolExhausted := by
  induction calls generalizing client world turns with
  | nil =>
      cases ran
      exact ⟨resting, List.forall_mem_nil _⟩
  | cons call calls ih =>
      rcases Action.bind_cases ran with ⟨⟨result, between⟩, middle, called, ran⟩
      rcases Action.bind_cases ran with ⟨⟨rest, last⟩, later, answered, ran⟩
      cases ran
      rcases resting.call admits called with ⟨betweenResting, notExhausted⟩
      rcases ih betweenResting answered with ⟨afterResting, others⟩
      exact ⟨afterResting, List.forall_mem_cons.mpr ⟨notExhausted, others⟩⟩

theorem IsResting.counts (resting : client.IsResting setup) :
    ∀ entry ∈ client.pools, entry.2.total = entry.2.idle.length ∧
      entry.2.idle.length ≤ min 1 setup.maxIdle := by
  cases resting with
  | standalone resting =>
      exact List.forall_mem_singleton.mpr ⟨resting.total_eq, resting.idle_le⟩
  | cluster resting =>
      exact fun entry member => ⟨(resting entry member).total_eq, (resting entry member).idle_le⟩

/-- A client that makes one call after the other never exhausts a pool that may have a connection.
However it is set up with room for one connection, on whatever network, whatever commands it is
asked for, however often it is redirected, even back to where it has just been, and however often
its password is replaced: between calls each pool has just the connections that are idle, at most
one, and none if none may be idle; and no call fails because a pool is exhausted. -/
theorem answer_never_exhausts (setup : Setup) (client : Client)
    (created : setup.client = .ok client) (admits : 1 ≤ setup.maxTotal) (world : World)
    (calls : List Call) :
    let ran := (client.answer calls).run world
    (∀ entry ∈ ran.1.2.pools, entry.2.total = entry.2.idle.length ∧
      entry.2.idle.length ≤ min 1 setup.maxIdle) ∧
    ∀ turn ∈ ran.1.1, turn.result ≠ .error .poolExhausted := by
  intro ran
  have answered : (client.answer calls).run world = ((ran.1.1, ran.1.2), ran.2) := rfl
  rcases (isResting_client created).answer admits answered with ⟨resting, notExhausted⟩
  exact ⟨resting.counts, notExhausted⟩

/-- A client of a cluster that may have one connection to each node. The seed answers a ping by a
redirect to itself, and then the password is replaced. -/
theorem answer_never_exhausts_redirected :
    ∃ client world, Setup.client (.cluster { nodes := ["1.2.3.4:5"], maxTotal := 1 }) =
        .ok client ∧
      let ran := (client.answer [.perform (.ping none), .updatePassword (some "b") true]).run world
      ran.1.2.pools.map (fun entry => entry.2.total) = [1] ∧
      (∀ entry ∈ ran.1.2.pools, entry.2.total = entry.2.idle.length) ∧
      ∀ turn ∈ ran.1.1, turn.result ≠ .error .poolExhausted := by
  let world : World := { nodes := [("1.2.3.4:5", ⟨[], [
    .data [45, 65, 83, 75, 32, 49, 32, 58, 53, 13, 10] none, .data [43, 79, 75, 13, 10] none,
    .data [43, 80, 79, 78, 71, 13, 10] none, .data [43, 79, 75, 13, 10] none], 0⟩)] }
  have admits : 1 ≤ Setup.maxTotal (.cluster { nodes := ["1.2.3.4:5"], maxTotal := 1 }) := by
    decide
  refine ⟨_, world, rfl, by decide +kernel, ?_⟩
  have never := answer_never_exhausts _ _ rfl admits world
    [.perform (.ping none), .updatePassword (some "b") true]
  exact ⟨fun entry member => (never.1 entry member).1, never.2⟩

end Client

end SlotClient
