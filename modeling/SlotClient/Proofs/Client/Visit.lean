import SlotClient.Client.Cluster
import SlotClient.Proofs.Pool.Location

/-!
# Visits of nodes

A visit is the sending of a command to one node of a cluster: a connection to the node is taken from
its pool or made, the command is announced on it if it has to be and then sent, and the connection
goes back. If the connection is not to be had, or the announcement is not confirmed, the command is
not sent.
-/

namespace SlotClient

open Lending (Steps)
open Wire (Value)

/-- The address that a redirect leads to from the node that answered with it. -/
def Redirect.destination (redirect : Redirect) (current : String) : String :=
  match redirect with
  | moved _ address | ask _ address => Redirect.target current address

/-- Whether a command is to be announced where a redirect leads. -/
def Redirect.isAsk : Redirect → Bool
  | moved _ _ => false
  | ask _ _ => true

/-- The command by which another one is announced. -/
def askingArguments : List Bytes := [Bytes.ofText "ASKING"]

/-- What is sent on a connection to deliver a command, with the replies, and the reply that results
from it. -/
inductive Delivers (arguments : List Bytes) :
    Bool → List (List Bytes × Except Failure Value) → Except Failure Value → Prop
  | plain (reply : Except Failure Value) : Delivers arguments false [(arguments, reply)] reply
  | announced (text : Bytes) (reply : Except Failure Value) :
      Delivers arguments true
        [(askingArguments, .ok (.simple text)), (arguments, reply)] reply
  | unannounced {answer : Except Failure Value} {failure : Failure}
      (refused : Connection.Refuses answer failure) :
      Delivers arguments true [(askingArguments, answer)] (.error failure)

variable {world final : World} {arguments : List Bytes} {asking : Bool}
  {reply : Except Failure Value}

theorem Lease.delivers {lease used : Lease}
    (ran : (lease.deliver asking arguments).run world = ((reply, used), final)) :
    ∃ writes, Connection.Exchanges lease.connection world writes used.connection final ∧
      Delivers arguments asking writes reply ∧
      used.isIntact =
        (lease.isIntact && writes.all fun write => Failure.sparesConnection write.2) := by
  unfold deliver at ran
  cases asking with
  | false =>
      rw [if_neg Bool.false_ne_true] at ran
      rcases exchange_cases ran with ⟨exchange, intact⟩
      refine ⟨_, .single exchange, .plain reply, ?_⟩
      rw [intact, List.all_cons, List.all_nil, Bool.and_true]
  | true =>
      rw [if_pos rfl] at ran
      rcases Action.bind_cases ran with ⟨⟨answer, asked⟩, middle, announced, ran⟩
      rcases exchange_cases announced with ⟨announcement, intact⟩
      rcases confirmed : answer.bind Connection.confirmation with failure | accepted
      · simp only [confirmed] at ran
        cases ran
        refine ⟨_, .single announcement,
          .unannounced (Connection.refuses_of_confirmation confirmed), ?_⟩
        rw [intact, List.all_cons, List.all_nil, Bool.and_true]
      · simp only [confirmed] at ran
        rcases exchange_cases ran with ⟨exchange, stillIntact⟩
        rcases Connection.simple_of_confirmation confirmed with ⟨text, rfl⟩
        refine ⟨_, (Connection.Exchanges.single announcement).trans (.single exchange),
          .announced text reply, ?_⟩
        rw [stillIntact, intact]
        simp only [List.cons_append, List.nil_append, List.all_cons, List.all_nil, Bool.and_true,
          Bool.and_assoc]

/-- What a failing delivery fails with is a failure of an exchange. -/
theorem Delivers.isOfExchange {writes : List (List Bytes × Except Failure Value)}
    {failure : Failure} (delivers : Delivers arguments asking writes (.error failure))
    (breaks : ∀ write ∈ writes, ∀ cause, write.2 = .error cause →
      cause.breaksConnection = true) : failure.isOfExchange = true := by
  cases delivers with
  | plain reply =>
      have cause := breaks _ List.mem_cons_self failure rfl
      exact Failure.isOfExchange_of_breaksConnection cause
  | announced text reply =>
      have cause := breaks _ (List.mem_cons_of_mem _ List.mem_cons_self) failure rfl
      exact Failure.isOfExchange_of_breaksConnection cause
  | unannounced refused =>
      exact refused.isOfExchange (breaks _ List.mem_cons_self)

/-- Nothing is sent to deliver a command but the command and its announcement. -/
theorem Delivers.mem {writes : List (List Bytes × Except Failure Value)}
    {commands : List (List Bytes)} (delivers : Delivers arguments asking writes reply)
    (sent : arguments ∈ commands) (announced : askingArguments ∈ commands) :
    ∀ write ∈ writes, write.1 ∈ commands := by
  cases delivers with
  | plain reply => exact List.forall_mem_singleton.mpr sent
  | announced text reply =>
      exact List.forall_mem_cons.mpr ⟨announced, List.forall_mem_singleton.mpr sent⟩
  | unannounced refused => exact List.forall_mem_singleton.mpr announced

namespace Pool

variable {pool rest : Pool} {lease used : Lease} {taken answered : World}
  {writes : List (List Bytes × Except Failure Value)}

/-- Taking a connection back does nothing to the network, or closes the connection. -/
theorem network_release {after : Pool} (ran : (pool.release used).run world = (after, final)) :
    final.network = world.network ∨
      final.network =
        (world.recorded used.connection.address (some used.connection.number) .close).network := by
  rcases used with ⟨connection, _ | _⟩
  · cases ran
    exact Or.inr rfl
  · unfold release giveBack at ran
    rw [if_pos rfl] at ran
    split at ran
    · cases ran
      exact Or.inl rfl
    · cases ran
      exact Or.inr rfl

theorem Acquires.sendsOnly {outcome : Except Failure Lease}
    (acquires : Acquires pool world outcome rest taken) :
    World.SendsOnly (pool.settings.connections.handshake pool.password) world taken ∧
      taken.hosts = world.hosts := by
  cases acquires with
  | reused first => exact ⟨.ofEvents rfl, rfl⟩
  | exhausted noneIdle full => exact ⟨.ofEvents rfl, rfl⟩
  | failed noneIdle reserved attempt => exact attempt.sendsOnly
  | opened noneIdle reserved attempt => exact attempt.sendsOnly

theorem Acquires.isAt {settings : PoolSettings} (sound : pool.IsSound world.hosts settings)
    (acquires : Acquires pool world (.ok lease) rest taken) :
    lease.connection.IsAt world.hosts settings.connections.address := by
  have located := (steps_acquire_ok 0 acquires).isLocated (sound.isLocated rfl)
  exact located.out lease (Multiset.mem_cons_self lease 0)

/-- A connection is lent, used and taken back. -/
theorem steps_lend {settings : PoolSettings} {after : Pool}
    (sound : pool.IsSound world.hosts settings)
    (acquires : Acquires pool world (.ok lease) rest taken)
    (exchanges : Connection.Exchanges lease.connection taken writes used.connection answered)
    (intact : used.isIntact =
      (lease.isIntact && writes.all fun write => Failure.sparesConnection write.2))
    (released : (rest.release used).run answered = (after, final)) :
    Steps ⟨pool, 0, world⟩ ⟨after, 0, final⟩ := by
  have lent := steps_acquire_ok 0 acquires
  have exchanged := Connection.steps_exchanges rest 0 lease.isIntact exchanges
  rw [← intact] at exchanged
  have steps := lent.trans exchanged
  have balanced := Lending.Steps.isBalanced steps (sound.isBalanced world)
  exact steps.trans (steps_release rest 0 balanced.counted released)

end Pool

/-- A visit of a node: where a command is sent and whether it is announced, what is written for it,
the reply, and the world before and after. -/
structure Visit where
  target : String
  asking : Bool
  writes : List (List Bytes × Except Failure Value)
  reply : Except Failure Value
  before : World
  after : World

namespace Visit

/-- How a visit is made. Either no connection to the node is to be had, or the command is delivered
on a connection to the address that the target means. Before that only the handshake of a new
connection is sent, and after it nothing. -/
inductive IsMade (configuration : ClusterConfiguration) (arguments : List Bytes) : Visit → Prop
  | unreached {target : String} {asking : Bool} {pool rest : Pool} {failure : Failure}
      {before start after : World} (set : pool.settings = configuration.poolSettings target)
      (network : start.network = before.network)
      (acquires : Pool.Acquires pool start (.error failure) rest after)
      (opening : World.SendsOnly
        ((configuration.poolSettings target).connections.handshake pool.password) before after) :
      IsMade configuration arguments ⟨target, asking, [], .error failure, before, after⟩
  | reached {target : String} {asking : Bool} {pool rest : Pool} {lease : Lease}
      {last : Connection} {writes : List (List Bytes × Except Failure Value)}
      {reply : Except Failure Value} {before start taken answered after : World}
      (set : pool.settings = configuration.poolSettings target)
      (network : start.network = before.network)
      (acquires : Pool.Acquires pool start (.ok lease) rest taken)
      (opening : World.SendsOnly
        ((configuration.poolSettings target).connections.handshake pool.password) before taken)
      (isAt : lease.connection.IsAt before.hosts target)
      (exchanges : Connection.Exchanges lease.connection taken writes last answered)
      (delivers : Delivers arguments asking writes reply)
      (returned : after.network = answered.network ∨
        after.network = (answered.recorded last.address (some last.number) .close).network) :
      IsMade configuration arguments ⟨target, asking, writes, reply, before, after⟩

/-- Whether the reply of a visit is a redirect, and another visit is the one that it leads to. -/
def LeadsTo (visit next : Visit) : Prop :=
  ∃ redirect, Cluster.redirect? visit.reply = some redirect ∧
    next.target = redirect.destination visit.target ∧ next.asking = redirect.isAsk ∧
    next.before.network = visit.after.network

/-- A visit fails only for reasons that lie in its node, or in the pool of it. -/
theorem IsMade.failure_cases {configuration : ClusterConfiguration} {visit : Visit}
    {failure : Failure} (made : visit.IsMade configuration arguments)
    (failed : visit.reply = .error failure) :
    failure.isOfExchange = true ∨ failure = .invalidAddress visit.target ∨
      failure = .poolExhausted := by
  cases made with
  | unreached set network acquires opening =>
      cases failed
      have causes := acquires.failure_cases
      rw [Pool.address, set] at causes
      exact causes
  | reached set network acquires opening isAt exchanges delivers returned =>
      cases failed
      exact Or.inl (delivers.isOfExchange exchanges.breaksConnection)

end Visit

end SlotClient
