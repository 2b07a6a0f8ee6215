import SlotClient.Client.Standalone
import SlotClient.Proofs.Client.Visit

/-!
# Sending as a relation

What comes of sending a command to a server, or to a node, and of following redirects, with the
visits that are made for it. Everything that is said about what a client sends is read off these
relations, which have one constructor for each way that the functions can take.
-/

namespace SlotClient

open Wire (Value)

namespace Standalone

/-- What comes of sending a command to a server. Either no connection is lent, or the command is
exchanged on one, which is taken back. -/
inductive Executes (client : Standalone) (arguments : List Bytes) (world : World) :
    Except Failure Value → Standalone → World → Prop
  | unreached {rest : Pool} {final : World} {failure : Failure}
      (acquires : Pool.Acquires client.pool world (.error failure) rest final) :
      Executes client arguments world (.error failure) ⟨rest⟩ final
  | reached {rest returned : Pool} {lease used : Lease} {taken answered final : World}
      {reply : Except Failure Value}
      (acquires : Pool.Acquires client.pool world (.ok lease) rest taken)
      (exchange : (lease.exchange arguments).run taken = ((reply, used), answered))
      (released : (rest.release used).run answered = (returned, final)) :
      Executes client arguments world reply ⟨returned⟩ final

theorem executes {client after : Standalone} {arguments : List Bytes} {world final : World}
    {reply : Except Failure Value}
    (ran : (client.execute arguments).run world = ((reply, after), final)) :
    client.Executes arguments world reply after final := by
  unfold Standalone.execute at ran
  rcases Action.bind_cases ran with ⟨⟨failure | lease, rest⟩, taken, acquired, ran⟩
  · cases ran
    exact .unreached (Pool.acquires acquired)
  · rcases Action.bind_cases ran with ⟨⟨answer, used⟩, answered, exchanged, ran⟩
    rcases Action.bind_cases ran with ⟨returned, last, released, ran⟩
    cases ran
    exact .reached (Pool.acquires acquired) exchanged released

end Standalone

/-- An exchange on a lent connection fails for the sake of the exchange. -/
theorem Lease.isOfExchange_exchange {lease used : Lease} {arguments : List Bytes}
    {world final : World} {failure : Failure}
    (exchange : (lease.exchange arguments).run world = ((.error failure, used), final)) :
    failure.isOfExchange = true := by
  have broken := (Connection.Exchanges.single (Lease.exchange_cases exchange).1).breaksConnection
  exact Failure.isOfExchange_of_breaksConnection (broken _ List.mem_cons_self failure rfl)

namespace Cluster

/-- What comes of sending a command to a node. Either the pool of the node lends no connection, or
the command is delivered on one, with what is written for it. -/
inductive Sends (cluster : Cluster) (target : String) (asking : Bool) (arguments : List Bytes)
    (world : World) : List (List Bytes × Except Failure Value) → Except Failure Value → Cluster →
    World → Prop
  | unreached {pool rest : Pool} {between : Cluster} {start final : World} {failure : Failure}
      (ensured : (cluster.ensurePool target).run world = ((pool, between), start))
      (acquires : Pool.Acquires pool start (.error failure) rest final) :
      Sends cluster target asking arguments world [] (.error failure)
        (between.withPool target rest) final
  | reached {pool rest returned : Pool} {between : Cluster} {lease used : Lease}
      {start taken answered final : World}
      {writes : List (List Bytes × Except Failure Value)} {reply : Except Failure Value}
      (ensured : (cluster.ensurePool target).run world = ((pool, between), start))
      (acquires : Pool.Acquires pool start (.ok lease) rest taken)
      (exchanges : Connection.Exchanges lease.connection taken writes used.connection answered)
      (delivers : Delivers arguments asking writes reply)
      (intact : used.isIntact =
        (lease.isIntact && writes.all fun write => Failure.sparesConnection write.2))
      (released : (rest.release used).run answered = (returned, final)) :
      Sends cluster target asking arguments world writes reply (between.withPool target returned)
        final

/-- What a client remembers of a redirect: the owner that is named of a slot that has moved. -/
def learn (cluster : Cluster) (target : String) : Redirect → Cluster
  | .moved slot address =>
    { cluster with slots := cluster.slots.assign slot (Redirect.target target address) }
  | .ask _ _ => cluster

/-- What comes of following redirects, at most a number of times, with the visits. -/
inductive Follows (route : Route) (arguments : List Bytes) :
    Nat → String → Bool → Cluster → World → List Visit → Except Failure Value → Cluster → World →
    Prop
  | exhausted {target : String} {asking : Bool} {cluster : Cluster} {world : World}
      (entry : LogEntry) :
      Follows route arguments 0 target asking cluster world []
        (.error (.tooManyRedirects (reportedSlot route))) cluster (world.logged entry)
  | answered {limit : Nat} {target : String} {asking : Bool} {cluster after : Cluster}
      {world final : World} {writes : List (List Bytes × Except Failure Value)}
      {reply : Except Failure Value}
      (sends : cluster.Sends target asking arguments world writes reply after final)
      (answered : redirect? reply = none) :
      Follows route arguments (limit + 1) target asking cluster world
        [⟨target, asking, writes, reply, world, final⟩] reply after final
  | redirected {limit : Nat} {target : String} {asking : Bool} {cluster between after : Cluster}
      {world middle final : World} {writes : List (List Bytes × Except Failure Value)}
      {reply outcome : Except Failure Value} {redirect : Redirect} {visits : List Visit}
      (sends : cluster.Sends target asking arguments world writes reply between middle)
      (stated : redirect? reply = some redirect) (entry : LogEntry)
      (rest : Follows route arguments limit (redirect.destination target) redirect.isAsk
        (between.learn target redirect) (middle.logged entry) visits outcome after final) :
      Follows route arguments (limit + 1) target asking cluster world
        (⟨target, asking, writes, reply, world, middle⟩ :: visits) outcome after final

variable {cluster after : Cluster} {target : String} {asking : Bool} {arguments : List Bytes}
  {world final : World} {reply : Except Failure Value}

theorem sends (ran : (cluster.send target asking arguments).run world = ((reply, after), final)) :
    ∃ writes, Sends cluster target asking arguments world writes reply after final := by
  unfold send at ran
  rcases Action.bind_cases ran with ⟨⟨pool, between⟩, start, ensured, ran⟩
  rcases Action.bind_cases ran with ⟨⟨failure | lease, rest⟩, taken, acquired, ran⟩
  · cases ran
    exact ⟨[], .unreached ensured (Pool.acquires acquired)⟩
  · rcases Action.bind_cases ran with ⟨⟨answer, used⟩, answered, delivered, ran⟩
    rcases Action.bind_cases ran with ⟨returned, last, released, ran⟩
    cases ran
    rcases Lease.delivers delivered with ⟨writes, exchanges, delivers, intact⟩
    exact ⟨writes, .reached ensured (Pool.acquires acquired) exchanges delivers intact released⟩

theorem follows {route : Route} {limit : Nat} {outcome : Except Failure Value}
    (ran : (follow route arguments limit target asking cluster).run world =
      ((outcome, after), final)) :
    ∃ visits, Follows route arguments limit target asking cluster world visits outcome after
      final := by
  induction limit generalizing cluster target asking world with
  | zero =>
      cases ran
      exact ⟨[], .exhausted _⟩
  | succ limit ih =>
      unfold follow at ran
      rcases Action.bind_cases ran with ⟨⟨reply, between⟩, middle, sent, ran⟩
      rcases sends sent with ⟨writes, sends⟩
      rcases redirected : redirect? reply with _ | redirect
      · simp only [redirected] at ran
        cases ran
        exact ⟨_, .answered sends redirected⟩
      · simp only [redirected] at ran
        cases redirect with
        | moved slot address =>
            rcases Action.bind_cases ran with ⟨_, noted, recorded, ran⟩
            cases recorded
            rcases ih ran with ⟨visits, rest⟩
            exact ⟨_, .redirected sends redirected _ rest⟩
        | ask slot address =>
            rcases Action.bind_cases ran with ⟨_, noted, recorded, ran⟩
            cases recorded
            rcases ih ran with ⟨visits, rest⟩
            exact ⟨_, .redirected sends redirected _ rest⟩

end Cluster

end SlotClient
