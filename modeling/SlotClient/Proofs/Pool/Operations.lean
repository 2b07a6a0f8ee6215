import SlotClient.Proofs.Pool.Lending

/-!
# Operations of a pool as steps

Every operation of a pool is a sequence of the steps that are possible for it. Each lemma follows
one function: from what the function returns it gives the steps that lead there, for any connections
that are outside the queue besides the ones that the function works on.
-/

namespace SlotClient

open Lending (Step Steps IsBalanced)
open Wire (Value)

variable (pool : Pool) (out : Multiset Lease) {world final : World}

/-- Whether a connection is still in order after an exchange with a given outcome. -/
def Failure.sparesConnection {Result : Type} : Except Failure Result → Bool
  | .ok _ => true
  | .error failure => !failure.breaksConnection

/-- A lent connection stays in order as long as no exchange on it breaks it. -/
theorem Lease.run_exchange (lease : Lease) (arguments : List Bytes) (world : World) :
    (lease.exchange arguments).run world =
      let answered := lease.connection.answered (world.pending lease.connection.address).head?
      ((answered.1, ⟨answered.2, lease.isIntact && Failure.sparesConnection answered.1⟩),
        lease.connection.writtenWorld (Wire.encodeCommand arguments) world) := by
  unfold Lease.exchange
  rw [Action.run_bind, Connection.run_exchange]
  rcases lease.connection.answered (world.pending lease.connection.address).head? with ⟨_ | _, _⟩
  · rfl
  · simp only [Failure.sparesConnection, Bool.and_true]
    rfl

theorem Lease.exchange_cases {lease used : Lease} {arguments : List Bytes}
    {reply : Except Failure Value}
    (exchange : (lease.exchange arguments).run world = ((reply, used), final)) :
    (lease.connection.exchange arguments).run world = ((reply, used.connection), final) ∧
      used.isIntact = (lease.isIntact && Failure.sparesConnection reply) := by
  rw [Lease.run_exchange] at exchange
  cases exchange
  exact ⟨Connection.run_exchange _ _ _, rfl⟩

theorem Lease.exchange_of_connection (intact : Bool) {connection used : Connection}
    {arguments : List Bytes} {reply : Except Failure Value}
    (exchange : (connection.exchange arguments).run world = ((reply, used), final)) :
    ((⟨connection, intact⟩ : Lease).exchange arguments).run world =
      ((reply, ⟨used, intact && Failure.sparesConnection reply⟩), final) := by
  rw [Lease.run_exchange]
  rcases Connection.exchange_cases exchange with ⟨rfl, rfl, rfl⟩
  rfl

namespace Connection

variable {connection last : Connection}

theorem steps_exchanges (intact : Bool) {writes : List (List Bytes × Except Failure Value)}
    (exchanges : Exchanges connection world writes last final) :
    Steps ⟨pool, ⟨connection, intact⟩ ::ₘ out, world⟩
      ⟨pool, ⟨last, intact && writes.all fun write => Failure.sparesConnection write.2⟩ ::ₘ out,
        final⟩ := by
  induction exchanges generalizing intact with
  | done connection world =>
      rw [List.all_nil, Bool.and_true]
  | noted entry _ ih => exact Relation.ReflTransGen.head (Step.noted entry) (ih intact)
  | @sent connection used last world between final arguments reply writes exchange _ ih =>
      rw [List.all_cons, ← Bool.and_assoc]
      have asLease := Lease.exchange_of_connection intact exchange
      exact Relation.ReflTransGen.head (Step.exchanged asLease) (ih _)

theorem steps_configures (lease : Lease) (configures : Configures lease.connection world final) :
    Steps ⟨pool, lease ::ₘ out, world⟩ ⟨pool, lease ::ₘ out, final⟩ := by
  induction configures with
  | done world => exact Relation.ReflTransGen.refl
  | noted entry _ ih => exact Relation.ReflTransGen.head (Step.noted entry) ih
  | set setting _ ih => exact Relation.ReflTransGen.head (Step.configured setting) ih

/-- A connection that is to be ready for use stays outside the queue, and if it gets ready it is in
order. -/
theorem steps_prepare {settings : ConnectionSettings} {password : Option String}
    {outcome : Except Failure Connection}
    (ran : (connection.prepare settings password).run.run world = (outcome, final)) :
    ∃ lease : Lease, lease.connection.identity = connection.identity ∧
      Steps ⟨pool, { connection } ::ₘ out, world⟩ ⟨pool, lease ::ₘ out, final⟩ ∧
      ∀ ready, outcome = .ok ready → lease = { connection := ready } := by
  rcases prepare_cases ran with ⟨configured, configures, refused | negotiates⟩
  · rcases refused with ⟨rfl, rfl⟩
    exact ⟨{ connection }, rfl, steps_configures pool out { connection } configures,
      fun _ impossible => nomatch impossible⟩
  · rcases negotiates with ⟨writes, answer, last, exchanges, confirms, rfl⟩
    have steps := steps_configures pool out { connection } configures
    refine ⟨_, exchanges.identity_eq, steps.trans (steps_exchanges pool out true exchanges), ?_⟩
    rcases answer with failure | _
    · exact fun _ impossible => nomatch impossible
    · rintro ready ⟨⟩
      have spared : (writes.all fun write => Failure.sparesConnection write.2) = true := by
        rw [List.all_eq_true]
        intro write member
        rcases confirms.replies_of_ok write member with ⟨value, replied⟩
        rw [replied]
        rfl
      rw [spared]
      rfl

theorem sparesConnection_confirmation (reply : Except Failure Value) :
    Failure.sparesConnection (reply.bind confirmation) = Failure.sparesConnection reply := by
  rcases reply with failure | value
  · rfl
  · cases value <;> rfl

theorem steps_authenticate {username : Option String} {password : String}
    {outcome : Except Failure Unit}
    (ran : (connection.authenticate username password).run world = ((outcome, last), final)) :
    Steps ⟨pool, { connection } ::ₘ out, world⟩
      ⟨pool, ⟨last, Failure.sparesConnection outcome⟩ ::ₘ out, final⟩ := by
  rcases exchanges_authenticate ran with ⟨reply, exchanges, rfl⟩
  have steps := steps_exchanges pool out true exchanges
  rw [sparesConnection_confirmation]
  rwa [List.all_cons, List.all_nil, Bool.and_true, Bool.true_and] at steps

end Connection

theorem Pool.unreserve_of_reserve? {pool grown : Pool} (reserved : pool.reserve? = some grown) :
    grown.unreserve = pool := by
  rcases reserve?_eq_some reserved with ⟨_, rfl⟩
  simp only [unreserve, Nat.add_sub_cancel]

namespace Connection

theorem steps_connect_ok {pool grown : Pool} (reserved : pool.reserve? = some grown)
    {password : Option String} {connection : Connection}
    (connects : Connects pool.settings.connections password world (.ok connection) final) :
    Steps ⟨pool, out, world⟩ ⟨grown, { connection } ::ₘ out, final⟩ := by
  cases connects with
  | ready resolved attempt prepared =>
      rcases steps_prepare grown out prepared with ⟨lease, _, steps, isReady⟩
      have isReady := isReady _ rfl
      subst isReady
      exact Relation.ReflTransGen.head (Step.opened reserved resolved attempt) steps

/-- If no connection can be made, one that was opened is closed and the pool has the count that it
had before. -/
theorem steps_connect_error {pool grown : Pool} (reserved : pool.reserve? = some grown)
    {password : Option String} {failure : Failure}
    (connects : Connects pool.settings.connections password world (.error failure) final) :
    Steps ⟨pool, out, world⟩ ⟨grown.unreserve, out, final⟩ := by
  cases connects with
  | unresolved unknown =>
      rw [Pool.unreserve_of_reserve? reserved]
  | refused resolved attempt =>
      rw [Pool.unreserve_of_reserve? reserved]
      exact Relation.ReflTransGen.single (Step.refused resolved attempt)
  | abandoned resolved attempt prepared =>
      rename_i socket connection opened after
      rcases steps_prepare grown out prepared with ⟨lease, same, steps, _⟩
      have counted : 0 < grown.total := by
        rw [(Pool.reserve?_eq_some reserved).2]
        exact Nat.succ_pos _
      have steps := steps.tail (Step.closed counted)
      have sameAddress : lease.connection.address = connection.address := congrArg Prod.fst same
      have sameNumber : lease.connection.number = connection.number := congrArg Prod.snd same
      rw [sameAddress, sameNumber] at steps
      exact Relation.ReflTransGen.head (Step.opened reserved resolved attempt) steps

end Connection

namespace Pool

/-- What comes of asking a pool for a connection, with the world that is left. -/
inductive Acquires (pool : Pool) (world : World) : Except Failure Lease → Pool → World → Prop
  | reused {connection : Connection} {rest : Pool}
      (first : pool.takeIdle? = some (connection, rest)) :
      Acquires pool world (.ok { connection }) rest world
  | exhausted (noneIdle : pool.takeIdle? = none) (full : pool.reserve? = none) :
      Acquires pool world (.error .poolExhausted) pool world
  | failed {grown : Pool} {failure : Failure} {after : World} (noneIdle : pool.takeIdle? = none)
      (reserved : pool.reserve? = some grown)
      (attempt : Connection.Connects pool.settings.connections pool.password world
        (.error failure) after) :
      Acquires pool world (.error failure) grown.unreserve after
  | opened {grown : Pool} {connection : Connection} {after : World}
      (noneIdle : pool.takeIdle? = none) (reserved : pool.reserve? = some grown)
      (attempt : Connection.Connects pool.settings.connections pool.password world
        (.ok connection) after) :
      Acquires pool world (.ok { connection }) grown after

theorem acquires {pool after : Pool} {outcome : Except Failure Lease}
    (ran : pool.acquire.run world = ((outcome, after), final)) :
    Acquires pool world outcome after final := by
  unfold acquire at ran
  rcases first : pool.takeIdle? with _ | ⟨connection, rest⟩
  · rw [first] at ran
    rcases reserved : pool.reserve? with _ | grown
    · rw [reserved] at ran
      cases ran
      exact .exhausted first reserved
    · rw [reserved] at ran
      rcases Action.bind_cases ran with ⟨failure | connection, middle, attempt, ran⟩
      · cases ran
        exact .failed first reserved (Connection.connects attempt)
      · cases ran
        exact .opened first reserved (Connection.connects attempt)
  · rw [first] at ran
    cases ran
    exact .reused first

theorem Acquires.failure_cases {pool rest : Pool} {failure : Failure}
    (acquires : Acquires pool world (.error failure) rest final) :
    failure.isOfExchange = true ∨ failure = .invalidAddress pool.address ∨
      failure = .poolExhausted := by
  cases acquires with
  | exhausted noneIdle full => exact Or.inr (Or.inr rfl)
  | failed noneIdle reserved attempt =>
      rcases attempt.failure_cases with exchange | address
      · exact Or.inl exchange
      · exact Or.inr (Or.inl address)

theorem steps_acquire_ok {pool after : Pool} {lease : Lease}
    (acquires : Acquires pool world (.ok lease) after final) :
    Steps ⟨pool, out, world⟩ ⟨after, lease ::ₘ out, final⟩ := by
  cases acquires with
  | reused first => exact Relation.ReflTransGen.single (Step.taken first)
  | opened noneIdle reserved attempt => exact Connection.steps_connect_ok out reserved attempt

theorem steps_acquire_error {pool after : Pool} {failure : Failure}
    (acquires : Acquires pool world (.error failure) after final) :
    Steps ⟨pool, out, world⟩ ⟨after, out, final⟩ := by
  cases acquires with
  | exhausted noneIdle full => exact Relation.ReflTransGen.refl
  | failed noneIdle reserved attempt => exact Connection.steps_connect_error out reserved attempt

theorem steps_discard {connection : Connection} {intact : Bool}
    (counted : 0 < pool.total) :
    Steps ⟨pool, ⟨connection, intact⟩ ::ₘ out, world⟩
      ⟨((pool.discard connection).run world).1, out, ((pool.discard connection).run world).2⟩ :=
  Relation.ReflTransGen.single (Step.closed counted)

theorem steps_giveBack {after : Pool} {connection : Connection} (counted : 0 < pool.total)
    (ran : (pool.giveBack connection).run world = (after, final)) :
    Steps ⟨pool, { connection } ::ₘ out, world⟩ ⟨after, out, final⟩ := by
  unfold giveBack at ran
  split at ran
  · rename_i room
    cases ran
    exact Relation.ReflTransGen.single (Step.kept rfl room)
  · cases ran
    exact Relation.ReflTransGen.single (Step.closed counted)

/-- A connection that comes back is in the queue or closed. -/
theorem steps_release {after : Pool} {lease : Lease} (counted : 0 < pool.total)
    (ran : (pool.release lease).run world = (after, final)) :
    Steps ⟨pool, lease ::ₘ out, world⟩ ⟨after, out, final⟩ := by
  rcases lease with ⟨connection, _ | _⟩
  · cases ran
    exact Relation.ReflTransGen.head (Step.noted (.discardingConnection pool.address))
      (steps_discard pool out counted)
  · exact steps_giveBack pool out counted ran

/-- Connections that have been taken from the queue, with the others outside it. -/
def drained (connections : List Connection) (out : Multiset Lease) : Multiset Lease :=
  (connections.map fun connection => ({ connection } : Lease)) + out

theorem drained_cons (connection : Connection) (rest : List Connection) :
    drained (connection :: rest) out = { connection } ::ₘ drained rest out := by
  rw [drained, List.map_cons, ← Multiset.cons_coe, Multiset.cons_add, drained]

theorem steps_drain (connections : List Connection) (world : World) :
    Steps ⟨{ pool with idle := connections }, out, world⟩
      ⟨{ pool with idle := [] }, drained connections out, world⟩ := by
  induction connections generalizing out with
  | nil =>
      rw [drained, List.map_nil, Multiset.coe_nil, Multiset.zero_add]
  | cons connection rest ih =>
      rw [drained_cons]
      have taken : Step ⟨{ pool with idle := connection :: rest }, out, world⟩
          ⟨{ pool with idle := rest }, { connection } ::ₘ out, world⟩ := Step.taken rfl
      refine Relation.ReflTransGen.head taken ?_
      have others := ih ({ connection } ::ₘ out)
      rw [drained, Multiset.add_cons] at others
      exact others

theorem steps_authenticateAll {password : String} {connections : List Connection}
    {pool after : Pool} {outcome result : Except Failure Unit}
    (balanced : IsBalanced ⟨pool, drained connections out, world⟩)
    (ran : (authenticateAll password connections outcome pool).run world =
      ((result, after), final)) :
    Steps ⟨pool, drained connections out, world⟩ ⟨after, out, final⟩ := by
  induction connections generalizing pool world outcome with
  | nil =>
      cases ran
      rw [drained, List.map_nil, Multiset.coe_nil, Multiset.zero_add]
  | cons connection rest ih =>
      rw [drained_cons] at balanced ⊢
      unfold authenticateAll at ran
      rcases Action.bind_cases ran with ⟨⟨answer, used⟩, middle, authenticated, ran⟩
      have steps := Connection.steps_authenticate pool (drained rest out) authenticated
      have counted := (steps.isBalanced balanced).counted
      rcases answer with failure | _
      · dsimp only at ran
        cases breaks : failure.breaksConnection with
        | true =>
            rw [breaks, if_pos rfl] at ran
            rcases Action.bind_cases ran with ⟨smaller, later, discarded, ran⟩
            cases discarded
            have steps := steps.trans (steps_discard pool (drained rest out) counted)
            exact steps.trans (ih (Steps.isBalanced steps balanced) ran)
        | false =>
            rw [breaks, if_neg Bool.false_ne_true] at ran
            rcases Action.bind_cases ran with ⟨filled, later, returned, ran⟩
            rw [Failure.sparesConnection, breaks, Bool.not_false] at steps
            have steps := steps.trans (steps_giveBack pool (drained rest out) counted returned)
            exact steps.trans (ih (Steps.isBalanced steps balanced) ran)
      · rcases Action.bind_cases ran with ⟨filled, later, returned, ran⟩
        have steps := steps.trans (steps_giveBack pool (drained rest out) counted returned)
        exact steps.trans (ih (Steps.isBalanced steps balanced) ran)

theorem steps_probe {pool after : Pool} {result : Except Failure Unit}
    (balanced : IsBalanced ⟨pool, out, world⟩)
    (ran : pool.probe.run world = ((result, after), final)) :
    Steps ⟨pool, out, world⟩ ⟨after, out, final⟩ := by
  unfold probe at ran
  rcases Action.bind_cases ran with ⟨⟨failure | lease, middle⟩, there, acquired, ran⟩
  · have steps := steps_acquire_error out (acquires acquired)
    cases failure <;> cases ran <;> exact steps
  · have steps := steps_acquire_ok out (acquires acquired)
    rcases Action.bind_cases ran with ⟨returned, last, released, ran⟩
    cases ran
    exact steps.trans (steps_release middle out (steps.isBalanced balanced).counted released)

theorem steps_reauthenticate {pool after : Pool} {result : Except Failure Unit}
    (balanced : IsBalanced ⟨pool, out, world⟩)
    (ran : pool.reauthenticate.run world = ((result, after), final)) :
    Steps ⟨pool, out, world⟩ ⟨after, out, final⟩ := by
  unfold reauthenticate at ran
  rcases pool with ⟨settings, _ | password, idle, total⟩
  · cases ran
    exact Relation.ReflTransGen.refl
  · rcases Action.bind_cases ran with ⟨_, noted, recorded, ran⟩
    cases recorded
    refine Relation.ReflTransGen.head
      (Step.noted (.reauthenticating settings.connections.address idle.length)) ?_
    rcases idle with _ | ⟨connection, rest⟩
    · exact steps_probe out balanced ran
    · have drain := steps_drain ⟨settings, some password, [], total⟩ out (connection :: rest)
        (world.logged (.reauthenticating settings.connections.address (connection :: rest).length))
      exact drain.trans (steps_authenticateAll out (drain.isBalanced balanced) ran)

end Pool

end SlotClient
