import Mathlib.Algebra.Order.Group.Multiset
import SlotClient.Proofs.Pool.Deeds

/-!
# What pools do to a network

Every operation of a pool is a sequence of dealings on its terms, and what is seen of it is what its
relation tells. The connections that are ready for use are those in the queue of the pool, those
that are lent out or taken from the queue, and others, of other pools, which an operation does not
touch.
-/

namespace SlotClient

open Wire (Value)

variable {terms : Terms} {world final : World} {others : Multiset Connection}

/-- Commands that are in the terms are sent on a connection that is ready. -/
theorem Connection.Exchanges.dealings {connection last : Connection}
    {writes : List (List Bytes × Except Failure Value)}
    (exchanges : Exchanges connection world writes last final)
    (agreed : ∀ write ∈ writes, write.1 ∈ terms.commands) (held : Multiset Connection) :
    Dealings terms (connection ::ₘ held) world (connection.deeds writes) (last ::ₘ held) final := by
  induction exchanges with
  | done connection world => exact .nothing _ _
  | noted entry _ ih => exact .next (.noted entry) (ih agreed)
  | @sent connection used last world between final arguments reply writes exchange _ ih =>
      have identical : used.identity = connection.identity := by
        rw [(exchange_cases exchange).2.1]
        exact identity_answered _ _
      rw [List.forall_mem_cons] at agreed
      have rest := ih agreed.2
      rw [deeds_congr identical] at rest
      exact .next (.exchanged agreed.1 exchange) rest

namespace Pool

variable {pool after rest : Pool} {connection : Connection}

/-- The pool prepares its connections on the terms. -/
abbrev IsOn (terms : Terms) (pool : Pool) : Prop :=
  Connection.IsPreparedOn terms pool.settings.connections pool.password

theorem IsStateOf.isOn (same : after.IsStateOf pool) (on : pool.IsOn terms) :
    after.IsOn terms := by
  rw [IsOn, same.1, same.2]
  exact on

theorem Acquires.dealings_ok {lease : Lease} (acquires : Acquires pool world (.ok lease) rest final)
    (on : pool.IsOn terms) (others : Multiset Connection) :
    ∃ deeds, Dealings terms (pool.idle + others) world deeds
        (lease.connection ::ₘ (rest.idle + others)) final ∧
      pool.Lends deeds (.ok lease) rest := by
  cases acquires with
  | reused first =>
      refine ⟨[], ?_, .reused first⟩
      cases takeIdle?_eq_some first
      rw [← Multiset.cons_add, Multiset.cons_coe]
      exact .nothing _ _
  | opened noneIdle reserved attempt =>
      rcases attempt.dealings_ok on (pool.idle + others) with ⟨deeds, dealings, made⟩
      refine ⟨deeds, ?_, .opened (idle_of_takeIdle? noneIdle) reserved made⟩
      rcases reserve?_eq_some reserved with ⟨_, rfl⟩
      exact dealings

theorem Acquires.dealings_error {failure : Failure}
    (acquires : Acquires pool world (.error failure) rest final) (on : pool.IsOn terms)
    (others : Multiset Connection) :
    ∃ deeds, Dealings terms (pool.idle + others) world deeds (rest.idle + others) final ∧
      pool.Lends deeds (.error failure) rest := by
  cases acquires with
  | exhausted noneIdle full =>
      exact ⟨[], .nothing _ _, .exhausted (idle_of_takeIdle? noneIdle) full⟩
  | failed noneIdle reserved attempt =>
      rcases attempt.dealings_error on (pool.idle + others) with ⟨deeds, dealings, made⟩
      rw [unreserve_of_reserve? reserved]
      refine ⟨deeds, dealings, .failed (idle_of_takeIdle? noneIdle) made ?_⟩
      rintro rfl
      rcases attempt.failure_cases with exchange | address
      · cases exchange
      · cases address

/-- A connection comes back to a pool. -/
def ComesBack (terms : Terms) (pool : Pool) (connection : Connection) (intact : Bool)
    (others : Multiset Connection) (world : World) (after : Pool) (final : World) : Prop :=
  ∃ deeds, Dealings terms (connection ::ₘ (pool.idle + others)) world deeds (after.idle + others)
      final ∧
    pool.Settles connection intact deeds after

theorem comesBack_discard (ran : (pool.discard connection).run world = (after, final))
    (others : Multiset Connection) :
    pool.ComesBack terms connection false others world after final := by
  cases ran
  exact ⟨_, (Dealing.closed connection).single, .broken⟩

theorem comesBack_giveBack (ran : (pool.giveBack connection).run world = (after, final))
    (others : Multiset Connection) :
    pool.ComesBack terms connection true others world after final := by
  unfold giveBack at ran
  split at ran
  · rename_i room
    cases ran
    have queued : (connection ::ₘ (pool.idle + others) : Multiset Connection) =
        (pool.idle ++ [connection] : List Connection) + others := by
      rw [← Multiset.coe_add, Multiset.coe_singleton, Multiset.add_assoc,
        Multiset.singleton_add, Multiset.add_cons]
    rw [ComesBack, queued]
    exact ⟨[], .nothing _ _, .kept room⟩
  · rename_i full
    cases ran
    exact ⟨_, (Dealing.closed connection).single, .crowded (Bool.not_eq_true _ ▸ full)⟩

/-- A connection on which an exchange was made is taken back, or closed if the exchange broke it. -/
def TakesBack (pool : Pool) (connection : Connection) (answer : Except Failure Unit)
    (world : World) (after : Pool) (final : World) : Prop :=
  if Failure.sparesConnection answer then (pool.giveBack connection).run world = (after, final)
  else (pool.discard connection).run world = (after, final)

theorem TakesBack.comesBack {answer : Except Failure Unit}
    (returned : pool.TakesBack connection answer world after final)
    (others : Multiset Connection) :
    pool.ComesBack terms connection (Failure.sparesConnection answer) others world after final := by
  unfold TakesBack at returned
  split at returned
  · rename_i spared
    rw [spared]
    exact comesBack_giveBack returned others
  · rename_i broken
    rw [Bool.not_eq_true] at broken
    rw [broken]
    exact comesBack_discard returned others

theorem comesBack_release {lease : Lease} (ran : (pool.release lease).run world = (after, final))
    (others : Multiset Connection) :
    pool.ComesBack terms lease.connection lease.isIntact others world after final := by
  rcases lease with ⟨connection, _ | _⟩
  · rcases Action.bind_cases ran with ⟨_, between, noted, discarded⟩
    cases noted
    rcases comesBack_discard discarded others with ⟨deeds, dealings, settles⟩
    exact ⟨deeds, .next (.noted (.discardingConnection pool.address)) dealings, settles⟩
  · exact comesBack_giveBack ran others

/-- Connections are authenticated one after the other: the first one is asked, taken back, and its
failure kept unless there was one before, and then the others are. -/
theorem authenticateAll_cons_cases {password : String} {connection : Connection}
    {connections : List Connection} {outcome result : Except Failure Unit}
    (ran : (authenticateAll password (connection :: connections) outcome pool).run world =
      ((result, after), final)) :
    ∃ reply used middle settled later,
      Connection.Exchanges connection world [(Connection.authentication
        pool.settings.connections.username password, reply)] used middle ∧
      pool.TakesBack used (reply.bind Connection.confirmation) middle settled later ∧
      (authenticateAll password connections
        (outcome.bind fun _ => reply.bind Connection.confirmation) settled).run later =
          ((result, after), final) := by
  unfold authenticateAll at ran
  rcases Action.bind_cases ran with ⟨⟨answer, used⟩, middle, authenticated, ran⟩
  rcases Connection.exchanges_authenticate authenticated with ⟨reply, exchanges, rfl⟩
  clear authenticated
  refine ⟨reply, used, middle, ?_⟩
  generalize reply.bind Connection.confirmation = answer at ran ⊢
  rcases answer with failure | accepted
  · dsimp only at ran
    cases breaks : failure.breaksConnection with
    | true =>
        rw [breaks, if_pos rfl] at ran
        rcases Action.bind_cases ran with ⟨settled, later, discarded, ran⟩
        refine ⟨settled, later, exchanges, ?_, ?_⟩
        · rw [TakesBack, Failure.sparesConnection, breaks]
          exact discarded
        · cases outcome <;> exact ran
    | false =>
        rw [breaks, if_neg Bool.false_ne_true] at ran
        rcases Action.bind_cases ran with ⟨settled, later, returned, ran⟩
        refine ⟨settled, later, exchanges, ?_, ?_⟩
        · rw [TakesBack, Failure.sparesConnection, breaks]
          exact returned
        · cases outcome <;> exact ran
  · rcases Action.bind_cases ran with ⟨settled, later, returned, ran⟩
    refine ⟨settled, later, exchanges, returned, ?_⟩
    cases outcome <;> exact ran

theorem dealings_authenticateAll {password : String} {connections : List Connection}
    {outcome result : Except Failure Unit}
    (agreed : Connection.authentication pool.settings.connections.username password ∈
      terms.commands)
    (ran : (authenticateAll password connections outcome pool).run world =
      ((result, after), final)) (others : Multiset Connection) :
    ∃ deeds, Dealings terms (connections + (pool.idle + others)) world deeds
        (after.idle + others) final ∧
      Authenticates pool.settings.connections.username password connections outcome pool deeds
        result after := by
  induction connections generalizing pool outcome world with
  | nil =>
      cases ran
      rw [Multiset.coe_nil, Multiset.zero_add]
      exact ⟨[], .nothing _ _, .done _ _⟩
  | cons connection connections ih =>
      rcases authenticateAll_cons_cases ran with
        ⟨reply, used, middle, settled, later, exchanges, returned, ran⟩
      have first := exchanges.dealings (List.forall_mem_singleton.mpr agreed)
        (pool.idle + (connections + others))
      rcases returned.comesBack (connections + others) with ⟨back, settling, settles⟩
      rw [Connection.sparesConnection_confirmation] at settles
      have same := settles.isStateOf.1
      rw [← same] at agreed
      rcases ih agreed ran with ⟨more, dealings, authenticates⟩
      rw [add_left_comm (connections : Multiset Connection)] at dealings
      rw [← Multiset.cons_coe, Multiset.cons_add,
        add_left_comm (connections : Multiset Connection)]
      rw [same] at authenticates
      exact ⟨_, first.trans (settling.trans dealings), .next exchanges.identity_eq settles
        authenticates⟩

theorem dealings_probe {result : Except Failure Unit} (on : pool.IsOn terms)
    (ran : pool.probe.run world = ((result, after), final)) (others : Multiset Connection) :
    ∃ deeds, Dealings terms (pool.idle + others) world deeds (after.idle + others) final ∧
      pool.Probes deeds result after := by
  unfold probe at ran
  rcases Action.bind_cases ran with ⟨⟨failure | lease, middle⟩, there, acquired, ran⟩
  · rcases (acquires acquired).dealings_error on others with ⟨deeds, dealings, lends⟩
    by_cases exhausted : failure = .poolExhausted
    · cases exhausted
      cases ran
      exact ⟨deeds, dealings, .spared lends⟩
    · have answered : result = .error failure ∧ after = middle ∧ final = there := by
        cases failure <;> cases ran <;> simp at exhausted ⊢
      rcases answered with ⟨rfl, rfl, rfl⟩
      exact ⟨deeds, dealings, .failed lends exhausted⟩
  · rcases (acquires acquired).dealings_ok on others with ⟨deeds, dealings, lends⟩
    rcases Action.bind_cases ran with ⟨returned, last, released, ran⟩
    cases ran
    rcases comesBack_release released others with ⟨back, releases, settles⟩
    exact ⟨_, dealings.trans releases, .passed lends settles⟩

theorem dealings_reauthenticate {result : Except Failure Unit} (on : pool.IsOn terms)
    (agreed : ∀ password ∈ pool.password,
      Connection.authentication pool.settings.connections.username password ∈ terms.commands)
    (ran : pool.reauthenticate.run world = ((result, after), final))
    (others : Multiset Connection) :
    ∃ deeds, Dealings terms (pool.idle + others) world deeds (after.idle + others) final ∧
      pool.Reauthenticates deeds result after := by
  unfold reauthenticate at ran
  rcases pool with ⟨settings, _ | password, idle, total⟩
  · cases ran
    exact ⟨[], .nothing _ _, .unset rfl⟩
  · rcases Action.bind_cases ran with ⟨_, noted, recorded, ran⟩
    cases recorded
    rcases idle with _ | ⟨connection, rest⟩
    · rcases dealings_probe on ran others with ⟨deeds, dealings, probes⟩
      exact ⟨_, .next (.noted _) dealings, .probed rfl rfl probes⟩
    · have agreed : Connection.authentication
          (⟨settings, some password, [], total⟩ : Pool).settings.connections.username password ∈
            terms.commands := agreed password rfl
      rcases dealings_authenticateAll agreed ran others with ⟨deeds, dealings, authenticates⟩
      rw [Multiset.coe_nil, Multiset.zero_add] at dealings
      exact ⟨_, .next (.noted _) dealings, .asked rfl (List.cons_ne_nil _ _) authenticates⟩

/-- The terms that a pool itself sets, under which it may send its authentication. -/
def ownTerms (pool : Pool) : Terms where
  limitsAreAccepted := pool.settings.connections.LimitsAreAccepted
  handshake := pool.settings.connections.handshake pool.password
  commands :=
    pool.password.toList.map (Connection.authentication pool.settings.connections.username)

theorem isOn_ownTerms (pool : Pool) : pool.IsOn pool.ownTerms := ⟨Iff.rfl, rfl⟩

theorem Acquires.lends {outcome : Except Failure Lease}
    (acquires : Acquires pool world outcome rest final) :
    ∃ deeds, pool.Lends deeds outcome rest := by
  rcases outcome with failure | lease
  · rcases acquires.dealings_error pool.isOn_ownTerms 0 with ⟨deeds, _, lends⟩
    exact ⟨deeds, lends⟩
  · rcases acquires.dealings_ok pool.isOn_ownTerms 0 with ⟨deeds, _, lends⟩
    exact ⟨deeds, lends⟩

theorem settles {lease : Lease} (ran : (pool.release lease).run world = (after, final)) :
    ∃ deeds, pool.Settles lease.connection lease.isIntact deeds after := by
  have comesBack : pool.ComesBack pool.ownTerms lease.connection lease.isIntact 0 world after final :=
    comesBack_release ran 0
  rcases comesBack with ⟨deeds, _, settles⟩
  exact ⟨deeds, settles⟩

theorem reauthenticates {result : Except Failure Unit}
    (ran : pool.reauthenticate.run world = ((result, after), final)) :
    ∃ deeds, pool.Reauthenticates deeds result after := by
  have agreed : ∀ password ∈ pool.password,
      Connection.authentication pool.settings.connections.username password ∈
        pool.ownTerms.commands :=
    fun password isPassword => List.mem_map_of_mem (Option.mem_toList.mpr isPassword)
  rcases dealings_reauthenticate pool.isOn_ownTerms agreed ran 0 with ⟨deeds, _, reauthenticates⟩
  exact ⟨deeds, reauthenticates⟩

theorem failure_of_authenticateAll {password : String} {connections : List Connection}
    {outcome : Except Failure Unit} {failure : Failure}
    (ran : (authenticateAll password connections outcome pool).run world =
      ((.error failure, after), final)) :
    outcome = .error failure ∨ failure.isOfExchange = true := by
  induction connections generalizing pool outcome world with
  | nil =>
      cases ran
      exact Or.inl rfl
  | cons connection connections ih =>
      rcases authenticateAll_cons_cases ran with
        ⟨reply, used, middle, settled, later, exchanges, returned, ran⟩
      rcases ih ran with refused | exchange
      · rcases outcome with earlier | _
        · exact Or.inl refused
        · exact Or.inr ((Connection.refuses_of_confirmation refused).isOfExchange
            (exchanges.breaksConnection _ List.mem_cons_self))
      · exact Or.inr exchange

/-- To authenticate the connections of a pool fails for reasons that lie in the network. -/
theorem failure_of_reauthenticate {failure : Failure}
    (ran : pool.reauthenticate.run world = ((.error failure, after), final)) :
    failure.isOfExchange = true ∨ failure = .invalidAddress pool.address := by
  unfold reauthenticate at ran
  rcases pool with ⟨settings, _ | password, idle, total⟩
  · cases ran
  · rcases Action.bind_cases ran with ⟨_, noted, recorded, ran⟩
    cases recorded
    rcases idle with _ | ⟨connection, rest⟩
    · change StateT.run (probe _) _ = _ at ran
      unfold probe at ran
      rcases Action.bind_cases ran with ⟨⟨cause | lease, middle⟩, there, acquired, ran⟩
      · have same : cause = failure ∧ failure ≠ .poolExhausted := by
          cases cause <;> cases ran <;> simp
        rcases same with ⟨rfl, notExhausted⟩
        rcases (acquires acquired).failure_cases with exchange | address | exhausted
        · exact Or.inl exchange
        · exact Or.inr address
        · contradiction
      · rcases Action.bind_cases ran with ⟨returned, last, released, ran⟩
        cases ran
    · rcases failure_of_authenticateAll ran with impossible | exchange
      · cases impossible
      · exact Or.inl exchange

end Pool

end SlotClient
