import SlotClient.Proofs.Pool.Acquisition
import SlotClient.Proofs.Pool.Health

/-!
# Authenticating the idle connections again

A pool with a password can send it on all idle connections. It asks them one after the other in the
order of the queue, whatever the ones before have answered, and on no connection anything else is
done. Those that the exchange breaks are closed and are no longer counted. The others come back in
the order in which they were, and there is room for them, since the queue has been emptied for this
and was within its limit. What is told is the first failure.

If no connection is idle, the pool asks itself for one, so that the password is tried in any case.
That it may not have one more is no failure. Connections that are held are never touched.
-/

namespace SlotClient

open Wire (Value)

/-- What is seen of the authentication of a connection, by the reply to it: the exchange, and the
closing of the connection if the exchange has broken it. -/
def Connection.authenticationDeeds (username : Option String) (password : String)
    (asked : Connection × Except Failure Value) : List Deed :=
  .exchanged asked.1.identity (Wire.encodeCommand (authentication username password)) asked.2 ::
    if Failure.sparesConnection asked.2 then [] else [.closed asked.1.identity]

theorem Connection.connection_of_mem_authenticationDeeds {username : Option String}
    {password : String} {asked : Connection × Except Failure Value} {deed : Deed}
    (member : deed ∈ authenticationDeeds username password asked) :
    deed.connection = asked.1.identity := by
  unfold authenticationDeeds at member
  split at member
  · rw [List.mem_singleton.mp member]
    rfl
  · rcases List.mem_pair.mp member with rfl | rfl
    · rfl
    · rfl

/-- What the replies to authentications come to: the first refusal among them, if there is one. -/
inductive Connection.Gathers :
    List (Connection × Except Failure Value) → Except Failure Unit → Prop
  | confirmed {asked : List (Connection × Except Failure Value)}
      (confirmed : ∀ ask ∈ asked, ∃ text, ask.2 = .ok (.simple text)) : Gathers asked (.ok ())
  | refused {before after : List (Connection × Except Failure Value)}
      {ask : Connection × Except Failure Value} {failure : Failure}
      (confirmed : ∀ earlier ∈ before, ∃ text, earlier.2 = .ok (.simple text))
      (refuses : Refuses ask.2 failure) : Gathers (before ++ ask :: after) (.error failure)

theorem Connection.gathers_forM (asked : List (Connection × Except Failure Value)) :
    Gathers asked (asked.forM fun ask => ask.2.bind confirmation) := by
  induction asked with
  | nil => exact .confirmed (List.forall_mem_nil _)
  | cons ask asked ih =>
      have first : (ask :: asked).forM (fun ask => ask.2.bind confirmation) =
          (ask.2.bind confirmation).bind fun _ =>
            asked.forM fun ask => ask.2.bind confirmation := rfl
      rw [first]
      generalize (asked.forM fun ask => ask.2.bind confirmation) = outcome at ih ⊢
      rcases confirmed : ask.2.bind confirmation with failure | accepted
      · rw [← List.nil_append (ask :: asked)]
        exact .refused (List.forall_mem_nil _) (refuses_of_confirmation confirmed)
      · have simple := simple_of_confirmation confirmed
        cases ih with
        | confirmed others => exact .confirmed (List.forall_mem_cons.mpr ⟨simple, others⟩)
        | refused others refuses =>
            rw [← List.cons_append]
            exact .refused (List.forall_mem_cons.mpr ⟨simple, others⟩) refuses

/-- All that is seen of the making of a connection is about one that is opened. -/
theorem ConnectionSettings.Makes.opened_of_mem {settings : ConnectionSettings}
    {password : Option String} {deeds : List Deed} {outcome : Except Failure (String × Nat)}
    (makes : settings.Makes password deeds outcome) {deed : Deed} (member : deed ∈ deeds) :
    .opened deed.connection ∈ deeds := by
  have about {connection : Connection} {writes : List (List Bytes × Except Failure Value)}
      (sent : deed ∈ connection.deeds writes) : deed.connection = connection.identity := by
    rcases List.mem_map.mp sent with ⟨write, _, rfl⟩
    rfl
  cases makes with
  | nothing failure => cases member
  | abandoned connection prepares =>
      rw [List.cons_append, List.mem_cons, List.mem_append, List.mem_singleton] at member
      rcases member with rfl | sent | rfl
      · exact List.mem_cons_self
      · rw [about sent]
        exact List.mem_cons_self
      · exact List.mem_cons_self
  | ready connection prepares =>
      rcases List.mem_cons.mp member with rfl | sent
      · exact List.mem_cons_self
      · rw [about sent]
        exact List.mem_cons_self

namespace Pool

variable {pool after : Pool} {connection : Connection} {deeds : List Deed} {intact : Bool}
  {result : Except Failure Unit} {world : World}

/-- If there is room, a connection that comes back is put into the queue or has been broken. -/
theorem Settles.cases_of_room (settles : pool.Settles connection intact deeds after)
    (room : pool.hasRoom = true) :
    (intact = true ∧ deeds = [] ∧ after = { pool with idle := pool.idle ++ [connection] }) ∨
      intact = false ∧ deeds = [.closed connection.identity] ∧ after = pool.unreserve := by
  cases settles with
  | kept _ => exact Or.inl ⟨rfl, rfl, rfl⟩
  | crowded full =>
      rw [room] at full
      cases full
  | broken => exact Or.inr ⟨rfl, rfl, rfl⟩

/-- Where there is room for all connections that are authenticated, each of them is asked once. The
ones that are spared are put into the queue in their order, and the others are not counted any
longer. -/
theorem Authenticates.asks_each {username : Option String} {password : String}
    {connections : List Connection} {outcome : Except Failure Unit}
    (authenticates : Authenticates username password connections outcome pool deeds result after)
    (room : pool.idle.length + connections.length ≤ pool.settings.maxIdle.toNat)
    (counted : connections.length ≤ pool.total) :
    ∃ asked : List (Connection × Except Failure Value), asked.map Prod.fst = connections ∧
      deeds = asked.flatMap (Connection.authenticationDeeds username password) ∧
      after.idle.map Connection.identity = pool.idle.map Connection.identity ++
        (asked.filter fun ask => Failure.sparesConnection ask.2).map (·.1.identity) ∧
      after.total + asked.countP (fun ask => !Failure.sparesConnection ask.2) = pool.total ∧
      result = outcome.bind fun _ => asked.forM fun ask => ask.2.bind Connection.confirmation := by
  induction authenticates with
  | done outcome pool =>
      refine ⟨[], rfl, rfl, (List.append_nil _).symm, rfl, ?_⟩
      cases outcome <;> rfl
  | @next connection used connections outcome result pool settled after back rest reply identical
      settles others ih =>
      rw [List.length_cons] at room counted
      have free : pool.hasRoom = true := by
        rw [hasRoom, decide_eq_true_eq]
        omega
      have collected (asked : List (Connection × Except Failure Value)) :
          ((outcome.bind fun _ => reply.bind Connection.confirmation).bind fun _ =>
              asked.forM fun ask => ask.2.bind Connection.confirmation) =
            outcome.bind fun _ => ((connection, reply) :: asked).forM fun ask =>
              ask.2.bind Connection.confirmation := by
        cases outcome <;> rfl
      rcases settles.cases_of_room free with ⟨spared, rfl, rfl⟩ | ⟨broken, rfl, rfl⟩
      · have fits : (pool.idle ++ [used]).length + connections.length ≤
            pool.settings.maxIdle.toNat := by
          rw [List.length_append, List.length_singleton]
          omega
        rcases ih fits (Nat.le_of_succ_le counted) with ⟨asked, rfl, rfl, idle, total, rfl⟩
        refine ⟨(connection, reply) :: asked, rfl, ?_, ?_, ?_, collected asked⟩
        · simp [Connection.authenticationDeeds, Connection.deeds, spared]
        · simp [idle, spared, identical]
        · simpa [spared] using total
      · have fits : pool.idle.length + connections.length ≤ pool.settings.maxIdle.toNat := by
          omega
        have isCounted : 0 < pool.total := by
          omega
        rcases ih fits (Nat.le_sub_one_of_lt counted) with ⟨asked, rfl, rfl, idle, total, rfl⟩
        refine ⟨(connection, reply) :: asked, rfl, ?_, ?_, ?_, collected asked⟩
        · simp [Connection.authenticationDeeds, Connection.deeds, broken, identical]
        · rw [List.filter_cons_of_neg (by simp [broken])]
          exact idle
        · have lowered : after.total +
              asked.countP (fun ask => !Failure.sparesConnection ask.2) = pool.total - 1 := total
          rw [List.countP_cons_of_pos (by simp [broken]), ← Nat.add_assoc, lowered,
            Nat.sub_add_cancel isCounted]

/-- What is seen of an authentication is about idle connections, or about one that is opened for
it. -/
theorem Reauthenticates.of_mem (reauthenticates : pool.Reauthenticates deeds result after)
    (room : pool.idle.length ≤ pool.settings.maxIdle.toNat)
    (counted : pool.idle.length ≤ pool.total) {deed : Deed} (member : deed ∈ deeds) :
    deed.connection ∈ pool.idle.map Connection.identity ∨ .opened deed.connection ∈ deeds := by
  cases reauthenticates with
  | unset unset => cases member
  | probed set noneIdle probes =>
      right
      cases probes with
      | spared lends => exact lends.makes_error.opened_of_mem member
      | failed lends otherwise => exact lends.makes_error.opened_of_mem member
      | @passed deeds back lease between after lends settles =>
          rcases List.mem_append.mp member with made | back
          · rcases lends.makes_ok with rfl | makes
            · cases made
            · exact List.mem_append_left _ (makes.opened_of_mem made)
          · rcases settles.deeds_eq with rfl | rfl
            · cases back
            · rw [List.mem_singleton.mp back]
              exact List.mem_append_left _ (lends.opened_of_noneIdle noneIdle)
  | asked set someIdle authenticates =>
      left
      rcases authenticates.asks_each (by simpa using room) counted with ⟨asked, isIdle, rfl, _⟩
      rcases List.mem_flatMap.mp member with ⟨ask, isAsked, seen⟩
      rw [Connection.connection_of_mem_authenticationDeeds seen, ← isIdle, List.map_map]
      exact List.mem_map_of_mem isAsked

/-- The idle connections of a pool with a password are asked one after the other. -/
theorem Reauthenticates.asks_each (reauthenticates : pool.Reauthenticates deeds result after)
    {password : String} (set : pool.password = some password) (someIdle : pool.idle ≠ [])
    (room : pool.idle.length ≤ pool.settings.maxIdle.toNat)
    (counted : pool.idle.length ≤ pool.total) :
    ∃ asked : List (Connection × Except Failure Value), asked.map Prod.fst = pool.idle ∧
      deeds = asked.flatMap
        (Connection.authenticationDeeds pool.settings.connections.username password) ∧
      after.idle.map Connection.identity =
        (asked.filter fun ask => Failure.sparesConnection ask.2).map (·.1.identity) ∧
      after.total + asked.countP (fun ask => !Failure.sparesConnection ask.2) = pool.total ∧
      result = asked.forM fun ask => ask.2.bind Connection.confirmation := by
  cases reauthenticates with
  | unset unset =>
      rw [set] at unset
      cases unset
  | probed _ noneIdle probes => contradiction
  | asked also _ authenticates =>
      rw [set] at also
      cases also
      exact authenticates.asks_each (by simpa using room) counted

theorem run_reauthenticate_of_none (unset : pool.password = none) (world : World) :
    pool.reauthenticate.run world = ((.ok (), pool), world) := by
  unfold reauthenticate
  rw [unset]
  rfl

theorem run_reauthenticate_of_noneIdle {password : String} (set : pool.password = some password)
    (noneIdle : pool.idle = []) (world : World) :
    pool.reauthenticate.run world =
      pool.probe.run (world.logged (.reauthenticating pool.address 0)) := by
  rcases pool with ⟨settings, _, _, total⟩
  subst set noneIdle
  rfl

theorem run_probe_of_full (noneIdle : pool.idle = [])
    (full : pool.settings.maxTotal.toNat ≤ pool.total) (world : World) :
    pool.probe.run world = ((.ok (), pool), world) := by
  unfold probe
  rw [Action.run_bind, run_acquire_of_full noneIdle full]
  rfl

theorem run_probe_of_error {failure : Failure}
    (failed : (pool.acquire.run world).1.1 = .error failure) (otherwise : failure ≠ .poolExhausted) :
    pool.probe.run world = ((.error failure, pool), (pool.acquire.run world).2) := by
  have same := pool_of_acquire_error failed
  unfold probe
  rw [Action.run_bind]
  generalize pool.acquire.run world = ran at failed same
  rcases ran with ⟨⟨outcome, rest⟩, final⟩
  dsimp only at failed same
  subst failed same
  cases failure <;> first | rfl | contradiction

theorem run_probe_of_ok {lease : Lease} (lent : (pool.acquire.run world).1.1 = .ok lease) :
    pool.probe.run world =
      let lent := pool.acquire.run world
      let back := (lent.1.2.release lease).run lent.2
      ((.ok (), back.1), back.2) := by
  unfold probe
  rw [Action.run_bind]
  generalize pool.acquire.run world = ran at lent
  rcases ran with ⟨⟨outcome, rest⟩, final⟩
  dsimp only at lent
  subst lent
  rfl

end Pool

namespace Session

variable {origin : World} {settings : PoolSettings} {session : Session} {connection : String × Nat}

/-- No connection is both idle and held. -/
theorem IsInOrder.not_held_of_idle (inOrder : session.IsInOrder origin settings)
    (idle : connection ∈ session.desk.pool.idle.map Connection.identity) :
    connection ∉ session.desk.held.map fun entry => entry.2.connection.identity := by
  have distinct := inOrder.healthy.orderly.tracked.distinct
  simp only [Lending.present, lending, Desk.lending, Multiset.map_add, Multiset.nodup_add,
    Desk.leases, Multiset.map_coe, List.map_map] at distinct
  exact Multiset.disjoint_left.mp distinct.2.2 (Multiset.mem_coe.mpr idle)

/-- A connection that is opened for a request is none of those that there were. -/
theorem IsInOrder.not_mem_of_opened (inOrder : session.IsInOrder origin settings)
    {request : Desk.Request} {deeds : List Deed}
    (grown : history origin (session.serve request) = history origin session ++ deeds)
    (opened : .opened connection ∈ deeds) :
    connection ∉ session.desk.connections.map Connection.identity := by
  intro member
  rcases Multiset.mem_map.mp member with ⟨other, present, rfl⟩
  have ordered := (inOrder.serve request).ordered
  rw [grown] at ordered
  have already := inOrder.healthy.orderly.introduced other present
  exact ((List.pairwise_append.mp ordered).2.2 _ already _ opened).2 rfl

theorem IsInOrder.idle_le_total (inOrder : session.IsInOrder origin settings) :
    session.desk.pool.idle.length ≤ session.desk.pool.total := by
  have balanced : session.desk.pool.total = _ := inOrder.accounted.counted
  rw [balanced]
  exact Nat.le_add_right _ _

theorem serve_reauthenticate (session : Session) :
    session.serve .reauthenticate =
      let ran := session.desk.pool.reauthenticate.run session.world
      { desk := { session.desk with pool := ran.1.2 }
        world := ran.2
        served := session.served ++ [(.reauthenticate, .done ran.1.1)] } :=
  rfl

end Session

theorem Desk.Handles.of_reauthenticate {desk after : Desk} {answer : Desk.Answer}
    {deeds : List Deed} (handles : desk.Handles .reauthenticate answer deeds after) :
    ∃ result, answer = .done result ∧ desk.pool.Reauthenticates deeds result after.pool := by
  cases handles with
  | authenticated reauthenticates => exact ⟨_, rfl, reauthenticates⟩

namespace Session

/-- The idle connections are authenticated once each. Whatever was asked of a pool before, on
whatever network, its connections are authenticated with its password as follows. Without a password
nothing is done. If connections are idle, each of them is sent one `AUTH`, in the order of the queue
and whatever the ones before have answered, and on no connection anything is sent but this. The
connections that the exchange breaks are closed and are not counted any longer; the others are idle
in the order in which they were; and the result is the first failure. If none is idle, nothing is
done to the network by a pool that has reached its limit, and else it is asked for a connection,
whose failure is the result, and which comes back at once. Connections that are held stay held, and
nothing is done with them. -/
theorem reauthenticate_asks_each_idle (settings : PoolSettings) (password : Option String)
    (hosts : List (String × List IpAddress)) (nodes : List (String × Node))
    (requests : List Desk.Request) :
    let start := create settings password hosts nodes
    let session := start.run requests
    let pool := session.desk.pool
    let after := session.serve .reauthenticate
    let seen := history start.world
    ∃ result deeds, after.served = session.served ++ [(.reauthenticate, .done result)] ∧
      seen after = seen session ++ deeds ∧
      after.desk.held = session.desk.held ∧
      (∀ entry ∈ session.desk.held, ∀ deed ∈ deeds,
        deed.connection ≠ entry.2.connection.identity) ∧
      (pool.password = none →
        result = .ok () ∧ after.desk = session.desk ∧ after.world = session.world) ∧
      ∀ secret, pool.password = some secret →
        (pool.idle ≠ [] → ∃ asked : List (Connection × Except Failure Value),
          asked.map Prod.fst = pool.idle ∧
          deeds = asked.flatMap
            (Connection.authenticationDeeds settings.connections.username secret) ∧
          after.desk.pool.idle.map Connection.identity =
            (asked.filter fun ask => Failure.sparesConnection ask.2).map (·.1.identity) ∧
          after.desk.pool.total + asked.countP (fun ask => !Failure.sparesConnection ask.2) =
            pool.total ∧
          Connection.Gathers asked result) ∧
        (pool.idle = [] → settings.maxTotal.toNat ≤ pool.total →
          result = .ok () ∧ after.desk = session.desk ∧
            after.world.events = session.world.events) ∧
        (pool.idle = [] → pool.total < settings.maxTotal.toNat →
          let lent := pool.acquire.run
            (session.world.logged (.reauthenticating pool.address 0))
          (∀ failure, lent.1.1 = .error failure →
            result = .error failure ∧ after.desk = session.desk ∧ after.world = lent.2) ∧
          ∀ lease, lent.1.1 = .ok lease →
            result = .ok () ∧
              (lent.1.2.release lease).run lent.2 = (after.desk.pool, after.world)) := by
  intro start session pool after seen
  have inOrder : session.IsInOrder start.world settings := (isInOrder_create ..).run requests
  have known : pool.settings = settings := inOrder.settings_eq
  rcases inOrder.seen .reauthenticate with ⟨answer, deeds, served, grown, handles⟩
  rcases handles.of_reauthenticate with ⟨result, rfl, reauthenticates⟩
  have ran : after = _ := session.serve_reauthenticate
  have answered : (pool.reauthenticate.run session.world).1.1 = result := by
    have same := List.append_cancel_left (served.symm.trans (congrArg Session.served ran))
    simpa using same.symm
  refine ⟨result, deeds, served, grown, congrArg (·.desk.held) ran, ?_, ?_, ?_⟩
  · rintro entry held deed member same
    have isHeld := List.mem_map_of_mem (f := fun entry => entry.2.connection.identity) held
    rcases reauthenticates.of_mem inOrder.idle_le inOrder.idle_le_total member with idle | opened
    · rw [same] at idle
      exact inOrder.not_held_of_idle idle isHeld
    · rw [same] at opened
      exact inOrder.not_mem_of_opened grown opened (Desk.mem_connections.mpr (Or.inr isHeld))
  · intro unset
    have none := Pool.run_reauthenticate_of_none unset session.world
    rw [← answered, ran, none]
    exact ⟨rfl, rfl, rfl⟩
  intro secret set
  refine ⟨?_, ?_, ?_⟩
  · intro someIdle
    rw [← known]
    rcases reauthenticates.asks_each set someIdle inOrder.idle_le inOrder.idle_le_total with
      ⟨asked, same, seen, idle, total, rfl⟩
    exact ⟨asked, same, seen, idle, total, Connection.gathers_forM asked⟩
  · intro noneIdle full
    rw [← known] at full
    have none : pool.reauthenticate.run session.world = _ :=
      (Pool.run_reauthenticate_of_noneIdle set noneIdle _).trans
        (Pool.run_probe_of_full noneIdle full _)
    rw [← answered, ran, none]
    exact ⟨rfl, rfl, rfl⟩
  · intro noneIdle room lent
    rw [← known] at room
    have probed := Pool.run_reauthenticate_of_noneIdle set noneIdle session.world
    constructor
    · intro failure failed
      have otherwise : failure ≠ .poolExhausted := by
        rintro rfl
        have exhausted := (Pool.acquire_eq_poolExhausted_iff _).mp failed
        omega
      have none := probed.trans (Pool.run_probe_of_error failed otherwise)
      rw [← answered, ran, none]
      exact ⟨rfl, rfl, rfl⟩
    · intro lease passed
      have back := probed.trans (Pool.run_probe_of_ok passed)
      rw [← answered, ran, back]
      exact ⟨rfl, rfl⟩

end Session

end SlotClient
