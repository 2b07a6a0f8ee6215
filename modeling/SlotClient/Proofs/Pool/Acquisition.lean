import SlotClient.Proofs.Pool.Conservation
import SlotClient.Proofs.Pool.Dealings

/-!
# What becomes of a request for a connection

A pool that is asked for a connection lends the first one that is idle, and does nothing to the
network for this. If none is idle and it has reached its limit, it does nothing at all. Otherwise it
tries once to make a connection. A connection that was opened but did not get ready has been closed
by the time the failure is told, and the pool is as if nothing had been tried.
-/

namespace SlotClient

/-- Whether an event is an attempt to connect. -/
def Event.isAttempt (event : Event) : Bool :=
  match event.activity with
  | .connect _ => true
  | _ => false

namespace World

/-- What the events between two states of a network tell: how many attempts to connect there were,
and which connections were opened and closed. -/
def Reports (world after : World) (attempts : Nat) (opened closed : List (String × Nat)) : Prop :=
  ∃ events, after.events = world.events ++ events ∧ events.countP Event.isAttempt = attempts ∧
    events.filterMap Event.opened? = opened ∧ events.filterMap Event.closed? = closed

variable {world middle after : World} {attempts more : Nat}
  {opened closed openedLater closedLater : List (String × Nat)}

theorem reports_nothing (unchanged : after.events = world.events) : world.Reports after 0 [] [] :=
  ⟨[], unchanged.trans (List.append_nil _).symm, rfl, rfl, rfl⟩

theorem reports_event (event : Event) (appended : after.events = world.events ++ [event]) :
    world.Reports after (if event.isAttempt then 1 else 0) event.opened?.toList
      event.closed?.toList := by
  refine ⟨[event], appended, List.countP_singleton .., ?_, ?_⟩
  · rcases told : event.opened? <;> simp [told]
  · rcases told : event.closed? <;> simp [told]

theorem Reports.trans (first : world.Reports middle attempts opened closed)
    (second : middle.Reports after more openedLater closedLater) :
    world.Reports after (attempts + more) (opened ++ openedLater) (closed ++ closedLater) := by
  rcases first with ⟨events, appended, rfl, rfl, rfl⟩
  rcases second with ⟨later, appendedLater, rfl, rfl, rfl⟩
  refine ⟨events ++ later, ?_, List.countP_append, List.filterMap_append, List.filterMap_append⟩
  rw [appendedLater, appended, List.append_assoc]

/-- What is done with an open connection, short of closing it, is not reported. -/
theorem reports_use {connection : Connection} {activities : List Activity}
    (use : ∀ activity ∈ activities, activity.isSetting = true ∨ ∃ bytes, activity = .send bytes)
    (appended : after.events = world.events ++ activities.map connection.event) :
    world.Reports after 0 [] [] := by
  have silent : ∀ event ∈ activities.map connection.event,
      event.isAttempt = false ∧ event.opened? = none ∧ event.closed? = none := by
    rw [List.forall_mem_map]
    intro activity member
    rcases use activity member with setting | ⟨bytes, rfl⟩
    · cases activity <;> first | exact ⟨rfl, rfl, rfl⟩ | contradiction
    · exact ⟨rfl, rfl, rfl⟩
  refine ⟨_, appended, ?_, ?_, ?_⟩
  · rw [List.countP_eq_zero]
    intro event member
    simp [(silent event member).1]
  · exact List.filterMap_eq_nil_iff.mpr fun event member => (silent event member).2.1
  · exact List.filterMap_eq_nil_iff.mpr fun event member => (silent event member).2.2

end World

/-- How many attempts to connect are made to make one connection: there is nothing to connect to if
the address is not known, and an attempt that may take no time is refused before it is made. -/
def ConnectionSettings.attempts (settings : ConnectionSettings)
    (hosts : List (String × List IpAddress)) : Nat :=
  if SocketAddress.resolve? hosts settings.address = none ∨ settings.connectTimeout = some 0 then 0
  else 1

namespace Connection

variable {settings : ConnectionSettings} {password : Option String} {world final : World}
  {connection : Connection}

theorem reports_establish {address : String} {timeout : Option Duration}
    {outcome : Except TransportFault Connection}
    (attempt : (establish address timeout).run world = (outcome, final)) :
    world.Reports final (if timeout = some 0 then 0 else 1)
      (outcome.toOption.map identity).toList [] := by
  by_cases refused : timeout = some 0
  · rw [refused] at attempt
    cases attempt
    rw [if_pos refused]
    exact World.reports_nothing rfl
  rw [run_establish world refused] at attempt
  rw [if_neg refused]
  split at attempt
  · cases attempt
    exact World.reports_event ⟨address, none, .connect (timeout.map Duration.milliseconds)⟩ rfl
  · split at attempt
    · cases attempt
      exact World.reports_event ⟨address, none, .connect (timeout.map Duration.milliseconds)⟩ rfl
    · rename_i number _
      cases attempt
      exact World.reports_event ⟨address, some number, .connect (timeout.map Duration.milliseconds)⟩ rfl

theorem reports_prepare {outcome : Except Failure Connection}
    (ran : (connection.prepare settings password).run.run world = (outcome, final)) :
    world.Reports final 0 [] [] ∧
      ∀ ready, outcome = .ok ready → ready.identity = connection.identity := by
  rcases prepares ran with ⟨configured, writes, answer, last, configures, exchanges, _, rfl⟩
  rcases configures.events_eq with ⟨activities, settings, configuring⟩
  have sending := exchanges.events_eq
  have sent : (writes.map fun write => connection.sendEvent write.1) =
      (writes.map fun write => Activity.send (Wire.encodeCommand write.1)).map connection.event := by
    rw [List.map_map]
    rfl
  rw [sent] at sending
  constructor
  · refine World.Reports.trans (World.reports_use ?_ configuring) (World.reports_use ?_ sending)
    · exact fun activity member => Or.inl (settings activity member)
    · rw [List.forall_mem_map]
      exact fun write _ => Or.inr ⟨_, rfl⟩
  · intro ready isReady
    rcases answer with failure | _ <;> cases isReady
    exact exchanges.identity_eq

/-- To make a connection takes one attempt to connect. If it fails, what was opened has been closed
again. -/
theorem Connects.reports {outcome : Except Failure Connection}
    (connects : Connects settings password world outcome final) :
    ∃ opened closed, world.Reports final (settings.attempts world.hosts) opened closed ∧
      (∀ failure, outcome = .error failure → opened = closed) ∧
      ∀ ready, outcome = .ok ready → opened = [ready.identity] ∧ closed = [] := by
  have attempts {socket : SocketAddress}
      (resolved : SocketAddress.resolve? world.hosts settings.address = some socket) :
      settings.attempts world.hosts = if settings.connectTimeout = some 0 then 0 else 1 := by
    simp [ConnectionSettings.attempts, resolved]
  cases connects with
  | unresolved unknown =>
      rw [ConnectionSettings.attempts, if_pos (Or.inl unknown)]
      exact ⟨[], [], World.reports_nothing rfl, fun _ _ => rfl, nofun⟩
  | refused resolved attempt =>
      rw [attempts resolved]
      exact ⟨[], [], reports_establish attempt, fun _ _ => rfl, nofun⟩
  | @abandoned socket connection failure opened after resolved attempt prepared =>
      rw [attempts resolved]
      have closing : after.Reports (after.recorded connection.address (some connection.number)
          .close) 0 [] [connection.identity] :=
        World.reports_event (connection.event .close) rfl
      have reports := ((reports_establish attempt).trans (reports_prepare prepared).1).trans closing
      exact ⟨[connection.identity], [connection.identity], reports, fun _ _ => rfl, nofun⟩
  | ready resolved attempt prepared =>
      rw [attempts resolved]
      rcases reports_prepare prepared with ⟨prepares, isReady⟩
      refine ⟨_, _, (reports_establish attempt).trans prepares, nofun, ?_⟩
      rintro ready ⟨⟩
      rw [isReady _ rfl]
      exact ⟨rfl, rfl⟩

end Connection

namespace Pool

variable {pool : Pool}

theorem run_acquire_of_idle {first : Connection} {rest : List Connection}
    (waiting : pool.idle = first :: rest) (world : World) :
    pool.acquire.run world = ((.ok { connection := first }, { pool with idle := rest }), world) := by
  simp only [acquire, takeIdle?, waiting]
  rfl

theorem run_acquire_of_full (noneIdle : pool.idle = [])
    (full : pool.settings.maxTotal.toNat ≤ pool.total) (world : World) :
    pool.acquire.run world = ((.error .poolExhausted, pool), world) := by
  have refused : pool.reserve? = none := if_neg (Nat.not_lt.mpr full)
  simp only [acquire, takeIdle?, noneIdle, refused]
  rfl

/-- The pool after an attempt to make a connection, which is counted if it got ready. -/
def afterAttempt (pool : Pool) : Except Failure Connection → Pool
  | .ok _ => { pool with total := pool.total + 1 }
  | .error _ => pool

theorem run_acquire_of_room (noneIdle : pool.idle = [])
    (room : pool.total < pool.settings.maxTotal.toNat) (world : World) :
    pool.acquire.run world =
      let attempt := (Connection.connect pool.settings.connections pool.password).run world
      ((attempt.1.map fun connection => { connection }, pool.afterAttempt attempt.1), attempt.2) := by
  have reserved : pool.reserve? = some { pool with total := pool.total + 1 } := if_pos room
  unfold acquire
  rw [takeIdle?_of_idle noneIdle, reserved]
  dsimp only
  rw [Action.run_bind, unreserve_of_reserve? reserved]
  rcases (Connection.connect pool.settings.connections pool.password).run world with
    ⟨failure | connection, after⟩
  · rfl
  · rfl

theorem Lends.of_exhausted {after : Pool} {deeds : List Deed}
    (lends : pool.Lends deeds (.error .poolExhausted) after) :
    pool.idle = [] ∧ pool.settings.maxTotal.toNat ≤ pool.total := by
  cases lends with
  | exhausted noneIdle full =>
      refine ⟨noneIdle, ?_⟩
      by_contra room
      rw [reserve?, if_pos (Nat.not_le.mp room)] at full
      cases full
  | failed noneIdle made otherwise => contradiction

/-- A pool has no connection to lend just if none is idle and it has reached its limit. -/
theorem acquire_eq_poolExhausted_iff (world : World) :
    (pool.acquire.run world).1.1 = .error .poolExhausted ↔
      pool.idle = [] ∧ pool.settings.maxTotal.toNat ≤ pool.total := by
  constructor
  · intro exhausted
    rcases (acquires (Prod.ext (Prod.ext exhausted rfl) rfl)).lends with ⟨deeds, lends⟩
    exact lends.of_exhausted
  · rintro ⟨noneIdle, full⟩
    rw [run_acquire_of_full noneIdle full]

/-- If no connection is lent, the pool is as it was. -/
theorem pool_of_acquire_error {world : World} {failure : Failure}
    (failed : (pool.acquire.run world).1.1 = .error failure) :
    (pool.acquire.run world).1.2 = pool := by
  rcases (acquires (Prod.ext (Prod.ext failed rfl) rfl)).lends with ⟨deeds, lends⟩
  exact lends.noneIdle_of_error.2

end Pool

end SlotClient
