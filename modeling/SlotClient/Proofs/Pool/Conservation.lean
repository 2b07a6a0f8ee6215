import SlotClient.Proofs.Pool.Desk

/-!
# Conservation of connections

The events of a network tell which connections were opened and which were closed. At any time in a
session the ones that were opened are the ones that were closed, those in the queue and those that
are held. The pool counts exactly the latter two, although its count is kept apart from the queue,
and it neither counts nor queues more of them than its settings allow.
-/

namespace SlotClient

open Lending (Step Steps IsBalanced)

namespace Event

def opened? (event : Event) : Option (String × Nat) :=
  match event.activity, event.connection with
  | .connect _, some number => some (event.address, number)
  | _, _ => none

def closed? (event : Event) : Option (String × Nat) :=
  match event.activity, event.connection with
  | .close, some number => some (event.address, number)
  | _, _ => none

end Event

/-- The connections that the events so far tell of. -/
def World.told (world : World) (tell : Event → Option (String × Nat)) : Multiset (String × Nat) :=
  (world.events.filterMap tell : List (String × Nat))

theorem World.told_append {world after : World} {event : Event}
    (appended : after.events = world.events ++ [event])
    (tell : Event → Option (String × Nat)) :
    after.told tell = world.told tell + ((tell event).toList : Multiset (String × Nat)) := by
  unfold told
  rw [appended, List.filterMap_append, ← Multiset.coe_add]
  rcases told : tell event with _ | connection
  · rw [List.filterMap_cons_none told, List.filterMap_nil, Option.toList_none]
  · rw [List.filterMap_cons_some told, List.filterMap_nil, Option.toList_some]

namespace Lending

def connections (lending : Lending) : Multiset (String × Nat) :=
  (lending.pool.idle.map Connection.identity : List (String × Nat)) +
    lending.out.map fun lease => lease.connection.identity

theorem connections_cons (pool : Pool) (lease : Lease) (out : Multiset Lease) (world : World) :
    connections ⟨pool, lease ::ₘ out, world⟩ =
      lease.connection.identity ::ₘ connections ⟨pool, out, world⟩ := by
  simp only [connections, Multiset.map_cons, Multiset.add_cons]

theorem connections_append_idle (pool : Pool) (connection : Connection) (out : Multiset Lease)
    (world : World) :
    connections ⟨{ pool with idle := pool.idle ++ [connection] }, out, world⟩ =
      connection.identity ::ₘ connections ⟨pool, out, world⟩ := by
  simp only [connections, List.map_append, List.map_cons, List.map_nil, ← Multiset.coe_add,
    Multiset.coe_singleton]
  rw [Multiset.add_assoc, Multiset.singleton_add, Multiset.add_cons]

theorem connections_idle_cons (pool : Pool) (connection : Connection) (idle : List Connection)
    (out : Multiset Lease) (world : World) :
    connections ⟨{ pool with idle := connection :: idle }, out, world⟩ =
      connection.identity ::ₘ connections ⟨{ pool with idle }, out, world⟩ := by
  simp only [connections, List.map_cons, ← Multiset.cons_coe, Multiset.cons_add]

/-- The connections that were opened are the ones that were closed and those that the pool counts,
and the pool is within its settings. -/
structure IsAccounted (settings : PoolSettings) (lending : Lending) : Prop where
  settings_eq : lending.pool.settings = settings
  conserved : lending.world.told Event.opened? =
    lending.world.told Event.closed? + lending.connections
  counted : lending.IsBalanced
  idle_le : lending.pool.idle.length ≤ settings.maxIdle.toNat
  total_le : lending.pool.total ≤ settings.maxTotal.toNat

variable {settings : PoolSettings}

theorem IsAccounted.conserved_of_neutral {before after : Lending} {event : Event}
    (conserved : before.world.told Event.opened? =
      before.world.told Event.closed? + before.connections)
    (appended : after.world.events = before.world.events ++ [event])
    (opensNone : event.opened? = none) (closesNone : event.closed? = none)
    (same : after.connections = before.connections) :
    after.world.told Event.opened? = after.world.told Event.closed? + after.connections := by
  rw [World.told_append appended, World.told_append appended, opensNone, closesNone, same]
  simpa using conserved

theorem Step.isAccounted {before after : Lending} (step : Step before after)
    (accounted : before.IsAccounted settings) : after.IsAccounted settings := by
  have balanced := step.isBalanced accounted.counted
  rcases accounted with ⟨set, conserved, _, idleBound, totalBound⟩
  cases step with
  | noted entry => exact ⟨set, conserved, balanced, idleBound, totalBound⟩
  | rotated password => exact ⟨set, conserved, balanced, idleBound, totalBound⟩
  | taken first =>
      cases Pool.takeIdle?_eq_some first
      refine ⟨set, ?_, balanced, Nat.le_of_succ_le idleBound, totalBound⟩
      rw [connections_cons, ← connections_idle_cons]
      exact conserved
  | refused resolved attempt =>
      refine ⟨set, ?_, balanced, idleBound, totalBound⟩
      rcases Connection.establish_error attempt with ⟨unchanged | appended, _⟩
      · unfold World.told at conserved ⊢
        rw [unchanged]
        exact conserved
      · exact IsAccounted.conserved_of_neutral conserved appended rfl rfl rfl
  | @opened pool grown connection out world after socket reserved resolved attempt =>
      rcases Connection.establish_ok attempt with ⟨address, _, appended, _, _⟩
      rcases Pool.reserve?_eq_some reserved with ⟨room, rfl⟩
      rw [set] at room
      refine ⟨set, ?_, balanced, idleBound, room⟩
      rw [World.told_append appended, World.told_append appended, connections_cons,
        Multiset.add_cons]
      simp only [Event.opened?, Event.closed?, Option.toList_some, Option.toList_none,
        Multiset.coe_nil, Multiset.coe_singleton, Multiset.add_zero, Connection.identity, address]
      rw [← Multiset.singleton_add, Multiset.add_comm]
      exact congrArg _ conserved
  | @configured pool lease out world activity setting =>
      refine ⟨set, ?_, balanced, idleBound, totalBound⟩
      have appended : (world.recorded lease.connection.address (some lease.connection.number)
          activity).events = world.events ++ [_] := rfl
      cases activity with
      | connect _ => contradiction
      | send _ => contradiction
      | close => contradiction
      | readTimeout _ => exact IsAccounted.conserved_of_neutral conserved appended rfl rfl rfl
      | writeTimeout _ => exact IsAccounted.conserved_of_neutral conserved appended rfl rfl rfl
      | noDelay => exact IsAccounted.conserved_of_neutral conserved appended rfl rfl rfl
  | @exchanged pool lease used out world after arguments reply exchange =>
      rw [Lease.run_exchange] at exchange
      cases exchange
      refine ⟨set, ?_, balanced, idleBound, totalBound⟩
      refine IsAccounted.conserved_of_neutral conserved (World.events_advance _ _) rfl rfl ?_
      simp only [connections, Multiset.map_cons, Connection.identity_answered]
  | @kept pool lease out world intact room =>
      refine ⟨set, ?_, balanced, ?_, totalBound⟩
      · rw [connections_append_idle, ← connections_cons]
        exact conserved
      · rw [List.length_append, List.length_singleton, ← set]
        exact of_decide_eq_true room
  | @closed pool lease out world counted =>
      refine ⟨set, ?_, balanced, idleBound, (Nat.sub_le _ _).trans totalBound⟩
      have appended : (world.recorded lease.connection.address (some lease.connection.number)
          .close).events = world.events ++ [_] := rfl
      rw [World.told_append appended, World.told_append appended]
      simp only [Event.opened?, Event.closed?, Option.toList_some, Option.toList_none,
        Multiset.coe_nil, Multiset.coe_singleton, Multiset.add_zero]
      rw [connections_cons, Multiset.add_cons] at conserved
      rw [Multiset.add_assoc, Multiset.singleton_add, Multiset.add_cons]
      exact conserved

theorem Steps.isAccounted {before after : Lending} (steps : Steps before after)
    (accounted : before.IsAccounted settings) : after.IsAccounted settings :=
  steps.preserve Step.isAccounted accounted

end Lending

namespace Session

/-- Conservation of connections. Whatever is asked of a pool, on whatever network: the connections
that were opened are those that were closed, those in the queue and those that are held, and the
last two are what the pool counts. So as many were opened as were closed and are counted. The pool
keeps within its limits. The last part says that the session is a sequence of steps of the pool. The
only one of them that counts a connection less is the closing of one, which starts from a count that
is not zero; an attempt to connect that fails only takes its own reservation back. -/
theorem run_conserves_connections (settings : PoolSettings) (password : Option String)
    (hosts : List (String × List IpAddress)) (nodes : List (String × Node))
    (requests : List Desk.Request) :
    let start := create settings password hosts nodes
    let session := start.run requests
    let statistics := session.desk.pool.statistics
    session.world.told Event.opened? =
        session.world.told Event.closed? +
          (session.desk.pool.idle.map Connection.identity : List (String × Nat)) +
          (session.desk.held.map fun entry => entry.2.connection.identity : List (String × Nat)) ∧
      (session.world.told Event.opened?).card =
        (session.world.told Event.closed?).card + statistics.total ∧
      statistics.total = statistics.idle + session.desk.held.length ∧
      statistics.idle ≤ settings.maxIdle.toNat ∧
      statistics.total ≤ settings.maxTotal.toNat ∧
      Steps start.lending session.lending := by
  intro start session statistics
  have steps : Steps start.lending session.lending :=
    (steps_create_run settings password hosts nodes requests).2
  have initial : start.lending.IsAccounted settings :=
    ⟨rfl, rfl, rfl, Nat.zero_le _, Nat.zero_le _⟩
  have accounted := steps.isAccounted initial
  have balanced : statistics.total = statistics.idle + session.desk.held.length := by
    have counted := accounted.counted
    simp only [Lending.IsBalanced, lending, Desk.lending, Desk.leases, Multiset.coe_card,
      List.length_map] at counted
    exact counted
  have conserved := accounted.conserved
  simp only [Lending.connections, lending, Desk.lending, Desk.leases, Multiset.map_coe,
    List.map_map, Function.comp_def] at conserved
  rw [← Multiset.add_assoc] at conserved
  refine ⟨conserved, ?_, balanced, accounted.idle_le, accounted.total_le, steps⟩
  rw [conserved, Multiset.card_add, Multiset.card_add, Multiset.coe_card, Multiset.coe_card,
    List.length_map, List.length_map, balanced, Nat.add_assoc]
  rfl

end Session

end SlotClient
