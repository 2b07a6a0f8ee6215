import Mathlib.Data.List.Induction
import SlotClient.Proofs.Pool.Reauthentication

/-!
# Who has waited longest

A connection joins the queue at its end and leaves it at its head, or when it breaks while it is
authenticated. So whatever is asked of a pool, connections that stay in the queue stay in their
order, and the one at the head has been idle for at least as long as any other. It is the one that
is lent next.

Together with what a pool does when none is idle, this says what becomes of a request for a
connection. If it fails, nothing is left of it but what it has done to the network, where each
connection that was opened has been closed, so that any number of failures have no bearing on what
is lent later.
-/

namespace SlotClient

/-- A queue keeps its order: some of its connections may have left, and those that have come stand
behind the others. -/
def KeepsOrder (queue later : List (String × Nat)) : Prop :=
  ∃ kept fresh, later = kept ++ fresh ∧ kept.Sublist queue ∧
    ∀ connection ∈ fresh, connection ∉ queue

section KeepsOrder

variable {queue later : List (String × Nat)} {first second : String × Nat}

theorem keepsOrder_of_sublist (fewer : later.Sublist queue) : KeepsOrder queue later :=
  ⟨later, [], (List.append_nil _).symm, fewer, List.forall_mem_nil _⟩

theorem keepsOrder_of_join {kept : List (String × Nat)} (fewer : kept.Sublist queue)
    (isNew : first ∉ queue) : KeepsOrder queue (kept ++ [first]) :=
  ⟨kept, [first], rfl, fewer, List.forall_mem_singleton.mpr isNew⟩

/-- What stands in front of a connection that has been in the queue before stood in front of it
before. -/
theorem KeepsOrder.before (keeps : KeepsOrder queue later) (waited : second ∈ queue)
    (ordered : [first, second].Sublist later) : [first, second].Sublist queue := by
  rcases keeps with ⟨kept, fresh, rfl, fewer, isNew⟩
  rcases List.sublist_append_iff.mp ordered with ⟨front, back, whole, within, behind⟩
  rcases List.eq_nil_or_concat back with rfl | ⟨_, last, rfl⟩
  · rw [List.append_nil] at whole
    rw [whole]
    exact within.trans fewer
  · -- The second connection is the last one behind, but it is not new.
    rw [List.concat_eq_append, ← List.append_assoc] at whole
    have same : second = last := by simpa using congrArg List.getLast? whole
    have member : second ∈ fresh := behind.subset (by simp [same])
    exact absurd waited (isNew second member)

end KeepsOrder

namespace Pool

variable {pool after : Pool} {deeds : List Deed} {lease : Lease} {result : Except Failure Unit}

theorem Lends.idle_sublist (lends : pool.Lends deeds (.ok lease) after) :
    after.idle.Sublist pool.idle := by
  cases lends with
  | reused first =>
      cases takeIdle?_eq_some first
      exact List.sublist_cons_self _ _
  | opened noneIdle reserved made =>
      rcases reserve?_eq_some reserved with ⟨_, rfl⟩
      exact List.Sublist.refl _

theorem Settles.idle_cases {connection : Connection} {intact : Bool}
    (settles : pool.Settles connection intact deeds after) :
    after.idle = pool.idle ∨ after.idle = pool.idle ++ [connection] := by
  cases settles with
  | kept room => exact Or.inr rfl
  | crowded full => exact Or.inl rfl
  | broken => exact Or.inl rfl

/-- When idle connections are authenticated, those that stay idle stay in their order. -/
theorem Reauthenticates.keepsOrder (reauthenticates : pool.Reauthenticates deeds result after)
    (room : pool.idle.length ≤ pool.settings.maxIdle.toNat)
    (counted : pool.idle.length ≤ pool.total) :
    KeepsOrder (pool.idle.map Connection.identity) (after.idle.map Connection.identity) := by
  cases reauthenticates with
  | unset unset => exact keepsOrder_of_sublist (List.Sublist.refl _)
  | probed set noneIdle probes =>
      rw [noneIdle]
      exact ⟨[], _, rfl, List.Sublist.refl _, fun _ _ => List.not_mem_nil⟩
  | asked set someIdle authenticates =>
      rcases (Reauthenticates.asked set someIdle authenticates).asks_each set someIdle room counted
        with ⟨asked, isIdle, _, spared, _⟩
      rw [spared, ← isIdle, List.map_map]
      exact keepsOrder_of_sublist (List.filter_sublist.map _)

end Pool

namespace Desk

variable {desk after : Desk} {request : Request} {answer : Answer} {deeds : List Deed}
  {holder : String}

theorem Returns.idle_cases (returns : desk.Returns holder deeds after) :
    after.pool.idle = desk.pool.idle ∨
      ∃ entry ∈ desk.held, after.pool.idle = desk.pool.idle ++ [entry.2.connection] := by
  cases returns with
  | nothing missing => exact Or.inl rfl
  | settled holds settles =>
      rcases settles.idle_cases with same | joined
      · exact Or.inl same
      · exact Or.inr ⟨_, mem_of_lookup holds, joined⟩

/-- A connection that comes back stands behind those that are still idle. -/
theorem Returns.keepsOrder {queue : List (String × Nat)}
    (returns : desk.Returns holder deeds after)
    (fewer : (desk.pool.idle.map Connection.identity).Sublist queue)
    (apart : ∀ entry ∈ desk.held, entry.2.connection.identity ∉ queue) :
    KeepsOrder queue (after.pool.idle.map Connection.identity) := by
  rcases returns.idle_cases with same | ⟨entry, held, joined⟩
  · rw [same]
    exact keepsOrder_of_sublist fewer
  · rw [joined, List.map_append, List.map_singleton]
    exact keepsOrder_of_join fewer (apart entry held)

/-- Whatever is asked, the queue keeps its order. -/
theorem Handles.keepsOrder (handles : desk.Handles request answer deeds after)
    (room : desk.pool.idle.length ≤ desk.pool.settings.maxIdle.toNat)
    (counted : desk.pool.idle.length ≤ desk.pool.total)
    (apart : ∀ entry ∈ desk.held,
      entry.2.connection.identity ∉ desk.pool.idle.map Connection.identity) :
    KeepsOrder (desk.pool.idle.map Connection.identity)
      (after.pool.idle.map Connection.identity) := by
  have unchanged := keepsOrder_of_sublist
    (List.Sublist.refl (desk.pool.idle.map Connection.identity))
  cases handles with
  | lent lends returns => exact returns.keepsOrder (lends.idle_sublist.map _) apart
  | notLent lends =>
      rw [lends.noneIdle_of_error.2]
      exact unchanged
  | notHeld missing => exact unchanged
  | exchanged holds => exact unchanged
  | released returns => exact returns.keepsOrder (List.Sublist.refl _) apart
  | rotated password => exact unchanged
  | authenticated reauthenticates => exact reauthenticates.keepsOrder room counted

/-- If no connection is lent, the desk is as it was. -/
theorem Handles.desk_of_notLent {failure : Failure}
    (handles : desk.Handles (.acquire holder) (.done (.error failure)) deeds after) :
    after = desk := by
  cases handles with
  | notLent lends => rw [lends.noneIdle_of_error.2]

end Desk

namespace Session

variable {origin : World} {settings : PoolSettings} {session : Session}
  {requests : List Desk.Request} {first second : String × Nat}

/-- The connections that are idle, in the order in which they will be lent. -/
def queue (session : Session) : List (String × Nat) :=
  session.desk.pool.idle.map Connection.identity

/-- Whether a connection has been idle all the time while requests were served, and since before the
first of them. -/
def HasWaited (session : Session) (requests : List Desk.Request) (connection : String × Nat) :
    Prop :=
  ∀ served, served <+: requests → connection ∈ (session.run served).queue

theorem run_concat (session : Session) (requests : List Desk.Request) (request : Desk.Request) :
    session.run (requests ++ [request]) = (session.run requests).serve request :=
  run_append session requests [] request

theorem HasWaited.of_concat {request : Desk.Request} {connection : String × Nat}
    (waited : session.HasWaited (requests ++ [request]) connection) :
    session.HasWaited requests connection :=
  fun served early => waited served (early.trans (List.prefix_append _ _))

theorem IsInOrder.keepsOrder (inOrder : session.IsInOrder origin settings)
    (request : Desk.Request) : KeepsOrder session.queue (session.serve request).queue := by
  rcases inOrder.seen request with ⟨answer, deeds, _, _, handles⟩
  apply handles.keepsOrder inOrder.idle_le inOrder.idle_le_total
  intro entry held idle
  exact inOrder.not_held_of_idle idle (List.mem_map_of_mem held)

/-- Of two connections that are idle, the one in front has been idle for at least as long. -/
theorem IsInOrder.hasWaited_of_before (inOrder : session.IsInOrder origin settings)
    (ordered : [first, second].Sublist (session.run requests).queue)
    (waited : session.HasWaited requests second) : session.HasWaited requests first := by
  induction requests using List.reverseRecOn with
  | nil =>
      intro served early
      rw [List.prefix_nil.mp early]
      exact ordered.subset List.mem_cons_self
  | append_singleton requests request ih =>
      have before := ordered
      rw [run_concat] at before
      have keeps := (inOrder.run requests).keepsOrder request
      have there := keeps.before (waited requests (List.prefix_append _ _)) before
      have earlier := ih there waited.of_concat
      intro served early
      rcases List.prefix_concat_iff.mp early with rfl | early
      · exact ordered.subset List.mem_cons_self
      · exact earlier served early

/-- The connection that is lent next has been idle for at least as long as any other. -/
theorem IsInOrder.head_hasWaited (inOrder : session.IsInOrder origin settings)
    {rest : List (String × Nat)} (waiting : (session.run requests).queue = first :: rest)
    (idle : second ∈ (session.run requests).queue)
    (waited : session.HasWaited requests second) : session.HasWaited requests first := by
  rw [waiting, List.mem_cons] at idle
  rcases idle with rfl | later
  · exact waited
  · refine inOrder.hasWaited_of_before ?_ waited
    rw [waiting]
    exact (List.singleton_sublist.mpr later).cons_cons first

theorem served_prefix (session : Session) (requests : List Desk.Request) :
    session.served <+: (session.run requests).served := by
  induction requests generalizing session with
  | nil => exact List.prefix_refl _
  | cons request requests ih => exact (List.prefix_append _ _).trans (ih (session.serve request))

/-- What is left of requests for connections that have all failed. -/
theorem IsInOrder.desk_of_refusals (inOrder : session.IsInOrder origin settings)
    {refusals : List (String × Failure)}
    (answered : (session.run (refusals.map fun refusal => .acquire refusal.1)).served =
      session.served ++ refusals.map fun refusal =>
        (.acquire refusal.1, .done (.error refusal.2))) :
    (session.run (refusals.map fun refusal => .acquire refusal.1)).desk = session.desk := by
  induction refusals generalizing session with
  | nil => rfl
  | cons refusal refusals ih =>
      rcases inOrder.seen (.acquire refusal.1) with ⟨answer, deeds, served, _, handles⟩
      rcases served_prefix (session.serve (.acquire refusal.1))
        (refusals.map fun refusal => .acquire refusal.1) with ⟨more, grown⟩
      have whole : session.served ++ (.acquire refusal.1, answer) :: more = _ :=
        (List.append_cons ..).trans ((served ▸ grown).trans answered)
      cases List.append_cancel_left whole
      exact (ih (inOrder.serve _) grown.symm).trans handles.desk_of_notLent

theorem serve_acquire_of_error (session : Session) (holder : String) {failure : Failure}
    (failed : (session.desk.pool.acquire.run session.world).1.1 = .error failure) :
    session.serve (.acquire holder) =
      { session with
        world := (session.desk.pool.acquire.run session.world).2
        served := session.served ++ [(.acquire holder, .done (.error failure))] } := by
  have same := Pool.pool_of_acquire_error failed
  unfold serve Desk.serve
  dsimp only
  rw [Action.run_bind]
  generalize session.desk.pool.acquire.run session.world = ran at failed same
  rcases ran with ⟨⟨outcome, pool⟩, final⟩
  dsimp only at failed same
  subst failed same
  rfl

/-- A request for a connection is granted or leaves no trace. Whatever was asked of a pool before, on
whatever network: if connections are idle, the first one is lent, which has been idle for at least as
long as any other, and nothing else changes, also if the pool has reached its limit. If none is idle
and the limit is reached, nothing happens at all. Otherwise one connection is made, in one attempt
to connect; if it gets ready, it is lent and counted. If it does not, each connection that was opened
has been closed, and the queue, the count and the connections that are held are as they were. So
after any number of requests that have failed the desk is as it was, and what comes next is refused
just if it would have been before. -/
theorem acquire_is_all_or_nothing (settings : PoolSettings) (password : Option String)
    (hosts : List (String × List IpAddress)) (nodes : List (String × Node))
    (requests : List Desk.Request) :
    let start := create settings password hosts nodes
    let session := start.run requests
    let pool := session.desk.pool
    let ran := pool.acquire.run session.world
    (∀ first rest, pool.idle = first :: rest →
      ran = ((.ok { connection := first }, { pool with idle := rest }), session.world) ∧
        ∀ earlier later, requests = earlier ++ later → ∀ other ∈ session.queue,
          (start.run earlier).HasWaited later other →
            (start.run earlier).HasWaited later first.identity) ∧
      (pool.idle = [] → settings.maxTotal.toNat ≤ pool.total →
        ran = ((.error .poolExhausted, pool), session.world)) ∧
      (pool.idle = [] → pool.total < settings.maxTotal.toNat →
        let attempt := (Connection.connect settings.connections pool.password).run session.world
        ran.1.1 = attempt.1.map (fun connection => { connection }) ∧ ran.2 = attempt.2 ∧
          ∃ opened closed, session.world.Reports ran.2
              (settings.connections.attempts session.world.hosts) opened closed ∧
            (∀ connection, attempt.1 = .ok connection →
              ran.1.2 = { pool with total := pool.total + 1 } ∧
                opened = [connection.identity] ∧ closed = []) ∧
            ∀ failure, attempt.1 = .error failure → ran.1.2 = pool ∧ opened = closed) ∧
      (∀ failure, ran.1.1 = .error failure → ∀ holder,
        session.serve (.acquire holder) =
          { session with
            world := ran.2
            served := session.served ++ [(.acquire holder, .done (.error failure))] }) ∧
      ∀ refusals : List (String × Failure),
        let later := session.run (refusals.map fun refusal => .acquire refusal.1)
        later.served = session.served ++
            refusals.map (fun refusal => (.acquire refusal.1, .done (.error refusal.2))) →
          later.desk = session.desk ∧
            ((later.desk.pool.acquire.run later.world).1.1 = .error .poolExhausted ↔
              ran.1.1 = .error .poolExhausted) := by
  intro start session pool ran
  have created : start.IsInOrder start.world settings := isInOrder_create ..
  have inOrder : session.IsInOrder start.world settings := created.run requests
  have known : pool.settings = settings := inOrder.settings_eq
  refine ⟨?_, ?_, ?_, ?_, ?_⟩
  · intro first rest waiting
    refine ⟨Pool.run_acquire_of_idle waiting _, ?_⟩
    rintro earlier later rfl other idle waited
    have whole : session = (start.run earlier).run later := List.foldl_append
    have head : session.queue = first.identity :: rest.map Connection.identity :=
      congrArg (List.map Connection.identity) waiting
    rw [whole] at head idle
    exact (created.run earlier).head_hasWaited head idle waited
  · intro noneIdle full
    rw [← known] at full
    exact Pool.run_acquire_of_full noneIdle full _
  · intro noneIdle room attempt
    rw [← known] at room
    have made : ran = _ := Pool.run_acquire_of_room noneIdle room session.world
    rw [known] at made
    have connects : Connection.Connects settings.connections pool.password session.world attempt.1
        attempt.2 := Connection.connects rfl
    rcases connects.reports with ⟨opened, closed, reports, failing, succeeding⟩
    rw [made]
    refine ⟨rfl, rfl, opened, closed, reports, ?_, ?_⟩
    · intro connection isReady
      refine ⟨?_, succeeding connection isReady⟩
      change pool.afterAttempt attempt.1 = _
      rw [isReady]
      rfl
    · intro failure failed
      refine ⟨?_, failing failure failed⟩
      change pool.afterAttempt attempt.1 = _
      rw [failed]
      rfl
  · intro failure failed holder
    exact session.serve_acquire_of_error holder failed
  · intro refusals later answered
    have unchanged : later.desk = session.desk := inOrder.desk_of_refusals answered
    refine ⟨unchanged, ?_⟩
    rw [unchanged]
    exact (Pool.acquire_eq_poolExhausted_iff _).trans (Pool.acquire_eq_poolExhausted_iff _).symm

end Session

end SlotClient
