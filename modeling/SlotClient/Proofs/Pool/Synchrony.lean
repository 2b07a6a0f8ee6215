import SlotClient.Proofs.Pool.Desk

/-!
# Replies in step

A reply must answer the command that it is read for, and not an earlier one. If nodes respond
properly, a connection is in step as long as no exchange on it fails: it has no unread bytes, so the
next reply is read from the response to the next write. Connections that fall out of step are not
put into the queue, whether they do so in an exchange, on being prepared, or on being authenticated
again. So each connection in the queue is in step.
-/

namespace SlotClient

open Lending (Step Steps)
open Wire (Value IsReply)

/-- Whether a reply is what the response to a write says: the value of a complete reply, and else
a failure of the connection. -/
structure Response.IsAnswer (response : Option Response) (reply : Except Failure Value) : Prop where
  ofReply : ∀ value bytes fault, response = some (.data bytes fault) → IsReply value bytes →
    reply = .ok value
  ofFailure : (∀ value bytes fault, response = some (.data bytes fault) → ¬IsReply value bytes) →
    (∃ fault, reply = .error (.transport fault)) ∨ reply = .error .protocol

theorem Failure.transport_or_protocol {failure : Failure}
    (breaks : failure.breaksConnection = true) :
    (∃ fault, failure = .transport fault) ∨ failure = .protocol := by
  cases failure <;> first | contradiction | simp

/-- On a connection in step, the reply is what the response to the write says. -/
theorem Connection.isAnswer_answered {connection : Connection}
    (synchronous : connection.unread = []) {response : Option Response}
    (proper : ∀ given ∈ response, given.IsProper) :
    Response.IsAnswer response (connection.answered response).1 where
  ofReply value bytes fault given complete := by
    rw [given, answered_reply synchronous complete fault]
  ofFailure noReply := by
    rcases answered_failure synchronous proper noReply with ⟨failure, failed⟩
    rw [failed]
    rcases Failure.transport_or_protocol (breaksConnection_of_answered failed) with
      ⟨fault, rfl⟩ | rfl
    · exact Or.inl ⟨fault, rfl⟩
    · exact Or.inr rfl

/-- A connection in step is so after an exchange that spared it. -/
theorem Connection.unread_of_spared {connection : Connection}
    (synchronous : connection.unread = []) {response : Option Response}
    (proper : ∀ given ∈ response, given.IsProper)
    (spared : Failure.sparesConnection (connection.answered response).1 = true) :
    (connection.answered response).2.unread = [] := by
  rcases reply : (connection.answered response).1 with failure | value
  · rw [reply, Failure.sparesConnection, breaksConnection_of_answered reply] at spared
    contradiction
  · exact unread_of_answered synchronous proper reply

namespace Lending

/-- All responses to come are proper, and all connections that may be used again are in step. -/
structure IsSynchronous (lending : Lending) : Prop where
  proper : ∀ address, ∀ response ∈ lending.world.pending address, response.IsProper
  idle : ∀ connection ∈ lending.pool.idle, connection.unread = []
  out : ∀ lease ∈ lending.out, lease.isIntact = true → lease.connection.unread = []

theorem IsSynchronous.ofPending {before after : Lending} (synchronous : before.IsSynchronous)
    (pending : after.world.pending = before.world.pending)
    (idle : ∀ connection ∈ after.pool.idle, connection.unread = [])
    (out : ∀ lease ∈ after.out, lease.isIntact = true → lease.connection.unread = []) :
    after.IsSynchronous := by
  refine ⟨?_, idle, out⟩
  rw [pending]
  exact synchronous.proper

theorem Step.isSynchronous {before after : Lending} (step : Step before after)
    (synchronous : before.IsSynchronous) : after.IsSynchronous := by
  rcases synchronous with ⟨proper, idle, out⟩
  cases step with
  | noted entry => exact ⟨proper, idle, out⟩
  | rotated password => exact ⟨proper, idle, out⟩
  | taken first =>
      cases Pool.takeIdle?_eq_some first
      rw [List.forall_mem_cons] at idle
      exact ⟨proper, idle.2, Multiset.forall_mem_cons.mpr ⟨fun _ => idle.1, out⟩⟩
  | refused resolved attempt =>
      rcases Connection.establish_error attempt with ⟨_, pending, _⟩
      exact IsSynchronous.ofPending ⟨proper, idle, out⟩ pending idle out
  | opened reserved resolved attempt =>
      rcases Connection.establish_ok attempt with ⟨_, unread, _, pending, _⟩
      rcases Pool.reserve?_eq_some reserved with ⟨_, rfl⟩
      exact IsSynchronous.ofPending ⟨proper, idle, out⟩ pending idle
        (Multiset.forall_mem_cons.mpr ⟨fun _ => unread, out⟩)
  | configured setting => exact ⟨proper, idle, out⟩
  | @exchanged pool lease used others world after arguments reply exchange =>
      rw [Lease.run_exchange] at exchange
      cases exchange
      rw [Multiset.forall_mem_cons] at out
      refine ⟨?_, idle, Multiset.forall_mem_cons.mpr ⟨?_, out.2⟩⟩
      · intro address response member
        unfold Connection.writtenWorld at member
        rw [World.pending_advance, World.pending_recorded] at member
        split at member
        · exact proper _ response (List.mem_of_mem_tail member)
        · exact proper _ response member
      · intro intact
        rw [Bool.and_eq_true] at intact
        refine Connection.unread_of_spared (out.1 intact.1) ?_ intact.2
        intro given next
        exact proper _ given (List.mem_of_mem_head? next)
  | kept intact room =>
      rw [Multiset.forall_mem_cons] at out
      refine ⟨proper, ?_, out.2⟩
      rw [List.forall_mem_append, List.forall_mem_singleton]
      exact ⟨idle, out.1 intact⟩
  | closed counted =>
      rw [Multiset.forall_mem_cons] at out
      exact ⟨proper, idle, out.2⟩

theorem Steps.isSynchronous {before after : Lending} (steps : Steps before after)
    (synchronous : before.IsSynchronous) : after.IsSynchronous :=
  steps.preserve Step.isSynchronous synchronous

end Lending

namespace Desk

/-- Whether an exchange of a holder has failed since a connection was lent to it, after a request
and by what was so before. -/
def failedAfter (holder : String) (failed : Bool) : Request → Answer → Bool
  | .acquire name, .done (.ok ()) => if name = holder then false else failed
  | .exchange name _, .reply (.error _) => if name = holder then true else failed
  | _, _ => failed

/-- Connections on which no exchange failed are intact. -/
def HasIntact (desk : Desk) (failed : String → Bool) : Prop :=
  ∀ holder lease, desk.held.lookup holder = some lease → failed holder = false →
    lease.isIntact = true

theorem hasIntact_serves {desk after : Desk} {world final : World} {request : Request}
    {answer : Answer} {failed : String → Bool} (intact : desk.HasIntact failed)
    (serves : Serves desk world request answer after final) :
    after.HasIntact fun holder => failedAfter holder (failed holder) request answer := by
  intro holder lease holds spared
  cases serves with
  | @lent name lent pool wasHeld rest there final acquires released =>
      rw [lookup_cons_ite, held_release released] at holds
      split at holds
      · cases holds
        cases acquires <;> rfl
      · rename_i different
        rw [others, lookup_filter_ne different] at holds
        simp only [failedAfter, if_neg (Ne.symm different)] at spared
        exact intact holder lease holds spared
  | notLent acquires => exact intact holder lease holds spared
  | notHeld missing => exact intact holder lease holds spared
  | @exchanged name arguments old used reply final old_holds exchange =>
      rw [lookup_cons_ite] at holds
      split at holds
      · rename_i here
        cases holds
        rw [Lease.run_exchange] at exchange
        cases exchange
        rcases reply : (old.connection.answered
          (world.pending old.connection.address).head?).1 with failure | value
        · simp only [reply, failedAfter, here, if_true] at spared
          contradiction
        · simp only [reply, failedAfter] at spared
          simp only [Failure.sparesConnection, Bool.and_true]
          exact intact holder old (here ▸ old_holds) spared
      · rename_i different
        rw [others, lookup_filter_ne different] at holds
        refine intact holder lease holds ?_
        rcases reply with failure | value
        · simpa only [failedAfter, if_neg (Ne.symm different)] using spared
        · exact spared
  | @released name wasHeld rest final released =>
      rw [held_release released] at holds
      by_cases same : holder = name
      · rw [same, others, lookup_filter_self] at holds
        contradiction
      · rw [others, lookup_filter_ne same] at holds
        exact intact holder lease holds spared
  | rotated password => exact intact holder lease holds spared
  | authenticated authenticated => exact intact holder lease holds spared

end Desk

namespace Session

/-- Whether an exchange of a holder has failed since a connection was lent to it. -/
def hasFailed (session : Session) (holder : String) : Bool :=
  session.served.foldl (fun failed entry => Desk.failedAfter holder failed entry.1 entry.2) false

theorem hasFailed_serve (session : Session) (request : Desk.Request) (holder : String) :
    (session.serve request).hasFailed holder =
      Desk.failedAfter holder (session.hasFailed holder) request
        ((session.desk.serve request).run session.world).1.1 := by
  have served : (session.serve request).served =
      session.served ++ [(request, ((session.desk.serve request).run session.world).1.1)] := rfl
  rw [hasFailed, served, List.foldl_append, List.foldl_cons, List.foldl_nil, ← hasFailed]

theorem hasIntact_serve {session : Session} (intact : session.desk.HasIntact session.hasFailed)
    (request : Desk.Request) :
    (session.serve request).desk.HasIntact (session.serve request).hasFailed := by
  intro holder lease holds spared
  rw [hasFailed_serve] at spared
  exact Desk.hasIntact_serves intact (Desk.serves rfl) holder lease holds spared

theorem hasIntact_run {session : Session} (intact : session.desk.HasIntact session.hasFailed)
    (requests : List Desk.Request) :
    (session.run requests).desk.HasIntact (session.run requests).hasFailed := by
  induction requests generalizing session with
  | nil => exact intact
  | cons request requests ih => exact ih (hasIntact_serve intact request)

theorem serve_exchange {session : Session} {holder : String} {lease : Lease}
    (holds : session.desk.held.lookup holder = some lease) (arguments : List Bytes) :
    session.serve (.exchange holder arguments) =
      let (reply, connection) := lease.connection.answered
        (session.world.pending lease.connection.address).head?
      let used : Lease := ⟨connection, lease.isIntact && Failure.sparesConnection reply⟩
      { desk := { session.desk with held := (holder, used) :: session.desk.others holder }
        world := lease.connection.writtenWorld (Wire.encodeCommand arguments) session.world
        served := session.served ++ [(.exchange holder arguments, .reply reply)] } := by
  simp only [serve, Desk.serve, holds, Action.run_bind, Lease.run_exchange]
  rfl

/-- No reply is delivered to another command. If all responses of the nodes are complete replies or
failures, then after any requests each connection in the queue is without unread bytes. A further
command on a connection on which none has failed since it was lent writes just that command, takes
one response from the node of the connection, leaves those of all other nodes, and returns what this
response says. -/
theorem run_answers_in_step (settings : PoolSettings) (password : Option String)
    (hosts : List (String × List IpAddress)) (nodes : List (String × Node))
    (proper : ∀ entry ∈ nodes, ∀ response ∈ entry.2.responses, response.IsProper)
    (requests : List Desk.Request) :
    let session := (create settings password hosts nodes).run requests
    (∀ connection ∈ session.desk.pool.idle, connection.unread = []) ∧
      ∀ holder lease arguments, session.desk.held.lookup holder = some lease →
        session.hasFailed holder = false →
        let connection := lease.connection
        let after := session.serve (.exchange holder arguments)
        ∃ reply, after.served =
            session.served ++ [(.exchange holder arguments, .reply reply)] ∧
          Response.IsAnswer (session.world.pending connection.address).head? reply ∧
          after.world.events = session.world.events ++
            [⟨connection.address, some connection.number,
              .send (Wire.encodeCommand arguments)⟩] ∧
          ∀ address, after.world.pending address =
            if address = connection.address then (session.world.pending address).tail
            else session.world.pending address := by
  intro session
  have steps : Steps (create settings password hosts nodes).lending session.lending :=
    (steps_create_run settings password hosts nodes requests).2
  have initial : (create settings password hosts nodes).lending.IsSynchronous := by
    refine ⟨?_, List.forall_mem_nil _, fun _ member => absurd member (Multiset.notMem_zero _)⟩
    intro address response member
    unfold World.pending at member
    rcases found : nodes.lookup address with _ | node
    · simp only [Session.lending, create, Desk.lending, found, Option.map_none,
        Option.getD_none, List.not_mem_nil] at member
    · simp only [Session.lending, create, Desk.lending, found, Option.map_some,
        Option.getD_some] at member
      exact proper _ (mem_of_lookup found) response member
  have synchronous := steps.isSynchronous initial
  refine ⟨synchronous.idle, ?_⟩
  intro holder lease arguments holds spared connection after
  have start : (create settings password hosts nodes).desk.HasIntact
      (create settings password hosts nodes).hasFailed :=
    fun _ _ impossible => absurd impossible (Option.some_ne_none _).symm
  have intact : session.desk.HasIntact session.hasFailed := hasIntact_run start requests
  have member : lease ∈ session.lending.out := by
    have entry := List.mem_map_of_mem (f := Prod.snd) (mem_of_lookup holds)
    exact Multiset.mem_coe.mpr entry
  have inStep := synchronous.out lease member (intact holder lease holds spared)
  have next : ∀ given ∈ (session.world.pending connection.address).head?, given.IsProper :=
    fun given next => synchronous.proper _ given (List.mem_of_mem_head? next)
  have served : after = _ := serve_exchange holds arguments
  rw [served]
  refine ⟨_, rfl, Connection.isAnswer_answered inStep next, World.events_advance _ _, ?_⟩
  intro address
  have advanced := World.pending_advance (session.world.recorded connection.address
    (some connection.number) (.send (Wire.encodeCommand arguments))) connection.address address
  rw [World.pending_recorded] at advanced
  refine advanced.trans ?_
  split
  · rename_i here
    rw [here]
  · rfl

/-- A node that answers `OK` to one command and breaks off in its answer to the next one: the first
exchange returns its reply, and the second one fails. -/
theorem run_answers_in_step_truncated :
    let session := (create ⟨⟨"1.2.3.4:5", none, none, none, none, none⟩, 1, 1⟩ none []
      [("1.2.3.4:5", ⟨[], [.data [43, 79, 75, 13, 10] none, .data [43, 79] none], 0⟩)]).run
        [.acquire "a"]
    let answered := session.serve (.exchange "a" [[71]])
    answered.served =
        [(.acquire "a", .done (.ok ())),
          (.exchange "a" [[71]], .reply (.ok (.simple [79, 75])))] ∧
      ∃ reply, (answered.serve (.exchange "a" [[72]])).served =
          answered.served ++ [(.exchange "a" [[72]], .reply reply)] ∧
        ((∃ fault, reply = .error (.transport fault)) ∨ reply = .error .protocol) := by
  intro session answered
  have complete : IsReply (.simple [79, 75]) [43, 79, 75, 13, 10] := by
    refine ⟨Wire.Frame.simple [79, 75], ?_, ?_, ?_, ?_⟩
    all_goals
      simp [Value.LinesAvoid, Value.BulksFit, Value.parts, Value.lineText?, Value.height,
        Bytes.lineFeed, Bytes.carriageReturn]
  have proper : ∀ entry ∈ [("1.2.3.4:5",
      (⟨[], [.data [43, 79, 75, 13, 10] none, .data [43, 79] none], 0⟩ : Node))],
      ∀ response ∈ entry.2.responses, response.IsProper := by
    intro entry entryMember response member
    rw [List.mem_singleton.mp entryMember] at member
    rcases List.mem_cons.mp member with rfl | member
    · exact .reply none complete
    · rw [List.mem_singleton.mp member]
      exact .broken none complete (List.cons_ne_nil 75 [13, 10]) rfl
  have inStep (requests : List Desk.Request) :=
    (run_answers_in_step ⟨⟨"1.2.3.4:5", none, none, none, none, none⟩, 1, 1⟩ none [] _ proper
      requests).2 "a" { connection := ⟨"1.2.3.4:5", 1, [], none⟩ }
  constructor
  · rcases inStep [.acquire "a"] [[71]] rfl rfl with ⟨reply, served, answer, _⟩
    rw [answer.ofReply _ _ none rfl complete] at served
    exact served
  · rcases inStep [.acquire "a", .exchange "a" [[71]]] [[72]] rfl rfl with
      ⟨reply, served, answer, _⟩
    refine ⟨reply, served, answer.ofFailure ?_⟩
    intro value bytes fault given whole
    cases given
    have broken : (Wire.read none [43, 79]).1 = .error .protocol := rfl
    rw [Wire.read_frame none whole.frame whole.noFeed whole.fits whole.shallow] at broken
    contradiction

end Session

end SlotClient
