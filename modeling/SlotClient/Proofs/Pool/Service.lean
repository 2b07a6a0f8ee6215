import SlotClient.Proofs.Pool.Conservation
import SlotClient.Proofs.Pool.Dealings
import SlotClient.Proofs.Pool.Lifetime

/-!
# What is seen of a session

A request to a desk, told by what an observer sees of it. `Desk.Handles` has one constructor for
each way in which a request can be served, and mentions no world. In a session the history of the
network is made up of the deeds of the requests, one after the other.
-/

namespace SlotClient

open Wire (Value)

namespace Desk

/-- What a holder has comes back, if it has anything. -/
inductive Returns (desk : Desk) (holder : String) : List Deed → Desk → Prop
  | nothing (missing : desk.held.lookup holder = none) : Returns desk holder [] desk
  | settled {lease : Lease} {deeds : List Deed} {pool : Pool}
      (holds : desk.held.lookup holder = some lease)
      (settles : desk.pool.Settles lease.connection lease.isIntact deeds pool) :
      Returns desk holder deeds { pool, held := desk.others holder }

/-- What is seen of a request, with its answer and the desk after it. -/
inductive Handles (desk : Desk) : Request → Answer → List Deed → Desk → Prop
  | lent {holder : String} {lease : Lease} {pool : Pool} {made back : List Deed} {rest : Desk}
      (lends : desk.pool.Lends made (.ok lease) pool)
      (returns : Returns { desk with pool } holder back rest) :
      Handles desk (.acquire holder) (.done (.ok ())) (made ++ back)
        { rest with held := (holder, lease) :: rest.held }
  | notLent {holder : String} {failure : Failure} {pool : Pool} {deeds : List Deed}
      (lends : desk.pool.Lends deeds (.error failure) pool) :
      Handles desk (.acquire holder) (.done (.error failure)) deeds { desk with pool }
  | notHeld {holder : String} {arguments : List Bytes}
      (missing : desk.held.lookup holder = none) :
      Handles desk (.exchange holder arguments) .notHeld [] desk
  | exchanged {holder : String} {arguments : List Bytes} {lease used : Lease}
      {reply : Except Failure Value} (holds : desk.held.lookup holder = some lease) :
      Handles desk (.exchange holder arguments) (.reply reply)
        (lease.connection.deeds [(arguments, reply)])
        { desk with held := (holder, used) :: desk.others holder }
  | released {holder : String} {wasHeld : Bool} {deeds : List Deed} {rest : Desk}
      (returns : desk.Returns holder deeds rest) :
      Handles desk (.release holder) (.released wasHeld) deeds rest
  | rotated (password : Option String) :
      Handles desk (.setPassword password) (.done (.ok ())) []
        { desk with pool := desk.pool.setPassword password }
  | authenticated {outcome : Except Failure Unit} {deeds : List Deed} {pool : Pool}
      (reauthenticates : desk.pool.Reauthenticates deeds outcome pool) :
      Handles desk .reauthenticate (.done outcome) deeds { desk with pool }

/-- The terms on which a desk serves a request. -/
def terms (desk : Desk) (request : Request) : Terms where
  limitsAreAccepted := desk.pool.settings.connections.LimitsAreAccepted
  handshake := desk.pool.settings.connections.handshake desk.pool.password
  commands :=
    match request with
    | .exchange _ arguments => [arguments]
    | .reauthenticate => desk.pool.password.toList.map
        (Connection.authentication desk.pool.settings.connections.username)
    | _ => []

/-- The connections of a desk, those in the queue and those that are held. -/
def connections (desk : Desk) : Multiset Connection :=
  desk.pool.idle + (leases desk.held).map Lease.connection

variable {desk after : Desk} {world final : World} {holder : String} {terms : Terms}

/-- What is sent for a command of a holder is just that command. -/
theorem Handles.of_exchange {arguments : List Bytes} {answer : Answer} {deeds : List Deed}
    {lease : Lease} (handles : desk.Handles (.exchange holder arguments) answer deeds after)
    (holds : desk.held.lookup holder = some lease) :
    ∃ reply, answer = .reply reply ∧
      deeds = [.exchanged lease.connection.identity (Wire.encodeCommand arguments) reply] := by
  cases handles with
  | notHeld missing =>
      rw [holds] at missing
      cases missing
  | exchanged also =>
      rw [holds] at also
      cases also
      exact ⟨_, rfl, rfl⟩

theorem connections_cons (holder : String) (lease : Lease) (desk : Desk) :
    connections { desk with held := (holder, lease) :: desk.held } =
      lease.connection ::ₘ desk.connections := by
  rw [connections, leases_cons, Multiset.map_cons, Multiset.add_cons, connections]

theorem connections_others {lease : Lease} (distinct : desk.HasDistinctHolders)
    (holds : desk.held.lookup holder = some lease) :
    desk.connections =
      lease.connection ::ₘ connections { desk with held := desk.others holder } := by
  rw [connections, leases_others distinct holds, Multiset.map_cons, Multiset.add_cons, connections]

theorem dealings_release (distinct : desk.HasDistinctHolders) {wasHeld : Bool}
    (ran : (desk.release holder).run world = ((wasHeld, after), final))
    (more : Multiset Connection) :
    ∃ deeds, Dealings terms (desk.connections + more) world deeds (after.connections + more) final ∧
      desk.Returns holder deeds after := by
  unfold release at ran
  rcases holds : desk.held.lookup holder with _ | lease
  · rw [holds] at ran
    cases ran
    exact ⟨[], .nothing _ _, .nothing holds⟩
  · rw [holds] at ran
    rcases Action.bind_cases ran with ⟨pool, last, released, ran⟩
    cases ran
    rcases Pool.comesBack_release released
      ((leases (desk.others holder)).map Lease.connection + more) with ⟨deeds, dealings, settles⟩
    refine ⟨deeds, ?_, .settled holds settles⟩
    rw [connections_others distinct holds, Multiset.cons_add, connections, connections, add_assoc,
      add_assoc]
    exact dealings

/-- Serving a request is a sequence of dealings, of which is seen what the request is handled by. -/
theorem dealings_serve {request : Request} {answer : Answer} (distinct : desk.HasDistinctHolders)
    (serves : Serves desk world request answer after final) :
    ∃ deeds, Dealings (desk.terms request) desk.connections world deeds after.connections final ∧
      desk.Handles request answer deeds after := by
  have on (request : Request) : desk.pool.IsOn (desk.terms request) := ⟨Iff.rfl, rfl⟩
  cases serves with
  | @lent holder lease pool wasHeld rest there final acquires released =>
      rcases acquires.dealings_ok (on _) ((leases desk.held).map Lease.connection) with
        ⟨made, dealings, lends⟩
      have same : HasDistinctHolders { desk with pool } := distinct
      rcases dealings_release same released {lease.connection} with ⟨back, releases, returns⟩
      refine ⟨made ++ back, ?_, .lent lends returns⟩
      rw [Multiset.add_comm, Multiset.singleton_add, Multiset.add_comm,
        Multiset.singleton_add] at releases
      rw [connections_cons]
      exact dealings.trans releases
  | notLent acquires =>
      rcases acquires.dealings_error (on _) ((leases desk.held).map Lease.connection) with
        ⟨deeds, dealings, lends⟩
      exact ⟨deeds, dealings, .notLent lends⟩
  | notHeld missing => exact ⟨[], .nothing _ _, .notHeld missing⟩
  | @exchanged holder arguments lease used reply final holds exchange =>
      refine ⟨_, ?_, .exchanged holds⟩
      have sent := (Lease.exchange_cases exchange).1
      rw [connections_others distinct holds,
        connections_cons holder used { desk with held := desk.others holder }]
      exact (Dealing.exchanged List.mem_cons_self sent).single
  | released released =>
      rcases dealings_release distinct released 0 with ⟨deeds, dealings, returns⟩
      rw [add_zero, add_zero] at dealings
      exact ⟨deeds, dealings, .released returns⟩
  | rotated password => exact ⟨[], .nothing _ _, .rotated password⟩
  | authenticated authenticated =>
      have agreed : ∀ password ∈ desk.pool.password,
          Connection.authentication desk.pool.settings.connections.username password ∈
            (desk.terms .reauthenticate).commands :=
        fun password set => List.mem_map_of_mem (Option.mem_toList.mpr set)
      rcases Pool.dealings_reauthenticate (on .reauthenticate) agreed authenticated
        ((leases desk.held).map Lease.connection) with ⟨deeds, dealings, reauthenticates⟩
      exact ⟨deeds, dealings, .authenticated reauthenticates⟩

end Desk

namespace Session

variable {origin : World} {settings : PoolSettings} {session : Session}

/-- The connections of a session are accounted for, in order, and known to be broken or not. -/
structure IsInOrder (origin : World) (settings : PoolSettings) (session : Session) : Prop where
  distinct : session.desk.HasDistinctHolders
  accounted : session.lending.IsAccounted settings
  healthy : session.lending.IsHealthy origin

/-- The history of the network of a session, since a state of the network. -/
abbrev history (origin : World) (session : Session) : List Deed := origin.history session.world

theorem isInOrder_create (settings : PoolSettings) (password : Option String)
    (hosts : List (String × List IpAddress)) (nodes : List (String × Node)) :
    (create settings password hosts nodes).IsInOrder
      (create settings password hosts nodes).world settings where
  distinct := List.nodup_nil
  accounted := ⟨rfl, rfl, rfl, Nat.zero_le _, Nat.zero_le _⟩
  healthy :=
    ⟨World.isOrderly_self _, List.forall_mem_nil _,
      fun _ impossible => absurd impossible (Multiset.notMem_zero _)⟩

theorem IsInOrder.run (inOrder : session.IsInOrder origin settings)
    (requests : List Desk.Request) : (session.run requests).IsInOrder origin settings := by
  rcases steps_run inOrder.distinct inOrder.accounted.counted requests with ⟨distinct, steps⟩
  exact ⟨distinct, steps.isAccounted inOrder.accounted, steps.isHealthy inOrder.healthy⟩

theorem IsInOrder.serve (inOrder : session.IsInOrder origin settings) (request : Desk.Request) :
    (session.serve request).IsInOrder origin settings :=
  inOrder.run [request]

theorem IsInOrder.settings_eq (inOrder : session.IsInOrder origin settings) :
    session.desk.pool.settings = settings :=
  inOrder.accounted.settings_eq

theorem IsInOrder.ordered (inOrder : session.IsInOrder origin settings) :
    (history origin session).Pairwise Deed.MayPrecede :=
  inOrder.healthy.orderly.ordered

/-- What is seen of a request is appended to the history. -/
theorem IsInOrder.seen (inOrder : session.IsInOrder origin settings) (request : Desk.Request) :
    ∃ answer deeds, (session.serve request).served = session.served ++ [(request, answer)] ∧
      history origin (session.serve request) = history origin session ++ deeds ∧
      session.desk.Handles request answer deeds (session.serve request).desk := by
  rcases Desk.dealings_serve inOrder.distinct (Desk.serves rfl) with ⟨deeds, dealings, handles⟩
  have tracked := dealings.isTracked inOrder.healthy.orderly.tracked
  exact ⟨_, deeds, rfl, tracked.history, handles⟩

theorem IsInOrder.history_grows (inOrder : session.IsInOrder origin settings)
    (requests : List Desk.Request) :
    history origin session <+: history origin (session.run requests) := by
  induction requests generalizing session with
  | nil => exact List.prefix_refl _
  | cons request requests ih =>
      rcases inOrder.seen request with ⟨answer, deeds, _, grown, _⟩
      have first : history origin session <+: history origin (session.serve request) :=
        ⟨deeds, grown.symm⟩
      exact first.trans (ih (inOrder.serve request))

/-- Each connection that has been opened has been opened by one of the requests. -/
theorem opened_at {connection : String × Nat} {requests : List Desk.Request}
    (opened : .opened connection ∈ history origin (session.run requests)) :
    .opened connection ∈ history origin session ∨
      ∃ earlier request later, requests = earlier ++ request :: later ∧
        .opened connection ∉ history origin (session.run earlier) ∧
        .opened connection ∈ history origin ((session.run earlier).serve request) := by
  induction requests generalizing session with
  | nil => exact Or.inl opened
  | cons request requests ih =>
      rcases ih opened with first | ⟨earlier, other, later, rfl, before, after⟩
      · by_cases already : .opened connection ∈ history origin session
        · exact Or.inl already
        · exact Or.inr ⟨[], request, requests, rfl, already, first⟩
      · exact Or.inr ⟨request :: earlier, other, later, rfl, before, after⟩

end Session

end SlotClient
