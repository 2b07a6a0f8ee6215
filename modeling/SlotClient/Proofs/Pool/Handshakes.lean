import SlotClient.Proofs.Pool.Service

/-!
# Handshake before use

A pool opens a connection when one is to be lent and none is idle, and when a password is to be
tried and none is idle. Either way it prepares the connection before it does anything else with it,
and if this fails it closes the connection and tells the failure. So each connection that is idle
or held has had its whole handshake confirmed.
-/

namespace SlotClient

open Wire (Value)

/-- Whether no connection is opened in the course of deeds. -/
def Deed.OpensNone (deeds : List Deed) : Prop := ∀ connection, .opened connection ∉ deeds

theorem Deed.OpensNone.append {deeds more : List Deed} (first : OpensNone deeds)
    (second : OpensNone more) : OpensNone (deeds ++ more) := by
  intro connection member
  rcases List.mem_append.mp member with member | member
  · exact first connection member
  · exact second connection member

theorem Deed.opensNone_nil : OpensNone [] := fun _ => List.not_mem_nil

theorem Connection.opensNone_deeds (connection : Connection)
    (writes : List (List Bytes × Except Failure Value)) :
    Deed.OpensNone (connection.deeds writes) := by
  intro other member
  rcases List.mem_map.mp member with ⟨write, _, impossible⟩
  cases impossible

/-- How a connection is opened in the course of deeds, if one is: either it is prepared first of
all, or it is closed and the failure is told. -/
inductive PoolSettings.Opens (settings : PoolSettings) (password : Option String) :
    List Deed → Except Failure Unit → Prop
  | nothing {deeds : List Deed} {result : Except Failure Unit} (none : Deed.OpensNone deeds) :
      Opens settings password deeds result
  | abandoned (connection : Connection) {writes : List (List Bytes × Except Failure Value)}
      {failure : Failure} (prepares : settings.connections.Prepares password writes (.error failure)) :
      Opens settings password
        (.opened connection.identity :: connection.deeds writes ++ [.closed connection.identity])
        (.error failure)
  | ready (connection : Connection) {writes : List (List Bytes × Except Failure Value)}
      {rest : List Deed} {result : Except Failure Unit}
      (prepares : settings.connections.Prepares password writes (.ok ()))
      (none : Deed.OpensNone rest) :
      Opens settings password (.opened connection.identity :: connection.deeds writes ++ rest) result

/-- The connection that is opened is prepared first of all. If that fails, all that follows is its
closing. -/
theorem PoolSettings.Opens.of_mem {settings : PoolSettings} {password : Option String}
    {deeds : List Deed} {result : Except Failure Unit} (opens : settings.Opens password deeds result)
    {identity : String × Nat} (opened : .opened identity ∈ deeds) :
    ∃ connection writes outcome rest, identity = Connection.identity connection ∧
      deeds = .opened identity :: (connection.deeds writes ++ rest) ∧
      settings.connections.Prepares password writes outcome ∧
      ∀ failure, outcome = .error failure → rest = [.closed identity] ∧ result = .error failure := by
  cases opens with
  | nothing none => exact absurd opened (none identity)
  | @abandoned connection writes failure prepares =>
      have same : identity = connection.identity := by
        rw [List.cons_append, List.mem_cons, List.mem_append, List.mem_singleton] at opened
        rcases opened with same | sent | impossible
        · exact Deed.opened.inj same
        · exact absurd sent (connection.opensNone_deeds writes identity)
        · cases impossible
      subst same
      refine ⟨connection, writes, _, _, rfl, rfl, prepares, ?_⟩
      rintro cause ⟨⟩
      exact ⟨rfl, rfl⟩
  | @ready connection writes rest _ prepares none =>
      have same : identity = connection.identity := by
        rw [List.cons_append, List.mem_cons, List.mem_append] at opened
        rcases opened with same | sent | later
        · exact Deed.opened.inj same
        · exact absurd sent (connection.opensNone_deeds writes identity)
        · exact absurd later (none identity)
      subst same
      exact ⟨connection, writes, _, rest, rfl, rfl, prepares, nofun⟩

namespace Pool

variable {pool after : Pool} {connection : Connection} {deeds : List Deed} {intact : Bool}
  {lease : Lease} {result : Except Failure Unit}

theorem Settles.opensNone (settles : pool.Settles connection intact deeds after) :
    Deed.OpensNone deeds := by
  intro other member
  cases settles <;> simp at member

theorem Lends.opens_ok (lends : pool.Lends deeds (.ok lease) after) {back : List Deed}
    (none : Deed.OpensNone back) :
    pool.settings.Opens pool.password (deeds ++ back) result := by
  cases lends with
  | reused first => exact .nothing none
  | opened noneIdle reserved made =>
      rcases made.of_ok with ⟨ready, writes, same, rfl, prepares⟩
      rw [← same]
      exact .ready ready prepares none

theorem Lends.opens_error {failure : Failure} (lends : pool.Lends deeds (.error failure) after) :
    pool.settings.Opens pool.password deeds (.error failure) := by
  cases lends with
  | exhausted noneIdle full => exact .nothing Deed.opensNone_nil
  | failed noneIdle made otherwise =>
      cases made with
      | nothing failure => exact .nothing Deed.opensNone_nil
      | abandoned other prepares => exact .abandoned other prepares

theorem Probes.opens (probes : pool.Probes deeds result after) :
    pool.settings.Opens pool.password deeds result := by
  cases probes with
  | spared lends =>
      cases lends with
      | exhausted noneIdle full => exact .nothing Deed.opensNone_nil
      | failed noneIdle made otherwise => contradiction
  | failed lends otherwise => exact lends.opens_error
  | passed lends settles => exact lends.opens_ok settles.opensNone

theorem Authenticates.opensNone {username : Option String} {password : String}
    {connections : List Connection} {outcome : Except Failure Unit}
    (authenticates : Authenticates username password connections outcome pool deeds result after) :
    Deed.OpensNone deeds := by
  induction authenticates with
  | done outcome pool => exact Deed.opensNone_nil
  | next identical settles _ ih =>
      exact (Connection.opensNone_deeds _ _).append (settles.opensNone.append ih)

theorem Reauthenticates.opens (reauthenticates : pool.Reauthenticates deeds result after) :
    pool.settings.Opens pool.password deeds result := by
  cases reauthenticates with
  | unset unset => exact .nothing Deed.opensNone_nil
  | probed set noneIdle probes => exact probes.opens
  | asked set someIdle authenticates => exact .nothing authenticates.opensNone

end Pool

namespace Desk

variable {desk after : Desk} {request : Request} {answer : Answer} {deeds : List Deed}

theorem Returns.opensNone {holder : String} (returns : desk.Returns holder deeds after) :
    Deed.OpensNone deeds := by
  cases returns with
  | nothing missing => exact Deed.opensNone_nil
  | settled holds settles => exact settles.opensNone

/-- What is opened for a request is prepared first of all, or closed and its failure answered. -/
theorem Handles.opens (handles : desk.Handles request answer deeds after) :
    Deed.OpensNone deeds ∨ ∃ result, answer = .done result ∧
      desk.pool.settings.Opens desk.pool.password deeds result := by
  cases handles with
  | lent lends returns => exact Or.inr ⟨_, rfl, lends.opens_ok returns.opensNone⟩
  | notLent lends => exact Or.inr ⟨_, rfl, lends.opens_error⟩
  | notHeld missing => exact Or.inl Deed.opensNone_nil
  | exchanged holds => exact Or.inl (Connection.opensNone_deeds _ _)
  | released returns => exact Or.inl returns.opensNone
  | rotated password => exact Or.inl Deed.opensNone_nil
  | authenticated reauthenticates => exact Or.inr ⟨_, rfl, reauthenticates.opens⟩

end Desk

namespace Session

variable {origin : World} {settings : PoolSettings} {session : Session}

/-- A connection that has been closed is not one of the connections of a session. -/
theorem IsInOrder.not_mem_of_closed (inOrder : session.IsInOrder origin settings)
    {connection : String × Nat} (closed : .closed connection ∈ history origin session) :
    connection ∉ session.desk.connections.map Connection.identity := by
  intro member
  rcases Multiset.mem_map.mp member with ⟨other, held, rfl⟩
  exact inOrder.healthy.orderly.present other held closed

/-- A connection that is opened for a request is prepared first of all. If this fails, the failure
is the answer, and the connection is closed and not used again. -/
theorem IsInOrder.prepares (inOrder : session.IsInOrder origin settings) {request : Desk.Request}
    {answer : Desk.Answer} {deeds : List Deed}
    (grown : history origin (session.serve request) = history origin session ++ deeds)
    (handles : session.desk.Handles request answer deeds (session.serve request).desk)
    {connection : String × Nat} (opened : .opened connection ∈ deeds) :
    ∃ writes outcome,
      settings.connections.Prepares session.desk.pool.password writes outcome ∧
      (∀ failure, outcome = .error failure →
        answer = .done (.error failure) ∧ .closed connection ∈ deeds) ∧
      ∀ later, let last := (session.serve request).run later
        Connection.onWire writes <+: Deed.exchangesOn connection (history origin last) ∧
          ∀ failure, outcome = .error failure →
            Deed.exchangesOn connection (history origin last) = Connection.onWire writes ∧
              connection ∉ last.desk.connections.map Connection.identity := by
  rcases handles.opens with none | ⟨result, rfl, opens⟩
  · exact absurd opened (none connection)
  rw [inOrder.settings_eq] at opens
  rcases opens.of_mem opened with ⟨ready, writes, outcome, rest, rfl, rfl, prepares, failing⟩
  refine ⟨writes, outcome, prepares, ?_, ?_⟩
  · intro failure failed
    rcases failing failure failed with ⟨rfl, rfl⟩
    exact ⟨rfl, by simp⟩
  intro later last
  have inOrderLast : last.IsInOrder origin settings := (inOrder.serve request).run later
  have ordered := inOrderLast.ordered
  rcases (inOrder.serve request).history_grows later with ⟨more, whole⟩
  rw [grown, List.append_assoc, List.cons_append, List.append_assoc] at whole
  rw [← whole] at ordered ⊢
  constructor
  · rw [Deed.exchangesOn_of_opened ordered, Deed.exchangesOn_append, Connection.exchangesOn_deeds]
    exact List.prefix_append _ _
  · intro failure failed
    rcases failing failure failed with ⟨rfl, _⟩
    constructor
    · rw [List.singleton_append] at ordered ⊢
      rw [Deed.exchangesOn_of_lifetime ordered, Connection.exchangesOn_deeds]
    · apply inOrderLast.not_mem_of_closed
      rw [← whole]
      simp

theorem run_append (session : Session) (earlier later : List Desk.Request) (request : Desk.Request) :
    session.run (earlier ++ request :: later) =
      ((session.run earlier).serve request).run later := by
  rw [run, List.foldl_append, List.foldl_cons]
  rfl

/-- Each connection that is idle or held has been opened by a request, and has had its whole
handshake confirmed then. -/
theorem IsInOrder.prepared_of_mem (inOrder : session.IsInOrder origin settings)
    (unused : history origin session = []) {requests : List Desk.Request}
    {connection : String × Nat}
    (member : connection ∈ (session.run requests).desk.connections.map Connection.identity) :
    ∃ earlier request later writes, requests = earlier ++ request :: later ∧
      .opened connection ∉ history origin (session.run earlier) ∧
      .opened connection ∈ history origin ((session.run earlier).serve request) ∧
      settings.connections.Prepares (session.run earlier).desk.pool.password writes (.ok ()) ∧
      Connection.onWire writes <+:
        Deed.exchangesOn connection (history origin (session.run requests)) := by
  have opened : .opened connection ∈ history origin (session.run requests) := by
    rcases Multiset.mem_map.mp member with ⟨held, present, rfl⟩
    exact (inOrder.run requests).healthy.orderly.introduced held present
  rcases opened_at opened with impossible | ⟨earlier, request, later, rfl, unopened, opening⟩
  · rw [unused] at impossible
    cases impossible
  have before := inOrder.run earlier
  rcases before.seen request with ⟨answer, deeds, _, grown, handles⟩
  have here : .opened connection ∈ deeds := by
    rw [grown, List.mem_append] at opening
    exact opening.resolve_left unopened
  rcases before.prepares grown handles here with ⟨writes, outcome, prepares, failing, sends⟩
  rw [run_append] at member ⊢
  refine ⟨earlier, request, later, writes, rfl, unopened, opening, ?_, (sends later).1⟩
  -- The handshake has not failed, since the connection would not be there any more.
  rcases outcome with failure | _
  · exact absurd member ((sends later).2 failure rfl).2
  · exact prepares

/-- Handshake before use. Whatever is asked of a pool, on whatever network: a connection that is
opened for a request is prepared with the password that the pool has then, before anything else is
sent on it. If its handshake fails, the failure is the answer to this request, the connection is
closed in the course of it and is never idle or held, and nothing else is ever sent on it. A command
of a holder is the only thing that is sent for its request, and it is sent on a connection that has
been opened by an earlier request and has had its whole handshake confirmed before. -/
theorem run_prepares_before_use (settings : PoolSettings) (password : Option String)
    (hosts : List (String × List IpAddress)) (nodes : List (String × Node))
    (earlier : List Desk.Request) (request : Desk.Request) :
    let start := create settings password hosts nodes
    let session := start.run earlier
    let seen := history start.world
    ∃ answer deeds, (session.serve request).served = session.served ++ [(request, answer)] ∧
      seen (session.serve request) = seen session ++ deeds ∧
      (∀ connection, .opened connection ∈ deeds → ∃ writes outcome,
        settings.connections.Prepares session.desk.pool.password writes outcome ∧
        (∀ failure, outcome = .error failure →
          answer = .done (.error failure) ∧ .closed connection ∈ deeds) ∧
        ∀ later, let last := (session.serve request).run later
          Connection.onWire writes <+: Deed.exchangesOn connection (seen last) ∧
            ∀ failure, outcome = .error failure →
              Deed.exchangesOn connection (seen last) = Connection.onWire writes ∧
                connection ∉ last.desk.connections.map Connection.identity) ∧
      ∀ holder arguments lease, request = .exchange holder arguments →
        session.desk.held.lookup holder = some lease →
        let connection := lease.connection.identity
        (∃ reply, answer = .reply reply ∧
          deeds = [.exchanged connection (Wire.encodeCommand arguments) reply]) ∧
          ∃ first opening rest writes, earlier = first ++ opening :: rest ∧
            .opened connection ∉ seen (start.run first) ∧
            .opened connection ∈ seen ((start.run first).serve opening) ∧
            List.map Prod.fst writes =
              settings.connections.handshake (start.run first).desk.pool.password ∧
            (∀ write ∈ writes, ∃ text, write.2 = .ok (.simple text)) ∧
            Connection.onWire writes <+: Deed.exchangesOn connection (seen session) := by
  intro start session seen
  have created : start.IsInOrder start.world settings := isInOrder_create ..
  have unused : seen start = [] := (World.isTracked_self _).history
  have inOrder := created.run earlier
  rcases inOrder.seen request with ⟨answer, deeds, served, grown, handles⟩
  refine ⟨answer, deeds, served, grown, ?_, ?_⟩
  · intro connection opened
    exact inOrder.prepares grown handles opened
  · rintro holder arguments lease rfl holds connection
    refine ⟨handles.of_exchange holds, ?_⟩
    have held : connection ∈ session.desk.connections.map Connection.identity := by
      rw [Desk.connections_others inOrder.distinct holds, Multiset.map_cons]
      exact Multiset.mem_cons_self _ _
    rcases created.prepared_of_mem unused held with
      ⟨first, opening, rest, writes, shape, unopened, opened, prepares, sent⟩
    refine ⟨first, opening, rest, writes, shape, unopened, opened, ?_, ?_, sent⟩
    · cases prepares with
      | asked accepted confirms => exact confirms.commands_of_ok
    · cases prepares with
      | asked accepted confirms => exact confirms.simple_of_ok

end Session

end SlotClient
