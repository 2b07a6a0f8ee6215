import SlotClient.Proofs.Pool.Handshakes

/-!
# Broken and healthy connections

A connection on which an exchange has broken down is held until its holder is done with it and then
closed. Every other connection that comes back is put into the queue if there is room. When idle
connections are authenticated there always is, since the queue has been emptied for this: only
those are closed on which the authentication breaks down.
-/

namespace SlotClient

open Wire (Value)

namespace Pool

variable {pool after : Pool} {connection : Connection} {deeds : List Deed} {intact : Bool}
  {lease : Lease} {result : Except Failure Unit} {identity : String × Nat}

/-- A connection that comes back is closed only if it is not in order or there is no room. -/
theorem Settles.of_closed (settles : pool.Settles connection intact deeds after)
    (closed : .closed identity ∈ deeds) :
    identity = connection.identity ∧ after.idle = pool.idle ∧
      (intact = false ∨ after.hasRoom = false) := by
  cases settles with
  | kept room => cases closed
  | crowded full => exact ⟨Deed.closed.inj (List.mem_singleton.mp closed), rfl, Or.inr full⟩
  | broken => exact ⟨Deed.closed.inj (List.mem_singleton.mp closed), rfl, Or.inl rfl⟩

theorem Settles.of_intact (settles : pool.Settles connection intact deeds after)
    (unbroken : intact = true) (room : pool.hasRoom = true) :
    after.idle = pool.idle ++ [connection] ∧ deeds = [] := by
  cases settles with
  | kept _ => exact ⟨rfl, rfl⟩
  | crowded full =>
      rw [room] at full
      cases full
  | broken => cases unbroken

theorem Settles.of_rejected (settles : pool.Settles connection intact deeds after)
    (rejected : intact = false ∨ pool.hasRoom = false) :
    after.idle = pool.idle ∧ deeds = [.closed connection.identity] := by
  cases settles with
  | kept room =>
      rw [room] at rejected
      simp at rejected
  | crowded full => exact ⟨rfl, rfl⟩
  | broken => exact ⟨rfl, rfl⟩

theorem Settles.idle_subset (settles : pool.Settles connection intact deeds after) :
    pool.idle ⊆ after.idle := by
  cases settles with
  | kept room => exact List.subset_append_left _ _
  | crowded full => exact List.Subset.refl _
  | broken => exact List.Subset.refl _

theorem Settles.length_idle_le (settles : pool.Settles connection intact deeds after) :
    after.idle.length ≤ pool.idle.length + 1 := by
  cases settles <;> simp [unreserve]

theorem Lends.not_mem_closed (lends : pool.Lends deeds (.ok lease) after) :
    .closed identity ∉ deeds := by
  cases lends with
  | reused first => exact List.not_mem_nil
  | opened noneIdle reserved made =>
      rcases made.of_ok with ⟨ready, writes, _, rfl, _⟩
      simp [Connection.deeds]

/-- A connection that is lent is the first one that was idle or has been opened for this. -/
theorem Lends.opened_of_noneIdle (lends : pool.Lends deeds (.ok lease) after)
    (noneIdle : pool.idle = []) : .opened lease.connection.identity ∈ deeds := by
  cases lends with
  | reused first =>
      cases takeIdle?_eq_some first
      cases noneIdle
  | opened _ reserved made =>
      rcases made.of_ok with ⟨ready, writes, _, rfl, _⟩
      exact List.mem_cons_self

theorem Lends.isIntact (lends : pool.Lends deeds (.ok lease) after) : lease.isIntact = true := by
  cases lends <;> rfl

theorem Lends.opened_of_closed {failure : Failure}
    (lends : pool.Lends deeds (.error failure) after) (closed : .closed identity ∈ deeds) :
    .opened identity ∈ deeds := by
  cases lends with
  | exhausted noneIdle full => cases closed
  | failed noneIdle made otherwise =>
      cases made with
      | nothing failure => cases closed
      | abandoned other prepares =>
          have same : identity = other.identity := by simpa [Connection.deeds] using closed
          rw [same]
          exact List.mem_cons_self

/-- Where there is room for all connections that are authenticated, one is closed only if it has
broken. -/
theorem Authenticates.hasBroken_of_closed {username : Option String} {password : String}
    {connections : List Connection} {outcome : Except Failure Unit}
    (authenticates : Authenticates username password connections outcome pool deeds result after)
    (room : pool.idle.length + connections.length ≤ pool.settings.maxIdle.toNat)
    (closed : .closed identity ∈ deeds) : Deed.HasBroken identity deeds := by
  induction authenticates with
  | done outcome pool => cases closed
  | @next connection used connections outcome result pool settled after back rest reply identical
      settles _ ih =>
      rw [List.length_cons] at room
      rw [List.mem_append, List.mem_append] at closed
      rw [Deed.hasBroken_append, Deed.hasBroken_append]
      have limit := settles.isStateOf.1
      rcases closed with sent | back | rest
      · simp [Connection.deeds] at sent
      · left
        rcases settles.of_closed back with ⟨rfl, same, broken | full⟩
        · rw [identical]
          exact Deed.hasBroken_exchanged.mpr broken
        · -- There was room for this connection too.
          rw [hasRoom, decide_eq_false_iff_not, same, limit] at full
          omega
      · refine Or.inr (Or.inr (ih ?_ rest))
        have grown := settles.length_idle_le
        rw [limit]
        omega

/-- Where there is room for all connections that are authenticated, those that do not break are idle
afterwards, and those that were idle before remain so. -/
theorem Authenticates.mem_idle {username : Option String} {password : String}
    {connections : List Connection} {outcome : Except Failure Unit}
    (authenticates : Authenticates username password connections outcome pool deeds result after)
    (room : pool.idle.length + connections.length ≤ pool.settings.maxIdle.toNat)
    (member : identity ∈ connections.map Connection.identity ∨
      identity ∈ pool.idle.map Connection.identity) :
    identity ∈ after.idle.map Connection.identity ∨ Deed.HasBroken identity deeds := by
  induction authenticates with
  | done outcome pool => exact Or.inl (member.resolve_left List.not_mem_nil)
  | @next connection used connections outcome result pool settled after back rest reply identical
      settles _ ih =>
      rw [List.length_cons] at room
      have grown := settles.length_idle_le
      have fits : settled.idle.length + connections.length ≤ settled.settings.maxIdle.toNat := by
        rw [settles.isStateOf.1]
        omega
      have free : pool.hasRoom = true := by
        rw [hasRoom, decide_eq_true_eq]
        omega
      -- What is idle once this connection has come back is known by induction.
      have remains (member : identity ∈ connections.map Connection.identity ∨
          identity ∈ settled.idle.map Connection.identity) :
          identity ∈ after.idle.map Connection.identity ∨
            Deed.HasBroken identity (connection.deeds
              [(Connection.authentication username password, reply)] ++ (back ++ rest)) := by
        rw [Deed.hasBroken_append, Deed.hasBroken_append]
        exact (ih fits member).imp_right fun broken => Or.inr (Or.inr broken)
      rw [List.map_cons, List.mem_cons] at member
      rcases member with (here | later) | idle
      · rcases Bool.eq_false_or_eq_true (Failure.sparesConnection reply) with spared | broken
        · rcases settles.of_intact spared free with ⟨kept, _⟩
          apply remains
          rw [kept, List.map_append, List.map_singleton, identical, here]
          exact Or.inr (List.mem_append_right _ (List.mem_singleton_self _))
        · rw [here, Deed.hasBroken_append]
          exact Or.inr (Or.inl (Deed.hasBroken_exchanged.mpr broken))
      · exact remains (Or.inl later)
      · exact remains (Or.inr (List.map_subset _ settles.idle_subset idle))

theorem Reauthenticates.mem_idle (reauthenticates : pool.Reauthenticates deeds result after)
    (room : pool.idle.length ≤ pool.settings.maxIdle.toNat)
    (idle : identity ∈ pool.idle.map Connection.identity) :
    identity ∈ after.idle.map Connection.identity ∨ Deed.HasBroken identity deeds := by
  cases reauthenticates with
  | unset unset => exact Or.inl idle
  | probed set noneIdle probes =>
      rw [noneIdle] at idle
      cases idle
  | asked set someIdle authenticates =>
      refine authenticates.mem_idle ?_ (Or.inl idle)
      simpa using room

/-- A connection that is closed when a pool is authenticated has broken, or it has been opened for
this, and the authentication has failed or there is no room for it. -/
theorem Reauthenticates.of_closed (reauthenticates : pool.Reauthenticates deeds result after)
    (room : pool.idle.length ≤ pool.settings.maxIdle.toNat) (closed : .closed identity ∈ deeds) :
    Deed.HasBroken identity deeds ∨ .opened identity ∈ deeds ∧
      ((∃ failure, result = .error failure) ∨ after.hasRoom = false) := by
  cases reauthenticates with
  | unset unset => cases closed
  | probed set noneIdle probes =>
      right
      cases probes with
      | spared lends =>
          cases lends with
          | exhausted _ full => cases closed
          | failed _ made otherwise => contradiction
      | failed lends otherwise => exact ⟨lends.opened_of_closed closed, Or.inl ⟨_, rfl⟩⟩
      | passed lends settles =>
          rcases List.mem_append.mp closed with impossible | back
          · exact absurd impossible lends.not_mem_closed
          · rcases settles.of_closed back with ⟨rfl, _, broken | full⟩
            · rw [lends.isIntact] at broken
              cases broken
            · exact ⟨List.mem_append_left _ (lends.opened_of_noneIdle noneIdle), Or.inr full⟩
  | asked set someIdle authenticates =>
      left
      apply authenticates.hasBroken_of_closed _ closed
      simpa using room

end Pool

namespace Desk

variable {desk after : Desk} {request : Request} {answer : Answer} {deeds : List Deed}
  {identity : String × Nat}

theorem mem_leases {holder : String} {lease : Lease}
    (holds : desk.held.lookup holder = some lease) : lease ∈ leases desk.held := by
  have entry := List.mem_map_of_mem (f := Prod.snd) (mem_of_lookup holds)
  exact Multiset.mem_coe.mpr entry

theorem mem_connections :
    identity ∈ desk.connections.map Connection.identity ↔
      identity ∈ desk.pool.idle.map Connection.identity ∨
        identity ∈ desk.held.map fun entry => entry.2.connection.identity := by
  rw [connections, Multiset.map_add, Multiset.mem_add, Multiset.map_map, leases, Multiset.map_coe,
    Multiset.map_coe, Multiset.mem_coe, Multiset.mem_coe, List.map_map]
  rfl

theorem Returns.of_closed {holder : String} (returns : desk.Returns holder deeds after)
    (closed : .closed identity ∈ deeds) :
    ∃ lease ∈ leases desk.held, lease.connection.identity = identity ∧
      (lease.isIntact = false ∨ after.pool.hasRoom = false) := by
  cases returns with
  | nothing missing => cases closed
  | @settled lease _ pool holds settles =>
      rcases settles.of_closed closed with ⟨rfl, _, reason⟩
      exact ⟨lease, mem_leases holds, rfl, reason⟩

/-- A connection that is closed for a request has broken, or its holder is done with it and it is
not in order or there is no room for it, or it has been opened for the request, which failed or
left no room for it. -/
theorem Handles.of_closed (handles : desk.Handles request answer deeds after)
    (room : desk.pool.idle.length ≤ desk.pool.settings.maxIdle.toNat)
    (closed : .closed identity ∈ deeds) :
    Deed.HasBroken identity deeds ∨
      (∃ lease ∈ leases desk.held, lease.connection.identity = identity ∧
        lease.isIntact = false) ∨
      after.pool.hasRoom = false ∨
      .opened identity ∈ deeds ∧ ∃ failure, answer = .done (.error failure) := by
  cases handles with
  | lent lends returns =>
      rcases List.mem_append.mp closed with impossible | back
      · exact absurd impossible lends.not_mem_closed
      · rcases returns.of_closed back with ⟨lease, held, same, broken | full⟩
        · exact Or.inr (Or.inl ⟨lease, held, same, broken⟩)
        · exact Or.inr (Or.inr (Or.inl full))
  | notLent lends =>
      exact Or.inr (Or.inr (Or.inr ⟨lends.opened_of_closed closed, _, rfl⟩))
  | notHeld missing => cases closed
  | exchanged holds => simp [Connection.deeds] at closed
  | released returns =>
      rcases returns.of_closed closed with ⟨lease, held, same, broken | full⟩
      · exact Or.inr (Or.inl ⟨lease, held, same, broken⟩)
      · exact Or.inr (Or.inr (Or.inl full))
  | rotated password => cases closed
  | authenticated reauthenticates =>
      rcases reauthenticates.of_closed room closed with
        broken | ⟨opened, ⟨failure, rfl⟩ | full⟩
      · exact Or.inl broken
      · exact Or.inr (Or.inr (Or.inr ⟨opened, failure, rfl⟩))
      · exact Or.inr (Or.inr (Or.inl full))

/-- A connection that has just been lent is in order. -/
theorem Handles.isIntact_of_acquire {holder : String} {lease : Lease}
    (handles : desk.Handles (.acquire holder) (.done (.ok ())) deeds after)
    (holds : after.held.lookup holder = some lease) : lease.isIntact = true := by
  cases handles with
  | lent lends returns =>
      rw [lookup_cons_ite, if_pos rfl] at holds
      cases holds
      exact lends.isIntact

theorem Handles.settles_of_release {holder : String} {lease : Lease}
    (handles : desk.Handles (.release holder) answer deeds after)
    (holds : desk.held.lookup holder = some lease) :
    desk.pool.Settles lease.connection lease.isIntact deeds after.pool := by
  cases handles with
  | released returns =>
      cases returns with
      | nothing missing =>
          rw [holds] at missing
          cases missing
      | settled also settles =>
          rw [holds] at also
          cases also
          exact settles

theorem Handles.mem_idle_of_reauthenticate
    (handles : desk.Handles .reauthenticate answer deeds after)
    (room : desk.pool.idle.length ≤ desk.pool.settings.maxIdle.toNat)
    (idle : identity ∈ desk.pool.idle.map Connection.identity) :
    identity ∈ after.pool.idle.map Connection.identity ∨ Deed.HasBroken identity deeds := by
  cases handles with
  | authenticated reauthenticates => exact reauthenticates.mem_idle room idle

end Desk

namespace Session

variable {origin : World} {settings : PoolSettings} {session : Session} {connection : String × Nat}

theorem IsInOrder.idle_le (inOrder : session.IsInOrder origin settings) :
    session.desk.pool.idle.length ≤ session.desk.pool.settings.maxIdle.toNat := by
  rw [inOrder.settings_eq]
  exact inOrder.accounted.idle_le

theorem IsInOrder.hasRoom_iff (inOrder : session.IsInOrder origin settings) :
    session.desk.pool.hasRoom = true ↔ session.desk.pool.idle.length ≠ settings.maxIdle.toNat := by
  have bound := inOrder.idle_le
  rw [inOrder.settings_eq] at bound
  rw [Pool.hasRoom, decide_eq_true_eq, inOrder.settings_eq]
  omega

/-- A connection that has broken is not idle, and it is held or closed. -/
theorem IsInOrder.of_broken (inOrder : session.IsInOrder origin settings)
    (broken : Deed.HasBroken connection (history origin session)) :
    connection ∉ session.desk.pool.idle.map Connection.identity ∧
      (connection ∈ session.desk.held.map (fun entry => entry.2.connection.identity) ∨
        .closed connection ∈ history origin session) := by
  have notIdle : connection ∉ session.desk.pool.idle.map Connection.identity := by
    intro member
    rcases List.mem_map.mp member with ⟨idle, waits, rfl⟩
    exact inOrder.healthy.idle idle waits broken
  refine ⟨notIdle, ?_⟩
  rcases broken with ⟨bytes, failure, member, _⟩
  rcases inOrder.healthy.orderly.settled _ member with present | closed
  · exact Or.inl ((Desk.mem_connections.mp present).resolve_left notIdle)
  · exact Or.inr closed

theorem IsInOrder.hasBroken_mono (inOrder : session.IsInOrder origin settings)
    (requests : List Desk.Request) (broken : Deed.HasBroken connection (history origin session)) :
    Deed.HasBroken connection (history origin (session.run requests)) := by
  rcases inOrder.history_grows requests with ⟨more, whole⟩
  rw [← whole]
  exact Deed.hasBroken_append.mpr (Or.inl broken)

/-- A connection that has broken is never lent. -/
theorem IsInOrder.lends_unbroken (inOrder : session.IsInOrder origin settings) {holder : String}
    {lease : Lease}
    (answered : (session.serve (.acquire holder)).served =
      session.served ++ [(.acquire holder, .done (.ok ()))])
    (holds : (session.serve (.acquire holder)).desk.held.lookup holder = some lease) :
    ¬Deed.HasBroken lease.connection.identity (history origin session) := by
  intro broken
  rcases inOrder.seen (.acquire holder) with ⟨answer, deeds, served, _, handles⟩
  rw [served] at answered
  cases List.append_cancel_left answered
  have after := inOrder.serve (.acquire holder)
  refine (after.healthy.out lease (Desk.mem_leases holds)).mp ?_ ?_
  · exact handles.isIntact_of_acquire holds
  · exact inOrder.hasBroken_mono [.acquire holder] broken

/-- A connection whose holder is done with it is put into the queue if it has not broken and there
is room, and closed otherwise. -/
theorem IsInOrder.release (inOrder : session.IsInOrder origin settings) {holder : String}
    {lease : Lease} (holds : session.desk.held.lookup holder = some lease) :
    let released := session.serve (.release holder)
    let idle := session.desk.pool.idle
    (¬Deed.HasBroken lease.connection.identity (history origin session) ∧
        idle.length ≠ settings.maxIdle.toNat →
      released.desk.pool.idle = idle ++ [lease.connection] ∧
        history origin released = history origin session) ∧
      (Deed.HasBroken lease.connection.identity (history origin session) ∨
          idle.length = settings.maxIdle.toNat →
        released.desk.pool.idle = idle ∧
          history origin released =
            history origin session ++ [.closed lease.connection.identity]) := by
  intro released idle
  rcases inOrder.seen (.release holder) with ⟨answer, deeds, _, grown, handles⟩
  have settles := handles.settles_of_release holds
  have intact := inOrder.healthy.out lease (Desk.mem_leases holds)
  constructor
  · rintro ⟨unbroken, room⟩
    rcases settles.of_intact (intact.mpr unbroken) (inOrder.hasRoom_iff.mpr room) with ⟨kept, rfl⟩
    rw [List.append_nil] at grown
    exact ⟨kept, grown⟩
  · intro rejected
    have refused : lease.isIntact = false ∨ session.desk.pool.hasRoom = false := by
      rw [← Bool.not_eq_true, ← Bool.not_eq_true, intact, inOrder.hasRoom_iff, not_not, not_not]
      exact rejected
    rcases settles.of_rejected refused with ⟨kept, rfl⟩
    exact ⟨kept, grown⟩

/-- A connection that is closed for a request has broken, or there is no room for it, or its
handshake has failed. -/
theorem IsInOrder.of_closed (inOrder : session.IsInOrder origin settings)
    {request : Desk.Request}
    (closed : .closed connection ∈ history origin (session.serve request)) :
    .closed connection ∈ history origin session ∨
      Deed.HasBroken connection (history origin (session.serve request)) ∨
      (session.serve request).desk.pool.idle.length = settings.maxIdle.toNat ∨
      .opened connection ∉ history origin session ∧ ∃ failure,
        (session.serve request).served =
          session.served ++ [(request, .done (.error failure))] := by
  rcases inOrder.seen request with ⟨answer, deeds, served, grown, handles⟩
  rw [grown, List.mem_append] at closed
  rcases closed with before | closed
  · exact Or.inl before
  right
  rw [grown, Deed.hasBroken_append]
  rcases handles.of_closed inOrder.idle_le closed with
    broken | ⟨lease, held, rfl, broken⟩ | full | ⟨opened, failure, rfl⟩
  · exact Or.inl (Or.inr broken)
  · have marked := (inOrder.healthy.out lease held).not
    rw [not_not, broken] at marked
    exact Or.inl (Or.inl (marked.mp Bool.false_ne_true))
  · right
    left
    by_contra different
    rw [(inOrder.serve request).hasRoom_iff.mpr different] at full
    cases full
  · right
    right
    refine ⟨?_, failure, served⟩
    have ordered := (inOrder.serve request).ordered
    rw [grown] at ordered
    -- A connection is not opened behind another deed about it.
    intro already
    exact ((List.pairwise_append.mp ordered).2.2 _ already _ opened).2 rfl

/-- When the idle connections are authenticated, those that do not break stay idle. -/
theorem IsInOrder.reauthenticate (inOrder : session.IsInOrder origin settings)
    (idle : connection ∈ session.desk.pool.idle.map Connection.identity) :
    let after := session.serve .reauthenticate
    connection ∈ after.desk.pool.idle.map Connection.identity ∨
      Deed.HasBroken connection (history origin after) := by
  intro after
  rcases inOrder.seen .reauthenticate with ⟨answer, deeds, served, grown, handles⟩
  rw [grown, Deed.hasBroken_append]
  exact (handles.mem_idle_of_reauthenticate inOrder.idle_le idle).imp_right Or.inr

/-- Broken connections are never used again, and healthy ones are kept. Whatever is asked of a pool,
on whatever network: once an exchange on a connection has broken down, the connection is not idle
and is not lent, and it is held or closed, so it is closed when its holder is done with it. A
connection that has not broken is put into the queue when its holder is done with it, unless the
queue is full, and stays idle when it is authenticated. No request closes a connection otherwise,
but for one that it opens and whose handshake fails; and no connection is lost. The replies are
those that the holders get. -/
theorem run_keeps_unbroken (settings : PoolSettings) (password : Option String)
    (hosts : List (String × List IpAddress)) (nodes : List (String × Node))
    (requests : List Desk.Request) :
    let start := create settings password hosts nodes
    let session := start.run requests
    let seen := history start.world
    let idle (session : Session) := session.desk.pool.idle.map Connection.identity
    let held (session : Session) := session.desk.held.map fun entry => entry.2.connection.identity
    (∀ connection, Deed.HasBroken connection (seen session) → ∀ later,
      let last := session.run later
      connection ∉ idle last ∧ (connection ∈ held last ∨ .closed connection ∈ seen last) ∧
        ∀ holder lease, (last.serve (.acquire holder)).served =
            last.served ++ [(.acquire holder, .done (.ok ()))] →
          (last.serve (.acquire holder)).desk.held.lookup holder = some lease →
          lease.connection.identity ≠ connection) ∧
      (∀ holder lease, session.desk.held.lookup holder = some lease →
        let released := session.serve (.release holder)
        (¬Deed.HasBroken lease.connection.identity (seen session) ∧
            (idle session).length ≠ settings.maxIdle.toNat →
          released.desk.pool.idle = session.desk.pool.idle ++ [lease.connection] ∧
            seen released = seen session) ∧
          (Deed.HasBroken lease.connection.identity (seen session) ∨
              (idle session).length = settings.maxIdle.toNat →
            released.desk.pool.idle = session.desk.pool.idle ∧
              seen released = seen session ++ [.closed lease.connection.identity])) ∧
      (∀ connection ∈ idle session,
        connection ∈ idle (session.serve .reauthenticate) ∨
          Deed.HasBroken connection (seen (session.serve .reauthenticate))) ∧
      (∀ request connection, let after := session.serve request
        .closed connection ∈ seen after →
          .closed connection ∈ seen session ∨ Deed.HasBroken connection (seen after) ∨
            (idle after).length = settings.maxIdle.toNat ∨
            .opened connection ∉ seen session ∧ ∃ failure,
              after.served = session.served ++ [(request, .done (.error failure))]) ∧
      (∀ deed ∈ seen session, deed.connection ∈ idle session ∨ deed.connection ∈ held session ∨
        .closed deed.connection ∈ seen session) ∧
      ∀ holder arguments lease, session.desk.held.lookup holder = some lease →
        let after := session.serve (.exchange holder arguments)
        ∃ reply, after.served =
            session.served ++ [(.exchange holder arguments, .reply reply)] ∧
          seen after = seen session ++
            [.exchanged lease.connection.identity (Wire.encodeCommand arguments) reply] := by
  intro start session seen idle held
  have inOrder : session.IsInOrder start.world settings := (isInOrder_create ..).run requests
  have counted (session : Session) : (idle session).length = session.desk.pool.idle.length :=
    List.length_map _
  refine ⟨?_, ?_, ?_, ?_, ?_, ?_⟩
  · intro connection broken later last
    have after := inOrder.run later
    have still := inOrder.hasBroken_mono later broken
    refine ⟨(after.of_broken still).1, (after.of_broken still).2, ?_⟩
    rintro holder lease answered holds rfl
    exact after.lends_unbroken answered holds still
  · intro holder lease holds
    rw [counted]
    exact inOrder.release holds
  · intro connection waits
    exact inOrder.reauthenticate waits
  · intro request connection after closed
    rw [counted]
    exact inOrder.of_closed closed
  · intro deed member
    rw [← or_assoc]
    exact (inOrder.healthy.orderly.settled deed member).imp_left Desk.mem_connections.mp
  · intro holder arguments lease holds after
    rcases inOrder.seen (.exchange holder arguments) with ⟨answer, deeds, served, grown, handles⟩
    rcases handles.of_exchange holds with ⟨reply, rfl, rfl⟩
    exact ⟨reply, served, grown⟩

end Session

end SlotClient
