import SlotClient.Proofs.Network.Making
import SlotClient.Proofs.Pool.Operations

/-!
# What is seen of pools

The operations of a pool, told by what an observer sees of them. There is one relation for each
function, with one constructor for each way that the function can take. It relates the pool before,
the deeds that are seen, the result, and the pool after; no world is mentioned. What holds of the
deeds of an operation follows from its relation alone.
-/

namespace SlotClient

open Wire (Value)

/-- Whether a deed is no exchange, or one that is answered by a simple string. -/
def Deed.IsConfirmed : Deed → Prop
  | exchanged _ _ reply => ∃ text, reply = .ok (.simple text)
  | _ => True

theorem Deed.isConfirmed_of_silent {deed : Deed} (silent : deed.sent? = none) :
    deed.IsConfirmed := by
  cases deed with
  | opened connection => trivial
  | exchanged connection bytes reply => contradiction
  | closed connection => trivial

namespace Connection

variable {commands : List (List Bytes)} {writes : List (List Bytes × Except Failure Value)}
  {connection : Connection}

theorem Confirms.simple_of_ok (confirms : Confirms commands writes (.ok ())) :
    ∀ write ∈ writes, ∃ text, write.2 = .ok (.simple text) := by
  generalize accepted : Except.ok () = outcome at confirms
  induction confirms with
  | all => exact List.forall_mem_nil _
  | next _ ih => exact List.forall_mem_cons.mpr ⟨⟨_, rfl⟩, ih accepted⟩
  | refused _ => cases accepted

/-- Commands that are all confirmed have been sent in their order. -/
theorem Confirms.commands_of_ok (confirms : Confirms commands writes (.ok ())) :
    writes.map Prod.fst = commands := by
  generalize accepted : Except.ok () = outcome at confirms
  induction confirms with
  | all => rfl
  | next _ ih => rw [List.map_cons, ih accepted]
  | refused _ => cases accepted

theorem isConfirmed_deeds (confirmed : ∀ write ∈ writes, ∃ text, write.2 = .ok (.simple text)) :
    ∀ deed ∈ connection.deeds writes, deed.IsConfirmed := by
  rw [deeds, List.forall_mem_map]
  exact confirmed

theorem mem_deeds {command : List Bytes} {reply : Except Failure Value}
    (sent : (command, reply) ∈ writes) :
    .exchanged connection.identity (Wire.encodeCommand command) reply ∈ connection.deeds writes :=
  List.mem_map_of_mem sent

end Connection

/-- A connection that gets ready has had its whole handshake confirmed. -/
theorem ConnectionSettings.Makes.confirmed_of_ok {settings : ConnectionSettings}
    {password : Option String} {deeds : List Deed} {identity : String × Nat}
    (makes : settings.Makes password deeds (.ok identity)) :
    (∀ deed ∈ deeds, deed.IsConfirmed) ∧
      ∀ command ∈ settings.handshake password, ∃ reply,
        .exchanged identity (Wire.encodeCommand command) reply ∈ deeds := by
  rcases makes.of_ok with ⟨connection, writes, rfl, rfl, prepares⟩
  cases prepares with
  | asked accepted confirms =>
      constructor
      · rw [List.forall_mem_cons]
        exact ⟨trivial, Connection.isConfirmed_deeds confirms.simple_of_ok⟩
      · intro command member
        rw [← confirms.commands_of_ok] at member
        rcases List.mem_map.mp member with ⟨⟨_, reply⟩, sent, rfl⟩
        exact ⟨reply, List.mem_cons_of_mem _ (Connection.mem_deeds sent)⟩

namespace Pool

/-- Another state of a pool, set up in the same way and with the same password. -/
def IsStateOf (after pool : Pool) : Prop :=
  after.settings = pool.settings ∧ after.password = pool.password

theorem IsStateOf.trans {after middle pool : Pool} (second : after.IsStateOf middle)
    (first : middle.IsStateOf pool) : after.IsStateOf pool :=
  ⟨second.1.trans first.1, second.2.trans first.2⟩

theorem takeIdle?_of_idle {pool : Pool} (noneIdle : pool.idle = []) : pool.takeIdle? = none := by
  rw [takeIdle?, noneIdle]

theorem idle_of_takeIdle? {pool : Pool} (noneIdle : pool.takeIdle? = none) : pool.idle = [] := by
  unfold takeIdle? at noneIdle
  split at noneIdle
  · assumption
  · contradiction

/-- A connection comes back: it waits behind the others if it is in order and there is room, and is
closed otherwise. -/
inductive Settles (pool : Pool) (connection : Connection) :
    Bool → List Deed → Pool → Prop
  | kept (room : pool.hasRoom = true) :
      Settles pool connection true [] { pool with idle := pool.idle ++ [connection] }
  | crowded (full : pool.hasRoom = false) :
      Settles pool connection true [.closed connection.identity] pool.unreserve
  | broken : Settles pool connection false [.closed connection.identity] pool.unreserve

/-- A connection is lent: the first one that is idle, or a new one if there may be one more. -/
inductive Lends (pool : Pool) : List Deed → Except Failure Lease → Pool → Prop
  | reused {connection : Connection} {rest : Pool}
      (first : pool.takeIdle? = some (connection, rest)) :
      Lends pool [] (.ok { connection }) rest
  | exhausted (noneIdle : pool.idle = []) (full : pool.reserve? = none) :
      Lends pool [] (.error .poolExhausted) pool
  | failed {deeds : List Deed} {failure : Failure} (noneIdle : pool.idle = [])
      (made : pool.settings.connections.Makes pool.password deeds (.error failure))
      (otherwise : failure ≠ .poolExhausted) :
      Lends pool deeds (.error failure) pool
  | opened {grown : Pool} {connection : Connection} {deeds : List Deed}
      (noneIdle : pool.idle = []) (reserved : pool.reserve? = some grown)
      (made : pool.settings.connections.Makes pool.password deeds (.ok connection.identity)) :
      Lends pool deeds (.ok { connection }) grown

/-- The password is tried on a new connection, unless there may be none. -/
inductive Probes (pool : Pool) : List Deed → Except Failure Unit → Pool → Prop
  | spared {deeds : List Deed} {after : Pool}
      (lends : pool.Lends deeds (.error .poolExhausted) after) :
      Probes pool deeds (.ok ()) after
  | failed {deeds : List Deed} {failure : Failure} {after : Pool}
      (lends : pool.Lends deeds (.error failure) after) (otherwise : failure ≠ .poolExhausted) :
      Probes pool deeds (.error failure) after
  | passed {deeds back : List Deed} {lease : Lease} {between after : Pool}
      (lends : pool.Lends deeds (.ok lease) between)
      (settles : between.Settles lease.connection lease.isIntact back after) :
      Probes pool (deeds ++ back) (.ok ()) after

/-- Connections are authenticated one after the other. Each of them is asked and comes back, in
order unless the exchange broke it. The first failure is kept. -/
inductive Authenticates (username : Option String) (password : String) :
    List Connection → Except Failure Unit → Pool → List Deed → Except Failure Unit → Pool → Prop
  | done (outcome : Except Failure Unit) (pool : Pool) :
      Authenticates username password [] outcome pool [] outcome pool
  | next {connection used : Connection} {connections : List Connection}
      {outcome result : Except Failure Unit} {pool settled after : Pool} {back rest : List Deed}
      {reply : Except Failure Value} (identical : used.identity = connection.identity)
      (settles : pool.Settles used (Failure.sparesConnection reply) back settled)
      (others : Authenticates username password connections
        (outcome.bind fun _ => reply.bind Connection.confirmation) settled rest result after) :
      Authenticates username password (connection :: connections) outcome pool
        (connection.deeds [(Connection.authentication username password, reply)] ++ (back ++ rest))
        result after

/-- The idle connections are authenticated with the password of the pool, if there is one. If none
is idle, the password is tried on a new one. -/
inductive Reauthenticates (pool : Pool) : List Deed → Except Failure Unit → Pool → Prop
  | unset (unset : pool.password = none) : Reauthenticates pool [] (.ok ()) pool
  | probed {password : String} {deeds : List Deed} {result : Except Failure Unit} {after : Pool}
      (set : pool.password = some password) (noneIdle : pool.idle = [])
      (probes : pool.Probes deeds result after) : Reauthenticates pool deeds result after
  | asked {password : String} {deeds : List Deed} {result : Except Failure Unit} {after : Pool}
      (set : pool.password = some password) (someIdle : pool.idle ≠ [])
      (authenticates : Authenticates pool.settings.connections.username password pool.idle (.ok ())
        { pool with idle := [] } deeds result after) : Reauthenticates pool deeds result after

variable {pool after : Pool} {connection : Connection} {deeds : List Deed} {intact : Bool}
  {lease : Lease} {result : Except Failure Unit}

theorem Settles.isStateOf (settles : pool.Settles connection intact deeds after) :
    after.IsStateOf pool := by
  cases settles <;> exact ⟨rfl, rfl⟩

/-- Nothing is sent on a connection that comes back. -/
theorem Settles.silent (settles : pool.Settles connection intact deeds after) :
    ∀ deed ∈ deeds, deed.sent? = none := by
  cases settles <;> simp [Deed.sent?]

theorem Settles.mem_idle (settles : pool.Settles connection intact deeds after) :
    ∀ other ∈ after.idle, other ∈ pool.idle ∨ other = connection := by
  intro other member
  cases settles with
  | kept room => simpa using member
  | crowded full => exact Or.inl member
  | broken => exact Or.inl member

/-- What is seen when a connection comes back is at most its closing. -/
theorem Settles.deeds_eq (settles : pool.Settles connection intact deeds after) :
    deeds = [] ∨ deeds = [.closed connection.identity] := by
  cases settles with
  | kept room => exact Or.inl rfl
  | crowded full => exact Or.inr rfl
  | broken => exact Or.inr rfl

/-- What is seen when no connection is lent is the making of one, if anything. -/
theorem Lends.makes_error {failure : Failure} (lends : pool.Lends deeds (.error failure) after) :
    pool.settings.connections.Makes pool.password deeds (.error failure) := by
  cases lends with
  | exhausted noneIdle full => exact .nothing _
  | failed noneIdle made otherwise => exact made

/-- If no connection is lent, none is idle, and the pool stays as it is. -/
theorem Lends.noneIdle_of_error {failure : Failure}
    (lends : pool.Lends deeds (.error failure) after) : pool.idle = [] ∧ after = pool := by
  cases lends with
  | exhausted noneIdle full => exact ⟨noneIdle, rfl⟩
  | failed noneIdle made otherwise => exact ⟨noneIdle, rfl⟩

/-- What is seen when a connection is lent is its making, if anything. -/
theorem Lends.makes_ok (lends : pool.Lends deeds (.ok lease) after) :
    deeds = [] ∨
      pool.settings.connections.Makes pool.password deeds (.ok lease.connection.identity) := by
  cases lends with
  | reused first => exact Or.inl rfl
  | opened noneIdle reserved made => exact Or.inr made

theorem Lends.isStateOf {outcome : Except Failure Lease} (lends : pool.Lends deeds outcome after) :
    after.IsStateOf pool := by
  cases lends with
  | reused first =>
      cases takeIdle?_eq_some first
      exact ⟨rfl, rfl⟩
  | exhausted noneIdle full => exact ⟨rfl, rfl⟩
  | failed noneIdle made otherwise => exact ⟨rfl, rfl⟩
  | opened noneIdle reserved made =>
      rcases reserve?_eq_some reserved with ⟨_, rfl⟩
      exact ⟨rfl, rfl⟩

theorem Probes.isStateOf (probes : pool.Probes deeds result after) : after.IsStateOf pool := by
  cases probes with
  | spared lends => exact lends.isStateOf
  | failed lends otherwise => exact lends.isStateOf
  | passed lends settles => exact settles.isStateOf.trans lends.isStateOf

theorem Authenticates.isStateOf {username : Option String} {password : String}
    {connections : List Connection} {outcome : Except Failure Unit}
    (authenticates : Authenticates username password connections outcome pool deeds result after) :
    after.IsStateOf pool := by
  induction authenticates with
  | done outcome pool => exact ⟨rfl, rfl⟩
  | next identical settles _ ih => exact ih.trans settles.isStateOf

theorem Reauthenticates.isStateOf (reauthenticates : pool.Reauthenticates deeds result after) :
    after.IsStateOf pool := by
  cases reauthenticates with
  | unset unset => exact ⟨rfl, rfl⟩
  | probed set noneIdle probes => exact probes.isStateOf
  | asked set someIdle authenticates => exact authenticates.isStateOf

/-- If connections are authenticated and none of it fails, all of it is confirmed, and each
connection that has come into the queue has been authenticated. -/
theorem Authenticates.confirmed_of_ok {username : Option String} {password : String}
    {connections : List Connection} {outcome : Except Failure Unit}
    (authenticates : Authenticates username password connections outcome pool deeds result after)
    (accepted : result = .ok ()) :
    outcome = .ok () ∧ (∀ deed ∈ deeds, deed.IsConfirmed) ∧
      ∀ connection ∈ after.idle, connection ∈ pool.idle ∨ ∃ reply,
        .exchanged connection.identity
          (Wire.encodeCommand (Connection.authentication username password)) reply ∈ deeds := by
  induction authenticates with
  | done outcome pool =>
      exact ⟨accepted, List.forall_mem_nil _, fun connection member => Or.inl member⟩
  | next identical settles _ ih =>
      rcases ih accepted with ⟨bothAccepted, confirmed, sent⟩
      rename_i outcome _ _ _ _ _ _ _ _
      rcases outcome with earlier | _
      · cases bothAccepted
      rcases Connection.simple_of_confirmation bothAccepted with ⟨text, rfl⟩
      refine ⟨rfl, ?_, ?_⟩
      · refine List.forall_mem_append.mpr ⟨?_, List.forall_mem_append.mpr ⟨?_, confirmed⟩⟩
        · exact List.forall_mem_singleton.mpr ⟨text, rfl⟩
        · exact fun deed member => Deed.isConfirmed_of_silent (settles.silent deed member)
      · intro other member
        rcases sent other member with member | ⟨reply, sent⟩
        · rcases settles.mem_idle other member with old | rfl
          · exact Or.inl old
          · right
            rw [identical]
            exact ⟨_, List.mem_append_left _ List.mem_cons_self⟩
        · exact Or.inr ⟨reply, List.mem_append_right _ (List.mem_append_right _ sent)⟩

theorem Probes.confirmed_of_ok (probes : pool.Probes deeds result after)
    (noneIdle : pool.idle = []) (accepted : result = .ok ()) :
    (∀ deed ∈ deeds, deed.IsConfirmed) ∧
      ∀ connection ∈ after.idle,
        ∀ command ∈ pool.settings.connections.handshake pool.password, ∃ reply,
          .exchanged connection.identity (Wire.encodeCommand command) reply ∈ deeds := by
  cases probes with
  | spared lends =>
      cases lends with
      | exhausted _ full =>
          rw [noneIdle]
          exact ⟨List.forall_mem_nil _, List.forall_mem_nil _⟩
      | failed _ made otherwise => contradiction
  | failed lends otherwise => cases accepted
  | passed lends settles =>
      cases lends with
      | reused first =>
          cases takeIdle?_eq_some first
          cases noneIdle
      | opened _ reserved made =>
          rcases reserve?_eq_some reserved with ⟨_, rfl⟩
          rcases made.confirmed_of_ok with ⟨confirmed, sent⟩
          constructor
          · refine List.forall_mem_append.mpr ⟨confirmed, ?_⟩
            exact fun deed member => Deed.isConfirmed_of_silent (settles.silent deed member)
          · intro connection member command inHandshake
            rcases settles.mem_idle connection member with impossible | rfl
            · rw [noneIdle] at impossible
              contradiction
            · rcases sent command inHandshake with ⟨reply, sent⟩
              exact ⟨reply, List.mem_append_left _ sent⟩

/-- If the idle connections of a pool are authenticated with its password and none of it fails, then
all that was sent is confirmed, and on each connection that is idle afterwards the authentication
has been sent. -/
theorem Reauthenticates.confirmed_of_ok (reauthenticates : pool.Reauthenticates deeds result after)
    (accepted : result = .ok ()) {password : String} (set : pool.password = some password) :
    (∀ deed ∈ deeds, deed.IsConfirmed) ∧
      ∀ connection ∈ after.idle, ∃ reply,
        .exchanged connection.identity (Wire.encodeCommand
          (Connection.authentication pool.settings.connections.username password)) reply ∈
          deeds := by
  cases reauthenticates with
  | unset unset =>
      rw [set] at unset
      cases unset
  | probed _ noneIdle probes =>
      rcases probes.confirmed_of_ok noneIdle accepted with ⟨confirmed, sent⟩
      refine ⟨confirmed, fun connection member => sent connection member _ ?_⟩
      rw [ConnectionSettings.handshake, set]
      exact List.mem_append_left _ List.mem_cons_self
  | asked also someIdle authenticates =>
      rw [set] at also
      cases also
      rcases authenticates.confirmed_of_ok accepted with ⟨_, confirmed, sent⟩
      exact ⟨confirmed, fun connection member =>
        (sent connection member).resolve_left List.not_mem_nil⟩

end Pool

end SlotClient
