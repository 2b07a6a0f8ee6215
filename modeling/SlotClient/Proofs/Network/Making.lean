import SlotClient.Proofs.Network.Dealings

/-!
# Connections in the making

To make a connection is to open it and to prepare it. It is prepared by its handshake: the commands
are sent one after the other, up to the first one that is not confirmed by a simple string. If a
time limit is refused, nothing is sent. A connection that does not get ready is closed at once.

`ConnectionSettings.Makes` tells what an observer sees of this, and what comes of it. No world is
mentioned, so facts about what is seen can be read off without looking at a run.
-/

namespace SlotClient

open Wire (Value)
open Connection (Confirms Configures Exchanges)

/-- What is sent to prepare a connection, with the replies, and what comes of it. -/
inductive ConnectionSettings.Prepares (settings : ConnectionSettings) (password : Option String) :
    List (List Bytes × Except Failure Value) → Except Failure Unit → Prop
  | limited (refused : ¬settings.LimitsAreAccepted) :
      Prepares settings password [] (.error (.transport .invalidInput))
  | asked {writes : List (List Bytes × Except Failure Value)} {outcome : Except Failure Unit}
      (accepted : settings.LimitsAreAccepted)
      (confirms : Confirms (settings.handshake password) writes outcome) :
      Prepares settings password writes outcome

/-- What is seen of the making of a connection, and which connection is ready, if there is one. -/
inductive ConnectionSettings.Makes (settings : ConnectionSettings) (password : Option String) :
    List Deed → Except Failure (String × Nat) → Prop
  | nothing (failure : Failure) : Makes settings password [] (.error failure)
  | abandoned (connection : Connection) {writes : List (List Bytes × Except Failure Value)}
      {failure : Failure} (prepares : settings.Prepares password writes (.error failure)) :
      Makes settings password
        (.opened connection.identity :: connection.deeds writes ++ [.closed connection.identity])
        (.error failure)
  | ready (connection : Connection) {writes : List (List Bytes × Except Failure Value)}
      (prepares : settings.Prepares password writes (.ok ())) :
      Makes settings password (.opened connection.identity :: connection.deeds writes)
        (.ok connection.identity)

/-- A connection that gets ready has been opened and then prepared. -/
theorem ConnectionSettings.Makes.of_ok {settings : ConnectionSettings} {password : Option String}
    {deeds : List Deed} {identity : String × Nat}
    (makes : settings.Makes password deeds (.ok identity)) :
    ∃ connection writes, Connection.identity connection = identity ∧
      deeds = .opened identity :: connection.deeds writes ∧
      settings.Prepares password writes (.ok ()) := by
  cases makes with
  | ready connection prepares => exact ⟨connection, _, rfl, rfl, prepares⟩

namespace Connection

variable {settings : ConnectionSettings} {password : Option String} {world final : World}
  {terms : Terms} {connection : Connection}

/-- Preparing a connection makes its settings and has its handshake confirmed as far as this goes. -/
theorem prepares {outcome : Except Failure Connection}
    (ran : (connection.prepare settings password).run.run world = (outcome, final)) :
    ∃ configured writes answer last, Configures connection world configured ∧
      Exchanges connection configured writes last final ∧
      settings.Prepares password writes answer ∧ outcome = answer.map fun _ => last := by
  rcases prepare_cases_of_limits ran with
    ⟨configured, configures, ⟨refused, rfl, rfl⟩ | ⟨accepted, negotiates⟩⟩
  · exact ⟨final, [], _, connection, configures, .done _ _, .limited refused, rfl⟩
  · rcases negotiates with ⟨writes, answer, last, exchanges, confirms, answered⟩
    exact ⟨configured, writes, answer, last, configures, exchanges, .asked accepted confirms,
      answered⟩

/-- A connection is prepared on the terms. -/
structure IsPreparedOn (terms : Terms) (settings : ConnectionSettings)
    (password : Option String) : Prop where
  limits : settings.LimitsAreAccepted ↔ terms.limitsAreAccepted
  handshake : settings.handshake password = terms.handshake

/-- To make a connection that gets ready is a dealing on the terms on which it is prepared. -/
theorem Connects.dealings_ok {ready : Connection}
    (connects : Connects settings password world (.ok ready) final)
    (prepared : IsPreparedOn terms settings password) (held : Multiset Connection) :
    ∃ deeds, Dealings terms held world deeds (ready ::ₘ held) final ∧
      settings.Makes password deeds (.ok ready.identity) := by
  cases connects with
  | ready resolved attempt ran =>
      rcases prepares ran with
        ⟨configured, writes, answer, last, configures, exchanges, prepares, isReady⟩
      rcases answer with failure | _
      · cases isReady
      cases isReady
      rw [exchanges.identity_eq]
      refine ⟨_, ?_, .ready _ prepares⟩
      cases prepares with
      | asked accepted confirms =>
          rw [prepared.limits] at accepted
          rw [prepared.handshake] at confirms
          exact (Dealing.opened attempt configures accepted exchanges confirms).single

theorem Connects.dealings_error {failure : Failure}
    (connects : Connects settings password world (.error failure) final)
    (prepared : IsPreparedOn terms settings password) (held : Multiset Connection) :
    ∃ deeds, Dealings terms held world deeds held final ∧
      settings.Makes password deeds (.error failure) := by
  cases connects with
  | unresolved unknown => exact ⟨[], .nothing held _, .nothing _⟩
  | refused resolved attempt => exact ⟨[], (Dealing.refused attempt).single, .nothing _⟩
  | @abandoned _ connection _ _ _ resolved attempt ran =>
      rcases prepares ran with
        ⟨configured, writes, answer, last, configures, exchanges, prepares, failed⟩
      rcases answer with cause | _
      · cases failed
        refine ⟨_, ?_, .abandoned connection prepares⟩
        refine (Dealing.abandoned attempt configures exchanges ?_).single
        cases prepares with
        | limited refused => exact Or.inl ⟨prepared.limits.not.mp refused, rfl⟩
        | asked accepted confirms =>
            rw [prepared.handshake] at confirms
            exact Or.inr ⟨prepared.limits.mp accepted, failure, confirms⟩
      · cases failed

end Connection

end SlotClient
