import SlotClient.Proofs.Client.Dealings

/-!
# Credentials

Whatever a client is asked for, it keeps its setup, and its password is that of the latest rotation.
It authenticates with this password and with no other, first of all on each connection that it
opens. A rotation that authenticates at once and succeeds has authenticated all connections that
are idle then.
-/

namespace SlotClient

open Wire (Value)

/-- Whether a command is an authentication. -/
def IsAuthentication (arguments : List Bytes) : Prop :=
  arguments.head? = some (Bytes.ofText "AUTH")

theorem isAuthentication_authentication (username : Option String) (password : String) :
    IsAuthentication (Connection.authentication username password) := by
  cases username <;> rfl

/-- What a server takes for a command of the store is no authentication. -/
theorem Command.not_isAuthentication {command : Command} {arguments : List Bytes}
    (acceptable : command.arguments = .ok arguments) : ¬IsAuthentication arguments := by
  intro authenticates
  rcases ofArguments?_arguments acceptable with ⟨options, _, found⟩
  cases arguments with
  | nil => cases authenticates
  | cons name operands =>
      rw [IsAuthentication, List.head?_cons, Option.some.injEq] at authenticates
      have unknown : Form.ofName? name = none := by
        rw [authenticates]
        rfl
      rw [Request.ofArguments?, unknown] at found
      cases found

theorem Command.dealings_noted {terms : Terms} (command : Command) (route : Route)
    (held : Multiset Connection) (world : World) :
    Dealings terms held world [] held (command.noted route world) := by
  unfold noted
  split
  · exact (Dealing.noted _).single
  · exact .nothing _ _

namespace Client

variable {setup : Setup} {password : Option String} {client after : Client} {world final : World}

theorem IsOf.dealings_execute {route : Route} {arguments : List Bytes}
    {outcome : Except Failure Value} (isOf : client.IsOf setup password)
    (ran : (Executor.execute client route arguments).run world = ((outcome, after), final)) :
    ∃ deeds, Dealings (setup.terms password [askingArguments, arguments]) client.held world deeds
      after.held final ∧ after.IsOf setup password := by
  have agreed : arguments ∈ [askingArguments, arguments] := by simp
  have announced : askingArguments ∈ [askingArguments, arguments] := by simp
  cases isOf with
  | @standalone configuration client settings =>
      change StateT.run (Client.execute (.standalone client) route arguments) world = _ at ran
      unfold Client.execute at ran
      rcases Action.bind_cases ran with ⟨⟨reply, used⟩, last, executed, ran⟩
      cases ran
      have on : client.pool.IsOn (Setup.terms (.server configuration) client.pool.password
          [askingArguments, arguments]) := by
        rw [Pool.IsOn, settings]
        exact ⟨Iff.rfl, rfl⟩
      rcases Standalone.dealings_execute on agreed executed with ⟨deeds, dealings, same, _⟩
      rw [held_standalone, held_standalone]
      refine ⟨deeds, dealings, ?_⟩
      rw [← same.2]
      exact .standalone (same.1.trans settings)
  | @cluster client uniform =>
      change StateT.run (Client.execute (.cluster client) route arguments) world = _ at ran
      unfold Client.execute at ran
      rcases Action.bind_cases ran with ⟨⟨reply, used⟩, last, executed, ran⟩
      cases ran
      have on : client.IsOn (Setup.terms (.cluster client.configuration) client.password
          [askingArguments, arguments]) := fun _ => ⟨Iff.rfl, rfl⟩
      rcases uniform.dealings_follow on agreed announced executed with
        ⟨deeds, dealings, afterUniform, same⟩
      refine ⟨deeds, dealings, ?_⟩
      rw [← same.1, ← same.2]
      exact .cluster afterUniform

/-- Only the command that a client is asked to perform is sent, or its announcement. -/
theorem IsOf.dealings_run {command : Command} {outcome : Except Failure command.Result}
    (isOf : client.IsOf setup password)
    (ran : (command.run client).run world = ((outcome, after), final)) :
    ∃ commands deeds, (∀ arguments ∈ commands, ¬IsAuthentication arguments) ∧
      Dealings (setup.terms password commands) client.held world deeds after.held final ∧
      after.IsOf setup password := by
  cases dispatched : command.dispatch (Executor.policy client) with
  | error violation =>
      rw [Command.run_of_dispatch_error dispatched] at ran
      cases ran
      exact ⟨[], [], List.forall_mem_nil _, .nothing _ _, isOf⟩
  | ok call =>
      rcases call with ⟨route, arguments⟩
      have acceptable := (Command.dispatch_eq_ok_iff.mp dispatched).1
      rw [Command.run_of_dispatch_ok dispatched] at ran
      cases ran
      rcases isOf.dealings_execute rfl with ⟨deeds, executes, afterOf⟩
      refine ⟨[askingArguments, arguments], deeds, ?_,
        (command.dealings_noted route _ world).trans executes, afterOf⟩
      refine List.forall_mem_cons.mpr ⟨nofun, List.forall_mem_singleton.mpr ?_⟩
      exact Command.not_isAuthentication acceptable

theorem rotation?_of_accepted {requested : Option String} {immediate : Bool}
    {outcome : Except Failure String} (accepted : outcome ≠ .error (.violation .missingPassword)) :
    (Turn.mk (.updatePassword requested immediate) outcome).rotation? =
      some (requested.filter fun text => text != "") := by
  unfold Turn.rotation?
  split
  · rename_i impossible
    cases impossible
  · rename_i rejected
    cases rejected
    contradiction
  · rename_i same
    cases same
    rfl
  · rename_i impossible
    cases impossible

/-- A rotation that is not rejected fails only for reasons that lie in the network. -/
theorem failure_of_updatePassword {requested rotated : Option String} {immediate : Bool}
    {failure : Failure} (accepted : rotatedPassword requested immediate = .ok rotated)
    (ran : (client.updatePassword requested immediate).run world =
      ((.error failure, after), final)) :
    failure.isOfExchange = true ∨ ∃ address, failure = .invalidAddress address := by
  unfold Client.updatePassword at ran
  cases client with
  | standalone client =>
      rcases Action.bind_cases ran with ⟨⟨outcome, used⟩, last, updated, ran⟩
      cases ran
      rw [Standalone.updatePassword, accepted] at updated
      cases immediate with
      | false => cases updated
      | true =>
          rcases Action.bind_cases updated with ⟨⟨answer, pool⟩, last, authenticated, updated⟩
          rcases answer with cause | _
          · cases updated
            rcases Pool.failure_of_reauthenticate authenticated with exchange | unknown
            · exact Or.inl exchange
            · exact Or.inr ⟨_, unknown⟩
          · cases updated
  | cluster client =>
      rcases Action.bind_cases ran with ⟨⟨outcome, used⟩, last, updated, ran⟩
      cases ran
      have rotates := Cluster.rotates updated
      generalize failed : Except.error failure = outcome at rotates
      cases rotates with
      | rejected rejected =>
          rw [accepted] at rejected
          cases rejected
      | stored _ => cases failed
      | @authenticated _ _ _ _ _ answer _ _ reauthenticated =>
          rcases answer with cause | _
          · cases failed
            exact Cluster.failure_of_reauthenticate reauthenticated
          · cases failed

theorem updatePassword_of_rejected {requested : Option String} {immediate : Bool}
    {violation : Violation} (rejected : rotatedPassword requested immediate = .error violation)
    (client : Client) (world : World) :
    (client.updatePassword requested immediate).run world =
      ((.error (.violation .missingPassword), client), world) := by
  cases rotatedPassword_eq_error rejected
  cases client with
  | standalone client =>
      rw [Client.updatePassword, Standalone.updatePassword, rejected]
      rfl
  | cluster client =>
      rw [Client.updatePassword, Cluster.updatePassword, rejected]
      rfl

/-- The password that a rotation sets can be told from its call and its result. -/
theorem rotation?_of_updatePassword {requested : Option String} {immediate : Bool}
    {outcome : Except Failure String}
    (ran : (client.updatePassword requested immediate).run world = ((outcome, after), final)) :
    (Turn.mk (.updatePassword requested immediate) outcome).rotation? =
      (rotatedPassword requested immediate).toOption := by
  cases rotated : rotatedPassword requested immediate with
  | error violation =>
      rw [updatePassword_of_rejected rotated] at ran
      cases ran
      rfl
  | ok password =>
      have accepted : outcome ≠ .error (.violation .missingPassword) := by
        rintro rfl
        rcases failure_of_updatePassword rotated ran with exchange | ⟨address, unknown⟩
        · cases exchange
        · cases unknown
      rw [rotation?_of_accepted accepted, (rotatedPassword_eq_ok rotated).1]
      rfl

/-- A rotation that is accepted sends nothing but authentications with the new password. If it
authenticates at once and succeeds, it has authenticated all connections that are idle then. -/
theorem IsOf.dealings_accepted {requested new : Option String} {immediate : Bool}
    {outcome : Except Failure String} (isOf : client.IsOf setup password)
    (accepted : rotatedPassword requested immediate = .ok new)
    (ran : (client.updatePassword requested immediate).run world = ((outcome, after), final)) :
    ∃ deeds, Dealings (setup.terms new (new.toList.map (Connection.authentication setup.username)))
        client.held world deeds after.held final ∧
      after.IsOf setup new ∧
      (immediate = true → ∀ status, outcome = .ok status → ∃ secret, new = some secret ∧
        Deed.Authenticate deeds setup.username secret (idleOf after.pools)) := by
  have agreed (username : Option String) : ∀ secret ∈ new,
      Connection.authentication username secret ∈
        new.toList.map (Connection.authentication username) := by
    rintro secret isNew
    exact List.mem_map_of_mem (Option.mem_toList.mpr isNew)
  unfold Client.updatePassword at ran
  cases isOf with
  | @standalone configuration client settings =>
      rcases Action.bind_cases ran with ⟨⟨answer, used⟩, last, updated, ran⟩
      cases ran
      have on : (client.pool.setPassword new).IsOn (Setup.terms (.server configuration) new
          (new.toList.map (Connection.authentication configuration.username))) := by
        rw [Pool.IsOn, Pool.setPassword, settings]
        exact ⟨Iff.rfl, rfl⟩
      have named : client.pool.settings.connections.username = configuration.username := by
        rw [settings]
        rfl
      rw [← named] at on
      rcases Standalone.dealings_updatePassword accepted on (agreed _) updated with
        ⟨deeds, dealings, same, succeeds⟩
      rw [named] at dealings succeeds
      rw [held_standalone, held_standalone,
        show idleOf (Client.standalone used).pools = used.pool.idle from List.append_nil _]
      have afterOf : IsOf (.server configuration) used.pool.password (.standalone used) :=
        .standalone (same.1.trans settings)
      rw [same.2] at afterOf
      exact ⟨deeds, dealings, afterOf, succeeds⟩
  | @cluster client uniform =>
      rcases Action.bind_cases ran with ⟨⟨answer, used⟩, last, updated, ran⟩
      cases ran
      have on : (client.setPassword new).IsOn (Setup.terms (.cluster client.configuration) new
          (new.toList.map (Connection.authentication client.configuration.username))) :=
        fun _ => ⟨Iff.rfl, rfl⟩
      rcases uniform.dealings_updatePassword accepted on (agreed _) updated with
        ⟨deeds, dealings, afterUniform, same, succeeds⟩
      have afterOf := IsOf.cluster afterUniform
      rw [same.1, same.2] at afterOf
      exact ⟨deeds, dealings, afterOf, succeeds⟩

/-- After a rotation a client has the password that it has set. If it authenticates at once and
succeeds, each connection that is idle afterwards has been authenticated with this password. -/
theorem IsOf.dealings_updatePassword {requested : Option String} {immediate : Bool}
    {outcome : Except Failure String} (isOf : client.IsOf setup password)
    (ran : (client.updatePassword requested immediate).run world = ((outcome, after), final)) :
    let rotated := (Turn.mk (.updatePassword requested immediate) outcome).rotation?.getD password
    ∃ deeds, Dealings (setup.terms rotated
        (rotated.toList.map (Connection.authentication setup.username))) client.held world deeds
        after.held final ∧
      after.IsOf setup rotated ∧
      (immediate = true → ∀ status, outcome = .ok status → ∃ secret, requested = some secret ∧
        Deed.Authenticate deeds setup.username secret (idleOf after.pools)) := by
  intro rotated
  have observed : rotated = (rotatedPassword requested immediate).toOption.getD password :=
    congrArg (Option.getD · password) (rotation?_of_updatePassword ran)
  rw [observed]
  cases accepted : rotatedPassword requested immediate with
  | error violation =>
      rw [updatePassword_of_rejected accepted] at ran
      cases ran
      exact ⟨[], .nothing _ _, isOf, fun _ status impossible => nomatch impossible⟩
  | ok new =>
      rcases isOf.dealings_accepted accepted ran with ⟨deeds, dealings, afterOf, succeeds⟩
      refine ⟨deeds, dealings, afterOf, ?_⟩
      intro isImmediate status succeeded
      rcases succeeds isImmediate status succeeded with ⟨secret, isNew, authenticates⟩
      have kept := (rotatedPassword_eq_ok accepted).1.symm.trans isNew
      exact ⟨secret, (Option.filter_eq_some_iff.mp kept).1, authenticates⟩

/-- Whatever a client is asked for, its password is what the latest rotation has set, and it sends
no authentication but with this password. -/
theorem IsOf.dealings_call {call : Call} {result : Except Failure call.Result}
    (isOf : client.IsOf setup password)
    (ran : (call.run client).run world = ((result, after), final)) :
    let rotated := (Turn.mk call result).rotation?.getD password
    ∃ commands deeds,
      (∀ arguments ∈ commands, IsAuthentication arguments → ∃ secret, rotated = some secret ∧
        arguments = Connection.authentication setup.username secret) ∧
      Dealings (setup.terms rotated commands) client.held world deeds after.held final ∧
      after.IsOf setup rotated ∧
      ∀ requested, call = .updatePassword requested true → result.isOk = true →
        ∃ secret, requested = some secret ∧
          Deed.Authenticate deeds setup.username secret (idleOf after.pools) := by
  intro rotated
  have authenticating (password : Option String) : ∀ arguments ∈
      password.toList.map (Connection.authentication setup.username), IsAuthentication arguments →
        ∃ secret, password = some secret ∧
          arguments = Connection.authentication setup.username secret := by
    rw [List.forall_mem_map]
    intro secret isPassword _
    exact ⟨secret, Option.mem_toList.mp isPassword, rfl⟩
  cases call with
  | perform command =>
      rcases isOf.dealings_run ran with ⟨commands, deeds, harmless, dealings, afterOf⟩
      refine ⟨commands, deeds, ?_, dealings, afterOf, nofun⟩
      exact fun arguments member authenticates => absurd authenticates (harmless _ member)
  | updatePassword requested immediate =>
      rcases isOf.dealings_updatePassword ran with ⟨deeds, dealings, afterOf, succeeds⟩
      refine ⟨_, deeds, authenticating _, dealings, afterOf, ?_⟩
      rintro _ ⟨⟩ succeeded
      rcases result with failure | status
      · cases succeeded
      · exact succeeds rfl status rfl
  | resetPassword =>
      have observed := rotation?_of_updatePassword ran
      rcases isOf.dealings_updatePassword ran with ⟨deeds, dealings, afterOf, _⟩
      rw [observed] at dealings afterOf
      exact ⟨_, deeds, authenticating _, dealings, afterOf, nofun⟩

end Client

/-- Whether a deed is the sending of an authentication on a connection. -/
def Deed.IsAuthenticationOn (connection : String × Nat) (deed : Deed) : Prop :=
  ∃ arguments reply, IsAuthentication arguments ∧
    deed = .exchanged connection (Wire.encodeCommand arguments) reply

namespace Client

/-- In the course of deeds a client authenticates with a password, if it has one, and with no other.
The authentication is the first thing that is sent on each connection that is opened. Only if a time
limit is refused, nothing is sent on any connection, which is closed again at once. -/
structure Setup.Authenticates (setup : Setup) (password : Option String) (deeds : List Deed) :
    Prop where
  first : setup.LimitsAreAccepted → ∀ secret, password = some secret →
    Deed.Introduce (Connection.authentication setup.username secret) deeds
  only : ∀ deed ∈ deeds, ∀ arguments, IsAuthentication arguments →
    deed.sent? = some (Wire.encodeCommand arguments) → ∃ secret, password = some secret ∧
      arguments = Connection.authentication setup.username secret
  silent : ¬setup.LimitsAreAccepted → ∀ deed ∈ deeds, deed.sent? = none

/-- A client after turns that it has made since a state of the network. -/
structure IsFollowed (setup : Setup) (origin : World) (turns : List Turn) (client : Client)
    (world : World) : Prop where
  isOf : client.IsOf setup (setup.passwordAfter turns)
  tracked : origin.IsTracked (origin.history world) client.held world
  silent : ¬setup.LimitsAreAccepted → client.held = 0

variable {setup : Setup} {client after : Client} {origin world final : World} {turns : List Turn}

theorem isFollowed_client (created : setup.client = .ok client) (origin : World) :
    IsFollowed setup origin [] client origin := by
  rcases isOf_client created with ⟨isOf, none⟩
  refine ⟨isOf, ?_, fun _ => none⟩
  have tracked := World.isTracked_self origin
  rw [← tracked.history, ← none] at tracked
  exact tracked

/-- What a call does to the network extends the history, and a client authenticates in it with its
password. -/
theorem IsFollowed.call {call : Call} {result : Except Failure call.Result}
    (followed : IsFollowed setup origin turns client world)
    (ran : (call.run client).run world = ((result, after), final)) :
    IsFollowed setup origin (turns ++ [⟨call, result⟩]) after final ∧
      ∃ deeds, origin.history final = origin.history world ++ deeds ∧
        setup.Authenticates (setup.passwordAfter (turns ++ [⟨call, result⟩])) deeds ∧
        ∀ requested, call = .updatePassword requested true → result.isOk = true →
          ∃ secret, requested = some secret ∧
            Deed.Authenticate deeds setup.username secret (idleOf after.pools) := by
  rw [Setup.passwordAfter_append]
  rcases followed.isOf.dealings_call ran with
    ⟨commands, deeds, harmless, dealings, afterOf, succeeds⟩
  have tracked := dealings.isTracked followed.tracked
  have extended := tracked.history
  rw [← extended] at tracked
  have silent (refused : ¬setup.LimitsAreAccepted) :=
    dealings.silent refused (followed.silent refused)
  refine ⟨⟨?_, tracked, fun refused => (silent refused).1⟩, deeds, extended, ⟨?_, ?_, ?_⟩,
    succeeds⟩
  · rw [Setup.passwordAfter_append]
    exact afterOf
  · intro accepted secret isPassword
    have handshake : (setup.terms ((Turn.mk call result).rotation?.getD
        (setup.passwordAfter turns)) commands).handshake =
          Connection.authentication setup.username secret ::
            setup.database.toList.map Connection.selection := by
      rw [Setup.terms, isPassword]
      rfl
    exact dealings.introduce accepted handshake
  · intro deed member arguments authenticates isSent
    rcases dealings.sends deed member _ isSent with ⟨sent, inTerms, same⟩
    rw [← Wire.encodeCommand_injective same] at inTerms
    rcases List.mem_append.mp inTerms with inHandshake | inCommands
    · rcases List.mem_append.mp inHandshake with isAuth | isSelect
      · rcases List.mem_map.mp isAuth with ⟨secret, isPassword, rfl⟩
        exact ⟨secret, Option.mem_toList.mp isPassword, rfl⟩
      · rcases List.mem_map.mp isSelect with ⟨database, _, rfl⟩
        cases authenticates
    · exact harmless arguments inCommands authenticates
  · exact fun refused => (silent refused).2

theorem IsFollowed.answer {calls : List Call} {more : List Turn}
    (followed : IsFollowed setup origin turns client world)
    (ran : (client.answer calls).run world = ((more, after), final)) :
    IsFollowed setup origin (turns ++ more) after final ∧
      origin.history world <+: origin.history final := by
  induction calls generalizing client world turns more with
  | nil =>
      cases ran
      rw [List.append_nil]
      exact ⟨followed, List.prefix_refl _⟩
  | cons call calls ih =>
      rcases Action.bind_cases ran with ⟨⟨result, between⟩, middle, called, ran⟩
      rcases Action.bind_cases ran with ⟨⟨rest, last⟩, later, answered, ran⟩
      cases ran
      rcases followed.call called with ⟨next, deeds, extended, _⟩
      rcases ih next answered with ⟨next, grown⟩
      rw [List.append_assoc] at next
      rw [extended] at grown
      exact ⟨next, (List.prefix_append _ _).trans grown⟩

/-- A list that holds something has a last item of this kind. -/
theorem exists_last {Item : Type} {IsSought : Item → Prop} {items : List Item}
    (found : ∃ item ∈ items, IsSought item) :
    ∃ front item back, items = front ++ item :: back ∧ IsSought item ∧
      ∀ later ∈ back, ¬IsSought later := by
  induction items with
  | nil => simp at found
  | cons first rest ih =>
      by_cases inRest : ∃ item ∈ rest, IsSought item
      · rcases ih inRest with ⟨front, item, back, rfl, isSought, isLast⟩
        exact ⟨first :: front, item, back, rfl, isSought, isLast⟩
      · rw [List.exists_mem_cons_iff] at found
        refine ⟨[], first, rest, rfl, found.resolve_right inRest, ?_⟩
        intro later member isSought
        exact inRest ⟨later, member, isSought⟩

/-- On a connection on which a password was sent in the course of confirmed deeds, the latest
authentication is one with this password, and it was confirmed. -/
theorem latest_authentication {password : Option String} {deeds past : List Deed} {secret : String}
    {connections : List Connection} (authenticates : setup.Authenticates password deeds)
    (succeeded : Deed.Authenticate deeds setup.username secret connections) :
    ∀ connection ∈ connections, ∃ earlier text later,
      past ++ deeds = earlier ++ .exchanged connection.identity
        (Wire.encodeCommand (Connection.authentication setup.username secret))
          (.ok (.simple text)) :: later ∧
      ∀ deed ∈ later, ¬deed.IsAuthenticationOn connection.identity := by
  intro connection member
  rcases succeeded.sent connection member with ⟨answer, sent⟩
  have found : ∃ deed ∈ deeds, deed.IsAuthenticationOn connection.identity :=
    ⟨_, sent, _, answer, isAuthentication_authentication _ _, rfl⟩
  rcases exists_last found with ⟨front, deed, back, shape, ⟨arguments, reply, isAuth, rfl⟩, isLast⟩
  have isDeed : .exchanged connection.identity (Wire.encodeCommand arguments) reply ∈ deeds := by
    rw [shape]
    exact List.mem_append_right _ List.mem_cons_self
  rcases succeeded.confirmed _ isDeed with ⟨text, rfl⟩
  rcases authenticates.only _ isDeed _ isAuth rfl with ⟨current, isCurrent, rfl⟩
  rcases authenticates.only _ sent _ (isAuthentication_authentication _ _) rfl with
    ⟨other, isOther, same⟩
  cases isCurrent.symm.trans isOther
  rw [same, shape]
  exact ⟨past ++ front, text, back, (List.append_assoc _ _ _).symm, isLast⟩

/-- Credentials follow rotations. However a client is set up, on whatever network, after whatever
calls: in the next call every connection that is opened first of all authenticates with the password
of the latest rotation that was not rejected, this call included and even if it failed otherwise, or
with the configured one. If the latest rotation has cleared the password, nothing authenticates.
And if the call is to replace the password with authentication at once and succeeds, then on each
connection that is idle afterwards, in whatever pool, the latest authentication is one with the new
password, answered by a simple string. -/
theorem authenticates_as_rotated (setup : Setup) (client : Client)
    (created : setup.client = .ok client) (origin : World) (calls : List Call) (call : Call) :
    let before := (client.answer calls).run origin
    let ran := (call.run before.1.2).run before.2
    let turns := before.1.1 ++ [⟨call, ran.1.1⟩]
    (∃ deeds, origin.history ran.2 = origin.history before.2 ++ deeds ∧
      setup.Authenticates (setup.passwordAfter turns) deeds) ∧
    ∀ requested, call = .updatePassword requested true → ran.1.1.isOk = true →
      ∃ secret, requested = some secret ∧
        ∀ entry ∈ ran.1.2.pools, ∀ connection ∈ entry.2.idle, ∃ earlier text later,
          origin.history ran.2 = earlier ++ .exchanged connection.identity
            (Wire.encodeCommand (Connection.authentication setup.username secret))
              (.ok (.simple text)) :: later ∧
          ∀ deed ∈ later, ¬deed.IsAuthenticationOn connection.identity := by
  intro before ran turns
  have followed : IsFollowed setup origin ([] ++ before.1.1) before.1.2 before.2 :=
    ((isFollowed_client created origin).answer rfl).1
  have called : (call.run before.1.2).run before.2 = ((ran.1.1, ran.1.2), ran.2) := rfl
  rcases (followed.call called).2 with ⟨deeds, extended, authenticates, succeeds⟩
  refine ⟨⟨deeds, extended, authenticates⟩, ?_⟩
  intro requested isUpdate succeeded
  rcases succeeds requested isUpdate succeeded with ⟨secret, isRequested, sent⟩
  refine ⟨secret, isRequested, ?_⟩
  intro entry isPool connection isIdle
  rw [extended]
  exact latest_authentication authenticates sent connection
    (List.mem_flatMap.mpr ⟨entry, isPool, isIdle⟩)

/-- A client of a cluster with password `a` that is pinged and then has its password replaced by
`b`, which the seed answers with `OK`, `PONG` and `OK`. -/
theorem authenticates_as_rotated_twice :
    ∃ client world, Setup.client (.cluster { nodes := ["1.2.3.4:5"], password := some "a" }) =
        .ok client ∧
      let before := (client.answer [.perform (.ping none)]).run world
      let ran := ((Call.updatePassword (some "b") true).run before.1.2).run before.2
      ran.1.1.isOk = true ∧ (idleOf ran.1.2.pools).length = 1 ∧
        ∀ entry ∈ ran.1.2.pools, ∀ connection ∈ entry.2.idle, ∃ earlier text later,
          world.history ran.2 = earlier ++ .exchanged connection.identity
            (Wire.encodeCommand [Bytes.ofText "AUTH", [98]]) (.ok (.simple text)) :: later := by
  let world : World := { nodes := [("1.2.3.4:5", ⟨[], [
    .data [43, 79, 75, 13, 10] none, .data [43, 80, 79, 78, 71, 13, 10] none,
    .data [43, 79, 75, 13, 10] none], 0⟩)] }
  refine ⟨_, world, rfl, by decide +kernel, by decide +kernel, ?_⟩
  intro entry isPool connection isIdle
  rcases (authenticates_as_rotated (.cluster { nodes := ["1.2.3.4:5"], password := some "a" }) _
    rfl world [.perform (.ping none)] (.updatePassword (some "b") true)).2 _ rfl
      (by decide +kernel) with ⟨secret, same, latest⟩
  cases same
  rcases latest entry isPool connection isIdle with ⟨earlier, text, later, shape, _⟩
  exact ⟨earlier, text, later, shape⟩

end Client

end SlotClient
