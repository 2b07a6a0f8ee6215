import SlotClient.Proofs.Decimal.Digits
import SlotClient.Proofs.Network.Exchange

/-!
# Handshakes

Before a connection is used its settings are made and the commands of its handshake are sent, up to
the first that is not confirmed. To make a connection is to open it and to prepare it so, and
nothing else is sent for this. The handshake is `AUTH` with the password, in front of which stands
the name of the user if there is one, and `SELECT` with the number of the database in decimal; the
one is left out without a password and the other without a database.
-/

namespace SlotClient

open Wire (Value)

/-- Whether an activity sets up a connection that is open. -/
def Activity.isSetting : Activity → Bool
  | readTimeout _ | writeTimeout _ | noDelay => true
  | connect _ | send _ | close => false

namespace Connection

/-- What a server takes for an authentication: of the user with a name, or of the default user. -/
def authentication (username : Option String) (password : String) : List Bytes :=
  match username with
  | none => [Bytes.ofText "AUTH", Bytes.ofText password]
  | some name => [Bytes.ofText "AUTH", Bytes.ofText name, Bytes.ofText password]

/-- What a server takes for the choice of a database. -/
def selection (database : Int64) : List Bytes :=
  [Bytes.ofText "SELECT", Bytes.ofText (toString database.toInt)]

theorem authArguments_eq (username : Option String) (password : String) :
    authArguments username password = authentication username password := by
  cases username <;> rfl

theorem selectArguments_eq (database : Int64) : selectArguments database = selection database := by
  rw [selectArguments, selection, Decimal.ofText_toString_int]

end Connection

/-- The commands that prepare a connection. -/
def ConnectionSettings.handshake (settings : ConnectionSettings) (password : Option String) :
    List (List Bytes) :=
  password.toList.map (Connection.authentication settings.username) ++
    settings.database.toList.map Connection.selection

namespace Connection

variable {connection last used : Connection} {world middle final : World}
  {writes : List (List Bytes × Except Failure Value)} {commands : List (List Bytes)}

/-- A connection on which commands are to be confirmed is used for them, and if they are it can be
used further. -/
def Negotiates (connection : Connection) (commands : List (List Bytes)) (world : World)
    (outcome : Except Failure Connection) (final : World) : Prop :=
  ∃ writes answer last, Exchanges connection world writes last final ∧
    Confirms commands writes answer ∧ outcome = answer.map fun _ => last

theorem exchanges_confirm {arguments : List Bytes} {outcome : Except Failure Unit}
    (ran : (connection.confirm arguments).run world = ((outcome, used), final)) :
    ∃ reply, Exchanges connection world [(arguments, reply)] used final ∧
      outcome = reply.bind confirmation := by
  unfold confirm at ran
  rcases Action.bind_cases ran with ⟨⟨reply, next⟩, after, exchange, ran⟩
  cases ran
  exact ⟨reply, .single exchange, rfl⟩

theorem exchanges_authenticate {username : Option String} {password : String}
    {outcome : Except Failure Unit}
    (ran : (connection.authenticate username password).run world = ((outcome, used), final)) :
    ∃ reply, Exchanges connection world [(authentication username password, reply)] used final ∧
      outcome = reply.bind confirmation := by
  unfold authenticate at ran
  rw [authArguments_eq] at ran
  rcases Action.bind_cases ran with ⟨⟨answer, asked⟩, middle, confirmed, ran⟩
  rcases exchanges_confirm confirmed with ⟨reply, exchanges, rfl⟩
  refine ⟨reply, ?_⟩
  rcases answered : reply.bind confirmation with failure | _
  · rw [answered] at ran
    cases ran
    exact ⟨exchanges, rfl⟩
  · rw [answered] at ran
    cases ran
    exact ⟨exchanges.trans (.noted .connectionAuthenticated (.done _ _)), rfl⟩

theorem negotiates_of_exchange {ask : Action (Except Failure Unit × Connection)}
    {command : List Bytes} {outcome : Except Failure Connection}
    (exchanges : ∀ answer used middle, ask.run world = ((answer, used), middle) →
      ∃ reply, Exchanges connection world [(command, reply)] used middle ∧
        answer = reply.bind confirmation)
    (ran : (do
      let (answer, used) ← (ask : ExceptT Failure Action _)
      let () ← ExceptT.mk (pure answer)
      return used : ExceptT Failure Action Connection).run.run world = (outcome, final)) :
    connection.Negotiates [command] world outcome final := by
  rcases Action.attempt_cases ran with ⟨_, impossible, _⟩ | ⟨⟨answer, used⟩, middle, asked, ran⟩
  · cases impossible
  rcases answered : ask.run world with ⟨⟨answer, used⟩, middle⟩
  rw [Action.run_lift, answered] at asked
  cases asked
  rcases exchanges answer used middle answered with ⟨reply, exchange, rfl⟩
  have confirms := Confirms.single command reply
  generalize reply.bind confirmation = answer at ran confirms
  rcases answer with failure | _
  · cases ran
    exact ⟨_, _, used, exchange, confirms, rfl⟩
  · cases ran
    exact ⟨_, _, used, exchange, confirms, rfl⟩

theorem negotiates_nothing (connection : Connection) (world : World) :
    connection.Negotiates [] world (.ok connection) world :=
  ⟨[], .ok (), connection, .done connection world, .all, rfl⟩

theorem negotiates_identify {username password : Option String}
    {outcome : Except Failure Connection}
    (ran : (connection.identify username password).run.run world = (outcome, final)) :
    connection.Negotiates (password.toList.map (authentication username)) world outcome final := by
  rcases password with _ | password
  · cases ran
    exact negotiates_nothing connection world
  · exact negotiates_of_exchange (fun _ _ _ => exchanges_authenticate) ran

theorem negotiates_select {database : Option Int64} {outcome : Except Failure Connection}
    (ran : (connection.select database).run.run world = (outcome, final)) :
    connection.Negotiates (database.toList.map selection) world outcome final := by
  rcases database with _ | database
  · cases ran
    exact negotiates_nothing connection world
  · rw [select, selectArguments_eq] at ran
    exact negotiates_of_exchange (fun _ _ _ => exchanges_confirm) ran

/-- Settings are made on a connection, and nothing else is done to the network. -/
inductive Configures (connection : Connection) : World → World → Prop
  | done (world : World) : Configures connection world world
  | noted {world final : World} (entry : LogEntry)
      (rest : Configures connection (world.logged entry) final) :
      Configures connection world final
  | set {world final : World} {activity : Activity} (setting : activity.isSetting = true)
      (rest : Configures connection
        (world.recorded connection.address (some connection.number) activity) final) :
      Configures connection world final

theorem Configures.trans (first : Configures connection world middle)
    (second : Configures connection middle final) : Configures connection world final := by
  induction first with
  | done world => exact second
  | noted entry _ ih => exact .noted entry (ih second)
  | set setting _ ih => exact .set setting (ih second)

theorem Configures.events_eq (configures : Configures connection world final) :
    ∃ activities : List Activity, (∀ activity ∈ activities, activity.isSetting = true) ∧
      final.events = world.events ++ activities.map connection.event := by
  induction configures with
  | done world => exact ⟨[], List.forall_mem_nil _, (List.append_nil _).symm⟩
  | noted entry _ ih => exact ih
  | @set world final activity setting _ ih =>
      rcases ih with ⟨activities, settings, appended⟩
      refine ⟨activity :: activities, List.forall_mem_cons.mpr ⟨setting, settings⟩, ?_⟩
      rw [appended, World.recorded, List.append_assoc]
      rfl

theorem Configures.hosts_eq (configures : Configures connection world final) :
    final.hosts = world.hosts := by
  induction configures with
  | done world => rfl
  | noted entry _ ih => exact ih
  | set setting _ ih => exact ih

theorem configures_setLimit {limit : Option Duration} {activity : UInt64 → Activity}
    (setting : ∀ limit, (activity limit).isSetting = true) {outcome : Except Failure Unit}
    (ran : (connection.setLimit limit activity).run.run world = (outcome, final)) :
    Configures connection world final ∧
      ∀ failure, outcome = .error failure → failure = .transport .invalidInput := by
  unfold setLimit at ran
  rcases limit with _ | limit
  · cases ran
    exact ⟨.done _, fun _ impossible => nomatch impossible⟩
  · dsimp only at ran
    by_cases zero : limit = 0
    · rw [if_pos zero] at ran
      cases ran
      refine ⟨.done _, ?_⟩
      rintro failure ⟨⟩
      rfl
    · rw [if_neg zero] at ran
      cases ran
      exact ⟨.set (setting limit.milliseconds) (.done _), fun _ impossible => nomatch impossible⟩

theorem limit_of_setLimit {limit : Option Duration} {activity : UInt64 → Activity}
    {outcome : Except Failure Unit}
    (ran : (connection.setLimit limit activity).run.run world = (outcome, final)) :
    outcome = .ok () ↔ limit ≠ some 0 := by
  unfold setLimit at ran
  rcases limit with _ | limit
  · cases ran
    simp
  · dsimp only at ran
    by_cases zero : limit = 0
    · rw [if_pos zero] at ran
      cases ran
      simp [zero]
    · rw [if_neg zero] at ran
      cases ran
      simp [zero]

end Connection

/-- No time limit is zero, which would be refused. -/
def ConnectionSettings.LimitsAreAccepted (settings : ConnectionSettings) : Prop :=
  settings.readTimeout ≠ some 0 ∧ settings.writeTimeout ≠ some 0

namespace Connection

variable {connection last used : Connection} {world middle final : World}
  {writes : List (List Bytes × Except Failure Value)} {commands : List (List Bytes)}

/-- Preparing a connection makes its settings and then has the commands of the handshake confirmed,
unless a time limit is refused before. -/
theorem prepare_cases_of_limits {settings : ConnectionSettings} {password : Option String}
    {outcome : Except Failure Connection}
    (ran : (connection.prepare settings password).run.run world = (outcome, final)) :
    ∃ configured, Configures connection world configured ∧
      ((¬settings.LimitsAreAccepted ∧ outcome = .error (.transport .invalidInput) ∧
          final = configured) ∨
        (settings.LimitsAreAccepted ∧
          connection.Negotiates (settings.handshake password) configured outcome final)) := by
  unfold prepare at ran
  rcases Action.attempt_cases ran with ⟨failure, limited, rfl⟩ | ⟨_, first, limited, ran⟩
  · rcases configures_setLimit (fun _ => rfl) limited with ⟨configures, isRefusal⟩
    have refused : ¬settings.LimitsAreAccepted := fun accepted =>
      nomatch (limit_of_setLimit limited).mpr accepted.1
    rw [isRefusal failure rfl]
    exact ⟨final, configures, Or.inl ⟨refused, rfl, rfl⟩⟩
  have configures := (configures_setLimit (fun _ => rfl) limited).1
  have readAccepted := (limit_of_setLimit limited).mp rfl
  rcases Action.attempt_cases ran with ⟨failure, limited, rfl⟩ | ⟨_, second, limited, ran⟩
  · rcases configures_setLimit (fun _ => rfl) limited with ⟨more, isRefusal⟩
    have refused : ¬settings.LimitsAreAccepted := fun accepted =>
      nomatch (limit_of_setLimit limited).mpr accepted.2
    rw [isRefusal failure rfl]
    exact ⟨final, configures.trans more, Or.inl ⟨refused, rfl, rfl⟩⟩
  have configures := configures.trans (configures_setLimit (fun _ => rfl) limited).1
  have accepted : settings.LimitsAreAccepted :=
    ⟨readAccepted, (limit_of_setLimit limited).mp rfl⟩
  rcases Action.attempt_cases ran with ⟨_, impossible, _⟩ | ⟨_, third, recorded, ran⟩
  · cases impossible
  rcases Action.attempt_cases ran with ⟨_, impossible, _⟩ | ⟨_, configured, noted, ran⟩
  · cases impossible
  rw [Action.run_lift, World.run_record] at recorded
  rw [Action.run_lift, World.run_note] at noted
  cases recorded
  cases noted
  have settled := configures.trans (.set (show Activity.noDelay.isSetting = true from rfl)
    (.noted (.connectionEstablished settings.address) (.done _)))
  refine ⟨_, settled, Or.inr ⟨accepted, ?_⟩⟩
  rcases Action.attempt_cases ran with ⟨failure, identified, rfl⟩ | ⟨ready, fifth, identified, ran⟩
  · rcases negotiates_identify identified with ⟨writes, answer, last, exchanges, confirms, failed⟩
    rcases answer with cause | _
    · exact ⟨writes, .error cause, last, exchanges, confirms.append_error, failed⟩
    · cases failed
  · rcases negotiates_identify identified with ⟨writes, answer, last, exchanges, confirms, isReady⟩
    rcases negotiates_select ran with ⟨more, later, used, selects, confirmsMore, isFinal⟩
    rcases answer with cause | _
    · cases isReady
    · cases isReady
      exact ⟨writes ++ more, later, used, exchanges.trans selects,
        confirms.append_ok confirmsMore, isFinal⟩

theorem prepare_cases {settings : ConnectionSettings} {password : Option String}
    {outcome : Except Failure Connection}
    (ran : (connection.prepare settings password).run.run world = (outcome, final)) :
    ∃ configured, Configures connection world configured ∧
      ((outcome = .error (.transport .invalidInput) ∧ final = configured) ∨
        connection.Negotiates (settings.handshake password) configured outcome final) := by
  rcases prepare_cases_of_limits ran with ⟨configured, configures, ⟨_, refused⟩ | ⟨_, negotiates⟩⟩
  · exact ⟨configured, configures, Or.inl refused⟩
  · exact ⟨configured, configures, Or.inr negotiates⟩

/-- What comes of making a connection, with the world that it leaves. -/
inductive Connects (settings : ConnectionSettings) (password : Option String) (world : World) :
    Except Failure Connection → World → Prop
  | unresolved (unknown : SocketAddress.resolve? world.hosts settings.address = none) :
      Connects settings password world (.error (.invalidAddress settings.address)) world
  | refused {socket : SocketAddress} {fault : TransportFault} {after : World}
      (resolved : SocketAddress.resolve? world.hosts settings.address = some socket)
      (attempt : (establish socket.text settings.connectTimeout).run world =
        (.error fault, after)) :
      Connects settings password world (.error (.transport fault)) after
  | abandoned {socket : SocketAddress} {connection : Connection} {failure : Failure}
      {opened after : World}
      (resolved : SocketAddress.resolve? world.hosts settings.address = some socket)
      (attempt : (establish socket.text settings.connectTimeout).run world =
        (.ok connection, opened))
      (prepared : (connection.prepare settings password).run.run opened =
        (.error failure, after)) :
      Connects settings password world (.error failure)
        (after.recorded connection.address (some connection.number) .close)
  | ready {socket : SocketAddress} {connection ready : Connection} {opened after : World}
      (resolved : SocketAddress.resolve? world.hosts settings.address = some socket)
      (attempt : (establish socket.text settings.connectTimeout).run world =
        (.ok connection, opened))
      (prepared : (connection.prepare settings password).run.run opened = (.ok ready, after)) :
      Connects settings password world (.ok ready) after

theorem connects {settings : ConnectionSettings} {password : Option String}
    {outcome : Except Failure Connection}
    (ran : (connect settings password).run world = (outcome, final)) :
    Connects settings password world outcome final := by
  unfold connect at ran
  rcases Action.bind_cases ran with ⟨_, _, got, ran⟩
  cases got
  rcases resolved : SocketAddress.resolve? world.hosts settings.address with _ | socket
  · rw [resolved] at ran
    cases ran
    exact .unresolved resolved
  · rw [resolved] at ran
    rcases Action.bind_cases ran with ⟨fault | connection, opened, attempt, ran⟩
    · cases ran
      exact .refused resolved attempt
    · rcases Action.bind_cases ran with ⟨failure | ready, after, prepared, ran⟩
      · cases ran
        exact .abandoned resolved attempt prepared
      · cases ran
        exact .ready resolved attempt prepared

end Connection

/-- Whether from one state of a network to another nothing is sent but the given commands. -/
def World.SendsOnly (commands : List (List Bytes)) (world final : World) : Prop :=
  ∃ events, final.events = world.events ++ events ∧
    ∀ event ∈ events, ∀ bytes, event.activity = .send bytes →
      ∃ command ∈ commands, bytes = Wire.encodeCommand command

namespace World

variable {commands : List (List Bytes)} {world middle final : World}

theorem SendsOnly.ofEvents (unchanged : final.events = world.events) :
    SendsOnly commands world final :=
  ⟨[], unchanged.trans (List.append_nil _).symm, List.forall_mem_nil _⟩

theorem SendsOnly.ofEvent {event : Event} (appended : final.events = world.events ++ [event])
    (silent : ∀ bytes, event.activity ≠ .send bytes) : SendsOnly commands world final :=
  ⟨[event], appended,
    List.forall_mem_singleton.mpr fun bytes sends => absurd sends (silent bytes)⟩

theorem SendsOnly.trans (first : SendsOnly commands world middle)
    (second : SendsOnly commands middle final) : SendsOnly commands world final := by
  rcases first with ⟨events, appended, only⟩
  rcases second with ⟨more, appendedMore, onlyMore⟩
  refine ⟨events ++ more, ?_, List.forall_mem_append.mpr ⟨only, onlyMore⟩⟩
  rw [appendedMore, appended, List.append_assoc]

end World

namespace Connection

variable {connection last : Connection} {world final : World}
  {writes : List (List Bytes × Except Failure Value)} {commands : List (List Bytes)}
  {settings : ConnectionSettings} {password : Option String}
  {outcome : Except Failure Connection}

theorem Configures.sendsOnly (configures : Configures connection world final) :
    World.SendsOnly commands world final := by
  rcases configures.events_eq with ⟨activities, settings, appended⟩
  refine ⟨_, appended, ?_⟩
  rw [List.forall_mem_map]
  intro activity member bytes sends
  have setting := settings activity member
  rw [show activity = .send bytes from sends] at setting
  contradiction

theorem Negotiates.sendsOnly (negotiates : connection.Negotiates commands world outcome final) :
    World.SendsOnly commands world final := by
  rcases negotiates with ⟨writes, answer, last, exchanges, confirms, _⟩
  refine ⟨_, exchanges.events_eq, ?_⟩
  rw [List.forall_mem_map]
  intro write member bytes sends
  exact ⟨write.1, confirms.mem write member, (Activity.send.inj sends).symm⟩

theorem Negotiates.hosts_eq (negotiates : connection.Negotiates commands world outcome final) :
    final.hosts = world.hosts := by
  rcases negotiates with ⟨writes, answer, last, exchanges, _⟩
  exact exchanges.hosts_eq

theorem sendsOnly_prepare
    (ran : (connection.prepare settings password).run.run world = (outcome, final)) :
    World.SendsOnly (settings.handshake password) world final ∧ final.hosts = world.hosts := by
  rcases prepare_cases ran with ⟨configured, configures, ⟨_, rfl⟩ | negotiates⟩
  · exact ⟨configures.sendsOnly, configures.hosts_eq⟩
  · exact ⟨configures.sendsOnly.trans negotiates.sendsOnly,
      negotiates.hosts_eq.trans configures.hosts_eq⟩

theorem sendsOnly_establish {address : String} {timeout : Option Duration}
    {established : Except TransportFault Connection}
    (attempt : (establish address timeout).run world = (established, final)) :
    World.SendsOnly commands world final ∧ final.hosts = world.hosts := by
  rcases established with fault | opened
  · rcases establish_error attempt with ⟨unchanged | appended, _, hosts⟩
    · exact ⟨.ofEvents unchanged, hosts⟩
    · exact ⟨.ofEvent appended (fun _ => nofun), hosts⟩
  · rcases establish_ok attempt with ⟨_, _, appended, _, hosts⟩
    exact ⟨.ofEvent appended (fun _ => nofun), hosts⟩

/-- All that is sent to make a connection is its handshake. -/
theorem Connects.sendsOnly (connects : Connects settings password world outcome final) :
    World.SendsOnly (settings.handshake password) world final ∧ final.hosts = world.hosts := by
  cases connects with
  | unresolved unknown => exact ⟨.ofEvents rfl, rfl⟩
  | refused resolved attempt => exact sendsOnly_establish attempt
  | abandoned resolved attempt prepared =>
      rcases sendsOnly_establish attempt with ⟨opening, hosts⟩
      rcases sendsOnly_prepare prepared with ⟨handshake, sameHosts⟩
      refine ⟨(opening.trans handshake).trans (.ofEvent rfl (fun _ => nofun)), ?_⟩
      exact sameHosts.trans hosts
  | ready resolved attempt prepared =>
      rcases sendsOnly_establish attempt with ⟨opening, hosts⟩
      rcases sendsOnly_prepare prepared with ⟨handshake, sameHosts⟩
      exact ⟨opening.trans handshake, sameHosts.trans hosts⟩

/-- A connection is to the socket address that an address means. -/
def IsAt (hosts : List (String × List IpAddress)) (address : String) (connection : Connection) :
    Prop :=
  ∃ socket, SocketAddress.resolve? hosts address = some socket ∧ connection.address = socket.text

theorem Connects.failure_cases {failure : Failure}
    (connects : Connects settings password world (.error failure) final) :
    failure.isOfExchange = true ∨ failure = .invalidAddress settings.address := by
  cases connects with
  | unresolved unknown => exact Or.inr rfl
  | refused resolved attempt => exact Or.inl rfl
  | abandoned resolved attempt prepared =>
      left
      rcases prepare_cases prepared with ⟨configured, _, ⟨failed, _⟩ | negotiates⟩
      · cases failed
        rfl
      · rcases negotiates with ⟨writes, answer, last, exchanges, confirms, failed⟩
        rcases answer with cause | _ <;> cases failed
        exact confirms.isOfExchange exchanges.breaksConnection

end Connection

end SlotClient
