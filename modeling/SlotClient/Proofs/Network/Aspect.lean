import SlotClient.Proofs.Network.Connection

/-!
# Aspects of the world

A client never reads its log, and it never reads what it has done to the network. So two worlds may
differ in their logs, or in their events, and whatever is done in them goes on alike. They may also
differ in the order in which maps are gone through, as long as none is. What is not different is the
aspect of the world in which they agree.

Two actions agree in an aspect if from worlds that agree in it they lead to worlds that agree in it,
with related results. Where events are no part of the aspect, what is sent makes no difference, so
that two actions agree even if they send different secrets. Actions that are made of such actions
are such actions, and so everything comes down to an attempt to connect, an exchange, and what is
recorded.
-/

namespace SlotClient

open Wire (Value)

/-- What of a world is looked at: all but its log, all but its events, or all but its events and the
order in which maps are gone through. -/
inductive Aspect where
  | network
  | log
  | unordered

namespace Aspect

def of : Aspect → World → World
  | network, world => world.network
  | log, world => { world with events := [] }
  | unordered, world => { world with events := [], order := .asAdded }

/-- In an aspect that shows what is sent there are no two values for one. -/
def Confuses {Secret : Type} (aspect : Aspect) (secret twin : Secret) : Prop :=
  aspect = .network → twin = secret

variable {aspect : Aspect} {world other : World}

theorem Confuses.refl {Secret : Type} (secret : Secret) : aspect.Confuses secret secret :=
  fun _ => rfl

theorem Confuses.map {Secret Value : Type} {secret twin : Secret}
    (confused : aspect.Confuses secret twin) (toValue : Secret → Value) :
    aspect.Confuses (toValue secret) (toValue twin) :=
  fun shown => congrArg toValue (confused shown)

theorem hosts_eq (same : aspect.of other = aspect.of world) : other.hosts = world.hosts := by
  have hosts := congrArg World.hosts same
  cases aspect <;> exact hosts

theorem nodes_eq (same : aspect.of other = aspect.of world) : other.nodes = world.nodes := by
  have nodes := congrArg World.nodes same
  cases aspect <;> exact nodes

theorem order_eq (shown : aspect ≠ .unordered) (same : aspect.of other = aspect.of world) :
    other.order = world.order := by
  have order := congrArg World.order same
  cases aspect with
  | network | log => exact order
  | unordered => contradiction

theorem pending_eq (same : aspect.of other = aspect.of world) : other.pending = world.pending := by
  funext address
  rw [World.pending, World.pending, nodes_eq same]

theorem of_logged (same : aspect.of other = aspect.of world) (entry : LogEntry) :
    aspect.of (other.logged entry) = aspect.of (world.logged entry) := by
  cases aspect with
  | network => exact same
  | log | unordered => exact congrArg (World.logged · entry) same

/-- A record of two different activities is alike if it is not seen. -/
theorem of_recorded (same : aspect.of other = aspect.of world) {activity twin : Activity}
    (confused : aspect.Confuses activity twin) (address : String) (connection : Option Nat) :
    aspect.of (other.recorded address connection twin) =
      aspect.of (world.recorded address connection activity) := by
  cases aspect with
  | network =>
      cases confused rfl
      exact congrArg (World.recorded · address connection activity) same
  | log | unordered => exact same

theorem of_withNode (same : aspect.of other = aspect.of world) (address : String) (node : Node) :
    aspect.of (other.withNode address node) = aspect.of (world.withNode address node) := by
  cases aspect <;> exact congrArg (World.withNode · address node) same

theorem of_advance (same : aspect.of other = aspect.of world) (address : String) :
    aspect.of (other.advance address) = aspect.of (world.advance address) := by
  unfold World.advance
  rw [nodes_eq same]
  split
  · exact same
  · split
    · exact same
    · exact of_withNode same _ _

end Aspect

/-- Two actions lead from worlds that agree in an aspect to such worlds, with related results. -/
def Action.Agree {First Second : Type} (aspect : Aspect) (Related : First → Second → Prop)
    (action : Action First) (twin : Action Second) : Prop :=
  ∀ ⦃world other : World⦄, aspect.of other = aspect.of world →
    Related (action.run world).1 (twin.run other).1 ∧
      aspect.of (twin.run other).2 = aspect.of (action.run world).2

/-- The same result, with two states that are alike. -/
def Action.AlikeAfter {Result State : Type} (Alike : State → State → Prop)
    (first second : Result × State) : Prop :=
  second.1 = first.1 ∧ Alike first.2 second.2

/-- Whether an action has the same result and leaves the same network whatever is in the log. -/
def Action.IgnoresLog {Result : Type} (action : Action Result) : Prop :=
  ∀ ⦃world other : World⦄, other.network = world.network →
    (action.run other).1 = (action.run world).1 ∧
      (action.run other).2.network = (action.run world).2.network

namespace Action.Agree

variable {First Second Later Last : Type} {aspect : Aspect} {Related : First → Second → Prop}
  {Ending : Later → Last → Prop} {action : Action First} {twin : Action Second}

theorem pure {result : First} {other : Second} (related : Related result other) :
    Agree aspect Related (Pure.pure result) (Pure.pure other) :=
  fun _ _ same => ⟨related, same⟩

theorem bind {next : First → Action Later} {twinNext : Second → Action Last}
    (first : Agree aspect Related action twin)
    (second : ∀ result other, Related result other →
      Agree aspect Ending (next result) (twinNext other)) :
    Agree aspect Ending (action >>= next) (twin >>= twinNext) := by
  intro world other same
  rcases first same with ⟨related, after⟩
  exact second _ _ related after

/-- If the first results are equal, what follows has to agree for one result at a time. -/
theorem bind_eq {action twin : Action First} {next : First → Action Later}
    {twinNext : First → Action Last} (first : Agree aspect Eq action twin)
    (second : ∀ result, Agree aspect Ending (next result) (twinNext result)) :
    Agree aspect Ending (action >>= next) (twin >>= twinNext) := by
  refine first.bind ?_
  rintro result _ rfl
  exact second result

theorem attempt {action twin : ExceptT Failure Action First}
    {next twinNext : First → ExceptT Failure Action Later}
    (first : Agree aspect Eq action.run twin.run)
    (second : ∀ result, Agree aspect Eq (next result).run (twinNext result).run) :
    Agree aspect Eq (action >>= next).run (twin >>= twinNext).run := by
  rw [ExceptT.run_bind, ExceptT.run_bind]
  refine first.bind_eq ?_
  rintro (failure | result)
  · exact .pure rfl
  · exact second result

theorem lift {action twin : Action First} (agree : Agree aspect Eq action twin) :
    Agree aspect Eq (liftM action : ExceptT Failure Action First).run
      (liftM twin : ExceptT Failure Action First).run := by
  intro world other same
  rcases agree same with ⟨result, after⟩
  rw [run_lift, run_lift, result]
  exact ⟨rfl, after⟩

/-- What is done may depend on the world, if it depends on its hosts alone. -/
theorem get {next : World → Action First} {twinNext : World → Action Second}
    (agree : ∀ world, Agree aspect Related (next world) (twinNext world))
    (onHosts : ∀ world other : World, other.hosts = world.hosts →
      twinNext other = twinNext world) :
    Agree aspect Related (MonadState.get >>= next) (MonadState.get >>= twinNext) := by
  intro world other same
  have ran : (MonadState.get >>= twinNext : Action Second).run other =
      (twinNext other).run other := rfl
  rw [ran, onHosts world other (Aspect.hosts_eq same)]
  exact agree world same

theorem ignoresLog {action : Action First} (agree : Agree .network Eq action action) :
    action.IgnoresLog := by
  intro world other same
  rcases agree same with ⟨result, after⟩
  exact ⟨result.symm, after⟩

theorem mono {Weaker : First → Second → Prop} (agree : Agree aspect Related action twin)
    (weaker : ∀ result other, Related result other → Weaker result other) :
    Agree aspect Weaker action twin :=
  fun _ _ same => ⟨weaker _ _ (agree same).1, (agree same).2⟩

end Action.Agree

open SlotClient.Action (Agree)

variable {aspect : Aspect}

theorem World.agree_note (entry : LogEntry) : Agree aspect Eq (note entry) (note entry) :=
  fun _ _ same => ⟨rfl, Aspect.of_logged same entry⟩

theorem World.agree_record (address : String) (connection : Option Nat) (activity : Activity) :
    Agree aspect Eq (record address connection activity) (record address connection activity) :=
  fun _ _ same => ⟨rfl, Aspect.of_recorded same (.refl _) address connection⟩

namespace Connection

variable (connection : Connection)

theorem agree_close : Agree aspect Eq connection.close connection.close :=
  World.agree_record _ _ _

/-- The reply to a command does not depend on what is sent. -/
theorem agree_exchange {arguments twins : List Bytes}
    (confused : aspect.Confuses arguments twins) :
    Agree aspect Eq (connection.exchange arguments) (connection.exchange twins) := by
  intro world other same
  rw [run_exchange, run_exchange, Aspect.pending_eq same]
  refine ⟨rfl, Aspect.of_advance ?_ _⟩
  exact Aspect.of_recorded same (confused.map fun arguments =>
    .send (Wire.encodeCommand arguments)) _ _

theorem agree_confirm {arguments twins : List Bytes} (confused : aspect.Confuses arguments twins) :
    Agree aspect Eq (connection.confirm arguments) (connection.confirm twins) :=
  (connection.agree_exchange confused).bind_eq fun _ => .pure rfl

/-- Whether a connection is authenticated is seen, but not with what. -/
theorem agree_authenticate {username twinName : Option String} {password twinPassword : String}
    (names : aspect.Confuses username twinName)
    (passwords : aspect.Confuses password twinPassword) :
    Agree aspect Eq (connection.authenticate username password)
      (connection.authenticate twinName twinPassword) := by
  have confused : aspect.Confuses (authArguments username password)
      (authArguments twinName twinPassword) := by
    intro shown
    rw [names shown, passwords shown]
  refine (connection.agree_confirm confused).bind_eq ?_
  rintro ⟨failure | accepted, used⟩
  · exact .pure rfl
  · exact (World.agree_note _).bind_eq fun _ => .pure rfl

theorem agree_establish (address : String) (timeout : Option Duration) :
    Agree aspect Eq (establish address timeout) (establish address timeout) := by
  intro world other same
  by_cases allowed : timeout = some 0
  · rw [allowed]
    exact ⟨rfl, same⟩
  · rw [run_establish _ allowed, run_establish _ allowed, Aspect.nodes_eq same]
    split
    · exact ⟨rfl, Aspect.of_recorded same (.refl _) _ _⟩
    · split
      · exact ⟨rfl, Aspect.of_recorded (Aspect.of_withNode same _ _) (.refl _) _ _⟩
      · exact ⟨rfl, Aspect.of_recorded (Aspect.of_withNode same _ _) (.refl _) _ _⟩

theorem agree_setLimit (limit : Option Duration) (activity : UInt64 → Activity) :
    Agree aspect Eq (connection.setLimit limit activity).run
      (connection.setLimit limit activity).run := by
  unfold setLimit
  rcases limit with _ | limit
  · exact .pure rfl
  · dsimp only
    split
    · exact .pure rfl
    · exact .lift (World.agree_record _ _ _)

end Connection

/-- Two secrets that are both there or both missing, and equal where they are seen. -/
structure Aspect.Hides {Secret : Type} (aspect : Aspect) (secret twin : Option Secret) : Prop where
  isSome_eq : twin.isSome = secret.isSome
  confused : aspect.Confuses secret twin

theorem Aspect.Hides.refl {Secret : Type} (secret : Option Secret) : aspect.Hides secret secret :=
  ⟨rfl, .refl _⟩

theorem Aspect.Hides.cases {Secret : Type} {secret twin : Option Secret}
    (hides : aspect.Hides secret twin) :
    (secret = none ∧ twin = none) ∨
      ∃ value other, secret = some value ∧ twin = some other ∧ aspect.Confuses value other := by
  rcases hides with ⟨isSome_eq, confused⟩
  rcases secret with _ | value
  · exact Or.inl ⟨rfl, by simpa using isSome_eq⟩
  · rcases twin with _ | other
    · cases isSome_eq
    · exact Or.inr ⟨value, other, rfl, rfl, fun shown => Option.some.inj (confused shown)⟩

/-- The same settings but for the name of the user. -/
structure ConnectionSettings.Resemble (aspect : Aspect) (settings twin : ConnectionSettings) :
    Prop where
  settings_eq : twin = { settings with username := twin.username }
  username : aspect.Confuses settings.username twin.username

theorem ConnectionSettings.Resemble.eq {settings twin : ConnectionSettings}
    (resemble : settings.Resemble .network twin) : twin = settings := by
  rw [resemble.settings_eq, resemble.username rfl]

namespace Connection

variable (connection : Connection) {settings twin : ConnectionSettings}
  {password twinPassword : Option String}

theorem agree_identify {username twinName : Option String}
    (names : aspect.Confuses username twinName) (passwords : aspect.Hides password twinPassword) :
    Agree aspect Eq (connection.identify username password).run
      (connection.identify twinName twinPassword).run := by
  rcases passwords.cases with ⟨rfl, rfl⟩ | ⟨secret, other, rfl, rfl, confused⟩
  · exact .pure rfl
  · refine .attempt (.lift (connection.agree_authenticate names confused)) ?_
    rintro ⟨outcome, used⟩
    exact .attempt (.pure (Eq.refl outcome)) fun _ => .pure rfl

theorem agree_select (database : Option Int64) :
    Agree aspect Eq (connection.select database).run (connection.select database).run := by
  rcases database with _ | database
  · exact .pure rfl
  · refine .attempt (.lift (connection.agree_confirm (.refl _))) ?_
    rintro ⟨outcome, used⟩
    exact .attempt (.pure (Eq.refl outcome)) fun _ => .pure rfl

theorem agree_prepare (resemble : settings.Resemble aspect twin)
    (passwords : aspect.Hides password twinPassword) :
    Agree aspect Eq (connection.prepare settings password).run
      (connection.prepare twin twinPassword).run := by
  rw [resemble.settings_eq]
  refine .attempt (connection.agree_setLimit _ _) fun _ => ?_
  refine .attempt (connection.agree_setLimit _ _) fun _ => ?_
  refine .attempt (.lift (World.agree_record _ _ _)) fun _ => ?_
  refine .attempt (.lift (World.agree_note _)) fun _ => ?_
  refine .attempt (connection.agree_identify resemble.username passwords) fun used => ?_
  exact used.agree_select _

/-- A connection is made alike, whatever the name of the user and the password. -/
theorem agree_connect (resemble : settings.Resemble aspect twin)
    (passwords : aspect.Hides password twinPassword) :
    Agree aspect Eq (connect settings password) (connect twin twinPassword) := by
  have address : twin.address = settings.address := by rw [resemble.settings_eq]
  have timeout : twin.connectTimeout = settings.connectTimeout := by rw [resemble.settings_eq]
  unfold connect
  rw [address, timeout]
  refine .get (fun world => ?_) fun world other same => ?_
  · cases SocketAddress.resolve? world.hosts settings.address with
    | none => exact .pure rfl
    | some socket =>
        refine (agree_establish _ _).bind_eq ?_
        rintro (fault | connection)
        · exact .pure rfl
        · refine (connection.agree_prepare resemble passwords).bind_eq ?_
          rintro (failure | ready)
          · exact connection.agree_close.bind_eq fun _ => .pure rfl
          · exact .pure rfl
  · rw [same]

end Connection

end SlotClient
