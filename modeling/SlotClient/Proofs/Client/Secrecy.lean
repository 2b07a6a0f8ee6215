import SlotClient.Proofs.Client.Disguise
import SlotClient.Proofs.Client.Rejection

/-!
# What the log does not tell

Two clients of the same kind, set up alike but for their credentials, are asked for the same things:
the same commands, on keys of the same slots, with other keys, values and numbers, and to rotate to
other passwords. Then nobody can tell them apart who sees nothing but their logs.

There is one thing that a log does tell: in which order a client of a cluster has gone through its
pools to authenticate all their connections. This is up to the world and has nothing to do with the
secrets, but two clients in worlds with different orders may be told apart by it.
-/

namespace SlotClient

/-- There are no two values for one only where it is seen what is sent. -/
theorem Aspect.confuses_of_hidden {aspect : Aspect} (hidden : aspect ≠ .network) {Secret : Type}
    (secret twin : Secret) : aspect.Confuses secret twin :=
  fun shown => absurd shown hidden

/-- The same command but for what is stored, numbers, options and the texts of keys. The keys are in
the same slots, one by one, and both commands can be sent or neither. -/
structure Command.Resembles (command twin : Command) : Prop where
  name_eq : twin.name = command.name
  slots_eq : twin.keys?.map (List.map Slot.ofKey) = command.keys?.map (List.map Slot.ofKey)
  acceptance : twin.IsUnacceptable ↔ command.IsUnacceptable

namespace Command.Resembles

variable {command twin : Command} {policy : RoutingPolicy}

theorem isSome_keys?_eq (alike : command.Resembles twin) :
    twin.keys?.isSome = command.keys?.isSome := by
  rw [← Option.isSome_map, alike.slots_eq, Option.isSome_map]

theorem route_eq (alike : command.Resembles twin) : twin.route policy = command.route policy := by
  have slots_eq := alike.slots_eq
  unfold route
  generalize command.keys? = keys, twin.keys? = twins at slots_eq ⊢
  rcases keys with _ | keys
  · rw [Option.map_none, Option.map_eq_none_iff] at slots_eq
    rw [slots_eq]
  · rcases twins with _ | twins
    · cases slots_eq
    · cases policy with
      | singleServer => rfl
      | bySlot =>
          have same := Slot.common?_congr (Option.some.inj slots_eq)
          dsimp only [RoutingPolicy.route]
          rw [same]

/-- Both commands are refused, or both are dispatched along the same route. -/
theorem dispatch (alike : command.Resembles twin) :
    (∃ violation twinViolation, command.dispatch policy = .error violation ∧
        twin.dispatch policy = .error twinViolation) ∨
      ∃ route arguments twins, command.dispatch policy = .ok (route, arguments) ∧
        twin.dispatch policy = .ok (route, twins) := by
  have refused : (∃ violation, twin.dispatch policy = .error violation) ↔
      ∃ violation, command.dispatch policy = .error violation := by
    rw [dispatch_eq_error_iff, dispatch_eq_error_iff, alike.acceptance, alike.route_eq]
  rcases first : command.dispatch policy with violation | ⟨route, arguments⟩
  · rcases refused.mpr ⟨violation, first⟩ with ⟨twinViolation, second⟩
    exact Or.inl ⟨violation, twinViolation, rfl, second⟩
  · rcases second : twin.dispatch policy with violation | ⟨twinRoute, twins⟩
    · rcases refused.mp ⟨violation, second⟩ with ⟨_, impossible⟩
      rw [first] at impossible
      cases impossible
    · have routed := (dispatch_eq_ok_iff.mp first).2
      rw [← alike.route_eq, (dispatch_eq_ok_iff.mp second).2] at routed
      cases routed
      exact Or.inr ⟨route, arguments, twins, rfl, rfl⟩

end Command.Resembles

/-- The same call but for secrets: commands that resemble each other, or rotations with two
passwords of which both are missing or empty, or neither. -/
inductive Call.Resembles : Call → Call → Prop
  | perform {command twin : Command} (alike : command.Resembles twin) :
      Resembles (.perform command) (.perform twin)
  | updatePassword {password twin : Option String} (immediate : Bool)
      (missing : (∀ text ∈ twin, text = "") ↔ ∀ text ∈ password, text = "") :
      Resembles (.updatePassword password immediate) (.updatePassword twin immediate)
  | resetPassword : Resembles .resetPassword .resetPassword

theorem isNone_filter_iff {password : Option String} :
    (password.filter (· != "")).isNone = true ↔ ∀ text ∈ password, text = "" := by
  rcases password with _ | text
  · simp
  · by_cases empty : text = "" <;> simp [empty, Option.filter]

/-- All that is seen of a password that is set is whether it is missing. -/
theorem hides_of_missing {aspect : Aspect} (hidden : aspect ≠ .network)
    {password twin : Option String}
    (missing : (∀ text ∈ twin, text = "") ↔ ∀ text ∈ password, text = "") :
    aspect.Hides (password.filter (· != "")) (twin.filter (· != "")) := by
  refine ⟨?_, Aspect.confuses_of_hidden hidden _ _⟩
  rw [← isNone_filter_iff, ← isNone_filter_iff, ← Bool.eq_iff_iff] at missing
  rw [← Option.not_isNone, ← Option.not_isNone, missing]

theorem Aspect.Hides.of_hidden {aspect other : Aspect} (hidden : other ≠ .network) {Secret : Type}
    {secret twin : Option Secret} (hides : aspect.Hides secret twin) : other.Hides secret twin :=
  ⟨hides.isSome_eq, confuses_of_hidden hidden _ _⟩

theorem ServerConfiguration.Resemble.of_hidden {aspect other : Aspect} (hidden : other ≠ .network)
    {configuration twin : ServerConfiguration} (alike : configuration.Resemble aspect twin) :
    configuration.Resemble other twin :=
  ⟨alike.configuration_eq, Aspect.confuses_of_hidden hidden _ _, alike.password.of_hidden hidden⟩

theorem ClusterConfiguration.Resemble.of_hidden {aspect other : Aspect} (hidden : other ≠ .network)
    {configuration twin : ClusterConfiguration} (alike : configuration.Resemble aspect twin) :
    configuration.Resemble other twin :=
  ⟨alike.configuration_eq, Aspect.confuses_of_hidden hidden _ _, alike.password.of_hidden hidden⟩

namespace Client

/-- Two clients of the same kind that are alike but for their credentials. If those of clusters are
to authenticate their connections at once, it has to be seen in which order. -/
inductive Resembles (aspect : Aspect) (atOnce : Prop) : Client → Client → Prop
  | standalone {client twin : Standalone} (alike : client.Resemble aspect twin) :
      Resembles aspect atOnce (.standalone client) (.standalone twin)
  | cluster {client twin : Cluster} (alike : client.Resemble aspect twin)
      (ordered : atOnce → aspect ≠ .unordered) :
      Resembles aspect atOnce (.cluster client) (.cluster twin)

/-- The same set-up but for the name of the user and the text of the password. -/
inductive Setup.Resembles : Setup → Setup → Prop
  | server {configuration twin : ServerConfiguration} (alike : configuration.Resemble .log twin) :
      Resembles (.server configuration) (.server twin)
  | cluster {configuration twin : ClusterConfiguration} (alike : configuration.Resemble .log twin) :
      Resembles (.cluster configuration) (.cluster twin)

variable {aspect : Aspect} {atOnce : Prop} {client twin : Client}

/-- Whatever the results are, the clients are alike. -/
def ResembleAfter (aspect : Aspect) (atOnce : Prop) {First Second : Type} (first : First × Client)
    (second : Second × Client) : Prop :=
  first.2.Resembles aspect atOnce second.2

theorem Resembles.policy_eq (alike : client.Resembles aspect atOnce twin) :
    Executor.policy twin = Executor.policy client := by
  cases alike <;> rfl

theorem Resembles.execute (alike : client.Resembles aspect atOnce twin) (hidden : aspect ≠ .network)
    (route : Route) (arguments twins : List Bytes) :
    Action.Agree aspect (Action.AlikeAfter (Resembles aspect atOnce))
      (client.execute route arguments) (twin.execute route twins) := by
  have confused := Aspect.confuses_of_hidden hidden arguments twins
  cases alike with
  | standalone alike =>
      refine (Standalone.agree_execute alike confused).bind ?_
      rintro ⟨reply, after⟩ ⟨_, twinAfter⟩ ⟨rfl, alikeAfter⟩
      exact .pure ⟨rfl, .standalone alikeAfter⟩
  | cluster alike ordered =>
      refine (Cluster.agree_execute alike route confused).bind ?_
      rintro ⟨reply, after⟩ ⟨_, twinAfter⟩ ⟨rfl, alikeAfter⟩
      exact .pure ⟨rfl, .cluster alikeAfter ordered⟩

theorem Resembles.updatePassword (alike : client.Resembles aspect atOnce twin)
    (hidden : aspect ≠ .network) {immediate : Bool} (asked : immediate = true → atOnce)
    {password other : Option String}
    (missing : (∀ text ∈ other, text = "") ↔ ∀ text ∈ password, text = "") :
    Action.Agree aspect (Action.AlikeAfter (Resembles aspect atOnce))
      (client.updatePassword password immediate) (twin.updatePassword other immediate) := by
  have hides := hides_of_missing hidden missing
  cases alike with
  | standalone alike =>
      refine (Standalone.agree_updatePassword alike immediate hides).bind ?_
      rintro ⟨outcome, after⟩ ⟨_, twinAfter⟩ ⟨rfl, alikeAfter⟩
      exact .pure ⟨rfl, .standalone alikeAfter⟩
  | cluster alike ordered =>
      refine (Cluster.agree_updatePassword alike (ordered ∘ asked) hides).bind ?_
      rintro ⟨outcome, after⟩ ⟨_, twinAfter⟩ ⟨rfl, alikeAfter⟩
      exact .pure ⟨rfl, .cluster alikeAfter ordered⟩

/-- A command is run alike. What its reply is decoded to may differ in kind, as with `SET` with
options and without, but no longer matters. -/
theorem Resembles.run {command other : Command} (clients : client.Resembles aspect atOnce twin)
    (hidden : aspect ≠ .network) (commands : command.Resembles other) :
    Action.Agree aspect (ResembleAfter aspect atOnce) (command.run client) (other.run twin) := by
  unfold Command.run
  rw [clients.policy_eq, commands.name_eq, commands.isSome_keys?_eq]
  rcases commands.dispatch with
    ⟨violation, twinViolation, refused, alsoRefused⟩ | ⟨route, arguments, twins, first, second⟩
  · rw [refused, alsoRefused]
    exact .pure clients
  · rw [first, second]
    dsimp only
    have executed : Action.Agree aspect (ResembleAfter aspect atOnce)
        (do
          let (reply, client) ← Executor.execute client route arguments
          return (reply.bind command.resultKind.decode, client))
        (do
          let (reply, client) ← Executor.execute twin route twins
          return (reply.bind other.resultKind.decode, client)) :=
      (clients.execute hidden route arguments twins).bind fun _ _ alike => .pure alike.2
    split
    · exact (World.agree_note _).bind_eq fun _ => executed
    · exact executed

theorem Resembles.call {call other : Call} (clients : client.Resembles aspect atOnce twin)
    (hidden : aspect ≠ .network) (calls : call.Resembles other)
    (asked : ∀ password, call = .updatePassword password true → atOnce) :
    Action.Agree aspect (ResembleAfter aspect atOnce) (call.run client) (other.run twin) := by
  cases calls with
  | perform alike => exact clients.run hidden alike
  | updatePassword immediate missing =>
      have immediately (isImmediate : immediate = true) : atOnce :=
        asked _ (by rw [isImmediate])
      exact (clients.updatePassword hidden immediately missing).mono fun _ _ alike => alike.2
  | resetPassword =>
      have cleared : Action.Agree aspect (Action.AlikeAfter (Resembles aspect atOnce))
          (client.updatePassword none false) (twin.updatePassword none false) :=
        clients.updatePassword hidden (absurd · Bool.false_ne_true) Iff.rfl
      exact cleared.mono fun _ _ alike => alike.2

/-- Calls are answered alike, one after the other. -/
theorem Resembles.answer {calls twins : List Call} (clients : client.Resembles aspect atOnce twin)
    (hidden : aspect ≠ .network) (alike : List.Forall₂ Call.Resembles calls twins)
    (asked : ∀ password, .updatePassword password true ∈ calls → atOnce) :
    Action.Agree aspect (ResembleAfter aspect atOnce) (client.answer calls)
      (twin.answer twins) := by
  induction alike generalizing client twin with
  | nil => exact .pure clients
  | cons first rest ih =>
      have askedFirst := fun password same => asked password (List.mem_cons.mpr (.inl same))
      have askedRest := fun password member => asked password (List.mem_cons_of_mem _ member)
      refine (clients.call hidden first fun password same =>
        askedFirst password same.symm).bind fun _ _ after => ?_
      exact (ih after askedRest).bind fun _ _ final => .pure final

/-- A set-up makes a client if one that resembles it does. -/
theorem Setup.Resembles.makes {setup other : Setup} (alike : setup.Resembles other)
    (made : setup.client = .ok client) :
    ∃ twin, other.client = .ok twin ∧ ∀ aspect, aspect ≠ .network → ∀ atOnce : Prop,
      (∀ configuration, setup = .cluster configuration → atOnce → aspect ≠ .unordered) →
        client.Resembles aspect atOnce twin := by
  cases alike with
  | server alike =>
      cases made
      exact ⟨_, rfl, fun aspect hidden _ _ =>
        .standalone (Standalone.resemble_create (alike.of_hidden hidden))⟩
  | @cluster configuration twin alike =>
      have nodes_eq : twin.nodes = configuration.nodes := by rw [alike.configuration_eq]
      by_cases hasSeed : configuration.nodes ≠ []
      · have twinHasSeed : twin.nodes ≠ [] := by rwa [nodes_eq]
        rw [Setup.client, ofCluster, Cluster.create, dif_pos hasSeed] at made
        cases made
        refine ⟨_, by rw [Setup.client, ofCluster, Cluster.create, dif_pos twinHasSeed]; rfl, ?_⟩
        intro aspect hidden atOnce ordered
        have alike := alike.of_hidden hidden
        exact .cluster ⟨alike, alike.password, .nil, rfl⟩ (ordered _ rfl)
      · rw [Setup.client, ofCluster, Cluster.create, dif_neg hasSeed] at made
        cases made

/-- Payloads and secrets never reach the log. Let two clients of the same kind be set up alike but
for the name of the user and the text of the password, and let both be asked for the same things, on
the same network: each command resembles the other one, with keys in the same slots but any values,
numbers and options that can be sent, and each rotation is to a password of its own. Then their logs
are the same, entry by entry and with all fields, if they go through maps in the same order. The
order makes no difference unless they are clients of a cluster and are asked to authenticate at
once. -/
theorem log_keeps_secrets {setup other : Setup} (alike : setup.Resembles other)
    (made : setup.client = .ok client) :
    ∃ twin, other.client = .ok twin ∧
      ∀ (world : World) (order : KeyOrder) (calls twins : List Call),
        List.Forall₂ Call.Resembles calls twins →
          (∀ configuration password, setup = .cluster configuration →
            .updatePassword password true ∈ calls → order = world.order) →
          ((twin.answer twins).run { world with order }).2.log =
            ((client.answer calls).run world).2.log := by
  rcases alike.makes made with ⟨twin, twinMade, clients⟩
  refine ⟨twin, twinMade, fun world order calls twins resemble sameOrder => ?_⟩
  by_cases same : order = world.order
  · subst same
    have answered := (clients .log nofun True fun _ _ _ => nofun).answer nofun resemble
      fun _ _ => trivial
    have log_eq := congrArg World.log (answered (rfl : Aspect.log.of world = _)).2
    exact log_eq
  · -- Without the same order nothing is authenticated at once, so the order is not looked at.
    have ordered (configuration : ClusterConfiguration) (isCluster : setup = .cluster configuration)
        (atOnce : ∃ password, .updatePassword password true ∈ calls) :
        Aspect.unordered ≠ .unordered := by
      rcases atOnce with ⟨password, member⟩
      exact absurd (sameOrder configuration password isCluster member) same
    have answered := (clients .unordered nofun _ ordered).answer nofun resemble
      fun password member => ⟨password, member⟩
    have alikeWorlds : Aspect.unordered.of { world with order } = Aspect.unordered.of world := rfl
    have log_eq := congrArg World.log (answered alikeWorlds).2
    exact log_eq

/-- Two clients of a cluster, one of which names its user, store other values under other keys of the
same slot and authenticate with other passwords before and after. What they send is not the same. -/
theorem log_keeps_secrets_rotated :
    let configuration : ClusterConfiguration := { nodes := ["1.2.3.4:5"], password := some "a" }
    let setup : Setup := .cluster configuration
    let other : Setup := .cluster { configuration with username := some "u", password := some "b" }
    let calls : List Call := [.perform (.set [123, 97, 125, 49] [7]),
      .updatePassword (some "c") true]
    let twins : List Call := [.perform (.set [123, 97, 125, 50] [8, 9]),
      .updatePassword (some "d") true]
    ∃ client twin world order, setup.client = .ok client ∧ other.client = .ok twin ∧
      ((client.answer calls).run world).2.log.length = 6 ∧
      ((twin.answer twins).run { world with order }).2.log =
        ((client.answer calls).run world).2.log ∧
      ((twin.answer twins).run { world with order }).2.events ≠
        ((client.answer calls).run world).2.events := by
  intro configuration setup other calls twins
  let world : World := { nodes := [("1.2.3.4:5", ⟨[], [.data [43, 79, 75, 13, 10] none,
    .data [43, 79, 75, 13, 10] none, .data [43, 79, 75, 13, 10] none], 0⟩)] }
  have hidden : Aspect.log ≠ .network := nofun
  have alike : setup.Resembles other := .cluster ⟨rfl, Aspect.confuses_of_hidden hidden _ _, rfl,
    Aspect.confuses_of_hidden hidden _ _⟩
  have commands : (Command.set [123, 97, 125, 49] [7]).Resembles (.set [123, 97, 125, 50] [8, 9]) :=
    ⟨rfl, by decide +kernel, by constructor <;> exact nofun⟩
  have resemble : List.Forall₂ Call.Resembles calls twins :=
    .cons (.perform commands) (.cons (.updatePassword true (by simp)) .nil)
  have first : setup.client = .ok (.cluster ⟨configuration, some "a", [], {},
    List.cons_ne_nil _ _⟩) := rfl
  have second : other.client = .ok (.cluster
    ⟨{ configuration with username := some "u", password := some "b" }, some "b", [], {},
      List.cons_ne_nil _ _⟩) := rfl
  rcases log_keeps_secrets alike first with ⟨twin, made, same⟩
  cases made.symm.trans second
  have sameLog := same world .asAdded calls twins resemble fun _ _ _ _ => rfl
  exact ⟨_, _, world, .asAdded, first, second, by decide +kernel, sameLog, by decide +kernel⟩

/-- The log tells in which order pools are gone through. A client whose seed has redirected it is to
authenticate at once, so that it has two pools to do this in. In worlds that differ in nothing but
the order of keys, the client has the same entries in its log, but not in the same order. -/
theorem log_tells_order :
    let setup : Setup := .cluster { nodes := ["1.2.3.4:5"] }
    let calls : List Call := [.perform (.ping none), .updatePassword (some "b") true]
    ∃ client world order, setup.client = .ok client ∧ setup.Resembles setup ∧
      List.Forall₂ Call.Resembles calls calls ∧
      ((client.answer calls).run { world with order }).2.log.Perm
        ((client.answer calls).run world).2.log ∧
      ((client.answer calls).run { world with order }).2.log ≠
        ((client.answer calls).run world).2.log := by
  intro setup calls
  let world : World := { nodes := [
    ("1.2.3.4:5", ⟨[], [.data [45, 77, 79, 86, 69, 68, 32, 49, 32, 58, 54, 13, 10] none,
      .data [43, 79, 75, 13, 10] none], 0⟩),
    ("1.2.3.4:6", ⟨[], [.data [43, 79, 75, 13, 10] none, .data [43, 79, 75, 13, 10] none], 0⟩)] }
  let order : KeyOrder := ⟨List.reverse, List.reverse_perm⟩
  have alike : setup.Resembles setup := .cluster ⟨rfl, .refl _, .refl _⟩
  have commands : (Command.ping none).Resembles (.ping none) := ⟨rfl, rfl, Iff.rfl⟩
  have resemble : List.Forall₂ Call.Resembles calls calls :=
    .cons (.perform commands) (.cons (.updatePassword true Iff.rfl) .nil)
  exact ⟨_, world, order, rfl, alike, resemble, by decide +kernel, by decide +kernel⟩

end Client

end SlotClient
