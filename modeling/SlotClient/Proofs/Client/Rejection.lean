import SlotClient.Proofs.Client.Credentials
import SlotClient.Proofs.Command.Decoding
import SlotClient.Proofs.Command.Options

/-!
# Rejection

A client rejects a call before it does anything for it: it looks at the options and arguments of a
command, then at its keys, and at the password of a rotation, and only then at its pools. Whatever
goes wrong later is met in the course of execution and is no violation. So the violations among the
results are just the rejections, and a call that ends with one has left no trace.
-/

namespace SlotClient

open Wire (Value)

/-- Whether a failure is met when a command is executed or a pool authenticated, rather than found
in what is asked for. -/
def Failure.isOfExecution : Failure → Bool
  | configuration _ | violation _ => false
  | _ => true

theorem Failure.isOfExecution_of_isOfExchange {failure : Failure}
    (exchange : failure.isOfExchange = true) : failure.isOfExecution = true := by
  cases failure <;> first | rfl | contradiction

theorem Pool.Acquires.isOfExecution {pool rest : Pool} {world final : World} {failure : Failure}
    (acquires : Acquires pool world (.error failure) rest final) :
    failure.isOfExecution = true := by
  rcases acquires.failure_cases with exchange | rfl | rfl
  · exact Failure.isOfExecution_of_isOfExchange exchange
  · rfl
  · rfl

theorem Standalone.isOfExecution_execute {client after : Standalone} {arguments : List Bytes}
    {world final : World} {failure : Failure}
    (ran : (client.execute arguments).run world = ((.error failure, after), final)) :
    failure.isOfExecution = true := by
  cases executes ran with
  | unreached acquires => exact acquires.isOfExecution
  | reached acquires exchange released =>
      exact Failure.isOfExecution_of_isOfExchange (Lease.isOfExchange_exchange exchange)

namespace Cluster

variable {cluster after : Cluster} {target : String} {asking : Bool} {arguments : List Bytes}
  {world final : World} {failure : Failure}

theorem Sends.isOfExecution {writes : List (List Bytes × Except Failure Value)}
    (sends : cluster.Sends target asking arguments world writes (.error failure) after final) :
    failure.isOfExecution = true := by
  cases sends with
  | unreached ensured acquires => exact acquires.isOfExecution
  | reached ensured acquires exchanges delivers intact released =>
      have exchange := delivers.isOfExchange exchanges.breaksConnection
      exact Failure.isOfExecution_of_isOfExchange exchange

theorem Follows.isOfExecution {route : Route} {limit : Nat} {visits : List Visit}
    {outcome : Except Failure Value}
    (follows : Follows route arguments limit target asking cluster world visits outcome after final)
    (failed : outcome = .error failure) : failure.isOfExecution = true := by
  induction follows with
  | exhausted entry =>
      cases failed
      rfl
  | answered sends answered =>
      subst failed
      exact sends.isOfExecution
  | redirected sends stated entry rest ih => exact ih failed

end Cluster

namespace Client

variable {client after : Client} {world final : World} {failure : Failure}

theorem isOfExecution_execute {route : Route} {arguments : List Bytes}
    (ran : (Executor.execute client route arguments).run world =
      ((.error failure, after), final)) : failure.isOfExecution = true := by
  change (Client.execute client route arguments).run world = _ at ran
  unfold Client.execute at ran
  cases client with
  | standalone client =>
      rcases Action.bind_cases ran with ⟨⟨reply, used⟩, last, executed, ran⟩
      cases ran
      exact Standalone.isOfExecution_execute executed
  | cluster client =>
      rcases Action.bind_cases ran with ⟨⟨reply, used⟩, last, executed, ran⟩
      cases ran
      rcases Cluster.follows executed with ⟨visits, follows⟩
      exact follows.isOfExecution rfl

/-- A command that is dispatched does not end with a violation. -/
theorem isOfExecution_run {command : Command} {call : Route × List Bytes}
    (dispatched : command.dispatch (Executor.policy client) = .ok call)
    (ran : (command.run client).run world = ((.error failure, after), final)) :
    failure.isOfExecution = true := by
  rw [Command.run_of_dispatch_ok dispatched] at ran
  rcases executed : (Executor.execute client call.1 call.2).run (command.noted call.1 world) with
    ⟨⟨cause | value, used⟩, last⟩
  · rw [executed] at ran
    cases ran
    exact isOfExecution_execute executed
  · rw [executed] at ran
    have undecodable : command.resultKind.decode value = .error failure := congrArg (·.1.1) ran
    have exchange := command.resultKind.isOnlyOfExchange_decode value failure undecodable
    exact Failure.isOfExecution_of_isOfExchange exchange

/-- A rotation that is accepted does not end with a violation. -/
theorem isOfExecution_updatePassword {requested rotated : Option String} {immediate : Bool}
    (accepted : rotatedPassword requested immediate = .ok rotated)
    (ran : (client.updatePassword requested immediate).run world =
      ((.error failure, after), final)) : failure.isOfExecution = true := by
  rcases failure_of_updatePassword accepted ran with exchange | ⟨address, rfl⟩
  · exact Failure.isOfExecution_of_isOfExchange exchange
  · rfl

end Client

/-- A command is asked with what it cannot be sent with: `SET` with the removal of an expiry,
`GETEX` with an expiry that is kept, or `INCRBYFLOAT` with an amount that is not finite. -/
inductive Command.IsUnacceptable : Command → Prop
  | persisting (key value : Bytes) {options : WriteOptions}
      (persists : options.expiry = some .persist) : IsUnacceptable (.setWith key value options)
  | keeping (key : Bytes) {options : ReadOptions} (keeps : options.expiry = some .keepTtl) :
      IsUnacceptable (.getExWith key options)
  | notFinite (key : Bytes) {amount : Binary64} (notFinite : amount.isFinite = false) :
      IsUnacceptable (.incrByFloat key amount)

namespace Command

theorem arguments_eq_error_iff {command : Command} :
    (∃ violation, command.arguments = .error violation) ↔
      ∃ violation, command.operands = .error violation := by
  rw [arguments]
  cases command.operands <;> simp [Except.map]

/-- Only what a command is asked with can make it unacceptable. -/
theorem operands_eq_error_iff {command : Command} :
    (∃ violation, command.operands = .error violation) ↔ command.IsUnacceptable := by
  constructor
  · rintro ⟨violation, refused⟩
    cases command with
    | setWith key value options =>
        cases given : options.arguments with
        | error cause =>
            exact .persisting key value (WriteOptions.arguments_eq_error_iff.mp ⟨cause, given⟩)
        | ok rest =>
            rw [operands, given] at refused
            cases refused
    | getExWith key options =>
        cases given : options.arguments with
        | error cause => exact .keeping key (ReadOptions.arguments_eq_error_iff.mp ⟨cause, given⟩)
        | ok rest =>
            rw [operands, given] at refused
            cases refused
    | incrByFloat key amount =>
        cases finite : amount.isFinite with
        | false => exact .notFinite key finite
        | true =>
            rw [operands, finite] at refused
            cases refused
    | _ => cases refused
  · rintro (⟨key, value, persists⟩ | ⟨key, keeps⟩ | ⟨key, notFinite⟩)
    · rcases WriteOptions.arguments_eq_error_iff.mpr persists with ⟨cause, given⟩
      exact ⟨cause, by rw [operands, given]; rfl⟩
    · rcases ReadOptions.arguments_eq_error_iff.mpr keeps with ⟨cause, given⟩
      exact ⟨cause, by rw [operands, given]; rfl⟩
    · exact ⟨_, by rw [operands, notFinite]; rfl⟩

/-- A command is not dispatched if it is unacceptable or cannot be routed. -/
theorem dispatch_eq_error_iff {command : Command} {policy : RoutingPolicy} :
    (∃ violation, command.dispatch policy = .error violation) ↔
      command.IsUnacceptable ∨ ¬∃ route, command.route policy = .ok route := by
  rw [← operands_eq_error_iff, ← arguments_eq_error_iff, dispatch]
  cases command.arguments with
  | error violation => simp [bind, Except.bind]
  | ok acceptable =>
      cases command.route policy with
      | error violation => simp [bind, Except.bind]
      | ok chosen => simp [bind, Except.bind, pure, Except.pure]

end Command

theorem rotatedPassword_eq_error_iff {password : Option String} {immediate : Bool} :
    (∃ violation, rotatedPassword password immediate = .error violation) ↔
      immediate = true ∧ ∀ text ∈ password, text = "" := by
  unfold rotatedPassword
  rcases password with _ | text
  · cases immediate <;> simp
  · by_cases empty : text = ""
    · cases immediate <;> simp [empty, Option.filter]
    · cases immediate <;> simp [empty, Option.filter]

namespace Client

/-- What a client rejects: a command that is asked with something unacceptable, on a cluster also
one whose keys do not lie in one slot, and to authenticate at once without a password. -/
inductive Rejects : Client → Call → Prop
  | unacceptable {client : Client} {command : Command} (unacceptable : command.IsUnacceptable) :
      Rejects client (.perform command)
  | scattered {cluster : Cluster} {command : Command}
      (scattered : ¬Slot.AreShared (command.keys?.getD [])) :
      Rejects (.cluster cluster) (.perform command)
  | passwordless {client : Client} {password : Option String}
      (passwordless : ∀ text ∈ password, text = "") :
      Rejects client (.updatePassword password true)

variable {client after : Client} {world final : World}

theorem policy_cluster (cluster : Cluster) :
    Executor.policy (Client.cluster cluster) = .bySlot :=
  rfl

theorem rejects_perform_iff {command : Command} :
    client.Rejects (.perform command) ↔
      ∃ violation, command.dispatch (Executor.policy client) = .error violation := by
  rw [Command.dispatch_eq_error_iff]
  constructor
  · intro rejects
    cases rejects with
    | unacceptable unacceptable => exact Or.inl unacceptable
    | scattered scattered =>
        refine Or.inr fun routed => scattered ?_
        rw [policy_cluster, Command.route_bySlot] at routed
        exact RoutingPolicy.route_bySlot_isOk_iff.mp routed
  · rintro (unacceptable | unroutable)
    · exact .unacceptable unacceptable
    · cases client with
      | standalone client => exact absurd ⟨.anywhere, command.route_singleServer⟩ unroutable
      | cluster cluster =>
          rw [policy_cluster, Command.route_bySlot, RoutingPolicy.route_bySlot_isOk_iff]
            at unroutable
          exact .scattered unroutable

theorem rejects_updatePassword_iff {password : Option String} {immediate : Bool} :
    client.Rejects (.updatePassword password immediate) ↔
      ∃ violation, rotatedPassword password immediate = .error violation := by
  rw [rotatedPassword_eq_error_iff]
  constructor
  · intro rejects
    cases rejects with
    | passwordless passwordless => exact ⟨rfl, passwordless⟩
  · rintro ⟨rfl, passwordless⟩
    exact .passwordless passwordless

/-- A call that is rejected ends with a violation and does nothing. -/
theorem Rejects.run {call : Call} (rejects : client.Rejects call) (world : World) :
    ∃ cause, (call.run client).run world = ((.error (.violation cause), client), world) := by
  cases call with
  | perform command =>
      rcases rejects_perform_iff.mp rejects with ⟨cause, refused⟩
      exact ⟨cause, Command.run_of_dispatch_error refused world⟩
  | updatePassword password immediate =>
      rcases rejects_updatePassword_iff.mp rejects with ⟨cause, refused⟩
      exact ⟨_, updatePassword_of_rejected refused client world⟩
  | resetPassword => cases rejects

/-- A call that is not rejected does not end with a violation. -/
theorem isOfExecution_of_accepted {call : Call} {failure : Failure}
    (accepted : ¬client.Rejects call)
    (ran : (call.run client).run world = ((.error failure, after), final)) :
    failure.isOfExecution = true := by
  cases call with
  | perform command =>
      rw [rejects_perform_iff] at accepted
      rcases dispatched : command.dispatch (Executor.policy client) with violation | call
      · exact absurd ⟨violation, dispatched⟩ accepted
      · exact isOfExecution_run dispatched ran
  | updatePassword password immediate =>
      rw [rejects_updatePassword_iff] at accepted
      rcases outcome : rotatedPassword password immediate with violation | rotated
      · exact absurd ⟨violation, outcome⟩ accepted
      · exact isOfExecution_updatePassword outcome ran
  | resetPassword =>
      have cleared : rotatedPassword none false = .ok none := rfl
      exact isOfExecution_updatePassword cleared ran

/-- A rejection leaves no trace. Whatever state a client is in, and whatever it is asked for: if the
result is a violation, the client is as it was before, with its pools, their queues and counts, the
passwords and the owners of slots that it has learned, and so is the world, with all events on the
network and all entries in the log. And the result is a violation exactly if the call is one that is
rejected: a command that is asked with something unacceptable, on a cluster one whose keys do not
lie in one slot, or to authenticate at once with no password or an empty one. -/
theorem rejection_leaves_no_trace (client : Client) (call : Call) (world : World) :
    let ran := (call.run client).run world
    (∀ cause, ran.1.1 = .error (.violation cause) → ran.1.2 = client ∧ ran.2 = world) ∧
      ((∃ cause, ran.1.1 = .error (.violation cause)) ↔ client.Rejects call) := by
  intro ran
  have rejected (cause : Violation) (violates : ran.1.1 = .error (.violation cause)) :
      client.Rejects call := by
    by_contra accepted
    have same : (call.run client).run world = ((.error (.violation cause), ran.1.2), ran.2) := by
      rw [← violates]
      rfl
    have executed := isOfExecution_of_accepted accepted same
    contradiction
  refine ⟨?_, ?_, ?_⟩
  · intro cause violates
    rcases (rejected cause violates).run world with ⟨_, same⟩
    exact ⟨congrArg (·.1.2) same, congrArg Prod.snd same⟩
  · rintro ⟨cause, violates⟩
    exact rejected cause violates
  · intro rejects
    rcases rejects.run world with ⟨cause, same⟩
    exact ⟨cause, congrArg (·.1.1) same⟩

/-- A client of a cluster that has an idle connection and knows the owner of a slot is asked for two
keys that lie in different slots. -/
theorem rejection_leaves_no_trace_scattered :
    let connection : Connection := { address := "1.2.3.4:5", number := 1 }
    let pool : Pool := {
      settings := ({} : ClusterConfiguration).poolSettings "1.2.3.4:5"
      password := some "a"
      idle := [connection]
      total := 1 }
    let client : Client := .cluster {
      configuration := {}
      password := some "a"
      pools := [("1.2.3.4:5", pool)]
      slots := ⟨[(9842, "1.2.3.4:5")]⟩
      hasSeed := List.cons_ne_nil _ _ }
    let world : World := { log := [.poolCreated "1.2.3.4:5"] }
    let ran := ((Call.perform (.mget [[49], [50]])).run client).run world
    (∃ cause, ran.1.1 = .error (.violation cause)) ∧ ran.1.2 = client ∧ ran.2 = world := by
  intro connection pool client world
  have rejects : client.Rejects (.perform (.mget [[49], [50]])) := by
    refine .scattered ?_
    rintro ⟨slot, shared⟩
    have first : Slot.ofKey [49] = slot := shared [49] (by decide)
    have second : Slot.ofKey [50] = slot := shared [50] (by decide)
    exact absurd (first.trans second.symm) (by decide +kernel)
  have traceless := rejection_leaves_no_trace client (.perform (.mget [[49], [50]])) world
  clear_value client world
  rcases traceless.2.mpr rejects with ⟨cause, violation⟩
  exact ⟨⟨cause, violation⟩, traceless.1 cause violation⟩

end Client

end SlotClient
