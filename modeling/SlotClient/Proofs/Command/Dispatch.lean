import SlotClient.Command.Executor
import SlotClient.Proofs.Command.Request
import SlotClient.Proofs.Decimal.Positional
import SlotClient.Proofs.Network.World
import SlotClient.Proofs.Slot.Agreement

/-!
# What is sent for a command

A client that keeps what it is given to execute behaves as it does without keeping it, so that what
is kept tells what any client is given. For a command that is at most one thing: arguments in which
a server finds what the command was asked with, and a route to the slot of all the keys in them.
-/

namespace SlotClient

/-- A client, and the routes and arguments that it was given to execute. -/
structure Recorded (Client : Type) where
  client : Client
  calls : List (Route × List Bytes) := []

instance {Client : Type} [Executor Client] : Executor (Recorded Client) where
  policy recorded := Executor.policy recorded.client
  execute recorded route arguments := do
    let (reply, client) ← Executor.execute recorded.client route arguments
    return (reply, { client, calls := recorded.calls ++ [(route, arguments)] })

namespace Command

/-- A server finds in the arguments what the command is asked with, and the route leads to the slot
that all its keys lie in. An amount that need not be whole is read back from its text unchanged. -/
structure IsConveyedBy (command : Command) (route : Route) (arguments : List Bytes) : Prop where
  request : ∃ options, command.options = .ok options ∧
    Request.ofArguments? arguments = some (command.request options)
  amount : ∀ key amount, command = .incrByFloat key amount →
    ∃ text, arguments = [Bytes.ofText "INCRBYFLOAT", key, text] ∧
      Decimal.binary64? text = some amount
  nowhere : route = .anywhere ↔ command.keys?.getD [] = []
  together : ∀ key ∈ command.keys?.getD [], route = .slot (Slot.ofKey key)

/-- What is executed for a command: nothing if it is refused, and otherwise once what it is
dispatched as. -/
def executions (command : Command) (policy : RoutingPolicy) : List (Route × List Bytes) :=
  (command.dispatch policy).toOption.toList

/-- The world after the entry in the log for a command, which one without keys does not make. -/
def noted (command : Command) (route : Route) (world : World) : World :=
  if command.keys?.isSome then
    world.logged (.dispatch (Utf8.lossyText command.name) route)
  else world

variable {command : Command} {route : Route} {arguments : List Bytes}

theorem network_noted (command : Command) (route : Route) (world : World) :
    (command.noted route world).network = world.network := by
  unfold noted
  split <;> rfl

/-- A command that is refused does nothing. -/
theorem run_of_dispatch_error {Client : Type} [Executor Client] {client : Client}
    {violation : Violation}
    (refused : command.dispatch (Executor.policy client) = .error violation) (world : World) :
    (command.run client).run world = ((.error (.violation violation), client), world) := by
  rw [Command.run, refused]
  rfl

/-- A command that is not refused is executed once. -/
theorem run_of_dispatch_ok {Client : Type} [Executor Client] {client : Client}
    (dispatched : command.dispatch (Executor.policy client) = .ok (route, arguments))
    (world : World) :
    (command.run client).run world =
      let ran := (Executor.execute client route arguments).run (command.noted route world)
      ((ran.1.1.bind command.resultKind.decode, ran.1.2), ran.2) := by
  rw [Command.run, dispatched, noted]
  dsimp only
  split <;> rfl

theorem route_bySlot (command : Command) :
    command.route .bySlot = RoutingPolicy.bySlot.route (command.keys?.getD []) := by
  rw [Command.route]
  cases command.keys? <;> rfl

theorem route_singleServer (command : Command) : command.route .singleServer = .ok .anywhere := by
  rw [Command.route]
  cases command.keys? <;> rfl

theorem dispatch_of_route {policy : RoutingPolicy} (routed : command.route policy = .ok route) :
    command.dispatch policy = command.arguments.map fun arguments => (route, arguments) := by
  rw [dispatch, routed]
  cases command.arguments <;> rfl

theorem dispatch_eq_ok_iff {policy : RoutingPolicy} :
    command.dispatch policy = .ok (route, arguments) ↔
      command.arguments = .ok arguments ∧ command.route policy = .ok route := by
  rw [dispatch]
  cases command.arguments with
  | error violation => simp [bind, Except.bind]
  | ok acceptable =>
      cases command.route policy with
      | error violation => simp [bind, Except.bind]
      | ok chosen => simp [bind, Except.bind, pure, Except.pure, and_comm]

/-- A server finds the keys of the command, which lie in one slot. -/
theorem IsConveyedBy.areShared (conveyed : command.IsConveyedBy route arguments)
    {request : Request} (found : Request.ofArguments? arguments = some request) :
    Slot.AreShared request.keys := by
  rcases conveyed.request with ⟨options, _, asked⟩
  have same : request = command.request options := Option.some.inj (found.symm.trans asked)
  cases route with
  | anywhere =>
      refine ⟨0, ?_⟩
      intro key member
      rw [same, Command.request, conveyed.nowhere.mp rfl] at member
      contradiction
  | slot slot =>
      refine ⟨slot, ?_⟩
      intro key member
      rw [same] at member
      exact (Route.slot.inj (conveyed.together key member)).symm

/-- What is sent for an amount is read back as the amount, which has to be finite. -/
theorem exists_text_of_incrByFloat {key : Bytes} {amount : Binary64}
    (acceptable : (incrByFloat key amount).arguments = .ok arguments) :
    ∃ text, arguments = [Bytes.ofText "INCRBYFLOAT", key, text] ∧
      Decimal.binary64? text = some amount := by
  rw [Command.arguments, operands] at acceptable
  split at acceptable
  · rename_i finite
    cases acceptable
    have isNumber : amount.isNaN = false := by
      rw [Binary64.isNaN, Bool.and_eq_false_iff, beq_eq_false_iff_ne]
      exact .inl (bne_iff_ne.mp finite)
    exact ⟨_, rfl, Decimal.binary64?_shortestText isNumber⟩
  · cases acceptable

theorem isConveyedBy_of_dispatch (dispatched : command.dispatch .bySlot = .ok (route, arguments)) :
    command.IsConveyedBy route arguments := by
  rcases dispatch_eq_ok_iff.mp dispatched with ⟨acceptable, routed⟩
  rw [route_bySlot] at routed
  rcases RoutingPolicy.route_bySlot_eq_ok_iff.mp routed with ⟨nowhere, together⟩
  refine ⟨ofArguments?_arguments acceptable, ?_, nowhere, together⟩
  rintro key amount rfl
  exact exists_text_of_incrByFloat acceptable

/-- Nothing is executed for a command that is asked with something unacceptable, or whose keys do
not share a slot. -/
theorem executions_bySlot_eq_nil_iff :
    command.executions .bySlot = [] ↔
      (∃ violation, command.arguments = .error violation) ∨
        ¬Slot.AreShared (command.keys?.getD []) := by
  rw [← RoutingPolicy.route_bySlot_isOk_iff, executions, dispatch, route_bySlot]
  cases command.arguments with
  | error violation => simp [bind, Except.bind, Except.toOption]
  | ok acceptable =>
      cases RoutingPolicy.bySlot.route (command.keys?.getD []) with
      | error violation => simp [bind, Except.bind, Except.toOption]
      | ok chosen => simp [bind, Except.bind, pure, Except.pure, Except.toOption]

/-- A command that is asked with nothing unacceptable is refused only for keys of different slots, and
the caller can tell that this was the cause. -/
theorem dispatch_bySlot_crosses_iff (acceptable : command.arguments = .ok arguments) :
    (∃ violation, command.dispatch .bySlot = .error violation ∧
        (Failure.violation violation).isCrossSlot = true) ↔
      ¬Slot.AreShared (command.keys?.getD []) := by
  rw [Slot.areShared_iff, dispatch, acceptable, route_bySlot, RoutingPolicy.route]
  rcases found : Slot.common? (command.keys?.getD []) with violation | slot?
  · have crossing : (Failure.violation violation).isCrossSlot = true := by
      rcases Slot.common?_eq_error_iff.mp found with ⟨_, _, _, _, _, _, _, rfl⟩
      rfl
    refine iff_of_true ⟨violation, rfl, crossing⟩ ?_
    rintro ⟨slot?, shared⟩
    cases shared
  · refine iff_of_false ?_ (not_not_intro ⟨slot?, rfl⟩)
    rintro ⟨violation, refused, _⟩
    cases refused

theorem mem_executions_iff {policy : RoutingPolicy} {call : Route × List Bytes} :
    call ∈ command.executions policy ↔
      command.dispatch policy = .ok call ∧ command.executions policy = [call] := by
  rw [executions]
  cases command.dispatch policy with
  | error violation => simp [Except.toOption]
  | ok dispatched => simp [Except.toOption, eq_comm]

/-- Keeping what a client is given changes nothing else. -/
theorem run_recorded {Client : Type} [Executor Client] (command : Command)
    (recorded : Recorded Client) (world : World) :
    (command.run recorded).run world =
      let ran := (command.run recorded.client).run world
      ((ran.1.1, ⟨ran.1.2,
        recorded.calls ++ command.executions (Executor.policy recorded.client)⟩), ran.2) := by
  have samePolicy : Executor.policy recorded = Executor.policy recorded.client := rfl
  rw [executions]
  cases dispatched : command.dispatch (Executor.policy recorded.client) with
  | error violation =>
      rw [run_of_dispatch_error dispatched, run_of_dispatch_error (samePolicy ▸ dispatched)]
      simp [Except.toOption]
  | ok call =>
      rw [run_of_dispatch_ok dispatched, run_of_dispatch_ok (samePolicy ▸ dispatched)]
      rfl

/-- What is validated is what is sent. Whatever else a client that routes by slot does, and however
it replies: for a command it is given at most one thing to execute. A server finds in its arguments
just the keys, values, numbers and options that the command was asked with, and its route is the
slot of every key, and anywhere if there are none. So the keys that a server finds share a slot. -/
theorem run_sends_what_is_validated {Client : Type} [Executor Client] {client : Client}
    (routes : Executor.policy client = .bySlot) (command : Command) (world : World) :
    let ran := (command.run client).run world
    ∃ calls,
      (command.run ({ client } : Recorded Client)).run world =
        ((ran.1.1, ⟨ran.1.2, calls⟩), ran.2) ∧
      (calls = [] ↔ (∃ violation, command.arguments = .error violation) ∨
        ¬Slot.AreShared (command.keys?.getD [])) ∧
      ∀ call ∈ calls, calls = [call] ∧ command.IsConveyedBy call.1 call.2 ∧
        ∀ request, Request.ofArguments? call.2 = some request → Slot.AreShared request.keys := by
  intro ran
  refine ⟨command.executions .bySlot, ?_, executions_bySlot_eq_nil_iff, ?_⟩
  · rw [run_recorded, routes, List.nil_append]
  · intro call member
    rcases mem_executions_iff.mp member with ⟨dispatched, single⟩
    have conveyed := isConveyedBy_of_dispatch dispatched
    exact ⟨single, conveyed, fun request found => conveyed.areShared found⟩

/-- Two pairs whose keys have the same tag, and what a server is sent for them. -/
theorem run_sends_what_is_validated_mset :
    let recorder : Recorder := { policy := .bySlot }
    let command : Command := .mset [([123, 97, 125, 49], [7]), ([123, 97, 125, 50], [8])]
    let recorded := ((command.run ({ client := recorder } : Recorded Recorder)).run {}).1.2
    recorded.calls = [(.slot 15495,
      [Bytes.ofText "MSET", [123, 97, 125, 49], [7], [123, 97, 125, 50], [8]])] ∧
    ∀ call ∈ recorded.calls, command.IsConveyedBy call.1 call.2 := by
  intro recorder command recorded
  have routes : Executor.policy recorder = .bySlot := rfl
  rcases run_sends_what_is_validated routes command {} with ⟨calls, ran, _, sent⟩
  have same : recorded.calls = calls := congrArg (fun result => result.1.2.calls) ran
  refine ⟨by decide +kernel, ?_⟩
  intro call member
  rw [same] at member
  exact (sent call member).2.1

end Command

end SlotClient
