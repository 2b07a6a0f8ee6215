import SlotClient.Network.World
import SlotClient.Proofs.Lookup

/-!
# The world under actions

Actions on the world are functions of it, and an action made of two is the second one run in the
world that the first one leaves. The responses that nodes have not given yet are the part of the
world that decides about replies; `World.pending` lists them for each node.
-/

namespace SlotClient

theorem Action.run_bind {First Second : Type} (action : Action First)
    (next : First → Action Second) (world : World) :
    (action >>= next).run world = (next (action.run world).1).run (action.run world).2 :=
  rfl

/-- What an action followed by another results in, the other one results in. -/
theorem Action.bind_cases {First Second : Type} {action : Action First}
    {next : First → Action Second} {world final : World} {outcome : Second}
    (ran : (action >>= next).run world = (outcome, final)) :
    ∃ result middle, action.run world = (result, middle) ∧
      (next result).run middle = (outcome, final) :=
  ⟨_, _, rfl, ran⟩

theorem Action.run_lift {Result : Type} (action : Action Result) (world : World) :
    (liftM action : ExceptT Failure Action Result).run.run world =
      (.ok (action.run world).1, (action.run world).2) :=
  rfl

theorem Action.run_attempt {First Second : Type} (first : ExceptT Failure Action First)
    (next : First → ExceptT Failure Action Second) (world : World) :
    (first >>= next).run.run world =
      match first.run.run world with
      | (.ok result, after) => (next result).run.run after
      | (.error failure, after) => (.error failure, after) := by
  rw [ExceptT.run_bind, Action.run_bind]
  rcases first.run.run world with ⟨_ | _, _⟩ <;> rfl

/-- Either the first of two actions fails, and so do both, or the other one runs after it. -/
theorem Action.attempt_cases {First Second : Type} {first : ExceptT Failure Action First}
    {next : First → ExceptT Failure Action Second} {world final : World}
    {outcome : Except Failure Second} (ran : (first >>= next).run.run world = (outcome, final)) :
    (∃ failure, first.run.run world = (.error failure, final) ∧ outcome = .error failure) ∨
      ∃ result middle, first.run.run world = (.ok result, middle) ∧
        (next result).run.run middle = (outcome, final) := by
  rw [Action.run_attempt] at ran
  rcases ranFirst : first.run.run world with ⟨failure | result, middle⟩
  · rw [ranFirst] at ran
    cases ran
    exact Or.inl ⟨failure, rfl, rfl⟩
  · rw [ranFirst] at ran
    exact Or.inr ⟨result, middle, rfl, ran⟩

namespace World

/-- The responses that a node has not given yet. -/
def pending (world : World) (address : String) : List Response :=
  ((world.nodes.lookup address).map Node.responses).getD []

/-- The world after a node has given its next response, if there is one. -/
def advance (world : World) (address : String) : World :=
  match world.nodes.lookup address with
  | none => world
  | some node =>
    match node.responses with
    | [] => world
    | _ :: responses => world.withNode address { node with responses }

def recorded (world : World) (address : String) (connection : Option Nat) (activity : Activity) :
    World :=
  { world with events := world.events ++ [⟨address, connection, activity⟩] }

/-- The world after an entry in the log. -/
def logged (world : World) (entry : LogEntry) : World :=
  { world with log := world.log ++ [entry] }

/-- The world without its log. -/
def network (world : World) : World := { world with log := [] }

theorem hosts_of_network {world other : World} (same : other.network = world.network) :
    other.hosts = world.hosts := by
  have hosts := congrArg World.hosts same
  exact hosts

theorem events_of_network {world other : World} (same : other.network = world.network) :
    other.events = world.events := by
  have events := congrArg World.events same
  exact events

@[simp]
theorem run_record (address : String) (connection : Option Nat) (activity : Activity)
    (world : World) :
    (record address connection activity).run world =
      ((), world.recorded address connection activity) :=
  rfl

@[simp]
theorem run_note (entry : LogEntry) (world : World) :
    (note entry).run world = ((), world.logged entry) :=
  rfl

theorem lookup_withNode (world : World) (address other : String) (node : Node) :
    (world.withNode address node).nodes.lookup other =
      if other = address then (world.nodes.lookup address).map fun _ => node
      else world.nodes.lookup other :=
  lookup_replace world.nodes address other node

/-- Replacing a node changes no responses but its own. -/
theorem pending_withNode {world : World} {address : String} {replaced : Node}
    (found : world.nodes.lookup address = some replaced) (node : Node) (other : String) :
    (world.withNode address node).pending other =
      if other = address then node.responses else world.pending other := by
  simp only [pending, lookup_withNode, found, Option.map_some]
  split <;> rfl

@[simp]
theorem pending_recorded (world : World) (address : String) (connection : Option Nat)
    (activity : Activity) :
    (world.recorded address connection activity).pending = world.pending :=
  rfl

/-- A response that has been given is no longer to come, and no other node is affected. -/
theorem pending_advance (world : World) (address other : String) :
    (world.advance address).pending other =
      if other = address then (world.pending address).tail else world.pending other := by
  have unchanged (empty : world.pending address = []) : world.pending other =
      if other = address then (world.pending address).tail else world.pending other := by
    split
    · rename_i here
      rw [here, empty, List.tail_nil]
    · rfl
  unfold advance
  split
  · rename_i missing
    exact unchanged (by simp only [pending, missing, Option.map_none, Option.getD_none])
  · rename_i node found
    have own : world.pending address = node.responses := by
      simp only [pending, found, Option.map_some, Option.getD_some]
    split
    · rename_i exhausted
      exact unchanged (own.trans exhausted)
    · rename_i response responses available
      rw [pending_withNode found, own, available, List.tail_cons]

@[simp]
theorem hosts_advance (world : World) (address : String) :
    (world.advance address).hosts = world.hosts := by
  unfold advance
  split
  · rfl
  · split <;> rfl

@[simp]
theorem events_advance (world : World) (address : String) :
    (world.advance address).events = world.events := by
  unfold advance
  split
  · rfl
  · split <;> rfl

end World

end SlotClient
