import Mathlib.Data.Multiset.Basic
import Mathlib.Data.Multiset.MapFold
import Mathlib.Logic.Function.Basic
import SlotClient.Proofs.Network.Handshake

/-!
# The history of a network

Events tell what was sent, but not how it was answered. Someone who observes a network and knows
what its nodes respond can tell this: each write on a connection is given the next response of the
node, which arrives behind what is unread there, and the reply is read from that. The history is
what such an observer sees to be done with connections; it depends on nothing but the responses
at the beginning and the events.

A client that holds connections is tracked by the observer if for all of them the observer knows
what has arrived and is unread. Then each exchange has the reply that the observer tells.
-/

namespace SlotClient

open Wire (Value)

/-- Something that is done with a connection, as an observer of the network sees it. -/
inductive Deed where
  | opened (connection : String × Nat)
  | exchanged (connection : String × Nat) (bytes : Bytes) (reply : Except Failure Value)
  | closed (connection : String × Nat)

/-- What an observer of the network knows: the responses to come, what is unread on each connection,
and what has been done so far. -/
structure Observer where
  pending : String → List Response
  connections : String × Nat → Connection
  deeds : List Deed := []

namespace Observer

/-- What is known after an event. -/
def see (observer : Observer) (event : Event) : Observer :=
  match event.connection, event.activity with
  | some number, .connect _ =>
    let identity := (event.address, number)
    { observer with
      connections := Function.update observer.connections identity
        { address := event.address, number }
      deeds := observer.deeds ++ [.opened identity] }
  | some number, .send bytes =>
    let identity := (event.address, number)
    let responses := observer.pending event.address
    let (reply, connection) := (observer.connections identity).answered responses.head?
    { pending := Function.update observer.pending event.address responses.tail
      connections := Function.update observer.connections identity connection
      deeds := observer.deeds ++ [.exchanged identity bytes reply] }
  | some number, .close =>
    { observer with deeds := observer.deeds ++ [.closed (event.address, number)] }
  | _, _ => observer

theorem see_setting (observer : Observer) {activity : Activity}
    (setting : activity.isSetting = true) (address : String) (number : Option Nat) :
    observer.see ⟨address, number, activity⟩ = observer := by
  cases number <;> cases activity <;> first | rfl | contradiction

end Observer

namespace World

/-- What an observer of the network knows who has watched it from a state on. -/
def observed (origin world : World) : Observer :=
  (world.events.drop origin.events.length).foldl Observer.see
    { pending := origin.pending
      connections := fun identity => { address := identity.1, number := identity.2 } }

/-- What was done with connections between two states of a network. -/
def history (origin world : World) : List Deed := (origin.observed world).deeds

/-- How many connections to a node were opened. -/
def opened (world : World) (address : String) : Nat :=
  ((world.nodes.lookup address).map Node.opened).getD 0

theorem observed_self (origin : World) :
    origin.observed origin =
      { pending := origin.pending
        connections := fun identity => { address := identity.1, number := identity.2 } } := by
  rw [observed, List.drop_length]
  rfl

theorem observed_append {origin world after : World} {events : List Event}
    (grown : origin.events <+: world.events) (appended : after.events = world.events ++ events) :
    origin.observed after = events.foldl Observer.see (origin.observed world) := by
  rw [observed, appended, List.drop_append_of_le_length grown.length_le, List.foldl_append]
  rfl

/-- An observer tracks connections: the responses to come and what is unread on each of them are
known. The connections differ from each other and from those that will be opened. -/
structure IsTracked (origin : World) (deeds : List Deed) (connections : Multiset Connection)
    (world : World) : Prop where
  grown : origin.events <+: world.events
  pending : (origin.observed world).pending = world.pending
  known : ∀ connection ∈ connections,
    (origin.observed world).connections connection.identity = connection
  history : origin.history world = deeds
  distinct : (connections.map Connection.identity).Nodup
  numbered : ∀ connection ∈ connections, connection.number ≤ world.opened connection.address

variable {origin world after : World} {deeds : List Deed} {connections : Multiset Connection}
  {connection : Connection}

theorem isTracked_self (origin : World) : origin.IsTracked [] 0 origin where
  grown := List.prefix_refl _
  pending := by rw [observed_self]
  known _ impossible := absurd impossible (Multiset.notMem_zero _)
  history := by rw [history, observed_self]
  distinct := Multiset.nodup_zero
  numbered _ impossible := absurd impossible (Multiset.notMem_zero _)

/-- Events that tell the observer nothing leave everything tracked. -/
theorem IsTracked.unseen (tracked : origin.IsTracked deeds connections world) {events : List Event}
    (appended : after.events = world.events ++ events)
    (unseen : events.foldl Observer.see (origin.observed world) = origin.observed world)
    (pending : after.pending = world.pending)
    (opened : ∀ address, world.opened address ≤ after.opened address) :
    origin.IsTracked deeds connections after := by
  have same : origin.observed after = origin.observed world :=
    (observed_append tracked.grown appended).trans unseen
  refine ⟨?_, ?_, ?_, ?_, tracked.distinct, ?_⟩
  · rw [appended]
    exact tracked.grown.trans (List.prefix_append _ _)
  · rw [same, pending]
    exact tracked.pending
  · rw [same]
    exact tracked.known
  · rw [World.history, same]
    exact tracked.history
  · intro connection member
    exact (tracked.numbered connection member).trans (opened _)

theorem IsTracked.logged (tracked : origin.IsTracked deeds connections world) (entry : LogEntry) :
    origin.IsTracked deeds connections (world.logged entry) :=
  tracked.unseen (List.append_nil _).symm rfl rfl fun _ => le_rfl

theorem opened_advance (world : World) (address other : String) :
    (world.advance address).opened other = world.opened other := by
  unfold advance
  split
  · rfl
  · rename_i node found
    split
    · rfl
    · simp only [opened, lookup_withNode, found, Option.map_some]
      split
      · rename_i here
        rw [here, found]
        rfl
      · rfl

theorem IsTracked.recorded_setting (tracked : origin.IsTracked deeds connections world)
    {activity : Activity} (setting : activity.isSetting = true) (address : String)
    (number : Option Nat) :
    origin.IsTracked deeds connections (world.recorded address number activity) :=
  tracked.unseen rfl (Observer.see_setting _ setting _ _) rfl fun _ => le_rfl

theorem IsTracked.recorded_close (tracked : origin.IsTracked deeds connections world)
    (connection : Connection) :
    origin.IsTracked (deeds ++ [.closed connection.identity]) connections
      (world.recorded connection.address (some connection.number) .close) := by
  have appended : (world.recorded connection.address (some connection.number) .close).events =
      world.events ++ [connection.event .close] := rfl
  have seen := observed_append tracked.grown appended
  simp only [List.foldl_cons, List.foldl_nil, Observer.see, Connection.event] at seen
  refine ⟨tracked.grown.trans (List.prefix_append _ _), ?_, ?_, ?_, tracked.distinct,
    tracked.numbered⟩
  · rw [seen]
    exact tracked.pending
  · rw [seen]
    exact tracked.known
  · rw [World.history, seen]
    exact congrArg (· ++ [Deed.closed connection.identity]) tracked.history

theorem IsTracked.tail (tracked : origin.IsTracked deeds (connection ::ₘ connections) world) :
    origin.IsTracked deeds connections world where
  grown := tracked.grown
  pending := tracked.pending
  known other member := tracked.known other (Multiset.mem_cons_of_mem member)
  history := tracked.history
  distinct := by
    have distinct := tracked.distinct
    rw [Multiset.map_cons, Multiset.nodup_cons] at distinct
    exact distinct.2
  numbered other member := tracked.numbered other (Multiset.mem_cons_of_mem member)

end World

namespace Connection

variable {origin world after : World} {deeds : List Deed} {connections : Multiset Connection}
  {connection used : Connection} {address : String} {timeout : Option Duration}

theorem opened_receive_le (node : Node) : node.opened ≤ (receive node).2.opened := by
  unfold receive
  split
  · exact le_rfl
  · exact Nat.le_succ _
  · exact Nat.le_succ _

theorem opened_receive_ok {node : Node} {number : Nat} (accepted : (receive node).1 = .ok number) :
    number = node.opened + 1 ∧ (receive node).2.opened = number := by
  unfold receive at accepted ⊢
  split at accepted
  · contradiction
  · cases accepted
    exact ⟨rfl, rfl⟩
  · cases accepted
    exact ⟨rfl, rfl⟩

theorem opened_withNode {node replacement : Node} (found : world.nodes.lookup address = some node)
    (other : String) :
    (world.withNode address replacement).opened other =
      if other = address then replacement.opened else world.opened other := by
  simp only [World.opened, World.lookup_withNode, found, Option.map_some]
  split <;> rfl

/-- Connections to a node are numbered in the order in which they are opened. -/
theorem opened_establish {outcome : Except TransportFault Connection}
    (attempt : (establish address timeout).run world = (outcome, after)) :
    (∀ other, world.opened other ≤ after.opened other) ∧
      ∀ connection, outcome = .ok connection →
        connection = { address, number := world.opened address + 1 } ∧
          after.opened address = world.opened address + 1 := by
  by_cases allowed : timeout = some 0
  · rw [allowed] at attempt
    cases attempt
    exact ⟨fun _ => le_rfl, fun _ impossible => nomatch impossible⟩
  rw [run_establish world allowed] at attempt
  split at attempt
  · cases attempt
    exact ⟨fun _ => le_rfl, fun _ impossible => nomatch impossible⟩
  rename_i node found
  have own : world.opened address = node.opened := by
    simp only [World.opened, found, Option.map_some, Option.getD_some]
  have grows (other : String) :
      world.opened other ≤ (world.withNode address (receive node).2).opened other := by
    rw [opened_withNode found]
    split
    · rename_i here
      rw [here, own]
      exact opened_receive_le node
    · exact le_rfl
  split at attempt
  · cases attempt
    exact ⟨grows, fun _ impossible => nomatch impossible⟩
  · rename_i number accepted
    cases attempt
    refine ⟨grows, ?_⟩
    rintro connection ⟨⟩
    rcases opened_receive_ok accepted with ⟨rfl, counted⟩
    rw [own]
    exact ⟨rfl, (opened_withNode found address).trans ((if_pos rfl).trans counted)⟩

end Connection

namespace World

variable {origin world after : World} {deeds : List Deed} {connections : Multiset Connection}
  {connection used : Connection} {address : String} {timeout : Option Duration}

theorem IsTracked.establish_error {fault : TransportFault}
    (tracked : origin.IsTracked deeds connections world)
    (attempt : (Connection.establish address timeout).run world = (.error fault, after)) :
    origin.IsTracked deeds connections after := by
  have counted := (Connection.opened_establish attempt).1
  rcases Connection.establish_error attempt with ⟨unchanged | appended, pending, _⟩
  · exact tracked.unseen (unchanged.trans (List.append_nil _).symm) rfl pending counted
  · exact tracked.unseen appended rfl pending counted

/-- A connection that is established is another one than all that are held. -/
theorem IsTracked.establish_ok (tracked : origin.IsTracked deeds connections world)
    (attempt : (Connection.establish address timeout).run world = (.ok connection, after)) :
    origin.IsTracked (deeds ++ [.opened connection.identity]) (connection ::ₘ connections)
      after := by
  rcases Connection.opened_establish attempt with ⟨grows, isNext⟩
  rcases isNext connection rfl with ⟨rfl, counted⟩
  rcases Connection.establish_ok attempt with ⟨_, _, appended, pending, _⟩
  have new : (address, world.opened address + 1) ∉ connections.map Connection.identity := by
    intro member
    rcases Multiset.mem_map.mp member with ⟨other, held, same⟩
    have sameAddress : other.address = address := congrArg Prod.fst same
    have sameNumber : other.number = world.opened address + 1 := congrArg Prod.snd same
    have bounded := tracked.numbered other held
    rw [sameAddress, sameNumber] at bounded
    omega
  have seen := observed_append tracked.grown appended
  simp only [List.foldl_cons, List.foldl_nil, Observer.see] at seen
  refine ⟨?_, ?_, ?_, ?_, ?_, ?_⟩
  · rw [appended]
    exact tracked.grown.trans (List.prefix_append _ _)
  · rw [seen, pending]
    exact tracked.pending
  · rw [seen, Multiset.forall_mem_cons]
    refine ⟨Function.update_self _ _ _, ?_⟩
    intro other held
    have different : other.identity ≠ (address, world.opened address + 1) := by
      intro same
      exact new (same ▸ Multiset.mem_map_of_mem _ held)
    exact (Function.update_of_ne different _ _).trans (tracked.known other held)
  · rw [World.history, seen]
    exact congrArg (· ++ [Deed.opened _]) tracked.history
  · rw [Multiset.map_cons, Multiset.nodup_cons]
    exact ⟨new, tracked.distinct⟩
  · rw [Multiset.forall_mem_cons]
    exact ⟨counted.ge, fun other held => (tracked.numbered other held).trans (grows _)⟩

/-- The observer tells the reply to an exchange. -/
theorem IsTracked.exchange (tracked : origin.IsTracked deeds (connection ::ₘ connections) world)
    {arguments : List Bytes} {reply : Except Failure Value}
    (exchange : (connection.exchange arguments).run world = ((reply, used), after)) :
    origin.IsTracked
      (deeds ++ [.exchanged connection.identity (Wire.encodeCommand arguments) reply])
      (used ::ₘ connections) after := by
  rcases Connection.exchange_cases exchange with ⟨answer, leaves, rfl⟩
  have identical : used.identity = connection.identity := by
    rw [leaves]
    exact Connection.identity_answered _ _
  have known := (Multiset.forall_mem_cons.mp tracked.known).1
  have distinct := tracked.distinct
  rw [Multiset.map_cons, Multiset.nodup_cons] at distinct
  have appended : (connection.writtenWorld (Wire.encodeCommand arguments) world).events =
      world.events ++ [connection.sendEvent arguments] := events_advance _ _
  have seen := observed_append tracked.grown appended
  simp only [List.foldl_cons, List.foldl_nil, Observer.see, Connection.sendEvent,
    Connection.event] at seen
  change (origin.observed world).connections (connection.address, connection.number) = _ at known
  rw [known, tracked.pending, ← answer, ← leaves] at seen
  refine ⟨?_, ?_, ?_, ?_, ?_, ?_⟩
  · rw [appended]
    exact tracked.grown.trans (List.prefix_append _ _)
  · rw [seen]
    funext other
    rw [Connection.writtenWorld, pending_advance, pending_recorded]
    exact Function.update_apply _ _ _ _
  · rw [seen, Multiset.forall_mem_cons]
    constructor
    · rw [identical]
      exact Function.update_self _ _ _
    · intro other held
      have different : other.identity ≠ connection.identity := by
        intro same
        exact distinct.1 (same ▸ Multiset.mem_map_of_mem _ held)
      have same := Function.update_of_ne different used (origin.observed world).connections
      exact same.trans (tracked.known other (Multiset.mem_cons_of_mem held))
  · rw [World.history, seen]
    exact congrArg (· ++ [Deed.exchanged connection.identity _ reply]) tracked.history
  · rw [Multiset.map_cons, identical, Multiset.nodup_cons]
    exact distinct
  · rw [Multiset.forall_mem_cons]
    have numbered := Multiset.forall_mem_cons.mp tracked.numbered
    have sameAddress : used.address = connection.address := congrArg Prod.fst identical
    have sameNumber : used.number = connection.number := congrArg Prod.snd identical
    have kept (address : String) : (connection.writtenWorld (Wire.encodeCommand arguments)
        world).opened address = world.opened address := opened_advance _ _ _
    simp only [kept, sameAddress, sameNumber]
    exact numbered

end World

end SlotClient
