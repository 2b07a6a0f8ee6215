import Mathlib.Data.List.Pairwise
import SlotClient.Proofs.Network.Dealings

/-!
# Lifetimes of connections

A connection is opened once, used, and closed once. In the history of a network each deed is then
about a connection that has been opened and not been closed before. A client that holds connections
is in order if this is so, and if the connections it holds are just those that have been opened and
have not been closed.

From the order of the history it follows what has been exchanged on a connection: only what stands
between its opening and its closing.
-/

namespace SlotClient

open Wire (Value)

namespace Deed

/-- The connection that a deed is about. -/
def connection : Deed → String × Nat
  | opened connection => connection
  | exchanged connection _ _ => connection
  | closed connection => connection

/-- Whether a deed may come before another one: a connection is opened before anything else is done
with it, and nothing is done with it once it is closed. -/
def MayPrecede (earlier later : Deed) : Prop :=
  earlier ≠ .closed later.connection ∧ later ≠ .opened earlier.connection

theorem mayPrecede_of_ne {earlier later : Deed} (different : earlier.connection ≠ later.connection) :
    earlier.MayPrecede later := by
  constructor
  · rintro rfl
    exact different rfl
  · rintro rfl
    exact different rfl

variable {connection : String × Nat} {deeds more : List Deed}

theorem exchangesOn_append :
    exchangesOn connection (deeds ++ more) =
      exchangesOn connection deeds ++ exchangesOn connection more :=
  List.filterMap_append

/-- Nothing is exchanged on a connection that no deed is about. -/
theorem exchangesOn_eq_nil (elsewhere : ∀ deed ∈ deeds, deed.connection ≠ connection) :
    exchangesOn connection deeds = [] := by
  apply List.filterMap_eq_nil_iff.mpr
  intro deed member
  cases deed with
  | opened other => rfl
  | exchanged other bytes reply => exact if_neg (elsewhere _ member)
  | closed other => rfl

/-- In an ordered history all that is exchanged on a connection comes after its opening. -/
theorem exchangesOn_of_opened
    (ordered : (deeds ++ .opened connection :: more).Pairwise MayPrecede) :
    exchangesOn connection (deeds ++ .opened connection :: more) = exchangesOn connection more := by
  have before : exchangesOn connection deeds = [] := by
    apply exchangesOn_eq_nil
    intro deed member
    have precedes := (List.pairwise_append.mp ordered).2.2 deed member _ List.mem_cons_self
    rintro rfl
    exact precedes.2 rfl
  rw [exchangesOn_append, before, List.nil_append]
  rfl

/-- In an ordered history all that is exchanged on a connection comes before its closing. -/
theorem exchangesOn_of_closed
    (ordered : (deeds ++ .closed connection :: more).Pairwise MayPrecede) :
    exchangesOn connection (deeds ++ .closed connection :: more) =
      exchangesOn connection deeds := by
  have after : exchangesOn connection more = [] := by
    apply exchangesOn_eq_nil
    intro deed member
    have precedes := (List.pairwise_cons.mp (List.pairwise_append.mp ordered).2.1).1 deed member
    rintro rfl
    exact precedes.1 rfl
  rw [exchangesOn_append]
  change exchangesOn connection deeds ++ exchangesOn connection more = _
  rw [after, List.append_nil]

/-- In an ordered history all that is exchanged on a connection stands between its opening and its
closing. -/
theorem exchangesOn_of_lifetime {after : List Deed}
    (ordered : (deeds ++ .opened connection :: (more ++ .closed connection :: after)).Pairwise
      MayPrecede) :
    exchangesOn connection (deeds ++ .opened connection :: (more ++ .closed connection :: after)) =
      exchangesOn connection more := by
  have behind : (more ++ .closed connection :: after).Pairwise MayPrecede :=
    (List.pairwise_cons.mp (List.pairwise_append.mp ordered).2.1).2
  rw [exchangesOn_of_opened ordered, exchangesOn_of_closed behind]

end Deed

namespace World

/-- The history of a network is in order, and a client holds just the connections that have been
opened and not been closed. -/
structure IsOrderly (origin : World) (connections : Multiset Connection) (world : World) :
    Prop where
  tracked : origin.IsTracked (origin.history world) connections world
  ordered : (origin.history world).Pairwise Deed.MayPrecede
  numbered : ∀ deed ∈ origin.history world, deed.connection.2 ≤ world.opened deed.connection.1
  introduced : ∀ connection ∈ connections, .opened connection.identity ∈ origin.history world
  present : ∀ connection ∈ connections, .closed connection.identity ∉ origin.history world
  settled : ∀ deed ∈ origin.history world,
    deed.connection ∈ connections.map Connection.identity ∨
      .closed deed.connection ∈ origin.history world

theorem isOrderly_self (origin : World) : origin.IsOrderly 0 origin := by
  have none : origin.history origin = [] := by rw [history, observed_self]
  refine ⟨?_, ?_, ?_, ?_, ?_, ?_⟩
  · rw [none]
    exact isTracked_self origin
  · rw [none]
    exact List.Pairwise.nil
  · rw [none]
    exact List.forall_mem_nil _
  · exact fun _ impossible => absurd impossible (Multiset.notMem_zero _)
  · exact fun _ impossible => absurd impossible (Multiset.notMem_zero _)
  · rw [none]
    exact List.forall_mem_nil _

variable {origin world after : World} {connections : Multiset Connection}
  {connection used : Connection}

theorem IsTracked.identity_ne {deeds : List Deed} {other : Connection}
    (tracked : origin.IsTracked deeds (connection ::ₘ connections) world)
    (held : other ∈ connections) : connection.identity ≠ other.identity := by
  have distinct := tracked.distinct
  rw [Multiset.map_cons, Multiset.nodup_cons] at distinct
  intro same
  rw [same] at distinct
  exact distinct.1 (Multiset.mem_map_of_mem _ held)

/-- What leaves the history as it is leaves a client in order. -/
theorem IsOrderly.unseen (orderly : origin.IsOrderly connections world)
    (tracked : origin.IsTracked (origin.history world) connections after)
    (grows : ∀ address, world.opened address ≤ after.opened address) :
    origin.IsOrderly connections after := by
  have same : origin.history after = origin.history world := tracked.history
  refine ⟨?_, ?_, ?_, ?_, ?_, ?_⟩ <;> rw [same]
  · exact tracked
  · exact orderly.ordered
  · exact fun deed member => (orderly.numbered deed member).trans (grows _)
  · exact orderly.introduced
  · exact orderly.present
  · exact orderly.settled

/-- A deed that may come after all others keeps the history in order. -/
theorem IsOrderly.ordered_concat {deed : Deed} (orderly : origin.IsOrderly connections world)
    (last : ∀ earlier ∈ origin.history world, earlier.MayPrecede deed) :
    (origin.history world ++ [deed]).Pairwise Deed.MayPrecede := by
  rw [List.pairwise_append]
  refine ⟨orderly.ordered, List.pairwise_singleton _ _, ?_⟩
  intro earlier member
  rw [List.forall_mem_singleton]
  exact last earlier member

theorem IsOrderly.numbered_concat {deed : Deed} (orderly : origin.IsOrderly connections world)
    (grows : ∀ address, world.opened address ≤ after.opened address)
    (numbered : deed.connection.2 ≤ after.opened deed.connection.1) :
    ∀ each ∈ origin.history world ++ [deed],
      each.connection.2 ≤ after.opened each.connection.1 := by
  rw [List.forall_mem_append, List.forall_mem_singleton]
  exact ⟨fun each member => (orderly.numbered each member).trans (grows _), numbered⟩

/-- No deed is about a connection that is opened only now. -/
theorem IsOrderly.connection_ne (orderly : origin.IsOrderly connections world)
    (numbered : world.opened connection.address < connection.number) :
    ∀ deed ∈ origin.history world, deed.connection ≠ connection.identity := by
  intro deed member same
  have bounded := orderly.numbered deed member
  rw [same] at bounded
  exact absurd numbered (not_lt.mpr bounded)

theorem IsOrderly.opened (orderly : origin.IsOrderly connections world)
    (tracked : origin.IsTracked (origin.history world ++ [.opened connection.identity])
      (connection ::ₘ connections) after)
    (numbered : world.opened connection.address < connection.number)
    (grows : ∀ address, world.opened address ≤ after.opened address) :
    origin.IsOrderly (connection ::ₘ connections) after := by
  have grown : origin.history after = _ := tracked.history
  have elsewhere := orderly.connection_ne numbered
  refine ⟨?_, ?_, ?_, ?_, ?_, ?_⟩ <;> rw [grown]
  · exact tracked
  · apply orderly.ordered_concat
    exact fun deed member => Deed.mayPrecede_of_ne (elsewhere deed member)
  · exact orderly.numbered_concat grows (tracked.numbered connection (Multiset.mem_cons_self _ _))
  · rw [Multiset.forall_mem_cons]
    refine ⟨List.mem_append_right _ (List.mem_singleton_self _), ?_⟩
    exact fun other held => List.mem_append_left _ (orderly.introduced other held)
  · rw [Multiset.forall_mem_cons]
    simp only [List.mem_append, List.mem_singleton, reduceCtorEq, or_false]
    exact ⟨fun closed => elsewhere _ closed rfl, orderly.present⟩
  · rw [List.forall_mem_append, List.forall_mem_singleton, Multiset.map_cons]
    refine ⟨?_, Or.inl (Multiset.mem_cons_self _ _)⟩
    intro deed member
    rcases orderly.settled deed member with held | closed
    · exact Or.inl (Multiset.mem_cons_of_mem held)
    · exact Or.inr (List.mem_append_left _ closed)

theorem IsOrderly.exchanged (orderly : origin.IsOrderly (connection ::ₘ connections) world)
    {bytes : Bytes} {reply : Except Failure Value}
    (tracked : origin.IsTracked
      (origin.history world ++ [.exchanged connection.identity bytes reply])
      (used ::ₘ connections) after)
    (identical : used.identity = connection.identity)
    (grows : ∀ address, world.opened address ≤ after.opened address) :
    origin.IsOrderly (used ::ₘ connections) after := by
  have grown : origin.history after = _ := tracked.history
  have introduced := orderly.introduced
  have present := orderly.present
  have settled := orderly.settled
  rw [Multiset.forall_mem_cons, ← identical] at introduced present
  rw [Multiset.map_cons, ← identical, ← Multiset.map_cons] at settled
  refine ⟨?_, ?_, ?_, ?_, ?_, ?_⟩ <;> rw [grown]
  · exact tracked
  · apply orderly.ordered_concat
    refine fun deed member => ⟨?_, nofun⟩
    rintro rfl
    rw [identical] at present
    exact present.1 member
  · apply orderly.numbered_concat grows
    rw [← identical]
    exact tracked.numbered used (Multiset.mem_cons_self _ _)
  · rw [Multiset.forall_mem_cons]
    exact ⟨List.mem_append_left _ introduced.1,
      fun other held => List.mem_append_left _ (introduced.2 other held)⟩
  · rw [Multiset.forall_mem_cons]
    simp only [List.mem_append, List.mem_singleton, reduceCtorEq, or_false]
    exact present
  · rw [List.forall_mem_append, List.forall_mem_singleton]
    refine ⟨?_, Or.inl ?_⟩
    · intro deed member
      rcases settled deed member with held | closed
      · exact Or.inl held
      · exact Or.inr (List.mem_append_left _ closed)
    · rw [Multiset.map_cons, identical]
      exact Multiset.mem_cons_self _ _

theorem IsOrderly.closed (orderly : origin.IsOrderly (connection ::ₘ connections) world)
    (tracked : origin.IsTracked (origin.history world ++ [.closed connection.identity])
      connections after)
    (grows : ∀ address, world.opened address ≤ after.opened address) :
    origin.IsOrderly connections after := by
  have grown : origin.history after = _ := tracked.history
  have introduced := Multiset.forall_mem_cons.mp orderly.introduced
  have present := Multiset.forall_mem_cons.mp orderly.present
  refine ⟨?_, ?_, ?_, ?_, ?_, ?_⟩ <;> rw [grown]
  · exact tracked
  · apply orderly.ordered_concat
    refine fun deed member => ⟨?_, nofun⟩
    rintro rfl
    exact present.1 member
  · apply orderly.numbered_concat grows
    exact (orderly.tracked.numbered connection (Multiset.mem_cons_self _ _)).trans (grows _)
  · exact fun other held => List.mem_append_left _ (introduced.2 other held)
  · intro other held
    rw [List.mem_append, List.mem_singleton]
    rintro (closed | same)
    · exact present.2 other held closed
    · exact orderly.tracked.identity_ne held (Deed.closed.inj same).symm
  · rw [List.forall_mem_append, List.forall_mem_singleton]
    refine ⟨?_, Or.inr (List.mem_append_right _ (List.mem_singleton_self _))⟩
    intro deed member
    -- What is closed now is settled by this deed, and all else as before.
    rcases orderly.settled deed member with held | closed
    · rw [Multiset.map_cons, Multiset.mem_cons] at held
      rcases held with here | held
      · rw [here]
        exact Or.inr (List.mem_append_right _ (List.mem_singleton_self _))
      · exact Or.inl held
    · exact Or.inr (List.mem_append_left _ closed)

end World

end SlotClient
