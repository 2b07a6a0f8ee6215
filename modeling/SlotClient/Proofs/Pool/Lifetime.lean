import SlotClient.Proofs.Network.Lifetime
import SlotClient.Proofs.Pool.Desk

/-!
# Lifetimes of the connections of a pool

The connections of a pool are those in its queue and those outside it. Each step keeps them in
order: what a pool has is just what has been opened and not been closed.

A connection is broken once an exchange on it has failed in the transport or has not been answered
by a reply. No connection in the queue is broken, and the mark that a lent connection carries tells
whether it is.
-/

namespace SlotClient

open Wire (Value)

namespace Deed

/-- Whether an exchange on a connection has failed so that it must not be used again. A reply that
is read in full breaks nothing, though it be an error or of a kind that was not expected. -/
def HasBroken (connection : String × Nat) (deeds : List Deed) : Prop :=
  ∃ bytes failure, .exchanged connection bytes (.error failure) ∈ deeds ∧
    failure.breaksConnection = true

variable {connection other : String × Nat} {deeds more : List Deed}

theorem hasBroken_append :
    HasBroken connection (deeds ++ more) ↔ HasBroken connection deeds ∨ HasBroken connection more := by
  simp only [HasBroken, List.mem_append, or_and_right, exists_or]

/-- Only an exchange on a connection breaks it. -/
theorem not_hasBroken_of_ne (elsewhere : ∀ deed ∈ deeds, deed.connection ≠ connection) :
    ¬HasBroken connection deeds := by
  rintro ⟨bytes, failure, member, _⟩
  exact elsewhere _ member rfl

theorem not_hasBroken_of_silent (silent : ∀ deed ∈ deeds, deed.sent? = none) :
    ¬HasBroken connection deeds := by
  rintro ⟨bytes, failure, member, _⟩
  cases silent _ member

theorem hasBroken_exchanged {bytes : Bytes} {reply : Except Failure Value} :
    HasBroken connection [.exchanged connection bytes reply] ↔
      Failure.sparesConnection reply = false := by
  rcases reply with failure | value
  · simp [HasBroken, Failure.sparesConnection]
  · simp [HasBroken, Failure.sparesConnection]

end Deed

namespace Lending

/-- The connections of a pool, in its queue and outside it. -/
def present (lending : Lending) : Multiset Connection :=
  lending.pool.idle + lending.out.map Lease.connection

theorem present_cons (pool : Pool) (lease : Lease) (out : Multiset Lease) (world : World) :
    present ⟨pool, lease ::ₘ out, world⟩ = lease.connection ::ₘ present ⟨pool, out, world⟩ := by
  simp only [present, Multiset.map_cons, Multiset.add_cons]

theorem present_kept (pool : Pool) (lease : Lease) (out : Multiset Lease) (world : World) :
    present ⟨{ pool with idle := pool.idle ++ [lease.connection] }, out, world⟩ =
      present ⟨pool, lease ::ₘ out, world⟩ := by
  rw [present_cons]
  simp only [present, ← Multiset.coe_add, Multiset.coe_singleton]
  rw [Multiset.add_assoc, Multiset.singleton_add, Multiset.add_cons]

theorem present_taken (rest : Pool) (connection : Connection) (out : Multiset Lease)
    (world : World) :
    present ⟨{ rest with idle := connection :: rest.idle }, out, world⟩ =
      present ⟨rest, { connection } ::ₘ out, world⟩ := by
  rw [present_cons]
  simp only [present, ← Multiset.cons_coe, Multiset.cons_add]

/-- The connections of a pool are in order in the history since a state of the network. -/
abbrev IsOrderly (origin : World) (lending : Lending) : Prop :=
  origin.IsOrderly lending.present lending.world

variable {origin : World} {before after : Lending}

theorem Step.isOrderly (step : Step before after) (orderly : before.IsOrderly origin) :
    after.IsOrderly origin := by
  unfold IsOrderly at orderly ⊢
  cases step with
  | noted entry => exact orderly.unseen (orderly.tracked.logged entry) fun _ => le_rfl
  | rotated password => exact orderly
  | taken first =>
      cases Pool.takeIdle?_eq_some first
      rw [present_taken] at orderly
      exact orderly
  | refused resolved attempt =>
      exact orderly.unseen (orderly.tracked.establish_error attempt)
        (Connection.opened_establish attempt).1
  | @opened pool grown connection out world there socket reserved resolved attempt =>
      rcases Pool.reserve?_eq_some reserved with ⟨_, rfl⟩
      rcases Connection.opened_establish attempt with ⟨grows, isNext⟩
      have tracked := orderly.tracked.establish_ok attempt
      have next := (isNext connection rfl).1
      have fresh : world.opened connection.address < connection.number := by
        rw [next]
        exact Nat.lt_succ_self _
      rw [present_cons]
      exact orderly.opened tracked fresh grows
  | configured setting =>
      exact orderly.unseen (orderly.tracked.recorded_setting setting _ _) fun _ => le_rfl
  | @exchanged pool lease used out world there arguments reply exchange =>
      have sent := (Lease.exchange_cases exchange).1
      rcases Connection.exchange_cases sent with ⟨_, leaves, left⟩
      rw [present_cons] at orderly ⊢
      refine orderly.exchanged (orderly.tracked.exchange sent) ?_ ?_
      · rw [leaves]
        exact Connection.identity_answered _ _
      · intro address
        dsimp only
        rw [left, Connection.writtenWorld, World.opened_advance]
        exact le_rfl
  | @kept pool lease out world intact room =>
      rw [present_kept]
      exact orderly
  | @closed pool lease out world counted =>
      rw [present_cons] at orderly
      exact orderly.closed (orderly.tracked.tail.recorded_close _) fun _ => le_rfl

/-- The connections of a pool are in order, none in the queue is broken, and a connection outside
it may be used again just if it is not broken. -/
structure IsHealthy (origin : World) (lending : Lending) : Prop where
  orderly : lending.IsOrderly origin
  idle : ∀ connection ∈ lending.pool.idle,
    ¬Deed.HasBroken connection.identity (origin.history lending.world)
  out : ∀ lease ∈ lending.out,
    lease.isIntact = true ↔ ¬Deed.HasBroken lease.connection.identity (origin.history lending.world)

/-- Deeds by which nothing is sent break no connection. -/
theorem IsHealthy.silent {deeds : List Deed} (healthy : before.IsHealthy origin)
    (orderly : after.IsOrderly origin)
    (grown : origin.history after.world = origin.history before.world ++ deeds)
    (silent : ∀ deed ∈ deeds, deed.sent? = none)
    (idle : ∀ connection ∈ after.pool.idle, connection ∈ before.pool.idle)
    (out : ∀ lease ∈ after.out, lease ∈ before.out ∨ lease.isIntact = true ∧
      ¬Deed.HasBroken lease.connection.identity (origin.history before.world)) :
    after.IsHealthy origin := by
  have same (connection : String × Nat) :
      Deed.HasBroken connection (origin.history after.world) ↔
        Deed.HasBroken connection (origin.history before.world) := by
    rw [grown, Deed.hasBroken_append, or_iff_left (Deed.not_hasBroken_of_silent silent)]
  refine ⟨orderly, ?_, ?_⟩
  · intro connection member
    rw [same]
    exact healthy.idle connection (idle connection member)
  · intro lease member
    rw [same]
    rcases out lease member with member | ⟨intact, spared⟩
    · exact healthy.out lease member
    · exact iff_of_true intact spared

theorem Step.isHealthy (step : Step before after) (healthy : before.IsHealthy origin) :
    after.IsHealthy origin := by
  have orderly := step.isOrderly healthy.orderly
  have tracked := healthy.orderly.tracked
  cases step with
  | noted entry =>
      have same := (tracked.logged entry).history
      exact healthy.silent orderly (same.trans (List.append_nil _).symm) (List.forall_mem_nil _)
        (fun _ => id) fun _ => Or.inl
  | rotated password => exact ⟨orderly, healthy.idle, healthy.out⟩
  | taken first =>
      cases Pool.takeIdle?_eq_some first
      have idle := List.forall_mem_cons.mp healthy.idle
      exact ⟨orderly, idle.2, Multiset.forall_mem_cons.mpr ⟨iff_of_true rfl idle.1, healthy.out⟩⟩
  | refused resolved attempt =>
      have same := (tracked.establish_error attempt).history
      exact healthy.silent orderly (same.trans (List.append_nil _).symm) (List.forall_mem_nil _)
        (fun _ => id) fun _ => Or.inl
  | @opened pool grown connection out world there socket reserved resolved attempt =>
      rcases Pool.reserve?_eq_some reserved with ⟨_, rfl⟩
      have fresh : world.opened connection.address < connection.number := by
        rw [((Connection.opened_establish attempt).2 connection rfl).1]
        exact Nat.lt_succ_self _
      have elsewhere := healthy.orderly.connection_ne fresh
      have appended := (tracked.establish_ok attempt).history
      refine healthy.silent orderly appended (List.forall_mem_singleton.mpr rfl)
        (fun _ => id) ?_
      rw [Multiset.forall_mem_cons]
      exact ⟨Or.inr ⟨rfl, Deed.not_hasBroken_of_ne elsewhere⟩, fun _ => Or.inl⟩
  | @configured pool lease out world activity setting =>
      have same := (tracked.recorded_setting setting lease.connection.address
        (some lease.connection.number)).history
      exact healthy.silent orderly (same.trans (List.append_nil _).symm) (List.forall_mem_nil _)
        (fun _ => id) fun _ => Or.inl
  | @exchanged pool lease used out world there arguments reply exchange =>
      rcases Lease.exchange_cases exchange with ⟨sent, intact⟩
      have identical : used.connection.identity = lease.connection.identity := by
        rw [(Connection.exchange_cases sent).2.1]
        exact Connection.identity_answered _ _
      rw [present_cons] at tracked
      have appended := (tracked.exchange sent).history
      -- Each other connection has an identity of its own, so nothing is new about it.
      have others {other : Connection} (held : other ∈ present ⟨pool, out, world⟩) :
          Deed.HasBroken other.identity (origin.history there) ↔
            Deed.HasBroken other.identity (origin.history world) := by
        rw [appended, Deed.hasBroken_append, or_iff_left]
        apply Deed.not_hasBroken_of_ne
        rw [List.forall_mem_singleton]
        exact tracked.identity_ne held
      have out := Multiset.forall_mem_cons.mp healthy.out
      refine ⟨orderly, ?_, ?_⟩
      · intro connection member
        rw [others (Multiset.mem_add.mpr (Or.inl member))]
        exact healthy.idle connection member
      rw [Multiset.forall_mem_cons]
      constructor
      · rw [intact, identical, appended, Deed.hasBroken_append, Deed.hasBroken_exchanged,
          Bool.and_eq_true, out.1, not_or, Bool.not_eq_false]
      · intro other member
        rw [others (Multiset.mem_add.mpr (Or.inr (Multiset.mem_map_of_mem _ member)))]
        exact out.2 other member
  | @kept pool lease out world intact room =>
      have out := Multiset.forall_mem_cons.mp healthy.out
      refine ⟨orderly, ?_, out.2⟩
      rw [List.forall_mem_append, List.forall_mem_singleton]
      exact ⟨healthy.idle, out.1.mp intact⟩
  | @closed pool lease out world counted =>
      have appended := (tracked.recorded_close lease.connection).history
      exact healthy.silent orderly appended (List.forall_mem_singleton.mpr rfl)
        (fun _ => id) fun _ member => Or.inl (Multiset.mem_cons_of_mem member)

theorem Steps.isHealthy (steps : Steps before after) (healthy : before.IsHealthy origin) :
    after.IsHealthy origin :=
  steps.preserve Step.isHealthy healthy

end Lending

end SlotClient
