import Mathlib.Algebra.Order.Group.Multiset
import Mathlib.Data.Multiset.Bind
import SlotClient.Proofs.Pool.Dealings

/-!
# Pools with many callers

A pool may have any number of callers at a time. What they do to it falls into sections, each of
which has the pool for itself: to take an idle connection, to reserve a place, to give the place
back, to take a connection back, and to drain the queue. In between a caller connects or
authenticates on its own, with whatever outcome, and the sections of callers alternate in any order.

`Traffic.Step` lists the sections and what happens between them. Asking for a connection looks at
the queue and at the limit in two sections, so a caller may open a connection although one has come
back meanwhile; and a caller that authenticates the pool has drained connections in its hands that
are in no queue. What is preserved is the balance: the count of the pool is that of the connections
that are idle, held or drained and of the places that are reserved.

The functions of a pool are what a caller does that nobody interferes with: what each of them makes
of a pool, it makes of it by the sections of this one caller.
-/

namespace SlotClient

/-- How far a caller of a pool has got. A caller that authenticates a pool without idle connections
goes the way of all that ask for a connection, but as a trial. -/
inductive Errand where
  | taking (isTrial : Bool)
  | reserving (isTrial : Bool)
  | connecting (isTrial : Bool)
  | abandoning
  | holding (lease : Lease)
  | returning (lease : Lease)
  | draining
  | authenticating (waiting : List Connection)
  | settling (lease : Lease) (waiting : List Connection)

namespace Errand

/-- The connection that a caller holds, from when it is lent until it is back. -/
def held : Errand → Multiset Connection
  | holding lease | returning lease => {lease.connection}
  | _ => 0

/-- The connections that a caller has drained from the queue and that are not back. -/
def drained : Errand → Multiset Connection
  | authenticating waiting => waiting
  | settling lease waiting => lease.connection ::ₘ waiting
  | _ => 0

/-- Whether a caller has reserved a place for a connection that it has not got. -/
def hasReserved : Errand → Bool
  | connecting _ | abandoning => true
  | _ => false

/-- The connections that a caller has in its hands. -/
def connections (errand : Errand) : Multiset Connection := errand.held + errand.drained

/-- How much of the count of its pool a caller accounts for. -/
def share : Errand → Nat
  | taking _ | reserving _ | draining => 0
  | connecting _ | abandoning | holding _ | returning _ => 1
  | authenticating waiting => waiting.length
  | settling _ waiting => waiting.length + 1

theorem share_eq (errand : Errand) :
    errand.share =
      errand.held.card + errand.drained.card + if errand.hasReserved then 1 else 0 := by
  cases errand <;> simp [share, held, drained, hasReserved]

/-- What becomes of a connection that is lent: after a trial it is given back at once. -/
def lent (lease : Lease) : Bool → Errand
  | true => returning lease
  | false => holding lease

theorem connections_lent (lease : Lease) (isTrial : Bool) :
    (lent lease isTrial).connections = {lease.connection} := by
  cases isTrial <;> rfl

theorem share_lent (lease : Lease) (isTrial : Bool) : (lent lease isTrial).share = 1 := by
  cases isTrial <;> rfl

end Errand

/-- What a section does to the count of a pool. -/
inductive Pool.Change where
  | kept
  | raised
  | lowered
  deriving DecidableEq

/-- A connection is taken back, with what this does to the count. -/
inductive Pool.Reclaims (pool : Pool) (lease : Lease) : Pool.Change → Pool → Prop
  | kept (intact : lease.isIntact = true) (room : pool.hasRoom = true) :
      Reclaims pool lease .kept { pool with idle := pool.idle ++ [lease.connection] }
  | crowded (intact : lease.isIntact = true) (full : pool.hasRoom = false) :
      Reclaims pool lease .lowered pool.unreserve
  | broken (broken : lease.isIntact = false) : Reclaims pool lease .lowered pool.unreserve

/-- A pool with its callers, and the connections that have been opened so far. -/
structure Traffic where
  pool : Pool
  errands : Multiset Errand := 0
  opened : List (String × Nat) := []

namespace Traffic

/-- The connections that callers hold. -/
def held (traffic : Traffic) : Multiset Connection := traffic.errands.bind Errand.held

/-- The connections that callers have drained. -/
def drained (traffic : Traffic) : Multiset Connection := traffic.errands.bind Errand.drained

/-- The count of places that callers have reserved for connections that they have not got. -/
def reserved (traffic : Traffic) : Nat := traffic.errands.countP fun errand => errand.hasReserved

/-- Where connections are: in the queue or in the hands of a caller. -/
def places (traffic : Traffic) : Multiset (String × Nat) :=
  (traffic.pool.idle + traffic.errands.bind Errand.connections).map Connection.identity

/-- A section of a caller, or something that happens outside all sections, with what is done to the
count of the pool. A new connection is none of those that have been opened before. -/
inductive Step : Traffic → Pool.Change → Traffic → Prop
  | asked {pool : Pool} {errands : Multiset Errand} {opened : List (String × Nat)} :
      Step ⟨pool, errands, opened⟩ .kept ⟨pool, .taking false ::ₘ errands, opened⟩
  | challenged {pool : Pool} {errands : Multiset Errand} {opened : List (String × Nat)}
      (set : pool.password ≠ none) :
      Step ⟨pool, errands, opened⟩ .kept ⟨pool, .draining ::ₘ errands, opened⟩
  | rotated {pool : Pool} {errands : Multiset Errand} {opened : List (String × Nat)}
      (password : Option String) :
      Step ⟨pool, errands, opened⟩ .kept ⟨pool.setPassword password, errands, opened⟩
  | taken {pool rest : Pool} {errands : Multiset Errand} {opened : List (String × Nat)}
      {connection : Connection} {isTrial : Bool}
      (first : pool.takeIdle? = some (connection, rest)) :
      Step ⟨pool, .taking isTrial ::ₘ errands, opened⟩ .kept
        ⟨rest, .lent { connection } isTrial ::ₘ errands, opened⟩
  | missed {pool : Pool} {errands : Multiset Errand} {opened : List (String × Nat)}
      {isTrial : Bool} (noneIdle : pool.takeIdle? = none) :
      Step ⟨pool, .taking isTrial ::ₘ errands, opened⟩ .kept
        ⟨pool, .reserving isTrial ::ₘ errands, opened⟩
  | allowed {pool grown : Pool} {errands : Multiset Errand} {opened : List (String × Nat)}
      {isTrial : Bool} (reserved : pool.reserve? = some grown) :
      Step ⟨pool, .reserving isTrial ::ₘ errands, opened⟩ .raised
        ⟨grown, .connecting isTrial ::ₘ errands, opened⟩
  | refused {pool : Pool} {errands : Multiset Errand} {opened : List (String × Nat)}
      {isTrial : Bool} (full : pool.reserve? = none) :
      Step ⟨pool, .reserving isTrial ::ₘ errands, opened⟩ .kept ⟨pool, errands, opened⟩
  | connected {pool : Pool} {errands : Multiset Errand} {opened : List (String × Nat)}
      {connection : Connection} {isTrial : Bool} (isNew : connection.identity ∉ opened) :
      Step ⟨pool, .connecting isTrial ::ₘ errands, opened⟩ .kept
        ⟨pool, .lent { connection } isTrial ::ₘ errands, connection.identity :: opened⟩
  | failed {pool : Pool} {errands : Multiset Errand} {opened : List (String × Nat)}
      {isTrial : Bool} :
      Step ⟨pool, .connecting isTrial ::ₘ errands, opened⟩ .kept
        ⟨pool, .abandoning ::ₘ errands, opened⟩
  | unreserved {pool : Pool} {errands : Multiset Errand} {opened : List (String × Nat)} :
      Step ⟨pool, .abandoning ::ₘ errands, opened⟩ .lowered ⟨pool.unreserve, errands, opened⟩
  | exchanged {pool : Pool} {errands : Multiset Errand} {opened : List (String × Nat)}
      {lease used : Lease} (identical : used.connection.identity = lease.connection.identity)
      (stillIntact : used.isIntact = true → lease.isIntact = true) :
      Step ⟨pool, .holding lease ::ₘ errands, opened⟩ .kept
        ⟨pool, .holding used ::ₘ errands, opened⟩
  | dropped {pool : Pool} {errands : Multiset Errand} {opened : List (String × Nat)}
      {lease : Lease} :
      Step ⟨pool, .holding lease ::ₘ errands, opened⟩ .kept
        ⟨pool, .returning lease ::ₘ errands, opened⟩
  | returned {pool after : Pool} {errands : Multiset Errand} {opened : List (String × Nat)}
      {lease : Lease} {change : Pool.Change} (reclaims : pool.Reclaims lease change after) :
      Step ⟨pool, .returning lease ::ₘ errands, opened⟩ change ⟨after, errands, opened⟩
  | foundNone {pool : Pool} {errands : Multiset Errand} {opened : List (String × Nat)}
      (noneIdle : pool.idle = []) :
      Step ⟨pool, .draining ::ₘ errands, opened⟩ .kept ⟨pool, .taking true ::ₘ errands, opened⟩
  | emptied {pool : Pool} {errands : Multiset Errand} {opened : List (String × Nat)}
      (someIdle : pool.idle ≠ []) :
      Step ⟨pool, .draining ::ₘ errands, opened⟩ .kept
        ⟨{ pool with idle := [] }, .authenticating pool.idle ::ₘ errands, opened⟩
  | authenticated {pool : Pool} {errands : Multiset Errand} {opened : List (String × Nat)}
      {connection : Connection} {waiting : List Connection} {used : Lease}
      (identical : used.connection.identity = connection.identity) :
      Step ⟨pool, .authenticating (connection :: waiting) ::ₘ errands, opened⟩ .kept
        ⟨pool, .settling used waiting ::ₘ errands, opened⟩
  | settled {pool after : Pool} {errands : Multiset Errand} {opened : List (String × Nat)}
      {lease : Lease} {waiting : List Connection} {change : Pool.Change}
      (reclaims : pool.Reclaims lease change after) :
      Step ⟨pool, .settling lease waiting ::ₘ errands, opened⟩ change
        ⟨after, .authenticating waiting ::ₘ errands, opened⟩
  | finished {pool : Pool} {errands : Multiset Errand} {opened : List (String × Nat)} :
      Step ⟨pool, .authenticating [] ::ₘ errands, opened⟩ .kept ⟨pool, errands, opened⟩

/-- Any number of steps, of whatever callers. -/
abbrev Steps : Traffic → Traffic → Prop :=
  Relation.ReflTransGen fun traffic next => ∃ change, Step traffic change next

variable {traffic next : Traffic} {change : Pool.Change}

/-- How much of the count of the pool the queue and the callers account for. -/
def inUse (traffic : Traffic) : Nat :=
  traffic.pool.idle.length + (traffic.errands.map Errand.share).sum

theorem inUse_eq (traffic : Traffic) :
    traffic.inUse =
      traffic.pool.idle.length + traffic.held.card + traffic.reserved + traffic.drained.card := by
  rcases traffic with ⟨pool, errands, opened⟩
  simp only [inUse, held, reserved, drained]
  induction errands using Multiset.induction_on with
  | empty => simp
  | cons errand errands ih =>
      simp only [Multiset.cons_bind, Multiset.card_add, Multiset.countP_cons, Multiset.map_cons,
        Multiset.sum_cons, Errand.share_eq errand]
      omega

end Traffic

namespace Pool

/-- What a section does to a number: at zero there is nothing to take away. -/
def Change.apply : Change → Nat → Nat
  | kept, number => number
  | raised, number => number + 1
  | lowered, number => number - 1

/-- A number is kept, raised by one or lowered by one. -/
def Change.Leads : Change → Nat → Nat → Prop
  | kept, before, after => after = before
  | raised, before, after => after = before + 1
  | lowered, before, after => after + 1 = before

theorem Change.Leads.eq_apply {change : Change} {before after : Nat}
    (leads : change.Leads before after) : after = change.apply before := by
  cases change <;> simp only [Change.Leads, Change.apply] at leads ⊢ <;> omega

variable {pool after : Pool} {lease : Lease} {change : Change}

/-- What a section makes of a pool: there is no more in the queue than before, or one connection
more for which there is room, or one more is counted for which there is room, or one less. -/
inductive Alters (pool : Pool) : Change → Pool → Prop
  | spared {after : Pool} (settings_eq : after.settings = pool.settings)
      (total_eq : after.total = pool.total) (idle_le : after.idle.length ≤ pool.idle.length) :
      Alters pool .kept after
  | queued (connection : Connection) (room : pool.hasRoom = true) :
      Alters pool .kept { pool with idle := pool.idle ++ [connection] }
  | reserved (room : pool.total < pool.settings.maxTotal.toNat) :
      Alters pool .raised { pool with total := pool.total + 1 }
  | unreserved : Alters pool .lowered pool.unreserve

theorem Alters.settings_eq (alters : pool.Alters change after) :
    after.settings = pool.settings := by
  cases alters with
  | spared settings_eq total_eq idle_le => exact settings_eq
  | queued connection room => rfl
  | reserved room => rfl
  | unreserved => rfl

theorem Alters.total_eq (alters : pool.Alters change after) :
    after.total = change.apply pool.total := by
  cases alters with
  | spared settings_eq total_eq idle_le => exact total_eq
  | queued connection room => rfl
  | reserved room => rfl
  | unreserved => rfl

/-- No section exceeds a limit. -/
theorem Alters.limits (alters : pool.Alters change after)
    (total_le : pool.total ≤ pool.settings.maxTotal.toNat)
    (idle_le : pool.idle.length ≤ pool.settings.maxIdle.toNat) :
    after.total ≤ pool.settings.maxTotal.toNat ∧
      after.idle.length ≤ pool.settings.maxIdle.toNat := by
  cases alters with
  | spared settings_eq total_eq fewer => exact ⟨total_eq ▸ total_le, fewer.trans idle_le⟩
  | queued connection room =>
      simp only [hasRoom, decide_eq_true_eq] at room
      simp only [List.length_append, List.length_singleton]
      exact ⟨total_le, room⟩
  | reserved room => exact ⟨room, idle_le⟩
  | unreserved => exact ⟨(Nat.sub_le _ _).trans total_le, idle_le⟩

theorem Reclaims.alters (reclaims : pool.Reclaims lease change after) :
    pool.Alters change after := by
  cases reclaims with
  | kept intact room => exact .queued _ room
  | crowded intact full => exact .unreserved
  | broken broken => exact .unreserved

/-- A connection that comes back is in the queue if the count is kept. -/
theorem Reclaims.leads (reclaims : pool.Reclaims lease change after) :
    change.Leads (pool.idle.length + 1) after.idle.length := by
  cases reclaims with
  | kept intact room => simp [Change.Leads]
  | crowded intact full => rfl
  | broken broken => rfl

/-- Nothing comes into the queue but the connection that is taken back. -/
theorem Reclaims.idle_le (reclaims : pool.Reclaims lease change after) :
    (after.idle : Multiset Connection) ≤ lease.connection ::ₘ pool.idle := by
  cases reclaims with
  | kept intact room =>
      rw [← Multiset.coe_add, Multiset.coe_singleton, ← Multiset.singleton_add, add_comm]
  | crowded intact full => exact Multiset.le_cons_self _ _
  | broken broken => exact Multiset.le_cons_self _ _

end Pool

namespace Traffic

open Pool (Change)

theorem Step.alters (step : Step traffic change next) : traffic.pool.Alters change next.pool := by
  have same (pool : Pool) : pool.Alters .kept pool := .spared rfl rfl le_rfl
  cases step with
  | rotated password => exact .spared rfl rfl le_rfl
  | taken first =>
      rw [Pool.takeIdle?_eq_some first]
      exact .spared rfl rfl (Nat.le_succ _)
  | allowed allowed =>
      rcases Pool.reserve?_eq_some allowed with ⟨room, rfl⟩
      exact .reserved room
  | unreserved => exact .unreserved
  | returned reclaims => exact reclaims.alters
  | emptied someIdle => exact .spared rfl rfl (Nat.zero_le _)
  | settled reclaims => exact reclaims.alters
  | _ => exact same _

/-- What a section does to the count of the pool is what happens to what is accounted for. -/
theorem Step.leads (step : Step traffic change next) : change.Leads traffic.inUse next.inUse := by
  cases step with
  | asked => simp [Change.Leads, inUse, Errand.share]
  | challenged set => simp [Change.Leads, inUse, Errand.share]
  | rotated password => simp [Change.Leads, inUse, Pool.setPassword]
  | taken first =>
      rw [Pool.takeIdle?_eq_some first]
      simp only [Change.Leads, inUse, Multiset.map_cons, Multiset.sum_cons, Errand.share_lent,
        List.length_cons]
      simp only [Errand.share]
      omega
  | missed noneIdle => simp [Change.Leads, inUse, Errand.share]
  | allowed allowed =>
      rw [(Pool.reserve?_eq_some allowed).2]
      simp only [Change.Leads, inUse, Multiset.map_cons, Multiset.sum_cons, Errand.share]
      omega
  | refused full => simp [Change.Leads, inUse, Errand.share]
  | connected isNew =>
      simp only [Change.Leads, inUse, Multiset.map_cons, Multiset.sum_cons, Errand.share_lent]
      simp only [Errand.share]
  | failed => simp [Change.Leads, inUse, Errand.share]
  | unreserved =>
      simp only [Change.Leads, inUse, Multiset.map_cons, Multiset.sum_cons, Errand.share,
        Pool.unreserve]
      omega
  | exchanged identical stillIntact => simp [Change.Leads, inUse, Errand.share]
  | dropped => simp [Change.Leads, inUse, Errand.share]
  | returned reclaims =>
      have leads := reclaims.leads
      simp only [inUse, Multiset.map_cons, Multiset.sum_cons, Errand.share]
      cases change <;> simp only [Change.Leads] at leads ⊢ <;> omega
  | foundNone noneIdle => simp [Change.Leads, inUse, Errand.share]
  | emptied someIdle => simp [Change.Leads, inUse, Errand.share]
  | authenticated identical => simp [Change.Leads, inUse, Errand.share]
  | settled reclaims =>
      have leads := reclaims.leads
      simp only [inUse, Multiset.map_cons, Multiset.sum_cons, Errand.share]
      cases change <;> simp only [Change.Leads] at leads ⊢ <;> omega
  | finished => simp [Change.Leads, inUse, Errand.share]

/-- Connections change places, or are gone, or there is one that has just been opened. -/
theorem Step.places_cases (step : Step traffic change next) :
    (next.places ≤ traffic.places ∧ next.opened = traffic.opened) ∨
      ∃ identity ∉ traffic.opened, next.places = identity ::ₘ traffic.places ∧
        next.opened = identity :: traffic.opened := by
  cases step with
  | taken first =>
      left
      rw [Pool.takeIdle?_eq_some first]
      simp only [places, Multiset.cons_bind, Errand.connections_lent]
      simp [Errand.connections, Errand.held, Errand.drained, ← Multiset.cons_coe]
  | allowed allowed =>
      left
      rw [(Pool.reserve?_eq_some allowed).2]
      simp [places, Errand.connections, Errand.held, Errand.drained]
  | connected isNew =>
      right
      refine ⟨_, isNew, ?_, rfl⟩
      simp only [places, Multiset.cons_bind, Errand.connections_lent]
      simp [Errand.connections, Errand.held, Errand.drained]
  | exchanged identical stillIntact =>
      left
      simp [places, Errand.connections, Errand.held, Errand.drained, identical]
  | returned reclaims =>
      left
      refine ⟨Multiset.map_le_map ?_, rfl⟩
      simp only [Multiset.cons_bind, Errand.connections, Errand.held, Errand.drained, add_zero,
        Multiset.singleton_add, Multiset.add_cons]
      rw [← Multiset.cons_add]
      exact add_le_add_left reclaims.idle_le _
  | authenticated identical =>
      left
      simp [places, Errand.connections, Errand.held, Errand.drained, identical]
  | settled reclaims =>
      left
      refine ⟨Multiset.map_le_map ?_, rfl⟩
      simp only [Multiset.cons_bind, Errand.connections, Errand.held, Errand.drained, zero_add,
        Multiset.cons_add, Multiset.add_cons]
      rw [← Multiset.cons_add]
      exact add_le_add_left reclaims.idle_le _
  | _ =>
      left
      simp [places, Errand.connections, Errand.held, Errand.drained, Pool.setPassword,
        Pool.unreserve]

/-- The count of a pool is that of what is in use, its limits are kept, and each connection has been
opened and is in one place. -/
structure IsRegular (settings : PoolSettings) (traffic : Traffic) : Prop where
  settings_eq : traffic.pool.settings = settings
  total_eq : traffic.pool.total = traffic.inUse
  total_le : traffic.pool.total ≤ settings.maxTotal.toNat
  idle_le : traffic.pool.idle.length ≤ settings.maxIdle.toNat
  known : ∀ place ∈ traffic.places, place ∈ traffic.opened
  distinct : traffic.places.Nodup

variable {settings : PoolSettings}

theorem isRegular_create (settings : PoolSettings) (password : Option String) :
    IsRegular settings { pool := .create settings password } where
  settings_eq := rfl
  total_eq := rfl
  total_le := Nat.zero_le _
  idle_le := Nat.zero_le _
  known := by simp [places, Pool.create]
  distinct := by simp [places, Pool.create]

theorem Step.isRegular (step : Step traffic change next) (regular : traffic.IsRegular settings) :
    next.IsRegular settings := by
  have alters := step.alters
  rcases regular with ⟨rfl, balanced, total_le, idle_le, known, distinct⟩
  have limits := alters.limits total_le idle_le
  have balancedNext : next.pool.total = next.inUse := by
    rw [alters.total_eq, balanced, step.leads.eq_apply]
  rcases step.places_cases with ⟨fewer, same⟩ | ⟨identity, isNew, places, opened⟩
  · refine ⟨alters.settings_eq, balancedNext, limits.1, limits.2, ?_, ?_⟩
    · rw [same]
      exact fun place member => known place (Multiset.mem_of_le fewer member)
    · exact Multiset.nodup_of_le fewer distinct
  · refine ⟨alters.settings_eq, balancedNext, limits.1, limits.2, ?_, ?_⟩
    · rw [places, opened, Multiset.forall_mem_cons]
      exact ⟨List.mem_cons_self, fun place member => List.mem_cons_of_mem _ (known place member)⟩
    · rw [places, Multiset.nodup_cons]
      exact ⟨fun member => isNew (known identity member), distinct⟩

theorem Steps.isRegular (steps : Steps traffic next) (regular : traffic.IsRegular settings) :
    next.IsRegular settings := by
  induction steps with
  | refl => exact regular
  | tail _ step ih =>
      rcases step with ⟨change, step⟩
      exact step.isRegular ih

/-- The limits of a pool hold under any interleaving. However many callers ask a pool for
connections, give them back and authenticate it, in whatever order their sections come, and whatever
becomes of their attempts to connect and to authenticate: the count of the pool is that of the
connections that are idle, held or drained, and of the places that are reserved; neither the count
nor the queue exceeds its limit; the count is never lowered when it is zero; and no connection is in
two places. -/
theorem limits_under_interleaving {password : Option String}
    (steps : Steps { pool := .create settings password } traffic) :
    traffic.pool.total =
        traffic.pool.idle.length + traffic.held.card + traffic.reserved + traffic.drained.card ∧
      traffic.pool.total ≤ settings.maxTotal.toNat ∧
      traffic.pool.idle.length ≤ settings.maxIdle.toNat ∧
      (∀ next, Step traffic .lowered next → 1 ≤ traffic.pool.total) ∧
      traffic.places.Nodup := by
  have regular := steps.isRegular (isRegular_create settings password)
  refine ⟨?_, regular.total_le, regular.idle_le, ?_, regular.distinct⟩
  · rw [← inUse_eq]
    exact regular.total_eq
  · intro next step
    have lowered : next.inUse + 1 = traffic.inUse := step.leads
    have balanced := regular.total_eq
    omega

/-- A connection is lent and given back, then drained, and before it is back somebody else finds
the queue empty and reserves the second place of the pool. -/
theorem limits_under_interleaving_drained :
    let settings : PoolSettings := ⟨⟨"1.2.3.4:5", none, none, none, none, none⟩, 1, 2⟩
    let connection : Connection := { address := "1.2.3.4:5", number := 1 }
    let traffic : Traffic := ⟨⟨settings, some "a", [], 2⟩,
      .connecting false ::ₘ .authenticating [connection] ::ₘ 0, [connection.identity]⟩
    Steps { pool := .create settings (some "a") } traffic ∧
      2 = 0 + traffic.held.card + traffic.reserved + traffic.drained.card ∧
      traffic.places.Nodup := by
  intro settings connection traffic
  have lent : Steps { pool := .create settings (some "a") }
      ⟨⟨settings, some "a", [], 1⟩, .holding { connection } ::ₘ 0, [connection.identity]⟩ :=
    .head ⟨_, .asked⟩ (.head ⟨_, .missed rfl⟩ (.head ⟨_, .allowed rfl⟩
      (.single ⟨_, .connected List.not_mem_nil⟩)))
  have returned : Steps
      ⟨⟨settings, some "a", [], 1⟩, .holding { connection } ::ₘ 0, [connection.identity]⟩
      ⟨⟨settings, some "a", [connection], 1⟩, 0, [connection.identity]⟩ :=
    .head ⟨_, .dropped⟩ (.single ⟨_, .returned (.kept rfl rfl)⟩)
  have drained : Steps ⟨⟨settings, some "a", [connection], 1⟩, 0, [connection.identity]⟩
      ⟨⟨settings, some "a", [], 1⟩, .authenticating [connection] ::ₘ 0, [connection.identity]⟩ :=
    .head ⟨_, .challenged nofun⟩ (.single ⟨_, .emptied nofun⟩)
  have reserved : Steps
      ⟨⟨settings, some "a", [], 1⟩, .authenticating [connection] ::ₘ 0, [connection.identity]⟩
      traffic :=
    .head ⟨_, .asked⟩ (.head ⟨_, .missed rfl⟩ (.single ⟨_, .allowed rfl⟩))
  have steps := ((lent.trans returned).trans drained).trans reserved
  rcases limits_under_interleaving steps with ⟨balanced, _, _, _, distinct⟩
  exact ⟨steps, balanced, distinct⟩

end Traffic

namespace Pool

open Traffic (Steps)

variable {pool after : Pool} {lease : Lease} {deeds : List Deed} {errands : Multiset Errand}
  {opened : List (String × Nat)}

/-- What is exchanged on a connection that is held concerns nobody else. -/
theorem step_exchange {used : Lease} {arguments : List Bytes} {world final : World}
    {reply : Except Failure Wire.Value}
    (exchange : (lease.exchange arguments).run world = ((reply, used), final)) :
    Traffic.Step ⟨pool, .holding lease ::ₘ errands, opened⟩ .kept
      ⟨pool, .holding used ::ₘ errands, opened⟩ := by
  rcases Lease.exchange_cases exchange with ⟨onConnection, intact⟩
  refine .exchanged ?_ ?_
  · rw [(Connection.exchange_cases onConnection).2.1]
    exact Connection.identity_answered _ _
  · rw [intact, Bool.and_eq_true]
    exact And.left

/-- A connection is lent in two or three sections. -/
theorem Lends.steps_ok (lends : pool.Lends deeds (.ok lease) after) (isTrial : Bool)
    (areNew : ∀ identity, .opened identity ∈ deeds → identity ∉ opened) :
    ∃ later, Steps ⟨pool, .taking isTrial ::ₘ errands, opened⟩
      ⟨after, .lent lease isTrial ::ₘ errands, later⟩ := by
  cases lends with
  | reused first => exact ⟨opened, .single ⟨_, .taken first⟩⟩
  | @opened _ connection _ noneIdle reserved made =>
      rcases made.of_ok with ⟨_, writes, _, rfl, _⟩
      have isNew := areNew connection.identity List.mem_cons_self
      refine ⟨connection.identity :: opened, ?_⟩
      refine .head ⟨_, .missed (takeIdle?_of_idle noneIdle)⟩ ?_
      exact .head ⟨_, .allowed reserved⟩ (.single ⟨_, .connected isNew⟩)

/-- If no connection is lent, a place that was reserved has been given back. -/
theorem Lends.steps_error {isTrial : Bool} {failure : Failure}
    (lends : pool.Lends deeds (.error failure) after) :
    Steps ⟨pool, .taking isTrial ::ₘ errands, opened⟩ ⟨after, errands, opened⟩ := by
  rcases lends.noneIdle_of_error with ⟨noneIdle, rfl⟩
  refine .head ⟨_, .missed (takeIdle?_of_idle noneIdle)⟩ ?_
  rcases reserved : after.reserve? with _ | grown
  · exact .single ⟨_, .refused reserved⟩
  · have steps : Steps ⟨after, .reserving isTrial ::ₘ errands, opened⟩
        ⟨grown.unreserve, errands, opened⟩ :=
      .head ⟨_, .allowed reserved⟩ (.head ⟨_, .failed⟩ (.single ⟨_, .unreserved⟩))
    rw [unreserve_of_reserve? reserved] at steps
    exact steps

theorem Settles.reclaims {connection : Connection} {intact : Bool}
    (settles : pool.Settles connection intact deeds after) :
    ∃ change, pool.Reclaims ⟨connection, intact⟩ change after := by
  cases settles with
  | kept room => exact ⟨_, .kept rfl room⟩
  | crowded full => exact ⟨_, .crowded rfl full⟩
  | broken => exact ⟨_, .broken rfl⟩

/-- A connection that is dropped is taken back in one section. -/
theorem Settles.steps (settles : pool.Settles lease.connection lease.isIntact deeds after) :
    Steps ⟨pool, .returning lease ::ₘ errands, opened⟩ ⟨after, errands, opened⟩ := by
  rcases settles.reclaims with ⟨change, reclaims⟩
  exact .single ⟨change, .returned reclaims⟩

theorem Authenticates.steps {username : Option String} {password : String}
    {connections : List Connection} {outcome result : Except Failure Unit}
    (authenticates : Authenticates username password connections outcome pool deeds result after) :
    Steps ⟨pool, .authenticating connections ::ₘ errands, opened⟩ ⟨after, errands, opened⟩ := by
  induction authenticates with
  | done outcome pool => exact .single ⟨_, .finished⟩
  | next identical settles others ih =>
      rcases settles.reclaims with ⟨change, reclaims⟩
      exact .head ⟨_, .authenticated identical⟩ (.head ⟨change, .settled reclaims⟩ ih)

/-- To authenticate a pool takes one section to drain the queue, and then one for each connection
that comes back, or those of a trial. -/
theorem Reauthenticates.steps {result : Except Failure Unit}
    (reauthenticates : pool.Reauthenticates deeds result after)
    (areNew : ∀ identity, .opened identity ∈ deeds → identity ∉ opened) :
    ∃ later, Steps ⟨pool, errands, opened⟩ ⟨after, errands, later⟩ := by
  cases reauthenticates with
  | unset unset => exact ⟨opened, .refl⟩
  | probed set noneIdle probes =>
      have challenge : Steps ⟨pool, errands, opened⟩ ⟨pool, .taking true ::ₘ errands, opened⟩ :=
        .head ⟨_, .challenged (by simp [set])⟩ (.single ⟨_, .foundNone noneIdle⟩)
      cases probes with
      | spared lends => exact ⟨opened, challenge.trans lends.steps_error⟩
      | failed lends otherwise => exact ⟨opened, challenge.trans lends.steps_error⟩
      | passed lends settles =>
          have lentNew := fun identity member => areNew identity (List.mem_append_left _ member)
          rcases lends.steps_ok true lentNew with ⟨later, steps⟩
          exact ⟨later, (challenge.trans steps).trans settles.steps⟩
  | asked set someIdle authenticates =>
      have drain : Steps ⟨pool, errands, opened⟩
          ⟨{ pool with idle := [] }, .authenticating pool.idle ::ₘ errands, opened⟩ :=
        .head ⟨_, .challenged (by simp [set])⟩ (.single ⟨_, .emptied someIdle⟩)
      exact ⟨opened, drain.trans authenticates.steps⟩

end Pool

end SlotClient
