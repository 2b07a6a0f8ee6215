import Mathlib.Algebra.Order.Group.Multiset
import Mathlib.Data.Multiset.Filter
import SlotClient.Proofs.Client.Dealings

/-!
# Clients with many callers

A client of a cluster may have any number of callers at a time. The password of the client, the map
of its pools and the password of each pool are behind locks of their own, and what callers do falls
into sections, each of which holds one of these locks: to write the password of the client, to list
the pools, to set the password of one pool, to look a pool up. To make a pool is a section too, which
has the map for itself; within it the password of the client is read, and may be written by another
caller before the new pool is in the map. The sections of callers alternate in any order.

A rotation writes the password of the client first and then sets it in the pools that it lists, one
by one. So a pool that is made meanwhile has either read the new password, or is in the map before
the rotation lists the pools. But a rotation that was under way when another one wrote its password
may reach a pool after the other one has. Then the pool keeps a password that is not the client's.
That is all that can go wrong: once all callers are done, each pool has the password of the client,
or that of a rotation that was under way when the client's was written last.

When nobody interrupts it, what a client does to look up a pool or to replace the password is these
sections, one after the other.
-/

namespace SlotClient

/-- How far a caller of a client has got. A rotation has yet to write its password, to list the
pools, or to set it in pools that it has listed, after which it may need the pool of the seed node.
Somebody who needs a pool has yet to look it up, or to make it after it was not found. -/
inductive SharedCluster.Caller where
  | rotating (password : Option String) (immediate : Bool)
  | listing (password : Option String) (immediate : Bool)
  | spreading (password : Option String) (waiting : Multiset String) (needsPool : Bool)
  | seeking (address : String)
  | making (address : String)

/-- The pool that is being made, if the map of pools is locked for this: before and after the
password of the client has been read. -/
inductive SharedCluster.Making where
  | none
  | begun (address : String)
  | made (address : String) (pool : Pool)

/-- A client with its callers, and the passwords of the rotations that were under way when the
password of the client was written last. -/
structure SharedCluster where
  cluster : Cluster
  callers : Multiset SharedCluster.Caller := 0
  making : SharedCluster.Making := .none
  rivals : Multiset (Option String) := 0

namespace SharedCluster

/-- The password that a caller has written and is yet to set in pools. -/
def Caller.spreads? : Caller → Option (Option String)
  | listing password _ | spreading password _ _ => some password
  | rotating _ _ | seeking _ | making _ => none

/-- Whether a caller is yet to set a password in the pool of an address. -/
def Caller.WillSet (password : Option String) (address : String) : Caller → Prop
  | listing own _ => own = password
  | spreading own waiting _ => own = password ∧ address ∈ waiting
  | rotating _ _ | seeking _ | making _ => False

/-- The passwords of the rotations that are under way among callers. -/
def underWay (callers : Multiset Caller) : Multiset (Option String) :=
  callers.filterMap Caller.spreads?

/-- A section of a caller. A pool may be used at any time, which does not change its password, and
owners of slots may be learned. -/
inductive Step : SharedCluster → SharedCluster → Prop
  | requested {cluster : Cluster} {callers : Multiset Caller} {locked : Making}
      {rivals : Multiset (Option String)} {requested password : Option String} {immediate : Bool}
      (accepted : rotatedPassword requested immediate = .ok password) :
      Step ⟨cluster, callers, locked, rivals⟩
        ⟨cluster, .rotating password immediate ::ₘ callers, locked, rivals⟩
  | written {cluster : Cluster} {callers : Multiset Caller} {locked : Making}
      {rivals : Multiset (Option String)} {password : Option String} {immediate : Bool} :
      Step ⟨cluster, .rotating password immediate ::ₘ callers, locked, rivals⟩
        ⟨{ cluster with password }, .listing password immediate ::ₘ callers, locked,
          underWay callers⟩
  | listed {cluster : Cluster} {callers : Multiset Caller} {rivals : Multiset (Option String)}
      {password : Option String} {immediate : Bool} :
      Step ⟨cluster, .listing password immediate ::ₘ callers, .none, rivals⟩
        ⟨cluster, .spreading password (cluster.pools.map Prod.fst : List String)
          (immediate && cluster.pools.isEmpty) ::ₘ callers, .none, rivals⟩
  | reached {cluster : Cluster} {callers : Multiset Caller} {locked : Making}
      {rivals : Multiset (Option String)} {password : Option String} {waiting : Multiset String}
      {needsPool : Bool} {address : String} {pool : Pool}
      (found : cluster.pools.lookup address = some pool) :
      Step ⟨cluster, .spreading password (address ::ₘ waiting) needsPool ::ₘ callers, locked, rivals⟩
        ⟨cluster.withPool address (pool.setPassword password),
          .spreading password waiting needsPool ::ₘ callers, locked, rivals⟩
  | spread {cluster : Cluster} {callers : Multiset Caller} {locked : Making}
      {rivals : Multiset (Option String)} {password : Option String} :
      Step ⟨cluster, .spreading password 0 false ::ₘ callers, locked, rivals⟩
        ⟨cluster, callers, locked, rivals⟩
  | probing {cluster : Cluster} {callers : Multiset Caller} {locked : Making}
      {rivals : Multiset (Option String)} {password : Option String} :
      Step ⟨cluster, .spreading password 0 true ::ₘ callers, locked, rivals⟩
        ⟨cluster, .seeking cluster.seed ::ₘ callers, locked, rivals⟩
  | needed {cluster : Cluster} {callers : Multiset Caller} {locked : Making}
      {rivals : Multiset (Option String)} (address : String) :
      Step ⟨cluster, callers, locked, rivals⟩ ⟨cluster, .seeking address ::ₘ callers, locked, rivals⟩
  | found {cluster : Cluster} {callers : Multiset Caller} {rivals : Multiset (Option String)}
      {address : String} {pool : Pool} (found : cluster.pools.lookup address = some pool) :
      Step ⟨cluster, .seeking address ::ₘ callers, .none, rivals⟩ ⟨cluster, callers, .none, rivals⟩
  | missed {cluster : Cluster} {callers : Multiset Caller} {rivals : Multiset (Option String)}
      {address : String} (missing : cluster.pools.lookup address = none) :
      Step ⟨cluster, .seeking address ::ₘ callers, .none, rivals⟩
        ⟨cluster, .making address ::ₘ callers, .none, rivals⟩
  | overtaken {cluster : Cluster} {callers : Multiset Caller} {rivals : Multiset (Option String)}
      {address : String} {pool : Pool} (found : cluster.pools.lookup address = some pool) :
      Step ⟨cluster, .making address ::ₘ callers, .none, rivals⟩ ⟨cluster, callers, .none, rivals⟩
  | locked {cluster : Cluster} {callers : Multiset Caller} {rivals : Multiset (Option String)}
      {address : String} (missing : cluster.pools.lookup address = none) :
      Step ⟨cluster, .making address ::ₘ callers, .none, rivals⟩
        ⟨cluster, callers, .begun address, rivals⟩
  | made {cluster : Cluster} {callers : Multiset Caller} {rivals : Multiset (Option String)}
      {address : String} :
      Step ⟨cluster, callers, .begun address, rivals⟩
        ⟨cluster, callers, .made address
          (.create (cluster.configuration.poolSettings address) cluster.password), rivals⟩
  | inserted {cluster : Cluster} {callers : Multiset Caller} {rivals : Multiset (Option String)}
      {address : String} {pool : Pool} :
      Step ⟨cluster, callers, .made address pool, rivals⟩
        ⟨{ cluster with pools := cluster.pools ++ [(address, pool)] }, callers, .none, rivals⟩
  | used {cluster : Cluster} {callers : Multiset Caller} {locked : Making}
      {rivals : Multiset (Option String)} {address : String} {pool after : Pool}
      (found : cluster.pools.lookup address = some pool) (same : after.IsStateOf pool) :
      Step ⟨cluster, callers, locked, rivals⟩
        ⟨cluster.withPool address after, callers, locked, rivals⟩
  | learned {cluster : Cluster} {callers : Multiset Caller} {locked : Making}
      {rivals : Multiset (Option String)} (slots : SlotTable) :
      Step ⟨cluster, callers, locked, rivals⟩ ⟨{ cluster with slots }, callers, locked, rivals⟩

/-- Any number of steps, of whatever callers. -/
abbrev Steps : SharedCluster → SharedCluster → Prop := Relation.ReflTransGen Step

/-- Whether all callers are done. -/
def IsQuiet (shared : SharedCluster) : Prop := shared.callers = 0 ∧ shared.making = .none

/-- Whether a password is that of the client or of a rotation that was under way when the client's
was written last. -/
def Knows (shared : SharedCluster) (password : Option String) : Prop :=
  password = shared.cluster.password ∨ password ∈ shared.rivals

/-- All passwords that are about are known, unless a caller is yet to set the one of the client. A
pool that is being made is not reached by callers who have listed the pools already. -/
structure IsCoherent (shared : SharedCluster) : Prop where
  callers : ∀ caller ∈ shared.callers, ∀ password ∈ caller.spreads?, shared.Knows password
  pools : ∀ entry ∈ shared.cluster.pools, shared.Knows entry.2.password ∨
    ∃ caller ∈ shared.callers, caller.WillSet shared.cluster.password entry.1
  making : ∀ address pool, shared.making = .made address pool → shared.Knows pool.password ∨
    ∃ immediate, .listing shared.cluster.password immediate ∈ shared.callers

variable {cluster : Cluster} {callers others : Multiset Caller} {locked : Making}
  {rivals : Multiset (Option String)} {shared next : SharedCluster}

theorem Caller.spreads?_of_willSet {caller : Caller} {password : Option String} {address : String}
    (willSet : caller.WillSet password address) : caller.spreads? = some password := by
  cases caller with
  | rotating own immediate => exact willSet.elim
  | listing own immediate => exact congrArg some willSet
  | spreading own waiting needsPool => exact congrArg some willSet.1
  | seeking address => exact willSet.elim
  | making address => exact willSet.elim

/-- Callers who set no passwords have no bearing on passwords. -/
theorem IsCoherent.of_callers (coherent : IsCoherent ⟨cluster, callers, locked, rivals⟩)
    (same : ∀ caller : Caller, caller.spreads? ≠ none → (caller ∈ others ↔ caller ∈ callers)) :
    IsCoherent ⟨cluster, others, locked, rivals⟩ where
  callers := by
    intro caller member password spreads
    have spreading : caller.spreads? ≠ none := Option.ne_none_iff_exists'.mpr ⟨password, spreads⟩
    exact coherent.callers caller ((same caller spreading).mp member) password spreads
  pools := by
    intro entry member
    rcases coherent.pools entry member with known | ⟨caller, member, willSet⟩
    · exact Or.inl known
    · have spreading := Option.ne_none_iff_exists'.mpr ⟨_, caller.spreads?_of_willSet willSet⟩
      exact Or.inr ⟨caller, (same caller spreading).mpr member, willSet⟩
  making := by
    intro address pool isMade
    rcases coherent.making address pool isMade with known | ⟨immediate, member⟩
    · exact Or.inl known
    · have spreading : (Caller.listing cluster.password immediate).spreads? ≠ none := nofun
      exact Or.inr ⟨immediate, (same _ spreading).mpr member⟩

theorem IsCoherent.cons (coherent : IsCoherent ⟨cluster, callers, locked, rivals⟩) {caller : Caller}
    (silent : caller.spreads? = none) :
    IsCoherent ⟨cluster, caller ::ₘ callers, locked, rivals⟩ := by
  refine coherent.of_callers fun other spreading => ?_
  have different : other ≠ caller := fun same => spreading (same ▸ silent)
  rw [Multiset.mem_cons, or_iff_right different]

theorem IsCoherent.of_cons {caller : Caller}
    (coherent : IsCoherent ⟨cluster, caller ::ₘ callers, locked, rivals⟩)
    (silent : caller.spreads? = none) : IsCoherent ⟨cluster, callers, locked, rivals⟩ := by
  refine coherent.of_callers fun other spreading => ?_
  have different : other ≠ caller := fun same => spreading (same ▸ silent)
  rw [Multiset.mem_cons, or_iff_right different]

/-- A caller who has just written the password of the client will set it in all pools, whatever
they had before. -/
theorem isCoherent_written {password : Option String} {immediate : Bool} :
    IsCoherent ⟨{ cluster with password }, .listing password immediate ::ₘ callers, locked,
      underWay callers⟩ where
  callers := by
    rw [Multiset.forall_mem_cons]
    constructor
    · rintro _ ⟨⟩
      exact Or.inl rfl
    · intro caller member other spreads
      exact Or.inr ((Multiset.mem_filterMap _ _).mpr ⟨caller, member, spreads⟩)
  pools := fun _ _ => Or.inr ⟨_, Multiset.mem_cons_self _ _, rfl⟩
  making := fun _ _ _ => Or.inr ⟨immediate, Multiset.mem_cons_self _ _⟩

/-- A pool has a password that is known, or the first of the callers is yet to set the one of the
client, or another caller is. -/
theorem IsCoherent.pools_cases {caller : Caller}
    (coherent : IsCoherent ⟨cluster, caller ::ₘ callers, locked, rivals⟩) {entry : String × Pool}
    (member : entry ∈ cluster.pools) :
    Knows ⟨cluster, callers, locked, rivals⟩ entry.2.password ∨
      caller.WillSet cluster.password entry.1 ∨
      ∃ other ∈ callers, other.WillSet cluster.password entry.1 := by
  rcases coherent.pools entry member with known | ⟨other, present, willSet⟩
  · exact Or.inl known
  · rcases Multiset.mem_cons.mp present with rfl | present
    · exact Or.inr (Or.inl willSet)
    · exact Or.inr (Or.inr ⟨other, present, willSet⟩)

/-- Who has listed the pools already does not reach the one that is being made. -/
theorem IsCoherent.making_of_spreading {password : Option String} {waiting : Multiset String}
    {needsPool : Bool} {address : String} {pool : Pool}
    (coherent : IsCoherent ⟨cluster, .spreading password waiting needsPool ::ₘ callers, locked,
      rivals⟩)
    (isMade : locked = .made address pool) :
    Knows ⟨cluster, callers, locked, rivals⟩ pool.password ∨
      ∃ immediate, .listing cluster.password immediate ∈ callers := by
  rcases coherent.making address pool isMade with known | ⟨immediate, present⟩
  · exact Or.inl known
  · rcases Multiset.mem_cons.mp present with impossible | present
    · cases impossible
    · exact Or.inr ⟨immediate, present⟩

/-- All pools are listed, since none is being made. -/
theorem IsCoherent.listed {password : Option String} {immediate needsPool : Bool}
    (coherent : IsCoherent ⟨cluster, .listing password immediate ::ₘ callers, .none, rivals⟩) :
    IsCoherent ⟨cluster, .spreading password (cluster.pools.map Prod.fst : List String) needsPool ::ₘ
      callers, .none, rivals⟩ where
  callers := by
    have known := Multiset.forall_mem_cons.mp coherent.callers
    exact Multiset.forall_mem_cons.mpr ⟨known.1, known.2⟩
  pools := by
    intro entry member
    rcases coherent.pools_cases member with known | willSet | ⟨other, present, willSet⟩
    · exact Or.inl known
    · exact Or.inr ⟨_, Multiset.mem_cons_self _ _, willSet, List.mem_map_of_mem member⟩
    · exact Or.inr ⟨other, Multiset.mem_cons_of_mem present, willSet⟩
  making := nofun

/-- A pool whose password has been set need not be reached again by the same caller. -/
theorem IsCoherent.reached {password : Option String} {waiting : Multiset String}
    {needsPool : Bool} {address : String} {pool : Pool}
    (coherent : IsCoherent ⟨cluster, .spreading password (address ::ₘ waiting) needsPool ::ₘ callers,
      locked, rivals⟩) :
    IsCoherent ⟨cluster.withPool address (pool.setPassword password),
      .spreading password waiting needsPool ::ₘ callers, locked, rivals⟩ where
  callers := by
    have known := Multiset.forall_mem_cons.mp coherent.callers
    exact Multiset.forall_mem_cons.mpr ⟨known.1, known.2⟩
  pools := by
    rw [Cluster.withPool, List.forall_mem_map]
    intro entry member
    split
    · exact Or.inl (coherent.callers _ (Multiset.mem_cons_self _ _) password rfl)
    · rename_i elsewhere
      rcases coherent.pools_cases member with known | willSet | ⟨other, present, willSet⟩
      · exact Or.inl known
      · have stillWaiting := (Multiset.mem_cons.mp willSet.2).resolve_left elsewhere
        exact Or.inr ⟨_, Multiset.mem_cons_self _ _, willSet.1, stillWaiting⟩
      · exact Or.inr ⟨other, Multiset.mem_cons_of_mem present, willSet⟩
  making := by
    intro other pool isMade
    rcases coherent.making_of_spreading isMade with known | ⟨immediate, present⟩
    · exact Or.inl known
    · exact Or.inr ⟨immediate, Multiset.mem_cons_of_mem present⟩

theorem IsCoherent.spread {password : Option String} {needsPool : Bool}
    (coherent : IsCoherent ⟨cluster, .spreading password 0 needsPool ::ₘ callers, locked, rivals⟩) :
    IsCoherent ⟨cluster, callers, locked, rivals⟩ where
  callers := (Multiset.forall_mem_cons.mp coherent.callers).2
  pools := by
    intro entry member
    rcases coherent.pools_cases member with known | willSet | others
    · exact Or.inl known
    · exact absurd willSet.2 (Multiset.notMem_zero _)
    · exact Or.inr others
  making := fun _ _ isMade => coherent.making_of_spreading isMade

theorem IsCoherent.inserted {address : String} {pool : Pool}
    (coherent : IsCoherent ⟨cluster, callers, .made address pool, rivals⟩) :
    IsCoherent ⟨{ cluster with pools := cluster.pools ++ [(address, pool)] }, callers, .none,
      rivals⟩ where
  callers := coherent.callers
  pools := by
    refine List.forall_mem_append.mpr ⟨coherent.pools, List.forall_mem_singleton.mpr ?_⟩
    rcases coherent.making address pool rfl with known | ⟨immediate, present⟩
    · exact Or.inl known
    · exact Or.inr ⟨_, present, rfl⟩
  making := nofun

theorem IsCoherent.used {address : String} {pool after : Pool}
    (coherent : IsCoherent ⟨cluster, callers, locked, rivals⟩)
    (found : cluster.pools.lookup address = some pool) (same : after.IsStateOf pool) :
    IsCoherent ⟨cluster.withPool address after, callers, locked, rivals⟩ where
  callers := coherent.callers
  pools := by
    rw [Cluster.withPool, List.forall_mem_map]
    intro entry member
    split
    · have known := coherent.pools _ (mem_of_lookup found)
      rw [← same.2] at known
      exact known
    · exact coherent.pools entry member
  making := coherent.making

theorem Step.isCoherent (step : Step shared next) (coherent : shared.IsCoherent) :
    next.IsCoherent := by
  cases step with
  | requested accepted => exact coherent.cons rfl
  | written => exact isCoherent_written
  | listed => exact coherent.listed
  | reached found => exact coherent.reached
  | spread => exact coherent.spread
  | probing => exact coherent.spread.cons rfl
  | needed address => exact coherent.cons rfl
  | found found => exact coherent.of_cons rfl
  | missed missing => exact (coherent.of_cons rfl).cons rfl
  | overtaken found => exact coherent.of_cons rfl
  | locked missing =>
      have coherent := coherent.of_cons rfl
      exact ⟨coherent.callers, coherent.pools, nofun⟩
  | made =>
      refine ⟨coherent.callers, coherent.pools, ?_⟩
      rintro address pool ⟨⟩
      exact Or.inl (Or.inl rfl)
  | inserted => exact coherent.inserted
  | used found same => exact coherent.used found same
  | learned slots => exact ⟨coherent.callers, coherent.pools, coherent.making⟩

theorem Steps.isCoherent (steps : Steps shared next) (coherent : shared.IsCoherent) :
    next.IsCoherent := by
  induction steps with
  | refl => exact coherent
  | tail _ step ih => exact step.isCoherent ih

theorem isCoherent_create {configuration : ClusterConfiguration}
    (created : Cluster.create configuration = .ok cluster) : IsCoherent { cluster } where
  callers := fun _ impossible => absurd impossible (Multiset.notMem_zero _)
  pools := by
    rw [(Cluster.create_eq_ok created).2.2.1]
    exact List.forall_mem_nil _
  making := nofun

/-- Rotations agree unless they overlap. However many callers replace the password of a client and
make pools, in whatever order their sections come: once all of them are done, each pool has the
password of the client, or that of a rotation that was under way when the client's was written last.
If none was, all pools have the password of the client, those that were there before and those that
have been made meanwhile. -/
theorem rotations_agree_without_rivals {configuration : ClusterConfiguration}
    (created : Cluster.create configuration = .ok cluster) (steps : Steps { cluster } shared)
    (quiet : shared.IsQuiet) :
    (∀ entry ∈ shared.cluster.pools, entry.2.password = shared.cluster.password ∨
      entry.2.password ∈ shared.rivals) ∧
      (shared.rivals = 0 →
        ∀ entry ∈ shared.cluster.pools, entry.2.password = shared.cluster.password) := by
  have coherent := steps.isCoherent (isCoherent_create created)
  have known : ∀ entry ∈ shared.cluster.pools, shared.Knows entry.2.password := by
    intro entry member
    rcases coherent.pools entry member with known | ⟨caller, present, _⟩
    · exact known
    · rw [quiet.1] at present
      exact absurd present (Multiset.notMem_zero _)
  refine ⟨known, ?_⟩
  intro noRivals entry member
  rcases known entry member with same | rival
  · exact same
  · rw [noRivals] at rival
    exact absurd rival (Multiset.notMem_zero _)

/-- A pool that is made while the password is replaced. The password that the client had before is
read for it, but it is in the map when the rotation lists the pools. -/
theorem rotations_agree_without_rivals_making :
    ∃ (cluster : Cluster) (shared : SharedCluster),
      Cluster.create { nodes := ["1.2.3.4:5"], password := some "a" } = .ok cluster ∧
      Steps { cluster } shared ∧ shared.IsQuiet ∧ shared.rivals = 0 ∧
      shared.cluster.pools.map (·.2.password) = [some "b"] ∧
      ∀ entry ∈ shared.cluster.pools, entry.2.password = shared.cluster.password := by
  let cluster : Cluster := ⟨{ nodes := ["1.2.3.4:5"], password := some "a" }, some "a", [], {},
    List.cons_ne_nil _ _⟩
  let pool := Pool.create (cluster.configuration.poolSettings "1.2.3.4:5") (some "a")
  have created : Cluster.create { nodes := ["1.2.3.4:5"], password := some "a" } = .ok cluster := rfl
  have accepted : rotatedPassword (some "b") false = .ok (some "b") := rfl
  have made : Steps { cluster } ⟨cluster, 0, .made "1.2.3.4:5" pool, 0⟩ :=
    .head (.needed _) (.head (.missed rfl) (.head (.locked rfl) (.single .made)))
  have written : Steps ⟨cluster, 0, .made "1.2.3.4:5" pool, 0⟩
      ⟨{ cluster with password := some "b" }, .listing (some "b") false ::ₘ 0,
        .made "1.2.3.4:5" pool, 0⟩ :=
    .head (.requested accepted) (.single .written)
  have listed : Steps
      ⟨{ cluster with password := some "b" }, .listing (some "b") false ::ₘ 0,
        .made "1.2.3.4:5" pool, 0⟩
      ⟨{ cluster with password := some "b", pools := [("1.2.3.4:5", pool)] },
        .spreading (some "b") ("1.2.3.4:5" ::ₘ 0) false ::ₘ 0, .none, 0⟩ :=
    .head .inserted (.single .listed)
  have spread := (listed.tail (.reached rfl)).tail .spread
  have steps := (made.trans written).trans spread
  have agree := (rotations_agree_without_rivals created steps ⟨rfl, rfl⟩).2 rfl
  exact ⟨_, _, created, steps, ⟨rfl, rfl⟩, rfl, by decide +kernel, agree⟩

/-- Rotations that overlap need not agree. The one to `a` writes its password and lists the pools,
the one to `b` does all it has to, and then the first one goes on. The client is left with `b` and
its pool with `a`. -/
theorem overlapping_rotations_disagree :
    ∃ (cluster : Cluster) (shared : SharedCluster),
      Cluster.create { nodes := ["1.2.3.4:5"] } = .ok cluster ∧
      Steps { cluster } shared ∧ shared.IsQuiet ∧ shared.cluster.password = some "b" ∧
      shared.cluster.pools.map (·.2.password) = [some "a"] := by
  let cluster : Cluster := ⟨{ nodes := ["1.2.3.4:5"] }, none, [], {}, List.cons_ne_nil _ _⟩
  let pool := Pool.create (cluster.configuration.poolSettings "1.2.3.4:5") none
  let first : Caller := .spreading (some "a") ("1.2.3.4:5" ::ₘ 0) false
  have created : Cluster.create { nodes := ["1.2.3.4:5"] } = .ok cluster := rfl
  have acceptedFirst : rotatedPassword (some "a") false = .ok (some "a") := rfl
  have acceptedSecond : rotatedPassword (some "b") false = .ok (some "b") := rfl
  have made : Steps { cluster } ⟨{ cluster with pools := [("1.2.3.4:5", pool)] }, 0, .none, 0⟩ :=
    .head (.needed _) (.head (.missed rfl) (.head (.locked rfl) (.head .made (.single .inserted))))
  have begun : Steps ⟨{ cluster with pools := [("1.2.3.4:5", pool)] }, 0, .none, 0⟩
      ⟨{ cluster with password := some "a", pools := [("1.2.3.4:5", pool)] }, first ::ₘ 0, .none,
        0⟩ :=
    .head (.requested acceptedFirst) (.head .written (.single .listed))
  have overtaking : Steps
      ⟨{ cluster with password := some "a", pools := [("1.2.3.4:5", pool)] }, first ::ₘ 0, .none, 0⟩
      ⟨{ cluster with password := some "b", pools := [("1.2.3.4:5", pool)] },
        .spreading (some "b") ("1.2.3.4:5" ::ₘ 0) false ::ₘ first ::ₘ 0, .none,
        underWay (first ::ₘ 0)⟩ :=
    .head (.requested acceptedSecond) (.head .written (.single .listed))
  have overtaken := (overtaking.tail (.reached rfl)).tail .spread
  have spread := (overtaken.tail (.reached rfl)).tail .spread
  exact ⟨_, _, created, (made.trans begun).trans spread, ⟨rfl, rfl⟩, rfl, by decide +kernel⟩

end SharedCluster

namespace Cluster

open SharedCluster (Caller Making Steps underWay)

variable {cluster after : Cluster} {callers : Multiset Caller} {locked : Making}
  {rivals : Multiset (Option String)} {world final : World}

/-- A pool is found in one section, or else made in four. -/
theorem steps_ensurePool {address : String} {pool : Pool}
    (ran : (cluster.ensurePool address).run world = ((pool, after), final)) :
    Steps ⟨cluster, .seeking address ::ₘ callers, .none, rivals⟩ ⟨after, callers, .none, rivals⟩ := by
  rcases ensurePool_cases ran with ⟨found, rfl, _⟩ | ⟨missing, rfl, rfl, _⟩
  · exact .single (.found found)
  · exact .head (.missed missing) (.head (.locked missing) (.head .made (.single .inserted)))

theorem withPool_of_pools {front rest : List (String × Pool)} {address : String} {pool : Pool}
    (pools : cluster.pools = front ++ (address, pool) :: rest)
    (distinct : (cluster.pools.map Prod.fst).Nodup) (replacement : Pool) :
    cluster.pools.lookup address = some pool ∧
      cluster.withPool address replacement =
        { cluster with pools := front ++ (address, replacement) :: rest } := by
  rw [pools] at distinct
  rw [withPool, pools, replace_append_cons distinct]
  exact ⟨lookup_append_cons distinct, rfl⟩

/-- The password is set in one pool after the other. -/
theorem steps_spreading {password : Option String} {needsPool : Bool}
    {front rest : List (String × Pool)} (pools : cluster.pools = front ++ rest)
    (distinct : (cluster.pools.map Prod.fst).Nodup) :
    Steps
      ⟨cluster, .spreading password (rest.map Prod.fst : List String) needsPool ::ₘ callers, locked,
        rivals⟩
      ⟨{ cluster with
          pools := front ++ rest.map fun entry => (entry.1, entry.2.setPassword password) },
        .spreading password 0 needsPool ::ₘ callers, locked, rivals⟩ := by
  induction rest generalizing cluster front with
  | nil =>
      rw [List.map_nil, List.map_nil, ← pools]
      exact .refl
  | cons entry rest ih =>
      rcases entry with ⟨address, pool⟩
      rcases withPool_of_pools pools distinct (pool.setPassword password) with ⟨found, replaced⟩
      rw [List.map_cons, List.map_cons, ← Multiset.cons_coe,
        List.append_cons front (address, pool.setPassword password)]
      refine .head (.reached found) ?_
      rw [replaced]
      refine ih (List.append_cons _ _ _) ?_
      rw [pools] at distinct
      simpa using distinct

/-- To authenticate the connections of pools does not change their passwords, and pools that have
been authenticated are put back one after the other. -/
theorem steps_reauthenticateAll {pools used : List (String × Pool)} {outcome : Except Failure Unit}
    (found : ∀ entry ∈ pools, cluster.pools.lookup entry.1 = some entry.2)
    (distinct : (pools.map Prod.fst).Nodup)
    (ran : (reauthenticateAll pools).run world = ((outcome, used), final)) :
    Steps ⟨cluster, callers, locked, rivals⟩ ⟨cluster.withPools used, callers, locked, rivals⟩ := by
  induction pools generalizing cluster used world outcome with
  | nil =>
      cases ran
      exact .refl
  | cons entry pools ih =>
      rcases entry with ⟨address, pool⟩
      unfold reauthenticateAll at ran
      rcases Action.bind_cases ran with ⟨⟨first, later⟩, middle, authenticated, ran⟩
      rcases Action.bind_cases ran with ⟨⟨others, remaining⟩, last, authenticatedRest, ran⟩
      cases ran
      rcases Pool.reauthenticates authenticated with ⟨deeds, reauthenticates⟩
      rw [List.forall_mem_cons] at found
      rw [List.map_cons, List.nodup_cons] at distinct
      refine .head (.used found.1 reauthenticates.isStateOf) (ih ?_ distinct.2 authenticatedRest)
      intro entry member
      have elsewhere := ne_of_mem_of_not_mem (List.mem_map_of_mem member) distinct.1
      rw [withPool, lookup_replace, if_neg elsewhere]
      exact found.2 entry member

/-- The order in which a client meets its pools makes no difference to what it may do. -/
theorem steps_reauthenticate {outcome : Except Failure Unit}
    (distinct : cluster.addresses.Nodup)
    (ran : cluster.reauthenticate.run world = ((outcome, after), final)) :
    Steps ⟨cluster, callers, locked, rivals⟩ ⟨after, callers, locked, rivals⟩ := by
  rcases reauthenticate_cases ran with ⟨pools, authenticated, rfl⟩
  have each := perm_arranged distinct world.order
  refine steps_reauthenticateAll ?_ ((each.map Prod.fst).nodup_iff.mpr distinct) authenticated
  exact fun entry member => (lookup_eq_some_iff_mem distinct).mpr (each.mem_iff.mp member)

/-- Where there were no pools to list, that of the seed node is made. -/
theorem steps_ensureAnyPool {password : Option String}
    (distinct : (cluster.pools.map Prod.fst).Nodup)
    (ran : cluster.ensureAnyPool.run world = (after, final)) :
    Steps ⟨cluster, .spreading password 0 cluster.pools.isEmpty ::ₘ callers, .none, rivals⟩
        ⟨after, callers, .none, rivals⟩ ∧
      (after.pools.map Prod.fst).Nodup := by
  unfold ensureAnyPool at ran
  rcases empty : cluster.pools.isEmpty with _ | _
  · rw [empty, if_neg Bool.false_ne_true] at ran
    cases ran
    exact ⟨.single .spread, distinct⟩
  · rw [empty, if_pos rfl] at ran
    rcases Action.bind_cases ran with ⟨⟨pool, between⟩, last, ensured, ran⟩
    cases ran
    refine ⟨.head .probing (steps_ensurePool ensured), ?_⟩
    rw [List.isEmpty_iff] at empty
    rcases ensurePool_cases ensured with ⟨found, _, _⟩ | ⟨_, _, rfl, _⟩
    · exact nomatch empty ▸ found
    · rw [empty]
      exact List.nodup_singleton _

/-- A rotation that nobody interrupts takes the sections of a rotation one after the other. -/
theorem steps_updatePassword {requested password : Option String} {immediate : Bool}
    {outcome : Except Failure String} (distinct : (cluster.pools.map Prod.fst).Nodup)
    (accepted : rotatedPassword requested immediate = .ok password)
    (ran : (cluster.updatePassword requested immediate).run world = ((outcome, after), final)) :
    Steps ⟨cluster, callers, .none, rivals⟩ ⟨after, callers, .none, underWay callers⟩ := by
  have spread : Steps ⟨cluster, callers, .none, rivals⟩
      ⟨cluster.setPassword password, .spreading password 0 (immediate && cluster.pools.isEmpty)
        ::ₘ callers, .none, underWay callers⟩ := by
    have listed : Steps ⟨cluster, callers, .none, rivals⟩
        ⟨{ cluster with password }, .spreading password (cluster.pools.map Prod.fst : List String)
          (immediate && cluster.pools.isEmpty) ::ₘ callers, .none, underWay callers⟩ :=
      .head (.requested accepted) (.head .written (.single .listed))
    have all : ({ cluster with password } : Cluster).pools = [] ++ cluster.pools := rfl
    exact listed.trans (steps_spreading all distinct)
  cases rotates ran with
  | rejected rejected =>
      rw [accepted] at rejected
      cases rejected
  | stored also =>
      cases accepted.symm.trans also
      exact spread.tail .spread
  | authenticated also ensured reauthenticated =>
      cases accepted.symm.trans also
      have keys : ((cluster.setPassword password).pools.map Prod.fst).Nodup := by
        rw [setPassword, List.map_map]
        exact distinct
      rcases steps_ensureAnyPool keys ensured with ⟨made, distinct⟩
      rw [setPassword, List.isEmpty_map] at made
      exact (spread.trans made).trans (steps_reauthenticate distinct reauthenticated)

end Cluster

end SlotClient
