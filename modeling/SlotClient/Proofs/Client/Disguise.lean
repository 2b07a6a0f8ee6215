import Mathlib.Data.List.Forall2
import SlotClient.Client.Cluster
import SlotClient.Client.Standalone
import SlotClient.Proofs.Pool.Disguise

/-!
# Clients with other credentials

Two clients may be set up alike but for the name of the user and the text of the password. They go
to the same nodes, take the same connections and learn the same owners of slots, whatever they send;
only whether there is a password makes a difference. Where they authenticate all their connections,
they do it alike if they go through their pools in the same order.
-/

namespace SlotClient

open SlotClient.Action (Agree AlikeAfter)
open Wire (Value)

variable {aspect : Aspect}

/-- Whether a rotation is rejected, and whether there is a password after it, depends on nothing but
whether the password is missing. -/
theorem rotatedPassword_hides {password twin : Option String} (immediate : Bool)
    (hides : aspect.Hides (password.filter (· != "")) (twin.filter (· != ""))) :
    (∃ violation, rotatedPassword password immediate = .error violation ∧
        rotatedPassword twin immediate = .error violation) ∨
      ∃ rotated other, rotatedPassword password immediate = .ok rotated ∧
        rotatedPassword twin immediate = .ok other ∧ aspect.Hides rotated other := by
  have missing : (twin.filter (· != "")).isNone = (password.filter (· != "")).isNone := by
    rw [← Option.not_isSome, ← Option.not_isSome, hides.isSome_eq]
  unfold rotatedPassword
  dsimp only
  rw [missing]
  split
  · exact Or.inl ⟨_, rfl, rfl⟩
  · exact Or.inr ⟨_, _, rfl, rfl, hides⟩

/-- A command is delivered alike, whatever it is. -/
theorem Lease.agree_deliver (lease : Lease) (asking : Bool) {arguments twins : List Bytes}
    (confused : aspect.Confuses arguments twins) :
    Agree aspect Eq (lease.deliver asking arguments) (lease.deliver asking twins) := by
  unfold deliver
  cases asking with
  | false => exact lease.agree_exchange confused
  | true =>
      refine (lease.agree_exchange (.refl _)).bind_eq ?_
      rintro ⟨reply, asked⟩
      dsimp only
      split
      · exact .pure rfl
      · exact asked.agree_exchange confused

namespace Standalone

def Resemble (aspect : Aspect) (client twin : Standalone) : Prop :=
  client.pool.Resemble aspect twin.pool

variable {client twin : Standalone}

theorem agree_execute (resemble : client.Resemble aspect twin) {arguments twins : List Bytes}
    (confused : aspect.Confuses arguments twins) :
    Agree aspect (AlikeAfter (Resemble aspect)) (client.execute arguments)
      (twin.execute twins) := by
  refine (Pool.agree_acquire resemble).bind ?_
  rintro ⟨failure | lease, rest⟩ ⟨_, twinRest⟩ ⟨rfl, alike⟩
  · exact .pure ⟨rfl, alike⟩
  · refine (lease.agree_exchange confused).bind_eq ?_
    rintro ⟨reply, used⟩
    exact (Pool.agree_release alike used).bind fun _ _ after => .pure ⟨rfl, after⟩

theorem agree_updatePassword (resemble : client.Resemble aspect twin) (immediate : Bool)
    {password other : Option String}
    (hides : aspect.Hides (password.filter (· != "")) (other.filter (· != ""))) :
    Agree aspect (AlikeAfter (Resemble aspect)) (client.updatePassword password immediate)
      (twin.updatePassword other immediate) := by
  unfold updatePassword
  rcases rotatedPassword_hides immediate hides with
    ⟨violation, rejected, alsoRejected⟩ | ⟨rotated, twinRotated, first, second, passwords⟩
  · rw [rejected, alsoRejected]
    exact .pure ⟨rfl, resemble⟩
  · rw [first, second]
    have updated := Pool.Resemble.setPassword resemble passwords
    cases immediate with
    | false => exact .pure ⟨rfl, updated⟩
    | true =>
        refine (Pool.agree_reauthenticate updated).bind ?_
        rintro ⟨outcome, rest⟩ ⟨_, twinRest⟩ ⟨rfl, after⟩
        exact .pure ⟨rfl, after⟩

end Standalone

/-- The same configuration but for the name of the user and the text of the password. -/
structure ServerConfiguration.Resemble (aspect : Aspect)
    (configuration twin : ServerConfiguration) : Prop where
  configuration_eq :
    twin = { configuration with username := twin.username, password := twin.password }
  username : aspect.Confuses configuration.username twin.username
  password : aspect.Hides configuration.password twin.password

/-- The same configuration but for the name of the user and the text of the password. -/
structure ClusterConfiguration.Resemble (aspect : Aspect)
    (configuration twin : ClusterConfiguration) : Prop where
  configuration_eq :
    twin = { configuration with username := twin.username, password := twin.password }
  username : aspect.Confuses configuration.username twin.username
  password : aspect.Hides configuration.password twin.password

theorem Standalone.resemble_create {configuration twin : ServerConfiguration}
    (resemble : configuration.Resemble aspect twin) :
    (create configuration).Resemble aspect (create twin) := by
  rw [resemble.configuration_eq]
  exact ⟨⟨rfl, resemble.username⟩, rfl, rfl, resemble.password, rfl, rfl⟩

/-- Two entries of pools are for the same address, with pools that resemble each other. -/
def Pool.EntriesResemble (aspect : Aspect) (entry twin : String × Pool) : Prop :=
  twin.1 = entry.1 ∧ entry.2.Resemble aspect twin.2

theorem Pool.EntriesResemble.lookup {pools twins : List (String × Pool)}
    (resemble : List.Forall₂ (EntriesResemble aspect) pools twins) (address : String) :
    (pools.lookup address = none ∧ twins.lookup address = none) ∨
      ∃ pool twin, pools.lookup address = some pool ∧ twins.lookup address = some twin ∧
        pool.Resemble aspect twin := by
  induction resemble with
  | nil => exact Or.inl ⟨rfl, rfl⟩
  | @cons entry other pools twins alike rest ih =>
      rcases entry with ⟨_, pool⟩
      rcases other with ⟨name, twin⟩
      rcases alike with ⟨rfl, alike⟩
      rw [List.lookup_cons, List.lookup_cons]
      dsimp only
      cases address == name with
      | false => exact ih
      | true => exact Or.inr ⟨pool, twin, rfl, rfl, alike⟩

theorem Pool.EntriesResemble.map_fst_eq {pools twins : List (String × Pool)}
    (resemble : List.Forall₂ (EntriesResemble aspect) pools twins) :
    twins.map Prod.fst = pools.map Prod.fst := by
  induction resemble with
  | nil => rfl
  | cons alike _ ih => rw [List.map_cons, List.map_cons, alike.1, ih]

/-- Pools that resemble each other still do when they are arranged by the same addresses. -/
theorem Pool.EntriesResemble.arranged {pools twins : List (String × Pool)}
    (resemble : List.Forall₂ (EntriesResemble aspect) pools twins) (addresses : List String) :
    List.Forall₂ (EntriesResemble aspect)
      (addresses.filterMap fun address => (pools.lookup address).map fun pool => (address, pool))
      (addresses.filterMap fun address =>
        (twins.lookup address).map fun pool => (address, pool)) := by
  induction addresses with
  | nil => exact .nil
  | cons address addresses ih =>
      rw [List.filterMap_cons, List.filterMap_cons]
      rcases lookup resemble address with
        ⟨missing, alsoMissing⟩ | ⟨pool, twin, first, second, alike⟩
      · rw [missing, alsoMissing]
        exact ih
      · rw [first, second]
        exact .cons ⟨rfl, alike⟩ ih

namespace Cluster

/-- The same client but for the name of the user and the text of the password, also in its
pools. -/
structure Resemble (aspect : Aspect) (cluster twin : Cluster) : Prop where
  configuration : cluster.configuration.Resemble aspect twin.configuration
  password : aspect.Hides cluster.password twin.password
  pools : List.Forall₂ (Pool.EntriesResemble aspect) cluster.pools twin.pools
  slots_eq : twin.slots = cluster.slots

variable {cluster twin : Cluster}

theorem Resemble.seed_eq (resemble : cluster.Resemble aspect twin) : twin.seed = cluster.seed := by
  have nodes_eq : twin.configuration.nodes = cluster.configuration.nodes := by
    rw [resemble.configuration.configuration_eq]
  simp only [seed, nodes_eq]

theorem Resemble.maxRedirects_eq (resemble : cluster.Resemble aspect twin) :
    twin.configuration.maxRedirects = cluster.configuration.maxRedirects := by
  rw [resemble.configuration.configuration_eq]

theorem Resemble.firstTarget_eq (resemble : cluster.Resemble aspect twin) (route : Route) :
    twin.firstTarget route = cluster.firstTarget route := by
  cases route with
  | anywhere => exact resemble.seed_eq
  | slot number => rw [firstTarget, firstTarget, resemble.slots_eq, resemble.seed_eq]

theorem Resemble.withPool (resemble : cluster.Resemble aspect twin) (address : String)
    {pool other : Pool} (alike : pool.Resemble aspect other) :
    (cluster.withPool address pool).Resemble aspect (twin.withPool address other) := by
  refine ⟨resemble.configuration, resemble.password, ?_, resemble.slots_eq⟩
  rw [Cluster.withPool, Cluster.withPool, List.forall₂_map_left_iff, List.forall₂_map_right_iff]
  refine resemble.pools.imp ?_
  rintro ⟨_, kept⟩ ⟨name, twinKept⟩ ⟨rfl, keptAlike⟩
  dsimp only
  split
  · exact ⟨rfl, alike⟩
  · exact ⟨rfl, keptAlike⟩

theorem Resemble.withPools {pools twins : List (String × Pool)}
    (resemble : cluster.Resemble aspect twin)
    (alike : List.Forall₂ (Pool.EntriesResemble aspect) pools twins) :
    (cluster.withPools pools).Resemble aspect (twin.withPools twins) := by
  induction alike generalizing cluster twin with
  | nil => exact resemble
  | @cons entry other pools twins first rest ih =>
      rcases entry with ⟨_, pool⟩
      rcases other with ⟨address, replacement⟩
      rcases first with ⟨rfl, first⟩
      exact ih (resemble.withPool address first)

theorem Resemble.arranged (resemble : cluster.Resemble aspect twin) (order : KeyOrder) :
    List.Forall₂ (Pool.EntriesResemble aspect) (cluster.arranged order) (twin.arranged order) := by
  rw [Cluster.arranged, Cluster.arranged, Pool.EntriesResemble.map_fst_eq resemble.pools]
  exact Pool.EntriesResemble.arranged resemble.pools _

theorem Resemble.setPassword (resemble : cluster.Resemble aspect twin)
    {password other : Option String} (hides : aspect.Hides password other) :
    (cluster.setPassword password).Resemble aspect (twin.setPassword other) := by
  refine ⟨resemble.configuration, hides, ?_, resemble.slots_eq⟩
  rw [Cluster.setPassword, Cluster.setPassword, List.forall₂_map_left_iff,
    List.forall₂_map_right_iff]
  exact resemble.pools.imp fun _ _ alike => ⟨alike.1, alike.2.setPassword hides⟩

/-- A new pool is made for the same address in both clients. -/
theorem agree_ensurePool (resemble : cluster.Resemble aspect twin) (address : String) :
    Agree aspect
      (fun first second => first.1.Resemble aspect second.1 ∧ first.2.Resemble aspect second.2)
      (cluster.ensurePool address) (twin.ensurePool address) := by
  unfold ensurePool
  rcases Pool.EntriesResemble.lookup resemble.pools address with
    ⟨missing, alsoMissing⟩ | ⟨pool, other, first, second, alike⟩
  · rw [missing, alsoMissing]
    refine (World.agree_note _).bind_eq fun _ => ?_
    have new : (Pool.create (cluster.configuration.poolSettings address) cluster.password).Resemble
        aspect (Pool.create (twin.configuration.poolSettings address) twin.password) := by
      rw [resemble.configuration.configuration_eq]
      exact ⟨⟨rfl, resemble.configuration.username⟩, rfl, rfl, resemble.password, rfl, rfl⟩
    refine .pure ⟨new, resemble.configuration, resemble.password, ?_, resemble.slots_eq⟩
    exact List.rel_append resemble.pools (.cons ⟨rfl, new⟩ .nil)
  · rw [first, second]
    exact .pure ⟨alike, resemble⟩

theorem agree_send (resemble : cluster.Resemble aspect twin) (address : String) (asking : Bool)
    {arguments twins : List Bytes} (confused : aspect.Confuses arguments twins) :
    Agree aspect (AlikeAfter (Resemble aspect)) (cluster.send address asking arguments)
      (twin.send address asking twins) := by
  refine (agree_ensurePool resemble address).bind ?_
  rintro ⟨pool, made⟩ ⟨twinPool, twinMade⟩ ⟨alike, clusters⟩
  refine (Pool.agree_acquire alike).bind ?_
  rintro ⟨failure | lease, rest⟩ ⟨_, twinRest⟩ ⟨rfl, alike⟩
  · exact .pure ⟨rfl, clusters.withPool address alike⟩
  · refine (lease.agree_deliver asking confused).bind_eq ?_
    rintro ⟨reply, used⟩
    refine (Pool.agree_release alike used).bind fun _ _ after => ?_
    exact .pure ⟨rfl, clusters.withPool address after⟩

/-- Both clients are redirected alike, since their replies are the same. -/
theorem agree_follow (route : Route) {arguments twins : List Bytes}
    (confused : aspect.Confuses arguments twins) (sends : Nat) (target : String) (asking : Bool)
    (resemble : cluster.Resemble aspect twin) :
    Agree aspect (AlikeAfter (Resemble aspect))
      (follow route arguments sends target asking cluster)
      (follow route twins sends target asking twin) := by
  induction sends generalizing target asking cluster twin with
  | zero =>
      rw [follow, follow, resemble.maxRedirects_eq]
      exact (World.agree_note _).bind_eq fun _ => .pure ⟨rfl, resemble⟩
  | succ sends ih =>
      refine (agree_send resemble target asking confused).bind ?_
      rintro ⟨reply, sent⟩ ⟨_, twinSent⟩ ⟨rfl, alike⟩
      dsimp only
      -- The reply is the same, so both clients learn the same owner before they go on.
      split
      · refine (World.agree_note _).bind_eq fun _ => ih _ _ ?_
        refine ⟨alike.configuration, alike.password, alike.pools, ?_⟩
        rw [alike.slots_eq]
      · exact (World.agree_note _).bind_eq fun _ => ih _ _ alike
      · exact .pure ⟨rfl, alike⟩

theorem agree_execute (resemble : cluster.Resemble aspect twin) (route : Route)
    {arguments twins : List Bytes} (confused : aspect.Confuses arguments twins) :
    Agree aspect (AlikeAfter (Resemble aspect)) (cluster.execute route arguments)
      (twin.execute route twins) := by
  unfold execute
  rw [resemble.maxRedirects_eq, resemble.firstTarget_eq]
  exact agree_follow route confused _ _ _ resemble

theorem agree_reauthenticateAll {pools twins : List (String × Pool)}
    (resemble : List.Forall₂ (Pool.EntriesResemble aspect) pools twins) :
    Agree aspect (AlikeAfter (List.Forall₂ (Pool.EntriesResemble aspect)))
      (reauthenticateAll pools) (reauthenticateAll twins) := by
  induction resemble with
  | nil => exact .pure ⟨rfl, .nil⟩
  | @cons entry other pools twins alike rest ih =>
      rcases entry with ⟨_, pool⟩
      rcases other with ⟨address, twin⟩
      rcases alike with ⟨rfl, alike⟩
      refine (Pool.agree_reauthenticate alike).bind ?_
      rintro ⟨outcome, after⟩ ⟨_, twinAfter⟩ ⟨rfl, alikeAfter⟩
      refine ih.bind ?_
      rintro ⟨others, done⟩ ⟨_, twinDone⟩ ⟨rfl, restAfter⟩
      exact .pure ⟨rfl, .cons ⟨rfl, alikeAfter⟩ restAfter⟩

theorem agree_ensureAnyPool (resemble : cluster.Resemble aspect twin) :
    Agree aspect (Resemble aspect) cluster.ensureAnyPool twin.ensureAnyPool := by
  have isEmpty_eq : twin.pools.isEmpty = cluster.pools.isEmpty := by
    rw [Bool.eq_iff_iff, List.isEmpty_iff_length_eq_zero, List.isEmpty_iff_length_eq_zero,
      resemble.pools.length_eq]
  unfold ensureAnyPool
  rw [isEmpty_eq, resemble.seed_eq]
  split
  · exact (agree_ensurePool resemble _).bind fun _ _ alike => .pure alike.2
  · exact .pure resemble

/-- In one and the same order, all pools are authenticated alike. -/
theorem agree_reauthenticateIn (resemble : cluster.Resemble aspect twin) (order : KeyOrder) :
    Agree aspect (AlikeAfter (Resemble aspect)) (cluster.reauthenticateIn order)
      (twin.reauthenticateIn order) :=
  (agree_reauthenticateAll (resemble.arranged order)).bind fun _ _ alike =>
    .pure ⟨alike.1, resemble.withPools alike.2⟩

/-- The order is the same unless it is left out. -/
theorem agree_reauthenticate (resemble : cluster.Resemble aspect twin)
    (shown : aspect ≠ .unordered) :
    Agree aspect (AlikeAfter (Resemble aspect)) cluster.reauthenticate twin.reauthenticate := by
  intro world other same
  have inOrder : twin.reauthenticate.run other = (twin.reauthenticateIn other.order).run other :=
    rfl
  rw [inOrder, Aspect.order_eq shown same]
  exact agree_reauthenticateIn resemble world.order same

/-- A rotation is made alike if both passwords are there or both are missing, and if the order is
the same where connections are authenticated at once. -/
theorem agree_updatePassword (resemble : cluster.Resemble aspect twin) {immediate : Bool}
    (shown : immediate = true → aspect ≠ .unordered) {password other : Option String}
    (hides : aspect.Hides (password.filter (· != "")) (other.filter (· != ""))) :
    Agree aspect (AlikeAfter (Resemble aspect)) (cluster.updatePassword password immediate)
      (twin.updatePassword other immediate) := by
  unfold updatePassword
  rcases rotatedPassword_hides immediate hides with
    ⟨violation, rejected, alsoRejected⟩ | ⟨rotated, twinRotated, first, second, passwords⟩
  · rw [rejected, alsoRejected]
    exact .pure ⟨rfl, resemble⟩
  · rw [first, second]
    have updated := resemble.setPassword passwords
    cases immediate with
    | false => exact .pure ⟨rfl, updated⟩
    | true =>
        refine (agree_ensureAnyPool updated).bind fun _ _ ensured => ?_
        refine (agree_reauthenticate ensured (shown rfl)).bind ?_
        rintro ⟨outcome, used⟩ ⟨_, twinUsed⟩ ⟨rfl, alike⟩
        exact .pure ⟨rfl, alike⟩

end Cluster

end SlotClient
