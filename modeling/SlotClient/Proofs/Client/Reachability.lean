import SlotClient.Proofs.Client.Redirects

/-!
# Reachable clients

A client of a cluster is reached from a new one by executing commands and replacing the password,
in any order, on any network. All its pools are sound then, so that what holds of sound clients
holds of every client that there is.
-/

namespace SlotClient

open Wire (Value)

namespace Cluster

/-- The states of clients, with the worlds that they leave. -/
inductive IsReachable : Cluster → World → Prop
  | created {configuration : ClusterConfiguration} {cluster : Cluster}
      (world : World) (created : create configuration = .ok cluster) :
      IsReachable cluster world.forget
  | noted {cluster : Cluster} {world : World} (entry : LogEntry)
      (reachable : IsReachable cluster world) : IsReachable cluster (world.logged entry)
  | executed {cluster : Cluster} {world : World} (route : Route) (arguments : List Bytes)
      (reachable : IsReachable cluster world) :
      IsReachable ((cluster.execute route arguments).run world).1.2
        ((cluster.execute route arguments).run world).2
  | rotated {cluster : Cluster} {world : World} (password : Option String) (immediate : Bool)
      (reachable : IsReachable cluster world) :
      IsReachable ((cluster.updatePassword password immediate).run world).1.2
        ((cluster.updatePassword password immediate).run world).2

variable {cluster : Cluster} {world : World}

theorem isSound_create {configuration : ClusterConfiguration}
    (hosts : List (String × List IpAddress)) (created : create configuration = .ok cluster) :
    cluster.IsSound hosts := by
  unfold create at created
  split at created
  · cases created
    exact List.forall_mem_nil _
  · cases created

theorem IsReachable.isSound (reachable : cluster.IsReachable world) :
    cluster.IsSound world.hosts := by
  induction reachable with
  | created world created => exact isSound_create world.hosts created
  | noted entry _ ih => exact ih
  | executed route arguments _ ih =>
      rcases itinerary_of_follow ih rfl with ⟨_, sound, known⟩
      rw [← known] at sound
      exact sound
  | rotated password immediate _ ih =>
      rcases ih.updatePassword rfl with ⟨sound, known⟩
      rw [← known] at sound
      exact sound

/-- Redirects are followed as they are given and up to the limit. Whatever a client has done before:
a command goes first to the known owner of its slot, or else to the first seed, and from there along
a chain of redirects. Each visit sends the command at most once, announced exactly if an `ASK` has
led to it. After the last visit nothing is sent. If its reply is no redirect it is the result, and
otherwise the limit has been reached, which is the only reason to report too many redirects. -/
theorem execute_follows_redirects (reachable : cluster.IsReachable world) (route : Route)
    (arguments : List Bytes) :
    let limit := cluster.configuration.maxRedirects.toNat + 1
    let result := ((cluster.execute route arguments).run world).1.1
    let final := ((cluster.execute route arguments).run world).2
    ∃ first last visits, List.head? visits = some first ∧ List.getLast? visits = some last ∧
      first.target = (match route with
        | .slot number => (cluster.slotOwner? number).getD cluster.seed
        | .anywhere => cluster.seed) ∧
      first.asking = false ∧ first.before.network = world.network ∧
      visits.IsChain Visit.LeadsTo ∧
      (∀ visit ∈ visits, visit.IsMade cluster.configuration arguments) ∧
      final.network = last.after.network ∧
      visits.length ≤ limit ∧
      (redirect? last.reply = none → result = last.reply) ∧
      ((redirect? last.reply).isSome = true → visits.length = limit) ∧
      ∀ slot, result = .error (.tooManyRedirects slot) ↔
        visits.length = limit ∧ (∀ visit ∈ visits, (redirect? visit.reply).isSome = true) ∧
          slot = match route with
            | .slot number => number
            | .anywhere => 0 := by
  intro limit result final
  have ran : (follow route arguments limit (cluster.firstTarget route) false cluster).run world =
      ((result, ((cluster.execute route arguments).run world).1.2), final) := rfl
  rcases itinerary_of_follow reachable.isSound ran with ⟨⟨visits, itinerary⟩, _⟩
  have nonempty : visits ≠ [] := by
    rintro rfl
    rcases itinerary.stops with ⟨none, _⟩ | ⟨_, last, impossible, _⟩
    · exact absurd none (Nat.succ_ne_zero _).symm
    · cases impossible
  have isFirst : visits.head? = some (visits.head nonempty) := List.head?_eq_some_head nonempty
  have isLast : visits.getLast? = some (visits.getLast nonempty) :=
    List.getLast?_eq_some_getLast nonempty
  have lastMem : visits.getLast nonempty ∈ visits := List.getLast_mem nonempty
  rcases itinerary.starts _ isFirst with ⟨target, asking, begun⟩
  have ends := itinerary.ends
  rw [isLast] at ends
  refine ⟨_, _, visits, isFirst, isLast, ?_, asking, begun, itinerary.continues, itinerary.made,
    ends, ?_⟩
  · rw [target]
    cases route <;> rfl
  rcases itinerary.stops with ⟨all, redirected, refused⟩ | ⟨within, last, lastEq, answered, same⟩
  · have lastRedirected := redirected _ lastMem
    refine ⟨all.le, ?_, fun _ => all, ?_⟩
    · intro answered
      rw [answered] at lastRedirected
      contradiction
    · intro slot
      rw [refused]
      constructor
      · rintro ⟨⟩
        exact ⟨all, redirected, by cases route <;> rfl⟩
      · rintro ⟨_, _, reported⟩
        rw [reported]
        cases route <;> rfl
  · rw [isLast] at lastEq
    cases lastEq
    refine ⟨within, fun _ => same, ?_, ?_⟩
    · intro lastRedirected
      rw [answered] at lastRedirected
      contradiction
    · intro slot
      constructor
      · intro tooMany
        have causes := (itinerary.made _ lastMem).failure_cases (same.symm.trans tooMany)
        rcases causes with exchange | address | exhausted
        · cases exchange
        · cases address
        · cases exhausted
      · rintro ⟨_, redirected, _⟩
        have lastRedirected := redirected _ lastMem
        rw [answered] at lastRedirected
        contradiction

/-- A new client of a cluster in which the seed answers `MOVED 1 :6` and the other node `OK`. -/
theorem execute_follows_redirects_moved :
    ∃ (cluster : Cluster) (world : World) (first : Visit) (visits : List Visit),
      cluster.IsReachable world ∧
      ((cluster.execute (.slot 1) [[71]]).run world).1.1.toOption.bind Value.bytes? =
        some [79, 75] ∧
      visits.head? = some first ∧ first.target = "1.2.3.4:5" ∧ first.asking = false ∧
      visits.IsChain Visit.LeadsTo ∧ visits.length ≤ 2 := by
  have created : create { nodes := ["1.2.3.4:5"], maxRedirects := 1 } =
      .ok ⟨{ nodes := ["1.2.3.4:5"], maxRedirects := 1 }, none, [], {}, List.cons_ne_nil _ _⟩ := rfl
  have reachable : IsReachable
      ⟨{ nodes := ["1.2.3.4:5"], maxRedirects := 1 }, none, [], {}, List.cons_ne_nil _ _⟩
      { nodes := [
          ("1.2.3.4:5",
            ⟨[], [.data [45, 77, 79, 86, 69, 68, 32, 49, 32, 58, 54, 13, 10] none], 0⟩),
          ("1.2.3.4:6", ⟨[], [.data [43, 79, 75, 13, 10] none], 0⟩)] } :=
    .created { nodes := _ } created
  rcases execute_follows_redirects reachable (.slot 1) [[71]] with
    ⟨first, last, visits, isFirst, _, target, asking, _, continues, _, _, bounded, _⟩
  exact ⟨_, _, first, visits, reachable, by decide +kernel, isFirst, target, asking, continues,
    bounded⟩

end Cluster

end SlotClient
