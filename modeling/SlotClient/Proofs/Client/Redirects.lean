import Mathlib.Data.List.Chain
import SlotClient.Proofs.Client.Cluster

/-!
# Following redirects

To execute a command a client visits one node after the other, as long as the reply of the node is
a redirect and the limit is not reached. An itinerary is the list of these visits, with where the
first one is to go and what comes of it all.
-/

namespace SlotClient

open Wire (Value)

namespace Cluster

/-- The visits that a client makes to execute a command, at most a number of times, from a first
node on, and the outcome. -/
structure IsItinerary (configuration : ClusterConfiguration) (route : Route)
    (arguments : List Bytes) (limit : Nat) (target : String) (asking : Bool) (world : World)
    (visits : List Visit) (outcome : Except Failure Value) (final : World) : Prop where
  starts : ∀ first ∈ visits.head?,
    first.target = target ∧ first.asking = asking ∧ first.before.network = world.network
  continues : visits.IsChain Visit.LeadsTo
  made : ∀ visit ∈ visits, visit.IsMade configuration arguments
  ends : final.network = ((visits.getLast?.map Visit.after).getD world).network
  stops :
    (visits.length = limit ∧ (∀ visit ∈ visits, (redirect? visit.reply).isSome = true) ∧
      outcome = .error (.tooManyRedirects (reportedSlot route))) ∨
    (visits.length ≤ limit ∧ ∃ last ∈ visits.getLast?, redirect? last.reply = none ∧
      outcome = last.reply)

variable {configuration : ClusterConfiguration} {route : Route} {arguments : List Bytes}
  {limit : Nat} {visits : List Visit} {outcome : Except Failure Value} {final : World}

theorem IsItinerary.exhausted (target : String) (asking : Bool) {world : World}
    (network : final.network = world.network) :
    IsItinerary configuration route arguments 0 target asking world []
      (.error (.tooManyRedirects (reportedSlot route))) final where
  starts _ impossible := nomatch impossible
  continues := .nil
  made := List.forall_mem_nil _
  ends := network
  stops := Or.inl ⟨rfl, List.forall_mem_nil _, rfl⟩

theorem IsItinerary.answered {visit : Visit} (made : visit.IsMade configuration arguments)
    (answered : redirect? visit.reply = none) :
    IsItinerary configuration route arguments (limit + 1) visit.target visit.asking visit.before
      [visit] visit.reply visit.after where
  starts := by
    rintro first ⟨⟩
    exact ⟨rfl, rfl, rfl⟩
  continues := .singleton visit
  made := List.forall_mem_singleton.mpr made
  ends := rfl
  stops := Or.inr ⟨Nat.succ_le_succ (Nat.zero_le _), visit, rfl, answered, rfl⟩

theorem IsItinerary.redirected {visit : Visit} (made : visit.IsMade configuration arguments)
    {redirect : Redirect} (stated : redirect? visit.reply = some redirect) {world : World}
    (rest : IsItinerary configuration route arguments limit (redirect.destination visit.target)
      redirect.isAsk world visits outcome final)
    (network : world.network = visit.after.network) :
    IsItinerary configuration route arguments (limit + 1) visit.target visit.asking visit.before
      (visit :: visits) outcome final where
  starts := by
    rintro first ⟨⟩
    exact ⟨rfl, rfl, rfl⟩
  continues := by
    apply rest.continues.cons
    intro next isNext
    rcases rest.starts next isNext with ⟨target, asking, begun⟩
    exact ⟨redirect, stated, target, asking, begun.trans network⟩
  made := List.forall_mem_cons.mpr ⟨made, rest.made⟩
  ends := by
    rw [rest.ends, List.getLast?_cons]
    rcases visits.getLast? with _ | last
    · exact network
    · rfl
  stops := by
    rcases rest.stops with ⟨all, redirected, refused⟩ | ⟨within, last, isLast, answered, same⟩
    · left
      have first : (redirect? visit.reply).isSome = true := by rw [stated, Option.isSome_some]
      refine ⟨?_, List.forall_mem_cons.mpr ⟨first, redirected⟩, refused⟩
      rw [List.length_cons, all]
    · right
      refine ⟨Nat.succ_le_succ within, last, ?_, answered, same⟩
      rw [List.getLast?_cons, Option.mem_def.mp isLast]
      rfl

/-- What a client remembers of redirects is no matter of its pools. -/
theorem IsSound.learn {cluster : Cluster} {hosts : List (String × List IpAddress)}
    (sound : cluster.IsSound hosts) (target : String) (redirect : Redirect) :
    (cluster.learn target redirect).IsSound hosts := by
  cases redirect <;> exact sound

theorem configuration_learn (cluster : Cluster) (target : String) (redirect : Redirect) :
    (cluster.learn target redirect).configuration = cluster.configuration := by
  cases redirect <;> rfl

/-- Following redirects is an itinerary, and all pools are sound afterwards. -/
theorem Follows.isItinerary {cluster after : Cluster} {target : String} {asking : Bool}
    {world : World}
    (follows : Follows route arguments limit target asking cluster world visits outcome after final)
    (sound : cluster.IsSound world.hosts) :
    IsItinerary cluster.configuration route arguments limit target asking world visits outcome
      final ∧ after.IsSound world.hosts ∧ final.hosts = world.hosts := by
  induction follows with
  | exhausted entry => exact ⟨.exhausted _ _ rfl, sound, rfl⟩
  | answered sends answered =>
      rcases sends.isMade sound with ⟨made, _, afterSound, known⟩
      exact ⟨.answered made answered, afterSound, known⟩
  | @redirected limit target asking cluster between after world middle final writes reply outcome
      redirect visits sends stated entry _ ih =>
      rcases sends.isMade sound with ⟨made, same, betweenSound, known⟩
      rw [← known] at betweenSound ⊢
      rcases ih (betweenSound.learn target redirect) with ⟨rest, afterSound, kept⟩
      rw [configuration_learn, same] at rest
      exact ⟨.redirected made stated rest rfl, afterSound, kept⟩

theorem itinerary_of_follow {cluster after : Cluster} {target : String} {asking : Bool}
    {world : World} (sound : cluster.IsSound world.hosts)
    (ran : (follow route arguments limit target asking cluster).run world =
      ((outcome, after), final)) :
    (∃ visits, IsItinerary cluster.configuration route arguments limit target asking world visits
      outcome final) ∧ after.IsSound world.hosts ∧ final.hosts = world.hosts := by
  rcases follows ran with ⟨visits, follows⟩
  rcases follows.isItinerary sound with ⟨itinerary, afterSound, known⟩
  exact ⟨⟨visits, itinerary⟩, afterSound, known⟩

end Cluster

end SlotClient
