import SlotClient.Proofs.Client.Learning
import SlotClient.Proofs.Network.Address

/-!
# Hosts that redirects name

A redirect may name a host and a port, or a port alone. A port alone is one on the host that
answered, so as long as redirects name no host a command stays on one host. A host that is named is
the one that the command is sent to, and that is remembered as the owner of a slot that has moved.

There is an exception. What tells that no host is named is the colon at the beginning of the
address, and not that there is nothing in front of its last colon. So a host that itself begins with
a colon, which is an address like `::1` without brackets, is put behind the host that answered.
-/

namespace SlotClient

open SocketAddress (splitAtLastColon? splitAtLastColon?_append splitAtLastColon?_eq_some_iff
  exists_parts_of_colon)

namespace Redirect

/-- The address that a redirect names. -/
def address : Redirect → String
  | moved _ address | ask _ address => address

/-- Whether all that a redirect names is a port. -/
def NamesPortOnly (redirect : Redirect) : Prop :=
  ∃ port, splitAtLastColon? redirect.address = some ("", port)

variable {redirect : Redirect} {current host port : String}

theorem destination_eq (redirect : Redirect) (current : String) :
    redirect.destination current = target current redirect.address := by
  cases redirect <;> rfl

theorem address_ofKind? {kind : String} {slot : Slot} {named : String}
    (accepted : ofKind? kind slot named = some redirect) : redirect.address = named := by
  unfold ofKind? at accepted
  split at accepted
  · cases accepted
    rfl
  · split at accepted
    · cases accepted
      rfl
    · contradiction

/-- The address of a redirect that is accepted is a host and a port. -/
theorem colon_of_ofMessage? {message : Bytes} (accepted : ofMessage? message = some redirect) :
    ':' ∈ redirect.address.toList := by
  unfold ofMessage? at accepted
  rcases Option.bind_eq_some_iff.mp accepted with ⟨text, _, accepted⟩
  split at accepted
  · rcases Option.bind_eq_some_iff.mp accepted with ⟨slot, _, accepted⟩
    split at accepted
    · rename_i colon
      rw [address_ofKind? accepted]
      simpa using colon
    · contradiction
  · contradiction

theorem target_of_host {named : String} (noColon : named.toList.head? ≠ some ':') :
    target current named = named :=
  if_neg noColon

theorem target_of_port {previous : String}
    (splits : splitAtLastColon? current = some (host, previous)) :
    target current ("" ++ ":" ++ port) = host ++ ":" ++ port := by
  simp [target, splits, String.append_assoc]

/-- A host in front of a colon begins the address. -/
theorem head?_of_host (named : host ≠ "") :
    (host ++ ":" ++ port).toList.head? = host.toList.head? := by
  rcases shape : host.toList with _ | ⟨first, rest⟩
  · rw [String.toList_eq_nil_iff] at shape
    contradiction
  · simp [shape]

/-- Where a redirect leads whose address is a host and a port: to the port on the host that answered
if the host is left out, and else to the address as it is, unless this begins with a colon. -/
theorem destination_cases (colon : ':' ∈ redirect.address.toList) :
    ∃ host port, splitAtLastColon? redirect.address = some (host, port) ∧
      (host ≠ "" → host.toList.head? ≠ some ':' →
        redirect.destination current = redirect.address) ∧
      (host = "" → ∀ here previous, splitAtLastColon? current = some (here, previous) →
        redirect.destination current = here ++ ":" ++ port) := by
  rcases exists_parts_of_colon colon with ⟨host, port, parts, noColon⟩
  refine ⟨host, port, splitAtLastColon?_eq_some_iff.mpr ⟨parts, noColon⟩, ?_, ?_⟩
  · intro named begins
    rw [destination_eq]
    apply target_of_host
    rwa [parts, head?_of_host named]
  · rintro rfl here previous splits
    rw [destination_eq, parts]
    exact target_of_port splits

/-- A redirect that names a port alone leads to the host that answered. -/
theorem NamesPortOnly.splitAtLastColon? (portOnly : redirect.NamesPortOnly) {previous : String}
    (splits : SocketAddress.splitAtLastColon? current = some (host, previous)) :
    ∃ port, SocketAddress.splitAtLastColon? (redirect.destination current) = some (host, port) := by
  rcases portOnly with ⟨port, named⟩
  rcases splitAtLastColon?_eq_some_iff.mp named with ⟨parts, noColon⟩
  refine ⟨port, ?_⟩
  rw [destination_eq, parts, target_of_port splits]
  exact splitAtLastColon?_append noColon

end Redirect

namespace Cluster

theorem colon_of_redirect? {reply : Except Failure Wire.Value} {redirect : Redirect}
    (stated : redirect? reply = some redirect) : ':' ∈ redirect.address.toList := by
  unfold redirect? at stated
  split at stated
  · exact Redirect.colon_of_ofMessage? stated
  · contradiction

end Cluster

namespace Visit

/-- Whether the reply of a visit is a redirect that names a port alone. -/
def StaysOnHost (visit : Visit) : Prop :=
  ∃ redirect, Cluster.redirect? visit.reply = some redirect ∧ redirect.NamesPortOnly

variable {visit next : Visit} {visits : List Visit} {host port : String}

theorem LeadsTo.splitAtLastColon? (leads : visit.LeadsTo next) (stays : visit.StaysOnHost)
    (splits : SocketAddress.splitAtLastColon? visit.target = some (host, port)) :
    ∃ later, SocketAddress.splitAtLastColon? next.target = some (host, later) := by
  rcases leads with ⟨redirect, stated, target, _⟩
  rcases stays with ⟨also, same, portOnly⟩
  rw [stated, Option.some.injEq] at same
  subst same
  rw [target]
  exact portOnly.splitAtLastColon? splits

/-- As long as redirects name a port alone, all visits are visits of one host. -/
theorem sameHost_of_isChain (continues : (visit :: visits).IsChain LeadsTo)
    (stay : ∀ earlier ∈ (visit :: visits).dropLast, earlier.StaysOnHost)
    (splits : splitAtLastColon? visit.target = some (host, port)) :
    ∀ later ∈ visits, ∃ number, splitAtLastColon? later.target = some (host, number) := by
  induction visits generalizing visit port with
  | nil => exact List.forall_mem_nil _
  | cons next visits ih =>
      rw [List.isChain_cons_cons] at continues
      rw [List.dropLast_cons_cons, List.forall_mem_cons] at stay
      rcases continues.1.splitAtLastColon? stay.1 splits with ⟨number, nextSplits⟩
      rw [List.forall_mem_cons]
      exact ⟨⟨number, nextSplits⟩, ih continues.2 stay.2 nextSplits⟩

theorem owner?_of_moved {slot : Slot} {address : String}
    (stated : Cluster.redirect? visit.reply = some (.moved slot address)) :
    visit.owner? slot = some (Redirect.target visit.target address) := by
  simp [owner?, stated]

end Visit

namespace Cluster

variable {cluster : Cluster} {world : World}

/-- A redirect is followed to the host that it names. Whatever a client has done before, while it
executes a command: a redirect that is followed is a host and a port, divided by the last colon of
its address. If there is no host, the command is next sent to this port on the host that has
answered, and so on along any chain of such redirects. If there is a host, and it does not begin with
a colon, the command is next sent to the address as it is. After a `MOVED` the same is the known
owner of the slot, until a later one names another. -/
theorem redirects_lead_to_named_hosts (reachable : cluster.IsReachable world) (route : Route)
    (arguments : List Bytes) :
    let limit := cluster.configuration.maxRedirects.toNat + 1
    let ran := (cluster.execute route arguments).run world
    ∃ visits, IsItinerary cluster.configuration route arguments limit (cluster.firstTarget route)
        false world visits ran.1.1 ran.2 ∧
      (∀ visit ∈ visits, ∀ redirect, redirect? visit.reply = some redirect →
        ∃ host port, splitAtLastColon? redirect.address = some (host, port) ∧
          (host ≠ "" → host.toList.head? ≠ some ':' →
            redirect.destination visit.target = redirect.address) ∧
          (host = "" → ∀ here previous, splitAtLastColon? visit.target = some (here, previous) →
            redirect.destination visit.target = here ++ ":" ++ port)) ∧
      (∀ visit next, [visit, next] <:+: visits →
        ∃ redirect, redirect? visit.reply = some redirect ∧
          next.target = redirect.destination visit.target) ∧
      (∀ first rest, first :: rest <:+: visits →
        (∀ visit ∈ (first :: rest).dropLast, visit.StaysOnHost) →
          ∀ here previous, splitAtLastColon? first.target = some (here, previous) →
            ∀ visit ∈ rest, ∃ port, splitAtLastColon? visit.target = some (here, port)) ∧
      ∀ earlier visit later slot address, visits = earlier ++ visit :: later →
        redirect? visit.reply = some (.moved slot address) →
          (∀ other ∈ later, other.owner? slot = none) →
            ran.1.2.slotOwner? slot =
              some (Redirect.destination (.moved slot address) visit.target) := by
  intro limit ran
  rcases reachable.hasVisited with ⟨origin, before, visited, watched, _⟩
  have executed : (cluster.execute route arguments).run world = ((ran.1.1, ran.1.2), ran.2) := rfl
  rcases watched.executed visited reachable.isSound executed with
    ⟨visits, _, _, itinerary, learned⟩
  refine ⟨visits, itinerary, ?_, ?_, ?_, ?_⟩
  · intro visit _ redirect stated
    exact Redirect.destination_cases (colon_of_redirect? stated)
  · intro visit next successive
    have leads := List.IsChain.infix itinerary.continues successive
    rw [List.isChain_pair] at leads
    rcases leads with ⟨redirect, stated, target, _⟩
    exact ⟨redirect, stated, target⟩
  · intro first rest successive stay here previous splits
    have continues := List.IsChain.infix itinerary.continues successive
    exact Visit.sameHost_of_isChain continues stay splits
  · rintro earlier visit later slot address rfl stated silent
    have last : later.filterMap (Visit.owner? slot) = [] := List.filterMap_eq_nil_iff.mpr silent
    have named := Visit.owner?_of_moved stated
    rw [learned slot, List.filterMap_append, List.filterMap_cons_some named, last,
      List.getLast?_concat]
    rfl

/-- The seed answers `MOVED 1 :6`, and the port next to it `MOVED 1 [::1]:7`, where the reply is
`OK`. -/
theorem redirects_lead_to_named_hosts_literal :
    ∃ (cluster : Cluster) (world : World) (visits : List Visit), cluster.IsReachable world ∧
      ((cluster.execute (.slot 1) [[71]]).run world).1.1.toOption.bind Wire.Value.bytes? =
        some [79, 75] ∧
      ((cluster.execute (.slot 1) [[71]]).run world).1.2.slotOwner? 1 = some "[::1]:7" ∧
      (∀ visit next, [visit, next] <:+: visits →
        ∃ redirect, redirect? visit.reply = some redirect ∧
          next.target = redirect.destination visit.target) ∧
      visits.length ≤ 3 := by
  have created : create { nodes := ["1.2.3.4:5"], maxRedirects := 2 } =
      .ok ⟨{ nodes := ["1.2.3.4:5"], maxRedirects := 2 }, none, [], {}, List.cons_ne_nil _ _⟩ := rfl
  have reachable := IsReachable.created { nodes := [
    ("1.2.3.4:5", ⟨[], [.data [45, 77, 79, 86, 69, 68, 32, 49, 32, 58, 54, 13, 10] none], 0⟩),
    ("1.2.3.4:6", ⟨[], [.data [45, 77, 79, 86, 69, 68, 32, 49, 32, 91, 58, 58, 49, 93, 58, 55, 13,
      10] none], 0⟩),
    ("[::1]:7", ⟨[], [.data [43, 79, 75, 13, 10] none], 0⟩)] } created
  rcases redirects_lead_to_named_hosts reachable (.slot 1) [[71]] with
    ⟨visits, itinerary, _, continues, _⟩
  have bounded : visits.length ≤ 3 := by
    rcases itinerary.stops with ⟨all, _⟩ | ⟨within, _⟩
    · exact all.le
    · exact within
  exact ⟨_, _, visits, reachable, by decide +kernel, by decide +kernel, continues, bounded⟩

/-- A host that begins with a colon is not kept. The seed `1.2.3.4:5` answers `MOVED 1 ::1:6`, which
names the host `::1`, and the owner that is remembered is `1.2.3.4::1:6`. -/
theorem redirect_loses_host_beginning_with_colon :
    ∃ (cluster : Cluster) (world : World), cluster.IsReachable world ∧
      cluster.firstTarget (.slot 1) = "1.2.3.4:5" ∧
      splitAtLastColon? "::1:6" = some ("::1", "6") ∧
      redirect? ((cluster.send "1.2.3.4:5" false [[71]]).run world).1.1 = some (.moved 1 "::1:6") ∧
      ((cluster.execute (.slot 1) [[71]]).run world).1.2.slotOwner? 1 = some "1.2.3.4::1:6" := by
  have created : create { nodes := ["1.2.3.4:5"], maxRedirects := 0 } =
      .ok ⟨{ nodes := ["1.2.3.4:5"], maxRedirects := 0 }, none, [], {}, List.cons_ne_nil _ _⟩ := rfl
  have reachable := IsReachable.created { nodes := [("1.2.3.4:5",
    ⟨[], [.data [45, 77, 79, 86, 69, 68, 32, 49, 32, 58, 58, 49, 58, 54, 13, 10] none], 0⟩)] }
    created
  exact ⟨_, _, reachable, by decide +kernel, by decide +kernel, by decide +kernel,
    by decide +kernel⟩

end Cluster

end SlotClient
