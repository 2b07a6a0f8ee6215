import SlotClient.Pool.Desk
import SlotClient.Proofs.Lookup
import SlotClient.Proofs.Pool.Operations

/-!
# Sessions of a desk

A session is a desk on a network together with the requests that it has served and its answers. It
begins with a pool without connections, and each request that it serves is a sequence of steps of
the desk's pool, where the connections outside the queue are those that are held.
-/

namespace SlotClient

open Lending (Steps IsBalanced)

namespace Desk

def leases (held : List (String × Lease)) : Multiset Lease := (held.map Prod.snd : List Lease)

/-- The pool of a desk with the connections that are held. -/
def lending (desk : Desk) (world : World) : Lending := ⟨desk.pool, leases desk.held, world⟩

/-- No name holds two connections. -/
def HasDistinctHolders (desk : Desk) : Prop := (desk.held.map Prod.fst).Nodup

theorem leases_cons (holder : String) (lease : Lease) (held : List (String × Lease)) :
    leases ((holder, lease) :: held) = lease ::ₘ leases held :=
  rfl

variable {desk after : Desk} {world final : World} {holder : String}

theorem leases_others {lease : Lease} (distinct : desk.HasDistinctHolders)
    (holds : desk.held.lookup holder = some lease) :
    leases desk.held = lease ::ₘ leases (desk.others holder) := by
  have permuted := (perm_cons_filter_ne distinct holds).map Prod.snd
  exact Multiset.coe_eq_coe.mpr permuted

theorem others_of_lookup_none (missing : desk.held.lookup holder = none) :
    desk.others holder = desk.held := by
  unfold others
  rw [List.filter_eq_self]
  intro entry member
  have different : holder ≠ entry.1 := by
    simpa using List.lookup_eq_none_iff.mp missing entry member
  exact bne_iff_ne.mpr different.symm

theorem distinct_others_cons (distinct : desk.HasDistinctHolders) (lease : Lease) :
    (((holder, lease) :: desk.others holder).map Prod.fst).Nodup := by
  rw [List.map_cons, List.nodup_cons]
  refine ⟨?_, distinct.sublist (List.filter_sublist.map _)⟩
  intro member
  rcases List.mem_map.mp member with ⟨entry, kept, same⟩
  have different := (List.mem_filter.mp kept).2
  simp [same] at different

/-- Taking back what a holder has leaves the connections of the other holders. -/
theorem held_release {wasHeld : Bool}
    (ran : (desk.release holder).run world = ((wasHeld, after), final)) :
    after.held = desk.others holder := by
  unfold release at ran
  rcases holds : desk.held.lookup holder with _ | lease
  · rw [holds] at ran
    cases ran
    exact (others_of_lookup_none holds).symm
  · rw [holds] at ran
    cases ran
    rfl

theorem steps_release (out : Multiset Lease) (distinct : desk.HasDistinctHolders)
    (balanced : IsBalanced ⟨desk.pool, leases desk.held + out, world⟩) {wasHeld : Bool}
    (ran : (desk.release holder).run world = ((wasHeld, after), final)) :
    Steps ⟨desk.pool, leases desk.held + out, world⟩
      ⟨after.pool, leases after.held + out, final⟩ := by
  unfold release at ran
  rcases holds : desk.held.lookup holder with _ | lease
  · rw [holds] at ran
    cases ran
    exact Relation.ReflTransGen.refl
  · rw [holds] at ran
    rcases Action.bind_cases ran with ⟨pool, last, released, ran⟩
    cases ran
    rw [leases_others distinct holds, Multiset.cons_add] at balanced ⊢
    exact Pool.steps_release desk.pool _ balanced.counted released

/-- What comes of serving a request, with the desk and the world that are left. -/
inductive Serves (desk : Desk) (world : World) : Request → Answer → Desk → World → Prop
  | lent {holder : String} {lease : Lease} {pool : Pool} {wasHeld : Bool} {rest : Desk}
      {there final : World}
      (acquires : Pool.Acquires desk.pool world (.ok lease) pool there)
      (released : (release { desk with pool } holder).run there = ((wasHeld, rest), final)) :
      Serves desk world (.acquire holder) (.done (.ok ()))
        { rest with held := (holder, lease) :: rest.held } final
  | notLent {holder : String} {failure : Failure} {pool : Pool} {final : World}
      (acquires : Pool.Acquires desk.pool world (.error failure) pool final) :
      Serves desk world (.acquire holder) (.done (.error failure)) { desk with pool } final
  | notHeld {holder : String} {arguments : List Bytes}
      (missing : desk.held.lookup holder = none) :
      Serves desk world (.exchange holder arguments) .notHeld desk world
  | exchanged {holder : String} {arguments : List Bytes} {lease used : Lease}
      {reply : Except Failure Wire.Value} {final : World}
      (holds : desk.held.lookup holder = some lease)
      (exchange : (lease.exchange arguments).run world = ((reply, used), final)) :
      Serves desk world (.exchange holder arguments) (.reply reply)
        { desk with held := (holder, used) :: desk.others holder } final
  | released {holder : String} {wasHeld : Bool} {rest : Desk} {final : World}
      (released : (desk.release holder).run world = ((wasHeld, rest), final)) :
      Serves desk world (.release holder) (.released wasHeld) rest final
  | rotated (password : Option String) :
      Serves desk world (.setPassword password) (.done (.ok ()))
        { desk with pool := desk.pool.setPassword password } world
  | authenticated {outcome : Except Failure Unit} {pool : Pool} {final : World}
      (authenticated : desk.pool.reauthenticate.run world = ((outcome, pool), final)) :
      Serves desk world .reauthenticate (.done outcome) { desk with pool } final

theorem serves {request : Request} {answer : Answer}
    (ran : (desk.serve request).run world = ((answer, after), final)) :
    Serves desk world request answer after final := by
  cases request with
  | acquire holder =>
      rcases Action.bind_cases ran with ⟨⟨failure | lease, pool⟩, there, acquired, ran⟩
      · cases ran
        exact .notLent (Pool.acquires acquired)
      · rcases Action.bind_cases ran with ⟨⟨wasHeld, rest⟩, last, released, ran⟩
        cases ran
        exact .lent (Pool.acquires acquired) released
  | exchange holder arguments =>
      simp only [serve] at ran
      rcases holds : desk.held.lookup holder with _ | lease
      · rw [holds] at ran
        cases ran
        exact .notHeld holds
      · rw [holds] at ran
        rcases Action.bind_cases ran with ⟨⟨reply, used⟩, last, exchange, ran⟩
        cases ran
        exact .exchanged holds exchange
  | release holder =>
      rcases Action.bind_cases ran with ⟨⟨wasHeld, rest⟩, last, released, ran⟩
      cases ran
      exact .released released
  | setPassword password =>
      cases ran
      exact .rotated password
  | reauthenticate =>
      rcases Action.bind_cases ran with ⟨⟨outcome, pool⟩, last, authenticated, ran⟩
      cases ran
      exact .authenticated authenticated

/-- Serving a request is a sequence of steps of the pool. -/
theorem steps_serve {request : Request} {answer : Answer} (distinct : desk.HasDistinctHolders)
    (balanced : (desk.lending world).IsBalanced)
    (serves : Serves desk world request answer after final) :
    after.HasDistinctHolders ∧ Steps (desk.lending world) (after.lending final) := by
  cases serves with
  | @lent holder lease pool wasHeld rest there final acquires released =>
      have steps := Pool.steps_acquire_ok (leases desk.held) acquires
      have lent := steps.isBalanced balanced
      rw [← Multiset.singleton_add, Multiset.add_comm] at steps lent
      have same : HasDistinctHolders { desk with pool } := distinct
      have more := steps_release {lease} same lent released
      rw [Multiset.add_comm (leases rest.held), Multiset.singleton_add,
        ← leases_cons holder] at more
      refine ⟨?_, steps.trans more⟩
      unfold HasDistinctHolders
      rw [held_release released]
      exact distinct_others_cons distinct lease
  | notLent acquires => exact ⟨distinct, Pool.steps_acquire_error _ acquires⟩
  | notHeld missing => exact ⟨distinct, Relation.ReflTransGen.refl⟩
  | exchanged holds exchange =>
      refine ⟨distinct_others_cons distinct _, ?_⟩
      unfold lending
      rw [leases_others distinct holds, leases_cons]
      exact Relation.ReflTransGen.single (Lending.Step.exchanged exchange)
  | released released =>
      rw [lending, ← Multiset.add_zero (leases desk.held)] at balanced
      have steps := steps_release 0 distinct balanced released
      rw [Multiset.add_zero, Multiset.add_zero] at steps
      refine ⟨?_, steps⟩
      unfold HasDistinctHolders
      rw [held_release released]
      exact distinct.sublist (List.filter_sublist.map _)
  | rotated password =>
      exact ⟨distinct, Relation.ReflTransGen.single (Lending.Step.rotated password)⟩
  | authenticated authenticated =>
      exact ⟨distinct, Pool.steps_reauthenticate _ balanced authenticated⟩

end Desk

/-- A desk on a network, with the requests that it has served and its answers to them. -/
structure Session where
  desk : Desk
  world : World
  served : List (Desk.Request × Desk.Answer) := []

namespace Session

/-- The beginning of a session: a pool without connections, and a network on which nothing has been
done yet. -/
def create (settings : PoolSettings) (password : Option String)
    (hosts : List (String × List IpAddress)) (nodes : List (String × Node)) : Session where
  desk := { pool := Pool.create settings password }
  world := { hosts, nodes }

def serve (session : Session) (request : Desk.Request) : Session :=
  let ((answer, desk), world) := (session.desk.serve request).run session.world
  { desk, world, served := session.served ++ [(request, answer)] }

/-- The session after requests, one after the other. -/
def run (session : Session) (requests : List Desk.Request) : Session :=
  requests.foldl serve session

def lending (session : Session) : Lending := session.desk.lending session.world

theorem steps_serve {session : Session} (distinct : session.desk.HasDistinctHolders)
    (balanced : session.lending.IsBalanced) (request : Desk.Request) :
    (session.serve request).desk.HasDistinctHolders ∧
      Steps session.lending (session.serve request).lending :=
  Desk.steps_serve distinct balanced (Desk.serves rfl)

theorem steps_run {session : Session} (distinct : session.desk.HasDistinctHolders)
    (balanced : session.lending.IsBalanced) (requests : List Desk.Request) :
    (session.run requests).desk.HasDistinctHolders ∧
      Steps session.lending (session.run requests).lending := by
  induction requests generalizing session with
  | nil => exact ⟨distinct, Relation.ReflTransGen.refl⟩
  | cons request requests ih =>
      rcases steps_serve distinct balanced request with ⟨stillDistinct, steps⟩
      rcases ih stillDistinct (steps.isBalanced balanced) with ⟨finallyDistinct, more⟩
      exact ⟨finallyDistinct, steps.trans more⟩

/-- Every session is a sequence of steps of its pool from the beginning. -/
theorem steps_create_run (settings : PoolSettings) (password : Option String)
    (hosts : List (String × List IpAddress)) (nodes : List (String × Node))
    (requests : List Desk.Request) :
    ((create settings password hosts nodes).run requests).desk.HasDistinctHolders ∧
      Steps (create settings password hosts nodes).lending
        ((create settings password hosts nodes).run requests).lending := by
  have distinct : (create settings password hosts nodes).desk.HasDistinctHolders := List.nodup_nil
  exact steps_run distinct rfl requests

end Session

end SlotClient
