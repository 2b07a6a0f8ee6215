import Mathlib.Data.Multiset.Basic
import Mathlib.Data.Multiset.MapFold
import Mathlib.Logic.Relation
import SlotClient.Pool.Basic
import SlotClient.Proofs.Network.Handshake

/-!
# What pools do with connections

Whatever is asked of a pool, a connection is only ever opened, used, put into the queue, taken from
it, or closed. `Lending.Step` lists these steps, for a pool together with all connections that are
outside its queue: those that are lent out, those that are getting ready for their first use, and
those that have been taken out to be authenticated again.

Every operation of a pool is a sequence of such steps, so a property of pools that each step keeps
is kept by every operation. The step that closes a connection asks for one that is counted. That it
can always be taken is not assumed but follows from the balance of the pool: the count is that of
the connections in the queue and outside it.
-/

namespace SlotClient

open Wire (Value)

namespace Pool

variable {pool rest grown : Pool} {connection : Connection}

theorem takeIdle?_eq_some (first : pool.takeIdle? = some (connection, rest)) :
    pool = { rest with idle := connection :: rest.idle } := by
  unfold takeIdle? at first
  split at first
  · contradiction
  · rename_i idle shape
    cases first
    rw [← shape]

theorem reserve?_eq_some (reserved : pool.reserve? = some grown) :
    pool.total < pool.settings.maxTotal.toNat ∧ grown = { pool with total := pool.total + 1 } := by
  unfold reserve? at reserved
  split at reserved
  · rename_i room
    cases reserved
    exact ⟨room, rfl⟩
  · contradiction

end Pool

/-- A pool, the connections outside its queue, and the world in which they are. -/
structure Lending where
  pool : Pool
  out : Multiset Lease
  world : World

namespace Lending

/-- What can be done with the connections of a pool. -/
inductive Step : Lending → Lending → Prop
  | noted {pool : Pool} {out : Multiset Lease} {world : World} (entry : LogEntry) :
      Step ⟨pool, out, world⟩ ⟨pool, out, world.logged entry⟩
  | rotated {pool : Pool} {out : Multiset Lease} {world : World} (password : Option String) :
      Step ⟨pool, out, world⟩ ⟨pool.setPassword password, out, world⟩
  | taken {pool rest : Pool} {connection : Connection} {out : Multiset Lease} {world : World}
      (first : pool.takeIdle? = some (connection, rest)) :
      Step ⟨pool, out, world⟩ ⟨rest, { connection } ::ₘ out, world⟩
  | refused {pool : Pool} {out : Multiset Lease} {world after : World} {socket : SocketAddress}
      {fault : TransportFault}
      (resolved : SocketAddress.resolve? world.hosts pool.address = some socket)
      (attempt : (Connection.establish socket.text pool.settings.connections.connectTimeout).run
        world = (.error fault, after)) :
      Step ⟨pool, out, world⟩ ⟨pool, out, after⟩
  | opened {pool grown : Pool} {connection : Connection} {out : Multiset Lease}
      {world after : World} {socket : SocketAddress} (reserved : pool.reserve? = some grown)
      (resolved : SocketAddress.resolve? world.hosts pool.address = some socket)
      (attempt : (Connection.establish socket.text pool.settings.connections.connectTimeout).run
        world = (.ok connection, after)) :
      Step ⟨pool, out, world⟩ ⟨grown, { connection } ::ₘ out, after⟩
  | configured {pool : Pool} {lease : Lease} {out : Multiset Lease} {world : World}
      {activity : Activity} (setting : activity.isSetting = true) :
      Step ⟨pool, lease ::ₘ out, world⟩
        ⟨pool, lease ::ₘ out,
          world.recorded lease.connection.address (some lease.connection.number) activity⟩
  | exchanged {pool : Pool} {lease used : Lease} {out : Multiset Lease} {world after : World}
      {arguments : List Bytes} {reply : Except Failure Value}
      (exchange : (lease.exchange arguments).run world = ((reply, used), after)) :
      Step ⟨pool, lease ::ₘ out, world⟩ ⟨pool, used ::ₘ out, after⟩
  | kept {pool : Pool} {lease : Lease} {out : Multiset Lease} {world : World}
      (intact : lease.isIntact = true) (room : pool.hasRoom = true) :
      Step ⟨pool, lease ::ₘ out, world⟩
        ⟨{ pool with idle := pool.idle ++ [lease.connection] }, out, world⟩
  | closed {pool : Pool} {lease : Lease} {out : Multiset Lease} {world : World}
      (counted : 0 < pool.total) :
      Step ⟨pool, lease ::ₘ out, world⟩
        ⟨pool.unreserve, out,
          world.recorded lease.connection.address (some lease.connection.number) .close⟩

/-- Any number of steps. -/
abbrev Steps : Lending → Lending → Prop := Relation.ReflTransGen Step

/-- What every step keeps, any number of steps keep. -/
theorem Steps.preserve {Invariant : Lending → Prop}
    (kept : ∀ {before after : Lending}, Step before after → Invariant before → Invariant after)
    {before after : Lending} (steps : Steps before after) (holds : Invariant before) :
    Invariant after := by
  induction steps with
  | refl => exact holds
  | tail _ step ih => exact kept step ih

/-- The count of the pool is that of the connections in its queue and outside it. -/
def IsBalanced (lending : Lending) : Prop :=
  lending.pool.total = lending.pool.idle.length + lending.out.card

theorem Step.isBalanced {before after : Lending} (step : Step before after)
    (balanced : before.IsBalanced) : after.IsBalanced := by
  unfold IsBalanced at balanced ⊢
  cases step with
  | noted entry => exact balanced
  | rotated password => exact balanced
  | taken first =>
      rw [Pool.takeIdle?_eq_some first] at balanced
      simp only [List.length_cons, Multiset.card_cons] at balanced ⊢
      omega
  | refused resolved attempt => exact balanced
  | opened reserved resolved attempt =>
      rcases Pool.reserve?_eq_some reserved with ⟨_, rfl⟩
      simp only [Multiset.card_cons] at balanced ⊢
      omega
  | configured setting => exact balanced
  | exchanged exchange =>
      simpa only [Multiset.card_cons] using balanced
  | kept intact room =>
      simp only [Multiset.card_cons, List.length_append, List.length_cons,
        List.length_nil] at balanced ⊢
      omega
  | closed counted =>
      simp only [Multiset.card_cons, Pool.unreserve] at balanced ⊢
      omega

theorem Steps.isBalanced {before after : Lending} (steps : Steps before after)
    (balanced : before.IsBalanced) : after.IsBalanced :=
  steps.preserve Step.isBalanced balanced

/-- In a balanced pool a connection outside the queue is counted. -/
theorem IsBalanced.counted {pool : Pool} {lease : Lease} {out : Multiset Lease} {world : World}
    (balanced : IsBalanced ⟨pool, lease ::ₘ out, world⟩) : 0 < pool.total := by
  unfold IsBalanced at balanced
  simp only [Multiset.card_cons] at balanced
  omega

end Lending

end SlotClient
