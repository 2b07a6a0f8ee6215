import Mathlib.Data.List.Dedup
import SlotClient.Client.Cluster
import SlotClient.Proofs.Lookup

/-!
# Pools in order

The pools of a client are a map from addresses, which is gone through in an order that is not up to
the client. Whatever this order is, each pool is met once. Pools that are put back after that are
all pools of the client then, and their addresses stay where they were.
-/

namespace SlotClient

namespace Cluster

/-- The addresses under which a client has pools, in the order in which these were made. -/
def addresses (cluster : Cluster) : List String := cluster.pools.map Prod.fst

variable {cluster : Cluster} {pools rest others : List (String × Pool)}

theorem addresses_withPool (cluster : Cluster) (target : String) (pool : Pool) :
    (cluster.withPool target pool).addresses = cluster.addresses := by
  rw [addresses, addresses, Cluster.withPool, List.map_map]
  apply List.map_congr_left
  intro entry member
  dsimp only [Function.comp_apply]
  split
  · rename_i here
    exact here.symm
  · rfl

/-- All that is new in a client to which pools are put back is its pools. -/
theorem withPools_eq (cluster : Cluster) (pools : List (String × Pool)) :
    cluster.withPools pools = { cluster with pools := (cluster.withPools pools).pools } := by
  induction pools generalizing cluster with
  | nil => rfl
  | cons entry pools ih => exact ih (cluster.withPool entry.1 entry.2)

theorem addresses_withPools (cluster : Cluster) (pools : List (String × Pool)) :
    (cluster.withPools pools).addresses = cluster.addresses := by
  induction pools generalizing cluster with
  | nil => rfl
  | cons entry pools ih => exact (ih _).trans (cluster.addresses_withPool entry.1 entry.2)

theorem mem_of_mem_arranged {order : KeyOrder} {entry : String × Pool}
    (member : entry ∈ cluster.arranged order) : entry ∈ cluster.pools := by
  rcases List.mem_filterMap.mp member with ⟨address, _, found⟩
  rcases Option.map_eq_some_iff.mp found with ⟨pool, present, rfl⟩
  exact mem_of_lookup present

/-- Pools are met in the order of their addresses. -/
theorem map_fst_arranged (cluster : Cluster) (order : KeyOrder) :
    (cluster.arranged order).map Prod.fst = order.arrange cluster.addresses := by
  rw [arranged, List.map_filterMap]
  refine (List.filterMap_congr ?_).trans List.filterMap_some
  intro address member
  have present := (order.perm _).mem_iff.mp member
  rcases found : cluster.pools.lookup address with _ | pool
  · exact absurd present (lookup_eq_none_iff_notMem.mp found)
  · rfl

/-- Each pool is met once. -/
theorem perm_arranged (distinct : cluster.addresses.Nodup) (order : KeyOrder) :
    (cluster.arranged order).Perm cluster.pools := by
  have asAdded : (cluster.pools.map Prod.fst).filterMap (fun address =>
      (cluster.pools.lookup address).map fun pool => (address, pool)) = cluster.pools := by
    rw [List.filterMap_map]
    refine (List.filterMap_congr ?_).trans List.filterMap_some
    intro entry member
    rw [Function.comp_apply, (lookup_eq_some_iff_mem distinct).mpr member]
    rfl
  have arranged := (order.perm cluster.addresses).filterMap fun address =>
    (cluster.pools.lookup address).map fun pool => (address, pool)
  rwa [addresses, asAdded] at arranged

/-- Pools that are put back replace those for the same addresses, and no others. -/
theorem perm_pools_withPools (distinct : cluster.addresses.Nodup)
    (perm : cluster.pools.Perm (pools ++ others)) (same : rest.map Prod.fst = pools.map Prod.fst) :
    (cluster.withPools rest).pools.Perm (rest ++ others) := by
  induction rest generalizing cluster pools others with
  | nil =>
      rw [List.map_nil, eq_comm, List.map_eq_nil_iff] at same
      rw [same] at perm
      exact perm
  | cons entry rest ih =>
      rcases entry with ⟨address, pool⟩
      rcases pools with _ | ⟨⟨_, replaced⟩, pools⟩
      · cases same
      rw [List.map_cons, List.map_cons, List.cons.injEq] at same
      rcases same with ⟨rfl, same⟩
      have keys : (([] ++ (address, replaced) :: (pools ++ others)).map Prod.fst).Nodup :=
        (perm.map Prod.fst).nodup_iff.mp distinct
      have put := perm.map fun entry => if entry.1 = address then (address, pool) else entry
      have replaced := replace_append_cons keys pool
      rw [List.nil_append, List.nil_append] at replaced
      rw [List.cons_append, replaced] at put
      have distinctAfter : (cluster.withPool address pool).addresses.Nodup := by
        rw [addresses_withPool]
        exact distinct
      refine (ih distinctAfter (put.trans List.perm_middle.symm) same).trans ?_
      exact List.perm_middle

/-- After all pools have been put back, they are all pools that there are. -/
theorem perm_withPools_arranged (distinct : cluster.addresses.Nodup) {order : KeyOrder}
    (same : rest.map Prod.fst = (cluster.arranged order).map Prod.fst) :
    (cluster.withPools rest).pools.Perm rest := by
  have all := (perm_arranged distinct order).symm
  rw [← List.append_nil (cluster.arranged order)] at all
  have put := perm_pools_withPools distinct all same
  rwa [List.append_nil] at put

/-- There is only one order for a single pool. -/
theorem arranged_of_single (cluster : Cluster) {address : String} {pool : Pool}
    (single : cluster.pools = [(address, pool)]) (order : KeyOrder) :
    cluster.arranged order = [(address, pool)] := by
  have distinct : cluster.addresses.Nodup := by
    rw [addresses, single]
    exact List.nodup_singleton _
  have perm := perm_arranged distinct order
  rw [single] at perm
  exact List.perm_singleton.mp perm

end Cluster

end SlotClient
