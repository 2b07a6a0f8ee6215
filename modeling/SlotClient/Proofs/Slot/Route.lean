import Mathlib.Data.List.Basic
import SlotClient.Slot.Route

/-!
# Keys that share a slot

Keys are routed by slot exactly if they all lie in one, and then to this slot, or anywhere if there
are none.
-/

namespace SlotClient

/-- All keys lie in one slot. -/
def Slot.AreShared (keys : List Bytes) : Prop := ∃ slot, ∀ key ∈ keys, Slot.ofKey key = slot

namespace Slot

theorem find?_ne_eq_none {keys : List Bytes} {slot : Slot} :
    (keys.map ofKey).find? (· != slot) = none ↔ ∀ key ∈ keys, ofKey key = slot := by
  simp [List.find?_eq_none]

/-- A slot is found for keys if all of them lie in it. -/
theorem common?_eq_some_iff {keys : List Bytes} {slot : Slot} :
    common? keys = .ok (some slot) ↔ keys ≠ [] ∧ ∀ key ∈ keys, ofKey key = slot := by
  rcases keys with _ | ⟨key, others⟩
  · simp [common?]
  · rw [common?, List.forall_mem_cons]
    rcases conflict : (others.map ofKey).find? (· != ofKey key) with _ | conflicting
    · have shared := find?_ne_eq_none.mp conflict
      simp only [Except.ok.injEq, Option.some.injEq]
      constructor
      · rintro rfl
        exact ⟨List.cons_ne_nil key others, rfl, shared⟩
      · exact fun within => within.2.1
    · simp only [reduceCtorEq, false_iff]
      rintro ⟨_, rfl, shared⟩
      rw [find?_ne_eq_none.mpr shared] at conflict
      contradiction

theorem common?_eq_none_iff {keys : List Bytes} : common? keys = .ok none ↔ keys = [] := by
  rcases keys with _ | ⟨key, others⟩
  · simp [common?]
  · rw [common?]
    split <;> simp

theorem areShared_iff {keys : List Bytes} :
    AreShared keys ↔ ∃ slot?, common? keys = .ok slot? := by
  constructor
  · rintro ⟨slot, shared⟩
    by_cases empty : keys = []
    · exact ⟨none, common?_eq_none_iff.mpr empty⟩
    · exact ⟨some slot, common?_eq_some_iff.mpr ⟨empty, shared⟩⟩
  · rintro ⟨_ | slot, found⟩
    · rw [common?_eq_none_iff.mp found]
      exact ⟨0, List.forall_mem_nil _⟩
    · exact ⟨slot, (common?_eq_some_iff.mp found).2⟩

/-- The slots of keys are all that is known of them where conflicts between them are told. -/
theorem common?_congr {keys twins : List Bytes} (same : twins.map ofKey = keys.map ofKey) :
    common? twins = common? keys := by
  rcases keys with _ | ⟨key, others⟩
  · rw [List.map_nil, List.map_eq_nil_iff] at same
    rw [same]
  · rcases twins with _ | ⟨twin, otherTwins⟩
    · cases same
    · rw [List.map_cons, List.map_cons, List.cons.injEq] at same
      rw [common?, common?, same.1, same.2]

end Slot

namespace RoutingPolicy

/-- Keys are routed to the slot that all of them lie in, and anywhere if there are none. -/
theorem route_bySlot_eq_ok_iff {keys : List Bytes} {route : Route} :
    bySlot.route keys = .ok route ↔
      (route = .anywhere ↔ keys = []) ∧
        ∀ key ∈ keys, route = .slot (Slot.ofKey key) := by
  constructor
  · intro routed
    rcases found : Slot.common? keys with violation | slot?
    · rw [RoutingPolicy.route, found] at routed
      cases routed
    · rw [RoutingPolicy.route, found] at routed
      rcases slot? with _ | slot
      · cases routed
        cases Slot.common?_eq_none_iff.mp found
        exact ⟨iff_of_true rfl rfl, List.forall_mem_nil _⟩
      · cases routed
        rcases Slot.common?_eq_some_iff.mp found with ⟨nonempty, shared⟩
        exact ⟨iff_of_false nofun nonempty, fun key member => by rw [shared key member]⟩
  · rintro ⟨nowhere, shared⟩
    rcases route with _ | slot
    · rw [nowhere.mp rfl]
      rfl
    · have nonempty : keys ≠ [] := fun empty => nomatch nowhere.mpr empty
      have found : Slot.common? keys = .ok (some slot) := by
        refine Slot.common?_eq_some_iff.mpr ⟨nonempty, fun key member => ?_⟩
        exact (Route.slot.inj (shared key member)).symm
      rw [RoutingPolicy.route, found]
      rfl

theorem route_bySlot_isOk_iff {keys : List Bytes} :
    (∃ route, bySlot.route keys = .ok route) ↔ Slot.AreShared keys := by
  rw [Slot.areShared_iff, RoutingPolicy.route]
  rcases Slot.common? keys with violation | slot?
  · simp [Except.map]
  · simp [Except.map]

end RoutingPolicy

end SlotClient
