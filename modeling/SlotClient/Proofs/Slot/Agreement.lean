import SlotClient.Proofs.Slot.Route
import SlotClient.Proofs.Slot.Tag

/-!
# Keys that agree on a slot

The slot of several keys is found by comparing each of them with the first, and the first one that
differs is told. Whether there is such a key does not depend on the order of the keys, nor on how
often each of them is given: the keys agree if there is but one slot that any of them lies in. Only
the conflict that is told depends on their order.
-/

namespace SlotClient.Slot

variable {keys others : List Bytes}

/-- Keys are refused if one of them differs from the first, with the first that does. -/
theorem common?_eq_error_iff {violation : Violation} : common? keys = .error violation ↔
    ∃ first agreeing conflicting rest, keys = first :: agreeing ++ conflicting :: rest ∧
      (∀ key ∈ agreeing, ofKey key = ofKey first) ∧ ofKey conflicting ≠ ofKey first ∧
      violation = .crossSlot (ofKey first) (ofKey conflicting) := by
  constructor
  · intro refused
    rcases keys with _ | ⟨first, others⟩
    · cases refused
    rw [common?, List.find?_map] at refused
    split at refused
    · cases refused
    · rename_i told
      cases refused
      rcases Option.map_eq_some_iff.mp told with ⟨conflicting, found, rfl⟩
      rcases List.find?_eq_some_iff_append.mp found with ⟨differs, agreeing, rest, rfl, agree⟩
      refine ⟨first, agreeing, conflicting, rest, rfl, ?_, by simpa using differs, rfl⟩
      intro key member
      simpa using agree key member
  · rintro ⟨first, agreeing, conflicting, rest, rfl, agree, differs, rfl⟩
    have found : ((agreeing ++ conflicting :: rest).map ofKey).find? (· != ofKey first) =
        some (ofKey conflicting) := by
      rw [List.map_append, List.find?_append, find?_ne_eq_none.mpr agree]
      simp [differs]
    rw [List.cons_append, common?]
    simp only [found]

/-- What is found for keys that are not refused depends on nothing but which slots they lie in. -/
theorem common?_eq_ok_of_subset (within : keys.map ofKey ⊆ others.map ofKey)
    (covered : others.map ofKey ⊆ keys.map ofKey) {slot? : Option Slot}
    (found : common? keys = .ok slot?) : common? others = .ok slot? := by
  rcases slot? with _ | slot
  · rw [common?_eq_none_iff.mp found, List.map_nil, List.subset_nil, List.map_eq_nil_iff] at covered
    exact common?_eq_none_iff.mpr covered
  · rcases common?_eq_some_iff.mp found with ⟨nonempty, shared⟩
    refine common?_eq_some_iff.mpr ⟨?_, ?_⟩
    · rintro rfl
      rw [List.map_nil, List.subset_nil, List.map_eq_nil_iff] at within
      exact nonempty within
    · intro key member
      rcases List.mem_map.mp (covered (List.mem_map_of_mem member)) with ⟨twin, twinMem, same⟩
      rw [← same, shared twin twinMem]

theorem ofKey_hashTag (key : Bytes) : ofKey (hashTag key) = ofKey key := by
  rw [ofKey, hashTag_hashTag, ofKey]

/-- Keys may be replaced by their tags. -/
theorem map_ofKey_of_tags
    (replaced : List.Forall₂ (fun key other => other = key ∨ other = hashTag key) keys others) :
    others.map ofKey = keys.map ofKey := by
  induction replaced with
  | nil => rfl
  | cons first rest ih =>
      rw [List.map_cons, List.map_cons, ih]
      rcases first with rfl | rfl
      · rfl
      · rw [ofKey_hashTag]

/-- Keys have a slot in common exactly if there is a key and all of them lie in this slot. Otherwise
they are refused with the slot of the first key and that of the earliest one that differs, unless
there is no key. The same keys in another order, or given several times, are accepted or refused
alike and have the same slot in common, and so are keys some of which are replaced by their tags. -/
theorem keys_agree_on_slots :
    (∀ keys : List Bytes, common? keys = .ok none ↔ keys = []) ∧
    (∀ (keys : List Bytes) (slot : Slot),
      common? keys = .ok (some slot) ↔ keys ≠ [] ∧ ∀ key ∈ keys, ofKey key = slot) ∧
    (∀ (keys : List Bytes) (violation : Violation), common? keys = .error violation ↔
      ∃ first agreeing conflicting rest, keys = first :: agreeing ++ conflicting :: rest ∧
        (∀ key ∈ agreeing, ofKey key = ofKey first) ∧ ofKey conflicting ≠ ofKey first ∧
        violation = .crossSlot (ofKey first) (ofKey conflicting)) ∧
    (∀ keys others : List Bytes, (∀ key, key ∈ keys ↔ key ∈ others) →
      ∀ slot?, common? keys = .ok slot? ↔ common? others = .ok slot?) ∧
    ∀ keys others : List Bytes,
      List.Forall₂ (fun key other => other = key ∨ other = hashTag key) keys others →
      common? others = common? keys := by
  refine ⟨fun _ => common?_eq_none_iff, fun _ _ => common?_eq_some_iff,
    fun _ _ => common?_eq_error_iff, ?_, ?_⟩
  · intro keys others same slot?
    have within : keys.map ofKey ⊆ others.map ofKey :=
      List.map_subset ofKey fun key => (same key).mp
    have covered : others.map ofKey ⊆ keys.map ofKey :=
      List.map_subset ofKey fun key => (same key).mpr
    exact ⟨common?_eq_ok_of_subset within covered, common?_eq_ok_of_subset covered within⟩
  · intro keys others replaced
    exact common?_congr (map_ofKey_of_tags replaced)

/-- Keys with the tag `a`: in another order and twice, replaced by it, and before keys that differ. -/
theorem keys_agree_on_slots_tagged :
    common? [[123, 97, 125, 49], [123, 97, 125, 50]] = .ok (some 15495) ∧
      common? [[123, 97, 125, 50], [123, 97, 125, 49], [123, 97, 125, 50]] = .ok (some 15495) ∧
      common? [[97], [123, 97, 125, 50]] = .ok (some 15495) ∧
      common? [[97], [123, 97, 125, 50], [98], [99]] = .error (.crossSlot 15495 3300) := by
  rcases keys_agree_on_slots with ⟨_, accepted, refused, reordered, replaced⟩
  have slots : ofKey [97] = 15495 ∧ ofKey [98] = 3300 := by decide +kernel
  have first : hashTag [123, 97, 125, 49] = [97] := by decide
  have inFirst : ofKey [123, 97, 125, 49] = ofKey [97] := by rw [← ofKey_hashTag, first]
  have inSecond : ofKey [123, 97, 125, 50] = ofKey [97] := (ofKey_hashTag _).symm
  have found : common? [[123, 97, 125, 49], [123, 97, 125, 50]] = .ok (some 15495) := by
    refine (accepted _ _).mpr ⟨List.cons_ne_nil _ _, ?_⟩
    simp [inFirst, inSecond, slots]
  refine ⟨found, (reordered _ _ ?_ _).mp found, ?_, ?_⟩
  · intro key
    refine ⟨List.mem_cons_of_mem _, fun member => ?_⟩
    rcases List.mem_cons.mp member with rfl | member
    · exact List.mem_cons_of_mem _ List.mem_cons_self
    · exact member
  · rw [replaced _ _ (.cons (Or.inr first.symm) (.cons (Or.inl rfl) .nil)), found]
  · rw [refused]
    refine ⟨[97], [[123, 97, 125, 50]], [98], [[99]], rfl, ?_, ?_, ?_⟩
    · exact List.forall_mem_singleton.mpr inSecond
    · rw [slots.1, slots.2]
      decide
    · rw [slots.1, slots.2]

end SlotClient.Slot
