import SlotClient.Proofs.Delimiter
import SlotClient.Slot.Basic

/-!
# Tags of keys

A key is tagged if something stands between its first opening brace and the next closing one. That
is its tag, whatever other braces the key holds; every other key is its own tag. A tag is not tagged
itself, so that it lies in the slot of its key.
-/

namespace SlotClient.Slot

/-- Something stands between the first opening brace of a key and the next closing one. -/
def IsTagged (key : Bytes) : Prop :=
  ∃ before tag after, openingBrace ∉ before ∧ tag ≠ [] ∧ closingBrace ∉ tag ∧
    key = before ++ openingBrace :: tag ++ closingBrace :: after

variable {key before tag after inside : Bytes}

theorem hashTag_of_unopened (unopened : openingBrace ∉ key) : hashTag key = key := by
  simp only [hashTag, dropWhile_ne_of_notMem unopened]

/-- Behind the first opening brace the tag ends at the next closing one, if there is one. -/
theorem hashTag_of_opened (first : openingBrace ∉ before) :
    hashTag (before ++ openingBrace :: inside) =
      let tag := inside.takeWhile (· != closingBrace)
      if tag.isEmpty || tag.length = inside.length then before ++ openingBrace :: inside
      else tag := by
  simp only [hashTag, dropWhile_ne_append_cons first]

theorem hashTag_of_unclosed (first : openingBrace ∉ before) (unclosed : closingBrace ∉ inside) :
    hashTag (before ++ openingBrace :: inside) = before ++ openingBrace :: inside := by
  simp [hashTag_of_opened first, takeWhile_ne_of_notMem unclosed]

theorem hashTag_of_empty (first : openingBrace ∉ before) (after : Bytes) :
    hashTag (before ++ openingBrace :: closingBrace :: after) =
      before ++ openingBrace :: closingBrace :: after := by
  simp [hashTag_of_opened first]

theorem hashTag_of_tag (first : openingBrace ∉ before) (nonempty : tag ≠ [])
    (next : closingBrace ∉ tag) (after : Bytes) :
    hashTag (before ++ openingBrace :: tag ++ closingBrace :: after) = tag := by
  rw [List.append_assoc, List.cons_append, hashTag_of_opened first]
  simp [takeWhile_ne_append_cons next, nonempty]

/-- A key is its own tag if it has no opening brace, no closing one behind the first opening one, or
nothing between the two. -/
theorem hashTag_of_untagged (untagged : openingBrace ∉ key ∨
    ∃ before inside, openingBrace ∉ before ∧ key = before ++ openingBrace :: inside ∧
      (closingBrace ∉ inside ∨ ∃ after, inside = closingBrace :: after)) : hashTag key = key := by
  rcases untagged with unopened | ⟨before, inside, first, rfl, unclosed | ⟨after, rfl⟩⟩
  · exact hashTag_of_unopened unopened
  · exact hashTag_of_unclosed first unclosed
  · exact hashTag_of_empty first after

/-- A key that is tagged is longer than its tag. -/
theorem hashTag_ne_of_isTagged (tagged : IsTagged key) : hashTag key ≠ key := by
  rcases tagged with ⟨before, tag, after, first, nonempty, next, rfl⟩
  intro same
  have lengths := congrArg List.length same
  rw [hashTag_of_tag first nonempty next] at lengths
  simp only [List.length_append, List.length_cons] at lengths
  omega

theorem not_isTagged_iff :
    ¬IsTagged key ↔ openingBrace ∉ key ∨
      ∃ before inside, openingBrace ∉ before ∧ key = before ++ openingBrace :: inside ∧
        (closingBrace ∉ inside ∨ ∃ after, inside = closingBrace :: after) := by
  constructor
  · intro untagged
    by_cases opened : openingBrace ∈ key
    · rcases List.eq_append_cons_of_mem opened with ⟨before, inside, rfl, first⟩
      refine Or.inr ⟨before, inside, first, rfl, ?_⟩
      by_cases closed : closingBrace ∈ inside
      · rcases List.eq_append_cons_of_mem closed with ⟨tag, after, rfl, next⟩
        rcases tag with _ | ⟨byte, tag⟩
        · exact Or.inr ⟨after, rfl⟩
        · refine absurd ⟨before, byte :: tag, after, first, List.cons_ne_nil _ _, next, ?_⟩ untagged
          simp
      · exact Or.inl closed
    · exact Or.inl opened
  · exact fun untagged tagged => hashTag_ne_of_isTagged tagged (hashTag_of_untagged untagged)

/-- The tag of a tag is the tag itself, because it has no closing brace. -/
theorem hashTag_hashTag (key : Bytes) : hashTag (hashTag key) = hashTag key := by
  by_cases tagged : IsTagged key
  · rcases tagged with ⟨before, tag, after, first, nonempty, next, rfl⟩
    rw [hashTag_of_tag first nonempty next]
    apply hashTag_of_untagged
    rw [← not_isTagged_iff]
    rintro ⟨_, _, _, _, _, _, rfl⟩
    simp at next
  · have own := hashTag_of_untagged (not_isTagged_iff.mp tagged)
    rw [own, own]

/-- What stands between the first opening brace and the next closing one decides the slot, whatever
other braces the key holds. A key that is not tagged in this way is its own tag, even if braces with
something between them follow. A tag is its own tag, so a key lies in the slot of its tag. -/
theorem tags_share_slots :
    (∀ before tag after : Bytes, openingBrace ∉ before → tag ≠ [] → closingBrace ∉ tag →
      hashTag (before ++ openingBrace :: tag ++ closingBrace :: after) = tag ∧
        ofKey (before ++ openingBrace :: tag ++ closingBrace :: after) = ofKey tag) ∧
    (∀ key : Bytes, ¬IsTagged key → hashTag key = key) ∧
    (∀ key : Bytes, ¬IsTagged key ↔ openingBrace ∉ key ∨
      ∃ before inside, openingBrace ∉ before ∧ key = before ++ openingBrace :: inside ∧
        (closingBrace ∉ inside ∨ ∃ after, inside = closingBrace :: after)) ∧
    ∀ key : Bytes, hashTag (hashTag key) = hashTag key ∧ ofKey (hashTag key) = ofKey key := by
  have shared : ∀ key : Bytes, ofKey (hashTag key) = ofKey key := by
    intro key
    rw [ofKey, hashTag_hashTag, ofKey]
  refine ⟨?_, ?_, fun _ => not_isTagged_iff, ?_⟩
  · intro before tag after first nonempty next
    have tagged := hashTag_of_tag first nonempty next after
    refine ⟨tagged, ?_⟩
    rw [← shared, tagged]
  · intro key untagged
    exact hashTag_of_untagged (not_isTagged_iff.mp untagged)
  · intro key
    exact ⟨hashTag_hashTag key, shared key⟩

/-- The key `f{{b}}z` lies in the slot of `{b`, and `a{}{b}` is its own tag. -/
theorem tags_share_slots_nested :
    hashTag [102, 123, 123, 98, 125, 125, 122] = [123, 98] ∧
      ofKey [102, 123, 123, 98, 125, 125, 122] = ofKey [123, 98] ∧
      hashTag [97, 123, 125, 123, 98, 125] = [97, 123, 125, 123, 98, 125] := by
  have tagged := tags_share_slots.1 [102] [123, 98] [125, 122] (by decide) (by decide) (by decide)
  have untagged : ¬IsTagged [97, 123, 125, 123, 98, 125] := by
    rw [tags_share_slots.2.2.1]
    exact Or.inr ⟨[97], [125, 123, 98, 125], by decide, rfl, Or.inr ⟨[123, 98, 125], rfl⟩⟩
  exact ⟨tagged.1, tagged.2, tags_share_slots.2.1 _ untagged⟩

end SlotClient.Slot
