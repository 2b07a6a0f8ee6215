import SlotClient.Network.Address
import SlotClient.Proofs.Delimiter

/-!
# Host and port of an address

An address that is no socket address is a host and a port with a colon between them. Hosts may hold
colons themselves and ports do not, so it is the last colon that divides them.
-/

namespace SlotClient.SocketAddress

variable {text host port : String}

/-- A text has a last colon if it has any. -/
theorem exists_parts_of_colon (colon : ':' ∈ text.toList) :
    ∃ host port : String, text = host ++ ":" ++ port ∧ ':' ∉ port.toList := by
  have reversed : ':' ∈ text.toList.reverse := List.mem_reverse.mpr colon
  rcases List.eq_append_cons_of_mem reversed with ⟨back, front, whole, noColon⟩
  refine ⟨String.ofList front.reverse, String.ofList back.reverse, ?_, by simpa using noColon⟩
  have whole := congrArg List.reverse whole
  rw [← String.toList_inj]
  simpa using whole

theorem splitAtLastColon?_append (noColon : ':' ∉ port.toList) :
    splitAtLastColon? (host ++ ":" ++ port) = some (host, port) := by
  have absent : ':' ∉ port.toList.reverse := fun member => noColon (List.mem_reverse.mp member)
  have reversed : (host ++ ":" ++ port).toList.reverse =
      port.toList.reverse ++ ':' :: host.toList.reverse := by simp
  simp only [splitAtLastColon?, reversed, takeWhile_ne_append_cons absent,
    dropWhile_ne_append_cons absent]
  simp

theorem splitAtLastColon?_eq_none (noColon : ':' ∉ text.toList) :
    splitAtLastColon? text = none := by
  have absent : ':' ∉ text.toList.reverse := fun member => noColon (List.mem_reverse.mp member)
  simp only [splitAtLastColon?, dropWhile_ne_of_notMem absent]

/-- The host and the port of a text are what stands before and behind its last colon. -/
theorem splitAtLastColon?_eq_some_iff :
    splitAtLastColon? text = some (host, port) ↔
      text = host ++ ":" ++ port ∧ ':' ∉ port.toList := by
  constructor
  · intro splits
    by_cases colon : ':' ∈ text.toList
    · rcases exists_parts_of_colon colon with ⟨front, back, rfl, noColon⟩
      rw [splitAtLastColon?_append noColon] at splits
      cases splits
      exact ⟨rfl, noColon⟩
    · rw [splitAtLastColon?_eq_none colon] at splits
      contradiction
  · rintro ⟨rfl, noColon⟩
    exact splitAtLastColon?_append noColon

end SlotClient.SocketAddress
