import SlotClient.Proofs.Wire.RoundTrip

/-!
# Commands on the wire

The written form of a command shows where each of its arguments ends, whatever bytes they hold. So
no two commands are written alike, and none is written like the beginning of another.
-/

namespace SlotClient.Wire

variable {content other first second rest remainder : Bytes} {marker : UInt8}

/-- A line shows where its content ends. -/
theorem line_append_inj (absent : Bytes.carriageReturn ∉ content)
    (otherAbsent : Bytes.carriageReturn ∉ other)
    (same : line marker content ++ rest = line marker other ++ remainder) :
    content = other ∧ rest = remainder := by
  simp only [line, Bytes.lineEnd, List.cons_append, List.append_assoc, List.nil_append,
    List.cons.injEq, true_and] at same
  have contents := congrArg (List.takeWhile (· != Bytes.carriageReturn)) same
  rw [takeWhile_ne_append_cons absent, takeWhile_ne_append_cons otherAbsent] at contents
  have behind := congrArg (List.dropWhile (· != Bytes.carriageReturn)) same
  rw [dropWhile_ne_append_cons absent, dropWhile_ne_append_cons otherAbsent] at behind
  simp only [List.cons.injEq, true_and] at behind
  exact ⟨contents, behind⟩

theorem return_not_mem_digits (number : Nat) :
    Bytes.carriageReturn ∉ Decimal.digits number :=
  (Decimal.denotes_digits number).not_mem (by decide)

/-- A line that states a number shows it. -/
theorem line_digits_append_inj {number count : Nat}
    (same : line marker (Decimal.digits number) ++ rest =
      line marker (Decimal.digits count) ++ remainder) : number = count ∧ rest = remainder := by
  have parts := line_append_inj (return_not_mem_digits number) (return_not_mem_digits count) same
  have numbers := congrArg Decimal.ofDigits parts.1
  rw [Decimal.ofDigits_digits, Decimal.ofDigits_digits] at numbers
  exact ⟨numbers, parts.2⟩

theorem encodeBulk_append_inj
    (same : encodeBulk first ++ rest = encodeBulk second ++ remainder) :
    first = second ∧ rest = remainder := by
  simp only [encodeBulk, List.append_assoc] at same
  rcases line_digits_append_inj same with ⟨sameLength, behind⟩
  rcases List.append_inj behind sameLength with ⟨sameBody, ends⟩
  exact ⟨sameBody, List.append_cancel_left ends⟩

theorem flatMap_encodeBulk_append_inj {arguments others : List Bytes}
    (sameLength : arguments.length = others.length)
    (same : arguments.flatMap encodeBulk ++ rest = others.flatMap encodeBulk ++ remainder) :
    arguments = others ∧ rest = remainder := by
  induction arguments generalizing others with
  | nil =>
      rw [List.length_nil, eq_comm, List.length_eq_zero_iff] at sameLength
      subst sameLength
      exact ⟨rfl, same⟩
  | cons argument arguments ih =>
      cases others with
      | nil => contradiction
      | cons other others =>
          simp only [List.flatMap_cons, List.append_assoc] at same
          rcases encodeBulk_append_inj same with ⟨rfl, behind⟩
          rcases ih (Nat.succ.inj sameLength) behind with ⟨rfl, ends⟩
          exact ⟨rfl, ends⟩

/-- Where a command ends and which one it is can be told from its written form. -/
theorem encodeCommand_append_inj {arguments others : List Bytes}
    (same : encodeCommand arguments ++ rest = encodeCommand others ++ remainder) :
    arguments = others ∧ rest = remainder := by
  simp only [encodeCommand, List.append_assoc] at same
  rcases line_digits_append_inj same with ⟨sameLength, behind⟩
  exact flatMap_encodeBulk_append_inj sameLength behind

theorem encodeCommand_injective : Function.Injective encodeCommand := by
  intro arguments others same
  have extended := congrArg (· ++ []) same
  exact (encodeCommand_append_inj extended).1

end SlotClient.Wire
