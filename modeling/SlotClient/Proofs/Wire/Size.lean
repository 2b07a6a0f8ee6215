import SlotClient.Proofs.Wire.Soundness

/-!
# The size of replies

A reply is no larger than the bytes that it was read from. Each value in it has a line of its own,
which takes three bytes besides the text that it holds, and the bodies of bulk strings follow their
lines in full.

The same bounds what the reader does before it fails. It attempts to read values one after the
other: an array first, then each of its items, and whatever stands inside these. Every attempt but
one that fails takes a line, and after a failure there are no more attempts. So an array whose items
the bytes cannot hold makes the reader fail early, however many items it announces.
-/

namespace SlotClient.Wire

open Bytes (lineEnd)

namespace Value

/-- The bytes that a value carries itself, apart from those of values inside it. An integer carries
its digits. -/
def payload : Value → Bytes
  | simple text => text
  | error message => message
  | integer number => Decimal.signedDigits number.toInt
  | bulk (some body) => body
  | _ => []

theorem length_parts_pos (value : Value) : 0 < value.parts.length :=
  List.length_pos_of_mem (self_mem_parts value)

theorem length_le_length_partsOfItems (items : List Value) :
    items.length ≤ (partsOfItems items).length := by
  induction items with
  | nil => exact Nat.le_refl 0
  | cons item rest ih =>
      have positive := item.length_parts_pos
      simp only [partsOfItems, List.length_cons, List.length_append]
      omega

end Value

@[simp]
theorem length_line (marker : UInt8) (content : Bytes) :
    (line marker content).length = content.length + 3 := by
  simp [line, lineEnd]

mutual

/-- A frame has room for the line of each value in it, and for the bytes that they carry. -/
theorem Frame.size_le {value : Value} {bytes : Bytes} (frame : Frame value bytes) :
    3 * value.parts.length + (value.parts.flatMap Value.payload).length ≤ bytes.length := by
  cases frame with
  | simple text => simp [Value.parts, Value.payload, Nat.add_comm]
  | error message => simp [Value.parts, Value.payload, Nat.add_comm]
  | integer denotes =>
      have shorter := denotes.length_signedDigits_le
      simp only [Value.parts, Value.payload, List.flatMap_singleton, List.length_singleton,
        length_line]
      omega
  | null counted denotes negative => simp [Value.null, Value.parts, Value.payload]
  | bulk denotes length =>
      simp only [Value.parts, Value.payload, List.flatMap_singleton, List.length_singleton,
        List.length_append, length_line]
      omega
  | array denotes count frames =>
      have others := frames.size_le
      simp only [Value.parts, Value.payload, List.flatMap_cons, List.nil_append, List.length_cons,
        List.length_append, length_line]
      omega

theorem Frames.size_le {items : List Value} {bytes : Bytes} (frames : Frames items bytes) :
    3 * (Value.partsOfItems items).length +
      ((Value.partsOfItems items).flatMap Value.payload).length ≤ bytes.length := by
  cases frames with
  | nil => exact Nat.le_refl 0
  | cons frame frames =>
      have first := frame.size_le
      have others := frames.size_le
      simp only [Value.partsOfItems, List.flatMap_append, List.length_append]
      omega

end

/-- What is taken from the bytes is as long as the piece that it stands for. -/
theorem Takes.exists_consumed {fault : Option TransportFault} {inLine : Bool}
    {piece bytes rest : Bytes} (taken : Takes fault inLine piece bytes rest) :
    ∃ consumed, bytes = consumed ++ rest ∧ consumed.length = piece.length := by
  cases taken with
  | whole => exact ⟨piece, rfl, rfl⟩
  | @overlooked front last ended line noFeed => exact ⟨front ++ [last], by simp, by simp⟩

section Reading

variable {fault : Option TransportFault} {bytes rest : Bytes}

theorem exists_consumed_of_readNested {depth : Nat} {value : Value}
    (succeeded : readNested fault depth bytes = (.ok value, rest)) :
    ∃ consumed, bytes = consumed ++ rest ∧
      3 * value.parts.length + (value.parts.flatMap Value.payload).length ≤ consumed.length := by
  rcases (readNested_ok succeeded).2 with ⟨frame, framed, taken⟩
  rcases taken.exists_consumed with ⟨consumed, split, length⟩
  exact ⟨consumed, split, length ▸ framed.size_le⟩

theorem exists_consumed_of_readItems {depth count : Nat} {items : List Value}
    (succeeded : readItems (readNested fault depth) count bytes = (.ok items, rest)) :
    ∃ consumed, bytes = consumed ++ rest ∧ 3 * count ≤ consumed.length := by
  rcases readItems_ok readNested_ok succeeded with ⟨length, _, frames, framed, taken⟩
  rcases taken.exists_consumed with ⟨consumed, split, consumedLength⟩
  have size := framed.size_le
  have parts := Value.length_le_length_partsOfItems items
  exact ⟨consumed, split, by omega⟩

end Reading

/-- The count that the line at the front of the bytes announces, if an array begins there, and what
follows this line. -/
def announced? (fault : Option TransportFault) (bytes : Bytes) : Option (Nat × Bytes) :=
  match readLine fault bytes with
  | (.ok (marker :: text), behind) =>
    match Decimal.int64? text with
    | some number =>
      if marker = arrayMarker ∧ ¬number < 0 then some (number.toInt.toNat, behind) else none
    | none => none
  | _ => none

/-- An attempt to read a value: how many values may stand inside each other from there on, and the
bytes at whose front it stands. -/
structure Attempt where
  depth : Nat
  bytes : Bytes
  deriving DecidableEq, Repr

/-- The attempts at items, one item after the other, up to the first that cannot be read. -/
def attemptsAtItems (readItem : Bytes → Outcome Value) (attemptsAtItem : Bytes → List Attempt) :
    Nat → Bytes → List Attempt
  | 0, _ => []
  | count + 1, bytes =>
    attemptsAtItem bytes ++ match readItem bytes with
      | (.error _, _) => []
      | (.ok _, rest) => attemptsAtItems readItem attemptsAtItem count rest

/-- The attempts of the reader at a value and, if it is an array, at the items in it. -/
def attempts (fault : Option TransportFault) : Nat → Bytes → List Attempt
  | 0, bytes => [⟨0, bytes⟩]
  | depth + 1, bytes =>
    ⟨depth + 1, bytes⟩ :: match announced? fault bytes with
      | some (count, behind) =>
        attemptsAtItems (readNested fault depth) (attempts fault depth) count behind
      | none => []

section Attempts

variable {fault : Option TransportFault} {bytes behind rest : Bytes} {count : Nat}

theorem announced?_eq_some_iff : announced? fault bytes = some (count, behind) ↔
    ∃ text number, readLine fault bytes = (.ok (arrayMarker :: text), behind) ∧
      Decimal.int64? text = some number ∧ number.toInt = count := by
  constructor
  · intro announced
    unfold announced? at announced
    split at announced
    · rename_i marker text rest readFirst
      split at announced
      · rename_i number readNumber
        split at announced
        · rename_i opens
          cases announced
          rw [opens.1] at readFirst
          exact ⟨text, number, readFirst, readNumber, toInt_eq_of_not_neg opens.2⟩
        · cases announced
      · cases announced
    · cases announced
  · rintro ⟨text, number, readFirst, readNumber, counts⟩
    have natural := not_neg_of_toInt_eq counts
    simp only [announced?, readFirst, readNumber, natural, counts]
    rfl

/-- The line of an array is read before its items. -/
theorem exists_consumed_of_announced (announced : announced? fault bytes = some (count, behind)) :
    ∃ consumed, bytes = consumed ++ behind ∧ 3 ≤ consumed.length := by
  rcases announced?_eq_some_iff.mp announced with ⟨text, number, readFirst, _⟩
  rcases (readLine_ok readFirst).2.exists_consumed with ⟨consumed, split, length⟩
  refine ⟨consumed, split, ?_⟩
  simp only [length, lineEnd, List.length_append, List.length_cons, List.length_nil]
  omega

theorem readNested_of_announced (announced : announced? fault bytes = some (count, behind))
    (depth : Nat) :
    readNested fault (depth + 1) bytes =
      ((readItems (readNested fault depth) count behind).1.map Value.array,
        (readItems (readNested fault depth) count behind).2) := by
  rcases announced?_eq_some_iff.mp announced with ⟨text, number, readFirst, readNumber, counts⟩
  have natural := not_neg_of_toInt_eq counts
  simp only [readNested, readFirst, readMarked_array fault readNumber natural, counts,
    Int.toNat_natCast]
  rcases readItems (readNested fault depth) count behind with ⟨failure | items, remainder⟩
  · rfl
  · rfl

/-- An array that is read has been announced. -/
theorem exists_announced_of_array {depth : Nat} {items : List Value}
    (succeeded : readNested fault depth bytes = (.ok (.array items), rest)) :
    ∃ behind, announced? fault bytes = some (items.length, behind) := by
  rcases depth with _ | depth
  · cases succeeded
  unfold readNested at succeeded
  split at succeeded
  · cases succeeded
  · cases succeeded
  · rename_i marker content behind readFirst
    have noFeed := (readLine_ok readFirst).1
    rw [List.mem_cons, not_or] at noFeed
    rcases readMarked_ok readNested_ok noFeed.2 succeeded with ⟨_, others, inLine, frame, _⟩
    generalize beginning : line marker content ++ others = whole at frame
    cases frame with
    | @array text bytes number items denotes counts frames =>
        -- The line that was read is the first line of the frame, since both are read from it.
        have first := readLine_line fault (Ne.symm noFeed.1) noFeed.2 others
        rw [beginning, readLine_line fault (by decide) (lineFeed_not_mem denotes)] at first
        cases first
        have readNumber := Decimal.int64?_eq_some_iff.mpr denotes
        exact ⟨behind, announced?_eq_some_iff.mpr ⟨_, number, readFirst, readNumber, counts⟩⟩

theorem parts_of_unannounced (unannounced : announced? fault bytes = none) {depth : Nat}
    {value : Value} (succeeded : readNested fault depth bytes = (.ok value, rest)) :
    value.parts = [value] := by
  cases value with
  | simple text => rfl
  | error message => rfl
  | integer number => rfl
  | bulk body => rfl
  | array items =>
      rcases exists_announced_of_array succeeded with ⟨behind, announced⟩
      rw [unannounced] at announced
      cases announced

theorem readNested_array_of_announced (announced : announced? fault bytes = some (count, behind))
    {depth : Nat} {value : Value}
    (succeeded : readNested fault (depth + 1) bytes = (.ok value, rest)) :
    ∃ items, value = .array items ∧
      readItems (readNested fault depth) count behind = (.ok items, rest) := by
  rw [readNested_of_announced announced] at succeeded
  generalize readItems (readNested fault depth) count behind = outcome at succeeded ⊢
  rcases outcome with ⟨failure | items, remainder⟩
  · cases succeeded
  · cases succeeded
    exact ⟨items, rfl, rfl⟩

/-- Reading items fails at the first item that cannot be read. -/
theorem exists_done_of_readItems_error {readItem : Bytes → Outcome Value} {failure : Failure}
    (failed : readItems readItem count bytes = (.error failure, rest)) :
    ∃ done items here, done < count ∧ readItems readItem done bytes = (.ok items, here) ∧
      readItem here = (.error failure, rest) := by
  induction count generalizing bytes with
  | zero => cases failed
  | succ count ih =>
      unfold readItems at failed
      split at failed
      · rename_i firstFailed
        cases failed
        exact ⟨0, [], bytes, Nat.succ_pos count, rfl, firstFailed⟩
      rename_i item behind readFirst
      split at failed
      · rename_i othersFailed
        cases failed
        rcases ih othersFailed with ⟨done, items, here, fewer, readSome, nextFailed⟩
        exact ⟨done + 1, item :: items, here, Nat.succ_lt_succ fewer,
          readItems_cons_ok readFirst readSome, nextFailed⟩
      · cases failed

/-- An array that announces more items than the bytes can hold is not read. Reading fails at one of
its items, and before it no more items are read than the bytes hold. -/
theorem exists_done_of_announced (announced : announced? fault bytes = some (count, behind))
    (exceeds : bytes.length < 3 * count) (depth : Nat) :
    ∃ failure rest, readNested fault (depth + 1) bytes = (.error failure, rest) ∧
      ∃ done items here, 3 * done ≤ bytes.length ∧
        readItems (readNested fault depth) done behind = (.ok items, here) ∧
        readNested fault depth here = (.error failure, rest) := by
  rcases exists_consumed_of_announced announced with ⟨first, rfl, _⟩
  rw [List.length_append] at exceeds
  rw [readNested_of_announced announced, List.length_append]
  rcases readAll : readItems (readNested fault depth) count behind with ⟨failure | items, rest⟩
  · rcases exists_done_of_readItems_error readAll with ⟨done, items, here, _, readSome, failed⟩
    rcases exists_consumed_of_readItems readSome with ⟨consumed, rfl, length⟩
    refine ⟨failure, rest, rfl, done, items, here, ?_, readSome, failed⟩
    rw [List.length_append]
    omega
  · rcases exists_consumed_of_readItems readAll with ⟨consumed, rfl, length⟩
    rw [List.length_append] at exceeds
    omega

section Lengths

variable {readItem : Bytes → Outcome Value} {attemptsAtItem : Bytes → List Attempt}

theorem length_attemptsAtItems_of_ok
    (counted : ∀ {bytes rest : Bytes} {value : Value}, readItem bytes = (.ok value, rest) →
      (attemptsAtItem bytes).length = value.parts.length)
    {items : List Value} (succeeded : readItems readItem count bytes = (.ok items, rest)) :
    (attemptsAtItems readItem attemptsAtItem count bytes).length =
      (Value.partsOfItems items).length := by
  induction count generalizing bytes items with
  | zero =>
      cases succeeded
      rfl
  | succ count ih =>
      unfold readItems at succeeded
      split at succeeded
      · cases succeeded
      rename_i item behind readFirst
      split at succeeded
      · cases succeeded
      rename_i others remainder readOthers
      cases succeeded
      simp only [attemptsAtItems, readFirst, Value.partsOfItems, List.length_append,
        counted readFirst, ih readOthers]

/-- What has been read takes three bytes for each attempt, and the attempt that fails takes none. -/
theorem length_attemptsAtItems_le
    (bounded : ∀ bytes, 3 * (attemptsAtItem bytes).length ≤ bytes.length + 3)
    (consumed : ∀ {bytes rest : Bytes} {value : Value}, readItem bytes = (.ok value, rest) →
      3 * (attemptsAtItem bytes).length + rest.length ≤ bytes.length) (count : Nat)
    (bytes : Bytes) :
    3 * (attemptsAtItems readItem attemptsAtItem count bytes).length ≤ bytes.length + 3 := by
  induction count generalizing bytes with
  | zero => simp [attemptsAtItems]
  | succ count ih =>
      have first := bounded bytes
      rw [attemptsAtItems, List.length_append]
      split
      · exact first
      · rename_i rest readFirst
        have taken := consumed readFirst
        have others := ih rest
        omega

theorem isSuffix_of_mem_attemptsAtItems {attempt : Attempt}
    (within : ∀ {bytes : Bytes}, attempt ∈ attemptsAtItem bytes → attempt.bytes <:+ bytes)
    (left : ∀ {bytes rest : Bytes} {value : Value}, readItem bytes = (.ok value, rest) →
      rest <:+ bytes)
    (member : attempt ∈ attemptsAtItems readItem attemptsAtItem count bytes) :
    attempt.bytes <:+ bytes := by
  induction count generalizing bytes with
  | zero => cases member
  | succ count ih =>
      rw [attemptsAtItems, List.mem_append] at member
      rcases member with atFirst | atOthers
      · exact within atFirst
      · split at atOthers
        · cases atOthers
        · rename_i rest readFirst
          exact (ih atOthers).trans (left readFirst)

theorem readItems_of_attempt_error {attempt : Attempt} {failure : Failure}
    (fails : ∀ {bytes : Bytes}, attempt ∈ attemptsAtItem bytes →
      readItem bytes = (.error failure, rest))
    (member : attempt ∈ attemptsAtItems readItem attemptsAtItem count bytes) :
    readItems readItem count bytes = (.error failure, rest) := by
  induction count generalizing bytes with
  | zero => cases member
  | succ count ih =>
      rw [attemptsAtItems, List.mem_append] at member
      rcases member with atFirst | atOthers
      · exact readItems_cons_error (fails atFirst)
      · split at atOthers
        · cases atOthers
        · rename_i readFirst
          exact readItems_cons_later_error readFirst (ih atOthers)

end Lengths

/-- A value that is read has been attempted, and every value in it, each of them once. -/
theorem length_attempts_of_ok {depth : Nat} {value : Value}
    (succeeded : readNested fault depth bytes = (.ok value, rest)) :
    (attempts fault depth bytes).length = value.parts.length := by
  induction depth generalizing bytes rest value with
  | zero => cases succeeded
  | succ depth ih =>
      rw [attempts, List.length_cons]
      split
      · rename_i count behind announced
        rcases readNested_array_of_announced announced succeeded with ⟨items, rfl, readAll⟩
        rw [length_attemptsAtItems_of_ok ih readAll, Value.parts, List.length_cons]
      · rename_i unannounced
        rw [parts_of_unannounced unannounced succeeded]
        rfl

theorem length_attempts_le (fault : Option TransportFault) (depth : Nat) (bytes : Bytes) :
    3 * (attempts fault depth bytes).length ≤ bytes.length + 3 := by
  induction depth generalizing bytes with
  | zero => simp [attempts]
  | succ depth ih =>
      rw [attempts, List.length_cons]
      split
      · rename_i count behind announced
        have items : 3 * (attemptsAtItems (readNested fault depth) (attempts fault depth) count
            behind).length ≤ behind.length + 3 := by
          apply length_attemptsAtItems_le ih
          intro bytes rest value succeeded
          rcases exists_consumed_of_readNested succeeded with ⟨consumed, rfl, size⟩
          rw [length_attempts_of_ok succeeded, List.length_append]
          omega
        rcases exists_consumed_of_announced announced with ⟨consumed, rfl, length⟩
        rw [List.length_append]
        omega
      · simp

theorem isSuffix_of_mem_attempts {depth : Nat} {attempt : Attempt}
    (member : attempt ∈ attempts fault depth bytes) : attempt.bytes <:+ bytes := by
  induction depth generalizing bytes with
  | zero =>
      rw [attempts, List.mem_singleton] at member
      subst member
      exact List.suffix_rfl
  | succ depth ih =>
      rw [attempts, List.mem_cons] at member
      rcases member with rfl | inside
      · exact List.suffix_rfl
      · split at inside
        · rename_i count behind announced
          rcases exists_consumed_of_announced announced with ⟨consumed, rfl, _⟩
          have within := isSuffix_of_mem_attemptsAtItems ih ?_ inside
          · exact within.trans (List.suffix_append consumed behind)
          · intro bytes rest value succeeded
            rcases exists_consumed_of_readNested succeeded with ⟨taken, rfl, _⟩
            exact List.suffix_append taken rest
        · cases inside

/-- The failure of an attempt is that of the whole. -/
theorem readNested_of_attempt_error {depth : Nat} {attempt : Attempt} {failure : Failure}
    (member : attempt ∈ attempts fault depth bytes)
    (failed : readNested fault attempt.depth attempt.bytes = (.error failure, rest)) :
    readNested fault depth bytes = (.error failure, rest) := by
  induction depth generalizing bytes with
  | zero =>
      rw [attempts, List.mem_singleton] at member
      rwa [member] at failed
  | succ depth ih =>
      rw [attempts, List.mem_cons] at member
      rcases member with rfl | inside
      · exact failed
      · split at inside
        · rename_i count behind announced
          rw [readNested_of_announced announced, readItems_of_attempt_error ih inside, Except.map]
        · cases inside

/-- A reply is no larger than the bytes that it is read from: each value in it takes three of them
besides the bytes that it carries, and no value stands inside more than eight arrays. The reader
attempts each value in the reply once. On any bytes it makes no more attempts, at the whole and at
all items inside it, than a third of their count and one more. So an array that announces more items
than a third of them makes reading fail, wherever the reader meets it. Unless it stands too deep to
be read at all, no more items of it than this third are read, and the failure of the next one is
that of the whole. -/
theorem replies_fit_their_bytes (fault : Option TransportFault) (bytes : Bytes) :
    (∀ (value : Value) (rest : Bytes), read fault bytes = (.ok value, rest) →
      (∃ consumed, bytes = consumed ++ rest ∧
        3 * value.parts.length + (value.parts.flatMap Value.payload).length ≤ consumed.length) ∧
      value.height ≤ 8 ∧
      (attempts fault nestingLimit bytes).length = value.parts.length) ∧
    (attempts fault nestingLimit bytes).length ≤ bytes.length / 3 + 1 ∧
    ∀ attempt ∈ attempts fault nestingLimit bytes, ∀ (count : Nat) (behind : Bytes),
      announced? fault attempt.bytes = some (count, behind) → bytes.length / 3 < count →
      ∃ failure rest, read fault bytes = (.error failure, rest) ∧
        ∀ depth, attempt.depth = depth + 1 →
          ∃ done items here, done ≤ bytes.length / 3 ∧
            readItems (readNested fault depth) done behind = (.ok items, here) ∧
            readNested fault depth here = (.error failure, rest) := by
  refine ⟨?_, ?_, ?_⟩
  · intro value rest succeeded
    have within := (readNested_ok succeeded).1
    exact ⟨exists_consumed_of_readNested succeeded, lt_nestingLimit.mp within.shallow,
      length_attempts_of_ok succeeded⟩
  · have bound := length_attempts_le fault nestingLimit bytes
    omega
  · rintro ⟨depth, here⟩ member count behind announced exceeds
    rcases depth with _ | depth
    · exact ⟨_, _, readNested_of_attempt_error member rfl, nofun⟩
    · change announced? fault here = some (count, behind) at announced
      have length_le : here.length ≤ bytes.length := (isSuffix_of_mem_attempts member).length_le
      rcases exists_done_of_announced announced (by omega : here.length < 3 * count) depth with
        ⟨failure, rest, failed, done, items, next, fewer, readSome, nextFailed⟩
      refine ⟨failure, rest, readNested_of_attempt_error member failed, ?_⟩
      intro _ allowed
      cases allowed
      exact ⟨done, items, next, by omega, readSome, nextFailed⟩

/-- A reply of four values, and an array in an array that announces as many items as a count can
say, before one item and the beginning of another. -/
theorem replies_fit_their_bytes_unbounded :
    read none (Bytes.ofText "*2\r\n*1\r\n+\r\n$1\r\nX\r\n") =
        (.ok (.array [.array [.simple []], .bulk (some [88])]), []) ∧
      (∃ consumed, Bytes.ofText "*2\r\n*1\r\n+\r\n$1\r\nX\r\n" = consumed ++ [] ∧
        3 * 4 + 1 ≤ consumed.length) ∧
      announced? none (Bytes.ofText "*9223372036854775807\r\n:7\r\n+") =
        some (9223372036854775807, Bytes.ofText ":7\r\n+") ∧
      (attempts none nestingLimit
        (Bytes.ofText "*2\r\n*9223372036854775807\r\n:7\r\n+")).length ≤ 31 / 3 + 1 ∧
      ∃ failure rest, read none (Bytes.ofText "*2\r\n*9223372036854775807\r\n:7\r\n+") =
          (.error failure, rest) ∧
        ∃ done items here, done ≤ 31 / 3 ∧
          readItems (readNested none 7) done (Bytes.ofText ":7\r\n+") = (.ok items, here) ∧
          readNested none 7 here = (.error failure, rest) := by
  have succeeded : read none (Bytes.ofText "*2\r\n*1\r\n+\r\n$1\r\nX\r\n") =
      (.ok (.array [.array [.simple []], .bulk (some [88])]), []) := rfl
  have announced : announced? none (Bytes.ofText "*9223372036854775807\r\n:7\r\n+") =
      some (9223372036854775807, Bytes.ofText ":7\r\n+") := by decide +kernel
  have attempted : ⟨8, Bytes.ofText "*9223372036854775807\r\n:7\r\n+"⟩ ∈ attempts none nestingLimit
      (Bytes.ofText "*2\r\n*9223372036854775807\r\n:7\r\n+") := by decide +kernel
  have sized := ((replies_fit_their_bytes none _).1 _ _ succeeded).1
  rcases replies_fit_their_bytes none (Bytes.ofText "*2\r\n*9223372036854775807\r\n:7\r\n+") with
    ⟨_, bounded, unread⟩
  rcases unread _ attempted _ _ announced (by decide +kernel) with ⟨failure, rest, failed, inItems⟩
  exact ⟨succeeded, sized, announced, bounded, failure, rest, failed, inItems 7 rfl⟩

end Attempts

end SlotClient.Wire
