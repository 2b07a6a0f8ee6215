import SlotClient.Proofs.Wire.Soundness

/-!
# What the reader accepts

The reader accepts exactly the values within its limits, from exactly the bytes that have a frame of
the value at their front, or that end where the last line feed of the frame should be, with another
byte in place of it. So a value stays what it is when more bytes arrive, except in this last case.
-/

namespace SlotClient.Wire

open Bytes (lineFeed carriageReturn lineEnd)

/-- The bytes end with a carriage return and another byte than a line feed. -/
def BreaksOffBehindReturn (bytes : Bytes) : Prop :=
  ∃ front last, last ≠ lineFeed ∧ bytes = front ++ [carriageReturn, last]

mutual

/-- Every frame ends with a line end. -/
theorem Frame.lineEnd_isSuffix {value : Value} {bytes : Bytes} (frame : Frame value bytes) :
    lineEnd <:+ bytes := by
  cases frame with
  | simple text => exact List.suffix_append _ _
  | error message => exact List.suffix_append _ _
  | integer denotes => exact List.suffix_append _ _
  | null counted denotes negative => exact List.suffix_append _ _
  | bulk denotes length => exact List.suffix_append _ _
  | @array text bytes number items denotes count frames =>
      rcases items with _ | ⟨item, rest⟩
      · cases frames
        rw [List.append_nil]
        exact List.suffix_append _ _
      · exact (frames.lineEnd_isSuffix (List.cons_ne_nil item rest)).trans (List.suffix_append _ _)

theorem Frames.lineEnd_isSuffix {items : List Value} {bytes : Bytes} (frames : Frames items bytes)
    (nonempty : items ≠ []) : lineEnd <:+ bytes := by
  cases frames with
  | nil => contradiction
  | @cons item rest first others frame frames =>
      rcases rest with _ | ⟨next, rest⟩
      · cases frames
        rw [List.append_nil]
        exact frame.lineEnd_isSuffix
      · exact (frames.lineEnd_isSuffix (List.cons_ne_nil next rest)).trans (List.suffix_append _ _)

end

section Overlooking

variable {last : UInt8}

/-- Where the input ends, any byte behind the carriage return of a line passes for its line feed. -/
theorem readLine_overlooked {content : Bytes} (absent : lineFeed ∉ content)
    (noFeed : last ≠ lineFeed) :
    readLine none (content ++ [carriageReturn, last]) = (.ok content, []) := by
  have nowhere : lineFeed ∉ content ++ [carriageReturn, last] := by
    rw [List.mem_append, List.mem_pair, not_or, not_or]
    exact ⟨absent, by decide, Ne.symm noFeed⟩
  simp only [readLine, takeWhile_ne_of_notMem nowhere, dropWhile_ne_of_notMem nowhere,
    lineContent?_append_pair]
  simp

theorem line_eq_concat {marker : UInt8} {content front : Bytes}
    (shape : line marker content = front ++ [lineFeed]) :
    front ++ [last] = marker :: content ++ [carriageReturn, last] := by
  have split : (marker :: content ++ [carriageReturn]) ++ [lineFeed] = front ++ [lineFeed] := by
    rw [← shape, line, lineEnd, List.append_assoc, List.singleton_append]
  rw [← (List.append_inj' split rfl).1, List.append_assoc, List.singleton_append]

theorem readNested_line_overlooked {marker : UInt8} {content front : Bytes}
    (marked : marker ≠ lineFeed) (absent : lineFeed ∉ content) (noFeed : last ≠ lineFeed)
    (shape : line marker content = front ++ [lineFeed]) (depth : Nat) :
    readNested none (depth + 1) (front ++ [last]) =
      readMarked none (readNested none depth) marker content [] := by
  have clean : lineFeed ∉ marker :: content :=
    List.not_mem_cons_of_ne_of_not_mem marked.symm absent
  simp only [line_eq_concat shape, readNested, readLine_overlooked clean noFeed]

theorem append_eq_concat {first second front : Bytes} {byte : UInt8} (nonempty : second ≠ [])
    (shape : first ++ second = front ++ [byte]) :
    ∃ middle, second = middle ++ [byte] ∧ front = first ++ middle := by
  rcases List.eq_nil_or_concat' second with rfl | ⟨middle, other, rfl⟩
  · contradiction
  · rw [← List.append_assoc] at shape
    rcases List.append_inj' shape rfl with ⟨rfl, same⟩
    exact ⟨middle, by rw [same], rfl⟩

mutual

/-- A value whose frame ends in a line is read although another byte stands for the last line
feed, if that is where the input ends. -/
theorem readNested_overlooked {value : Value} {bytes front : Bytes} (frame : Frame value bytes)
    (shape : bytes = front ++ [lineFeed]) (noFeed : last ≠ lineFeed)
    (ends : value.endsInLine = true) {depth : Nat} (within : value.IsWithin (depth + 1)) :
    readNested none (depth + 1) (front ++ [last]) = (.ok value, []) := by
  cases frame with
  | simple text =>
      rw [readNested_line_overlooked (by decide) (within.plain.not_mem rfl) noFeed shape,
        readMarked_simple]
  | error message =>
      rw [readNested_line_overlooked (by decide) (within.plain.not_mem rfl) noFeed shape,
        readMarked_error]
  | integer denotes =>
      have read := Decimal.int64?_eq_some_iff.mpr denotes
      rw [readNested_line_overlooked (by decide) (lineFeed_not_mem denotes) noFeed shape,
        readMarked_integer none read]
  | @null marker text number counted denotes negative =>
      have read := Decimal.int64?_eq_some_iff.mpr denotes
      have marked : marker ≠ lineFeed := by rcases counted with rfl | rfl <;> decide
      rw [readNested_line_overlooked marked (lineFeed_not_mem denotes) noFeed shape,
        readMarked_null none counted read negative]
  | bulk denotes length => cases ends
  | @array text bytes number items denotes count frames =>
      have read := Decimal.int64?_eq_some_iff.mpr denotes
      rcases items with _ | ⟨item, rest⟩
      · cases frames
        rw [List.append_nil] at shape
        rw [readNested_line_overlooked (by decide) (lineFeed_not_mem denotes) noFeed shape,
          readMarked_array none read (not_neg_of_toInt_eq count), count]
        rfl
      · have nonempty : bytes ≠ [] := frames.eq_nil_iff.not.mpr (List.cons_ne_nil item rest)
        rcases append_eq_concat nonempty shape with ⟨middle, middleEq, rfl⟩
        rw [List.append_assoc]
        apply readNested_array_ok none denotes count
        exact readItems_overlooked frames middleEq noFeed ends (List.cons_ne_nil item rest)
          (isWithin_of_mem within)

/-- Values of which the last one ends in a line are read although another byte stands for the last
line feed, if that is where the input ends. -/
theorem readItems_overlooked {items : List Value} {bytes front : Bytes}
    (frames : Frames items bytes) (shape : bytes = front ++ [lineFeed]) (noFeed : last ≠ lineFeed)
    (ends : Value.itemsEndInLine items = true) (nonempty : items ≠ []) {depth : Nat}
    (within : ∀ item ∈ items, item.IsWithin depth) :
    readItems (readNested none depth) items.length (front ++ [last]) = (.ok items, []) := by
  cases frames with
  | nil => contradiction
  | @cons item rest first others frame frames =>
      rw [List.forall_mem_cons] at within
      rcases depth with _ | depth
      · exact absurd within.1.shallow (Nat.not_lt_zero _)
      rcases rest with _ | ⟨next, rest⟩
      · cases frames
        rw [List.append_nil] at shape
        have readFirst := readNested_overlooked frame shape noFeed
          (by simpa [Value.itemsEndInLine] using ends) within.1
        exact readItems_cons_ok readFirst rfl
      · have some : others ≠ [] := frames.eq_nil_iff.not.mpr (List.cons_ne_nil next rest)
        rcases append_eq_concat some shape with ⟨middle, middleEq, rfl⟩
        rw [List.append_assoc]
        apply readItems_cons_ok
        · exact readNested_frame none frame within.1.plain within.1.fits
            (Nat.le_of_lt_succ within.1.shallow) _
        · exact readItems_overlooked frames middleEq noFeed
            (by simpa [Value.itemsEndInLine] using ends) (List.cons_ne_nil next rest) within.2

end

end Overlooking

section Acceptance

variable {fault : Option TransportFault} {value : Value} {bytes rest : Bytes}

theorem takes_iff {inLine : Bool} {piece : Bytes} :
    Takes fault inLine piece bytes rest ↔
      bytes = piece ++ rest ∨
        fault = none ∧ rest = [] ∧ inLine = true ∧ ∃ front last, last ≠ lineFeed ∧
          piece = front ++ [lineFeed] ∧ bytes = front ++ [last] := by
  constructor
  · intro taken
    cases taken with
    | whole => exact Or.inl rfl
    | overlooked front ended line noFeed =>
        exact Or.inr ⟨ended, rfl, line, front, _, noFeed, rfl, rfl⟩
  · rintro (rfl | ⟨ended, rfl, line, front, last, noFeed, rfl, rfl⟩)
    · exact .whole _ _
    · exact .overlooked front ended line noFeed

/-- Exactly the values within the limits are read, from exactly the bytes that have one of their
frames at the front. -/
theorem read_ok_iff : read fault bytes = (.ok value, rest) ↔
    value.IsWithin nestingLimit ∧ Accepts fault value bytes rest := by
  constructor
  · exact readNested_ok
  · rintro ⟨within, frame, framed, taken⟩
    cases taken with
    | whole =>
        exact readNested_frame fault framed within.plain within.fits
          (Nat.le_of_lt_succ within.shallow) rest
    | overlooked front ended line noFeed =>
        rw [ended]
        exact readNested_overlooked framed rfl noFeed line within

/-- Unless the bytes break off behind a carriage return, a value that is read has a whole frame at
their front. -/
theorem frame_of_read (complete : fault = none → ¬BreaksOffBehindReturn bytes)
    (succeeded : read fault bytes = (.ok value, rest)) :
    ∃ frame, Frame value frame ∧ bytes = frame ++ rest := by
  rcases read_ok_iff.mp succeeded with ⟨_, frame, framed, taken⟩
  cases taken with
  | whole => exact ⟨frame, framed, rfl⟩
  | @overlooked front last ended line noFeed =>
      rcases framed.lineEnd_isSuffix with ⟨before, shape⟩
      refine absurd ⟨before, last, noFeed, ?_⟩ (complete ended)
      have split : (before ++ [carriageReturn]) ++ [lineFeed] = front ++ [lineFeed] := by
        rw [← shape, lineEnd, List.append_assoc, List.singleton_append]
      rw [← (List.append_inj' split rfl).1, List.append_assoc, List.singleton_append]

/-- A value that has a whole frame at the front of the bytes is read whatever follows them. -/
theorem read_append (complete : fault = none → ¬BreaksOffBehindReturn bytes)
    (succeeded : read fault bytes = (.ok value, rest)) (more : Bytes)
    (other : Option TransportFault) :
    read other (bytes ++ more) = (.ok value, rest ++ more) := by
  rcases frame_of_read complete succeeded with ⟨frame, framed, rfl⟩
  rw [List.append_assoc]
  exact read_ok_iff.mpr ⟨(read_ok_iff.mp succeeded).1, frame, framed, .whole _ _⟩

/-- No value is read from the beginning of a frame, unless that breaks off behind a carriage
return. -/
theorem read_beginning {cut lost : Bytes} (within : value.IsWithin nestingLimit)
    (framed : Frame value bytes) (incomplete : lost ≠ []) (broken : bytes = cut ++ lost)
    (complete : fault = none → ¬BreaksOffBehindReturn cut) :
    ∃ failure, (read fault cut).1 = .error failure := by
  rcases readCut : read fault cut with ⟨failure | early, rest⟩
  · exact ⟨failure, rfl⟩
  · -- The early value would also be read from the whole frame, and leave the lost bytes.
    have readWhole := read_append complete readCut lost none
    have whole : read none (bytes ++ []) = (.ok value, []) :=
      read_ok_iff.mpr ⟨within, bytes, framed, .whole bytes []⟩
    rw [List.append_nil, broken, readWhole, Prod.mk.injEq] at whole
    exact absurd (List.append_eq_nil_iff.mp whole.2).2 incomplete

/-- What is read is a frame. The first part says exactly when a value is read: if it is within the
limits and one of its frames is at the front of the bytes, with what is left behind it, or if the
input ends where the last line feed of the frame should be, with another byte in place of it. So,
on a connection with a fault, or if the input does not end with a carriage return and a byte that
is no line feed, all that is read are whole frames, bytes that arrive later change nothing, and
nothing is read from the beginning of a frame. -/
theorem read_accepts_frames (fault : Option TransportFault) :
    (∀ (bytes : Bytes) (value : Value) (rest : Bytes), read fault bytes = (.ok value, rest) ↔
      value.IsWithin nestingLimit ∧ ∃ frame, Frame value frame ∧
        (bytes = frame ++ rest ∨
          fault = none ∧ rest = [] ∧ value.endsInLine = true ∧ ∃ front last, last ≠ lineFeed ∧
            frame = front ++ [lineFeed] ∧ bytes = front ++ [last])) ∧
    ∀ bytes : Bytes, (fault = none → ¬BreaksOffBehindReturn bytes) →
      (∀ (value : Value) (rest : Bytes), read fault bytes = (.ok value, rest) →
        (∃ frame, Frame value frame ∧ bytes = frame ++ rest) ∧
          ∀ (more : Bytes) (other : Option TransportFault),
            read other (bytes ++ more) = (.ok value, rest ++ more)) ∧
      ∀ (value : Value) (lost : Bytes), value.IsWithin nestingLimit → lost ≠ [] →
        Frame value (bytes ++ lost) → ∃ failure, (read fault bytes).1 = .error failure := by
  refine ⟨?_, ?_⟩
  · intro bytes value rest
    rw [read_ok_iff]
    refine and_congr_right fun _ => exists_congr fun frame => and_congr_right fun _ => ?_
    exact takes_iff
  · intro bytes complete
    refine ⟨?_, ?_⟩
    · intro value rest succeeded
      exact ⟨frame_of_read complete succeeded, read_append complete succeeded⟩
    · intro value lost within incomplete framed
      exact read_beginning within framed incomplete rfl complete

/-- The integer `:7` and a byte behind it, on an input that ends there. -/
theorem read_accepts_frames_integer :
    read none [58, 55, 13, 10, 88] = (.ok (.integer 7), [88]) ∧
      ¬BreaksOffBehindReturn [58, 55, 13, 10, 88] ∧
      read (some .timedOut) ([58, 55, 13, 10, 88] ++ [13, 10]) =
        (.ok (.integer 7), [88] ++ [13, 10]) := by
  have succeeded : read none [58, 55, 13, 10, 88] = (.ok (.integer 7), [88]) := rfl
  have complete : ¬BreaksOffBehindReturn [58, 55, 13, 10, 88] := by
    rintro ⟨front, last, _, shape⟩
    change [58, 55, 13] ++ [10, 88] = front ++ [carriageReturn, last] at shape
    have ends := List.append_inj' shape rfl
    simp [carriageReturn] at ends
  have accepts := ((read_accepts_frames none).2 _ fun _ => complete).1 _ _ succeeded
  exact ⟨succeeded, complete, accepts.2 [13, 10] (some .timedOut)⟩

/-- Where the input ends, the last byte of `+OK` and two more, a carriage return and an `X`, passes
for a line feed. The value is no frame of any of the bytes, and it is another one if a line end
follows. -/
theorem read_passes_for_line_feed :
    read none [43, 79, 75, 13, 88] = (.ok (.simple [79, 75]), []) ∧
      (¬∃ frame rest, Frame (.simple [79, 75]) frame ∧ [43, 79, 75, 13, 88] = frame ++ rest) ∧
      read none ([43, 79, 75, 13, 88] ++ [13, 10]) = (.ok (.simple [79, 75, 13, 88]), []) := by
  refine ⟨rfl, ?_, rfl⟩
  rintro ⟨frame, rest, framed, shape⟩
  cases framed with
  | simple text => simp [line, lineEnd, lineFeed, simpleMarker] at shape

end Acceptance

end SlotClient.Wire
