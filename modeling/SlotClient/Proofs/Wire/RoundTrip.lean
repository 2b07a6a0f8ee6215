import SlotClient.Proofs.Delimiter
import SlotClient.Proofs.Wire.Frame

/-!
# Reading frames

A reader that is given frames one behind the other returns their values in order and leaves what
follows the last one, provided that no line holds a line feed, no bulk string exceeds the limit and
arrays do not nest too deep. It refuses a value that nests too deep or holds a longer bulk string.

Both facts go by induction on the frame, for every depth that the reader still allows: a value may
be as high as the reader allows arrays around it to be fewer.
-/

namespace SlotClient.Wire

open Bytes (lineFeed carriageReturn lineEnd)

variable (fault : Option TransportFault)

theorem lineContent?_append_lineEnd (content : Bytes) :
    lineContent? (content ++ lineEnd) = some content := by
  simp [lineContent?, lineEnd]

/-- A line that holds no line feed is read up to its end. -/
theorem readLine_line {marker : UInt8} {content : Bytes} (marked : marker ≠ lineFeed)
    (absent : lineFeed ∉ content) (rest : Bytes) :
    readLine fault (line marker content ++ rest) = (.ok (marker :: content), rest) := by
  have untilFeed : lineFeed ∉ marker :: content ++ [carriageReturn] := by
    simp only [List.cons_append, List.mem_cons, List.mem_append, List.not_mem_nil, or_false,
      not_or]
    exact ⟨marked.symm, absent, by decide⟩
  have shape : line marker content ++ rest =
      (marker :: content ++ [carriageReturn]) ++ lineFeed :: rest := by
    simp [line, lineEnd]
  have whole : marker :: content ++ [carriageReturn] ++ [lineFeed] =
      (marker :: content) ++ lineEnd := by
    simp [lineEnd]
  rw [shape]
  simp only [readLine, takeWhile_ne_append_cons untilFeed, dropWhile_ne_append_cons untilFeed, whole,
    lineContent?_append_lineEnd]

/-- Behind its first line a value is read by what its marker says. -/
theorem readNested_line {marker : UInt8} {content : Bytes} (marked : marker ≠ lineFeed)
    (absent : lineFeed ∉ content) (depth : Nat) (rest : Bytes) :
    readNested fault (depth + 1) (line marker content ++ rest) =
      readMarked fault (readNested fault depth) marker content rest := by
  simp only [readNested, readLine_line fault marked absent]

theorem readExactly_append (body rest : Bytes) :
    readExactly fault body.length (body ++ rest) = (.ok body, rest) := by
  simp [readExactly]

/-- The body of a bulk string is read up to its line end, whatever bytes it holds. -/
theorem readBulk_append {body : Bytes} (fits : body.length ≤ bulkLimit) (rest : Bytes) :
    readBulk fault body.length (body ++ lineEnd ++ rest) = (.ok (.bulk (some body)), rest) := by
  have ending : readExactly fault 2 (lineEnd ++ rest) = (.ok lineEnd, rest) :=
    readExactly_append fault lineEnd rest
  simp only [readBulk, if_neg (Nat.not_lt.mpr fits), List.append_assoc, readExactly_append, ending,
    if_true]

theorem readBulk_of_limit_lt {length : Nat} (exceeds : bulkLimit < length) (bytes : Bytes) :
    readBulk fault length bytes = (.error .protocol, bytes) := by
  simp only [readBulk, if_pos exceeds]

section Marked

variable {readItem : Bytes → Outcome Value} {text : Bytes} {number : Int64}

theorem readMarked_simple (content rest : Bytes) :
    readMarked fault readItem simpleMarker content rest = (.ok (.simple content), rest) := by
  simp [readMarked]

theorem readMarked_error (content rest : Bytes) :
    readMarked fault readItem errorMarker content rest = (.ok (.error content), rest) := by
  simp [readMarked, show errorMarker ≠ simpleMarker by decide]

theorem readMarked_integer (read : Decimal.int64? text = some number) (rest : Bytes) :
    readMarked fault readItem integerMarker text rest = (.ok (.integer number), rest) := by
  simp [readMarked, read, show integerMarker ≠ simpleMarker by decide,
    show integerMarker ≠ errorMarker by decide]

theorem readMarked_bulk (read : Decimal.int64? text = some number) (rest : Bytes) :
    readMarked fault readItem bulkMarker text rest =
      if number < 0 then (.ok .null, rest) else readBulk fault number.toInt.toNat rest := by
  simp [readMarked, read, show bulkMarker ≠ simpleMarker by decide,
    show bulkMarker ≠ errorMarker by decide, show bulkMarker ≠ integerMarker by decide]

theorem readMarked_null {marker : UInt8} (counted : marker = bulkMarker ∨ marker = arrayMarker)
    (read : Decimal.int64? text = some number) (negative : number < 0) (rest : Bytes) :
    readMarked fault readItem marker text rest = (.ok .null, rest) := by
  rcases counted with rfl | rfl
  · rw [readMarked_bulk fault read, if_pos negative]
  · simp [readMarked, read, negative, show arrayMarker ≠ simpleMarker by decide,
      show arrayMarker ≠ errorMarker by decide, show arrayMarker ≠ integerMarker by decide]

theorem readMarked_array (read : Decimal.int64? text = some number) (natural : ¬number < 0)
    (rest : Bytes) :
    readMarked fault readItem arrayMarker text rest =
      match readItems readItem number.toInt.toNat rest with
      | (.error failure, remainder) => (.error failure, remainder)
      | (.ok items, remainder) => (.ok (.array items), remainder) := by
  simp only [readMarked, read, if_neg natural]
  rfl

end Marked

theorem not_neg_of_toInt_eq {number : Int64} {length : Nat} (equal : number.toInt = length) :
    ¬number < 0 := by
  rw [Int64.lt_iff_toInt_lt, equal, Int64.toInt_zero]
  omega

section Items

variable {readItem : Bytes → Outcome Value} {bytes rest remainder : Bytes} {count : Nat}

theorem readItems_cons_ok {item : Value} {items : List Value}
    (readFirst : readItem bytes = (.ok item, rest))
    (readOthers : readItems readItem count rest = (.ok items, remainder)) :
    readItems readItem (count + 1) bytes = (.ok (item :: items), remainder) := by
  simp only [readItems, readFirst, readOthers]

theorem readItems_cons_error {failure : Failure}
    (failed : readItem bytes = (.error failure, rest)) :
    readItems readItem (count + 1) bytes = (.error failure, rest) := by
  simp only [readItems, failed]

theorem readItems_cons_later_error {item : Value} {failure : Failure}
    (readFirst : readItem bytes = (.ok item, rest))
    (failed : readItems readItem count rest = (.error failure, remainder)) :
    readItems readItem (count + 1) bytes = (.error failure, remainder) := by
  simp only [readItems, readFirst, failed]

end Items

theorem lineFeed_not_mem {text : Bytes} {number : Int} (denotes : Decimal.Denotes text number) :
    lineFeed ∉ text :=
  denotes.not_mem (by decide)

section Counted

variable {text rest remainder : Bytes} {number : Int64} {length depth : Nat}

theorem readNested_bulk (denotes : Decimal.Denotes text number.toInt)
    (counts : number.toInt = length) (depth : Nat) (rest : Bytes) :
    readNested fault (depth + 1) (line bulkMarker text ++ rest) = readBulk fault length rest := by
  have read : Decimal.int64? text = some number := Decimal.int64?_eq_some_iff.mpr denotes
  rw [readNested_line fault (by decide) (lineFeed_not_mem denotes), readMarked_bulk fault read,
    if_neg (not_neg_of_toInt_eq counts), counts, Int.toNat_natCast]

theorem readNested_array_ok {items : List Value} (denotes : Decimal.Denotes text number.toInt)
    (counts : number.toInt = length)
    (readAll : readItems (readNested fault depth) length rest = (.ok items, remainder)) :
    readNested fault (depth + 1) (line arrayMarker text ++ rest) =
      (.ok (.array items), remainder) := by
  have read : Decimal.int64? text = some number := Decimal.int64?_eq_some_iff.mpr denotes
  rw [readNested_line fault (by decide) (lineFeed_not_mem denotes),
    readMarked_array fault read (not_neg_of_toInt_eq counts), counts, Int.toNat_natCast, readAll]

theorem readNested_array_error {failure : Failure}
    (denotes : Decimal.Denotes text number.toInt) (counts : number.toInt = length)
    (failed : readItems (readNested fault depth) length rest = (.error failure, remainder)) :
    readNested fault (depth + 1) (line arrayMarker text ++ rest) =
      (.error failure, remainder) := by
  have read : Decimal.int64? text = some number := Decimal.int64?_eq_some_iff.mpr denotes
  rw [readNested_line fault (by decide) (lineFeed_not_mem denotes),
    readMarked_array fault read (not_neg_of_toInt_eq counts), counts, Int.toNat_natCast, failed]

end Counted

mutual

/-- A value within the limits is read from its frame, and what follows the frame is left. -/
theorem readNested_frame {value : Value} {bytes : Bytes} (frame : Frame value bytes)
    (plain : value.LinesAvoid lineFeed) (fits : value.BulksFit) {depth : Nat}
    (shallow : value.height ≤ depth) (rest : Bytes) :
    readNested fault (depth + 1) (bytes ++ rest) = (.ok value, rest) := by
  cases frame with
  | simple text =>
      rw [readNested_line fault (by decide) (plain.not_mem rfl), readMarked_simple]
  | error message =>
      rw [readNested_line fault (by decide) (plain.not_mem rfl), readMarked_error]
  | integer denotes =>
      have read := Decimal.int64?_eq_some_iff.mpr denotes
      rw [readNested_line fault (by decide) (lineFeed_not_mem denotes),
        readMarked_integer fault read]
  | @null marker text number counted denotes negative =>
      have read := Decimal.int64?_eq_some_iff.mpr denotes
      have marked : marker ≠ lineFeed := by rcases counted with rfl | rfl <;> decide
      rw [readNested_line fault marked (lineFeed_not_mem denotes),
        readMarked_null fault counted read negative]
  | bulk denotes length =>
      rw [List.append_assoc, List.append_assoc, readNested_bulk fault denotes length,
        ← List.append_assoc]
      exact readBulk_append fault fits.length_le rest
  | array denotes count frames =>
      rw [List.append_assoc]
      apply readNested_array_ok fault denotes count
      exact readItems_frames frames (Value.linesAvoid_array.mp plain)
        (Value.bulksFit_array.mp fits) (Value.height_array_le_iff.mp shallow) rest

/-- Values within the limits are read from their frames, and what follows the last is left. -/
theorem readItems_frames {items : List Value} {bytes : Bytes} (frames : Frames items bytes)
    (plain : ∀ item ∈ items, item.LinesAvoid lineFeed) (fit : ∀ item ∈ items, item.BulksFit)
    {depth : Nat} (shallow : ∀ item ∈ items, item.height < depth) (rest : Bytes) :
    readItems (readNested fault depth) items.length (bytes ++ rest) = (.ok items, rest) := by
  cases frames with
  | nil => rfl
  | cons frame frames =>
      rw [List.forall_mem_cons] at plain fit shallow
      rcases depth with _ | depth
      · exact absurd shallow.1 (Nat.not_lt_zero _)
      · rw [List.append_assoc]
        apply readItems_cons_ok
        · exact readNested_frame frame plain.1 fit.1 (Nat.le_of_lt_succ shallow.1) _
        · exact readItems_frames frames plain.2 fit.2 shallow.2 rest

end

mutual

/-- A value that nests too deep, or holds a bulk string that is too long, is refused. -/
theorem readNested_frame_protocol {value : Value} {bytes : Bytes} (frame : Frame value bytes)
    (plain : value.LinesAvoid lineFeed) {depth : Nat}
    (exceeds : ¬(value.BulksFit ∧ value.height < depth)) (rest : Bytes) :
    ∃ remainder, readNested fault depth (bytes ++ rest) = (.error .protocol, remainder) := by
  rcases depth with _ | depth
  · exact ⟨_, rfl⟩
  cases frame with
  | simple text => exact absurd (by simp [Value.BulksFit, Value.parts, Value.height]) exceeds
  | error message => exact absurd (by simp [Value.BulksFit, Value.parts, Value.height]) exceeds
  | integer denotes => exact absurd (by simp [Value.BulksFit, Value.parts, Value.height]) exceeds
  | null counted denotes negative =>
      exact absurd (by simp [Value.BulksFit, Value.null, Value.parts, Value.height]) exceeds
  | @bulk text body number denotes length =>
      have tooLong : bulkLimit < body.length := by
        simpa [Value.BulksFit, Value.parts, Value.height] using exceeds
      rw [List.append_assoc, List.append_assoc, readNested_bulk fault denotes length]
      exact ⟨_, readBulk_of_limit_lt fault tooLong _⟩
  | @array text bytes number items denotes count frames =>
      have someExceeds : ¬∀ item ∈ items, item.BulksFit ∧ item.height < depth := by
        intro allWithin
        apply exceeds
        refine ⟨Value.bulksFit_array.mpr fun item itemMem => (allWithin item itemMem).1, ?_⟩
        apply Nat.lt_succ_of_le
        exact Value.height_array_le_iff.mpr fun item itemMem => (allWithin item itemMem).2
      rcases readItems_frames_protocol frames (Value.linesAvoid_array.mp plain) someExceeds rest
        with ⟨remainder, failed⟩
      rw [List.append_assoc]
      exact ⟨remainder, readNested_array_error fault denotes count failed⟩

/-- Values one of which exceeds the limits are refused. -/
theorem readItems_frames_protocol {items : List Value} {bytes : Bytes}
    (frames : Frames items bytes) (plain : ∀ item ∈ items, item.LinesAvoid lineFeed) {depth : Nat}
    (exceeds : ¬∀ item ∈ items, item.BulksFit ∧ item.height < depth) (rest : Bytes) :
    ∃ remainder, readItems (readNested fault depth) items.length (bytes ++ rest) =
      (.error .protocol, remainder) := by
  cases frames with
  | nil => exact absurd (fun item itemMem => absurd itemMem List.not_mem_nil) exceeds
  | @cons item items first others frame frames =>
      rw [List.forall_mem_cons] at plain exceeds
      rw [List.append_assoc]
      by_cases within : item.BulksFit ∧ item.height < depth
      · have othersExceed := fun othersWithin => exceeds ⟨within, othersWithin⟩
        rcases readItems_frames_protocol frames plain.2 othersExceed rest with ⟨remainder, failed⟩
        rcases depth with _ | depth
        · exact absurd within.2 (Nat.not_lt_zero _)
        · have readFirst := readNested_frame fault frame plain.1 within.1
            (Nat.le_of_lt_succ within.2) (others ++ rest)
          exact ⟨remainder, readItems_cons_later_error readFirst failed⟩
      · rcases readNested_frame_protocol frame plain.1 within (others ++ rest) with
          ⟨remainder, failed⟩
        exact ⟨remainder, readItems_cons_error failed⟩

end

/-- A value within the limits is read as a reply from its frame, and nothing of it is left. -/
theorem read_frame {value : Value} {bytes : Bytes} (frame : Frame value bytes)
    (plain : value.LinesAvoid lineFeed) (fits : value.BulksFit) (shallow : value.height ≤ 8) :
    read fault bytes = (.ok value, []) := by
  have complete := readNested_frame fault frame plain fits shallow []
  rwa [List.append_nil] at complete

theorem lt_nestingLimit {height : Nat} : height < nestingLimit ↔ height ≤ 8 :=
  Nat.lt_succ_iff

/--
Reading as many values as there are frames returns the values in order and leaves exactly what
follows. A value that is too high or holds too long a bulk string is refused. The forms in which
values are written are frames of them, and the null has one as a bulk string and one as an array.
-/
theorem read_frames_exactly :
    (∀ (items : List Value) (bytes rest : Bytes), Frames items bytes →
      (∀ item ∈ items, item.LinesAvoid lineFeed ∧ item.BulksFit ∧ item.height ≤ 8) →
      readItems (read fault) items.length (bytes ++ rest) = (.ok items, rest)) ∧
    (∀ (value : Value) (bytes rest : Bytes), Frame value bytes → value.LinesAvoid lineFeed →
      (8 < value.height ∨
        ∃ body, Value.bulk (some body) ∈ value.parts ∧ 512 * 1024 * 1024 < body.length) →
      (read fault (bytes ++ rest)).1 = .error .protocol) ∧
    (∀ items : List Value, (∀ item ∈ items, item.IsCountable) →
      Frames items (Value.encodeItems items)) ∧
    ∀ marker, marker = bulkMarker ∨ marker = arrayMarker →
      Frame .null (line marker (Decimal.signedDigits (-1))) := by
  refine ⟨?_, ?_, frames_encodeItems, fun _ => frame_null⟩
  · intro items bytes rest frames within
    apply readItems_frames fault frames
    · exact fun item itemMem => (within item itemMem).1
    · exact fun item itemMem => (within item itemMem).2.1
    · exact fun item itemMem => lt_nestingLimit.mpr (within item itemMem).2.2
  · intro value bytes rest frame plain exceeds
    have outside : ¬(value.BulksFit ∧ value.height < nestingLimit) := by
      rintro ⟨fits, shallow⟩
      rcases exceeds with tooHigh | ⟨body, bodyMem, tooLong⟩
      · exact Nat.not_le_of_lt tooHigh (lt_nestingLimit.mp shallow)
      · exact Nat.not_le_of_lt tooLong (fits body bodyMem)
    rcases readNested_frame_protocol fault frame plain outside rest with ⟨remainder, refused⟩
    exact congrArg Prod.fst refused

theorem read_frames_exactly_nested :
    readItems (read none) 2
        (line arrayMarker [50] ++ (line bulkMarker [50] ++ lineEnd ++ lineEnd ++
          (line arrayMarker [45, 49] ++ [])) ++ (line integerMarker [45, 48, 55] ++ []) ++
          [43, 79]) =
      (.ok [.array [.bulk (some lineEnd), .null], .integer (-7)], [43, 79]) ∧
    (read none (Value.encode (.array [.array [.array [.array [.array [.array [.array [.array
      [.array [.array []]]]]]]]]]) ++ [43, 79])).1 = .error .protocol := by
  have two := Decimal.int64?_eq_some_iff.mp (show Decimal.int64? [50] = some 2 by decide)
  have minusOne := Decimal.int64?_eq_some_iff.mp
    (show Decimal.int64? [45, 49] = some (-1) by decide)
  have minusSeven := Decimal.int64?_eq_some_iff.mp
    (show Decimal.int64? [45, 48, 55] = some (-7) by decide)
  constructor
  · apply (read_frames_exactly none).1 [.array [.bulk (some lineEnd), .null], .integer (-7)]
    · apply Frames.cons
      · apply Frame.array two rfl
        apply Frames.cons (Frame.bulk two rfl)
        exact Frames.cons (Frame.null (Or.inr rfl) minusOne (by decide)) Frames.nil
      · exact Frames.cons (Frame.integer minusSeven) Frames.nil
    · simp [Value.LinesAvoid, Value.BulksFit, Value.parts, Value.partsOfItems, Value.height,
        Value.heightOfItems, Value.lineText?, Value.null, lineEnd, bulkLimit]
  · apply (read_frames_exactly none).2.1
    · apply frame_encode
      simp [Value.IsCountable, Value.parts, Value.partsOfItems]
      decide
    · simp [Value.LinesAvoid, Value.parts, Value.partsOfItems, Value.lineText?]
    · exact Or.inl (by decide)

end SlotClient.Wire
