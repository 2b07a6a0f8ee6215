import SlotClient.Proofs.Wire.Layout
import SlotClient.Proofs.Wire.RoundTrip

/-!
# Replies that cannot be read

No value is read from a frame that breaks off before its end, provided that neither byte of a line
end occurs inside a line. Without that proviso a line that breaks off could be taken for a complete
one, because only the first byte of its end is checked where the input ends. What is met instead of
a value depends on the place where the frame breaks off: the end of input, or a part of a line, which
is no part of the protocol.

Whatever the reason that no reply can be read, the failure is one that breaks the connection.
-/

namespace SlotClient.Wire

open Bytes (lineFeed carriageReturn lineEnd)

variable (fault : Option TransportFault)

/-- What the reader meets where a frame breaks off, on a connection that ends there or has a
fault. -/
def Place.failure : Place → Failure
  | beforeLine => .transport (fault.getD .endOfInput)
  | insideLine => (fault.map Failure.transport).getD .protocol
  | insideBody => .transport (fault.getD .shortRead)

/-- Bytes without a line feed are no line unless their last byte but one is a carriage return. -/
theorem readLine_incomplete {bytes : Bytes} (begun : bytes ≠ []) (noFeed : lineFeed ∉ bytes)
    (incomplete : lineContent? bytes = none) :
    readLine fault bytes = (.error (Place.insideLine.failure fault), []) := by
  rcases fault with _ | fault
  · simp [readLine, Place.failure, takeWhile_ne_of_notMem noFeed, dropWhile_ne_of_notMem noFeed,
      begun, incomplete]
  · simp [readLine, Place.failure, dropWhile_ne_of_notMem noFeed]

theorem readLine_nil : readLine fault [] = (.error (Place.beforeLine.failure fault), []) := by
  cases fault <;> rfl

theorem lineContent?_eq_none {front : Bytes} (noReturn : carriageReturn ∉ front) (last : UInt8) :
    lineContent? (front ++ [last]) = none := by
  rcases front with _ | ⟨byte, rest⟩
  · simp [lineContent?]
  · have lastButOne : (byte :: rest ++ [last])[(byte :: rest ++ [last]).length - 2]? ≠
        some carriageReturn := by
      rw [List.getElem?_append_left (by simp)]
      exact fun found => noReturn (List.mem_of_getElem? found)
    simp only [lineContent?, Bool.and_eq_true, beq_iff_eq, lastButOne, and_false, if_false]

/-- A part of a line lacks the line feed, and a carriage return can only be its last byte. -/
theorem readLine_part {marker : UInt8} {content kept lost : Bytes}
    (noFeed : lineFeed ∉ marker :: content) (noReturn : carriageReturn ∉ marker :: content)
    (begun : kept ≠ []) (incomplete : lost ≠ []) (split : line marker content = kept ++ lost) :
    readLine fault kept = (.error (Place.insideLine.failure fault), []) := by
  have isPrefix : kept <+: marker :: content ++ [carriageReturn] := by
    have shape : (marker :: content ++ [carriageReturn]) ++ [lineFeed] = kept ++ lost := by
      simpa [line, lineEnd] using split
    rcases List.prefix_concat_iff.mp ⟨lost, shape.symm⟩ with complete | proper
    · rw [complete, List.self_eq_append_right] at shape
      exact absurd shape incomplete
    · exact proper
  apply readLine_incomplete fault begun
  · intro member
    rcases List.mem_append.mp (isPrefix.subset member) with inContent | isReturn
    · exact noFeed inContent
    · exact absurd (List.mem_singleton.mp isReturn) (by decide)
  · rcases List.eq_nil_or_concat' kept with rfl | ⟨front, last, rfl⟩
    · contradiction
    · apply lineContent?_eq_none
      intro member
      apply noReturn
      rcases List.prefix_concat_iff.mp isPrefix with complete | proper
      · rw [← (List.append_inj' complete rfl).1]
        exact member
      · exact proper.subset (List.mem_append_left _ member)

/-- A value whose first line breaks off is not read. -/
theorem readNested_line_breaksOff {marker : UInt8} {content cut : Bytes} {place : Place}
    (noFeed : lineFeed ∉ marker :: content) (noReturn : carriageReturn ∉ marker :: content)
    (breaks : BreaksOff [.line marker content] cut place) (depth : Nat) :
    readNested fault (depth + 1) cut = (.error (place.failure fault), []) := by
  cases breaks with
  | beforeLine => simp only [readNested, readLine_nil]
  | insideLine begun incomplete split =>
      simp only [readNested, readLine_part fault noFeed noReturn begun incomplete split]
  | behind piece later => cases later

theorem readExactly_error {count : Nat} {bytes : Bytes} (short : bytes.length < count) :
    readExactly fault count bytes = (.error (Place.insideBody.failure fault), []) := by
  simp only [readExactly, if_neg (Nat.not_le_of_lt short), Place.failure]

/-- The body of a bulk string that breaks off, or its line end, is not read. -/
theorem readBulk_breaksOff {body cut : Bytes} {place : Place} (fits : body.length ≤ bulkLimit)
    (breaks : BreaksOff [.body body] cut place) :
    readBulk fault body.length cut = (.error (place.failure fault), []) := by
  have allowed : ¬bulkLimit < body.length := Nat.not_lt.mpr fits
  cases breaks with
  | insideBody incomplete split =>
      -- The body and its line end are read one after the other, so either read can fall short.
      rcases append_cut split with ⟨more, some, bodyEq⟩ | ⟨kept, cutEq, endEq⟩
      · have short : cut.length < body.length := by
          have := List.length_pos_iff.mpr some
          rw [bodyEq, List.length_append]
          omega
        simp only [readBulk, if_neg allowed, readExactly_error fault short]
      · have short : kept.length < 2 := by
          have := List.length_pos_iff.mpr incomplete
          have lengths := congrArg List.length endEq
          simp only [lineEnd, List.length_append, List.length_cons, List.length_nil] at lengths
          omega
        simp only [readBulk, if_neg allowed, cutEq, readExactly_append,
          readExactly_error fault short]
  | behind piece later => cases later

/-- The line of a length, a count or an integer holds neither byte of a line end. -/
theorem lineEnd_not_mem_line {text : Bytes} {number : Int}
    (denotes : Decimal.Denotes text number) {marker : UInt8} (printable : 32 ≤ marker.toNat) :
    lineFeed ∉ marker :: text ∧ carriageReturn ∉ marker :: text := by
  constructor
  · apply List.not_mem_cons_of_ne_of_not_mem ?_ (denotes.not_mem (by decide))
    rintro rfl
    exact absurd printable (by decide)
  · apply List.not_mem_cons_of_ne_of_not_mem ?_ (denotes.not_mem (by decide))
    rintro rfl
    exact absurd printable (by decide)

mutual

/-- No value is read from a frame that breaks off, and the place decides what is met instead. -/
theorem readNested_breaksOff {value : Value} {pieces : List Piece} (layout : Layout value pieces)
    (noFeed : value.LinesAvoid lineFeed) (noReturn : value.LinesAvoid carriageReturn)
    (fits : value.BulksFit) {depth : Nat} (shallow : value.height ≤ depth) {cut : Bytes}
    {place : Place} (breaks : BreaksOff pieces cut place) :
    readNested fault (depth + 1) cut = (.error (place.failure fault), []) := by
  cases layout with
  | simple text =>
      apply readNested_line_breaksOff fault ?_ ?_ breaks
      · exact List.not_mem_cons_of_ne_of_not_mem (by decide) (noFeed.not_mem rfl)
      · exact List.not_mem_cons_of_ne_of_not_mem (by decide) (noReturn.not_mem rfl)
  | error message =>
      apply readNested_line_breaksOff fault ?_ ?_ breaks
      · exact List.not_mem_cons_of_ne_of_not_mem (by decide) (noFeed.not_mem rfl)
      · exact List.not_mem_cons_of_ne_of_not_mem (by decide) (noReturn.not_mem rfl)
  | integer denotes =>
      have clean := lineEnd_not_mem_line denotes (show 32 ≤ integerMarker.toNat by decide)
      exact readNested_line_breaksOff fault clean.1 clean.2 breaks depth
  | @null marker text number counted denotes negative =>
      have printable : 32 ≤ marker.toNat := by rcases counted with rfl | rfl <;> decide
      have clean := lineEnd_not_mem_line denotes printable
      exact readNested_line_breaksOff fault clean.1 clean.2 breaks depth
  | @bulk text body number denotes length =>
      have clean := lineEnd_not_mem_line denotes (show 32 ≤ bulkMarker.toNat by decide)
      rcases breaks.append_cases [.line bulkMarker text] with inLine | ⟨kept, rfl, inBody⟩
      · exact readNested_line_breaksOff fault clean.1 clean.2 inLine depth
      · rw [written_singleton, Piece.written, readNested_bulk fault denotes length]
        exact readBulk_breaksOff fault fits.length_le inBody
  | @array text number items pieces denotes count layouts =>
      have clean := lineEnd_not_mem_line denotes (show 32 ≤ arrayMarker.toNat by decide)
      rcases breaks.append_cases [.line arrayMarker text] with inLine | ⟨kept, rfl, inItems⟩
      · exact readNested_line_breaksOff fault clean.1 clean.2 inLine depth
      · rw [written_singleton, Piece.written]
        apply readNested_array_error fault denotes count
        exact readItems_breaksOff layouts (Value.linesAvoid_array.mp noFeed)
          (Value.linesAvoid_array.mp noReturn) (Value.bulksFit_array.mp fits)
          (Value.height_array_le_iff.mp shallow) inItems

/-- Not all values are read from their frames if these break off. -/
theorem readItems_breaksOff {items : List Value} {pieces : List Piece}
    (layouts : Layouts items pieces) (noFeed : ∀ item ∈ items, item.LinesAvoid lineFeed)
    (noReturn : ∀ item ∈ items, item.LinesAvoid carriageReturn)
    (fit : ∀ item ∈ items, item.BulksFit) {depth : Nat}
    (shallow : ∀ item ∈ items, item.height < depth) {cut : Bytes} {place : Place}
    (breaks : BreaksOff pieces cut place) :
    readItems (readNested fault depth) items.length cut =
      (.error (place.failure fault), []) := by
  cases layouts with
  | nil => cases breaks
  | cons layout layouts =>
      rw [List.forall_mem_cons] at noFeed noReturn fit shallow
      rcases depth with _ | depth
      · exact absurd shallow.1 (Nat.not_lt_zero _)
      have shallowFirst := Nat.le_of_lt_succ shallow.1
      rcases breaks.append_cases _ with inFirst | ⟨kept, rfl, inOthers⟩
      · exact readItems_cons_error
          (readNested_breaksOff layout noFeed.1 noReturn.1 fit.1 shallowFirst inFirst)
      · have readFirst := readNested_frame fault layout.frame noFeed.1 fit.1 shallowFirst kept
        exact readItems_cons_later_error readFirst
          (readItems_breaksOff layouts noFeed.2 noReturn.2 fit.2 shallow.2 inOthers)

end

/-- No reply is read from a frame that breaks off. -/
theorem read_cut {value : Value} {bytes cut lost : Bytes} (frame : Frame value bytes)
    (noFeed : value.LinesAvoid lineFeed) (noReturn : value.LinesAvoid carriageReturn)
    (fits : value.BulksFit) (shallow : value.height ≤ 8) (incomplete : lost ≠ [])
    (broken : bytes = cut ++ lost) : ∃ failure rest, read fault cut = (.error failure, rest) := by
  rcases frame.layout with ⟨pieces, layout, rfl⟩
  rcases exists_breaksOff incomplete broken with ⟨place, breaks⟩
  exact ⟨_, _, readNested_breaksOff fault layout noFeed noReturn fits shallow breaks⟩

/-- Where nothing has arrived, reading meets the fault of the connection or the end of input. -/
theorem read_nil : read fault [] = (.error (.transport (fault.getD .endOfInput)), []) := by
  cases fault <;> rfl

theorem breaksConnection_readLine {bytes rest : Bytes} {failure : Failure}
    (failed : readLine fault bytes = (.error failure, rest)) : failure.breaksConnection = true := by
  simp only [readLine] at failed
  split at failed
  · cases failed
    rfl
  · split at failed
    · cases failed
      rfl
    · split at failed <;> cases failed
      rfl
  · split at failed <;> cases failed
    rfl

theorem breaksConnection_readExactly {count : Nat} {bytes rest : Bytes} {failure : Failure}
    (failed : readExactly fault count bytes = (.error failure, rest)) :
    failure.breaksConnection = true := by
  unfold readExactly at failed
  split at failed <;> cases failed
  rfl

theorem breaksConnection_readBulk {length : Nat} {bytes rest : Bytes} {failure : Failure}
    (failed : readBulk fault length bytes = (.error failure, rest)) :
    failure.breaksConnection = true := by
  unfold readBulk at failed
  split at failed
  · cases failed
    rfl
  · split at failed
    · rename_i bodyFailed
      cases failed
      exact breaksConnection_readExactly fault bodyFailed
    · split at failed
      · rename_i endFailed
        cases failed
        exact breaksConnection_readExactly fault endFailed
      · split at failed <;> cases failed
        rfl

theorem breaksConnection_readItems {readItem : Bytes → Outcome Value}
    (breaks : ∀ {bytes rest failure}, readItem bytes = (.error failure, rest) →
      failure.breaksConnection = true) {count : Nat} {bytes rest : Bytes} {failure : Failure}
    (failed : readItems readItem count bytes = (.error failure, rest)) :
    failure.breaksConnection = true := by
  induction count generalizing bytes rest with
  | zero => cases failed
  | succ count ih =>
      unfold readItems at failed
      split at failed
      · rename_i firstFailed
        cases failed
        exact breaks firstFailed
      · split at failed
        · rename_i othersFailed
          cases failed
          exact ih othersFailed
        · cases failed

theorem breaksConnection_readMarked {readItem : Bytes → Outcome Value}
    (breaks : ∀ {bytes rest failure}, readItem bytes = (.error failure, rest) →
      failure.breaksConnection = true) {marker : UInt8} {content bytes rest : Bytes}
    {failure : Failure}
    (failed : readMarked fault readItem marker content bytes = (.error failure, rest)) :
    failure.breaksConnection = true := by
  unfold readMarked at failed
  split at failed
  · cases failed
  split at failed
  · cases failed
  split at failed
  · cases failed
    rfl
  split at failed
  · cases failed
  split at failed
  · split at failed
    · cases failed
    · exact breaksConnection_readBulk fault failed
  split at failed
  · split at failed
    · cases failed
    · split at failed
      · rename_i itemsFailed
        cases failed
        exact breaksConnection_readItems breaks itemsFailed
      · cases failed
  · cases failed
    rfl

theorem breaksConnection_readNested {depth : Nat} {bytes rest : Bytes} {failure : Failure}
    (failed : readNested fault depth bytes = (.error failure, rest)) :
    failure.breaksConnection = true := by
  induction depth generalizing bytes rest failure with
  | zero =>
      cases failed
      rfl
  | succ depth ih =>
      unfold readNested at failed
      split at failed
      · rename_i lineFailed
        cases failed
        exact breaksConnection_readLine fault lineFailed
      · cases failed
        rfl
      · exact breaksConnection_readMarked fault ih failed

/-- Whenever no reply can be read, the connection is not to be used again. -/
theorem breaksConnection_read {bytes rest : Bytes} {failure : Failure}
    (failed : read fault bytes = (.error failure, rest)) : failure.breaksConnection = true :=
  breaksConnection_readNested fault failed

/-- A frame that breaks off is never read as a value. This is about frames without carriage returns
and line feeds inside their lines, and within the limits of the reader, on an input that ends where
the frame breaks off. A frame is laid out in pieces, and wherever it breaks off, this is at one of
the places of its pieces. Before a line, and in the body of a bulk string or the line end behind it,
the end of input is met. A part of a line is no part of the protocol. Either way the connection is
not to be used again. The form in which a value is written is one of its frames. -/
theorem broken_frames_are_refused :
    (∀ value pieces, Layout value pieces → value.LinesAvoid lineFeed →
      value.LinesAvoid carriageReturn → value.BulksFit → value.height ≤ 8 →
      (∀ cut lost, lost ≠ [] → written pieces = cut ++ lost →
        ∃ place, BreaksOff pieces cut place) ∧
      ∀ cut place, BreaksOff pieces cut place →
        ∃ failure, (read none cut).1 = .error failure ∧ failure.breaksConnection = true ∧
          (place = .insideLine → failure = .protocol) ∧
          (place = .beforeLine ∨ place = .insideBody →
            ∃ fault, failure = .transport fault ∧ fault.name = "UnexpectedEof")) ∧
    (∀ value bytes, Frame value bytes ↔ ∃ pieces, Layout value pieces ∧ written pieces = bytes) ∧
    (∀ value : Value, value.IsCountable → Frame value value.encode) ∧
    ∀ marker, marker = bulkMarker ∨ marker = arrayMarker →
      Frame .null (line marker (Decimal.signedDigits (-1))) := by
  refine ⟨?_, fun _ _ => frame_iff, frame_encode, fun _ => frame_null⟩
  intro value pieces layout noFeed noReturn fits shallow
  refine ⟨fun cut lost incomplete => exists_breaksOff incomplete, ?_⟩
  intro cut place breaks
  have failed : read none cut = (.error (place.failure none), []) :=
    readNested_breaksOff none layout noFeed noReturn fits shallow breaks
  refine ⟨place.failure none, congrArg Prod.fst failed, breaksConnection_read none failed, ?_, ?_⟩
  · rintro rfl
    rfl
  · rintro (rfl | rfl)
    · exact ⟨.endOfInput, rfl, rfl⟩
    · exact ⟨.shortRead, rfl, rfl⟩

/-- A bulk string that looks like a line, in an array that breaks off between the two bytes of the
line end behind it. -/
theorem broken_frames_are_refused_in_body :
    ∃ failure, (read none [42, 50, 13, 10, 36, 51, 13, 10, 58, 49, 13, 13]).1 = .error failure ∧
      failure.breaksConnection = true ∧
      ∃ fault, failure = .transport fault ∧ fault.name = "UnexpectedEof" := by
  have two := Decimal.int64?_eq_some_iff.mp (show Decimal.int64? [50] = some 2 by decide)
  have three := Decimal.int64?_eq_some_iff.mp (show Decimal.int64? [51] = some 3 by decide)
  have layout : Layout (.array [.bulk (some [58, 49, 13]), .simple [79, 75]])
      [.line arrayMarker [50], .line bulkMarker [51], .body [58, 49, 13],
        .line simpleMarker [79, 75]] :=
    .array two rfl (.cons (.bulk three rfl) (.cons (.simple [79, 75]) .nil))
  have breaks : BreaksOff [.line arrayMarker [50], .line bulkMarker [51], .body [58, 49, 13],
      .line simpleMarker [79, 75]] [42, 50, 13, 10, 36, 51, 13, 10, 58, 49, 13, 13] .insideBody :=
    .behind (.line arrayMarker [50]) (.behind (.line bulkMarker [51])
      (.insideBody (List.cons_ne_nil 10 []) rfl _))
  have refused := (broken_frames_are_refused.1 _ _ layout ?_ ?_ ?_ ?_).2 _ _ breaks
  · rcases refused with ⟨failure, failed, broken, _, ended⟩
    exact ⟨failure, failed, broken, ended (Or.inr rfl)⟩
  all_goals
    simp [Value.LinesAvoid, Value.BulksFit, Value.parts, Value.partsOfItems, Value.height,
      Value.heightOfItems, Value.lineText?, lineFeed, carriageReturn, bulkLimit]

end SlotClient.Wire
