import SlotClient.Proofs.Wire.Truncation

/-!
# Values from frames only

A value that the reader returns has one of its frames at the front of the bytes, is within the
limits of the reader, and is followed by what is left. The proof follows the reader from lines over
bulk bodies and items to whole values.

There is one exception. Of the end of a line only the carriage return is checked, since the search
for the line has found the line feed unless the input ended. Where it did end, a byte behind a
carriage return passes for the line feed. `Takes` allows for this: the frame then is that of the
bytes with a line feed in place of the last one.
-/

namespace SlotClient.Wire

open Bytes (lineFeed carriageReturn lineEnd)

namespace Value

mutual

/-- Whether the frames of a value end with a line, and not with the body of a bulk string. -/
def endsInLine : Value → Bool
  | bulk (some _) => false
  | array items => itemsEndInLine items
  | _ => true

/-- Whether an array of items ends with a line: that of its last item, or its own. -/
def itemsEndInLine : List Value → Bool
  | [] => true
  | item :: rest => if rest.isEmpty then item.endsInLine else itemsEndInLine rest

end

/-- The value may stand where the reader allows a depth, and does not break its own lines. -/
structure IsWithin (depth : Nat) (value : Value) : Prop where
  plain : value.LinesAvoid lineFeed
  fits : value.BulksFit
  shallow : value.height < depth

end Value

/-- A piece stands at the front of the bytes and the rest follows it; or the bytes end with the
piece, but for another byte in place of its last line feed. -/
inductive Takes (fault : Option TransportFault) (inLine : Bool) : Bytes → Bytes → Bytes → Prop
  | whole (piece rest : Bytes) : Takes fault inLine piece (piece ++ rest) rest
  | overlooked (front : Bytes) {last : UInt8} (ended : fault = none) (line : inLine = true)
      (noFeed : last ≠ lineFeed) :
      Takes fault inLine (front ++ [lineFeed]) (front ++ [last]) []

namespace Takes

variable {fault : Option TransportFault} {inLine : Bool} {piece bytes rest : Bytes}

theorem of_nil (taken : Takes fault inLine piece [] rest) : piece = [] ∧ rest = [] := by
  generalize nothing : ([] : Bytes) = bytes at taken
  cases taken with
  | whole =>
      rcases List.append_eq_nil_iff.mp nothing.symm with ⟨rfl, rfl⟩
      exact ⟨rfl, rfl⟩
  | overlooked front ended line noFeed => exact absurd nothing (by simp)

/-- A piece is taken behind another one. Where the first one lacks its line feed, nothing is left
for the second. -/
theorem followed {first second remainder : Bytes} {firstInLine secondInLine : Bool}
    (taken : Takes fault firstInLine first bytes rest)
    (next : Takes fault secondInLine second rest remainder)
    (byFirst : second = [] → firstInLine = true → inLine = true)
    (bySecond : second ≠ [] → secondInLine = true → inLine = true) :
    Takes fault inLine (first ++ second) bytes remainder := by
  cases taken with
  | whole =>
      cases next with
      | whole =>
          rw [← List.append_assoc]
          exact .whole _ _
      | overlooked front ended line noFeed =>
          rw [← List.append_assoc, ← List.append_assoc]
          exact .overlooked _ ended (bySecond (by simp) line) noFeed
  | overlooked front ended line noFeed =>
      rcases next.of_nil with ⟨rfl, rfl⟩
      rw [List.append_nil]
      exact .overlooked front ended (byFirst rfl line) noFeed

end Takes

theorem lineContent?_append_pair (front : Bytes) (lastButOne last : UInt8) :
    lineContent? (front ++ [lastButOne, last]) =
      if lastButOne = carriageReturn then some front else none := by
  simp [lineContent?]

theorem lineContent?_eq_some {bytes content : Bytes} (isLine : lineContent? bytes = some content) :
    ∃ last, bytes = content ++ [carriageReturn, last] := by
  rcases List.eq_nil_or_concat' bytes with rfl | ⟨front, last, rfl⟩
  · cases isLine
  rcases List.eq_nil_or_concat' front with rfl | ⟨front, lastButOne, rfl⟩
  · cases isLine
  rw [List.append_assoc, List.singleton_append, lineContent?_append_pair] at isLine
  split at isLine
  · rename_i isReturn
    cases isLine
    exact ⟨last, by rw [isReturn, List.append_assoc, List.singleton_append]⟩
  · cases isLine

theorem Frame.ne_nil {value : Value} {bytes : Bytes} (frame : Frame value bytes) : bytes ≠ [] := by
  cases frame <;> simp [line]

theorem Frames.eq_nil_iff {items : List Value} {bytes : Bytes} (frames : Frames items bytes) :
    bytes = [] ↔ items = [] := by
  cases frames with
  | nil => simp
  | cons frame frames => simp [frame.ne_nil]

section Reading

variable {fault : Option TransportFault} {bytes rest : Bytes}

/-- A line that is read holds no line feed, and has its end behind it or, where the input ends,
a carriage return and another byte. -/
theorem readLine_ok {content : Bytes} (succeeded : readLine fault bytes = (.ok content, rest)) :
    lineFeed ∉ content ∧ Takes fault true (content ++ lineEnd) bytes rest := by
  have parts := @List.takeWhile_append_dropWhile _ (· != lineFeed) bytes
  have noFeed : lineFeed ∉ bytes.takeWhile (· != lineFeed) := by
    intro member
    have passed := List.mem_takeWhile_imp member
    simp at passed
  simp only [readLine] at succeeded
  generalize bytes.takeWhile (· != lineFeed) = beginning at parts noFeed succeeded
  split at succeeded
  · cases succeeded
  · rename_i nothing
    split at succeeded
    · cases succeeded
    · rw [nothing, List.append_nil] at parts
      subst parts
      split at succeeded
      · rename_i content isLine
        cases succeeded
        rcases lineContent?_eq_some isLine with ⟨last, rfl⟩
        rw [List.mem_append, List.mem_cons, List.mem_singleton, not_or, not_or] at noFeed
        rw [show content ++ lineEnd = (content ++ [carriageReturn]) ++ [lineFeed] by simp [lineEnd],
          show content ++ [carriageReturn, last] = (content ++ [carriageReturn]) ++ [last] by simp]
        exact ⟨noFeed.1, .overlooked _ rfl rfl (Ne.symm noFeed.2.2)⟩
      · cases succeeded
  · rename_i feed behind found
    have isFeed : feed = lineFeed := by
      have failed := List.head?_dropWhile_not (· != lineFeed) bytes
      rw [found] at failed
      simpa using failed
    split at succeeded
    · rename_i content isLine
      cases succeeded
      rcases lineContent?_eq_some isLine with ⟨last, lineEq⟩
      have shape : beginning ++ [feed] = (content ++ [carriageReturn]) ++ [last] := by
        rw [lineEq, List.append_assoc, List.singleton_append]
      rcases List.append_inj' shape rfl with ⟨rfl, _⟩
      rw [List.mem_append, not_or] at noFeed
      refine ⟨noFeed.1, ?_⟩
      rw [← parts, found, isFeed,
        show (content ++ [carriageReturn]) ++ lineFeed :: rest = content ++ lineEnd ++ rest by
          simp [lineEnd]]
      exact .whole _ _
    · cases succeeded

theorem readExactly_ok {count : Nat} {piece : Bytes}
    (succeeded : readExactly fault count bytes = (.ok piece, rest)) :
    piece.length = count ∧ bytes = piece ++ rest := by
  unfold readExactly at succeeded
  split at succeeded
  · rename_i enough
    cases succeeded
    exact ⟨List.length_take_of_le enough, (List.take_append_drop count bytes).symm⟩
  · cases succeeded

theorem readBulk_ok {length : Nat} {value : Value}
    (succeeded : readBulk fault length bytes = (.ok value, rest)) :
    ∃ body, value = .bulk (some body) ∧ body.length = length ∧ length ≤ bulkLimit ∧
      bytes = body ++ lineEnd ++ rest := by
  unfold readBulk at succeeded
  split at succeeded
  · cases succeeded
  rename_i fits
  split at succeeded
  · cases succeeded
  rename_i body behind readBody
  split at succeeded
  · cases succeeded
  rename_i ending remainder readEnd
  split at succeeded
  · rename_i isEnd
    cases succeeded
    rcases readExactly_ok readBody with ⟨length_eq, rfl⟩
    rcases readExactly_ok readEnd with ⟨_, rfl⟩
    exact ⟨body, rfl, length_eq, Nat.not_lt.mp fits, by rw [isEnd, List.append_assoc]⟩
  · cases succeeded

/-- A value is taken from the bytes as one of its frames. -/
def Accepts (fault : Option TransportFault) (value : Value) (bytes rest : Bytes) : Prop :=
  ∃ frame, Frame value frame ∧ Takes fault value.endsInLine frame bytes rest

theorem readItems_ok {depth : Nat} {readItem : Bytes → Outcome Value}
    (accepted : ∀ {bytes rest : Bytes} {value : Value}, readItem bytes = (.ok value, rest) →
      value.IsWithin depth ∧ Accepts fault value bytes rest)
    {count : Nat} {items : List Value}
    (succeeded : readItems readItem count bytes = (.ok items, rest)) :
    items.length = count ∧ (∀ item ∈ items, item.IsWithin depth) ∧
      ∃ frames, Frames items frames ∧
        Takes fault (Value.itemsEndInLine items) frames bytes rest := by
  induction count generalizing bytes items with
  | zero =>
      cases succeeded
      exact ⟨rfl, List.forall_mem_nil _, [], .nil, .whole [] _⟩
  | succ count ih =>
      unfold readItems at succeeded
      split at succeeded
      · cases succeeded
      rename_i item behind readFirst
      split at succeeded
      · cases succeeded
      rename_i others remainder readOthers
      cases succeeded
      rcases accepted readFirst with ⟨within, first, frame, taken⟩
      rcases ih readOthers with ⟨length, allWithin, second, frames, next⟩
      refine ⟨congrArg (· + 1) length, List.forall_mem_cons.mpr ⟨within, allWithin⟩,
        first ++ second, .cons frame frames, ?_⟩
      -- Only the last item can lack its line feed, since nothing is left behind such an item.
      apply taken.followed next
      · intro nothing line
        rw [frames.eq_nil_iff] at nothing
        simpa [Value.itemsEndInLine, nothing] using line
      · intro something line
        rw [Ne, frames.eq_nil_iff] at something
        simpa [Value.itemsEndInLine, something] using line

theorem isWithin_simple {content : Bytes} (noFeed : lineFeed ∉ content) (depth : Nat) :
    (Value.simple content).IsWithin (depth + 1) := by
  constructor <;> simp [Value.LinesAvoid, Value.BulksFit, Value.parts, Value.lineText?,
    Value.height, noFeed]

theorem isWithin_error {content : Bytes} (noFeed : lineFeed ∉ content) (depth : Nat) :
    (Value.error content).IsWithin (depth + 1) := by
  constructor <;> simp [Value.LinesAvoid, Value.BulksFit, Value.parts, Value.lineText?,
    Value.height, noFeed]

theorem isWithin_integer (number : Int64) (depth : Nat) :
    (Value.integer number).IsWithin (depth + 1) := by
  constructor <;> simp [Value.LinesAvoid, Value.BulksFit, Value.parts, Value.lineText?,
    Value.height]

theorem isWithin_null (depth : Nat) : Value.null.IsWithin (depth + 1) := by
  constructor <;> simp [Value.LinesAvoid, Value.BulksFit, Value.parts, Value.lineText?,
    Value.height, Value.null]

theorem isWithin_bulk {body : Bytes} (fits : body.length ≤ bulkLimit) (depth : Nat) :
    (Value.bulk (some body)).IsWithin (depth + 1) := by
  constructor <;> simp [Value.LinesAvoid, Value.BulksFit, Value.parts, Value.lineText?,
    Value.height, fits]

theorem isWithin_array {items : List Value} {depth : Nat}
    (within : ∀ item ∈ items, item.IsWithin depth) : (Value.array items).IsWithin (depth + 1) where
  plain := Value.linesAvoid_array.mpr fun item member => (within item member).plain
  fits := Value.bulksFit_array.mpr fun item member => (within item member).fits
  shallow := Nat.lt_succ_of_le <|
    Value.height_array_le_iff.mpr fun item member => (within item member).shallow

theorem isWithin_of_mem {items : List Value} {depth : Nat}
    (within : (Value.array items).IsWithin (depth + 1)) :
    ∀ item ∈ items, item.IsWithin depth := by
  intro item member
  have shallow := Value.height_array_le_iff.mp (Nat.le_of_lt_succ within.shallow) item member
  exact ⟨Value.linesAvoid_array.mp within.plain item member,
    Value.bulksFit_array.mp within.fits item member, shallow⟩

theorem toInt_eq_of_not_neg {number : Int64} (natural : ¬number < 0) :
    number.toInt = (number.toInt.toNat : Int) := by
  rw [Int64.lt_iff_toInt_lt, Int64.toInt_zero, Int.not_lt] at natural
  exact (Int.toNat_of_nonneg natural).symm

/-- What is read behind the first line of a value is the rest of a frame that begins with it. -/
def Completes (fault : Option TransportFault) (beginning : Bytes) (value : Value)
    (bytes rest : Bytes) : Prop :=
  ∃ behind inLine, Frame value (beginning ++ behind) ∧ Takes fault inLine behind bytes rest ∧
    (behind = [] ∨ inLine = true → value.endsInLine = true)

theorem completes_line {beginning : Bytes} {value : Value} (frame : Frame value beginning)
    (ends : value.endsInLine = true) (bytes : Bytes) :
    Completes fault beginning value bytes bytes :=
  ⟨[], true, by rwa [List.append_nil], .whole [] bytes, fun _ => ends⟩

theorem completes_bulk {content body : Bytes} {number : Int64}
    (denotes : Decimal.Denotes content number.toInt) (natural : ¬number < 0)
    (length : body.length = number.toInt.toNat) (rest : Bytes) :
    Completes fault (line bulkMarker content) (.bulk (some body)) (body ++ lineEnd ++ rest)
      rest := by
  have lengthEq := toInt_eq_of_not_neg natural
  rw [← length] at lengthEq
  refine ⟨body ++ lineEnd, false, ?_, .whole _ _, ?_⟩
  · rw [← List.append_assoc]
    exact .bulk denotes lengthEq
  · simp [lineEnd]

theorem completes_array {content frames : Bytes} {number : Int64} {items : List Value}
    (denotes : Decimal.Denotes content number.toInt) (natural : ¬number < 0)
    (count : items.length = number.toInt.toNat) (framed : Frames items frames)
    (taken : Takes fault (Value.itemsEndInLine items) frames bytes rest) :
    Completes fault (line arrayMarker content) (.array items) bytes rest := by
  have countEq := toInt_eq_of_not_neg natural
  rw [← count] at countEq
  refine ⟨frames, _, .array denotes countEq framed, taken, ?_⟩
  rw [framed.eq_nil_iff]
  rintro (rfl | ends)
  · rfl
  · exact ends

theorem readMarked_ok {depth : Nat} {readItem : Bytes → Outcome Value}
    (accepted : ∀ {bytes rest : Bytes} {value : Value}, readItem bytes = (.ok value, rest) →
      value.IsWithin depth ∧ Accepts fault value bytes rest)
    {marker : UInt8} {content : Bytes} (noFeed : lineFeed ∉ content) {value : Value}
    (succeeded : readMarked fault readItem marker content bytes = (.ok value, rest)) :
    value.IsWithin (depth + 1) ∧ Completes fault (line marker content) value bytes rest := by
  unfold readMarked at succeeded
  split at succeeded
  · rename_i isSimple
    cases succeeded
    subst isSimple
    exact ⟨isWithin_simple noFeed depth, completes_line (.simple content) rfl _⟩
  split at succeeded
  · rename_i isError
    cases succeeded
    subst isError
    exact ⟨isWithin_error noFeed depth, completes_line (.error content) rfl _⟩
  split at succeeded
  · cases succeeded
  rename_i number readNumber
  have denotes := Decimal.int64?_eq_some_iff.mp readNumber
  split at succeeded
  · rename_i isInteger
    cases succeeded
    subst isInteger
    exact ⟨isWithin_integer number depth, completes_line (.integer denotes) rfl _⟩
  split at succeeded
  · rename_i isBulk
    subst isBulk
    split at succeeded
    · rename_i negative
      cases succeeded
      exact ⟨isWithin_null depth, completes_line (.null (Or.inl rfl) denotes negative) rfl _⟩
    · rename_i natural
      rcases readBulk_ok succeeded with ⟨body, rfl, length, fits, rfl⟩
      rw [← length] at fits
      exact ⟨isWithin_bulk fits depth, completes_bulk denotes natural length rest⟩
  split at succeeded
  · rename_i isArray
    subst isArray
    split at succeeded
    · rename_i negative
      cases succeeded
      exact ⟨isWithin_null depth, completes_line (.null (Or.inr rfl) denotes negative) rfl _⟩
    · rename_i natural
      split at succeeded
      · cases succeeded
      · rename_i items remainder readAll
        cases succeeded
        rcases readItems_ok accepted readAll with ⟨count, within, frames, framed, taken⟩
        exact ⟨isWithin_array within, completes_array denotes natural count framed taken⟩
  · cases succeeded

theorem readNested_ok {depth : Nat} {value : Value}
    (succeeded : readNested fault depth bytes = (.ok value, rest)) :
    value.IsWithin depth ∧ Accepts fault value bytes rest := by
  induction depth generalizing bytes rest value with
  | zero => cases succeeded
  | succ depth ih =>
      unfold readNested at succeeded
      split at succeeded
      · cases succeeded
      · cases succeeded
      · rename_i marker content remainder readFirst
        rcases readLine_ok readFirst with ⟨noFeed, taken⟩
        rw [List.mem_cons, not_or] at noFeed
        rcases readMarked_ok ih noFeed.2 succeeded with
          ⟨within, behind, inLine, frame, next, ends⟩
        exact ⟨within, _, frame, taken.followed next (fun nothing _ => ends (Or.inl nothing))
          fun _ line => ends (Or.inr line)⟩

end Reading

end SlotClient.Wire
