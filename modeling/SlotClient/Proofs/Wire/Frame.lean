import Mathlib.Data.List.Basic
import SlotClient.Proofs.Decimal.Digits
import SlotClient.Wire.Reading

/-!
# Frames

A frame is the complete written form of a value. Its lines state integers, lengths and counts as
decimal texts, which need not be the shortest ones, and a negative length or count states the null;
so a value may have several frames, and the form in which this library writes it is one of them.

What the reader accepts depends on three measures of a value: how deep arrays nest in it, how long
its bulk strings are, and which bytes its lines hold. All three are stated over the parts of the
value, which are the value itself and everything inside it.
-/

namespace SlotClient.Wire

namespace Value

mutual

/-- A value and all values inside it. -/
def parts : Value → List Value
  | array items => array items :: partsOfItems items
  | value => [value]

/-- All values inside an array of items. -/
def partsOfItems : List Value → List Value
  | [] => []
  | item :: rest => item.parts ++ partsOfItems rest

end

mutual

/-- How deep arrays nest in a value. Only an array that has items adds to it. -/
def height : Value → Nat
  | array items => heightOfItems items
  | _ => 0

/-- How deep arrays nest in an array of items. -/
def heightOfItems : List Value → Nat
  | [] => 0
  | item :: rest => max (item.height + 1) (heightOfItems rest)

end

/-- The text that a value has on its line. -/
def lineText? : Value → Option Bytes
  | simple text => some text
  | error message => some message
  | _ => none

/-- A byte occurs in no text on a line of the value. -/
def LinesAvoid (value : Value) (byte : UInt8) : Prop :=
  ∀ part ∈ value.parts, ∀ text, part.lineText? = some text → byte ∉ text

/-- No bulk string of the value exceeds the limit. -/
def BulksFit (value : Value) : Prop :=
  ∀ body, bulk (some body) ∈ value.parts → body.length ≤ bulkLimit

theorem mem_partsOfItems {part : Value} {items : List Value} :
    part ∈ partsOfItems items ↔ ∃ item ∈ items, part ∈ item.parts := by
  induction items with
  | nil => simp [partsOfItems]
  | cons item rest ih => simp [partsOfItems, ih]

theorem mem_parts_array {part : Value} {items : List Value} :
    part ∈ (array items).parts ↔ part = array items ∨ ∃ item ∈ items, part ∈ item.parts := by
  simp [parts, mem_partsOfItems]

theorem self_mem_parts (value : Value) : value ∈ value.parts := by
  cases value <;> simp [parts]

theorem linesAvoid_array {items : List Value} {byte : UInt8} :
    (array items).LinesAvoid byte ↔ ∀ item ∈ items, item.LinesAvoid byte := by
  constructor
  · intro avoids item itemMem part partMem
    exact avoids part (mem_parts_array.mpr (Or.inr ⟨item, itemMem, partMem⟩))
  · intro avoids part partMem text
    rcases mem_parts_array.mp partMem with rfl | ⟨item, itemMem, inItem⟩
    · intro impossible
      simp [lineText?] at impossible
    · exact avoids item itemMem part inItem text

theorem LinesAvoid.not_mem {value : Value} {byte : UInt8} (avoids : value.LinesAvoid byte)
    {text : Bytes} (onLine : value.lineText? = some text) : byte ∉ text :=
  avoids value (self_mem_parts value) text onLine

theorem bulksFit_array {items : List Value} :
    (array items).BulksFit ↔ ∀ item ∈ items, item.BulksFit := by
  constructor
  · intro fits item itemMem body bodyMem
    exact fits body (mem_parts_array.mpr (Or.inr ⟨item, itemMem, bodyMem⟩))
  · intro fits body bodyMem
    rcases mem_parts_array.mp bodyMem with impossible | ⟨item, itemMem, inItem⟩
    · contradiction
    · exact fits item itemMem body inItem

theorem BulksFit.length_le {body : Bytes} (fits : (bulk (some body)).BulksFit) :
    body.length ≤ bulkLimit :=
  fits body (self_mem_parts _)

theorem height_array_le_iff {items : List Value} {depth : Nat} :
    (array items).height ≤ depth ↔ ∀ item ∈ items, item.height < depth := by
  rw [height]
  induction items with
  | nil => simp [heightOfItems]
  | cons item rest ih =>
      simp only [heightOfItems, Nat.max_le, ih, List.forall_mem_cons]
      exact Iff.rfl

theorem encodeItems_cons (item : Value) (rest : List Value) :
    encodeItems (item :: rest) = item.encode ++ encodeItems rest := by
  rw [encodeItems]

end Value

mutual

/-- The frames of a value. -/
inductive Frame : Value → Bytes → Prop
  | simple (text : Bytes) : Frame (.simple text) (line simpleMarker text)
  | error (message : Bytes) : Frame (.error message) (line errorMarker message)
  | integer {text : Bytes} {number : Int64} (denotes : Decimal.Denotes text number.toInt) :
      Frame (.integer number) (line integerMarker text)
  | null {marker : UInt8} {text : Bytes} {number : Int64}
      (counted : marker = bulkMarker ∨ marker = arrayMarker)
      (denotes : Decimal.Denotes text number.toInt) (negative : number < 0) :
      Frame .null (line marker text)
  | bulk {text body : Bytes} {number : Int64} (denotes : Decimal.Denotes text number.toInt)
      (length : number.toInt = body.length) :
      Frame (.bulk (some body)) (line bulkMarker text ++ body ++ Bytes.lineEnd)
  | array {text bytes : Bytes} {number : Int64} {items : List Value}
      (denotes : Decimal.Denotes text number.toInt) (count : number.toInt = items.length)
      (frames : Frames items bytes) : Frame (.array items) (line arrayMarker text ++ bytes)

/-- The frames of several values, one behind the other. -/
inductive Frames : List Value → Bytes → Prop
  | nil : Frames [] []
  | cons {item : Value} {rest : List Value} {first others : Bytes} (frame : Frame item first)
      (frames : Frames rest others) : Frames (item :: rest) (first ++ others)

end

namespace Value

/-- Every length and count in a value has sixty-four signed bits. -/
def IsCountable (value : Value) : Prop :=
  (∀ body, bulk (some body) ∈ value.parts → Decimal.FitsInt64 body.length) ∧
    ∀ items, array items ∈ value.parts → Decimal.FitsInt64 items.length

theorem IsCountable.of_mem {items : List Value} (countable : (array items).IsCountable)
    {item : Value} (itemMem : item ∈ items) : item.IsCountable := by
  constructor
  · intro body bodyMem
    exact countable.1 body (mem_parts_array.mpr (Or.inr ⟨item, itemMem, bodyMem⟩))
  · intro inner innerMem
    exact countable.2 inner (mem_parts_array.mpr (Or.inr ⟨item, itemMem, innerMem⟩))

end Value

theorem denotes_length {length : Nat} (fits : Decimal.FitsInt64 length) :
    Decimal.Denotes (Decimal.digits length) (Int64.ofInt length).toInt := by
  rw [Decimal.toInt_ofInt fits]
  exact Decimal.denotes_digits length

theorem frame_encodeBulk {body : Bytes} (fits : Decimal.FitsInt64 body.length) :
    Frame (.bulk (some body)) (encodeBulk body) :=
  Frame.bulk (denotes_length fits) (Decimal.toInt_ofInt fits)

/-- The null may be written as a bulk string or as an array. -/
theorem frame_null {marker : UInt8} (counted : marker = bulkMarker ∨ marker = arrayMarker) :
    Frame .null (line marker (Decimal.signedDigits (-1))) :=
  Frame.null counted (Decimal.denotes_signedDigits (Int64.toInt (-1))) (by decide)

mutual

/-- The form in which a value is written is a frame of it. -/
theorem frame_encode (value : Value) (countable : value.IsCountable) :
    Frame value value.encode := by
  cases value with
  | simple text => exact Frame.simple text
  | error message => exact Frame.error message
  | integer number => exact Frame.integer (Decimal.denotes_signedDigits number.toInt)
  | bulk body =>
      rcases body with _ | body
      · exact frame_null (Or.inl rfl)
      · exact frame_encodeBulk (countable.1 body (Value.self_mem_parts _))
  | array items =>
      have fits := countable.2 items (Value.self_mem_parts _)
      exact Frame.array (denotes_length fits) (Decimal.toInt_ofInt fits)
        (frames_encodeItems items fun item itemMem => countable.of_mem itemMem)

/-- The written forms of values are frames of them. -/
theorem frames_encodeItems (items : List Value) (countable : ∀ item ∈ items, item.IsCountable) :
    Frames items (Value.encodeItems items) := by
  cases items with
  | nil => exact Frames.nil
  | cons item rest =>
      rw [Value.encodeItems_cons]
      rw [List.forall_mem_cons] at countable
      exact Frames.cons (frame_encode item countable.1) (frames_encodeItems rest countable.2)

end

end SlotClient.Wire
