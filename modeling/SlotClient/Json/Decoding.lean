import SlotClient.Json.Reading

/-!
# Decoding drafts

The decoders for the kinds of values that occur in documents. Each reads its draft from the left
and reports the first thing that does not suit it.

A record is written as an object with the names of its fields in any order, or as an array of its
fields in their own order. In an object, unknown names are passed over and a repeated name is a
mismatch. A choice among alternatives is written as the name of one, or as an object whose only
member has that name and what the alternative carries.
-/

namespace SlotClient.Json

abbrev Decoder (Value : Type) := Draft → Except Fault Value

namespace Decoder

variable {Value Other : Type}

def unit : Decoder Unit
  | .null => .ok ()
  | draft => .error draft.unwanted

def boolean : Decoder Bool
  | .boolean value => .ok value
  | draft => .error draft.unwanted

def text : Decoder String
  | .text token => token.value
  | draft => .error draft.unwanted

/-- A whole number within bounds, both included. -/
def whole (least most : Int) : Decoder Int
  | .number token => do
    match ← token.value with
    | .whole value => if least ≤ value ∧ value ≤ most then return value else throw .mismatch
    | .other => throw .mismatch
  | draft => .error draft.unwanted

def uint64 : Decoder UInt64 := fun draft =>
  (whole 0 Decimal.mostUInt64 draft).map fun value => UInt64.ofNat value.toNat

def int64 : Decoder Int64 := fun draft =>
  (whole Decimal.leastInt64 Decimal.mostInt64 draft).map Int64.ofInt

def uint8 : Decoder UInt8 := fun draft => (whole 0 255 draft).map fun value =>
  UInt8.ofNat value.toNat

/-- Null for none, or a value. -/
def optional (decode : Decoder Value) : Decoder (Option Value)
  | .null => .ok none
  | .misspeltNull fault => .error fault
  | draft => (decode draft).map some

/-- Checks how a sequence ends that may go on. -/
def finishOpen (ending : Ending) (value : Value) : Except Fault Value :=
  match Draft.endingFault? ending with
  | some fault => .error fault
  | none => .ok value

/-- Checks that a sequence ends here: anything but its closing bracket or the end of the text is
out of place. -/
def finishClosed {Item : Type} (items : List Item) (ending : Ending) (value : Value) :
    Except Fault Value :=
  match items, ending with
  | [], .closed => .ok value
  | [], .cut => .error .truncated
  | _, _ => .error .malformed

/-- The items of an array, each decoded the same way. -/
def items (decode : Decoder Value) : List Draft → Ending → Except Fault (List Value)
  | [], ending => finishOpen ending []
  | item :: rest, ending => do
    let value ← decode item
    let values ← items decode rest ending
    return value :: values

def list (decode : Decoder Value) : Decoder (List Value)
  | .array drafts ending => items decode drafts ending
  | draft => .error draft.unwanted

def pair (decode : Decoder Value) : Decoder (Value × Value)
  | .array drafts ending =>
    match drafts with
    | [] => finishOpen ending () >>= fun _ => .error .mismatch
    | [first] => do
      let _ ← decode first
      finishOpen ending () >>= fun _ => .error .mismatch
    | first :: second :: rest => do
      let first ← decode first
      let second ← decode second
      finishClosed rest ending (first, second)
  | draft => .error draft.unwanted

/-- The members of an object with names of any kind, each value decoded the same way. -/
def members (decode : Decoder Value) :
    List (Token String × Draft) → Ending → Except Fault (List (String × Value))
  | [], ending => finishOpen ending []
  | (name, value) :: rest, ending => do
    let name ← name.value
    let value ← decode value
    let others ← members decode rest ending
    return (name, value) :: others

def entries (decode : Decoder Value) : Decoder (List (String × Value))
  | .object drafts ending => members decode drafts ending
  | draft => .error draft.unwanted

end Decoder

/-- A field of a record: its name, whether an object must have it, and how its value changes the
record. -/
structure Field (Record : Type) where
  name : String
  isRequired : Bool
  store : Draft → Record → Except Fault Record

/-- The fields of a record in their order, whether the last ones may be missing from an array, and
the record before any field is read. -/
structure Layout (Record : Type) where
  fields : List (Field Record)
  mayBeShort : Bool
  initial : Record

namespace Layout

variable {Record : Type}

def field? (layout : Layout Record) (name : String) : Option (Field Record) :=
  layout.fields.find? (·.name = name)

/-- Whether every required field is among the names seen. -/
def isComplete (layout : Layout Record) (seen : List String) : Bool :=
  layout.fields.all fun field => !field.isRequired || seen.contains field.name

def storeMembers (layout : Layout Record) :
    List (Token String × Draft) → Ending → List String → Record → Except Fault Record
  | [], ending, seen, record => do
    Decoder.finishOpen ending ()
    if layout.isComplete seen then return record else throw .mismatch
  | (name, value) :: rest, ending, seen, record => do
    let name ← name.value
    match layout.field? name with
    | none =>
      match value.passed? with
      | some fault => throw fault
      | none => layout.storeMembers rest ending seen record
    | some field =>
      if seen.contains name then throw .mismatch
      let record ← field.store value record
      layout.storeMembers rest ending (name :: seen) record

def storeItems (mayBeShort : Bool) :
    List (Field Record) → List Draft → Ending → Record → Except Fault Record
  | [], items, ending, record => Decoder.finishClosed items ending record
  | _ :: _, [], ending, record => do
    Decoder.finishOpen ending ()
    if mayBeShort then return record else throw .mismatch
  | field :: fields, item :: items, ending, record => do
    let record ← field.store item record
    storeItems mayBeShort fields items ending record

def decode (layout : Layout Record) : Decoder Record
  | .object members ending => layout.storeMembers members ending [] layout.initial
  | .array items ending => storeItems layout.mayBeShort layout.fields items ending layout.initial
  | draft => .error draft.unwanted

end Layout

/-- An alternative of a choice: its name and how what it carries is decoded, which is nothing at
all if only its name is written. -/
structure Alternative (Value : Type) where
  name : String
  decode : Option Draft → Except Fault Value

namespace Alternative

variable {Value Carried : Type}

/-- An alternative that carries nothing, or null where something has to be written. -/
def plain (name : String) (value : Value) : Alternative Value where
  name := name
  decode
    | none => .ok value
    | some draft => (Decoder.unit draft).map fun _ => value

/-- An alternative that carries a value. -/
def carrying (name : String) (decode : Decoder Carried) (make : Carried → Value) :
    Alternative Value where
  name := name
  decode
    | none => .error .mismatch
    | some draft => (decode draft).map make

/-- The alternative of a name. -/
def named (alternatives : List (Alternative Value)) (name : String) :
    Except Fault (Alternative Value) :=
  match alternatives.find? (·.name = name) with
  | some alternative => .ok alternative
  | none => .error .mismatch

end Alternative

def Decoder.choice {Value : Type} (alternatives : List (Alternative Value)) : Decoder Value
  | .text token => do
    let alternative ← Alternative.named alternatives (← token.value)
    alternative.decode none
  | .object [] ending => match ending with
    | .cut => .error .truncated
    | _ => .error .malformed
  | .object ((name, carried) :: rest) ending => do
    let alternative ← Alternative.named alternatives (← name.value)
    let value ← alternative.decode (some carried)
    Decoder.finishClosed rest ending value
  | .absent => .error .truncated
  | _ => .error .malformed

end SlotClient.Json
