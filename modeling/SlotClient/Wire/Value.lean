import SlotClient.Decimal.Digits

/-!
# Values on the wire

The values that servers answer with, and the written form of values and commands. Lines and bulk
bodies end in a carriage return and a line feed; a bulk body is preceded by its length and an
array by the count of its items, so neither restricts the bytes inside. A command is written as an
array of bulk strings.
-/

namespace SlotClient.Wire

/-- A reply. A null stands for both the null bulk string and the null array. -/
inductive Value where
  | simple (text : Bytes)
  | error (message : Bytes)
  | integer (value : Int64)
  | bulk (body : Option Bytes)
  | array (items : List Value)
  deriving Repr

namespace Value

def null : Value := bulk none

def isNull : Value → Bool
  | bulk none => true
  | _ => false

def bytes? : Value → Option Bytes
  | simple text => some text
  | bulk body => body
  | _ => none

end Value

/-- The markers that begin the lines of the protocol. -/
def simpleMarker : UInt8 := 43

@[inherit_doc simpleMarker]
def errorMarker : UInt8 := 45

@[inherit_doc simpleMarker]
def integerMarker : UInt8 := 58

@[inherit_doc simpleMarker]
def bulkMarker : UInt8 := 36

@[inherit_doc simpleMarker]
def arrayMarker : UInt8 := 42

def line (marker : UInt8) (content : Bytes) : Bytes := marker :: content ++ Bytes.lineEnd

/-- A bulk string: a line with its length, its body and a line end. -/
def encodeBulk (body : Bytes) : Bytes :=
  line bulkMarker (Decimal.digits body.length) ++ body ++ Bytes.lineEnd

def encodeCommand (arguments : List Bytes) : Bytes :=
  line arrayMarker (Decimal.digits arguments.length) ++ arguments.flatMap encodeBulk

namespace Value

mutual

/-- The written form of a value; the null is written as a bulk string. -/
def encode : Value → Bytes
  | simple text => line simpleMarker text
  | error message => line errorMarker message
  | integer value => line integerMarker (Decimal.signedDigits value.toInt)
  | bulk none => line bulkMarker (Decimal.signedDigits (-1))
  | bulk (some body) => encodeBulk body
  | array items => line arrayMarker (Decimal.digits items.length) ++ encodeItems items

/-- The written forms of values, one after the other. -/
def encodeItems : List Value → Bytes
  | [] => []
  | item :: rest => encode item ++ encodeItems rest

end

end Value

end SlotClient.Wire
