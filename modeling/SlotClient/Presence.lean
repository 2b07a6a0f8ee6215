import SlotClient.Json.Decoding
import SlotClient.Json.Value
import SlotClient.Text.Utf8
import SlotClient.Violation

/-!
# Values that may be absent

A key may hold nothing, which is neither a failure nor an empty value, so a result that can be
absent is an optional value. It is written as the word `Absent`, or as an object that holds the
value under `Present`, and shown as `<nil>` if there is nothing.
-/

namespace SlotClient.Presence

variable {Value : Type}

/-- The value of a result that must not be absent. -/
def required : Option Value → Except Violation Value
  | some value => .ok value
  | none => .error .absentValue

/-- The text of a result, given that of its value. -/
def text (textOf : Value → String) : Option Value → String
  | some value => textOf value
  | none => "<nil>"

/-- The text of bytes that may be absent, with replacement characters for what is no text. -/
def lossyText? (result : Option Bytes) : Option String := result.map Utf8.lossyText

/-- The document of a result, given that of its value. -/
def toJson (jsonOf : Value → Json) : Option Value → Json
  | some value => .object [("Present", jsonOf value)]
  | none => .text "Absent"

def decoder (decode : Json.Decoder Value) : Json.Decoder (Option Value) :=
  .choice [.carrying "Present" decode some, .plain "Absent" none]

end SlotClient.Presence
