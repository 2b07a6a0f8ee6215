import SlotClient.Bytes

/-!
# Violations

Requests that are refused before anything is sent: a value is wanted from an absent result, the
keys of one call lie in different slots, an option or argument does not fit the command, or
immediate authentication is asked for without a password. Each has a number and a message.
-/

namespace SlotClient

/-- The number of a hash slot, as redirects may name it: any number of sixteen bits. -/
abbrev Slot := UInt16

/-- Why a request is refused before it is sent. -/
inductive Violation where
  | absentValue
  | crossSlot (first conflicting : Slot)
  | invalidOption (reason : String)
  | invalidArgument (reason : String)
  | missingPassword
  deriving DecidableEq, Repr

namespace Violation

/-- The number of a violation, the same in every version. -/
def code : Violation → Nat
  | absentValue => 1
  | crossSlot _ _ => 2
  | invalidOption _ => 3
  | invalidArgument _ => 4
  | missingPassword => 5

def message : Violation → String
  | absentValue => "value requested from a nil result"
  | crossSlot first conflicting =>
    "keys in request don't hash to the same slot (" ++ toString first.toNat ++ " != " ++
      toString conflicting.toNat ++ ")"
  | invalidOption reason => "invalid option: " ++ reason
  | invalidArgument reason => "invalid argument: " ++ reason
  | missingPassword => "immediate authentication requires a password"

end Violation

end SlotClient
