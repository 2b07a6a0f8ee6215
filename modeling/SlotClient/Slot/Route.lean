import SlotClient.Slot.Basic

/-!
# Routes

Where a command may be sent, which depends on nothing but its keys. A client of a single server
sends everything anywhere; a client of a cluster sends a command to the node that owns the slot of
its keys and refuses keys of different slots.
-/

namespace SlotClient

/-- Where a command may be sent. -/
inductive Route where
  | anywhere
  | slot (number : Slot)
  deriving DecidableEq, Repr

def Route.logged : Route → String
  | anywhere => "Any"
  | slot number => "Slot(" ++ toString number.toNat ++ ")"

/-- How routes are chosen. -/
inductive RoutingPolicy where
  | singleServer
  | bySlot
  deriving DecidableEq, Repr

def RoutingPolicy.route : RoutingPolicy → List Bytes → Except Violation Route
  | singleServer, _ => .ok .anywhere
  | bySlot, keys => (Slot.common? keys).map fun
    | some number => .slot number
    | none => .anywhere

end SlotClient
