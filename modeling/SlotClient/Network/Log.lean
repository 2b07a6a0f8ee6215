import SlotClient.Slot.Route

/-!
# The log

What clients tell about their work: which command is sent along which route, and what happens to
connections, pools and redirects. Nothing that is stored, and no password, is ever in the log.
-/

namespace SlotClient

/-- An entry of the log. -/
inductive LogEntry where
  | dispatch (command : String) (route : Route)
  | connectionEstablished (address : String)
  | connectionAuthenticated
  | discardingConnection (address : String)
  | reauthenticating (address : String) (count : Nat)
  | poolCreated (address : String)
  | slotMoved (slot : Slot) (owner : String)
  | askingRedirect (slot : Slot) (node : String)
  | redirectLimitReached (slot : Slot) (limit : Nat)
  deriving DecidableEq, Repr

namespace LogEntry

def level : LogEntry → String
  | dispatch _ _ => "TRACE"
  | redirectLimitReached _ _ => "WARN"
  | _ => "DEBUG"

def message : LogEntry → String
  | dispatch _ _ => "dispatch"
  | connectionEstablished _ => "connection established"
  | connectionAuthenticated => "connection authenticated"
  | discardingConnection _ => "discarding broken connection"
  | reauthenticating _ _ => "re-authenticating idle connections"
  | poolCreated _ => "created node pool"
  | slotMoved _ _ => "slot moved"
  | askingRedirect _ _ => "asking redirect"
  | redirectLimitReached _ _ => "redirect limit reached"

def fields : LogEntry → List (String × String)
  | dispatch command route => [("command", command), ("route", route.logged)]
  | connectionEstablished address | discardingConnection address | poolCreated address =>
    [("addr", address)]
  | connectionAuthenticated => []
  | reauthenticating address count => [("addr", address), ("count", toString count)]
  | slotMoved slot owner => [("slot", toString slot.toNat), ("owner", owner)]
  | askingRedirect slot node => [("slot", toString slot.toNat), ("node", node)]
  | redirectLimitReached slot limit =>
    [("slot", toString slot.toNat), ("limit", toString limit)]

end LogEntry

end SlotClient
