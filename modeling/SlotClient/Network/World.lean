import SlotClient.Failure
import SlotClient.Network.Address
import SlotClient.Network.Log

/-!
# The world of a client

A client acts on a network and on a log. The network is a script: a directory of hosts, and for
each node what becomes of the attempts to connect to it and what it answers to the writes it
receives, both in order and shared by all connections to it. Everything that a client does to the
network is recorded as an event.

The world also decides in which order a client goes through a map from texts. This may be any order,
and another one after a key has been added.
-/

namespace SlotClient

/-- What a node does when it receives a write: it sends bytes, behind which reading may fail, or
it lets the write fail. -/
inductive Response where
  | data (bytes : Bytes) (fault : Option TransportFault)
  | writeFault (fault : TransportFault)
  deriving Repr

/-- A node of the network: the outcomes of the next attempts to connect, after which all succeed,
the responses to the next writes, after which there are none, and the count of connections that
were opened. -/
structure Node where
  connects : List (Option TransportFault)
  responses : List Response
  opened : Nat := 0
  deriving Repr

/-- Something that a client did to the network. Times are in milliseconds. -/
inductive Activity where
  | connect (timeout : Option UInt64)
  | readTimeout (limit : UInt64)
  | writeTimeout (limit : UInt64)
  | noDelay
  | send (bytes : Bytes)
  | close
  deriving DecidableEq, Repr

/-- An activity with the address of the node and the number of the connection on it, which a
failed attempt to connect does not have. -/
structure Event where
  address : String
  connection : Option Nat
  activity : Activity
  deriving DecidableEq, Repr

/-- An order in which maps are gone through: for the keys of each map an arrangement of them. -/
structure KeyOrder where
  arrange : List String → List String
  perm : ∀ keys, (arrange keys).Perm keys

/-- The order in which keys have been added. -/
def KeyOrder.asAdded : KeyOrder := ⟨id, .refl⟩

/-- The network and the log, with the events and entries so far, and the order in which maps are
gone through. -/
structure World where
  hosts : List (String × List IpAddress) := []
  nodes : List (String × Node) := []
  events : List Event := []
  log : List LogEntry := []
  order : KeyOrder := .asAdded

abbrev Action (Result : Type) := StateM World Result

namespace World

def withNode (world : World) (address : String) (node : Node) : World :=
  { world with
    nodes := world.nodes.map fun entry => if entry.1 = address then (address, node) else entry }

def record (address : String) (connection : Option Nat) (activity : Activity) : Action Unit :=
  modify fun world => { world with events := world.events ++ [⟨address, connection, activity⟩] }

def note (entry : LogEntry) : Action Unit :=
  modify fun world => { world with log := world.log ++ [entry] }

/-- The world as it is, but as if nothing had happened yet. -/
def forget (world : World) : World := { world with events := [], log := [] }

end World

end SlotClient
