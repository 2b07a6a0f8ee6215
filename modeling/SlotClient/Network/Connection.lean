import SlotClient.Duration
import SlotClient.Network.World
import SlotClient.Wire.Reading

/-!
# Connections

A connection to a node holds the bytes that have arrived on it and have not been read, and the
fault, if any, that reading past them meets. A command is sent with one write and its reply is read
from what has arrived; bytes that are left stay for the next reply.

Before its first use a connection gets its time limits, authenticates if there is a password, and
selects its database if there is one. If any of that fails, it is closed and nothing more is sent
on it.
-/

namespace SlotClient

/-- How connections are made. -/
structure ConnectionSettings where
  address : String
  readTimeout : Option Duration
  writeTimeout : Option Duration
  connectTimeout : Option Duration
  username : Option String
  database : Option Int64
  deriving DecidableEq, Repr

/-- An open connection: the address of its node, its number there, and what has arrived. -/
structure Connection where
  address : String
  number : Nat
  unread : Bytes := []
  fault : Option TransportFault := none
  deriving DecidableEq, Repr

namespace Connection

open Wire (Value)

def close (connection : Connection) : Action Unit :=
  World.record connection.address (some connection.number) .close

/-- Writes bytes to a connection and takes in what the node responds. -/
def send (connection : Connection) (bytes : Bytes) :
    Action (Except TransportFault Unit × Connection) := do
  World.record connection.address (some connection.number) (.send bytes)
  let world ← get
  match world.nodes.lookup connection.address with
  | none => return (.ok (), connection)
  | some node =>
    match node.responses with
    | [] => return (.ok (), connection)
    | response :: responses =>
      set (world.withNode connection.address { node with responses })
      match response with
      | .writeFault fault => return (.error fault, connection)
      | .data bytes fault =>
        return (.ok (), { connection with unread := connection.unread ++ bytes, fault })

def exchange (connection : Connection) (arguments : List Bytes) :
    Action (Except Failure Value × Connection) := do
  match ← connection.send (Wire.encodeCommand arguments) with
  | (.error fault, connection) => return (.error (.transport fault), connection)
  | (.ok (), connection) =>
    let (reply, unread) := Wire.read connection.fault connection.unread
    return (reply, { connection with unread })

/-- A reply that must be a simple string. -/
def confirmation : Value → Except Failure Unit
  | .simple _ => .ok ()
  | .error message => .error (.server message)
  | _ => .error .unexpectedReply

def confirm (connection : Connection) (arguments : List Bytes) :
    Action (Except Failure Unit × Connection) := do
  let (reply, connection) ← connection.exchange arguments
  return (reply.bind confirmation, connection)

/-- The command that authenticates a user, or the default user if none is named. -/
def authArguments (username : Option String) (password : String) : List Bytes :=
  Bytes.ofText "AUTH" :: (username.toList ++ [password]).map Bytes.ofText

def selectArguments (database : Int64) : List Bytes :=
  [Bytes.ofText "SELECT", Decimal.signedDigits database.toInt]

def authenticate (connection : Connection) (username : Option String) (password : String) :
    Action (Except Failure Unit × Connection) := do
  let (outcome, connection) ← connection.confirm (authArguments username password)
  if outcome matches .ok () then World.note .connectionAuthenticated
  return (outcome, connection)

/-- What a node makes of an attempt to connect: a fault, or the number of the connection. -/
def receive (node : Node) : Except TransportFault Nat × Node :=
  match node.connects with
  | some fault :: connects => (.error fault, { node with connects })
  | none :: connects => (.ok (node.opened + 1), { node with connects, opened := node.opened + 1 })
  | [] => (.ok (node.opened + 1), { node with opened := node.opened + 1 })

/-- Opens a connection to a node. No time at all to do so is refused before anything is tried. -/
def establish (address : String) (timeout : Option Duration) :
    Action (Except TransportFault Connection) := do
  if timeout = some 0 then return .error .invalidInput
  let world ← get
  match world.nodes.lookup address with
  | none =>
    World.record address none (.connect (timeout.map Duration.milliseconds))
    return .error .connectionRefused
  | some node =>
    let (outcome, node) := receive node
    set (world.withNode address node)
    match outcome with
    | .error fault =>
      World.record address none (.connect (timeout.map Duration.milliseconds))
      return .error fault
    | .ok number =>
      World.record address (some number) (.connect (timeout.map Duration.milliseconds))
      return .ok { address, number }

/-- Sets a time limit, if there is one, which must not be zero. -/
def setLimit (connection : Connection) (limit : Option Duration) (activity : UInt64 → Activity) :
    ExceptT Failure Action Unit := do
  match limit with
  | none => return
  | some limit =>
    if limit = 0 then throw (.transport .invalidInput)
    World.record connection.address (some connection.number) (activity limit.milliseconds)

def identify (connection : Connection) (username : Option String) :
    Option String → ExceptT Failure Action Connection
  | none => return connection
  | some password => do
    let (outcome, connection) ← connection.authenticate username password
    let () ← ExceptT.mk (pure outcome)
    return connection

def select (connection : Connection) : Option Int64 → ExceptT Failure Action Connection
  | none => return connection
  | some database => do
    let (outcome, connection) ← connection.confirm (selectArguments database)
    let () ← ExceptT.mk (pure outcome)
    return connection

/-- Does what has to be done before the first use of a connection. -/
def prepare (connection : Connection) (settings : ConnectionSettings) (password : Option String) :
    ExceptT Failure Action Connection := do
  connection.setLimit settings.readTimeout .readTimeout
  connection.setLimit settings.writeTimeout .writeTimeout
  World.record connection.address (some connection.number) .noDelay
  World.note (.connectionEstablished settings.address)
  let connection ← connection.identify settings.username password
  connection.select settings.database

/-- Makes a connection that is ready for use; one that does not get ready is closed. -/
def connect (settings : ConnectionSettings) (password : Option String) :
    Action (Except Failure Connection) := do
  match SocketAddress.resolve? (← get).hosts settings.address with
  | none => return .error (.invalidAddress settings.address)
  | some address =>
    match ← establish address.text settings.connectTimeout with
    | .error fault => return .error (.transport fault)
    | .ok connection =>
      match ← (connection.prepare settings password).run with
      | .ok connection => return .ok connection
      | .error failure =>
        connection.close
        return .error failure

end Connection

end SlotClient
