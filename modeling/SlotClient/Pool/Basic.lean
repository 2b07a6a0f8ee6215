import SlotClient.Network.Connection

/-!
# Connection pools

A pool keeps connections to one address for reuse. It counts the connections that are open, those
lent out and those that are idle, and refuses to open more than it may. Idle connections wait in a
queue, from which the one that has waited longest is lent first.

A connection that is lent out comes back when its holder is done with it. It is kept if it is in
order and the queue has room, and closed otherwise; one on which an exchange broke down is never
kept, even if later exchanges on it succeeded.
-/

namespace SlotClient

open Wire (Value)

/-- How a pool is set up. -/
structure PoolSettings where
  connections : ConnectionSettings
  maxIdle : UInt64
  maxTotal : UInt64
  deriving DecidableEq, Repr

/-- The count of open connections of a pool and how many of them are idle. -/
structure PoolStatistics where
  total : Nat
  idle : Nat
  deriving DecidableEq, Repr

/-- A pool: its settings, the password for new connections, the idle connections in the order in
which they will be lent, and the count of open connections. -/
structure Pool where
  settings : PoolSettings
  password : Option String
  idle : List Connection := []
  total : Nat := 0
  deriving DecidableEq, Repr

/-- A connection that is lent out, and whether it may be used again. -/
structure Lease where
  connection : Connection
  isIntact : Bool := true
  deriving DecidableEq, Repr

namespace Lease

def exchange (lease : Lease) (arguments : List Bytes) :
    Action (Except Failure Value × Lease) := do
  let (reply, connection) ← lease.connection.exchange arguments
  let isIntact := match reply with
    | .ok _ => lease.isIntact
    | .error failure => lease.isIntact && !failure.breaksConnection
  return (reply, { connection, isIntact })

end Lease

namespace Pool

/-- A pool without connections. -/
def create (settings : PoolSettings) (password : Option String) : Pool := { settings, password }

def address (pool : Pool) : String := pool.settings.connections.address

def statistics (pool : Pool) : PoolStatistics := ⟨pool.total, pool.idle.length⟩

/-- Takes the connection that has been idle longest. -/
def takeIdle? (pool : Pool) : Option (Connection × Pool) :=
  match pool.idle with
  | [] => none
  | connection :: idle => some (connection, { pool with idle })

/-- Counts one more connection, if the pool may have it. -/
def reserve? (pool : Pool) : Option Pool :=
  if pool.total < pool.settings.maxTotal.toNat then some { pool with total := pool.total + 1 }
  else none

def unreserve (pool : Pool) : Pool := { pool with total := pool.total - 1 }

/-- Whether the queue has room for another idle connection. -/
def hasRoom (pool : Pool) : Bool := pool.idle.length < pool.settings.maxIdle.toNat

/-- Takes a connection back that is in order: it waits behind the others if there is room, and is
closed otherwise. -/
def giveBack (pool : Pool) (connection : Connection) : Action Pool := do
  if pool.hasRoom then return { pool with idle := pool.idle ++ [connection] }
  connection.close
  return pool.unreserve

def discard (pool : Pool) (connection : Connection) : Action Pool := do
  connection.close
  return pool.unreserve

/-- Lends a connection: an idle one if there is any, else a new one if there may be one more. -/
def acquire (pool : Pool) : Action (Except Failure Lease × Pool) := do
  match pool.takeIdle? with
  | some (connection, pool) => return (.ok { connection }, pool)
  | none =>
    match pool.reserve? with
    | none => return (.error .poolExhausted, pool)
    | some reserved =>
      match ← Connection.connect pool.settings.connections pool.password with
      | .ok connection => return (.ok { connection }, reserved)
      | .error failure => return (.error failure, reserved.unreserve)

/-- Takes a lent connection back. -/
def release (pool : Pool) (lease : Lease) : Action Pool := do
  if lease.isIntact then pool.giveBack lease.connection
  else
    World.note (.discardingConnection pool.address)
    pool.discard lease.connection

/-- The pool with another password for the connections that it opens from now on. -/
def setPassword (pool : Pool) (password : Option String) : Pool := { pool with password }

/-- Authenticates connections one after the other and takes them back, except those on which the
exchange broke down. The first failure is kept. -/
def authenticateAll (password : String) :
    List Connection → Except Failure Unit → Pool → Action (Except Failure Unit × Pool)
  | [], outcome, pool => return (outcome, pool)
  | connection :: rest, outcome, pool => do
    match ← connection.authenticate pool.settings.connections.username password with
    | (.ok (), connection) =>
      let pool ← pool.giveBack connection
      authenticateAll password rest outcome pool
    | (.error failure, connection) =>
      let pool ←
        if failure.breaksConnection then pool.discard connection else pool.giveBack connection
      let outcome := match outcome with
        | .ok () => .error failure
        | .error first => .error first
      authenticateAll password rest outcome pool

/-- Checks that a new connection can be opened; that the pool may not have one is no failure, since
then all connections are lent out and stay as they are. -/
def probe (pool : Pool) : Action (Except Failure Unit × Pool) := do
  match ← pool.acquire with
  | (.ok lease, pool) =>
    let pool ← pool.release lease
    return (.ok (), pool)
  | (.error .poolExhausted, pool) => return (.ok (), pool)
  | (.error failure, pool) => return (.error failure, pool)

/-- Authenticates all idle connections with the pool's password. If none is idle, a connection is
opened instead, so that the password is tried in any case. -/
def reauthenticate (pool : Pool) : Action (Except Failure Unit × Pool) := do
  match pool.password with
  | none => return (.ok (), pool)
  | some password =>
    World.note (.reauthenticating pool.address pool.idle.length)
    match pool.idle with
    | [] => pool.probe
    | idle => authenticateAll password idle (.ok ()) { pool with idle := [] }

end Pool

end SlotClient
