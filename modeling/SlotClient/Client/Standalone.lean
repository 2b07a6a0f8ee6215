import SlotClient.Client.Configuration
import SlotClient.Client.Rotation
import SlotClient.Command.Executor

/-!
# Clients of a single server

A client of a single server has one pool. Each command borrows a connection from it for one
exchange, and keys may be combined at will.
-/

namespace SlotClient

open Wire (Value)

/-- A client of a single server. -/
structure Standalone where
  pool : Pool
  deriving DecidableEq, Repr

namespace Standalone

/-- A client that has not opened any connection yet. -/
def create (configuration : ServerConfiguration) : Standalone :=
  ⟨.create configuration.poolSettings configuration.password⟩

def execute (client : Standalone) (arguments : List Bytes) :
    Action (Except Failure Value × Standalone) := do
  match ← client.pool.acquire with
  | (.error failure, pool) => return (.error failure, ⟨pool⟩)
  | (.ok lease, pool) =>
    let (reply, lease) ← lease.exchange arguments
    let pool ← pool.release lease
    return (reply, ⟨pool⟩)

instance : Executor Standalone where
  policy _ := .singleServer
  execute client _ arguments := client.execute arguments

/-- Replaces the password, and authenticates with it at once if asked to. -/
def updatePassword (client : Standalone) (password : Option String) (immediate : Bool) :
    Action (Except Failure String × Standalone) := do
  match rotatedPassword password immediate with
  | .error violation => return (.error (.violation violation), client)
  | .ok password =>
    let pool := client.pool.setPassword password
    if immediate then
      let (outcome, pool) ← pool.reauthenticate
      return (outcome.map fun _ => rotationStatus, ⟨pool⟩)
    else return (.ok rotationStatus, ⟨pool⟩)

def statistics (client : Standalone) : List (String × PoolStatistics) :=
  [(client.pool.address, client.pool.statistics)]

end Standalone

end SlotClient
