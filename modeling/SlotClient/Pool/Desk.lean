import SlotClient.Pool.Basic

/-!
# Lending desks

A desk is a pool together with the connections that are lent out, each held under a name. It takes
one request after the other. When a connection is lent under a name that already holds one, the
old one comes back after the new one has been lent.
-/

namespace SlotClient

/-- A pool and the connections that are lent out from it, by the name of their holder. -/
structure Desk where
  pool : Pool
  held : List (String × Lease) := []

namespace Desk

open Wire (Value)

/-- A request to a desk. -/
inductive Request where
  | acquire (holder : String)
  | exchange (holder : String) (arguments : List Bytes)
  | release (holder : String)
  | setPassword (password : Option String)
  | reauthenticate

/-- The answer of a desk to a request. -/
inductive Answer where
  | done (outcome : Except Failure Unit)
  | reply (reply : Except Failure Value)
  | notHeld
  | released (wasHeld : Bool)

/-- The holders other than a given one. -/
def others (desk : Desk) (holder : String) : List (String × Lease) :=
  desk.held.filter (·.1 != holder)

/-- Takes back what a holder has, if anything. -/
def release (desk : Desk) (holder : String) : Action (Bool × Desk) := do
  match desk.held.lookup holder with
  | none => return (false, desk)
  | some lease =>
    let pool ← desk.pool.release lease
    return (true, { pool, held := desk.others holder })

def serve (desk : Desk) : Request → Action (Answer × Desk)
  | .acquire holder => do
    match ← desk.pool.acquire with
    | (.error failure, pool) => return (.done (.error failure), { desk with pool })
    | (.ok lease, pool) =>
      let (_, desk) ← { desk with pool }.release holder
      return (.done (.ok ()), { desk with held := (holder, lease) :: desk.held })
  | .exchange holder arguments => do
    match desk.held.lookup holder with
    | none => return (.notHeld, desk)
    | some lease =>
      let (reply, lease) ← lease.exchange arguments
      return (.reply reply, { desk with held := (holder, lease) :: desk.others holder })
  | .release holder => do
    let (wasHeld, desk) ← desk.release holder
    return (.released wasHeld, desk)
  | .setPassword password =>
    return (.done (.ok ()), { desk with pool := desk.pool.setPassword password })
  | .reauthenticate => do
    let (outcome, pool) ← desk.pool.reauthenticate
    return (.done outcome, { desk with pool })

end Desk

end SlotClient
