import SlotClient.Client.Configuration
import SlotClient.Client.Redirect
import SlotClient.Client.Rotation
import SlotClient.Command.Executor

/-!
# Clients of a cluster

A client of a cluster has a pool for every node that it has had to do with, opened when the node is
first needed, and a table of the owners of slots that it has learned. A command goes to the known
owner of its slot, or else to the first seed node. If the node redirects it, it is sent again to the
node named, up to a limit: after a slot has moved the owner is remembered; for a one-off redirect
the command is announced on the same connection just before.

The pools are a map from addresses. A rotation that authenticates at once goes through it, in
whatever order.
-/

namespace SlotClient

open Wire (Value)

/-- A client of a cluster, which has at least one seed node. -/
structure Cluster where
  configuration : ClusterConfiguration
  password : Option String
  pools : List (String × Pool) := []
  slots : SlotTable := {}
  hasSeed : configuration.nodes ≠ []
  deriving DecidableEq

/-- Announces a command that a one-off redirect has led here, if asked to, and sends it. -/
def Lease.deliver (lease : Lease) (asking : Bool) (arguments : List Bytes) :
    Action (Except Failure Value × Lease) := do
  if asking then
    let (reply, lease) ← lease.exchange [Bytes.ofText "ASKING"]
    match reply.bind Connection.confirmation with
    | .error failure => return (.error failure, lease)
    | .ok () => lease.exchange arguments
  else lease.exchange arguments

namespace Cluster

/-- A client that has not opened any connection yet. -/
def create (configuration : ClusterConfiguration) : Except Violation Cluster :=
  if hasSeed : configuration.nodes ≠ [] then
    .ok { configuration, password := configuration.password, hasSeed }
  else .error (.invalidArgument "cluster config has no seed nodes")

def seed (cluster : Cluster) : String := cluster.configuration.nodes.head cluster.hasSeed

/-- The node to which a command with a route is sent first. -/
def firstTarget (cluster : Cluster) : Route → String
  | .slot number => (cluster.slots.owner? number).getD cluster.seed
  | .anywhere => cluster.seed

/-- The pool of a node, which is made if there is none yet. -/
def ensurePool (cluster : Cluster) (address : String) : Action (Pool × Cluster) := do
  match cluster.pools.lookup address with
  | some pool => return (pool, cluster)
  | none =>
    let pool := Pool.create (cluster.configuration.poolSettings address) cluster.password
    World.note (.poolCreated address)
    return (pool, { cluster with pools := cluster.pools ++ [(address, pool)] })

def withPool (cluster : Cluster) (address : String) (pool : Pool) : Cluster :=
  { cluster with
    pools := cluster.pools.map fun entry => if entry.1 = address then (address, pool) else entry }

/-- The client with all given pools in place of those that it had for their addresses. -/
def withPools (cluster : Cluster) (pools : List (String × Pool)) : Cluster :=
  pools.foldl (fun cluster entry => cluster.withPool entry.1 entry.2) cluster

def send (cluster : Cluster) (address : String) (asking : Bool) (arguments : List Bytes) :
    Action (Except Failure Value × Cluster) := do
  let (pool, cluster) ← cluster.ensurePool address
  match ← pool.acquire with
  | (.error failure, pool) => return (.error failure, cluster.withPool address pool)
  | (.ok lease, pool) =>
    let (reply, lease) ← lease.deliver asking arguments
    let pool ← pool.release lease
    return (reply, cluster.withPool address pool)

/-- The redirect that a reply states. -/
def redirect? : Except Failure Value → Option Redirect
  | .ok (.error message) => Redirect.ofMessage? message
  | _ => none

/-- The slot that is named when a command with a route was redirected too often. -/
def reportedSlot : Route → Slot
  | .slot number => number
  | .anywhere => 0

/-- Sends a command at most a number of times, each time after the first to where the reply before
redirects it. -/
def follow (route : Route) (arguments : List Bytes) :
    Nat → String → Bool → Cluster → Action (Except Failure Value × Cluster)
  | 0, _, _, cluster => do
    World.note
      (.redirectLimitReached (reportedSlot route) cluster.configuration.maxRedirects.toNat)
    return (.error (.tooManyRedirects (reportedSlot route)), cluster)
  | sends + 1, target, asking, cluster => do
    let (reply, cluster) ← cluster.send target asking arguments
    match redirect? reply with
    | some (.moved slot address) =>
      let owner := Redirect.target target address
      World.note (.slotMoved slot owner)
      follow route arguments sends owner false
        { cluster with slots := cluster.slots.assign slot owner }
    | some (.ask slot address) =>
      let node := Redirect.target target address
      World.note (.askingRedirect slot node)
      follow route arguments sends node true cluster
    | none => return (reply, cluster)

def execute (cluster : Cluster) (route : Route) (arguments : List Bytes) :
    Action (Except Failure Value × Cluster) :=
  follow route arguments (cluster.configuration.maxRedirects.toNat + 1) (cluster.firstTarget route)
    false cluster

instance : Executor Cluster where
  policy _ := .bySlot
  execute := Cluster.execute

/-- Authenticates the idle connections of pools one after the other. The first failure is kept. -/
def reauthenticateAll :
    List (String × Pool) → Action (Except Failure Unit × List (String × Pool))
  | [] => return (.ok (), [])
  | (address, pool) :: rest => do
    let (outcome, pool) ← pool.reauthenticate
    let (others, rest) ← reauthenticateAll rest
    let first := match outcome with
      | .ok () => others
      | .error failure => .error failure
    return (first, (address, pool) :: rest)

/-- The pools, with their addresses arranged in an order. -/
def arranged (cluster : Cluster) (order : KeyOrder) : List (String × Pool) :=
  (order.arrange (cluster.pools.map Prod.fst)).filterMap fun address =>
    (cluster.pools.lookup address).map fun pool => (address, pool)

/-- Authenticates the idle connections of all pools in an order. -/
def reauthenticateIn (cluster : Cluster) (order : KeyOrder) :
    Action (Except Failure Unit × Cluster) := do
  let (outcome, pools) ← reauthenticateAll (cluster.arranged order)
  return (outcome, cluster.withPools pools)

/-- Authenticates the idle connections of all pools, in the order in which the world lets the map of
pools be gone through. -/
def reauthenticate (cluster : Cluster) : Action (Except Failure Unit × Cluster) := do
  let world ← get
  cluster.reauthenticateIn world.order

/-- The client with another password, also in all its pools. -/
def setPassword (cluster : Cluster) (password : Option String) : Cluster :=
  { cluster with
    password
    pools := cluster.pools.map fun entry => (entry.1, entry.2.setPassword password) }

def ensureAnyPool (cluster : Cluster) : Action Cluster := do
  if cluster.pools.isEmpty then
    let (_, cluster) ← cluster.ensurePool cluster.seed
    return cluster
  else return cluster

/-- Replaces the password in the client and all its pools, and authenticates with it at once if
asked to. A client without pools tries the password on its seed node. -/
def updatePassword (cluster : Cluster) (password : Option String) (immediate : Bool) :
    Action (Except Failure String × Cluster) := do
  match rotatedPassword password immediate with
  | .error violation => return (.error (.violation violation), cluster)
  | .ok password =>
    let cluster := cluster.setPassword password
    if immediate then
      let cluster ← cluster.ensureAnyPool
      let (outcome, cluster) ← cluster.reauthenticate
      return (outcome.map fun _ => rotationStatus, cluster)
    else return (.ok rotationStatus, cluster)

/-- The counts of the pools by the addresses of their nodes, in ascending order. -/
def statistics (cluster : Cluster) : List (String × PoolStatistics) :=
  (cluster.pools.map fun (address, pool) => (address, pool.statistics)).mergeSort
    fun first second => decide (first.1 ≤ second.1)

def slotOwner? (cluster : Cluster) (slot : Slot) : Option String := cluster.slots.owner? slot

end Cluster

end SlotClient
