import SlotClient.Client.Cluster
import SlotClient.Client.Standalone

/-!
# Clients

A client of a single server or of a cluster. Both run the same commands, rotate their password and
tell the counts of their pools.
-/

namespace SlotClient

open Wire (Value)

/-- A client of either kind. -/
inductive Client where
  | standalone (client : Standalone)
  | cluster (client : Cluster)

namespace Client

def ofServer (configuration : ServerConfiguration) : Client :=
  standalone (.create configuration)

def ofCluster (configuration : ClusterConfiguration) : Except Failure Client :=
  ((Cluster.create configuration).map cluster).mapError Failure.violation

def policy : Client → RoutingPolicy
  | standalone client => Executor.policy client
  | cluster client => Executor.policy client

def execute (client : Client) (route : Route) (arguments : List Bytes) :
    Action (Except Failure Value × Client) := do
  match client with
  | standalone client =>
    let (reply, client) ← Executor.execute client route arguments
    return (reply, standalone client)
  | cluster client =>
    let (reply, client) ← Executor.execute client route arguments
    return (reply, cluster client)

instance : Executor Client where
  policy := Client.policy
  execute := Client.execute

/-- Replaces the password, and authenticates with it at once if asked to. -/
def updatePassword (client : Client) (password : Option String) (immediate : Bool) :
    Action (Except Failure String × Client) := do
  match client with
  | standalone client =>
    let (outcome, client) ← client.updatePassword password immediate
    return (outcome, standalone client)
  | cluster client =>
    let (outcome, client) ← client.updatePassword password immediate
    return (outcome, cluster client)

/-- Clears the password; open connections stay authenticated. -/
def resetPassword (client : Client) : Action (Except Failure String × Client) :=
  client.updatePassword none false

/-- The counts of the pools by address, in ascending order. -/
def statistics : Client → List (String × PoolStatistics)
  | standalone client => client.statistics
  | cluster client => client.statistics

def totalConnections (client : Client) : Nat :=
  client.statistics.foldl (fun total entry => total + entry.2.total) 0

def idleConnections (client : Client) : Nat :=
  client.statistics.foldl (fun total entry => total + entry.2.idle) 0

def slotOwner? : Client → Slot → Option String
  | standalone _, _ => none
  | cluster client, slot => client.slotOwner? slot

end Client

namespace PoolStatistics

def toJson (statistics : PoolStatistics) : Json :=
  .object [("total", .natural statistics.total), ("idle", .natural statistics.idle)]

def allToJson (pools : List (String × PoolStatistics)) : Json :=
  .object [("nodes", .object (pools.map fun (address, statistics) =>
    (address, statistics.toJson)))]

end PoolStatistics

end SlotClient
