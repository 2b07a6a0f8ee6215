import SlotClient.Tour.Basic

/-!
# The command line

The tour is started with an optional configuration file and a flag that says that the client is to
be one of a cluster. Without a file the configuration is the default one. What went wrong is said
in one message, and the exit code tells whether anything did.
-/

namespace SlotClient

/-- How the tour is started. A file is given by its name and its content, if it exists. -/
structure Invocation where
  isCluster : Bool := false
  file : Option (String × Option Bytes) := none

/-- What a run leaves: its exit code, what it printed, and what it reported as an error. -/
structure RunReport where
  exitCode : Nat
  output : String
  error : Option String
  deriving DecidableEq, Repr

namespace Invocation

/-- The configuration in a file, or the default one without a file. -/
def configuration {Record : Type} (invocation : Invocation) (layout : Json.Layout Record)
    (kind : String) : Except String Record :=
  match invocation.file with
  | none => .ok layout.initial
  | some (name, content) =>
    match Configuration.ofFile layout content with
    | .ok configuration => .ok configuration
    | .error _ => .error ("loading " ++ kind ++ " config " ++ name)

def client (invocation : Invocation) : Except String Client :=
  if invocation.isCluster then do
    let configuration ← invocation.configuration ClusterConfiguration.layout "cluster"
    (Client.ofCluster configuration).mapError Failure.message
  else do
    let configuration ← invocation.configuration ServerConfiguration.layout "client"
    return Client.ofServer configuration

def outputOf (lines : List String) : String := String.join (lines.map (· ++ "\n"))

def failed (lines : List String) (message : String) : RunReport :=
  ⟨1, outputOf lines, some ("Error: " ++ message)⟩

def run (invocation : Invocation) (world : World) : RunReport :=
  match invocation.client with
  | .error message => failed [] message
  | .ok client =>
    match Tour.whole.run { client, world } with
    | (.ok (), state) => ⟨0, outputOf state.lines, none⟩
    | (.error failure, state) => failed state.lines failure.message

end Invocation

end SlotClient
