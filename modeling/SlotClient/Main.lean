import SlotClient.Network.Script
import SlotClient.Tour.Invocation

/-!
# The program

The tour of the commands as a program: an optional `--cluster` and an optional configuration file
are its arguments, and the network on which the tour is made is a script on standard input.
-/

namespace SlotClient

/-- Reads the arguments: the flag, and whatever else is given as the name of a file. -/
def readArguments (arguments : List String) : Option (Bool × Option String) :=
  let names := arguments.filter (· != "--cluster")
  if names.any (·.startsWith "-") then none
  else match names with
    | [] => some (arguments.contains "--cluster", none)
    | [name] => some (arguments.contains "--cluster", some name)
    | _ => none

/-- The bytes of a file, if it can be read. -/
def readFile? (name : String) : IO (Option Bytes) := do
  try
    return some (← IO.FS.readBinFile name).toList
  catch _ => return none

def readInput : IO Bytes := do
  let text ← (← IO.getStdin).readToEnd
  return Bytes.ofText text

end SlotClient

open SlotClient in
/-- Makes the tour that the arguments ask for and reports how it went. -/
def main (arguments : List String) : IO UInt32 := do
  match readArguments arguments with
  | none =>
    IO.eprintln "usage: walkthrough [--cluster] [CONFIG]"
    return 2
  | some (isCluster, name) =>
    let file ← name.mapM fun name => do return (name, ← readFile? name)
    match Script.ofDocument (← readInput) with
    | .error fault =>
      IO.eprintln ("Error: network script: " ++ Failure.describedFault fault)
      return 1
    | .ok world =>
      let report := { isCluster, file : Invocation }.run world
      IO.print report.output
      if let some message := report.error then IO.eprintln message
      return UInt32.ofNat report.exitCode
