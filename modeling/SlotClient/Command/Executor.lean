import SlotClient.Command.Basic
import SlotClient.Network.World

/-!
# Running commands

Everything that can route and execute commands is an executor. A command is run by checking its
arguments, choosing its route, making an entry in the log, executing it and decoding the reply; the
first of these that fails ends it, so nothing is executed for a command that is refused.

A recorder is an executor that keeps what it is given and answers from a prepared reply.
-/

namespace SlotClient

open Wire (Value)

/-- Something that can route commands by their keys and execute them along their routes. -/
class Executor (Client : Type) where
  policy : Client → RoutingPolicy
  execute : Client → Route → List Bytes → Action (Except Failure Value × Client)

namespace Command

/-- The route and arguments of a command, if it is acceptable. Its arguments are checked before
its keys. -/
def dispatch (command : Command) (policy : RoutingPolicy) :
    Except Violation (Route × List Bytes) := do
  let arguments ← command.arguments
  let route ← command.route policy
  return (route, arguments)

def run {Client : Type} [Executor Client] (command : Command) (client : Client) :
    Action (Except Failure command.Result × Client) := do
  match command.dispatch (Executor.policy client) with
  | .error violation => return (.error (.violation violation), client)
  | .ok (route, arguments) =>
    if command.keys?.isSome then
      World.note (.dispatch (Utf8.lossyText command.name) route)
    let (reply, client) ← Executor.execute client route arguments
    return (reply.bind command.resultKind.decode, client)

end Command

/-- An executor that keeps what it is given. Its reply is used once; after that it answers with the
null. -/
structure Recorder where
  policy : RoutingPolicy
  reply : Option Value := none
  sent : List (Route × List Bytes) := []

instance : Executor Recorder where
  policy := Recorder.policy
  execute recorder route arguments :=
    return (.ok (recorder.reply.getD .null),
      { recorder with reply := none, sent := recorder.sent ++ [(route, arguments)] })

end SlotClient
