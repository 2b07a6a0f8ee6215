import SlotClient.Client.Basic

/-!
# Calls

Everything that a client can be asked to do: to run a command, to replace its password, and to clear
it. A call is answered before the next one is made.
-/

namespace SlotClient

/-- Something that a client is asked to do. -/
inductive Call where
  | perform (command : Command)
  | updatePassword (password : Option String) (immediate : Bool)
  | resetPassword

namespace Call

abbrev Result : Call → Type
  | perform command => command.Result
  | updatePassword _ _ | resetPassword => String

/-- Whether a call replaces the password, which reaches all pools of the client. -/
def isRotation : Call → Bool
  | perform _ => false
  | updatePassword _ _ | resetPassword => true

def run (call : Call) (client : Client) : Action (Except Failure call.Result × Client) :=
  match call with
  | perform command => command.run client
  | updatePassword password immediate => client.updatePassword password immediate
  | resetPassword => client.resetPassword

end Call

end SlotClient
