import SlotClient.Client.Call

/-!
# Turns

A client is asked for one thing after the other, and each call with its result is a turn. The
password of a client is the one that the latest turn has set that was a rotation and not rejected,
or else the configured one.
-/

namespace SlotClient

/-- How a client is set up. -/
inductive Client.Setup where
  | server (configuration : ServerConfiguration)
  | cluster (configuration : ClusterConfiguration)

/-- A call and its result. -/
structure Turn where
  call : Call
  result : Except Failure call.Result

namespace Client

/-- The turns that a client makes of calls, and the client after them. -/
def answer (client : Client) : List Call → Action (List Turn × Client)
  | [] => return ([], client)
  | call :: calls => do
    let (result, client) ← call.run client
    let (turns, client) ← client.answer calls
    return (⟨call, result⟩ :: turns, client)

theorem run_answer_cons (client : Client) (call : Call) (calls : List Call) (world : World) :
    (client.answer (call :: calls)).run world =
      let ran := (call.run client).run world
      let rest := (ran.1.2.answer calls).run ran.2
      ((⟨call, ran.1.1⟩ :: rest.1.1, rest.1.2), rest.2) :=
  rfl

theorem run_answer_append (client : Client) (made later : List Call) (world : World) :
    (client.answer (made ++ later)).run world =
      let ran := (client.answer made).run world
      let rest := (ran.1.2.answer later).run ran.2
      ((ran.1.1 ++ rest.1.1, rest.1.2), rest.2) := by
  induction made generalizing client world with
  | nil => rfl
  | cons call made ih =>
      rw [List.cons_append, run_answer_cons, run_answer_cons]
      dsimp only
      rw [ih]
      rfl

/-- The pools of a client by address. -/
def pools : Client → List (String × Pool)
  | standalone client => [(client.pool.address, client.pool)]
  | cluster client => client.pools

namespace Setup

/-- A new client, if it can be set up like this. -/
def client : Setup → Except Failure Client
  | server configuration => .ok (ofServer configuration)
  | cluster configuration => ofCluster configuration

def username : Setup → Option String
  | server configuration => configuration.username
  | cluster configuration => configuration.username

def password : Setup → Option String
  | server configuration => configuration.password
  | cluster configuration => configuration.password

/-- The database that connections are to select, which only a single server has. -/
def database : Setup → Option Int64
  | server configuration => configuration.database
  | cluster _ => none

/-- No time limit for reading or writing is zero. -/
def LimitsAreAccepted : Setup → Prop
  | server configuration =>
    configuration.readTimeout ≠ some 0 ∧ configuration.writeTimeout ≠ some 0
  | cluster configuration =>
    configuration.readTimeout ≠ some 0 ∧ configuration.writeTimeout ≠ some 0

end Setup

end Client

namespace Turn

/-- The password that a turn has set, if it was a rotation that was not rejected for want of a
password. An empty password means none. -/
def rotation? : Turn → Option (Option String)
  | ⟨.perform _, _⟩ => none
  | ⟨.updatePassword _ _, .error (.violation .missingPassword)⟩ => none
  | ⟨.updatePassword password _, _⟩ => some (password.filter fun text => text != "")
  | ⟨.resetPassword, _⟩ => some none

/-- Only rotations set passwords. -/
theorem rotation?_eq_none {turn : Turn} (kept : turn.call.isRotation = false) :
    turn.rotation? = none := by
  rcases turn with ⟨call, result⟩
  cases call with
  | perform => rfl
  | updatePassword => contradiction
  | resetPassword => contradiction

end Turn

/-- The password of a client after turns. -/
def Client.Setup.passwordAfter (setup : Setup) (turns : List Turn) : Option String :=
  (turns.filterMap Turn.rotation?).getLast?.getD setup.password

theorem Client.Setup.passwordAfter_append (setup : Setup) (turns : List Turn) (turn : Turn) :
    setup.passwordAfter (turns ++ [turn]) = turn.rotation?.getD (setup.passwordAfter turns) := by
  rw [passwordAfter, passwordAfter, List.filterMap_append]
  cases rotated : turn.rotation? with
  | none => rw [List.filterMap_cons_none rotated, List.filterMap_nil, List.append_nil]; rfl
  | some password =>
      rw [List.filterMap_cons_some rotated, List.filterMap_nil, List.getLast?_append]
      rfl

/-- Without rotations the password is the configured one. -/
theorem Client.Setup.passwordAfter_of_kept (setup : Setup) {turns : List Turn}
    (kept : ∀ turn ∈ turns, turn.call.isRotation = false) :
    setup.passwordAfter turns = setup.password := by
  have unset : turns.filterMap Turn.rotation? = [] :=
    List.filterMap_eq_nil_iff.mpr fun turn member => turn.rotation?_eq_none (kept turn member)
  rw [passwordAfter, unset]
  rfl

end SlotClient
