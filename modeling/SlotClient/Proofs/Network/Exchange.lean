import SlotClient.Proofs.Network.Connection

/-!
# Exchanges on a connection

The commands that are sent on a connection one after the other, with their replies. Some commands
must be confirmed before anything else is sent: those that prepare a connection for its first use,
and the announcement of a command. The first of them that is not confirmed is the last one sent.
-/

namespace SlotClient

open Wire (Value)

/-- Whether a failure is that of an exchange: of the connection, or of an answer that was not the
one that was asked for. -/
def Failure.isOfExchange : Failure → Bool
  | transport _ | protocol | server _ | unexpectedReply => true
  | _ => false

theorem Failure.isOfExchange_of_breaksConnection {failure : Failure}
    (breaks : failure.breaksConnection = true) : failure.isOfExchange = true := by
  cases failure <;> first | rfl | contradiction

namespace Connection

variable {connection last : Connection} {world middle final : World}
  {writes : List (List Bytes × Except Failure Value)}

def event (connection : Connection) (activity : Activity) : Event :=
  ⟨connection.address, some connection.number, activity⟩

/-- The command that is sent on a connection. -/
def sendEvent (connection : Connection) (arguments : List Bytes) : Event :=
  connection.event (.send (Wire.encodeCommand arguments))

/-- Commands are sent on a connection one after the other, each with its reply. In between there
may be entries in the log. -/
inductive Exchanges : Connection → World → List (List Bytes × Except Failure Value) →
    Connection → World → Prop
  | done (connection : Connection) (world : World) : Exchanges connection world [] connection world
  | noted {connection last : Connection} {world final : World}
      {writes : List (List Bytes × Except Failure Value)} (entry : LogEntry)
      (rest : Exchanges connection (world.logged entry) writes last final) :
      Exchanges connection world writes last final
  | sent {connection used last : Connection} {world between final : World}
      {arguments : List Bytes} {reply : Except Failure Value}
      {writes : List (List Bytes × Except Failure Value)}
      (exchange : (connection.exchange arguments).run world = ((reply, used), between))
      (rest : Exchanges used between writes last final) :
      Exchanges connection world ((arguments, reply) :: writes) last final

theorem Exchanges.trans {used : Connection} {more : List (List Bytes × Except Failure Value)}
    (first : Exchanges connection world writes used middle)
    (second : Exchanges used middle more last final) :
    Exchanges connection world (writes ++ more) last final := by
  induction first with
  | done connection world => exact second
  | noted entry _ ih => exact .noted entry (ih second)
  | sent exchange _ ih => exact .sent exchange (ih second)

theorem Exchanges.single {used : Connection} {arguments : List Bytes}
    {reply : Except Failure Value}
    (exchange : (connection.exchange arguments).run world = ((reply, used), final)) :
    Exchanges connection world [(arguments, reply)] used final :=
  .sent exchange (.done used final)

theorem Exchanges.identity_eq (exchanges : Exchanges connection world writes last final) :
    last.identity = connection.identity := by
  induction exchanges with
  | done connection world => rfl
  | noted entry _ ih => exact ih
  | sent exchange _ ih =>
      rcases exchange_cases exchange with ⟨rfl, rfl, rfl⟩
      exact ih.trans (identity_answered _ _)

theorem sendEvent_congr {first second : Connection} (same : first.identity = second.identity) :
    first.sendEvent = second.sendEvent := by
  have sameAddress : first.address = second.address := congrArg Prod.fst same
  have sameNumber : first.number = second.number := congrArg Prod.snd same
  funext arguments
  rw [sendEvent, event, sameAddress, sameNumber, sendEvent, event]

/-- All that exchanges do to a network is to send the commands. -/
theorem Exchanges.events_eq (exchanges : Exchanges connection world writes last final) :
    final.events = world.events ++ writes.map fun write => connection.sendEvent write.1 := by
  induction exchanges with
  | done connection world => rw [List.map_nil, List.append_nil]
  | noted entry _ ih => exact ih
  | @sent connection used last world between final arguments reply writes exchange _ ih =>
      rcases exchange_cases exchange with ⟨rfl, rfl, rfl⟩
      rw [sendEvent_congr (identity_answered _ _)] at ih
      rw [ih, writtenWorld, World.events_advance, World.recorded, List.map_cons,
        List.append_assoc, List.singleton_append]
      rfl

theorem Exchanges.hosts_eq (exchanges : Exchanges connection world writes last final) :
    final.hosts = world.hosts := by
  induction exchanges with
  | done connection world => rfl
  | noted entry _ ih => exact ih
  | sent exchange _ ih =>
      rcases exchange_cases exchange with ⟨rfl, rfl, rfl⟩
      exact ih.trans (World.hosts_advance _ _)

/-- The failures among the replies to exchanges are such that they break the connection. -/
theorem Exchanges.breaksConnection (exchanges : Exchanges connection world writes last final) :
    ∀ write ∈ writes, ∀ failure, write.2 = .error failure → failure.breaksConnection = true := by
  induction exchanges with
  | done connection world => exact List.forall_mem_nil _
  | noted entry _ ih => exact ih
  | sent exchange _ ih =>
      rw [List.forall_mem_cons]
      refine ⟨?_, ih⟩
      intro failure failed
      rcases exchange_cases exchange with ⟨rfl, rfl, rfl⟩
      exact breaksConnection_of_answered failed

/-- A reply that does not confirm a command, and the failure that it is taken for. -/
inductive Refuses : Except Failure Value → Failure → Prop
  | unanswered (failure : Failure) : Refuses (.error failure) failure
  | rejected (message : Bytes) : Refuses (.ok (.error message)) (.server message)
  | unexpected {value : Value} (notSimple : ∀ text, value ≠ .simple text)
      (notError : ∀ message, value ≠ .error message) : Refuses (.ok value) .unexpectedReply

theorem refuses_of_confirmation {reply : Except Failure Value} {failure : Failure}
    (refused : reply.bind confirmation = .error failure) : Refuses reply failure := by
  rcases reply with cause | value
  · cases refused
    exact .unanswered failure
  · cases value with
    | simple text => cases refused
    | error message =>
        cases refused
        exact .rejected message
    | integer number =>
        cases refused
        exact .unexpected nofun nofun
    | bulk body =>
        cases refused
        exact .unexpected nofun nofun
    | array items =>
        cases refused
        exact .unexpected nofun nofun

/-- Commands are confirmed one after the other, up to the first that is not. -/
inductive Confirms : List (List Bytes) → List (List Bytes × Except Failure Value) →
    Except Failure Unit → Prop
  | all : Confirms [] [] (.ok ())
  | next {command : List Bytes} {commands : List (List Bytes)} {text : Bytes}
      {writes : List (List Bytes × Except Failure Value)} {outcome : Except Failure Unit}
      (rest : Confirms commands writes outcome) :
      Confirms (command :: commands) ((command, .ok (.simple text)) :: writes) outcome
  | refused {command : List Bytes} {commands : List (List Bytes)} {reply : Except Failure Value}
      {failure : Failure} (refused : Refuses reply failure) :
      Confirms (command :: commands) [(command, reply)] (.error failure)

theorem simple_of_confirmation {answer : Except Failure Value} {accepted : Unit}
    (confirmed : answer.bind confirmation = .ok accepted) :
    ∃ text, answer = .ok (.simple text) := by
  rcases answer with failure | value
  · cases confirmed
  · cases value with
    | simple text => exact ⟨text, rfl⟩
    | error message => cases confirmed
    | integer number => cases confirmed
    | bulk body => cases confirmed
    | array items => cases confirmed

theorem Confirms.single (command : List Bytes) (reply : Except Failure Value) :
    Confirms [command] [(command, reply)] (reply.bind confirmation) := by
  rcases confirmed : reply.bind confirmation with failure | accepted
  · exact .refused (refuses_of_confirmation confirmed)
  · rcases simple_of_confirmation confirmed with ⟨text, rfl⟩
    exact .next .all

variable {commands later : List (List Bytes)} {answer : Except Failure Unit}

theorem Confirms.append_ok {more : List (List Bytes × Except Failure Value)}
    (first : Confirms commands writes (.ok ())) (second : Confirms later more answer) :
    Confirms (commands ++ later) (writes ++ more) answer := by
  generalize accepted : Except.ok () = outcome at first
  induction first with
  | all => exact second
  | next _ ih => exact .next (ih accepted)
  | refused _ => cases accepted

theorem Confirms.append_error {failure : Failure}
    (first : Confirms commands writes (.error failure)) :
    Confirms (commands ++ later) writes (.error failure) := by
  generalize failed : Except.error failure = outcome at first ⊢
  induction first with
  | all => cases failed
  | next _ ih => exact .next (ih failed)
  | refused refused => exact .refused refused

/-- Only the commands are sent. -/
theorem Confirms.mem (confirms : Confirms commands writes answer) :
    ∀ write ∈ writes, write.1 ∈ commands := by
  induction confirms with
  | all => exact List.forall_mem_nil _
  | next _ ih =>
      rw [List.forall_mem_cons]
      exact ⟨List.mem_cons_self, fun write member => List.mem_cons_of_mem _ (ih write member)⟩
  | refused _ =>
      rw [List.forall_mem_singleton]
      exact List.mem_cons_self

theorem Confirms.replies_of_ok (confirms : Confirms commands writes (.ok ())) :
    ∀ write ∈ writes, ∃ value, write.2 = .ok value := by
  generalize accepted : Except.ok () = outcome at confirms
  induction confirms with
  | all => exact List.forall_mem_nil _
  | next _ ih =>
      rw [List.forall_mem_cons]
      exact ⟨⟨_, rfl⟩, ih accepted⟩
  | refused _ => cases accepted

theorem Refuses.isOfExchange {reply : Except Failure Value} {failure : Failure}
    (refuses : Refuses reply failure)
    (breaks : ∀ cause, reply = .error cause → cause.breaksConnection = true) :
    failure.isOfExchange = true := by
  cases refuses with
  | unanswered => exact Failure.isOfExchange_of_breaksConnection (breaks _ rfl)
  | rejected message => rfl
  | unexpected => rfl

theorem Confirms.isOfExchange {failure : Failure}
    (confirms : Confirms commands writes (.error failure))
    (breaks : ∀ write ∈ writes, ∀ cause, write.2 = .error cause →
      cause.breaksConnection = true) : failure.isOfExchange = true := by
  generalize failed : Except.error failure = outcome at confirms
  induction confirms with
  | all => cases failed
  | next _ ih =>
      rw [List.forall_mem_cons] at breaks
      exact ih breaks.2 failed
  | refused refused =>
      cases failed
      rw [List.forall_mem_singleton] at breaks
      exact refused.isOfExchange breaks

end Connection

end SlotClient
