import SlotClient.Network.Connection
import SlotClient.Proofs.Network.World
import SlotClient.Proofs.Wire.Truncation

/-!
# Connections and what they read

What establishing a connection and an exchange on it do, as functions of the world. A connection
that is established has no unread bytes. An exchange writes once, takes the next response of the
node if there is one, and reads the reply from what has arrived.

A response is proper if it is one complete frame or a failure. On a connection without unread bytes
a proper response answers the command that it is given to: the value of the frame is the reply and
nothing is left, or the reply is a failure that breaks the connection.
-/

namespace SlotClient

open Wire (Value Frame)

namespace Connection

/-- The reply to a command, and the connection after it, by what the node responds to the write. -/
def answered (connection : Connection) : Option Response → Except Failure Value × Connection
  | none =>
    ((Wire.read connection.fault connection.unread).1,
      { connection with unread := (Wire.read connection.fault connection.unread).2 })
  | some (.writeFault fault) => (.error (.transport fault), connection)
  | some (.data bytes fault) =>
    ((Wire.read fault (connection.unread ++ bytes)).1,
      { connection with unread := (Wire.read fault (connection.unread ++ bytes)).2, fault })

/-- The world after a write on a connection. -/
def writtenWorld (connection : Connection) (bytes : Bytes) (world : World) : World :=
  (world.recorded connection.address (some connection.number) (.send bytes)).advance
    connection.address

/-- An exchange writes the command once and is answered by the next response of the node. -/
theorem run_exchange (connection : Connection) (arguments : List Bytes) (world : World) :
    (connection.exchange arguments).run world =
      (connection.answered (world.pending connection.address).head?,
        connection.writtenWorld (Wire.encodeCommand arguments) world) := by
  unfold exchange send World.record
  simp only [StateT.run_bind, StateT.run_modify, StateT.run_get, pure_bind]
  unfold writtenWorld World.advance World.pending
  simp only [World.recorded]
  rcases found : world.nodes.lookup connection.address with _ | node
  · simp only [StateT.run_pure, pure_bind]
    rfl
  · rcases available : node.responses with _ | ⟨response, responses⟩
    · simp only [StateT.run_pure, pure_bind, Option.map_some, available]
      rfl
    · rcases response with ⟨bytes, fault⟩ | fault
      · simp only [Option.map_some, available]
        rfl
      · simp only [Option.map_some, available]
        rfl

theorem exchange_cases {connection used : Connection} {arguments : List Bytes}
    {world final : World} {reply : Except Failure Value}
    (exchange : (connection.exchange arguments).run world = ((reply, used), final)) :
    reply = (connection.answered (world.pending connection.address).head?).1 ∧
      used = (connection.answered (world.pending connection.address).head?).2 ∧
      final = connection.writtenWorld (Wire.encodeCommand arguments) world := by
  rw [run_exchange] at exchange
  rw [Prod.mk.injEq] at exchange
  rcases exchange with ⟨answered, rfl⟩
  exact ⟨(congrArg Prod.fst answered).symm, (congrArg Prod.snd answered).symm, rfl⟩

/-- What tells a connection from all others. -/
def identity (connection : Connection) : String × Nat := (connection.address, connection.number)

theorem identity_answered (connection : Connection) (response : Option Response) :
    (connection.answered response).2.identity = connection.identity := by
  rcases response with _ | ⟨_, _⟩ | _ <;> rfl

/-- An exchange that fails breaks the connection. -/
theorem breaksConnection_of_answered {connection : Connection} {response : Option Response}
    {failure : Failure} (failed : (connection.answered response).1 = .error failure) :
    failure.breaksConnection = true := by
  rcases response with _ | ⟨_, _⟩ | _
  · exact Wire.breaksConnection_read _ (Prod.ext failed rfl)
  · exact Wire.breaksConnection_read _ (Prod.ext failed rfl)
  · cases failed
    rfl

theorem receive_responses (node : Node) : (receive node).2.responses = node.responses := by
  unfold receive
  split <;> rfl

/-- What an attempt to connect to a node makes of the world. -/
theorem run_establish {address : String} {timeout : Option Duration} (world : World)
    (allowed : timeout ≠ some 0) :
    (establish address timeout).run world =
      match world.nodes.lookup address with
      | none =>
        (.error .connectionRefused,
          world.recorded address none (.connect (timeout.map Duration.milliseconds)))
      | some node =>
        match (receive node).1 with
        | .error fault =>
          (.error fault,
            (world.withNode address (receive node).2).recorded address none
              (.connect (timeout.map Duration.milliseconds)))
        | .ok number =>
          (.ok { address, number },
            (world.withNode address (receive node).2).recorded address (some number)
              (.connect (timeout.map Duration.milliseconds))) := by
  unfold establish
  rw [if_neg allowed]
  simp only [StateT.run_bind, StateT.run_get, pure_bind]
  rcases world.nodes.lookup address with _ | node
  · rfl
  · simp only [StateT.run_bind, StateT.run_set, pure_bind]
    rcases (receive node).1 with fault | number <;> rfl

theorem pending_receive {world : World} {address : String} {node : Node}
    (found : world.nodes.lookup address = some node) :
    (world.withNode address (receive node).2).pending = world.pending := by
  funext other
  rw [World.pending_withNode found, receive_responses]
  split
  · rename_i here
    simp only [here, World.pending, found, Option.map_some, Option.getD_some]
  · rfl

/-- An attempt to connect that fails opens nothing and changes no responses. -/
theorem establish_error {address : String} {timeout : Option Duration} {world after : World}
    {fault : TransportFault}
    (attempt : (establish address timeout).run world = (.error fault, after)) :
    (after.events = world.events ∨
      after.events =
        world.events ++ [⟨address, none, .connect (timeout.map Duration.milliseconds)⟩]) ∧
      after.pending = world.pending ∧ after.hosts = world.hosts := by
  by_cases allowed : timeout = some 0
  · rw [allowed] at attempt
    cases attempt
    exact ⟨Or.inl rfl, rfl, rfl⟩
  · rw [run_establish world allowed] at attempt
    split at attempt
    · cases attempt
      exact ⟨Or.inr rfl, rfl, rfl⟩
    · rename_i node found
      split at attempt <;> cases attempt
      exact ⟨Or.inr rfl, pending_receive found, rfl⟩

/-- A connection that is established has no unread bytes, and changes no responses. -/
theorem establish_ok {address : String} {timeout : Option Duration} {world after : World}
    {connection : Connection}
    (attempt : (establish address timeout).run world = (.ok connection, after)) :
    connection.address = address ∧ connection.unread = [] ∧
      after.events = world.events ++
        [⟨address, some connection.number, .connect (timeout.map Duration.milliseconds)⟩] ∧
      after.pending = world.pending ∧ after.hosts = world.hosts := by
  by_cases allowed : timeout = some 0
  · rw [allowed] at attempt
    cases attempt
  · rw [run_establish world allowed] at attempt
    split at attempt
    · cases attempt
    · rename_i node found
      split at attempt <;> cases attempt
      exact ⟨rfl, rfl, rfl, pending_receive found, rfl⟩

end Connection

/-- The bytes are one complete frame of a value that is within the limits of the reader and does
not break its own lines. -/
structure Wire.IsReply (value : Value) (bytes : Bytes) : Prop where
  frame : Frame value bytes
  noFeed : value.LinesAvoid Bytes.lineFeed
  noReturn : value.LinesAvoid Bytes.carriageReturn
  fits : value.BulksFit
  shallow : value.height ≤ 8

/-- The responses that are one complete reply, a reply that breaks off, possibly at its beginning,
or a write that fails. Reading behind the bytes may fail. -/
inductive Response.IsProper : Response → Prop
  | reply {value : Value} {bytes : Bytes} (fault : Option TransportFault)
      (complete : Wire.IsReply value bytes) : IsProper (.data bytes fault)
  | broken {value : Value} {bytes cut lost : Bytes} (fault : Option TransportFault)
      (complete : Wire.IsReply value bytes) (incomplete : lost ≠ [])
      (broken : bytes = cut ++ lost) : IsProper (.data cut fault)
  | writeFault (fault : TransportFault) : IsProper (.writeFault fault)

namespace Connection

variable {connection : Connection}

/-- On a connection without unread bytes a complete reply answers the command, and nothing is left
of it. -/
theorem answered_reply (synchronous : connection.unread = []) {value : Value} {bytes : Bytes}
    (complete : Wire.IsReply value bytes) (fault : Option TransportFault) :
    connection.answered (some (.data bytes fault)) = (.ok value, { connection with fault }) := by
  have read := Wire.read_frame fault complete.frame complete.noFeed complete.fits complete.shallow
  simp only [answered, synchronous, List.nil_append, read]

/-- On a connection without unread bytes a proper response that is no complete reply is a failure,
and so is no response at all. -/
theorem answered_failure (synchronous : connection.unread = []) {response : Option Response}
    (proper : ∀ given ∈ response, given.IsProper)
    (noReply : ∀ value bytes fault, response = some (.data bytes fault) →
      ¬Wire.IsReply value bytes) :
    ∃ failure, (connection.answered response).1 = .error failure := by
  rcases response with _ | response
  · refine ⟨.transport (connection.fault.getD .endOfInput), ?_⟩
    simp only [answered, synchronous, Wire.read_nil]
  · cases proper response rfl with
    | reply fault complete => exact absurd complete (noReply _ _ fault rfl)
    | broken fault complete incomplete broken =>
        rcases Wire.read_cut fault complete.frame complete.noFeed complete.noReturn complete.fits
          complete.shallow incomplete broken with ⟨failure, rest, failed⟩
        refine ⟨failure, ?_⟩
        simp only [answered, synchronous, List.nil_append, failed]
    | writeFault fault => exact ⟨.transport fault, rfl⟩

/-- If nodes give proper responses, a connection without unread bytes has none after an exchange
that succeeded. -/
theorem unread_of_answered (synchronous : connection.unread = []) {response : Option Response}
    (proper : ∀ given ∈ response, given.IsProper) {value : Value}
    (succeeded : (connection.answered response).1 = .ok value) :
    (connection.answered response).2.unread = [] := by
  by_cases noReply : ∀ value bytes fault, response = some (.data bytes fault) →
      ¬Wire.IsReply value bytes
  · rcases answered_failure synchronous proper noReply with ⟨failure, failed⟩
    rw [failed] at succeeded
    contradiction
  · push Not at noReply
    rcases noReply with ⟨value, bytes, fault, rfl, complete⟩
    rw [answered_reply synchronous complete fault]
    exact synchronous

end Connection

end SlotClient
