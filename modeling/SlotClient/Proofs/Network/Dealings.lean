import SlotClient.Proofs.Network.History

/-!
# What clients do to a network

A client opens connections and prepares them, sends commands on connections that are ready, and
closes connections. `Dealing` lists these doings, from the connections that are ready for use before
to those after, with what an observer sees of them. Each follows the terms of the client: what it
sends to prepare connections, and what it sends on them afterwards.

Whatever a client deals, the observer keeps track of its connections, and nothing is sent but what
is in the terms. What is sent first on a new connection is what the terms begin with.
-/

namespace SlotClient

open Wire (Value)

/-- On which terms a client deals with a network: whether its time limits are accepted, the commands
that prepare a connection, and the commands that are sent on connections that are ready. -/
structure Terms where
  limitsAreAccepted : Prop
  handshake : List (List Bytes)
  commands : List (List Bytes)

namespace Deed

/-- What is sent on a connection in the course of deeds, with the replies. -/
def exchangesOn (connection : String × Nat) (deeds : List Deed) :
    List (Bytes × Except Failure Value) :=
  deeds.filterMap fun
    | exchanged other bytes reply => if other = connection then some (bytes, reply) else none
    | _ => none

/-- Whether something is sent, and if so what. -/
def sent? : Deed → Option Bytes
  | exchanged _ bytes _ => some bytes
  | _ => none

end Deed

namespace Connection

/-- What an observer sees of commands that are sent on a connection. -/
def deeds (connection : Connection) (writes : List (List Bytes × Except Failure Value)) :
    List Deed :=
  writes.map fun write => .exchanged connection.identity (Wire.encodeCommand write.1) write.2

/-- Commands that are sent, with the replies, as they stand in a history. -/
def onWire (writes : List (List Bytes × Except Failure Value)) :
    List (Bytes × Except Failure Value) :=
  writes.map fun write => (Wire.encodeCommand write.1, write.2)

variable {connection last : Connection} {writes : List (List Bytes × Except Failure Value)}

theorem deeds_congr {other : Connection} (same : other.identity = connection.identity) :
    other.deeds writes = connection.deeds writes := by
  rw [deeds, deeds, same]

theorem exchangesOn_deeds (connection : Connection)
    (writes : List (List Bytes × Except Failure Value)) :
    Deed.exchangesOn connection.identity (connection.deeds writes) = onWire writes := by
  simp [Deed.exchangesOn, deeds, onWire, List.filterMap_map]

variable {origin world final : World} {past : List Deed} {others : Multiset Connection}

theorem Configures.isTracked (configures : Configures connection world final)
    (tracked : origin.IsTracked past others world) : origin.IsTracked past others final := by
  induction configures with
  | done world => exact tracked
  | noted entry _ ih => exact ih (tracked.logged entry)
  | set setting _ ih => exact ih (tracked.recorded_setting setting _ _)

theorem Exchanges.isTracked (exchanges : Exchanges connection world writes last final)
    (tracked : origin.IsTracked past (connection ::ₘ others) world) :
    origin.IsTracked (past ++ connection.deeds writes) (last ::ₘ others) final := by
  induction exchanges generalizing past with
  | done connection world =>
      rw [deeds, List.map_nil, List.append_nil]
      exact tracked
  | noted entry _ ih => exact ih (tracked.logged entry)
  | @sent connection used last world between final arguments reply writes exchange _ ih =>
      have identical : used.identity = connection.identity := by
        rw [(exchange_cases exchange).2.1]
        exact identity_answered _ _
      have rest := ih (tracked.exchange exchange)
      rw [deeds_congr identical, List.append_assoc] at rest
      exact rest

end Connection

open Connection (establish Configures Exchanges Confirms)

/-- Something that a client does, from the connections that are ready for use and the world before
to those after, and what an observer sees of it. -/
inductive Dealing (terms : Terms) :
    Multiset Connection → World → List Deed → Multiset Connection → World → Prop
  | noted {held : Multiset Connection} {world : World} (entry : LogEntry) :
      Dealing terms held world [] held (world.logged entry)
  | refused {held : Multiset Connection} {world after : World} {address : String}
      {timeout : Option Duration} {fault : TransportFault}
      (attempt : (establish address timeout).run world = (.error fault, after)) :
      Dealing terms held world [] held after
  | abandoned {held : Multiset Connection} {world opened configured after : World}
      {address : String} {timeout : Option Duration} {connection last : Connection}
      {writes : List (List Bytes × Except Failure Value)}
      (attempt : (establish address timeout).run world = (.ok connection, opened))
      (configures : Configures connection opened configured)
      (exchanges : Exchanges connection configured writes last after)
      (failed : ¬terms.limitsAreAccepted ∧ writes = [] ∨
        terms.limitsAreAccepted ∧ ∃ failure, Confirms terms.handshake writes (.error failure)) :
      Dealing terms held world
        (.opened connection.identity :: connection.deeds writes ++ [.closed connection.identity])
        held (after.recorded connection.address (some connection.number) .close)
  | opened {held : Multiset Connection} {world opened configured after : World}
      {address : String} {timeout : Option Duration} {connection last : Connection}
      {writes : List (List Bytes × Except Failure Value)}
      (attempt : (establish address timeout).run world = (.ok connection, opened))
      (configures : Configures connection opened configured)
      (accepted : terms.limitsAreAccepted)
      (exchanges : Exchanges connection configured writes last after)
      (confirms : Confirms terms.handshake writes (.ok ())) :
      Dealing terms held world (.opened connection.identity :: connection.deeds writes)
        (last ::ₘ held) after
  | exchanged {held : Multiset Connection} {world after : World} {connection used : Connection}
      {arguments : List Bytes} {reply : Except Failure Value}
      (agreed : arguments ∈ terms.commands)
      (exchange : (connection.exchange arguments).run world = ((reply, used), after)) :
      Dealing terms (connection ::ₘ held) world (connection.deeds [(arguments, reply)])
        (used ::ₘ held) after
  | closed {held : Multiset Connection} {world : World} (connection : Connection) :
      Dealing terms (connection ::ₘ held) world [.closed connection.identity] held
        (world.recorded connection.address (some connection.number) .close)

/-- One thing after the other that a client does. -/
inductive Dealings (terms : Terms) :
    Multiset Connection → World → List Deed → Multiset Connection → World → Prop
  | nothing (held : Multiset Connection) (world : World) : Dealings terms held world [] held world
  | next {held between last : Multiset Connection} {world middle final : World}
      {deeds more : List Deed} (first : Dealing terms held world deeds between middle)
      (rest : Dealings terms between middle more last final) :
      Dealings terms held world (deeds ++ more) last final

variable {terms : Terms} {held between last : Multiset Connection}
  {origin world middle final : World} {past deeds more : List Deed}

theorem Dealings.trans (first : Dealings terms held world deeds between middle)
    (second : Dealings terms between middle more last final) :
    Dealings terms held world (deeds ++ more) last final := by
  induction first with
  | nothing held world => exact second
  | next dealing _ ih =>
      rw [List.append_assoc]
      exact .next dealing (ih second)

theorem Dealing.single (dealing : Dealing terms held world deeds last final) :
    Dealings terms held world deeds last final := by
  have rest := Dealings.next dealing (.nothing last final)
  rwa [List.append_nil] at rest

/-- The observer keeps track of the connections of a client. -/
theorem Dealing.isTracked (dealing : Dealing terms held world deeds last final)
    (tracked : origin.IsTracked past held world) :
    origin.IsTracked (past ++ deeds) last final := by
  cases dealing with
  | noted entry =>
      rw [List.append_nil]
      exact tracked.logged entry
  | refused attempt =>
      rw [List.append_nil]
      exact tracked.establish_error attempt
  | @abandoned _ _ _ _ _ _ _ connection _ _ attempt configures exchanges failed =>
      have started := configures.isTracked (tracked.establish_ok attempt)
      have stopped := (exchanges.isTracked started).tail.recorded_close connection
      simpa only [List.append_assoc, List.cons_append, List.nil_append] using stopped
  | opened attempt configures accepted exchanges confirms =>
      have started := configures.isTracked (tracked.establish_ok attempt)
      have ready := exchanges.isTracked started
      rwa [List.append_assoc] at ready
  | exchanged agreed exchange => exact tracked.exchange exchange
  | closed connection => exact tracked.tail.recorded_close connection

theorem Dealings.isTracked (dealings : Dealings terms held world deeds last final)
    (tracked : origin.IsTracked past held world) :
    origin.IsTracked (past ++ deeds) last final := by
  induction dealings generalizing past with
  | nothing held world =>
      rw [List.append_nil]
      exact tracked
  | next dealing _ ih =>
      rw [← List.append_assoc]
      exact ih (dealing.isTracked tracked)

/-- Nothing is sent but what is in the terms. -/
theorem Dealing.sends (dealing : Dealing terms held world deeds last final) :
    ∀ deed ∈ deeds, ∀ bytes, deed.sent? = some bytes →
      ∃ arguments ∈ terms.handshake ++ terms.commands, bytes = Wire.encodeCommand arguments := by
  have prepared {connection : Connection} {writes : List (List Bytes × Except Failure Value)}
      (within : ∀ write ∈ writes, write.1 ∈ terms.handshake) :
      ∀ deed ∈ connection.deeds writes, ∀ bytes, deed.sent? = some bytes →
        ∃ arguments ∈ terms.handshake ++ terms.commands, bytes = Wire.encodeCommand arguments := by
    rw [Connection.deeds, List.forall_mem_map]
    rintro write member bytes ⟨⟩
    exact ⟨write.1, List.mem_append_left _ (within write member), rfl⟩
  cases dealing with
  | noted entry => exact List.forall_mem_nil _
  | refused attempt => exact List.forall_mem_nil _
  | abandoned attempt configures exchanges failed =>
      rw [List.cons_append, List.forall_mem_cons, List.forall_mem_append,
        List.forall_mem_singleton]
      refine ⟨nofun, prepared ?_, nofun⟩
      rcases failed with ⟨_, rfl⟩ | ⟨_, failure, confirms⟩
      · exact List.forall_mem_nil _
      · exact confirms.mem
  | opened attempt configures accepted exchanges confirms =>
      rw [List.forall_mem_cons]
      exact ⟨nofun, prepared confirms.mem⟩
  | @exchanged _ _ _ _ _ arguments reply agreed exchange =>
      rw [Connection.deeds, List.map_singleton, List.forall_mem_singleton]
      rintro bytes ⟨⟩
      exact ⟨arguments, List.mem_append_right _ agreed, rfl⟩
  | closed connection =>
      rw [List.forall_mem_singleton]
      nofun

theorem Dealings.sends (dealings : Dealings terms held world deeds last final) :
    ∀ deed ∈ deeds, ∀ bytes, deed.sent? = some bytes →
      ∃ arguments ∈ terms.handshake ++ terms.commands, bytes = Wire.encodeCommand arguments := by
  induction dealings with
  | nothing held world => exact List.forall_mem_nil _
  | next dealing _ ih => exact List.forall_mem_append.mpr ⟨dealing.sends, ih⟩

/-- If a time limit is refused, no connection ever gets ready, and nothing is sent at all. -/
theorem Dealing.silent (dealing : Dealing terms held world deeds last final)
    (refused : ¬terms.limitsAreAccepted) (noneHeld : held = 0) :
    last = 0 ∧ ∀ deed ∈ deeds, deed.sent? = none := by
  cases dealing with
  | noted entry => exact ⟨noneHeld, List.forall_mem_nil _⟩
  | refused attempt => exact ⟨noneHeld, List.forall_mem_nil _⟩
  | abandoned attempt configures exchanges failed =>
      rcases failed with ⟨_, rfl⟩ | ⟨accepted, _⟩
      · refine ⟨noneHeld, ?_⟩
        simp [Connection.deeds, Deed.sent?]
      · contradiction
  | opened attempt configures accepted exchanges confirms => contradiction
  | exchanged agreed exchange => exact absurd noneHeld Multiset.cons_ne_zero
  | closed connection => exact absurd noneHeld Multiset.cons_ne_zero

theorem Dealings.silent (dealings : Dealings terms held world deeds last final)
    (refused : ¬terms.limitsAreAccepted) (noneHeld : held = 0) :
    last = 0 ∧ ∀ deed ∈ deeds, deed.sent? = none := by
  induction dealings with
  | nothing held world => exact ⟨noneHeld, List.forall_mem_nil _⟩
  | next dealing _ ih =>
      rcases dealing.silent refused noneHeld with ⟨stillNone, silent⟩
      rcases ih stillNone with ⟨noneLast, silentRest⟩
      exact ⟨noneLast, List.forall_mem_append.mpr ⟨silent, silentRest⟩⟩

namespace Deed

/-- On each connection that is opened in the course of deeds, the first thing that is sent is a
given command. -/
def Introduce (first : List Bytes) (deeds : List Deed) : Prop :=
  ∀ earlier connection later, deeds = earlier ++ .opened connection :: later →
    ∃ reply, (exchangesOn connection later).head? = some (Wire.encodeCommand first, reply)

variable {first : List Bytes} {deed : Deed}

theorem introduce_nil (first : List Bytes) : Introduce first [] := by
  intro earlier connection later impossible
  simp at impossible

theorem introduce_cons :
    Introduce first (deed :: deeds) ↔
      (∀ connection, deed = .opened connection →
        ∃ reply, (exchangesOn connection deeds).head? =
          some (Wire.encodeCommand first, reply)) ∧ Introduce first deeds := by
  constructor
  · intro introduce
    refine ⟨?_, ?_⟩
    · rintro connection rfl
      exact introduce [] connection deeds rfl
    · rintro earlier connection later rfl
      exact introduce (deed :: earlier) connection later rfl
  · rintro ⟨opens, introduce⟩ earlier connection later shape
    cases earlier with
    | nil =>
        rw [List.nil_append, List.cons.injEq] at shape
        rw [← shape.2]
        exact opens connection shape.1
    | cons other earlier =>
        rw [List.cons_append, List.cons.injEq] at shape
        exact introduce earlier connection later shape.2

theorem Introduce.append (introduce : Introduce first deeds) (rest : Introduce first more) :
    Introduce first (deeds ++ more) := by
  induction deeds with
  | nil => exact rest
  | cons deed deeds ih =>
      rw [introduce_cons] at introduce
      rw [List.cons_append, introduce_cons]
      refine ⟨?_, ih introduce.2⟩
      intro connection opens
      rcases introduce.1 connection opens with ⟨reply, isFirst⟩
      refine ⟨reply, ?_⟩
      rw [exchangesOn] at isFirst ⊢
      rw [List.filterMap_append, List.head?_append, isFirst]
      rfl

/-- Where no connection is opened, none lacks its introduction. -/
theorem introduce_of_sent (sent : ∀ deed ∈ deeds, ∀ connection, deed ≠ .opened connection) :
    Introduce first deeds := by
  rintro earlier connection later rfl
  exact absurd rfl (sent (.opened connection) (by simp) connection)

end Deed

theorem Connection.introduce_deeds (first : List Bytes) (connection : Connection)
    (writes : List (List Bytes × Except Failure Value)) :
    Deed.Introduce first (connection.deeds writes) := by
  apply Deed.introduce_of_sent
  rw [Connection.deeds, List.forall_mem_map]
  nofun

/-- What is confirmed first is sent first. -/
theorem Connection.Confirms.head?_writes {command : List Bytes} {commands : List (List Bytes)}
    {writes : List (List Bytes × Except Failure Value)} {answer : Except Failure Unit}
    (confirms : Confirms (command :: commands) writes answer) :
    ∃ reply, writes.head? = some (command, reply) := by
  cases confirms with
  | next rest => exact ⟨_, rfl⟩
  | refused refused => exact ⟨_, rfl⟩

theorem introduce_opened {command : List Bytes} {commands : List (List Bytes)}
    {connection : Connection} {writes : List (List Bytes × Except Failure Value)}
    {answer : Except Failure Unit} (confirms : Confirms (command :: commands) writes answer) :
    Deed.Introduce command (.opened connection.identity :: connection.deeds writes) := by
  refine Deed.introduce_cons.mpr ⟨?_, Connection.introduce_deeds _ _ _⟩
  rintro identity ⟨⟩
  rcases confirms.head?_writes with ⟨reply, isFirst⟩
  refine ⟨reply, ?_⟩
  rw [Connection.exchangesOn_deeds, Connection.onWire, List.head?_map, isFirst]
  rfl

/-- If time limits are accepted, what is sent first on a new connection is the first command of its
handshake. -/
theorem Dealing.introduce (dealing : Dealing terms held world deeds last final)
    (accepted : terms.limitsAreAccepted) {first : List Bytes} {others : List (List Bytes)}
    (handshake : terms.handshake = first :: others) : Deed.Introduce first deeds := by
  cases dealing with
  | noted entry => exact Deed.introduce_nil first
  | refused attempt => exact Deed.introduce_nil first
  | abandoned attempt configures exchanges failed =>
      rcases failed with ⟨refused, _⟩ | ⟨_, failure, confirms⟩
      · contradiction
      · rw [handshake] at confirms
        refine (introduce_opened confirms).append (Deed.introduce_of_sent ?_)
        rw [List.forall_mem_singleton]
        nofun
  | opened attempt configures accepted exchanges confirms =>
      rw [handshake] at confirms
      exact introduce_opened confirms
  | exchanged agreed exchange => exact Connection.introduce_deeds _ _ _
  | closed connection =>
      apply Deed.introduce_of_sent
      rw [List.forall_mem_singleton]
      nofun

theorem Dealings.introduce (dealings : Dealings terms held world deeds last final)
    (accepted : terms.limitsAreAccepted) {first : List Bytes} {others : List (List Bytes)}
    (handshake : terms.handshake = first :: others) : Deed.Introduce first deeds := by
  induction dealings with
  | nothing held world => exact Deed.introduce_nil first
  | next dealing _ ih => exact (dealing.introduce accepted handshake).append ih

end SlotClient
