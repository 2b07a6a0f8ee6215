import SlotClient.Proofs.Command.Decoding
import SlotClient.Proofs.Command.Dispatch

/-!
# Results of commands

A command that is executed has the result that its reply decodes to. An error is the failure of the
server, the null is an absent value where there may be one and a reply of another kind elsewhere,
and no other reply is taken for either.
-/

namespace SlotClient

open Wire (Value)

namespace Command

/-- How the outcome of a command tells the null from other replies. A result that may be absent is
there if and only if the reply is the null or a string, and it is what the reply means. The entries
of a list are so for the items of an array, one for each. No other result is made of the null. -/
def TellsAbsence (reply : Value) : (command : Command) → Except Failure command.Result → Prop
  | setWith _ _ _, outcome | get _, outcome | getEx _, outcome | getExWith _ _, outcome
  | getDel _, outcome => ∀ found, outcome = .ok found ↔ reply.Means found
  | mget _, outcome => ∀ found, outcome = .ok found ↔
      ∃ items, reply = .array items ∧ List.Forall₂ Value.Means items found
  | set _ _, outcome | mset _, outcome | msetNx _, outcome | incr _, outcome | incrBy _ _, outcome
  | incrByFloat _ _, outcome | decr _, outcome | decrBy _ _, outcome | strlen _, outcome
  | setRange _ _ _, outcome | getRange _ _ _, outcome | append _ _, outcome | lcs _ _, outcome
  | lcsLength _ _, outcome | lcsMatches _ _ _, outcome | ping _, outcome | del _, outcome
  | countExisting _, outcome | ttl _, outcome => reply = .null → outcome = .error .unexpectedReply

theorem tellsAbsence_decode (command : Command) (reply : Value) :
    command.TellsAbsence reply (command.resultKind.decode reply) := by
  cases command with
  | setWith _ _ _ | get _ | getEx _ | getExWith _ _ | getDel _ =>
      exact fun _ => Reply.optionalBytes_eq_ok_iff
  | mget _ => exact fun _ => Reply.optionalBytesList_eq_ok_iff
  | _ =>
      rintro rfl
      exact ResultKind.decode_null nofun

/-- The outcome of a command that is executed is what its reply decodes to. -/
theorem run_of_reply {Client : Type} [Executor Client] {client : Client} {command : Command}
    {route : Route} {arguments : List Bytes} {world : World} {reply : Value}
    (dispatched : command.dispatch (Executor.policy client) = .ok (route, arguments))
    (replied : ((Executor.execute client route arguments).run (command.noted route world)).1.1 =
      .ok reply) :
    ((command.run client).run world).1.1 = command.resultKind.decode reply := by
  rw [run_of_dispatch_ok dispatched]
  dsimp only
  rw [replied]
  rfl

/-- A command has a result just if it is dispatched and executed, and the reply is decoded to it. -/
theorem run_eq_ok_iff {Client : Type} [Executor Client] {client : Client} {command : Command}
    {world : World} {result : command.Result} :
    ((command.run client).run world).1.1 = .ok result ↔
      ∃ call reply, command.dispatch (Executor.policy client) = .ok call ∧
        ((Executor.execute client call.1 call.2).run (command.noted call.1 world)).1.1 =
          .ok reply ∧
        command.resultKind.decode reply = .ok result := by
  rcases dispatched : command.dispatch (Executor.policy client) with violation | call
  · simp [run_of_dispatch_error dispatched]
  · rw [run_of_dispatch_ok dispatched]
    exact bind_eq_ok_iff.trans (by simp)

/-- Errors and absent values are told apart, whichever command a reply is to. If the reply is an
error, the command fails with just its message. If there is no error in it at any level, the command
has a result or the reply was of another kind. A result that may be absent is so for the null alone,
and otherwise it is the bytes of the string that the reply is, and this for every entry of a list.
All other commands have no result for the null. -/
theorem run_tells_errors_and_absence {Client : Type} [Executor Client] {client : Client}
    {command : Command} {route : Route} {arguments : List Bytes} {world : World} {reply : Value}
    (dispatched : command.dispatch (Executor.policy client) = .ok (route, arguments))
    (replied : ((Executor.execute client route arguments).run (command.noted route world)).1.1 =
      .ok reply) :
    let outcome := ((command.run client).run world).1.1
    (∀ message, reply = .error message → outcome = .error (.server message)) ∧
    ((∀ message, .error message ∉ reply.parts) →
      (∃ result, outcome = .ok result) ∨ outcome = .error .unexpectedReply) ∧
    command.TellsAbsence reply outcome := by
  intro outcome
  have decoded : outcome = command.resultKind.decode reply := run_of_reply dispatched replied
  rw [decoded]
  refine ⟨?_, command.resultKind.decode_of_errorFree, command.tellsAbsence_decode reply⟩
  rintro message rfl
  exact command.resultKind.decode_error message

/-- The empty string and the null in the reply to a command on two keys. -/
theorem run_tells_errors_and_absence_mget :
    let recorder : Recorder :=
      { policy := .singleServer, reply := some (.array [.bulk (some []), .null]) }
    (((Command.mget [[97], [98]]).run recorder).run {}).1.1 = .ok [some [], none] := by
  intro recorder
  have dispatched : (Command.mget [[97], [98]]).dispatch (Executor.policy recorder) =
      .ok (.anywhere, [Bytes.ofText "MGET", [97], [98]]) := rfl
  have replied : ((Executor.execute recorder .anywhere [Bytes.ofText "MGET", [97], [98]]).run
      ((Command.mget [[97], [98]]).noted .anywhere {})).1.1 =
        .ok (.array [.bulk (some []), .null]) := rfl
  have tells := (run_tells_errors_and_absence dispatched replied).2.2
  exact (tells _).mpr ⟨_, rfl, .cons (.bulk []) (.cons .nothing .nil)⟩

/-- Each key has one value, in the order of the keys, and it is what the item at its place means. -/
structure LinesUp (keys : List Bytes) (items : List Value) (found : List (Option Bytes)) :
    Prop where
  length : found.length = keys.length
  each : ∀ (index : Nat) (key : Bytes), keys[index]? = some key →
    ∃ item value, items[index]? = some item ∧ found[index]? = some value ∧ Value.Means item value

theorem linesUp_of_means {keys : List Bytes} {items : List Value} {found : List (Option Bytes)}
    (means : List.Forall₂ Value.Means items found) (answered : items.length = keys.length) :
    LinesUp keys items found := by
  have length : found.length = keys.length := means.length_eq ▸ answered
  refine ⟨length, ?_⟩
  intro index key isKey
  rcases List.getElem?_eq_some_iff.mp isKey with ⟨inKeys, -⟩
  have inItems : index < items.length := by omega
  have inFound : index < found.length := by omega
  exact ⟨items[index], found[index], List.getElem?_eq_getElem inItems,
    List.getElem?_eq_getElem inFound, means.get inItems inFound⟩

/-- The values of keys are listed in the order of the keys. Whatever client is asked for the values
of keys, it is given just these keys to execute, and there is a list of values if and only if the
reply is an array of strings and nulls. The list has one entry for each item of the array, which is
what the item means. So if the server answers with one item for each key, then there is one entry
for each key, and the entry of a key is the value at its place in the reply, or absent for the
null. -/
theorem mget_lists_values_in_order {Client : Type} [Executor Client] (client : Client)
    (keys : List Bytes) (world : World) (found : List (Option Bytes)) :
    (((mget keys).run client).run world).1.1 = .ok found ↔
      ∃ route items, (mget keys).route (Executor.policy client) = .ok route ∧
        ((Executor.execute client route (Bytes.ofText "MGET" :: keys)).run
          ((mget keys).noted route world)).1.1 = .ok (.array items) ∧
        List.Forall₂ Value.Means items found ∧
        (items.length = keys.length → LinesUp keys items found) := by
  refine run_eq_ok_iff.trans ⟨?_, ?_⟩
  · rintro ⟨⟨route, arguments⟩, reply, dispatched, replied, decoded⟩
    rcases dispatch_eq_ok_iff.mp dispatched with ⟨sent, routed⟩
    cases sent
    rcases Reply.optionalBytesList_eq_ok_iff.mp decoded with ⟨items, rfl, means⟩
    exact ⟨route, items, routed, replied, means, linesUp_of_means means⟩
  · rintro ⟨route, items, routed, replied, means, -⟩
    have dispatched := dispatch_eq_ok_iff.mpr ⟨(rfl : (mget keys).arguments = .ok _), routed⟩
    exact ⟨_, _, dispatched, replied, Reply.optionalBytesList_eq_ok_iff.mpr ⟨items, rfl, means⟩⟩

/-- One of two keys is missing. -/
theorem mget_lists_values_in_order_absent :
    let items : List Value := [.bulk (some [120]), .null]
    let recorder : Recorder := { policy := .singleServer, reply := some (.array items) }
    (((mget [[97], [98]]).run recorder).run {}).1.1 = .ok [some [120], none] ∧
      LinesUp [[97], [98]] items [some [120], none] := by
  intro items recorder
  have listed : (((mget [[97], [98]]).run recorder).run {}).1.1 = .ok [some [120], none] := rfl
  have lists := mget_lists_values_in_order recorder [[97], [98]] {} [some [120], none]
  rcases lists.mp listed with ⟨route, others, routed, replied, means, linesUp⟩
  cases replied
  exact ⟨listed, linesUp rfl⟩

/-- A value for one of two keys is taken as well, and then the other key has no entry. -/
theorem mget_takes_fewer_values :
    let items : List Value := [.bulk (some [120])]
    let recorder : Recorder := { policy := .singleServer, reply := some (.array items) }
    ∃ found, (((mget [[97], [98]]).run recorder).run {}).1.1 = .ok found ∧
      found.length ≠ 2 ∧ ¬LinesUp [[97], [98]] items found := by
  refine ⟨[some [120]], rfl, by decide, ?_⟩
  intro linesUp
  have length := linesUp.length
  contradiction

end Command

end SlotClient
