import Mathlib.Data.List.Forall2
import SlotClient.Command.Reply
import SlotClient.Proofs.Network.Exchange
import SlotClient.Proofs.Outcome

/-!
# Results of replies

Whatever a reply is and whatever kind of result is expected, decoding it fails with the message of an
error in the reply or because the reply is of another kind. Both are failures of the exchange, so no
decoder blames the caller, the pool or the address. Where a result may be absent, it is absent for
the null alone; no other result is made of the null.
-/

namespace SlotClient

open Wire (Value)

/-- If there is no result, the exchange is to blame. -/
def Failure.IsOnlyOfExchange {Result : Type} (outcome : Except Failure Result) : Prop :=
  ∀ failure, outcome = .error failure → failure.isOfExchange = true

namespace Reply

/-- If there is no result, then for an error among the values, whose message is passed on, or because
a value was of another kind than expected. -/
def Blames {Result : Type} (values : List Value) (outcome : Except Failure Result) : Prop :=
  ∀ failure, outcome = .error failure →
    failure = .unexpectedReply ∨ ∃ message, .error message ∈ values ∧ failure = .server message

namespace Blames

variable {First Second : Type} {values : List Value}

theorem ok (result : First) : Blames values (.ok result) := by
  intro failure failed
  cases failed

theorem unexpected : Blames values (.error .unexpectedReply : Except Failure First) := by
  intro failure failed
  cases failed
  exact Or.inl rfl

theorem bind {outcome : Except Failure First} {next : First → Except Failure Second}
    (first : Blames values outcome) (second : ∀ result, Blames values (next result)) :
    Blames values (outcome >>= next) := by
  rcases outcome with failure | result
  · exact fun cause failed => first cause (by cases failed; rfl)
  · exact second result

theorem mapM {next : First → Except Failure Second} {items : List First}
    (each : ∀ item ∈ items, Blames values (next item)) : Blames values (items.mapM next) := by
  induction items with
  | nil => exact ok []
  | cons item items ih =>
      rw [List.forall_mem_cons] at each
      rw [List.mapM_cons]
      exact each.1.bind fun first => (ih each.2).bind fun rest => ok (first :: rest)

theorem mono {outcome : Except Failure First} {others : List Value} (included : values ⊆ others)
    (blames : Blames values outcome) : Blames others outcome := by
  intro failure failed
  rcases blames failure failed with kind | ⟨message, member, same⟩
  · exact Or.inl kind
  · exact Or.inr ⟨message, included member, same⟩

end Blames

variable {reply : Value} {items : List Value}

/-- What is inside an item of an array is inside the array. -/
theorem parts_subset_of_mem {item : Value} (member : item ∈ items) :
    item.parts ⊆ (Value.array items).parts :=
  fun _ inItem => Value.mem_parts_array.mpr (Or.inr ⟨item, member, inItem⟩)

/-- A reply that is no error is accepted as it is. -/
theorem accepted_cases (reply : Value) :
    (∃ message, reply = .error message ∧ accepted reply = .error (.server message)) ∨
      accepted reply = .ok reply := by
  cases reply with
  | error message => exact Or.inl ⟨message, rfl, rfl⟩
  | simple text => exact Or.inr rfl
  | integer value => exact Or.inr rfl
  | bulk body => exact Or.inr rfl
  | array items => exact Or.inr rfl

/-- A decoder that accepts a reply first need only be looked at for replies that are no errors. -/
theorem blames_of_accepted {Result : Type} {next : Value → Except Failure Result}
    (blames : Blames reply.parts (next reply)) : Blames reply.parts (accepted reply >>= next) := by
  rcases accepted_cases reply with ⟨message, rfl, refused⟩ | same
  · rw [refused]
    intro failure failed
    cases failed
    exact Or.inr ⟨message, Value.self_mem_parts _, rfl⟩
  · rw [same]
    exact blames

theorem blames_status (reply : Value) : Blames reply.parts (status reply) := by
  apply blames_of_accepted
  cases reply <;> first | exact .ok _ | exact .unexpected

theorem blames_bytes (reply : Value) : Blames reply.parts (bytes reply) := by
  apply blames_of_accepted
  split <;> first | exact .ok _ | exact .unexpected

theorem blames_optionalBytes (reply : Value) : Blames reply.parts (optionalBytes reply) := by
  apply blames_of_accepted
  cases reply <;> first | exact .ok _ | exact .unexpected

theorem blames_optionalBytesList (reply : Value) :
    Blames reply.parts (optionalBytesList reply) := by
  apply blames_of_accepted
  cases reply with
  | array items =>
      exact .mapM fun item member => (blames_optionalBytes item).mono (parts_subset_of_mem member)
  | simple text => exact .unexpected
  | error message => exact .unexpected
  | integer value => exact .unexpected
  | bulk body => exact .unexpected

theorem blames_integer (reply : Value) : Blames reply.parts (integer reply) := by
  apply blames_of_accepted
  cases reply <;> first | exact .ok _ | exact .unexpected

theorem blames_flag (reply : Value) : Blames reply.parts (flag reply) := by
  refine (blames_integer reply).bind fun value => ?_
  split
  · exact .ok _
  · split
    · exact .ok _
    · exact .unexpected

theorem blames_float (reply : Value) : Blames reply.parts (float reply) := by
  refine (blames_bytes reply).bind fun text => ?_
  split
  · exact .ok _
  · exact .unexpected

theorem blames_lifetime (reply : Value) : Blames reply.parts (lifetime reply) := by
  refine (blames_integer reply).bind fun value => ?_
  split
  · exact .ok _
  · split
    · exact .ok _
    · split
      · exact .ok _
      · exact .unexpected

theorem blames_range (values : List Value) (reply : Value) : Blames values (range reply) := by
  unfold range
  split
  · exact .ok _
  · exact .unexpected

theorem blames_lcsMatch (reply : Value) : Blames reply.parts (lcsMatch reply) := by
  unfold lcsMatch
  split
  · rename_i first second others
    refine (blames_range _ first).bind fun firstRange => ?_
    refine (blames_range _ second).bind fun secondRange => ?_
    rcases others with _ | ⟨length, rest⟩
    · exact .ok _
    · have lengthMem : length ∈ first :: second :: length :: rest := by simp
      refine ((blames_integer length).mono (parts_subset_of_mem lengthMem)).bind fun length => ?_
      split
      · exact .ok _
      · exact .unexpected
  · exact .unexpected

theorem blames_lcsField (report : Lcs.Report) (name : Bytes) (reply : Value) :
    Blames reply.parts (lcsField report name reply) := by
  unfold lcsField
  split
  · exact (blames_integer reply).bind fun length => .ok _
  · split
    · split
      · rename_i items
        refine Blames.bind (.mapM fun item member => ?_) fun found => .ok _
        exact (blames_lcsMatch item).mono (parts_subset_of_mem member)
      · exact .unexpected
    · exact .ok _

/-- Fields are taken in pairs, a name and a value. -/
theorem blames_lcsFields {values : List Value} (report : Lcs.Report) (fields : List Value)
    (included : ∀ field ∈ fields, field.parts ⊆ values) :
    Blames values (lcsFields report fields) := by
  fun_induction lcsFields report fields with
  | case1 report => exact .ok _
  | case2 report field => exact .unexpected
  | case3 report field value rest name isName ih =>
      simp only [List.forall_mem_cons] at included
      have taken := (blames_lcsField report name value).mono included.2.1
      exact taken.bind fun report => ih report included.2.2
  | case4 report field value rest noName => exact .unexpected

theorem blames_lcsReport (reply : Value) : Blames reply.parts (lcsReport reply) := by
  apply blames_of_accepted
  cases reply with
  | array fields =>
      dsimp only
      split
      · exact .unexpected
      · exact blames_lcsFields {} fields fun field member => parts_subset_of_mem member
  | simple text => exact .unexpected
  | error message => exact .unexpected
  | integer value => exact .unexpected
  | bulk body => exact .unexpected

end Reply

namespace ResultKind

/-- Whatever is expected of a reply, decoding it fails for an error in it or for its kind. -/
theorem blames_decode (kind : ResultKind) (reply : Value) :
    Reply.Blames reply.parts (kind.decode reply) := by
  cases kind with
  | status => exact Reply.blames_status reply
  | bytes => exact Reply.blames_bytes reply
  | optionalBytes => exact Reply.blames_optionalBytes reply
  | optionalBytesList => exact Reply.blames_optionalBytesList reply
  | integer => exact Reply.blames_integer reply
  | flag => exact Reply.blames_flag reply
  | float => exact Reply.blames_float reply
  | lifetime => exact Reply.blames_lifetime reply
  | lcsReport => exact Reply.blames_lcsReport reply

/-- Whatever is expected of a reply, decoding it fails for the sake of the exchange alone. -/
theorem isOnlyOfExchange_decode (kind : ResultKind) (reply : Value) :
    Failure.IsOnlyOfExchange (kind.decode reply) := by
  intro failure failed
  rcases kind.blames_decode reply failure failed with rfl | ⟨message, _, rfl⟩
  · rfl
  · rfl

/-- An error is passed on with its message, whatever was expected. -/
theorem decode_error (kind : ResultKind) (message : Bytes) :
    kind.decode (.error message) = .error (.server message) := by
  cases kind <;> rfl

/-- A reply without errors in it has a result or is of another kind. -/
theorem decode_of_errorFree (kind : ResultKind) {reply : Value}
    (errorFree : ∀ message, .error message ∉ reply.parts) :
    (∃ result, kind.decode reply = .ok result) ∨ kind.decode reply = .error .unexpectedReply := by
  rcases decoded : kind.decode reply with failure | result
  · rcases kind.blames_decode reply failure decoded with rfl | ⟨message, member, _⟩
    · exact Or.inr rfl
    · exact absurd member (errorFree message)
  · exact Or.inl ⟨result, rfl⟩

/-- The null is of no kind but that of results that may be absent. -/
theorem decode_null {kind : ResultKind} (required : kind ≠ .optionalBytes) :
    kind.decode .null = .error .unexpectedReply := by
  cases kind <;> first | rfl | contradiction

end ResultKind

/-- What a reply means where a result may be absent: nothing for the null, and otherwise the bytes of
a string, of which there may be none. -/
inductive Wire.Value.Means : Value → Option Bytes → Prop
  | nothing : Means .null none
  | bulk (body : Bytes) : Means (.bulk (some body)) (some body)
  | simple (text : Bytes) : Means (.simple text) (some text)

namespace Reply

theorem optionalBytes_eq_ok_iff {reply : Value} {found : Option Bytes} :
    optionalBytes reply = .ok found ↔ reply.Means found := by
  constructor
  · intro decoded
    cases reply with
    | simple text =>
        cases decoded
        exact .simple text
    | bulk body =>
        cases decoded
        cases found with
        | none => exact .nothing
        | some body => exact .bulk body
    | error message => cases decoded
    | integer value => cases decoded
    | array items => cases decoded
  · rintro (_ | body | text) <;> rfl

/-- A result is absent exactly for the replies that are null. -/
theorem optionalBytes_eq_none_iff {reply : Value} :
    optionalBytes reply = .ok none ↔ reply.isNull = true := by
  rw [optionalBytes_eq_ok_iff]
  constructor
  · rintro ⟨⟩
    rfl
  · intro isNull
    unfold Value.isNull at isNull
    split at isNull
    · exact .nothing
    · contradiction

/-- All items are decoded if each of them is. -/
theorem mapM_eq_ok_iff {Item Result : Type} {next : Item → Except Failure Result}
    {items : List Item} {results : List Result} :
    items.mapM next = .ok results ↔
      List.Forall₂ (fun item result => next item = .ok result) items results := by
  induction items generalizing results with
  | nil => cases results <;> simp [pure, Except.pure]
  | cons item items ih =>
      rw [List.mapM_cons]
      rcases decoded : next item with failure | first
      · cases results <;> simp [bind, Except.bind, decoded]
      · rcases others : items.mapM next with failure | rest
        · cases results <;> simp [bind, Except.bind, decoded, ← ih, others]
        · cases results <;> simp [bind, Except.bind, pure, Except.pure, decoded, ← ih, others]

/-- The list of results has one entry for each item of the array, which is what the item means. -/
theorem optionalBytesList_eq_ok_iff {reply : Value} {found : List (Option Bytes)} :
    optionalBytesList reply = .ok found ↔
      ∃ items, reply = .array items ∧ List.Forall₂ Value.Means items found := by
  constructor
  · intro decoded
    cases reply with
    | array items =>
        have each := mapM_eq_ok_iff.mp decoded
        exact ⟨items, rfl, each.imp fun _ _ => optionalBytes_eq_ok_iff.mp⟩
    | simple text => cases decoded
    | error message => cases decoded
    | integer value => cases decoded
    | bulk body => cases decoded
  · rintro ⟨items, rfl, meant⟩
    exact mapM_eq_ok_iff.mpr (meant.imp fun _ _ => optionalBytes_eq_ok_iff.mpr)

end Reply

end SlotClient
