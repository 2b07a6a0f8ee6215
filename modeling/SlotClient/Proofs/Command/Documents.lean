import SlotClient.Command.Lcs
import SlotClient.Command.Options
import SlotClient.Presence
import SlotClient.Proofs.Json.Records

/-!
# Documents of options and results

Options, expiries, reports of matches and results that may be absent have a form as documents, which
their decoders invert. So each of them survives being written and read again, and with it the
arguments that it makes.
-/

namespace SlotClient

open Json (Alternative Decoder Draft GivenField HasReadableNumbers Inverts Layout stores_of_decodes)

namespace Expiry

variable {type : String} {kind : Kind}

/-- The member that states the type comes first. -/
theorem decoder_type (named : Alternative.named kinds type = .ok (.plain type kind))
    (enclosing : Nat) (others : List (String × Json)) :
    decoder enclosing (Draft.ofJson (.object (("type", .text type) :: others))) =
      decodeMembers (127 - enclosing) (Draft.ofMembers others) .closed (.typeOnly kind) := by
  have chosen : Decoder.choice kinds (Draft.ofJson (.text type)) = .ok kind :=
    Decoder.choice_text named
  have taken : Progress.take (127 - enclosing) .nothing true (Draft.ofJson (.text type)) =
      .ok (.typeOnly kind) := by
    rw [Progress.take, chosen]
    rfl
  simp only [Draft.ofJson, Draft.ofMembers, decoder, decodeMembers, ok_bind] at taken ⊢
  simp [taken]

theorem decoder_counted {make : UInt64 → Expiry}
    (named : Alternative.named kinds type = .ok (.plain type (.counted make))) (enclosing : Nat)
    (count : UInt64) :
    decoder enclosing (Draft.ofJson (countedJson type count)) = .ok (make count) := by
  have taken : Progress.take (127 - enclosing) (.typeOnly (.counted make)) false
      (Draft.ofJson (.natural count.toNat)) = .ok (.complete (make count)) := by
    simp only [Progress.take, Kind.decode, Inverts.uint64.decodes]
    rfl
  rw [countedJson, decoder_type named]
  simp [Draft.ofMembers, decodeMembers, taken]
  rfl

theorem decoder_plain {expiry : Expiry}
    (named : Alternative.named kinds type = .ok (.plain type (.plain expiry))) (enclosing : Nat) :
    decoder enclosing (Draft.ofJson (.object [("type", .text type)])) = .ok expiry := by
  rw [decoder_type named]
  rfl

theorem readable_countedJson (type : String) (count : UInt64) :
    HasReadableNumbers (countedJson type count) := by
  apply HasReadableNumbers.object
  simp only [List.forall_mem_cons]
  exact ⟨.text type, Inverts.uint64.readable count, List.forall_mem_nil _⟩

theorem readable_plain (type : String) : HasReadableNumbers (.object [("type", .text type)]) := by
  apply HasReadableNumbers.object
  simp only [List.forall_mem_cons]
  exact ⟨.text type, List.forall_mem_nil _⟩

theorem inverts (enclosing : Nat) : Inverts (decoder enclosing) toJson where
  decodes expiry := by
    cases expiry with
    | seconds count => exact decoder_counted rfl enclosing count
    | milliseconds count => exact decoder_counted rfl enclosing count
    | unixSeconds count => exact decoder_counted rfl enclosing count
    | unixMilliseconds count => exact decoder_counted rfl enclosing count
    | keepTtl => exact decoder_plain rfl enclosing
    | persist => exact decoder_plain rfl enclosing
  readable expiry := by
    cases expiry with
    | seconds count | milliseconds count | unixSeconds count | unixMilliseconds count =>
        exact readable_countedJson _ count
    | keepTtl | persist => exact readable_plain _

theorem toJson_ne_null (expiry : Expiry) : expiry.toJson ≠ .null := by
  cases expiry <;> exact nofun

end Expiry

namespace WriteCondition

theorem inverts : Inverts decoder toJson where
  decodes condition := by
    cases condition with
    | ifExists => rfl
    | ifMissing => rfl
    | ifEquals comparison =>
        have named : Alternative.named [.plain "only_if_exists" ifExists,
            .plain "only_if_does_not_exist" ifMissing,
            .carrying "only_if_equals" (Decoder.list Decoder.uint8) ifEquals] "only_if_equals" =
            .ok (.carrying "only_if_equals" (Decoder.list Decoder.uint8) ifEquals) := rfl
        exact Decoder.choice_carrying named (Inverts.uint8.list.decodes comparison)
  readable condition := by
    cases condition with
    | ifExists => exact .text _
    | ifMissing => exact .text _
    | ifEquals comparison =>
        apply HasReadableNumbers.object
        simp only [List.forall_mem_cons]
        exact ⟨Inverts.uint8.list.readable comparison, List.forall_mem_nil _⟩

theorem toJson_ne_null (condition : WriteCondition) : condition.toJson ≠ .null := by
  cases condition <;> exact nofun

end WriteCondition

namespace WriteOptions

/-- The fields that the document of options gives. -/
def given (options : WriteOptions) : List (GivenField WriteOptions) := [
  ⟨"condition", .ofOption (options.condition.map WriteCondition.toJson), fun record =>
    { record with condition := options.condition }⟩,
  ⟨"return_old_value", .boolean options.returnOldValue, fun record =>
    { record with returnOldValue := options.returnOldValue }⟩,
  ⟨"expiry", .ofOption (options.expiry.map Expiry.toJson), fun record =>
    { record with expiry := options.expiry }⟩]

theorem inverts : Inverts layout.decode toJson := by
  apply Layout.inverts given
  · exact fun _ => rfl
  · intro options
    have condition := WriteCondition.inverts.optional WriteCondition.toJson_ne_null
    have expiry := (Expiry.inverts 1).optional Expiry.toJson_ne_null
    simp only [given, List.forall_mem_cons]
    refine ⟨⟨⟨_, rfl, fun _ => stores_of_decodes (condition.decodes _) _⟩, condition.readable _⟩,
      ⟨⟨_, rfl, fun _ => stores_of_decodes (Inverts.boolean.decodes _) _⟩, .boolean _⟩,
      ⟨⟨_, rfl, fun _ => stores_of_decodes (expiry.decodes _) _⟩, expiry.readable _⟩,
      List.forall_mem_nil _⟩
  · intro options
    change List.Nodup ["condition", "return_old_value", "expiry"]
    decide
  · simp [layout]
  · exact fun _ => rfl

end WriteOptions

namespace ReadOptions

/-- The field that the document of options gives. -/
def given (options : ReadOptions) : List (GivenField ReadOptions) := [
  ⟨"expiry", .ofOption (options.expiry.map Expiry.toJson), fun record =>
    { record with expiry := options.expiry }⟩]

theorem inverts : Inverts layout.decode toJson := by
  apply Layout.inverts given
  · exact fun _ => rfl
  · intro options
    have expiry := (Expiry.inverts 1).optional Expiry.toJson_ne_null
    simp only [given, List.forall_mem_cons]
    exact ⟨⟨⟨_, rfl, fun _ => stores_of_decodes (expiry.decodes _) _⟩, expiry.readable _⟩,
      List.forall_mem_nil _⟩
  · intro options
    change List.Nodup ["expiry"]
    decide
  · simp [layout]
  · exact fun _ => rfl

end ReadOptions

namespace Lcs

namespace Options

/-- The fields that the document of options gives. -/
def given (options : Options) : List (GivenField Options) := [
  ⟨"min_match_len", .ofOption (options.minMatchLength.map fun length => .natural length.toNat),
    fun record => { record with minMatchLength := options.minMatchLength }⟩,
  ⟨"with_match_len", .boolean options.withMatchLength, fun record =>
    { record with withMatchLength := options.withMatchLength }⟩]

theorem inverts : Inverts layout.decode toJson := by
  apply Layout.inverts given
  · exact fun _ => rfl
  · intro options
    simp only [given, List.forall_mem_cons]
    exact ⟨⟨⟨_, rfl, fun _ => stores_of_decodes (Inverts.optionalUInt64.decodes _) _⟩,
        Inverts.optionalUInt64.readable _⟩,
      ⟨⟨_, rfl, fun _ => stores_of_decodes (Inverts.boolean.decodes _) _⟩, .boolean _⟩,
      List.forall_mem_nil _⟩
  · intro options
    change List.Nodup ["min_match_len", "with_match_len"]
    decide
  · simp [layout]
  · exact fun _ => rfl

end Options

namespace Match

theorem inverts_range : Inverts (Decoder.pair Decoder.int64) rangeJson := Inverts.int64.pair

/-- The fields that the document of a match gives. -/
def given (found : Match) : List (GivenField Match) := [
  ⟨"key1", rangeJson found.firstRange, fun record =>
    { record with firstRange := found.firstRange }⟩,
  ⟨"key2", rangeJson found.secondRange, fun record =>
    { record with secondRange := found.secondRange }⟩,
  ⟨"match_len", .ofOption (found.length.map fun length => .number length.toInt), fun record =>
    { record with length := found.length }⟩]

theorem inverts : Inverts layout.decode toJson := by
  apply Layout.inverts given
  · exact fun _ => rfl
  · intro found
    simp only [given, List.forall_mem_cons]
    exact ⟨⟨⟨_, rfl, fun _ => stores_of_decodes (inverts_range.decodes _) _⟩,
        inverts_range.readable _⟩,
      ⟨⟨_, rfl, fun _ => stores_of_decodes (inverts_range.decodes _) _⟩,
        inverts_range.readable _⟩,
      ⟨⟨_, rfl, fun _ => stores_of_decodes (Inverts.optionalInt64.decodes _) _⟩,
        Inverts.optionalInt64.readable _⟩,
      List.forall_mem_nil _⟩
  · intro found
    change List.Nodup ["key1", "key2", "match_len"]
    decide
  · simp [layout, given]
  · exact fun _ => rfl

end Match

namespace Report

/-- The fields that the document of a report gives. -/
def given (report : Report) : List (GivenField Report) := [
  ⟨"len", .number report.length.toInt, fun record => { record with length := report.length }⟩,
  ⟨"matches", .array (report.found.map Match.toJson), fun record =>
    { record with found := report.found }⟩]

theorem inverts : Inverts layout.decode toJson := by
  apply Layout.inverts given
  · exact fun _ => rfl
  · intro report
    simp only [given, List.forall_mem_cons]
    exact ⟨⟨⟨_, rfl, fun _ => stores_of_decodes (Inverts.int64.decodes _) _⟩,
        Inverts.int64.readable _⟩,
      ⟨⟨_, rfl, fun _ => stores_of_decodes (Match.inverts.list.decodes _) _⟩,
        Match.inverts.list.readable _⟩,
      List.forall_mem_nil _⟩
  · intro report
    change List.Nodup ["len", "matches"]
    decide
  · simp [layout, given]
  · exact fun _ => rfl

end Report

end Lcs

theorem Presence.inverts {Value : Type} {decode : Decoder Value} {jsonOf : Value → Json}
    (inverts : Inverts decode jsonOf) :
    Inverts (Presence.decoder decode) (Presence.toJson jsonOf) where
  decodes result := by
    cases result with
    | none => rfl
    | some value =>
        have named : Alternative.named [.carrying "Present" decode some, .plain "Absent" none]
            "Present" = .ok (.carrying "Present" decode some) := rfl
        exact Decoder.choice_carrying named (inverts.decodes value)
  readable result := by
    cases result with
    | none => exact .text _
    | some value =>
        apply HasReadableNumbers.object
        simp only [List.forall_mem_cons]
        exact ⟨inverts.readable value, List.forall_mem_nil _⟩

namespace Json

variable {Value Rendered : Type}

/-- Every value is read back from its written form, and no two values are written alike. -/
structure RoundTrips (decode : Decoder Value) (toJson : Value → Json) : Prop where
  readBack : ∀ value,
    Draft.decodeText decode (Bytes.ofText (toJson value).compact) = .ok value
  toldApart : ∀ value other, (toJson value).compact = (toJson other).compact → value = other

theorem Inverts.roundTrips {decode : Decoder Value} {toJson : Value → Json}
    (inverts : Inverts decode toJson) : RoundTrips decode toJson :=
  ⟨inverts.decodeText, fun _ _ same => inverts.compact_injective same⟩

/-- What any document is read as renders the same after it has been written and read again. -/
def RendersAlike (decode : Decoder Value) (toJson : Value → Json) (render : Value → Rendered) :
    Prop :=
  ∀ (document : Bytes) (value : Value), Draft.decodeText decode document = .ok value →
    ∃ again, Draft.decodeText decode (Bytes.ofText (toJson value).compact) = .ok again ∧
      render again = render value

theorem RoundTrips.rendersAlike {decode : Decoder Value} {toJson : Value → Json}
    (roundTrips : RoundTrips decode toJson) (render : Value → Rendered) :
    RendersAlike decode toJson render :=
  fun _ value _ => ⟨value, roundTrips.readBack value, rfl⟩

/-- The documents of options, expiries, reports of matches and numbers that may be absent round-trip
for all their values. What options and expiries make of a document, they also make of the document
that is written for them. -/
theorem documents_round_trip :
    RoundTrips WriteOptions.layout.decode WriteOptions.toJson ∧
    RoundTrips ReadOptions.layout.decode ReadOptions.toJson ∧
    RoundTrips Lcs.Options.layout.decode Lcs.Options.toJson ∧
    (∀ enclosing, RoundTrips (Expiry.decoder enclosing) Expiry.toJson) ∧
    RoundTrips Lcs.Report.layout.decode Lcs.Report.toJson ∧
    RoundTrips (Presence.decoder Decoder.int64) (Presence.toJson fun value => .number value.toInt) ∧
    RendersAlike WriteOptions.layout.decode WriteOptions.toJson WriteOptions.arguments ∧
    RendersAlike ReadOptions.layout.decode ReadOptions.toJson ReadOptions.arguments ∧
    RendersAlike Lcs.Options.layout.decode Lcs.Options.toJson Lcs.Options.arguments ∧
    ∀ enclosing, RendersAlike (Expiry.decoder enclosing) Expiry.toJson Expiry.arguments := by
  have write := WriteOptions.inverts.roundTrips
  have read := ReadOptions.inverts.roundTrips
  have idx := Lcs.Options.inverts.roundTrips
  have expiry := fun enclosing => (Expiry.inverts enclosing).roundTrips
  exact ⟨write, read, idx, expiry, Lcs.Report.inverts.roundTrips,
    (Presence.inverts Inverts.int64).roundTrips, write.rendersAlike _, read.rendersAlike _,
    idx.rendersAlike _, fun enclosing => (expiry enclosing).rendersAlike _⟩

/-- Options with a comparison of any bytes, the removal of an expiry, and no number. -/
theorem documents_round_trip_literal :
    Draft.decodeText WriteOptions.layout.decode (Bytes.ofText
        ("\x7b\"condition\":\x7b\"only_if_equals\":[0,255]\x7d,\"return_old_value\":true," ++
          "\"expiry\":\x7b\"type\":\"seconds\",\"count\":18446744073709551615\x7d\x7d")) =
      .ok ⟨some (.ifEquals [0, 255]), true, some (.seconds 18446744073709551615)⟩ ∧
    (∃ again, Draft.decodeText ReadOptions.layout.decode
        (Bytes.ofText (ReadOptions.toJson ⟨some .persist⟩).compact) = .ok again ∧
      again.arguments = .ok [Bytes.ofText "PERSIST"]) ∧
    Draft.decodeText (Presence.decoder Decoder.int64) (Bytes.ofText "\"Absent\"") = .ok none := by
  rcases documents_round_trip with ⟨write, read, _, _, _, presence, _, renders, _⟩
  have written : (WriteOptions.toJson
      ⟨some (.ifEquals [0, 255]), true, some (.seconds 18446744073709551615)⟩).compact =
      "\x7b\"condition\":\x7b\"only_if_equals\":[0,255]\x7d,\"return_old_value\":true," ++
        "\"expiry\":\x7b\"type\":\"seconds\",\"count\":18446744073709551615\x7d\x7d" := by
    decide +kernel
  have persist := read.readBack ⟨some .persist⟩
  exact ⟨written ▸ write.readBack _, renders _ _ persist, presence.readBack none⟩

end Json

end SlotClient
