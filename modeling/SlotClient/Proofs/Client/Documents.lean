import SlotClient.Client.Configuration
import SlotClient.Proofs.Json.Records

/-!
# Documents of configurations

A document overrides the fixed configuration field by field. Both kinds of configuration are
described by what a document can set, one setting for each field: under which name, with which
value, and what it changes. As a configuration consists of its settings, it is read back from the
document that is written for it, provided that its time limits are whole milliseconds; those of a
configuration that comes from a document always are.
-/

namespace SlotClient

open Json (Decoder Draft GivenField HasReadableNumbers Inverts Layout Token stores_of_decodes)

namespace Duration

/-- The length of a time span in nanoseconds. -/
def length (duration : Duration) : Nat :=
  duration.seconds.toNat * 1000000000 + duration.nanoseconds.toNat

theorem seconds_ofMilliseconds (count : UInt64) :
    (ofMilliseconds count).seconds.toNat = count.toNat / 1000 := by
  have small := count.toNat_lt
  exact UInt64.toNat_ofNat_of_lt' (show count.toNat / 1000 < 2 ^ 64 by omega)

theorem nanoseconds_ofMilliseconds (count : UInt64) :
    (ofMilliseconds count).nanoseconds.toNat = count.toNat % 1000 * 1000000 :=
  UInt32.toNat_ofNat_of_lt' (show count.toNat % 1000 * 1000000 < 2 ^ 32 by omega)

theorem length_ofMilliseconds (count : UInt64) :
    (ofMilliseconds count).length = count.toNat * 1000000 := by
  rw [length, seconds_ofMilliseconds, nanoseconds_ofMilliseconds]
  omega

theorem milliseconds_ofMilliseconds (count : UInt64) :
    (ofMilliseconds count).milliseconds = count := by
  have same : count.toNat / 1000 * 1000 + count.toNat % 1000 * 1000000 / 1000000 = count.toNat := by
    omega
  rw [milliseconds, seconds_ofMilliseconds, nanoseconds_ofMilliseconds, same, UInt64.ofNat_toNat]

/-- A time limit of whole milliseconds, or none. -/
def IsCounted (limit : Option Duration) : Prop :=
  ∃ count : Option UInt64, limit = count.map ofMilliseconds

theorem IsCounted.map_milliseconds {limit : Option Duration} (counted : IsCounted limit) :
    (limit.map milliseconds).map ofMilliseconds = limit := by
  rcases counted with ⟨count, rfl⟩
  cases count with
  | none => rfl
  | some count => simp [milliseconds_ofMilliseconds]

end Duration

namespace Json

theorem Inverts.optionalText : Inverts (Decoder.optional Decoder.text) ofText? :=
  Inverts.text.optional nofun

/-- The value of a time limit that is given as a count of milliseconds. -/
def ofCount (count : Option UInt64) : Json :=
  .ofOption (count.map fun number => .natural number.toNat)

theorem limit_ofCount (count : Option UInt64) :
    Decoder.limit (Draft.ofJson (ofCount count)) = .ok (count.map Duration.ofMilliseconds) := by
  rw [Decoder.limit, ofCount, Inverts.optionalUInt64.decodes]
  rfl

theorem readable_ofCount (count : Option UInt64) : HasReadableNumbers (ofCount count) :=
  Inverts.optionalUInt64.readable count

theorem isCounted_of_limit {draft : Draft} {limit : Option Duration}
    (decoded : Decoder.limit draft = .ok limit) : Duration.IsCounted limit := by
  rcases map_eq_ok_iff.mp decoded with ⟨count, _, rfl⟩
  exact ⟨count, rfl⟩

end Json

namespace ServerConfiguration

/-- What a document can set. -/
inductive Setting where
  | address (value : String)
  | maxIdle (value : UInt64)
  | maxTotal (value : UInt64)
  | readTimeout (milliseconds : Option UInt64)
  | writeTimeout (milliseconds : Option UInt64)
  | connectTimeout (milliseconds : Option UInt64)
  | username (value : Option String)
  | password (value : Option String)
  | database (value : Option Int64)

/-- How a setting is given in a document, and what it changes. -/
def Setting.given : Setting → GivenField ServerConfiguration
  | address value => ⟨"addr", .text value, fun configuration =>
      { configuration with address := value }⟩
  | maxIdle value => ⟨"max_idle", .natural value.toNat, fun configuration =>
      { configuration with maxIdle := value }⟩
  | maxTotal value => ⟨"max_total", .natural value.toNat, fun configuration =>
      { configuration with maxTotal := value }⟩
  | readTimeout count => ⟨"read_timeout_ms", .ofCount count, fun configuration =>
      { configuration with readTimeout := count.map Duration.ofMilliseconds }⟩
  | writeTimeout count => ⟨"write_timeout_ms", .ofCount count, fun configuration =>
      { configuration with writeTimeout := count.map Duration.ofMilliseconds }⟩
  | connectTimeout count => ⟨"connect_timeout_ms", .ofCount count, fun configuration =>
      { configuration with connectTimeout := count.map Duration.ofMilliseconds }⟩
  | username value => ⟨"username", .ofText? value, fun configuration =>
      { configuration with username := value }⟩
  | password value => ⟨"password", .ofText? value, fun configuration =>
      { configuration with password := value }⟩
  | database value =>
    ⟨"database", .ofOption (value.map fun number => .number number.toInt), fun configuration =>
      { configuration with database := value }⟩

theorem understands_given (setting : Setting) : layout.Understands setting.given := by
  cases setting with
  | address value => exact ⟨_, rfl, fun _ => stores_of_decodes (Inverts.text.decodes value) _⟩
  | maxIdle value | maxTotal value =>
      exact ⟨_, rfl, fun _ => stores_of_decodes (Inverts.uint64.decodes value) _⟩
  | readTimeout count | writeTimeout count | connectTimeout count =>
      exact ⟨_, rfl, fun _ => stores_of_decodes (Json.limit_ofCount count) _⟩
  | username value | password value =>
      exact ⟨_, rfl, fun _ => stores_of_decodes (Inverts.optionalText.decodes value) _⟩
  | database value =>
      exact ⟨_, rfl, fun _ => stores_of_decodes (Inverts.optionalInt64.decodes value) _⟩

theorem readable_given (setting : Setting) : HasReadableNumbers setting.given.value := by
  cases setting with
  | address value => exact Inverts.text.readable value
  | maxIdle value | maxTotal value => exact Inverts.uint64.readable value
  | readTimeout count | writeTimeout count | connectTimeout count =>
      exact Json.readable_ofCount count
  | username value | password value => exact Inverts.optionalText.readable value
  | database value => exact Inverts.optionalInt64.readable value

/-- The settings that make up a configuration. -/
def settings (configuration : ServerConfiguration) : List Setting := [
  .address configuration.address,
  .maxIdle configuration.maxIdle,
  .maxTotal configuration.maxTotal,
  .readTimeout (configuration.readTimeout.map Duration.milliseconds),
  .writeTimeout (configuration.writeTimeout.map Duration.milliseconds),
  .connectTimeout (configuration.connectTimeout.map Duration.milliseconds),
  .username configuration.username,
  .password configuration.password,
  .database configuration.database]

theorem toJson_eq_object (configuration : ServerConfiguration) :
    configuration.toJson = GivenField.object (configuration.settings.map Setting.given) := by
  simp [toJson, GivenField.object, settings, Setting.given, Json.ofLimit, Json.ofCount,
    Function.comp_def]

/-- All time limits of a configuration are whole milliseconds. -/
structure IsCounted (configuration : ServerConfiguration) : Prop where
  read : Duration.IsCounted configuration.readTimeout
  write : Duration.IsCounted configuration.writeTimeout
  connect : Duration.IsCounted configuration.connectTimeout

theorem preserves_isCounted : layout.Preserves IsCounted := by
  intro field member draft configuration next stored before
  simp only [layout, List.mem_cons, List.not_mem_nil, or_false] at member
  rcases member with rfl | rfl | rfl | rfl | rfl | rfl | rfl | rfl | rfl
  -- A limit is the one just decoded or one from before.
  all_goals
    rcases bind_eq_ok_iff.mp stored with ⟨value, decoded, same⟩
    cases same
    constructor
    all_goals first
      | exact Json.isCounted_of_limit decoded
      | exact before.read
      | exact before.write
      | exact before.connect

theorem applyAll_settings {configuration : ServerConfiguration}
    (counted : configuration.IsCounted) :
    GivenField.applyAll (configuration.settings.map Setting.given) {} = configuration := by
  simp [GivenField.applyAll, settings, Setting.given, counted.read.map_milliseconds,
    counted.write.map_milliseconds, counted.connect.map_milliseconds]

theorem consists :
    Json.Consists layout toJson Setting.given settings IsCounted where
  understands := understands_given
  readable := readable_given
  optional := by simp [layout]
  distinct configuration := by
    change List.Nodup ["addr", "max_idle", "max_total", "read_timeout_ms", "write_timeout_ms",
      "connect_timeout_ms", "username", "password", "database"]
    decide
  writes := toJson_eq_object
  initially := ⟨⟨none, rfl⟩, ⟨none, rfl⟩, ⟨none, rfl⟩⟩
  preserves := preserves_isCounted
  rebuilds _ := applyAll_settings

end ServerConfiguration

namespace ClusterConfiguration

/-- What a document can set. -/
inductive Setting where
  | nodes (values : List String)
  | maxIdle (value : UInt64)
  | maxTotal (value : UInt64)
  | readTimeout (milliseconds : Option UInt64)
  | writeTimeout (milliseconds : Option UInt64)
  | connectTimeout (milliseconds : Option UInt64)
  | username (value : Option String)
  | password (value : Option String)
  | maxRedirects (value : UInt64)

/-- How a setting is given in a document, and what it changes. -/
def Setting.given : Setting → GivenField ClusterConfiguration
  | nodes values => ⟨"nodes", .array (values.map Json.text), fun configuration =>
      { configuration with nodes := values }⟩
  | maxIdle value => ⟨"max_idle", .natural value.toNat, fun configuration =>
      { configuration with maxIdle := value }⟩
  | maxTotal value => ⟨"max_total", .natural value.toNat, fun configuration =>
      { configuration with maxTotal := value }⟩
  | readTimeout count => ⟨"read_timeout_ms", .ofCount count, fun configuration =>
      { configuration with readTimeout := count.map Duration.ofMilliseconds }⟩
  | writeTimeout count => ⟨"write_timeout_ms", .ofCount count, fun configuration =>
      { configuration with writeTimeout := count.map Duration.ofMilliseconds }⟩
  | connectTimeout count => ⟨"connect_timeout_ms", .ofCount count, fun configuration =>
      { configuration with connectTimeout := count.map Duration.ofMilliseconds }⟩
  | username value => ⟨"username", .ofText? value, fun configuration =>
      { configuration with username := value }⟩
  | password value => ⟨"password", .ofText? value, fun configuration =>
      { configuration with password := value }⟩
  | maxRedirects value => ⟨"max_redirects", .natural value.toNat, fun configuration =>
      { configuration with maxRedirects := value }⟩

theorem understands_given (setting : Setting) : layout.Understands setting.given := by
  cases setting with
  | nodes values => exact ⟨_, rfl, fun _ => stores_of_decodes (Inverts.text.list.decodes values) _⟩
  | maxIdle value | maxTotal value | maxRedirects value =>
      exact ⟨_, rfl, fun _ => stores_of_decodes (Inverts.uint64.decodes value) _⟩
  | readTimeout count | writeTimeout count | connectTimeout count =>
      exact ⟨_, rfl, fun _ => stores_of_decodes (Json.limit_ofCount count) _⟩
  | username value | password value =>
      exact ⟨_, rfl, fun _ => stores_of_decodes (Inverts.optionalText.decodes value) _⟩

theorem readable_given (setting : Setting) : HasReadableNumbers setting.given.value := by
  cases setting with
  | nodes values => exact Inverts.text.list.readable values
  | maxIdle value | maxTotal value | maxRedirects value => exact Inverts.uint64.readable value
  | readTimeout count | writeTimeout count | connectTimeout count =>
      exact Json.readable_ofCount count
  | username value | password value => exact Inverts.optionalText.readable value

/-- The settings that make up a configuration. -/
def settings (configuration : ClusterConfiguration) : List Setting := [
  .nodes configuration.nodes,
  .maxIdle configuration.maxIdle,
  .maxTotal configuration.maxTotal,
  .readTimeout (configuration.readTimeout.map Duration.milliseconds),
  .writeTimeout (configuration.writeTimeout.map Duration.milliseconds),
  .connectTimeout (configuration.connectTimeout.map Duration.milliseconds),
  .username configuration.username,
  .password configuration.password,
  .maxRedirects configuration.maxRedirects]

theorem toJson_eq_object (configuration : ClusterConfiguration) :
    configuration.toJson = GivenField.object (configuration.settings.map Setting.given) := by
  simp [toJson, GivenField.object, settings, Setting.given, Json.ofLimit, Json.ofCount,
    Function.comp_def]

/-- All time limits of a configuration are whole milliseconds. -/
structure IsCounted (configuration : ClusterConfiguration) : Prop where
  read : Duration.IsCounted configuration.readTimeout
  write : Duration.IsCounted configuration.writeTimeout
  connect : Duration.IsCounted configuration.connectTimeout

theorem preserves_isCounted : layout.Preserves IsCounted := by
  intro field member draft configuration next stored before
  simp only [layout, List.mem_cons, List.not_mem_nil, or_false] at member
  rcases member with rfl | rfl | rfl | rfl | rfl | rfl | rfl | rfl | rfl
  all_goals
    rcases bind_eq_ok_iff.mp stored with ⟨value, decoded, same⟩
    cases same
    constructor
    all_goals first
      | exact Json.isCounted_of_limit decoded
      | exact before.read
      | exact before.write
      | exact before.connect

theorem applyAll_settings {configuration : ClusterConfiguration}
    (counted : configuration.IsCounted) :
    GivenField.applyAll (configuration.settings.map Setting.given) {} = configuration := by
  simp [GivenField.applyAll, settings, Setting.given, counted.read.map_milliseconds,
    counted.write.map_milliseconds, counted.connect.map_milliseconds]

theorem consists :
    Json.Consists layout toJson Setting.given settings IsCounted where
  understands := understands_given
  readable := readable_given
  optional := by simp [layout]
  distinct configuration := by
    change List.Nodup ["nodes", "max_idle", "max_total", "read_timeout_ms", "write_timeout_ms",
      "connect_timeout_ms", "username", "password", "max_redirects"]
    decide
  writes := toJson_eq_object
  initially := ⟨⟨none, rfl⟩, ⟨none, rfl⟩, ⟨none, rfl⟩⟩
  preserves := preserves_isCounted
  rebuilds _ := applyAll_settings

end ClusterConfiguration

namespace Configuration

/-- Documents override a fixed configuration, and what they make of it can be written. An object
that gives some settings, none of them twice, sets just these, wherever they stand among members
with other names. What any document sets is read back from its written form. -/
structure IsOverridden {Record Setting : Type} (layout : Layout Record) (fixed : Record)
    (given : Setting → GivenField Record) (toJson : Record → Json) : Prop where
  overridden : ∀ (document rest : Bytes) (members : List (Token String × Draft))
    (settings : List Setting),
    Draft.ofText document = (.object members .closed, some rest) → Draft.skipBlanks rest = [] →
    layout.Gives members (settings.map given) →
    (settings.map fun setting => (given setting).name).Nodup →
    ofDocument layout document =
      .ok (settings.foldl (fun record setting => (given setting).apply record) fixed)
  survives : ∀ (document : Bytes) (record : Record), ofDocument layout document = .ok record →
    ofDocument layout (Bytes.ofText (toJson record).compact) = .ok record

theorem isOverridden_of_consists {Record Setting : Type} {layout : Layout Record}
    {given : Setting → GivenField Record} {toJson : Record → Json}
    {settings : Record → List Setting} {property : Record → Prop}
    (consists : Json.Consists layout toJson given settings property) :
    IsOverridden layout layout.initial given toJson where
  overridden document rest members settings read blank gives distinct := by
    rw [ofDocument, Draft.decodeText_of_ofText read blank, consists.decode_of_gives gives distinct,
      GivenField.applyAll, List.foldl_map]
    rfl
  survives document record decoded := by
    have accepted : Draft.decodeText layout.decode document = .ok record := by
      rw [ofDocument] at decoded
      cases outcome : Draft.decodeText layout.decode document with
      | error fault =>
          rw [outcome] at decoded
          cases decoded
      | ok result =>
          rw [outcome] at decoded
          cases decoded
          rfl
    rw [ofDocument, consists.decodeText_toJson accepted]
    rfl

/-- Documents override the fixed configuration of a client field by field, and what they make of it
survives being written and read again. A time limit that is given in milliseconds lasts exactly so
many of them. -/
theorem documents_override_configurations :
    IsOverridden ServerConfiguration.layout {} ServerConfiguration.Setting.given
        ServerConfiguration.toJson ∧
      IsOverridden ClusterConfiguration.layout {} ClusterConfiguration.Setting.given
        ClusterConfiguration.toJson ∧
      ∀ count : UInt64, (Duration.ofMilliseconds count).length = count.toNat * 1000000 :=
  ⟨isOverridden_of_consists ServerConfiguration.consists,
    isOverridden_of_consists ClusterConfiguration.consists, Duration.length_ofMilliseconds⟩

/-- The largest time limit behind a password that is none and an unknown name, and two settings of a
cluster in the opposite order. -/
theorem documents_override_configurations_mixed :
    ofDocument ServerConfiguration.layout (Bytes.ofText
        "\x7b\"password\":null,\"x\":[1],\"read_timeout_ms\":18446744073709551615\x7d") =
      .ok { readTimeout := some (Duration.ofMilliseconds 18446744073709551615) } ∧
    ofDocument ServerConfiguration.layout (Bytes.ofText (ServerConfiguration.toJson
        { readTimeout := some (Duration.ofMilliseconds 18446744073709551615) }).compact) =
      .ok { readTimeout := some (Duration.ofMilliseconds 18446744073709551615) } ∧
    ofDocument ClusterConfiguration.layout
        (Bytes.ofText "\x7b\"max_redirects\":0,\"nodes\":[]\x7d") =
      .ok { nodes := [], maxRedirects := 0 } := by
  rcases documents_override_configurations with ⟨server, cluster, _⟩
  have array : HasReadableNumbers (.array [.number 1]) := by
    apply HasReadableNumbers.array
    intro item member
    rw [List.mem_singleton] at member
    exact member ▸ .number ⟨by decide, by decide⟩
  have serverReadable : HasReadableNumbers (.object [("password", .null), ("x", .array [.number 1]),
      ("read_timeout_ms", .number 18446744073709551615)]) := by
    apply HasReadableNumbers.object
    simp only [List.forall_mem_cons]
    exact ⟨.null, array, .number ⟨by decide, by decide⟩, List.forall_mem_nil _⟩
  have clusterReadable : HasReadableNumbers
      (.object [("max_redirects", .number 0), ("nodes", .array [])]) := by
    apply HasReadableNumbers.object
    simp only [List.forall_mem_cons]
    exact ⟨.number ⟨by decide, by decide⟩, .array (List.forall_mem_nil _), List.forall_mem_nil _⟩
  have unknown : ∀ field ∈ ServerConfiguration.layout.fields, field.name ≠ "x" := by
    simp [ServerConfiguration.layout]
  have given := server.overridden _ [] _ [.password none, .readTimeout (some 18446744073709551615)]
    (Draft.ofText_bytes serverReadable) rfl
    (.given (ServerConfiguration.Setting.password none).given rfl
      (.unknown rfl unknown rfl
        (.given (ServerConfiguration.Setting.readTimeout (some 18446744073709551615)).given rfl
          .nothing)))
    (by decide)
  have inReverse := cluster.overridden _ [] _ [.maxRedirects 0, .nodes []]
    (Draft.ofText_bytes clusterReadable) rfl
    (.given (ClusterConfiguration.Setting.maxRedirects 0).given rfl
      (.given (ClusterConfiguration.Setting.nodes []).given rfl .nothing)) (by decide)
  exact ⟨given, server.survives _ _ given, inReverse⟩

end Configuration

end SlotClient
