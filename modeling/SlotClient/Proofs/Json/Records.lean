import SlotClient.Proofs.Json.Decoders

/-!
# Records in documents

An object gives some fields of a record, in any order and among members with other names. Decoding
it stores just these fields in the record that the layout starts from. What storing any field
preserves holds for every record that is decoded.
-/

namespace SlotClient.Json

/-- A field as it is given in an object: its name, its value, and what that changes in a record. -/
structure GivenField (Record : Type) where
  name : String
  value : Json
  apply : Record → Record

variable {Record : Type}

/-- What a field stores if its value is decoded. -/
theorem stores_of_decodes {Value : Type} {decode : Decoder Value} {draft : Draft} {value : Value}
    (decoded : decode draft = .ok value) (update : Value → Record) :
    (do return update (← decode draft) : Except Fault Record) = .ok (update value) := by
  rw [decoded]
  rfl

namespace GivenField

/-- The record with the given fields, one after the other. -/
def applyAll (fields : List (GivenField Record)) (record : Record) : Record :=
  fields.foldl (fun record field => field.apply record) record

/-- The object that gives some fields and nothing else. -/
def object (fields : List (GivenField Record)) : Json :=
  .object (fields.map fun field => (field.name, field.value))

end GivenField

namespace Layout

variable {layout : Layout Record} {members : List (Token String × Draft)}
  {fields : List (GivenField Record)}

/-- A field is stored as it is given. -/
def Understands (layout : Layout Record) (given : GivenField Record) : Prop :=
  ∃ field, layout.field? given.name = some field ∧
    ∀ record, field.store (Draft.ofJson given.value) record = .ok (given.apply record)

/-- The members of an object give fields, in this order. The names of all other members are unknown,
and their values can be passed over. -/
inductive Gives (layout : Layout Record) :
    List (Token String × Draft) → List (GivenField Record) → Prop
  | nothing : Gives layout [] []
  | given {token : Token String} (field : GivenField Record)
      {members : List (Token String × Draft)} {fields : List (GivenField Record)}
      (named : token.value = .ok field.name) (rest : Gives layout members fields) :
      Gives layout ((token, Draft.ofJson field.value) :: members) (field :: fields)
  | unknown {token : Token String} {name : String} {value : Draft}
      {members : List (Token String × Draft)} {fields : List (GivenField Record)}
      (named : token.value = .ok name) (unknown : ∀ field ∈ layout.fields, field.name ≠ name)
      (passes : value.passed? = none) (rest : Gives layout members fields) :
      Gives layout ((token, value) :: members) fields

theorem gives_ofMembers (fields : List (GivenField Record)) :
    layout.Gives (Draft.ofMembers (fields.map fun field => (field.name, field.value))) fields := by
  induction fields with
  | nil => exact .nothing
  | cons field fields ih => exact .given field rfl ih

theorem storeMembers_of_gives (gives : layout.Gives members fields)
    (understood : ∀ field ∈ fields, layout.Understands field)
    (distinct : (fields.map GivenField.name).Nodup) {seen : List String}
    (fresh : ∀ field ∈ fields, field.name ∉ seen)
    (complete : layout.isComplete ((fields.map GivenField.name).reverse ++ seen) = true)
    (record : Record) :
    layout.storeMembers members .closed seen record =
      .ok (GivenField.applyAll fields record) := by
  induction gives generalizing seen record with
  | nothing =>
      simp only [List.map_nil, List.reverse_nil, List.nil_append] at complete
      simp only [storeMembers, Decoder.finishOpen, Draft.endingFault?, ok_bind, complete, if_true]
      rfl
  | @given token field members fields named rest ih =>
      rw [List.forall_mem_cons] at understood fresh
      rw [List.map_cons, List.nodup_cons] at distinct
      rcases understood.1 with ⟨found, isFound, stores⟩
      have others : ∀ other ∈ fields, other.name ∉ field.name :: seen := by
        intro other member
        rw [List.mem_cons, not_or]
        refine ⟨?_, fresh.2 other member⟩
        intro same
        exact distinct.1 (same ▸ List.mem_map_of_mem member)
      rw [List.map_cons, List.reverse_cons, List.append_assoc, List.singleton_append] at complete
      have stored := ih understood.2 distinct.2 others complete (field.apply record)
      simp only [storeMembers, named, ok_bind, isFound, stores, stored]
      simp [fresh.1]
      rfl
  | @unknown token name value members fields named unknown passes rest ih =>
      have missing : layout.field? name = none := by
        rw [field?, List.find?_eq_none]
        simpa using unknown
      simp only [storeMembers, named, ok_bind, missing, passes]
      exact ih understood distinct fresh complete record

/-- An object that gives fields is decoded as the initial record with these fields, if no name is
given twice and no required one is missing. -/
theorem decode_of_gives (gives : layout.Gives members fields)
    (understood : ∀ field ∈ fields, layout.Understands field)
    (distinct : (fields.map GivenField.name).Nodup)
    (complete : ∀ field ∈ layout.fields, field.isRequired = true →
      field.name ∈ fields.map GivenField.name) :
    layout.decode (.object members .closed) =
      .ok (GivenField.applyAll fields layout.initial) := by
  have isComplete : layout.isComplete ((fields.map GivenField.name).reverse ++ []) = true := by
    rw [isComplete, List.all_eq_true]
    intro field member
    cases required : field.isRequired with
    | false => rfl
    | true => simpa using complete field member required
  have fresh : ∀ field ∈ fields, field.name ∉ ([] : List String) := fun _ _ => List.not_mem_nil
  exact storeMembers_of_gives gives understood distinct fresh isComplete layout.initial

theorem decode_object (understood : ∀ field ∈ fields, layout.Understands field)
    (distinct : (fields.map GivenField.name).Nodup)
    (complete : ∀ field ∈ layout.fields, field.isRequired = true →
      field.name ∈ fields.map GivenField.name) :
    layout.decode (Draft.ofJson (GivenField.object fields)) =
      .ok (GivenField.applyAll fields layout.initial) :=
  decode_of_gives (gives_ofMembers fields) understood distinct complete

/-- A layout inverts a form that gives fields which rebuild the record. -/
theorem inverts {toJson : Record → Json} (given : Record → List (GivenField Record))
    (writes : ∀ record, toJson record = GivenField.object (given record))
    (accepts : ∀ record, ∀ field ∈ given record,
      layout.Understands field ∧ HasReadableNumbers field.value)
    (distinct : ∀ record, ((given record).map GivenField.name).Nodup)
    (complete : ∀ record, ∀ field ∈ layout.fields,
      field.isRequired = true → field.name ∈ (given record).map GivenField.name)
    (rebuilds : ∀ record, GivenField.applyAll (given record) layout.initial = record) :
    Inverts layout.decode toJson where
  decodes record := by
    have understood := fun field member => (accepts record field member).1
    rw [writes, decode_object understood (distinct record) (complete record), rebuilds]
  readable record := by
    rw [writes]
    apply HasReadableNumbers.object
    rw [List.forall_mem_map]
    exact fun field member => (accepts record field member).2

/-- A property of records that no field can break. -/
def Preserves (layout : Layout Record) (property : Record → Prop) : Prop :=
  ∀ field ∈ layout.fields, ∀ (draft : Draft) (record next : Record),
    field.store draft record = .ok next → property record → property next

section Preservation

variable {property : Record → Prop} {record result : Record} {ending : Ending}

theorem storeMembers_preserves (preserves : layout.Preserves property) {seen : List String}
    (stored : layout.storeMembers members ending seen record = .ok result)
    (before : property record) : property result := by
  induction members generalizing seen record with
  | nil =>
      rw [storeMembers] at stored
      rcases bind_eq_ok_iff.mp stored with ⟨_, _, stored⟩
      split at stored
      · cases stored
        exact before
      · contradiction
  | cons member members ih =>
      rw [storeMembers] at stored
      rcases bind_eq_ok_iff.mp stored with ⟨name, _, stored⟩
      split at stored
      · split at stored
        · contradiction
        · exact ih stored before
      · rename_i field isFound
        dsimp only at stored
        split at stored
        · cases stored
        · rcases bind_eq_ok_iff.mp stored with ⟨next, storedFirst, stored⟩
          have known := List.mem_of_find?_eq_some isFound
          exact ih stored (preserves field known _ record next storedFirst before)

theorem storeItems_preserves (preserves : layout.Preserves property) {mayBeShort : Bool}
    {known : List (Field Record)} (isKnown : known ⊆ layout.fields) {items : List Draft}
    (stored : storeItems mayBeShort known items ending record = .ok result)
    (before : property record) : property result := by
  induction known generalizing items record with
  | nil =>
      unfold storeItems Decoder.finishClosed at stored
      split at stored
      · cases stored
        exact before
      · contradiction
      · contradiction
  | cons field known ih =>
      rw [List.cons_subset] at isKnown
      cases items with
      | nil =>
          rcases bind_eq_ok_iff.mp stored with ⟨_, _, stored⟩
          split at stored
          · cases stored
            exact before
          · contradiction
      | cons item items =>
          rcases bind_eq_ok_iff.mp stored with ⟨next, storedFirst, stored⟩
          exact ih isKnown.2 stored (preserves field isKnown.1 item record next storedFirst before)

theorem decode_preserves (preserves : layout.Preserves property)
    (initially : property layout.initial) {draft : Draft}
    (decoded : layout.decode draft = .ok result) : property result := by
  unfold decode at decoded
  split at decoded
  · exact storeMembers_preserves preserves decoded initially
  · exact storeItems_preserves preserves (List.Subset.refl _) decoded initially
  · contradiction

end Preservation

end Layout

/-- A record consists of settings, of which a document may give any. What its layout starts from and
what its fields preserve is enough to rebuild a record from its settings. -/
structure Consists {Setting : Type} (layout : Layout Record) (toJson : Record → Json)
    (given : Setting → GivenField Record) (settings : Record → List Setting)
    (property : Record → Prop) : Prop where
  understands : ∀ setting, layout.Understands (given setting)
  readable : ∀ setting, HasReadableNumbers (given setting).value
  optional : ∀ field ∈ layout.fields, field.isRequired = false
  distinct : ∀ record, ((settings record).map fun setting => (given setting).name).Nodup
  writes : ∀ record, toJson record = GivenField.object ((settings record).map given)
  initially : property layout.initial
  preserves : layout.Preserves property
  rebuilds : ∀ record, property record →
    GivenField.applyAll ((settings record).map given) layout.initial = record

namespace Consists

variable {Setting : Type} {layout : Layout Record} {toJson : Record → Json}
  {given : Setting → GivenField Record} {settings : Record → List Setting}
  {property : Record → Prop}

theorem decode_of_gives (consists : Consists layout toJson given settings property)
    {members : List (Token String × Draft)} {chosen : List Setting}
    (gives : layout.Gives members (chosen.map given))
    (distinct : (chosen.map fun setting => (given setting).name).Nodup) :
    layout.decode (.object members .closed) =
      .ok (GivenField.applyAll (chosen.map given) layout.initial) := by
  apply Layout.decode_of_gives gives
  · rw [List.forall_mem_map]
    exact fun setting _ => consists.understands setting
  · rwa [List.map_map]
  · intro field member required
    rw [consists.optional field member] at required
    contradiction

/-- A record that comes from a document is read back from its own one. -/
theorem decodeText_toJson (consists : Consists layout toJson given settings property)
    {document : Bytes} {record : Record}
    (decoded : Draft.decodeText layout.decode document = .ok record) :
    Draft.decodeText layout.decode (Bytes.ofText (toJson record).compact) = .ok record := by
  have holds := Layout.decode_preserves consists.preserves consists.initially
    (Draft.decode_of_decodeText decoded)
  have readable : HasReadableNumbers (toJson record) := by
    rw [consists.writes]
    apply HasReadableNumbers.object
    simp [consists.readable]
  have reads := consists.decode_of_gives
    (Layout.gives_ofMembers ((settings record).map given)) (consists.distinct record)
  rw [consists.rebuilds record holds] at reads
  rw [← bytes, Draft.decodeText_bytes readable, consists.writes]
  exact reads

end Consists

end SlotClient.Json
