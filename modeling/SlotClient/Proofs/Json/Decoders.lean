import SlotClient.Json.Decoding
import SlotClient.Proofs.Json.Written

/-!
# Decoders that invert a form

A decoder inverts a form of values if it gives back every value from the draft of its form. Together
with the reading of written values this says that a value is told by its written form. The decoders
for composite values invert their form if those for the parts do.
-/

namespace SlotClient.Json

/-- A decoder gives back every value from its form, whose numbers can all be read. -/
structure Inverts {Value : Type} (decode : Decoder Value) (toJson : Value → Json) : Prop where
  decodes : ∀ value, decode (Draft.ofJson (toJson value)) = .ok value
  readable : ∀ value, HasReadableNumbers (toJson value)

theorem HasReadableNumbers.natural {value : Nat} (within : value ≤ Decimal.mostUInt64) :
    HasReadableNumbers (natural value) := by
  apply HasReadableNumbers.number
  simp only [IsReadable, Decimal.leastInt64]
  omega

theorem HasReadableNumbers.ofOption {value : Option Json}
    (readable : ∀ json, value = some json → HasReadableNumbers json) :
    HasReadableNumbers (ofOption value) := by
  cases value with
  | none => exact .null
  | some json => exact readable json rfl

namespace Inverts

variable {Value : Type} {decode : Decoder Value} {toJson : Value → Json}

theorem decodeText (inverts : Inverts decode toJson) (value : Value) :
    Draft.decodeText decode (Bytes.ofText (toJson value).compact) = .ok value :=
  (Draft.decodeText_bytes (inverts.readable value) decode).trans (inverts.decodes value)

/-- Different values have different written forms. -/
theorem compact_injective (inverts : Inverts decode toJson) :
    Function.Injective fun value => (toJson value).compact := by
  intro value other same
  have read := inverts.decodeText value
  rw [show (toJson value).compact = (toJson other).compact from same,
    inverts.decodeText other] at read
  cases read
  rfl

theorem text : Inverts Decoder.text Json.text := ⟨fun _ => rfl, .text⟩

theorem boolean : Inverts Decoder.boolean Json.boolean := ⟨fun _ => rfl, .boolean⟩

end Inverts

theorem whole_ofJson {least most value : Int} (lower : least ≤ value) (upper : value ≤ most) :
    Decoder.whole least most (Draft.ofJson (number value)) = .ok value := by
  simp only [Draft.ofJson, Decoder.whole, ok_bind, if_pos (And.intro lower upper)]
  rfl

namespace Inverts

theorem uint64 : Inverts Decoder.uint64 fun value => natural value.toNat where
  decodes value := by
    have within : value.toNat ≤ Decimal.mostUInt64 := Nat.le_of_lt_succ value.toNat_lt
    rw [Decoder.uint64, natural, whole_ofJson (Int.natCast_nonneg _) (Int.ofNat_le.mpr within)]
    simp [Except.map]
  readable value := .natural (Nat.le_of_lt_succ value.toNat_lt)

theorem int64 : Inverts Decoder.int64 fun value => number value.toInt where
  decodes value := by
    have fits := Decimal.fitsInt64_toInt value
    rw [Decoder.int64, whole_ofJson fits.1 fits.2]
    simp [Except.map]
  readable value := by
    have fits := Decimal.fitsInt64_toInt value
    apply HasReadableNumbers.number
    simp only [Decimal.FitsInt64, Decimal.mostInt64, Decimal.leastInt64] at fits
    simp only [IsReadable, Decimal.leastInt64, Decimal.mostUInt64]
    omega

theorem uint8 : Inverts Decoder.uint8 fun value => natural value.toNat where
  decodes value := by
    have within : (value.toNat : Int) ≤ 255 :=
      Int.le_of_lt_add_one (Int.ofNat_lt.mpr value.toNat_lt)
    rw [Decoder.uint8, natural, whole_ofJson (Int.natCast_nonneg _) within]
    simp [Except.map]
  readable value := by
    have within := Nat.le_of_lt_succ value.toNat_lt
    apply HasReadableNumbers.natural
    simp only [Decimal.mostUInt64]
    omega

variable {Value : Type} {decode : Decoder Value} {toJson : Value → Json}

theorem optional (inverts : Inverts decode toJson) (present : ∀ value, toJson value ≠ .null) :
    Inverts (Decoder.optional decode) fun value => .ofOption (value.map toJson) where
  decodes value := by
    cases value with
    | none => rfl
    | some value =>
        have decoded := inverts.decodes value
        have notNull := present value
        change Decoder.optional decode (Draft.ofJson (toJson value)) = .ok (some value)
        cases form : toJson value with
        | null => contradiction
        | _ =>
            rw [form] at decoded
            simp only [Draft.ofJson] at decoded ⊢
            rw [Decoder.optional, decoded]
            · rfl
            all_goals exact nofun
  readable value := by
    apply HasReadableNumbers.ofOption
    intro json given
    rcases Option.map_eq_some_iff.mp given with ⟨value, _, rfl⟩
    exact inverts.readable value

theorem optionalUInt64 : Inverts (Decoder.optional Decoder.uint64)
    fun value => .ofOption (value.map fun number => natural number.toNat) :=
  uint64.optional nofun

theorem optionalInt64 : Inverts (Decoder.optional Decoder.int64)
    fun value => .ofOption (value.map fun value => number value.toInt) :=
  int64.optional nofun

theorem list (inverts : Inverts decode toJson) :
    Inverts (Decoder.list decode) fun values => .array (values.map toJson) where
  decodes values := by
    change Decoder.items decode (Draft.ofItems (values.map toJson)) .closed = .ok values
    induction values with
    | nil => rfl
    | cons value values ih =>
        rw [List.map_cons, Draft.ofItems, Decoder.items, inverts.decodes, ok_bind, ih, ok_bind]
        rfl
  readable values := by
    apply HasReadableNumbers.array
    rw [List.forall_mem_map]
    exact fun value _ => inverts.readable value

theorem pair (inverts : Inverts decode toJson) :
    Inverts (Decoder.pair decode) fun value => .array [toJson value.1, toJson value.2] where
  decodes value := by
    simp only [Draft.ofJson, Draft.ofItems, Decoder.pair, inverts.decodes, ok_bind]
    rfl
  readable value := by
    apply HasReadableNumbers.array
    simp [inverts.readable]

end Inverts

namespace Decoder

variable {Value : Type} {alternatives : List (Alternative Value)} {alternative : Alternative Value}
  {name : String}

/-- An alternative whose name stands alone. -/
theorem choice_text (named : Alternative.named alternatives name = .ok alternative) :
    choice alternatives (Draft.ofJson (.text name)) = alternative.decode none := by
  simp only [Draft.ofJson, choice, ok_bind, named]

/-- An alternative that carries a value. -/
theorem choice_carrying {Carried : Type} {decode : Decoder Carried} {make : Carried → Value}
    (named : Alternative.named alternatives name = .ok (.carrying name decode make))
    {carried : Json} {value : Carried} (decoded : decode (Draft.ofJson carried) = .ok value) :
    choice alternatives (Draft.ofJson (.object [(name, carried)])) = .ok (make value) := by
  simp only [Draft.ofJson, Draft.ofMembers, choice, ok_bind, named, Alternative.carrying, decoded]
  rfl

end Decoder

end SlotClient.Json
