import SlotClient.Json.Reading
import SlotClient.Proofs.Json.Numbers
import SlotClient.Proofs.Json.Texts

/-!
# Reading back written values

The draft of a value has no faults. It is what the written form of the value is read as, whatever
follows, provided that the numbers are of sixty-four bits and that a number that ends the form is
not continued. The induction is on the value; the allowance of the reader is measured by the length
of the written form.
-/

namespace SlotClient.Json

mutual

/-- The draft of a value. -/
def Draft.ofJson : Json → Draft
  | .null => .null
  | .boolean value => .boolean value
  | .number value => .number ⟨.ok (.whole value), none⟩
  | .text value => .text ⟨.ok value, none⟩
  | .array items => .array (ofItems items) .closed
  | .object members => .object (ofMembers members) .closed

def Draft.ofItems : List Json → List Draft
  | [] => []
  | item :: rest => ofJson item :: ofItems rest

def Draft.ofMembers : List (String × Json) → List (Token String × Draft)
  | [] => []
  | (name, value) :: rest => (⟨.ok name, none⟩, ofJson value) :: ofMembers rest

end

/-- A value with numbers that can be read. -/
inductive HasReadableNumbers : Json → Prop
  | null : HasReadableNumbers null
  | boolean (value : Bool) : HasReadableNumbers (boolean value)
  | number {value : Int} (readable : IsReadable value) : HasReadableNumbers (number value)
  | text (value : String) : HasReadableNumbers (text value)
  | array {items : List Json} (readable : ∀ item ∈ items, HasReadableNumbers item) :
      HasReadableNumbers (array items)
  | object {members : List (String × Json)}
      (readable : ∀ member ∈ members, HasReadableNumbers member.2) :
      HasReadableNumbers (object members)

/-- The bytes of the written form of a value on a single line. -/
def bytes (json : Json) : Bytes := Bytes.ofText json.compact

/-- The bytes of a member of an object behind the quote that opens its name. -/
def memberBytes (member : String × Json) : Bytes :=
  quotedBytes member.1 ++ 58 :: bytes member.2

theorem compactItems_eq_map (items : List Json) : compactItems items = items.map compact := by
  induction items with
  | nil => rfl
  | cons item items ih => rw [compactItems, ih, List.map_cons]

theorem compactMembers_eq_map (members : List (String × Json)) :
    compactMembers members =
      members.map fun member => writtenText member.1 ++ ":" ++ compact member.2 := by
  induction members with
  | nil => rfl
  | cons member members ih => rw [compactMembers, ih, List.map_cons]

theorem ofText_intercalate_cons (first : String) (others : List String) :
    Bytes.ofText (String.intercalate "," (first :: others)) =
      Bytes.ofText first ++ others.flatMap fun part => 44 :: Bytes.ofText part := by
  induction others generalizing first with
  | nil => simp [Bytes.ofText]
  | cons other others ih =>
      have rest := ih other
      simp only [Bytes.ofText, String.toList_intercalate] at rest ⊢
      rw [List.map_cons, List.map_cons, List.intercalate_cons_cons, List.flatMap_append,
        List.flatMap_append, ← List.map_cons, rest]
      simp
      rfl

theorem bytes_array_nil : bytes (array []) = [91, 93] := rfl

theorem bytes_array_cons (item : Json) (items : List Json) :
    bytes (array (item :: items)) =
      91 :: (bytes item ++ (items.flatMap (fun item => 44 :: bytes item) ++ [93])) := by
  rw [bytes, compact, compactItems_eq_map, List.map_cons, Bytes.ofText_append, Bytes.ofText_append,
    ofText_intercalate_cons, List.flatMap_map, List.append_assoc, List.append_assoc]
  rfl

theorem bytes_object_nil : bytes (object []) = [123, 125] := rfl

theorem bytes_object_cons (member : String × Json) (members : List (String × Json)) :
    bytes (object (member :: members)) =
      123 :: 34 :: (memberBytes member ++
        (members.flatMap (fun member => 44 :: 34 :: memberBytes member) ++ [125])) := by
  have written : ∀ member : String × Json,
      Bytes.ofText (writtenText member.1 ++ ":" ++ compact member.2) =
        34 :: memberBytes member := by
    intro member
    rw [Bytes.ofText_append, Bytes.ofText_append, ofText_writtenText, memberBytes]
    simp
    rfl
  rw [bytes, compact, compactMembers_eq_map, List.map_cons, Bytes.ofText_append,
    Bytes.ofText_append, ofText_intercalate_cons, List.flatMap_map]
  simp only [written, List.append_assoc]
  rfl

theorem bytes_number (value : Int) : bytes (number value) = Decimal.signedDigits value :=
  Decimal.ofText_toString_int value

theorem bytes_text (value : String) : bytes (text value) = 34 :: quotedBytes value :=
  ofText_writtenText value

theorem signedDigits_eq_cons (number : Int) :
    ∃ byte others, Decimal.signedDigits number = byte :: others ∧
      (byte = 45 ∨ Decimal.isDigit byte = true) := by
  unfold Decimal.signedDigits
  split
  · exact ⟨_, _, rfl, Or.inl rfl⟩
  · rcases written : Decimal.digits number.natAbs with _ | ⟨byte, others⟩
    · exact absurd written (Decimal.digits_ne_nil _)
    · refine ⟨byte, others, rfl, Or.inr ?_⟩
      exact Decimal.isDigit_of_mem_digits (written ▸ List.mem_cons_self)

/-- A byte that begins a number. -/
theorem passes_of_beginsNumber {byte : UInt8} (begins : byte = 45 ∨ Decimal.isDigit byte = true) :
    Draft.isBlank byte = false ∧ byte ≠ 93 ∧ byte ≠ 34 := by
  rcases begins with rfl | digit
  · decide
  · rw [Decimal.isDigit_iff] at digit
    simp only [Draft.isBlank, Bool.or_eq_false_iff, decide_eq_false_iff_not, ← UInt8.toNat_inj,
      ne_eq, UInt8.reduceToNat]
    omega

/-- Every written value begins with a byte that neither separates tokens nor closes an array. -/
theorem bytes_eq_cons (json : Json) :
    ∃ byte others, bytes json = byte :: others ∧ Draft.isBlank byte = false ∧ byte ≠ 93 := by
  cases json with
  | null => exact ⟨_, _, rfl, by decide⟩
  | boolean value => cases value <;> exact ⟨_, _, rfl, by decide⟩
  | number value =>
      rcases signedDigits_eq_cons value with ⟨byte, others, written, begins⟩
      have passes := passes_of_beginsNumber begins
      exact ⟨byte, others, (bytes_number value).trans written, passes.1, passes.2.1⟩
  | text value => exact ⟨_, _, bytes_text value, by decide⟩
  | array items =>
      cases items with
      | nil => exact ⟨_, _, bytes_array_nil, by decide⟩
      | cons item items => exact ⟨_, _, bytes_array_cons item items, by decide⟩
  | object members =>
      cases members with
      | nil => exact ⟨_, _, bytes_object_nil, by decide⟩
      | cons member members => exact ⟨_, _, bytes_object_cons member members, by decide⟩

/-- A value is read as its draft from its written form, whatever follows. -/
def IsReadBack (json : Json) : Prop :=
  ∀ (allowance : Nat) (rest : Bytes), 4 * (bytes json).length ≤ allowance → EndsNumber rest →
    Draft.read allowance (bytes json ++ rest) = (Draft.ofJson json, some rest)

namespace Draft

theorem skipBlanks_cons {byte : UInt8} (notBlank : isBlank byte = false) (rest : Bytes) :
    skipBlanks (byte :: rest) = byte :: rest := by
  simp [skipBlanks, notBlank]

section Sequences

variable {allowance : Nat} {more : Bytes} {after : Option Bytes} {ending : Ending}

/-- An item is read from its written form, whether it is the first one or stands behind a comma. -/
theorem readItem_bytes {item : Json} {items : List Draft} (isReadBack : IsReadBack item)
    (enough : 4 * (bytes item).length ≤ allowance) (ends : EndsNumber more)
    (others : readItems allowance false more = (items, ending, after)) :
    readItems (allowance + 2) true (bytes item ++ more) =
        (ofJson item :: items, ending, after) ∧
      readItems (allowance + 2) false (44 :: (bytes item ++ more)) =
        (ofJson item :: items, ending, after) := by
  have first : readItem (allowance + 1) (bytes item ++ more) =
      (ofJson item :: items, ending, after) := by
    simp only [readItem, isReadBack allowance more enough ends, others]
  rcases bytes_eq_cons item with ⟨byte, tail, written, notBlank, notClosing⟩
  rw [written, List.cons_append] at first ⊢
  have comma : skipBlanks (44 :: byte :: (tail ++ more)) = 44 :: byte :: (tail ++ more) :=
    skipBlanks_cons rfl _
  constructor
  · simp only [readItems, skipBlanks_cons notBlank, if_neg notClosing, if_true, first]
  · simp only [readItems, comma, skipBlanks_cons notBlank, if_neg notClosing, first]
    rfl

/-- The bytes for the items behind the first one. -/
def itemTail (items : List Json) : Bytes := items.flatMap fun item => 44 :: bytes item

theorem endsNumber_itemTail (items : List Json) (rest : Bytes) :
    EndsNumber (itemTail items ++ 93 :: rest) := by
  intro byte first
  cases items with
  | nil =>
      cases first
      decide
  | cons item items =>
      cases first
      decide

theorem readItems_itemTail {items : List Json} (each : ∀ item ∈ items, IsReadBack item)
    (enough : 4 * (itemTail items).length + 4 ≤ allowance) (rest : Bytes) :
    readItems allowance false (itemTail items ++ 93 :: rest) =
      (ofItems items, .closed, some rest) := by
  induction items generalizing allowance with
  | nil =>
      rcases allowance with _ | allowance
      · contradiction
      · rfl
  | cons item items ih =>
      rw [List.forall_mem_cons] at each
      have written : itemTail (item :: items) = 44 :: (bytes item ++ itemTail items) := rfl
      rw [written, List.length_cons, List.length_append] at enough
      rcases allowance with _ | _ | allowance
      · omega
      · omega
      · have others := ih each.2 (show 4 * (itemTail items).length + 4 ≤ allowance by omega)
        rw [written, List.cons_append, List.append_assoc]
        exact (readItem_bytes each.1 (by omega) (endsNumber_itemTail items rest) others).2

/-- A member is read from its written form behind the quote that opens its name. -/
theorem readMember_memberBytes {member : String × Json}
    {members : List (Token String × Draft)} (isReadBack : IsReadBack member.2)
    (enough : 4 * (memberBytes member).length ≤ allowance) (ends : EndsNumber more)
    (others : readMembers allowance false more = (members, ending, after)) :
    readMember (allowance + 1) (memberBytes member ++ more) =
      ((⟨.ok member.1, none⟩, ofJson member.2) :: members, ending, after) := by
  rw [memberBytes, List.length_append, List.length_cons] at enough
  have colon : skipBlanks (58 :: (bytes member.2 ++ more)) = 58 :: (bytes member.2 ++ more) :=
    skipBlanks_cons rfl _
  rw [memberBytes, List.append_assoc, List.cons_append]
  simp only [readMember, readText_quotedBytes, colon, if_true,
    isReadBack allowance more (by omega) ends, others]

/-- The bytes for the members behind the first one. -/
def memberTail (members : List (String × Json)) : Bytes :=
  members.flatMap fun member => 44 :: 34 :: memberBytes member

theorem endsNumber_memberTail (members : List (String × Json)) (rest : Bytes) :
    EndsNumber (memberTail members ++ 125 :: rest) := by
  intro byte first
  cases members with
  | nil =>
      cases first
      decide
  | cons member members =>
      cases first
      decide

theorem readMembers_memberTail {members : List (String × Json)}
    (each : ∀ member ∈ members, IsReadBack member.2)
    (enough : 4 * (memberTail members).length + 4 ≤ allowance) (rest : Bytes) :
    readMembers allowance false (memberTail members ++ 125 :: rest) =
      (ofMembers members, .closed, some rest) := by
  induction members generalizing allowance with
  | nil =>
      rcases allowance with _ | allowance
      · contradiction
      · rfl
  | cons member members ih =>
      rw [List.forall_mem_cons] at each
      have written : memberTail (member :: members) =
          44 :: 34 :: (memberBytes member ++ memberTail members) := rfl
      rw [written, List.length_cons, List.length_cons, List.length_append] at enough
      rcases allowance with _ | _ | allowance
      · omega
      · omega
      · have others := ih each.2 (show 4 * (memberTail members).length + 4 ≤ allowance by omega)
        rw [written, List.cons_append, List.cons_append, List.append_assoc]
        exact readMember_memberBytes each.1 (by omega) (endsNumber_memberTail members rest) others

end Sequences

end Draft

namespace IsReadBack

open Draft (itemTail memberTail)

theorem null : IsReadBack .null := by
  intro allowance rest enough _
  rcases allowance with _ | allowance
  · contradiction
  · rfl

theorem boolean (value : Bool) : IsReadBack (.boolean value) := by
  intro allowance rest enough _
  rcases allowance with _ | allowance
  · cases value <;> contradiction
  · cases value <;> rfl

theorem number {value : Int} (readable : IsReadable value) : IsReadBack (.number value) := by
  intro allowance rest enough ends
  have read := readNumber_signedDigits readable ends
  rcases signedDigits_eq_cons value with ⟨byte, others, written, begins⟩
  rw [bytes_number, written] at enough ⊢
  rw [written] at read
  rcases passes_of_beginsNumber begins with ⟨notBlank, _, notQuote⟩
  rcases allowance with _ | allowance
  · contradiction
  · rw [List.cons_append] at read ⊢
    simp only [Draft.read, Draft.skipBlanks_cons notBlank, if_neg notQuote, read]
    rw [if_pos (by simpa using begins)]
    rfl

theorem text (value : String) : IsReadBack (.text value) := by
  intro allowance rest enough _
  rw [bytes_text] at enough ⊢
  rcases allowance with _ | allowance
  · contradiction
  · have quote : Draft.skipBlanks (34 :: (quotedBytes value ++ rest)) =
        34 :: (quotedBytes value ++ rest) := Draft.skipBlanks_cons rfl _
    simp only [List.cons_append, Draft.read, quote, if_true, readText_quotedBytes]
    rfl

theorem array {items : List Json} (each : ∀ item ∈ items, IsReadBack item) :
    IsReadBack (.array items) := by
  intro allowance rest enough _
  cases items with
  | nil =>
      rcases allowance with _ | _ | allowance
      · contradiction
      · contradiction
      · rfl
  | cons item items =>
      have written : bytes (.array (item :: items)) ++ rest =
          91 :: (bytes item ++ (itemTail items ++ 93 :: rest)) := by
        rw [bytes_array_cons]
        simp [itemTail]
      rw [List.forall_mem_cons] at each
      rw [bytes_array_cons, ← itemTail] at enough
      simp only [List.length_cons, List.length_append, List.length_nil] at enough
      rcases allowance with _ | _ | _ | allowance
      · omega
      · omega
      · omega
      · have others := Draft.readItems_itemTail each.2
          (show 4 * (itemTail items).length + 4 ≤ allowance by omega) rest
        have inside := (Draft.readItem_bytes each.1 (by omega)
          (Draft.endsNumber_itemTail items rest) others).1
        have bracket := Draft.skipBlanks_cons (show Draft.isBlank 91 = false from rfl)
          (bytes item ++ (itemTail items ++ 93 :: rest))
        rw [written]
        simp only [Draft.read, bracket, inside]
        rfl

theorem object {members : List (String × Json)}
    (each : ∀ member ∈ members, IsReadBack member.2) : IsReadBack (.object members) := by
  intro allowance rest enough _
  cases members with
  | nil =>
      rcases allowance with _ | _ | allowance
      · contradiction
      · contradiction
      · rfl
  | cons member members =>
      have written : bytes (.object (member :: members)) ++ rest =
          123 :: 34 :: (memberBytes member ++ (memberTail members ++ 125 :: rest)) := by
        rw [bytes_object_cons]
        simp [memberTail]
      rw [List.forall_mem_cons] at each
      rw [bytes_object_cons, ← memberTail] at enough
      simp only [List.length_cons, List.length_append, List.length_nil] at enough
      rcases allowance with _ | _ | _ | allowance
      · omega
      · omega
      · omega
      · have others := Draft.readMembers_memberTail each.2
          (show 4 * (memberTail members).length + 4 ≤ allowance by omega) rest
        have inside := Draft.readMember_memberBytes each.1 (by omega)
          (Draft.endsNumber_memberTail members rest) others
        have bracket := Draft.skipBlanks_cons (show Draft.isBlank 123 = false from rfl)
          (34 :: (memberBytes member ++ (memberTail members ++ 125 :: rest)))
        have opened : Draft.readMembers (allowance + 2) true
            (34 :: (memberBytes member ++ (memberTail members ++ 125 :: rest))) =
            Draft.readMember (allowance + 1)
              (memberBytes member ++ (memberTail members ++ 125 :: rest)) := rfl
        rw [written]
        simp only [Draft.read, bracket, opened, inside]
        rfl

end IsReadBack

theorem HasReadableNumbers.isReadBack {json : Json} (readable : HasReadableNumbers json) :
    IsReadBack json := by
  induction readable with
  | null => exact .null
  | boolean value => exact .boolean value
  | number readable => exact .number readable
  | text value => exact .text value
  | array _ ih => exact .array ih
  | object _ ih => exact .object ih

/-- A document that is the written form of a value is read as the draft of the value. -/
theorem Draft.ofText_bytes {json : Json} (readable : HasReadableNumbers json) :
    Draft.ofText (bytes json) = (Draft.ofJson json, some []) := by
  have read := readable.isReadBack (4 * (bytes json).length + 4) []
    (Nat.le_add_right _ _) endsNumber_nil
  rwa [List.append_nil] at read

/-- Decoding a document without faults is decoding its draft. -/
theorem Draft.decodeText_of_ofText {Value : Type} {document rest : Bytes} {draft : Draft}
    (read : ofText document = (draft, some rest)) (blank : skipBlanks rest = [])
    (decode : Draft → Except Fault Value) : decodeText decode document = decode draft := by
  rw [decodeText, read]
  cases decoded : decode draft with
  | error fault => simp only [decoded, error_bind]
  | ok value =>
      simp only [decoded, ok_bind, blank, List.isEmpty_nil, if_true]
      rfl

theorem Draft.decode_of_decodeText {Value : Type} {decode : Draft → Except Fault Value}
    {document : Bytes} {value : Value} (decoded : decodeText decode document = .ok value) :
    decode (ofText document).1 = .ok value := by
  rcases bind_eq_ok_iff.mp decoded with ⟨result, read, finished⟩
  split at finished
  · contradiction
  · split at finished
    · cases finished
      exact read
    · contradiction

theorem Draft.decodeText_bytes {Value : Type} {json : Json} (readable : HasReadableNumbers json)
    (decode : Draft → Except Fault Value) : decodeText decode (bytes json) = decode (ofJson json) :=
  decodeText_of_ofText (ofText_bytes readable) rfl decode

end SlotClient.Json
