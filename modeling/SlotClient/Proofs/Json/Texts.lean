import SlotClient.Json.Lexeme
import SlotClient.Json.Value
import SlotClient.Proofs.Outcome
import SlotClient.Proofs.Text.Utf8

/-!
# Reading back strings

A string is written character by character, and each character is shown again by the bytes that are
written for it: an escape shows the character that it stands for, and any other byte shows itself.
So a string is read back from its written form, both for its value and to be passed over.
-/

namespace SlotClient.Json

/-- A byte that stands for itself inside quotes: no control character, quote or backslash. -/
structure IsPlain (byte : UInt8) : Prop where
  printable : 32 ≤ byte.toNat
  notQuote : byte.toNat ≠ 34
  notBackslash : byte.toNat ≠ 92

/-- What bytes inside quotes show, with a given way to read escapes. -/
inductive Shows (escape : Bytes → Except Fault (Bytes × Bytes)) : Bytes → Bytes → Prop
  | nothing : Shows escape [] []
  | byte {byte : UInt8} {bytes shown : Bytes} (plain : IsPlain byte)
      (rest : Shows escape bytes shown) : Shows escape (byte :: bytes) (byte :: shown)
  | escape {letters piece bytes shown : Bytes}
      (read : ∀ rest, escape (letters ++ rest) = .ok (piece, rest))
      (rest : Shows escape bytes shown) : Shows escape (92 :: (letters ++ bytes)) (piece ++ shown)

variable {escape : Bytes → Except Fault (Bytes × Bytes)} {bytes shown : Bytes} {character : Char}

/-- What is shown is read up to the closing quote. -/
theorem insideQuotes_of_shows (shows : Shows escape bytes shown) {steps : Nat}
    (enough : bytes.length < steps) (rest : Bytes) :
    insideQuotes escape steps (bytes ++ 34 :: rest) = .ok (shown, rest) := by
  induction shows generalizing steps with
  | nothing =>
      rcases steps with _ | steps
      · contradiction
      · rfl
  | @byte byte bytes shown plain _ ih =>
      rcases steps with _ | steps
      · contradiction
      · have notQuote : byte ≠ 34 := ne_of_apply_ne UInt8.toNat plain.notQuote
        have notBackslash : byte ≠ 92 := ne_of_apply_ne UInt8.toNat plain.notBackslash
        have notControl : ¬byte < 32 := UInt8.not_lt.mpr plain.printable
        rw [List.cons_append, insideQuotes, if_neg notQuote, if_neg notBackslash, if_neg notControl,
          ih (Nat.lt_of_succ_lt_succ enough)]
        rfl
  | @escape letters piece bytes shown read _ ih =>
      rcases steps with _ | steps
      · contradiction
      · rw [List.length_cons, List.length_append] at enough
        have others := ih (show bytes.length < steps by omega)
        rw [List.cons_append, List.append_assoc, insideQuotes, if_neg (by decide), if_pos rfl, read]
        simp only [ok_bind, others]
        rfl

theorem Shows.append_plain {plain : Bytes} (allPlain : ∀ byte ∈ plain, IsPlain byte)
    (rest : Shows escape bytes shown) : Shows escape (plain ++ bytes) (plain ++ shown) := by
  induction plain with
  | nil => exact rest
  | cons byte plain ih =>
      rw [List.forall_mem_cons] at allPlain
      exact .byte allPlain.1 (ih allPlain.2)

theorem isPlain_ofNat {number : Nat} (small : number < 256) (high : 128 ≤ number) :
    IsPlain (UInt8.ofNat number) := by
  have value := UInt8.toNat_ofNat_of_lt' (show number < 256 from small)
  constructor <;> omega

theorem ne_of_character_ne {other : Char} (differs : character ≠ other) :
    character.val.toNat ≠ other.toNat :=
  fun same => differs (Char.ext (UInt32.toNat_inj.mp same))

/-- A character that needs no escape stands for itself in all its bytes. -/
theorem isPlain_of_mem_encoded (printable : 32 ≤ character.toNat) (notQuote : character ≠ '"')
    (notBackslash : character ≠ '\\') {byte : UInt8}
    (member : byte ∈ String.utf8EncodeChar character) : IsPlain byte := by
  have differsFromQuote := ne_of_character_ne notQuote
  have differsFromBackslash := ne_of_character_ne notBackslash
  change 32 ≤ character.val.toNat at printable
  unfold String.utf8EncodeChar at member
  generalize character.val.toNat = number at *
  dsimp only at member
  repeat' split at member
  · rw [List.mem_singleton] at member
    have value := UInt8.toNat_ofNat_of_lt' (show number < 256 by omega)
    subst member
    constructor
    · omega
    · rw [value]; exact differsFromQuote
    · rw [value]; exact differsFromBackslash
  all_goals
    simp only [List.mem_cons, List.not_mem_nil, or_false] at member
    rcases member with rfl | rfl | rfl | rfl <;> exact isPlain_ofNat (by omega) (by omega)

/-- The byte of a hexadecimal digit. -/
def hexByte (digit : Nat) : UInt8 := UInt8.ofNat (Nat.digitChar digit).toNat

theorem hexByte_spec {digit : Nat} (single : digit < 16) :
    String.utf8EncodeChar (Nat.digitChar digit) = [hexByte digit] ∧
      hexDigit? (hexByte digit) = some digit := by
  have each : ∀ digit : Fin 16,
      String.utf8EncodeChar (Nat.digitChar digit) = [hexByte digit] ∧
        hexDigit? (hexByte digit) = some digit.val := by decide
  exact each ⟨digit, single⟩

/-- The bytes for a character inside quotes. -/
def writtenBytes (character : Char) : Bytes :=
  (writtenCharacter character).flatMap String.utf8EncodeChar

/-- What bytes stand for a character inside quotes: its own ones if they are plain, or an escape. -/
inductive StandsFor (character : Char) : Bytes → Prop
  | plain (plain : ∀ byte ∈ String.utf8EncodeChar character, IsPlain byte) :
      StandsFor character (String.utf8EncodeChar character)
  | escape {letters : Bytes}
      (read : ∀ rest, escaped (letters ++ rest) = .ok (String.utf8EncodeChar character, rest))
      (passed : ∀ rest, passedEscape (letters ++ rest) = .ok ([], rest)) :
      StandsFor character (92 :: letters)

/-- A control character is escaped by its number. -/
theorem standsFor_number (control : character.toNat < 32) :
    StandsFor character
      (92 :: [117, 48, 48, hexByte (character.toNat / 16), hexByte (character.toNat % 16)]) := by
  have high := (hexByte_spec (show character.toNat / 16 < 16 by omega)).2
  have low := (hexByte_spec (show character.toNat % 16 < 16 by omega)).2
  have zero : hexDigit? 48 = some 0 := by decide
  have number : ((0 * 16 + 0) * 16 + character.toNat / 16) * 16 + character.toNat % 16 =
      character.toNat := by omega
  have quad : ∀ rest, hexQuad (48 :: 48 :: hexByte (character.toNat / 16) ::
      hexByte (character.toNat % 16) :: rest) = .ok (character.toNat, rest) := by
    intro rest
    simp only [hexQuad, zero, high, low, number]
  apply StandsFor.escape
  · intro rest
    have notLow : ¬0xDC00 ≤ character.toNat := by omega
    have notHigh : ¬0xD800 ≤ character.toNat := by omega
    simp [escaped, quad, notLow, notHigh, encodedCharacter, Char.ofNat_toNat]
    rfl
  · intro rest
    simp [passedEscape, quad, Except.map]

theorem standsFor_writtenBytes (character : Char) :
    StandsFor character (writtenBytes character) := by
  unfold writtenBytes writtenCharacter
  -- The characters with a short escape come first.
  iterate 7
    split
    · rename_i same
      subst same
      exact .escape (fun _ => rfl) (fun _ => rfl)
  split
  · rename_i control
    have numbered := standsFor_number control
    have high := (hexByte_spec (show character.toNat / 16 < 16 by omega)).1
    have low := (hexByte_spec (show character.toNat % 16 < 16 by omega)).1
    simp only [hexPair, List.cons_append, List.nil_append, List.flatMap_cons, List.flatMap_nil,
      high, low]
    exact numbered
  · rw [List.flatMap_singleton]
    exact .plain fun _ member => isPlain_of_mem_encoded (by omega) ‹_› ‹_› member

namespace StandsFor

variable {written : Bytes}

theorem shows (standsFor : StandsFor character written) (rest : Shows escaped bytes shown) :
    Shows escaped (written ++ bytes) (String.utf8EncodeChar character ++ shown) := by
  cases standsFor with
  | plain plain => exact rest.append_plain plain
  | escape read _ => exact .escape read rest

theorem passes (standsFor : StandsFor character written) (rest : Shows passedEscape bytes shown) :
    ∃ passed, Shows passedEscape (written ++ bytes) passed := by
  cases standsFor with
  | plain plain => exact ⟨_, rest.append_plain plain⟩
  | escape _ passed => exact ⟨_, .escape passed rest⟩

end StandsFor

/-- Written characters show themselves again, one by one. -/
theorem shows_flatMap_writtenBytes (characters : List Char) :
    Shows escaped (characters.flatMap writtenBytes) (characters.flatMap String.utf8EncodeChar) := by
  induction characters with
  | nil => exact .nothing
  | cons character characters ih => exact (standsFor_writtenBytes character).shows ih

theorem passes_flatMap_writtenBytes (characters : List Char) :
    ∃ passed, Shows passedEscape (characters.flatMap writtenBytes) passed := by
  induction characters with
  | nil => exact ⟨_, .nothing⟩
  | cons character characters ih =>
      rcases ih with ⟨_, rest⟩
      exact (standsFor_writtenBytes character).passes rest

/-- The bytes for a string behind its opening quote. -/
def quotedBytes (text : String) : Bytes := text.toList.flatMap writtenBytes ++ [34]

theorem ofText_writtenText (text : String) :
    Bytes.ofText (writtenText text) = 34 :: quotedBytes text := by
  rw [writtenText, Bytes.ofText_ofList, List.flatMap_append, List.flatMap_cons, List.flatMap_assoc]
  rfl

/-- A string is read back from its written form. -/
theorem readText_quotedBytes (text : String) (rest : Bytes) :
    readText (quotedBytes text ++ rest) = (⟨.ok text, none⟩, some rest) := by
  have enough : (text.toList.flatMap writtenBytes).length <
      (quotedBytes text ++ rest).length + 1 := by
    simp only [quotedBytes, List.length_append]
    omega
  have written : quotedBytes text ++ rest = text.toList.flatMap writtenBytes ++ 34 :: rest := by
    rw [quotedBytes, List.append_assoc, List.singleton_append]
  have read := insideQuotes_of_shows (shows_flatMap_writtenBytes text.toList) enough rest
  rcases passes_flatMap_writtenBytes text.toList with ⟨_, passes⟩
  have passed := insideQuotes_of_shows passes enough rest
  rw [← written] at read passed
  rw [readText, read, passed]
  simp only [Except.map]
  rw [← Bytes.ofText, Utf8.lossyText_ofText]

end SlotClient.Json
