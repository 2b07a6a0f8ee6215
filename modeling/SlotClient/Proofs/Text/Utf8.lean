import Mathlib.Tactic.Common
import SlotClient.Text.Utf8

/-!
# Reading back UTF-8

The form of a character is cut off the front of a byte string as that character, and nothing but its
form is. So the strict reading accepts exactly the forms of texts, and both readings of the form of
a text give back the text.
-/

namespace SlotClient

theorem Bytes.ofText_append (first second : String) :
    Bytes.ofText (first ++ second) = Bytes.ofText first ++ Bytes.ofText second := by
  simp [Bytes.ofText]

theorem Bytes.ofText_ofList (characters : List Char) :
    Bytes.ofText (String.ofList characters) = characters.flatMap String.utf8EncodeChar := by
  rw [Bytes.ofText, String.toList_ofList]

namespace Utf8

/-- What a leading byte of each length announces. The next byte has a narrower range where the full
one would take in an overlong form, a surrogate or a number that is too large. -/
inductive Announces (byte : Nat) : Lead → Prop
  | one (low : 0xC2 ≤ byte) (high : byte ≤ 0xDF) : Announces byte ⟨1, byte - 0xC0, 0x80, 0xBF⟩
  | two (low : 0xE0 ≤ byte) (high : byte ≤ 0xEF) :
      Announces byte
        ⟨2, byte - 0xE0, if byte = 0xE0 then 0xA0 else 0x80, if byte = 0xED then 0x9F else 0xBF⟩
  | three (low : 0xF0 ≤ byte) (high : byte ≤ 0xF4) :
      Announces byte
        ⟨3, byte - 0xF0, if byte = 0xF0 then 0x90 else 0x80, if byte = 0xF4 then 0x8F else 0xBF⟩

theorem lead?_eq_some_iff {byte : UInt8} {lead : Lead} :
    lead? byte = some lead ↔ Announces byte.toNat lead := by
  simp only [lead?, Bool.and_eq_true, decide_eq_true_eq, UInt8.le_iff_toNat_le,
    ← UInt8.toNat_inj, UInt8.reduceToNat]
  generalize byte.toNat = number
  constructor
  · intro announced
    repeat' split at announced
    all_goals first
      | contradiction
      | cases announced
    · rename_i range
      exact .one range.1 range.2
    · rename_i same
      subst same
      exact .two (by decide) (by decide)
    · rename_i same
      subst same
      exact .two (by decide) (by decide)
    · rename_i notLeast notSurrogate range
      have two : Announces number _ := .two (by omega) range.2
      simpa [notLeast, notSurrogate] using two
    · rename_i same
      subst same
      exact .three (by decide) (by decide)
    · rename_i notLeast range
      have notMost : number ≠ 0xF4 := by omega
      have three : Announces number _ := .three (by omega) (by omega)
      simpa [notLeast, notMost] using three
    · rename_i same
      subst same
      exact .three (by decide) (by decide)
  · intro announces
    cases announces with
    | one low high => simp [low, high]
    | two low high =>
        rw [if_neg (by omega)]
        split
        · simp_all
        · split
          · simp_all
          · rw [if_pos (by omega)]
    | three low high =>
        rw [if_neg (by omega), if_neg (by omega), if_neg (by omega), if_neg (by omega)]
        split
        · simp_all
        · split
          · rw [if_neg (by omega)]
          · have most : number = 0xF4 := by omega
            rw [if_pos most, if_pos most, most]

theorem continued_succ_eq_iff {following bits : Nat} {low high : UInt8} {bytes rest : Bytes}
    {character : Char} :
    continued (following + 1) bits low high bytes = (some character, rest) ↔
      ∃ byte others, bytes = byte :: others ∧ low.toNat ≤ byte.toNat ∧ byte.toNat ≤ high.toNat ∧
        continued following (bits * 64 + (byte.toNat - 0x80)) 0x80 0xBF others =
          (some character, rest) := by
  cases bytes with
  | nil => simp [continued]
  | cons byte others =>
      rw [continued]
      by_cases range : low.toNat ≤ byte.toNat ∧ byte.toNat ≤ high.toNat
      · simp [UInt8.le_iff_toNat_le, range]
      · simp [UInt8.le_iff_toNat_le, ← and_assoc, range]

theorem continued_cons {following bits six : Nat} {low high : UInt8} (small : six < 64)
    (lower : low.toNat ≤ six + 128) (upper : six + 128 ≤ high.toNat) (rest : Bytes) :
    continued (following + 1) bits low high (UInt8.ofNat (six + 128) :: rest) =
      continued following (bits * 64 + six) 0x80 0xBF rest := by
  have value := UInt8.toNat_ofNat_of_lt' (show six + 128 < 256 by omega)
  rw [continued]
  simp only [UInt8.le_iff_toNat_le, value, lower, upper, decide_true, Bool.and_self, if_true,
    Nat.add_sub_cancel]

theorem pieces_of_ascii {byte : UInt8} (ascii : byte.toNat < 0x80) (rest : Bytes) :
    pieces (byte :: rest) = some (Char.ofNat byte.toNat) :: pieces rest := by
  rw [pieces]
  exact if_pos ascii

theorem pieces_of_lead {byte : UInt8} {lead : Lead} (announces : Announces byte.toNat lead)
    (rest : Bytes) :
    pieces (byte :: rest) =
      (continued lead.following lead.bits lead.low lead.high rest).1 ::
        pieces (continued lead.following lead.bits lead.low lead.high rest).2 := by
  have notAscii : ¬byte < 0x80 := by
    rw [UInt8.lt_iff_toNat_lt]
    cases announces <;> simp <;> omega
  rw [pieces, if_neg notAscii, lead?_eq_some_iff.mpr announces]

/-- The form of a character is cut off as one piece. -/
theorem pieces_encoded (character : Char) (rest : Bytes) :
    pieces (String.utf8EncodeChar character ++ rest) = some character :: pieces rest := by
  have valid : character.val.toNat < 0xD800 ∨
      0xDFFF < character.val.toNat ∧ character.val.toNat < 0x110000 := character.valid
  have same : Char.ofNat character.val.toNat = character := Char.ofNat_toNat character
  unfold String.utf8EncodeChar
  generalize character.val.toNat = number at valid same ⊢
  dsimp only
  split
  · have value := UInt8.toNat_ofNat_of_lt' (show number < 256 by omega)
    rw [List.singleton_append, pieces_of_ascii (by omega), value, same]
  split
  · have lead := UInt8.toNat_ofNat_of_lt' (show number / 64 % 32 + 192 < 256 by omega)
    have bits : (number / 64 % 32 + 192 - 192) * 64 + number % 64 = number := by omega
    simp only [List.cons_append, List.nil_append]
    rw [pieces_of_lead (.one (by omega) (by omega)), lead, continued_cons (by omega), continued,
      bits, same]
    all_goals simp only [UInt8.reduceToNat]; omega
  split
  · have lead := UInt8.toNat_ofNat_of_lt' (show number / 4096 % 16 + 224 < 256 by omega)
    have bits : ((number / 4096 % 16 + 224 - 224) * 64 + number / 64 % 64) * 64 + number % 64 =
        number := by omega
    simp only [List.cons_append, List.nil_append]
    rw [pieces_of_lead (.two (by omega) (by omega)), lead, continued_cons (by omega),
      continued_cons (by omega), continued, bits, same]
    all_goals simp only [apply_ite UInt8.toNat, UInt8.reduceToNat]
    all_goals first | omega | split <;> omega
  · have lead := UInt8.toNat_ofNat_of_lt' (show number / 262144 % 8 + 240 < 256 by omega)
    have bits : (((number / 262144 % 8 + 240 - 240) * 64 + number / 4096 % 64) * 64 +
        number / 64 % 64) * 64 + number % 64 = number := by omega
    simp only [List.cons_append, List.nil_append]
    rw [pieces_of_lead (.three (by omega) (by omega)), lead, continued_cons (by omega),
      continued_cons (by omega), continued_cons (by omega), continued, bits, same]
    all_goals simp only [apply_ite UInt8.toNat, UInt8.reduceToNat]
    all_goals first | omega | split <;> omega

theorem pieces_encodedAll (characters : List Char) :
    pieces (characters.flatMap String.utf8EncodeChar) = characters.map some := by
  induction characters with
  | nil => simp [pieces]
  | cons character rest ih =>
      rw [List.flatMap_cons, pieces_encoded, ih, List.map_cons]

theorem val_ofNat {number : Nat}
    (valid : number < 0xD800 ∨ 0xDFFF < number ∧ number < 0x110000) :
    (Char.ofNat number).val.toNat = number := by
  rw [Char.ofNat, dif_pos valid]
  rfl

theorem ofNat_of_toNat {number : Nat} (byte : UInt8) (same : number = byte.toNat) :
    UInt8.ofNat number = byte := by
  rw [same, UInt8.ofNat_toNat]

theorem bounds_of_ite {narrow tight : Prop} [Decidable narrow] [Decidable tight]
    {first second third fourth number : Nat} (lower : (if narrow then first else second) ≤ number)
    (upper : number ≤ if tight then third else fourth) :
    (narrow → first ≤ number) ∧ (¬narrow → second ≤ number) ∧
      (tight → number ≤ third) ∧ (¬tight → number ≤ fourth) := by
  refine ⟨?_, ?_, ?_, ?_⟩
  · intro isNarrow
    rwa [if_pos isNarrow] at lower
  · intro notNarrow
    rwa [if_neg notNarrow] at lower
  · intro isTight
    rwa [if_pos isTight] at upper
  · intro notTight
    rwa [if_neg notTight] at upper

/-- What an announced reading takes in is the rest of the form of a character. -/
theorem encoded_of_continued {byte : UInt8} {lead : Lead} {character : Char} {bytes rest : Bytes}
    (announces : Announces byte.toNat lead)
    (reads : continued lead.following lead.bits lead.low lead.high bytes =
      (some character, rest)) :
    byte :: bytes = String.utf8EncodeChar character ++ rest := by
  cases announces with
  | one low high =>
      rcases continued_succ_eq_iff.mp reads with ⟨second, _, rfl, lower, upper, reads⟩
      simp only [continued, Prod.mk.injEq, Option.some.injEq] at reads
      rcases reads with ⟨rfl, rfl⟩
      simp only [UInt8.reduceToNat] at lower upper
      rw [String.utf8EncodeChar, val_ofNat (by omega)]
      rw [if_neg (by omega), if_pos (by omega), ofNat_of_toNat byte (by omega),
        ofNat_of_toNat second (by omega)]
      rfl
  | two low high =>
      rcases continued_succ_eq_iff.mp reads with ⟨second, _, rfl, lower, upper, reads⟩
      rcases continued_succ_eq_iff.mp reads with ⟨third, _, rfl, lowerThird, upperThird, reads⟩
      simp only [continued, Prod.mk.injEq, Option.some.injEq] at reads
      rcases reads with ⟨rfl, rfl⟩
      simp only [apply_ite UInt8.toNat, UInt8.reduceToNat] at lower upper lowerThird upperThird
      have range := bounds_of_ite lower upper
      rw [String.utf8EncodeChar, val_ofNat (by omega)]
      rw [if_neg (by omega), if_neg (by omega), if_pos (by omega),
        ofNat_of_toNat byte (by omega), ofNat_of_toNat second (by omega),
        ofNat_of_toNat third (by omega)]
      rfl
  | three low high =>
      rcases continued_succ_eq_iff.mp reads with ⟨second, _, rfl, lower, upper, reads⟩
      rcases continued_succ_eq_iff.mp reads with ⟨third, _, rfl, lowerThird, upperThird, reads⟩
      rcases continued_succ_eq_iff.mp reads with ⟨fourth, _, rfl, lowerFourth, upperFourth, reads⟩
      simp only [continued, Prod.mk.injEq, Option.some.injEq] at reads
      rcases reads with ⟨rfl, rfl⟩
      simp only [apply_ite UInt8.toNat, UInt8.reduceToNat] at lower upper lowerThird upperThird
      simp only [UInt8.reduceToNat] at lowerFourth upperFourth
      have range := bounds_of_ite lower upper
      rw [String.utf8EncodeChar, val_ofNat (by omega)]
      rw [if_neg (by omega), if_neg (by omega), if_neg (by omega),
        ofNat_of_toNat byte (by omega), ofNat_of_toNat second (by omega),
        ofNat_of_toNat third (by omega), ofNat_of_toNat fourth (by omega)]
      rfl

/-- What begins with the form of no character does not have a character as its first piece. -/
theorem encoded_of_pieces_cons {bytes : Bytes} {character : Char} {others : List (Option Char)}
    (cut : pieces bytes = some character :: others) :
    ∃ rest, bytes = String.utf8EncodeChar character ++ rest ∧ pieces rest = others := by
  rcases bytes with _ | ⟨byte, bytes⟩
  · simp [pieces] at cut
  by_cases ascii : byte.toNat < 0x80
  · rw [pieces_of_ascii ascii] at cut
    cases cut
    refine ⟨bytes, ?_, rfl⟩
    rw [String.utf8EncodeChar, val_ofNat (by omega)]
    rw [if_pos (by omega), UInt8.ofNat_toNat, List.singleton_append]
  · rcases announced : lead? byte with _ | lead
    · rw [pieces, if_neg (by rwa [UInt8.lt_iff_toNat_lt]), announced] at cut
      cases cut
    · have announces := lead?_eq_some_iff.mp announced
      rw [pieces_of_lead announces, List.cons.injEq] at cut
      exact ⟨_, encoded_of_continued announces (Prod.ext cut.1 rfl), cut.2⟩

theorem encodedAll_of_pieces {bytes : Bytes} {characters : List Char}
    (cut : pieces bytes = characters.map some) :
    bytes = characters.flatMap String.utf8EncodeChar := by
  induction characters generalizing bytes with
  | nil =>
      rcases bytes with _ | ⟨byte, bytes⟩
      · rfl
      · rw [pieces] at cut
        split at cut
        · cases cut
        · split at cut <;> cases cut
  | cons character characters ih =>
      rcases encoded_of_pieces_cons cut with ⟨rest, rfl, others⟩
      rw [List.flatMap_cons, ih others]

theorem mapM_id_eq_some_iff {Value : Type} {values : List (Option Value)} {all : List Value} :
    values.mapM id = some all ↔ values = all.map some := by
  induction values generalizing all with
  | nil => cases all <;> simp
  | cons value values ih =>
      rw [List.mapM_cons]
      cases value <;> cases all <;> simp [Option.bind_eq_some_iff, ih, and_comm]

/-- A text is read from its form and from nothing else. -/
theorem text?_eq_some_iff {bytes : Bytes} {text : String} :
    text? bytes = some text ↔ bytes = Bytes.ofText text := by
  rw [text?, Option.map_eq_some_iff]
  constructor
  · rintro ⟨characters, cut, rfl⟩
    rw [Bytes.ofText_ofList]
    exact encodedAll_of_pieces (mapM_id_eq_some_iff.mp cut)
  · rintro rfl
    refine ⟨text.toList, ?_, String.ofList_toList⟩
    exact mapM_id_eq_some_iff.mpr (pieces_encodedAll text.toList)

theorem lossyText_ofText (text : String) : lossyText (Bytes.ofText text) = text := by
  rw [lossyText, Bytes.ofText, pieces_encodedAll, List.map_map]
  simp [Function.comp_def]

end Utf8

end SlotClient
