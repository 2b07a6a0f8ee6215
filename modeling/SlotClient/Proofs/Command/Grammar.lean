import Mathlib.Computability.Language
import SlotClient.Command.Lcs
import SlotClient.Command.Options
import SlotClient.Proofs.Decimal.Digits

/-!
# The grammar of options

The words that follow the keys and values of a command stand in places, one after the other. In a
place there is nothing, or one of the clauses that may stand there: a keyword, alone or with an
operand behind it. A reader goes through the words from left to right. It takes a clause where it
meets the keyword, and the operand whatever it is, even if that spells a keyword as well.

A place that is empty is told from one that is filled by the next word alone. That works because no
keyword may stand in two places of one command, so that readers can be put one after the other. What
is read back from the words of options is then what they were rendered from.
-/

namespace SlotClient

/-- What may stand in a place: a keyword, alone, with a number behind it or with any bytes. -/
inductive Clause (Choice : Type) where
  | alone (keyword : String) (choice : Choice)
  | counted (keyword : String) (make : UInt64 → Choice)
  | carrying (keyword : String) (make : Bytes → Choice)

/-- A text is the number of sixty-four bits in decimal digits. -/
def Decimal.Counts (text : Bytes) (count : UInt64) : Prop :=
  text ≠ [] ∧ (∀ byte ∈ text, isDigit byte = true) ∧ ofDigits text = count.toNat

namespace Clause

variable {Choice : Type}

def keyword : Clause Choice → Bytes
  | alone keyword _ | counted keyword _ | carrying keyword _ => Bytes.ofText keyword

/-- The words of a clause by which a choice is stated. -/
inductive States : Clause Choice → Choice → List Bytes → Prop
  | alone (keyword : String) (choice : Choice) :
      States (.alone keyword choice) choice [Bytes.ofText keyword]
  | counted (keyword : String) (make : UInt64 → Choice) {text : Bytes} {count : UInt64}
      (counts : Decimal.Counts text count) :
      States (.counted keyword make) (make count) [Bytes.ofText keyword, text]
  | carrying (keyword : String) (make : Bytes → Choice) (operand : Bytes) :
      States (.carrying keyword make) (make operand) [Bytes.ofText keyword, operand]

/-- What stands in a place, if anything does, and the words of it. -/
inductive Fills (clauses : List (Clause Choice)) : Option Choice → List Bytes → Prop
  | nothing : Fills clauses none []
  | clause {clause : Clause Choice} {choice : Choice} {words : List Bytes}
      (member : clause ∈ clauses) (states : clause.States choice words) :
      Fills clauses (some choice) words

/-- The words that may stand in a place. -/
def place (clauses : List (Clause Choice)) : Language Bytes :=
  {words | ∃ found, Fills clauses found words}

/-- Where something may be given, the words for it fill the place, and no words if there is
nothing. -/
theorem fills_ofOption {clauses : List (Clause Choice)} {words : Choice → List Bytes}
    {found : Option Choice}
    (stated : ∀ choice ∈ found, ∃ clause ∈ clauses, clause.States choice (words choice)) :
    Fills clauses found ((found.map words).getD []) := by
  cases found with
  | none => exact .nothing
  | some choice =>
      rcases stated choice rfl with ⟨clause, member, states⟩
      exact .clause member states

/-- The clause of something that is either asked for or not. -/
def flag (keyword : String) : List (Clause Unit) := [.alone keyword ()]

theorem fills_flag (keyword : String) (given : Bool) :
    Fills (flag keyword) (if given then some () else none)
      (if given then [Bytes.ofText keyword] else []) := by
  cases given with
  | false => exact .nothing
  | true => exact .clause (List.mem_singleton_self _) (.alone keyword ())

end Clause

theorem Decimal.counts_digits (count : UInt64) : Counts (digits count.toNat) count :=
  ⟨digits_ne_nil _, fun _ member => isDigit_of_mem_digits member, ofDigits_digits _⟩

/-! ## Readers -/

/-- A reader takes words from the front and leaves the others. -/
abbrev Reader (Result : Type) := List Bytes → Option (Result × List Bytes)

namespace Reader

def count? (word : Bytes) : Option UInt64 :=
  (Decimal.natural? word).bind fun number =>
    if number ≤ Decimal.mostUInt64 then some (UInt64.ofNat number) else none

variable {Choice First Second : Type}

/-- Takes the operand of a clause of which the keyword has been taken. -/
def operand : Clause Choice → Reader Choice
  | .alone _ choice, words => some (choice, words)
  | .counted _ make, word :: words => (count? word).map fun count => (make count, words)
  | .carrying _ make, word :: words => some (make word, words)
  | .counted _ _, [] | .carrying _ _, [] => none

/-- Takes the clause whose keyword comes first, if there is such a clause. -/
def place (clauses : List (Clause Choice)) : Reader (Option Choice)
  | [] => some (none, [])
  | word :: words =>
    match clauses.find? fun clause => clause.keyword = word with
    | none => some (none, word :: words)
    | some clause => (operand clause words).map fun (choice, rest) => (some choice, rest)

/-- One reader after the other. -/
def followedBy (first : Reader First) (second : Reader Second) : Reader (First × Second) :=
  fun words => do
    let (firstResult, words) ← first words
    let (secondResult, words) ← second words
    return ((firstResult, secondResult), words)

/-- Takes a word that must be there. -/
def word (keyword : String) : Reader Unit
  | [] => none
  | word :: words => if word = Bytes.ofText keyword then some ((), words) else none

/-- What a reader makes of words of which it leaves none. -/
def whole? (read : Reader First) (words : List Bytes) : Option First :=
  match read words with
  | some (result, []) => some result
  | _ => none

/-- What two parts state, one after the other. -/
def InTurn (firstStates : First → List Bytes → Prop) (secondStates : Second → List Bytes → Prop)
    (result : First × Second) (words : List Bytes) : Prop :=
  ∃ front back, words = front ++ back ∧ firstStates result.1 front ∧ secondStates result.2 back

/-- A language is made of the words by which some result is stated. -/
def Spans (states : First → List Bytes → Prop) (language : Language Bytes) : Prop :=
  ∀ words, words ∈ language ↔ ∃ result, states result words

theorem spans_place (clauses : List (Clause Choice)) :
    Spans (Clause.Fills clauses) (Clause.place clauses) :=
  fun _ => Iff.rfl

theorem spans_word (word : Bytes) : Spans (fun (_ : Unit) words => words = [word]) {[word]} :=
  fun _ => ⟨fun same => ⟨(), same⟩, fun ⟨_, same⟩ => same⟩

theorem Spans.inTurn {firstStates : First → List Bytes → Prop}
    {secondStates : Second → List Bytes → Prop} {firstLanguage secondLanguage : Language Bytes}
    (firstSpans : Spans firstStates firstLanguage)
    (secondSpans : Spans secondStates secondLanguage) :
    Spans (InTurn firstStates secondStates) (firstLanguage * secondLanguage) := by
  intro words
  rw [Language.mem_mul]
  constructor
  · rintro ⟨front, inFront, back, inBack, rfl⟩
    rcases (firstSpans front).mp inFront with ⟨firstResult, firstStated⟩
    rcases (secondSpans back).mp inBack with ⟨secondResult, secondStated⟩
    exact ⟨(firstResult, secondResult), front, back, rfl, firstStated, secondStated⟩
  · rintro ⟨result, front, back, rfl, firstStated, secondStated⟩
    exact ⟨front, (firstSpans front).mpr ⟨_, firstStated⟩,
      back, (secondSpans back).mpr ⟨_, secondStated⟩, rfl⟩

/-- A reader takes just the words by which a result is stated. Each of these begins with one of the
keywords, or is empty, and is found if what follows does not begin with one. -/
structure Reads (read : Reader First) (states : First → List Bytes → Prop)
    (keywords : List Bytes) : Prop where
  begins : ∀ {result : First} {words : List Bytes}, states result words →
    ∀ word ∈ words.head?, word ∈ keywords
  takes : ∀ {result : First} {words rest : List Bytes}, states result words →
    (∀ word ∈ rest.head?, word ∉ keywords) → read (words ++ rest) = some (result, rest)
  taken : ∀ {result : First} {words rest : List Bytes}, read words = some (result, rest) →
    ∃ front, words = front ++ rest ∧ states result front

theorem count?_eq_some_iff {word : Bytes} {count : UInt64} :
    count? word = some count ↔ Decimal.Counts word count := by
  unfold count? Decimal.Counts
  rw [Option.bind_eq_some_iff]
  constructor
  · rintro ⟨number, read, accepted⟩
    rcases Decimal.natural?_eq_some_iff.mp read with ⟨nonempty, digital, value⟩
    split at accepted
    · rename_i fits
      refine ⟨nonempty, digital, ?_⟩
      cases accepted
      simp [value, UInt64.toNat_ofNat', Decimal.mostUInt64] at fits ⊢
      omega
    · contradiction
  · rintro ⟨nonempty, digital, value⟩
    refine ⟨count.toNat, Decimal.natural?_eq_some_iff.mpr ⟨nonempty, digital, value⟩, ?_⟩
    have fits := count.toNat_lt
    simp [Decimal.mostUInt64]
    omega

theorem operand_eq_some_iff {clause : Clause Choice} {choice : Choice} {words rest : List Bytes} :
    operand clause words = some (choice, rest) ↔
      ∃ operands, words = operands ++ rest ∧ clause.States choice (clause.keyword :: operands) := by
  constructor
  · intro read
    cases clause with
    | alone keyword choice =>
        cases read
        exact ⟨[], rfl, .alone keyword choice⟩
    | counted keyword make =>
        rcases words with _ | ⟨word, words⟩
        · contradiction
        · rcases Option.map_eq_some_iff.mp read with ⟨count, counted, same⟩
          cases same
          exact ⟨[word], rfl, .counted keyword make (count?_eq_some_iff.mp counted)⟩
    | carrying keyword make =>
        rcases words with _ | ⟨word, words⟩
        · contradiction
        · cases read
          exact ⟨[word], rfl, .carrying keyword make word⟩
  · rintro ⟨operands, rfl, states⟩
    cases states with
    | alone keyword choice => rfl
    | counted keyword make counts =>
        simp [operand, count?_eq_some_iff.mpr counts]
    | carrying keyword make word => rfl

theorem states_begins {clause : Clause Choice} {choice : Choice} {words : List Bytes}
    (states : clause.States choice words) :
    ∃ operands, words = clause.keyword :: operands := by
  cases states <;> exact ⟨_, rfl⟩

theorem find?_keyword {clauses : List (Clause Choice)}
    (distinct : (clauses.map Clause.keyword).Nodup) {clause : Clause Choice}
    (member : clause ∈ clauses) :
    clauses.find? (fun other => other.keyword = clause.keyword) = some clause := by
  induction clauses with
  | nil => contradiction
  | cons first others ih =>
      simp only [List.map_cons, List.nodup_cons] at distinct
      rcases List.mem_cons.mp member with rfl | later
      · simp
      · have different : first.keyword ≠ clause.keyword := by
          intro same
          exact distinct.1 (same ▸ List.mem_map_of_mem later)
        simp [different, ih distinct.2 later]

/-- What stands in a place is read by its keyword, if no two clauses have the same one. -/
theorem reads_place {clauses : List (Clause Choice)}
    (distinct : (clauses.map Clause.keyword).Nodup) :
    (place clauses).Reads (Clause.Fills clauses) (clauses.map Clause.keyword) where
  begins := by
    intro found words fills word first
    cases fills with
    | nothing => contradiction
    | clause member states =>
        rcases states_begins states with ⟨operands, rfl⟩
        cases first
        exact List.mem_map_of_mem member
  takes := by
    intro found words rest fills unrelated
    cases fills with
    | nothing =>
        rcases rest with _ | ⟨word, rest⟩
        · rfl
        · have unknown : clauses.find? (fun clause => clause.keyword = word) = none := by
            rw [List.find?_eq_none]
            intro clause member same
            apply unrelated word rfl
            exact of_decide_eq_true same ▸ List.mem_map_of_mem member
          simp [place, unknown]
    | @clause clause choice words member states =>
        rcases states_begins states with ⟨operands, rfl⟩
        have taken : operand clause (operands ++ rest) = some (choice, rest) :=
          operand_eq_some_iff.mpr ⟨operands, rfl, states⟩
        simp [place, find?_keyword distinct member, taken]
  taken := by
    intro found words rest read
    rcases words with _ | ⟨word, words⟩
    · cases read
      exact ⟨[], rfl, .nothing⟩
    · rcases isFirst : clauses.find? (fun clause => clause.keyword = word) with _ | clause
      · simp only [place, isFirst] at read
        cases read
        exact ⟨[], rfl, .nothing⟩
      · simp only [place, isFirst] at read
        have member := List.mem_of_find?_eq_some isFirst
        have same : clause.keyword = word := by simpa using List.find?_some isFirst
        rcases Option.map_eq_some_iff.mp read with ⟨⟨choice, left⟩, taken, result⟩
        cases result
        rcases operand_eq_some_iff.mp taken with ⟨operands, rfl, states⟩
        exact ⟨word :: operands, rfl, .clause member (same ▸ states)⟩

theorem reads_word (keyword : String) :
    (word keyword).Reads (fun (_ : Unit) words => words = [Bytes.ofText keyword])
      [Bytes.ofText keyword] where
  begins := by
    rintro _ _ rfl word isFirst
    cases isFirst
    exact List.mem_singleton_self _
  takes := by
    rintro _ _ rest rfl unrelated
    simp [word]
  taken := by
    intro _ words rest read
    rcases words with _ | ⟨first, words⟩
    · contradiction
    · rw [word] at read
      split at read
      · rename_i same
        cases read
        exact ⟨[first], rfl, same ▸ rfl⟩
      · contradiction

/-- Readers that share no keyword can be put one after the other. -/
theorem Reads.followedBy {first : Reader First} {second : Reader Second}
    {firstStates : First → List Bytes → Prop} {secondStates : Second → List Bytes → Prop}
    {keywords others : List Bytes} (firstReads : first.Reads firstStates keywords)
    (secondReads : second.Reads secondStates others) (distinct : (keywords ++ others).Nodup) :
    (first.followedBy second).Reads (InTurn firstStates secondStates) (keywords ++ others) where
  begins := by
    rintro result _ ⟨front, back, rfl, inFront, inBack⟩ word isFirst
    rcases front with _ | ⟨leading, front⟩
    · exact List.mem_append_right _ (secondReads.begins inBack word isFirst)
    · exact List.mem_append_left _ (firstReads.begins inFront word isFirst)
  takes := by
    rintro result _ rest ⟨front, back, rfl, inFront, inBack⟩ unrelated
    have afterBack : ∀ word ∈ rest.head?, word ∉ others := by
      intro word isNext member
      exact unrelated word isNext (List.mem_append_right _ member)
    have afterFront : ∀ word ∈ (back ++ rest).head?, word ∉ keywords := by
      intro word isNext member
      rcases back with _ | ⟨leading, back⟩
      · exact unrelated word isNext (List.mem_append_left _ member)
      · have disjoint := List.disjoint_of_nodup_append distinct
        exact disjoint member (secondReads.begins inBack word isNext)
    have firstTaken := firstReads.takes inFront afterFront
    have secondTaken := secondReads.takes inBack afterBack
    simp [Reader.followedBy, List.append_assoc, firstTaken, secondTaken]
  taken := by
    intro result words rest read
    rcases Option.bind_eq_some_iff.mp read with ⟨⟨firstResult, middle⟩, firstRead, read⟩
    rcases Option.bind_eq_some_iff.mp read with ⟨⟨secondResult, last⟩, secondRead, same⟩
    cases same
    rcases firstReads.taken firstRead with ⟨front, rfl, inFront⟩
    rcases secondReads.taken secondRead with ⟨back, rfl, inBack⟩
    exact ⟨front ++ back, (List.append_assoc _ _ _).symm, front, back, rfl, inFront, inBack⟩

/-- A reader makes of all words together just what they state. -/
theorem Reads.whole?_eq_some_iff {read : Reader First} {states : First → List Bytes → Prop}
    {keywords : List Bytes} (reads : read.Reads states keywords) {words : List Bytes}
    {result : First} : read.whole? words = some result ↔ states result words := by
  constructor
  · intro found
    unfold whole? at found
    split at found
    · rename_i taken
      cases found
      rcases reads.taken taken with ⟨front, rfl, stated⟩
      rwa [List.append_nil]
    · contradiction
  · intro stated
    have taken : read (words ++ []) = some (result, []) := by
      apply reads.takes stated
      intro word impossible
      contradiction
    rw [List.append_nil] at taken
    rw [whole?, taken]

end Reader

end SlotClient
