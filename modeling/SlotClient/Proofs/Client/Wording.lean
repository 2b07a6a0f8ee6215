import SlotClient.Proofs.Client.Hosts
import SlotClient.Proofs.Client.Tries
import SlotClient.Proofs.Command.Results

/-!
# The wording of redirects

A message states a redirect if it is a text of three words: the kind of redirect, the number of a
slot, and an address with a colon. Which words a text has is said apart from how it is cut up. Every
other error is no redirect, so it ends the execution of a command and is the failure of it.
-/

namespace SlotClient

open Wire (Value)

namespace Redirect

/-- The characters of a word: at least one, and no blank. -/
structure IsWord (word : List Char) : Prop where
  nonempty : word ≠ []
  unbroken : ∀ character ∈ word, isBlank character = false

/-- The words of a text: between two of them there is at least one blank, and there may be more
blanks before, between and behind them. -/
inductive Spaced : List Char → List (List Char) → Prop
  | nothing : Spaced [] []
  | blank {character : Char} {text : List Char} {words : List (List Char)}
      (isBlank : isBlank character = true) (rest : Spaced text words) :
      Spaced (character :: text) words
  | last {word : List Char} (isWord : IsWord word) : Spaced word [word]
  | word {word : List Char} {character : Char} {text : List Char} {words : List (List Char)}
      (isWord : IsWord word) (isBlank : isBlank character = true) (rest : Spaced text words) :
      Spaced (word ++ character :: text) (word :: words)

theorem wordsFrom_append {word : List Char}
    (unbroken : ∀ character ∈ word, isBlank character = false) (begun rest : List Char) :
    wordsFrom begun (word ++ rest) = wordsFrom (word.reverse ++ begun) rest := by
  induction word generalizing begun with
  | nil => rfl
  | cons character word ih =>
      rw [List.forall_mem_cons] at unbroken
      rw [List.cons_append, wordsFrom, if_neg (by simp [unbroken.1]), ih unbroken.2]
      simp

theorem IsWord.wordsFrom_nil {word : List Char} (isWord : IsWord word) :
    wordsFrom [] word = [word] := by
  have cut := wordsFrom_append isWord.unbroken [] []
  rw [List.append_nil, List.append_nil] at cut
  rw [cut, wordsFrom]
  simp [isWord.nonempty]

theorem IsWord.wordsFrom_append_blank {word : List Char} (isWord : IsWord word) {character : Char}
    (blank : isBlank character = true) (rest : List Char) :
    wordsFrom [] (word ++ character :: rest) = word :: wordsFrom [] rest := by
  rw [wordsFrom_append isWord.unbroken, List.append_nil, wordsFrom, blank]
  simp [isWord.nonempty]

/-- A text is spaced into what stands between its blanks, the word that has begun before it
included. -/
theorem spaced_wordsFrom (begun text : List Char)
    (unbroken : ∀ character ∈ begun, isBlank character = false) :
    Spaced (begun.reverse ++ text) (wordsFrom begun text) := by
  induction text generalizing begun with
  | nil =>
      rw [wordsFrom, List.append_nil]
      by_cases nothing : begun = []
      · simpa [nothing] using Spaced.nothing
      · rw [if_neg (by simpa using nothing)]
        exact .last ⟨by simpa using nothing, by simpa using unbroken⟩
  | cons character text ih =>
      have next := ih [] (List.forall_mem_nil _)
      rw [wordsFrom]
      by_cases blank : isBlank character = true
      · by_cases nothing : begun = []
        · simpa [blank, nothing] using Spaced.blank blank next
        · rw [if_pos blank, if_neg (by simpa using nothing)]
          exact .word ⟨by simpa using nothing, by simpa using unbroken⟩ blank next
      · rw [if_neg blank]
        have longer := ih (character :: begun)
          (List.forall_mem_cons.mpr ⟨by simpa using blank, unbroken⟩)
        simpa using longer

theorem wordsFrom_eq_iff {text : List Char} {words : List (List Char)} :
    wordsFrom [] text = words ↔ Spaced text words := by
  constructor
  · rintro rfl
    exact spaced_wordsFrom [] text (List.forall_mem_nil _)
  · intro spaced
    induction spaced with
    | nothing => rfl
    | blank isBlank rest ih =>
        rw [wordsFrom, if_pos isBlank]
        exact ih
    | last isWord => exact isWord.wordsFrom_nil
    | word isWord isBlank rest ih => rw [isWord.wordsFrom_append_blank isBlank, ih]

theorem words_eq_iff {text : String} {all : List String} :
    words text = all ↔ Spaced text.toList (all.map String.toList) := by
  rw [← wordsFrom_eq_iff, words]
  constructor
  · rintro rfl
    rw [List.map_map]
    simp [Function.comp_def]
  · intro cut
    rw [cut, List.map_map]
    simp [Function.comp_def]

/-- The word for the kind of a redirect. -/
def kind : Redirect → String
  | moved _ _ => "MOVED"
  | ask _ _ => "ASK"

/-- The slot that a redirect names. -/
def slot : Redirect → Slot
  | moved slot _ | ask slot _ => slot

/-- How a redirect is worded: its kind, the number of its slot, with a plus and zeros in front or
without, and its address, which has a colon. -/
def IsWordedAs (redirect : Redirect) (message : Bytes) : Prop :=
  ∃ text number : String, message = Bytes.ofText text ∧
    Spaced text.toList [redirect.kind.toList, number.toList, redirect.address.toList] ∧
    Decimal.DenotesNatural (Bytes.ofText number) redirect.slot.toNat ∧
    ':' ∈ redirect.address.toList

theorem ofKind?_eq_some_iff {redirect : Redirect} {word address : String} {slot : Slot} :
    ofKind? word slot address = some redirect ↔
      redirect.kind = word ∧ redirect.slot = slot ∧ redirect.address = address := by
  constructor
  · intro accepted
    unfold ofKind? at accepted
    split at accepted
    · rename_i isMoved
      cases accepted
      exact ⟨isMoved.symm, rfl, rfl⟩
    · split at accepted
      · rename_i isAsk
        cases accepted
        exact ⟨isAsk.symm, rfl, rfl⟩
      · contradiction
  · rintro ⟨rfl, rfl, rfl⟩
    cases redirect <;> rfl

/-- A redirect is read from exactly the messages that are worded as it. -/
theorem ofMessage?_eq_some_iff {message : Bytes} {redirect : Redirect} :
    ofMessage? message = some redirect ↔ redirect.IsWordedAs message := by
  unfold ofMessage?
  rw [Option.bind_eq_bind, Option.bind_eq_some_iff]
  constructor
  · rintro ⟨text, read, accepted⟩
    split at accepted
    · rename_i kind number address cut
      rw [Option.bind_eq_bind, Option.bind_eq_some_iff] at accepted
      rcases accepted with ⟨value, denotes, accepted⟩
      split at accepted
      · rename_i colon
        rcases ofKind?_eq_some_iff.mp accepted with ⟨rfl, slot, rfl⟩
        rcases Decimal.bounded?_eq_some_iff.mp denotes with ⟨denotes, within⟩
        have same : redirect.slot.toNat = value := by
          rw [slot, UInt16.toNat_ofNat']
          omega
        refine ⟨text, number, Utf8.text?_eq_some_iff.mp read, words_eq_iff.mp cut, ?_, ?_⟩
        · rwa [same]
        · simpa using colon
      · contradiction
    · contradiction
  · rintro ⟨text, number, written, spaced, denotes, colon⟩
    have within : redirect.slot.toNat ≤ 65535 := by
      have small := redirect.slot.toNat_lt
      omega
    refine ⟨text, Utf8.text?_eq_some_iff.mpr written, ?_⟩
    have cut : words text = [redirect.kind, number, redirect.address] := words_eq_iff.mpr spaced
    simp only [cut, Option.bind_eq_bind, Option.bind_eq_some_iff]
    refine ⟨_, Decimal.bounded?_eq_some_iff.mpr ⟨denotes, within⟩, ?_⟩
    rw [if_pos (by simpa using colon), ofKind?_eq_some_iff, UInt16.ofNat_toNat]
    exact ⟨rfl, rfl, rfl⟩

/-- The plainest message that is worded as a redirect. -/
def written (redirect : Redirect) : Bytes :=
  Bytes.ofText (redirect.kind ++ " " ++ toString redirect.slot.toNat ++ " " ++ redirect.address)

theorem unbroken_of_all {word : List Char}
    (unbroken : (word.all fun character => !isBlank character) = true) :
    ∀ character ∈ word, isBlank character = false := by
  simpa using unbroken

theorem isWord_kind (redirect : Redirect) : IsWord redirect.kind.toList := by
  have moved : IsWord "MOVED".toList := ⟨by decide, unbroken_of_all (by decide)⟩
  have ask : IsWord "ASK".toList := ⟨by decide, unbroken_of_all (by decide)⟩
  cases redirect with
  | moved _ _ => exact moved
  | ask _ _ => exact ask

theorem isWord_toString (number : Nat) : IsWord (toString number).toList := by
  rw [Nat.toString_eq_ofList_toDigits, String.toList_ofList]
  refine ⟨Nat.toDigits_ne_nil, ?_⟩
  intro character member
  have digit := Nat.isDigit_of_mem_toDigits (by decide) (by decide) member
  by_contra blank
  simp only [isBlank, Bool.or_eq_false_iff, decide_eq_false_iff_not, not_and_or,
    Decidable.not_not] at blank
  rcases blank with (((rfl | rfl) | rfl) | rfl) | rfl <;> contradiction

/-- A redirect to any address with a colon and without a blank can be written and is read back. -/
theorem isWordedAs_written {redirect : Redirect} (colon : ':' ∈ redirect.address.toList)
    (unbroken : ∀ character ∈ redirect.address.toList, isBlank character = false) :
    redirect.IsWordedAs redirect.written := by
  refine ⟨_, toString redirect.slot.toNat, rfl, ?_, ?_, colon⟩
  · have isAddress : IsWord redirect.address.toList := ⟨List.ne_nil_of_mem colon, unbroken⟩
    have spaced := Spaced.word redirect.isWord_kind (show isBlank ' ' = true from rfl)
      (.word (isWord_toString redirect.slot.toNat) (show isBlank ' ' = true from rfl)
        (.last isAddress))
    simpa using spaced
  · rw [Decimal.ofText_toString]
    have plain := Decimal.DenotesNatural.plain (Decimal.digits_ne_nil redirect.slot.toNat)
      fun _ member => Decimal.isDigit_of_mem_digits member
    rwa [Decimal.ofDigits_digits] at plain

end Redirect

namespace Cluster

variable {configuration : ClusterConfiguration} {route : Route} {arguments : List Bytes}
  {limit : Nat} {target : String} {asking : Bool} {world final : World} {visits : List Visit}
  {outcome : Except Failure Value}

/-- The message of a reply that is an error. -/
def errorMessage? : Except Failure Value → Option Bytes
  | .ok (.error message) => some message
  | _ => none

theorem errorMessage?_eq_some_iff {reply : Except Failure Value} {message : Bytes} :
    errorMessage? reply = some message ↔ reply = .ok (.error message) := by
  constructor
  · intro isError
    unfold errorMessage? at isError
    split at isError
    · cases isError
      rfl
    · contradiction
  · rintro rfl
    rfl

theorem redirect?_eq_bind (reply : Except Failure Value) :
    redirect? reply = (errorMessage? reply).bind Redirect.ofMessage? := by
  cases reply with
  | error failure => rfl
  | ok value => cases value <;> rfl

/-- A reply that is no redirect ends an itinerary. -/
theorem IsItinerary.ends_of_answered {earlier later : List Visit} {visit : Visit}
    (itinerary : IsItinerary configuration route arguments limit target asking world
      (earlier ++ visit :: later) outcome final)
    (answered : redirect? visit.reply = none) : later = [] ∧ outcome = visit.reply := by
  have isLast : later = [] := by
    rcases later with _ | ⟨next, later⟩
    · rfl
    · have continues := List.isChain_append.mp itinerary.continues
      rcases (List.isChain_cons_cons.mp continues.2.1).1 with ⟨redirect, stated, _⟩
      rw [answered] at stated
      contradiction
  subst isLast
  refine ⟨rfl, ?_⟩
  rcases itinerary.stops with ⟨_, redirected, _⟩ | ⟨_, last, isLast, _, same⟩
  · have impossible := redirected visit (List.mem_append_right _ List.mem_cons_self)
    rw [answered] at impossible
    contradiction
  · rw [List.getLast?_concat] at isLast
    cases isLast
    exact same

/-- Redirects are told from all other errors. A message is taken for a redirect exactly if it is
worded as it, so a redirect that is written plainly is read back. Whatever a client has done before,
if a node answers a command with an error that is not worded as a redirect, then the command is sent
nowhere else, and the client reports just this error. -/
theorem redirects_are_told_from_errors :
    (∀ (message : Bytes) (redirect : Redirect),
      Redirect.ofMessage? message = some redirect ↔ redirect.IsWordedAs message) ∧
    (∀ redirect : Redirect, ':' ∈ redirect.address.toList →
      (∀ character ∈ redirect.address.toList, Redirect.isBlank character = false) →
      Redirect.ofMessage? redirect.written = some redirect) ∧
    ∀ {cluster : Cluster} {world : World}, cluster.IsReachable world →
      ∀ (command : Command) (route : Route) (arguments : List Bytes),
        command.dispatch (Executor.policy cluster) = .ok (route, arguments) →
      let limit := cluster.configuration.maxRedirects.toNat + 1
      let noted := command.noted route world
      let ran := (cluster.execute route arguments).run noted
      ∃ visits, IsItinerary cluster.configuration route arguments limit (cluster.firstTarget route)
          false noted visits ran.1.1 ran.2 ∧
        ∀ (earlier : List Visit) (visit : Visit) (later : List Visit) (message : Bytes),
          visits = earlier ++ visit :: later → visit.reply = .ok (.error message) →
          (∀ redirect : Redirect, ¬redirect.IsWordedAs message) →
          later = [] ∧ ((command.run cluster).run world).1.1 = .error (.server message) := by
  refine ⟨fun _ _ => Redirect.ofMessage?_eq_some_iff, ?_, ?_⟩
  · intro redirect colon unbroken
    exact Redirect.ofMessage?_eq_some_iff.mpr (Redirect.isWordedAs_written colon unbroken)
  · intro cluster world reachable command route arguments dispatched limit noted ran
    have followed : (follow route arguments limit (cluster.firstTarget route) false cluster).run
        noted = ((ran.1.1, ran.1.2), ran.2) := rfl
    have sound := (reachable.commandNoted command route).isSound
    rcases (itinerary_of_follow sound followed).1 with ⟨visits, itinerary⟩
    refine ⟨visits, itinerary, ?_⟩
    rintro earlier visit later message rfl replied unworded
    have answered : redirect? visit.reply = none := by
      rw [redirect?_eq_bind, errorMessage?_eq_some_iff.mpr replied, Option.bind_some,
        Option.eq_none_iff_forall_ne_some]
      intro redirect accepted
      exact unworded redirect (Redirect.ofMessage?_eq_some_iff.mp accepted)
    rcases itinerary.ends_of_answered answered with ⟨isLast, same⟩
    refine ⟨isLast, ?_⟩
    rw [Command.run_of_reply dispatched (same.trans replied)]
    exact command.resultKind.decode_error message

/-- A redirect in an unusual form, a plain one, and an error with one word too many. -/
theorem redirects_are_told_from_errors_four_words :
    Redirect.ofMessage? (Bytes.ofText "\tMOVED +007 ::1:6\n") = some (.moved 7 "::1:6") ∧
    Redirect.ofMessage? (Redirect.ask 65535 "a:b").written = some (.ask 65535 "a:b") ∧
    ∃ (cluster : Cluster) (world : World), cluster.IsReachable world ∧
      (((Command.get [102]).run cluster).run world).1.1 =
        .error (.server (Bytes.ofText "ASK 1 :6 x")) := by
  have unworded : ∀ redirect : Redirect, ¬redirect.IsWordedAs (Bytes.ofText "ASK 1 :6 x") := by
    intro redirect worded
    have read := (redirects_are_told_from_errors.1 _ _).mpr worded
    have unread : Redirect.ofMessage? (Bytes.ofText "ASK 1 :6 x") = none := by decide +kernel
    rw [unread] at read
    contradiction
  refine ⟨?_, ?_, ?_⟩
  · apply (redirects_are_told_from_errors.1 _ _).mpr
    refine ⟨_, "+007", rfl, Redirect.wordsFrom_eq_iff.mp (by decide), ?_, by decide⟩
    exact Decimal.DenotesNatural.signed (by decide) (by decide +kernel)
  · exact redirects_are_told_from_errors.2.1 _ (by decide) (Redirect.unbroken_of_all (by decide))
  · have created : create { nodes := ["1.2.3.4:5"] } =
        .ok ⟨{ nodes := ["1.2.3.4:5"] }, none, [], {}, List.cons_ne_nil _ _⟩ := rfl
    have reachable : IsReachable
        ⟨{ nodes := ["1.2.3.4:5"] }, none, [], {}, List.cons_ne_nil _ _⟩
        { nodes := [("1.2.3.4:5",
          ⟨[], [.data (Bytes.ofText "-ASK 1 :6 x\r\n") none], 0⟩)] } :=
      .created { nodes := _ } created
    have dispatched : (Command.get [102]).dispatch .bySlot =
        .ok (.slot 3168, [Bytes.ofText "GET", [102]]) := by decide +kernel
    rcases redirects_are_told_from_errors.2.2 reachable _ _ _ dispatched with
      ⟨visits, itinerary, errors⟩
    rcases itinerary.stops with ⟨_, _, impossible⟩ | ⟨_, last, isLast, _, same⟩
    · have refused : errorMessage? (.error (.tooManyRedirects (reportedSlot (.slot 3168)))) =
          some (Bytes.ofText "ASK 1 :6 x") := by
        rw [← impossible]
        decide +kernel
      cases refused
    · rcases List.getLast?_eq_some_iff.mp isLast with ⟨earlier, rfl⟩
      have refused : errorMessage? last.reply = some (Bytes.ofText "ASK 1 :6 x") := by
        rw [← same]
        decide +kernel
      exact ⟨_, _, reachable,
        (errors earlier last [] _ rfl (errorMessage?_eq_some_iff.mp refused) unworded).2⟩

end Cluster

end SlotClient
