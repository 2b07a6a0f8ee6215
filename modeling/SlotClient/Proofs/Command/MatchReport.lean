import SlotClient.Proofs.Command.Decoding
import SlotClient.Proofs.Wire.Frame

/-!
# Reports of matches

A server answers with a report as a list of fields, each a name and a value. The fields may come in
any order and there may be others. What is made of them is told here by the fields alone: the length
is that of the last field for it, the matches are those of the last field for them, and all fields
of these two names must have values that are written so. A match is written in one way only, so that
a report is read just from the replies that list it.
-/

namespace SlotClient

open Wire (Value)

/-- The integers inside a value, from left to right. -/
def Wire.Value.integers (value : Value) : List Int64 :=
  value.parts.filterMap fun
    | .integer number => some number
    | _ => none

attribute [ext] Lcs.Report

namespace Lcs

def rangeReply (range : Range) : Value := .array [.integer range.1, .integer range.2]

/-- A match as a server writes it: its two ranges, and its length where that was asked for. -/
def Match.reply (found : Match) : Value :=
  .array ([rangeReply found.firstRange, rangeReply found.secondRange] ++
    found.length.toList.map .integer)

/-- The flat form of a match is made of the integers in its reply. -/
theorem Match.integers_reply (found : Match) : found.reply.integers = found.flat := by
  rcases found with ⟨firstRange, secondRange, _ | length⟩ <;> rfl

end Lcs

namespace Reply

/-- A reply that lists fields, each a name followed by a value. -/
def listing (fields : List (Value × Value)) : Value :=
  .array (fields.flatMap fun field => [field.1, field.2])

/-- The values of the fields that have a name, in order. -/
def named (name : String) (fields : List (Value × Value)) : List Value :=
  (fields.filter fun field => field.1.bytes? = some (Bytes.ofText name)).map Prod.snd

/-- All values are written forms, and the last of them is that of a result. If there are no values,
the result is as at the start. -/
def Leaves {Result : Type} (write : Result → Value) (start : Result) (values : List Value)
    (result : Result) : Prop :=
  ∃ results : List Result, values = results.map write ∧ result = results.getLast?.getD start

/-- The report that fields make of another one. -/
@[mk_iff]
structure Reports (start : Lcs.Report) (fields : List (Value × Value)) (report : Lcs.Report) :
    Prop where
  names : ∀ field ∈ fields, field.1.bytes?.isSome
  length : Leaves .integer start.length (named "len" fields) report.length
  found : Leaves (fun found => .array (found.map Lcs.Match.reply)) start.found
    (named "matches" fields) report.found

section Leaving

variable {Result : Type} {write : Result → Value} {start result : Result}

theorem leaves_nil : Leaves write start [] result ↔ result = start := by
  constructor
  · rintro ⟨results, nothing, rfl⟩
    rw [List.map_eq_nil_iff.mp nothing.symm]
    rfl
  · rintro rfl
    exact ⟨[], rfl, rfl⟩

theorem leaves_singleton {value : Value} :
    Leaves write start [value] result ↔ value = write result := by
  constructor
  · rintro ⟨results, written, rfl⟩
    rcases List.map_eq_singleton_iff.mp written.symm with ⟨only, rfl, same⟩
    exact same.symm
  · rintro rfl
    exact ⟨[result], rfl, rfl⟩

/-- The last of all values is that of the later ones, or else that of the earlier ones. -/
theorem leaves_append {front back : List Value} :
    Leaves write start (front ++ back) result ↔
      ∃ between, Leaves write start front between ∧ Leaves write between back result := by
  constructor
  · rintro ⟨results, written, rfl⟩
    rcases List.map_eq_append_iff.mp written.symm with ⟨earlier, later, rfl, rfl, rfl⟩
    refine ⟨_, ⟨earlier, rfl, rfl⟩, later, rfl, ?_⟩
    rw [List.getLast?_append]
    cases later.getLast? <;> rfl
  · rintro ⟨between, ⟨earlier, rfl, rfl⟩, later, rfl, rfl⟩
    refine ⟨earlier ++ later, List.map_append.symm, ?_⟩
    rw [List.getLast?_append]
    cases later.getLast? <;> rfl

end Leaving

theorem integer_eq_ok_iff {reply : Value} {number : Int64} :
    integer reply = .ok number ↔ reply = .integer number := by
  constructor
  · intro decoded
    cases reply <;> cases decoded
    rfl
  · rintro rfl
    rfl

theorem range_eq_ok_iff {reply : Value} {found : Lcs.Range} :
    range reply = .ok found ↔ reply = Lcs.rangeReply found := by
  constructor
  · intro decoded
    unfold range at decoded
    split at decoded
    · cases decoded
      rfl
    · contradiction
  · rintro rfl
    rfl

/-- A match is written in one way only. -/
theorem lcsMatch_eq_ok_iff {reply : Value} {found : Lcs.Match} :
    lcsMatch reply = .ok found ↔ reply = found.reply := by
  constructor
  · intro decoded
    unfold lcsMatch at decoded
    split at decoded
    · rename_i first second others
      rcases bind_eq_ok_iff.mp decoded with ⟨firstRange, firstRead, decoded⟩
      rcases bind_eq_ok_iff.mp decoded with ⟨secondRange, secondRead, decoded⟩
      rw [range_eq_ok_iff.mp firstRead, range_eq_ok_iff.mp secondRead]
      rcases others with _ | ⟨length, rest⟩
      · cases decoded
        rfl
      · rcases bind_eq_ok_iff.mp decoded with ⟨number, lengthRead, decoded⟩
        rw [integer_eq_ok_iff.mp lengthRead]
        cases rest with
        | nil =>
            cases decoded
            rfl
        | cons other rest => contradiction
    · contradiction
  · rintro rfl
    rcases found with ⟨firstRange, secondRange, _ | length⟩ <;> rfl

theorem mapM_lcsMatch_eq_ok_iff {items : List Value} {found : List Lcs.Match} :
    items.mapM lcsMatch = .ok found ↔ items = found.map Lcs.Match.reply := by
  rw [mapM_eq_ok_iff, ← List.forall₂_eq_eq_eq, List.forall₂_map_right_iff]
  simp only [lcsMatch_eq_ok_iff]

theorem lcsField_length_eq_ok_iff {start report : Lcs.Report} {value : Value} :
    lcsField start (Bytes.ofText "len") value = .ok report ↔
      ∃ length, value = .integer length ∧ { start with length } = report := by
  unfold lcsField
  simp [bind_eq_ok_iff, integer_eq_ok_iff, pure, Except.pure]

theorem lcsField_found_eq_ok_iff {start report : Lcs.Report} {value : Value} :
    lcsField start (Bytes.ofText "matches") value = .ok report ↔
      ∃ found : List Lcs.Match, value = .array (found.map Lcs.Match.reply) ∧
        { start with found } = report := by
  have other : Bytes.ofText "matches" ≠ Bytes.ofText "len" := by decide +kernel
  unfold lcsField
  cases value <;> simp [other, bind_eq_ok_iff, mapM_lcsMatch_eq_ok_iff, pure, Except.pure]

/-- A field of another name is passed over. -/
theorem lcsField_of_other {start : Lcs.Report} {name : Bytes} {value : Value}
    (notLength : name ≠ Bytes.ofText "len") (notFound : name ≠ Bytes.ofText "matches") :
    lcsField start name value = .ok start := by
  unfold lcsField
  rw [if_neg notLength, if_neg notFound]

theorem named_append (text : String) (front back : List (Value × Value)) :
    named text (front ++ back) = named text front ++ named text back := by
  rw [named, List.filter_append, List.map_append]
  rfl

theorem named_singleton {text : String} {name value : Value}
    (isNamed : name.bytes? = some (Bytes.ofText text)) : named text [(name, value)] = [value] := by
  simp [named, isNamed]

theorem named_singleton_of_other {text : String} {name value : Value}
    (isOther : name.bytes? ≠ some (Bytes.ofText text)) : named text [(name, value)] = [] := by
  simp [named, isOther]

theorem reports_nil {start report : Lcs.Report} : Reports start [] report ↔ report = start := by
  constructor
  · intro reports
    exact Lcs.Report.ext (leaves_nil.mp reports.length) (leaves_nil.mp reports.found)
  · rintro rfl
    exact ⟨List.forall_mem_nil _, leaves_nil.mpr rfl, leaves_nil.mpr rfl⟩

/-- What is left of all fields is what the later ones leave of what the earlier ones have left. -/
theorem reports_append {start report : Lcs.Report} {front back : List (Value × Value)} :
    Reports start (front ++ back) report ↔
      ∃ between, Reports start front between ∧ Reports between back report := by
  simp only [reports_iff, named_append, leaves_append, List.forall_mem_append]
  constructor
  · rintro ⟨⟨inFront, inBack⟩, ⟨length, lengths, lastLength⟩, found, founds, lastFound⟩
    exact ⟨⟨length, found⟩, ⟨inFront, lengths, founds⟩, inBack, lastLength, lastFound⟩
  · rintro ⟨between, ⟨inFront, lengths, founds⟩, inBack, lastLength, lastFound⟩
    exact ⟨⟨inFront, inBack⟩, ⟨_, lengths, lastLength⟩, _, founds, lastFound⟩

/-- A field is taken just as it is told by its name. -/
theorem reports_singleton {start report : Lcs.Report} {name value : Value} {text : Bytes}
    (isName : name.bytes? = some text) :
    Reports start [(name, value)] report ↔ lcsField start text value = .ok report := by
  have different : Bytes.ofText "len" ≠ Bytes.ofText "matches" := by decide +kernel
  have named : ∀ field ∈ [(name, value)], field.1.bytes?.isSome := by simp [isName]
  rw [reports_iff, and_iff_right named]
  by_cases isLength : text = Bytes.ofText "len"
  · subst isLength
    have isOther : name.bytes? ≠ some (Bytes.ofText "matches") := by simpa [isName]
    rw [named_singleton isName, named_singleton_of_other isOther, leaves_singleton, leaves_nil,
      lcsField_length_eq_ok_iff]
    constructor
    · rintro ⟨rfl, same⟩
      exact ⟨report.length, rfl, Lcs.Report.ext rfl same.symm⟩
    · rintro ⟨length, rfl, rfl⟩
      exact ⟨rfl, rfl⟩
  · by_cases isFound : text = Bytes.ofText "matches"
    · subst isFound
      have isOther : name.bytes? ≠ some (Bytes.ofText "len") := by
        simpa [isName] using different.symm
      rw [named_singleton isName, named_singleton_of_other isOther, leaves_singleton, leaves_nil,
        lcsField_found_eq_ok_iff]
      constructor
      · rintro ⟨same, rfl⟩
        exact ⟨report.found, rfl, Lcs.Report.ext same.symm rfl⟩
      · rintro ⟨found, rfl, rfl⟩
        exact ⟨rfl, rfl⟩
    · have noLength : name.bytes? ≠ some (Bytes.ofText "len") := by simpa [isName]
      have noMatches : name.bytes? ≠ some (Bytes.ofText "matches") := by simpa [isName]
      rw [named_singleton_of_other noLength, named_singleton_of_other noMatches, leaves_nil,
        leaves_nil, lcsField_of_other isLength isFound, ← Lcs.Report.ext_iff, Except.ok.injEq,
        eq_comm]

/-- Fields are read just if they are a list of names and values that makes the report. -/
theorem lcsFields_eq_ok_iff {start report : Lcs.Report} {items : List Value} :
    lcsFields start items = .ok report ↔
      ∃ fields, items = fields.flatMap (fun field => [field.1, field.2]) ∧
        Reports start fields report := by
  fun_induction lcsFields start items with
  | case1 start =>
      constructor
      · intro read
        cases read
        exact ⟨[], rfl, reports_nil.mpr rfl⟩
      · rintro ⟨_ | field, listed, reports⟩
        · rw [reports_nil.mp reports]
        · contradiction
  | case2 start name =>
      constructor
      · intro read
        contradiction
      · rintro ⟨_ | ⟨field, fields⟩, listed, reports⟩
        · contradiction
        · cases listed
  | case3 start name value rest text isName ih =>
      rw [bind_eq_ok_iff]
      simp only [ih]
      constructor
      · rintro ⟨between, taken, fields, rfl, reports⟩
        have first := (reports_singleton isName).mpr taken
        exact ⟨(name, value) :: fields, rfl, reports_append.mpr ⟨between, first, reports⟩⟩
      · rintro ⟨_ | ⟨field, fields⟩, listed, reports⟩
        · contradiction
        · cases listed
          rw [← List.singleton_append, reports_append] at reports
          rcases reports with ⟨between, first, rest⟩
          exact ⟨between, (reports_singleton isName).mp first, fields, rfl, rest⟩
  | case4 start name value rest unnamed =>
      constructor
      · intro read
        contradiction
      · rintro ⟨_ | ⟨field, fields⟩, listed, reports⟩
        · contradiction
        · cases listed
          have named := reports.names _ (List.mem_cons_self ..)
          rw [unnamed] at named
          contradiction

theorem length_flatMap_pair (fields : List (Value × Value)) :
    (fields.flatMap fun field => [field.1, field.2]).length = 2 * fields.length := by
  induction fields with
  | nil => rfl
  | cons field fields ih => simp [ih]; omega

/-- A report is read just from the replies that list fields which make it. -/
theorem lcsReport_eq_ok_iff {reply : Value} {report : Lcs.Report} :
    lcsReport reply = .ok report ↔ ∃ fields, reply = listing fields ∧ Reports {} fields report := by
  constructor
  · intro read
    cases reply with
    | array items =>
        change (if items.length % 2 = 1 then _ else _) = _ at read
        split at read
        · contradiction
        · rcases lcsFields_eq_ok_iff.mp read with ⟨fields, rfl, reports⟩
          exact ⟨fields, rfl, reports⟩
    | _ => contradiction
  · rintro ⟨fields, rfl, reports⟩
    have even : (fields.flatMap fun field => [field.1, field.2]).length % 2 ≠ 1 := by
      rw [length_flatMap_pair]
      omega
    have read := lcsFields_eq_ok_iff.mpr ⟨fields, rfl, reports⟩
    change (if _ then _ else _) = _
    rw [if_neg even]
    exact read

/-- The flat form of a report is that of the entries in the last field for matches. -/
theorem Reports.flat_eq {report : Lcs.Report} {fields : List (Value × Value)}
    (reports : Reports {} fields report) {entries : List Value}
    (last : (named "matches" fields).getLast? = some (.array entries)) :
    report.flat = entries.map Value.integers := by
  rcases reports.found with ⟨founds, written, same⟩
  rw [written, List.getLast?_map, Option.map_eq_some_iff] at last
  rcases last with ⟨found, isLast, listed⟩
  cases listed
  rw [isLast] at same
  cases report
  cases same
  simp [Lcs.Report.flat, Function.comp_def, Lcs.Match.integers_reply]

/-- Reports are read faithfully, whatever they report. If a reply lists fields whose names are
strings, with just one field for the length and just one for the matches, then the report is read
that has this length and these matches, in whatever order these two and any others come. Nothing
else is read: a reply from which a report is read lists fields whose names are strings, all fields
for the length are integers and all for the matches are lists of matches as they are written, each
two ranges of two integers and at most one more, and the report has what the last of these tell, or
nothing. Its flat form has the integers of each of these matches from left to right. -/
theorem reports_are_read_faithfully (report : Lcs.Report) :
    (∀ fields : List (Value × Value), (∀ field ∈ fields, field.1.bytes?.isSome) →
      named "len" fields = [.integer report.length] →
      named "matches" fields = [.array (report.found.map Lcs.Match.reply)] →
      lcsReport (listing fields) = .ok report) ∧
    (∀ reply, lcsReport reply = .ok report ↔
      ∃ fields, reply = listing fields ∧ Reports {} fields report) ∧
    (∀ fields entries, Reports {} fields report →
      (named "matches" fields).getLast? = some (.array entries) →
      report.flat = entries.map Value.integers) := by
  refine ⟨?_, fun reply => lcsReport_eq_ok_iff, fun _ _ reports => reports.flat_eq⟩
  intro fields names length found
  refine lcsReport_eq_ok_iff.mpr ⟨fields, rfl, names, ?_, ?_⟩
  · rw [length, leaves_singleton]
  · rw [found, leaves_singleton]

/-- The length comes first, before a field that is passed over, and one of two matches has its
length. -/
theorem reports_are_read_faithfully_skipping :
    let report : Lcs.Report := ⟨6, [⟨(4, 7), (5, 8), some 4⟩, ⟨(2, 3), (0, 1), none⟩]⟩
    let fields : List (Value × Value) := [(.simple (Bytes.ofText "len"), .integer 6),
      (.bulk (some (Bytes.ofText "more")), .null),
      (.bulk (some (Bytes.ofText "matches")), .array (report.found.map Lcs.Match.reply))]
    lcsReport (listing fields) = .ok report ∧ report.flat = [[4, 7, 5, 8, 4], [2, 3, 0, 1]] := by
  intro report fields
  have faithful := reports_are_read_faithfully report
  have names : ∀ field ∈ fields, field.1.bytes?.isSome := by simp [fields, Value.bytes?]
  have read : lcsReport (listing fields) = .ok report := faithful.1 fields names rfl rfl
  exact ⟨read, rfl⟩

end Reply

end SlotClient
