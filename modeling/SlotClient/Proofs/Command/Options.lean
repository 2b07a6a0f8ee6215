import SlotClient.Proofs.Command.Grammar

/-!
# Options of commands

What may follow `SET key value`, `GETEX key` and `LCS key key` has a grammar each, and a reader.
Options are rendered to words of these grammars and can be read back from them, so that no two
options of a command look alike to a server. The comparison of `IFEQ` can be any bytes, those of
the keywords that may come next among them. It is taken as a whole before they are looked for.
-/

namespace SlotClient

/-- Options are rendered without loss: all but those with a violation become words of the grammar,
and reading these from left to right gives the options back. Just the words of the grammar can be
read, and different options become different words. -/
structure IsLossless {Options : Type} (render : Options → Except Violation (List Bytes))
    (violation? : Options → Option Violation) (grammar : Language Bytes)
    (read? : List Bytes → Option Options) : Prop where
  refused : ∀ options violation, render options = .error violation ↔
    violation? options = some violation
  rendered : ∀ options, violation? options = none →
    ∃ words ∈ grammar, render options = .ok words ∧ read? words = some options
  accepted : ∀ words, words ∈ grammar ↔ ∃ options, read? words = some options
  distinct : ∀ first second words, render first = .ok words → render second = .ok words →
    first = second

/-- Options are rendered without loss if they are the results of a reader in another shape, and if
what they are rendered to states that result. -/
theorem Reader.Reads.isLossless {Options Result : Type}
    {render : Options → Except Violation (List Bytes)} {violation? : Options → Option Violation}
    {grammar : Language Bytes} {read : Reader Result} {states : Result → List Bytes → Prop}
    {keywords : List Bytes} {make : Result → Options} (reads : read.Reads states keywords)
    (spans : Reader.Spans states grammar) (shape : Options → Result)
    (shaped : ∀ options, make (shape options) = options)
    (refused : ∀ options violation, violation? options = some violation →
      render options = .error violation)
    (rendered : ∀ options, violation? options = none →
      ∃ words, render options = .ok words ∧ states (shape options) words) :
    IsLossless render violation? grammar fun words => (read.whole? words).map make := by
  have readBack (options : Options) (words : List Bytes) (given : render options = .ok words) :
      states (shape options) words ∧ (read.whole? words).map make = some options := by
    have flawless : violation? options = none := by
      rw [Option.eq_none_iff_forall_ne_some]
      intro violation violates
      rw [refused options violation violates] at given
      contradiction
    rcases rendered options flawless with ⟨others, same, stated⟩
    rw [given] at same
    cases same
    refine ⟨stated, ?_⟩
    rw [reads.whole?_eq_some_iff.mpr stated, Option.map_some, shaped]
  constructor
  · intro options violation
    constructor
    · intro failed
      cases violates : violation? options with
      | none =>
          rcases rendered options violates with ⟨words, given, -⟩
          rw [given] at failed
          contradiction
      | some other =>
          rw [refused options other violates] at failed
          cases failed
          rfl
    · exact refused options violation
  · intro options flawless
    rcases rendered options flawless with ⟨words, given, stated⟩
    exact ⟨words, (spans words).mpr ⟨_, stated⟩, given, (readBack options words given).2⟩
  · intro words
    rw [spans words]
    constructor
    · rintro ⟨result, stated⟩
      exact ⟨make result, by rw [reads.whole?_eq_some_iff.mpr stated, Option.map_some]⟩
    · rintro ⟨options, read⟩
      rcases Option.map_eq_some_iff.mp read with ⟨result, found, -⟩
      exact ⟨result, reads.whole?_eq_some_iff.mp found⟩
  · intro first second words fromFirst fromSecond
    have same := (readBack first words fromFirst).2.symm.trans (readBack second words fromSecond).2
    exact Option.some_inj.mp same

/-! ## The clauses -/

namespace WriteCondition

def clauses : List (Clause WriteCondition) :=
  [.alone "NX" ifMissing, .alone "XX" ifExists, .carrying "IFEQ" ifEquals]

theorem states_arguments (condition : WriteCondition) :
    ∃ clause ∈ clauses, clause.States condition condition.arguments := by
  cases condition with
  | ifExists => exact ⟨_, by simp [clauses], .alone "XX" ifExists⟩
  | ifMissing => exact ⟨_, by simp [clauses], .alone "NX" ifMissing⟩
  | ifEquals comparison => exact ⟨_, by simp [clauses], .carrying "IFEQ" ifEquals comparison⟩

end WriteCondition

namespace Expiry

/-- The clauses that say at what time a key is to expire. -/
def clauses : List (Clause Expiry) := [
  .counted "EX" seconds, .counted "PX" milliseconds,
  .counted "EXAT" unixSeconds, .counted "PXAT" unixMilliseconds]

def clausesOfWrite : List (Clause Expiry) := clauses ++ [.alone "KEEPTTL" keepTtl]

def clausesOfRead : List (Clause Expiry) := clauses ++ [.alone "PERSIST" persist]

/-- The clause that an expiry is an instance of. -/
def clause : Expiry → Clause Expiry
  | seconds _ => .counted "EX" seconds
  | milliseconds _ => .counted "PX" milliseconds
  | unixSeconds _ => .counted "EXAT" unixSeconds
  | unixMilliseconds _ => .counted "PXAT" unixMilliseconds
  | keepTtl => .alone "KEEPTTL" keepTtl
  | persist => .alone "PERSIST" persist

theorem states_arguments (expiry : Expiry) : expiry.clause.States expiry expiry.arguments := by
  cases expiry with
  | seconds count => exact .counted "EX" seconds (Decimal.counts_digits count)
  | milliseconds count => exact .counted "PX" milliseconds (Decimal.counts_digits count)
  | unixSeconds count => exact .counted "EXAT" unixSeconds (Decimal.counts_digits count)
  | unixMilliseconds count => exact .counted "PXAT" unixMilliseconds (Decimal.counts_digits count)
  | keepTtl => exact .alone "KEEPTTL" keepTtl
  | persist => exact .alone "PERSIST" persist

theorem fills {clauses : List (Clause Expiry)} {expiry : Option Expiry}
    (accepted : ∀ given ∈ expiry, given.clause ∈ clauses) :
    Clause.Fills clauses expiry ((expiry.map arguments).getD []) :=
  Clause.fills_ofOption fun given isGiven =>
    ⟨given.clause, accepted given isGiven, given.states_arguments⟩

theorem fills_ofWrite {expiry : Option Expiry} (accepted : expiry ≠ some persist) :
    ∃ words, WriteOptions.expiryArguments expiry = .ok words ∧
      Clause.Fills clausesOfWrite expiry words := by
  refine ⟨(expiry.map arguments).getD [], ?_, fills ?_⟩
  · rcases expiry with _ | expiry
    · rfl
    · cases expiry <;> first | rfl | contradiction
  · rintro given rfl
    cases given <;> first | contradiction | simp [clausesOfWrite, clauses, clause]

theorem fills_ofRead {expiry : Option Expiry} (accepted : expiry ≠ some keepTtl) :
    ∃ words, ReadOptions.arguments ⟨expiry⟩ = .ok words ∧
      Clause.Fills clausesOfRead expiry words := by
  refine ⟨(expiry.map arguments).getD [], ?_, fills ?_⟩
  · rcases expiry with _ | expiry
    · rfl
    · cases expiry <;> first | rfl | contradiction
  · rintro given rfl
    cases given <;> first | contradiction | simp [clausesOfRead, clauses, clause]

end Expiry

/-! ## The grammars -/

/-- The violation of giving an expiry that a command does not accept. -/
def Expiry.violation? (unaccepted : Expiry) (message : String) (expiry : Option Expiry) :
    Option Violation :=
  if expiry = some unaccepted then some (.invalidOption message) else none

theorem Expiry.violation?_eq_some_iff {unaccepted : Expiry} {message : String}
    {expiry : Option Expiry} {violation : Violation} :
    unaccepted.violation? message expiry = some violation ↔
      expiry = some unaccepted ∧ violation = .invalidOption message := by
  simp [violation?, eq_comm]

theorem Expiry.violation?_eq_none_iff {unaccepted : Expiry} {message : String}
    {expiry : Option Expiry} :
    unaccepted.violation? message expiry = none ↔ expiry ≠ some unaccepted := by
  simp [violation?]

namespace WriteOptions

/-- `[NX | XX | IFEQ comparison] [GET] [EX n | PX n | EXAT n | PXAT n | KEEPTTL]` -/
def grammar : Language Bytes :=
  Clause.place WriteCondition.clauses * Clause.place (Clause.flag "GET") *
    Clause.place Expiry.clausesOfWrite

def violation? (options : WriteOptions) : Option Violation :=
  Expiry.persist.violation? "PERSIST is not valid for SET" options.expiry

def reader : Reader ((Option WriteCondition × Option Unit) × Option Expiry) :=
  ((Reader.place WriteCondition.clauses).followedBy (Reader.place (Clause.flag "GET"))).followedBy
    (Reader.place Expiry.clausesOfWrite)

def read? (words : List Bytes) : Option WriteOptions :=
  (reader.whole? words).map fun ((condition, old), expiry) => ⟨condition, old.isSome, expiry⟩

theorem isLossless : IsLossless arguments violation? grammar read? := by
  have distinct : ((WriteCondition.clauses.map Clause.keyword ++
      (Clause.flag "GET").map Clause.keyword) ++
      Expiry.clausesOfWrite.map Clause.keyword).Nodup := by decide +kernel
  have front := distinct.of_append_left
  have reads := ((Reader.reads_place front.of_append_left).followedBy
    (Reader.reads_place front.of_append_right) front).followedBy
    (Reader.reads_place distinct.of_append_right) distinct
  have spans := ((Reader.spans_place WriteCondition.clauses).inTurn
    (Reader.spans_place (Clause.flag "GET"))).inTurn (Reader.spans_place Expiry.clausesOfWrite)
  refine reads.isLossless spans (fun options => ((options.condition,
    if options.returnOldValue then some () else none), options.expiry)) ?shaped ?refused ?rendered
  case shaped =>
    rintro ⟨condition, returnOldValue, expiry⟩
    cases returnOldValue <;> rfl
  case refused =>
    rintro ⟨condition, returnOldValue, expiry⟩ violation violates
    rcases Expiry.violation?_eq_some_iff.mp violates with ⟨rfl, rfl⟩
    rfl
  case rendered =>
    rintro ⟨condition, returnOldValue, expiry⟩ flawless
    rcases Expiry.fills_ofWrite (Expiry.violation?_eq_none_iff.mp flawless) with
      ⟨words, given, fills⟩
    refine ⟨_, by rw [arguments, given]; rfl, _, words, rfl, ⟨_, _, rfl, ?_, ?_⟩, fills⟩
    · exact Clause.fills_ofOption fun given _ => given.states_arguments
    · exact Clause.fills_flag "GET" returnOldValue

theorem arguments_eq_error_iff {options : WriteOptions} :
    (∃ violation, options.arguments = .error violation) ↔ options.expiry = some .persist := by
  simp [isLossless.refused, violation?, Expiry.violation?_eq_some_iff]

end WriteOptions

namespace ReadOptions

/-- `[EX n | PX n | EXAT n | PXAT n | PERSIST]` -/
def grammar : Language Bytes := Clause.place Expiry.clausesOfRead

def violation? (options : ReadOptions) : Option Violation :=
  Expiry.keepTtl.violation? "KEEPTTL is not valid for GETEX" options.expiry

def reader : Reader (Option Expiry) := Reader.place Expiry.clausesOfRead

def read? (words : List Bytes) : Option ReadOptions := (reader.whole? words).map ReadOptions.mk

theorem isLossless : IsLossless arguments violation? grammar read? := by
  have distinct : (Expiry.clausesOfRead.map Clause.keyword).Nodup := by decide +kernel
  have spans := Reader.spans_place Expiry.clausesOfRead
  refine (Reader.reads_place distinct).isLossless spans ReadOptions.expiry (fun _ => rfl)
    ?refused ?rendered
  case refused =>
    rintro ⟨expiry⟩ violation violates
    rcases Expiry.violation?_eq_some_iff.mp violates with ⟨rfl, rfl⟩
    rfl
  case rendered =>
    intro options flawless
    exact Expiry.fills_ofRead (Expiry.violation?_eq_none_iff.mp flawless)

theorem arguments_eq_error_iff {options : ReadOptions} :
    (∃ violation, options.arguments = .error violation) ↔ options.expiry = some .keepTtl := by
  simp [isLossless.refused, violation?, Expiry.violation?_eq_some_iff]

end ReadOptions

namespace Lcs.Options

def leastClauses : List (Clause UInt64) := [.counted "MINMATCHLEN" id]

theorem fills_least (least : Option UInt64) :
    Clause.Fills leastClauses least (match least with
      | some length => [Bytes.ofText "MINMATCHLEN", Decimal.digits length.toNat]
      | none => []) := by
  rcases least with _ | length
  · exact .nothing
  · exact .clause (List.mem_singleton_self _)
      (.counted "MINMATCHLEN" id (Decimal.counts_digits length))

/-- `IDX [MINMATCHLEN n] [WITHMATCHLEN]` -/
def grammar : Language Bytes :=
  {[Bytes.ofText "IDX"]} * Clause.place leastClauses * Clause.place (Clause.flag "WITHMATCHLEN")

def reader : Reader ((Unit × Option UInt64) × Option Unit) :=
  ((Reader.word "IDX").followedBy (Reader.place leastClauses)).followedBy
    (Reader.place (Clause.flag "WITHMATCHLEN"))

def read? (words : List Bytes) : Option Options :=
  (reader.whole? words).map fun ((_, least), lengths) => ⟨least, lengths.isSome⟩

/-- These options are never refused. -/
theorem isLossless :
    IsLossless (fun options => .ok options.arguments) (fun _ => none) grammar read? := by
  have distinct : (([Bytes.ofText "IDX"] ++ leastClauses.map Clause.keyword) ++
      (Clause.flag "WITHMATCHLEN").map Clause.keyword).Nodup := by decide +kernel
  have front := distinct.of_append_left
  have reads := ((Reader.reads_word "IDX").followedBy
    (Reader.reads_place front.of_append_right) front).followedBy
    (Reader.reads_place distinct.of_append_right) distinct
  have spans := ((Reader.spans_word (Bytes.ofText "IDX")).inTurn
    (Reader.spans_place leastClauses)).inTurn (Reader.spans_place (Clause.flag "WITHMATCHLEN"))
  refine reads.isLossless spans (fun options => (((), options.minMatchLength),
    if options.withMatchLength then some () else none)) ?shaped ?refused ?rendered
  case shaped =>
    rintro ⟨least, withMatchLength⟩
    cases withMatchLength <;> rfl
  case refused =>
    intro options violation violates
    contradiction
  case rendered =>
    rintro ⟨least, withMatchLength⟩ -
    refine ⟨_, rfl, _, _, rfl, ⟨_, _, rfl, rfl, fills_least least⟩, ?_⟩
    exact Clause.fills_flag "WITHMATCHLEN" withMatchLength

end Lcs.Options

/-- Options are rendered without loss, for every condition, comparison, count and combination of
them. Those of `SET` are refused just for the removal of an expiry, those of `GETEX` just for the
keeping of one, and those of `LCS` never. All others become words of the grammar of their command,
from which a reader that goes from left to right makes the same options again. A comparison may be
any bytes, also those of a keyword. So different options never look alike. -/
theorem options_are_rendered_losslessly :
    IsLossless WriteOptions.arguments WriteOptions.violation? WriteOptions.grammar
        WriteOptions.read? ∧
      IsLossless ReadOptions.arguments ReadOptions.violation? ReadOptions.grammar
        ReadOptions.read? ∧
      IsLossless (fun options => .ok (Lcs.Options.arguments options)) (fun _ => none)
        Lcs.Options.grammar Lcs.Options.read? :=
  ⟨WriteOptions.isLossless, ReadOptions.isLossless, Lcs.Options.isLossless⟩

example : WriteOptions.read? (["IFEQ", "GET", "GET", "EX", "7"].map Bytes.ofText) =
    some ⟨some (.ifEquals (Bytes.ofText "GET")), true, some (.seconds 7)⟩ := by
  decide +kernel

end SlotClient
