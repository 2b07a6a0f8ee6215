import SlotClient.Json.Decoding
import SlotClient.Json.Value

/-!
# Longest common subsequences

The options of asking where the values of two keys match, `IDX [MINMATCHLEN n] [WITHMATCHLEN]`, and
the report that answers it: the length of the longest common subsequence and the matching ranges in
the order of the server, the last one first. Ranges are byte offsets with both ends included.
-/

namespace SlotClient.Lcs

open Json (Decoder)

/-- The options of asking for matches: the least length of a match that is reported, and whether
lengths are reported. -/
structure Options where
  minMatchLength : Option UInt64 := none
  withMatchLength : Bool := false
  deriving DecidableEq, Repr

namespace Options

def arguments (options : Options) : List Bytes :=
  let least := match options.minMatchLength with
    | some length => [Bytes.ofText "MINMATCHLEN", Decimal.digits length.toNat]
    | none => []
  let lengths := if options.withMatchLength then [Bytes.ofText "WITHMATCHLEN"] else []
  Bytes.ofText "IDX" :: least ++ lengths

def toJson (options : Options) : Json :=
  .object [
    ("min_match_len", .ofOption (options.minMatchLength.map fun length => .natural length.toNat)),
    ("with_match_len", .boolean options.withMatchLength)]

def layout : Json.Layout Options where
  fields := [
    ⟨"min_match_len", false, fun draft options => do
      return { options with minMatchLength := ← (Decoder.optional Decoder.uint64) draft }⟩,
    ⟨"with_match_len", false, fun draft options => do
      return { options with withMatchLength := ← Decoder.boolean draft }⟩]
  mayBeShort := true
  initial := {}

end Options

abbrev Range := Int64 × Int64

/-- A match: its range in either value, and its length where that was asked for. -/
structure Match where
  firstRange : Range
  secondRange : Range
  length : Option Int64
  deriving DecidableEq, Repr

namespace Match

def flat (found : Match) : List Int64 :=
  [found.firstRange.1, found.firstRange.2, found.secondRange.1, found.secondRange.2] ++
    found.length.toList

def rangeJson (range : Range) : Json := .array [.number range.1.toInt, .number range.2.toInt]

def toJson (found : Match) : Json :=
  .object [
    ("key1", rangeJson found.firstRange),
    ("key2", rangeJson found.secondRange),
    ("match_len", .ofOption (found.length.map fun length => .number length.toInt))]

/-- The fields of the document of a match, of which an object may leave out the length. -/
def layout : Json.Layout Match where
  fields := [
    ⟨"key1", true, fun draft found => do
      return { found with firstRange := ← (Decoder.pair Decoder.int64) draft }⟩,
    ⟨"key2", true, fun draft found => do
      return { found with secondRange := ← (Decoder.pair Decoder.int64) draft }⟩,
    ⟨"match_len", false, fun draft found => do
      return { found with length := ← (Decoder.optional Decoder.int64) draft }⟩]
  mayBeShort := false
  initial := ⟨(0, 0), (0, 0), none⟩

end Match

/-- The answer to asking for matches. -/
structure Report where
  length : Int64 := 0
  found : List Match := []
  deriving DecidableEq, Repr

namespace Report

def flat (report : Report) : List (List Int64) := report.found.map Match.flat

def toJson (report : Report) : Json :=
  .object [
    ("len", .number report.length.toInt),
    ("matches", .array (report.found.map Match.toJson))]

def layout : Json.Layout Report where
  fields := [
    ⟨"len", true, fun draft report => do
      return { report with length := ← Decoder.int64 draft }⟩,
    ⟨"matches", true, fun draft report => do
      return { report with found := ← (Decoder.list Match.layout.decode) draft }⟩]
  mayBeShort := false
  initial := {}

end Report

end SlotClient.Lcs
