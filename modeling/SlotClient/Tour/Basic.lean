import SlotClient.Client.Basic
import SlotClient.Text.Quoted

/-!
# The tour

A tour of the commands on a live client. Each result is printed on a line of its own, so that the
effect of every command can be followed by eye. All keys share one tag, so the tour can be made on
a cluster as well. The first failure ends the tour, except that incrementing a text is expected to
fail.
-/

namespace SlotClient.Tour

/-- The state of a tour: the client, the world, and the lines printed so far. -/
structure State where
  client : Client
  world : World
  lines : List String := []

/-- A part of the tour, which may fail. -/
abbrev Part := ExceptT Failure (StateM State)

def say (line : String) : Part Unit :=
  modify fun state => { state with lines := state.lines ++ [line] }

/-- Runs a command and returns its outcome, whatever it is. -/
def attempt (command : Command) : Part (Except Failure command.Result) := do
  let state ← get
  let ((outcome, client), world) := (command.run state.client).run state.world
  set { state with client, world }
  return outcome

def ask (command : Command) : Part command.Result := do
  ExceptT.mk (pure (← attempt command))

def key (name : String) : Bytes := Bytes.ofText ("\x7bwalkthrough\x7d" ++ name)

def shown (result : Option Bytes) : String :=
  match Presence.lossyText? result with
  | some text => Text.quoted text
  | none => "<nil>"

def shownBytes (bytes : Bytes) : String :=
  "[" ++ String.intercalate ", " (bytes.map fun byte => toString byte.toNat) ++ "]"

def shownInteger (value : Int64) : String := toString value.toInt

def shownFlag (value : Bool) : String := if value then "true" else "false"

def shownLifetime : Lifetime → String
  | .missing => "missing"
  | .unlimited => "no expiry"
  | .seconds left => toString left ++ "s"

def report (title : String) (command : Command) (form : command.Result → String) : Part Unit := do
  let result ← ask command
  say (title ++ " -> " ++ form result)

/-- The keys that hold a name, a greeting, a character, a counter, a number, a value for a short
time, and the two texts that are compared. -/
def allKeys : List Bytes :=
  ["name", "greeting", "kanji", "counter", "float", "temp", "key1", "key2"].map key

def values : Part Unit := do
  report "PING" (.ping none) Utf8.lossyText
  let _ ← ask (.del allKeys)
  report "GET missing" (.get (key "name")) shown
  report "SET" (.set (key "name") (Bytes.ofText "value")) id
  report "GET" (.get (key "name")) shown
  report "SET NX on existing key"
    (.setWith (key "name") (Bytes.ofText "other") { condition := some .ifMissing }) shown

def ranges : Part Unit := do
  let greeting := key "greeting"
  report "APPEND" (.append greeting (Bytes.ofText "Hello")) shownInteger
  report "APPEND" (.append greeting (Bytes.ofText " World")) shownInteger
  report "SETRANGE" (.setRange greeting 6 (Bytes.ofText "Redis")) shownInteger
  report "GET" (.get greeting) shown
  let kanji := key "kanji"
  let _ ← ask (.set kanji (Bytes.ofText "愛"))
  report "GETRANGE 0 1" (.getRange kanji 0 1) shownBytes
  report "SETRANGE 1 a" (.setRange kanji 1 (Bytes.ofText "a")) shownInteger
  match Presence.required (← ask (.get kanji)) with
  | .ok bytes => say ("GET raw -> " ++ shownBytes bytes)
  | .error violation => throw (.violation violation)

def numbers : Part Unit := do
  let counter := key "counter"
  report "INCR" (.incr counter) shownInteger
  report "INCRBY 10" (.incrBy counter 10) shownInteger
  report "DECRBY 4" (.decrBy counter 4) shownInteger
  let number := key "float"
  let _ ← ask (.set number (Bytes.ofText "1"))
  report "INCRBYFLOAT 5.5" (.incrByFloat number ⟨0x4016000000000000⟩) fun result =>
    Utf8.lossyText (Decimal.shortestText result)
  match ← attempt (.incr (key "greeting")) with
  | .ok _ => pure ()
  | .error failure => say ("INCR on text -> error: " ++ failure.message)

def severalKeys : Part Unit := do
  let first := key "key1"
  let second := key "key2"
  let pairs := [(first, Bytes.ofText "ohmytext"), (second, Bytes.ofText "mynewtext")]
  report "MSETNX" (.msetNx pairs) shownFlag
  report "MSETNX again" (.msetNx pairs) shownFlag
  report "MGET" (.mget [first, key "temp", second]) fun results =>
    Text.quotedList (results.map shown)
  report "LCS" (.lcs first second) Utf8.lossyText
  report "LCS LEN" (.lcsLength first second) shownInteger
  let found ← ask (.lcsMatches first second { minMatchLength := some 4, withMatchLength := true })
  say ("LCS IDX MINMATCHLEN 4 WITHMATCHLEN ->\n" ++ found.toJson.indented 0)

def expiry : Part Unit := do
  let temporary := key "temp"
  let _ ← ask (.set temporary (Bytes.ofText "short-lived"))
  report "GETEX EX 5" (.getExWith temporary { expiry := some (.seconds 5) }) shown
  report "TTL" (.ttl temporary) shownLifetime
  report "GETDEL" (.getDel temporary) shown
  report "GETDEL again" (.getDel temporary) shown

def pools : Part Unit := do
  let statistics := (← get).client.statistics
  say ("connection pools ->\n" ++ (PoolStatistics.allToJson statistics).indented 0)

def whole : Part Unit := do
  values
  ranges
  numbers
  severalKeys
  expiry
  pools

end SlotClient.Tour
