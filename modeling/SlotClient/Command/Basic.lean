import SlotClient.Command.Options
import SlotClient.Command.Reply
import SlotClient.Decimal.Shortest
import SlotClient.Slot.Route

/-!
# Commands

The commands of the store with their keys, their arguments and the kind of their results. Ranges
and lengths count bytes. A command whose options or arguments are not acceptable has no arguments
but a violation, which is found before its keys are looked at.
-/

namespace SlotClient

/-- A command and what it is asked with. -/
inductive Command where
  | set (key value : Bytes)
  | setWith (key value : Bytes) (options : WriteOptions)
  | get (key : Bytes)
  | getEx (key : Bytes)
  | getExWith (key : Bytes) (options : ReadOptions)
  | getDel (key : Bytes)
  | mset (pairs : List (Bytes × Bytes))
  | mget (keys : List Bytes)
  | msetNx (pairs : List (Bytes × Bytes))
  | incr (key : Bytes)
  | incrBy (key : Bytes) (amount : Int64)
  | incrByFloat (key : Bytes) (amount : Binary64)
  | decr (key : Bytes)
  | decrBy (key : Bytes) (amount : Int64)
  | strlen (key : Bytes)
  | setRange (key : Bytes) (offset : UInt64) (value : Bytes)
  | getRange (key : Bytes) (first last : Int64)
  | append (key value : Bytes)
  | lcs (key other : Bytes)
  | lcsLength (key other : Bytes)
  | lcsMatches (key other : Bytes) (options : Lcs.Options)
  | ping (payload : Option Bytes)
  | del (keys : List Bytes)
  | countExisting (keys : List Bytes)
  | ttl (key : Bytes)

namespace Command

/-- The keys of a command in their order, or none if it is about the connection. -/
def keys? : Command → Option (List Bytes)
  | set key _ | setWith key _ _ | get key | getEx key | getExWith key _ | getDel key
  | incr key | incrBy key _ | incrByFloat key _ | decr key | decrBy key _ | strlen key
  | setRange key _ _ | getRange key _ _ | append key _ | ttl key => some [key]
  | mset pairs | msetNx pairs => some (pairs.map Prod.fst)
  | mget keys | del keys | countExisting keys => some keys
  | lcs key other | lcsLength key other | lcsMatches key other _ => some [key, other]
  | ping _ => none

def name : Command → Bytes
  | set _ _ | setWith _ _ _ => Bytes.ofText "SET"
  | get _ => Bytes.ofText "GET"
  | getEx _ | getExWith _ _ => Bytes.ofText "GETEX"
  | getDel _ => Bytes.ofText "GETDEL"
  | mset _ => Bytes.ofText "MSET"
  | mget _ => Bytes.ofText "MGET"
  | msetNx _ => Bytes.ofText "MSETNX"
  | incr _ => Bytes.ofText "INCR"
  | incrBy _ _ => Bytes.ofText "INCRBY"
  | incrByFloat _ _ => Bytes.ofText "INCRBYFLOAT"
  | decr _ => Bytes.ofText "DECR"
  | decrBy _ _ => Bytes.ofText "DECRBY"
  | strlen _ => Bytes.ofText "STRLEN"
  | setRange _ _ _ => Bytes.ofText "SETRANGE"
  | getRange _ _ _ => Bytes.ofText "GETRANGE"
  | append _ _ => Bytes.ofText "APPEND"
  | lcs _ _ | lcsLength _ _ | lcsMatches _ _ _ => Bytes.ofText "LCS"
  | ping _ => Bytes.ofText "PING"
  | del _ => Bytes.ofText "DEL"
  | countExisting _ => Bytes.ofText "EXISTS"
  | ttl _ => Bytes.ofText "TTL"

def integerText (value : Int64) : Bytes := Decimal.signedDigits value.toInt

/-- The arguments of a list of pairs, each key followed by its value. -/
def pairArguments (pairs : List (Bytes × Bytes)) : List Bytes :=
  pairs.flatMap fun (key, value) => [key, value]

/-- The refusal of an amount that is no finite number. -/
def notFinite (amount : Binary64) : Violation :=
  .invalidArgument ("increment must be finite, got " ++
    Utf8.lossyText (Decimal.shortestText amount))

/-- The arguments that follow the name of a command. -/
def operands : Command → Except Violation (List Bytes)
  | set key value | append key value => .ok [key, value]
  | setWith key value options => options.arguments.map fun rest => key :: value :: rest
  | get key | getEx key | getDel key | incr key | decr key | strlen key | ttl key => .ok [key]
  | getExWith key options => options.arguments.map fun rest => key :: rest
  | mset pairs | msetNx pairs => .ok (pairArguments pairs)
  | mget keys | del keys | countExisting keys => .ok keys
  | incrBy key amount | decrBy key amount => .ok [key, integerText amount]
  | incrByFloat key amount =>
    if amount.isFinite then .ok [key, Decimal.shortestText amount] else .error (notFinite amount)
  | setRange key offset value => .ok [key, Decimal.digits offset.toNat, value]
  | getRange key first last => .ok [key, integerText first, integerText last]
  | lcs key other => .ok [key, other]
  | lcsLength key other => .ok [key, other, Bytes.ofText "LEN"]
  | lcsMatches key other options => .ok (key :: other :: options.arguments)
  | ping payload => .ok payload.toList

/-- The arguments of a command, its name included. -/
def arguments (command : Command) : Except Violation (List Bytes) :=
  command.operands.map fun operands => command.name :: operands

def resultKind : Command → ResultKind
  | set _ _ | mset _ => .status
  | setWith _ _ _ | get _ | getEx _ | getExWith _ _ | getDel _ => .optionalBytes
  | mget _ => .optionalBytesList
  | msetNx _ => .flag
  | incr _ | incrBy _ _ | decr _ | decrBy _ _ | strlen _ | setRange _ _ _ | append _ _
  | lcsLength _ _ | del _ | countExisting _ => .integer
  | incrByFloat _ _ => .float
  | getRange _ _ _ | lcs _ _ | ping _ => .bytes
  | lcsMatches _ _ _ => .lcsReport
  | ttl _ => .lifetime

abbrev Result (command : Command) : Type := command.resultKind.Result

/-- The route of a command: its keys decide it, and a command without keys goes anywhere. -/
def route (command : Command) (policy : RoutingPolicy) : Except Violation Route :=
  match command.keys? with
  | some keys => policy.route keys
  | none => .ok .anywhere

end Command

end SlotClient
