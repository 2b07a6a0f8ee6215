import SlotClient.Decimal.Digits

/-!
# Addresses

Socket addresses as text: `1.2.3.4:80` for four octets, `[::1]:80` for eight groups of sixteen bits,
where `::` stands for one or more groups of zero, the last two groups may be written as four octets
and a scope may follow behind `%`. Each address has one canonical text, in which the longest run of
at least two zero groups is left out.

A text that is no socket address is a host name and a port; the host is looked up in a directory.
-/

namespace SlotClient

/-- An address of a host. -/
inductive IpAddress where
  | v4 (octets : List Nat)
  | v6 (groups : List Nat)
  deriving DecidableEq, Repr

/-- An address of a host and a port on it. The scope is zero where none is given. -/
structure SocketAddress where
  host : IpAddress
  scope : Nat
  port : Nat
  deriving DecidableEq, Repr

namespace SocketAddress

abbrev Reader (Value : Type) := List Char → Option (Value × List Char)

/-- The value of a character as a digit in a base of at most sixteen. -/
def digit? (base : Nat) (character : Char) : Option Nat :=
  let value :=
    if '0' ≤ character ∧ character ≤ '9' then some (character.toNat - '0'.toNat)
    else if 'a' ≤ character ∧ character ≤ 'f' then some (character.toNat - 'a'.toNat + 10)
    else if 'A' ≤ character ∧ character ≤ 'F' then some (character.toNat - 'A'.toNat + 10)
    else none
  value.bind fun number => if number < base then some number else none

/-- Reads all digits that follow, at least one and at most `mostDigits` if that is given, which
must denote at most `largest`. -/
def readNumber (base largest : Nat) (mostDigits : Option Nat) (leadingZeros : Bool) :
    Reader Nat := fun text =>
  let read := text.takeWhile fun character => (digit? base character).isSome
  let number := read.foldl (fun value character => base * value + (digit? base character).getD 0) 0
  let isTooLong := match mostDigits with
    | some most => most < read.length
    | none => false
  let isPadded := !leadingZeros && 1 < read.length && read.head? == some '0'
  if read.isEmpty || isTooLong || isPadded || largest < number then none
  else some (number, text.dropWhile fun character => (digit? base character).isSome)

def readCharacter (expected : Char) : Reader Unit
  | character :: rest => if character = expected then some ((), rest) else none
  | [] => none

/-- Reads something behind a separator, which the first of a sequence does not have. -/
def readSeparated {Value : Type} (separator : Char) (isFirst : Bool) (read : Reader Value) :
    Reader Value := fun text =>
  if isFirst then read text
  else (readCharacter separator text).bind fun (_, rest) => read rest

def readOctets : Nat → Bool → Reader (List Nat)
  | 0, _, text => some ([], text)
  | count + 1, isFirst, text => do
    let (octet, rest) ← readSeparated '.' isFirst (readNumber 10 255 (some 3) false) text
    let (octets, remainder) ← readOctets count false rest
    return (octet :: octets, remainder)

/-- The two groups that four octets are. -/
def groupsOfOctets : List Nat → List Nat
  | [a, b, c, d] => [a * 256 + b, c * 256 + d]
  | _ => []

/-- Reads at most the given count of groups. Octets for the last two end the sequence, and the
flag tells that there were any. -/
def readGroups : Nat → Bool → List Char → List Nat × Bool × List Char
  | 0, _, text => ([], false, text)
  | count + 1, isFirst, text =>
    let octets :=
      if count = 0 then none else readSeparated ':' isFirst (readOctets 4 true) text
    match octets with
    | some (octets, rest) => (groupsOfOctets octets, true, rest)
    | none =>
      match readSeparated ':' isFirst (readNumber 16 65535 (some 4) true) text with
      | none => ([], false, text)
      | some (group, rest) =>
        let (groups, hasOctets, remainder) := readGroups count false rest
        (group :: groups, hasOctets, remainder)

/-- Reads eight groups, or fewer in front of and behind a `::`. -/
def readV6 : Reader (List Nat) := fun text => do
  let (front, hasOctets, rest) := readGroups 8 true text
  if front.length = 8 then return (front, rest)
  if hasOctets then none
  let (_, afterColon) ← readCharacter ':' rest
  let (_, afterColons) ← readCharacter ':' afterColon
  let (back, _, remainder) := readGroups (8 - (front.length + 1)) true afterColons
  return (front ++ List.replicate (8 - front.length - back.length) 0 ++ back, remainder)

def readPort : Reader Nat := fun text => do
  let (_, rest) ← readCharacter ':' text
  readNumber 10 65535 none true rest

/-- Reads a scope behind a percent sign; it is zero where there is none. -/
def readScope (text : List Char) : Nat × List Char :=
  let scope := (readCharacter '%' text).bind fun (_, rest) =>
    readNumber 10 4294967295 none true rest
  scope.getD (0, text)

def readV4Address : Reader SocketAddress := fun text => do
  let (octets, rest) ← readOctets 4 true text
  let (port, remainder) ← readPort rest
  return (⟨.v4 octets, 0, port⟩, remainder)

def readV6Address : Reader SocketAddress := fun text => do
  let (_, inside) ← readCharacter '[' text
  let (groups, afterGroups) ← readV6 inside
  let (scope, afterScope) := readScope afterGroups
  let (_, outside) ← readCharacter ']' afterScope
  let (port, rest) ← readPort outside
  return (⟨.v6 groups, scope, port⟩, rest)

/-- What a reader reads, if that is the whole text. -/
def whole? {Value : Type} (read : Reader Value) (text : String) : Option Value :=
  match read text.toList with
  | some (value, []) => some value
  | _ => none

def ofText? (text : String) : Option SocketAddress :=
  (whole? readV4Address text).or (whole? readV6Address text)

end SocketAddress

namespace IpAddress

open SocketAddress

def ofText? (text : String) : Option IpAddress :=
  ((whole? (readOctets 4 true) text).map v4).or ((whole? readV6 text).map v6)

def octetsText (octets : List Nat) : String := String.intercalate "." (octets.map toString)

def groupsText (groups : List Nat) : String :=
  String.intercalate ":" (groups.map fun group => String.ofList (Nat.toDigits 16 group))

def leadingZeros (groups : List Nat) : Nat := (groups.takeWhile (· = 0)).length

/-- Where the longest run of zero groups begins and how long it is; of two the first. -/
def longestZeros (groups : List Nat) : Nat × Nat :=
  (List.range groups.length).foldl
    (fun longest start =>
      let length := leadingZeros (groups.drop start)
      if longest.2 < length then (start, length) else longest)
    (0, 0)

def v6Text (groups : List Nat) : String :=
  match groups with
  | [0, 0, 0, 0, 0, 0xFFFF, high, low] =>
    "::ffff:" ++ octetsText [high / 256, high % 256, low / 256, low % 256]
  | _ =>
    let (start, length) := longestZeros groups
    if length ≤ 1 then groupsText groups
    else groupsText (groups.take start) ++ "::" ++ groupsText (groups.drop (start + length))

end IpAddress

namespace SocketAddress

def text (address : SocketAddress) : String :=
  let port := ":" ++ toString address.port
  match address.host with
  | .v4 octets => IpAddress.octetsText octets ++ port
  | .v6 groups =>
    let scope := if address.scope = 0 then "" else "%" ++ toString address.scope
    "[" ++ IpAddress.v6Text groups ++ scope ++ "]" ++ port

def splitAtLastColon? (text : String) : Option (String × String) :=
  let reversed := text.toList.reverse
  match reversed.dropWhile (· != ':') with
  | [] => none
  | _ :: front =>
    some (String.ofList front.reverse,
      String.ofList (reversed.takeWhile (· != ':')).reverse)

/-- The socket address that a text means: one that it writes, or the first address of the host
that it names, with its port. -/
def resolve? (directory : List (String × List IpAddress)) (text : String) :
    Option SocketAddress :=
  (ofText? text).or do
    let (host, portText) ← splitAtLastColon? text
    let port ← Decimal.bounded? 65535 (Bytes.ofText portText)
    let addresses ← directory.lookup host
    let address ← addresses.head?
    return ⟨address, 0, port⟩

end SocketAddress

end SlotClient
