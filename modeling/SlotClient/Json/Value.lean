import SlotClient.Bytes

/-!
# JSON values

The values that configurations, options and reports are written as, and their two written forms:
one on a single line without blanks, and one with a member or item on each line, indented by two
blanks a level.
-/

namespace SlotClient

/-- A JSON value; numbers are whole. The members of an object keep their order. -/
inductive Json where
  | null
  | boolean (value : Bool)
  | number (value : Int)
  | text (value : String)
  | array (items : List Json)
  | object (members : List (String × Json))

namespace Json

/-- The value, or null for none. -/
def ofOption (value : Option Json) : Json := value.getD null

def natural (value : Nat) : Json := number value

def ofBytes (bytes : Bytes) : Json := array (bytes.map fun byte => natural byte.toNat)

def hexPair (value : Nat) : List Char := [Nat.digitChar (value / 16), Nat.digitChar (value % 16)]

def writtenCharacter (character : Char) : List Char :=
  if character = '"' then ['\\', '"']
  else if character = '\\' then ['\\', '\\']
  else if character = '\x08' then ['\\', 'b']
  else if character = '\x0c' then ['\\', 'f']
  else if character = '\n' then ['\\', 'n']
  else if character = '\r' then ['\\', 'r']
  else if character = '\t' then ['\\', 't']
  else if character.toNat < 32 then ['\\', 'u', '0', '0'] ++ hexPair character.toNat
  else [character]

def writtenText (value : String) : String :=
  String.ofList ('"' :: value.toList.flatMap writtenCharacter ++ ['"'])

mutual

def compact : Json → String
  | null => "null"
  | boolean value => if value then "true" else "false"
  | number value => toString value
  | text value => writtenText value
  | array items => "[" ++ String.intercalate "," (compactItems items) ++ "]"
  | object members => "\x7b" ++ String.intercalate "," (compactMembers members) ++ "\x7d"

def compactItems : List Json → List String
  | [] => []
  | item :: rest => compact item :: compactItems rest

def compactMembers : List (String × Json) → List String
  | [] => []
  | (name, value) :: rest => (writtenText name ++ ":" ++ compact value) :: compactMembers rest

end

def newLine (level : Nat) : String := "\n" ++ String.ofList (List.replicate (2 * level) ' ')

/-- Puts parts on lines of their own, one level below the given one. -/
def block (level : Nat) (parts : List String) : String :=
  if parts.isEmpty then ""
  else
    newLine (level + 1) ++ String.intercalate ("," ++ newLine (level + 1)) parts ++ newLine level

mutual

def indented (level : Nat) : Json → String
  | array items => "[" ++ block level (indentedItems (level + 1) items) ++ "]"
  | object members => "\x7b" ++ block level (indentedMembers (level + 1) members) ++ "\x7d"
  | null => "null"
  | boolean value => if value then "true" else "false"
  | number value => toString value
  | text value => writtenText value

def indentedItems (level : Nat) : List Json → List String
  | [] => []
  | item :: rest => indented level item :: indentedItems level rest

def indentedMembers (level : Nat) : List (String × Json) → List String
  | [] => []
  | (name, value) :: rest =>
    (writtenText name ++ ": " ++ indented level value) :: indentedMembers level rest

end

end Json

end SlotClient
