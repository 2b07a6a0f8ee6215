import SlotClient.Text.Unprintable

/-!
# Quoted text

A text between double quotes in a form that shows every character. A quote, a backslash, a tab, a
carriage return, a line feed and the null character are written with a backslash and one sign; a
character without a form of its own is written by its number in lower-case hexadecimal between
braces; every other character stands for itself.
-/

namespace SlotClient.Text

def hexadecimal (number : Nat) : List Char := Nat.toDigits 16 number

def quotedCharacter (character : Char) : List Char :=
  if character = '"' then ['\\', '"']
  else if character = '\\' then ['\\', '\\']
  else if character = '\t' then ['\\', 't']
  else if character = '\r' then ['\\', 'r']
  else if character = '\n' then ['\\', 'n']
  else if character = '\x00' then ['\\', '0']
  else if isUnprintable character then
    ['\\', 'u', '\x7b'] ++ hexadecimal character.toNat ++ ['\x7d']
  else [character]

def quoted (text : String) : String :=
  String.ofList ('"' :: text.toList.flatMap quotedCharacter ++ ['"'])

/-- A list of texts, each between double quotes, in brackets. -/
def quotedList (texts : List String) : String :=
  "[" ++ String.intercalate ", " (texts.map quoted) ++ "]"

end SlotClient.Text
