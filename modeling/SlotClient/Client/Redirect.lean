import SlotClient.Network.Address
import SlotClient.Text.Utf8
import SlotClient.Violation

/-!
# Redirects

A node of a cluster answers a command for a slot that it does not serve with an error that names
the slot and an address: `MOVED slot address` if the slot has a new owner, `ASK slot address` if
only this command is to be sent there. The words are separated by blanks of ASCII, and the address
must hold a colon. An address that begins with a colon is a port on the host that answered.

A slot table holds the owners that nodes have named, the latest for each slot.
-/

namespace SlotClient

/-- What a node redirects to. -/
inductive Redirect where
  | moved (slot : Slot) (address : String)
  | ask (slot : Slot) (address : String)
  deriving DecidableEq, Repr

namespace Redirect

/-- Whether a character is a blank of ASCII. -/
def isBlank (character : Char) : Bool :=
  character = ' ' || character = '\t' || character = '\n' || character = '\x0c' || character = '\r'

/-- The words of a text between blanks, where the given characters, last one first, begin the
first word. -/
def wordsFrom : List Char → List Char → List (List Char)
  | begun, [] => if begun.isEmpty then [] else [begun.reverse]
  | begun, character :: rest =>
    if isBlank character then
      if begun.isEmpty then wordsFrom [] rest else begun.reverse :: wordsFrom [] rest
    else wordsFrom (character :: begun) rest

def words (text : String) : List String := (wordsFrom [] text.toList).map String.ofList

def ofKind? (kind : String) (slot : Slot) (address : String) : Option Redirect :=
  if kind = "MOVED" then some (moved slot address)
  else if kind = "ASK" then some (ask slot address)
  else none

def ofMessage? (message : Bytes) : Option Redirect := do
  match words (← Utf8.text? message) with
  | [kind, slotText, address] =>
    let slot ← Decimal.bounded? 65535 (Bytes.ofText slotText)
    if address.toList.contains ':' then ofKind? kind (UInt16.ofNat slot) address else none
  | _ => none

/-- The address that a redirect leads to from the address of the node that answered. -/
def target (current address : String) : String :=
  if address.toList.head? = some ':' then
    match SocketAddress.splitAtLastColon? current with
    | some (host, _) => host ++ address
    | none => address
  else address

end Redirect

/-- The owners of slots that are known. -/
structure SlotTable where
  entries : List (Slot × String) := []
  deriving DecidableEq, Repr

namespace SlotTable

def owner? (table : SlotTable) (slot : Slot) : Option String := table.entries.lookup slot

def assign (table : SlotTable) (slot : Slot) (owner : String) : SlotTable :=
  ⟨(slot, owner) :: table.entries.filter (·.1 != slot)⟩

end SlotTable

end SlotClient
