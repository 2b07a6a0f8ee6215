import SlotClient.Slot.Checksum
import SlotClient.Violation

/-!
# Hash slots

The key space is divided into 16384 slots. The slot of a key is the checksum of its tag, reduced
to that range, and the tag is what stands between the first opening brace and the next closing one
unless that is empty or missing, when it is the whole key. Keys with equal tags share a slot, so a
call on several keys can be served by one node.
-/

namespace SlotClient.Slot

def count : UInt16 := 16384

def openingBrace : UInt8 := 123

def closingBrace : UInt8 := 125

/-- The part of a key that decides its slot. -/
def hashTag (key : Bytes) : Bytes :=
  match key.dropWhile (· != openingBrace) with
  | [] => key
  | _ :: inside =>
    let tag := inside.takeWhile (· != closingBrace)
    if tag.isEmpty || tag.length = inside.length then key else tag

def ofKey (key : Bytes) : Slot := Checksum.ofBytes (hashTag key) % count

/-- The slot that all keys share, if there are any. Keys of different slots are refused, naming
the slot of the first key and that of the earliest key in another slot. -/
def common? : List Bytes → Except Violation (Option Slot)
  | [] => .ok none
  | key :: others =>
    let first := ofKey key
    match (others.map ofKey).find? (· != first) with
    | none => .ok (some first)
    | some conflicting => .error (.crossSlot first conflicting)

end SlotClient.Slot
