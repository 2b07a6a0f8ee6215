import SlotClient.Json.Decoding
import SlotClient.Json.Value

/-!
# Expiry of keys

When a key is to expire: after a time, at a time, as before, or never. Times are counted in seconds
or milliseconds; points in time count from the beginning of 1970. As a document, an expiry is an
object with a `type` and, where there is one, a `count`, in either order, or an array of the two.
-/

namespace SlotClient

/-- When a key is to expire. -/
inductive Expiry where
  | seconds (count : UInt64)
  | milliseconds (count : UInt64)
  | unixSeconds (count : UInt64)
  | unixMilliseconds (count : UInt64)
  | keepTtl
  | persist
  deriving DecidableEq, Repr

namespace Expiry

def countText (count : UInt64) : Bytes := Decimal.digits count.toNat

def arguments : Expiry → List Bytes
  | seconds count => [Bytes.ofText "EX", countText count]
  | milliseconds count => [Bytes.ofText "PX", countText count]
  | unixSeconds count => [Bytes.ofText "EXAT", countText count]
  | unixMilliseconds count => [Bytes.ofText "PXAT", countText count]
  | keepTtl => [Bytes.ofText "KEEPTTL"]
  | persist => [Bytes.ofText "PERSIST"]

def countedJson (type : String) (count : UInt64) : Json :=
  .object [("type", .text type), ("count", .natural count.toNat)]

def toJson : Expiry → Json
  | seconds count => countedJson "seconds" count
  | milliseconds count => countedJson "milliseconds" count
  | unixSeconds count => countedJson "unix_seconds" count
  | unixMilliseconds count => countedJson "unix_milliseconds" count
  | keepTtl => .object [("type", .text "keep_ttl")]
  | persist => .object [("type", .text "persist")]

open Json (Draft Ending Fault Token Decoder Alternative)

/-- A type of expiry, which has a count or stands alone. -/
inductive Kind where
  | counted (make : UInt64 → Expiry)
  | plain (expiry : Expiry)

def kinds : List (Alternative Kind) := [
  .plain "seconds" (.counted seconds),
  .plain "milliseconds" (.counted milliseconds),
  .plain "unix_seconds" (.counted unixSeconds),
  .plain "unix_milliseconds" (.counted unixMilliseconds),
  .plain "keep_ttl" (.plain keepTtl),
  .plain "persist" (.plain persist)]

/-- Decodes the count of a type; a type that stands alone has null for it. -/
def Kind.decode : Kind → Decoder Expiry
  | counted make => fun draft => (Decoder.uint64 draft).map make
  | plain expiry => fun draft => (Decoder.unit draft).map fun _ => expiry

def Kind.alone : Kind → Except Fault Expiry
  | counted _ => .error .mismatch
  | plain expiry => .ok expiry

/-- How much of an object has been read: the type, a count whose type is not known yet, or
both. -/
inductive Progress where
  | nothing
  | typeOnly (kind : Kind)
  | countOnly (draft : Draft)
  | complete (expiry : Expiry)

/-- Takes the value of one of the two members. -/
def Progress.take (depth : Nat) (progress : Progress) (isType : Bool) (value : Draft) :
    Except Fault Progress :=
  match progress, isType with
  | nothing, true => (Decoder.choice kinds value).map typeOnly
  | nothing, false => match value.kept? depth with
    | some fault => .error fault
    | none => .ok (countOnly value)
  | typeOnly kind, false => (kind.decode value).map complete
  | countOnly draft, true => do
    let kind ← Decoder.choice kinds value
    (kind.decode draft).map complete
  | _, _ => .error .mismatch

/-- The expiry that has been read when the object ends. -/
def Progress.finish : Progress → Except Fault Expiry
  | typeOnly kind => kind.alone
  | complete expiry => .ok expiry
  | _ => .error .mismatch

/-- Reads the members of an object; names other than those of the two members are passed over. -/
def decodeMembers (depth : Nat) :
    List (Token String × Draft) → Ending → Progress → Except Fault Expiry
  | [], ending, progress => do
    Decoder.finishOpen ending ()
    progress.finish
  | (name, value) :: rest, ending, progress => do
    let name ← name.value
    if name = "type" || name = "count" then
      let progress ← progress.take depth (name = "type") value
      decodeMembers depth rest ending progress
    else match value.passed? with
      | some fault => throw fault
      | none => decodeMembers depth rest ending progress

/-- Decodes an expiry that stands inside a given count of arrays and objects. -/
def decoder (enclosing : Nat) : Decoder Expiry
  | .object members ending => decodeMembers (127 - enclosing) members ending .nothing
  | .array items ending =>
    match items with
    | [] => Decoder.finishOpen ending () >>= fun _ => .error .mismatch
    | type :: rest => do
      let alternative ← Alternative.named kinds (← Decoder.text type)
      let kind ← alternative.decode none
      match rest with
      | [] => Decoder.finishOpen ending () >>= fun _ => .error .mismatch
      | count :: others => do
        let expiry ← kind.decode count
        Decoder.finishClosed others ending expiry
  | draft => .error draft.unwanted

end Expiry

end SlotClient
