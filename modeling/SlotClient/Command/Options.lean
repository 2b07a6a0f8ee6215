import SlotClient.Command.Expiry
import SlotClient.Violation

/-!
# Options of reading and writing commands

What may follow `SET key value` and `GETEX key`:

* `[NX | XX | IFEQ comparison] [GET] [EX n | PX n | EXAT n | PXAT n | KEEPTTL]`
* `[EX n | PX n | EXAT n | PXAT n | PERSIST]`

An expiry that the command does not accept is a violation. As documents the options are records
whose fields may all be missing.
-/

namespace SlotClient

open Json (Decoder)

/-- The condition under which a value is written. -/
inductive WriteCondition where
  | ifExists
  | ifMissing
  | ifEquals (comparison : Bytes)
  deriving DecidableEq, Repr

namespace WriteCondition

def arguments : WriteCondition → List Bytes
  | ifExists => [Bytes.ofText "XX"]
  | ifMissing => [Bytes.ofText "NX"]
  | ifEquals comparison => [Bytes.ofText "IFEQ", comparison]

def toJson : WriteCondition → Json
  | ifExists => .text "only_if_exists"
  | ifMissing => .text "only_if_does_not_exist"
  | ifEquals comparison => .object [("only_if_equals", .ofBytes comparison)]

def decoder : Decoder WriteCondition :=
  .choice [
    .plain "only_if_exists" ifExists,
    .plain "only_if_does_not_exist" ifMissing,
    .carrying "only_if_equals" (Decoder.list Decoder.uint8) ifEquals]

end WriteCondition

/-- The options of writing a value: its condition, whether the old value is returned, and when the
new one expires. -/
structure WriteOptions where
  condition : Option WriteCondition := none
  returnOldValue : Bool := false
  expiry : Option Expiry := none
  deriving DecidableEq, Repr

namespace WriteOptions

/-- The arguments of the expiry, which must not be the removal of one. -/
def expiryArguments : Option Expiry → Except Violation (List Bytes)
  | none => .ok []
  | some .persist => .error (.invalidOption "PERSIST is not valid for SET")
  | some expiry => .ok expiry.arguments

def arguments (options : WriteOptions) : Except Violation (List Bytes) :=
  let condition := (options.condition.map WriteCondition.arguments).getD []
  let old := if options.returnOldValue then [Bytes.ofText "GET"] else []
  (expiryArguments options.expiry).map fun expiry => condition ++ old ++ expiry

def toJson (options : WriteOptions) : Json :=
  .object [
    ("condition", .ofOption (options.condition.map WriteCondition.toJson)),
    ("return_old_value", .boolean options.returnOldValue),
    ("expiry", .ofOption (options.expiry.map Expiry.toJson))]

def layout : Json.Layout WriteOptions where
  fields := [
    ⟨"condition", false, fun draft options => do
      return { options with condition := ← (Decoder.optional WriteCondition.decoder) draft }⟩,
    ⟨"return_old_value", false, fun draft options => do
      return { options with returnOldValue := ← Decoder.boolean draft }⟩,
    ⟨"expiry", false, fun draft options => do
      return { options with expiry := ← (Decoder.optional (Expiry.decoder 1)) draft }⟩]
  mayBeShort := true
  initial := {}

end WriteOptions

/-- The options of reading a value: the expiry that it gets or loses. -/
structure ReadOptions where
  expiry : Option Expiry := none
  deriving DecidableEq, Repr

namespace ReadOptions

/-- The arguments that follow the key. The expiry is left alone by giving none. -/
def arguments (options : ReadOptions) : Except Violation (List Bytes) :=
  match options.expiry with
  | none => .ok []
  | some .keepTtl => .error (.invalidOption "KEEPTTL is not valid for GETEX")
  | some expiry => .ok expiry.arguments

def toJson (options : ReadOptions) : Json :=
  .object [("expiry", .ofOption (options.expiry.map Expiry.toJson))]

def layout : Json.Layout ReadOptions where
  fields := [
    ⟨"expiry", false, fun draft options => do
      return { options with expiry := ← (Decoder.optional (Expiry.decoder 1)) draft }⟩]
  mayBeShort := true
  initial := {}

end ReadOptions

end SlotClient
