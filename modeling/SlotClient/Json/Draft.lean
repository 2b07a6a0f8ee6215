import SlotClient.Decimal.Digits

/-!
# Drafts of JSON documents

A draft is a document as far as it can be read: a tree in which a fault of the text is a node at
the place where it was met, and nothing behind the fault is in the tree. What a document is
refused for depends on what was expected of it, since a wrong value counts before any fault to the
right of it. A decoder therefore walks the draft from the left and reports the first thing that
does not suit it.

A number or a string can be read for its value or merely be passed over as part of something that
is not wanted, and the latter forgives more: lone surrogates, numbers too large to represent. A
token holds the outcome of both.
-/

namespace SlotClient.Json

/-- Why a document is refused: its text breaks the grammar, its text ends too early, or a value is
not what was expected. -/
inductive Fault where
  | malformed
  | truncated
  | mismatch
  deriving DecidableEq, Repr

/-- A number: whole and within sixty-four bits, signed or not, or any other. -/
inductive Number where
  | whole (value : Int)
  | other
  deriving DecidableEq, Repr

/-- A token of the text: its value, and the fault that is met when it is only passed over. -/
structure Token (Value : Type) where
  value : Except Fault Value
  passed : Option Fault

def Token.fault? {Value : Type} (token : Token Value) : Option Fault :=
  match token.value with
  | .error fault => some fault
  | .ok _ => none

/-- How a sequence of items or members goes on behind the last one read: with its closing bracket,
with the end of the text, with a comma and then the end of the text, or with something that cannot
stand there. -/
inductive Ending where
  | closed
  | cut
  | comma
  | stray
  deriving DecidableEq, Repr

/-- A document as far as it can be read. An object whose next member does not begin with a string
ends there as one that cannot go on. -/
inductive Draft where
  | null
  | boolean (value : Bool)
  | number (token : Token Number)
  | text (token : Token String)
  | array (items : List Draft) (ending : Ending)
  | object (members : List (Token String × Draft)) (ending : Ending)
  | misspeltNull (fault : Fault)
  | misspeltBoolean (fault : Fault)
  | stray
  | absent

namespace Draft

/-- The fault of a draft that is not what was expected: its own if it has one, else a mismatch. -/
def unwanted : Draft → Fault
  | null | boolean _ | array _ _ | object _ _ => .mismatch
  | number token => token.fault?.getD .mismatch
  | text token => token.fault?.getD .mismatch
  | misspeltNull fault | misspeltBoolean fault => fault
  | stray => .malformed
  | absent => .truncated

/-- The fault met at the end of a sequence of items or members that may go on. -/
def endingFault? : Ending → Option Fault
  | .closed => none
  | .cut | .comma => some .truncated
  | .stray => some .malformed

mutual

/-- The first fault of a draft that is only passed over. -/
def passed? : Draft → Option Fault
  | null | boolean _ => none
  | number token => token.passed
  | text token => token.passed
  | array items ending => passedItems? items ending
  | object members ending => passedMembers? members ending
  | misspeltNull fault | misspeltBoolean fault => some fault
  | stray => some .malformed
  | absent => some .truncated

def passedItems? : List Draft → Ending → Option Fault
  | [], ending => endingFault? ending
  | item :: rest, ending => (passed? item).or (passedItems? rest ending)

def passedMembers? : List (Token String × Draft) → Ending → Option Fault
  | [], ending => endingFault? ending
  | (name, value) :: rest, ending =>
    name.passed.or ((passed? value).or (passedMembers? rest ending))

end

mutual

/-- The first fault of a draft that is kept as it is until its type is known. At most `depth - 1`
arrays and objects may stand inside each other. -/
def kept? (depth : Nat) : Draft → Option Fault
  | null | boolean _ => none
  | array items ending => if depth ≤ 1 then some .malformed else keptItems? (depth - 1) items ending
  | object members ending =>
    if depth ≤ 1 then some .malformed else keptMembers? (depth - 1) members ending
  | number token => token.fault?
  | text token => token.fault?
  | misspeltNull fault | misspeltBoolean fault => some fault
  | stray => some .malformed
  | absent => some .truncated

/-- The first fault among items that are kept. -/
def keptItems? (depth : Nat) : List Draft → Ending → Option Fault
  | [], ending => endingFault? ending
  | item :: rest, ending => (kept? depth item).or (keptItems? depth rest ending)

def keptMembers? (depth : Nat) : List (Token String × Draft) → Ending → Option Fault
  | [], ending => endingFault? ending
  | (name, value) :: rest, ending =>
    name.fault?.or ((kept? depth value).or (keptMembers? depth rest ending))

end

end Draft

end SlotClient.Json
