import SlotClient.Json.Draft
import SlotClient.Text.Utf8
import SlotClient.Violation

/-!
# Failures

Everything that can go wrong with a call: the connection fails, its bytes are no reply, the server
answers with an error, the answer is of the wrong kind, no connection is to be had, a command is
redirected too often, a configuration is no document of the expected form, or the request itself
violates a rule. An absent key is no failure.

A connection whose exchange failed on the way, or whose bytes were no reply, may hold the rest of
an answer and is not used again; every other failure leaves it in order.
-/

namespace SlotClient

/-- A fault of a connection, a look-up or a file. `endOfInput` is met where a reply would begin,
`shortRead` inside one. -/
inductive TransportFault where
  | endOfInput
  | shortRead
  | connectionRefused
  | connectionReset
  | brokenPipe
  | timedOut
  | wouldBlock
  | invalidInput
  | notFound
  | invalidText
  deriving DecidableEq, Repr

namespace TransportFault

def name : TransportFault → String
  | endOfInput | shortRead => "UnexpectedEof"
  | connectionRefused => "ConnectionRefused"
  | connectionReset => "ConnectionReset"
  | brokenPipe => "BrokenPipe"
  | timedOut => "TimedOut"
  | wouldBlock => "WouldBlock"
  | invalidInput => "InvalidInput"
  | notFound => "NotFound"
  | invalidText => "InvalidData"

def message : TransportFault → String
  | endOfInput => "unexpected end of file"
  | shortRead => "failed to fill whole buffer"
  | connectionRefused => "connection refused"
  | connectionReset => "connection reset"
  | brokenPipe => "broken pipe"
  | timedOut => "timed out"
  | wouldBlock => "operation would block"
  | invalidInput => "invalid input parameter"
  | notFound => "No such file or directory (os error 2)"
  | invalidText => "stream did not contain valid UTF-8"

end TransportFault

/-- Why a call failed. -/
inductive Failure where
  | transport (fault : TransportFault)
  | protocol
  | server (message : Bytes)
  | unexpectedReply
  | poolExhausted
  | invalidAddress (address : String)
  | tooManyRedirects (slot : Slot)
  | configuration (fault : Json.Fault)
  | violation (cause : Violation)
  deriving DecidableEq, Repr

namespace Failure

def describedFault : Json.Fault → String
  | .malformed => "malformed document"
  | .truncated => "document ends early"
  | .mismatch => "value of the wrong type"

def message : Failure → String
  | transport fault => "io error: " ++ fault.message
  | protocol => "protocol error"
  | server message => "server error: " ++ Utf8.lossyText message
  | unexpectedReply => "unexpected response"
  | poolExhausted => "connection pool exhausted"
  | invalidAddress address => "invalid address: " ++ address
  | tooManyRedirects slot => "too many redirects for slot " ++ toString slot.toNat
  | configuration fault => "invalid config: " ++ describedFault fault
  | violation cause => cause.message

/-- The bytes with which a server's error reply begins that refuses keys of different slots. -/
def crossSlotWord : Bytes := Bytes.ofText "CROSSSLOT"

/-- Whether keys of different slots were the cause, found before sending or by the server. -/
def isCrossSlot : Failure → Bool
  | violation (.crossSlot _ _) => true
  | server message => crossSlotWord.isPrefixOf message
  | _ => false

/-- Whether the connection that failed this way must not be used again. -/
def breaksConnection : Failure → Bool
  | transport _ | protocol => true
  | _ => false

end Failure

end SlotClient
