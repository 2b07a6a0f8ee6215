import SlotClient.Json.Decoding
import SlotClient.Network.World

/-!
# Network scripts

The document of a network: under `hosts` the addresses of host names, and under `nodes`, by socket
address, the `connect` outcomes and the `replies` of each node. An outcome is `ok` or the name of a
fault. A reply is a string of bytes, or such a string as `data` with the name of a fault as `then`,
or the name of a fault as `write_error`. Each character of a string of bytes is one byte.
-/

namespace SlotClient.Script

open Json (Decoder Fault)

def faults : List TransportFault :=
  [.endOfInput, .connectionRefused, .connectionReset, .brokenPipe, .timedOut, .wouldBlock,
    .invalidInput, .notFound, .invalidText]

def faultNamed (name : String) : Except Fault TransportFault :=
  match faults.find? (·.name = name) with
  | some fault => .ok fault
  | none => .error .mismatch

/-- The bytes that the characters of a text are the numbers of. -/
def latin1? (text : String) : Option Bytes :=
  text.toList.mapM fun character =>
    if character.toNat < 256 then some (UInt8.ofNat character.toNat) else none

def bytes : Decoder Bytes := fun draft => do
  match latin1? (← Decoder.text draft) with
  | some bytes => return bytes
  | none => throw .mismatch

def outcome : Decoder (Option TransportFault) := fun draft => do
  let name ← Decoder.text draft
  if name = "ok" then return none else return some (← faultNamed name)

def fault : Decoder TransportFault := fun draft => do faultNamed (← Decoder.text draft)

/-- The parts of a reply that is an object. -/
structure ResponseParts where
  writeFault : Option TransportFault := none
  data : Bytes := []
  fault : Option TransportFault := none

def responseLayout : Json.Layout ResponseParts where
  fields := [
    ⟨"write_error", false, fun draft parts => do
      return { parts with writeFault := ← (Decoder.optional fault) draft }⟩,
    ⟨"data", false, fun draft parts => do return { parts with data := ← bytes draft }⟩,
    ⟨"then", false, fun draft parts => do
      return { parts with fault := ← (Decoder.optional fault) draft }⟩]
  mayBeShort := false
  initial := {}

def response : Decoder Response
  | .text token => do return .data (← bytes (.text token)) none
  | draft => do
    let parts ← responseLayout.decode draft
    match parts.writeFault with
    | some fault => return .writeFault fault
    | none => return .data parts.data parts.fault

def nodeLayout : Json.Layout Node where
  fields := [
    ⟨"connect", false, fun draft node => do
      let outcomes ← (Decoder.optional (Decoder.list outcome)) draft
      return { node with connects := outcomes.getD [] }⟩,
    ⟨"replies", false, fun draft node => do
      let responses ← (Decoder.optional (Decoder.list response)) draft
      return { node with responses := responses.getD [] }⟩]
  mayBeShort := false
  initial := { connects := [], responses := [] }

def addresses (texts : List String) : List IpAddress := texts.filterMap IpAddress.ofText?

def layout : Json.Layout World where
  fields := [
    ⟨"hosts", false, fun draft world => do
      let hosts ← (Decoder.optional (Decoder.entries (Decoder.list Decoder.text))) draft
      return { world with
        hosts := (hosts.getD []).map fun (name, texts) => (name, addresses texts) }⟩,
    ⟨"nodes", false, fun draft world => do
      let nodes ← (Decoder.optional (Decoder.entries nodeLayout.decode)) draft
      return { world with nodes := nodes.getD [] }⟩]
  mayBeShort := false
  initial := {}

def ofDocument (document : Bytes) : Except Fault World :=
  Json.Draft.decodeText layout.decode document

end SlotClient.Script
