import SlotClient.Failure
import SlotClient.Json.Decoding
import SlotClient.Json.Value
import SlotClient.Pool.Basic

/-!
# Configurations

How clients of a single server and of a cluster are set up. As documents configurations are records
in which any field may be missing and has a fixed value then. Time limits are in milliseconds.
-/

namespace SlotClient

open Json (Decoder Draft Fault)

/-- The document of a time limit, which is its count of milliseconds. -/
def Json.ofLimit (limit : Option Duration) : Json :=
  .ofOption (limit.map fun duration => .natural duration.milliseconds.toNat)

/-- Decodes a time limit that is given in milliseconds. -/
def Json.Decoder.limit : Decoder (Option Duration) := fun draft =>
  (Decoder.optional Decoder.uint64 draft).map (Option.map Duration.ofMilliseconds)

def Json.ofText? (text : Option String) : Json := .ofOption (text.map Json.text)

/-- The configuration of a client of a single server. -/
structure ServerConfiguration where
  address : String := "127.0.0.1:6379"
  maxIdle : UInt64 := 8
  maxTotal : UInt64 := 16
  readTimeout : Option Duration := none
  writeTimeout : Option Duration := none
  connectTimeout : Option Duration := none
  username : Option String := none
  password : Option String := none
  database : Option Int64 := none
  deriving DecidableEq, Repr

namespace ServerConfiguration

def layout : Json.Layout ServerConfiguration where
  fields := [
    ⟨"addr", false, fun draft configuration => do
      return { configuration with address := ← Decoder.text draft }⟩,
    ⟨"max_idle", false, fun draft configuration => do
      return { configuration with maxIdle := ← Decoder.uint64 draft }⟩,
    ⟨"max_total", false, fun draft configuration => do
      return { configuration with maxTotal := ← Decoder.uint64 draft }⟩,
    ⟨"read_timeout_ms", false, fun draft configuration => do
      return { configuration with readTimeout := ← Decoder.limit draft }⟩,
    ⟨"write_timeout_ms", false, fun draft configuration => do
      return { configuration with writeTimeout := ← Decoder.limit draft }⟩,
    ⟨"connect_timeout_ms", false, fun draft configuration => do
      return { configuration with connectTimeout := ← Decoder.limit draft }⟩,
    ⟨"username", false, fun draft configuration => do
      return { configuration with username := ← (Decoder.optional Decoder.text) draft }⟩,
    ⟨"password", false, fun draft configuration => do
      return { configuration with password := ← (Decoder.optional Decoder.text) draft }⟩,
    ⟨"database", false, fun draft configuration => do
      return { configuration with database := ← (Decoder.optional Decoder.int64) draft }⟩]
  mayBeShort := true
  initial := {}

def toJson (configuration : ServerConfiguration) : Json :=
  .object [
    ("addr", .text configuration.address),
    ("max_idle", .natural configuration.maxIdle.toNat),
    ("max_total", .natural configuration.maxTotal.toNat),
    ("read_timeout_ms", .ofLimit configuration.readTimeout),
    ("write_timeout_ms", .ofLimit configuration.writeTimeout),
    ("connect_timeout_ms", .ofLimit configuration.connectTimeout),
    ("username", .ofText? configuration.username),
    ("password", .ofText? configuration.password),
    ("database", .ofOption (configuration.database.map fun value => .number value.toInt))]

def poolSettings (configuration : ServerConfiguration) : PoolSettings where
  connections := {
    address := configuration.address
    readTimeout := configuration.readTimeout
    writeTimeout := configuration.writeTimeout
    connectTimeout := configuration.connectTimeout
    username := configuration.username
    database := configuration.database }
  maxIdle := configuration.maxIdle
  maxTotal := configuration.maxTotal

end ServerConfiguration

/-- The configuration of a client of a cluster. The limits hold for the pool of each node. -/
structure ClusterConfiguration where
  nodes : List String := ["127.0.0.1:7000"]
  maxIdle : UInt64 := 4
  maxTotal : UInt64 := 8
  readTimeout : Option Duration := none
  writeTimeout : Option Duration := none
  connectTimeout : Option Duration := none
  username : Option String := none
  password : Option String := none
  maxRedirects : UInt64 := 5
  deriving DecidableEq, Repr

namespace ClusterConfiguration

def layout : Json.Layout ClusterConfiguration where
  fields := [
    ⟨"nodes", false, fun draft configuration => do
      return { configuration with nodes := ← (Decoder.list Decoder.text) draft }⟩,
    ⟨"max_idle", false, fun draft configuration => do
      return { configuration with maxIdle := ← Decoder.uint64 draft }⟩,
    ⟨"max_total", false, fun draft configuration => do
      return { configuration with maxTotal := ← Decoder.uint64 draft }⟩,
    ⟨"read_timeout_ms", false, fun draft configuration => do
      return { configuration with readTimeout := ← Decoder.limit draft }⟩,
    ⟨"write_timeout_ms", false, fun draft configuration => do
      return { configuration with writeTimeout := ← Decoder.limit draft }⟩,
    ⟨"connect_timeout_ms", false, fun draft configuration => do
      return { configuration with connectTimeout := ← Decoder.limit draft }⟩,
    ⟨"username", false, fun draft configuration => do
      return { configuration with username := ← (Decoder.optional Decoder.text) draft }⟩,
    ⟨"password", false, fun draft configuration => do
      return { configuration with password := ← (Decoder.optional Decoder.text) draft }⟩,
    ⟨"max_redirects", false, fun draft configuration => do
      return { configuration with maxRedirects := ← Decoder.uint64 draft }⟩]
  mayBeShort := true
  initial := {}

def toJson (configuration : ClusterConfiguration) : Json :=
  .object [
    ("nodes", .array (configuration.nodes.map Json.text)),
    ("max_idle", .natural configuration.maxIdle.toNat),
    ("max_total", .natural configuration.maxTotal.toNat),
    ("read_timeout_ms", .ofLimit configuration.readTimeout),
    ("write_timeout_ms", .ofLimit configuration.writeTimeout),
    ("connect_timeout_ms", .ofLimit configuration.connectTimeout),
    ("username", .ofText? configuration.username),
    ("password", .ofText? configuration.password),
    ("max_redirects", .natural configuration.maxRedirects.toNat)]

def poolSettings (configuration : ClusterConfiguration) (address : String) : PoolSettings where
  connections := {
    address
    readTimeout := configuration.readTimeout
    writeTimeout := configuration.writeTimeout
    connectTimeout := configuration.connectTimeout
    username := configuration.username
    database := none }
  maxIdle := configuration.maxIdle
  maxTotal := configuration.maxTotal

end ClusterConfiguration

def Configuration.ofDocument {Record : Type} (layout : Json.Layout Record)
    (document : Bytes) : Except Failure Record :=
  (Draft.decodeText layout.decode document).mapError Failure.configuration

/-- Decodes a configuration from the content of a file, if there is such a file. -/
def Configuration.ofFile {Record : Type} (layout : Json.Layout Record)
    (content : Option Bytes) : Except Failure Record :=
  match content with
  | none => .error (.transport .notFound)
  | some document =>
    match Utf8.text? document with
    | none => .error (.transport .invalidText)
    | some _ => Configuration.ofDocument layout document

end SlotClient
