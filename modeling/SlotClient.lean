import SlotClient.Client.Call
import SlotClient.Main
import SlotClient.Pool.Desk
import SlotClient.Wire.Stream
import SlotClient.Proofs.Decimal.Digits
import SlotClient.Proofs.Decimal.Binary64
import SlotClient.Proofs.Decimal.Rounding
import SlotClient.Proofs.Decimal.Shortest
import SlotClient.Proofs.Decimal.Positional
import SlotClient.Proofs.Text.Utf8
import SlotClient.Proofs.Outcome
import SlotClient.Proofs.Json.Numbers
import SlotClient.Proofs.Json.Texts
import SlotClient.Proofs.Json.Written
import SlotClient.Proofs.Json.Decoders
import SlotClient.Proofs.Json.Records
import SlotClient.Proofs.Wire.Frame
import SlotClient.Proofs.Wire.RoundTrip
import SlotClient.Proofs.Wire.Layout
import SlotClient.Proofs.Wire.Truncation
import SlotClient.Proofs.Wire.Soundness
import SlotClient.Proofs.Wire.Acceptance
import SlotClient.Proofs.Wire.Size
import SlotClient.Proofs.Wire.Command
import SlotClient.Proofs.Wire.Stream
import SlotClient.Proofs.Wire.Integer
import SlotClient.Proofs.Slot.Route
import SlotClient.Proofs.Slot.Tag
import SlotClient.Proofs.Slot.Agreement
import SlotClient.Proofs.Slot.Checksum
import SlotClient.Proofs.Command.Request
import SlotClient.Proofs.Command.Dispatch
import SlotClient.Proofs.Command.Decoding
import SlotClient.Proofs.Command.Results
import SlotClient.Proofs.Command.Grammar
import SlotClient.Proofs.Command.Options
import SlotClient.Proofs.Command.MatchReport
import SlotClient.Proofs.Command.Documents
import SlotClient.Proofs.Delimiter
import SlotClient.Proofs.Lookup
import SlotClient.Proofs.Network.Address
import SlotClient.Proofs.Network.Connection
import SlotClient.Proofs.Network.Aspect
import SlotClient.Proofs.Network.History
import SlotClient.Proofs.Network.Dealings
import SlotClient.Proofs.Network.Lifetime
import SlotClient.Proofs.Network.Making
import SlotClient.Proofs.Pool.Lending
import SlotClient.Proofs.Pool.Operations
import SlotClient.Proofs.Pool.Deeds
import SlotClient.Proofs.Pool.Dealings
import SlotClient.Proofs.Pool.Disguise
import SlotClient.Proofs.Pool.Desk
import SlotClient.Proofs.Pool.Conservation
import SlotClient.Proofs.Pool.Acquisition
import SlotClient.Proofs.Pool.Synchrony
import SlotClient.Proofs.Pool.Lifetime
import SlotClient.Proofs.Pool.Service
import SlotClient.Proofs.Pool.Handshakes
import SlotClient.Proofs.Pool.Health
import SlotClient.Proofs.Pool.Reauthentication
import SlotClient.Proofs.Pool.Waiting
import SlotClient.Proofs.Pool.Location
import SlotClient.Proofs.Pool.Confinement
import SlotClient.Proofs.Pool.Rest
import SlotClient.Proofs.Pool.Traffic
import SlotClient.Proofs.Client.Visit
import SlotClient.Proofs.Client.Sending
import SlotClient.Proofs.Client.Cluster
import SlotClient.Proofs.Client.Redirects
import SlotClient.Proofs.Client.Reachability
import SlotClient.Proofs.Client.Turns
import SlotClient.Proofs.Client.Dealings
import SlotClient.Proofs.Client.Rotations
import SlotClient.Proofs.Client.Learning
import SlotClient.Proofs.Client.Hosts
import SlotClient.Proofs.Client.Credentials
import SlotClient.Proofs.Client.Rejection
import SlotClient.Proofs.Client.Rest
import SlotClient.Proofs.Client.Confinement
import SlotClient.Proofs.Client.Tries
import SlotClient.Proofs.Client.Disguise
import SlotClient.Proofs.Client.Agreement
import SlotClient.Proofs.Client.Secrecy
import SlotClient.Proofs.Client.Wording
import SlotClient.Proofs.Client.Documents
