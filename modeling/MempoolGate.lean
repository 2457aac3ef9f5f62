import MempoolGate.Chain.Bytes
import MempoolGate.Chain.Contract
import MempoolGate.Chain.Network
import MempoolGate.Chain.Transaction
import MempoolGate.Chain.Wei
import MempoolGate.Digest.Keccak256
import MempoolGate.Digest.Sha256
import MempoolGate.Error
import MempoolGate.Feed.Event
import MempoolGate.Feed.Line
import MempoolGate.Feed.Pump
import MempoolGate.Gateway.Session
import MempoolGate.Gateway.State
import MempoolGate.Http.Body
import MempoolGate.Http.Encoding
import MempoolGate.Http.Handlers
import MempoolGate.Http.MediaType
import MempoolGate.Http.Payload
import MempoolGate.Http.Request
import MempoolGate.Http.Response
import MempoolGate.Http.Route
import MempoolGate.Http.Router
import MempoolGate.Idna.Domain
import MempoolGate.Idna.Label
import MempoolGate.Idna.LabelTable
import MempoolGate.Idna.Mapping
import MempoolGate.Idna.MappingTable
import MempoolGate.Idna.Punycode
import MempoolGate.Json.Decode
import MempoolGate.Json.Document
import MempoolGate.Json.Numeral
import MempoolGate.Json.Value
import MempoolGate.Json.Writer
import MempoolGate.Number.Binary64
import MempoolGate.Number.Literal
import MempoolGate.Plan
import MempoolGate.Quota.Gate
import MempoolGate.Quota.Key
import MempoolGate.Quota.Store
import MempoolGate.Registry
import MempoolGate.Rehearsal.Feeds
import MempoolGate.Rehearsal.Keys
import MempoolGate.Rehearsal.Mempool
import MempoolGate.Rehearsal.Socket
import MempoolGate.Rehearsal.World
import MempoolGate.Release
import MempoolGate.Risk.Classifier
import MempoolGate.Risk.Level
import MempoolGate.Risk.Selector
import MempoolGate.Rpc.Client
import MempoolGate.Rpc.Clients
import MempoolGate.Rpc.Endpoint
import MempoolGate.Rpc.Joint
import MempoolGate.Rpc.Quantity
import MempoolGate.Rpc.Reply
import MempoolGate.Rpc.Status
import MempoolGate.Session.Rotation
import MempoolGate.Settings
import MempoolGate.Simulation.Engine
import MempoolGate.Simulation.Request
import MempoolGate.Table
import MempoolGate.Telemetry
import MempoolGate.Text.Blank
import MempoolGate.Text.CaseTable
import MempoolGate.Text.CharTable
import MempoolGate.Text.Decimal
import MempoolGate.Text.Find
import MempoolGate.Text.Hex
import MempoolGate.Text.Lowercase
import MempoolGate.Text.NormalForm
import MempoolGate.Text.NormalTable
import MempoolGate.Text.Percent
import MempoolGate.Text.PrintTable
import MempoolGate.Text.Quoted
import MempoolGate.Text.Utf8
import MempoolGate.Url.Basic
import MempoolGate.Url.Escape
import MempoolGate.Url.Fault
import MempoolGate.Url.Host
import MempoolGate.Url.Ipv4
import MempoolGate.Url.Ipv6
import MempoolGate.Url.Path
import MempoolGate.Url.Reader
import MempoolGate.Uuid
import MempoolGate.Proofs.Plan
import MempoolGate.Proofs.Quota.Operations
import MempoolGate.Proofs.Text.Trimming
import MempoolGate.Proofs.Quota.Index
import MempoolGate.Proofs.Quota.Verdict
import MempoolGate.Proofs.Quota.History
import MempoolGate.Proofs.Quota.Exhaustion
import MempoolGate.Proofs.Quota.Race
import MempoolGate.Proofs.Feed.Delivery
import MempoolGate.Proofs.Feed.Order
import MempoolGate.Proofs.Gateway.Session
import MempoolGate.Proofs.Feed.Accounting
import MempoolGate.Proofs.Feed.Line
import MempoolGate.Proofs.Gateway.Resources
import MempoolGate.Proofs.Http.Ledger
import MempoolGate.Proofs.Simulation.Exchange
import MempoolGate.Proofs.Number.Digits
import MempoolGate.Proofs.Chain.Spelling
import MempoolGate.Proofs.Chain.Address
import MempoolGate.Proofs.Chain.Native
import MempoolGate.Proofs.Json.Members
import MempoolGate.Proofs.Registry
import MempoolGate.Proofs.Http.Body
import MempoolGate.Proofs.Http.Handover
import MempoolGate.Proofs.Rpc.Client
import MempoolGate.Proofs.Rpc.Reply
import MempoolGate.Proofs.Http.Wiring
import MempoolGate.Proofs.Session.Rotation
import MempoolGate.Proofs.Gateway.Turns
import MempoolGate.Proofs.Http.Agreement
import MempoolGate.Proofs.Quota.Representation
import MempoolGate.Proofs.Quota.Insertion
import MempoolGate.Proofs.Risk.Score
import MempoolGate.Proofs.Rpc.Interleaving
import MempoolGate.Proofs.Text.Folding
import MempoolGate.Proofs.Gateway.Resolution
import MempoolGate.Proofs.Rpc.Numbers
import MempoolGate.Proofs.Gateway.Listing
import MempoolGate.Proofs.Rpc.Sharing
import MempoolGate.Proofs.Feed.Backlog
import MempoolGate.Proofs.Rpc.Masking
import MempoolGate.Proofs.Except
import MempoolGate.Proofs.Json.Reading
import MempoolGate.Proofs.Json.Shape
import MempoolGate.Proofs.Rpc.Envelope
import MempoolGate.Proofs.Rpc.Timeout
import MempoolGate.Proofs.Http.Lookup
import MempoolGate.Proofs.Http.Presentation
import MempoolGate.Proofs.Http.Amount
import MempoolGate.Proofs.Settings.Endpoints
import MempoolGate.Proofs.Settings.Configuration
