import TelemetryGateway.Access.Credentials
import TelemetryGateway.Access.Header
import TelemetryGateway.Admission.Arithmetic
import TelemetryGateway.Admission.Bucket
import TelemetryGateway.Admission.Limiter
import TelemetryGateway.Admission.Rate
import TelemetryGateway.CommandLine.Arguments
import TelemetryGateway.CommandLine.Pages
import TelemetryGateway.Gateway.Assembly
import TelemetryGateway.Gateway.Refusal
import TelemetryGateway.Gateway.State
import TelemetryGateway.Grpc.Service
import TelemetryGateway.Health.Check
import TelemetryGateway.Health.Timeout
import TelemetryGateway.Http.Cors
import TelemetryGateway.Http.Message
import TelemetryGateway.Http.Router
import TelemetryGateway.Http.Target
import TelemetryGateway.Ingest.Acknowledgment
import TelemetryGateway.Ingest.Dispatch
import TelemetryGateway.Ingest.Document
import TelemetryGateway.Ingest.Identifier
import TelemetryGateway.Ingest.Indexer
import TelemetryGateway.Ingest.Validation
import TelemetryGateway.Json.Numeral
import TelemetryGateway.Json.Reader
import TelemetryGateway.Json.Tree
import TelemetryGateway.Json.Value
import TelemetryGateway.Lifecycle.Run
import TelemetryGateway.Lifecycle.Shutdown
import TelemetryGateway.Lifecycle.Supervisor
import TelemetryGateway.Lifecycle.Task
import TelemetryGateway.Log.Event
import TelemetryGateway.Log.Filter
import TelemetryGateway.Log.Writing
import TelemetryGateway.Main
import TelemetryGateway.Metrics.Counters
import TelemetryGateway.Metrics.Exposition
import TelemetryGateway.Net.Address
import TelemetryGateway.Number.Binary
import TelemetryGateway.Number.Decimal
import TelemetryGateway.Number.Real
import TelemetryGateway.Proofs.Access.Credentials
import TelemetryGateway.Proofs.Admission.Bounds
import TelemetryGateway.Proofs.Admission.Exact
import TelemetryGateway.Proofs.Admission.Floats
import TelemetryGateway.Proofs.Admission.History
import TelemetryGateway.Proofs.Admission.Period
import TelemetryGateway.Proofs.Admission.Rounded
import TelemetryGateway.Proofs.Admission.Visits
import TelemetryGateway.Proofs.Gateway.Accounting
import TelemetryGateway.Proofs.Gateway.Assembly
import TelemetryGateway.Proofs.Gateway.ByteStrings
import TelemetryGateway.Proofs.Gateway.Credentials
import TelemetryGateway.Proofs.Gateway.Effects
import TelemetryGateway.Proofs.Gateway.HandOver
import TelemetryGateway.Proofs.Gateway.Isolation
import TelemetryGateway.Proofs.Gateway.Parity
import TelemetryGateway.Proofs.Gateway.Stages
import TelemetryGateway.Proofs.Gateway.Traffic
import TelemetryGateway.Proofs.Gateway.Undecodable
import TelemetryGateway.Proofs.Health.Target
import TelemetryGateway.Proofs.Http.CrossSite
import TelemetryGateway.Proofs.Http.Policy
import TelemetryGateway.Proofs.Ingest.Delivery
import TelemetryGateway.Proofs.Ingest.Document
import TelemetryGateway.Proofs.Ingest.Identifier
import TelemetryGateway.Proofs.Ingest.Validation
import TelemetryGateway.Proofs.Json.Grammar
import TelemetryGateway.Proofs.Json.Numeral
import TelemetryGateway.Proofs.Json.Text
import TelemetryGateway.Proofs.Json.Value
import TelemetryGateway.Proofs.Lifecycle.Shutdown
import TelemetryGateway.Proofs.Lifecycle.Supervisor
import TelemetryGateway.Proofs.Metrics.Conservation
import TelemetryGateway.Proofs.Metrics.Counting
import TelemetryGateway.Proofs.Metrics.Histogram
import TelemetryGateway.Proofs.Metrics.Lines
import TelemetryGateway.Proofs.Metrics.Page
import TelemetryGateway.Proofs.Net.Address
import TelemetryGateway.Proofs.Net.Endpoint
import TelemetryGateway.Proofs.Number.Double
import TelemetryGateway.Proofs.Number.Mantissa
import TelemetryGateway.Proofs.Number.Nearest
import TelemetryGateway.Proofs.Number.Operations
import TelemetryGateway.Proofs.Number.Quantity
import TelemetryGateway.Proofs.Number.Unpacked
import TelemetryGateway.Proofs.Settings.Completion
import TelemetryGateway.Proofs.Settings.Overrides
import TelemetryGateway.Proofs.Settings.Reading
import TelemetryGateway.Proofs.Telemetry.Attributes
import TelemetryGateway.Proofs.Telemetry.Form.Kind
import TelemetryGateway.Proofs.Telemetry.Form.Members
import TelemetryGateway.Proofs.Telemetry.Form.Positional
import TelemetryGateway.Proofs.Telemetry.Form.Rewriting
import TelemetryGateway.Proofs.Telemetry.Form.RoundTrip
import TelemetryGateway.Proofs.Telemetry.Form.Scalars
import TelemetryGateway.Proofs.Telemetry.Form.Spelling
import TelemetryGateway.Proofs.Telemetry.Messages
import TelemetryGateway.Proofs.Telemetry.Vocabulary
import TelemetryGateway.Proofs.Telemetry.Wire.Carry
import TelemetryGateway.Proofs.Telemetry.Wire.Concatenation
import TelemetryGateway.Proofs.Telemetry.Wire.Field
import TelemetryGateway.Proofs.Telemetry.Wire.Framing
import TelemetryGateway.Proofs.Telemetry.Wire.Kind
import TelemetryGateway.Proofs.Telemetry.Wire.Message
import TelemetryGateway.Proofs.Telemetry.Wire.Rewriting
import TelemetryGateway.Proofs.Telemetry.Wire.RoundTrip
import TelemetryGateway.Proofs.Telemetry.Wire.Size
import TelemetryGateway.Proofs.Telemetry.Wire.Varint
import TelemetryGateway.Proofs.Text.Base64
import TelemetryGateway.Proofs.Text.Base64.Spelling
import TelemetryGateway.Proofs.Text.Bits
import TelemetryGateway.Proofs.Text.Hex
import TelemetryGateway.Proofs.Text.Integer
import TelemetryGateway.Proofs.Text.Octets
import TelemetryGateway.Settings.Basic
import TelemetryGateway.Settings.Completion
import TelemetryGateway.Settings.Location
import TelemetryGateway.Settings.Path
import TelemetryGateway.Settings.Reading
import TelemetryGateway.Settings.Sources
import TelemetryGateway.Telemetry.Attributes
import TelemetryGateway.Telemetry.Form.Fault
import TelemetryGateway.Telemetry.Form.Kind
import TelemetryGateway.Telemetry.Form.Message
import TelemetryGateway.Telemetry.Packet
import TelemetryGateway.Telemetry.Vocabulary
import TelemetryGateway.Telemetry.Wire.Field
import TelemetryGateway.Telemetry.Wire.Kind
import TelemetryGateway.Telemetry.Wire.Message
import TelemetryGateway.Telemetry.Wire.Varint
import TelemetryGateway.Text.Alphanumeric
import TelemetryGateway.Text.Base64
import TelemetryGateway.Text.Blank
import TelemetryGateway.Text.Boundaries
import TelemetryGateway.Text.Hex
import TelemetryGateway.Text.Integer
import TelemetryGateway.Text.Letters
import TelemetryGateway.Text.Octets
import TelemetryGateway.Text.Printable
import TelemetryGateway.Text.Quoted
import TelemetryGateway.Text.Terminal
import TelemetryGateway.Yaml.Cursor
import TelemetryGateway.Yaml.Document
import TelemetryGateway.Yaml.Node
import TelemetryGateway.Yaml.Scalar
import TelemetryGateway.Yaml.Tag
import TelemetryGateway.Yaml.Token
import TelemetryGateway.Yaml.Value
