import EditorLink.Command.Address
import EditorLink.Command.Arguments
import EditorLink.Command.Run
import EditorLink.Correlation.Callers
import EditorLink.Correlation.Table
import EditorLink.Correlation.Ticket
import EditorLink.Decimal.Numeral
import EditorLink.Decimal.Shortest
import EditorLink.Framing.Decoder
import EditorLink.Framing.Encoder
import EditorLink.Framing.Fault
import EditorLink.Framing.Header
import EditorLink.Framing.Sink
import EditorLink.Framing.Source
import EditorLink.Json.Double
import EditorLink.Json.Fault
import EditorLink.Json.Reader
import EditorLink.Json.Shape
import EditorLink.Json.Skip
import EditorLink.Json.Value
import EditorLink.Json.Writer
import EditorLink.Main
import EditorLink.Message.CallFault
import EditorLink.Message.ErrorObject
import EditorLink.Message.ErrorText
import EditorLink.Message.Incoming
import EditorLink.Message.Outgoing
import EditorLink.Message.RequestId
import EditorLink.Proofs.Command.Configuration
import EditorLink.Proofs.Command.ExitStatus
import EditorLink.Proofs.Correlation.Awaiting
import EditorLink.Proofs.Correlation.Closing
import EditorLink.Proofs.Correlation.Deliveries
import EditorLink.Proofs.Correlation.Desk
import EditorLink.Proofs.Correlation.Forgetting
import EditorLink.Proofs.Correlation.Lifetime
import EditorLink.Proofs.Correlation.Representation
import EditorLink.Proofs.Correlation.Settling
import EditorLink.Proofs.Decimal.Digits
import EditorLink.Proofs.Framing.Accounting
import EditorLink.Proofs.Framing.Arrivals
import EditorLink.Proofs.Framing.BoundedSink
import EditorLink.Proofs.Framing.Capacity
import EditorLink.Proofs.Framing.Chunks
import EditorLink.Proofs.Framing.Cuttings
import EditorLink.Proofs.Framing.Decoding
import EditorLink.Proofs.Framing.EndMark
import EditorLink.Proofs.Framing.Grammar
import EditorLink.Proofs.Framing.Header
import EditorLink.Proofs.Framing.Reader
import EditorLink.Proofs.Framing.RoundTrip
import EditorLink.Proofs.Framing.Segments
import EditorLink.Proofs.Framing.Spellings
import EditorLink.Proofs.Framing.Transparency
import EditorLink.Proofs.Json.Members
import EditorLink.Proofs.Json.RoundTrip
import EditorLink.Proofs.Json.Scalars
import EditorLink.Proofs.Json.Shapes
import EditorLink.Proofs.Message.CallAndAnswer
import EditorLink.Proofs.Message.Classification
import EditorLink.Proofs.Message.ErrorReaders
import EditorLink.Proofs.Message.HandlerFaults
import EditorLink.Proofs.Service.CompilationInfo
import EditorLink.Proofs.Service.Params
import EditorLink.Proofs.Service.RoundTrip
import EditorLink.Proofs.Service.Transcript
import EditorLink.Proofs.Session.Answers
import EditorLink.Proofs.Session.Books
import EditorLink.Proofs.Session.Core
import EditorLink.Proofs.Session.Delivery
import EditorLink.Proofs.Session.Dispatch
import EditorLink.Proofs.Session.Errands
import EditorLink.Proofs.Session.Fatality
import EditorLink.Proofs.Session.Inbound
import EditorLink.Proofs.Session.Interleaving
import EditorLink.Proofs.Session.Ledger
import EditorLink.Proofs.Session.Manners
import EditorLink.Proofs.Session.Numbering
import EditorLink.Proofs.Session.OneAnswer
import EditorLink.Proofs.Session.Precedence
import EditorLink.Proofs.Session.Pursuit
import EditorLink.Proofs.Session.Quiet
import EditorLink.Proofs.Session.Reading
import EditorLink.Proofs.Session.Refusal
import EditorLink.Proofs.Session.Scene
import EditorLink.Proofs.Session.Simulation
import EditorLink.Proofs.Session.Speech
import EditorLink.Proofs.Session.Standing
import EditorLink.Proofs.Session.Tasks
import EditorLink.Proofs.Session.Teardown
import EditorLink.Proofs.Session.Tellings
import EditorLink.Proofs.Session.Wire
import EditorLink.Proofs.Settings.Overlay
import EditorLink.Proofs.Text.Boundaries
import EditorLink.Proofs.Text.Utf8
import EditorLink.Proofs.Toml.Distinct
import EditorLink.Service.Lifecycle
import EditorLink.Service.Options
import EditorLink.Service.Payload
import EditorLink.Session.Environment
import EditorLink.Session.Handler
import EditorLink.Session.Observed
import EditorLink.Session.Rehearsal
import EditorLink.Session.Routing
import EditorLink.Session.Schedule
import EditorLink.Session.State
import EditorLink.Session.Working
import EditorLink.Session.Writing
import EditorLink.Settings
import EditorLink.Text.Blank
import EditorLink.Text.Elapsed
import EditorLink.Text.Hidden
import EditorLink.Text.Quoted
import EditorLink.Text.Utf8
import EditorLink.Toml.Quoted
import EditorLink.Toml.Reader
import EditorLink.Toml.Scalar
import EditorLink.Toml.Tree
import EditorLink.Toml.Value
