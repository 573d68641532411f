import PppoeSetup.Config.Diagnostics
import PppoeSetup.Config.Fault
import PppoeSetup.Config.Reading
import PppoeSetup.Config.Settings
import PppoeSetup.Connection
import PppoeSetup.ControlSocket
import PppoeSetup.Decimal.Binary64
import PppoeSetup.Decimal.Shortest
import PppoeSetup.Discovery.Async
import PppoeSetup.Discovery.Configured
import PppoeSetup.Discovery.Socket
import PppoeSetup.Duration
import PppoeSetup.Errno
import PppoeSetup.EtherType
import PppoeSetup.InterfaceName
import PppoeSetup.Kernel.Event
import PppoeSetup.Kernel.Program
import PppoeSetup.Kernel.Request
import PppoeSetup.Kernel.Simulated
import PppoeSetup.Kernel.SystemCall
import PppoeSetup.Kernel.Trace
import PppoeSetup.Logging.Directive
import PppoeSetup.Logging.Filter
import PppoeSetup.Logging.Pattern
import PppoeSetup.Logging.Pattern.Atom
import PppoeSetup.Logging.Pattern.Class
import PppoeSetup.Logging.Record
import PppoeSetup.Logging.Severity
import PppoeSetup.Logging.Subscriber
import PppoeSetup.MacAddress
import PppoeSetup.SetupError
import PppoeSetup.Text.Blank
import PppoeSetup.Text.Hex
import PppoeSetup.Text.Letter
import PppoeSetup.Text.Number
import PppoeSetup.Text.Pieces
import PppoeSetup.Text.Printable
import PppoeSetup.Text.Quoted
import PppoeSetup.Text.Ranges
import PppoeSetup.Toml.DateTime
import PppoeSetup.Toml.Document
import PppoeSetup.Toml.Number
import PppoeSetup.Toml.Repetition
import PppoeSetup.Toml.Table
import PppoeSetup.Toml.Text
import PppoeSetup.Toml.Value
import PppoeSetup.Traffic
import PppoeSetup.Wire.Buffer
import PppoeSetup.Wire.LinkAddress
import PppoeSetup.Wire.SessionAddress
import PppoeSetup.Wire.TimeInterval
import PppoeSetup.Workbench.Endpoint
import PppoeSetup.Workbench.Operation
import PppoeSetup.Proofs.Kernel.Inversion
import PppoeSetup.Proofs.Course.Control
import PppoeSetup.Proofs.Course.Connection
import PppoeSetup.Proofs.Course.Discovery
import PppoeSetup.Proofs.Course.Workbench
import PppoeSetup.Proofs.Runs
import PppoeSetup.Proofs.Readiness
import PppoeSetup.Proofs.Ledger.Rules
import PppoeSetup.Proofs.Ledger.Courses
import PppoeSetup.Proofs.Ledger.Endpoints
import PppoeSetup.Proofs.Kernel.Descriptors
import PppoeSetup.Proofs.Course.Closings
import PppoeSetup.Proofs.Ledger.Runs
import PppoeSetup.Proofs.Ownership
import PppoeSetup.Proofs.CallOrder
import PppoeSetup.Proofs.AllOrNothing
import PppoeSetup.Proofs.Kernel.Lawful
import PppoeSetup.Proofs.Course.Refusals
import PppoeSetup.Proofs.FirstRefusal
import PppoeSetup.Proofs.InterfaceNames
import PppoeSetup.Proofs.Course.Calls
import PppoeSetup.Proofs.Course.Facts
import PppoeSetup.Proofs.OneInterface
import PppoeSetup.Proofs.Kernel.Use
import PppoeSetup.Proofs.Anonymous
import PppoeSetup.Proofs.SetupPaths
import PppoeSetup.Proofs.Twin.Similar
import PppoeSetup.Proofs.Twin.Machine
import PppoeSetup.Proofs.Twin.Connection
import PppoeSetup.Proofs.Twin.Discovery
import PppoeSetup.Proofs.Twin.Endpoint
import PppoeSetup.Proofs.Twin.Workbench
import PppoeSetup.Proofs.Noninterference
import PppoeSetup.Proofs.History
import PppoeSetup.Proofs.Counters
import PppoeSetup.Proofs.Accounting
import PppoeSetup.Proofs.Polling
import PppoeSetup.Proofs.ConnectLimit
import PppoeSetup.Proofs.SessionAddresses
import PppoeSetup.Proofs.Prediction
import PppoeSetup.Proofs.Config.Tables
import PppoeSetup.Proofs.Config.Meaning
import PppoeSetup.Proofs.Ledger.Frame
import PppoeSetup.Proofs.Ledger.Bound
import PppoeSetup.Proofs.Kernel.StatusFlags
import PppoeSetup.Proofs.Course.StatusFlags
import PppoeSetup.Proofs.Course.Modes
import PppoeSetup.Proofs.Modes
import PppoeSetup.Proofs.Toml.Lines
import PppoeSetup.Proofs.Config.Rendering
import PppoeSetup.Proofs.Toml.Edits
import PppoeSetup.Proofs.Config.RoundTrip
import PppoeSetup.Proofs.AddressTexts
import PppoeSetup.Proofs.ConfiguredLimit
import PppoeSetup.Proofs.ValidNames
import PppoeSetup.Proofs.GivenLimit
import PppoeSetup.Proofs.Course.Tending
import PppoeSetup.Proofs.ControlLife
import PppoeSetup.Proofs.Logging.Levels
import PppoeSetup.Proofs.Logging.Listed
import PppoeSetup.Proofs.Logging.Precedence
import PppoeSetup.Proofs.Text.Quoted
import PppoeSetup.Proofs.Config.Remarks
import PppoeSetup.Proofs.Text.Utf8
import PppoeSetup.Proofs.Config.Files
import PppoeSetup.Proofs.WatchedModes
import PppoeSetup.Proofs.Course.Indices
import PppoeSetup.Proofs.LinkAddresses
