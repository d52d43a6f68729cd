import Mooring.Collections.KeyMap
import Mooring.Config.Error
import Mooring.Config.Settings
import Mooring.Engine.Auth
import Mooring.Engine.Client
import Mooring.Engine.Endpoint
import Mooring.Engine.Error
import Mooring.Engine.Inspect
import Mooring.Engine.Logs
import Mooring.Engine.Options
import Mooring.Engine.Request
import Mooring.Engine.Stream
import Mooring.Engine.Url
import Mooring.Float.Binary64
import Mooring.Float.Shortest
import Mooring.Image.Name
import Mooring.Json.Decode
import Mooring.Json.Reader
import Mooring.Json.Value
import Mooring.Json.Writer
import Mooring.Naming
import Mooring.Net.IpAddr
import Mooring.Net.Numeric
import Mooring.Order.Cycle
import Mooring.Order.Declarations
import Mooring.Order.Resolve
import Mooring.Plan.Spec
import Mooring.Ports.Mapper
import Mooring.Ports.Spec
import Mooring.Ports.Table
import Mooring.Record.Decode
import Mooring.Run.Error
import Mooring.Run.Runner
import Mooring.Text.Base64
import Mooring.Text.Bidi
import Mooring.Text.BidiData
import Mooring.Text.Blank
import Mooring.Text.Canonical
import Mooring.Text.CanonicalData
import Mooring.Text.Integer
import Mooring.Text.Percent
import Mooring.Text.Pieces
import Mooring.Text.Regex
import Mooring.Text.Table
import Mooring.Text.Utf8
import Mooring.Text.WordChar
import Mooring.Toml.Build
import Mooring.Toml.Decode
import Mooring.Toml.Document
import Mooring.Toml.Lexical
import Mooring.Toml.Read
import Mooring.Toml.Report
import Mooring.Toml.Syntax
import Mooring.Url.Address
import Mooring.Url.Data
import Mooring.Url.Host
import Mooring.Url.Idna
import Mooring.Url.Punycode
import Mooring.Wait.Checks
import Mooring.Wait.Error
import Mooring.Wait.Poller
import Mooring.Wait.Probes
import Mooring.Proofs.StreamChunks
import Mooring.Proofs.StartOrder
import Mooring.Proofs.StreamAccounting
import Mooring.Proofs.StreamReplay
import Mooring.Proofs.Nesting
import Mooring.Proofs.ReaderTokens
import Mooring.Proofs.ReaderValues
import Mooring.Proofs.ReaderFuel
import Mooring.Proofs.StreamValues
import Mooring.Proofs.PortBindings
import Mooring.Proofs.EngineScript
import Mooring.Proofs.PushCleanup
import Mooring.Proofs.WaitTrace
import Mooring.Proofs.ContainerRequests
import Mooring.Proofs.StartSequence
import Mooring.Proofs.LogChunks
import Mooring.Proofs.CycleSearch
import Mooring.Proofs.OrderFailure
import Mooring.Proofs.CycleCompleteness
import Mooring.Proofs.TextPieces
import Mooring.Proofs.NameMatching
import Mooring.Proofs.ImageRoundTrip
import Mooring.Proofs.LogFrames
import Mooring.Proofs.StampedLines
import Mooring.Proofs.PortResolution
import Mooring.Proofs.StagedSubstitution
import Mooring.Proofs.IndexSearch
import Mooring.Proofs.NumberText
import Mooring.Proofs.MappingText
import Mooring.Proofs.PublishedPorts
import Mooring.Proofs.Teardown
import Mooring.Proofs.LogFollow
import Mooring.Proofs.EventDrain
import Mooring.Proofs.FreshNames
import Mooring.Proofs.ProgressReports
import Mooring.Proofs.LogPatternWait
import Mooring.Proofs.CreateReferences
