import AddRate.Config.Json
import AddRate.Diagnostics.Filter
import AddRate.Main
import AddRate.Simulation.Recorder
import AddRate.Simulation.Sink
import AddRate.Proofs.Perform
import AddRate.Proofs.Counts
import AddRate.Proofs.Memory
import AddRate.Proofs.SubTest
import AddRate.Proofs.Isolation
import AddRate.Proofs.Streaming
import AddRate.Proofs.Config
import AddRate.Proofs.Containment
import AddRate.Proofs.Coverage
import AddRate.Proofs.Protocol
import AddRate.Proofs.Overflow
import AddRate.Proofs.Sizes
import AddRate.Proofs.Selection
import AddRate.Proofs.Json.Number
import AddRate.Proofs.Json.Grammar
import AddRate.Proofs.Json.Token
import AddRate.Proofs.Json.Lexing
import AddRate.Proofs.Json.Reading
import AddRate.Proofs.Json.RoundTrip
import AddRate.Proofs.Lines
import AddRate.Proofs.Report
import AddRate.Proofs.Construction
import AddRate.Proofs.Splitting
import AddRate.Proofs.Output
import AddRate.Proofs.Process
import AddRate.Proofs.Naming
import AddRate.Proofs.Settings
import AddRate.Proofs.Binary.Closeness
import AddRate.Proofs.Binary.Order
import AddRate.Proofs.RateOrder
import AddRate.Proofs.Rate
import AddRate.Proofs.Dialogue
import AddRate.Proofs.Recovery
import AddRate.Proofs.Description
import AddRate.Proofs.Rendering
import AddRate.Proofs.Views
import AddRate.Proofs.Filling
import AddRate.Proofs.TimedTest
import AddRate.Proofs.Faultless
import AddRate.Proofs.Binding
