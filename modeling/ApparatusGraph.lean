import ApparatusGraph.Alignment.Basic
import ApparatusGraph.Alignment.Json
import ApparatusGraph.Alignment.Validation
import ApparatusGraph.Calendar
import ApparatusGraph.Call
import ApparatusGraph.Catalogue.Chat
import ApparatusGraph.Catalogue.Script
import ApparatusGraph.Catalogue.Text
import ApparatusGraph.Decimal.Numeral
import ApparatusGraph.Decimal.Shortest
import ApparatusGraph.Engine
import ApparatusGraph.Event
import ApparatusGraph.Fault
import ApparatusGraph.Foundry.Basic
import ApparatusGraph.Foundry.Draft
import ApparatusGraph.Foundry.Kind
import ApparatusGraph.Json.Basic
import ApparatusGraph.Json.Printer
import ApparatusGraph.Json.Reader
import ApparatusGraph.Json.Source
import ApparatusGraph.Json.Token
import ApparatusGraph.Limits.Basic
import ApparatusGraph.Limits.Document
import ApparatusGraph.Limits.Dotenv
import ApparatusGraph.Limits.Environment
import ApparatusGraph.Named
import ApparatusGraph.Order
import ApparatusGraph.Proofs.Alignment.Sound
import ApparatusGraph.Proofs.Registers
import ApparatusGraph.Proofs.Run.Accounting
import ApparatusGraph.Proofs.Run.Await
import ApparatusGraph.Proofs.Run.Boundary
import ApparatusGraph.Proofs.Run.Medium
import ApparatusGraph.Proofs.Run.Path
import ApparatusGraph.Proofs.Run.Replay
import ApparatusGraph.Proofs.Run.Trail
import ApparatusGraph.Proofs.Run.Visit
import ApparatusGraph.Registers
import ApparatusGraph.Run.Operator
import ApparatusGraph.Run.Session
import ApparatusGraph.Run.Together
import ApparatusGraph.Run.Visit
import ApparatusGraph.Text.Blank
import ApparatusGraph.Text.Case
import ApparatusGraph.Text.CaseTable
import ApparatusGraph.Text.HiddenTable
import ApparatusGraph.Text.Outline
import ApparatusGraph.Text.Quoted
import ApparatusGraph.Text.WordTable
import ApparatusGraph.Toml.Document
import ApparatusGraph.Toml.Scalar
import ApparatusGraph.Toml.Table
import ApparatusGraph.Toml.Token
import ApparatusGraph.Trace.Instant
import ApparatusGraph.Trace.Medium
import ApparatusGraph.Trace.RunId
import ApparatusGraph.Trace.Step
import ApparatusGraph.Trace.Waypoint
import ApparatusGraph.Value.Basic
import ApparatusGraph.Value.Json
import ApparatusGraph.Proofs.Alignment.Declaration
import ApparatusGraph.Proofs.Run.Declaration
import ApparatusGraph.Proofs.Run.Ceiling
import ApparatusGraph.Proofs.Run.Calls
import ApparatusGraph.Proofs.Run.Cancellation
import ApparatusGraph.Proofs.Run.Budget
import ApparatusGraph.Proofs.Run.Deadline
import ApparatusGraph.Proofs.Run.Invocations
import ApparatusGraph.Proofs.Run.Served
import ApparatusGraph.Proofs.Run.Outcome
import ApparatusGraph.Proofs.Json.Spacing
import ApparatusGraph.Proofs.Json.Printer
import ApparatusGraph.Proofs.Json.Source
import ApparatusGraph.Proofs.Json.Reader
import ApparatusGraph.Proofs.Json.Presentation
import ApparatusGraph.Proofs.Alignment.Presentation
import ApparatusGraph.Proofs.Alignment.RoundTrip
import ApparatusGraph.Proofs.Foundry.Matching
import ApparatusGraph.Proofs.Run.Contracts
import ApparatusGraph.Proofs.Alignment.Renaming
import ApparatusGraph.Proofs.Run.Renaming
import ApparatusGraph.Proofs.Run.Tracing
import ApparatusGraph.Proofs.Json.Values
import ApparatusGraph.Proofs.Run.Drafting
import ApparatusGraph.Proofs.Value.RoundTrip
import ApparatusGraph.Proofs.Json.Compact
import ApparatusGraph.Proofs.Trace.Lines
import ApparatusGraph.Proofs.Alignment.Rules
import ApparatusGraph.Proofs.Run.Scattering
import ApparatusGraph.Proofs.Foundry.Building
import ApparatusGraph.Proofs.Run.Binding
import ApparatusGraph.Proofs.Catalogue.Contracts
import ApparatusGraph.Proofs.Foundry.Registration
import ApparatusGraph.Proofs.Foundry.Manifest
import ApparatusGraph.Proofs.Limits.Override
import ApparatusGraph.Proofs.Limits.Rounding
import ApparatusGraph.Proofs.Foundry.Settings
import ApparatusGraph.Proofs.Alignment.Resolution
import ApparatusGraph.Proofs.Catalogue.Texts
import ApparatusGraph.Proofs.Trace.Torn
import ApparatusGraph.Proofs.History
import ApparatusGraph.Proofs.Run.Words
