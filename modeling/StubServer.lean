import StubServer.Basic
import StubServer.Cli.Arguments
import StubServer.Cli.LogFilter
import StubServer.Cli.Run
import StubServer.Clock.Duration
import StubServer.Clock.Timestamp
import StubServer.Config.ServerConfig
import StubServer.Config.StubDefinition
import StubServer.Config.Template
import StubServer.Decimal.FloatText
import StubServer.Decimal.Shortest
import StubServer.Document.Fault
import StubServer.Document.Node
import StubServer.Document.Reader
import StubServer.Document.Scalar
import StubServer.Http.Basic
import StubServer.Http.Headers
import StubServer.Http.Uri
import StubServer.Http.Wire
import StubServer.Json.NumberText
import StubServer.Json.Text
import StubServer.Json.Value
import StubServer.Json.Writer
import StubServer.Matching.Build
import StubServer.Matching.Decoder
import StubServer.Matching.Matcher
import StubServer.Matching.Specification
import StubServer.Matching.StringMatcher
import StubServer.Matching.StringTest
import StubServer.Regex.CharClass
import StubServer.Regex.Names
import StubServer.Regex.Pattern
import StubServer.Regex.Reader
import StubServer.Request.Basic
import StubServer.Request.Body
import StubServer.Request.Journal
import StubServer.Request.Recorded
import StubServer.Response.Basic
import StubServer.Response.Definition
import StubServer.Response.Event
import StubServer.Response.Head
import StubServer.Response.Playback
import StubServer.Response.Pump
import StubServer.Server.Basic
import StubServer.Server.Exchange
import StubServer.Server.Handling
import StubServer.Server.Shutdown
import StubServer.Server.Timeouts
import StubServer.Server.Verification
import StubServer.Shared.Cell
import StubServer.Stub.Basic
import StubServer.Stub.Configuration
import StubServer.Stub.Find
import StubServer.Stub.Registry
import StubServer.Text.CaseContext
import StubServer.Text.CaseTable
import StubServer.Text.Casing
import StubServer.Text.Category
import StubServer.Text.Hidden
import StubServer.Text.Quoted
import StubServer.Text.Runs
import StubServer.Text.Script
import StubServer.Text.Traits
import StubServer.Text.Utf8
import StubServer.Yaml.Cursor
import StubServer.Yaml.Lexer
import StubServer.Yaml.ScalarText
import StubServer.Yaml.Text
import StubServer.Yaml.Tree
import StubServer.Main
import StubServer.Proofs.Success
import StubServer.Proofs.Shared.Update
import StubServer.Proofs.Shared.Queue
import StubServer.Proofs.Stub.Ordering
import StubServer.Proofs.Matching.Calm
import StubServer.Proofs.Shared.Linearizable
import StubServer.Proofs.Stub.Steps
import StubServer.Proofs.Stub.Changes
import StubServer.Proofs.Stub.Runs
import StubServer.Proofs.Stub.Turns
import StubServer.Proofs.Stub.SingleUse
import StubServer.Proofs.Stub.History
import StubServer.Proofs.Request.Reading
import StubServer.Proofs.Request.Readers
import StubServer.Proofs.Request.Readership
import StubServer.Proofs.Stub.Selection
import StubServer.Proofs.Stub.Answering
import StubServer.Proofs.Stub.Company
import StubServer.Proofs.Stub.Snapshot
import StubServer.Proofs.Response.EventStream
import StubServer.Proofs.Response.EventFraming
import StubServer.Proofs.Response.EventReading
import StubServer.Proofs.Response.Carriage
import StubServer.Proofs.Response.Delivery
import StubServer.Proofs.Response.Restraint
import StubServer.Proofs.Server.Service
import StubServer.Proofs.Server.Rounds
import StubServer.Proofs.Server.Accounts
import StubServer.Proofs.Server.Usage
import StubServer.Proofs.Server.Draining
import StubServer.Proofs.Server.Stopping
import StubServer.Proofs.Server.Alone
import StubServer.Proofs.Server.Containment
import StubServer.Proofs.Server.Tally
import StubServer.Proofs.Server.Finding
import StubServer.Proofs.Server.Schedules
import StubServer.Proofs.Server.Serial
import StubServer.Proofs.Server.Script
import StubServer.Proofs.Server.Interleavings
import StubServer.Proofs.Stub.Verbosity
import StubServer.Proofs.Response.Verbosity
import StubServer.Proofs.Json.Reordering
import StubServer.Proofs.Config.Template
import StubServer.Proofs.Config.Definitions
import StubServer.Proofs.Server.Startup
import StubServer.Proofs.Server.Verbosity
import StubServer.Proofs.Document.RoundTrip
import StubServer.Proofs.Document.Layout
import StubServer.Proofs.Config.RoundTrip
import StubServer.Proofs.Matching.Criteria
import StubServer.Proofs.Response.Timetable
import StubServer.Proofs.Stub.Effects
import StubServer.Proofs.Request.Drained
import StubServer.Proofs.Stub.BodyUse
import StubServer.Proofs.Text.Lowering
import StubServer.Proofs.Matching.IgnoringCase
import StubServer.Proofs.Matching.HeaderForms
import StubServer.Proofs.Config.Spellings
import StubServer.Proofs.Config.HeaderEntries
import StubServer.Proofs.Http.Headers
import StubServer.Proofs.Response.Completion
import StubServer.Proofs.Config.EventRoutes
import StubServer.Proofs.Json.Literals
import StubServer.Proofs.Json.RoundTrip
import StubServer.Proofs.Json.TypedTrees
import StubServer.Proofs.Matching.Forms
import StubServer.Proofs.Request.Bookkeeping
import StubServer.Proofs.Request.Publications
import StubServer.Proofs.Stub.Contention
import StubServer.Proofs.Server.Panics
import StubServer.Proofs.Config.JsonBodies
