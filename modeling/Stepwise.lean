import Stepwise.Action.Error
import Stepwise.Action.Outward
import Stepwise.Action.Params
import Stepwise.Action.Pausing
import Stepwise.Action.Registry
import Stepwise.Action.Services
import Stepwise.Action.Shaping
import Stepwise.Action.StandIn
import Stepwise.Action.Standard
import Stepwise.Action.Stored
import Stepwise.Command.Arguments
import Stepwise.Command.EnvironmentFile
import Stepwise.Command.Session
import Stepwise.Csv.Record
import Stepwise.Csv.Rows
import Stepwise.Document.Format
import Stepwise.Document.Loading
import Stepwise.Document.Mismatch
import Stepwise.Document.Node
import Stepwise.Document.Playbook
import Stepwise.Document.Reading
import Stepwise.FileTree
import Stepwise.Guard.Basic
import Stepwise.Guard.Evaluation
import Stepwise.Guard.Parser
import Stepwise.Json.Reader
import Stepwise.Json.Token
import Stepwise.Main
import Stepwise.Number.Binary64
import Stepwise.Number.Shortest
import Stepwise.Progress.Checkpoints
import Stepwise.Progress.Monitor
import Stepwise.Progress.Snapshot
import Stepwise.Request.Address
import Stepwise.Request.Client
import Stepwise.Request.Domain
import Stepwise.Request.Domain.Direction
import Stepwise.Request.Domain.Joining
import Stepwise.Request.Domain.Punycode
import Stepwise.Request.Domain.Spelling
import Stepwise.Request.Escape
import Stepwise.Request.Host
import Stepwise.Run.Cancellation
import Stepwise.Run.Context
import Stepwise.Run.Event
import Stepwise.Run.Phase
import Stepwise.Run.Pipeline
import Stepwise.Run.Summary
import Stepwise.Run.Throttle
import Stepwise.Settings
import Stepwise.Store.Buffers
import Stepwise.Store.Collections
import Stepwise.Store.Deduplication
import Stepwise.Table
import Stepwise.Template.Expression
import Stepwise.Template.Path
import Stepwise.Template.Resolution
import Stepwise.Template.Segment
import Stepwise.Text.Base64
import Stepwise.Text.Blank
import Stepwise.Text.Composition
import Stepwise.Text.Letter
import Stepwise.Text.Literal
import Stepwise.Text.Mark
import Stepwise.Text.Numeral
import Stepwise.Text.Packed
import Stepwise.Text.Split
import Stepwise.Text.Utf8
import Stepwise.Text.Visible
import Stepwise.Time.Moment
import Stepwise.Value.Basic
import Stepwise.Value.Lookup
import Stepwise.Value.Reading
import Stepwise.Value.Writer
import Stepwise.Yaml.Cursor
import Stepwise.Yaml.Event
import Stepwise.Yaml.Reader
import Stepwise.Yaml.Scalar
import Stepwise.Yaml.Schema
import Stepwise.Yaml.Token
import Stepwise.Proofs.Run.Stepping
import Stepwise.Proofs.Run.Chronicle
import Stepwise.Proofs.Run.Walk
import Stepwise.Proofs.Run.Closing
import Stepwise.Proofs.Store.Conservation
import Stepwise.Proofs.Text.Cutting
import Stepwise.Proofs.Guard.Composition
import Stepwise.Proofs.Template.Passing
import Stepwise.Proofs.Template.Spelling
import Stepwise.Proofs.Template.RoundTrip
import Stepwise.Proofs.Run.Halting
import Stepwise.Proofs.Action.Serviceless
import Stepwise.Proofs.Run.Erasure
import Stepwise.Proofs.Template.Agreement
import Stepwise.Proofs.Action.Environment
import Stepwise.Proofs.Action.Frame
import Stepwise.Proofs.Text.Numeral
import Stepwise.Proofs.Value.Words
import Stepwise.Proofs.Template.Staging
import Stepwise.Proofs.Guard.Measuring
import Stepwise.Proofs.Guard.RoundTrip
import Stepwise.Proofs.Guard.Filling
import Stepwise.Proofs.Store.Distinct
import Stepwise.Proofs.Selection
import Stepwise.Proofs.Json.Word
import Stepwise.Proofs.Json.Layout
import Stepwise.Proofs.Json.RoundTrip
import Stepwise.Proofs.Document.Entries
import Stepwise.Proofs.Document.RoundTrip
import Stepwise.Proofs.Progress.RoundTrip
import Stepwise.Proofs.Progress.Influence
import Stepwise.Proofs.Progress.Account
import Stepwise.Proofs.Action.Files
import Stepwise.Proofs.Run.Isolation
import Stepwise.Proofs.Template.Lossless
import Stepwise.Proofs.Guard.Unreadable
import Stepwise.Proofs.Template.Grammar
import Stepwise.Proofs.Action.Releasing
import Stepwise.Proofs.Store.Batching
import Stepwise.Proofs.Template.Keeping
import Stepwise.Proofs.Template.Paths
import Stepwise.Proofs.Value.Canonical
import Stepwise.Proofs.Table
import Stepwise.Proofs.Action.Transforming
import Stepwise.Proofs.Action.Undefined
import Stepwise.Proofs.Action.Accounting
import Stepwise.Proofs.Run.Tracking
import Stepwise.Proofs.Number.Rounding
import Stepwise.Proofs.Run.Machine
import Stepwise.Proofs.Run.Pacing
import Stepwise.Proofs.Value.Following
import Stepwise.Proofs.Template.Matching
import Stepwise.Proofs.Run.Sharing
import Stepwise.Proofs.Action.Filtering
import Stepwise.Proofs.Action.Rendered
import Stepwise.Proofs.Guard.Layers
import Stepwise.Proofs.Template.Quoting
import Stepwise.Proofs.Action.Throttling
import Stepwise.Proofs.Command.Layers
import Stepwise.Proofs.Template.Rerouting
import Stepwise.Proofs.Run.Relaying
