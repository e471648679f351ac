import Vicinity.Command.Flag
import Vicinity.Command.Line
import Vicinity.Command.Run
import Vicinity.Command.Scan
import Vicinity.Config.Layers
import Vicinity.Config.Sources
import Vicinity.Config.Value
import Vicinity.Dataset
import Vicinity.Distance
import Vicinity.Encoded
import Vicinity.Engine
import Vicinity.Error
import Vicinity.Files
import Vicinity.Graph.Basic
import Vicinity.Graph.Insert
import Vicinity.Graph.Level
import Vicinity.Graph.Search
import Vicinity.Graph.Select
import Vicinity.Graph.Visited
import Vicinity.Host.Handles
import Vicinity.Host.Operations
import Vicinity.Host.Params
import Vicinity.Index.Builtin
import Vicinity.Index.Dense
import Vicinity.Index.Exact
import Vicinity.Index.Layered
import Vicinity.Index.Seam
import Vicinity.Ini.Document
import Vicinity.Json.Fields
import Vicinity.Json.Number
import Vicinity.Json.Printer
import Vicinity.Json.Reader
import Vicinity.Json.Value
import Vicinity.Json5.Document
import Vicinity.Main
import Vicinity.Manifest
import Vicinity.Number.Binary
import Vicinity.Number.Decimal
import Vicinity.Number.Literal
import Vicinity.Number.Single
import Vicinity.Params
import Vicinity.Proofs.Acceptance
import Vicinity.Proofs.Calls
import Vicinity.Proofs.CheckedBits
import Vicinity.Proofs.Dataset
import Vicinity.Proofs.Engine
import Vicinity.Proofs.Files
import Vicinity.Proofs.Forms
import Vicinity.Proofs.Graph.Answers
import Vicinity.Proofs.Graph.BackLinks
import Vicinity.Proofs.Graph.Beam
import Vicinity.Proofs.Graph.Build
import Vicinity.Proofs.Graph.Crowding
import Vicinity.Proofs.Graph.Descent
import Vicinity.Proofs.Graph.Diverse
import Vicinity.Proofs.Graph.Findable
import Vicinity.Proofs.Graph.Freshness
import Vicinity.Proofs.Graph.Growth
import Vicinity.Proofs.Graph.Insertion
import Vicinity.Proofs.Graph.LevelSearch
import Vicinity.Proofs.Graph.Lockstep
import Vicinity.Proofs.Graph.Marks
import Vicinity.Proofs.Graph.Reach
import Vicinity.Proofs.Graph.Relabel
import Vicinity.Proofs.Graph.Reread
import Vicinity.Proofs.Graph.Select
import Vicinity.Proofs.Graph.Sizes
import Vicinity.Proofs.Graph.Table
import Vicinity.Proofs.Graph.Ties
import Vicinity.Proofs.Graph.Widening
import Vicinity.Proofs.Host.Handles
import Vicinity.Proofs.Host.Preloading
import Vicinity.Proofs.Host.Registration
import Vicinity.Proofs.Host.Session
import Vicinity.Proofs.Host.Warmup
import Vicinity.Proofs.Index.Agreement
import Vicinity.Proofs.Index.Consistency
import Vicinity.Proofs.Index.Crowding
import Vicinity.Proofs.Index.FailedBuild
import Vicinity.Proofs.Index.Failure
import Vicinity.Proofs.Index.Layered
import Vicinity.Proofs.Index.Lifecycle
import Vicinity.Proofs.Index.Persistence
import Vicinity.Proofs.Index.Query
import Vicinity.Proofs.Index.Reference
import Vicinity.Proofs.Index.Relabel
import Vicinity.Proofs.Index.Reloaded
import Vicinity.Proofs.Index.Sizes
import Vicinity.Proofs.Index.Ties
import Vicinity.Proofs.Jaccard
import Vicinity.Proofs.Json.Numbers
import Vicinity.Proofs.Json.Reading
import Vicinity.Proofs.Json.Records
import Vicinity.Proofs.Json.Scaling
import Vicinity.Proofs.Json.Singles
import Vicinity.Proofs.Json.Strings
import Vicinity.Proofs.Number.Digits
import Vicinity.Proofs.Number.Doubles
import Vicinity.Proofs.Number.Margin
import Vicinity.Proofs.Number.Midpoints
import Vicinity.Proofs.Number.Nearest
import Vicinity.Proofs.Number.Rounding
import Vicinity.Proofs.Number.Shortest
import Vicinity.Proofs.PackedBits
import Vicinity.Proofs.Packing
import Vicinity.Proofs.Params
import Vicinity.Proofs.Queue
import Vicinity.Proofs.Ranking
import Vicinity.Proofs.Retention
import Vicinity.Proofs.Settings
import Vicinity.Proofs.Stored
import Vicinity.Proofs.Support
import Vicinity.Report
import Vicinity.Ron.Document
import Vicinity.Settings
import Vicinity.Space
import Vicinity.Stored.Snapshot
import Vicinity.Stored.Vector
import Vicinity.Text.Blank
import Vicinity.Text.Calendar
import Vicinity.Text.Letters
import Vicinity.Text.Printable
import Vicinity.Text.Quoted
import Vicinity.Toml.Document
import Vicinity.Toml.Moments
import Vicinity.Toml.Numbers
import Vicinity.Toml.Strings
import Vicinity.Toml.Table
import Vicinity.Toml.Value
import Vicinity.TopK
import Vicinity.Yaml.Cursor
import Vicinity.Yaml.Node
import Vicinity.Yaml.Scalar
import Vicinity.Yaml.Token
