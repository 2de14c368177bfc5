import SolverHub.Bounds
import SolverHub.Catalogue.Collection
import SolverHub.Catalogue.Declaration
import SolverHub.Catalogue.Hall
import SolverHub.Catalogue.Index
import SolverHub.Catalogue.Origin
import SolverHub.Catalogue.Snapshot
import SolverHub.Catalogue.Validation
import SolverHub.Channel
import SolverHub.Channel.Usage
import SolverHub.Command.Address
import SolverHub.Command.Line
import SolverHub.Command.Serve
import SolverHub.Command.Settings
import SolverHub.Command.Switch
import SolverHub.Files.Change
import SolverHub.Files.Scan
import SolverHub.Files.Tree
import SolverHub.Http.Percent
import SolverHub.Http.Reply
import SolverHub.Http.Route
import SolverHub.Hub.Basic
import SolverHub.Hub.Error
import SolverHub.Hub.Reload
import SolverHub.Hub.Start
import SolverHub.Identifier
import SolverHub.Json.Basic
import SolverHub.Json.Magnitude
import SolverHub.Json.Printer
import SolverHub.Json.Reader
import SolverHub.Json.Record
import SolverHub.Json.Token
import SolverHub.Keyed
import SolverHub.Loader.Compiler
import SolverHub.Loader.Error
import SolverHub.Loader.Event
import SolverHub.Loader.Library
import SolverHub.Loader.Scope
import SolverHub.Log.Entry
import SolverHub.Log.Filter
import SolverHub.Log.Record
import SolverHub.Path
import SolverHub.Pattern.Class
import SolverHub.Pattern.Group
import SolverHub.Pattern.Mode
import SolverHub.Pattern.Primitive
import SolverHub.Pattern.Reader
import SolverHub.Problem.Basic
import SolverHub.Problem.Error
import SolverHub.Proofs.Catalogue.Actions
import SolverHub.Proofs.Catalogue.Index
import SolverHub.Proofs.Catalogue.Merge
import SolverHub.Proofs.Catalogue.Mirror
import SolverHub.Proofs.Catalogue.Notified
import SolverHub.Proofs.Identifier
import SolverHub.Proofs.Keyed
import SolverHub.Proofs.Nested
import SolverHub.Proofs.Puzzles.SpinCycle
import SolverHub.Proofs.Session.Delivery
import SolverHub.Proofs.Session.Serving
import SolverHub.Proofs.Session.Transcript
import SolverHub.Proofs.Session.Belonging
import SolverHub.Puzzles.BuiltIn
import SolverHub.Puzzles.Calibration
import SolverHub.Puzzles.Dial
import SolverHub.Puzzles.LineCount
import SolverHub.Puzzles.Platform
import SolverHub.Session.Basic
import SolverHub.Session.Relay
import SolverHub.Session.Transport
import SolverHub.Text.Blank
import SolverHub.Text.Bytes
import SolverHub.Text.Decimal
import SolverHub.Text.Invisible
import SolverHub.Text.Letter
import SolverHub.Text.Lines
import SolverHub.Text.Quoted
import SolverHub.Text.Real
import SolverHub.Time.Instant
import SolverHub.Time.Rfc3339
import SolverHub.Trace
import SolverHub.Update.Basic
import SolverHub.Update.Wire
import SolverHub.Main
import SolverHub.Proofs.Channel.Stream
import SolverHub.Proofs.Channel.Usage
import SolverHub.Proofs.Catalogue.Advertised
import SolverHub.Catalogue.Merging
import SolverHub.Proofs.Catalogue.Concurrent
import SolverHub.Proofs.Catalogue.Published
import SolverHub.Proofs.Catalogue.Serial
import SolverHub.Hub.Loading
import SolverHub.Proofs.Files.Names
import SolverHub.Proofs.Files.Walk
import SolverHub.Proofs.Hub.Loading
import SolverHub.Proofs.Hub.Reloaded
import SolverHub.Proofs.Hub.Serial
import SolverHub.Proofs.Json.Printed
import SolverHub.Proofs.Json.Fields
import SolverHub.Proofs.Update.Wire
import SolverHub.Proofs.Time.Rfc3339
import SolverHub.Proofs.Catalogue.Snapshot
import SolverHub.Proofs.Files.Below
import SolverHub.Proofs.Path
import SolverHub.Proofs.Loader.Sources
import SolverHub.Proofs.Catalogue.Described
import SolverHub.Proofs.Catalogue.MergeAll
import SolverHub.Proofs.Hub.Bulk
import SolverHub.Proofs.Guard
import SolverHub.Proofs.Puzzles.Clicks
import SolverHub.Proofs.Puzzles.DialGuard
import SolverHub.Proofs.Puzzles.CalibrationGuard
import SolverHub.Proofs.Puzzles.FlatTilt
import SolverHub.Proofs.Puzzles.Grid
import SolverHub.Proofs.Puzzles.Packing
import SolverHub.Proofs.Puzzles.PlatformGuard
import SolverHub.Proofs.Puzzles.BuiltInGuard
import SolverHub.Proofs.Puzzles.Stops
import SolverHub.Proofs.Reporting
import SolverHub.Proofs.Puzzles.LineDigits
import SolverHub.Proofs.Puzzles.Chunks
import SolverHub.Proofs.Puzzles.RotationLines
import SolverHub.Proofs.Puzzles.LineTotals
import SolverHub.Proofs.Catalogue.Violations
import SolverHub.Proofs.Files.Above
import SolverHub.Proofs.Loader.Targets
import SolverHub.Proofs.Loader.Appeared
import SolverHub.Proofs.Problem.Causes
import SolverHub.Proofs.Text.Lines
import SolverHub.Proofs.Text.Parts
import SolverHub.Proofs.Trace
import SolverHub.Proofs.Files.Joined
import SolverHub.Proofs.Catalogue.Namespaces
import SolverHub.Proofs.Hub.Outside
