import StorageLayout.Config.Access
import StorageLayout.Config.Agreement
import StorageLayout.Config.Display
import StorageLayout.Config.Document
import StorageLayout.Config.Edit
import StorageLayout.Config.Entries
import StorageLayout.Config.Environment
import StorageLayout.Config.Key
import StorageLayout.Config.Layer
import StorageLayout.Config.LayerKind
import StorageLayout.Config.Store
import StorageLayout.Config.Stores
import StorageLayout.Config.Table
import StorageLayout.Config.Value
import StorageLayout.Failure
import StorageLayout.Failure.Kind
import StorageLayout.Json.Reader
import StorageLayout.Json.Writer
import StorageLayout.Json5.Lexical
import StorageLayout.Json5.Reader
import StorageLayout.Log.Context
import StorageLayout.Log.Hierarchy
import StorageLayout.Log.Line
import StorageLayout.Log.Output
import StorageLayout.Log.Record
import StorageLayout.Log.RepeatFilter
import StorageLayout.Log.Setup
import StorageLayout.Log.Template
import StorageLayout.Machine
import StorageLayout.Number.Binary64
import StorageLayout.Number.Conversion
import StorageLayout.Number.Fixed
import StorageLayout.Number.IntegerText
import StorageLayout.Number.Shortest
import StorageLayout.Path.Build
import StorageLayout.Path.FileTree
import StorageLayout.Path.Pathname
import StorageLayout.Proofs.Config.Agreement
import StorageLayout.Proofs.Config.Announcement
import StorageLayout.Proofs.Config.Bindings
import StorageLayout.Proofs.Config.Edits
import StorageLayout.Proofs.Config.Effect
import StorageLayout.Proofs.Config.Equality
import StorageLayout.Proofs.Config.FirstHit
import StorageLayout.Proofs.Config.Form
import StorageLayout.Proofs.Config.Frame
import StorageLayout.Proofs.Config.Keys
import StorageLayout.Proofs.Config.Merge
import StorageLayout.Proofs.Config.Nesting
import StorageLayout.Proofs.Config.Overlay
import StorageLayout.Proofs.Config.Overrides
import StorageLayout.Proofs.Config.Places
import StorageLayout.Proofs.Config.Plain
import StorageLayout.Proofs.Config.Reading
import StorageLayout.Proofs.Config.Remainder
import StorageLayout.Proofs.Config.Removal
import StorageLayout.Proofs.Config.Reporting
import StorageLayout.Proofs.Config.Rollback
import StorageLayout.Proofs.Config.Rounds
import StorageLayout.Proofs.Config.Runs
import StorageLayout.Proofs.Config.Subscriptions
import StorageLayout.Proofs.Config.Validity
import StorageLayout.Proofs.Config.Variables
import StorageLayout.Proofs.Config.Writing
import StorageLayout.Proofs.Json.Numbers
import StorageLayout.Proofs.Json.Numerals
import StorageLayout.Proofs.Json.RoundTrip
import StorageLayout.Proofs.Json.Texts
import StorageLayout.Proofs.Log.Accounting
import StorageLayout.Proofs.Log.Context
import StorageLayout.Proofs.Log.Decisions
import StorageLayout.Proofs.Log.Eviction
import StorageLayout.Proofs.Log.Fairness
import StorageLayout.Proofs.Log.Line
import StorageLayout.Proofs.Log.Recency
import StorageLayout.Proofs.Log.Remembering
import StorageLayout.Proofs.Log.Suppression
import StorageLayout.Proofs.Log.Windows
import StorageLayout.Proofs.Number.Clock
import StorageLayout.Proofs.Number.IntegerText
import StorageLayout.Proofs.Number.Nearest
import StorageLayout.Proofs.Number.Rounding
import StorageLayout.Proofs.Number.Shortest
import StorageLayout.Proofs.Path.Composition
import StorageLayout.Proofs.Path.Segments
import StorageLayout.Proofs.Path.Texts
import StorageLayout.Proofs.Settings.Acceptance
import StorageLayout.Proofs.Settings.Announcement
import StorageLayout.Proofs.Settings.Checking
import StorageLayout.Proofs.Settings.Layers
import StorageLayout.Proofs.Settings.LogFile
import StorageLayout.Proofs.Settings.Meaning
import StorageLayout.Proofs.Settings.Readers
import StorageLayout.Proofs.Settings.Reading
import StorageLayout.Proofs.Settings.Standard
import StorageLayout.Proofs.Settings.Validity
import StorageLayout.Proofs.SharedState.Followers
import StorageLayout.Proofs.SharedState.Following
import StorageLayout.Proofs.SharedState.Independence
import StorageLayout.Proofs.SharedState.Runs
import StorageLayout.Proofs.Storage.Discovery
import StorageLayout.Proofs.Storage.Volume
import StorageLayout.Proofs.Text.Split
import StorageLayout.Proofs.User.Isolation
import StorageLayout.Proofs.User.Levels
import StorageLayout.Proofs.User.Lookups
import StorageLayout.Proofs.User.Marking
import StorageLayout.Proofs.User.Roots
import StorageLayout.Proofs.User.StrictMode
import StorageLayout.Proofs.User.Switching
import StorageLayout.Registry
import StorageLayout.Settings.Issue
import StorageLayout.Settings.Schema
import StorageLayout.Settings.Store
import StorageLayout.SharedState
import StorageLayout.Storage.Discovery
import StorageLayout.Storage.Partition
import StorageLayout.Storage.Volume
import StorageLayout.Text.Blank
import StorageLayout.Text.Codes
import StorageLayout.Text.Graphic
import StorageLayout.Text.Identifier
import StorageLayout.Text.Quoted
import StorageLayout.Text.Split
import StorageLayout.Trace
import StorageLayout.User.Current
import StorageLayout.User.Environment
import StorageLayout.User.Handle
