import Baseline.Calendar
import Baseline.Failure
import Baseline.Fault
import Baseline.FileTree.Basic
import Baseline.FileTree.Error
import Baseline.FileTree.Glob
import Baseline.FileTree.Path
import Baseline.FileTree.Text
import Baseline.FileTree.Time
import Baseline.Host
import Baseline.Integration
import Baseline.Json.Basic
import Baseline.Json.Reader
import Baseline.Log.Line
import Baseline.Log.Output
import Baseline.Log.Record
import Baseline.Log.Template
import Baseline.MetricSet.Attribute
import Baseline.MetricSet.Basic
import Baseline.Number.Decimal
import Baseline.Number.Double
import Baseline.Number.Layout
import Baseline.Number.Numeral
import Baseline.Number.Shortest
import Baseline.Number.Whole
import Baseline.Number.Written
import Baseline.Proofs.FileTree
import Baseline.Proofs.FileTree.Grown
import Baseline.Proofs.Gaps
import Baseline.Proofs.Json.Bounded
import Baseline.Proofs.Json.Number
import Baseline.Proofs.Json.RoundTrip
import Baseline.Proofs.Json.Text
import Baseline.Proofs.MetricSet.Attempt
import Baseline.Proofs.MetricSet.Attribute
import Baseline.Proofs.MetricSet.Collecting
import Baseline.Proofs.MetricSet.Identity
import Baseline.Proofs.MetricSet.StoreKey
import Baseline.Proofs.Number.Digits
import Baseline.Proofs.Number.Rounding
import Baseline.Proofs.Number.Shortest
import Baseline.Proofs.Number.Sign
import Baseline.Proofs.Runs
import Baseline.Proofs.Sampling.Compute
import Baseline.Proofs.Sampling.Faults
import Baseline.Proofs.Sampling.History
import Baseline.Proofs.Sampling.Reading
import Baseline.Proofs.Sampling.Sign
import Baseline.Proofs.Store.File
import Baseline.Proofs.Store.Invariant
import Baseline.Proofs.Store.Maps
import Baseline.Proofs.Store.NonFinite
import Baseline.Proofs.Store.Snapshot
import Baseline.Proofs.Table
import Baseline.Sampling.Compute
import Baseline.Sampling.Kind
import Baseline.Session
import Baseline.Settings.Basic
import Baseline.Settings.Environment
import Baseline.Settings.Field
import Baseline.Settings.File
import Baseline.Settings.Merge
import Baseline.Settings.Violation
import Baseline.SourceKind
import Baseline.Store.Basic
import Baseline.Store.File
import Baseline.Store.Location
import Baseline.Store.Opening
import Baseline.Store.Snapshot
import Baseline.Table
import Baseline.Text.Base64
import Baseline.Text.Blank
import Baseline.Text.Lowercase
import Baseline.Text.Printable
import Baseline.Text.Quoted
import Baseline.Text.Ranges
import Baseline.Text.Utf8
import Baseline.Value
import Baseline.Value.Entries
import Baseline.Value.Number
import Baseline.Value.Order
import Baseline.Yaml.Block
import Baseline.Yaml.Content
import Baseline.Yaml.Cursor
import Baseline.Yaml.Kind
import Baseline.Yaml.Layout
import Baseline.Yaml.Node
import Baseline.Yaml.Plain
import Baseline.Yaml.Quoted
import Baseline.Yaml.Scalar
import Baseline.Yaml.Stream
import Baseline.Yaml.Tag
import Baseline.Yaml.Timestamp
import Baseline.Yaml.Token
import Baseline.Proofs.Store.Opening
import Baseline.Proofs.Settings.Entries
import Baseline.Proofs.Settings.Paths
import Baseline.Proofs.Settings.Alike
import Baseline.Proofs.Settings.Variables
import Baseline.Proofs.Yaml.Content
import Baseline.Proofs.Settings.Layers
import Baseline.Proofs.FileTree.Entries
import Baseline.Proofs.FileTree.Glob
import Baseline.Proofs.Store.Cleaning
import Baseline.Proofs.MetricSet.Changes
import Baseline.Proofs.MetricSet.Interleaving
import Baseline.Proofs.Settings.Directory
import Baseline.Proofs.Store.Naming
import Baseline.Proofs.Number.Order
import Baseline.Proofs.Sampling.Resets
import Baseline.Proofs.Sampling.Finite
import Baseline.Proofs.Sampling.Increments
import Baseline.Proofs.FileTree.Course
import Baseline.Proofs.Store.Inside
import Baseline.Proofs.FileTree.Links
import Baseline.Proofs.FileTree.Clearing
import Baseline.Proofs.Store.Agreement
import Baseline.Proofs.MetricSet.DefinitionOrder
import Baseline.Proofs.MetricSet.AttributeOrder
import Baseline.Proofs.Yaml.Faults
import Baseline.Proofs.Settings.Contract
import Baseline.Proofs.Store.Removal
import Baseline.Proofs.Json.Ascii
import Baseline.Proofs.Log.Fields
import Baseline.Proofs.Log.Header
import Baseline.Proofs.Log.ReadBack
import Baseline.Proofs.FileTree.Pattern
import Baseline.Proofs.Store.Sibling
import Baseline.Proofs.Steps
import Baseline.Proofs.FileTree.Search
import Baseline.Proofs.Store.Refused
import Baseline.Log.Tree
import Baseline.Proofs.FileTree.Written
import Baseline.Proofs.Store.Saving
import Baseline.Proofs.Number.Written
import Baseline.Proofs.Number.Numeral
import Baseline.Proofs.Text.Lowercase
import Baseline.Proofs.Settings.Typed
import Baseline.Proofs.Log.Tree
import Baseline.Proofs.Log.Bare
import Baseline.Proofs.Log.Delivery
import Baseline.Proofs.Settings.Accepted
import Baseline.Proofs.MetricSet.Apart
import Baseline.Proofs.Host
