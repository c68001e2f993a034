import SchemaMutation.Json.Printer
import SchemaMutation.Json.Record
import SchemaMutation.Catalog.Source
import SchemaMutation.Catalog.Statements
import SchemaMutation.Text.Characters
import SchemaMutation.Text.ScriptTable
import SchemaMutation.Text.SegmentationTable
import SchemaMutation.Url
import SchemaMutation.Pattern.Scanner
import SchemaMutation.Pattern.Parser
import SchemaMutation.Pattern.Resolve
import SchemaMutation.Pattern.Property
import SchemaMutation.Pattern.Regex
import SchemaMutation.BlockList
import SchemaMutation.Digest
import SchemaMutation.Schema.Column
import SchemaMutation.Schema.Function
import SchemaMutation.Schema.Table
import SchemaMutation.Schema.Snapshot
import SchemaMutation.Registry
import SchemaMutation.Query.Basic
import SchemaMutation.Query.Form
import SchemaMutation.Sql.Predicate
import SchemaMutation.Sql.Mutation
import SchemaMutation.Toml.Document
import SchemaMutation.Config
import SchemaMutation.CommandLine.Arguments
import SchemaMutation.CommandLine.Run
import SchemaMutation.Main
import SchemaMutation.Proofs.Statement
import SchemaMutation.Proofs.Conditions
import SchemaMutation.Proofs.Defects
import SchemaMutation.Proofs.Grammar
import SchemaMutation.Proofs.FilterMeaning
import SchemaMutation.Proofs.Lists
import SchemaMutation.Proofs.Assembly
import SchemaMutation.Proofs.Visibility
import SchemaMutation.Proofs.PayloadIndependence
import SchemaMutation.Proofs.Checks
import SchemaMutation.Proofs.Rollback
import SchemaMutation.Proofs.Framing
import SchemaMutation.Proofs.Content
import SchemaMutation.Proofs.Recovery
import SchemaMutation.Proofs.Json.Layout
import SchemaMutation.Proofs.Json.ReadBack
import SchemaMutation.Proofs.Json.RecordReadBack
import SchemaMutation.Proofs.Json.Yields
import SchemaMutation.Proofs.Json.Extent
import SchemaMutation.Proofs.Json.ValueYields
import SchemaMutation.Proofs.Json.ValueReadBack
import SchemaMutation.Proofs.SnapshotFiles
import SchemaMutation.Proofs.Merging
import SchemaMutation.Proofs.RowOrder
import SchemaMutation.Proofs.Lookup
import SchemaMutation.Proofs.Pattern.Matching
import SchemaMutation.Proofs.Pattern.Classes
import SchemaMutation.Proofs.Pattern.Reading
import SchemaMutation.Proofs.WholeNames
import SchemaMutation.Proofs.Targets
import SchemaMutation.Proofs.History
import SchemaMutation.Proofs.PlanReuse
import SchemaMutation.Proofs.Placeholders
import SchemaMutation.Proofs.Replay
import SchemaMutation.Proofs.SecondPhase
import SchemaMutation.Proofs.SingleTable
import SchemaMutation.Proofs.QueryText
import SchemaMutation.Proofs.Partition
import SchemaMutation.Proofs.InternalTables
import SchemaMutation.Proofs.ColumnFacts
import SchemaMutation.Proofs.FunctionRows
import SchemaMutation.Proofs.ExactNames
import SchemaMutation.Proofs.Loading
import SchemaMutation.Proofs.Literals
import SchemaMutation.Proofs.Enclosure
import SchemaMutation.Proofs.Sources
import SchemaMutation.Proofs.Flattening
import SchemaMutation.Proofs.Places
