import FixturePlan.Main
import FixturePlan.Cli.Disk
import FixturePlan.Cli.Program
import FixturePlan.Cli.Summary
import FixturePlan.Cli.Help
import FixturePlan.Cli.Arguments
import FixturePlan.Database.Document
import FixturePlan.Database.Change
import FixturePlan.Database.Scan
import FixturePlan.Database.Catalog
import FixturePlan.Database.Statement
import FixturePlan.Database.Basic
import FixturePlan.Database.StorageOrder
import FixturePlan.Database.ColumnType
import FixturePlan.Settings.Document
import FixturePlan.Source.Memory
import FixturePlan.Plan.Document
import FixturePlan.Planner
import FixturePlan.Settings.Reader
import FixturePlan.Settings.Expansion
import FixturePlan.Settings.Toml.Parser
import FixturePlan.Entity.Resolve
import FixturePlan.Plan.Basic
import FixturePlan.Entity.Extract
import FixturePlan.Entity.Set
import FixturePlan.Schema.JoinShape
import FixturePlan.Strategy.Basic
import FixturePlan.Schema.Build
import FixturePlan.Schema.CreationOrder
import FixturePlan.Source.Basic
import FixturePlan.SortedMap
import FixturePlan.Report
import FixturePlan.Json
import FixturePlan.Number.Notation
import FixturePlan.Number.Reading
import FixturePlan.Text.Singular
import FixturePlan.Text.Pattern.Parser
import FixturePlan.Text.Casing
import FixturePlan.Text.CaseFold
import FixturePlan.Text.Blank
import FixturePlan.Text.Quoted
import FixturePlan.Text.WordChar
import FixturePlan.Proofs.Plan.Links
import FixturePlan.Proofs.Entity.Matching
import FixturePlan.Proofs.Entity.Resolution
import FixturePlan.Proofs.Entity.Extraction
import FixturePlan.Proofs.Run
import FixturePlan.Proofs.Schema.Graph
import FixturePlan.Proofs.Schema.Build
import FixturePlan.Proofs.Entity.Join
import FixturePlan.Proofs.Entity.LinearScan
import FixturePlan.Proofs.Schema.CreationOrder
import FixturePlan.Proofs.Plan.CreationOrder
import FixturePlan.Proofs.Entity.Cells
import FixturePlan.Proofs.Schema.Attaching
import FixturePlan.Proofs.Entity.Repetition
import FixturePlan.Proofs.LinkTypes
import FixturePlan.Proofs.Entity.TableOrder
import FixturePlan.Proofs.Order.SortedBy
import FixturePlan.Proofs.Schema.Description
import FixturePlan.Proofs.Schema.Listing
import FixturePlan.Proofs.Schema.Identity
import FixturePlan.Proofs.Rows
import FixturePlan.Proofs.Entity.Values
import FixturePlan.Proofs.Schema.Aggregation
import FixturePlan.Proofs.Schema.Dropping
import FixturePlan.Proofs.Database.Keys
import FixturePlan.Proofs.Database.LeavingKeys
import FixturePlan.Proofs.Plan.Topological
import FixturePlan.Proofs.Plan.Effect
import FixturePlan.Proofs.Entity.Losses
import FixturePlan.Proofs.Losses
import FixturePlan.Proofs.Plan.Dropping
import FixturePlan.Proofs.Plan.Canonical
import FixturePlan.Proofs.Plan.Cycle
import FixturePlan.Proofs.Entity.References
import FixturePlan.Proofs.Schema.Grouping
import FixturePlan.Proofs.Schema.NameIndex
import FixturePlan.Proofs.Schema.LeastOrder
import FixturePlan.Proofs.Schema.Mixing
import FixturePlan.Proofs.Schema.Prefix
import FixturePlan.Proofs.Entity.Counters
import FixturePlan.Proofs.Entity.Stopping
import FixturePlan.Proofs.Schema.JoinShape
import FixturePlan.Proofs.Schema.Parameters
import FixturePlan.Proofs.Batching
import FixturePlan.Proofs.Database.Paging
import FixturePlan.Proofs.Database.Shadowing
import FixturePlan.Proofs.Database.FetchSize
import FixturePlan.Proofs.Database.KeyListing
import FixturePlan.Proofs.Entity.StoredValues
import FixturePlan.Proofs.Entity.NumberKeys
import FixturePlan.Proofs.Settings.Expansion
