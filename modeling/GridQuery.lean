import GridQuery.Column
import GridQuery.Compile
import GridQuery.DataLake.Feature
import GridQuery.DataLake.Refresh
import GridQuery.DataLake.Schedule
import GridQuery.DataLake.Snapshot
import GridQuery.DataLake.Window
import GridQuery.Database.Cell
import GridQuery.Database.Engine
import GridQuery.Database.Server
import GridQuery.Database.ValueKind
import GridQuery.Date
import GridQuery.DomainCache
import GridQuery.Exchange
import GridQuery.Filter
import GridQuery.Filter.Json
import GridQuery.Http.MediaType
import GridQuery.Http.Path
import GridQuery.Http.Router
import GridQuery.Json.Basic
import GridQuery.Json.Decode
import GridQuery.Json.Document
import GridQuery.Json.Number
import GridQuery.Json.Printer
import GridQuery.Json.Token
import GridQuery.Number.Binary32
import GridQuery.Number.Binary64
import GridQuery.Number.Digits
import GridQuery.Number.Fixed96
import GridQuery.Number.Numeral
import GridQuery.Number.Power
import GridQuery.Number.Shortest
import GridQuery.Number.Whole
import GridQuery.OrderedMap
import GridQuery.Pivot.Combinations
import GridQuery.Pivot.Domains
import GridQuery.Proofs.Compile.Validity
import GridQuery.Proofs.Outcome
import GridQuery.Proofs.Pivot.Product
import GridQuery.Proofs.Sql.Literal
import GridQuery.Proofs.Sql.Numeral
import GridQuery.Proofs.Sql.Reading
import GridQuery.Proofs.Sql.Token
import GridQuery.QueryError
import GridQuery.Request
import GridQuery.Request.Json
import GridQuery.Response
import GridQuery.RowModel
import GridQuery.Service
import GridQuery.Settings
import GridQuery.Settings.Address
import GridQuery.Sql.Dialect
import GridQuery.Sql.Literal
import GridQuery.Sql.Name
import GridQuery.Sql.Predicate
import GridQuery.Sql.Select
import GridQuery.Text.Blank
import GridQuery.Text.CaseData
import GridQuery.Text.Lowercase
import GridQuery.Proofs.Compile.Items
import GridQuery.Proofs.Compile.Plan
import GridQuery.Proofs.Compile.Text
import GridQuery.Proofs.Compile.CallerError
import GridQuery.Proofs.Exchange.Play
import GridQuery.Proofs.Exchange.Protocol
import GridQuery.Proofs.Compile.ReturnedNames
import GridQuery.Proofs.Sql.Meaning
import GridQuery.Proofs.Compile.DrillDown
import GridQuery.Proofs.Pivot.Normal
import GridQuery.Proofs.Pivot.Partition
import GridQuery.Proofs.Exchange.Paging
import GridQuery.Proofs.Exchange.Interleaving
import GridQuery.Proofs.Exchange.Resolution
import GridQuery.Proofs.Pivot.Entries
import GridQuery.Proofs.Exchange.Freshness
import GridQuery.Proofs.Exchange.Invalidation
import GridQuery.Proofs.DataLake.Generations
import GridQuery.Proofs.Exchange.SourceOrder
import GridQuery.Proofs.Sql.Pattern
import GridQuery.Proofs.Compile.Aggregation
import GridQuery.Proofs.Number.Value
import GridQuery.Proofs.Number.Rounding
import GridQuery.Proofs.Number.Shortest
import GridQuery.Proofs.Number.FixedPoint
import GridQuery.Proofs.Sql.NumeralValue
import GridQuery.Proofs.Sql.ParseNumber
import GridQuery.Proofs.Compile.NumberKey
import GridQuery.Proofs.Compile.SortIdentity
import GridQuery.Proofs.Compile.OutputName
import GridQuery.Proofs.Sql.Condition
import GridQuery.Proofs.Compile.FilterMeaning
import GridQuery.Proofs.Json.Document
import GridQuery.Proofs.Json.Record
import GridQuery.Proofs.Request.FilterMembers
import GridQuery.Proofs.Request.MemberOrder
import GridQuery.Proofs.Pivot.Enumeration
import GridQuery.Proofs.DataLake.FeatureIndex
import GridQuery.Proofs.Number.Whole
import GridQuery.Proofs.DataLake.Mileage
import GridQuery.Proofs.Request.FilterRoundTrip
import GridQuery.Proofs.Pivot.InsertionOrder
import GridQuery.Proofs.Calendar
import GridQuery.Proofs.DataLake.RecentPartitions
import GridQuery.Proofs.Text.Blank
import GridQuery.Proofs.Text.Spelling
import GridQuery.Proofs.Settings.Whole
import GridQuery.Proofs.Settings.Address
import GridQuery.Proofs.Settings.NameList
import GridQuery.Proofs.Settings.Checks
import GridQuery.Proofs.Settings.Acceptance
