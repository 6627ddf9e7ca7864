import SqlClient.Batch
import SqlClient.Engine.MemoryCursor
import SqlClient.Engine.Scripted
import SqlClient.Options.Document
import SqlClient.Storage
import SqlClient.Worker.Queue
import SqlClient.Proofs.Sql.Grammar
import SqlClient.Proofs.Sql.Extent
import SqlClient.Proofs.Sql.CodeOffsets
import SqlClient.Proofs.Text.Trim
import SqlClient.Proofs.Sql.Cut
import SqlClient.Proofs.Sql.Split
import SqlClient.Proofs.Sql.Restyle
import SqlClient.Proofs.Sql.RestyledScript
import SqlClient.Proofs.Sql.DollarPlaceholders
import SqlClient.Proofs.Sql.Identifier
import SqlClient.Proofs.Worker.Cursors
import SqlClient.Proofs.Worker.Lifecycle
import SqlClient.Proofs.Worker.Shutdown
import SqlClient.Proofs.Worker.Log
import SqlClient.Proofs.Connection.Usage
import SqlClient.Proofs.Connection.Isolation
import SqlClient.Proofs.Connection.ExecutionOrder
import SqlClient.Proofs.Connection.Lifecycle
import SqlClient.Proofs.Connection.Traffic
import SqlClient.Proofs.Connection.Accounting
import SqlClient.Proofs.Connection.Closing
import SqlClient.Proofs.Connection.Log
import SqlClient.Proofs.Source
import SqlClient.Proofs.QueryResult
import SqlClient.Proofs.Spent
import SqlClient.Proofs.FlatMap
import SqlClient.Proofs.EnumValue
import SqlClient.Proofs.Text.Order
import SqlClient.Proofs.Text.Digits
import SqlClient.Proofs.Codec.Normal
import SqlClient.Proofs.Codec.RoundTrip
import SqlClient.Proofs.Codec.Outcome
import SqlClient.Proofs.Codec.NativeRoundTrip
import SqlClient.Proofs.Codec.Passes
import SqlClient.Proofs.Codec.Priority
import SqlClient.Proofs.Codec.TimeZone
import SqlClient.Proofs.Binding
import SqlClient.Proofs.Column
import SqlClient.Proofs.Months
import SqlClient.Proofs.Codec.Period
import SqlClient.Proofs.Codec.Member
import SqlClient.Proofs.Codec.Duration
import SqlClient.Proofs.Calendar.Text
import SqlClient.Proofs.Calendar.Order
import SqlClient.Proofs.StoredText
import SqlClient.Proofs.ZonedText
import SqlClient.Proofs.StoredOrder
import SqlClient.Proofs.Sql.PlaceholderOctets
