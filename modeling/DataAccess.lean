import DataAccess.Assignments
import DataAccess.Cache.Call
import DataAccess.Cache.Canonical
import DataAccess.Cache.Key
import DataAccess.Cache.Schedule
import DataAccess.Cache.Store
import DataAccess.Calendar.Date
import DataAccess.Calendar.Layout
import DataAccess.Calendar.Reading
import DataAccess.Calendar.Timestamp
import DataAccess.Clause
import DataAccess.Csv.Document
import DataAccess.Csv.Scan
import DataAccess.Declaration.Attribute
import DataAccess.Declaration.Derived
import DataAccess.Declaration.Literal
import DataAccess.Declaration.Token
import DataAccess.Declaration.TypeExpr
import DataAccess.Duration
import DataAccess.Error
import DataAccess.Ident
import DataAccess.Load.ColumnType
import DataAccess.Load.Feed
import DataAccess.Load.Handover
import DataAccess.Load.Loader
import DataAccess.Load.Options
import DataAccess.Load.Path
import DataAccess.Load.Records
import DataAccess.Load.TableSchema
import DataAccess.Number.Binary
import DataAccess.Number.Double
import DataAccess.Number.Integer
import DataAccess.Number.Reading
import DataAccess.Number.Shortest
import DataAccess.Operator
import DataAccess.Pool.Address
import DataAccess.Pool.Construction
import DataAccess.Pool.Settings
import DataAccess.Proofs.Ident.Characters
import DataAccess.Proofs.Query.Comparisons
import DataAccess.Proofs.Statement.Numbering
import DataAccess.Proofs.Statement.Parts
import DataAccess.Query.Condition
import DataAccess.Query.Delete
import DataAccess.Query.Insert
import DataAccess.Query.Select
import DataAccess.Query.Update
import DataAccess.Record.Coerce
import DataAccess.Record.Field
import DataAccess.Record.Mapping
import DataAccess.Record.Members
import DataAccess.Record.Samples
import DataAccess.Session.Backend
import DataAccess.Session.Db
import DataAccess.Session.Event
import DataAccess.Session.Execution
import DataAccess.Session.Handles
import DataAccess.Session.QueryType
import DataAccess.Session.Together
import DataAccess.Statement
import DataAccess.Text.Blank
import DataAccess.Text.Case
import DataAccess.Text.CaseTable
import DataAccess.Text.ClassTable
import DataAccess.Text.Quoted
import DataAccess.Text.Run
import DataAccess.Text.Snake
import DataAccess.Text.Utf8
import DataAccess.Text.WordTable
import DataAccess.Value
import DataAccess.Value.Reading
import DataAccess.Wire.Bytes
import DataAccess.Wire.Decode
import DataAccess.Wire.Encode
import DataAccess.Wire.Exchange
import DataAccess.Wire.ServerType
import DataAccess.Proofs.Query.Layout
import DataAccess.Proofs.Query.Chains
import DataAccess.Proofs.Load.TableStatements
import DataAccess.Proofs.Query.Placeholders
import DataAccess.Proofs.Cache.Moves
import DataAccess.Proofs.Query.Rejection
import DataAccess.Proofs.Cache.Slots
import DataAccess.Proofs.Cache.Retention
import DataAccess.Proofs.Cache.Fencing
import DataAccess.Proofs.Query.Rectangles
import DataAccess.Proofs.Session.Twins
import DataAccess.Proofs.Cache.Lexemes
import DataAccess.Proofs.Cache.SameReading
import DataAccess.Proofs.Load.Inserts
import DataAccess.Proofs.Load.Slices
import DataAccess.Proofs.Load.Feeds
import DataAccess.Proofs.Load.Preparation
import DataAccess.Proofs.Load.Course
import DataAccess.Proofs.Load.Endings
import DataAccess.Proofs.Wire.Words
import DataAccess.Proofs.Calendar.Numbering
import DataAccess.Proofs.Calendar.Texts
import DataAccess.Proofs.Wire.RoundTrip
import DataAccess.Proofs.Cache.Settled
import DataAccess.Proofs.Query.Wording
import DataAccess.Proofs.Query.Readable
import DataAccess.Proofs.Cache.Places
import DataAccess.Proofs.Cache.Progress
import DataAccess.Proofs.Cache.SingleFlight
import DataAccess.Proofs.Cache.Table
import DataAccess.Proofs.Session.Caching
import DataAccess.Proofs.Session.Rounds
import DataAccess.Proofs.Csv.Documents
import DataAccess.Proofs.Ident.Spelling
import DataAccess.Proofs.Load.Headers
import DataAccess.Proofs.Load.Opening
import DataAccess.Proofs.Load.Refusals
import DataAccess.Proofs.Load.TableOptions
import DataAccess.Proofs.Load.Messages
import DataAccess.Proofs.Load.Turns
import DataAccess.Proofs.Load.Schedules
import DataAccess.Proofs.Load.Progress
import DataAccess.Proofs.Load.Agreement
import DataAccess.Proofs.Number.Exactness
import DataAccess.Proofs.Number.Widening
import DataAccess.Proofs.Record.RoundTrip
import DataAccess.Proofs.Declaration.Records
import DataAccess.Proofs.Cache.Accounts
import DataAccess.Proofs.Load.Binding
import DataAccess.Proofs.Session.Programs
import DataAccess.Proofs.Session.Operations
import DataAccess.Proofs.Session.Connections
import DataAccess.Proofs.Load.RecordChunks
import DataAccess.Proofs.Text.Ends
import DataAccess.Proofs.Cache.NormalForm
import DataAccess.Proofs.Number.WholeNumbers
import DataAccess.Proofs.Load.Inference
import DataAccess.Proofs.Text.Letters
import DataAccess.Proofs.Text.Capitals
import DataAccess.Proofs.Load.Naming
import DataAccess.Proofs.Load.KeyColumn
import DataAccess.Proofs.Load.Catalog
import DataAccess.Proofs.Load.Probing
import DataAccess.Proofs.Record.Coercion
import DataAccess.Proofs.Record.Refusals
import DataAccess.Proofs.Declaration.Refusals
import DataAccess.Proofs.Number.Digits
import DataAccess.Proofs.Calendar.ReadingBack
import DataAccess.Proofs.Record.Restoring
import DataAccess.Proofs.Calendar.Documented
import DataAccess.Proofs.Load.Joining
import DataAccess.Proofs.Statement.Raising
import DataAccess.Proofs.Query.Filtering
import DataAccess.Proofs.Session.Answers
import DataAccess.Proofs.Load.Causes
import DataAccess.Proofs.Number.Denotation
import DataAccess.Proofs.Record.WholeDoubles
import DataAccess.Proofs.Number.Narrowing
import DataAccess.Proofs.Load.Finiteness
import DataAccess.Proofs.Query.Settings
import DataAccess.Proofs.Text.Encoding
import DataAccess.Proofs.Ident.Grammar
import DataAccess.Proofs.Session.Excerpts
import DataAccess.Proofs.Load.Normalizing
