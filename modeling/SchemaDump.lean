import SchemaDump.CommandLine
import SchemaDump.Main
import SchemaDump.Proofs.Answers
import SchemaDump.Proofs.Catalog.KeyMembers
import SchemaDump.Proofs.Catalog.Loading
import SchemaDump.Proofs.Catalog.Registration
import SchemaDump.Proofs.Catalog.RoundTrip
import SchemaDump.Proofs.CommandLine
import SchemaDump.Proofs.DefaultText
import SchemaDump.Proofs.Files.Decoding
import SchemaDump.Proofs.Files.Discovery
import SchemaDump.Proofs.Files.Path
import SchemaDump.Proofs.Files.Tree
import SchemaDump.Proofs.Inspection
import SchemaDump.Proofs.Json.Reader
import SchemaDump.Proofs.Json.Tokens
import SchemaDump.Proofs.Loader
import SchemaDump.Proofs.NameMap
import SchemaDump.Proofs.NativeType
import SchemaDump.Proofs.Report.Json
import SchemaDump.Proofs.Report.LoadedText
import SchemaDump.Proofs.Report.Text
import SchemaDump.Proofs.Sql.Backtick
import SchemaDump.Proofs.Sql.Backtracking
import SchemaDump.Proofs.Sql.Cursor
import SchemaDump.Proofs.Sql.Group
import SchemaDump.Proofs.Sql.GroupSearch
import SchemaDump.Proofs.Sql.Quoted
import SchemaDump.Proofs.Sql.Reads
import SchemaDump.Proofs.Sql.Shown
import SchemaDump.Proofs.Sql.Spelling
import SchemaDump.Proofs.Sql.Values
import SchemaDump.Proofs.Statement.Accounting
import SchemaDump.Proofs.Statement.Attributes
import SchemaDump.Proofs.Statement.BodyLine
import SchemaDump.Proofs.Statement.ClauseRun
import SchemaDump.Proofs.Statement.ClauseTable
import SchemaDump.Proofs.Statement.ColumnClause
import SchemaDump.Proofs.Statement.ColumnMarks
import SchemaDump.Proofs.Statement.Comment
import SchemaDump.Proofs.Statement.Delimiter
import SchemaDump.Proofs.Statement.DelimiterPlaces
import SchemaDump.Proofs.Statement.DelimiterWalk
import SchemaDump.Proofs.Statement.ExpressionDefault
import SchemaDump.Proofs.Statement.KeyLine
import SchemaDump.Proofs.Statement.Layout
import SchemaDump.Proofs.Statement.LineFeeds
import SchemaDump.Proofs.Statement.Merge
import SchemaDump.Proofs.Statement.NestedGroup
import SchemaDump.Proofs.Statement.Progress
import SchemaDump.Proofs.Statement.RoundTrip
import SchemaDump.Proofs.Statement.TypeArguments
import SchemaDump.Proofs.Statement.WrittenColumn
import SchemaDump.Proofs.Statement.WrittenKey
import SchemaDump.Proofs.Statement.WrittenName
import SchemaDump.Proofs.Table.Adjustment
import SchemaDump.Proofs.Table.Assembly
import SchemaDump.Proofs.Table.Coherence
import SchemaDump.Proofs.Table.Lengths
import SchemaDump.Proofs.Table.LineOrder
import SchemaDump.Proofs.Table.StandInKey
import SchemaDump.Proofs.Table.UnsignedPrefix
import SchemaDump.Proofs.Text.Doubling
import SchemaDump.Proofs.Text.Lines
import SchemaDump.Proofs.Text.Occurrence
import SchemaDump.Proofs.Text.Offset
import SchemaDump.Proofs.Text.Utf8
import SchemaDump.Proofs.Text.Words
import SchemaDump.Proofs.Traversal
