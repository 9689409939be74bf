import DatabaseLayer.Foundation.Run
import DatabaseLayer.Foundation.Ledger
import DatabaseLayer.Foundation.Program
import DatabaseLayer.Foundation.Objects
import DatabaseLayer.Foundation.Loop
import DatabaseLayer.Foundation.Lookup
import DatabaseLayer.Foundation.Buffers
import DatabaseLayer.Foundation.Template
import DatabaseLayer.Foundation.Position
import DatabaseLayer.Foundation.Segments
import DatabaseLayer.Foundation.Transcript
import DatabaseLayer.Foundation.Batch
import DatabaseLayer.Foundation.Tenures
import DatabaseLayer.Foundation.Overrides
import DatabaseLayer.Platform
import DatabaseLayer.MySQLClient
import DatabaseLayer.MySQLQuery
import DatabaseLayer.MySQLResultSet
import DatabaseLayer.MySQLStatement
import DatabaseLayer.ConnectionString
import DatabaseLayer.ConnectionGrammar
import DatabaseLayer.MySQLDB
import DatabaseLayer.MySQLConnect
import DatabaseLayer.MySQLTraces
import DatabaseLayer.MySQLPort
import DatabaseLayer.MySQLRules
import DatabaseLayer.MySQLSystem
import DatabaseLayer.MySQLTransaction
import DatabaseLayer.MySQLReady
import DatabaseLayer.MySQLFailure
import DatabaseLayer.MySQLSchema
import DatabaseLayer.MySQLNull
import DatabaseLayer.MySQLBinding
import DatabaseLayer.MySQLHandles
import DatabaseLayer.MySQLRows
import DatabaseLayer.MySQLHeap
import DatabaseLayer.SQLiteClient
import DatabaseLayer.SQLiteQuery
import DatabaseLayer.SQLiteResultSet
import DatabaseLayer.SQLiteStatement
import DatabaseLayer.SQLiteDB
import DatabaseLayer.SQLiteRules
import DatabaseLayer.SQLiteMessages
import DatabaseLayer.SQLiteLoops
import DatabaseLayer.ResultSetCursors
import DatabaseLayer.SQLiteReads
import DatabaseLayer.SQLiteSystem
import DatabaseLayer.SQLiteBooks
import DatabaseLayer.SQLiteHandles
import DatabaseLayer.ExclusiveOwnership
import DatabaseLayer.NullHandles
import DatabaseLayer.BufferedTables
import DatabaseLayer.MySQLCursor
import DatabaseLayer.MySQLTransfers
import DatabaseLayer.MySQLOptions
import DatabaseLayer.MySQLProtocol
import DatabaseLayer.MySQLInert
import DatabaseLayer.SQLiteTransfers
import DatabaseLayer.ResultSetCells
import DatabaseLayer.MySQLFields
import DatabaseLayer.FieldsByName
import DatabaseLayer.SQLiteEndings
import DatabaseLayer.SQLiteReady
import DatabaseLayer.SQLiteTenures
import DatabaseLayer.SQLiteLifetimes
import DatabaseLayer.SQLiteCodes
import DatabaseLayer.ColumnNames
import DatabaseLayer.SQLiteExceptions
import DatabaseLayer.SQLNames
import DatabaseLayer.MySQLExceptions
import DatabaseLayer.FlatTable
import DatabaseLayer.Stripping
import DatabaseLayer.PortableQueries
import DatabaseLayer.UndisturbedQueries
import DatabaseLayer.SQLiteBindings
import DatabaseLayer.MySQLLoops
import DatabaseLayer.Batches
import DatabaseLayer.ConnectionComposition
import DatabaseLayer.PortableDatabases
import DatabaseLayer.MySQLLifetimes
import DatabaseLayer.ConnectionParameters
import DatabaseLayer.MySQLErrors
