import DatabaseLayer.Foundation.Buffers
import DatabaseLayer.Foundation.Template
import DatabaseLayer.MySQLRules
import DatabaseLayer.SQLiteLoops

/-! Names printed into statements: the four statements that name a table or a database, the
buffers they are composed in, and what the server reads in them. -/
namespace DatabaseLayer.SQLNames
open Platform Foundation.Program Foundation.Buffers Foundation.Template

/-- What a MySQL server is set to: whether a backslash escapes in a literal, and which words are
free to be names, being neither reserved nor read as something else, as _utf8 is. A word that
is a number is none, whatever the server is set to. -/
structure Dialect where
  escapes : Bool
  free : Bytes → Bool

inductive Site where
  | sqliteTableExists (szTable : CString)
  | tableExists (sDBName szTable : CString)
  | createDB (szDBName : CString)
  | dropDB (name : CString)

def apostrophe : UInt8 := 39

def countTables : CString := text "select count(*) from sqlite_master where type='table' and name='"

def Site.sql : Site → CString
  | .sqliteTableExists szTable => countTables ++ szTable ++ text "'"
  | .tableExists sDBName szTable => CppMySQLDB.schemaQuery sDBName szTable
  | .createDB szDBName => text "CREATE DATABASE if not exists " ++ szDBName ++ text " default character set 'utf8'"
  | .dropDB name => text "DROP DATABASE if exists " ++ name

/-- `char szSQL[256]`, after it was printed into. -/
def Site.print (snprintf : Formatter) : Site → Bytes → Option Bytes
  | .sqliteTableExists szTable,szSQL => some (snprintf.print 255 (sql (.sqliteTableExists szTable)).bytes szSQL)
  | site,szSQL => sprintf site.sql.bytes szSQL

def countTemplate : List Part := [.fixed countTables.bytes,.literal apostrophe false]

def schemaTemplate (dialect : Dialect) : List Part :=
  [.fixed (text "select count(*) from information_schema.tables where table_schema = '").bytes,
    .literal apostrophe dialect.escapes,.fixed (text " and table_name = '").bytes,
    .literal apostrophe dialect.escapes]

def Site.template (dialect : Dialect) : Site → List Part
  | .sqliteTableExists _ => countTemplate
  | .tableExists _ _ => schemaTemplate dialect
  | .createDB _ => [.fixed (text "CREATE DATABASE if not exists ").bytes,.word dialect.free,
      .fixed (text " default character set 'utf8'").bytes]
  | .dropDB _ => [.fixed (text "DROP DATABASE if exists ").bytes,.word dialect.free]

def Site.names : Site → List Bytes
  | .sqliteTableExists szTable => [szTable.bytes]
  | .tableExists sDBName szTable => [sDBName.bytes,szTable.bytes]
  | .createDB szDBName => [szDBName.bytes]
  | .dropDB name => [name.bytes]

/-- The statement fits its buffer with the terminator, and all of it is there. -/
def Arrives (snprintf : Formatter) (site : Site) : Prop :=
  ∀ szSQL : Bytes, szSQL.length = 256 →
    ∃ printed, site.print snprintf szSQL = some printed ∧ printed.length = 256 ∧ held printed = some site.sql.bytes

/-- The statement is the template, with a literal or an identifier for each name that denotes
just this name. -/
def Denotes (dialect : Dialect) (site : Site) : Prop := read (site.template dialect) site.sql.bytes = some site.names

/-- The library counts the tables that have the name it reads. -/
def SQLiteCounts (client : SQLiteClient.Client) (s : Scope SQLiteClient.World CppSQLite3DB) (tables : Bytes → Nat) :
    Prop :=
  ∀ szSQL : CString, ∀ name, read countTemplate szSQL.bytes = some [name] →
    ∃ count : SQLiteClient.Value, count.type ≠ SQLiteClient.SQLITE_NULL ∧ count.int = tables name ∧
      SQLiteLoops.Yields client szSQL s [[count]]

example : SQLiteCounts (SQLiteLoops.answering [[SQLiteLoops.one]] (by decide)) SQLiteLoops.onOpen (fun _ => 1) :=
  fun _ _ _ => ⟨SQLiteLoops.one,by decide,rfl,nofun,fun _ _ => ⟨[text "n"],rfl,rfl,rfl,rfl⟩⟩

/-- The server counts the tables that have the two names it reads. -/
def MySQLCounts (dialect : Dialect) (client : MySQLClient.Client) (s : Scope MySQLClient.World CppMySQLDB)
    (tables : Bytes → Bytes → Nat) : Prop :=
  ∀ szSQL : CString, ∀ schema name, read (schemaTemplate dialect) szSQL.bytes = some [schema,name] →
    (CppMySQLDB.reply client s (.realQuery szSQL)).rc = 0 ∧
    ∃ data : MySQLClient.ResultData, ∃ count : CString,
      (CppMySQLDB.reply client (CppMySQLDB.asked client s (.realQuery szSQL)) .storeResult).stored = some data ∧
      data.fields.length = 1 ∧ data.rows = [[some count]] ∧ atoi count = tables schema name

/-- What comes of the statement: tableExists tells whether there is such a table, and the other
two send the statement and nothing else. -/
def Does (dialect : Dialect) : Site → Prop
  | .sqliteTableExists szTable => ∀ client s tables, SQLiteCounts client s tables →
      ∃ t, CppSQLite3DB.tableExists client szTable s = .ok (decide (0 < tables szTable.bytes)) t
  | .tableExists sDBName szTable => ∀ client s tables, s.world.sDBName = sDBName → CppMySQLDB.Connected true s →
      MySQLCounts dialect client s tables →
        ∃ t, CppMySQLDB.tableExists client szTable s = .ok (decide (0 < tables sDBName.bytes szTable.bytes)) t
  | .createDB szDBName => ∀ client s, CppMySQLDB.Connected false s →
      left (CppMySQLDB.createDB client szDBName s) =
        CppMySQLDB.asked client s (.realQuery (Site.sql (.createDB szDBName)))
  | .dropDB name => ∀ client s, CppMySQLDB.Connected false s →
      left (CppMySQLDB.dropDB client name s) = CppMySQLDB.asked client s (.realQuery (Site.sql (.dropDB name)))

structure Faithful (snprintf : Formatter) (dialect : Dialect) (site : Site) : Prop where
  arrives : Arrives snprintf site
  denotes : Denotes dialect site
  does : Does dialect site

/-- How many bytes of the buffer the statement may take. -/
def Site.room : Site → Nat
  | .sqliteTableExists _ => 254
  | .tableExists _ _ | .createDB _ | .dropDB _ => 255

def Short : Site → Prop
  | .sqliteTableExists szTable => szTable.strlen ≤ 189
  | .tableExists sDBName szTable => sDBName.strlen + szTable.strlen ≤ 165
  | .createDB szDBName => szDBName.strlen ≤ 196
  | .dropDB name => name.strlen ≤ 231

/-- No quote in SQLite; none in MySQL, and no backslash that escapes anything but a wildcard;
for a database a word that needs no quoting: no number, and free. -/
def Proper (dialect : Dialect) : Site → Prop
  | .sqliteTableExists szTable => apostrophe ∉ szTable.bytes
  | .tableExists sDBName szTable => Plain apostrophe dialect.escapes sDBName.bytes ∧
      Plain apostrophe dialect.escapes szTable.bytes
  | .createDB szDBName => Word dialect.free szDBName.bytes
  | .dropDB name => Word dialect.free name.bytes

section Composed
variable (snprintf : Formatter) (dialect : Dialect) (site : Site)

theorem templatesApart : Apart (site.template dialect) := by
  cases site with
  | sqliteTableExists szTable => exact ⟨trivial,trivial⟩
  | tableExists sDBName szTable => exact ⟨rfl,trivial,trivial⟩
  | createDB szDBName => exact ⟨rfl,trivial⟩
  | dropDB name => exact ⟨trivial,trivial⟩

theorem templateComposed : site.sql.bytes = compose (site.template dialect) site.names := by
  have closing : (text "'").bytes = [apostrophe] := rfl
  have between : (text "' and table_name = '").bytes = apostrophe :: (text " and table_name = '").bytes := rfl
  cases site with
  | sqliteTableExists szTable =>
    simp only [Site.sql,Site.template,Site.names,countTemplate,compose,CString.appendBytes,closing,List.append_assoc]
  | tableExists sDBName szTable =>
    simp only [Site.sql,Site.template,Site.names,CppMySQLDB.schemaQuery,schemaTemplate,compose,CString.appendBytes,
      closing,between,List.append_assoc,List.cons_append]
  | createDB szDBName =>
    simp only [Site.sql,Site.template,Site.names,compose,CString.appendBytes,List.append_assoc,List.append_nil]
  | dropDB name =>
    simp only [Site.sql,Site.template,Site.names,compose,CString.appendBytes,List.append_nil]

theorem verbatimProper : Verbatim (site.template dialect) site.names ↔ Proper dialect site := by
  cases site with
  | sqliteTableExists szTable => exact (and_iff_left rfl).trans plainUnescaped
  | tableExists sDBName szTable => exact and_congr_right fun _ => and_iff_left rfl
  | createDB szDBName => exact and_iff_left rfl
  | dropDB name => exact and_iff_left rfl

theorem denotesIff : Denotes dialect site ↔ Proper dialect site := by
  rw [Denotes,templateComposed dialect,composedReads (templatesApart dialect site),verbatimProper]

example : ¬ Denotes dialect (.createDB (text "2024")) ∧ ¬ Denotes dialect (.dropDB (text "1e5")) :=
  ⟨fun denotes => absurd ((denotesIff dialect _).mp denotes).2.2.1 (by decide),
    fun denotes => absurd ((denotesIff dialect _).mp denotes).2.2.1 (by decide)⟩

theorem shortRoom : site.sql.strlen ≤ site.room ↔ Short site := by
  have lengths : countTables.strlen = 64 ∧ (text "'").strlen = 1 := ⟨rfl,rfl⟩
  have schema : (text "select count(*) from information_schema.tables where table_schema = '").strlen = 69 := rfl
  have between : (text "' and table_name = '").strlen = 20 := rfl
  have create : (text "CREATE DATABASE if not exists ").strlen = 30 := rfl
  have utf8 : (text " default character set 'utf8'").strlen = 29 := rfl
  have drop : (text "DROP DATABASE if exists ").strlen = 24 := rfl
  unfold CString.strlen at *
  cases site with
  | sqliteTableExists szTable =>
    simp only [Site.sql,Site.room,Short,CString.strlen,CString.appendBytes,List.length_append]
    omega
  | tableExists sDBName szTable =>
    simp only [Site.sql,Site.room,Short,CppMySQLDB.schemaQuery,CString.strlen,CString.appendBytes,List.length_append]
    omega
  | createDB szDBName =>
    simp only [Site.sql,Site.room,Short,CString.strlen,CString.appendBytes,List.length_append]
    omega
  | dropDB name =>
    simp only [Site.sql,Site.room,Short,CString.strlen,CString.appendBytes,List.length_append]
    omega

theorem sprintfArrives (plain : ∀ szSQL, site.print snprintf szSQL = sprintf site.sql.bytes szSQL) :
    Arrives snprintf site ↔ site.sql.strlen < 256 := by
  simp only [Arrives,plain]
  constructor
  · intro all
    exact (sprintfWhole site.sql.terminated List.length_replicate).mp (all (List.replicate 256 0) List.length_replicate)
  · intro fits szSQL room
    exact (sprintfWhole site.sql.terminated room).mpr fits

theorem arrivesIff : Arrives snprintf site ↔ Short site := by
  rw [← shortRoom]
  cases site with
  | sqliteTableExists szTable =>
    rw [Site.room,CString.strlen,← printWhole snprintf (Site.sql _).terminated 256]
    constructor
    · intro all szSQL room
      obtain ⟨printed,same,_,whole⟩ := all szSQL room
      cases same
      exact whole
    · intro all szSQL room
      exact ⟨_,rfl,(printLength snprintf (by omega)).trans room,all szSQL room⟩
  | tableExists sDBName szTable => rw [sprintfArrives snprintf _ fun _ => rfl,Site.room,Nat.lt_succ_iff]
  | createDB szDBName => rw [sprintfArrives snprintf _ fun _ => rfl,Site.room,Nat.lt_succ_iff]
  | dropDB name => rw [sprintfArrives snprintf _ fun _ => rfl,Site.room,Nat.lt_succ_iff]

end Composed

section SQLite
open SQLiteClient SQLiteLoops CppSQLite3DB
variable {client : Client} {s : Scope World CppSQLite3DB} {szSQL : CString} {count : Value}

theorem oneValue (yields : Yields client szSQL s [[count]]) :
    ∃ pDB id w, execQuery client szSQL s = .ok ⟨some pDB,some id,false,1⟩ ⟨w,s.this⟩ ∧
      (w.stmts id).value 0 = some count := by
  obtain ⟨pDB,opened⟩ := Option.ne_none_iff_exists'.mp yields.opened
  obtain ⟨names,ok,columns,rows,done⟩ := yields.statement pDB opened
  change (execution client s pDB szSQL names).rows = _ at rows
  have width : 1 = names.length :=
    (execution client s pDB szSQL names).rectangular [count] (rows ▸ List.mem_singleton_self _)
  have row : 0 < (execution client s pDB szSQL names).rows.length := rows ▸ Nat.one_pos
  obtain ⟨code,stands⟩ := firstStep client done
  rw [if_pos row] at code stands
  refine ⟨pDB,s.world.nStmts,begun client s pDB szSQL names,?_,?_⟩
  · have query := execQueryApply client opened ok columns (.inl code)
    have columnCount : ((begun client s pDB szSQL names).stmts s.world.nStmts).columns.length = 1 := by
      rw [stands,width]
    rw [code,show World.stepped client _ _ = begun client s pDB szSQL names from rfl,columnCount] at query
    exact query
  · rw [stands]
    simp [Sqlite3Stmt.value,rows]

theorem scalarOfApply {q : Scope World CppSQLite3Query} {id : Nat} (held : q.this.mpStmt = some id)
    (more : q.this.mbEof = false) (fields : q.this.mnFieldsCount = 1) (value : (q.world.stmts id).value 0 = some count)
    (present : count.type ≠ SQLITE_NULL) (nNullValue : Int) : scalarOf nNullValue q = .ok count.int q := by
  have inside : (0 : Int) < q.this.mnFieldsCount := fields ▸ Int.one_pos
  have enough : ¬ (1 : Int) < 1 := Int.lt_irrefl 1
  simp only [scalarOf,bindApply,CppSQLite3Query.eofApply held,more,iteApply,CppSQLite3Query.numFieldsApply held,
    fields,if_neg enough,CppSQLite3Query.getIntField,
    CppSQLite3Query.fieldDataIsNullApply held (Int.le_refl 0) inside value,CppSQLite3Query.handleApply held,
    columnApply,value,pureApply,decide_eq_false present]
  rfl

theorem scalarRead (yields : Yields client szSQL s [[count]]) (present : count.type ≠ SQLITE_NULL) (nNullValue : Int) :
    ∃ t, execScalar client szSQL nNullValue s = .ok count.int t := by
  obtain ⟨pDB,id,w,query,value⟩ := oneValue yields
  have scalar := scalarOfApply (q := ⟨w,⟨some pDB,some id,false,1⟩⟩) rfl rfl rfl value present nNullValue
  simp only [execScalar,bindApply,query]
  exact ⟨_,localOk scalar⟩

theorem tableQueryWhole {szTable : CString} (short : Short (.sqliteTableExists szTable)) :
    tableQuery szTable = Site.sql (.sqliteTableExists szTable) := by
  have fits : (Site.sql (.sqliteTableExists szTable)).bytes.length ≤ 254 := (shortRoom _).mpr short
  have proper := (Site.sql (.sqliteTableExists szTable)).terminated
  refine CString.ext ?_
  change ((Site.sql (.sqliteTableExists szTable)).bytes.take 254).takeWhile (· ≠ 0) = _
  rw [List.take_of_length_le fits,List.takeWhile_eq_self_iff]
  exact fun b member => decide_eq_true fun zero => proper (zero ▸ member)

end SQLite

section MySQL
open MySQLClient CppMySQLDB
variable {client : Client} {s : Scope World CppMySQLDB} {szSQL : CString} {data : ResultData} {count : CString}

theorem scalarOfText {q : Scope World CppMySQLQuery} (res : Nat) (current : q.this.mRow = some ⟨res,[some count]⟩)
    (fields : q.this.mNumFields = 1) (nNullValue : Int) : scalarOf nNullValue q = .ok (atoi count) q := by
  have cell : ([some count] : List Cell)[0]? = some (some count) := rfl
  have isNull : CppMySQLQuery.fieldDataIsNull 0 q = .ok false q := CppMySQLQuery.fieldDataIsNullApply current cell
  have string : CppMySQLQuery.getStringField 0 default q = .ok count q :=
    CppMySQLQuery.getStringFieldApply current cell default
  have enough : ¬ wrapInt ((1 : Nat) : Int) < 1 := by decide
  simp only [scalarOf,bindApply,CppMySQLQuery.eof,getApply,current,CppMySQLQuery.numFields,fields,iteApply,
    if_neg enough,CppMySQLQuery.getIntField,isNull,string,pureApply]
  rfl

/-- Of a statement that yields one value, execScalar returns what atoi makes of its text. -/
theorem scalarStored (connected : Connected true s) (accepted : (reply client s (.realQuery szSQL)).rc = 0)
    (stores : (reply client (asked client s (.realQuery szSQL)) .storeResult).stored = some data)
    (fields : data.fields.length = 1) (rows : data.rows = [[some count]]) (nNullValue : Int) :
    ∃ t, execScalar client szSQL nNullValue s = .ok (atoi count) t := by
  have kept : stored client (asked client s (.realQuery szSQL)) = (some s.world.nResults,
      ⟨(asked client (asked client s (.realQuery szSQL)) .storeResult).world.store data,s.this⟩) := by
    rw [stored,stores]
    rfl
  have self : ((asked client (asked client s (.realQuery szSQL)) .storeResult).world.store data).results
      s.world.nResults = ⟨data,data.rows⟩ := storeSelf _ data
  have query := execQueryApply client szSQL s
  simp only [if_pos connected,if_pos accepted,kept,CppMySQLQuery.ofRESApply] at query
  rw [execScalarApply,query]
  refine ⟨_,localOk (scalarOfText s.world.nResults ?_ ?_ nNullValue)⟩
  · change World.fetched _ s.world.nResults 0 = _
    rw [World.fetched,self,rows]
    rfl
  · change (World.results _ s.world.nResults).data.fields.length = 1
    rw [self,fields]

theorem createSent {szSQL : CString} (fits : szSQL.strlen < 256) (connected : Connected false s) :
    left ((do
      checkDB false
      let szSQL ← composed szSQL
      let mpDB ← handle
      let reply ← call client mpDB (.realQuery szSQL)
      if reply.rc ≠ 0 then
        throwLastError mpDB : Op CppMySQLDB Unit) s) = asked client s (.realQuery szSQL) := by
  rw [createLeft,if_pos connected,sprintfInto,if_pos fits]

end MySQL

section Sites
variable {dialect : Dialect} {site : Site}

theorem doesShort (short : Short site) (proper : Proper dialect site) : Does dialect site := by
  have denotes : Denotes dialect site := (denotesIff dialect site).mpr proper
  have fits := (shortRoom site).mpr short
  cases site with
  | sqliteTableExists szTable =>
    intro client s tables counts
    obtain ⟨count,present,same,yields⟩ := counts _ _ denotes
    obtain ⟨t,scalar⟩ := scalarRead yields present 0
    rw [CppSQLite3DB.tableExists,tableQueryWhole short]
    simp only [bindApply,scalar,same,pureApply,gt_iff_lt,Int.natCast_pos]
    exact ⟨t,rfl⟩
  | tableExists sDBName szTable =>
    rintro client s tables rfl connected counts
    obtain ⟨accepted,data,count,stores,fields,rows,same⟩ := counts _ _ _ denotes
    obtain ⟨t,scalar⟩ := scalarStored connected accepted stores fields rows 0
    change CppMySQLDB.execScalar client (CppMySQLDB.schemaQuery s.world.sDBName szTable) 0 s = _ at scalar
    have whole : sprintfInto 256 (CppMySQLDB.schemaQuery s.world.sDBName szTable) = some _ :=
      if_pos (Nat.lt_succ_of_le fits)
    rw [CppMySQLDB.tableExistsApply,if_pos connected,whole]
    simp only [bindApply,scalar,same,pureApply,gt_iff_lt,Int.natCast_pos]
    exact ⟨t,rfl⟩
  | createDB szDBName => exact fun client s connected => createSent (Nat.lt_succ_of_le fits) connected
  | dropDB name => exact fun client s connected => createSent (Nat.lt_succ_of_le fits) connected

/-- A name is embedded faithfully exactly when it leaves room for the statement and stands for
itself in it. -/
theorem faithfulIff (snprintf : Formatter) (dialect : Dialect) (site : Site) :
    Faithful snprintf dialect site ↔ Short site ∧ Proper dialect site := by
  constructor
  · intro faithful
    exact ⟨(arrivesIff snprintf site).mp faithful.arrives,(denotesIff dialect site).mp faithful.denotes⟩
  · rintro ⟨short,proper⟩
    exact ⟨(arrivesIff snprintf site).mpr short,(denotesIff dialect site).mpr proper,doesShort short proper⟩

theorem apostropheEnds : ¬ ∀ snprintf dialect site, Faithful snprintf dialect site := by
  intro all
  have denotes := (all .c99 ⟨true,fun _ => true⟩ (.sqliteTableExists (text "o'clock"))).denotes
  exact absurd denotes (by unfold Denotes; decide +kernel)

end Sites
end DatabaseLayer.SQLNames
