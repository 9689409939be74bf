import DatabaseLayer.ConnectionString
import DatabaseLayer.MySQLQuery
import DatabaseLayer.MySQLStatement

/-! CppMySQLDB: one connection and its transaction counter. Every operation is the
sequence of client calls the source makes, with the checks between them. -/
namespace DatabaseLayer
open Platform MySQLClient Foundation.Program ConnectionString

structure CppMySQLDB where
  mpDB : Option Nat
  mInTransaction : Int
  deriving DecidableEq, Repr

namespace CppMySQLDB

def checkDB (isCheckDb : Bool) : Op CppMySQLDB Unit := do
  let s ← get
  if s.this.mpDB = none then
    raise CPPMYSQL_DB_ERROR (text "Invalid database handle")
  else if isCheckDb ∧ selectedDb s.this.mpDB s.world.log = none then
    raise CPPMYSQL_DB_ERROR (text "didn't select any database")

def handle : Op CppMySQLDB (Option Nat) := do
  return (← get).this.mpDB

/-- `sprintf` into `char szSQL[256]`. -/
def composed (szSQL : CString) : Op CppMySQLDB CString :=
  match sprintfInto 256 szSQL with
  | some sql => return sql
  | none => undefinedBehaviour

def schemaQuery (schema szTable : CString) : CString :=
  text "select count(*) from information_schema.tables where table_schema = '" ++ schema ++
    text "' and table_name = '" ++ szTable ++ text "'"

section
variable (client : Client)

def new {O : Type} : Op O CppMySQLDB := do
  let reply ← call client none .init
  if reply.rc = 0 then
    let s ← get
    onWorld (fun w => {w with nConns := w.nConns + 1})
    return ⟨some s.world.nConns,0⟩
  else
    raise CPPMYSQL_DB_ERROR (text "mysql init failed!")

def connect (host user passwd : CString) (db : Option CString) (port clientFlag : Nat) :
    Op CppMySQLDB Unit := do
  checkDB false
  let mpDB ← handle
  let reply ← call client mpDB (.realConnect host user passwd db port clientFlag)
  if reply.rc ≠ 0 then
    throwLastError mpDB

def setOptions (opt : MysqlOption) (arg : Option CString) : Op CppMySQLDB Unit := do
  let mpDB ← handle
  let reply ← call client mpDB (.options opt arg)
  if reply.rc ≠ 0 then
    raise CPPMYSQL_DB_ERROR (text "mysql_options error")

def setCompress (value : CString) : Op CppMySQLDB Unit := do
  if value = text "true" then
    setOptions client .optCompress none
  else if value = text "false" then
    return ()
  else if value ≠ text "" then
    raise CPPMYSQL_DB_ERROR
      (text "create session: specify correct compress option (true or false) or skip it")

def setReconnect (value : CString) : Op CppMySQLDB Unit := do
  if value = text "true" then
    setOptions client .optReconnect (some (text "true"))
  else if value = text "false" then
    setOptions client .optReconnect (some (text "false"))
  else if value ≠ text "" then
    raise CPPMYSQL_DB_ERROR
      (text "create session: specify correct auto-reconnect option (true or false) or skip it")

def setCharset (value : CString) : Op CppMySQLDB Unit := do
  if value ≠ text "" then
    setOptions client .setCharsetName (some value)

/-- The checks and effects of connect(const char*) once the string is parsed. -/
def connectWith (options : Options) : Op CppMySQLDB Unit := do
  let port := atoi (options.get "port")
  let db := if options.get "db" ≠ text "" then some (options.get "db") else none
  if options.get "user" = text "" then
    raise CPPMYSQL_DB_ERROR (text "create session: specify user name")
  else if port = 0 ∨ port > 65535 then
    raise CPPMYSQL_DB_ERROR
      (text "create session: specify correct port (numeric in decimal notation)")
  else
    setCompress client (options.get "compress")
    setReconnect client (options.get "auto-reconnect")
    setCharset client (options.get "default-character-set")
    connect client (options.get "host") (options.get "user") (options.get "password") db
      (port % 2^32).toNat 0
    onWorld (fun w => {w with sDBName := options.get "db"})

def connectString (szConnectionString : CString) : Op CppMySQLDB Unit :=
  match parse szConnectionString with
  | .ok options => connectWith client options
  | .error stop => throw stop

/-- open(const char*) -/
def openDB (szDBName : CString) : Op CppMySQLDB Unit := do
  checkDB false
  let mpDB ← handle
  let reply ← call client mpDB (.selectDb szDBName)
  if reply.rc ≠ 0 then
    throwLastError mpDB
  else
    onWorld (fun w => {w with sDBName := szDBName})

def close : Op CppMySQLDB Unit := do
  match ← handle with
  | some conn =>
    let _ ← call client (some conn) .close
    onThis (fun db => {db with mpDB := none})
  | none => return ()

/-- ~CppMySQLDB -/
def destroy (s : Scope World CppMySQLDB) : World :=
  if s.this.mpDB ≠ none then (left (close client s)).world else s.world

def execDML (szSQL : CString) : Op CppMySQLDB Int := do
  checkDB true
  let mpDB ← handle
  let reply ← call client mpDB (.realQuery szSQL)
  if reply.rc = 0 then
    let affected ← call client mpDB .affectedRows
    return wrapInt affected.value
  else
    throwLastError mpDB

def execQuery (szSQL : CString) : Op CppMySQLDB CppMySQLQuery := do
  checkDB true
  let mpDB ← handle
  let reply ← call client mpDB (.realQuery szSQL)
  if reply.rc = 0 then
    let pRES ← mysqlStoreResult client mpDB
    CppMySQLQuery.ofRES pRES
  else
    throwLastError mpDB

/-- What execScalar does with its local query object. -/
def scalarOf (nNullValue : Int) : Op CppMySQLQuery Int := do
  if (← CppMySQLQuery.eof) then
    raise CPPMYSQL_DB_ERROR (text "Invalid scalar query")
  else if (← CppMySQLQuery.numFields) < 1 then
    raise CPPMYSQL_DB_ERROR (text "Invalid scalar query")
  else
    CppMySQLQuery.getIntField 0 nNullValue

def execScalar (szSQL : CString) (nNullValue : Int) : Op CppMySQLDB Int := do
  let q ← execQuery client szSQL
  withLocal q (scalarOf nNullValue) CppMySQLQuery.destroy

def getResultSet (szSQL : CString) : Op CppMySQLDB CppMySQLResultSet := do
  checkDB true
  let mpDB ← handle
  let reply ← call client mpDB (.realQuery szSQL)
  if reply.rc = 0 then
    let pRES ← mysqlStoreResult client mpDB
    CppMySQLResultSet.ofRES pRES
  else
    throwLastError mpDB

def compileStatement (szSQL : CString) : Op CppMySQLDB CppMySQLStatement := do
  let mpDB ← handle
  CppMySQLStatement.compile client mpDB szSQL

def tableExists (szTable : CString) : Op CppMySQLDB Bool := do
  checkDB true
  let s ← get
  let szSQL ← composed (schemaQuery s.world.sDBName szTable)
  let nRet ← execScalar client szSQL 0
  return nRet > 0

def startTransaction : Op CppMySQLDB Unit := do
  let _ ← execDML client (text "start transaction;")
  onThis (fun db => {db with mInTransaction := wrapInt (db.mInTransaction + 1)})

def commitTransaction : Op CppMySQLDB Unit := do
  checkDB true
  let mpDB ← handle
  let _ ← call client mpDB .commit
  onThis (fun db => {db with mInTransaction := wrapInt (db.mInTransaction - 1)})

def rollback : Op CppMySQLDB Unit := do
  checkDB true
  let mpDB ← handle
  let _ ← call client mpDB .rollback
  onThis (fun db => {db with mInTransaction := wrapInt (db.mInTransaction - 1)})

def isTransaction (db : CppMySQLDB) : Bool := db.mInTransaction > 0

def createDB (szDBName : CString) : Op CppMySQLDB Unit := do
  checkDB false
  let szSQL ← composed (text "CREATE DATABASE if not exists " ++ szDBName ++
    text " default character set 'utf8'")
  let mpDB ← handle
  let reply ← call client mpDB (.realQuery szSQL)
  if reply.rc ≠ 0 then
    throwLastError mpDB

def dropDB (name : CString) : Op CppMySQLDB Unit := do
  checkDB false
  let szSQL ← composed (text "DROP DATABASE if exists " ++ name)
  let mpDB ← handle
  let reply ← call client mpDB (.realQuery szSQL)
  if reply.rc ≠ 0 then
    throwLastError mpDB

def ping : Op CppMySQLDB Bool := do
  checkDB true
  let mpDB ← handle
  let reply ← call client mpDB .ping
  return reply.rc = 0

def setCharacterSet (szName : CString) : Op CppMySQLDB Bool := do
  checkDB false
  let mpDB ← handle
  let reply ← call client mpDB (.setCharacterSet szName)
  return reply.rc = 0

def getCharacterSetName : Op CppMySQLDB CString := do
  checkDB false
  let mpDB ← handle
  let reply ← call client mpDB .characterSetName
  return reply.name

end

inductive Operation where
  | connect (host user passwd : CString) (db : Option CString) (port clientFlag : Nat)
  | connectString (szConnectionString : CString)
  | openDB (szDBName : CString)
  | close
  | tableExists (szTable : CString)
  | execDML (szSQL : CString)
  | execQuery (szSQL : CString)
  | execScalar (szSQL : CString) (nNullValue : Int)
  | getResultSet (szSQL : CString)
  | compileStatement (szSQL : CString)
  | startTransaction
  | commitTransaction
  | rollback
  | isTransaction
  | createDB (szDBName : CString)
  | dropDB (name : CString)
  | ping
  | setCharacterSet (szName : CString)
  | getCharacterSetName
  | setOptions (opt : MysqlOption) (arg : Option CString)
  deriving DecidableEq, Repr

inductive Returned where
  | unit
  | bool (value : Bool)
  | int (value : Int)
  | text (value : CString)
  | query (value : CppMySQLQuery)
  | resultSet (value : CppMySQLResultSet)
  | statement (value : CppMySQLStatement)
  deriving DecidableEq, Repr

def perform (client : Client) : Operation → Op CppMySQLDB Returned
  | .connect host user passwd db port flag => do
    connect client host user passwd db port flag
    return .unit
  | .connectString sz => do connectString client sz; return .unit
  | .openDB szDBName => do openDB client szDBName; return .unit
  | .close => do close client; return .unit
  | .tableExists szTable => do return .bool (← tableExists client szTable)
  | .execDML szSQL => do return .int (← execDML client szSQL)
  | .execQuery szSQL => do return .query (← execQuery client szSQL)
  | .execScalar szSQL nNullValue => do return .int (← execScalar client szSQL nNullValue)
  | .getResultSet szSQL => do return .resultSet (← getResultSet client szSQL)
  | .compileStatement szSQL => do return .statement (← compileStatement client szSQL)
  | .startTransaction => do startTransaction client; return .unit
  | .commitTransaction => do commitTransaction client; return .unit
  | .rollback => do rollback client; return .unit
  | .isTransaction => do return .bool (isTransaction (← get).this)
  | .createDB szDBName => do createDB client szDBName; return .unit
  | .dropDB name => do dropDB client name; return .unit
  | .ping => do return .bool (← ping client)
  | .setCharacterSet szName => do return .bool (← setCharacterSet client szName)
  | .getCharacterSetName => do return .text (← getCharacterSetName client)
  | .setOptions opt arg => do setOptions client opt arg; return .unit

/-- A fresh object on its own connection, with a database selected. -/
def opened (conn : Nat) (db : CString) : Scope World CppMySQLDB := ⟨.connected conn db,⟨some conn,0⟩⟩

section Specs
variable (client : Client)

def Connected (isCheckDb : Bool) (s : Scope World CppMySQLDB) : Prop :=
  s.this.mpDB ≠ none ∧ (isCheckDb = true → selectedDb s.this.mpDB s.world.log ≠ none)

instance (b s) : Decidable (Connected b s) := by unfold Connected; infer_instance

def refusal (s : Scope World CppMySQLDB) : CppMySQLException :=
  exception CPPMYSQL_DB_ERROR (some
    (if s.this.mpDB = none then text "Invalid database handle" else text "didn't select any database"))

theorem checkDBApply (b : Bool) (s : Scope World CppMySQLDB) :
    checkDB b s = if Connected b s then .ok ⟨⟩ s else .error (.thrown (refusal s)) s := by
  simp only [checkDB,bindApply,getApply,iteApply,raiseApply,pureApply,refusal]
  by_cases closed : s.this.mpDB = none
  · have refused : ¬ Connected b s := fun h => h.1 closed
    simp only [if_pos closed,if_neg refused]
  · by_cases unselected : b = true ∧ selectedDb s.this.mpDB s.world.log = none
    · have refused : ¬ Connected b s := fun h => h.2 unselected.1 unselected.2
      simp only [if_neg closed,if_pos unselected,if_neg refused]
    · have passed : Connected b s := ⟨closed,fun hb hn => unselected ⟨hb,hn⟩⟩
      simp only [if_neg closed,if_neg unselected,if_pos passed]

@[simp] theorem handleApply (s : Scope World CppMySQLDB) : handle s = .ok s.this.mpDB s := rfl

/-- The state after one client call on the connection. -/
def asked (s : Scope World CppMySQLDB) (c : Call) : Scope World CppMySQLDB :=
  ⟨s.world.push ⟨s.this.mpDB,c,client.answer s.world.log s.this.mpDB c⟩,s.this⟩

def reply (s : Scope World CppMySQLDB) (c : Call) : Reply := client.answer s.world.log s.this.mpDB c

@[simp] theorem askedThis (s : Scope World CppMySQLDB) (c : Call) : (asked client s c).this = s.this := rfl

theorem callHandle (s : Scope World CppMySQLDB) (c : Call) :
    (call client s.this.mpDB c : Op CppMySQLDB Reply) s = .ok (reply client s c) (asked client s c) := rfl

theorem throwAsked {α : Type} (s : Scope World CppMySQLDB) (c : Call) :
    (throwLastError s.this.mpDB : Op CppMySQLDB α) (asked client s c) =
      .error (.thrown (exception (reply client s c).errno (some (reply client s c).error)))
        (asked client s c) :=
  throwLastErrorApply s.this.mpDB c (reply client s c) s.world s.this

/-- A statement is sent, and what follows is done if it was accepted. -/
theorem queriedApply {α : Type} (szSQL : CString) (follow : Option Nat → Op CppMySQLDB α) (s : Scope World CppMySQLDB) :
    (do
      checkDB true
      let mpDB ← handle
      let reply ← call client mpDB (.realQuery szSQL)
      if reply.rc = 0 then
        follow mpDB
      else
        throwLastError mpDB : Op CppMySQLDB α) s =
      if Connected true s then
        let r := reply client s (.realQuery szSQL)
        let t := asked client s (.realQuery szSQL)
        if r.rc = 0 then follow s.this.mpDB t
        else .error (.thrown (exception r.errno (some r.error))) t
      else .error (.thrown (refusal s)) s := by
  simp only [bindApply,checkDBApply]
  by_cases connected : Connected true s
  · simp only [if_pos connected,handleApply,callHandle,iteApply]
    by_cases accepted : (reply client s (.realQuery szSQL)).rc = 0
    · simp only [if_pos accepted]
    · simp only [if_neg accepted,throwAsked]
  · simp only [if_neg connected]

theorem execDMLApply (szSQL : CString) (s : Scope World CppMySQLDB) :
    execDML client szSQL s =
      if Connected true s then
        let r := reply client s (.realQuery szSQL)
        let t := asked client s (.realQuery szSQL)
        if r.rc = 0 then .ok (wrapInt (reply client t .affectedRows).value) (asked client t .affectedRows)
        else .error (.thrown (exception r.errno (some r.error))) t
      else .error (.thrown (refusal s)) s := by
  have counted := callHandle client (asked client s (.realQuery szSQL)) .affectedRows
  rw [askedThis] at counted
  refine (queriedApply client szSQL _ s).trans ?_
  simp only [bindApply,counted,pureApply]

/-- The state after mysql_store_result on the connection, and the result it handed back. -/
def stored (s : Scope World CppMySQLDB) : Option Nat × Scope World CppMySQLDB :=
  match (reply client s .storeResult).stored with
  | none => (none,asked client s .storeResult)
  | some data => (some s.world.nResults,
      ⟨(asked client s .storeResult).world.store data,s.this⟩)

theorem storeHandle (s : Scope World CppMySQLDB) :
    (mysqlStoreResult client s.this.mpDB : Op CppMySQLDB (Option Nat)) s =
      .ok (stored client s).1 (stored client s).2 := by
  simp only [storeResultApply,stored,reply,asked]
  cases (client.answer s.world.log s.this.mpDB .storeResult).stored <;> rfl

theorem execQueryApply (szSQL : CString) (s : Scope World CppMySQLDB) :
    execQuery client szSQL s =
      if Connected true s then
        let r := reply client s (.realQuery szSQL)
        let t := asked client s (.realQuery szSQL)
        if r.rc = 0 then CppMySQLQuery.ofRES (stored client t).1 (stored client t).2
        else .error (.thrown (exception r.errno (some r.error))) t
      else .error (.thrown (refusal s)) s := by
  have fetched := storeHandle client (asked client s (.realQuery szSQL))
  rw [askedThis] at fetched
  refine (queriedApply client szSQL _ s).trans ?_
  simp only [bindApply,fetched]

theorem getResultSetApply (szSQL : CString) (s : Scope World CppMySQLDB) :
    getResultSet client szSQL s =
      if Connected true s then
        let r := reply client s (.realQuery szSQL)
        let t := asked client s (.realQuery szSQL)
        if r.rc = 0 then CppMySQLResultSet.ofRES (stored client t).1 (stored client t).2
        else .error (.thrown (exception r.errno (some r.error))) t
      else .error (.thrown (refusal s)) s := by
  have fetched := storeHandle client (asked client s (.realQuery szSQL))
  rw [askedThis] at fetched
  refine (queriedApply client szSQL _ s).trans ?_
  simp only [bindApply,fetched]

theorem startTransactionApply (s : Scope World CppMySQLDB) :
    startTransaction client s =
      let sql := text "start transaction;"
      if Connected true s then
        let r := reply client s (.realQuery sql)
        let t := asked client s (.realQuery sql)
        if r.rc = 0 then .ok ⟨⟩ ⟨(asked client t .affectedRows).world,
          {s.this with mInTransaction := wrapInt (s.this.mInTransaction + 1)}⟩
        else .error (.thrown (exception r.errno (some r.error))) t
      else .error (.thrown (refusal s)) s := by
  simp only [startTransaction,bindApply,execDMLApply]
  by_cases connected : Connected true s
  · simp only [if_pos connected]
    by_cases accepted : (reply client s (.realQuery (text "start transaction;"))).rc = 0
    · simp only [if_pos accepted,onThisApply,askedThis]
    · simp only [if_neg accepted]
  · simp only [if_neg connected]

/-- A transaction is ended by a call whose answer is not asked for. -/
theorem endedApply (c : Call) (s : Scope World CppMySQLDB) :
    (do
      checkDB true
      let mpDB ← handle
      let _ ← call client mpDB c
      onThis (fun db => {db with mInTransaction := wrapInt (db.mInTransaction - 1)}) : Op CppMySQLDB Unit) s =
      if Connected true s then .ok ⟨⟩ ⟨(asked client s c).world,
        {s.this with mInTransaction := wrapInt (s.this.mInTransaction - 1)}⟩
      else .error (.thrown (refusal s)) s := by
  simp only [bindApply,checkDBApply]
  by_cases connected : Connected true s
  · simp only [if_pos connected,handleApply,callHandle,onThisApply,askedThis]
  · simp only [if_neg connected]

theorem commitTransactionApply (s : Scope World CppMySQLDB) :
    commitTransaction client s =
      if Connected true s then .ok ⟨⟩ ⟨(asked client s .commit).world,
        {s.this with mInTransaction := wrapInt (s.this.mInTransaction - 1)}⟩
      else .error (.thrown (refusal s)) s := endedApply client .commit s

theorem rollbackApply (s : Scope World CppMySQLDB) :
    rollback client s =
      if Connected true s then .ok ⟨⟩ ⟨(asked client s .rollback).world,
        {s.this with mInTransaction := wrapInt (s.this.mInTransaction - 1)}⟩
      else .error (.thrown (refusal s)) s := endedApply client .rollback s

end Specs
end CppMySQLDB
end DatabaseLayer
