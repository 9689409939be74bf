import DatabaseLayer.SQLiteResultSet
import DatabaseLayer.SQLiteStatement

/-! CppSQLite3DB: one connection, and the ways to run a statement on it. -/
namespace DatabaseLayer
open Platform SQLiteClient Foundation.Program

structure CppSQLite3DB where
  mpDB : Option Nat
  deriving DecidableEq, Repr

namespace CppSQLite3DB

section
variable (client : Client)

/-- The connection of an object that checkDB let pass. -/
def checkDB : Op CppSQLite3DB Nat := do
  match (← get).this.mpDB with
  | some pDB => return pDB
  | none => raise CPPQLITE3_DB_ERROR (.literal (text "Database not open")) false

/-- open(const char*): whatever handle the object had is overwritten. -/
def openDB (szFile : CString) : Op CppSQLite3DB Unit := do
  let opened ← sqlite3Open client szFile
  onThis (fun db => {db with mpDB := opened.2})
  if opened.1 ≠ SQLITE_OK then
    let message ← sqlite3Errmsg client opened.2
    raise opened.1 message true

def close : Op CppSQLite3DB Unit := do
  match (← get).this.mpDB with
  | some pDB =>
    if (← sqlite3Close client pDB) = SQLITE_OK then
      onThis (fun db => {db with mpDB := none})
    else
      raise CPPQLITE3_DB_ERROR (.literal (text "Unable to close database")) false
  | none => return ()

def execDML (szSQL : CString) : Op CppSQLite3DB Int := do
  let pDB ← checkDB
  let reply ← sqlite3Exec client pDB szSQL
  if reply.rc = SQLITE_OK then
    sqlite3Changes client pDB
  else
    raise reply.rc (.ofError reply.error) true

def compile (szSQL : CString) : Op CppSQLite3DB (Option Nat) := do
  let pDB ← checkDB
  let prepared ← sqlite3Prepare client pDB szSQL
  if prepared.1 ≠ SQLITE_OK then
    let message ← sqlite3Errmsg client (some pDB)
    raise prepared.1 message false
  else
    return prepared.2

/-- The query of a statement that was stepped; without a statement no step comes this far. -/
def query (pDB : Nat) (pStmt : Option Nat) (bEof : Bool) : Op CppSQLite3DB CppSQLite3Query :=
  match pStmt with
  | some pStmt => CppSQLite3Query.ofStmt pDB pStmt bEof
  | none => undefinedBehaviour

def execQuery (szSQL : CString) : Op CppSQLite3DB CppSQLite3Query := do
  let pDB ← checkDB
  let pStmt ← compile client szSQL
  let nRet ← sqlite3Step client pStmt
  if nRet = SQLITE_DONE then
    query pDB pStmt true
  else if nRet = SQLITE_ROW then
    query pDB pStmt false
  else
    let nRet ← sqlite3Finalize pStmt
    let message ← sqlite3Errmsg client (some pDB)
    raise nRet message true

/-- What execScalar does with its local query object. -/
def scalarOf (nNullValue : Int) : Op CppSQLite3Query Int := do
  if (← CppSQLite3Query.eof) then
    raise CPPQLITE3_DB_ERROR (.literal (text "Invalid scalar query")) false
  else if (← CppSQLite3Query.numFields) < 1 then
    raise CPPQLITE3_DB_ERROR (.literal (text "Invalid scalar query")) false
  else
    CppSQLite3Query.getIntField 0 nNullValue

def execScalar (szSQL : CString) (nNullValue : Int) : Op CppSQLite3DB Int := do
  let q ← execQuery client szSQL
  withLocal q (scalarOf nNullValue) (CppSQLite3Query.destroy client)

def getResultSet (szSQL : CString) : Op CppSQLite3DB CppSQLite3ResultSet := do
  let pDB ← checkDB
  let reply ← sqlite3GetTable client pDB szSQL
  if reply.1.rc = SQLITE_OK then
    let table := reply.1.table
    return .ofTable ⟨reply.2,table.pointers⟩ table.rows.length table.names.length
  else
    raise reply.1.rc (.ofError reply.1.error) true

def compileStatement (szSQL : CString) : Op CppSQLite3DB CppSQLite3Statement := do
  let pDB ← checkDB
  let pStmt ← compile client szSQL
  return .ofStmt pDB pStmt

/-- `snprintf` of at most 254 characters into `char szSQL[256]`. -/
def tableQuery (szTable : CString) : CString :=
  let szSQL := text "select count(*) from sqlite_master where type='table' and name='" ++ szTable ++ text "'"
  .ofBytes (szSQL.bytes.take 254)

def tableExists (szTable : CString) : Op CppSQLite3DB Bool := do
  let nRet ← execScalar client (tableQuery szTable) 0
  return nRet > 0

def startTransaction : Op CppSQLite3DB Unit := do
  let _ ← execDML client (text "begin transaction;")

def commitTransaction : Op CppSQLite3DB Unit := do
  let _ ← execDML client (text "commit transaction;")

def rollback : Op CppSQLite3DB Unit := do
  let _ ← execDML client (text "rollback;")

def isTransaction : Op CppSQLite3DB Bool := do
  let pDB ← checkDB
  return !(← sqlite3GetAutocommit client pDB)

def setBusyTimeout (nMillisecs : Int) : Op CppSQLite3DB Unit := do
  sqlite3BusyTimeout (← get).this.mpDB nMillisecs

end

/-- The public operations. -/
inductive Operation where
  | openDB (szFile : CString)
  | close
  | tableExists (szTable : CString)
  | execDML (szSQL : CString)
  | execQuery (szSQL : CString)
  | execScalar (szSQL : CString) (nNullValue : Int)
  | getResultSet (szSQL : CString)
  | compileStatement (szSQL : CString)
  | startTransaction
  | commitTransaction
  | rollback
  | isTransaction
  | setBusyTimeout (nMillisecs : Int)
  deriving DecidableEq, Repr

inductive Returned where
  | unit
  | bool (value : Bool)
  | int (value : Int)
  | query (value : CppSQLite3Query)
  | resultSet (value : CppSQLite3ResultSet)
  | statement (value : CppSQLite3Statement)
  deriving DecidableEq, Repr

def perform (client : Client) : Operation → Op CppSQLite3DB Returned
  | .openDB szFile => do openDB client szFile; return .unit
  | .close => do close client; return .unit
  | .tableExists szTable => do return .bool (← tableExists client szTable)
  | .execDML szSQL => do return .int (← execDML client szSQL)
  | .execQuery szSQL => do return .query (← execQuery client szSQL)
  | .execScalar szSQL nNullValue => do return .int (← execScalar client szSQL nNullValue)
  | .getResultSet szSQL => do return .resultSet (← getResultSet client szSQL)
  | .compileStatement szSQL => do return .statement (← compileStatement client szSQL)
  | .startTransaction => do startTransaction client; return .unit
  | .commitTransaction => do commitTransaction client; return .unit
  | .rollback => do rollback client; return .unit
  | .isTransaction => do return .bool (← isTransaction client)
  | .setBusyTimeout nMillisecs => do setBusyTimeout nMillisecs; return .unit

section Specs
variable (client : Client) {szSQL : CString} {s : Scope World CppSQLite3DB} {pDB : Nat} {names : List CString}

theorem checkDBApply (opened : s.this.mpDB = some pDB) : checkDB s = .ok pDB s := by
  simp only [checkDB,bindApply,getApply,opened,pureApply]

/-- The refusal of an object without a connection. -/
def notOpen {α σ : Type} (s : σ) : EStateM.Result Stop σ α :=
  .error (.thrown (exception CPPQLITE3_DB_ERROR (some (text "Database not open")))) s

theorem checkDBClosed (closed : s.this.mpDB = none) : checkDB s = notOpen s := by
  simp only [checkDB,bindApply,getApply,closed,raiseApply]
  rfl

theorem openDBApply (szFile : CString) (s : Scope World CppSQLite3DB) :
    openDB client szFile s =
      let rc := (client.openConn s.world.log szFile).rc
      let w := s.world.opened client szFile
      let db : CppSQLite3DB := ⟨openedConn client s.world szFile⟩
      let message := Message.errmsg (client.errmsg w.log db.mpDB)
      if rc ≠ SQLITE_OK then .error (.thrown (exception rc message.text))
        ⟨(w.push ⟨.errmsg db.mpDB,SQLITE_OK⟩).raised rc message true,db⟩
      else .ok ⟨⟩ ⟨w,db⟩ := by
  simp only [openDB,bindApply,openApply,onThisApply,iteApply]
  by_cases ok : (client.openConn s.world.log szFile).rc ≠ SQLITE_OK
  · simp only [if_pos ok,sqlite3Errmsg,bindApply,getApply,onWorldApply,pureApply,raiseApply]
  · simp only [if_neg ok,pureApply]

theorem closeApply (s : Scope World CppSQLite3DB) :
    close client s = match s.this.mpDB with
      | none => .ok ⟨⟩ s
      | some pDB =>
        let rc := if s.world.busy pDB then SQLITE_BUSY else client.closeConn s.world.log pDB
        let w := s.world.push ⟨.closeConn pDB,rc⟩
        if rc = SQLITE_OK then .ok ⟨⟩ ⟨w,⟨none⟩⟩
        else .error (.thrown (exception CPPQLITE3_DB_ERROR (some (text "Unable to close database")))) ⟨w,s.this⟩ := by
  simp only [close,bindApply,getApply]
  cases s.this.mpDB with
  | none => rfl
  | some pDB =>
    simp only [sqlite3Close,bindApply,getApply,onWorldApply,pureApply,iteApply,onThisApply,raiseApply]
    refine ite_congr rfl (fun _ => rfl) fun _ => ?_
    rfl

theorem compileApply (opened : s.this.mpDB = some pDB) :
    compile client szSQL s =
      let rc := (client.prepare s.world.log pDB szSQL).rc
      let w := s.world.prepared client pDB szSQL
      if rc ≠ SQLITE_OK then
        .error (.thrown (exception rc (some (client.errmsg w.log (some pDB)))))
          ⟨w.push ⟨.errmsg (some pDB),SQLITE_OK⟩,s.this⟩
      else .ok ((preparedColumns client s.world pDB szSQL).map (fun _ => s.world.nStmts)) ⟨w,s.this⟩ := by
  simp only [compile,bindApply,checkDBApply opened,prepareApply,iteApply]
  by_cases ok : (client.prepare s.world.log pDB szSQL).rc ≠ SQLITE_OK
  · have never : ∀ message, frees (client.prepare s.world.log pDB szSQL).rc message false = false := by
      simp [frees]
    simp only [if_pos ok,sqlite3Errmsg,bindApply,getApply,onWorldApply,pureApply,raiseApply,World.raised,never,
      Bool.false_eq_true,if_false,Message.text]
  · simp only [if_neg ok,pureApply]

/-- The world in which a text was prepared as one statement. -/
def compiled (w : World) (pDB : Nat) (szSQL : CString) (names : List CString) : World :=
  (w.push ⟨.prepare pDB szSQL,SQLITE_OK⟩).register pDB names

theorem compileNamed (opened : s.this.mpDB = some pDB)
    (ok : (client.prepare s.world.log pDB szSQL).rc = SQLITE_OK)
    (columns : (client.prepare s.world.log pDB szSQL).columns = some names) :
    compile client szSQL s = .ok (some s.world.nStmts) ⟨compiled s.world pDB szSQL names,s.this⟩ := by
  have fine : ¬ SQLITE_OK ≠ SQLITE_OK := not_not.mpr rfl
  have found : preparedColumns client s.world pDB szSQL = some names := (if_pos ok).trans columns
  simp only [compileApply client opened,World.prepared,found,ok,if_neg fine,Option.map_some,compiled]

theorem getResultSetApply (opened : s.this.mpDB = some pDB) :
    getResultSet client szSQL s =
      let reply := client.getTable s.world.log pDB szSQL
      let w := s.world.push ⟨.getTable pDB szSQL,reply.rc⟩
      if reply.rc = SQLITE_OK then
        .ok (.ofTable ⟨s.world.nTables,reply.table.pointers⟩ reply.table.rows.length reply.table.names.length)
          ⟨w.addTable,s.this⟩
      else .error (.thrown (exception reply.rc (Message.ofError reply.error).text))
        ⟨w.raised reply.rc (.ofError reply.error) true,s.this⟩ := by
  simp only [getResultSet,bindApply,checkDBApply opened,getTableApply,iteApply,pureApply,raiseApply]
  by_cases ok : (client.getTable s.world.log pDB szSQL).rc = SQLITE_OK
  · simp only [if_pos ok]
  · simp only [if_neg ok]

theorem compileStatementApply (opened : s.this.mpDB = some pDB)
    (ok : (client.prepare s.world.log pDB szSQL).rc = SQLITE_OK)
    (columns : (client.prepare s.world.log pDB szSQL).columns = some names) :
    compileStatement client szSQL s =
      .ok ⟨some pDB,some s.world.nStmts⟩ ⟨compiled s.world pDB szSQL names,s.this⟩ := by
  simp only [compileStatement,bindApply,checkDBApply opened,compileNamed client opened ok columns,pureApply,
    CppSQLite3Statement.ofStmt]

theorem execQueryApply (opened : s.this.mpDB = some pDB)
    (ok : (client.prepare s.world.log pDB szSQL).rc = SQLITE_OK)
    (columns : (client.prepare s.world.log pDB szSQL).columns = some names) :
    let w := compiled s.world pDB szSQL names
    let id := s.world.nStmts
    let code := (advance client w.log id (w.stmts id)).1
    (code = SQLITE_ROW ∨ code = SQLITE_DONE) → execQuery client szSQL s = .ok
      ⟨some pDB,some id,code = SQLITE_DONE,((w.stepped client id).stmts id).columns.length⟩
      ⟨w.stepped client id,s.this⟩ := by
  intro w id code fine
  simp only [execQuery,bindApply,checkDBApply opened,compileNamed client opened ok columns,stepApply,iteApply]
  have more : ¬ SQLITE_ROW = SQLITE_DONE := by decide
  obtain row | done := fine
  · have row' : (advance client w.log id (w.stmts id)).1 = SQLITE_ROW := row
    simp only [w,id] at row'
    simp only [code,w,id,row',if_neg more,if_true,query,CppSQLite3Query.ofStmtApply,decide_eq_false more]
  · have done' : (advance client w.log id (w.stmts id)).1 = SQLITE_DONE := done
    simp only [w,id] at done'
    simp only [code,w,id,done',if_true,query,CppSQLite3Query.ofStmtApply,decide_true]

section Failing

/-- What is left of a world in which a statement was stepped in vain. -/
def abandoned (pDB : Nat) (pStmt : Option Nat) (w : World) : World :=
  let rc := match pStmt with
    | none => SQLITE_OK
    | some id => (w.stmts id).progress.failure
  let v := w.push ⟨.finalize pStmt,rc⟩
  (v.push ⟨.errmsg (some pDB),SQLITE_OK⟩).raised rc (.errmsg (client.errmsg v.log (some pDB))) true

theorem execQueryClosed (closed : s.this.mpDB = none) : execQuery client szSQL s = notOpen s := by
  simp only [execQuery,bindApply,checkDBClosed closed,notOpen]

theorem execQueryUnpreparedCode (opened : s.this.mpDB = some pDB)
    (refused : (client.prepare s.world.log pDB szSQL).rc ≠ SQLITE_OK) :
    ∃ message, execQuery client szSQL s = .error (.thrown (exception (client.prepare s.world.log pDB szSQL).rc message))
      ⟨(s.world.prepared client pDB szSQL).push ⟨.errmsg (some pDB),SQLITE_OK⟩,s.this⟩ := by
  simp only [execQuery,bindApply,checkDBApply opened,compileApply client opened,if_pos refused]
  exact ⟨_,rfl⟩

theorem execQueryUnprepared (opened : s.this.mpDB = some pDB)
    (refused : (client.prepare s.world.log pDB szSQL).rc ≠ SQLITE_OK) :
    ∃ e, execQuery client szSQL s = .error (.thrown e)
      ⟨(s.world.prepared client pDB szSQL).push ⟨.errmsg (some pDB),SQLITE_OK⟩,s.this⟩ := by
  obtain ⟨message,throws⟩ := execQueryUnpreparedCode client opened refused
  exact ⟨_,throws⟩

/-- A text without a statement fails at the first step, and finalizing no statement succeeds. -/
theorem execQueryEmptyCode (opened : s.this.mpDB = some pDB)
    (ok : (client.prepare s.world.log pDB szSQL).rc = SQLITE_OK)
    (columns : (client.prepare s.world.log pDB szSQL).columns = none) :
    ∃ message, execQuery client szSQL s = .error (.thrown (exception SQLITE_OK message)) ⟨abandoned client pDB none
      ((s.world.prepared client pDB szSQL).push ⟨.step none,SQLITE_MISUSE⟩),s.this⟩ := by
  have fine : ¬ (client.prepare s.world.log pDB szSQL).rc ≠ SQLITE_OK := not_not.mpr ok
  have found : preparedColumns client s.world pDB szSQL = none := (if_pos ok).trans columns
  have done : ¬ SQLITE_MISUSE = SQLITE_DONE := by decide
  have row : ¬ SQLITE_MISUSE = SQLITE_ROW := by decide
  simp only [execQuery,bindApply,checkDBApply opened,compileApply client opened,if_neg fine,found,Option.map_none,
    sqlite3Step,onWorldApply,pureApply,iteApply,if_neg done,if_neg row,sqlite3Finalize,getApply,sqlite3Errmsg,
    raiseApply,abandoned]
  exact ⟨_,rfl⟩

theorem execQueryEmpty (opened : s.this.mpDB = some pDB)
    (ok : (client.prepare s.world.log pDB szSQL).rc = SQLITE_OK)
    (columns : (client.prepare s.world.log pDB szSQL).columns = none) :
    ∃ e, execQuery client szSQL s = .error (.thrown e) ⟨abandoned client pDB none
      ((s.world.prepared client pDB szSQL).push ⟨.step none,SQLITE_MISUSE⟩),s.this⟩ := by
  obtain ⟨message,throws⟩ := execQueryEmptyCode client opened ok columns
  exact ⟨_,throws⟩

theorem execQueryFailsCode (opened : s.this.mpDB = some pDB)
    (ok : (client.prepare s.world.log pDB szSQL).rc = SQLITE_OK)
    (columns : (client.prepare s.world.log pDB szSQL).columns = some names) :
    let w := compiled s.world pDB szSQL names
    let id := s.world.nStmts
    let code := (advance client w.log id (w.stmts id)).1
    ¬ (code = SQLITE_ROW ∨ code = SQLITE_DONE) → ∃ message, execQuery client szSQL s =
      .error (.thrown (exception ((w.stepped client id).stmts id).progress.failure message))
        ⟨abandoned client pDB (some id) (w.stepped client id),s.this⟩ := by
  intro w id code failed
  obtain ⟨row,done⟩ := not_or.mp failed
  simp only [execQuery,bindApply,checkDBApply opened,compileNamed client opened ok columns,stepApply,iteApply]
  simp only [code,w,id] at row done
  simp only [if_neg row,if_neg done,sqlite3Finalize,bindApply,getApply,onWorldApply,pureApply,sqlite3Errmsg,raiseApply,
    abandoned]
  exact ⟨_,rfl⟩

theorem execQueryFails (opened : s.this.mpDB = some pDB)
    (ok : (client.prepare s.world.log pDB szSQL).rc = SQLITE_OK)
    (columns : (client.prepare s.world.log pDB szSQL).columns = some names) :
    let w := compiled s.world pDB szSQL names
    let id := s.world.nStmts
    let code := (advance client w.log id (w.stmts id)).1
    ¬ (code = SQLITE_ROW ∨ code = SQLITE_DONE) → ∃ e, execQuery client szSQL s = .error (.thrown e)
      ⟨abandoned client pDB (some id) (w.stepped client id),s.this⟩ := by
  intro w id code failed
  obtain ⟨message,throws⟩ := execQueryFailsCode client opened ok columns failed
  exact ⟨_,throws⟩

/-- The query of a database knows the connection of that database. -/
theorem execQueryKnows {t : Scope World CppSQLite3DB} {q : CppSQLite3Query}
    (returns : execQuery client szSQL s = .ok q t) : ∃ pDB, s.this.mpDB = some pDB ∧ q.mpDB = some pDB := by
  cases opened : s.this.mpDB with
  | none =>
    rw [execQueryClosed client opened] at returns
    cases returns
  | some pDB =>
    by_cases ok : (client.prepare s.world.log pDB szSQL).rc = SQLITE_OK
    · cases columns : (client.prepare s.world.log pDB szSQL).columns with
      | none =>
        obtain ⟨e,fails⟩ := execQueryEmpty client opened ok columns
        rw [fails] at returns
        cases returns
      | some names =>
        by_cases fine : (advance client (compiled s.world pDB szSQL names).log s.world.nStmts
              ((compiled s.world pDB szSQL names).stmts s.world.nStmts)).1 = SQLITE_ROW ∨
            (advance client (compiled s.world pDB szSQL names).log s.world.nStmts
              ((compiled s.world pDB szSQL names).stmts s.world.nStmts)).1 = SQLITE_DONE
        · rw [execQueryApply client opened ok columns fine] at returns
          cases returns
          exact ⟨pDB,rfl,rfl⟩
        · obtain ⟨e,fails⟩ := execQueryFails client opened ok columns fine
          rw [fails] at returns
          cases returns
    · obtain ⟨e,fails⟩ := execQueryUnprepared client opened ok
      rw [fails] at returns
      cases returns

end Failing
end Specs
end CppSQLite3DB
end DatabaseLayer
