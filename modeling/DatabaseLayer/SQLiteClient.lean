import DatabaseLayer.Platform
import DatabaseLayer.Foundation.Program
import Mathlib.Logic.Function.Basic

/-! The SQLite library as the wrapper meets it. What a statement yields when it is executed,
and what the library answers otherwise, are arbitrary functions of the whole call history;
how a prepared statement moves from row to row is what the library documents. -/
namespace DatabaseLayer.SQLiteClient
open Platform Foundation.Program

def SQLITE_OK : Int := 0
def SQLITE_BUSY : Int := 5
def SQLITE_MISUSE : Int := 21
def SQLITE_RANGE : Int := 25
def SQLITE_ROW : Int := 100
def SQLITE_DONE : Int := 101

/-- The column type of SQL NULL. -/
def SQLITE_NULL : Int := 5

/-- A primary result code is at most 101, and an extended one has a primary one in its low byte. -/
def ResultCode (rc : Int) : Prop := 0 ≤ rc ∧ rc % 256 ≤ 101

instance (rc) : Decidable (ResultCode rc) := by unfold ResultCode; infer_instance

/-- A value of a row, as each of the column functions hands it out. -/
structure Value where
  type : Int
  text : Option CString
  int : Int
  double : UInt64
  blob : List UInt8
  nullText : type = SQLITE_NULL → text = none
  deriving DecidableEq, Repr

/-- One execution of a statement from its initial state: rows, then DONE or an error code. -/
structure Execution (width : Nat) where
  rows : List (List Value)
  ending : Int
  rectangular : ∀ row ∈ rows, row.length = width
  ends : ending ≠ SQLITE_ROW ∧ ending ≠ SQLITE_OK
  code : ResultCode ending
  deriving DecidableEq, Repr

inductive Progress (width : Nat) where
  | initial
  | onRow (execution : Execution width) (i : Nat)
  | ended (execution : Execution width)
  deriving DecidableEq, Repr

/-- What sqlite3_reset and sqlite3_finalize return: the error of the last step, if it failed. -/
def Progress.failure {width : Nat} : Progress width → Int
  | .ended e => if e.ending = SQLITE_DONE then SQLITE_OK else e.ending
  | _ => SQLITE_OK

structure Sqlite3Stmt where
  conn : Nat
  columns : List CString
  progress : Progress columns.length
  deriving DecidableEq, Repr

instance : Inhabited Sqlite3Stmt := ⟨⟨0,[],.initial⟩⟩

/-- What sqlite3_prepare_v2 answers: no columns at all when the text holds no statement. -/
structure Prepared where
  rc : Int
  columns : Option (List CString)
  columnCount : ∀ names, columns = some names → names.length < 2^31
  deriving DecidableEq, Repr

/-- A result table of sqlite3_get_table, whose array is indexed by int. -/
structure TableData where
  names : List CString
  rows : List (List (Option CString))
  rectangular : ∀ row ∈ rows, row.length = names.length
  rowCount : rows.length < 2^31
  size : (rows.length + 1) * names.length < 2^31
  deriving DecidableEq, Repr

/-- The array of pointers: the names, then row after row. -/
def TableData.pointers (table : TableData) : List (Option CString) :=
  table.names.map some ++ table.rows.flatten

/-- On an error there is a message for the caller to free, memory permitting. -/
structure TableReply where
  rc : Int
  table : TableData
  error : Option CString
  quiet : rc = SQLITE_OK → error = none
  code : ResultCode rc
  deriving DecidableEq, Repr

/-- What sqlite3_exec answers; the message is NULL when there was no error. -/
structure ExecReply where
  rc : Int
  error : Option CString
  quiet : rc = SQLITE_OK → error = none
  code : ResultCode rc
  deriving DecidableEq, Repr

/-- What sqlite3_open answers. Also when it fails there is a handle, memory permitting. -/
structure Opened where
  rc : Int
  handle : Bool
  whole : rc = SQLITE_OK → handle = true
  code : ResultCode rc
  deriving DecidableEq, Repr

/-- A message handed to an exception: none, a literal, what sqlite3_errmsg points at, or a
string the library allocated for its caller. -/
inductive Message where
  | null
  | literal (text : CString)
  | errmsg (text : CString)
  | allocated (text : CString)
  deriving DecidableEq, Repr

def Message.text : Message → Option CString
  | .null => none
  | .literal text | .errmsg text | .allocated text => some text

/-- What an error out-parameter points at. -/
def Message.ofError : Option CString → Message
  | some text => .allocated text
  | none => .null

/-- A parameter value, copied by the library where it is a text or a blob. -/
inductive Parameter where
  | text (szValue : CString)
  | int (nValue : Int)
  | double (bits : UInt64)
  | blob (bytes : List UInt8)
  | null
  deriving DecidableEq, Repr

inductive Call where
  | openConn (szFile : CString)
  | closeConn (conn : Nat)
  | exec (conn : Nat) (sql : CString)
  | changes (conn : Nat)
  | errmsg (conn : Option Nat)
  | errmsgUnset
  | getAutocommit (conn : Nat)
  | busyTimeout (conn : Option Nat) (nMillisecs : Int)
  | bind (stmt : Nat) (nParam : Int) (value : Parameter)
  | prepare (conn : Nat) (sql : CString)
  | step (stmt : Option Nat)
  | reset (stmt : Nat)
  | finalize (stmt : Option Nat)
  | getTable (conn : Nat) (sql : CString)
  | freeTable (table : Nat)
  | free (message : Message)
  deriving DecidableEq, Repr

structure Entry where
  call : Call
  rc : Int
  deriving DecidableEq, Repr

/-- Newest entry first. -/
abbrev History := List Entry

structure Client where
  openConn : History → CString → Opened
  closeConn : History → Nat → Int
  exec : History → Nat → CString → ExecReply
  prepare : History → Nat → CString → Prepared
  execute : History → Nat → (width : Nat) → Execution width
  getTable : History → Nat → CString → TableReply
  bind : History → Nat → Int → Parameter → Int
  errmsg : History → Option Nat → CString
  changes : History → Nat → Int
  autocommit : History → Nat → Bool

theorem doneEnds : SQLITE_DONE ≠ SQLITE_ROW ∧ SQLITE_DONE ≠ SQLITE_OK := by decide

theorem doneCode : ResultCode SQLITE_DONE := by decide

theorem busyEnds : SQLITE_BUSY ≠ SQLITE_ROW ∧ SQLITE_BUSY ≠ SQLITE_OK := by decide

theorem busyCode : ResultCode SQLITE_BUSY := by decide

/-- An execution that yields no row. -/
def Execution.rowless (width : Nat) : Execution width := ⟨[],SQLITE_DONE,nofun,doneEnds,doneCode⟩

def TableReply.empty : TableReply :=
  ⟨SQLITE_OK,⟨[],[],nofun,Nat.two_pow_pos 31,Nat.two_pow_pos 31⟩,none,fun _ => rfl,by decide⟩

/-- A library that accepts every call, and executes statements without columns. -/
def Client.obliging : Client where
  openConn _ _ := ⟨SQLITE_OK,true,fun _ => rfl,by decide⟩
  closeConn _ _ := SQLITE_OK
  exec _ _ _ := ⟨SQLITE_OK,none,fun _ => rfl,by decide⟩
  prepare _ _ _ := ⟨SQLITE_OK,some [],fun _ same => Option.some.inj same ▸ Nat.two_pow_pos 31⟩
  execute _ _ width := .rowless width
  getTable _ _ _ := .empty
  bind _ _ _ _ := SQLITE_OK
  errmsg _ _ := default
  changes _ _ := 0
  autocommit _ _ := true

structure CppSQLite3Exception where
  nErrCode : Int
  aszErrMess : CString
  deriving DecidableEq, Repr

def CPPQLITE3_DB_ERROR : Int := 5001
def CPPQLITE3L_QUERY_ERROR : Int := 5002
def CPPQLITE3_RESULTSET_ERROR : Int := 5003
def CPPQLITE3_STATEMENT_ERROR : Int := 5004

/-- The class an error code of the wrapper names. -/
def className (nErrCode : Int) : Option CString :=
  if nErrCode = CPPQLITE3_DB_ERROR then some (text "CppSQLite3DB")
  else if nErrCode = CPPQLITE3L_QUERY_ERROR then some (text "CppSQLite3Query")
  else if nErrCode = CPPQLITE3_RESULTSET_ERROR then some (text "CppSQLite3ResultSet")
  else if nErrCode = CPPQLITE3_STATEMENT_ERROR then some (text "CppSQLite3Statement")
  else none

/-- The text `snprintf` leaves in `char m_aszErrMess[256]`, given 255 bytes of it. -/
def exception (nErrCode : Int) (szErrMess : Option CString) : CppSQLite3Exception :=
  let whole := text "[" ++ (className nErrCode).getD (text "sqlite3") ++ text "] " ++ szErrMess.getD default
  ⟨nErrCode,.ofBytes (whole.bytes.take 254)⟩

/-- Why an operation did not return: it threw, or it went outside defined behaviour. -/
inductive Stop where
  | thrown (e : CppSQLite3Exception)
  | undefined
  deriving DecidableEq, Repr

/-- What the wrapper objects share: the library's connections, statements and tables. -/
structure World where
  log : History
  stmts : Nat → Sqlite3Stmt
  nStmts : Nat
  nTables : Nat
  nConns : Nat

def World.initial : World := ⟨[],fun _ => default,0,0,0⟩

def World.push (w : World) (e : Entry) : World := {w with log := e :: w.log}

def World.setStmt (w : World) (id : Nat) (stmt : Sqlite3Stmt) : World :=
  {w with stmts := Function.update w.stmts id stmt}

@[simp] theorem pushLog (w : World) (e : Entry) : (w.push e).log = e :: w.log := rfl
@[simp] theorem pushStmts (w : World) (e : Entry) : (w.push e).stmts = w.stmts := rfl
@[simp] theorem pushNStmts (w : World) (e : Entry) : (w.push e).nStmts = w.nStmts := rfl
@[simp] theorem setStmtLog (w : World) (id stmt) : (w.setStmt id stmt).log = w.log := rfl
@[simp] theorem setStmtSelf (w : World) (id stmt) : (w.setStmt id stmt).stmts id = stmt := by
  simp [World.setStmt]

section Primitives
variable {O : Type} (client : Client)

abbrev Op (O α : Type) := Method Stop World O α

def undefinedBehaviour {α : Type} : Op O α := throw .undefined

/-- When the constructor of an exception frees the message: it is told to, there is one, and
the code is not one of the wrapper's. -/
def frees (nErrCode : Int) (szErrMess : Message) (isSqlite3Free : Bool) : Bool :=
  (className nErrCode).isNone && isSqlite3Free && szErrMess.text.isSome

/-- `throw CppSQLite3Exception(...)` -/
def raise {α : Type} (nErrCode : Int) (szErrMess : Message) (isSqlite3Free : Bool) : Op O α := do
  if frees nErrCode szErrMess isSqlite3Free then
    onWorld (fun w => w.push ⟨.free szErrMess,SQLITE_OK⟩)
  throw (.thrown (exception nErrCode szErrMess.text))

/-- `try { ... } catch (...) {}` -/
def swallow (m : Op O Unit) : Op O Unit := fun s => match m s with
  | .error (.thrown _) t => .ok ⟨⟩ t
  | r => r

def sqlite3Errmsg (conn : Option Nat) : Op O Message := do
  let s ← get
  onWorld (fun w => w.push ⟨.errmsg conn,SQLITE_OK⟩)
  return .errmsg (client.errmsg s.world.log conn)

/-- sqlite3_errmsg of a pointer that no constructor has set: it may point at any connection. -/
def sqlite3ErrmsgUnset {α : Type} : Op O α := do
  onWorld (fun w => w.push ⟨.errmsgUnset,SQLITE_OK⟩)
  undefinedBehaviour

/-- The return code, and the handle written to the out-parameter. -/
def sqlite3Open (szFile : CString) : Op O (Int × Option Nat) := do
  let s ← get
  let opened := client.openConn s.world.log szFile
  onWorld (fun w => w.push ⟨.openConn szFile,opened.rc⟩)
  if opened.handle then
    onWorld (fun w => {w with nConns := w.nConns + 1})
    return (opened.rc,some s.world.nConns)
  else return (opened.rc,none)

def World.finalized (w : World) (id : Nat) : Bool := w.log.any (fun e => e.call = .finalize (some id))

/-- A connection with statements that were not finalized. -/
def World.busy (w : World) (conn : Nat) : Bool :=
  (List.range w.nStmts).any (fun id => (w.stmts id).conn = conn && !w.finalized id)

def sqlite3Close (conn : Nat) : Op O Int := do
  let s ← get
  let rc := if s.world.busy conn then SQLITE_BUSY else client.closeConn s.world.log conn
  onWorld (fun w => w.push ⟨.closeConn conn,rc⟩)
  return rc

def sqlite3Exec (conn : Nat) (sql : CString) : Op O ExecReply := do
  let s ← get
  let reply := client.exec s.world.log conn sql
  onWorld (fun w => w.push ⟨.exec conn sql,reply.rc⟩)
  return reply

def sqlite3GetAutocommit (conn : Nat) : Op O Bool := do
  let s ← get
  onWorld (fun w => w.push ⟨.getAutocommit conn,SQLITE_OK⟩)
  return client.autocommit s.world.log conn

def sqlite3BusyTimeout (conn : Option Nat) (nMillisecs : Int) : Op O Unit :=
  onWorld (fun w => w.push ⟨.busyTimeout conn nMillisecs,SQLITE_OK⟩)

/-- `sqlite3_bind_text` and its siblings. -/
def sqlite3Bind (stmt : Nat) (nParam : Int) (value : Parameter) : Op O Int := do
  let s ← get
  let rc := client.bind s.world.log stmt nParam value
  onWorld (fun w => w.push ⟨.bind stmt nParam value,rc⟩)
  return rc

/-- A new statement, not yet executed. -/
def World.register (w : World) (conn : Nat) (names : List CString) : World :=
  {w.setStmt w.nStmts ⟨conn,names,.initial⟩ with nStmts := w.nStmts + 1}

def sqlite3Prepare (conn : Nat) (sql : CString) : Op O (Int × Option Nat) := do
  let s ← get
  let prepared := client.prepare s.world.log conn sql
  onWorld (fun w => w.push ⟨.prepare conn sql,prepared.rc⟩)
  match prepared.columns with
  | some names =>
    if prepared.rc = SQLITE_OK then
      onWorld (fun w => w.register conn names)
      return (prepared.rc,some s.world.nStmts)
    else return (prepared.rc,none)
  | none => return (prepared.rc,none)

/-- The answer to a step and where it leaves the statement. One that is not on a row is
executed from its initial state, if need be after an automatic reset. The rows of an execution
are fixed then: what is changed on the connection while it runs is not seen. -/
def advance (h : History) (id : Nat) (stmt : Sqlite3Stmt) : Int × Progress stmt.columns.length :=
  match stmt.progress with
  | .onRow e i =>
    if i + 1 < e.rows.length then (SQLITE_ROW,.onRow e (i + 1)) else (e.ending,.ended e)
  | _ =>
    let e := client.execute h id stmt.columns.length
    if 0 < e.rows.length then (SQLITE_ROW,.onRow e 0) else (e.ending,.ended e)

/-- What a step leaves of the world. -/
def World.stepped (w : World) (id : Nat) : World :=
  (w.push ⟨.step (some id),(advance client w.log id (w.stmts id)).1⟩).setStmt id
    ⟨(w.stmts id).conn,(w.stmts id).columns,(advance client w.log id (w.stmts id)).2⟩

def sqlite3Step (pStmt : Option Nat) : Op O Int := do
  match pStmt with
  | none =>
    onWorld (fun w => w.push ⟨.step none,SQLITE_MISUSE⟩)
    return SQLITE_MISUSE
  | some id =>
    let w := (← get).world
    onWorld (fun w => w.stepped client id)
    return (advance client w.log id (w.stmts id)).1

def sqlite3Finalize (pStmt : Option Nat) : Op O Int := do
  let w := (← get).world
  let rc := match pStmt with
    | none => SQLITE_OK
    | some id => (w.stmts id).progress.failure
  onWorld (fun w => w.push ⟨.finalize pStmt,rc⟩)
  return rc

def sqlite3Reset (id : Nat) : Op O Int := do
  let stmt := (← get).world.stmts id
  onWorld (fun w => (w.push ⟨.reset id,stmt.progress.failure⟩).setStmt id ⟨stmt.conn,stmt.columns,.initial⟩)
  return stmt.progress.failure

/-- The value of a column of the current row; reading it is undefined off a row. -/
def Sqlite3Stmt.value (stmt : Sqlite3Stmt) (nCol : Int) : Option Value :=
  match stmt.progress with
  | .onRow e i => if nCol < 0 then none else (e.rows[i]?).bind (fun row => row[nCol.toNat]?)
  | _ => none

def sqlite3Column (id : Nat) (nCol : Int) : Op O Value := do
  match ((← get).world.stmts id).value nCol with
  | some value => return value
  | none => undefinedBehaviour

def sqlite3ColumnCount (id : Nat) : Op O Int := do
  return ((← get).world.stmts id).columns.length

def sqlite3ColumnName (id : Nat) (nCol : Int) : Op O (Option CString) := do
  let columns := ((← get).world.stmts id).columns
  return if nCol < 0 then none else columns[nCol.toNat]?

def sqlite3Changes (conn : Nat) : Op O Int := do
  let s ← get
  onWorld (fun w => w.push ⟨.changes conn,SQLITE_OK⟩)
  return client.changes s.world.log conn

def World.addTable (w : World) : World := {w with nTables := w.nTables + 1}

/-- The table, if there is one, is the next one. -/
def sqlite3GetTable (conn : Nat) (sql : CString) : Op O (TableReply × Nat) := do
  let s ← get
  let reply := client.getTable s.world.log conn sql
  onWorld (fun w => w.push ⟨.getTable conn sql,reply.rc⟩)
  if reply.rc = SQLITE_OK then
    onWorld World.addTable
  return (reply,s.world.nTables)

def sqlite3FreeTable (table : Nat) : Op O Unit :=
  onWorld (fun w => w.push ⟨.freeTable table,SQLITE_OK⟩)

/-- What a thrown exception leaves of the world. -/
def World.raised (w : World) (nErrCode : Int) (szErrMess : Message) (isSqlite3Free : Bool) : World :=
  if frees nErrCode szErrMess isSqlite3Free then w.push ⟨.free szErrMess,SQLITE_OK⟩ else w

theorem raiseApply {α : Type} (nErrCode : Int) (szErrMess : Message) (isSqlite3Free : Bool) (s : Scope World O) :
    (raise nErrCode szErrMess isSqlite3Free : Op O α) s =
      .error (.thrown (exception nErrCode szErrMess.text))
        ⟨s.world.raised nErrCode szErrMess isSqlite3Free,s.this⟩ := by
  simp only [raise,bindApply,iteApply,World.raised]
  by_cases told : frees nErrCode szErrMess isSqlite3Free = true
  · simp only [if_pos told,onWorldApply,throwApply]
  · simp only [if_neg told,throwApply]

/-- What a reset leaves of the world. -/
def World.restarted (w : World) (id : Nat) : World :=
  (w.push ⟨.reset id,(w.stmts id).progress.failure⟩).setStmt id ⟨(w.stmts id).conn,(w.stmts id).columns,.initial⟩

theorem resetApply (id : Nat) (s : Scope World O) :
    sqlite3Reset id s = .ok (s.world.stmts id).progress.failure ⟨s.world.restarted id,s.this⟩ := rfl

theorem stepApply (id : Nat) (s : Scope World O) :
    sqlite3Step client (some id) s =
      .ok (advance client s.world.log id (s.world.stmts id)).1 ⟨s.world.stepped client id,s.this⟩ := rfl

theorem advanceFine {h : History} {id : Nat} {stmt : Sqlite3Stmt}
    (fine : (advance client h id stmt).1 = SQLITE_ROW ∨ (advance client h id stmt).1 = SQLITE_DONE) :
    (advance client h id stmt).2.failure = SQLITE_OK := by
  have ended : ∀ e : Execution stmt.columns.length, e.ending = SQLITE_ROW ∨ e.ending = SQLITE_DONE →
      (Progress.ended e).failure = SQLITE_OK := by
    rintro e (row | done)
    · exact absurd row e.ends.1
    · exact if_pos done
  revert fine
  unfold advance
  split
  · split
    · exact fun _ => rfl
    · exact ended _
  · dsimp only
    split
    · exact fun _ => rfl
    · exact ended _

@[simp] theorem undefinedApply {α : Type} (s : Scope World O) :
    (undefinedBehaviour : Op O α) s = .error .undefined s := rfl

@[simp] theorem errmsgUnsetApply {α : Type} (s : Scope World O) :
    (sqlite3ErrmsgUnset : Op O α) s = .error .undefined ⟨s.world.push ⟨.errmsgUnset,SQLITE_OK⟩,s.this⟩ := rfl

@[simp] theorem columnCountApply (id : Nat) (s : Scope World O) :
    sqlite3ColumnCount id s = .ok ((s.world.stmts id).columns.length : Int) s := rfl

theorem columnApply (id : Nat) (nCol : Int) (s : Scope World O) :
    sqlite3Column id nCol s = match (s.world.stmts id).value nCol with
      | some value => .ok value s
      | none => .error .undefined s := by
  simp only [sqlite3Column,bindApply,getApply]
  cases (s.world.stmts id).value nCol <;> rfl

/-- What opening a database leaves of the world, and the handle of the connection. -/
def World.opened (w : World) (szFile : CString) : World :=
  let v := w.push ⟨.openConn szFile,(client.openConn w.log szFile).rc⟩
  if (client.openConn w.log szFile).handle then {v with nConns := v.nConns + 1} else v

def openedConn (w : World) (szFile : CString) : Option Nat :=
  if (client.openConn w.log szFile).handle then some w.nConns else none

theorem openApply (szFile : CString) (s : Scope World O) :
    sqlite3Open client szFile s =
      .ok ((client.openConn s.world.log szFile).rc,openedConn client s.world szFile)
        ⟨s.world.opened client szFile,s.this⟩ := by
  simp only [sqlite3Open,bindApply,getApply,onWorldApply,iteApply,World.opened,openedConn]
  by_cases handle : (client.openConn s.world.log szFile).handle = true
  · simp only [if_pos handle,pureApply]
  · simp only [if_neg handle,pureApply]

/-- The columns of the statement a text is prepared as, if that works and there is one. -/
def preparedColumns (w : World) (conn : Nat) (sql : CString) : Option (List CString) :=
  if (client.prepare w.log conn sql).rc = SQLITE_OK then (client.prepare w.log conn sql).columns else none

def World.prepared (w : World) (conn : Nat) (sql : CString) : World :=
  let v := w.push ⟨.prepare conn sql,(client.prepare w.log conn sql).rc⟩
  match preparedColumns client w conn sql with
  | some names => v.register conn names
  | none => v

theorem prepareApply (conn : Nat) (sql : CString) (s : Scope World O) :
    sqlite3Prepare client conn sql s =
      .ok ((client.prepare s.world.log conn sql).rc,
        (preparedColumns client s.world conn sql).map (fun _ => s.world.nStmts))
        ⟨s.world.prepared client conn sql,s.this⟩ := by
  simp only [sqlite3Prepare,bindApply,getApply,onWorldApply,World.prepared,preparedColumns]
  by_cases ok : (client.prepare s.world.log conn sql).rc = SQLITE_OK
  · simp only [if_pos ok]
    cases (client.prepare s.world.log conn sql).columns with
    | none => rfl
    | some names => rfl
  · simp only [if_neg ok]
    cases (client.prepare s.world.log conn sql).columns with
    | none => rfl
    | some names => rfl

theorem getTableApply (conn : Nat) (sql : CString) (s : Scope World O) :
    sqlite3GetTable client conn sql s =
      let reply := client.getTable s.world.log conn sql
      let w := s.world.push ⟨.getTable conn sql,reply.rc⟩
      .ok (reply,s.world.nTables) ⟨if reply.rc = SQLITE_OK then w.addTable else w,s.this⟩ := by
  simp only [sqlite3GetTable,bindApply,getApply,onWorldApply,iteApply]
  by_cases ok : (client.getTable s.world.log conn sql).rc = SQLITE_OK
  · simp only [if_pos ok,pureApply]
  · simp only [if_neg ok,pureApply]

end Primitives
end DatabaseLayer.SQLiteClient
