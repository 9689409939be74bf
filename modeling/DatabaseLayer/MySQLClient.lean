import DatabaseLayer.Platform
import DatabaseLayer.Foundation.Program
import Mathlib.Logic.Function.Basic

/-! The MySQL client library as the wrapper meets it. Its answers are arbitrary
functions of the whole call history; what the library documents about connection
status, selected database and results is read off that history and the results heap. -/
namespace DatabaseLayer.MySQLClient
open Platform Foundation.Program

/-- One value of a fetched row; `none` is SQL NULL. -/
abbrev Cell := Option CString

structure MysqlField where
  name : Option CString
  type : Int
  deriving DecidableEq, Repr

/-- What `mysql_store_result` read from the server. -/
structure ResultData where
  fields : List MysqlField
  rows : List (List Cell)
  rectangular : ∀ row ∈ rows, row.length = fields.length
  rowCount : rows.length < 2^64
  fieldCount : fields.length < 2^32
  deriving DecidableEq, Repr

theorem noRows : ([] : List (List Cell)).length < 2^64 := Nat.two_pow_pos 64

instance : Inhabited ResultData := ⟨⟨[],[],nofun,noRows,Nat.two_pow_pos 32⟩⟩

/-- MYSQL_RES: the data cursor walks the linked list of rows. -/
structure MysqlRes where
  data : ResultData
  dataCursor : List (List Cell)
  deriving DecidableEq, Repr

/-- A MYSQL_ROW: the result it was fetched from and the cells it points at. -/
structure MysqlRow where
  owner : Nat
  cells : List Cell
  deriving DecidableEq, Repr

structure MysqlStmt where
  mysql : Nat
  id : Nat
  deriving DecidableEq, Repr

/-- A parameter value as the library reads it from a bound buffer. -/
inductive BoundValue where
  | long (value : Int)
  | double (bits : UInt64)
  | string (bytes : List UInt8)
  deriving DecidableEq, Repr

inductive MysqlOption where
  | optCompress | optReconnect | setCharsetName
  deriving DecidableEq, Repr

inductive Call where
  | init
  | realConnect (host user passwd : CString) (db : Option CString) (port clientFlag : Nat)
  | selectDb (db : CString)
  | close
  | realQuery (sql : CString)
  | affectedRows
  | storeResult
  | freeResult (res : Nat)
  | commit
  | rollback
  | ping
  | setCharacterSet (name : CString)
  | characterSetName
  | options (opt : MysqlOption) (arg : Option CString)
  | stmtInit
  | stmtPrepare (stmt : Nat) (sql : CString)
  | stmtParamCount (stmt : Nat)
  | stmtBindParam (stmt : Nat)
  | stmtExecute (stmt : Nat) (params : List (Option BoundValue))
  | stmtAffectedRows (stmt : Nat)
  | stmtReset (stmt : Nat)
  | stmtClose (stmt : Nat)
  deriving DecidableEq, Repr

/-- What a call answers. Zero in `rc` is success, and a handle instead of NULL where
a handle is returned; `columns` is the field count of the statement a query executed. -/
structure Reply where
  rc : Int
  columns : Nat
  stored : Option ResultData
  value : Nat
  name : CString
  errno : Int
  error : CString
  deriving DecidableEq, Repr

def success : Reply := ⟨0,0,none,0,default,0,default⟩

structure Entry where
  conn : Option Nat
  call : Call
  reply : Reply
  deriving DecidableEq, Repr

/-- Newest entry first. -/
abbrev History := List Entry

inductive Status where
  | ready | getResult
  deriving DecidableEq, Repr

/-- MYSQL_STATUS_READY and MYSQL_STATUS_GET_RESULT of a connection. -/
def status (conn : Option Nat) : History → Status
  | [] => .ready
  | e :: es =>
    if e.conn = conn then
      match e.call with
      | .realQuery _ => if e.reply.rc = 0 ∧ 0 < e.reply.columns then .getResult else status conn es
      | .storeResult => .ready
      | _ => status conn es
    else status conn es

/-- The database a connection has selected, `m_pDB->db`. -/
def selectedDb (conn : Option Nat) : History → Option CString
  | [] => none
  | e :: es =>
    if e.conn = conn ∧ e.reply.rc = 0 then
      match e.call with
      | .realConnect _ _ _ db _ _ => db
      | .selectDb db => some db
      | _ => selectedDb conn es
    else selectedDb conn es

def isCommand : Call → Bool
  | .selectDb _ | .realQuery _ | .commit | .rollback | .ping | .setCharacterSet _ => true
  | .stmtPrepare _ _ | .stmtExecute _ _ | .stmtReset _ => true
  | _ => false

/-- CR_COMMANDS_OUT_OF_SYNC -/
def outOfSync : Reply :=
  {success with
    rc := 1, errno := 2014, error := text "Commands out of sync; you can't run this command now"}

structure Client where
  respond : History → Option Nat → Call → Reply

/-- The library's own rules over whatever the server answers: a command issued over a
pending result fails, and there is nothing to store without a pending result. -/
def Client.answer (client : Client) (h : History) (conn : Option Nat) (call : Call) : Reply :=
  match status conn h with
  | .getResult => if isCommand call then outOfSync else client.respond h conn call
  | .ready => if call = .storeResult then success else client.respond h conn call

/-- A library that accepts every call, and executes statements without result columns. -/
def Client.obliging : Client := ⟨fun _ _ _ => success⟩

/-- A library that answers every statement with one table. -/
def Client.yielding (data : ResultData) : Client :=
  ⟨fun _ _ call => match call with
    | .realQuery _ => {success with columns := data.fields.length}
    | .storeResult => {success with stored := some data}
    | _ => success⟩

/-- A call that reports failure: a non-zero return, or no result from
`mysql_store_result` although the statement has result columns. -/
def failed (before : History) (e : Entry) : Bool :=
  match e.call with
  | .realConnect _ _ _ _ _ _ | .selectDb _ | .realQuery _ | .commit | .rollback => e.reply.rc ≠ 0
  | .ping | .setCharacterSet _ | .options _ _ | .stmtInit | .stmtPrepare _ _ => e.reply.rc ≠ 0
  | .stmtBindParam _ | .stmtExecute _ _ | .stmtReset _ => e.reply.rc ≠ 0
  | .storeResult => status e.conn before = .getResult && e.reply.stored.isNone
  | _ => false

def failures : History → Nat
  | [] => 0
  | e :: es => failures es + if failed es e then 1 else 0

structure CppMySQLException where
  nErrCode : Int
  errMess : CString
  deriving DecidableEq, Repr

def CPPMYSQL_DB_ERROR : Int := 4001
def CPPMYSQL_QUERY_ERROR : Int := 4002
def CPPMYSQL_RESULTSET_ERROR : Int := 4003
def CPPMYSQL_STATEMENT_ERROR : Int := 4004

/-- The constructor of CppMySQLException: the class name follows from the code. -/
def exception (nErrCode : Int) (szErrMess : Option CString) : CppMySQLException :=
  let className :=
    if nErrCode = CPPMYSQL_DB_ERROR then text "CppMySQLDB"
    else if nErrCode = CPPMYSQL_QUERY_ERROR then text "CppMySQLQuery"
    else if nErrCode = CPPMYSQL_RESULTSET_ERROR then text "CppMySQLResultSet"
    else if nErrCode = CPPMYSQL_STATEMENT_ERROR then text "CppMySQLStatement"
    else text "MySQL"
  ⟨nErrCode,text "[" ++ className ++ text "] " ++ szErrMess.getD default⟩

/-- Why an operation did not return: it threw, or it went outside defined behaviour
(a NULL dereference, an index out of bounds, a write past a buffer). -/
inductive Stop where
  | thrown (e : CppMySQLException)
  | undefined
  deriving DecidableEq, Repr

def Stop.isThrown : Stop → Prop
  | .thrown _ => True
  | .undefined => False

/-- Everything the wrapper objects share: the library, the heap, with the addresses that
were deleted, and the file statics. -/
structure World where
  log : History
  results : Nat → MysqlRes
  nResults : Nat
  nStmts : Nat
  nConns : Nat
  nHeap : Nat
  deleted : List Nat
  sDBName : CString
  sNValue : Int
  sDwValue : UInt64

def World.initial : World := ⟨[],fun _ => ⟨default,[]⟩,0,0,0,0,[],default,0,0⟩

/-- A connection to a database, as connect leaves it. -/
def World.connected (conn : Nat) (db : CString) : World :=
  {World.initial with
    log := [⟨some conn,.realConnect default default default (some db) 0 0,success⟩], nConns := conn + 1}

def World.push (w : World) (e : Entry) : World := {w with log := e :: w.log}

def World.delete (w : World) (addr : Nat) : World := {w with deleted := addr :: w.deleted}

def World.setRes (w : World) (res : Nat) (r : MysqlRes) : World :=
  {w with results := Function.update w.results res r}

/-- What seeking to a row and fetching it leaves, and the row fetched. -/
def World.seekRes (w : World) (res offset : Nat) : World :=
  w.setRes res {w.results res with dataCursor := ((w.results res).data.rows.drop offset).tail}

def World.fetched (w : World) (res offset : Nat) : Option MysqlRow :=
  ((w.results res).data.rows.drop offset).head?.map (fun cells => ⟨res,cells⟩)

/-- A new result, its data cursor at the first row. -/
def World.store (w : World) (data : ResultData) : World :=
  {w.setRes w.nResults ⟨data,data.rows⟩ with nResults := w.nResults + 1}

def World.initStmt (w : World) : World := {w with nStmts := w.nStmts + 1}

@[simp] theorem pushLog (w : World) (e : Entry) : (w.push e).log = e :: w.log := rfl
@[simp] theorem pushResults (w : World) (e : Entry) : (w.push e).results = w.results := rfl
@[simp] theorem pushNResults (w : World) (e : Entry) : (w.push e).nResults = w.nResults := rfl
@[simp] theorem pushNStmts (w : World) (e : Entry) : (w.push e).nStmts = w.nStmts := rfl
@[simp] theorem setResLog (w : World) (k r) : (w.setRes k r).log = w.log := rfl
@[simp] theorem setResNResults (w : World) (k r) : (w.setRes k r).nResults = w.nResults := rfl
@[simp] theorem setResNStmts (w : World) (k r) : (w.setRes k r).nStmts = w.nStmts := rfl
@[simp] theorem setResSelf (w : World) (k r) : (w.setRes k r).results k = r := by
  simp [World.setRes]
@[simp] theorem seekResLog (w : World) (k n) : (w.seekRes k n).log = w.log := rfl
@[simp] theorem seekResNResults (w : World) (k n) : (w.seekRes k n).nResults = w.nResults := rfl
@[simp] theorem seekResNStmts (w : World) (k n) : (w.seekRes k n).nStmts = w.nStmts := rfl

@[simp] theorem storeLog (w : World) (d) : (w.store d).log = w.log := rfl
@[simp] theorem storeNResults (w : World) (d) : (w.store d).nResults = w.nResults + 1 := rfl
@[simp] theorem storeNStmts (w : World) (d) : (w.store d).nStmts = w.nStmts := rfl
@[simp] theorem storeSelf (w : World) (d) : (w.store d).results w.nResults = ⟨d,d.rows⟩ := by
  simp [World.store,World.setRes]
@[simp] theorem initStmtLog (w : World) : w.initStmt.log = w.log := rfl
@[simp] theorem initStmtResults (w : World) : w.initStmt.results = w.results := rfl
@[simp] theorem initStmtNResults (w : World) : w.initStmt.nResults = w.nResults := rfl
@[simp] theorem initStmtNStmts (w : World) : w.initStmt.nStmts = w.nStmts + 1 := rfl

theorem setResOther (w : World) {k j : Nat} (r : MysqlRes) (h : j ≠ k) :
    (w.setRes k r).results j = w.results j := by
  simp [World.setRes,h]

section Primitives
variable {O : Type} (client : Client)

abbrev Op (O α : Type) := Method Stop World O α

def raise {α : Type} (nErrCode : Int) (szErrMess : CString) : Op O α :=
  throw (.thrown (exception nErrCode (some szErrMess)))

def undefinedBehaviour {α : Type} : Op O α := throw .undefined

def call (conn : Option Nat) (c : Call) : Op O Reply := do
  let s ← get
  let reply := client.answer s.world.log conn c
  onWorld (fun w => w.push ⟨conn,c,reply⟩)
  return reply

/-- `mysql_errno` and `mysql_error`: the error of the newest call on the connection. -/
def throwLastError {α : Type} (conn : Option Nat) : Op O α := do
  let s ← get
  match s.world.log.find? (fun e => e.conn = conn) with
  | some e => raise e.reply.errno e.reply.error
  | none => raise 0 default

/-- `new`: a fresh heap address. -/
def newAddress : Op O Nat := do
  let s ← get
  onWorld (fun w => {w with nHeap := w.nHeap + 1})
  return s.world.nHeap

/-- `if (p) delete p;` -/
def deletePointer {α : Type} (p : Option (Owned α)) : Op O Unit := do
  match p with
  | some object => onWorld (fun w => w.delete object.addr)
  | none => return ()

def mysqlStoreResult (conn : Option Nat) : Op O (Option Nat) := do
  let reply ← call client conn .storeResult
  match reply.stored with
  | none => return none
  | some data =>
    let s ← get
    onWorld (fun w => w.store data)
    return some s.world.nResults

/-- Frees are recorded, not answered. -/
def mysqlFreeResult (res : Nat) : Op O Unit := onWorld (fun w => w.push ⟨none,.freeResult res,success⟩)

def mysqlDataSeek (res offset : Nat) : Op O Unit :=
  onWorld (fun w => w.setRes res
    {w.results res with dataCursor := (w.results res).data.rows.drop offset})

def mysqlFetchRow (res : Nat) : Op O (Option MysqlRow) := do
  let s ← get
  match (s.world.results res).dataCursor with
  | [] => return none
  | cells :: rest =>
    onWorld (fun w => w.setRes res {w.results res with dataCursor := rest})
    return some ⟨res,cells⟩

def mysqlNumRows (res : Nat) : Op O Nat := do
  return ((← get).world.results res).data.rows.length

def mysqlNumFields (res : Nat) : Op O Nat := do
  return ((← get).world.results res).data.fields.length

def mysqlStmtInit (conn : Nat) : Op O (Option MysqlStmt) := do
  let reply ← call client (some conn) .stmtInit
  if reply.rc = 0 then
    let s ← get
    onWorld (fun w => w.initStmt)
    return some ⟨conn,s.world.nStmts⟩
  else return none

def mysqlStmtClose (stmt : MysqlStmt) : Op O Unit :=
  onWorld (fun w => w.push ⟨some stmt.mysql,.stmtClose stmt.id,success⟩)

@[simp] theorem callApply (conn : Option Nat) (c : Call) (s : Scope World O) :
    call client conn c s = .ok (client.answer s.world.log conn c)
      ⟨s.world.push ⟨conn,c,client.answer s.world.log conn c⟩,s.this⟩ := rfl

@[simp] theorem newAddressApply (s : Scope World O) :
    newAddress s = .ok s.world.nHeap ⟨{s.world with nHeap := s.world.nHeap + 1},s.this⟩ := rfl

/-- The world once an object that may not be there has been deleted. -/
def World.deletes {α : Type} (w : World) (p : Option (Owned α)) : World :=
  {w with deleted := (p.map Owned.addr).toList ++ w.deleted}

@[simp] theorem deletesLog {α : Type} (w : World) (p : Option (Owned α)) : (w.deletes p).log = w.log := rfl

@[simp] theorem deletePointerApply {α : Type} (p : Option (Owned α)) (s : Scope World O) :
    deletePointer p s = .ok ⟨⟩ ⟨s.world.deletes p,s.this⟩ := by
  cases p <;> rfl

theorem throwLastErrorApply {α : Type} (conn : Option Nat) (c : Call) (r : Reply) (w : World) (o : O) :
    (throwLastError conn : Op O α) ⟨w.push ⟨conn,c,r⟩,o⟩ =
      .error (.thrown (exception r.errno (some r.error))) ⟨w.push ⟨conn,c,r⟩,o⟩ := by
  simp [throwLastError,raise,World.push]

@[simp] theorem raiseApply {α : Type} (nErrCode : Int) (szErrMess : CString) (s : Scope World O) :
    (raise nErrCode szErrMess : Op O α) s = .error (.thrown (exception nErrCode (some szErrMess))) s := rfl

@[simp] theorem undefinedApply {α : Type} (s : Scope World O) :
    (undefinedBehaviour : Op O α) s = .error .undefined s := rfl

theorem storeResultApply (conn : Option Nat) (s : Scope World O) :
    mysqlStoreResult client conn s =
      let reply := client.answer s.world.log conn .storeResult
      let w := s.world.push ⟨conn,.storeResult,reply⟩
      match reply.stored with
      | none => .ok none ⟨w,s.this⟩
      | some data => .ok (some w.nResults) ⟨w.store data,s.this⟩ := by
  simp only [mysqlStoreResult,bindApply,callApply]
  cases (client.answer s.world.log conn .storeResult).stored <;> rfl

theorem fetchRowApply (res : Nat) (s : Scope World O) :
    mysqlFetchRow res s = match (s.world.results res).dataCursor with
      | [] => .ok none s
      | cells :: rest => .ok (some ⟨res,cells⟩)
          ⟨s.world.setRes res {s.world.results res with dataCursor := rest},s.this⟩ := by
  simp only [mysqlFetchRow,bindApply,getApply]
  cases (s.world.results res).dataCursor <;> rfl

theorem stmtInitApply (conn : Nat) (s : Scope World O) :
    mysqlStmtInit client conn s =
      let reply := client.answer s.world.log (some conn) .stmtInit
      let w := s.world.push ⟨some conn,.stmtInit,reply⟩
      if reply.rc = 0 then .ok (some ⟨conn,w.nStmts⟩) ⟨w.initStmt,s.this⟩ else .ok none ⟨w,s.this⟩ := by
  simp only [mysqlStmtInit,bindApply,callApply,iteApply]
  split <;> rfl

@[simp] theorem freeResultApply (res : Nat) (s : Scope World O) :
    mysqlFreeResult res s = .ok ⟨⟩ ⟨s.world.push ⟨none,.freeResult res,success⟩,s.this⟩ := rfl

@[simp] theorem dataSeekApply (res offset : Nat) (s : Scope World O) :
    mysqlDataSeek res offset s = .ok ⟨⟩ ⟨s.world.setRes res {s.world.results res with
      dataCursor := (s.world.results res).data.rows.drop offset},s.this⟩ := rfl

theorem seekFetchApply (res offset : Nat) (s : Scope World O) :
    (mysqlDataSeek res offset >>= fun _ => mysqlFetchRow res) s =
      .ok (s.world.fetched res offset) ⟨s.world.seekRes res offset,s.this⟩ := by
  simp only [bindApply,dataSeekApply,fetchRowApply,setResSelf,World.fetched,World.seekRes]
  cases (s.world.results res).data.rows.drop offset with
  | nil => rfl
  | cons cells rest => simp [World.setRes]

@[simp] theorem numRowsApply (res : Nat) (s : Scope World O) :
    mysqlNumRows res s = .ok (s.world.results res).data.rows.length s := rfl

@[simp] theorem numFieldsApply (res : Nat) (s : Scope World O) :
    mysqlNumFields res s = .ok (s.world.results res).data.fields.length s := rfl

@[simp] theorem stmtCloseApply (stmt : MysqlStmt) (s : Scope World O) :
    mysqlStmtClose stmt s = .ok ⟨⟩ ⟨s.world.push ⟨some stmt.mysql,.stmtClose stmt.id,success⟩,s.this⟩ := rfl

end Primitives

end DatabaseLayer.MySQLClient
