import DatabaseLayer.SQLiteQuery

/-! CppSQLite3Statement: a prepared statement, until it is handed to the query it runs as. -/
namespace DatabaseLayer
open Platform SQLiteClient Foundation.Program

structure CppSQLite3Statement where
  mpDB : Option Nat
  mpStmt : Option Nat
  deriving DecidableEq, Repr

namespace CppSQLite3Statement

def new : CppSQLite3Statement := ⟨none,none⟩

def copy (rStatement : CppSQLite3Statement) : CppSQLite3Statement × CppSQLite3Statement :=
  (rStatement,{rStatement with mpStmt := none})

/-- `operator=` from another object: the old members are overwritten, not cleared. -/
def assign (rStatement : CppSQLite3Statement) : Op CppSQLite3Statement CppSQLite3Statement := do
  onThis (fun _ => rStatement)
  return {rStatement with mpStmt := none}

/-- CppSQLite3Statement(sqlite3*, sqlite3_stmt*) -/
def ofStmt (pDB : Nat) (pVM : Option Nat) : CppSQLite3Statement := ⟨some pDB,pVM⟩

section
variable (client : Client)

/-- The connection of an object that checkDB let pass. -/
def checkDB : Op CppSQLite3Statement Nat := do
  match (← get).this.mpDB with
  | some pDB => return pDB
  | none => raise CPPQLITE3_STATEMENT_ERROR (.literal (text "Database not open")) false

/-- The statement of an object that checkStmt let pass. -/
def checkStmt : Op CppSQLite3Statement Nat := do
  match (← get).this.mpStmt with
  | some pStmt => return pStmt
  | none => raise CPPQLITE3_STATEMENT_ERROR (.literal (text "Null Virtual Machine pointer")) false

/-- `throw CppSQLite3Exception(nRet, sqlite3_errmsg(m_pDB))` -/
def throwErrmsg {α : Type} (nRet : Int) : Op CppSQLite3Statement α := do
  let message ← sqlite3Errmsg client (← get).this.mpDB
  raise nRet message false

def execDML : Op CppSQLite3Statement Int := do
  let pDB ← checkDB
  let pStmt ← checkStmt
  let nRet ← sqlite3Step client (some pStmt)
  if nRet = SQLITE_DONE then
    let nRowsChanged ← sqlite3Changes client pDB
    let nRet ← sqlite3Reset pStmt
    if nRet ≠ SQLITE_OK then
      throwErrmsg client nRet
    else
      return nRowsChanged
  else
    let nRet ← sqlite3Reset pStmt
    throwErrmsg client nRet

def execQuery : Op CppSQLite3Statement CppSQLite3Query := do
  let pDB ← checkDB
  let pStmt ← checkStmt
  let nRet ← sqlite3Step client (some pStmt)
  -- which of the two locals is returned is known too late to build it in place: it is copied out
  if nRet = SQLITE_DONE then
    -- no rows, and yet the query is told that it is not at its end
    let q ← CppSQLite3Query.ofStmt pDB pStmt false
    onThis (fun s => {s with mpStmt := none})
    return q.copy.1
  else if nRet = SQLITE_ROW then
    let q ← CppSQLite3Query.ofStmt pDB pStmt false
    onThis (fun s => {s with mpStmt := none})
    return q.copy.1
  else
    let _ ← sqlite3Reset pStmt
    raise CPPQLITE3_STATEMENT_ERROR (.literal (text "CppSQLite3Statement execQuery error")) false

/-- `bind` of one kind of parameter. -/
def bindAs (kind : String) (nParam : Int) (value : Parameter) : Op CppSQLite3Statement Unit := do
  let pStmt ← checkStmt
  let nRes ← sqlite3Bind client pStmt nParam value
  if nRes ≠ SQLITE_OK then
    raise nRes (.literal (text ("Error binding " ++ kind ++ " param"))) false

def bindString (nParam : Int) (szValue : CString) : Op CppSQLite3Statement Unit :=
  bindAs client "string" nParam (.text szValue)

def bindInt (nParam nValue : Int) : Op CppSQLite3Statement Unit := bindAs client "int" nParam (.int nValue)

def bindDouble (nParam : Int) (dValue : UInt64) : Op CppSQLite3Statement Unit :=
  bindAs client "double" nParam (.double dValue)

def bindBlob (nParam : Int) (blobValue : List UInt8) : Op CppSQLite3Statement Unit :=
  bindAs client "blob" nParam (.blob blobValue)

def bindNull (nParam : Int) : Op CppSQLite3Statement Unit := bindAs client "NULL" nParam .null

def reset : Op CppSQLite3Statement Unit := do
  match (← get).this.mpStmt with
  | some pStmt =>
    let nRet ← sqlite3Reset pStmt
    if nRet ≠ SQLITE_OK then
      throwErrmsg client nRet
  | none => return ()

def clear : Op CppSQLite3Statement Unit := do
  match (← get).this.mpStmt with
  | some pStmt =>
    let nRet ← sqlite3Finalize (some pStmt)
    onThis (fun s => {s with mpStmt := none})
    if nRet ≠ SQLITE_OK then
      if (← get).this.mpDB ≠ none then
        throwErrmsg client nRet
      else
        raise nRet (.literal (text "sqlite3_finalize error")) false
  | none => return ()

def destroy (s : Scope World CppSQLite3Statement) : World := (left (clear client s)).world

end

/-- The public calls on a statement, but for the query it can be run as. -/
inductive Request where
  | execDML
  | bindString (nParam : Int) (szValue : CString)
  | bindInt (nParam nValue : Int)
  | bindDouble (nParam : Int) (dValue : UInt64)
  | bindBlob (nParam : Int) (blobValue : List UInt8)
  | bindNull (nParam : Int)
  | reset
  | clear
  deriving DecidableEq, Repr

def perform (client : Client) : Request → Op CppSQLite3Statement Unit
  | .execDML => do let _ ← execDML client
  | .bindString nParam szValue => bindString client nParam szValue
  | .bindInt nParam nValue => bindInt client nParam nValue
  | .bindDouble nParam dValue => bindDouble client nParam dValue
  | .bindBlob nParam blobValue => bindBlob client nParam blobValue
  | .bindNull nParam => bindNull client nParam
  | .reset => reset client
  | .clear => clear client

section Specs

/-- The refusal of an object without a connection, and of one without a statement. -/
def refused {α σ : Type} (message : String) (s : σ) : EStateM.Result Stop σ α :=
  .error (.thrown (exception CPPQLITE3_STATEMENT_ERROR (some (text message)))) s

section Calls
variable (client : Client) {s : Scope World CppSQLite3Statement} {pDB pStmt : Nat}

theorem checkDBApply (opened : s.this.mpDB = some pDB) : checkDB s = .ok pDB s := by
  simp only [checkDB,bindApply,getApply,opened,pureApply]

theorem checkDBClosed (closed : s.this.mpDB = none) : checkDB s = refused "Database not open" s := by
  simp only [checkDB,bindApply,getApply,closed,raiseApply]
  rfl

theorem checkStmtApply (held : s.this.mpStmt = some pStmt) : checkStmt s = .ok pStmt s := by
  simp only [checkStmt,bindApply,getApply,held,pureApply]

theorem checkStmtNone (none : s.this.mpStmt = none) : checkStmt s = refused "Null Virtual Machine pointer" s := by
  simp only [checkStmt,bindApply,getApply,none,raiseApply]
  rfl

theorem unfreed (w : World) (nErrCode : Int) (szErrMess : Message) : w.raised nErrCode szErrMess false = w := by
  have never : frees nErrCode szErrMess false = false := by simp [frees]
  rw [World.raised,never]
  rfl

theorem throwErrmsgApply {α : Type} (nRet : Int) (s : Scope World CppSQLite3Statement) :
    (throwErrmsg client nRet : Op CppSQLite3Statement α) s =
      .error (.thrown (exception nRet (some (client.errmsg s.world.log s.this.mpDB))))
        ⟨s.world.push ⟨.errmsg s.this.mpDB,SQLITE_OK⟩,s.this⟩ := by
  simp only [throwErrmsg,sqlite3Errmsg,bindApply,getApply,onWorldApply,pureApply,raiseApply,unfreed,Message.text]

/-- A step that comes to DONE is reset without an error, any other one is reset and reported. -/
theorem execDMLApply (opened : s.this.mpDB = some pDB) (held : s.this.mpStmt = some pStmt) :
    execDML client s =
      let w := s.world.stepped client pStmt
      if (advance client s.world.log pStmt (s.world.stmts pStmt)).1 = SQLITE_DONE then
        .ok (client.changes w.log pDB) ⟨(w.push ⟨.changes pDB,SQLITE_OK⟩).restarted pStmt,s.this⟩
      else throwErrmsg client (w.stmts pStmt).progress.failure ⟨w.restarted pStmt,s.this⟩ := by
  simp only [execDML,bindApply,checkDBApply opened,checkStmtApply held,stepApply,iteApply,resetApply]
  by_cases done : (advance client s.world.log pStmt (s.world.stmts pStmt)).1 = SQLITE_DONE
  · have fine : ((s.world.stepped client pStmt).stmts pStmt).progress.failure = SQLITE_OK := by
      rw [World.stepped,setStmtSelf]
      exact advanceFine client (.inr done)
    have quiet : ¬ SQLITE_OK ≠ SQLITE_OK := not_not.mpr rfl
    simp only [if_pos done,sqlite3Changes,bindApply,getApply,onWorldApply,pureApply,pushStmts,fine,if_neg quiet]
  · simp only [if_neg done]

theorem bindAsApply (held : s.this.mpStmt = some pStmt) (kind : String) (nParam : Int) (value : Parameter) :
    bindAs client kind nParam value s =
      let rc := client.bind s.world.log pStmt nParam value
      let t : Scope World CppSQLite3Statement := ⟨s.world.push ⟨.bind pStmt nParam value,rc⟩,s.this⟩
      if rc ≠ SQLITE_OK then .error (.thrown (exception rc (some (text ("Error binding " ++ kind ++ " param"))))) t
      else .ok ⟨⟩ t := by
  simp only [bindAs,bindApply,checkStmtApply held,sqlite3Bind,getApply,onWorldApply,pureApply,iteApply,raiseApply,
    unfreed,Message.text]

theorem resetStmtApply (held : s.this.mpStmt = some pStmt) :
    reset client s =
      let t : Scope World CppSQLite3Statement := ⟨s.world.restarted pStmt,s.this⟩
      if (s.world.stmts pStmt).progress.failure ≠ SQLITE_OK then
        throwErrmsg client (s.world.stmts pStmt).progress.failure t
      else .ok ⟨⟩ t := by
  simp only [reset,bindApply,getApply,held,resetApply,iteApply,pureApply]

theorem resetNone (none : s.this.mpStmt = none) : reset client s = .ok ⟨⟩ s := by
  simp only [reset,bindApply,getApply,none,pureApply]

theorem clearNone (none : s.this.mpStmt = none) : clear client s = .ok ⟨⟩ s := by
  simp only [clear,bindApply,getApply,none,pureApply]

theorem execQueryFails (opened : s.this.mpDB = some pDB) (held : s.this.mpStmt = some pStmt)
    (failed : ¬ ((advance client s.world.log pStmt (s.world.stmts pStmt)).1 = SQLITE_ROW ∨
      (advance client s.world.log pStmt (s.world.stmts pStmt)).1 = SQLITE_DONE)) :
    execQuery client s = refused "CppSQLite3Statement execQuery error"
      ⟨(s.world.stepped client pStmt).restarted pStmt,s.this⟩ := by
  obtain ⟨row,done⟩ := not_or.mp failed
  simp only [execQuery,bindApply,checkDBApply opened,checkStmtApply held,stepApply,iteApply,if_neg row,if_neg done,
    resetApply,raiseApply,unfreed,refused,Message.text]

end Calls

theorem execQueryApply (client : Client) {s : Scope World CppSQLite3Statement} {pDB pStmt : Nat}
    (opened : s.this.mpDB = some pDB) (held : s.this.mpStmt = some pStmt)
    (fine : (advance client s.world.log pStmt (s.world.stmts pStmt)).1 = SQLITE_ROW ∨
      (advance client s.world.log pStmt (s.world.stmts pStmt)).1 = SQLITE_DONE) :
    execQuery client s = .ok
      ⟨none,some pStmt,false,((s.world.stepped client pStmt).stmts pStmt).columns.length⟩
      ⟨s.world.stepped client pStmt,{s.this with mpStmt := none}⟩ := by
  simp only [execQuery,checkDB,checkStmt,bindApply,getApply,opened,held,pureApply,stepApply]
  obtain row | done := fine
  · have more : ¬ SQLITE_ROW = SQLITE_DONE := by decide
    simp only [row,if_neg more,if_true,bindApply,CppSQLite3Query.ofStmtApply,CppSQLite3Query.copy,onThisApply,pureApply,
      opened]
  · simp only [done,if_true,bindApply,CppSQLite3Query.ofStmtApply,CppSQLite3Query.copy,onThisApply,pureApply,opened]

end Specs
end CppSQLite3Statement
end DatabaseLayer
