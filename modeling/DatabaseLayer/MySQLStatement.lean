import DatabaseLayer.MySQLResultSet

/-! CppMySQLStatement: parameters are collected in a vector and handed to the library
at execution, by address. Integers and doubles are kept in one file-static each. -/
namespace DatabaseLayer
open Platform MySQLClient Foundation.Program

inductive FieldType where
  | long | double | string
  deriving DecidableEq, Repr

/-- Where a bound buffer lives: a file-static, or text of the caller. -/
inductive Buffer where
  | sNValue
  | sDwValue
  | caller (szValue : CString)
  deriving DecidableEq, Repr

structure MysqlBind where
  bufferType : FieldType
  buffer : Buffer
  bufferLength : Nat
  deriving DecidableEq, Repr

/-- What the library reads when it dereferences the buffer. -/
def MysqlBind.read (w : World) (b : MysqlBind) : Option BoundValue :=
  match b.bufferType,b.buffer with
  | .long,.sNValue => some (.long w.sNValue)
  | .double,.sDwValue => some (.double w.sDwValue)
  | .string,.caller szValue =>
    if b.bufferLength ≤ szValue.strlen then some (.string (szValue.bytes.take b.bufferLength)) else none
  | _,_ => none

theorem readCaller (w : World) (szValue : CString) (n : Nat) :
    (⟨.string,.caller szValue,n⟩ : MysqlBind).read w =
      if n ≤ szValue.strlen then some (.string (szValue.bytes.take n)) else none := rfl

def STMT_INITED : Int := 1
def STMT_COMPILED : Int := 2
def STMT_EXECUTED : Int := 3

structure CppMySQLStatement where
  mpStmt : Option MysqlStmt
  mState : Int
  mnParamsCount : Int
  mpBindArray : Option (Owned (List MysqlBind))
  mnBindIndex : Int
  deriving DecidableEq, Repr

namespace CppMySQLStatement

/-- The default constructor. -/
def new : CppMySQLStatement := ⟨none,0,0,none,0⟩

def copy (rStatement : CppMySQLStatement) : CppMySQLStatement × CppMySQLStatement :=
  (rStatement,{rStatement with mpStmt := none, mpBindArray := none})

/-- `operator=` from another object: the old members are overwritten, not cleared. -/
def assign (rStatement : CppMySQLStatement) : Op CppMySQLStatement CppMySQLStatement := do
  onThis (fun _ => rStatement)
  return {rStatement with mpStmt := none, mpBindArray := none}

section
variable (client : Client)

/-- CppMySQLStatement(MYSQL*, const char*) -/
def compile {O : Type} (mysql : Option Nat) (szDML : CString) : Op O CppMySQLStatement :=
  construct new do
    match mysql with
    | none => raise CPPMYSQL_STATEMENT_ERROR (text "mysql handle error")
    | some conn =>
      match ← mysqlStmtInit client conn with
      | none => raise CPPMYSQL_STATEMENT_ERROR (text "mysql_stmt_init error")
      | some stmt =>
        onThis (fun s => {s with mpStmt := some stmt, mState := STMT_INITED})
        let res ← call client (some conn) (.stmtPrepare stmt.id szDML)
        if res.rc ≠ 0 then
          raise CPPMYSQL_STATEMENT_ERROR (text "mysql_stmt_prepare error")
        else
          onThis (fun s => {s with mState := STMT_COMPILED})
          let count ← call client (some conn) (.stmtParamCount stmt.id)
          onThis (fun s => {s with mnParamsCount := wrapInt count.value})
          let addr ← newAddress
          onThis (fun s => {s with mpBindArray := some ⟨addr,[]⟩, mnBindIndex := 0})

def checkStmt : Op CppMySQLStatement Unit := do
  if (← get).this.mpStmt = none then
    raise CPPMYSQL_STATEMENT_ERROR (text "MYSQL_STMT handle error")

def checkBindArray : Op CppMySQLStatement Unit := do
  if (← get).this.mpBindArray = none then
    raise CPPMYSQL_STATEMENT_ERROR (text "MYSQL_BIND array error")

/-- `if (m_pBindArray) m_pBindArray->clear(); m_nBindIndex = 0;` -/
def clearBindings (s : CppMySQLStatement) : CppMySQLStatement :=
  {s with mpBindArray := s.mpBindArray.map (fun a => {a with value := []}), mnBindIndex := 0}

def execute : Op CppMySQLStatement Unit := do
  checkStmt
  checkBindArray
  let s := (← get).this
  match s.mpStmt,s.mpBindArray with
  | some stmt,some array =>
    if s.mState < STMT_COMPILED then
      raise CPPMYSQL_STATEMENT_ERROR (text "Satement is not compiled yet")
    else if s.mnParamsCount ≠ wrapInt array.value.length then
      raise CPPMYSQL_STATEMENT_ERROR (text "MYSQL_BIND array size is not enough")
    -- `&(*m_pBindArray)[0]` of an empty vector
    else if array.value = [] then
      undefinedBehaviour
    else
      let res ← call client (some stmt.mysql) (.stmtBindParam stmt.id)
      if res.rc ≠ 0 then
        throwLastError (some stmt.mysql)
      else
        let params := array.value.map (MysqlBind.read (← get).world)
        let res ← call client (some stmt.mysql) (.stmtExecute stmt.id params)
        if res.rc ≠ 0 then
          throwLastError (some stmt.mysql)
        else
          onThis (fun s => clearBindings {s with mState := STMT_EXECUTED})
  | _,_ => undefinedBehaviour

def execDML : Op CppMySQLStatement Int := do
  execute client
  match (← get).this.mpStmt with
  | some stmt =>
    let reply ← call client (some stmt.mysql) (.stmtAffectedRows stmt.id)
    return wrapInt reply.value
  | none => undefinedBehaviour

def realBind (pos : Int) (type : FieldType) (buffer : Buffer) (length : Nat) :
    Op CppMySQLStatement Unit := do
  let s := (← get).this
  if pos > 1024 then
    raise CPPMYSQL_STATEMENT_ERROR (text "too many bind parameters")
  else if s.mnBindIndex ≠ pos then
    raise CPPMYSQL_STATEMENT_ERROR (text "bind index error")
  else
    match s.mpBindArray with
    | some array => onThis (fun s => {s with
        mpBindArray := some {array with value := array.value ++ [⟨type,buffer,length⟩]}
        mnBindIndex := wrapInt (s.mnBindIndex + 1)})
    | none => undefinedBehaviour

def bindString (nParam : Int) (szValue : CString) : Op CppMySQLStatement Unit :=
  realBind (wrapInt (nParam - 1)) .string (.caller szValue) (lengthThroughInt szValue.strlen)

def bindInt (nParam : Int) (nValue : Int) : Op CppMySQLStatement Unit := do
  onWorld (fun w => {w with sNValue := nValue})
  realBind (wrapInt (nParam - 1)) .long .sNValue 4

def bindDouble (nParam : Int) (dwValue : UInt64) : Op CppMySQLStatement Unit := do
  onWorld (fun w => {w with sDwValue := dwValue})
  realBind (wrapInt (nParam - 1)) .double .sDwValue 8

def reset : Op CppMySQLStatement Unit := do
  checkStmt
  match (← get).this.mpStmt with
  | some stmt =>
    let _ ← call client (some stmt.mysql) (.stmtReset stmt.id)
    onThis clearBindings
  | none => undefinedBehaviour

def clear : Op CppMySQLStatement Unit := do
  match (← get).this.mpStmt with
  | some stmt =>
    mysqlStmtClose stmt
    onThis (fun s => {s with mpStmt := none})
  | none => pure ()
  deletePointer (← get).this.mpBindArray
  onThis (fun s => {s with mpBindArray := none})

def destroy (s : Scope World CppMySQLStatement) : World := (left (clear s)).world

end

/-- The public calls on a statement. -/
inductive Request where
  | bindString (nParam : Int) (szValue : CString)
  | bindInt (nParam : Int) (nValue : Int)
  | bindDouble (nParam : Int) (dwValue : UInt64)
  | execDML
  | reset
  | clear
  deriving DecidableEq, Repr

def perform (client : Client) : Request → Op CppMySQLStatement Unit
  | .bindString nParam szValue => bindString nParam szValue
  | .bindInt nParam nValue => bindInt nParam nValue
  | .bindDouble nParam dwValue => bindDouble nParam dwValue
  | .execDML => do let _ ← execDML client
  | .reset => reset client
  | .clear => clear

section Specs
variable (client : Client)

def statementError {α : Type} (szErrMess : String) {σ : Type} (s : σ) : EStateM.Result Stop σ α :=
  .error (.thrown (exception CPPMYSQL_STATEMENT_ERROR (some (text szErrMess)))) s

/-- One call on a connection, without an object. -/
def sent (w : World) (conn : Nat) (c : Call) : World :=
  w.push ⟨some conn,c,client.answer w.log (some conn) c⟩

def replied (w : World) (conn : Nat) (c : Call) : Reply := client.answer w.log (some conn) c

theorem compileApply {O : Type} (mysql : Option Nat) (szDML : CString) (s : Scope World O) :
    compile client mysql szDML s = match mysql with
      | none => statementError "mysql handle error" s
      | some conn =>
        let w := sent client s.world conn .stmtInit
        let v := sent client w.initStmt conn (.stmtPrepare s.world.nStmts szDML)
        let u := sent client v conn (.stmtParamCount s.world.nStmts)
        if (replied client s.world conn .stmtInit).rc = 0 then
          if (replied client w.initStmt conn (.stmtPrepare s.world.nStmts szDML)).rc ≠ 0 then
            statementError "mysql_stmt_prepare error" ⟨v,s.this⟩
          else .ok ⟨some ⟨conn,s.world.nStmts⟩,STMT_COMPILED,
              wrapInt (replied client v conn (.stmtParamCount s.world.nStmts)).value,
              some ⟨s.world.nHeap,[]⟩,0⟩ ⟨{u with nHeap := s.world.nHeap + 1},s.this⟩
        else statementError "mysql_stmt_init error" ⟨w,s.this⟩ := by
  cases mysql with
  | none => rfl
  | some conn =>
    by_cases init : (replied client s.world conn .stmtInit).rc = 0
    · have accepted : mysqlStmtInit client conn ⟨s.world,new⟩ =
          .ok (some ⟨conn,s.world.nStmts⟩) ⟨(sent client s.world conn .stmtInit).initStmt,new⟩ := by
        rw [stmtInitApply]
        exact if_pos init
      simp only [compile,construct,bindApply,accepted,onThisApply,callApply,iteApply,if_pos init]
      by_cases prepared : (client.answer (sent client s.world conn .stmtInit).initStmt.log (some conn)
          (.stmtPrepare s.world.nStmts szDML)).rc ≠ 0
      · simp only [if_pos prepared]
        exact (if_pos prepared).symm
      · simp only [if_neg prepared]
        exact (if_neg prepared).symm
    · have refused : mysqlStmtInit client conn ⟨s.world,new⟩ =
          .ok none ⟨sent client s.world conn .stmtInit,new⟩ := by
        rw [stmtInitApply]
        exact if_neg init
      simp only [compile,construct,bindApply,refused,if_neg init]
      rfl

section Compiling
variable {client} {O : Type} {conn : Nat} {szDML : CString} {s : Scope World O}

/-- The world after the preparation, and the library's answer to it. -/
def preparing (client : Client) (w : World) (conn : Nat) (szDML : CString) : World :=
  sent client (sent client w conn .stmtInit).initStmt conn (.stmtPrepare w.nStmts szDML)

def prepared (client : Client) (w : World) (conn : Nat) (szDML : CString) : Reply :=
  replied client (sent client w conn .stmtInit).initStmt conn (.stmtPrepare w.nStmts szDML)

theorem compileUninited (init : (replied client s.world conn .stmtInit).rc ≠ 0) :
    compile client (some conn) szDML s =
      statementError "mysql_stmt_init error" ⟨sent client s.world conn .stmtInit,s.this⟩ :=
  (compileApply client (some conn) szDML s).trans (if_neg init)

theorem compileUnprepared (init : (replied client s.world conn .stmtInit).rc = 0)
    (refused : (prepared client s.world conn szDML).rc ≠ 0) :
    compile client (some conn) szDML s =
      statementError "mysql_stmt_prepare error" ⟨preparing client s.world conn szDML,s.this⟩ :=
  (compileApply client (some conn) szDML s).trans ((if_pos init).trans (if_pos refused))

theorem compilePrepared (init : (replied client s.world conn .stmtInit).rc = 0)
    (accepted : (prepared client s.world conn szDML).rc = 0) :
    let w := preparing client s.world conn szDML
    let v := sent client w conn (.stmtParamCount s.world.nStmts)
    compile client (some conn) szDML s = .ok ⟨some ⟨conn,s.world.nStmts⟩,STMT_COMPILED,
      wrapInt (replied client w conn (.stmtParamCount s.world.nStmts)).value,some ⟨s.world.nHeap,[]⟩,0⟩
      ⟨{v with nHeap := s.world.nHeap + 1},s.this⟩ :=
  (compileApply client (some conn) szDML s).trans ((if_pos init).trans (if_neg (not_not.mpr accepted)))

end Compiling

/-- A refused call is thrown with the library's error. -/
def refused {α : Type} (r : Reply) (s : Scope World CppMySQLStatement) :
    EStateM.Result Stop (Scope World CppMySQLStatement) α :=
  .error (.thrown (exception r.errno (some r.error))) s

theorem checkStmtApply (s : Scope World CppMySQLStatement) :
    checkStmt s = if s.this.mpStmt = none then statementError "MYSQL_STMT handle error" s
      else .ok ⟨⟩ s := by
  simp only [checkStmt,bindApply,getApply,iteApply,raiseApply,pureApply,statementError]

theorem checkBindArrayApply (s : Scope World CppMySQLStatement) :
    checkBindArray s = if s.this.mpBindArray = none then statementError "MYSQL_BIND array error" s
      else .ok ⟨⟩ s := by
  simp only [checkBindArray,bindApply,getApply,iteApply,raiseApply,pureApply,statementError]

theorem executeApply (s : Scope World CppMySQLStatement) :
    execute client s = match s.this.mpStmt,s.this.mpBindArray with
      | none,_ => statementError "MYSQL_STMT handle error" s
      | some _,none => statementError "MYSQL_BIND array error" s
      | some stmt,some array =>
        if s.this.mState < STMT_COMPILED then statementError "Satement is not compiled yet" s
        else if s.this.mnParamsCount ≠ wrapInt array.value.length then
          statementError "MYSQL_BIND array size is not enough" s
        else if array.value = [] then .error .undefined s
        else
          let w := sent client s.world stmt.mysql (.stmtBindParam stmt.id)
          let run := Call.stmtExecute stmt.id (array.value.map (MysqlBind.read w))
          if (replied client s.world stmt.mysql (.stmtBindParam stmt.id)).rc ≠ 0 then
            refused (replied client s.world stmt.mysql (.stmtBindParam stmt.id)) ⟨w,s.this⟩
          else if (replied client w stmt.mysql run).rc ≠ 0 then
            refused (replied client w stmt.mysql run) ⟨sent client w stmt.mysql run,s.this⟩
          else .ok ⟨⟩ ⟨sent client w stmt.mysql run,clearBindings {s.this with mState := STMT_EXECUTED}⟩ := by
  simp only [execute,bindApply,checkStmtApply,checkBindArrayApply,getApply]
  cases stmt : s.this.mpStmt with
  | none => rfl
  | some stmt =>
    simp only [reduceCtorEq,if_false]
    cases array : s.this.mpBindArray with
    | none => rfl
    | some array =>
      simp only [reduceCtorEq,if_false,stmt,array,iteApply,raiseApply,undefinedApply]
      refine ite_congr rfl (fun _ => rfl) fun _ => ite_congr rfl (fun _ => rfl) fun _ =>
        ite_congr rfl (fun _ => rfl) fun _ => ?_
      simp only [bindApply,callApply,iteApply,getApply,onThisApply]
      refine ite_congr rfl (fun _ => throwLastErrorApply _ _ _ _ _) fun _ => ?_
      exact ite_congr rfl (fun _ => throwLastErrorApply _ _ _ _ _) fun _ => by rw [stmt,array]; rfl

theorem resetApply (s : Scope World CppMySQLStatement) :
    reset client s = match s.this.mpStmt with
      | none => statementError "MYSQL_STMT handle error" s
      | some stmt => .ok ⟨⟩ ⟨sent client s.world stmt.mysql (.stmtReset stmt.id),clearBindings s.this⟩ := by
  simp only [reset,bindApply,checkStmtApply,getApply]
  cases stmt : s.this.mpStmt with
  | none => rfl
  | some stmt =>
    simp only [reduceCtorEq,if_false,stmt]
    rfl

theorem realBindApply (pos : Int) (type : FieldType) (buffer : Buffer) (length : Nat)
    (s : Scope World CppMySQLStatement) :
    realBind pos type buffer length s =
      if pos > 1024 then statementError "too many bind parameters" s
      else if s.this.mnBindIndex ≠ pos then statementError "bind index error" s
      else match s.this.mpBindArray with
        | none => .error .undefined s
        | some array => .ok ⟨⟩ ⟨s.world,{s.this with
            mpBindArray := some {array with value := array.value ++ [⟨type,buffer,length⟩]}
            mnBindIndex := wrapInt (s.this.mnBindIndex + 1)}⟩ := by
  simp only [realBind,bindApply,getApply,iteApply,raiseApply,statementError]
  cases s.this.mpBindArray <;> rfl

theorem execDMLApply (s : Scope World CppMySQLStatement) :
    execDML client s = match execute client s with
      | .error e t => .error e t
      | .ok _ t => match t.this.mpStmt with
        | none => .error .undefined t
        | some stmt => .ok (wrapInt (replied client t.world stmt.mysql (.stmtAffectedRows stmt.id)).value)
            ⟨sent client t.world stmt.mysql (.stmtAffectedRows stmt.id),t.this⟩ := by
  simp only [execDML,bindApply,getApply]
  cases execute client s with
  | error e t => rfl
  | ok a t => cases held : t.this.mpStmt <;> simp only [held] <;> rfl

theorem clearApply (s : Scope World CppMySQLStatement) :
    clear s = match s.this.mpStmt with
      | none => .ok ⟨⟩ ⟨s.world.deletes s.this.mpBindArray,{s.this with mpBindArray := none}⟩
      | some stmt => .ok ⟨⟩ ⟨(s.world.push ⟨some stmt.mysql,.stmtClose stmt.id,success⟩).deletes s.this.mpBindArray,
          {s.this with mpStmt := none, mpBindArray := none}⟩ := by
  simp only [clear,bindApply,getApply]
  cases held : s.this.mpStmt with
  | none => simp only [bindApply,getApply,deletePointerApply,onThisApply,held]
  | some stmt => simp only [mysqlStmtClose,bindApply,onWorldApply,onThisApply,getApply,deletePointerApply]

/-- The pending parameters, if execution would come as far as mysql_stmt_execute. -/
def reached (s : Scope World CppMySQLStatement) : Option (List MysqlBind) :=
  match s.this.mpStmt,s.this.mpBindArray with
  | some stmt,some array =>
    if STMT_COMPILED ≤ s.this.mState ∧ s.this.mnParamsCount = wrapInt array.value.length ∧
      array.value ≠ [] ∧ (replied client s.world stmt.mysql (.stmtBindParam stmt.id)).rc = 0
    then some array.value else none
  | _,_ => none

/-- The parameter values of the executions the library was asked for, newest first. -/
def executions (h : History) : List (List (Option BoundValue)) :=
  h.filterMap (fun e => match e.call with | .stmtExecute _ params => some params | _ => none)

/-- What is known of execute, whichever way it ends. -/
structure Executed (s t : Scope World CppMySQLStatement) (ok : Bool) : Prop where
  asked : executions t.world.log =
    ((reached client s).toList.map (List.map (MysqlBind.read s.world))) ++ executions s.world.log
  statics : t.world.sNValue = s.world.sNValue ∧ t.world.sDwValue = s.world.sDwValue
  failed : ok = false → t.this = s.this
  succeeded : ok = true → s.this.mpStmt ≠ none ∧ s.this.mpBindArray ≠ none ∧
    t.this = clearBindings {s.this with mState := STMT_EXECUTED}

theorem executeExecuted (s : Scope World CppMySQLStatement) :
    Executed client s (left (execute client s)) (returned (execute client s)) := by
  rw [executeApply]
  cases stmt : s.this.mpStmt with
  | none => exact ⟨by simp [reached,stmt,statementError],⟨rfl,rfl⟩,fun _ => rfl,nofun⟩
  | some stmt' =>
    cases array : s.this.mpBindArray with
    | none => exact ⟨by simp [reached,stmt,array,statementError],⟨rfl,rfl⟩,fun _ => rfl,nofun⟩
    | some array' =>
      dsimp only
      by_cases compiled : s.this.mState < STMT_COMPILED
      · rw [if_pos compiled]
        refine ⟨?_,⟨rfl,rfl⟩,fun _ => rfl,nofun⟩
        simp [reached,stmt,array,statementError,Int.not_le.mpr compiled]
      rw [if_neg compiled]
      by_cases sized : s.this.mnParamsCount ≠ wrapInt array'.value.length
      · rw [if_pos sized]
        refine ⟨?_,⟨rfl,rfl⟩,fun _ => rfl,nofun⟩
        simp [reached,stmt,array,statementError,sized]
      rw [if_neg sized]
      by_cases empty : array'.value = []
      · rw [if_pos empty]
        refine ⟨?_,⟨rfl,rfl⟩,fun _ => rfl,nofun⟩
        simp [reached,stmt,array,empty]
      rw [if_neg empty]
      by_cases bound : (replied client s.world stmt'.mysql (.stmtBindParam stmt'.id)).rc = 0
      · have comes : reached client s = some array'.value := by
          simp [reached,stmt,array,Int.not_lt.mp compiled,not_not.mp sized,empty,bound]
        rw [if_neg (not_not.mpr bound)]
        split
        · refine ⟨?_,⟨rfl,rfl⟩,fun _ => rfl,nofun⟩
          rw [comes]
          rfl
        · refine ⟨?_,⟨rfl,rfl⟩,nofun,fun _ => ⟨?_,?_,rfl⟩⟩
          · rw [comes]
            rfl
          · simp [stmt]
          · simp [array]
      · rw [if_pos bound]
        refine ⟨?_,⟨rfl,rfl⟩,fun _ => rfl,nofun⟩
        simp [reached,stmt,array,bound,refused,sent,executions]

end Specs

end CppMySQLStatement
end DatabaseLayer
