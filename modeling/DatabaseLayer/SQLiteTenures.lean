import DatabaseLayer.Foundation.Tenures
import DatabaseLayer.SQLiteReady

/-! Every call that an object makes on a statement is on the one it holds, and every call on a
connection is on the one it knows. A use is described down to what the library answers. -/
namespace DatabaseLayer.SQLiteTenures
open Platform SQLiteClient Foundation.Program Foundation.Objects Foundation.Tenures SQLiteSystem SQLiteBooks
open CppSQLite3DB (Returned)

/-- The statement a call is made on, if any. -/
def target : Call → Option Nat
  | .step pStmt | .finalize pStmt => pStmt
  | .reset id | .bind id _ _ => some id
  | _ => none

/-- The connection a call names, if any. -/
def spoken : Call → Option Nat
  | .closeConn conn | .exec conn _ | .changes conn | .getAutocommit conn => some conn
  | .prepare conn _ | .getTable conn _ => some conn
  | .errmsg conn | .busyTimeout conn _ => conn
  | _ => none

/-- One call on no statement, and on no connection but the object's own. -/
structure Aside (mpDB : Option Nat) (w u : World) : Prop where
  call : ∃ c rc, u.log = ⟨c,rc⟩ :: w.log ∧ target c = none ∧ (∀ conn, spoken c = some conn → mpDB = some conn) ∧
    (c = .errmsgUnset → mpDB = none)
  stmts : u.stmts = w.stmts
  issued : u.nStmts = w.nStmts

section Calls
variable (client : Client)

inductive Use (id : Nat) (w : World) : World → Prop
  | step : Use id w (w.stepped client id)
  | reset : Use id w (w.restarted id)
  | bind (nParam : Int) (value : Parameter) :
      Use id w (w.push ⟨.bind id nParam value,client.bind w.log id nParam value⟩)

/-- The world in which the held statement was finalized. -/
def finalized (id : Nat) (w : World) : World := w.push ⟨.finalize (some id),(w.stmts id).progress.failure⟩

/-- The calls of an object that knows this connection. -/
def statementCalls (mpDB : Option Nat) : Calls World where
  aside := Aside mpDB
  use := Use client
  release id w u := u = finalized id w
  issue id w u := id = w.nStmts ∧ ∃ conn sql names, mpDB = some conn ∧
    preparedColumns client w conn sql = some names ∧ u = w.prepared client conn sql

abbrev Holding (mpDB : Option Nat) : Option Nat → World → Option Nat → World → Prop :=
  Tenure (statementCalls client mpDB)

end Calls

section Parts
variable {client : Client} {mpDB x : Option Nat} {w : World}

theorem aside {u : World} (call : Aside mpDB w u) : Holding client mpDB x w x u := .aside call (.done _ _)

theorem stepped (id : Nat) (w : World) : Holding client mpDB (some id) w (some id) (w.stepped client id) :=
  .use .step (.done _ _)

theorem restarted (id : Nat) (w : World) : Holding client mpDB (some id) w (some id) (w.restarted id) :=
  .use .reset (.done _ _)

theorem released (id : Nat) (w : World) : Holding client mpDB (some id) w none (finalized id w) :=
  .release rfl (.done _ _)

theorem silent {c : Call} (off : target c = none) (names : spoken c = none) (set : c ≠ .errmsgUnset) (rc : Int) :
    Holding client mpDB x w x (w.push ⟨c,rc⟩) :=
  aside ⟨⟨c,rc,rfl,off,(fun _ same => nomatch names.symm.trans same),fun unset => absurd unset set⟩,rfl,rfl⟩

theorem speaking {c : Call} (off : target c = none) (names : spoken c = mpDB) (rc : Int) :
    Holding client mpDB x w x (w.push ⟨c,rc⟩) :=
  aside ⟨⟨c,rc,rfl,off,fun _ same => names.symm.trans same,fun unset => names.symm.trans (by rw [unset]; rfl)⟩,rfl,rfl⟩

theorem raised (nErrCode : Int) (szErrMess : Message) (isSqlite3Free : Bool) :
    Holding client mpDB x w x (w.raised nErrCode szErrMess isSqlite3Free) := by
  unfold World.raised
  split
  · exact silent (c := .free szErrMess) rfl rfl Call.noConfusion _
  · exact .done _ _

/-- The error message is fetched, and perhaps freed by the exception. -/
theorem reported (nErrCode : Int) (szErrMess : Message) (isSqlite3Free : Bool) :
    Holding client mpDB x w x ((w.push ⟨.errmsg mpDB,SQLITE_OK⟩).raised nErrCode szErrMess isSqlite3Free) :=
  tenureTrans (speaking (c := .errmsg mpDB) rfl rfl _) (raised _ _ _)

theorem unprepared {conn : Nat} (opened : mpDB = some conn) (sql : CString)
    (none : preparedColumns client w conn sql = none) : Holding client mpDB x w x (w.prepared client conn sql) := by
  unfold World.prepared
  rw [none]
  exact speaking (c := .prepare conn sql) rfl opened.symm _

theorem prepared {conn : Nat} (opened : mpDB = some conn) {sql : CString} {names : List CString}
    (found : preparedColumns client w conn sql = some names) :
    Holding client mpDB none w (some w.nStmts) (w.prepared client conn sql) :=
  .issue ⟨rfl,conn,sql,names,opened,found,rfl⟩ (.done _ _)

end Parts

section Queries
variable (client : Client) {s : Scope World CppSQLite3Query} {pStmt : Nat}

theorem messageTenure {α : Type} (nRet : Int) (s : Scope World CppSQLite3Query) :
    let t := left (CppSQLite3Query.throwErrmsg client nRet s : EStateM.Result Stop _ α)
    Holding client s.this.mpDB s.this.mpStmt s.world t.this.mpStmt t.world := by
  rw [CppSQLite3Query.throwErrmsgApply]
  cases opened : s.this.mpDB with
  | none => exact speaking (c := .errmsgUnset) rfl rfl _
  | some conn => exact reported _ _ _

/-- The statement is finalized, and what follows is told of it. -/
theorem goneTenure {α : Type} (held : s.this.mpStmt = some pStmt) (nRet : Int) :
    let t := left (CppSQLite3Query.throwErrmsg client nRet (CppSQLite3Query.released s) : EStateM.Result Stop _ α)
    Holding client s.this.mpDB (some pStmt) s.world none (CppSQLite3Query.released s).world ∧
    Holding client s.this.mpDB (some pStmt) s.world t.this.mpStmt t.world := by
  have gone : CppSQLite3Query.released s = ⟨finalized pStmt s.world,{s.this with mpStmt := none}⟩ := by
    simp only [CppSQLite3Query.released,held,finalized]
  rw [gone]
  have told := messageTenure client (α := α) nRet ⟨finalized pStmt s.world,{s.this with mpStmt := none}⟩
  exact ⟨released pStmt s.world,tenureTrans (released pStmt s.world) told⟩

theorem clearTenure (s : Scope World CppSQLite3Query) : let t := left (CppSQLite3Query.clear client s)
    Holding client s.this.mpDB s.this.mpStmt s.world t.this.mpStmt t.world := by
  rw [CppSQLite3Query.clearApply]
  cases held : s.this.mpStmt with
  | none =>
    simp only [leftOk,held]
    exact .done _ _
  | some pStmt =>
    obtain ⟨gone,told⟩ := goneTenure client (α := Unit) held (s.world.stmts pStmt).progress.failure
    dsimp only
    split
    · exact told
    · simpa only [leftOk,CppSQLite3Query.released,held] using gone

theorem nextRowTenure (s : Scope World CppSQLite3Query) : let t := left (CppSQLite3Query.nextRow client s)
    Holding client s.this.mpDB s.this.mpStmt s.world t.this.mpStmt t.world := by
  cases held : s.this.mpStmt with
  | none =>
    rw [CppSQLite3Query.nextRowNone client held]
    simp only [CppSQLite3Query.nullStmt,leftError,held]
    exact .done _ _
  | some pStmt =>
    by_cases fine : (advance client s.world.log pStmt (s.world.stmts pStmt)).1 = SQLITE_ROW ∨
        (advance client s.world.log pStmt (s.world.stmts pStmt)).1 = SQLITE_DONE
    · rw [CppSQLite3Query.nextRowApply client held fine]
      simp only [leftOk,held]
      exact stepped pStmt s.world
    · rw [CppSQLite3Query.nextRowFails client held fine]
      exact tenureTrans (stepped pStmt s.world)
        (goneTenure client (s := ⟨s.world.stepped client pStmt,s.this⟩) held _).2

theorem queryTenure (request : CppSQLite3Query.Request) (s : Scope World CppSQLite3Query) :
    let t := left (CppSQLite3Query.perform client request s)
    Holding client s.this.mpDB s.this.mpStmt s.world t.this.mpStmt t.world := by
  by_cases moves : request.moves = true
  · cases request with
    | clear => exact clearTenure client s
    | nextRow => exact nextRowTenure client s
    | _ => exact absurd moves Bool.false_ne_true
  · rw [CppSQLite3Query.accessorStill client ((Bool.not_eq_true _).mp moves)]
    exact .done _ _

end Queries

section Statements
variable (client : Client) {s : Scope World CppSQLite3Statement} {pStmt : Nat}

theorem reportTenure {α : Type} (nRet : Int) {x : Option Nat} {w : World} {o : CppSQLite3Statement} (held : o.mpStmt = x) :
    let t := left (CppSQLite3Statement.throwErrmsg client nRet ⟨w,o⟩ : EStateM.Result Stop _ α)
    Holding client o.mpDB x w t.this.mpStmt t.world := by
  rw [CppSQLite3Statement.throwErrmsgApply]
  simp only [leftError,held]
  exact speaking (c := .errmsg o.mpDB) rfl rfl _

theorem bindTenure (held : s.this.mpStmt = some pStmt) (kind : String) (nParam : Int) (value : Parameter) :
    let t := left (CppSQLite3Statement.bindAs client kind nParam value s)
    Holding client s.this.mpDB (some pStmt) s.world t.this.mpStmt t.world := by
  have bound : Holding client s.this.mpDB (some pStmt) s.world (some pStmt)
      (s.world.push ⟨.bind pStmt nParam value,client.bind s.world.log pStmt nParam value⟩) :=
    .use (.bind nParam value) (.done _ _)
  rw [CppSQLite3Statement.bindAsApply client held]
  dsimp only
  split
  · simpa only [leftError,held] using bound
  · simpa only [leftOk,held] using bound

theorem resetTenure (held : s.this.mpStmt = some pStmt) : let t := left (CppSQLite3Statement.reset client s)
    Holding client s.this.mpDB (some pStmt) s.world t.this.mpStmt t.world := by
  rw [CppSQLite3Statement.resetStmtApply client held]
  dsimp only
  split
  · exact tenureTrans (restarted pStmt s.world) (reportTenure client _ held)
  · simp only [leftOk,held]
    exact restarted pStmt s.world

theorem execDMLTenure (held : s.this.mpStmt = some pStmt) : let t := left (CppSQLite3Statement.execDML client s)
    Holding client s.this.mpDB (some pStmt) s.world t.this.mpStmt t.world := by
  cases opened : s.this.mpDB with
  | none =>
    simp only [CppSQLite3Statement.execDML,bindApply,CppSQLite3Statement.checkDBClosed opened,
      CppSQLite3Statement.refused,leftError,held]
    exact .done _ _
  | some pDB =>
    rw [CppSQLite3Statement.execDMLApply client opened held]
    dsimp only
    split
    · simp only [leftOk,held]
      exact tenureTrans (stepped pStmt s.world)
        (tenureTrans (speaking (c := .changes pDB) rfl rfl _) (restarted pStmt _))
    · have told {nRet : Int} := reportTenure client (α := Int) nRet
        (w := (s.world.stepped client pStmt).restarted pStmt) held
      rw [opened] at told
      exact tenureTrans (stepped pStmt s.world) (tenureTrans (restarted pStmt _) told)

theorem clearStatementTenure (held : s.this.mpStmt = some pStmt) : let t := left (CppSQLite3Statement.clear client s)
    Holding client s.this.mpDB (some pStmt) s.world t.this.mpStmt t.world := by
  simp only [CppSQLite3Statement.clear,sqlite3Finalize,bindApply,getApply,held,onWorldApply,onThisApply,pureApply,
    iteApply]
  split
  · split
    · exact tenureTrans (released pStmt s.world)
        (reportTenure client (α := Unit) _ (o := {s.this with mpStmt := none}) rfl)
    · rw [raiseApply]
      exact tenureTrans (released pStmt s.world) (raised _ _ _)
  · exact released pStmt s.world

theorem requestTenure (request : CppSQLite3Statement.Request) (s : Scope World CppSQLite3Statement) :
    let t := left (CppSQLite3Statement.perform client request s)
    Holding client s.this.mpDB s.this.mpStmt s.world t.this.mpStmt t.world := by
  cases held : s.this.mpStmt with
  | none =>
    rw [SQLiteReady.requestNone client held]
    simp only [held]
    exact .done _ _
  | some pStmt =>
    cases request with
    | bindString nParam szValue => exact bindTenure client held _ _ _
    | bindInt nParam nValue => exact bindTenure client held _ _ _
    | bindDouble nParam dValue => exact bindTenure client held _ _ _
    | bindBlob nParam blobValue => exact bindTenure client held _ _ _
    | bindNull nParam => exact bindTenure client held _ _ _
    | reset => exact resetTenure client held
    | clear => exact clearStatementTenure client held
    | execDML =>
      simp only [CppSQLite3Statement.perform,leftBindPure]
      exact execDMLTenure client held

theorem runTenure (s : Scope World CppSQLite3Statement) : match CppSQLite3Statement.execQuery client s with
    | .ok q t => Holding client s.this.mpDB s.this.mpStmt s.world q.mpStmt t.world
    | .error _ t => Holding client s.this.mpDB s.this.mpStmt s.world t.this.mpStmt t.world := by
  cases opened : s.this.mpDB with
  | none =>
    simp only [CppSQLite3Statement.execQuery,bindApply,CppSQLite3Statement.checkDBClosed opened,
      CppSQLite3Statement.refused]
    exact .done _ _
  | some pDB =>
    cases held : s.this.mpStmt with
    | none =>
      simp only [CppSQLite3Statement.execQuery,bindApply,CppSQLite3Statement.checkDBApply opened,
        CppSQLite3Statement.checkStmtNone held,CppSQLite3Statement.refused,held]
      exact .done _ _
    | some pStmt =>
      by_cases fine : (advance client s.world.log pStmt (s.world.stmts pStmt)).1 = SQLITE_ROW ∨
          (advance client s.world.log pStmt (s.world.stmts pStmt)).1 = SQLITE_DONE
      · rw [CppSQLite3Statement.execQueryApply client opened held fine]
        exact stepped pStmt s.world
      · rw [CppSQLite3Statement.execQueryFails client opened held fine]
        simp only [CppSQLite3Statement.refused,held]
        exact tenureTrans (stepped pStmt s.world) (restarted pStmt _)

end Statements

section Operations
variable (client : Client) {pDB : Nat}

theorem abandonedTenure (pStmt : Option Nat) (w : World) :
    Holding client (some pDB) pStmt w none (CppSQLite3DB.abandoned client pDB pStmt w) := by
  cases pStmt with
  | none => exact tenureTrans (silent (c := .finalize none) rfl rfl Call.noConfusion SQLITE_OK) (reported _ _ _)
  | some id => exact tenureTrans (released id w) (reported _ _ _)

theorem execQueryTenure (szSQL : CString) (s : Scope World CppSQLite3DB) :
    Holding client s.this.mpDB none s.world
      (given CppSQLite3Query.mpStmt (CppSQLite3DB.execQuery client szSQL s))
      (left (CppSQLite3DB.execQuery client szSQL s)).world := by
  cases opened : s.this.mpDB with
  | none =>
    rw [CppSQLite3DB.execQueryClosed client opened]
    exact .done _ _
  | some pDB =>
    by_cases ok : (client.prepare s.world.log pDB szSQL).rc = SQLITE_OK
    · cases columns : (client.prepare s.world.log pDB szSQL).columns with
      | none =>
        obtain ⟨e,fails⟩ := CppSQLite3DB.execQueryEmpty client opened ok columns
        rw [fails]
        refine tenureTrans (unprepared rfl szSQL ((if_pos ok).trans columns)) ?_
        exact tenureTrans (silent (c := .step none) rfl rfl Call.noConfusion _) (abandonedTenure client none _)
      | some names =>
        have found : preparedColumns client s.world pDB szSQL = some names := (if_pos ok).trans columns
        have world : s.world.prepared client pDB szSQL = CppSQLite3DB.compiled s.world pDB szSQL names := by
          simp only [World.prepared,found,ok,CppSQLite3DB.compiled]
        have issued : Holding client (some pDB) none s.world (some s.world.nStmts) _ := prepared rfl found
        rw [world] at issued
        have ran := tenureTrans issued (stepped s.world.nStmts _)
        by_cases fine : (advance client (CppSQLite3DB.compiled s.world pDB szSQL names).log s.world.nStmts
              ((CppSQLite3DB.compiled s.world pDB szSQL names).stmts s.world.nStmts)).1 = SQLITE_ROW ∨
            (advance client (CppSQLite3DB.compiled s.world pDB szSQL names).log s.world.nStmts
              ((CppSQLite3DB.compiled s.world pDB szSQL names).stmts s.world.nStmts)).1 = SQLITE_DONE
        · rw [CppSQLite3DB.execQueryApply client opened ok columns fine]
          exact ran
        · obtain ⟨e,fails⟩ := CppSQLite3DB.execQueryFails client opened ok columns fine
          rw [fails]
          exact tenureTrans ran (abandonedTenure client (some s.world.nStmts) _)
    · obtain ⟨e,fails⟩ := CppSQLite3DB.execQueryUnprepared client opened ok
      rw [fails]
      exact tenureTrans (unprepared rfl szSQL (if_neg ok)) (speaking (c := .errmsg (some pDB)) rfl rfl _)

theorem execScalarTenure (szSQL : CString) (nNullValue : Int) (s : Scope World CppSQLite3DB) :
    Holding client s.this.mpDB none s.world none (left (CppSQLite3DB.execScalar client szSQL nNullValue s)).world := by
  have first := execQueryTenure client szSQL s
  simp only [CppSQLite3DB.execScalar,bindApply]
  cases result : CppSQLite3DB.execQuery client szSQL s with
  | error e t =>
    rw [result] at first
    exact first
  | ok q t =>
    rw [result] at first
    have last := clearTenure client ⟨t.world,q⟩
    obtain ⟨pDB,own,knows⟩ := CppSQLite3DB.execQueryKnows client result
    simp only [(clearFinalizes client ⟨t.world,q⟩).2,knows,← own] at last
    simp only [leftLocal,CppSQLite3DB.scalarStill]
    exact tenureTrans first last

theorem compileTenure (szSQL : CString) (s : Scope World CppSQLite3DB) :
    Holding client s.this.mpDB none s.world
      (given CppSQLite3Statement.mpStmt (CppSQLite3DB.compileStatement client szSQL s))
      (left (CppSQLite3DB.compileStatement client szSQL s)).world := by
  simp only [CppSQLite3DB.compileStatement,bindApply]
  cases opened : s.this.mpDB with
  | none =>
    rw [CppSQLite3DB.checkDBClosed opened]
    exact .done _ _
  | some pDB =>
    rw [CppSQLite3DB.checkDBApply opened]
    dsimp only
    rw [CppSQLite3DB.compileApply client opened]
    dsimp only
    by_cases ok : (client.prepare s.world.log pDB szSQL).rc ≠ SQLITE_OK
    · rw [if_pos ok]
      exact tenureTrans (unprepared rfl szSQL (if_neg ok)) (speaking (c := .errmsg (some pDB)) rfl rfl _)
    · rw [if_neg ok]
      cases columns : preparedColumns client s.world pDB szSQL with
      | none => exact unprepared rfl szSQL columns
      | some names => exact prepared rfl columns

theorem execDMLApply (szSQL : CString) {s : Scope World CppSQLite3DB} (opened : s.this.mpDB = some pDB) :
    CppSQLite3DB.execDML client szSQL s =
      let reply := client.exec s.world.log pDB szSQL
      let w := s.world.push ⟨.exec pDB szSQL,reply.rc⟩
      if reply.rc = SQLITE_OK then .ok (client.changes w.log pDB) ⟨w.push ⟨.changes pDB,SQLITE_OK⟩,s.this⟩
      else .error (.thrown (exception reply.rc (Message.ofError reply.error).text))
        ⟨w.raised reply.rc (.ofError reply.error) true,s.this⟩ := by
  simp only [CppSQLite3DB.execDML,bindApply,CppSQLite3DB.checkDBApply opened,sqlite3Exec,getApply,onWorldApply,
    pureApply,iteApply,raiseApply]
  exact ite_congr rfl (fun _ => rfl) fun _ => rfl

theorem dmlTenure (szSQL : CString) (s : Scope World CppSQLite3DB) :
    Holding client s.this.mpDB none s.world none (left (CppSQLite3DB.execDML client szSQL s)).world := by
  cases opened : s.this.mpDB with
  | none =>
    simp only [CppSQLite3DB.execDML,bindApply,CppSQLite3DB.checkDBClosed opened,CppSQLite3DB.notOpen]
    exact .done _ _
  | some pDB =>
    rw [execDMLApply client szSQL opened]
    dsimp only
    split
    · exact tenureTrans (speaking (c := .exec pDB szSQL) rfl rfl _) (speaking (c := .changes pDB) rfl rfl _)
    · exact tenureTrans (speaking (c := .exec pDB szSQL) rfl rfl _) (raised _ _ _)

/-- Opening speaks to the connection it obtains, and closing to the one it ends. -/
theorem openTenure (szFile : CString) (s : Scope World CppSQLite3DB) :
    Holding client (openedConn client s.world szFile) none s.world none
      (left (CppSQLite3DB.openDB client szFile s)).world := by
  have opens : Holding client (openedConn client s.world szFile) none s.world none (s.world.opened client szFile) := by
    unfold World.opened
    dsimp only
    split <;> exact aside ⟨⟨.openConn szFile,_,rfl,rfl,nofun,Call.noConfusion⟩,rfl,rfl⟩
  rw [CppSQLite3DB.openDBApply]
  dsimp only
  split
  · exact tenureTrans opens (reported _ _ _)
  · exact opens

theorem closeTenure (s : Scope World CppSQLite3DB) :
    Holding client s.this.mpDB none s.world none (left (CppSQLite3DB.close client s)).world := by
  rw [CppSQLite3DB.closeApply]
  cases opened : s.this.mpDB with
  | none => exact .done _ _
  | some pDB =>
    dsimp only
    generalize (if s.world.busy pDB then SQLITE_BUSY else client.closeConn s.world.log pDB) = rc
    split <;> exact speaking (c := .closeConn pDB) rfl rfl rc

theorem getResultSetTenure (szSQL : CString) (s : Scope World CppSQLite3DB) :
    Holding client s.this.mpDB none s.world none (left (CppSQLite3DB.getResultSet client szSQL s)).world := by
  cases opened : s.this.mpDB with
  | none =>
    simp only [CppSQLite3DB.getResultSet,bindApply,CppSQLite3DB.checkDBClosed opened]
    exact .done _ _
  | some pDB =>
    rw [CppSQLite3DB.getResultSetApply client opened]
    dsimp only
    split
    · exact aside ⟨⟨.getTable pDB szSQL,_,rfl,rfl,fun _ => id,Call.noConfusion⟩,rfl,rfl⟩
    · exact tenureTrans (speaking (c := .getTable pDB szSQL) rfl rfl _) (raised _ _ _)

/-- The connection an operation speaks to. -/
def operated (op : CppSQLite3DB.Operation) (s : Scope World CppSQLite3DB) : Option Nat :=
  match op with
  | .openDB szFile => openedConn client s.world szFile
  | _ => s.this.mpDB

/-- An operation holds no statement when it starts, and at its end the one it returns, if any. -/
theorem operationTenure (op : CppSQLite3DB.Operation) (s : Scope World CppSQLite3DB) :
    Holding client (operated client op s) none s.world (given stmtOf (CppSQLite3DB.perform client op s))
      (left (CppSQLite3DB.perform client op s)).world := by
  have plain {mpDB : Option Nat} {α : Type} {m : Op CppSQLite3DB α} {g : α → Returned} (nothing : ∀ a, stmtOf (g a) = none)
      (tenure : Holding client mpDB none s.world none (left (m s)).world) :
      Holding client mpDB none s.world (given stmtOf ((do return g (← m) : Op CppSQLite3DB _) s))
        (left ((do return g (← m) : Op CppSQLite3DB _) s)).world := by
    rw [givenNothing nothing,leftBindPure]
    exact tenure
  cases op with
  | execQuery szSQL =>
    simp only [CppSQLite3DB.perform,givenBind,leftBindPure]
    exact execQueryTenure client szSQL s
  | compileStatement szSQL =>
    simp only [CppSQLite3DB.perform,givenBind,leftBindPure]
    exact compileTenure client szSQL s
  | execScalar szSQL nNullValue => exact plain (fun _ => rfl) (execScalarTenure client szSQL nNullValue s)
  | tableExists szTable =>
    refine plain (m := CppSQLite3DB.tableExists client szTable) (fun _ => rfl) ?_
    simp only [CppSQLite3DB.tableExists,leftBindPure]
    exact execScalarTenure client _ 0 s
  | openDB szFile => exact plain (fun _ => rfl) (openTenure client szFile s)
  | close => exact plain (fun _ => rfl) (closeTenure client s)
  | execDML szSQL => exact plain (fun _ => rfl) (dmlTenure client szSQL s)
  | getResultSet szSQL => exact plain (fun _ => rfl) (getResultSetTenure client szSQL s)
  | startTransaction | commitTransaction | rollback =>
    refine plain (fun _ => rfl) ?_
    simp only [CppSQLite3DB.startTransaction,CppSQLite3DB.commitTransaction,CppSQLite3DB.rollback,leftBindPure]
    exact dmlTenure client _ s
  | isTransaction =>
    refine plain (m := CppSQLite3DB.isTransaction client) (fun _ => rfl) ?_
    simp only [CppSQLite3DB.isTransaction,bindApply,operated]
    cases opened : s.this.mpDB with
    | none =>
      rw [CppSQLite3DB.checkDBClosed opened]
      exact .done _ _
    | some pDB =>
      rw [CppSQLite3DB.checkDBApply opened]
      exact speaking (c := .getAutocommit pDB) rfl rfl SQLITE_OK
  | setBusyTimeout nMillisecs =>
    exact plain (fun _ => rfl) (speaking (c := .busyTimeout s.this.mpDB nMillisecs) rfl rfl SQLITE_OK)

end Operations

section Commands
variable (client : Client)

/-- The object whose statement a command makes calls on. -/
def holder : Command → Option Holder
  | .query i _ | .destroyQuery i | .assignQuery i _ => some (.query i)
  | .statement i _ | .destroyStatement i => some (.statement i)
  | .execQuery _ k => some (.statement k)
  | _ => none

def touched (s : System) (cmd : Command) : Option Nat := (holder cmd).bind (heldStatement s)

/-- The connection an object knows. -/
def known (s : System) : Holder → Option Nat
  | .query i => (s.queries i).bind CppSQLite3Query.mpDB
  | .statement i => (s.statements i).bind CppSQLite3Statement.mpDB

/-- The connection a command speaks to. -/
def addressed (s : System) (cmd : Command) : Option Nat :=
  match cmd with
  | .operate k _ op => operated client op ⟨s.world,s.databases k⟩
  | _ => (holder cmd).bind (known s)

theorem clearTableTenure {mpDB : Option Nat} (s : Scope World CppSQLite3ResultSet) :
    Holding client mpDB none s.world none (left (CppSQLite3ResultSet.clear s)).world := by
  simp only [CppSQLite3ResultSet.clear,bindApply,getApply]
  cases s.this.mpaszResults with
  | none => exact .done _ _
  | some table => exact silent (c := .freeTable table.addr) rfl rfl Call.noConfusion SQLITE_OK

theorem stepTenure (s : System) (cmd : Command) :
    ∃ y, Holding client (addressed client s cmd) (touched s cmd) s.world y (step client s cmd).world := by
  have still (x : Option Nat) : ∃ y, Holding client (addressed client s cmd) x s.world y s.world := ⟨x,.done _ _⟩
  cases cmd with
  | operate k i op =>
    simp only [step]
    split
    · rw [SQLiteHandles.operatedWorld]
      exact ⟨_,operationTenure client op ⟨s.world,s.databases k⟩⟩
    · exact still _
  | query i request =>
    simp only [step,touched,addressed,holder,Option.bind_some,heldStatement,known] at still ⊢
    cases s.queries i with
    | none => exact ⟨none,.done _ _⟩
    | some q => exact ⟨_,queryTenure client request ⟨s.world,q⟩⟩
  | destroyQuery i =>
    simp only [step,touched,addressed,holder,Option.bind_some,heldStatement,known]
    cases s.queries i with
    | none => exact ⟨none,.done _ _⟩
    | some q => exact ⟨_,clearTenure client ⟨s.world,q⟩⟩
  | assignQuery i j =>
    simp only [step]
    split
    · exact still _
    · simp only [touched,addressed,holder,Option.bind_some,heldStatement,known]
      cases s.queries i with
      | none => exact ⟨none,.done _ _⟩
      | some q =>
        cases s.queries j with
        | none => exact ⟨_,.done _ _⟩
        | some r =>
          simp only [System.setQueries,assignedWorld]
          exact ⟨_,clearTenure client ⟨s.world,q⟩⟩
  | statement i request =>
    simp only [step,touched,addressed,holder,Option.bind_some,heldStatement,known]
    cases s.statements i with
    | none => exact ⟨none,.done _ _⟩
    | some o => exact ⟨_,requestTenure client request ⟨s.world,o⟩⟩
  | destroyStatement i =>
    simp only [step,touched,addressed,holder,Option.bind_some,heldStatement,known]
    cases s.statements i with
    | none => exact ⟨none,.done _ _⟩
    | some o => exact ⟨_,requestTenure client .clear ⟨s.world,o⟩⟩
  | execQuery i k =>
    simp only [step,touched,addressed,holder,Option.bind_some,heldStatement,known]
    cases s.queries i with
    | some q => exact ⟨_,.done _ _⟩
    | none =>
      cases s.statements k with
      | none => exact ⟨none,.done _ _⟩
      | some o =>
        have ran := runTenure client ⟨s.world,o⟩
        dsimp only
        cases result : CppSQLite3Statement.execQuery client ⟨s.world,o⟩ with
        | ok q t =>
          rw [result] at ran
          exact ⟨_,ran⟩
        | error e t =>
          rw [result] at ran
          exact ⟨_,ran⟩
  | clearResultSet i | destroyResultSet i =>
    simp only [step]
    split
    · exact ⟨_,clearTableTenure client ⟨s.world,_⟩⟩
    · exact still _
  | assignResultSet i j =>
    simp only [step]
    split
    · exact still _
    · split
      · rename_i q r _ _
        have cleared (mpDB : Option Nat) : Holding client mpDB none s.world none _ := clearTableTenure client ⟨s.world,q⟩
        rw [← leftSwallow] at cleared
        simp only [System.setResultSets,CppSQLite3ResultSet.assign,bindApply]
        cases result : swallow CppSQLite3ResultSet.clear ⟨s.world,q⟩ with
        | ok a t => rw [result] at cleared; exact ⟨_,cleared _⟩
        | error e t => rw [result] at cleared; exact ⟨_,cleared _⟩
      · exact still _
  | assignStatement i j =>
    simp only [step]
    split
    · exact still _
    · split <;> exact still _
  | newQuery i | copyQuery i j | newResultSet i | copyResultSet i j | nextRow i | seekRow i nRow | newStatement i
  | copyStatement i j =>
    simp only [step]
    split <;> exact still _

end Commands

end DatabaseLayer.SQLiteTenures
