import DatabaseLayer.UndisturbedQueries

/-! Programs against the DatabaseLayer interface, on either database. A query lives as long as
the block that asks it; a server answers each call with an outcome. -/
namespace DatabaseLayer.PortableDatabases
open Platform Foundation.Program Foundation.Run Foundation.Transcript
open PortableQueries (Selection Admits MySQLSelects SQLiteSelects)

/-- A call of the interface, and what the servers make of it: a statement is refused, or has
changed rows or selected some; a transaction command is accepted or not. -/
inductive Event where
  | execDML (szSQL : CString) (changed : Option Int)
  | execScalar (szSQL : CString) (nNullValue : Int) (selected : Option Selection)
  | tableExists (szTable : CString) (selected : Option Selection)
  | execQuery (szSQL : CString) (requests : List PortableQueries.Request) (selected : Option Selection)
  | startTransaction (accepted : Bool)
  | commitTransaction (accepted : Bool)
  | rollback (accepted : Bool)
  | isTransaction

inductive Answer where
  | unit
  | bool (value : Bool)
  | int (value : Int)
  | query (answers : List PortableQueries.Answer)
  | thrown
  | undefined
  deriving DecidableEq, Repr

def answered {ε σ : Type} (undefined : ε → Bool) : EStateM.Result ε σ Answer → Answer
  | .ok answer _ => answer
  | .error e _ => if undefined e then .undefined else .thrown

/-- The block of a query: each call of it is caught. -/
def asking {ε σ : Type} (step : σ → PortableQueries.Request → PortableQueries.Answer × σ)
    (requests : List PortableQueries.Request) : EStateM ε σ Answer :=
  fun s => .ok (.query (transcript step s requests)) (run (after step) s requests)

section Interface
variable (atof : CString → UInt64)

/-- The number in the first cell, if there is one. -/
def scalar (sel : Selection) (nNullValue : Int) : Option Int :=
  (PortableQueries.cellAt sel 0 0).map (fun cell => cell.elim nNullValue atoi)

/-- The interface as a machine that knows whether it is inside a transaction. -/
def answer (inside : Bool) : Event → Answer × Bool
  | .execDML _ changed => (changed.elim .thrown .int,inside)
  | .execScalar _ nNullValue selected => ((selected.bind (scalar · nNullValue)).elim .thrown .int,inside)
  | .tableExists _ selected => ((selected.bind (scalar · 0)).elim .thrown (fun nRet => .bool (nRet > 0)),inside)
  | .execQuery _ requests selected => (selected.elim .thrown
      (fun sel => .query (transcript (PortableQueries.answer atof sel) (some 0) requests)),inside)
  | .startTransaction accepted => if accepted then (.unit,true) else (.thrown,inside)
  | .commitTransaction accepted | .rollback accepted => if accepted then (.unit,false) else (.thrown,inside)
  | .isTransaction => (.bool inside,inside)

/-- A transaction is started outside of one, and ended inside of it by a command that is
accepted. -/
def Nested (inside : Bool) : Event → Prop
  | .startTransaction accepted => accepted = true → inside = false
  | .commitTransaction accepted | .rollback accepted => accepted = true ∧ inside = true
  | _ => True

instance (inside e) : Decidable (Nested inside e) := by cases e <;> (unfold Nested; infer_instance)

/-- The block keeps to what the query interface is made for. -/
def Ordinary : Event → Prop
  | .execQuery _ requests (some sel) =>
    Guarded (after (PortableQueries.answer atof sel)) (Admits sel) (some 0) requests
  | _ => True

section Scalars
variable {sel : Selection} (nNullValue : Int)

/-- There is no first cell without a row, and none without a column. -/
theorem scalarNone (none : sel.rows = [] ∨ sel.names = []) : scalar sel nNullValue = .none := by
  have empty : PortableQueries.cellAt sel 0 0 = .none := by
    unfold PortableQueries.cellAt
    cases rows : sel.rows with
    | nil => rfl
    | cons row rest =>
      obtain rows' | names := none
      · exact absurd (rows.symm.trans rows') (List.cons_ne_nil _ _)
      · have width := sel.rectangular row (by simp [rows])
        rw [names] at width
        rw [List.eq_nil_of_length_eq_zero width]
        rfl
  rw [scalar,empty]
  rfl

theorem scalarSome (rows : sel.rows ≠ []) (names : sel.names ≠ []) : ∃ cell, PortableQueries.cellAt sel 0 0 = some cell ∧
    scalar sel nNullValue = some (cell.elim nNullValue atoi) := by
  obtain ⟨row,rest,whole⟩ := List.exists_cons_of_ne_nil rows
  have width := sel.rectangular row (by simp [whole])
  have wide : 0 < row.length := by
    rw [width]
    exact List.length_pos_iff.mpr names
  have first : PortableQueries.cellAt sel 0 0 = some row[0] := by
    rw [PortableQueries.cellAt,whole]
    exact List.getElem?_eq_getElem wide
  exact ⟨row[0],first,by rw [scalar,first]; rfl⟩

end Scalars
end Interface

section MySQL
open MySQLClient CppMySQLDB
variable (client : Client) (atof : CString → UInt64)

def mysqlPerform : Event → Op CppMySQLDB Answer
  | .execDML szSQL _ => do return .int (← execDML client szSQL)
  | .execScalar szSQL nNullValue _ => do return .int (← execScalar client szSQL nNullValue)
  | .tableExists szTable _ => do return .bool (← tableExists client szTable)
  | .execQuery szSQL requests _ => do
    let q ← execQuery client szSQL
    withLocal q (asking (PortableQueries.mysqlStep atof) requests) CppMySQLQuery.destroy
  | .startTransaction _ => do
    startTransaction client
    return .unit
  | .commitTransaction _ => do
    commitTransaction client
    return .unit
  | .rollback _ => do
    rollback client
    return .unit
  | .isTransaction => do return .bool (isTransaction (← get).this)

def mysqlStep (s : Scope World CppMySQLDB) (e : Event) : Answer × Scope World CppMySQLDB :=
  (answered (· = .undefined) (mysqlPerform client atof e s),left (mysqlPerform client atof e s))

def MySQLOutcome (szSQL : CString) (s : Scope World CppMySQLDB) : Option Selection → Prop
  | none => (reply client s (.realQuery szSQL)).rc ≠ 0
  | some sel => MySQLSelects client szSQL s sel

/-- The server answers the call with its outcome; where a transaction is open it ends it before
it starts another, and without one there is nothing to end. -/
def MySQLMeets (s : Scope World CppMySQLDB) : Event → Prop
  | .execDML szSQL none => (reply client s (.realQuery szSQL)).rc ≠ 0
  | .execDML szSQL (some n) => (reply client s (.realQuery szSQL)).rc = 0 ∧
    wrapInt (reply client (asked client s (.realQuery szSQL)) .affectedRows).value = n
  | .execScalar szSQL _ selected | .execQuery szSQL _ selected => MySQLOutcome client szSQL s selected
  | .tableExists szTable selected => (schemaQuery s.world.sDBName szTable).strlen < 256 ∧
    MySQLOutcome client (schemaQuery s.world.sDBName szTable) s selected
  | .startTransaction accepted => (reply client s (.realQuery (text "start transaction;"))).rc = 0 ↔ accepted = true
  | .commitTransaction accepted => (reply client s .commit).rc = 0 ↔ accepted = true
  | .rollback accepted => (reply client s .rollback).rc = 0 ↔ accepted = true
  | .isTransaction => True

/-- The counter is that of a transaction that is open or not. -/
structure MySQLStands (s : Scope World CppMySQLDB) (inside : Bool) : Prop where
  connected : Connected true s
  counter : s.this.mInTransaction = if inside then 1 else 0

section Selecting
variable {client} {atof} {sel : Selection} {szSQL : CString} {s : Scope World CppMySQLDB}

def mysqlInvalid : CppMySQLException := exception CPPMYSQL_DB_ERROR (some (text "Invalid scalar query"))

theorem mysqlScalarOf (nNullValue : Int) {u : Scope World CppMySQLQuery}
    (shows : PortableQueries.MySQLShows sel u (some 0)) : scalarOf nNullValue u =
      (scalar sel nNullValue).elim (.error (.thrown mysqlInvalid) u) (.ok · u) := by
  have eof : CppMySQLQuery.eof u = .ok (decide (sel.rows = [])) u := by
    obtain ⟨res,data,stands,rows,_⟩ := shows
    rw [MySQLCursor.eofAt stands,rows]
    simp [eq_comm]
  have count := PortableQueries.mysqlNumFields shows
  by_cases rows : sel.rows = []
  · rw [scalarNone nNullValue (.inl rows)]
    simp only [scalarOf,bindApply,eof,rows,decide_true,iteApply,if_true,raiseApply]
    rfl
  · by_cases names : sel.names = []
    · rw [scalarNone nNullValue (.inr names)]
      have narrow : (([] : List CString).length : Int) < 1 := by decide
      simp only [scalarOf,bindApply,eof,rows,decide_false,iteApply,Bool.false_eq_true,if_false,count,names,if_pos narrow,
        raiseApply]
      rfl
    · obtain ⟨cell,inside,found⟩ := scalarSome nNullValue rows names
      have wide : ¬ (sel.names.length : Int) < 1 := by
        have some := List.length_pos_iff.mpr names
        omega
      rw [found]
      simp only [scalarOf,bindApply,eof,rows,decide_false,iteApply,Bool.false_eq_true,if_false,count,wide]
      exact PortableQueries.mysqlReadAt shows (MySQLFields.intFunnels 0 nNullValue) (Int.le_refl 0) inside rfl

theorem mysqlBegun (selects : MySQLSelects client szSQL s sel) :
    ∃ q t, execQuery client szSQL s = .ok q t ∧ PortableQueries.MySQLShows sel ⟨t.world,q⟩ (some 0) := by
  obtain ⟨u,direct,shows⟩ := PortableQueries.mysqlSelected selects
  unfold PortableQueries.mysqlDirect at direct
  cases result : execQuery client szSQL s with
  | ok q t =>
    rw [result] at direct
    cases direct
    exact ⟨q,t,rfl,shows⟩
  | error e t =>
    rw [result] at direct
    cases direct

theorem mysqlRefused (connected : Connected true s) (refused : (reply client s (.realQuery szSQL)).rc ≠ 0) :
    ∃ e t, execQuery client szSQL s = .error (.thrown e) t := by
  simp only [execQueryApply,if_pos connected,if_neg refused]
  exact ⟨_,_,rfl⟩

theorem mysqlScalar (connected : Connected true s) (nNullValue : Int) {selected : Option Selection}
    (outcome : MySQLOutcome client szSQL s selected) : ∃ e t, execScalar client szSQL nNullValue s =
      (selected.bind (scalar · nNullValue)).elim (.error (.thrown e) t) (.ok · t) := by
  rw [execScalarApply]
  cases selected with
  | none =>
    obtain ⟨e,t,throws⟩ := mysqlRefused connected outcome
    rw [throws]
    exact ⟨e,t,rfl⟩
  | some sel =>
    obtain ⟨q,t,returns,shows⟩ := mysqlBegun outcome
    rw [returns,Option.bind_some]
    simp only [withLocal,mysqlScalarOf nNullValue shows]
    refine ⟨mysqlInvalid,⟨CppMySQLQuery.destroy ⟨t.world,q⟩,t.this⟩,?_⟩
    cases scalar sel nNullValue <;> rfl

end Selecting

section Keeping
variable {client} {atof} {s : Scope World CppMySQLDB} {conn : Option Nat}

theorem fetchedSelected (szSQL : CString) : selectedDb conn (fetchedLog client szSQL s) = selectedDb conn s.world.log := by
  unfold fetchedLog
  dsimp only
  split
  · split <;> simp [asked,selectedDb]
  · rfl

theorem freedSelected {h later : History} (freed : Freed h later) (some : conn ≠ none) :
    selectedDb conn later = selectedDb conn h := by
  rcases freed with rfl | ⟨res,rfl⟩
  · rfl
  · simp [selectedDb,some.symm]

/-- A block frees its result, at most. -/
theorem askedSelected (some : conn ≠ none) (u : Scope World CppMySQLQuery) (requests : List PortableQueries.Request) :
    selectedDb conn (run (after (PortableQueries.mysqlStep atof)) u requests).world.log = selectedDb conn u.world.log := by
  let Same (v : Scope World CppMySQLQuery) := selectedDb conn v.world.log = selectedDb conn u.world.log
  suffices keep : ∀ v request, Same v → Same (after (PortableQueries.mysqlStep atof) v request) from
    invariantRun keep rfl requests
  intro v request same
  cases kind : request.moves with
  | false =>
    simp only [after,PortableQueries.mysqlStep,PortableQueries.readStill atof kind]
    exact same
  | true =>
    cases request with
    | nextRow =>
      have result := CppMySQLQuery.nextRowApply v
      simp only [after,PortableQueries.mysqlStep,PortableQueries.mysqlPerform,leftBindPure]
      cases held : v.this.mpRES with
      | none =>
        simp only [held] at result
        rw [result]
        exact same
      | some res =>
        simp only [held] at result
        rw [result]
        cases (v.world.results res).dataCursor <;> exact same
    | clear =>
      simp only [after,PortableQueries.mysqlStep,PortableQueries.mysqlPerform,leftBindPure,CppMySQLQuery.clearApply]
      cases v.this.mpRES with
      | none => exact same
      | some res =>
        refine Eq.trans ?_ same
        simp [selectedDb,some.symm]
    | _ => cases kind

theorem mysqlConnected (e : Event) (connected : Connected true s) : Connected true (mysqlStep client atof s e).2 := by
  have some := connected.1
  have kept {t : Scope World CppMySQLDB} (this : t.this.mpDB = s.this.mpDB)
      (selected : selectedDb s.this.mpDB t.world.log = selectedDb s.this.mpDB s.world.log) : Connected true t := by
    rw [Connected,this,selected]
    exact connected
  have scalars (szSQL : CString) (nNullValue : Int) : Connected true (left (execScalar client szSQL nNullValue s)) := by
    obtain ⟨freed,this⟩ := execScalarLeft client szSQL nNullValue s
    exact kept (congrArg CppMySQLDB.mpDB this) ((freedSelected freed some).trans (fetchedSelected szSQL))
  have ended (c : Call) (aside : c = .commit ∨ c = .rollback) (db : CppMySQLDB) (same : db.mpDB = s.this.mpDB) :
      Connected true ⟨(asked client s c).world,db⟩ := by
    refine kept same ?_
    rcases aside with rfl | rfl <;> simp [asked,selectedDb]
  unfold mysqlStep
  cases e with
  | execDML szSQL changed =>
    simp only [mysqlPerform,leftBindPure,execDMLApply,if_pos connected]
    split
    · exact kept rfl (by simp [asked,selectedDb])
    · exact kept rfl (by simp [asked,selectedDb])
  | execScalar szSQL nNullValue selected =>
    simp only [mysqlPerform,leftBindPure]
    exact scalars szSQL nNullValue
  | tableExists szTable selected =>
    simp only [mysqlPerform,leftBindPure,tableExistsApply,if_pos connected]
    split
    · exact connected
    · rw [leftBindPure]
      exact scalars _ 0
  | execQuery szSQL requests selected =>
    obtain ⟨log,this⟩ := execQueryLeft client szSQL s
    simp only [mysqlPerform,bindApply]
    cases result : execQuery client szSQL s with
    | error e t =>
      rw [result] at log this
      refine kept (congrArg CppMySQLDB.mpDB this) ?_
      exact (congrArg (selectedDb _) log).trans (fetchedSelected szSQL)
    | ok q t =>
      rw [result] at log this
      dsimp only
      rw [leftLocal]
      refine kept (congrArg CppMySQLDB.mpDB this) ?_
      have asked := @askedSelected atof _ some ⟨t.world,q⟩ requests
      refine Eq.trans ?_ (asked.trans ((congrArg (selectedDb _) log).trans (fetchedSelected szSQL)))
      refine freedSelected ?_ some
      simp only [CppMySQLQuery.destroy,CppMySQLQuery.clearApply]
      unfold asking
      split
      · exact .inr ⟨_,rfl⟩
      · exact .inl rfl
  | startTransaction accepted =>
    simp only [mysqlPerform,leftBindPure,startTransactionApply,if_pos connected]
    split
    · exact kept rfl (by simp [asked,selectedDb])
    · exact kept rfl (by simp [asked,selectedDb])
  | commitTransaction accepted =>
    simp only [mysqlPerform,leftBindPure,commitTransactionApply,if_pos connected]
    exact ended .commit (.inl rfl) _ rfl
  | rollback accepted =>
    simp only [mysqlPerform,leftBindPure,rollbackApply,if_pos connected]
    exact ended .rollback (.inr rfl) _ rfl
  | isTransaction => exact connected

end Keeping

section Answering
variable {client} {atof} {s : Scope World CppMySQLDB} {inside : Bool}

theorem mysqlBlock {szSQL : CString} {requests : List PortableQueries.Request} {sel : Selection}
    (selects : MySQLSelects client szSQL s sel)
    (admitted : Guarded (after (PortableQueries.answer atof sel)) (Admits sel) (some 0) requests) :
    (mysqlStep client atof s (.execQuery szSQL requests (some sel))).1 =
      .query (transcript (PortableQueries.answer atof sel) (some 0) requests) := by
  obtain ⟨q,t,returns,shows⟩ := mysqlBegun selects
  have alike := transcriptsAgree (PortableQueries.mysqlAnswers atof sel) shows admitted
  simp only [mysqlStep,mysqlPerform,bindApply,returns,withLocal,asking,answered,alike]

/-- Until an event is not nested, the answers are those of the interface. -/
theorem mysqlAnswers (stands : MySQLStands s inside) {e : Event} (meets : MySQLMeets client s e)
    (ordinary : Ordinary atof e) (nested : Nested inside e) :
    (mysqlStep client atof s e).1 = (answer atof inside e).1 ∧
      MySQLStands (mysqlStep client atof s e).2 (answer atof inside e).2 := by
  have connected := stands.connected
  have counter := stands.counter
  have still {outside : Bool} (same : outside = inside)
      (this : (mysqlStep client atof s e).2.this.mInTransaction = s.this.mInTransaction) :
      MySQLStands (mysqlStep client atof s e).2 outside :=
    ⟨mysqlConnected e connected,by rw [this,same]; exact counter⟩
  cases e with
  | execDML szSQL changed =>
    cases changed with
    | none =>
      refine ⟨?_,still rfl ?_⟩
      · simp only [mysqlStep,mysqlPerform,bindApply,execDMLApply,if_pos connected,if_neg meets]
        rfl
      · simp only [mysqlStep,mysqlPerform,leftBindPure,execDMLApply,if_pos connected,if_neg meets]
        rfl
    | some n =>
      obtain ⟨accepted,rows⟩ := meets
      refine ⟨?_,still rfl ?_⟩
      · simp only [mysqlStep,mysqlPerform,bindApply,execDMLApply,if_pos connected,if_pos accepted,rows]
        rfl
      · simp only [mysqlStep,mysqlPerform,leftBindPure,execDMLApply,if_pos connected,if_pos accepted]
        rfl
  | execScalar szSQL nNullValue selected =>
    obtain ⟨stop,t,result⟩ := mysqlScalar connected nNullValue meets
    obtain ⟨_,this⟩ := execScalarLeft client szSQL nNullValue s
    refine ⟨?_,still rfl ?_⟩
    · simp only [mysqlStep,mysqlPerform,bindApply,result,answer]
      cases selected.bind (scalar · nNullValue) <;> rfl
    · simp only [mysqlStep,mysqlPerform,leftBindPure]
      exact congrArg CppMySQLDB.mInTransaction this
  | tableExists szTable selected =>
    obtain ⟨fits,outcome⟩ := meets
    obtain ⟨stop,t,result⟩ := mysqlScalar connected 0 outcome
    obtain ⟨_,this⟩ := execScalarLeft client (schemaQuery s.world.sDBName szTable) 0 s
    have composed : sprintfInto 256 (schemaQuery s.world.sDBName szTable) = some (schemaQuery s.world.sDBName szTable) :=
      if_pos fits
    refine ⟨?_,still rfl ?_⟩
    · simp only [mysqlStep,mysqlPerform,bindApply,tableExistsApply,if_pos connected,composed,result,answer]
      cases selected.bind (scalar · 0) <;> rfl
    · simp only [mysqlStep,mysqlPerform,leftBindPure,tableExistsApply,if_pos connected,composed]
      exact congrArg CppMySQLDB.mInTransaction this
  | execQuery szSQL requests selected =>
    refine ⟨?_,still rfl ?_⟩
    · cases selected with
      | none =>
        obtain ⟨stop,t,throws⟩ := mysqlRefused connected meets
        simp only [mysqlStep,mysqlPerform,bindApply,throws]
        rfl
      | some sel => exact mysqlBlock meets ordinary
    · obtain ⟨_,this⟩ := execQueryLeft client szSQL s
      simp only [mysqlStep,mysqlPerform,bindApply]
      cases result : execQuery client szSQL s with
      | error stop t =>
        rw [result] at this
        exact congrArg CppMySQLDB.mInTransaction this
      | ok q t =>
        rw [result] at this
        dsimp only
        rw [leftLocal]
        exact congrArg CppMySQLDB.mInTransaction this
  | startTransaction accepted =>
    have result := startTransactionApply client s
    simp only [if_pos connected] at result
    cases accepted with
    | false =>
      have refused := mt meets.mp Bool.false_ne_true
      rw [if_neg refused] at result
      refine ⟨?_,still rfl ?_⟩
      · simp only [mysqlStep,mysqlPerform,bindApply,result]
        rfl
      · simp only [mysqlStep,mysqlPerform,leftBindPure,result]
        rfl
    | true =>
      have outside : inside = false := nested rfl
      subst outside
      rw [if_pos (meets.mpr rfl)] at result
      refine ⟨?_,mysqlConnected _ connected,?_⟩
      · simp only [mysqlStep,mysqlPerform,bindApply,result]
        rfl
      · simp only [mysqlStep,mysqlPerform,leftBindPure,result,leftOk,counter]
        rfl
  | commitTransaction accepted =>
    obtain ⟨rfl,rfl⟩ := nested
    have result := commitTransactionApply client s
    rw [if_pos connected] at result
    refine ⟨?_,mysqlConnected _ connected,?_⟩
    · simp only [mysqlStep,mysqlPerform,bindApply,result]
      rfl
    · simp only [mysqlStep,mysqlPerform,leftBindPure,result,leftOk,counter]
      rfl
  | rollback accepted =>
    obtain ⟨rfl,rfl⟩ := nested
    have result := rollbackApply client s
    rw [if_pos connected] at result
    refine ⟨?_,mysqlConnected _ connected,?_⟩
    · simp only [mysqlStep,mysqlPerform,bindApply,result]
      rfl
    · simp only [mysqlStep,mysqlPerform,leftBindPure,result,leftOk,counter]
      rfl
  | isTransaction =>
    refine ⟨?_,still rfl rfl⟩
    simp only [mysqlStep,mysqlPerform,bindApply,getApply,pureApply,isTransaction,counter,answer,answered]
    cases inside <;> rfl

end Answering

end MySQL

section SQLite
open SQLiteClient CppSQLite3DB
variable (client : Client) (atof : CString → UInt64)

def sqlitePerform : Event → Op CppSQLite3DB Answer
  | .execDML szSQL _ => do return .int (← execDML client szSQL)
  | .execScalar szSQL nNullValue _ => do return .int (← execScalar client szSQL nNullValue)
  | .tableExists szTable _ => do return .bool (← tableExists client szTable)
  | .execQuery szSQL requests _ => do
    let q ← execQuery client szSQL
    withLocal q (asking (PortableQueries.sqliteStep client) requests) (CppSQLite3Query.destroy client)
  | .startTransaction _ => do
    startTransaction client
    return .unit
  | .commitTransaction _ => do
    commitTransaction client
    return .unit
  | .rollback _ => do
    rollback client
    return .unit
  | .isTransaction => do return .bool (← isTransaction client)

def sqliteStep (s : Scope World CppSQLite3DB) (e : Event) : Answer × Scope World CppSQLite3DB :=
  (answered (· = .undefined) (sqlitePerform client e s),left (sqlitePerform client e s))

/-- The text is no statement the library can prepare, or its execution fails before a row. -/
structure SQLiteRefuses (szSQL : CString) (s : Scope World CppSQLite3DB) : Prop where
  refused : ∃ pDB, s.this.mpDB = some pDB ∧ ((client.prepare s.world.log pDB szSQL).rc ≠ SQLITE_OK ∨
    ∃ names, (client.prepare s.world.log pDB szSQL).rc = SQLITE_OK ∧
      (client.prepare s.world.log pDB szSQL).columns = some names ∧
      (SQLiteLoops.execution client s pDB szSQL names).rows = [] ∧
      (SQLiteLoops.execution client s pDB szSQL names).ending ≠ SQLITE_DONE)

def SQLiteOutcome (szSQL : CString) (s : Scope World CppSQLite3DB) : Option Selection → Prop
  | none => SQLiteRefuses client szSQL s
  | some sel => SQLiteSelects atof client szSQL s sel

def executes (s : Scope World CppSQLite3DB) (szSQL : CString) : Prop :=
  ∃ pDB, s.this.mpDB = some pDB ∧ (client.exec s.world.log pDB szSQL).rc = SQLITE_OK

/-- The library answers the call with its outcome, but refuses to start a transaction inside of
one, and to end one outside of it; its autocommit mode is off inside. -/
def SQLiteMeets (s : Scope World CppSQLite3DB) (inside : Bool) : Event → Prop
  | .execDML szSQL none => ¬ executes client s szSQL
  | .execDML szSQL (some n) => ∃ pDB, s.this.mpDB = some pDB ∧ (client.exec s.world.log pDB szSQL).rc = SQLITE_OK ∧
    client.changes (⟨.exec pDB szSQL,SQLITE_OK⟩ :: s.world.log) pDB = n
  | .execScalar szSQL _ selected | .execQuery szSQL _ selected => SQLiteOutcome client atof szSQL s selected
  | .tableExists szTable selected => SQLiteOutcome client atof (tableQuery szTable) s selected
  | .startTransaction accepted => executes client s (text "begin transaction;") ↔ accepted = true ∧ inside = false
  | .commitTransaction accepted => executes client s (text "commit transaction;") ↔ accepted = true ∧ inside = true
  | .rollback accepted => executes client s (text "rollback;") ↔ accepted = true ∧ inside = true
  | .isTransaction => ∀ pDB, s.this.mpDB = some pDB → client.autocommit s.world.log pDB = !inside

section Selecting
variable {client} {atof} {sel : Selection} {szSQL : CString} {s : Scope World CppSQLite3DB}

def sqliteInvalid : CppSQLite3Exception := exception CPPQLITE3_DB_ERROR (some (text "Invalid scalar query"))

theorem sqliteScalarOf (nNullValue : Int) {u : Scope World CppSQLite3Query}
    (shows : PortableQueries.SQLiteShows atof sel u (some 0)) : scalarOf nNullValue u =
      (scalar sel nNullValue).elim (.error (.thrown sqliteInvalid) u) (.ok · u) := by
  obtain ⟨id,stands⟩ := shows
  have eof : CppSQLite3Query.eof u = .ok (decide (sel.rows = [])) u := by
    rw [CppSQLite3Query.eofApply stands.held,stands.ended]
    simp [eq_comm]
  have count : CppSQLite3Query.numFields u = .ok (sel.names.length : Int) u := by
    rw [CppSQLite3Query.numFieldsApply stands.held,stands.count]
  by_cases rows : sel.rows = []
  · rw [scalarNone nNullValue (.inl rows)]
    simp only [scalarOf,bindApply,eof,rows,decide_true,iteApply,if_true,raiseApply]
    rfl
  · by_cases names : sel.names = []
    · rw [scalarNone nNullValue (.inr names)]
      have narrow : (([] : List CString).length : Int) < 1 := by decide
      simp only [scalarOf,bindApply,eof,rows,decide_false,iteApply,Bool.false_eq_true,if_false,count,names,if_pos narrow,
        raiseApply]
      rfl
    · obtain ⟨cell,inside,found⟩ := scalarSome nNullValue rows names
      have wide : ¬ (sel.names.length : Int) < 1 := by
        have some := List.length_pos_iff.mpr names
        omega
      obtain ⟨high,value,there,renders⟩ := PortableQueries.sqliteCell stands (Int.le_refl 0) inside
      have read := PortableQueries.intExtracts nNullValue u id 0 value stands.held (Int.le_refl 0) high there
      rw [found]
      simp only [scalarOf,bindApply,eof,rows,decide_false,iteApply,Bool.false_eq_true,if_false,count,wide,read,
        Option.elim]
      cases cell with
      | none => rw [if_pos (renders.null.mpr rfl)]
      | some digits =>
        have present : ¬ value.type = SQLITE_NULL := fun null => Option.some_ne_none digits (renders.null.mp null)
        rw [if_neg present,renders.int digits rfl]

theorem sqliteBegun (selects : SQLiteSelects atof client szSQL s sel) :
    ∃ q t, execQuery client szSQL s = .ok q t ∧ PortableQueries.SQLiteShows atof sel ⟨t.world,q⟩ (some 0) := by
  obtain ⟨u,direct,shows⟩ := PortableQueries.sqliteSelected selects
  unfold SQLiteLoops.direct at direct
  cases result : execQuery client szSQL s with
  | ok q t =>
    rw [result] at direct
    cases direct
    exact ⟨q,t,rfl,shows⟩
  | error e t =>
    rw [result] at direct
    cases direct

theorem sqliteRefused (refuses : SQLiteRefuses client szSQL s) : ∃ e t, execQuery client szSQL s = .error (.thrown e) t := by
  obtain ⟨pDB,opened,unprepared | ⟨names,ok,columns,rows,fails⟩⟩ := refuses.refused
  · obtain ⟨e,throws⟩ := execQueryUnprepared client opened unprepared
    exact ⟨e,_,throws⟩
  · obtain ⟨code,_⟩ := SQLiteLoops.firstOutcome client szSQL s pDB names
    rw [rows] at code
    have stops := execQueryFails client opened ok columns
    dsimp only at code stops
    obtain ⟨e,throws⟩ := stops (by
      rw [code]
      exact not_or.mpr ⟨(SQLiteLoops.execution client s pDB szSQL names).ends.1,fails⟩)
    exact ⟨e,_,throws⟩

theorem sqliteScalar (nNullValue : Int) {selected : Option Selection} (outcome : SQLiteOutcome client atof szSQL s selected) :
    ∃ e t, execScalar client szSQL nNullValue s =
      (selected.bind (scalar · nNullValue)).elim (.error (.thrown e) t) (.ok · t) := by
  simp only [execScalar,bindApply]
  cases selected with
  | none =>
    obtain ⟨e,t,throws⟩ := sqliteRefused outcome
    rw [throws]
    exact ⟨e,t,rfl⟩
  | some sel =>
    obtain ⟨q,t,returns,shows⟩ := sqliteBegun outcome
    rw [returns,Option.bind_some]
    simp only [withLocal,sqliteScalarOf nNullValue shows]
    refine ⟨sqliteInvalid,⟨CppSQLite3Query.destroy client ⟨t.world,q⟩,t.this⟩,?_⟩
    cases scalar sel nNullValue <;> rfl

end Selecting

section Answering
variable {client} {atof} {s : Scope World CppSQLite3DB} {inside : Bool} {pDB : Nat}

variable (client) in
/-- A text that is executed returns, and any other throws. -/
theorem sqliteExecuted (opened : s.this.mpDB = some pDB) (szSQL : CString) :
    (executes client s szSQL → ∃ t, execDML client szSQL s =
      .ok (client.changes (⟨.exec pDB szSQL,SQLITE_OK⟩ :: s.world.log) pDB) t) ∧
    (¬ executes client s szSQL → ∃ e t, execDML client szSQL s = .error (.thrown e) t) := by
  have result := @SQLiteTenures.execDMLApply client _ szSQL _ opened
  dsimp only at result
  constructor
  · rintro ⟨conn,same,ok⟩
    cases opened.symm.trans same
    rw [if_pos ok,ok] at result
    exact ⟨_,result⟩
  · intro refuses
    have fails : ¬ (client.exec s.world.log pDB szSQL).rc = SQLITE_OK := fun ok => refuses ⟨pDB,opened,ok⟩
    rw [if_neg fails] at result
    exact ⟨_,_,result⟩

theorem sqliteBlock {szSQL : CString} {requests : List PortableQueries.Request} {sel : Selection}
    (selects : SQLiteSelects atof client szSQL s sel)
    (admitted : Guarded (after (PortableQueries.answer atof sel)) (Admits sel) (some 0) requests) :
    (sqliteStep client s (.execQuery szSQL requests (some sel))).1 =
      .query (transcript (PortableQueries.answer atof sel) (some 0) requests) := by
  obtain ⟨q,t,returns,shows⟩ := sqliteBegun selects
  have alike := transcriptsAgree (PortableQueries.sqliteAnswers client atof sel) shows admitted
  simp only [sqliteStep,sqlitePerform,bindApply,returns,withLocal,asking,answered,alike]

theorem sqliteAnswers (opened : s.this.mpDB = some pDB) {e : Event} (meets : SQLiteMeets client atof s inside e)
    (ordinary : Ordinary atof e) (nested : Nested inside e) : (sqliteStep client s e).1 = (answer atof inside e).1 := by
  cases e with
  | execDML szSQL changed =>
    obtain ⟨executed,refused⟩ := sqliteExecuted client opened szSQL
    cases changed with
    | none =>
      obtain ⟨stop,t,throws⟩ := refused meets
      simp only [sqliteStep,sqlitePerform,bindApply,throws]
      rfl
    | some n =>
      obtain ⟨conn,same,ok,rows⟩ := meets
      cases opened.symm.trans same
      obtain ⟨t,returns⟩ := executed ⟨pDB,opened,ok⟩
      simp only [sqliteStep,sqlitePerform,bindApply,returns,rows]
      rfl
  | execScalar szSQL nNullValue selected =>
    obtain ⟨stop,t,result⟩ := sqliteScalar nNullValue meets
    simp only [sqliteStep,sqlitePerform,bindApply,result,answer]
    cases selected.bind (scalar · nNullValue) <;> rfl
  | tableExists szTable selected =>
    obtain ⟨stop,t,result⟩ := sqliteScalar 0 meets
    simp only [sqliteStep,sqlitePerform,tableExists,bindApply,result,answer]
    cases selected.bind (scalar · 0) <;> rfl
  | execQuery szSQL requests selected =>
    cases selected with
    | none =>
      obtain ⟨stop,t,throws⟩ := sqliteRefused meets
      simp only [sqliteStep,sqlitePerform,bindApply,throws]
      rfl
    | some sel => exact sqliteBlock meets ordinary
  | startTransaction accepted =>
    obtain ⟨executed,refused⟩ := sqliteExecuted client opened (text "begin transaction;")
    cases accepted with
    | false =>
      obtain ⟨stop,t,throws⟩ := refused (mt meets.mp fun accepts => Bool.false_ne_true accepts.1)
      simp only [sqliteStep,sqlitePerform,startTransaction,bindApply,throws]
      rfl
    | true =>
      obtain ⟨t,returns⟩ := executed (meets.mpr ⟨rfl,nested rfl⟩)
      simp only [sqliteStep,sqlitePerform,startTransaction,bindApply,returns]
      rfl
  | commitTransaction accepted =>
    obtain ⟨t,returns⟩ := (sqliteExecuted client opened _).1 (meets.mpr nested)
    obtain ⟨rfl,rfl⟩ := nested
    simp only [sqliteStep,sqlitePerform,commitTransaction,bindApply,returns]
    rfl
  | rollback accepted =>
    obtain ⟨t,returns⟩ := (sqliteExecuted client opened _).1 (meets.mpr nested)
    obtain ⟨rfl,rfl⟩ := nested
    simp only [sqliteStep,sqlitePerform,rollback,bindApply,returns]
    rfl
  | isTransaction =>
    simp only [sqliteStep,sqlitePerform,isTransaction,bindApply,checkDBApply opened,sqlite3GetAutocommit,getApply,
      onWorldApply,pureApply,meets pDB opened,Bool.not_not]
    rfl

end Answering

end SQLite

/-- Both objects, and whether a transaction is open. -/
abbrev State := Scope MySQLClient.World CppMySQLDB × Scope SQLiteClient.World CppSQLite3DB × Bool

/-- The newest transaction command decides. -/
def transactionOpen : SQLiteClient.History → Bool
  | [] => false
  | e :: es => match e.call with
    | .exec _ szSQL => szSQL = text "begin transaction;" || szSQL ≠ text "commit transaction;" && transactionOpen es
    | _ => transactionOpen es

end DatabaseLayer.PortableDatabases
