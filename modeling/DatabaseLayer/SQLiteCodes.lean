import DatabaseLayer.Foundation.Run
import DatabaseLayer.SQLiteLoops
import DatabaseLayer.SQLiteMessages
import DatabaseLayer.SQLiteSystem

/-! Which codes the exceptions carry. A code is most often the answer of the call that cleans
up after a failure, and that call may well succeed. -/
namespace DatabaseLayer.SQLiteCodes
open Platform SQLiteClient Foundation.Program Foundation.Run SQLiteLoops SQLiteMessages SQLiteSystem

/-- An exception tells of an error. -/
def Coded : Stop → Prop
  | .thrown e => e.nErrCode ≠ SQLITE_OK
  | .undefined => True

theorem ownCodes : CPPQLITE3_DB_ERROR ≠ SQLITE_OK ∧ CPPQLITE3L_QUERY_ERROR ≠ SQLITE_OK ∧
    CPPQLITE3_STATEMENT_ERROR ≠ SQLITE_OK := by decide

section Primitives
variable {O : Type} {client : Client}

theorem raisesUndefined {α : Type} : Raises Coded (undefinedBehaviour : Op O α) := raisesThrow trivial

theorem raisesRaise {α : Type} {nErrCode : Int} (code : nErrCode ≠ SQLITE_OK) (szErrMess : Message)
    (isSqlite3Free : Bool) : Raises Coded (raise nErrCode szErrMess isSqlite3Free : Op O α) := by
  intro s
  rw [raiseApply]
  exact code

theorem raisesSwallow (m : Op O Unit) : Raises Coded (swallow m) := by
  intro s
  unfold swallow
  cases m s with
  | ok a t => exact trivial
  | error e t => cases e <;> exact trivial

/-- Calls of the library return, whatever they return. -/
theorem raisesCall {α : Type} {m : Op O α} (returns : ∀ s, ∃ a t, m s = .ok a t) : Raises Coded m := by
  intro s
  obtain ⟨a,t,same⟩ := returns s
  rw [same]
  trivial

theorem raisesColumn (id : Nat) (nCol : Int) : Raises Coded (sqlite3Column id nCol : Op O Value) := by
  intro s
  rw [columnApply]
  cases (s.world.stmts id).value nCol <;> exact trivial

theorem advanceFails {h : History} {id : Nat} {stmt : Sqlite3Stmt} (failed : ¬ Fine (advance client h id stmt).1) :
    (advance client h id stmt).2.failure ≠ SQLITE_OK := by
  have ended : ∀ e : Execution stmt.columns.length, ¬ Fine e.ending → (Progress.ended e).failure ≠ SQLITE_OK := by
    intro e other
    have done : e.ending ≠ SQLITE_DONE := fun same => other (.inr same)
    exact (if_neg done).trans_ne e.ends.2
  revert failed
  unfold advance
  split
  · split
    · exact fun failed => absurd (.inl rfl) failed
    · exact ended _
  · dsimp only
    split
    · exact fun failed => absurd (.inl rfl) failed
    · exact ended _

end Primitives

section Queries
open CppSQLite3Query
variable (client : Client)

theorem raisesCheck : Raises Coded checkStmt :=
  raisesBind raisesGet fun _ => raisesIte (fun _ => raisesRaise ownCodes.2.1 _ _) fun _ => raisesPure _

theorem raisesHandle : Raises Coded handle := by
  refine raisesBind raisesGet fun s => ?_
  cases s.this.mpStmt with
  | none => exact raisesUndefined
  | some pStmt => exact raisesPure _

theorem raisesChecked {α : Type} (nCol : Int) {m : Op CppSQLite3Query α} (read : Raises Coded m) :
    Raises Coded (do
      checkStmt
      if nCol < 0 ∨ nCol > (← get).this.mnFieldsCount - 1 then
        raise CPPQLITE3L_QUERY_ERROR (.literal (text "Invalid field index requested")) false
      else
        m) :=
  raisesBind raisesCheck fun _ => raisesBind raisesGet fun _ =>
    raisesIte (fun _ => raisesRaise ownCodes.2.1 _ _) fun _ => read

theorem raisesRead {α : Type} (nCol : Int) (f : Value → α) : Raises Coded (do
    return f (← sqlite3Column (← handle) nCol)) :=
  raisesBind raisesHandle fun _ => raisesBind (raisesColumn _ _) fun _ => raisesPure _

theorem raisesFieldIndexFrom (pStmt : Nat) (szField : CString) (n : Nat) (nField : Int) :
    Raises Coded (fieldIndexFrom pStmt szField nField n) := by
  induction n generalizing nField with
  | zero => exact raisesPure _
  | succ n ih =>
    refine raisesBind (raisesCall fun _ => ⟨_,_,rfl⟩) fun szTemp => ?_
    cases szTemp with
    | none => exact raisesUndefined
    | some szTemp => exact raisesIte (fun _ => raisesPure _) fun _ => ih _

theorem raisesFieldIndex (szField : Option CString) : Raises Coded (fieldIndex szField) := by
  refine raisesBind raisesCheck fun _ => ?_
  cases szField
  case' none => refine raisesBind (raisesPure none) fun found => ?_
  case' some name =>
    refine raisesBind raisesHandle fun _ => raisesBind raisesGet fun _ => ?_
    refine raisesBind (raisesFieldIndexFrom _ _ _ _) fun found => ?_
  all_goals
    cases found with
    | none => exact raisesRaise ownCodes.2.1 _ _
    | some nField => exact raisesPure _

theorem raisesFind (field : FieldRef) : Raises Coded field.find := by
  cases field with
  | index nField => exact raisesPure _
  | name szField => exact raisesFieldIndex szField

theorem raisesDataIsNull (nField : Int) : Raises Coded (fieldDataIsNull nField) :=
  raisesBind (raisesChecked nField (raisesRead nField Value.type)) fun _ => raisesPure _

theorem raisesFieldValue (nField : Int) : Raises Coded (fieldValue nField) :=
  raisesBind raisesCheck fun _ => raisesRead nField Value.text

theorem raisesNumFields : Raises Coded numFields :=
  raisesBind raisesCheck fun _ => raisesBind raisesGet fun _ => raisesPure _

theorem raisesEof : Raises Coded eof :=
  raisesBind raisesCheck fun _ => raisesBind raisesGet fun _ => raisesPure _

theorem raisesIntField (nField nNullValue : Int) : Raises Coded (getIntField nField nNullValue) :=
  raisesBind (raisesDataIsNull nField) fun _ => raisesIte (fun _ => raisesRead nField Value.int) fun _ => raisesPure _

theorem raisesMessage {α : Type} {nRet : Int} (code : nRet ≠ SQLITE_OK) :
    Raises Coded (CppSQLite3Query.throwErrmsg client nRet : Op CppSQLite3Query α) := by
  refine raisesBind raisesGet fun s => ?_
  cases s.this.mpDB with
  | none => exact raisesBind (raisesCall fun _ => ⟨_,_,rfl⟩) fun _ => raisesUndefined
  | some conn => exact raisesBind (raisesCall fun _ => ⟨_,_,rfl⟩) fun message => raisesRaise code _ _

theorem raisesClear : Raises Coded (CppSQLite3Query.clear client) := by
  refine raisesBind raisesGet fun s => ?_
  cases s.this.mpStmt with
  | none => exact raisesPure _
  | some pStmt =>
    exact raisesBind (raisesCall fun _ => ⟨_,_,rfl⟩) fun nRet => raisesBind (fun _ => trivial) fun _ =>
      raisesIte (fun failed => raisesMessage client failed) fun _ => raisesPure _

/-- A step that fails leaves its error with the statement, and finalizing that answers it. -/
theorem raisesNextRow : Raises Coded (nextRow client) := by
  intro s
  cases held : s.this.mpStmt with
  | none =>
    rw [nextRowNone client held]
    exact ownCodes.2.1
  | some pStmt =>
    by_cases fine : Fine (advance client s.world.log pStmt (s.world.stmts pStmt)).1
    · rw [nextRowApply client held fine]
      trivial
    · rw [nextRowFails client held fine]
      refine raisesMessage client ?_ _
      rw [World.stepped,setStmtSelf]
      exact advanceFails fine

theorem raisesRequest (request : CppSQLite3Query.Request) : Raises Coded (CppSQLite3Query.perform client request) := by
  cases request with
  | numFields => exact raisesBind raisesNumFields fun _ => raisesPure _
  | fieldIndex szField => exact raisesBind (raisesFieldIndex szField) fun _ => raisesPure _
  | fieldName nCol =>
    refine raisesBind (raisesChecked nCol ?_) fun _ => raisesPure _
    exact raisesBind raisesHandle fun _ => raisesCall fun _ => ⟨_,_,rfl⟩
  | fieldDataType nCol => exact raisesBind (raisesChecked nCol (raisesRead nCol Value.type)) fun _ => raisesPure _
  | fieldDataIsNull nField => exact raisesBind (raisesDataIsNull nField) fun _ => raisesPure _
  | fieldValue field =>
    exact raisesBind (raisesFind field) fun nField => raisesBind (raisesFieldValue nField) fun _ => raisesPure _
  | getStringField field szNullValue =>
    refine raisesBind (raisesFind field) fun nField => raisesBind ?_ fun _ => raisesPure _
    exact raisesBind (raisesDataIsNull nField) fun _ =>
      raisesIte (fun _ => raisesFieldValue nField) fun _ => raisesPure _
  | getIntField field nNullValue =>
    exact raisesBind (raisesFind field) fun nField => raisesBind (raisesIntField nField nNullValue)
      fun _ => raisesPure _
  | getDoubleField field fNullValue =>
    refine raisesBind (raisesFind field) fun nField => raisesBind ?_ fun _ => raisesPure _
    exact raisesBind (raisesDataIsNull nField) fun _ =>
      raisesIte (fun _ => raisesRead nField Value.double) fun _ => raisesPure _
  | getBlobField field =>
    refine raisesBind (raisesFind field) fun nField => raisesBind ?_ fun _ => raisesPure _
    exact raisesChecked nField (raisesRead nField Value.blob)
  | eof => exact raisesBind raisesEof fun _ => raisesPure _
  | nextRow => exact raisesNextRow client
  | clear => exact raisesClear client

theorem raisesAssign (rQuery : CppSQLite3Query) : Raises Coded (CppSQLite3Query.assign client rQuery) :=
  raisesBind (raisesSwallow _) fun _ => raisesBind (fun _ => trivial) fun _ => raisesPure _

end Queries

section Statements
open CppSQLite3Statement
variable (client : Client)

theorem raisesReport {α : Type} {nRet : Int} (code : nRet ≠ SQLITE_OK) :
    Raises Coded (CppSQLite3Statement.throwErrmsg client nRet : Op CppSQLite3Statement α) :=
  raisesBind raisesGet fun _ => raisesBind (raisesCall fun _ => ⟨_,_,rfl⟩) fun _ => raisesRaise code _ _

theorem raisesCheckDB : Raises Coded CppSQLite3Statement.checkDB := by
  refine raisesBind raisesGet fun s => ?_
  cases s.this.mpDB with
  | none => exact raisesRaise ownCodes.2.2 _ _
  | some pDB => exact raisesPure _

theorem raisesCheckStmt : Raises Coded CppSQLite3Statement.checkStmt := by
  refine raisesBind raisesGet fun s => ?_
  cases s.this.mpStmt with
  | none => exact raisesRaise ownCodes.2.2 _ _
  | some pStmt => exact raisesPure _

theorem raisesBindAs (kind : String) (nParam : Int) (value : Parameter) :
    Raises Coded (bindAs client kind nParam value) :=
  raisesBind raisesCheckStmt fun _ => raisesBind (raisesCall fun _ => ⟨_,_,rfl⟩) fun _ =>
    raisesIte (fun failed => raisesRaise failed _ _) fun _ => raisesPure _

theorem raisesReset : Raises Coded (reset client) := by
  refine raisesBind raisesGet fun s => ?_
  cases s.this.mpStmt with
  | none => exact raisesPure _
  | some pStmt =>
    exact raisesBind (raisesCall fun _ => ⟨_,_,rfl⟩) fun nRet =>
      raisesIte (fun failed => raisesReport client failed) fun _ => raisesPure _

theorem raisesClearStatement : Raises Coded (CppSQLite3Statement.clear client) := by
  refine raisesBind raisesGet fun s => ?_
  cases s.this.mpStmt with
  | none => exact raisesPure _
  | some pStmt =>
    refine raisesBind (raisesCall fun _ => ⟨_,_,rfl⟩) fun nRet => raisesBind (fun _ => trivial) fun _ => ?_
    refine raisesIte (fun failed => raisesBind raisesGet fun t => ?_) fun _ => raisesPure _
    exact raisesIte (fun _ => raisesReport client failed) fun _ => raisesRaise failed _ _

theorem raisesExecQuery : Raises Coded (CppSQLite3Statement.execQuery client) := by
  refine raisesBind raisesCheckDB fun pDB => raisesBind raisesCheckStmt fun pStmt => ?_
  refine raisesBind (raisesCall fun _ => ⟨_,_,rfl⟩) fun nRet => ?_
  have handed : Raises Coded (do
      let q ← CppSQLite3Query.ofStmt pDB pStmt false
      onThis (fun s => {s with mpStmt := none})
      return q.copy.1 : Op CppSQLite3Statement CppSQLite3Query) :=
    raisesCall fun _ => ⟨_,_,rfl⟩
  refine raisesIte (fun _ => handed) fun _ => raisesIte (fun _ => handed) fun _ => ?_
  exact raisesBind (raisesCall fun _ => ⟨_,_,rfl⟩) fun _ => raisesRaise ownCodes.2.2 _ _

/-- The statement of an object would yield a row at its next step. -/
def Yields (w : World) (this : CppSQLite3Statement) : Prop :=
  ∃ pDB pStmt, this.mpDB = some pDB ∧ this.mpStmt = some pStmt ∧ stepCode client w pStmt = SQLITE_ROW

theorem execDMLCoded (s : Scope World CppSQLite3Statement) :
    Raised Coded (CppSQLite3Statement.execDML client s) ↔ ¬ Yields client s.world s.this := by
  cases opened : s.this.mpDB with
  | none =>
    simp only [CppSQLite3Statement.execDML,bindApply,CppSQLite3Statement.checkDBClosed opened]
    refine iff_of_true ownCodes.2.2 ?_
    rintro ⟨pDB,pStmt,some,_⟩
    rw [opened] at some
    cases some
  | some pDB =>
    cases held : s.this.mpStmt with
    | none =>
      simp only [CppSQLite3Statement.execDML,bindApply,CppSQLite3Statement.checkDBApply opened,
        CppSQLite3Statement.checkStmtNone held]
      refine iff_of_true ownCodes.2.2 ?_
      rintro ⟨other,pStmt,_,some,_⟩
      rw [held] at some
      cases some
    | some pStmt =>
      have unique : Yields client s.world s.this ↔ stepCode client s.world pStmt = SQLITE_ROW := by
        simp [Yields,opened,held]
      rw [unique,CppSQLite3Statement.execDMLApply client opened held]
      dsimp only
      have code : ((s.world.stepped client pStmt).stmts pStmt).progress.failure =
          (advance client s.world.log pStmt (s.world.stmts pStmt)).2.failure := by
        rw [World.stepped,setStmtSelf]
      by_cases done : (advance client s.world.log pStmt (s.world.stmts pStmt)).1 = SQLITE_DONE
      · rw [if_pos done]
        have more : ¬ SQLITE_DONE = SQLITE_ROW := by decide
        exact iff_of_true trivial (by rwa [stepCode,done])
      · rw [if_neg done,CppSQLite3Statement.throwErrmsgApply,code]
        by_cases row : stepCode client s.world pStmt = SQLITE_ROW
        · have ok := advanceFine client (.inl row)
          exact iff_of_false (not_not.mpr ok) (not_not.mpr row)
        · exact iff_of_true (advanceFails (not_or.mpr ⟨row,done⟩)) row

end Statements

section Databases
open CppSQLite3DB
variable (client : Client)

theorem raisesOpened : Raises Coded CppSQLite3DB.checkDB := by
  refine raisesBind raisesGet fun s => ?_
  cases s.this.mpDB with
  | none => exact raisesRaise ownCodes.1 _ _
  | some pDB => exact raisesPure _

theorem raisesOpenDB (szFile : CString) : Raises Coded (openDB client szFile) := by
  intro s
  rw [openDBApply]
  dsimp only
  by_cases failed : (client.openConn s.world.log szFile).rc ≠ SQLITE_OK
  · rw [if_pos failed]
    exact failed
  · rw [if_neg failed]
    trivial

theorem raisesClose : Raises Coded (close client) := by
  refine raisesBind raisesGet fun s => ?_
  cases s.this.mpDB with
  | none => exact raisesPure _
  | some pDB =>
    exact raisesBind (raisesCall fun _ => ⟨_,_,rfl⟩) fun rc =>
      raisesIte (fun _ _ => trivial) fun _ => raisesRaise ownCodes.1 _ _

theorem raisesExecDML (szSQL : CString) : Raises Coded (CppSQLite3DB.execDML client szSQL) :=
  raisesBind raisesOpened fun _ => raisesBind (raisesCall fun _ => ⟨_,_,rfl⟩) fun _ =>
    raisesIte (fun _ => raisesCall fun _ => ⟨_,_,rfl⟩) fun failed => raisesRaise failed _ _

theorem raisesCompile (szSQL : CString) : Raises Coded (compile client szSQL) := by
  refine raisesBind raisesOpened fun pDB => raisesBind ?_ fun prepared => ?_
  · exact raisesCall fun s => ⟨_,_,prepareApply client pDB szSQL s⟩
  · refine raisesIte (fun failed => ?_) fun _ => raisesPure _
    exact raisesBind (raisesCall fun _ => ⟨_,_,rfl⟩) fun _ => raisesRaise failed _ _

theorem raisesGetResultSet (szSQL : CString) : Raises Coded (getResultSet client szSQL) := by
  refine raisesBind raisesOpened fun pDB => raisesBind ?_ fun reply => ?_
  · exact raisesCall fun s => ⟨_,_,getTableApply client pDB szSQL s⟩
  · exact raisesIte (fun _ => raisesPure _) fun failed => raisesRaise failed _ _

theorem raisesScalarOf (nNullValue : Int) : Raises Coded (scalarOf nNullValue) := by
  refine raisesBind raisesEof fun _ => raisesIte (fun _ => raisesRaise ownCodes.1 _ _) fun _ => ?_
  exact raisesBind raisesNumFields fun _ => raisesIte (fun _ => raisesRaise ownCodes.1 _ _) fun _ =>
    raisesIntField 0 nNullValue

/-- A text is prepared, and there is no statement in it. -/
def Wordless (w : World) (this : CppSQLite3DB) (szSQL : CString) : Prop :=
  ∃ pDB, this.mpDB = some pDB ∧ (client.prepare w.log pDB szSQL).rc = SQLITE_OK ∧
    (client.prepare w.log pDB szSQL).columns = none

theorem execQueryCoded (szSQL : CString) (s : Scope World CppSQLite3DB) :
    Raised Coded (CppSQLite3DB.execQuery client szSQL s) ↔ ¬ Wordless client s.world s.this szSQL := by
  cases opened : s.this.mpDB with
  | none =>
    rw [execQueryClosed client opened]
    refine iff_of_true ownCodes.1 ?_
    rintro ⟨pDB,some,_⟩
    rw [opened] at some
    cases some
  | some pDB =>
    have unique : Wordless client s.world s.this szSQL ↔ (client.prepare s.world.log pDB szSQL).rc = SQLITE_OK ∧
        (client.prepare s.world.log pDB szSQL).columns = none := by
      simp [Wordless,opened]
    rw [unique]
    by_cases ok : (client.prepare s.world.log pDB szSQL).rc = SQLITE_OK
    · cases columns : (client.prepare s.world.log pDB szSQL).columns with
      | none =>
        obtain ⟨message,throws⟩ := execQueryEmptyCode client opened ok columns
        rw [throws]
        exact iff_of_false (not_not.mpr rfl) (not_not.mpr ⟨ok,rfl⟩)
      | some names =>
        refine iff_of_true ?_ fun both => nomatch both.2
        by_cases fine : Fine (stepCode client (compiled s.world pDB szSQL names) s.world.nStmts)
        · rw [CppSQLite3DB.execQueryApply client opened ok columns fine]
          trivial
        · obtain ⟨message,throws⟩ := execQueryFailsCode client opened ok columns fine
          rw [throws,World.stepped,setStmtSelf]
          exact advanceFails fine
    · obtain ⟨message,throws⟩ := execQueryUnpreparedCode client opened ok
      rw [throws]
      exact iff_of_true ok fun both => ok both.1

theorem execScalarCoded (szSQL : CString) (nNullValue : Int) (s : Scope World CppSQLite3DB) :
    Raised Coded (execScalar client szSQL nNullValue s) ↔ ¬ Wordless client s.world s.this szSQL := by
  rw [execScalar,raisedBind fun q => raisedLocal (raisesScalarOf nNullValue)]
  exact execQueryCoded client szSQL s

def RunsWordless (w : World) (this : CppSQLite3DB) : CppSQLite3DB.Operation → Prop
  | .execQuery szSQL => Wordless client w this szSQL
  | .execScalar szSQL _ => Wordless client w this szSQL
  | .tableExists szTable => Wordless client w this (tableQuery szTable)
  | _ => False

theorem operationCoded (op : CppSQLite3DB.Operation) (s : Scope World CppSQLite3DB) :
    Raised Coded (CppSQLite3DB.perform client op s) ↔ ¬ RunsWordless client s.world s.this op := by
  cases op with
  | execQuery szSQL =>
    rw [CppSQLite3DB.perform,raisedBind fun _ => raisesPure _]
    exact execQueryCoded client szSQL s
  | execScalar szSQL nNullValue =>
    rw [CppSQLite3DB.perform,raisedBind fun _ => raisesPure _]
    exact execScalarCoded client szSQL nNullValue s
  | tableExists szTable =>
    rw [CppSQLite3DB.perform,raisedBind fun _ => raisesPure _,tableExists,raisedBind fun _ => raisesPure _]
    exact execScalarCoded client (tableQuery szTable) 0 s
  | openDB szFile => exact iff_of_true (raisesBind (raisesOpenDB client szFile) (fun _ => raisesPure _) s) not_false
  | close => exact iff_of_true (raisesBind (raisesClose client) (fun _ => raisesPure _) s) not_false
  | execDML szSQL => exact iff_of_true (raisesBind (raisesExecDML client szSQL) (fun _ => raisesPure _) s) not_false
  | getResultSet szSQL =>
    exact iff_of_true (raisesBind (raisesGetResultSet client szSQL) (fun _ => raisesPure _) s) not_false
  | compileStatement szSQL =>
    refine iff_of_true (raisesBind (raisesBind raisesOpened fun _ => ?_) (fun _ => raisesPure _) s) not_false
    exact raisesBind (raisesCompile client szSQL) fun _ => raisesPure _
  | startTransaction | commitTransaction | rollback =>
    refine iff_of_true (raisesBind ?_ (fun _ => raisesPure _) s) not_false
    exact raisesBind (raisesExecDML client _) fun _ => raisesPure _
  | isTransaction =>
    refine iff_of_true (raisesBind (raisesBind raisesOpened fun _ => ?_) (fun _ => raisesPure _) s) not_false
    exact raisesCall fun _ => ⟨_,_,rfl⟩
  | setBusyTimeout nMillisecs => exact iff_of_true (raisesBind (raisesCall fun _ => ⟨_,_,rfl⟩) (fun _ => raisesPure _) s) not_false

end Databases

section Systems
variable (client : Client)

/-- Whatever the command throws carries the code of an error. -/
def CarriesCode (s : System) : Command → Prop
  | .operate k i op =>
    (names op → s.Vacant i) → Raised Coded (CppSQLite3DB.perform client op ⟨s.world,s.databases k⟩)
  | .query i request => ∀ q ∈ s.queries i, Raised Coded (CppSQLite3Query.perform client request ⟨s.world,q⟩)
  | .assignQuery i j => ∀ q ∈ s.queries i, ∀ r ∈ s.queries j,
      Raised Coded (CppSQLite3Query.assign client r ⟨s.world,q⟩)
  | .statement i request => ∀ o ∈ s.statements i,
      Raised Coded (CppSQLite3Statement.perform client request ⟨s.world,o⟩)
  | .execQuery _ k => ∀ o ∈ s.statements k, Raised Coded (CppSQLite3Statement.execQuery client ⟨s.world,o⟩)
  | _ => True

/-- The commands after which what is thrown is the answer of a clean-up that succeeded. -/
def Succeeds (s : System) : Command → Prop
  | .operate k i op => (names op → s.Vacant i) ∧ RunsWordless client s.world (s.databases k) op
  | .statement i .execDML => ∃ o ∈ s.statements i, Yields client s.world o
  | _ => False

theorem carriesCodeIff (s : System) (cmd : Command) : CarriesCode client s cmd ↔ ¬ Succeeds client s cmd := by
  cases cmd with
  | operate k i op =>
    have coded := operationCoded client op ⟨s.world,s.databases k⟩
    exact (imp_congr_right fun _ => coded).trans not_and.symm
  | query i request => exact iff_of_true (fun q _ => raisesRequest client request _) not_false
  | assignQuery i j => exact iff_of_true (fun q _ r _ => raisesAssign client r _) not_false
  | execQuery i k => exact iff_of_true (fun o _ => raisesExecQuery client _) not_false
  | statement i request =>
    cases request with
    | execDML =>
      have coded (o : CppSQLite3Statement) : Raised Coded (CppSQLite3Statement.perform client .execDML ⟨s.world,o⟩) ↔
          ¬ Yields client s.world o := by
        rw [CppSQLite3Statement.perform,raisedBind fun _ => raisesPure _]
        exact execDMLCoded client ⟨s.world,o⟩
      exact (forall₂_congr fun o _ => coded o).trans (by simp [Succeeds])
    | bindString nParam szValue | bindInt nParam nValue | bindDouble nParam dValue | bindBlob nParam blobValue
    | bindNull nParam => exact iff_of_true (fun o _ => raisesBindAs client _ _ _ _) not_false
    | reset => exact iff_of_true (fun o _ => raisesReset client _) not_false
    | clear => exact iff_of_true (fun o _ => raisesClearStatement client _) not_false
  | _ => exact iff_of_true trivial not_false

/-- In a run all that is thrown carries the code of an error if and only if no text without a
statement is run, and no statement is executed by execDML to yield a row. -/
theorem codesCarriedIff (s : System) (cmds : List Command) :
    Guarded (step client) (CarriesCode client) s cmds ↔
      Guarded (step client) (fun s cmd => ¬ Succeeds client s cmd) s cmds :=
  guardedIff (carriesCodeIff client) s cmds

end Systems

theorem oneNarrow : ∀ row ∈ [[one]], row.length = 1 := by decide

/-- A library that finds no statement in the empty text, and one with a row in any other. -/
def literate : Client :=
  {answering [[one]] oneNarrow with
    prepare := fun _ _ sql => if sql.bytes = [] then ⟨SQLITE_OK,none,nofun⟩ else ⟨SQLITE_OK,some [text "n"],oneName⟩}

def openFirst : Command := .operate 0 0 (.openDB (text "test.db"))

theorem successThrown :
    ¬ Guarded (step literate) (CarriesCode literate) .initial [openFirst,.operate 0 1 (.execQuery (text ""))] ∧
    ¬ Guarded (step literate) (CarriesCode literate) .initial
      [openFirst,.operate 0 1 (.compileStatement (text "select n")),.statement 1 .execDML] := by
  refine ⟨fun all => ?_,fun all => ?_⟩
  · have thrown := all [openFirst] _ (List.prefix_refl _)
    exact thrown (fun _ => by decide) rfl
  · have thrown := all [openFirst,.operate 0 1 (.compileStatement (text "select n"))] _ (List.prefix_refl _)
    exact thrown _ rfl rfl

end DatabaseLayer.SQLiteCodes
