import DatabaseLayer.SQLiteRules

/-! Which error messages the exceptions free. The library hands a message over with a failed
exec or get_table; the texts of sqlite3_errmsg stay with the library. -/
namespace DatabaseLayer.SQLiteMessages
open Platform SQLiteClient Foundation.Program SQLiteRules

section Lists
variable (client : Client)

/-- The messages allocated for the caller, newest first. -/
def allocated : History → List Message
  | [] => []
  | e :: h =>
    let error := match e.call with
      | .exec conn sql => (client.exec h conn sql).error
      | .getTable conn sql => (client.getTable h conn sql).error
      | _ => none
    (error.map Message.allocated).toList ++ allocated h

/-- The messages passed to sqlite3_free, newest first. -/
def freed : History → List Message
  | [] => []
  | e :: h => (match e.call with | .free message => [message] | _ => []) ++ freed h

/-- From one world to the next, what was allocated was freed, once, and nothing else was. -/
def FreedExactly (w v : World) : Prop :=
  ∃ messages, allocated client v.log = messages ++ allocated client w.log ∧ freed v.log = messages ++ freed w.log

end Lists

/-- The calls that neither hand out a message nor free one. -/
def silent : Call → Bool
  | .exec _ _ | .getTable _ _ | .free _ => false
  | _ => true

section Counting
variable {client : Client} {w u v : World}

theorem chainFreed : Chain (FreedExactly client) := by
  refine ⟨fun w => ⟨[],rfl,rfl⟩,?_⟩
  rintro w u v ⟨first,given,gone⟩ ⟨rest,later,after⟩
  exact ⟨rest ++ first,by rw [later,given,List.append_assoc],by rw [after,gone,List.append_assoc]⟩

theorem sameMessages (same : allocated client v.log = allocated client w.log) (sameFreed : freed v.log = freed w.log) :
    FreedExactly client w v := ⟨[],same,sameFreed⟩

theorem silentLog {c : Call} (quiet : silent c) (rc : Int) (h : History) :
    allocated client (⟨c,rc⟩ :: h) = allocated client h ∧ freed (⟨c,rc⟩ :: h) = freed h := by
  cases c <;> first | exact ⟨rfl,rfl⟩ | cases quiet

theorem calledSilent {c : Call} (quiet : silent c) (called : Called c w v) : FreedExactly client w v := by
  obtain ⟨rc,log⟩ := called.log
  obtain ⟨given,gone⟩ := silentLog quiet rc w.log
  exact sameMessages (by rw [log,given]) (by rw [log,gone])

theorem freedInVain (before : FreedExactly client w u) (given : allocated client v.log = allocated client u.log)
    {message : Message} (gone : freed v.log = message :: freed u.log) : ¬ FreedExactly client w v := by
  rintro ⟨rest,later,after⟩
  obtain ⟨first,earlier,so⟩ := before
  have same : rest = first := List.append_cancel_right (later.symm.trans (given.trans earlier))
  rw [gone,so,same] at after
  exact absurd (congrArg List.length after) (by simp)

theorem codeNamed {rc : Int} (code : ResultCode rc) : className rc = none := by
  obtain ⟨_,low⟩ := code
  have other : rc ≠ CPPQLITE3_DB_ERROR ∧ rc ≠ CPPQLITE3L_QUERY_ERROR ∧ rc ≠ CPPQLITE3_RESULTSET_ERROR ∧
      rc ≠ CPPQLITE3_STATEMENT_ERROR := by
    refine ⟨?_,?_,?_,?_⟩ <;> (rintro rfl; exact absurd low (by decide))
  obtain ⟨db,query,resultSet,statement⟩ := other
  simp only [className,if_neg db,if_neg query,if_neg resultSet,if_neg statement]

theorem raisedFrees {rc : Int} (code : ResultCode rc) (text : CString) :
    u.raised rc (.errmsg text) true = u.push ⟨.free (.errmsg text),SQLITE_OK⟩ := by
  have told : frees rc (.errmsg text) true = true := by
    rw [frees,codeNamed code]
    rfl
  rw [World.raised,if_pos told]

theorem borrowedFreed (before : FreedExactly client w u) {rc : Int} (code : ResultCode rc) (conn : Option Nat)
    (text : CString) :
    ¬ FreedExactly client w ((u.push ⟨.errmsg conn,SQLITE_OK⟩).raised rc (.errmsg text) true) := by
  rw [raisedFrees code]
  exact freedInVain before rfl rfl

theorem ownedFreed {c : Call} {rc : Int} (code : ResultCode rc) {error : Option CString}
    (given : allocated client (⟨c,rc⟩ :: w.log) = (error.map Message.allocated).toList ++ allocated client w.log)
    (gone : freed (⟨c,rc⟩ :: w.log) = freed w.log) :
    FreedExactly client w ((w.push ⟨c,rc⟩).raised rc (.ofError error) true) := by
  cases error with
  | none =>
    have nothing : frees rc .null true = false := by simp [frees,Message.text]
    simp only [Message.ofError,World.raised,nothing,Bool.false_eq_true,if_false]
    exact sameMessages given gone
  | some text =>
    have told : frees rc (.allocated text) true = true := by
      rw [frees,codeNamed code]
      rfl
    simp only [Message.ofError,World.raised,told,if_true]
    refine ⟨[.allocated text],given,?_⟩
    change Message.allocated text :: freed (⟨c,rc⟩ :: w.log) = _
    rw [gone]
    rfl

theorem okCode : ResultCode SQLITE_OK := by decide

theorem failureCode {width : Nat} (progress : Progress width) : ResultCode progress.failure := by
  cases progress with
  | initial => exact okCode
  | onRow e i => exact okCode
  | ended e =>
    unfold Progress.failure
    dsimp only
    split
    · exact okCode
    · exact e.code

end Counting

/-- The operations of a database, of a query and of a statement on the object at hand. -/
inductive Operation where
  | db (this : CppSQLite3DB) (op : CppSQLite3DB.Operation)
  | query (this : CppSQLite3Query) (request : CppSQLite3Query.Request)
  | assignQuery (this rQuery : CppSQLite3Query)
  | destroyQuery (this : CppSQLite3Query)
  | statement (this : CppSQLite3Statement) (request : CppSQLite3Statement.Request)
  | execQuery (this : CppSQLite3Statement)
  | destroyStatement (this : CppSQLite3Statement)
  deriving DecidableEq, Repr

section Freeing
variable (client : Client)

/-- The operation came to an end, and freed exactly the messages it was given. A message asked
for through a pointer that was never set is none. -/
def Ended {O α : Type} (w : World) : EStateM.Result Stop (Scope World O) α → Prop
  | .error .undefined _ => False
  | r => FreedExactly client w (left r).world

/-- The exceptions of the operation free a message exactly if it was allocated for the caller. -/
def FreesOwned (w : World) : Operation → Prop
  | .db this op => FreedExactly client w (left (CppSQLite3DB.perform client op ⟨w,this⟩)).world
  | .query this .nextRow => Ended client w (CppSQLite3Query.nextRow client ⟨w,this⟩)
  | .query this .clear => Ended client w (CppSQLite3Query.clear client ⟨w,this⟩)
  | .query this request => FreedExactly client w (left (CppSQLite3Query.perform client request ⟨w,this⟩)).world
  | .assignQuery this rQuery => Ended client w (CppSQLite3Query.assign client rQuery ⟨w,this⟩)
  | .destroyQuery this => Ended client w (swallow (CppSQLite3Query.clear client) ⟨w,this⟩)
  | .statement this request =>
    FreedExactly client w (left (CppSQLite3Statement.perform client request ⟨w,this⟩)).world
  | .execQuery this => FreedExactly client w (left (CppSQLite3Statement.execQuery client ⟨w,this⟩)).world
  | .destroyStatement this => FreedExactly client w (CppSQLite3Statement.destroy client ⟨w,this⟩)

/-- What the next step of a statement answers. -/
def stepCode (w : World) (id : Nat) : Int := (advance client w.log id (w.stmts id)).1

def Fine (code : Int) : Prop := code = SQLITE_ROW ∨ code = SQLITE_DONE

/-- A text is prepared, and then there is no statement, or its first step fails. -/
def StepFails (w : World) (this : CppSQLite3DB) (szSQL : CString) : Prop :=
  ∃ pDB, this.mpDB = some pDB ∧ (client.prepare w.log pDB szSQL).rc = SQLITE_OK ∧
    ∀ names ∈ (client.prepare w.log pDB szSQL).columns,
      ¬ Fine (stepCode client (CppSQLite3DB.compiled w pDB szSQL names) w.nStmts)

def FinalizeFails (w : World) (this : CppSQLite3Query) : Prop :=
  ∃ id, this.mpStmt = some id ∧ (w.stmts id).progress.failure ≠ SQLITE_OK

/-- The operations that throw a text of sqlite3_errmsg with the flag to free it. -/
def Borrows (w : World) : Operation → Prop
  | .db _ (.openDB szFile) => (client.openConn w.log szFile).rc ≠ SQLITE_OK
  | .db this (.execQuery szSQL) => StepFails client w this szSQL
  | .db this (.execScalar szSQL _) => StepFails client w this szSQL
  | .db this (.tableExists szTable) => StepFails client w this (CppSQLite3DB.tableQuery szTable)
  | .query this .nextRow => ∃ id, this.mpStmt = some id ∧ ¬ Fine (stepCode client w id)
  | .query this .clear => FinalizeFails w this
  | .assignQuery this _ => FinalizeFails w this
  | .destroyQuery this => FinalizeFails w this
  | _ => False

end Freeing

section Databases
variable {client : Client}

theorem execDMLFreed (szSQL : CString) (s : Scope World CppSQLite3DB) :
    FreedExactly client s.world (left (CppSQLite3DB.execDML client szSQL s)).world := by
  cases held : s.this.mpDB with
  | none =>
    simp only [CppSQLite3DB.execDML,bindApply,CppSQLite3DB.checkDBClosed held]
    exact chainFreed.refl _
  | some pDB =>
    simp only [CppSQLite3DB.execDML,bindApply,CppSQLite3DB.checkDBApply held,sqlite3Exec,getApply,onWorldApply,
      pureApply,iteApply]
    by_cases ok : (client.exec s.world.log pDB szSQL).rc = SQLITE_OK
    · simp only [if_pos ok]
      refine sameMessages ?_ rfl
      change ((client.exec s.world.log pDB szSQL).error.map Message.allocated).toList ++ _ = _
      rw [(client.exec s.world.log pDB szSQL).quiet ok]
      rfl
    · simp only [if_neg ok,raiseApply]
      exact ownedFreed (client.exec s.world.log pDB szSQL).code rfl rfl

theorem getResultSetFreed (szSQL : CString) (s : Scope World CppSQLite3DB) :
    FreedExactly client s.world (left (CppSQLite3DB.getResultSet client szSQL s)).world := by
  cases held : s.this.mpDB with
  | none =>
    simp only [CppSQLite3DB.getResultSet,bindApply,CppSQLite3DB.checkDBClosed held]
    exact chainFreed.refl _
  | some pDB =>
    rw [CppSQLite3DB.getResultSetApply client held]
    dsimp only
    by_cases ok : (client.getTable s.world.log pDB szSQL).rc = SQLITE_OK
    · rw [if_pos ok]
      refine sameMessages ?_ rfl
      change ((client.getTable s.world.log pDB szSQL).error.map Message.allocated).toList ++ _ = _
      rw [(client.getTable s.world.log pDB szSQL).quiet ok]
      rfl
    · rw [if_neg ok]
      exact ownedFreed (client.getTable s.world.log pDB szSQL).code rfl rfl

theorem openDBFreed (szFile : CString) (s : Scope World CppSQLite3DB) :
    FreedExactly client s.world (left (CppSQLite3DB.openDB client szFile s)).world ↔
      ¬ (client.openConn s.world.log szFile).rc ≠ SQLITE_OK := by
  have opens : FreedExactly client s.world (s.world.opened client szFile) :=
    calledSilent (by rfl) (calledOpen client s.world szFile)
  rw [CppSQLite3DB.openDBApply]
  dsimp only
  by_cases ok : (client.openConn s.world.log szFile).rc ≠ SQLITE_OK
  · rw [if_pos ok]
    exact iff_of_false (borrowedFreed opens (client.openConn s.world.log szFile).code _ _) (not_not.mpr ok)
  · rw [if_neg ok]
    exact iff_of_true opens ok

theorem abandonedFreed {pDB : Nat} {w u : World} (before : FreedExactly client w u) (pStmt : Option Nat) :
    ¬ FreedExactly client w (CppSQLite3DB.abandoned client pDB pStmt u) := by
  have finalized (rc : Int) : FreedExactly client w (u.push ⟨.finalize pStmt,rc⟩) :=
    chainFreed.trans _ _ _ before (calledSilent (by rfl) (calledPush u _ rc))
  cases pStmt with
  | none => exact borrowedFreed (finalized _) okCode _ _
  | some id => exact borrowedFreed (finalized _) (failureCode _) _ _

theorem preparedFreed (w : World) (pDB : Nat) (szSQL : CString) :
    FreedExactly client w (w.prepared client pDB szSQL) :=
  calledSilent (by rfl) (calledPrepare client w pDB szSQL)

theorem steppedFreed (w : World) (id : Nat) : FreedExactly client w (w.stepped client id) :=
  calledSilent (c := .step (some id)) (by rfl) ⟨⟨_,rfl⟩,.inl rfl,.inl rfl,.inl rfl⟩

theorem begunFreed (w : World) (pDB : Nat) (szSQL : CString) (names : List CString) :
    FreedExactly client w ((CppSQLite3DB.compiled w pDB szSQL names).stepped client w.nStmts) :=
  chainFreed.trans _ (CppSQLite3DB.compiled w pDB szSQL names) _
    (calledSilent (c := .prepare pDB szSQL) (by rfl) ⟨⟨_,rfl⟩,.inr ⟨_,_,rfl⟩,.inl rfl,.inl rfl⟩) (steppedFreed _ _)

theorem execQueryFreed (szSQL : CString) (s : Scope World CppSQLite3DB) :
    FreedExactly client s.world (left (CppSQLite3DB.execQuery client szSQL s)).world ↔
      ¬ StepFails client s.world s.this szSQL := by
  cases held : s.this.mpDB with
  | none =>
    rw [CppSQLite3DB.execQueryClosed client held]
    refine iff_of_true (chainFreed.refl _) ?_
    rintro ⟨pDB,opened,_⟩
    rw [held] at opened
    cases opened
  | some pDB =>
    by_cases ok : (client.prepare s.world.log pDB szSQL).rc = SQLITE_OK
    · cases columns : (client.prepare s.world.log pDB szSQL).columns with
      | none =>
        obtain ⟨e,fails⟩ := CppSQLite3DB.execQueryEmpty client held ok columns
        rw [fails]
        refine iff_of_false (abandonedFreed ?_ none) (not_not.mpr ⟨pDB,held,ok,by simp [columns]⟩)
        exact chainFreed.trans _ _ _ (preparedFreed _ _ _) (calledSilent (by rfl) (calledPush _ (.step none) _))
      | some names =>
        have unique : StepFails client s.world s.this szSQL ↔
            ¬ Fine (stepCode client (CppSQLite3DB.compiled s.world pDB szSQL names) s.world.nStmts) := by
          simp [StepFails,held,ok,columns]
        have steps : FreedExactly client s.world
            ((CppSQLite3DB.compiled s.world pDB szSQL names).stepped client s.world.nStmts) := begunFreed _ _ _ _
        rw [unique,not_not]
        by_cases fine : Fine (stepCode client (CppSQLite3DB.compiled s.world pDB szSQL names) s.world.nStmts)
        · rw [CppSQLite3DB.execQueryApply client held ok columns fine]
          exact iff_of_true steps fine
        · obtain ⟨e,fails⟩ := CppSQLite3DB.execQueryFails client held ok columns fine
          rw [fails]
          exact iff_of_false (abandonedFreed steps _) fine
    · obtain ⟨e,fails⟩ := CppSQLite3DB.execQueryUnprepared client held ok
      rw [fails]
      refine iff_of_true (chainFreed.trans _ _ _ (preparedFreed _ _ _) (calledSilent (by rfl) (calledPush _ _ _))) ?_
      rintro ⟨other,opened,accepted,_⟩
      rw [held] at opened
      cases opened
      exact ok accepted

theorem execQueryHands {szSQL : CString} {s t : Scope World CppSQLite3DB} {q : CppSQLite3Query}
    (returns : CppSQLite3DB.execQuery client szSQL s = .ok q t) :
    FreedExactly client s.world t.world ∧ ¬ FinalizeFails t.world q := by
  cases held : s.this.mpDB with
  | none =>
    rw [CppSQLite3DB.execQueryClosed client held] at returns
    cases returns
  | some pDB =>
    by_cases ok : (client.prepare s.world.log pDB szSQL).rc = SQLITE_OK
    · cases columns : (client.prepare s.world.log pDB szSQL).columns with
      | none =>
        obtain ⟨e,fails⟩ := CppSQLite3DB.execQueryEmpty client held ok columns
        rw [fails] at returns
        cases returns
      | some names =>
        by_cases fine : Fine (stepCode client (CppSQLite3DB.compiled s.world pDB szSQL names) s.world.nStmts)
        · rw [CppSQLite3DB.execQueryApply client held ok columns fine] at returns
          cases returns
          refine ⟨begunFreed s.world pDB szSQL names,?_⟩
          rintro ⟨id,same,fails⟩
          cases same
          rw [World.stepped,setStmtSelf] at fails
          exact fails (advanceFine client fine)
        · obtain ⟨e,fails⟩ := CppSQLite3DB.execQueryFails client held ok columns fine
          rw [fails] at returns
          cases returns
    · obtain ⟨e,fails⟩ := CppSQLite3DB.execQueryUnprepared client held ok
      rw [fails] at returns
      cases returns

theorem clearQuietly {s : Scope World CppSQLite3Query} (fine : ¬ FinalizeFails s.world s.this) :
    CppSQLite3Query.clear client s = .ok ⟨⟩ (CppSQLite3Query.released s) := by
  rw [CppSQLite3Query.clearApply]
  cases held : s.this.mpStmt with
  | none => simp only [CppSQLite3Query.released,held]
  | some pStmt =>
    have ok : ¬ (s.world.stmts pStmt).progress.failure ≠ SQLITE_OK := fun fails => fine ⟨pStmt,held,fails⟩
    exact if_neg ok

theorem releasedFreed (s : Scope World CppSQLite3Query) :
    FreedExactly client s.world (CppSQLite3Query.released s).world := by
  unfold CppSQLite3Query.released
  cases s.this.mpStmt with
  | none => exact chainFreed.refl _
  | some pStmt => exact calledSilent (by rfl) (calledPush _ (.finalize (some pStmt)) _)

theorem execScalarFreed (szSQL : CString) (nNullValue : Int) (s : Scope World CppSQLite3DB) :
    FreedExactly client s.world (left (CppSQLite3DB.execScalar client szSQL nNullValue s)).world ↔
      ¬ StepFails client s.world s.this szSQL := by
  rw [← execQueryFreed]
  simp only [CppSQLite3DB.execScalar,bindApply]
  cases result : CppSQLite3DB.execQuery client szSQL s with
  | error e t => exact Iff.rfl
  | ok q t =>
    have still : left (CppSQLite3DB.scalarOf nNullValue ⟨t.world,q⟩) = ⟨t.world,q⟩ :=
      CppSQLite3DB.scalarStill nNullValue _
    obtain ⟨freed,fine⟩ := execQueryHands result
    have quiet : CppSQLite3Query.clear client ⟨t.world,q⟩ = .ok ⟨⟩ (CppSQLite3Query.released ⟨t.world,q⟩) :=
      clearQuietly fine
    simp only [leftLocal,still,CppSQLite3Query.destroy,quiet,leftOk]
    exact iff_of_true (chainFreed.trans _ _ _ freed (releasedFreed ⟨t.world,q⟩)) freed

theorem databaseFreed (w : World) (this : CppSQLite3DB) (op : CppSQLite3DB.Operation) :
    FreesOwned client w (.db this op) ↔ ¬ Borrows client w (.db this op) := by
  have silently (silence : ∀ c, op.makes c → silent c) :
      FreedExactly client w (left (CppSQLite3DB.perform client op ⟨w,this⟩)).world :=
    settlesLeft (CppSQLite3DB.settlesOperation chainFreed op fun c w v made called =>
      calledSilent (silence c made) called) ⟨w,this⟩
  cases op with
  | openDB szFile =>
    simp only [FreesOwned,CppSQLite3DB.perform,leftBindPure]
    exact openDBFreed szFile ⟨w,this⟩
  | execQuery szSQL =>
    simp only [FreesOwned,CppSQLite3DB.perform,leftBindPure]
    exact execQueryFreed szSQL ⟨w,this⟩
  | execScalar szSQL nNullValue =>
    simp only [FreesOwned,CppSQLite3DB.perform,leftBindPure]
    exact execScalarFreed szSQL nNullValue ⟨w,this⟩
  | tableExists szTable =>
    simp only [FreesOwned,CppSQLite3DB.perform,CppSQLite3DB.tableExists,leftBindPure]
    exact execScalarFreed (CppSQLite3DB.tableQuery szTable) 0 ⟨w,this⟩
  | execDML szSQL =>
    simp only [FreesOwned,CppSQLite3DB.perform,leftBindPure]
    exact iff_of_true (execDMLFreed szSQL ⟨w,this⟩) not_false
  | startTransaction | commitTransaction | rollback =>
    simp only [FreesOwned,CppSQLite3DB.perform,CppSQLite3DB.startTransaction,CppSQLite3DB.commitTransaction,
      CppSQLite3DB.rollback,leftBindPure]
    exact iff_of_true (execDMLFreed _ ⟨w,this⟩) not_false
  | getResultSet szSQL =>
    simp only [FreesOwned,CppSQLite3DB.perform,leftBindPure]
    exact iff_of_true (getResultSetFreed szSQL ⟨w,this⟩) not_false
  | close | compileStatement szSQL | isTransaction | setBusyTimeout nMillisecs =>
    refine iff_of_true (silently fun c made => ?_) not_false
    cases c <;> first | rfl | exact absurd made Bool.false_ne_true

end Databases

section Queries
variable {client : Client}

theorem messageFreed {α : Type} {w : World} {rc : Int} (code : ResultCode rc) {s : Scope World CppSQLite3Query}
    (before : FreedExactly client w s.world) :
    ¬ Ended client w (CppSQLite3Query.throwErrmsg client rc s : EStateM.Result Stop _ α) := by
  rw [CppSQLite3Query.throwErrmsgApply]
  cases s.this.mpDB with
  | none => exact id
  | some conn => exact borrowedFreed before code _ _

theorem nextRowFreed (s : Scope World CppSQLite3Query) :
    Ended client s.world (CppSQLite3Query.nextRow client s) ↔
      ¬ ∃ id, s.this.mpStmt = some id ∧ ¬ Fine (stepCode client s.world id) := by
  cases held : s.this.mpStmt with
  | none =>
    rw [CppSQLite3Query.nextRowNone client held]
    exact iff_of_true (chainFreed.refl s.world) (by simp)
  | some pStmt =>
    simp only [Option.some.injEq,exists_eq_left',not_not]
    by_cases fine : Fine (stepCode client s.world pStmt)
    · rw [CppSQLite3Query.nextRowApply client held fine]
      exact iff_of_true (steppedFreed s.world pStmt) fine
    · rw [CppSQLite3Query.nextRowFails client held fine]
      refine iff_of_false (messageFreed (failureCode _) ?_) fine
      exact chainFreed.trans _ _ _ (steppedFreed s.world pStmt) (releasedFreed ⟨s.world.stepped client pStmt,s.this⟩)

theorem clearFreed (s : Scope World CppSQLite3Query) :
    Ended client s.world (CppSQLite3Query.clear client s) ↔ ¬ FinalizeFails s.world s.this := by
  by_cases fails : FinalizeFails s.world s.this
  · obtain ⟨id,held,code⟩ := fails
    rw [CppSQLite3Query.clearApply,held]
    simp only [if_pos code]
    exact iff_of_false (messageFreed (failureCode _) (releasedFreed s)) (not_not.mpr ⟨id,held,code⟩)
  · rw [clearQuietly fails]
    exact iff_of_true (releasedFreed s) fails

theorem swallowedFreed {α : Type} (w : World) (f : Scope World CppSQLite3Query → Scope World CppSQLite3Query)
    (keeps : ∀ s, (f s).world = s.world) (a : α) (r : EStateM.Result Stop (Scope World CppSQLite3Query) Unit) :
    Ended client w (match r with
      | .ok _ t => .ok a (f t)
      | .error (.thrown _) t => .ok a (f t)
      | .error .undefined t => .error .undefined t) ↔ Ended client w r := by
  cases r with
  | ok _ t =>
    change FreedExactly client w (f t).world ↔ _
    rw [keeps]
    exact Iff.rfl
  | error e t =>
    cases e with
    | undefined => exact Iff.rfl
    | thrown e =>
      change FreedExactly client w (f t).world ↔ _
      rw [keeps]
      exact Iff.rfl

theorem destroyFreed (s : Scope World CppSQLite3Query) :
    Ended client s.world (swallow (CppSQLite3Query.clear client) s) ↔ ¬ FinalizeFails s.world s.this := by
  rw [← clearFreed,← swallowedFreed s.world id (fun _ => rfl) ()]
  unfold swallow
  cases CppSQLite3Query.clear client s with
  | ok _ t => exact Iff.rfl
  | error e t => cases e <;> exact Iff.rfl

theorem assignFreed (rQuery : CppSQLite3Query) (s : Scope World CppSQLite3Query) :
    Ended client s.world (CppSQLite3Query.assign client rQuery s) ↔ ¬ FinalizeFails s.world s.this := by
  rw [← clearFreed,← swallowedFreed s.world (fun t => ⟨t.world,{rQuery with mpDB := t.this.mpDB}⟩) (fun _ => rfl)
    {rQuery with mpStmt := none}]
  simp only [CppSQLite3Query.assign,bindApply,swallow]
  cases CppSQLite3Query.clear client s with
  | ok _ t => exact Iff.rfl
  | error e t => cases e <;> exact Iff.rfl

end Queries

/-- An operation frees exactly the messages allocated for it if and only if it does not throw
a text of sqlite3_errmsg with the flag to free it. -/
theorem freesOwnedIff (client : Client) (w : World) (op : Operation) :
    FreesOwned client w op ↔ ¬ Borrows client w op := by
  cases op with
  | db this op => exact databaseFreed w this op
  | query this request =>
    by_cases reads : request.moves = false
    · have still := CppSQLite3Query.accessorStill client reads ⟨w,this⟩
      have freed : FreedExactly client w (left (CppSQLite3Query.perform client request ⟨w,this⟩)).world := by
        rw [still]
        exact chainFreed.refl w
      cases request with
      | nextRow => exact absurd reads (by decide)
      | clear => exact absurd reads (by decide)
      | _ => exact iff_of_true freed not_false
    · cases request with
      | nextRow => exact nextRowFreed ⟨w,this⟩
      | clear => exact clearFreed ⟨w,this⟩
      | _ => exact absurd rfl reads
  | assignQuery this rQuery => exact assignFreed rQuery ⟨w,this⟩
  | destroyQuery this => exact destroyFreed ⟨w,this⟩
  | statement this request =>
    refine iff_of_true (settlesLeft (CppSQLite3Statement.settlesRequest chainFreed request
      fun c w v made called => calledSilent ?_ called) ⟨w,this⟩) not_false
    cases request <;> cases c <;> first | rfl | exact absurd made Bool.false_ne_true
  | execQuery this =>
    exact iff_of_true (settlesLeft (CppSQLite3Statement.settlesExecQuery chainFreed
      (fun _ w v => calledSilent (by rfl)) (fun _ w v => calledSilent (by rfl))) ⟨w,this⟩) not_false
  | destroyStatement this =>
    refine iff_of_true (settlesLeft (CppSQLite3Statement.settlesRequest chainFreed .clear
      fun c w v made called => calledSilent ?_ called) ⟨w,this⟩) not_false
    cases c <;> first | rfl | exact absurd made Bool.false_ne_true

def refusing : Client :=
  {Client.obliging with
    openConn := fun _ _ => ⟨14,true,fun _ => rfl,by decide⟩
    errmsg := fun _ _ => text "unable to open database file"}

/-- Opening a file in vain frees the text of sqlite3_errmsg. -/
theorem errmsgFreed :
    let op : Operation := .db ⟨none⟩ (.openDB (text "missing/test.db"))
    let w := (left (CppSQLite3DB.perform refusing (.openDB (text "missing/test.db")) ⟨.initial,⟨none⟩⟩)).world
    freed w.log = [.errmsg (text "unable to open database file")] ∧ allocated refusing w.log = [] ∧
      ¬ FreesOwned refusing .initial op := by
  refine ⟨rfl,rfl,?_⟩
  rintro ⟨messages,given,gone⟩
  have none : ([] : List Message) = messages ++ [] := given
  have one : [Message.errmsg (text "unable to open database file")] = messages ++ [] := gone
  rw [← none] at one
  cases one

end DatabaseLayer.SQLiteMessages
