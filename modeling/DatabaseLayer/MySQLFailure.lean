import DatabaseLayer.MySQLRules

/-! Which failed client calls an operation reports. Almost every operation looks at what its
calls return; commitTransaction, rollback and the statement's reset do not, and a
result that cannot be fetched looks like a statement without one. -/
namespace DatabaseLayer.MySQLFailure
open Platform MySQLClient Foundation.Program MySQLRules CppMySQLDB

/-- ping and setCharacterSet report a failure by their answer, the others by throwing. -/
def answersFailure : Operation → Bool
  | .ping | .setCharacterSet _ => true
  | _ => false

def Reported {σ : Type} (op : Operation) : EStateM.Result Stop σ Returned → Prop
  | .error (.thrown _) _ => True
  | .ok (.bool false) _ => answersFailure op = true
  | _ => False

/-- A failed client call of an operation is reported to the caller. -/
def Reports (client : Client) (op : Operation) (s : Scope World CppMySQLDB) : Prop :=
  failures s.world.log < failures (left (perform client op s)).world.log →
    Reported op (perform client op s)

/-- The statement has result columns, and its result cannot be stored. -/
def FetchFails (client : Client) (szSQL : CString) (s : Scope World CppMySQLDB) : Prop :=
  Connected true s ∧ (reply client s (.realQuery szSQL)).rc = 0 ∧
    0 < (reply client s (.realQuery szSQL)).columns ∧
    (reply client (asked client s (.realQuery szSQL)) .storeResult).stored = none

/-- The calls whose failure the operation would not notice succeed. -/
def UncheckedSucceed (client : Client) (s : Scope World CppMySQLDB) : Operation → Prop
  | .commitTransaction => Connected true s → (reply client s .commit).rc = 0
  | .rollback => Connected true s → (reply client s .rollback).rc = 0
  | .execQuery szSQL | .getResultSet szSQL => ¬ FetchFails client szSQL s
  | _ => True

section Calls
variable {O : Type} {client : Client}

def SameFailures (s t : Scope World O) : Prop := failures t.world.log = failures s.world.log

theorem chainSame : Chain (SameFailures (O := O)) := chainEq (fun s : Scope World O => failures s.world.log)

theorem failedRc {h : History} {e : Entry} (call : e.call ≠ .storeResult) (rc : e.reply.rc = 0) :
    failed h e = false := by
  obtain ⟨conn,c,reply⟩ := e
  simp only at call rc
  cases c <;> simp [failed,rc] at call ⊢

theorem failuresCons {h : History} {e : Entry} (ok : failed h e = false) : failures (e :: h) = failures h := by
  simp [failures,ok]

theorem failuresCounted {h : History} {e : Entry} (counts : failed h e = decide (e.reply.rc ≠ 0)) :
    failures (e :: h) = failures h + if e.reply.rc = 0 then 0 else 1 := by
  rw [failures,counts]
  by_cases rc : e.reply.rc = 0 <;> simp [rc]

theorem settlesChecked {conn : Option Nat} {c : Call} {m k : Op CppMySQLDB Unit} (call : c ≠ .storeResult)
    (throws : Throws m) (rest : Settles Stop.isThrown SameFailures k) :
    Settles Stop.isThrown SameFailures (do
      let reply ← MySQLClient.call client conn c
      if reply.rc ≠ 0 then m else k) := by
  refine ⟨fun s => ?_⟩
  simp only [bindApply,callApply,iteApply]
  split
  · obtain ⟨e,thrown⟩ := throws ⟨s.world.push ⟨conn,c,client.answer s.world.log conn c⟩,s.this⟩
    rw [thrown]
    exact Or.inl trivial
  · rename_i rc
    have same : SameFailures s ⟨s.world.push ⟨conn,c,client.answer s.world.log conn c⟩,s.this⟩ :=
      failuresCons (failedRc call (not_not.mp rc))
    exact endsTrans chainSame same (rest.ends _)

end Calls

section Operations
variable {client : Client}

theorem settlesReports {op : Operation} (h : Settles Stop.isThrown SameFailures (perform client op))
    (s : Scope World CppMySQLDB) : Reports client op s := by
  intro grew
  have ends := h.ends s
  cases result : perform client op s with
  | ok a t =>
    rw [result] at ends grew
    exact absurd ends (Nat.ne_of_gt grew)
  | error e t =>
    rw [result] at ends grew
    cases e with
    | thrown e => trivial
    | undefined => exact absurd (ends.resolve_left id) (Nat.ne_of_gt grew)

theorem configureReports {op : Operation} (configures : op.configures) :
    Settles Stop.isThrown SameFailures (perform client op) :=
  settlesConfigure chainSame (fun _ _ _ _ quiet throws rest =>
    settlesChecked (by rintro rfl; cases quiet) throws rest) (fun _ _ => rfl) configures

theorem createReports (szSQL : CString) : Settles Stop.isThrown SameFailures (do
    checkDB false
    let szSQL ← composed szSQL
    let mpDB ← handle
    let reply ← call client mpDB (.realQuery szSQL)
    if reply.rc ≠ 0 then
      throwLastError mpDB : Op CppMySQLDB Unit) :=
  settlesBind chainSame (settlesCheckDB chainSame false) fun _ =>
    settlesBind chainSame (settlesComposed chainSame szSQL) fun _ =>
      settlesBind chainSame (settlesHandle chainSame) fun _ =>
        settlesChecked (by simp) (throwsLastError _) (settlesPure chainSame _)

theorem execDMLReports (szSQL : CString) : Settles Stop.isThrown SameFailures (execDML client szSQL) := by
  refine ⟨fun s => ?_⟩
  rw [execDMLApply]
  split
  · dsimp only
    split
    · rename_i accepted
      change failures _ = _
      rw [asked,pushLog,failuresCons rfl,asked,pushLog,failuresCons (failedRc (by simp) accepted)]
    · exact Or.inl trivial
  · exact Or.inl trivial

theorem quietCallsReport {op : Operation} (h : op = .close ∨ op = .isTransaction ∨ op = .getCharacterSetName) :
    Settles Stop.isThrown SameFailures (perform client op) := by
  have done : ∀ r : Returned, Settles Stop.isThrown SameFailures (pure r : Op CppMySQLDB Returned) :=
    settlesPure chainSame
  have handled : Settles Stop.isThrown SameFailures handle := settlesHandle chainSame
  obtain rfl | rfl | rfl := h
  · refine settlesBind chainSame (settlesBind chainSame handled fun mpDB => ?_) fun _ => done _
    cases mpDB with
    | none => exact settlesPure chainSame _
    | some conn =>
      exact settlesBind chainSame (settlesCall fun s => failuresCons rfl) fun _ => settlesOnThis fun _ => rfl
  · exact settlesBind chainSame (settlesGet chainSame) fun _ => done _
  · refine settlesBind chainSame ?_ fun _ => done _
    refine settlesBind chainSame (settlesCheckDB chainSame false) fun _ => ?_
    refine settlesBind chainSame handled fun _ => ?_
    exact settlesBind chainSame (settlesCall fun s => failuresCons rfl) fun _ => settlesPure chainSame _

theorem finishReports {op : Operation} {c : Call} {s : Scope World CppMySQLDB}
    (refused : ¬ Connected true s → perform client op s = .error (.thrown (refusal s)) s)
    (returns : Connected true s → ∃ t, perform client op s = .ok .unit t ∧
      t.world = (asked client s c).world)
    (counts : ∀ h r, failed h ⟨s.this.mpDB,c,r⟩ = decide (r.rc ≠ 0)) :
    Reports client op s ↔ (Connected true s → (reply client s c).rc = 0) := by
  by_cases connected : Connected true s
  · obtain ⟨t,result,sends⟩ := returns connected
    have count : failures t.world.log = failures s.world.log +
        if (reply client s c).rc = 0 then 0 else 1 := by
      rw [sends]
      exact failuresCounted (counts _ _)
    simp only [Reports,result,leftOk,count,connected,forall_const,Reported]
    split <;> simp_all
  · simp [Reports,refused connected,connected]

theorem storedFailures {s : Scope World CppMySQLDB} {szSQL : CString}
    (accepted : (reply client s (.realQuery szSQL)).rc = 0) :
    failures (asked client (asked client s (.realQuery szSQL)) .storeResult).world.log =
      failures s.world.log + if 0 < (reply client s (.realQuery szSQL)).columns ∧
        (reply client (asked client s (.realQuery szSQL)) .storeResult).stored = none then 1 else 0 := by
  have ready : status s.this.mpDB s.world.log = .ready := by
    cases now : status s.this.mpDB s.world.log with
    | ready => rfl
    | getResult =>
      simp only [reply,Client.answer,now,isCommand,if_true,outOfSync] at accepted
      cases accepted
  have query : failures (asked client s (.realQuery szSQL)).world.log = failures s.world.log :=
    failuresCons (failedRc (by simp) accepted)
  have pending : status s.this.mpDB (asked client s (.realQuery szSQL)).world.log = .getResult ↔
      0 < (reply client s (.realQuery szSQL)).columns := by
    have rc := accepted
    unfold reply at rc ⊢
    simp [asked,status,rc,ready,Nat.pos_iff_ne_zero]
  have storing : failed (asked client s (.realQuery szSQL)).world.log ⟨s.this.mpDB,.storeResult,
      reply client (asked client s (.realQuery szSQL)) .storeResult⟩ = true ↔
      0 < (reply client s (.realQuery szSQL)).columns ∧
        (reply client (asked client s (.realQuery szSQL)) .storeResult).stored = none := by
    simp only [failed,Bool.and_eq_true,decide_eq_true_eq,pending,Option.isNone_iff_eq_none]
  change failures (asked client s (.realQuery szSQL)).world.log + (if failed _ ⟨_,_,_⟩ = true then 1 else 0) = _
  rw [query]
  exact congrArg (failures s.world.log + ·) (if_congr storing rfl rfl)

theorem fetchGrows {s : Scope World CppMySQLDB} {szSQL : CString} :
    failures s.world.log < failures (fetchedLog client szSQL s) ↔ Connected true s ∧
      ((reply client s (.realQuery szSQL)).rc ≠ 0 ∨ FetchFails client szSQL s) := by
  unfold fetchedLog
  by_cases connected : Connected true s
  · rw [if_pos connected]
    dsimp only
    by_cases accepted : (reply client s (.realQuery szSQL)).rc = 0
    · rw [if_pos accepted,storedFailures accepted]
      simp only [FetchFails,connected,accepted,true_and,ne_eq,not_true_eq_false,false_or]
      split <;> simp_all
    · have rc : (client.answer s.world.log s.this.mpDB (.realQuery szSQL)).rc ≠ 0 := accepted
      rw [if_neg accepted]
      simp [connected,accepted,asked,failures,failed,rc]
  · simp [connected]

theorem fetchReports {op : Operation} {s : Scope World CppMySQLDB} {szSQL : CString}
    (log : (left (perform client op s)).world.log = fetchedLog client szSQL s)
    (refused : Connected true s → (reply client s (.realQuery szSQL)).rc ≠ 0 → Reported op (perform client op s))
    (silent : FetchFails client szSQL s → ¬ Reported op (perform client op s)) :
    Reports client op s ↔ ¬ FetchFails client szSQL s := by
  unfold Reports
  rw [log,fetchGrows]
  constructor
  · exact fun reports fails => silent fails (reports ⟨fails.1,.inr fails⟩)
  · rintro fetched ⟨connected,rc | fails⟩
    · exact refused connected rc
    · exact absurd fails fetched

theorem failedStore {s : Scope World CppMySQLDB} {szSQL : CString} (fails : FetchFails client szSQL s) :
    stored client (asked client s (.realQuery szSQL)) =
      (none,asked client (asked client s (.realQuery szSQL)) .storeResult) := by
  unfold stored
  rw [fails.2.2.2]

/-- A failed fetch leaves execQuery with an empty query, as if there were nothing to fetch. -/
theorem execQueryEmpty {s : Scope World CppMySQLDB} {szSQL : CString} (fails : FetchFails client szSQL s) :
    execQuery client szSQL s =
      .ok CppMySQLQuery.new (asked client (asked client s (.realQuery szSQL)) .storeResult) := by
  rw [execQueryApply]
  simp only [if_pos fails.1,if_pos fails.2.1,failedStore fails,CppMySQLQuery.ofRESApply]

theorem execQueryReports (szSQL : CString) (s : Scope World CppMySQLDB) :
    Reports client (.execQuery szSQL) s ↔ ¬ FetchFails client szSQL s := by
  refine fetchReports (by simpa only [perform,leftBindPure] using (execQueryLeft client szSQL s).1)
    (fun connected rc => ?_) fun fails => ?_
  · simp only [perform,bindApply,execQueryApply,if_pos connected,if_neg rc]
    trivial
  · simp only [perform,bindApply,execQueryEmpty fails]
    exact id

theorem getResultSetReports (szSQL : CString) (s : Scope World CppMySQLDB) :
    Reports client (.getResultSet szSQL) s ↔ ¬ FetchFails client szSQL s := by
  refine fetchReports (by simpa only [perform,leftBindPure] using (getResultSetLeft client szSQL s).1)
    (fun connected rc => ?_) fun fails => ?_
  · simp only [perform,bindApply,getResultSetApply,if_pos connected,if_neg rc]
    trivial
  · simp only [perform,bindApply,getResultSetApply,if_pos fails.1,if_pos fails.2.1,failedStore fails]
    exact id

theorem execScalarThrows {s : Scope World CppMySQLDB} {szSQL : CString} {nNullValue : Int}
    (grew : failures s.world.log < failures (left (execScalar client szSQL nNullValue s)).world.log) :
    ∃ e t, execScalar client szSQL nNullValue s = .error (.thrown e) t := by
  have freed := (execScalarLeft client szSQL nNullValue s).1
  have same : ∀ h later, Freed h later → failures later = failures h := by
    rintro h later (rfl | ⟨res,rfl⟩)
    · rfl
    · exact failuresCons rfl
  rw [same _ _ freed,fetchGrows] at grew
  obtain ⟨connected,rc | fails⟩ := grew
  · rw [execScalarApply,execQueryApply]
    simp only [if_pos connected,if_neg rc]
    exact ⟨_,_,rfl⟩
  · rw [execScalarApply,execQueryEmpty fails]
    exact ⟨_,_,rfl⟩

theorem execScalarReports (szSQL : CString) (nNullValue : Int) (s : Scope World CppMySQLDB) :
    Reports client (.execScalar szSQL nNullValue) s := by
  intro grew
  simp only [perform,leftBindPure] at grew
  obtain ⟨e,t,thrown⟩ := execScalarThrows grew
  simp only [perform,bindApply,thrown]
  trivial

theorem tableExistsReports (szTable : CString) (s : Scope World CppMySQLDB) :
    Reports client (.tableExists szTable) s := by
  intro grew
  simp only [perform,leftBindPure] at grew
  simp only [perform,bindApply]
  rw [tableExistsApply] at grew ⊢
  by_cases connected : Connected true s
  · simp only [if_pos connected] at grew ⊢
    cases fits : sprintfInto 256 (schemaQuery s.world.sDBName szTable) with
    | none => simp [fits] at grew
    | some szSQL =>
      simp only [fits,leftBindPure] at grew
      obtain ⟨e,t,thrown⟩ := execScalarThrows grew
      simp only [bindApply,thrown]
      trivial
  · simp only [if_neg connected]
    trivial

theorem sentFailures {w : World} {conn : Nat} {c : Call} (call : c ≠ .storeResult)
    (rc : (CppMySQLStatement.replied client w conn c).rc = 0) :
    failures (CppMySQLStatement.sent client w conn c).log = failures w.log :=
  failuresCons (failedRc call rc)

theorem compileReports (szSQL : CString) (s : Scope World CppMySQLDB) :
    Reports client (.compileStatement szSQL) s := by
  refine settlesReports ⟨fun s => ?_⟩ s
  simp only [perform,compileStatement,bindApply,handleApply,CppMySQLStatement.compileApply]
  cases s.this.mpDB with
  | none => exact Or.inl trivial
  | some conn =>
    dsimp only
    by_cases init : (CppMySQLStatement.replied client s.world conn .stmtInit).rc = 0
    · rw [if_pos init]
      by_cases prepared : (CppMySQLStatement.replied client
          (CppMySQLStatement.sent client s.world conn .stmtInit).initStmt conn
          (.stmtPrepare s.world.nStmts szSQL)).rc = 0
      · have second := sentFailures (by simp) prepared
        rw [if_neg (not_not.mpr prepared)]
        exact (failuresCons rfl).trans (second.trans (sentFailures (by simp) init))
      · rw [if_pos prepared]
        exact Or.inl trivial
    · rw [if_neg init]
      exact Or.inl trivial

theorem answerReports {op : Operation} (answers : answersFailure op = true) (s : Scope World CppMySQLDB) :
    Reports client op s := by
  have told : ∀ (b : Bool) (c : Call), c ≠ .storeResult → perform client op s =
      (if Connected b s then .ok (.bool (decide ((reply client s c).rc = 0))) (asked client s c)
      else .error (.thrown (refusal s)) s) → Reports client op s := by
    intro b c call result grew
    rw [result] at grew ⊢
    by_cases connected : Connected b s
    · rw [if_pos connected] at grew ⊢
      by_cases rc : (reply client s c).rc = 0
      · exact absurd (failuresCons (failedRc call rc)) (Nat.ne_of_gt grew)
      · rw [decide_eq_false rc]
        exact answers
    · rw [if_neg connected]
      trivial
  cases op with
  | ping =>
    refine told true .ping (by simp) ?_
    simp only [perform,ping,bindApply,checkDBApply]
    by_cases connected : Connected true s
    · simp only [if_pos connected]
      rfl
    · simp only [if_neg connected]
  | setCharacterSet szName =>
    refine told false (.setCharacterSet szName) (by simp) ?_
    simp only [perform,setCharacterSet,bindApply,checkDBApply]
    by_cases connected : Connected false s
    · simp only [if_pos connected]
      rfl
    · simp only [if_neg connected]
  | _ => cases answers

theorem operationReports (op : Operation) (s : Scope World CppMySQLDB) :
    Reports client op s ↔ UncheckedSucceed client s op := by
  cases op with
  | connect | connectString | openDB | setOptions =>
    exact iff_of_true (settlesReports (configureReports rfl) s) trivial
  | close => exact iff_of_true (settlesReports (quietCallsReport (.inl rfl)) s) trivial
  | isTransaction => exact iff_of_true (settlesReports (quietCallsReport (.inr (.inl rfl))) s) trivial
  | getCharacterSetName =>
    exact iff_of_true (settlesReports (quietCallsReport (.inr (.inr rfl))) s) trivial
  | tableExists szTable => exact iff_of_true (tableExistsReports szTable s) trivial
  | execScalar szSQL nNullValue => exact iff_of_true (execScalarReports szSQL nNullValue s) trivial
  | compileStatement szSQL => exact iff_of_true (compileReports szSQL s) trivial
  | ping | setCharacterSet => exact iff_of_true (answerReports rfl s) trivial
  | execDML szSQL =>
    refine iff_of_true (settlesReports ?_ s) trivial
    exact settlesBind chainSame (execDMLReports szSQL) fun _ => settlesPure chainSame _
  | startTransaction =>
    refine iff_of_true (settlesReports ?_ s) trivial
    exact settlesBind chainSame (settlesBind chainSame (execDMLReports _) fun _ =>
      settlesOnThis fun _ => rfl) fun _ => settlesPure chainSame _
  | createDB szDBName =>
    refine iff_of_true (settlesReports ?_ s) trivial
    exact settlesBind chainSame (createReports _) fun _ => settlesPure chainSame _
  | dropDB name =>
    refine iff_of_true (settlesReports ?_ s) trivial
    exact settlesBind chainSame (createReports _) fun _ => settlesPure chainSame _
  | execQuery szSQL => exact execQueryReports szSQL s
  | getResultSet szSQL => exact getResultSetReports szSQL s
  | commitTransaction =>
    refine finishReports (fun refused => ?_) (fun connected => ?_) fun _ _ => rfl
    · simp only [perform,bindApply,commitTransactionApply,if_neg refused]
    · simp only [perform,bindApply,commitTransactionApply,if_pos connected]
      exact ⟨_,rfl,rfl⟩
  | rollback =>
    refine finishReports (fun refused => ?_) (fun connected => ?_) fun _ _ => rfl
    · simp only [perform,bindApply,rollbackApply,if_neg refused]
    · simp only [perform,bindApply,rollbackApply,if_pos connected]
      exact ⟨_,rfl,rfl⟩

end Operations

section Statements
variable (client : Client)

/-- A failed client call of a request on a statement is thrown. -/
def StatementReports (request : CppMySQLStatement.Request) (s : Scope World CppMySQLStatement) : Prop :=
  failures s.world.log < failures (left (CppMySQLStatement.perform client request s)).world.log →
    ∃ e t, CppMySQLStatement.perform client request s = .error (.thrown e) t

/-- The reset nobody looks at succeeds. -/
def ResetSucceeds (s : Scope World CppMySQLStatement) : CppMySQLStatement.Request → Prop
  | .reset => ∀ stmt ∈ s.this.mpStmt,
      (CppMySQLStatement.replied client s.world stmt.mysql (.stmtReset stmt.id)).rc = 0
  | _ => True

variable {client}

theorem settlesStatement {request : CppMySQLStatement.Request}
    (h : Settles Stop.isThrown SameFailures (CppMySQLStatement.perform client request))
    (s : Scope World CppMySQLStatement) : StatementReports client request s := by
  intro grew
  have ends := h.ends s
  cases result : CppMySQLStatement.perform client request s with
  | ok a t =>
    rw [result] at ends grew
    exact absurd ends (Nat.ne_of_gt grew)
  | error e t =>
    rw [result] at ends grew
    cases e with
    | thrown e => exact ⟨e,t,rfl⟩
    | undefined => exact absurd (ends.resolve_left id) (Nat.ne_of_gt grew)

theorem bindReports (pos : Int) (type : FieldType) (buffer : Buffer) (length : Nat) :
    Settles Stop.isThrown SameFailures (CppMySQLStatement.realBind pos type buffer length) := by
  refine settlesBind chainSame (settlesGet chainSame) fun s => ?_
  refine settlesIte (fun _ => settlesRaise chainSame _ _) fun _ => ?_
  refine settlesIte (fun _ => settlesRaise chainSame _ _) fun _ => ?_
  cases s.this.mpBindArray with
  | none => exact settlesUndefined chainSame
  | some array => exact settlesOnThis fun _ => rfl

theorem executeReports : Settles Stop.isThrown SameFailures (CppMySQLStatement.execute client) := by
  refine ⟨fun s => ?_⟩
  rw [CppMySQLStatement.executeApply]
  cases s.this.mpStmt with
  | none => exact Or.inl trivial
  | some stmt =>
    cases s.this.mpBindArray with
    | none => exact Or.inl trivial
    | some array =>
      dsimp only
      split
      · exact Or.inl trivial
      split
      · exact Or.inl trivial
      split
      · exact Or.inr rfl
      split
      · exact Or.inl trivial
      rename_i bound
      split
      · exact Or.inl trivial
      rename_i executed
      exact (sentFailures (by simp) (not_not.mp executed)).trans (sentFailures (by simp) (not_not.mp bound))

theorem statementReports (request : CppMySQLStatement.Request) (s : Scope World CppMySQLStatement) :
    StatementReports client request s ↔ ResetSucceeds client s request := by
  cases request with
  | bindString nParam szValue =>
    refine iff_of_true (settlesStatement ?_ s) trivial
    exact bindReports _ _ _ _
  | bindInt nParam nValue =>
    refine iff_of_true (settlesStatement ?_ s) trivial
    exact settlesBind chainSame (settlesOnWorld fun _ => Eq.refl (failures _)) fun _ => bindReports _ _ _ _
  | bindDouble nParam dwValue =>
    refine iff_of_true (settlesStatement ?_ s) trivial
    exact settlesBind chainSame (settlesOnWorld fun _ => Eq.refl (failures _)) fun _ => bindReports _ _ _ _
  | execDML =>
    refine iff_of_true (settlesStatement (settlesBind chainSame ?_ fun _ => settlesPure chainSame _) s) trivial
    refine settlesBind chainSame executeReports fun _ => settlesBind chainSame (settlesGet chainSame) fun t => ?_
    cases t.this.mpStmt with
    | none => exact settlesUndefined chainSame
    | some stmt =>
      exact settlesBind chainSame (settlesCall fun _ => failuresCons rfl) fun _ => settlesPure chainSame _
  | clear =>
    refine iff_of_true (settlesStatement (settlesOfLeft fun s => ?_) s) trivial
    simp only [CppMySQLStatement.perform,CppMySQLStatement.clearApply]
    cases s.this.mpStmt with
    | none => exact chainSame.refl _
    | some stmt => exact failuresCons rfl
  | reset =>
    cases held : s.this.mpStmt with
    | none =>
      have thrown : CppMySQLStatement.perform client .reset s =
          CppMySQLStatement.statementError "MYSQL_STMT handle error" s := by
        simp only [CppMySQLStatement.perform,CppMySQLStatement.resetApply,held]
      refine iff_of_true (fun _ => ⟨_,_,thrown⟩) ?_
      simp [ResetSucceeds,held]
    | some stmt =>
      have count : failures (CppMySQLStatement.sent client s.world stmt.mysql (.stmtReset stmt.id)).log =
          failures s.world.log + if (CppMySQLStatement.replied client s.world stmt.mysql
            (.stmtReset stmt.id)).rc = 0 then 0 else 1 := failuresCounted rfl
      simp only [StatementReports,CppMySQLStatement.perform,CppMySQLStatement.resetApply,held,leftOk,count,
        ResetSucceeds,Option.mem_def,Option.some.injEq,forall_eq']
      split <;> simp_all

end Statements

/-- For every public operation of a connection and of a statement: each failed client call
is reported, by an exception or by the false of ping and setCharacterSet, exactly when the
calls that go unchecked succeed. -/
theorem failuresReportedIff (client : Client) :
    (∀ op s, Reports client op s ↔ UncheckedSucceed client s op) ∧
    (∀ request s, StatementReports client request s ↔ ResetSucceeds client s request) :=
  ⟨operationReports,statementReports⟩

/-- A server that has lost the connection when the commit arrives. -/
def losing : Client := ⟨fun _ _ call => if call = .commit then {success with rc := 1} else success⟩

/-- The lost commit looks like a commit. -/
theorem lostCommitUnreported : ¬ Reports losing .commitTransaction (opened 0 (text "test")) :=
  fun h => h (by decide)

end DatabaseLayer.MySQLFailure
