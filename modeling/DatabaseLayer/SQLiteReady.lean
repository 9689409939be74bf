import DatabaseLayer.SQLiteHandles

/-! A statement object leaves the statement it owns reset, however an execution of it ended,
so that it can be bound again. -/
namespace DatabaseLayer.SQLiteReady
open Platform SQLiteClient Foundation.Program Foundation.Objects Foundation.Run Foundation.Ledger SQLiteRules SQLiteSystem
open SQLiteBooks SQLiteHandles

/-- The statement has been stepped more recently than it was reset, whatever the reset
returned: sqlite3_bind_* would refuse it. -/
def active (id : Nat) : History → Bool
  | [] => false
  | e :: h => match e.call with
    | .step pStmt => pStmt = some id || active id h
    | .reset other => other ≠ id && active id h
    | _ => active id h

def NeverRefused : History → Prop
  | [] => True
  | e :: h => (∀ id nParam value, e.call = .bind id nParam value → active id h = false) ∧ NeverRefused h

def Reset (w : World) (o : CppSQLite3Statement) : Prop := ∀ id, o.mpStmt = some id → active id w.log = false

structure Bindable (s : System) : Prop where
  statements : All (Reset s.world) s.statements
  binds : NeverRefused s.world.log

/-- The activity of one statement at most was changed, and no bind refused for it. -/
structure Disturbs (x : Option Nat) (w v : World) : Prop where
  others : ∀ id, x ≠ some id → active id v.log = active id w.log
  binds : NeverRefused w.log → NeverRefused v.log

def calm : Call → Bool
  | .step (some _) | .reset _ | .bind _ _ _ => false
  | _ => true

section Worlds
variable {x : Option Nat} {w v : World}

theorem chainDisturbs (x : Option Nat) : Chain (Disturbs x) :=
  ⟨fun _ => ⟨fun _ _ => rfl,id⟩,fun _ _ _ first rest =>
    ⟨fun id other => (rest.others id other).trans (first.others id other),fun never => rest.binds (first.binds never)⟩⟩

theorem calmOthers (none : Disturbs none w v) (id : Nat) : active id v.log = active id w.log :=
  none.others id fun same => by cases same

theorem disturbsMore (none : Disturbs none w v) (x : Option Nat) : Disturbs x w v :=
  ⟨fun id _ => calmOthers none id,none.binds⟩

theorem calledCalm {c : Call} (quiet : calm c) (called : Called c w v) : Disturbs none w v := by
  obtain ⟨rc,log⟩ := called.log
  refine ⟨fun id _ => ?_,fun never => ?_⟩
  · rw [log]
    cases c with
    | step pStmt =>
      cases pStmt with
      | some id => cases quiet
      | none => simp [active]
    | reset id | bind id nParam value => cases quiet
    | _ => rfl
  · rw [log]
    refine ⟨?_,never⟩
    rintro id nParam value rfl
    cases quiet

theorem steppedDisturbs (client : Client) (w : World) (id : Nat) : Disturbs (some id) w (w.stepped client id) := by
  refine ⟨fun other apart => ?_,fun never => ⟨nofun,never⟩⟩
  change (decide (some id = some other) || active other w.log) = active other w.log
  rw [decide_eq_false apart,Bool.false_or]

theorem restartedDisturbs (w : World) (id : Nat) : Disturbs (some id) w (w.restarted id) := by
  refine ⟨fun other apart => ?_,fun never => ⟨nofun,never⟩⟩
  have unlike : id ≠ other := fun same => apart (congrArg some same)
  change (decide (id ≠ other) && active other w.log) = active other w.log
  rw [decide_eq_true unlike,Bool.true_and]

theorem restartedReset (w : World) (id : Nat) : active id (w.restarted id).log = false := by
  change (decide (id ≠ id) && active id w.log) = false
  rw [decide_eq_false (not_not.mpr rfl),Bool.false_and]

theorem pushCalm {c : Call} (quiet : calm c) (rc : Int) (w : World) : Disturbs none w (w.push ⟨c,rc⟩) :=
  calledCalm quiet (calledPush w c rc)

theorem raisedCalm (w : World) (nErrCode : Int) (szErrMess : Message) (isSqlite3Free : Bool) :
    Disturbs none w (w.raised nErrCode szErrMess isSqlite3Free) := by
  unfold World.raised
  split
  · exact pushCalm rfl _ _
  · exact (chainDisturbs none).refl _

end Worlds

section Objects
variable (client : Client)

theorem messageCalm {α : Type} (nRet : Int) (s : Scope World CppSQLite3Query) :
    Disturbs none s.world (left (CppSQLite3Query.throwErrmsg client nRet s : EStateM.Result Stop _ α)).world := by
  rw [CppSQLite3Query.throwErrmsgApply]
  cases s.this.mpDB with
  | none => exact pushCalm (c := .errmsgUnset) rfl _ _
  | some conn => exact (chainDisturbs none).trans _ _ _ (pushCalm (c := .errmsg (some conn)) rfl _ _) (raisedCalm _ _ _ _)

theorem clearCalm (s : Scope World CppSQLite3Query) :
    Disturbs none s.world (left (CppSQLite3Query.clear client s)).world := by
  refine settlesLeft (CppSQLite3Query.settlesClear (chainDisturbs none) fun conn message pStmt w v called => ?_) s
  obtain (called | called | called) | called := called <;> exact calledCalm rfl called

theorem queryDisturbs (request : CppSQLite3Query.Request) (s : Scope World CppSQLite3Query) :
    Disturbs s.this.mpStmt s.world (left (CppSQLite3Query.perform client request s)).world := by
  by_cases moves : request.moves = true
  · cases request with
    | clear => exact disturbsMore (clearCalm client s) _
    | nextRow =>
      simp only [CppSQLite3Query.perform]
      cases held : s.this.mpStmt with
      | none =>
        rw [CppSQLite3Query.nextRowNone client held]
        exact (chainDisturbs none).refl _
      | some pStmt =>
        have stepped := steppedDisturbs client s.world pStmt
        by_cases fine : (advance client s.world.log pStmt (s.world.stmts pStmt)).1 = SQLITE_ROW ∨
            (advance client s.world.log pStmt (s.world.stmts pStmt)).1 = SQLITE_DONE
        · rw [CppSQLite3Query.nextRowApply client held fine]
          exact stepped
        · rw [CppSQLite3Query.nextRowFails client held fine]
          refine (chainDisturbs _).trans _ _ _ stepped (disturbsMore ?_ _)
          refine (chainDisturbs none).trans _ _ _ ?_ (messageCalm client _ _)
          simp only [CppSQLite3Query.released,held]
          exact pushCalm (c := .finalize (some pStmt)) rfl _ _
    | _ => exact absurd moves Bool.false_ne_true
  · rw [CppSQLite3Query.accessorStill client ((Bool.not_eq_true _).mp moves)]
    exact (chainDisturbs _).refl _

theorem reportCalm {α : Type} (nRet : Int) (s : Scope World CppSQLite3Statement) :
    Disturbs none s.world (left (CppSQLite3Statement.throwErrmsg client nRet s : EStateM.Result Stop _ α)).world := by
  rw [CppSQLite3Statement.throwErrmsgApply]
  exact pushCalm (c := .errmsg s.this.mpDB) rfl _ _

/-- After the world was disturbed, a reset makes up for it, and the report of an error disturbs
nothing. -/
theorem restartedThen {pStmt : Nat} {u v w : World} (first : Disturbs (some pStmt) u v)
    (rest : Disturbs none (v.restarted pStmt) w) : Disturbs (some pStmt) u w ∧ active pStmt w.log = false := by
  refine ⟨(chainDisturbs _).trans _ _ _ first ?_,?_⟩
  · exact (chainDisturbs _).trans _ _ _ (restartedDisturbs v pStmt) (disturbsMore rest _)
  · rw [calmOthers rest pStmt]
    exact restartedReset v pStmt

section Requests
variable {s : Scope World CppSQLite3Statement} {pStmt : Nat}

theorem execDMLReady (ready : active pStmt s.world.log = false) (held : s.this.mpStmt = some pStmt) :
    let t := left (CppSQLite3Statement.execDML client s)
    Disturbs (some pStmt) s.world t.world ∧ active pStmt t.world.log = false := by
  cases opened : s.this.mpDB with
  | none =>
    simp only [CppSQLite3Statement.execDML,bindApply,CppSQLite3Statement.checkDBClosed opened]
    exact ⟨(chainDisturbs _).refl _,ready⟩
  | some pDB =>
    have stepped := steppedDisturbs client s.world pStmt
    rw [CppSQLite3Statement.execDMLApply client opened held]
    dsimp only
    split
    · have changed := disturbsMore (pushCalm (c := .changes pDB) rfl SQLITE_OK (s.world.stepped client pStmt)) (some pStmt)
      exact restartedThen ((chainDisturbs _).trans _ _ _ stepped changed) ((chainDisturbs none).refl _)
    · exact restartedThen stepped (reportCalm client _ ⟨(s.world.stepped client pStmt).restarted pStmt,s.this⟩)

theorem resetReady (held : s.this.mpStmt = some pStmt) :
    let t := left (CppSQLite3Statement.reset client s)
    Disturbs (some pStmt) s.world t.world ∧ active pStmt t.world.log = false := by
  have still := (chainDisturbs (some pStmt)).refl s.world
  rw [CppSQLite3Statement.resetStmtApply client held]
  dsimp only
  split
  · exact restartedThen still (reportCalm client _ ⟨s.world.restarted pStmt,s.this⟩)
  · exact restartedThen still ((chainDisturbs none).refl _)

theorem bindReady (ready : active pStmt s.world.log = false) (held : s.this.mpStmt = some pStmt) (kind : String)
    (nParam : Int) (value : Parameter) : let t := left (CppSQLite3Statement.bindAs client kind nParam value s)
    Disturbs (some pStmt) s.world t.world ∧ active pStmt t.world.log = false := by
  have bound (rc : Int) : Disturbs (some pStmt) s.world (s.world.push ⟨.bind pStmt nParam value,rc⟩) := by
    refine ⟨fun _ _ => rfl,fun never => ⟨fun id n v same => ?_,never⟩⟩
    cases same
    exact ready
  rw [CppSQLite3Statement.bindAsApply client held]
  dsimp only
  split
  · exact ⟨bound _,ready⟩
  · exact ⟨bound _,ready⟩

end Requests

theorem requestNone {request : CppSQLite3Statement.Request} {s : Scope World CppSQLite3Statement}
    (none : s.this.mpStmt = none) : left (CppSQLite3Statement.perform client request s) = s := by
  have check := CppSQLite3Statement.checkStmtNone none
  have binds (kind : String) (nParam : Int) (value : Parameter) :
      left (CppSQLite3Statement.bindAs client kind nParam value s) = s := by
    simp only [CppSQLite3Statement.bindAs,bindApply,check]
    rfl
  cases request with
  | bindString nParam szValue | bindInt nParam nValue | bindDouble nParam dValue | bindBlob nParam blobValue
  | bindNull nParam => exact binds _ _ _
  | reset =>
    rw [CppSQLite3Statement.perform,CppSQLite3Statement.resetNone client none]
    rfl
  | clear =>
    rw [CppSQLite3Statement.perform,CppSQLite3Statement.clearNone client none]
    rfl
  | execDML =>
    simp only [CppSQLite3Statement.perform,CppSQLite3Statement.execDML,bindApply]
    cases opened : s.this.mpDB with
    | none =>
      rw [CppSQLite3Statement.checkDBClosed opened]
      rfl
    | some pDB =>
      rw [CppSQLite3Statement.checkDBApply opened]
      dsimp only
      rw [check]
      rfl

/-- A request disturbs no other statement, and leaves its own reset. -/
theorem requestReady (request : CppSQLite3Statement.Request) {s : Scope World CppSQLite3Statement}
    (ready : Reset s.world s.this) : let t := left (CppSQLite3Statement.perform client request s)
    Disturbs s.this.mpStmt s.world t.world ∧ Reset t.world t.this := by
  cases held : s.this.mpStmt with
  | none =>
    rw [requestNone client held]
    exact ⟨(chainDisturbs _).refl _,ready⟩
  | some pStmt =>
    have own := ready pStmt held
    have reset {r : CppSQLite3Statement.Request} (other : r ≠ .clear)
        (after : let t := left (CppSQLite3Statement.perform client r s)
          Disturbs (some pStmt) s.world t.world ∧ active pStmt t.world.log = false) :
        let t := left (CppSQLite3Statement.perform client r s)
        Disturbs (some pStmt) s.world t.world ∧ Reset t.world t.this := by
      refine ⟨after.1,fun id same => ?_⟩
      rw [requestKeeps client other,held] at same
      cases same
      exact after.2
    cases request with
    | bindString nParam szValue => exact reset nofun (bindReady client own held _ _ _)
    | bindInt nParam nValue => exact reset nofun (bindReady client own held _ _ _)
    | bindDouble nParam dValue => exact reset nofun (bindReady client own held _ _ _)
    | bindBlob nParam blobValue => exact reset nofun (bindReady client own held _ _ _)
    | bindNull nParam => exact reset nofun (bindReady client own held _ _ _)
    | reset => exact reset nofun (resetReady client held)
    | execDML =>
      refine reset nofun ?_
      simp only [CppSQLite3Statement.perform,leftBindPure]
      exact execDMLReady client own held
    | clear =>
      refine ⟨disturbsMore (settlesLeft (CppSQLite3Statement.settlesRequest (chainDisturbs none) .clear
        fun c w v makes called => calledCalm ?_ called) s) _,fun id same => ?_⟩
      · cases c <;> first | rfl | cases makes
      · rw [CppSQLite3Statement.perform,(clearStatement client s).2] at same
        cases same

theorem runReady {s : Scope World CppSQLite3Statement} (ready : Reset s.world s.this) :
    let t := left (CppSQLite3Statement.execQuery client s)
    Disturbs s.this.mpStmt s.world t.world ∧ Reset t.world t.this := by
  cases opened : s.this.mpDB with
  | none =>
    simp only [CppSQLite3Statement.execQuery,bindApply,CppSQLite3Statement.checkDBClosed opened]
    exact ⟨(chainDisturbs _).refl _,ready⟩
  | some pDB =>
    cases held : s.this.mpStmt with
    | none =>
      simp only [CppSQLite3Statement.execQuery,bindApply,CppSQLite3Statement.checkDBApply opened,
        CppSQLite3Statement.checkStmtNone held]
      exact ⟨(chainDisturbs _).refl _,ready⟩
    | some pStmt =>
      have stepped := steppedDisturbs client s.world pStmt
      by_cases fine : (advance client s.world.log pStmt (s.world.stmts pStmt)).1 = SQLITE_ROW ∨
          (advance client s.world.log pStmt (s.world.stmts pStmt)).1 = SQLITE_DONE
      · rw [CppSQLite3Statement.execQueryApply client opened held fine]
        exact ⟨stepped,fun _ own => by cases own⟩
      · rw [CppSQLite3Statement.execQueryFails client opened held fine]
        obtain ⟨disturbs,own⟩ := restartedThen stepped ((chainDisturbs none).refl _)
        refine ⟨disturbs,fun id same => ?_⟩
        cases held.symm.trans same
        exact own

end Objects

section Databases
variable (client : Client)

/-- Either no statement was disturbed, or the one that was issued. -/
def Starts (w v : World) : Prop := Disturbs none w v ∨ (v.nStmts = w.nStmts + 1 ∧ Disturbs (some w.nStmts) w v)

theorem abandonedCalm (pDB : Nat) (pStmt : Option Nat) (w : World) :
    Disturbs none w (CppSQLite3DB.abandoned client pDB pStmt w) := by
  have after (v : World) (rc : Int) (message : Message) :
      Disturbs none v ((v.push ⟨.errmsg (some pDB),SQLITE_OK⟩).raised rc message true) :=
    (chainDisturbs none).trans _ _ _ (pushCalm (c := .errmsg (some pDB)) rfl _ _) (raisedCalm _ _ _ _)
  exact (chainDisturbs none).trans _ _ _ (pushCalm (c := .finalize pStmt) rfl _ _) (after _ _ _)

theorem preparedCalm (w : World) (pDB : Nat) (szSQL : CString) : Disturbs none w (w.prepared client pDB szSQL) :=
  calledCalm (c := .prepare pDB szSQL) rfl (calledPrepare client w pDB szSQL)

theorem execQueryStarts (szSQL : CString) (s : Scope World CppSQLite3DB) :
    Starts s.world (left (CppSQLite3DB.execQuery client szSQL s)).world := by
  cases opened : s.this.mpDB with
  | none =>
    rw [CppSQLite3DB.execQueryClosed client opened]
    exact .inl ((chainDisturbs none).refl _)
  | some pDB =>
    have prepared := preparedCalm client s.world pDB szSQL
    by_cases ok : (client.prepare s.world.log pDB szSQL).rc = SQLITE_OK
    · cases columns : (client.prepare s.world.log pDB szSQL).columns with
      | none =>
        obtain ⟨e,fails⟩ := CppSQLite3DB.execQueryEmpty client opened ok columns
        rw [fails]
        refine .inl ((chainDisturbs none).trans _ _ _ prepared ?_)
        exact (chainDisturbs none).trans _ _ _ (pushCalm (c := .step none) rfl _ _) (abandonedCalm client pDB none _)
      | some names =>
        have compiled : Disturbs none s.world (CppSQLite3DB.compiled s.world pDB szSQL names) :=
          calledCalm (c := .prepare pDB szSQL) rfl ⟨⟨SQLITE_OK,rfl⟩,.inr ⟨pDB,szSQL,rfl⟩,.inl rfl,.inl rfl⟩
        have stepped := (chainDisturbs _).trans _ _ _ (disturbsMore compiled (some s.world.nStmts))
          (steppedDisturbs client (CppSQLite3DB.compiled s.world pDB szSQL names) s.world.nStmts)
        by_cases fine : (advance client (CppSQLite3DB.compiled s.world pDB szSQL names).log s.world.nStmts
              ((CppSQLite3DB.compiled s.world pDB szSQL names).stmts s.world.nStmts)).1 = SQLITE_ROW ∨
            (advance client (CppSQLite3DB.compiled s.world pDB szSQL names).log s.world.nStmts
              ((CppSQLite3DB.compiled s.world pDB szSQL names).stmts s.world.nStmts)).1 = SQLITE_DONE
        · rw [CppSQLite3DB.execQueryApply client opened ok columns fine]
          exact .inr ⟨rfl,stepped⟩
        · obtain ⟨e,fails⟩ := CppSQLite3DB.execQueryFails client opened ok columns fine
          rw [fails]
          have released := abandonedReleased client pDB (some s.world.nStmts)
            ((CppSQLite3DB.compiled s.world pDB szSQL names).stepped client s.world.nStmts)
          have calm := disturbsMore (abandonedCalm client pDB (some s.world.nStmts)
            ((CppSQLite3DB.compiled s.world pDB szSQL names).stepped client s.world.nStmts)) (some s.world.nStmts)
          exact .inr ⟨released.1,(chainDisturbs _).trans _ _ _ stepped calm⟩
    · obtain ⟨e,fails⟩ := CppSQLite3DB.execQueryUnprepared client opened ok
      rw [fails]
      exact .inl ((chainDisturbs none).trans _ _ _ prepared (pushCalm (c := .errmsg (some pDB)) rfl _ _))

theorem execScalarStarts (szSQL : CString) (nNullValue : Int) (s : Scope World CppSQLite3DB) :
    Starts s.world (left (CppSQLite3DB.execScalar client szSQL nNullValue s)).world := by
  have first := execQueryStarts client szSQL s
  simp only [CppSQLite3DB.execScalar,bindApply]
  cases result : CppSQLite3DB.execQuery client szSQL s with
  | error e t =>
    rw [result] at first
    exact first
  | ok q t =>
    rw [result] at first
    simp only [leftLocal,CppSQLite3DB.scalarStill]
    have cleared := clearCalm client ⟨t.world,q⟩
    have issued : (left (CppSQLite3Query.clear client ⟨t.world,q⟩)).world.nStmts = t.world.nStmts :=
      (clearFinalizes client ⟨t.world,q⟩).1.1
    obtain calm | ⟨more,disturbs⟩ := first
    · exact .inl ((chainDisturbs none).trans _ _ _ calm cleared)
    · exact .inr ⟨issued.trans more,(chainDisturbs _).trans _ _ _ disturbs (disturbsMore cleared _)⟩

theorem operationStarts (op : CppSQLite3DB.Operation) (s : Scope World CppSQLite3DB) :
    Starts s.world (left (CppSQLite3DB.perform client op s)).world ∧
    ∀ o t, CppSQLite3DB.perform client op s = .ok (.statement o) t → Disturbs none s.world t.world := by
  have aside {op : CppSQLite3DB.Operation} (other : ∀ c, op.makes c → calm c) :
      Disturbs none s.world (left (CppSQLite3DB.perform client op s)).world :=
    settlesLeft (CppSQLite3DB.settlesOperation (chainDisturbs none) op fun c _ _ makes => calledCalm (other c makes)) s
  have quiet {op : CppSQLite3DB.Operation} (other : ∀ c, op.makes c → calm c) :
      Starts s.world (left (CppSQLite3DB.perform client op s)).world ∧
      ∀ o t, CppSQLite3DB.perform client op s = .ok (.statement o) t → Disturbs none s.world t.world := by
    refine ⟨.inl (aside other),fun o t returns => ?_⟩
    have calm := aside other
    rw [returns] at calm
    exact calm
  have plain {α : Type} {m : Op CppSQLite3DB α} {g : α → CppSQLite3DB.Returned}
      (starts : Starts s.world (left (m s)).world) (never : ∀ a o, g a ≠ .statement o) :
      Starts s.world (left ((do return g (← m) : Op CppSQLite3DB _) s)).world ∧
      ∀ o t, (do return g (← m) : Op CppSQLite3DB _) s = .ok (.statement o) t → Disturbs none s.world t.world := by
    rw [leftBindPure]
    refine ⟨starts,fun o t returns => ?_⟩
    rw [bindApply] at returns
    cases result : m s with
    | ok a u =>
      rw [result] at returns
      injection returns with same
      exact absurd same (never a o)
    | error e u =>
      rw [result] at returns
      cases returns
  cases op with
  | execQuery szSQL => exact plain (execQueryStarts client szSQL s) nofun
  | execScalar szSQL nNullValue => exact plain (execScalarStarts client szSQL nNullValue s) nofun
  | tableExists szTable =>
    refine plain (m := CppSQLite3DB.tableExists client szTable) ?_ nofun
    simp only [CppSQLite3DB.tableExists,leftBindPure]
    exact execScalarStarts client _ 0 s
  | _ => exact quiet fun c makes => by cases c <;> first | rfl | cases makes

end Databases

section Systems
variable {client : Client} {s t : System}

/-- What every command keeps: no statement is owned twice, none is active before it is issued,
and the objects keep theirs reset. -/
structure Kept (s : System) : Prop where
  books : BooksSound s
  unissued : ∀ id, s.world.nStmts ≤ id → active id s.world.log = false
  bindable : Bindable s

theorem unissuedKept (kept : Kept s) {h : Holder} (same : t.world.nStmts = s.world.nStmts)
    (disturbs : Disturbs (heldStatement s h) s.world t.world) (id : Nat) (new : t.world.nStmts ≤ id) :
    active id t.world.log = false := by
  rw [same] at new
  rw [disturbs.others id fun own => ?_]
  · exact kept.unissued id new
  · have below : id < s.world.nStmts := kept.books.statements.below h id own
    omega

theorem resetAside (kept : Kept s) {h : Holder} {v : World} (disturbs : Disturbs (heldStatement s h) s.world v)
    {j : Nat} {o : CppSQLite3Statement} (live : s.statements j = some o) (apart : Holder.statement j ≠ h) :
    Reset v o := by
  intro id own
  have holds : heldStatement s (.statement j) = some id := by simp [heldStatement,live,own]
  rw [disturbs.others id fun same => apart (kept.books.statements.apart _ _ id holds same)]
  exact kept.bindable.statements j o live id own

theorem resetPut (kept : Kept s) (i : Nat) {v : World} (disturbs : Disturbs (heldStatement s (.statement i)) s.world v)
    {x : Option CppSQLite3Statement} (new : ∀ o ∈ x, Reset v o) :
    All (Reset v) (Function.update s.statements i x) := by
  intro j o live
  by_cases own : j = i
  · subst own
    rw [Function.update_self] at live
    exact new o live
  · rw [Function.update_of_ne own] at live
    exact resetAside kept disturbs live fun same => own (Holder.statement.inj same)

theorem resetCalm (kept : Kept s) {v : World} (calm : Disturbs none s.world v) : All (Reset v) s.statements := by
  intro j o live id own
  rw [calmOthers calm id]
  exact kept.bindable.statements j o live id own

theorem keptOf (kept : Kept s) (books : BooksSound t) (issued : t.world.nStmts = s.world.nStmts) {h : Holder}
    (disturbs : Disturbs (heldStatement s h) s.world t.world) (all : All (Reset t.world) t.statements) : Kept t :=
  ⟨books,unissuedKept kept issued disturbs,all,disturbs.binds kept.bindable.binds⟩

theorem keptCalm (kept : Kept s) (books : BooksSound t) (issued : t.world.nStmts = s.world.nStmts)
    (calm : Disturbs none s.world t.world) (all : All (Reset t.world) t.statements) : Kept t :=
  keptOf kept books issued (disturbsMore calm (heldStatement s (.query 0))) all

def operates : Command → Bool
  | .operate _ _ _ => true
  | _ => false

theorem stepIssued {cmd : Command} (other : operates cmd = false) :
    (step client s cmd).world.nStmts = s.world.nStmts := by
  refine stepWorld (chainEq World.nStmts) s cmd fun c w v makes called => called.stmts.resolve_right ?_
  rintro ⟨conn,sql,rfl⟩
  cases cmd with
  | operate k i op => cases other
  | statement i request => cases request <;> cases makes
  | _ => cases makes

theorem obtainedIssued {x : Option Nat} {w v : World} (obtained : statements.Obtained x w v) :
    w.nStmts ≤ v.nStmts ∧ ∀ id, x = some id → id = w.nStmts := by
  obtain ⟨same,none⟩ | ⟨more,_,new⟩ | ⟨more,_,none⟩ := obtained
  · refine ⟨Nat.le_of_eq same.1.symm,fun id own => ?_⟩
    rw [none] at own
    cases own
  · refine ⟨(Nat.le_succ _).trans (Nat.le_of_eq more.symm),fun id own => ?_⟩
    cases new.symm.trans own
    rfl
  · refine ⟨(Nat.le_succ _).trans (Nat.le_of_eq more.symm),fun id own => ?_⟩
    rw [none] at own
    cases own

theorem startsUnissued (kept : Kept s) {v : World} (starts : Starts s.world v) (grows : s.world.nStmts ≤ v.nStmts)
    (id : Nat) (new : v.nStmts ≤ id) : active id v.log = false := by
  have before := kept.unissued id (grows.trans new)
  obtain calm | ⟨more,disturbs⟩ := starts
  · rw [calmOthers calm id,before]
  · rw [disturbs.others id fun same => ?_,before]
    cases same
    omega

theorem startsReset (kept : Kept s) {v : World} (starts : Starts s.world v) : All (Reset v) s.statements := by
  intro j o live id own
  have before := kept.bindable.statements j o live id own
  have holds : heldStatement s (.statement j) = some id := by simp [heldStatement,live,own]
  have below : id < s.world.nStmts := kept.books.statements.below (.statement j) id holds
  obtain calm | ⟨_,disturbs⟩ := starts
  · rw [calmOthers calm id,before]
  · rw [disturbs.others id fun same => ?_,before]
    cases same
    omega

theorem keptOperate (kept : Kept s) (k i : Nat) (op : CppSQLite3DB.Operation) : Kept (step client s (.operate k i op)) := by
  have books := booksStep client s (.operate k i op) kept.books
  obtain ⟨starts,returned⟩ := operationStarts client op ⟨s.world,s.databases k⟩
  obtain ⟨grows,fresh⟩ := obtainedIssued (operationStatements client op ⟨s.world,s.databases k⟩)
  simp only [step] at books ⊢
  split at books
  case isFalse no => rwa [if_neg no]
  case isTrue named =>
    rw [if_pos named]
    have world := operatedWorld (s := s) (k := k) (i := i) (CppSQLite3DB.perform client op ⟨s.world,s.databases k⟩)
    have binds := starts.elim Disturbs.binds fun issued => issued.2.binds
    refine ⟨books,?_,?_,?_⟩
    · rw [world]
      exact startsUnissued kept starts grows
    · rw [world]
      have old := startsReset kept starts
      cases result : CppSQLite3DB.perform client op ⟨s.world,s.databases k⟩ with
      | error e t =>
        rw [result] at old
        exact old
      | ok r t =>
        rw [result] at old fresh
        cases r with
        | statement o =>
          refine allPut old i fun id own => ?_
          rw [leftOk,calmOthers (returned o t result) id]
          exact kept.unissued id (Nat.le_of_eq (fresh id own).symm)
        | _ => exact old
    · rw [world]
      exact binds kept.bindable.binds

theorem keptPlain (kept : Kept s) {cmd : Command} (apart : operates cmd = false)
    (calm : Disturbs none s.world (step client s cmd).world)
    (same : (step client s cmd).statements = s.statements) : Kept (step client s cmd) := by
  refine keptCalm kept (booksStep client s cmd kept.books) (stepIssued apart) calm ?_
  rw [same]
  exact resetCalm kept calm

theorem keptQuery (kept : Kept s) (i : Nat) (request : CppSQLite3Query.Request) :
    Kept (step client s (.query i request)) := by
  have disturbs : Disturbs (heldStatement s (.query i)) s.world (step client s (.query i request)).world := by
    simp only [step]
    split
    · rename_i q live
      have own : heldStatement s (.query i) = q.mpStmt := by simp [heldStatement,live]
      rw [own]
      exact queryDisturbs client request ⟨s.world,q⟩
    · exact (chainDisturbs _).refl _
  have same : (step client s (.query i request)).statements = s.statements := by
    simp only [step]
    split <;> rfl
  refine keptOf kept (booksStep client s _ kept.books) (stepIssued rfl) disturbs ?_
  rw [same]
  exact fun j o live => resetAside kept disturbs live fun same => by cases same

theorem keptStatement (kept : Kept s) (i : Nat) (request : CppSQLite3Statement.Request) :
    Kept (step client s (.statement i request)) := by
  have books := booksStep client s (.statement i request) kept.books
  have issued : (step client s (.statement i request)).world.nStmts = s.world.nStmts := stepIssued rfl
  cases live : s.statements i with
  | none =>
    simp only [step,live]
    exact kept
  | some o =>
    simp only [step,live] at books issued ⊢
    have own : heldStatement s (.statement i) = o.mpStmt := by simp [heldStatement,live]
    obtain ⟨disturbs,reset⟩ := requestReady client request (s := ⟨s.world,o⟩) (kept.bindable.statements i o live)
    rw [← own] at disturbs
    exact keptOf kept books issued disturbs (resetPut kept i disturbs fun p same => by cases same; exact reset)

theorem keptRun (kept : Kept s) (i k : Nat) : Kept (step client s (.execQuery i k)) := by
  have books := booksStep client s (.execQuery i k) kept.books
  have issued : (step client s (.execQuery i k)).world.nStmts = s.world.nStmts := stepIssued rfl
  cases free : s.queries i with
  | some q =>
    simp only [step,free]
    exact kept
  | none =>
    cases live : s.statements k with
    | none =>
      simp only [step,free,live]
      exact kept
    | some o =>
      simp only [step,free,live] at books issued ⊢
      have own : heldStatement s (.statement k) = o.mpStmt := by simp [heldStatement,live]
      obtain ⟨disturbs,reset⟩ := runReady client (s := ⟨s.world,o⟩) (kept.bindable.statements k o live)
      rw [← own] at disturbs
      have all := resetPut kept k disturbs fun p (same : p ∈ some _) => by cases same; exact reset
      cases result : CppSQLite3Statement.execQuery client ⟨s.world,o⟩ with
      | ok q t =>
        rw [result] at books issued disturbs all
        exact keptOf kept books issued disturbs all
      | error e t =>
        rw [result] at books issued disturbs all
        exact keptOf kept books issued disturbs all

/-- One command keeps every statement object that owns its statement ready to be bound. -/
theorem stepKept (s : System) (cmd : Command) (kept : Kept s) : Kept (step client s cmd) := by
  have books := booksStep client s cmd kept.books
  have aside (other : ∀ c, cmd.makes c → calm c) : Disturbs none s.world (step client s cmd).world :=
    stepWorld (chainDisturbs none) s cmd fun c _ _ makes => calledCalm (other c makes)
  cases cmd with
  | operate k i op => exact keptOperate kept k i op
  | query i request => exact keptQuery kept i request
  | statement i request => exact keptStatement kept i request
  | execQuery i k => exact keptRun kept i k
  | newQuery i | copyQuery i j | newResultSet i | copyResultSet i j | nextRow i | seekRow i nRow =>
    refine keptPlain kept rfl (aside fun _ makes => absurd makes Bool.false_ne_true) ?_
    simp only [step]
    split <;> rfl
  | clearResultSet i | destroyResultSet i =>
    refine keptPlain kept rfl (aside fun c makes => by cases c <;> first | rfl | cases makes) ?_
    simp only [step]
    split <;> rfl
  | assignResultSet i j =>
    refine keptPlain kept rfl (aside fun c makes => by cases c <;> first | rfl | cases makes) ?_
    simp only [step]
    split
    · rfl
    · split <;> rfl
  | destroyQuery i =>
    have calm : Disturbs none s.world (step client s (.destroyQuery i)).world := by
      simp only [step]
      split
      · exact clearCalm client ⟨s.world,_⟩
      · exact (chainDisturbs none).refl _
    refine keptPlain kept rfl calm ?_
    simp only [step]
    split <;> rfl
  | assignQuery i j =>
    have calm : Disturbs none s.world (step client s (.assignQuery i j)).world := by
      simp only [step]
      split
      · exact (chainDisturbs none).refl _
      · split
        · simp only [System.setQueries,assignedWorld]
          exact clearCalm client ⟨s.world,_⟩
        · exact (chainDisturbs none).refl _
    refine keptPlain kept rfl calm ?_
    simp only [step]
    split
    · rfl
    · split <;> rfl
  | destroyStatement i =>
    have calm := aside fun c makes => by cases c <;> first | rfl | cases makes
    refine keptCalm kept books (stepIssued rfl) calm ?_
    have all := resetCalm kept calm
    cases live : s.statements i with
    | none =>
      simp only [step,live] at all ⊢
      exact all
    | some o =>
      simp only [step,live] at all ⊢
      exact allRemoved all i
  | newStatement i =>
    refine keptCalm kept books (stepIssued rfl) (aside fun _ makes => absurd makes Bool.false_ne_true) ?_
    have all := kept.bindable.statements
    simp only [step]
    split
    · exact allPut all i fun _ own => by cases own
    · exact all
  | copyStatement i j =>
    refine keptCalm kept books (stepIssued rfl) (aside fun _ makes => absurd makes Bool.false_ne_true) ?_
    have all := kept.bindable.statements
    simp only [step]
    split
    · rename_i r _ source
      exact allCopied all i j (all j r source) fun _ own => by cases own
    · exact all
  | assignStatement i j =>
    refine keptCalm kept books (stepIssued rfl) (aside fun _ makes => absurd makes Bool.false_ne_true) ?_
    have all := kept.bindable.statements
    simp only [step]
    split
    · exact all
    · split
      · rename_i q r _ source
        exact allCopied all i j (all j r source) fun _ own => by cases own
      · exact all

theorem initialKept : Kept .initial :=
  ⟨initialBooks.1,fun _ _ => rfl,⟨nofun,trivial⟩⟩

/-- In every run a statement object leaves the statement it owns reset since it was last stepped, and
no bind finds its statement active. -/
theorem statementsReady (client : Client) (cmds : List Command) :
    Throughout (step client) Bindable .initial cmds :=
  throughoutMono (fun _ => Kept.bindable) (invariantThroughout stepKept initialKept cmds)

end Systems
end DatabaseLayer.SQLiteReady
