import DatabaseLayer.Foundation.Run
import DatabaseLayer.MySQLRules

/-! The command protocol of a connection: no command may go out while a result waits to
be stored. The operations that run a statement without fetching are the ones to watch. -/
namespace DatabaseLayer.MySQLReady
open Platform MySQLClient Foundation.Program Foundation.Run MySQLRules CppMySQLDB

/-- Every command of the connection was issued in the ready state. -/
def InOrder (conn : Option Nat) : History → Prop
  | [] => True
  | e :: es => (e.conn = conn → isCommand e.call = true → status conn es = .ready) ∧ InOrder conn es

/-- And the next command would be. -/
def InSync (conn : Option Nat) (h : History) : Prop := status conn h = .ready ∧ InOrder conn h

instance (conn) : DecidablePred (InOrder conn)
  | [] => isTrue trivial
  | _ :: es => @instDecidableAnd _ _ _ (instDecidablePredHistoryInOrder conn es)
instance (conn h) : Decidable (InSync conn h) := by unfold InSync; infer_instance

/-- The connection an object holds is in sync; a closed object holds none. -/
def Ready (s : Scope World CppMySQLDB) : Prop :=
  ∀ conn, s.this.mpDB = some conn → InSync (some conn) s.world.log

/-- A statement accepted with result columns. -/
def YieldsColumns (r : Reply) : Prop := r.rc = 0 ∧ 0 < r.columns
instance (r) : Decidable (YieldsColumns r) := by unfold YieldsColumns; infer_instance

def LeavesResult (e : Entry) : Prop := match e.call with
  | .realQuery _ => YieldsColumns e.reply
  | _ => False

theorem inSyncCons {conn : Option Nat} {e : Entry} {h : History} (sync : InSync conn h) :
    InSync conn (e :: h) ↔ ¬ (e.conn = conn ∧ LeavesResult e) := by
  have order : InOrder conn (e :: h) := ⟨fun _ _ => sync.1,sync.2⟩
  simp only [InSync,order,and_true]
  by_cases own : e.conn = conn
  · obtain ⟨conn',call,reply⟩ := e
    cases call <;> simp [status,LeavesResult,YieldsColumns,sync.1]
  · simp [status,own,sync.1]

theorem inSyncStored {conn : Option Nat} {e f : Entry} {h : History} (sync : InSync conn h)
    (own : e.conn = conn) (stores : e.call = .storeResult) : InSync conn (e :: f :: h) := by
  refine ⟨by simp [status,own,stores],?_,fun _ _ => sync.1,sync.2⟩
  intro _ command
  rw [stores] at command
  cases command

section Step
variable (client : Client)

def step (s : Scope World CppMySQLDB) (op : Operation) : Scope World CppMySQLDB :=
  left (perform client op s)

/-- The statement an operation sends without fetching yields no columns. -/
def NothingToFetch (s : Scope World CppMySQLDB) (op : Operation) : Prop :=
  ∀ sql ∈ op.statement s, ¬ YieldsColumns (reply client s (.realQuery sql))

variable {client}

theorem fetchedInSync (szSQL : CString) {s : Scope World CppMySQLDB} (ready : Ready s) {conn : Nat}
    (held : s.this.mpDB = some conn) : InSync (some conn) (fetchedLog client szSQL s) := by
  have sync := ready conn held
  unfold fetchedLog
  split
  · split
    · exact inSyncStored sync held rfl
    · rename_i refused
      refine (inSyncCons sync).mpr ?_
      rintro ⟨_,rc,_⟩
      exact refused rc
  · exact sync

theorem freedInSync {conn : Nat} {h later : History} (freed : Freed h later)
    (sync : InSync (some conn) h) : InSync (some conn) later := by
  obtain rfl | ⟨res,rfl⟩ := freed
  · exact sync
  · exact (inSyncCons sync).mpr (fun both => by cases both.1)

theorem scalarReady (szSQL : CString) (nNullValue : Int) {s : Scope World CppMySQLDB} (ready : Ready s) :
    Ready (left (execScalar client szSQL nNullValue s)) := by
  obtain ⟨freed,this⟩ := execScalarLeft client szSQL nNullValue s
  intro conn held
  rw [this] at held
  exact freedInSync freed (fetchedInSync szSQL ready held)

theorem tableReady (szTable : CString) {s : Scope World CppMySQLDB} (ready : Ready s) :
    Ready (left (tableExists client szTable s)) := by
  rw [tableExistsApply]
  split
  · split
    · exact ready
    · rw [leftBindPure]
      exact scalarReady _ 0 ready
  · exact ready

theorem pushReady {s : Scope World CppMySQLDB} (ready : Ready s) {e : Entry} (plain : ¬ LeavesResult e) :
    Ready ⟨s.world.push e,s.this⟩ :=
  fun conn held => (inSyncCons (ready conn held)).mpr (fun both => plain both.2)

def KeepsReady (s t : Scope World CppMySQLDB) : Prop := Ready s → Ready t

theorem chainReady : Chain KeepsReady :=
  ⟨fun _ ready => ready,fun _ _ _ first rest ready => rest (first ready)⟩

theorem quietReady {op : Operation} (quiet : op.quiet) : Settles (fun _ => False) KeepsReady (perform client op) := by
  refine settlesQuiet chainReady ?push ?named ?own quiet
  case push =>
    intro s conn c hc ready
    refine pushReady ready ?_
    cases c <;> simp [quietCall,LeavesResult] at hc ⊢
  case named => exact fun s name ready => ready
  case own =>
    intro s db kept ready conn held
    obtain closed | same := kept
    · rw [closed] at held
      cases held
    · exact ready conn (same ▸ held)

theorem sentInSync (client : Client) {conn conn' : Nat} {w : World} (sync : InSync (some conn) w.log) {c : Call}
    (plain : ∀ sql, c ≠ .realQuery sql) :
    InSync (some conn) (CppMySQLStatement.sent client w conn' c).log := by
  refine (inSyncCons sync).mpr ?_
  rintro ⟨_,leaves⟩
  cases c <;> first | exact plain _ rfl | exact leaves

theorem compileReady (szSQL : CString) {s : Scope World CppMySQLDB} (ready : Ready s) :
    Ready (left (compileStatement client szSQL s)) := by
  simp only [compileStatement,bindApply,handleApply,CppMySQLStatement.compileApply]
  cases handle : s.this.mpDB with
  | none => exact ready
  | some own =>
    let w := (CppMySQLStatement.sent client s.world own .stmtInit).initStmt
    have first (conn) (held : s.this.mpDB = some conn) : InSync (some conn) w.log :=
      sentInSync client (ready conn held) (by simp)
    have second (conn) (held : s.this.mpDB = some conn) : InSync (some conn)
        (CppMySQLStatement.sent client w own (.stmtPrepare s.world.nStmts szSQL)).log :=
      sentInSync client (first conn held) (by simp)
    dsimp only
    split
    · split
      · exact second
      · exact fun conn held => sentInSync client (second conn held) (by simp)
    · exact first

theorem countedReady (s : Scope World CppMySQLDB) : Ready (asked client s .affectedRows) ↔ Ready s := by
  refine forall_congr' fun conn => forall_congr' fun _ => ?_
  simp [InSync,InOrder,asked,status,isCommand]

theorem unfetchedReady {op : Operation} (unfetched : op.unfetched) {s : Scope World CppMySQLDB}
    (ready : Ready s) : Ready (step client s op) ↔ NothingToFetch client s op := by
  obtain ⟨world,held⟩ := unfetchedLeft client unfetched s
  have same : ∀ t : Scope World CppMySQLDB, t.this.mpDB = s.this.mpDB →
      t.world = ranUnfetched client op s → (Ready (step client s op) ↔ Ready t) := by
    intro t mine ran
    unfold Ready step
    rw [world,held,mine,ran]
  cases sends : op.statement s with
  | none =>
    have kept : s.world = ranUnfetched client op s := by simp [ranUnfetched,sends]
    rw [same s rfl kept]
    exact iff_of_true ready (fun sql hs => by simp [sends] at hs)
  | some sql =>
    have query : Ready (asked client s (.realQuery sql)) ↔ NothingToFetch client s op := by
      obtain ⟨conn,held⟩ := Option.ne_none_iff_exists'.mp (statementConnected sends)
      have exact : Ready (asked client s (.realQuery sql)) ↔
          InSync (some conn) (asked client s (.realQuery sql)).world.log := by
        simp [Ready,held]
      rw [exact]
      refine (inSyncCons (ready conn held)).trans ?_
      simp [NothingToFetch,sends,held,LeavesResult,reply]
    unfold ranUnfetched at same
    simp only [sends] at same
    split at same
    · rw [same (asked client (asked client s (.realQuery sql)) .affectedRows) rfl rfl,countedReady,query]
    · rw [same (asked client s (.realQuery sql)) rfl rfl,query]

theorem readyStep (s : Scope World CppMySQLDB) (op : Operation) (ready : Ready s) :
    Ready (step client s op) ↔ NothingToFetch client s op := by
  have nothing : op.statement s = none → NothingToFetch client s op := by
    intro h sql hs
    rw [h] at hs
    cases hs
  have fetched : ∀ (szSQL : CString) (t : Scope World CppMySQLDB),
      t.world.log = fetchedLog client szSQL s ∧ t.this = s.this → Ready t := by
    rintro szSQL t ⟨log,this⟩ conn held
    rw [log]
    exact fetchedInSync szSQL ready (this ▸ held)
  cases op with
  | execDML | startTransaction | createDB | dropDB => exact unfetchedReady rfl ready
  | execQuery szSQL =>
    refine iff_of_true (fetched szSQL _ ?_) (nothing rfl)
    simpa only [step,perform,leftBindPure] using execQueryLeft client szSQL s
  | getResultSet szSQL =>
    refine iff_of_true (fetched szSQL _ ?_) (nothing rfl)
    simpa only [step,perform,leftBindPure] using getResultSetLeft client szSQL s
  | execScalar szSQL nNullValue =>
    refine iff_of_true ?_ (nothing rfl)
    simpa only [step,perform,leftBindPure] using scalarReady szSQL nNullValue ready
  | tableExists szTable =>
    refine iff_of_true ?_ (nothing rfl)
    simpa only [step,perform,leftBindPure] using tableReady szTable ready
  | compileStatement szSQL =>
    refine iff_of_true ?_ (nothing rfl)
    simpa only [step,perform,leftBindPure] using compileReady szSQL ready
  | _ => exact iff_of_true (settlesLeft (quietReady rfl) s ready) (nothing rfl)

end Step

/-- An object that starts ready is ready after every operation of a run, each command of its
connection having gone out in the ready state, exactly when no statement of the run that
is sent without fetching yields result columns. -/
theorem readyIffNothingToFetch (client : Client) (s : Scope World CppMySQLDB) (ready : Ready s)
    (ops : List Operation) :
    Throughout (step client) Ready s ops ↔ Guarded (step client) (NothingToFetch client) s ops :=
  throughoutIffGuarded (I := fun _ => True) (fun _ _ _ => trivial) (fun t op _ => readyStep t op)
    trivial ready ops

theorem openedReady : Ready (opened 0 (text "test")) := by
  intro conn held
  cases held
  decide

/-- A server that answers the text `select 1` with one result column. -/
def selecting : Client :=
  ⟨fun _ _ call => if call = .realQuery (text "select 1") then {success with columns := 1} else success⟩

theorem readyIffNothingToFetchPair :
    Throughout (step selecting) Ready (opened 0 (text "test")) [.execQuery (text "select 1"),.commitTransaction] ↔
      Guarded (step selecting) (NothingToFetch selecting) (opened 0 (text "test"))
        [.execQuery (text "select 1"),.commitTransaction] :=
  readyIffNothingToFetch selecting _ openedReady _

/-- A select run by execDML leaves its result behind, and the commit after it goes out over it. -/
theorem commandOverPendingResult :
    ¬ Throughout (step selecting) Ready (opened 0 (text "test")) [.execDML (text "select 1")] ∧
    ¬ InOrder (some 0)
      (run (step selecting) (opened 0 (text "test")) [.execDML (text "select 1"),.commitTransaction]).world.log := by
  refine ⟨fun h => ?_,by decide⟩
  have sync := h _ (List.prefix_refl _) 0 (by decide)
  exact absurd sync (by decide)

end DatabaseLayer.MySQLReady
