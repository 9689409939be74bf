import DatabaseLayer.ExclusiveOwnership
import DatabaseLayer.MySQLConnect
import DatabaseLayer.Foundation.Tenures

/-! The databases beside the objects that come of them. A database owns a connection from
mysql_init to mysql_close, and in no run is a connection or a statement used once it is closed. -/
namespace DatabaseLayer.MySQLLifetimes
open Platform MySQLClient Foundation.Program Foundation.Objects Foundation.Run Foundation.Ledger Foundation.Tenures
open ConnectionString MySQLRules CppMySQLDB MySQLSystem MySQLHandles ExclusiveOwnership
open CppMySQLStatement (sent replied preparing prepared)

/-- The statement a call is on. -/
def target : Call → Option Nat
  | .stmtPrepare stmt _ | .stmtParamCount stmt | .stmtBindParam stmt | .stmtExecute stmt _ => some stmt
  | .stmtAffectedRows stmt | .stmtReset stmt | .stmtClose stmt => some stmt
  | _ => none

/-- The connection a call is on; one on a statement is on none. -/
def line (e : Entry) : Option Nat := if target e.call = none then e.conn else none

def onConnection (id : Nat) (e : Entry) : Bool := line e = some id

def closes (id : Nat) (e : Entry) : Bool := e.conn = some id ∧ e.call = .close

def onStatement (id : Nat) (e : Entry) : Bool := target e.call = some id

def stmtCloses (id : Nat) (e : Entry) : Bool := e.call = .stmtClose id

/-- A call on this connection or this statement at most, that ends neither. -/
structure Within (conn stmt : Option Nat) (e : Entry) : Prop where
  line : ∀ id, line e = some id → conn = some id
  target : ∀ id, target e.call = some id → stmt = some id
  opens : e.call ≠ .close
  stays : ∀ id, e.call ≠ .stmtClose id

/-- Nothing but such calls was made, and nothing was issued. -/
structure Adds (conn stmt : Option Nat) (w v : World) : Prop where
  nConns : v.nConns = w.nConns
  nStmts : v.nStmts = w.nStmts
  log : ∃ new, v.log = new ++ w.log ∧ ∀ e ∈ new, Within conn stmt e

section Adding
variable {conn stmt : Option Nat} {w v : World} {e : Entry}

theorem chainAdds (conn stmt : Option Nat) : Chain (Adds conn stmt) := by
  refine ⟨fun w => ⟨rfl,rfl,[],rfl,nofun⟩,fun w v u first rest => ?_⟩
  obtain ⟨older,log,before⟩ := first.log
  obtain ⟨new,later,after⟩ := rest.log
  refine ⟨rest.nConns.trans first.nConns,rest.nStmts.trans first.nStmts,new ++ older,?_,?_⟩
  · rw [later,log,List.append_assoc]
  · exact List.forall_mem_append.mpr ⟨after,before⟩

theorem addsSame (log : v.log = w.log) (nConns : v.nConns = w.nConns) (nStmts : v.nStmts = w.nStmts) :
    Adds conn stmt w v := ⟨nConns,nStmts,[],log,nofun⟩

theorem addsPush (within : Within conn stmt e) : Adds conn stmt w (w.push e) :=
  ⟨rfl,rfl,[e],rfl,List.forall_mem_singleton.mpr within⟩

/-- A call on no statement, that is neither of the two that end what they are on. -/
def plainCall (c : Call) : Bool := target c = none ∧ c ≠ .close

theorem plainWithin {c : Call} (plain : plainCall c) (r : Reply) : Within conn stmt ⟨conn,c,r⟩ := by
  obtain ⟨off,opens⟩ := of_decide_eq_true plain
  refine ⟨fun id on => ?_,fun id on => ?_,opens,fun id same => ?_⟩
  · simpa only [line,if_pos off] using on
  · rw [off] at on
    cases on
  · cases same
    cases off

theorem freedWithin (res : Nat) (r : Reply) : Within conn stmt ⟨none,.freeResult res,r⟩ :=
  ⟨fun _ => by simp [line],fun _ => by simp [target],by simp,by simp⟩

theorem addsMore {conn' stmt' : Option Nat} (connections : ∀ id, conn = some id → conn' = some id)
    (statements : ∀ id, stmt = some id → stmt' = some id) (adds : Adds conn stmt w v) : Adds conn' stmt' w v := by
  obtain ⟨nConns,nStmts,new,log,within⟩ := adds
  refine ⟨nConns,nStmts,new,log,fun e inside => ?_⟩
  obtain ⟨line,target,opens,stays⟩ := within e inside
  exact ⟨fun id on => connections id (line id on),fun id on => statements id (target id on),opens,stays⟩

end Adding

section Operations
variable {client : Client} {E : Stop → Prop}

/-- The database keeps its connection, and calls on nothing else. -/
def Speaks (s t : Scope World CppMySQLDB) : Prop :=
  t.this.mpDB = s.this.mpDB ∧ Adds s.this.mpDB none s.world t.world

theorem chainSpeaks : Chain Speaks := by
  refine ⟨fun s => ⟨rfl,(chainAdds _ _).refl _⟩,fun s t u first rest => ?_⟩
  obtain ⟨kept,adds⟩ := first
  obtain ⟨still,more⟩ := rest
  rw [kept] at still more
  exact ⟨still,(chainAdds _ _).trans _ _ _ adds more⟩

theorem askedSpeaks (client : Client) (s : Scope World CppMySQLDB) {c : Call} (plain : plainCall c) :
    Speaks s (asked client s c) := ⟨rfl,addsPush (plainWithin plain _)⟩

theorem settlesAsked {α : Type} {c : Call} (plain : plainCall c) {rest : Option Nat → Reply → Op CppMySQLDB α}
    (follows : ∀ mpDB reply, Settles E Speaks (rest mpDB reply)) :
    Settles E Speaks (do
      let mpDB ← handle
      let reply ← call client mpDB c
      rest mpDB reply) := by
  refine ⟨fun s => ?_⟩
  simp only [bindApply,handleApply,callHandle]
  exact endsTrans chainSpeaks (askedSpeaks client s plain) ((follows _ _).ends _)

theorem settlesNamed (szDBName : CString) :
    Settles E Speaks (onWorld (fun w => {w with sDBName := szDBName}) : Op CppMySQLDB Unit) :=
  settlesOnWorld fun _ => ⟨rfl,addsSame rfl rfl rfl⟩

theorem settlesCounted (f : Int → Int) : Settles E Speaks
    (onThis (fun db => {db with mInTransaction := f db.mInTransaction}) : Op CppMySQLDB Unit) :=
  settlesOnThis fun _ => ⟨rfl,(chainAdds _ _).refl _⟩

theorem settlesSetOptions (opt : MysqlOption) (arg : Option CString) :
    Settles E Speaks (setOptions client opt arg) :=
  settlesAsked rfl fun _ _ => settlesIte (fun _ => settlesRaise chainSpeaks _ _) fun _ => settlesPure chainSpeaks _

theorem settlesConnect (host user passwd : CString) (db : Option CString) (port flag : Nat) :
    Settles E Speaks (connect client host user passwd db port flag) :=
  settlesBind chainSpeaks (settlesCheckDB chainSpeaks false) fun _ => settlesAsked rfl fun _ _ =>
    settlesIte (fun _ => settlesLastError chainSpeaks _) fun _ => settlesPure chainSpeaks _

theorem settlesConnectWith (options : Options) : Settles E Speaks (connectWith client options) := by
  have option (opt : MysqlOption) (arg : Option CString) : Settles E Speaks (setOptions client opt arg) :=
    settlesSetOptions opt arg
  have leave (nErrCode : Int) (szErrMess : CString) :
      Settles E Speaks (raise nErrCode szErrMess : Op CppMySQLDB Unit) := settlesRaise chainSpeaks nErrCode szErrMess
  refine settlesIte (fun _ => leave _ _) fun _ => settlesIte (fun _ => leave _ _) fun _ => ?_
  refine settlesBind chainSpeaks (settlesCompress chainSpeaks option _) fun _ => ?_
  refine settlesBind chainSpeaks (settlesReconnect chainSpeaks option _) fun _ => ?_
  refine settlesBind chainSpeaks (settlesCharset chainSpeaks option _) fun _ => ?_
  exact settlesBind chainSpeaks (settlesConnect _ _ _ _ _ _) fun _ => settlesNamed _

theorem settlesEnded {c : Call} (plain : plainCall c) : Settles E Speaks (do
    checkDB true
    let mpDB ← handle
    let _ ← call client mpDB c
    onThis (fun db => {db with mInTransaction := wrapInt (db.mInTransaction - 1)}) : Op CppMySQLDB Unit) :=
  settlesBind chainSpeaks (settlesCheckDB chainSpeaks true) fun _ => settlesAsked plain fun _ _ =>
    settlesCounted fun n => wrapInt (n - 1)

theorem unfetchedSpeaks (op : Operation) (s : Scope World CppMySQLDB) :
    Adds s.this.mpDB none s.world (ranUnfetched client op s) := by
  unfold ranUnfetched
  split
  · exact (chainAdds _ _).refl _
  · rename_i sql _
    have sent := askedSpeaks client s (c := .realQuery sql) rfl
    dsimp only
    split
    · exact (chainSpeaks.trans _ _ _ sent (askedSpeaks client _ rfl)).2
    · exact sent.2

theorem fetchedSpeaks {w : World} (szSQL : CString) (s : Scope World CppMySQLDB) (log : w.log = fetchedLog client szSQL s)
    (nConns : w.nConns = s.world.nConns) (nStmts : w.nStmts = s.world.nStmts) : Adds s.this.mpDB none s.world w := by
  refine ⟨nConns,nStmts,?_⟩
  rw [log]
  unfold fetchedLog
  have sent := askedSpeaks client s (c := .realQuery szSQL) rfl
  dsimp only
  split
  · split
    · exact (chainSpeaks.trans _ _ _ sent (askedSpeaks client _ (c := .storeResult) rfl)).2.log
    · exact sent.2.log
  · exact ⟨[],rfl,nofun⟩

def SameCounts (w v : World) : Prop := v.nConns = w.nConns ∧ v.nStmts = w.nStmts

theorem chainCounts : Chain SameCounts :=
  ⟨fun _ => ⟨rfl,rfl⟩,fun _ _ _ first rest => ⟨rest.1.trans first.1,rest.2.trans first.2⟩⟩

theorem asideCounts : Aside SameCounts where
  chain := chainCounts
  push _ _ _ := ⟨rfl,rfl⟩
  set _ _ _ := ⟨rfl,rfl⟩
  store _ _ := ⟨rfl,rfl⟩

theorem execQuerySpeaks (szSQL : CString) (s : Scope World CppMySQLDB) :
    Speaks s (left (execQuery client szSQL s)) := by
  obtain ⟨log,this⟩ := execQueryLeft client szSQL s
  obtain ⟨nConns,nStmts⟩ := execQueryAside asideCounts client szSQL s
  exact ⟨congrArg mpDB this,fetchedSpeaks szSQL s log nConns nStmts⟩

theorem execScalarSpeaks (szSQL : CString) (nNullValue : Int) (s : Scope World CppMySQLDB) :
    Speaks s (left (execScalar client szSQL nNullValue s)) := by
  rw [execScalarApply]
  have fetched : Speaks s (left (execQuery client szSQL s)) := execQuerySpeaks szSQL s
  cases result : execQuery client szSQL s with
  | error e t =>
    rw [result] at fetched
    exact fetched
  | ok q t =>
    rw [result] at fetched
    refine chainSpeaks.trans _ _ _ fetched ?_
    simp only [leftLocal,scalarOfLeft,CppMySQLQuery.destroy,CppMySQLQuery.clearApply]
    cases q.mpRES with
    | none => exact chainSpeaks.refl t
    | some res => exact ⟨rfl,addsPush (freedWithin res _)⟩

theorem getResultSetSpeaks (szSQL : CString) (s : Scope World CppMySQLDB) :
    Speaks s (left (getResultSet client szSQL s)) := by
  obtain ⟨log,this⟩ := getResultSetLeft client szSQL s
  have counts : SameCounts s.world (left (getResultSet client szSQL s)).world := by
    rw [getResultSetApply]
    split
    · dsimp only
      split
      · have stores := storedAside asideCounts client (asked client s (.realQuery szSQL))
        cases kept : (stored client (asked client s (.realQuery szSQL))).1 with
        | none => exact stores
        | some res =>
          obtain ⟨data,_,fresh,_⟩ := storedFresh client kept
          rw [CppMySQLResultSet.ofRESApply res data _ fresh]
          cases CppMySQLResultSet.fieldMap 0 data.fields <;> exact stores
      · exact ⟨rfl,rfl⟩
    · exact chainCounts.refl _
  exact ⟨congrArg mpDB this,fetchedSpeaks szSQL s log counts.1 counts.2⟩

/-- What an operation on a database does to the connections and the statements, unless it
closes the database or its result is an object. -/
theorem operationSpeaks (client : Client) {op : Operation} (plain : namesObject op = false) (stays : op ≠ .close)
    (s : Scope World CppMySQLDB) : Speaks s (left (perform client op s)) := by
  have settled {m : Op CppMySQLDB Returned} (settles : Settles (fun _ => False) Speaks m) : Speaks s (left (m s)) :=
    settlesLeft settles s
  have check (b : Bool) : Settles (fun _ => False) Speaks (checkDB b) := settlesCheckDB chainSpeaks b
  have done (r : Returned) : Settles (fun _ => False) Speaks (pure r : Op CppMySQLDB Returned) := settlesPure chainSpeaks r
  have ran {op : Operation} (unfetched : op.unfetched) : Speaks s (left (perform client op s)) := by
    obtain ⟨world,held⟩ := unfetchedLeft client unfetched s
    exact ⟨held,world ▸ unfetchedSpeaks op s⟩
  cases op with
  | execQuery | getResultSet | compileStatement => cases plain
  | close => exact absurd rfl stays
  | connect => exact settled (settlesBind chainSpeaks (settlesConnect _ _ _ _ _ _) fun _ => done _)
  | connectString sz =>
    refine settled (settlesBind chainSpeaks ?_ fun _ => done _)
    unfold connectString
    cases parse sz with
    | ok options => exact settlesConnectWith options
    | error stop => exact settlesThrow chainSpeaks stop
  | openDB szDBName =>
    refine settled (settlesBind chainSpeaks ?_ fun _ => done _)
    exact settlesBind chainSpeaks (check false) fun _ => settlesAsked rfl fun _ _ =>
      settlesIte (fun _ => settlesLastError chainSpeaks _) fun _ => settlesNamed _
  | setOptions opt arg => exact settled (settlesBind chainSpeaks (settlesSetOptions opt arg) fun _ => done _)
  | commitTransaction => exact settled (settlesBind chainSpeaks (settlesEnded rfl) fun _ => done _)
  | rollback => exact settled (settlesBind chainSpeaks (settlesEnded rfl) fun _ => done _)
  | isTransaction => exact chainSpeaks.refl s
  | ping =>
    refine settled (settlesBind chainSpeaks ?_ fun _ => done _)
    exact settlesBind chainSpeaks (check true) fun _ => settlesAsked rfl fun _ _ => settlesPure chainSpeaks _
  | setCharacterSet szName =>
    refine settled (settlesBind chainSpeaks ?_ fun _ => done _)
    exact settlesBind chainSpeaks (check false) fun _ => settlesAsked rfl fun _ _ => settlesPure chainSpeaks _
  | getCharacterSetName =>
    refine settled (settlesBind chainSpeaks ?_ fun _ => done _)
    exact settlesBind chainSpeaks (check false) fun _ => settlesAsked rfl fun _ _ => settlesPure chainSpeaks _
  | execDML | startTransaction | createDB | dropDB =>
    exact ran rfl
  | execScalar szSQL nNullValue =>
    simp only [perform,leftBindPure]
    exact execScalarSpeaks szSQL nNullValue s
  | tableExists szTable =>
    simp only [perform,leftBindPure,tableExistsApply]
    split
    · split
      · exact chainSpeaks.refl s
      · simp only [leftBindPure]
        exact execScalarSpeaks _ 0 s
    · exact chainSpeaks.refl s

end Operations

/-- The connection a command names. -/
def addressed : Command → Option (Option Nat)
  | .execQuery mpDB _ _ | .execScalar mpDB _ _ | .getResultSet mpDB _ _ | .compileStatement mpDB _ _ => some mpDB
  | _ => none

/-- The statement of the object that a command is on. -/
def touched (s : MySQLSystem.System) : Command → Option Nat
  | .statement i _ | .destroyStatement i => (statementBook s).held i
  | _ => none

/-- What a command does to the connections and the statements: calls on its own, or the
start of a new statement, or the end of its own one. -/
inductive Moves (conn stmt : Option Nat) (w v : World) : Prop
  | adds (adds : Adds conn stmt w v)
  | prepares {u : World} {e : Entry} (log : u.log = e :: w.log) (within : Within conn none e)
      (nConns : u.nConns = w.nConns) (nStmts : u.nStmts = w.nStmts + 1) (rest : Adds none (some w.nStmts) u v)
  | ends {id : Nat} {e : Entry} (held : stmt = some id) (log : v.log = e :: w.log) (call : e.call = .stmtClose id)
      (nConns : v.nConns = w.nConns) (nStmts : v.nStmts = w.nStmts)

section Commands
variable {client : Client} {conn stmt : Option Nat}

theorem stmtWithin {id : Nat} {c : Call} (on : target c = some id) (stays : c ≠ .stmtClose id) (mysql : Option Nat)
    (r : Reply) : Within conn (some id) ⟨mysql,c,r⟩ := by
  refine ⟨fun j same => ?_,fun j same => on.symm.trans same,fun same => ?_,fun j same => ?_⟩
  · simp [line,on] at same
  · cases same
    cases on
  · cases same
    cases on
    exact stays rfl

theorem releasedAdds (w : World) (q : CppMySQLQuery) : Adds conn stmt w (CppMySQLQuery.released ⟨w,q⟩) := by
  unfold CppMySQLQuery.released
  cases q.mpRES with
  | none => exact (chainAdds _ _).refl _
  | some res => exact addsPush ⟨fun _ => by simp [line,target],fun _ => by simp [target],by simp,by simp⟩

/-- The object keeps its statement, and calls on nothing else. -/
def Uses (s t : Scope World CppMySQLStatement) : Prop :=
  t.this.mpStmt = s.this.mpStmt ∧ Adds none (s.this.mpStmt.map MysqlStmt.id) s.world t.world

theorem chainUses : Chain Uses := by
  refine ⟨fun s => ⟨rfl,(chainAdds _ _).refl _⟩,fun s t u first rest => ?_⟩
  obtain ⟨kept,adds⟩ := first
  obtain ⟨still,more⟩ := rest
  rw [kept] at still more
  exact ⟨still,(chainAdds _ _).trans _ _ _ adds more⟩

theorem sentUses {stmt : MysqlStmt} {s : Scope World CppMySQLStatement} (held : s.this.mpStmt = some stmt) {c : Call}
    (on : target c = some stmt.id) (stays : c ≠ .stmtClose stmt.id) {o : CppMySQLStatement}
    (kept : o.mpStmt = some stmt) : Uses s ⟨sent client s.world stmt.mysql c,o⟩ := by
  refine ⟨kept.trans held.symm,?_⟩
  rw [held]
  exact addsPush (stmtWithin on stays _ _)

theorem executeUses (s : Scope World CppMySQLStatement) : Uses s (left (CppMySQLStatement.execute client s)) := by
  have still := chainUses.refl s
  rw [CppMySQLStatement.executeApply]
  cases held : s.this.mpStmt with
  | none => exact still
  | some stmt =>
    cases s.this.mpBindArray with
    | none => exact still
    | some array =>
      let t : Scope World CppMySQLStatement := ⟨sent client s.world stmt.mysql (.stmtBindParam stmt.id),s.this⟩
      have bound : Uses s t := sentUses held rfl (by simp) held
      have ran (params) {o : CppMySQLStatement} (kept : o.mpStmt = some stmt) :
          Uses s ⟨sent client t.world stmt.mysql (.stmtExecute stmt.id params),o⟩ :=
        chainUses.trans _ _ _ bound (sentUses (s := t) held rfl (by simp) kept)
      dsimp only
      split
      · exact still
      split
      · exact still
      split
      · exact still
      split
      · exact bound
      · split
        · exact ran _ held
        · exact ran _ held

theorem boundUses (pos : Int) (type : FieldType) (buffer : Buffer) (length : Nat) (s : Scope World CppMySQLStatement) :
    Uses s (left (CppMySQLStatement.realBind pos type buffer length s)) := by
  rw [CppMySQLStatement.realBindApply]
  split
  · exact chainUses.refl s
  split
  · exact chainUses.refl s
  · cases s.this.mpBindArray with
    | none => exact chainUses.refl s
    | some array => exact ⟨rfl,(chainAdds _ _).refl _⟩

theorem requestUses {request : CppMySQLStatement.Request} (clears : request ≠ .clear)
    (s : Scope World CppMySQLStatement) : Uses s (left (CppMySQLStatement.perform client request s)) := by
  have kept (w : World) (log : w.log = s.world.log) (nConns : w.nConns = s.world.nConns)
      (nStmts : w.nStmts = s.world.nStmts) : Uses s ⟨w,s.this⟩ := ⟨rfl,addsSame log nConns nStmts⟩
  cases request with
  | bindString nParam szValue => exact boundUses _ _ _ _ s
  | bindInt nParam nValue =>
    let w := {s.world with sNValue := nValue}
    exact chainUses.trans _ ⟨w,s.this⟩ _ (kept w rfl rfl rfl) (boundUses _ _ _ _ _)
  | bindDouble nParam dwValue =>
    let w := {s.world with sDwValue := dwValue}
    exact chainUses.trans _ ⟨w,s.this⟩ _ (kept w rfl rfl rfl) (boundUses _ _ _ _ _)
  | clear => exact absurd rfl clears
  | reset =>
    simp only [CppMySQLStatement.perform,CppMySQLStatement.resetApply]
    cases held : s.this.mpStmt with
    | none => exact chainUses.refl s
    | some stmt => exact sentUses held rfl (by simp) held
  | execDML =>
    have executed : Uses s (left (CppMySQLStatement.execute client s)) := executeUses s
    simp only [CppMySQLStatement.perform,leftBindPure,CppMySQLStatement.execDMLApply]
    cases result : CppMySQLStatement.execute client s with
    | error e t =>
      rw [result] at executed
      exact executed
    | ok a t =>
      rw [result] at executed
      dsimp only
      cases held : t.this.mpStmt with
      | none => exact executed
      | some stmt => exact chainUses.trans _ _ _ executed (sentUses held rfl (by simp) held)

theorem compileMoves (szSQL : CString) (s : Scope World CppMySQLDB) :
    Moves s.this.mpDB none s.world (left (compileStatement client szSQL s)).world := by
  simp only [compileStatement,bindApply,handleApply]
  cases s.this.mpDB with
  | none => exact .adds ((chainAdds _ _).refl _)
  | some conn =>
    have inited : Within (some conn) none ⟨some conn,.stmtInit,replied client s.world conn .stmtInit⟩ :=
      plainWithin rfl _
    by_cases init : (replied client s.world conn .stmtInit).rc = 0
    · by_cases accepted : (prepared client s.world conn szSQL).rc = 0
      · rw [CppMySQLStatement.compilePrepared init accepted]
        have first : Adds none (some s.world.nStmts) (sent client s.world conn .stmtInit).initStmt
            (preparing client s.world conn szSQL) := addsPush (stmtWithin rfl (by simp) _ _)
        have second : Adds none (some s.world.nStmts) (preparing client s.world conn szSQL)
            (sent client (preparing client s.world conn szSQL) conn (.stmtParamCount s.world.nStmts)) :=
          addsPush (stmtWithin rfl (by simp) _ _)
        have both := (chainAdds _ _).trans _ _ _ first second
        exact .prepares (u := (sent client s.world conn .stmtInit).initStmt) rfl inited rfl rfl
          ⟨both.nConns,both.nStmts,both.log⟩
      · rw [CppMySQLStatement.compileUnprepared init accepted]
        exact .prepares (u := (sent client s.world conn .stmtInit).initStmt) rfl inited rfl rfl
          (addsPush (stmtWithin rfl (by simp) _ _))
    · rw [CppMySQLStatement.compileUninited init]
      exact .adds (addsPush inited)

theorem clearMoves (s : Scope World CppMySQLStatement) :
    Moves none (s.this.mpStmt.map MysqlStmt.id) s.world (left (CppMySQLStatement.clear s)).world := by
  rw [CppMySQLStatement.clearApply]
  cases s.this.mpStmt with
  | none => exact .adds (addsSame rfl rfl rfl)
  | some stmt => exact .ends rfl rfl rfl rfl rfl

theorem commandMoves (client : Client) (s : MySQLSystem.System) (c : Command) :
    Moves (addressed c).join (touched s c) s.world (MySQLSystem.step client s c).world := by
  have still {conn stmt : Option Nat} : Moves conn stmt s.world s.world := .adds ((chainAdds _ _).refl _)
  cases c with
  | execQuery mpDB i szSQL =>
    simp only [MySQLSystem.step]
    split
    · simp only [System.setQueries,createdWorld]
      exact .adds (execQuerySpeaks szSQL (s.on mpDB)).2
    · exact still
  | execScalar mpDB szSQL nNullValue => exact .adds (execScalarSpeaks szSQL nNullValue (s.on mpDB)).2
  | getResultSet mpDB i szSQL =>
    simp only [MySQLSystem.step]
    split
    · simp only [System.setResultSets,createdWorld]
      exact .adds (getResultSetSpeaks szSQL (s.on mpDB)).2
    · exact still
  | compileStatement mpDB i szSQL =>
    simp only [MySQLSystem.step]
    split
    · simp only [System.setStatements,createdWorld]
      exact compileMoves szSQL (s.on mpDB)
    · exact still
  | newQuery i | newResultSet i | newStatement i =>
    simp only [MySQLSystem.step]
    split <;> exact still
  | copyQuery i j | copyResultSet i j | copyStatement i j =>
    simp only [MySQLSystem.step]
    split <;> exact still
  | assignQuery i j =>
    simp only [MySQLSystem.step]
    split
    · exact still
    · split
      · rename_i q r _ _
        have freed : Adds none none s.world (CppMySQLQuery.released ⟨s.world,q⟩) := releasedAdds _ _
        simp only [System.setQueries,CppMySQLQuery.assignApply,assigned]
        cases r.mpRES with
        | none => exact .adds freed
        | some res => exact .adds ((chainAdds _ _).trans _ _ _ freed (addsSame rfl rfl rfl))
      · exact still
  | clearQuery i =>
    simp only [MySQLSystem.step]
    split
    · simp only [System.setQueries,used,CppMySQLQuery.clearLeft,leftOk]
      exact .adds (releasedAdds _ _)
    · exact still
  | destroyQuery i =>
    simp only [MySQLSystem.step]
    split
    · simp only [System.setQueries,CppMySQLQuery.destroy,CppMySQLQuery.clearLeft,leftOk]
      exact .adds (releasedAdds _ _)
    · exact still
  | nextRow i =>
    simp only [MySQLSystem.step]
    split
    · simp only [System.setQueries,used,CppMySQLQuery.nextRowApply]
      split
      · exact still
      · split
        · exact still
        · exact .adds (addsSame rfl rfl rfl)
    · exact still
  | seekRow i offerset =>
    simp only [MySQLSystem.step]
    split
    · simp only [System.setQueries,used,CppMySQLQuery.seekRowApply]
      split
      · exact still
      · exact .adds (addsSame rfl rfl rfl)
    · exact still
  | assignResultSet i j =>
    simp only [MySQLSystem.step,CppMySQLResultSet.assignApply]
    split
    · exact still
    · split
      · exact .adds (addsSame rfl rfl rfl)
      · exact still
  | clearResultSet i | destroyResultSet i =>
    simp only [MySQLSystem.step,CppMySQLResultSet.clearApply]
    split
    · exact .adds (addsSame rfl rfl rfl)
    · exact still
  | assignStatement i j =>
    simp only [MySQLSystem.step]
    split
    · exact still
    · split
      · exact .adds (addsSame rfl rfl rfl)
      · exact still
  | statement i request =>
    simp only [MySQLSystem.step,touched,statementBook]
    cases live : s.statements i with
    | none => exact still
    | some o =>
      by_cases clears : request = .clear
      · subst clears
        exact clearMoves ⟨s.world,o⟩
      · exact .adds (requestUses clears ⟨s.world,o⟩).2
  | destroyStatement i =>
    simp only [MySQLSystem.step,touched,statementBook]
    cases live : s.statements i with
    | none => exact still
    | some o => exact clearMoves ⟨s.world,o⟩

end Commands

/-- The databases, and the objects that come of them. -/
structure State where
  objects : MySQLSystem.System
  databases : Slots CppMySQLDB

def State.initial : State := ⟨.initial .initial,fun _ => none⟩

def State.put (s : State) (r : World × Slots CppMySQLDB) : State := ⟨{s.objects with world := r.1},r.2⟩

/-- A database is made, used and destroyed. An operation whose result is an object is the
command of its name, on the connection of a database that is there. -/
inductive Event where
  | newDatabase (d : Nat)
  | operation (d : Nat) (op : Operation)
  | destroyDatabase (d : Nat)
  | command (d : Nat) (c : Command)
  deriving DecidableEq, Repr

def granted (s : State) (d : Nat) (c : Command) : Bool :=
  addressed c = none ∨ addressed c = (s.databases d).map mpDB

variable (client : Client)

def step (s : State) : Event → State
  | .newDatabase d => match s.databases d with
    | none => s.put (created s.databases d ((CppMySQLDB.new client : Op Unit CppMySQLDB) ⟨s.objects.world,()⟩))
    | some _ => s
  | .operation d op => match s.databases d with
    | some db => if namesObject op then s else s.put (used s.databases d (perform client op ⟨s.objects.world,db⟩))
    | none => s
  | .destroyDatabase d => match s.databases d with
    | some db => s.put (destroy client ⟨s.objects.world,db⟩,Function.update s.databases d none)
    | none => s
  | .command d c => if granted s d c then {s with objects := MySQLSystem.step client s.objects c} else s

/-- Who holds which connection, and how often each was closed. -/
def connectionBook (s : State) : Book Nat :=
  ⟨s.objects.world.nConns,fun id => s.objects.world.log.countP (closes id),fun d => (s.databases d).bind mpDB⟩

def connectionAction (s : State) : Event → Action Nat
  | .newDatabase d =>
    if s.databases d = none ∧ (client.answer s.objects.world.log none .init).rc = 0 then .issue d else .keep
  | .operation d .close => .release d
  | .destroyDatabase d => .release d
  | _ => .keep

section Connections
variable {client} {conn stmt : Option Nat} {w v : World}

theorem closesPush {e : Entry} (other : e.call ≠ .close) (id : Nat) (h : History) :
    (e :: h).countP (closes id) = h.countP (closes id) := by
  simp [closes,other]

theorem closesAppend {new : History} (others : ∀ e ∈ new, e.call ≠ .close) (id : Nat) (h : History) :
    (new ++ h).countP (closes id) = h.countP (closes id) := by
  induction new with
  | nil => rfl
  | cons e new ih =>
    obtain ⟨other,rest⟩ := List.forall_mem_cons.mp others
    exact (closesPush other id _).trans (ih rest)

/-- The same connections, none of them closed since. -/
def SameConnections (w v : World) : Prop :=
  v.nConns = w.nConns ∧ ∀ id, v.log.countP (closes id) = w.log.countP (closes id)

theorem addsConnections (adds : Adds conn stmt w v) : SameConnections w v := by
  obtain ⟨new,log,within⟩ := adds.log
  refine ⟨adds.nConns,fun id => ?_⟩
  rw [log]
  exact closesAppend (fun e inside => (within e inside).opens) id _

theorem movesConnections (moves : Moves conn stmt w v) : SameConnections w v := by
  cases moves with
  | adds adds => exact addsConnections adds
  | prepares log within nConns nStmts rest =>
    obtain ⟨issued,closed⟩ := addsConnections rest
    refine ⟨issued.trans nConns,fun id => (closed id).trans ?_⟩
    rw [log]
    exact closesPush within.opens id _
  | ends held log call nConns nStmts =>
    refine ⟨nConns,fun id => ?_⟩
    rw [log]
    exact closesPush (by simp [call]) id _

/-- The world once a connection was closed, whatever the library answers. -/
theorem closeApply (s : Scope World CppMySQLDB) : close client s = match s.this.mpDB with
    | none => .ok ⟨⟩ s
    | some _ => .ok ⟨⟩ ⟨(asked client s .close).world,{s.this with mpDB := none}⟩ := by
  simp only [close,bindApply,handleApply]
  cases held : s.this.mpDB with
  | none => rfl
  | some conn => simp only [bindApply,callApply,onThisApply,asked,held]

theorem destroyCloses (s : Scope World CppMySQLDB) : destroy client s = (left (close client s)).world := by
  unfold destroy
  split
  · rfl
  · rename_i closed
    rw [closeApply,not_not.mp closed]
    rfl

theorem newApply (w : World) : (CppMySQLDB.new client : Op Unit CppMySQLDB) ⟨w,()⟩ =
    let r := client.answer w.log none .init
    let v := w.push ⟨none,.init,r⟩
    if r.rc = 0 then .ok ⟨some w.nConns,0⟩ ⟨{v with nConns := w.nConns + 1},()⟩
    else .error (.thrown (exception CPPMYSQL_DB_ERROR (some (text "mysql init failed!")))) ⟨v,()⟩ := by
  simp only [CppMySQLDB.new,bindApply,callApply,iteApply,getApply,onWorldApply,pureApply,raiseApply]
  split <;> rfl

theorem connectionsKept {s t : State} (world : SameConnections s.objects.world t.objects.world)
    (held : ∀ d, (t.databases d).bind mpDB = (s.databases d).bind mpDB) : connectionBook t = connectionBook s :=
  Book.ext world.1 (funext world.2) (funext held)

theorem closedBook {s t : State} {d : Nat} {db : CppMySQLDB} (live : s.databases d = some db)
    (world : t.objects.world = (left (close client ⟨s.objects.world,db⟩)).world)
    (held : (fun k => (t.databases k).bind mpDB) = Function.update (fun k => (s.databases k).bind mpDB) d none) :
    connectionBook t = (connectionBook s).release d := by
  have own : (connectionBook s).held d = db.mpDB := by simp [connectionBook,live]
  refine Book.ext ?_ (funext fun id => ?_) held
  · simp only [connectionBook,world,closeApply,Book.release]
    cases db.mpDB <;> rfl
  · simp only [Book.release,own]
    simp only [connectionBook,world,closeApply]
    cases conn : db.mpDB with
    | none => rfl
    | some conn' => simp [asked,List.countP_cons,closes,conn]

theorem operatedBook {s : State} {d : Nat} {db : CppMySQLDB} (live : s.databases d = some db) {op : Operation}
    (plain : namesObject op = false) (stays : op ≠ .close) :
    connectionBook (s.put (used s.databases d (perform client op ⟨s.objects.world,db⟩))) = connectionBook s := by
  obtain ⟨held,adds⟩ := operationSpeaks client plain stays ⟨s.objects.world,db⟩
  refine connectionsKept (addsConnections adds) fun k => ?_
  by_cases own : k = d
  · subst own
    simp [State.put,used,live,held]
  · simp [State.put,used,own]

theorem connectionsSimulated (client : Client) (s : State) (e : Event) :
    connectionBook (step client s e) = (connectionBook s).act (connectionAction client s e) := by
  have nothing {d : Nat} (free : s.databases d = none) : (connectionBook s).held d = none := by
    simp [connectionBook,free]
  cases e with
  | newDatabase d =>
    simp only [step,connectionAction]
    cases slot : s.databases d with
    | some db => simp [Book.act]
    | none =>
      have silent (id : Nat) : (s.objects.world.push ⟨none,.init,
          client.answer s.objects.world.log none .init⟩).log.countP (closes id) =
          s.objects.world.log.countP (closes id) := closesPush (by simp) id _
      rw [newApply]
      dsimp only
      split
      · rename_i init
        simp only [init,and_self,if_true,Book.act]
        exact Book.ext rfl (funext silent) (bindUpdate s.databases d _ mpDB)
      · rename_i init
        simp only [init,and_false,if_false,Book.act]
        exact connectionsKept ⟨rfl,silent⟩ fun _ => rfl
  | operation d op =>
    simp only [step]
    cases live : s.databases d with
    | none =>
      cases op with
      | close => exact (releaseNothing (nothing live)).symm
      | _ => rfl
    | some db =>
      by_cases ends : op = .close
      · subst ends
        refine @closedBook client _ _ _ _ live ?_ ((bindUpdate s.databases d _ mpDB).trans ?_)
        · simp only [namesObject,Bool.false_eq_true,if_false,State.put,used,perform,leftBindPure]
        · simp only [perform,leftBindPure,closeApply,Option.bind_some]
          cases held : db.mpDB <;> simp [held]
      · have keeps : connectionAction client s (.operation d op) = .keep := by
          cases op <;> first | rfl | exact absurd rfl ends
        rw [keeps]
        dsimp only
        cases plain : namesObject op with
        | true => rfl
        | false => exact operatedBook live plain ends
  | destroyDatabase d =>
    simp only [step,connectionAction,Book.act]
    cases live : s.databases d with
    | none => exact (releaseNothing (nothing live)).symm
    | some db => exact closedBook live (destroyCloses _) (bindUpdate s.databases d none mpDB)
  | command d c =>
    simp only [step,connectionAction,Book.act]
    split
    · exact connectionsKept (movesConnections (commandMoves client s.objects c)) fun _ => rfl
    · rfl

theorem connectionsSafe (s : State) (e : Event) : ¬ (connectionBook s).Loses (connectionAction client s e) := by
  cases e with
  | newDatabase d =>
    simp only [connectionAction]
    split
    · rename_i free
      simp [Book.Loses,connectionBook,free.1]
    · exact id
  | operation d op => cases op <;> exact id
  | destroyDatabase d | command d c => exact id

/-- In every state of every run each connection was closed exactly once and no database has
it, or was not closed and exactly one database has it. -/
theorem connectionsConserved (client : Client) (events : List Event) :
    Throughout (step client) (fun s => Conserved (connectionBook s)) .initial events := by
  have keep (s : State) (e : Event) (now : Sound (connectionBook s) ∧ Accounted (connectionBook s)) :
      Sound (connectionBook (step client s e)) ∧ Accounted (connectionBook (step client s e)) := by
    rw [connectionsSimulated]
    exact ⟨soundAct now.1 _,(accountedAct now.1 now.2 _).mpr (connectionsSafe s e)⟩
  have start := freshSound (l := connectionBook .initial) rfl (fun _ => rfl) fun _ => rfl
  exact throughoutMono (fun s now => soundConserved now.1 now.2) (invariantThroughout keep start events)

end Connections

section Lives
variable {client} {conn stmt : Option Nat} {w v : World}

/-- What holds of the calls on connections, for whoever holds one of them. -/
abbrev Lines := Orderly World.log World.nConns onConnection closes

abbrev Statements := Orderly World.log World.nStmts onStatement stmtCloses

theorem closesOn (id : Nat) (e : Entry) (ends : closes id e) : onConnection id e := by
  obtain ⟨named,call⟩ := of_decide_eq_true ends
  simp [onConnection,line,named,call,target]

theorem stmtClosesOn (id : Nat) (e : Entry) (ends : stmtCloses id e) : onStatement id e := by
  have call : e.call = .stmtClose id := of_decide_eq_true ends
  simp [onStatement,call,target]

/-- Calls that are made on nothing but what is held keep the order. -/
theorem addsLines (adds : Adds conn stmt w v) (start : Lines conn w) : Lines conn v := by
  obtain ⟨new,log,within⟩ := adds.log
  refine orderlyAdded start adds.nConns log (fun e inside id on => ?_) fun e inside id => ?_
  · exact (within e inside).line id (of_decide_eq_true on)
  · simp [closes,(within e inside).opens]

theorem addsStatements (adds : Adds conn stmt w v) (start : Statements stmt w) : Statements stmt v := by
  obtain ⟨new,log,within⟩ := adds.log
  refine orderlyAdded start adds.nStmts log (fun e inside id on => ?_) fun e inside id => ?_
  · exact (within e inside).target id (of_decide_eq_true on)
  · simp [stmtCloses,(within e inside).stays id]

theorem forgotten {E : Type} {log : World → List E} {issued : World → Nat} {on ends : Nat → E → Bool}
    (start : Orderly log issued on ends stmt w) : Orderly log issued on ends none w :=
  orderlyHeld start nofun

theorem movesLines (moves : Moves conn stmt w v) (start : Lines conn w) : Lines conn v := by
  cases moves with
  | adds adds => exact addsLines adds start
  | prepares log within nConns nStmts rest =>
    rename_i u e
    have first : Lines conn u := by
      have one : u.log = [e] ++ w.log := log
      refine orderlyAdded start nConns one ?_ ?_
      · exact List.forall_mem_singleton.mpr fun id on => within.line id (of_decide_eq_true on)
      · exact List.forall_mem_singleton.mpr fun id => by simp [closes,within.opens]
    have on : Adds conn (some w.nStmts) u v := addsMore (by simp) (fun _ => id) rest
    exact addsLines on first
  | ends held log call nConns nStmts =>
    rename_i id e
    have one : v.log = [e] ++ w.log := log
    refine orderlyAdded start nConns one ?_ ?_
    · exact List.forall_mem_singleton.mpr fun id on => by simp [onConnection,line,call,target] at on
    · exact List.forall_mem_singleton.mpr fun id => by simp [closes,call]

theorem movesStatements (moves : Moves conn stmt w v) (start : Statements stmt w) : Statements none v := by
  cases moves with
  | adds adds => exact forgotten (addsStatements adds start)
  | prepares log within nConns nStmts rest =>
    rename_i u e
    have first : Statements (some w.nStmts) u := by
      refine orderlyIssued stmtClosesOn (forgotten start) nStmts log fun id => ?_
      cases on : onStatement id e with
      | false => rfl
      | true => cases within.target id (of_decide_eq_true on)
    exact forgotten (addsStatements rest first)
  | ends held log call nConns nStmts =>
    cases held
    refine orderlyReleased start nStmts log fun j on => ?_
    have made : target (Call.stmtClose _) = some j := call ▸ of_decide_eq_true on
    exact (Option.some.inj made).symm

theorem heldLine {s : State} (sound : Sound (connectionBook s)) {d id : Nat}
    (held : (connectionBook s).held d = some id) :
    id < s.objects.world.nConns ∧ ∀ e ∈ s.objects.world.log, closes id e = false := by
  have none : s.objects.world.log.countP (closes id) = 0 := sound.unreleased d id held
  exact ⟨sound.below d id held,fun e inside => by simpa using List.countP_eq_zero.mp none e inside⟩

theorem heldStatement {s : MySQLSystem.System} (sound : Sound (statementBook s)) {i id : Nat}
    (held : (statementBook s).held i = some id) :
    id < s.world.nStmts ∧ ∀ e ∈ s.world.log, stmtCloses id e = false := by
  have none : s.world.log.countP (stmtCloses id) = 0 := sound.unreleased i id held
  exact ⟨sound.below i id held,fun e inside => by simpa using List.countP_eq_zero.mp none e inside⟩

/-- No call so far was on what was closed before, and what the objects hold is open. -/
structure Alive (s : State) : Prop where
  connections : Sound (connectionBook s)
  statements : Sound (statementBook s.objects)
  lines : Lines none s.objects.world
  order : Statements none s.objects.world

theorem databaseLine {s : State} (alive : Alive s) {d : Nat} {db : CppMySQLDB} (live : s.databases d = some db) :
    Lines db.mpDB s.objects.world :=
  orderlyHeld alive.lines fun id own => heldLine alive.connections (d := d) (by simp [connectionBook,live,own])

theorem grantedLine {s : State} (alive : Alive s) {d : Nat} {c : Command} (granted : granted s d c) :
    Lines (addressed c).join s.objects.world := by
  refine orderlyHeld alive.lines fun id own => ?_
  have names : addressed c = some (some id) := Option.join_eq_some_iff.mp own
  rcases of_decide_eq_true granted with free | same
  · rw [names] at free
    cases free
  · obtain ⟨db,live,held⟩ := Option.map_eq_some_iff.mp (same.symm.trans names)
    exact heldLine alive.connections (d := d) (by simp [connectionBook,live,held])

theorem touchedStatement {s : State} (alive : Alive s) (c : Command) :
    Statements (touched s.objects c) s.objects.world := by
  refine orderlyHeld alive.order fun id own => ?_
  cases c with
  | statement i request => exact heldStatement alive.statements own
  | destroyStatement i => exact heldStatement alive.statements own
  | _ => cases own

/-- Calls on no statement were made, and none was started. -/
structure Beside (w v : World) : Prop where
  nStmts : v.nStmts = w.nStmts
  log : ∃ new, v.log = new ++ w.log ∧ ∀ e ∈ new, target e.call = none

theorem addsBeside (adds : Adds conn none w v) : Beside w v := by
  obtain ⟨new,log,within⟩ := adds.log
  refine ⟨adds.nStmts,new,log,fun e inside => ?_⟩
  cases on : target e.call with
  | none => rfl
  | some id => cases (within e inside).target id on

theorem besideStatements (beside : Beside w v) (start : Statements none w) : Statements none v := by
  obtain ⟨new,log,off⟩ := beside.log
  refine orderlyAdded start beside.nStmts log (fun e inside id on => ?_) fun e inside id => ?_
  · exact (off e inside).symm.trans (of_decide_eq_true on)
  · cases ends : stmtCloses id e with
    | false => rfl
    | true =>
      have on := of_decide_eq_true (stmtClosesOn id e ends)
      rw [off e inside] at on
      cases on

theorem besideBook {s t : MySQLSystem.System} (beside : Beside s.world t.world) (same : t.statements = s.statements) :
    statementBook t = statementBook s := by
  obtain ⟨new,log,off⟩ := beside.log
  refine statementsAside ⟨beside.nStmts,fun id => ?_⟩ same
  have silent : times (.stmtClose id) new = 0 := by
    refine List.countP_eq_zero.mpr fun e inside ends => ?_
    have call : e.call = .stmtClose id := of_decide_eq_true ends
    have on := off e inside
    rw [call] at on
    cases on
  rw [log,times,List.countP_append]
  exact (congrArg (· + _) silent).trans (Nat.zero_add _)

/-- What a database does on its own is beside the statements, and on its own connection. -/
structure Apart (s t : State) : Prop where
  beside : Beside s.objects.world t.objects.world
  statements : t.objects.statements = s.objects.statements
  lines : Lines none t.objects.world

theorem stillApart {s : State} (alive : Alive s) : Apart s s :=
  ⟨⟨rfl,[],rfl,nofun⟩,rfl,alive.lines⟩

theorem closeApart {s t : State} {d : Nat} {db : CppMySQLDB} (alive : Alive s) (live : s.databases d = some db)
    (world : t.objects.world = (left (close client ⟨s.objects.world,db⟩)).world)
    (statements : t.objects.statements = s.objects.statements) : Apart s t := by
  have line := databaseLine alive live
  rw [closeApply] at world
  cases held : db.mpDB with
  | none =>
    rw [held] at world
    exact ⟨⟨by rw [world]; rfl,[],by rw [world]; rfl,nofun⟩,statements,by rw [world]; exact alive.lines⟩
  | some conn =>
    rw [held] at world line
    refine ⟨?_,statements,?_⟩
    · rw [world]
      exact ⟨rfl,[_],rfl,List.forall_mem_singleton.mpr rfl⟩
    · rw [world]
      refine orderlyReleased line rfl rfl fun j on => ?_
      have same : db.mpDB = some j := of_decide_eq_true on
      exact (Option.some.inj (held.symm.trans same)).symm

theorem databaseApart {s : State} (alive : Alive s) (e : Event) (own : ∀ d c, e ≠ .command d c) :
    Apart s (step client s e) := by
  have still := stillApart alive
  cases e with
  | command d c => exact absurd rfl (own d c)
  | newDatabase d =>
    simp only [step]
    split
    · rw [newApply]
      dsimp only
      split
      · let sent := s.objects.world.push ⟨none,.init,client.answer s.objects.world.log none .init⟩
        have issued : Lines (some s.objects.world.nConns) {sent with nConns := s.objects.world.nConns + 1} :=
          orderlyIssued closesOn alive.lines rfl rfl fun j => rfl
        exact ⟨⟨rfl,[_],rfl,List.forall_mem_singleton.mpr rfl⟩,rfl,forgotten issued⟩
      · have adds : Adds none none s.objects.world
            (s.objects.world.push ⟨none,.init,client.answer s.objects.world.log none .init⟩) :=
          addsPush (plainWithin rfl _)
        exact ⟨addsBeside adds,rfl,addsLines adds alive.lines⟩
    · exact still
  | operation d op =>
    simp only [step]
    cases live : s.databases d with
    | none => exact still
    | some db =>
      dsimp only
      cases plain : namesObject op with
      | true => exact still
      | false =>
        by_cases ends : op = .close
        · subst ends
          refine @closeApart client _ _ _ _ alive live ?_ rfl
          simp only [Bool.false_eq_true,if_false,State.put,used,perform,leftBindPure]
        · have adds := (operationSpeaks client plain ends ⟨s.objects.world,db⟩).2
          exact ⟨addsBeside adds,rfl,forgotten (addsLines adds (databaseLine alive live))⟩
  | destroyDatabase d =>
    simp only [step]
    cases live : s.databases d with
    | none => exact still
    | some db => exact closeApart alive live (destroyCloses _) rfl

theorem aliveStep (client : Client) (s : State) (e : Event) (alive : Alive s) : Alive (step client s e) := by
  have connections : Sound (connectionBook (step client s e)) := by
    rw [connectionsSimulated]
    exact soundAct alive.connections _
  have database (own : ∀ d c, e ≠ .command d c) : Alive (step client s e) := by
    obtain ⟨beside,statements,lines⟩ := @databaseApart client _ alive e own
    exact ⟨connections,besideBook beside statements ▸ alive.statements,lines,besideStatements beside alive.order⟩
  cases e with
  | newDatabase | operation | destroyDatabase => exact database (by simp)
  | command d c =>
    simp only [step] at connections ⊢
    cases granted : granted s d c with
    | false => exact alive
    | true =>
      have moves := commandMoves client s.objects c
      simp only [granted,if_true] at connections
      refine ⟨connections,?_,forgotten (movesLines moves (grantedLine alive granted)),
        movesStatements moves (touchedStatement alive c)⟩
      rw [if_pos rfl,statementsSimulated]
      exact soundAct alive.statements _

theorem initialAlive : Alive .initial :=
  ⟨(freshSound rfl (fun _ => rfl) fun _ => rfl).1,(freshSound rfl (fun _ => rfl) fun _ => rfl).1,
    ⟨nofun,nofun,trivial⟩,⟨nofun,nofun,trivial⟩⟩

/-- In every run each call on a connection is on one that was made and not yet closed. -/
theorem connectionsUntouched (client : Client) (events : List Event) :
    Throughout (step client) (fun s => NeverAfter onConnection closes s.objects.world.log ∧
      ∀ e ∈ s.objects.world.log, ∀ id, onConnection id e → id < s.objects.world.nConns) .initial events :=
  throughoutMono (fun _ alive => ⟨alive.lines.never,alive.lines.known⟩)
    (invariantThroughout (aliveStep client) initialAlive events)

/-- In every run each call on a statement is on one that was started and not yet closed. -/
theorem statementsUntouched (client : Client) (events : List Event) :
    Throughout (step client) (fun s => NeverAfter onStatement stmtCloses s.objects.world.log ∧
      ∀ e ∈ s.objects.world.log, ∀ id, onStatement id e → id < s.objects.world.nStmts) .initial events :=
  throughoutMono (fun _ alive => ⟨alive.order.never,alive.order.known⟩)
    (invariantThroughout (aliveStep client) initialAlive events)

end Lives
end DatabaseLayer.MySQLLifetimes
