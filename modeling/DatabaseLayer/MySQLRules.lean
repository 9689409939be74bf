import DatabaseLayer.MySQLDB

/-! Rules for relations between the world before and after an operation. A relation
that survives the calls an operation makes survives the operation. -/
namespace DatabaseLayer.MySQLRules
open Platform MySQLClient Foundation.Program

/-- A relation of worlds, read on the scopes of a method. -/
def OnWorlds {O : Type} (R : World → World → Prop) (s t : Scope World O) : Prop := R s.world t.world

theorem chainOnWorlds {O : Type} {R : World → World → Prop} (chain : Chain R) :
    Chain (OnWorlds (O := O) R) :=
  ⟨fun s => chain.refl s.world,fun s t u => chain.trans s.world t.world u.world⟩

section Rules
variable {O : Type} {client : Client} {E : Stop → Prop} {R : Scope World O → Scope World O → Prop}

theorem settlesCall {conn : Option Nat} {c : Call}
    (push : ∀ s, R s ⟨s.world.push ⟨conn,c,client.answer s.world.log conn c⟩,s.this⟩) :
    Settles E R (call client conn c) := ⟨push⟩

theorem settlesRaise {α : Type} (chain : Chain R) (nErrCode : Int) (szErrMess : CString) :
    Settles E R (raise nErrCode szErrMess : Op O α) :=
  ⟨fun s => Or.inr (chain.refl s)⟩

theorem settlesUndefined {α : Type} (chain : Chain R) :
    Settles E R (undefinedBehaviour : Op O α) :=
  ⟨fun s => Or.inr (chain.refl s)⟩

theorem settlesLastError {α : Type} (chain : Chain R) (conn : Option Nat) :
    Settles E R (throwLastError conn : Op O α) := by
  refine ⟨fun s => ?_⟩
  simp only [throwLastError,bindApply,getApply]
  cases s.world.log.find? (fun e => e.conn = conn) with
  | none => exact Or.inr (chain.refl s)
  | some e => exact Or.inr (chain.refl s)

end Rules
end DatabaseLayer.MySQLRules

namespace DatabaseLayer.CppMySQLQuery
open Platform MySQLClient Foundation.Program MySQLRules

section Reading
variable {E : Stop → Prop}

theorem settlesRowAt (nField : Int) : Settles E (fun s t => id t = id s) (rowAt nField) := by
  have same := chainEq (id : Scope World CppMySQLQuery → _)
  refine settlesBind same (settlesGet same) fun s => ?_
  cases s.this.mRow with
  | none => exact settlesUndefined same
  | some row =>
    refine settlesIte (fun _ => settlesUndefined same) fun _ => ?_
    cases row.cells[nField.toNat]? with
    | none => exact settlesUndefined same
    | some cell => exact settlesPure same cell

theorem settlesNumFields : Settles E (fun s t => id t = id s) numFields := ⟨fun _ => rfl⟩

theorem settlesDataIsNull (nField : Int) :
    Settles E (fun s t => id t = id s) (fieldDataIsNull nField) :=
  settlesBind (chainEq id) (settlesRowAt nField) fun _ => settlesPure (chainEq id) _

theorem settlesFieldValue (nField : Int) : Settles E (fun s t => id t = id s) (fieldValue nField) := by
  have same := chainEq (id : Scope World CppMySQLQuery → _)
  refine settlesBind same (settlesGet same) fun s => ?_
  refine settlesBind same (settlesDataIsNull nField) fun isNull => ?_
  refine settlesIte (fun _ => settlesBind same (settlesRowAt nField) fun cell => ?_)
    fun _ => settlesRaise same _ _
  cases cell with
  | none => exact settlesUndefined same
  | some value => exact settlesPure same value

theorem settlesStringField (nField : Int) (szNullValue : CString) :
    Settles E (fun s t => id t = id s) (getStringField nField szNullValue) :=
  settlesBind (chainEq id) (settlesDataIsNull nField) fun _ =>
    settlesIte (fun _ => settlesFieldValue nField) fun _ => settlesPure (chainEq id) _

theorem settlesIntField (nField nNullValue : Int) :
    Settles E (fun s t => id t = id s) (getIntField nField nNullValue) := by
  have same := chainEq (id : Scope World CppMySQLQuery → _)
  refine settlesBind same (settlesDataIsNull nField) fun _ => settlesIte (fun _ => ?_)
    fun _ => settlesPure same _
  exact settlesBind same (settlesStringField nField default) fun _ => settlesPure same _

theorem settlesHandle : Settles E (fun s t => id t = id s) handle := by
  have same := chainEq (id : Scope World CppMySQLQuery → _)
  refine settlesBind same (settlesGet same) fun s => ?_
  cases s.this.mpRES with
  | none => exact settlesUndefined same
  | some res => exact settlesPure same res

theorem settlesFieldIndexFrom (szField : CString) (nField n : Nat) (cursor : List MysqlField) :
    Settles E (fun s t => id t = id s) (fieldIndexFrom szField nField n cursor) := by
  have same := chainEq (id : Scope World CppMySQLQuery → _)
  induction n generalizing nField cursor with
  | zero => exact settlesPure same _
  | succ n ih =>
    cases cursor with
    | nil => exact ih (nField + 1) []
    | cons mField cursor =>
      unfold fieldIndexFrom
      cases mField.name with
      | none => exact settlesUndefined same
      | some name => exact settlesIte (fun _ => settlesPure same _) fun _ => ih (nField + 1) cursor

theorem settlesCheckRES : Settles E (fun s t => id t = id s) checkRES := by
  have same := chainEq (id : Scope World CppMySQLQuery → _)
  exact settlesBind same (settlesGet same) fun s => settlesIte (fun _ => settlesRaise same _ _) fun _ => settlesPure same _

theorem settlesFieldIndex (szField : Option CString) : Settles E (fun s t => id t = id s) (fieldIndex szField) := by
  have same := chainEq (id : Scope World CppMySQLQuery → _)
  refine settlesBind same settlesCheckRES fun _ => ?_
  cases szField
  case' none => refine settlesBind same (settlesPure same none) fun found => ?_
  case' some name =>
    refine settlesBind same (settlesGet same) fun s => settlesBind same settlesHandle fun res => ?_
    refine settlesBind same ⟨fun _ => rfl⟩ fun cursor => ?_
    refine settlesBind same (settlesFieldIndexFrom name 0 _ cursor) fun found => ?_
  all_goals
    cases found with
    | none => exact settlesRaise same _ _
    | some nField => exact settlesPure same _

end Reading
end DatabaseLayer.CppMySQLQuery

namespace DatabaseLayer.CppMySQLStatement
open Platform MySQLClient Foundation.Program MySQLRules

/-- The calls of the requests that leave a statement open. -/
def requestCall : Call → Bool
  | .stmtBindParam _ | .stmtExecute _ _ | .stmtAffectedRows _ | .stmtReset _ => true
  | _ => false

theorem clearBindingsKeeps (s : CppMySQLStatement) :
    (clearBindings s).mpBindArray.map Owned.addr = s.mpBindArray.map Owned.addr := by
  simp only [clearBindings,Option.map_map]
  rfl

section Requests
variable {client : Client} {E : Stop → Prop}
  {R : Scope World CppMySQLStatement → Scope World CppMySQLStatement → Prop} (chain : Chain R)
  (push : ∀ s conn c, requestCall c → R s ⟨s.world.push ⟨conn,c,client.answer s.world.log conn c⟩,s.this⟩)
  (statics : ∀ s n d, R s ⟨{s.world with sNValue := n, sDwValue := d},s.this⟩)
  (own : ∀ s o, o.mpStmt = s.this.mpStmt →
    o.mpBindArray.map Owned.addr = s.this.mpBindArray.map Owned.addr → R s ⟨s.world,o⟩)
include chain own

theorem settlesBindParameter (pos : Int) (type : FieldType) (buffer : Buffer) (length : Nat) :
    Settles E R (realBind pos type buffer length) := by
  refine ⟨fun s => ?_⟩
  rw [realBindApply]
  split
  · exact Or.inr (chain.refl s)
  split
  · exact Or.inr (chain.refl s)
  cases held : s.this.mpBindArray with
  | none => exact Or.inr (chain.refl s)
  | some array => exact own s _ rfl (by rw [held]; rfl)

include push

theorem settlesExecute : Settles E R (execute client) := by
  have checkStmt : Settles E R checkStmt :=
    settlesBind chain (settlesGet chain) fun _ => settlesIte (fun _ => settlesRaise chain _ _)
      fun _ => settlesPure chain _
  have checkBindArray : Settles E R checkBindArray :=
    settlesBind chain (settlesGet chain) fun _ => settlesIte (fun _ => settlesRaise chain _ _)
      fun _ => settlesPure chain _
  have leave : ∀ szErrMess, Settles E R (raise CPPMYSQL_STATEMENT_ERROR szErrMess : Op CppMySQLStatement Unit) :=
    settlesRaise chain CPPMYSQL_STATEMENT_ERROR
  have ask : ∀ conn c, requestCall c → Settles E R (call client conn c) :=
    fun conn c hc => settlesCall fun s => push s conn c hc
  refine settlesBind chain checkStmt fun _ => settlesBind chain checkBindArray fun _ => ?_
  refine settlesBind chain (settlesGet chain) fun s => ?_
  dsimp only
  cases s.this.mpStmt with
  | none => exact settlesUndefined chain
  | some stmt =>
    cases s.this.mpBindArray with
    | none => exact settlesUndefined chain
    | some array =>
      refine settlesIte (fun _ => leave _) fun _ => settlesIte (fun _ => leave _) fun _ => ?_
      refine settlesIte (fun _ => settlesUndefined chain) fun _ => ?_
      refine settlesBind chain (ask _ _ rfl) fun res => settlesIte (fun _ => settlesLastError chain _) fun _ => ?_
      refine settlesBind chain (settlesGet chain) fun t => settlesBind chain (ask _ _ rfl) fun res => ?_
      exact settlesIte (fun _ => settlesLastError chain _) fun _ => settlesOnThis fun t =>
        own t _ rfl (clearBindingsKeeps _)

include statics

theorem settlesRequest {request : Request} (clears : request ≠ .clear) :
    Settles E R (perform client request) := by
  have ask : ∀ conn c, requestCall c → Settles E R (call client conn c) :=
    fun conn c hc => settlesCall fun s => push s conn c hc
  cases request with
  | bindString nParam szValue => exact settlesBindParameter chain own _ _ _ _
  | bindInt nParam nValue =>
    exact settlesBind chain (settlesOnWorld fun s => statics s nValue s.world.sDwValue) fun _ =>
      settlesBindParameter chain own _ _ _ _
  | bindDouble nParam dwValue =>
    exact settlesBind chain (settlesOnWorld fun s => statics s s.world.sNValue dwValue) fun _ =>
      settlesBindParameter chain own _ _ _ _
  | execDML =>
    refine settlesBind chain ?_ fun _ => settlesPure chain _
    refine settlesBind chain (settlesExecute chain push own) fun _ => settlesBind chain (settlesGet chain) fun t => ?_
    cases t.this.mpStmt with
    | none => exact settlesUndefined chain
    | some stmt => exact settlesBind chain (ask _ _ rfl) fun _ => settlesPure chain _
  | reset =>
    refine ⟨fun s => ?_⟩
    change Ends E R s (reset client s)
    rw [resetApply]
    cases s.this.mpStmt with
    | none => exact Or.inr (chain.refl s)
    | some stmt =>
      exact chain.trans _ _ _ (push s (some stmt.mysql) (.stmtReset stmt.id) rfl) (own _ _ rfl (clearBindingsKeeps _))
  | clear => exact absurd rfl clears

end Requests
end DatabaseLayer.CppMySQLStatement

namespace DatabaseLayer.CppMySQLDB
open Platform MySQLClient Foundation.Program ConnectionString MySQLRules

/-- The calls of the operations that neither run a statement nor touch a handle. -/
def quietCall : Call → Bool
  | .realConnect _ _ _ _ _ _ | .selectDb _ | .close | .commit | .rollback | .ping => true
  | .setCharacterSet _ | .characterSetName | .options _ _ => true
  | _ => false

/-- The statement an operation sends from a state without fetching what it yields. -/
def Operation.statement (s : Scope World CppMySQLDB) : Operation → Option CString
  | .execDML szSQL => if Connected true s then some szSQL else none
  | .startTransaction => if Connected true s then some (text "start transaction;") else none
  | .createDB szDBName => if Connected false s then
      sprintfInto 256 (text "CREATE DATABASE if not exists " ++ szDBName ++
        text " default character set 'utf8'") else none
  | .dropDB name => if Connected false s then
      sprintfInto 256 (text "DROP DATABASE if exists " ++ name) else none
  | _ => none

/-- The operations that run a statement and leave its result, if any, where it is. -/
def Operation.unfetched : Operation → Bool
  | .execDML _ | .startTransaction | .createDB _ | .dropDB _ => true
  | _ => false

def Operation.countsRows : Operation → Bool
  | .execDML _ | .startTransaction => true
  | _ => false

def Operation.quiet : Operation → Bool
  | .connect _ _ _ _ _ _ | .connectString _ | .openDB _ | .close | .commitTransaction | .rollback => true
  | .isTransaction | .ping | .setCharacterSet _ | .getCharacterSetName | .setOptions _ _ => true
  | _ => false

/-- The operations that set a connection up and select its database. -/
def Operation.configures : Operation → Bool
  | .connect _ _ _ _ _ _ | .connectString _ | .openDB _ | .setOptions _ _ => true
  | _ => false

section Quiet
variable {client : Client} {E : Stop → Prop}
  {R : Scope World CppMySQLDB → Scope World CppMySQLDB → Prop} (chain : Chain R)
include chain

theorem settlesCheckDB (b : Bool) : Settles E R (checkDB b) := by
  refine ⟨fun s => ?_⟩
  rw [checkDBApply]
  split
  · exact chain.refl s
  · exact Or.inr (chain.refl s)

theorem settlesHandle : Settles E R handle := ⟨fun s => chain.refl s⟩

theorem settlesComposed (szSQL : CString) : Settles E R (composed szSQL) := by
  unfold composed
  cases sprintfInto 256 szSQL with
  | none => exact settlesUndefined chain
  | some sql => exact settlesPure (chain) sql

section OptionStrings
variable (option : ∀ opt arg, Settles E R (setOptions client opt arg))
include option

theorem settlesCompress (value : CString) : Settles E R (setCompress client value) :=
  settlesIte (fun _ => option _ _) fun _ => settlesIte (fun _ => settlesPure chain _) fun _ =>
    settlesIte (fun _ => settlesRaise chain _ _) fun _ => settlesPure chain _

theorem settlesReconnect (value : CString) : Settles E R (setReconnect client value) :=
  settlesIte (fun _ => option _ _) fun _ => settlesIte (fun _ => option _ _) fun _ =>
    settlesIte (fun _ => settlesRaise chain _ _) fun _ => settlesPure chain _

theorem settlesCharset (value : CString) : Settles E R (setCharset client value) :=
  settlesIte (fun _ => option _ _) fun _ => settlesPure chain _

end OptionStrings

/-- A program that only throws, and leaves everything as it was. -/
def Throws {α : Type} (m : Op CppMySQLDB α) : Prop := ∀ s, ∃ e, m s = .error (.thrown e) s

omit chain in
theorem throwsRaise {α : Type} (nErrCode : Int) (szErrMess : CString) :
    Throws (raise nErrCode szErrMess : Op CppMySQLDB α) :=
  fun _ => ⟨_,rfl⟩

omit chain in
theorem throwsLastError {α : Type} (conn : Option Nat) : Throws (throwLastError conn : Op CppMySQLDB α) := by
  intro s
  simp only [throwLastError,bindApply,getApply]
  cases s.world.log.find? (fun e => e.conn = conn) with
  | none => exact ⟨_,rfl⟩
  | some e => exact ⟨_,rfl⟩

section Checked
variable (checked : ∀ conn c (m k : Op CppMySQLDB Unit), quietCall c → Throws m → Settles E R k →
    Settles E R (do
      let reply ← call client conn c
      if reply.rc ≠ 0 then m else k))
  (named : ∀ s name, R s ⟨{s.world with sDBName := name},s.this⟩)
include checked

theorem settlesSetOptions (opt : MysqlOption) (arg : Option CString) :
    Settles E R (setOptions client opt arg) :=
  settlesBind chain (settlesHandle chain) fun _ =>
    checked _ _ _ _ rfl (throwsRaise _ _) (settlesPure chain _)

theorem settlesConnect (host user passwd : CString) (db : Option CString) (port flag : Nat) :
    Settles E R (connect client host user passwd db port flag) :=
  settlesBind chain (settlesCheckDB chain false) fun _ => settlesBind chain (settlesHandle chain) fun _ =>
    checked _ _ _ _ rfl (throwsLastError _) (settlesPure chain _)

include named

theorem settlesConnectWith (options : Options) : Settles E R (connectWith client options) := by
  have option := settlesSetOptions chain checked
  have leave : ∀ (nErrCode : Int) (szErrMess : CString),
      Settles E R (raise nErrCode szErrMess : Op CppMySQLDB Unit) :=
    settlesRaise chain
  refine settlesIte (fun _ => leave _ _) fun _ => settlesIte (fun _ => leave _ _) fun _ => ?_
  refine settlesBind chain (settlesCompress chain option _) fun _ => ?_
  refine settlesBind chain (settlesReconnect chain option _) fun _ => ?_
  refine settlesBind chain (settlesCharset chain option _) fun _ => ?_
  exact settlesBind chain (settlesConnect chain checked _ _ _ _ _ _) fun _ =>
    settlesOnWorld fun s => named s _

theorem settlesConfigure {op : Operation} (configures : op.configures) :
    Settles E R (perform client op) := by
  have done : ∀ r : Returned, Settles E R (pure r) := settlesPure chain
  cases op with
  | connect host user passwd db port flag =>
    exact settlesBind chain (settlesConnect chain checked _ _ _ _ _ _) fun _ => done _
  | connectString sz =>
    refine settlesBind chain ?_ fun _ => done _
    unfold connectString
    cases parse sz with
    | ok options => exact settlesConnectWith chain checked named options
    | error stop => exact settlesThrow chain stop
  | openDB szDBName =>
    refine settlesBind chain ?_ fun _ => done _
    refine settlesBind chain (settlesCheckDB chain false) fun _ => ?_
    refine settlesBind chain (settlesHandle chain) fun mpDB => ?_
    exact checked _ _ _ _ rfl (throwsLastError _) (settlesOnWorld fun s => named s _)
  | setOptions opt arg => exact settlesBind chain (settlesSetOptions chain checked opt arg) fun _ => done _
  | _ => exact absurd configures Bool.false_ne_true

end Checked

variable (push : ∀ s conn c, quietCall c →
    R s ⟨s.world.push ⟨conn,c,client.answer s.world.log conn c⟩,s.this⟩)
  (named : ∀ s name, R s ⟨{s.world with sDBName := name},s.this⟩)
  (own : ∀ s db, db.mpDB = none ∨ db.mpDB = s.this.mpDB → R s ⟨s.world,db⟩)
include push own

theorem settlesClose : Settles E R (close client) := by
  refine settlesBind chain (settlesHandle chain) fun mpDB => ?_
  cases mpDB with
  | none => exact settlesPure chain _
  | some conn =>
    exact settlesBind chain (settlesCall fun s => push s _ _ rfl) fun _ =>
      settlesOnThis fun s => own s _ (.inl rfl)

include named

theorem settlesQuiet {op : Operation} (quiet : op.quiet) : Settles E R (perform client op) := by
  have ask : ∀ conn k, quietCall k → Settles E R (call client conn k) :=
    fun conn k hk => settlesCall fun s => push s conn k hk
  have done : ∀ r : Returned, Settles E R (pure r) := settlesPure chain
  have configure : op.configures = true → Settles E R (perform client op) := by
    refine settlesConfigure chain (fun conn c m k hc throws rest => ?_) named
    refine settlesBind chain (ask conn c hc) fun reply => settlesIte (fun _ => ⟨fun s => ?_⟩) fun _ => rest
    obtain ⟨e,thrown⟩ := throws s
    rw [thrown]
    exact Or.inr (chain.refl s)
  cases op with
  | connect | connectString | openDB | setOptions => exact configure rfl
  | close => exact settlesBind chain (settlesClose chain push own) fun _ => done _
  | commitTransaction =>
    refine settlesBind chain ?_ fun _ => done _
    refine settlesBind chain (settlesCheckDB chain true) fun _ => settlesBind chain (settlesHandle chain) fun _ => ?_
    exact settlesBind chain (ask _ _ rfl) fun _ => settlesOnThis fun s => own s _ (.inr rfl)
  | rollback =>
    refine settlesBind chain ?_ fun _ => done _
    refine settlesBind chain (settlesCheckDB chain true) fun _ => settlesBind chain (settlesHandle chain) fun _ => ?_
    exact settlesBind chain (ask _ _ rfl) fun _ => settlesOnThis fun s => own s _ (.inr rfl)
  | isTransaction => exact settlesBind chain (settlesGet chain) fun _ => done _
  | ping =>
    refine settlesBind chain ?_ fun _ => done _
    refine settlesBind chain (settlesCheckDB chain true) fun _ => settlesBind chain (settlesHandle chain) fun _ => ?_
    exact settlesBind chain (ask _ _ rfl) fun _ => settlesPure chain _
  | setCharacterSet szName =>
    refine settlesBind chain ?_ fun _ => done _
    refine settlesBind chain (settlesCheckDB chain false) fun _ => settlesBind chain (settlesHandle chain) fun _ => ?_
    exact settlesBind chain (ask _ _ rfl) fun _ => settlesPure chain _
  | getCharacterSetName =>
    refine settlesBind chain ?_ fun _ => done _
    refine settlesBind chain (settlesCheckDB chain false) fun _ => settlesBind chain (settlesHandle chain) fun _ => ?_
    exact settlesBind chain (ask _ _ rfl) fun _ => settlesPure chain _
  | _ => exact absurd quiet Bool.false_ne_true

end Quiet

section Unfetched
variable (client : Client)

/-- The world after a statement whose result nobody fetches. -/
def ranUnfetched (op : Operation) (s : Scope World CppMySQLDB) : World :=
  match op.statement s with
  | none => s.world
  | some sql =>
    let t := asked client s (.realQuery sql)
    if op.countsRows ∧ (reply client s (.realQuery sql)).rc = 0 then (asked client t .affectedRows).world
    else t.world

theorem statementConnected {op : Operation} {s : Scope World CppMySQLDB} {sql : CString}
    (h : op.statement s = some sql) : s.this.mpDB ≠ none := by
  cases op with
  | execDML szSQL =>
    by_cases connected : Connected true s
    · exact connected.1
    · simp [Operation.statement,connected] at h
  | startTransaction =>
    by_cases connected : Connected true s
    · exact connected.1
    · simp [Operation.statement,connected] at h
  | createDB szDBName =>
    by_cases connected : Connected false s
    · exact connected.1
    · simp [Operation.statement,connected] at h
  | dropDB name =>
    by_cases connected : Connected false s
    · exact connected.1
    · simp [Operation.statement,connected] at h
  | _ => cases h

theorem createLeft (szSQL : CString) (s : Scope World CppMySQLDB) :
    left ((do
      checkDB false
      let szSQL ← composed szSQL
      let mpDB ← handle
      let reply ← call client mpDB (.realQuery szSQL)
      if reply.rc ≠ 0 then
        throwLastError mpDB : Op CppMySQLDB Unit) s) =
      match if Connected false s then sprintfInto 256 szSQL else none with
      | none => s
      | some sql => asked client s (.realQuery sql) := by
  simp only [bindApply,checkDBApply]
  by_cases connected : Connected false s
  · simp only [if_pos connected,composed]
    cases sprintfInto 256 szSQL with
    | none => rfl
    | some sql =>
      simp only [pureApply,handleApply,callHandle,iteApply,throwAsked]
      split <;> rfl
  · simp only [if_neg connected,leftError]

theorem unfetchedLeft {op : Operation} (h : op.unfetched) (s : Scope World CppMySQLDB) :
    (left (perform client op s)).world = ranUnfetched client op s ∧
      (left (perform client op s)).this.mpDB = s.this.mpDB := by
  cases op with
  | execDML szSQL =>
    simp only [perform,leftBindPure,execDMLApply,ranUnfetched,Operation.statement,Operation.countsRows]
    by_cases connected : Connected true s
    · simp only [if_pos connected,true_and]
      split <;> exact ⟨rfl,rfl⟩
    · simp only [if_neg connected,leftError,and_self]
  | startTransaction =>
    simp only [perform,leftBindPure,startTransactionApply,ranUnfetched,Operation.statement,
      Operation.countsRows]
    by_cases connected : Connected true s
    · simp only [if_pos connected,true_and]
      split <;> exact ⟨rfl,rfl⟩
    · simp only [if_neg connected,leftError,and_self]
  | createDB szDBName =>
    simp only [perform,leftBindPure,createDB,createLeft,ranUnfetched,Operation.statement,
      Operation.countsRows]
    split <;> simp_all
  | dropDB name =>
    simp only [perform,leftBindPure,dropDB,createLeft,ranUnfetched,Operation.statement,
      Operation.countsRows]
    split <;> simp_all
  | _ => exact absurd h Bool.false_ne_true

end Unfetched

section Fetched
variable (client : Client)

/-- The history after a statement whose result is stored. -/
def fetchedLog (szSQL : CString) (s : Scope World CppMySQLDB) : History :=
  if Connected true s then
    let t := asked client s (.realQuery szSQL)
    if (reply client s (.realQuery szSQL)).rc = 0 then (asked client t .storeResult).world.log
    else t.world.log
  else s.world.log

/-- The local query of execScalar frees its result, if it has one, on the way out. -/
def Freed (h later : History) : Prop := later = h ∨ ∃ res, later = ⟨none,.freeResult res,success⟩ :: h

theorem storedLog (s : Scope World CppMySQLDB) :
    (stored client s).2.world.log = (asked client s .storeResult).world.log := by
  unfold stored
  cases (reply client s .storeResult).stored <;> rfl

@[simp] theorem storedThis (s : Scope World CppMySQLDB) : (stored client s).2.this = s.this := by
  unfold stored
  cases (reply client s .storeResult).stored <;> rfl

theorem storedFresh {s : Scope World CppMySQLDB} {res : Nat} (h : (stored client s).1 = some res) :
    ∃ data, (reply client s .storeResult).stored = some data ∧
      (stored client s).2.world.results res = ⟨data,data.rows⟩ ∧ res = s.world.nResults := by
  unfold stored at h ⊢
  cases data : (reply client s .storeResult).stored with
  | none => simp [data] at h
  | some d =>
    simp only [data,Option.some.injEq] at h
    subst h
    exact ⟨d,rfl,storeSelf (asked client s .storeResult).world d,rfl⟩

theorem ofRESLeft {O : Type} (pRES : Option Nat) (s : Scope World O) :
    (left (CppMySQLQuery.ofRES pRES s)).world.log = s.world.log ∧
      (left (CppMySQLQuery.ofRES pRES s)).this = s.this := by
  rw [CppMySQLQuery.ofRESApply]
  cases pRES <;> exact ⟨rfl,rfl⟩

theorem execQueryLeft (szSQL : CString) (s : Scope World CppMySQLDB) :
    (left (execQuery client szSQL s)).world.log = fetchedLog client szSQL s ∧
      (left (execQuery client szSQL s)).this = s.this := by
  rw [execQueryApply]
  unfold fetchedLog
  by_cases connected : Connected true s
  · simp only [if_pos connected]
    split
    · obtain ⟨log,this⟩ := ofRESLeft (stored client (asked client s (.realQuery szSQL))).1
        (stored client (asked client s (.realQuery szSQL))).2
      rw [log,this,storedLog,storedThis]
      exact ⟨rfl,rfl⟩
    · exact ⟨rfl,rfl⟩
  · simp only [if_neg connected,leftError,and_self]

theorem getResultSetLeft (szSQL : CString) (s : Scope World CppMySQLDB) :
    (left (getResultSet client szSQL s)).world.log = fetchedLog client szSQL s ∧
      (left (getResultSet client szSQL s)).this = s.this := by
  rw [getResultSetApply]
  unfold fetchedLog
  by_cases connected : Connected true s
  · simp only [if_pos connected]
    split
    · have log := storedLog client (asked client s (.realQuery szSQL))
      cases kept : (stored client (asked client s (.realQuery szSQL))).1 with
      | none => exact ⟨log,storedThis client _⟩
      | some res =>
        obtain ⟨data,_,fresh,_⟩ := storedFresh client kept
        rw [CppMySQLResultSet.ofRESApply res data _ fresh]
        cases CppMySQLResultSet.fieldMap 0 data.fields <;> exact ⟨log,storedThis client _⟩
    · exact ⟨rfl,rfl⟩
  · simp only [if_neg connected,leftError,and_self]

theorem scalarOfLeft (nNullValue : Int) (s : Scope World CppMySQLQuery) :
    left (scalarOf nNullValue s) = s := by
  have same := chainEq (id : Scope World CppMySQLQuery → _)
  have invalid : ∀ szErrMess, Settles (fun _ => False) (fun s t => id t = id s)
      (raise CPPMYSQL_DB_ERROR szErrMess : Op CppMySQLQuery Int) := settlesRaise same CPPMYSQL_DB_ERROR
  have ints : Settles (fun _ => False) (fun s t => id t = id s) (scalarOf nNullValue) := by
    unfold scalarOf
    refine settlesBind same (settlesBind same (settlesGet same) fun _ => settlesPure same _) fun atEnd => ?_
    refine settlesIte (fun _ => invalid _) fun _ => ?_
    refine settlesBind same CppMySQLQuery.settlesNumFields fun cols => ?_
    exact settlesIte (fun _ => invalid _) fun _ => CppMySQLQuery.settlesIntField 0 nNullValue
  exact settlesLeft ints s

theorem execScalarApply (szSQL : CString) (nNullValue : Int) (s : Scope World CppMySQLDB) :
    execScalar client szSQL nNullValue s = match execQuery client szSQL s with
      | .error e t => .error e t
      | .ok q t => withLocal q (scalarOf nNullValue) CppMySQLQuery.destroy t := by
  simp only [execScalar,bindApply]
  cases execQuery client szSQL s <;> rfl

theorem execScalarLeft (szSQL : CString) (nNullValue : Int) (s : Scope World CppMySQLDB) :
    Freed (fetchedLog client szSQL s) (left (execScalar client szSQL nNullValue s)).world.log ∧
      (left (execScalar client szSQL nNullValue s)).this = s.this := by
  obtain ⟨log,this⟩ := execQueryLeft client szSQL s
  rw [execScalarApply]
  cases result : execQuery client szSQL s with
  | error e t =>
    rw [result] at log this
    exact ⟨.inl log,this⟩
  | ok q t =>
    rw [result,leftOk] at log this
    simp only [leftLocal,scalarOfLeft,CppMySQLQuery.destroy,CppMySQLQuery.clearApply,← log]
    refine ⟨?_,this⟩
    cases q.mpRES with
    | none => exact .inl rfl
    | some res => exact .inr ⟨res,rfl⟩

theorem tableExistsApply (szTable : CString) (s : Scope World CppMySQLDB) :
    tableExists client szTable s =
      if Connected true s then
        match sprintfInto 256 (schemaQuery s.world.sDBName szTable) with
        | none => .error .undefined s
        | some szSQL => (do return (← execScalar client szSQL 0) > 0 : Op CppMySQLDB Bool) s
      else .error (.thrown (refusal s)) s := by
  simp only [tableExists,bindApply,checkDBApply]
  by_cases connected : Connected true s
  · simp only [if_pos connected,getApply,composed]
    cases sprintfInto 256 (schemaQuery s.world.sDBName szTable) <;> rfl
  · simp only [if_neg connected]

end Fetched
end DatabaseLayer.CppMySQLDB
