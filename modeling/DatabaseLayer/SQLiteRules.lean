import DatabaseLayer.SQLiteDB

/-! Rules for relations between the world before and after an operation on SQLite. Each
operation makes certain calls of the library; a relation that survives these survives it. -/
namespace DatabaseLayer.SQLiteRules
open Platform SQLiteClient Foundation.Program

/-- What one call of the library leaves of the world. -/
structure Called (c : Call) (w v : World) : Prop where
  log : ∃ rc, v.log = ⟨c,rc⟩ :: w.log
  stmts : v.nStmts = w.nStmts ∨ ∃ conn sql, c = .prepare conn sql
  tables : v.nTables = w.nTables ∨ ∃ conn sql, c = .getTable conn sql
  conns : v.nConns = w.nConns ∨ ∃ szFile, c = .openConn szFile

theorem calledPush (w : World) (c : Call) (rc : Int) : Called c w (w.push ⟨c,rc⟩) :=
  ⟨⟨rc,rfl⟩,.inl rfl,.inl rfl,.inl rfl⟩

theorem calledOpen (client : Client) (w : World) (szFile : CString) :
    Called (.openConn szFile) w (w.opened client szFile) := by
  unfold World.opened
  dsimp only
  split <;> exact ⟨⟨_,rfl⟩,.inl rfl,.inl rfl,.inr ⟨_,rfl⟩⟩

theorem calledPrepare (client : Client) (w : World) (conn : Nat) (sql : CString) :
    Called (.prepare conn sql) w (w.prepared client conn sql) := by
  unfold World.prepared
  dsimp only
  cases preparedColumns client w conn sql <;> exact ⟨⟨_,rfl⟩,.inr ⟨_,_,rfl⟩,.inl rfl,.inl rfl⟩

theorem calledGetTable (w : World) (conn : Nat) (sql : CString) (rc : Int) :
    Called (.getTable conn sql) w
      (if rc = SQLITE_OK then (w.push ⟨.getTable conn sql,rc⟩).addTable else w.push ⟨.getTable conn sql,rc⟩) := by
  split <;> exact ⟨⟨_,rfl⟩,.inl rfl,.inr ⟨_,_,rfl⟩,.inl rfl⟩

section Primitives
variable {O : Type} {client : Client} {E : Stop → Prop} {R : World → World → Prop} (chain : Chain R)
include chain

theorem settlesStill {α : Type} {m : Op O α} (still : ∀ s, (left (m s)).world = s.world) :
    Settles E (fun s t => R s.world t.world) m := by
  refine settlesOfLeft fun s => ?_
  rw [still s]
  exact chain.refl _

theorem settlesRaise {α : Type} (nErrCode : Int) (szErrMess : Message) (isSqlite3Free : Bool)
    (kept : isSqlite3Free → ∀ w v, Called (.free szErrMess) w v → R w v) :
    Settles E (fun s t => R s.world t.world) (raise nErrCode szErrMess isSqlite3Free : Op O α) := by
  refine settlesOfLeft fun s => ?_
  rw [raiseApply]
  unfold World.raised
  by_cases told : frees nErrCode szErrMess isSqlite3Free
  · rw [if_pos told]
    have asked : isSqlite3Free = true := by
      simp only [frees,Bool.and_eq_true] at told
      exact told.1.2
    exact kept asked _ _ (calledPush _ _ _)
  · rw [if_neg told]
    exact chain.refl _

omit chain

theorem settlesErrmsg (conn : Option Nat) (kept : ∀ w v, Called (.errmsg conn) w v → R w v) :
    Settles E (fun s t : Scope World O => R s.world t.world) (sqlite3Errmsg client conn) :=
  ⟨fun _ => kept _ _ (calledPush _ _ _)⟩

theorem settlesStep (pStmt : Option Nat) (kept : ∀ w v, Called (.step pStmt) w v → R w v) :
    Settles E (fun s t : Scope World O => R s.world t.world) (sqlite3Step client pStmt) := by
  cases pStmt with
  | none => exact ⟨fun _ => kept _ _ (calledPush _ _ _)⟩
  | some id => exact ⟨fun _ => kept _ _ ⟨⟨_,rfl⟩,.inl rfl,.inl rfl,.inl rfl⟩⟩

theorem settlesFinalize (pStmt : Option Nat) (kept : ∀ w v, Called (.finalize pStmt) w v → R w v) :
    Settles E (fun s t : Scope World O => R s.world t.world) (sqlite3Finalize pStmt) :=
  ⟨fun _ => kept _ _ (calledPush _ _ _)⟩

theorem settlesReset (id : Nat) (kept : ∀ w v, Called (.reset id) w v → R w v) :
    Settles E (fun s t : Scope World O => R s.world t.world) (sqlite3Reset id) :=
  ⟨fun _ => kept _ _ ⟨⟨_,rfl⟩,.inl rfl,.inl rfl,.inl rfl⟩⟩

theorem settlesBindCall (stmt : Nat) (nParam : Int) (value : Parameter)
    (kept : ∀ w v, Called (.bind stmt nParam value) w v → R w v) :
    Settles E (fun s t : Scope World O => R s.world t.world) (sqlite3Bind client stmt nParam value) :=
  ⟨fun _ => kept _ _ (calledPush _ _ _)⟩

theorem settlesChanges (conn : Nat) (kept : ∀ w v, Called (.changes conn) w v → R w v) :
    Settles E (fun s t : Scope World O => R s.world t.world) (sqlite3Changes client conn) :=
  ⟨fun _ => kept _ _ (calledPush _ _ _)⟩

theorem settlesExec (conn : Nat) (sql : CString) (kept : ∀ w v, Called (.exec conn sql) w v → R w v) :
    Settles E (fun s t : Scope World O => R s.world t.world) (sqlite3Exec client conn sql) :=
  ⟨fun _ => kept _ _ (calledPush _ _ _)⟩

theorem settlesAutocommit (conn : Nat) (kept : ∀ w v, Called (.getAutocommit conn) w v → R w v) :
    Settles E (fun s t : Scope World O => R s.world t.world) (sqlite3GetAutocommit client conn) :=
  ⟨fun _ => kept _ _ (calledPush _ _ _)⟩

theorem settlesBusyTimeout (conn : Option Nat) (nMillisecs : Int)
    (kept : ∀ w v, Called (.busyTimeout conn nMillisecs) w v → R w v) :
    Settles E (fun s t : Scope World O => R s.world t.world) (sqlite3BusyTimeout conn nMillisecs) :=
  ⟨fun _ => kept _ _ (calledPush _ _ _)⟩

theorem settlesCloseCall (conn : Nat) (kept : ∀ w v, Called (.closeConn conn) w v → R w v) :
    Settles E (fun s t : Scope World O => R s.world t.world) (sqlite3Close client conn) :=
  ⟨fun _ => kept _ _ (calledPush _ _ _)⟩

theorem settlesOpenCall (szFile : CString) (kept : ∀ w v, Called (.openConn szFile) w v → R w v) :
    Settles E (fun s t : Scope World O => R s.world t.world) (sqlite3Open client szFile) := by
  refine settlesOfLeft fun s => ?_
  rw [openApply]
  exact kept _ _ (calledOpen client _ _)

theorem settlesPrepare (conn : Nat) (sql : CString) (kept : ∀ w v, Called (.prepare conn sql) w v → R w v) :
    Settles E (fun s t : Scope World O => R s.world t.world) (sqlite3Prepare client conn sql) := by
  refine settlesOfLeft fun s => ?_
  rw [prepareApply]
  exact kept _ _ (calledPrepare client _ _ _)

theorem settlesGetTable (conn : Nat) (sql : CString) (kept : ∀ w v, Called (.getTable conn sql) w v → R w v) :
    Settles E (fun s t : Scope World O => R s.world t.world) (sqlite3GetTable client conn sql) := by
  refine settlesOfLeft fun s => ?_
  rw [getTableApply]
  exact kept _ _ (calledGetTable _ _ _ _)

end Primitives
end DatabaseLayer.SQLiteRules

namespace DatabaseLayer.CppSQLite3Query
open Platform SQLiteClient Foundation.Program SQLiteRules

section Reading
variable {E : Stop → Prop}

theorem settlesLiteral {O α : Type} (nErrCode : Int) (szErrMess : Message) :
    Settles E (fun s t => id t = id s) (raise nErrCode szErrMess false : Op O α) := by
  refine settlesOfLeft fun s => ?_
  have never : frees nErrCode szErrMess false = false := by simp [frees]
  rw [raiseApply,World.raised,never]
  rfl

theorem settlesUndefined {O α : Type} : Settles E (fun s t => id t = id s) (undefinedBehaviour : Op O α) :=
  ⟨fun _ => Or.inr rfl⟩

theorem settlesCheckStmt : Settles E (fun s t => id t = id s) checkStmt := by
  have same := chainEq (id : Scope World CppSQLite3Query → _)
  exact settlesBind same (settlesGet same) fun _ => settlesIte (fun _ => settlesLiteral _ _)
    fun _ => settlesPure same _

theorem settlesHandle : Settles E (fun s t => id t = id s) handle := by
  have same := chainEq (id : Scope World CppSQLite3Query → _)
  refine settlesBind same (settlesGet same) fun s => ?_
  cases s.this.mpStmt with
  | none => exact settlesUndefined
  | some pStmt => exact settlesPure same _

theorem settlesColumn (id' : Nat) (nCol : Int) :
    Settles E (fun s t => id t = id s) (sqlite3Column id' nCol : Op CppSQLite3Query Value) := by
  have same := chainEq (id : Scope World CppSQLite3Query → _)
  refine settlesBind same (settlesGet same) fun s => ?_
  cases (s.world.stmts id').value nCol with
  | none => exact settlesUndefined
  | some value => exact settlesPure same _

theorem settlesColumnName (id' : Nat) (nCol : Int) :
    Settles E (fun s t => id t = id s) (sqlite3ColumnName id' nCol : Op CppSQLite3Query (Option CString)) :=
  ⟨fun _ => rfl⟩

theorem settlesFieldIndexFrom (pStmt : Nat) (szField : CString) (n : Nat) (nField : Int) :
    Settles E (fun s t => id t = id s) (fieldIndexFrom pStmt szField nField n) := by
  have same := chainEq (id : Scope World CppSQLite3Query → _)
  induction n generalizing nField with
  | zero => exact settlesPure same _
  | succ n ih =>
    refine settlesBind same (settlesColumnName _ _) fun szTemp => ?_
    cases szTemp with
    | none => exact settlesUndefined
    | some szTemp => exact settlesIte (fun _ => settlesPure same _) fun _ => ih _

theorem settlesFieldIndex (szField : Option CString) :
    Settles E (fun s t => id t = id s) (fieldIndex szField) := by
  have same := chainEq (id : Scope World CppSQLite3Query → _)
  refine settlesBind same settlesCheckStmt fun _ => ?_
  cases szField
  case' none => refine settlesBind same (settlesPure same none) fun found => ?_
  case' some name =>
    refine settlesBind same settlesHandle fun _ => settlesBind same (settlesGet same) fun _ => ?_
    refine settlesBind same (settlesFieldIndexFrom _ _ _ _) fun found => ?_
  all_goals
    cases found with
    | none => exact settlesLiteral _ _
    | some nField => exact settlesPure same _

theorem settlesFind (field : FieldRef) : Settles E (fun s t => id t = id s) field.find := by
  cases field with
  | index nField => exact settlesPure (chainEq id) _
  | name szField => exact settlesFieldIndex szField

theorem settlesChecked {α : Type} (nCol : Int) {m : Op CppSQLite3Query α}
    (read : Settles E (fun s t => id t = id s) m) :
    Settles E (fun s t => id t = id s) (do
      checkStmt
      if nCol < 0 ∨ nCol > (← get).this.mnFieldsCount - 1 then
        raise CPPQLITE3L_QUERY_ERROR (.literal (text "Invalid field index requested")) false
      else
        m) := by
  have same := chainEq (id : Scope World CppSQLite3Query → _)
  exact settlesBind same settlesCheckStmt fun _ => settlesBind same (settlesGet same) fun _ =>
    settlesIte (fun _ => settlesLiteral _ _) fun _ => read

theorem settlesRead {α : Type} (nCol : Int) (f : Value → α) : Settles E (fun s t => id t = id s) (do
    return f (← sqlite3Column (← handle) nCol)) := by
  have same := chainEq (id : Scope World CppSQLite3Query → _)
  exact settlesBind same settlesHandle fun _ => settlesBind same (settlesColumn _ _) fun _ => settlesPure same _

theorem settlesDataIsNull (nField : Int) : Settles E (fun s t => id t = id s) (fieldDataIsNull nField) := by
  have same := chainEq (id : Scope World CppSQLite3Query → _)
  exact settlesBind same (settlesChecked nField (settlesRead nField Value.type)) fun _ => settlesPure same _

theorem settlesFieldValue (nField : Int) : Settles E (fun s t => id t = id s) (fieldValue nField) :=
  settlesBind (chainEq id) settlesCheckStmt fun _ => settlesRead nField Value.text

theorem settlesNumFields : Settles E (fun s t => id t = id s) numFields :=
  settlesBind (chainEq id) settlesCheckStmt fun _ => settlesBind (chainEq id) (settlesGet (chainEq id))
    fun _ => settlesPure (chainEq id) _

theorem settlesEof : Settles E (fun s t => id t = id s) eof :=
  settlesBind (chainEq id) settlesCheckStmt fun _ => settlesBind (chainEq id) (settlesGet (chainEq id))
    fun _ => settlesPure (chainEq id) _

theorem settlesIntField (nField nNullValue : Int) :
    Settles E (fun s t => id t = id s) (getIntField nField nNullValue) :=
  settlesBind (chainEq id) (settlesDataIsNull nField) fun _ =>
    settlesIte (fun _ => settlesRead nField Value.int) fun _ => settlesPure (chainEq id) _

end Reading

/-- The requests that move the query on, or end it. -/
def Request.moves : Request → Bool
  | .nextRow | .clear => true
  | _ => false

theorem accessorStill (client : Client) {request : Request} (reads : request.moves = false)
    (s : Scope World CppSQLite3Query) : left (perform client request s) = s := by
  have same := chainEq (id : Scope World CppSQLite3Query → _)
  suffices h : Settles (fun _ => False) (fun s t => id t = id s) (perform client request) from settlesLeft h s
  cases request with
  | numFields => exact settlesBind same settlesNumFields fun _ => settlesPure same _
  | fieldIndex szField => exact settlesBind same (settlesFieldIndex szField) fun _ => settlesPure same _
  | fieldName nCol =>
    refine settlesBind same (settlesChecked nCol ?_) fun _ => settlesPure same _
    exact settlesBind same settlesHandle fun _ => settlesColumnName _ _
  | fieldDataType nCol =>
    exact settlesBind same (settlesChecked nCol (settlesRead nCol Value.type)) fun _ => settlesPure same _
  | fieldDataIsNull nField => exact settlesBind same (settlesDataIsNull nField) fun _ => settlesPure same _
  | fieldValue field =>
    exact settlesBind same (settlesFind field) fun nField => settlesBind same (settlesFieldValue nField)
      fun _ => settlesPure same _
  | getStringField field szNullValue =>
    refine settlesBind same (settlesFind field) fun nField => settlesBind same ?_ fun _ => settlesPure same _
    exact settlesBind same (settlesDataIsNull nField) fun _ =>
      settlesIte (fun _ => settlesFieldValue nField) fun _ => settlesPure same _
  | getIntField field nNullValue =>
    exact settlesBind same (settlesFind field) fun nField => settlesBind same (settlesIntField nField nNullValue)
      fun _ => settlesPure same _
  | getDoubleField field fNullValue =>
    refine settlesBind same (settlesFind field) fun nField => settlesBind same ?_ fun _ => settlesPure same _
    exact settlesBind same (settlesDataIsNull nField) fun _ =>
      settlesIte (fun _ => settlesRead nField Value.double) fun _ => settlesPure same _
  | getBlobField field =>
    refine settlesBind same (settlesFind field) fun nField => settlesBind same ?_ fun _ => settlesPure same _
    exact settlesChecked nField (settlesRead nField Value.blob)
  | eof => exact settlesBind same settlesEof fun _ => settlesPure same _
  | nextRow => exact absurd reads (by decide)
  | clear => exact absurd reads (by decide)

end DatabaseLayer.CppSQLite3Query

namespace DatabaseLayer.CppSQLite3Query
open Platform SQLiteClient Foundation.Program SQLiteRules

section Moving
variable {client : Client} {E : Stop → Prop} {R : World → World → Prop} (chain : Chain R)
include chain

theorem settlesMessage {α : Type} (nRet : Int)
    (kept : ∀ conn message w v, Called (.errmsg (some conn)) w v ∨ Called .errmsgUnset w v ∨
      Called (.free message) w v → R w v) :
    Settles E (fun s t => R s.world t.world) (throwErrmsg client nRet : Op CppSQLite3Query α) := by
  have worlds := chainWorlds (O := CppSQLite3Query) chain
  refine settlesBind worlds (settlesGet worlds) fun s => ?_
  cases s.this.mpDB with
  | none => exact settlesOfLeft fun t => kept 0 .null _ _ (.inr (.inl (calledPush _ _ _)))
  | some conn =>
    exact settlesBind worlds (settlesErrmsg _ fun w v called => kept conn .null w v (.inl called)) fun message =>
      settlesRaise chain _ _ _ fun _ w v called => kept conn message w v (.inr (.inr called))

theorem settlesClear (kept : ∀ conn message pStmt w v, (Called (.errmsg (some conn)) w v ∨ Called .errmsgUnset w v ∨
      Called (.free message) w v) ∨ Called (.finalize (some pStmt)) w v → R w v) :
    Settles E (fun s t => R s.world t.world) (clear client) := by
  have worlds := chainWorlds (O := CppSQLite3Query) chain
  refine settlesBind worlds (settlesGet worlds) fun s => ?_
  cases s.this.mpStmt with
  | none => exact settlesPure worlds _
  | some pStmt =>
    refine settlesBind worlds (settlesFinalize _ fun w v called => kept 0 .null pStmt w v (.inr called))
      fun nRet => settlesBind worlds (settlesStill chain fun _ => rfl) fun _ => settlesIte (fun _ => ?_)
        fun _ => settlesPure worlds _
    exact settlesMessage chain nRet fun conn message w v called =>
      kept conn message pStmt w v (.inl called)

/-- An object that knows its connection asks no other for a message. -/
theorem clearKnown {s : Scope World CppSQLite3Query} {conn : Nat} (knows : s.this.mpDB = some conn)
    (kept : ∀ message pStmt w v, Called (.errmsg (some conn)) w v ∨ Called (.free message) w v ∨
      Called (.finalize (some pStmt)) w v → R w v) : R s.world (left (clear client s)).world := by
  rw [clearApply]
  cases held : s.this.mpStmt with
  | none => exact chain.refl _
  | some pStmt =>
    have gone : R s.world (released s).world := by
      rw [released,held]
      exact kept .null pStmt _ _ (.inr (.inr (calledPush _ _ _)))
    dsimp only
    split
    · rw [throwErrmsgApply,releasedConnection,knows]
      dsimp only
      refine chain.trans _ _ _ gone (chain.trans _ _ _ (kept .null 0 _ _ (.inl (calledPush _ _ SQLITE_OK))) ?_)
      unfold World.raised
      split
      · exact kept _ 0 _ _ (.inr (.inl (calledPush _ _ _)))
      · exact chain.refl _
    · exact gone

end Moving
end DatabaseLayer.CppSQLite3Query

namespace DatabaseLayer.CppSQLite3Statement
open Platform SQLiteClient Foundation.Program SQLiteRules

def Request.makes (request : Request) (c : Call) : Bool :=
  match request with
  | .execDML => match c with | .step _ | .changes _ | .reset _ | .errmsg _ => true | _ => false
  | .reset => match c with | .reset _ | .errmsg _ => true | _ => false
  | .clear => match c with | .finalize _ | .errmsg _ => true | _ => false
  | _ => match c with | .bind _ _ _ => true | _ => false

section Requests
variable {client : Client} {E : Stop → Prop} {R : World → World → Prop} (chain : Chain R)
include chain

theorem settlesMessage {α : Type} (nRet : Int) (kept : ∀ conn w v, Called (.errmsg conn) w v → R w v) :
    Settles E (fun s t => R s.world t.world) (throwErrmsg client nRet : Op CppSQLite3Statement α) := by
  have worlds := chainWorlds (O := CppSQLite3Statement) chain
  exact settlesBind worlds (settlesGet worlds) fun _ => settlesBind worlds (settlesErrmsg _ (kept _)) fun _ =>
    settlesRaise chain _ _ _ nofun

theorem settlesCheckDB : Settles E (fun s t => R s.world t.world) checkDB := by
  have worlds := chainWorlds (O := CppSQLite3Statement) chain
  refine settlesBind worlds (settlesGet worlds) fun s => ?_
  cases s.this.mpDB with
  | none => exact settlesRaise chain _ _ _ nofun
  | some pDB => exact settlesPure worlds _

theorem settlesCheckStmt : Settles E (fun s t => R s.world t.world) checkStmt := by
  have worlds := chainWorlds (O := CppSQLite3Statement) chain
  refine settlesBind worlds (settlesGet worlds) fun s => ?_
  cases s.this.mpStmt with
  | none => exact settlesRaise chain _ _ _ nofun
  | some pStmt => exact settlesPure worlds _

theorem settlesBindAs (kind : String) (nParam : Int) (value : Parameter)
    (kept : ∀ c w v, Request.makes (.bindNull 0) c → Called c w v → R w v) :
    Settles E (fun s t => R s.world t.world) (bindAs client kind nParam value) := by
  have worlds := chainWorlds (O := CppSQLite3Statement) chain
  exact settlesBind worlds (settlesCheckStmt chain) fun _ =>
    settlesBind worlds (settlesBindCall _ _ _ fun w v => kept _ w v rfl) fun _ =>
      settlesIte (fun _ => settlesRaise chain _ _ _ nofun) fun _ => settlesPure worlds _

theorem settlesRequest (request : Request) (kept : ∀ c w v, request.makes c → Called c w v → R w v) :
    Settles E (fun s t => R s.world t.world) (perform client request) := by
  have worlds := chainWorlds (O := CppSQLite3Statement) chain
  cases request with
  | bindString nParam szValue => exact settlesBindAs chain _ _ _ kept
  | bindInt nParam nValue => exact settlesBindAs chain _ _ _ kept
  | bindDouble nParam dValue => exact settlesBindAs chain _ _ _ kept
  | bindBlob nParam blobValue => exact settlesBindAs chain _ _ _ kept
  | bindNull nParam => exact settlesBindAs chain _ _ _ kept
  | execDML =>
    refine settlesBind worlds ?_ fun _ => settlesPure worlds _
    refine settlesBind worlds (settlesCheckDB chain) fun pDB => settlesBind worlds (settlesCheckStmt chain) fun pStmt => ?_
    have message : ∀ nRet, Settles E (fun s t => R s.world t.world)
        (throwErrmsg client nRet : Op CppSQLite3Statement Int) :=
      fun nRet => settlesMessage chain nRet fun conn w v => kept _ w v rfl
    refine settlesBind worlds (settlesStep _ fun w v => kept _ w v rfl) fun nRet => settlesIte (fun _ => ?_) fun _ => ?_
    · refine settlesBind worlds (settlesChanges _ fun w v => kept _ w v rfl) fun nRowsChanged => ?_
      exact settlesBind worlds (settlesReset _ fun w v => kept _ w v rfl) fun nRet =>
        settlesIte (fun _ => message _) fun _ => settlesPure worlds _
    · exact settlesBind worlds (settlesReset _ fun w v => kept _ w v rfl) fun nRet => message _
  | reset =>
    refine settlesBind worlds (settlesGet worlds) fun s => ?_
    cases s.this.mpStmt with
    | none => exact settlesPure worlds _
    | some pStmt =>
      exact settlesBind worlds (settlesReset _ fun w v => kept _ w v rfl) fun nRet =>
        settlesIte (fun _ => settlesMessage chain _ fun conn w v => kept _ w v rfl) fun _ => settlesPure worlds _
  | clear =>
    refine settlesBind worlds (settlesGet worlds) fun s => ?_
    cases s.this.mpStmt with
    | none => exact settlesPure worlds _
    | some pStmt =>
      refine settlesBind worlds (settlesFinalize _ fun w v => kept _ w v rfl) fun nRet =>
        settlesBind worlds (settlesStill chain fun _ => rfl) fun _ => settlesIte (fun _ => ?_)
          fun _ => settlesPure worlds _
      exact settlesBind worlds (settlesGet worlds) fun t => settlesIte
        (fun _ => settlesMessage chain _ fun conn w v => kept _ w v rfl) fun _ => settlesRaise chain _ _ _ nofun

theorem settlesExecQuery (step : ∀ pStmt w v, Called (.step pStmt) w v → R w v)
    (reset : ∀ pStmt w v, Called (.reset pStmt) w v → R w v) :
    Settles E (fun s t => R s.world t.world) (execQuery client) := by
  have worlds := chainWorlds (O := CppSQLite3Statement) chain
  refine settlesBind worlds (settlesCheckDB chain) fun pDB => settlesBind worlds (settlesCheckStmt chain) fun pStmt => ?_
  have handed : ∀ bEof, Settles E (fun s t : Scope World CppSQLite3Statement => R s.world t.world) (do
      let q ← CppSQLite3Query.ofStmt pDB pStmt bEof
      onThis (fun s => {s with mpStmt := none})
      return q.copy.1) :=
    fun bEof => settlesStill chain fun _ => rfl
  refine settlesBind worlds (settlesStep _ (step _)) fun nRet => settlesIte (fun _ => handed false) fun _ =>
    settlesIte (fun _ => handed false) fun _ => ?_
  exact settlesBind worlds (settlesReset _ (reset _)) fun _ => settlesRaise chain _ _ _ nofun

end Requests
end DatabaseLayer.CppSQLite3Statement

namespace DatabaseLayer.CppSQLite3DB
open Platform SQLiteClient Foundation.Program SQLiteRules

def Operation.makes (op : Operation) (c : Call) : Bool :=
  match op with
  | .openDB _ => match c with | .openConn _ | .errmsg _ | .free _ => true | _ => false
  | .close => match c with | .closeConn _ => true | _ => false
  | .execDML _ | .startTransaction | .commitTransaction | .rollback =>
    match c with | .exec _ _ | .changes _ | .free _ => true | _ => false
  | .execQuery _ | .execScalar _ _ | .tableExists _ =>
    match c with | .prepare _ _ | .step _ | .finalize _ | .errmsg (some _) | .free _ => true | _ => false
  | .getResultSet _ => match c with | .getTable _ _ | .free _ => true | _ => false
  | .compileStatement _ => match c with | .prepare _ _ | .errmsg (some _) => true | _ => false
  | .isTransaction => match c with | .getAutocommit _ => true | _ => false
  | .setBusyTimeout _ => match c with | .busyTimeout _ _ => true | _ => false

theorem compilesFirst {szSQL : CString} (c : Call) (makes : (Operation.compileStatement szSQL).makes c) :
    (Operation.execQuery szSQL).makes c := by
  cases c with
  | errmsg conn =>
    cases conn with
    | none => exact makes
    | some pDB => rfl
  | prepare conn sql => rfl
  | _ => exact absurd makes Bool.false_ne_true

section Operations
variable {client : Client} {E : Stop → Prop} {R : World → World → Prop} (chain : Chain R)
include chain

theorem settlesCheckDB : Settles E (fun s t => R s.world t.world) checkDB := by
  have worlds := chainWorlds (O := CppSQLite3DB) chain
  refine settlesBind worlds (settlesGet worlds) fun s => ?_
  cases s.this.mpDB with
  | none => exact settlesRaise chain _ _ _ nofun
  | some pDB => exact settlesPure worlds _

theorem settlesExecDML (szSQL : CString)
    (kept : ∀ c w v, (Operation.execDML szSQL).makes c → Called c w v → R w v) :
    Settles E (fun s t => R s.world t.world) (execDML client szSQL) := by
  have worlds := chainWorlds (O := CppSQLite3DB) chain
  refine settlesBind worlds (settlesCheckDB chain) fun pDB => ?_
  refine settlesBind worlds (settlesExec _ _ fun w v => kept _ w v rfl) fun reply => settlesIte (fun _ => ?_) fun _ => ?_
  · exact settlesChanges _ fun w v => kept _ w v rfl
  · exact settlesRaise chain _ _ _ fun _ w v => kept _ w v rfl

theorem settlesCompile (szSQL : CString)
    (kept : ∀ c w v, (Operation.compileStatement szSQL).makes c → Called c w v → R w v) :
    Settles E (fun s t => R s.world t.world) (compile client szSQL) := by
  have worlds := chainWorlds (O := CppSQLite3DB) chain
  refine settlesBind worlds (settlesCheckDB chain) fun pDB => ?_
  refine settlesBind worlds (settlesPrepare _ _ fun w v => kept _ w v rfl) fun prepared => settlesIte (fun _ => ?_)
    fun _ => settlesPure worlds _
  exact settlesBind worlds (settlesErrmsg _ fun w v => kept _ w v rfl) fun _ => settlesRaise chain _ _ _ nofun

theorem settlesExecQuery (szSQL : CString)
    (kept : ∀ c w v, (Operation.execQuery szSQL).makes c → Called c w v → R w v) :
    Settles E (fun s t => R s.world t.world) (execQuery client szSQL) := by
  have worlds := chainWorlds (O := CppSQLite3DB) chain
  have made : ∀ pDB pStmt bEof, Settles E (fun s t => R s.world t.world) (query pDB pStmt bEof) := by
    intro pDB pStmt bEof
    cases pStmt <;> exact settlesStill chain fun _ => rfl
  have compiles : Settles E (fun s t => R s.world t.world) (compile client szSQL) :=
    settlesCompile chain szSQL fun c w v makes => kept c w v (compilesFirst c makes)
  refine settlesBind worlds (settlesCheckDB chain) fun pDB => settlesBind worlds compiles fun pStmt => ?_
  refine settlesBind worlds (settlesStep _ fun w v => kept _ w v rfl) fun nRet => settlesIte (fun _ => made _ _ _)
    fun _ => settlesIte (fun _ => made _ _ _) fun _ => ?_
  refine settlesBind worlds (settlesFinalize _ fun w v => kept _ w v rfl) fun nRet => ?_
  exact settlesBind worlds (settlesErrmsg _ fun w v => kept _ w v rfl) fun message =>
    settlesRaise chain _ _ _ fun _ w v => kept _ w v rfl

omit chain in
theorem scalarStill (nNullValue : Int) (s : Scope World CppSQLite3Query) : left (scalarOf nNullValue s) = s := by
  have same := chainEq (id : Scope World CppSQLite3Query → _)
  suffices h : Settles (fun _ => False) (fun s t => id t = id s) (scalarOf nNullValue) from settlesLeft h s
  refine settlesBind same CppSQLite3Query.settlesEof fun _ =>
    settlesIte (fun _ => CppSQLite3Query.settlesLiteral _ _) fun _ => ?_
  exact settlesBind same CppSQLite3Query.settlesNumFields fun _ =>
    settlesIte (fun _ => CppSQLite3Query.settlesLiteral _ _) fun _ => CppSQLite3Query.settlesIntField _ _

theorem settlesExecScalar (szSQL : CString) (nNullValue : Int)
    (kept : ∀ c w v, (Operation.execQuery szSQL).makes c → Called c w v → R w v) :
    Settles E (fun s t => R s.world t.world) (execScalar client szSQL nNullValue) := by
  refine settlesOfLeft fun s => ?_
  have ran : R s.world (left (execQuery client szSQL s)).world := settlesLeft (settlesExecQuery chain szSQL kept) s
  simp only [execScalar,bindApply]
  cases result : execQuery client szSQL s with
  | error e t =>
    rw [result] at ran
    exact ran
  | ok q t =>
    rw [result] at ran
    simp only [leftLocal,scalarStill]
    refine chain.trans _ _ _ ran ?_
    obtain ⟨pDB,_,knows⟩ := execQueryKnows client result
    refine CppSQLite3Query.clearKnown chain (s := ⟨t.world,q⟩) knows fun message pStmt w v called => ?_
    obtain called | called | called := called <;> exact kept _ w v rfl called

/-- A relation that survives the calls an operation makes survives the operation. -/
theorem settlesOperation (op : Operation) (kept : ∀ c w v, op.makes c → Called c w v → R w v) :
    Settles E (fun s t => R s.world t.world) (perform client op) := by
  have worlds := chainWorlds (O := CppSQLite3DB) chain
  have done : ∀ r : Returned, Settles E (fun s t : Scope World CppSQLite3DB => R s.world t.world) (pure r) :=
    settlesPure worlds
  cases op with
  | openDB szFile =>
    refine settlesBind worlds ?_ fun _ => done _
    refine settlesBind worlds (settlesOpenCall _ fun w v => kept _ w v rfl) fun opened =>
      settlesBind worlds (settlesStill chain fun _ => rfl) fun _ => settlesIte (fun _ => ?_) fun _ => settlesPure worlds _
    exact settlesBind worlds (settlesErrmsg _ fun w v => kept _ w v rfl) fun message =>
      settlesRaise chain _ _ _ fun _ w v => kept _ w v rfl
  | close =>
    refine settlesBind worlds ?_ fun _ => done _
    refine settlesBind worlds (settlesGet worlds) fun s => ?_
    cases s.this.mpDB with
    | none => exact settlesPure worlds _
    | some pDB =>
      refine settlesBind worlds (settlesCloseCall _ fun w v => kept _ w v rfl) fun nRet => settlesIte (fun _ => ?_)
        fun _ => settlesRaise chain _ _ _ nofun
      exact settlesStill chain fun _ => rfl
  | tableExists szTable =>
    refine settlesBind worlds ?_ fun _ => done _
    exact settlesBind worlds (settlesExecScalar chain _ _ kept) fun _ => settlesPure worlds _
  | execDML szSQL => exact settlesBind worlds (settlesExecDML chain _ kept) fun _ => done _
  | execQuery szSQL => exact settlesBind worlds (settlesExecQuery chain _ kept) fun _ => done _
  | execScalar szSQL nNullValue => exact settlesBind worlds (settlesExecScalar chain _ _ kept) fun _ => done _
  | getResultSet szSQL =>
    refine settlesBind worlds ?_ fun _ => done _
    refine settlesBind worlds (settlesCheckDB chain) fun pDB => ?_
    exact settlesBind worlds (settlesGetTable _ _ fun w v => kept _ w v rfl) fun reply => settlesIte
      (fun _ => settlesPure worlds _) fun _ => settlesRaise chain _ _ _ fun _ w v => kept _ w v rfl
  | compileStatement szSQL =>
    refine settlesBind worlds ?_ fun _ => done _
    exact settlesBind worlds (settlesCheckDB chain) fun pDB => settlesBind worlds (settlesCompile chain _ kept) fun _ =>
      settlesPure worlds _
  | startTransaction | commitTransaction | rollback =>
    refine settlesBind worlds ?_ fun _ => done _
    exact settlesBind worlds (settlesExecDML chain _ kept) fun _ => settlesPure worlds _
  | isTransaction =>
    refine settlesBind worlds ?_ fun _ => done _
    exact settlesBind worlds (settlesCheckDB chain) fun pDB =>
      settlesBind worlds (settlesAutocommit _ fun w v => kept _ w v rfl) fun _ => settlesPure worlds _
  | setBusyTimeout nMillisecs =>
    refine settlesBind worlds ?_ fun _ => done _
    exact settlesBind worlds (settlesGet worlds) fun _ => settlesBusyTimeout _ _ fun w v => kept _ w v rfl

end Operations
end DatabaseLayer.CppSQLite3DB
