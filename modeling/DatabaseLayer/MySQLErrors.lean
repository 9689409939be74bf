import DatabaseLayer.MySQLConnect
import DatabaseLayer.MySQLRules

/-! What an exception tells. An operation makes its calls until one fails that it looks at: the
exception is then that call's, and otherwise it is of the wrapper's own checks. -/
namespace DatabaseLayer.MySQLErrors
open Platform MySQLClient Foundation.Program ConnectionString MySQLRules CppMySQLDB MySQLConnect

/-- The calls whose failure is thrown. -/
def checkedCall : Call → Bool
  | .init | .realConnect _ _ _ _ _ _ | .selectDb _ | .realQuery _ | .options _ _ => true
  | .stmtInit | .stmtPrepare _ _ | .stmtBindParam _ | .stmtExecute _ _ => true
  | _ => false

/-- What a failing call is reported as: its own error, but for the four that have a fixed text. -/
def errorOf (e : Entry) : CppMySQLException :=
  match e.call with
  | .init => exception CPPMYSQL_DB_ERROR (some (text "mysql init failed!"))
  | .options _ _ => optionError
  | .stmtInit => exception CPPMYSQL_STATEMENT_ERROR (some (text "mysql_stmt_init error"))
  | .stmtPrepare _ _ => exception CPPMYSQL_STATEMENT_ERROR (some (text "mysql_stmt_prepare error"))
  | _ => exception e.reply.errno (some e.reply.error)

/-- The errors of the wrapper's own checks, by code and text. -/
def ownErrors : List (Int × String) :=
  [(CPPMYSQL_DB_ERROR,"Invalid database handle"),(CPPMYSQL_DB_ERROR,"didn't select any database"),
    (CPPMYSQL_DB_ERROR,"create session: bad connection string format, can not find '='"),
    (CPPMYSQL_DB_ERROR,"create session: specify user name"),
    (CPPMYSQL_DB_ERROR,"create session: specify correct port (numeric in decimal notation)"),
    (CPPMYSQL_DB_ERROR,"create session: specify correct compress option (true or false) or skip it"),
    (CPPMYSQL_DB_ERROR,"create session: specify correct auto-reconnect option (true or false) or skip it"),
    (CPPMYSQL_DB_ERROR,"Invalid scalar query"),(CPPMYSQL_QUERY_ERROR,"get fieldValue failed"),
    (CPPMYSQL_STATEMENT_ERROR,"mysql handle error"),(CPPMYSQL_STATEMENT_ERROR,"MYSQL_STMT handle error"),
    (CPPMYSQL_STATEMENT_ERROR,"MYSQL_BIND array error"),
    (CPPMYSQL_STATEMENT_ERROR,"Satement is not compiled yet"),
    (CPPMYSQL_STATEMENT_ERROR,"MYSQL_BIND array size is not enough"),
    (CPPMYSQL_STATEMENT_ERROR,"too many bind parameters"),(CPPMYSQL_STATEMENT_ERROR,"bind index error")]

/-- One of them, or that a column of a result set has no name. -/
def Own (e : CppMySQLException) : Prop :=
  (∃ p ∈ ownErrors, e = exception p.1 (some (text p.2))) ∨
  ∃ nCol, e = exception CPPMYSQL_RESULTSET_ERROR (some (text "field " ++ decimal nCol ++ text " name is NULL"))

def Fine (e : Entry) : Prop := checkedCall e.call → e.reply.rc = 0

section Judging
variable {O : Type} {conn : O → Option Nat}

/-- No checked call failed. -/
def Went (s t : Scope World O) : Prop := ∃ new, t.world.log = new ++ s.world.log ∧ ∀ e ∈ new, Fine e

/-- The calls were on the connection of the object, which is still the same. -/
def Quiet (conn : O → Option Nat) (s t : Scope World O) : Prop := conn t.this = conn s.this ∧ Went s t

/-- An error of a check after which no checked call failed, or the error of the newest call,
which is the first checked one to fail and on the object's connection. -/
inductive Told (conn : O → Option Nat) (s : Scope World O) : Stop → Scope World O → Prop
  | undefined (t : Scope World O) : Told conn s .undefined t
  | checked {e : CppMySQLException} {t : Scope World O} (own : Own e) (went : Went s t) : Told conn s (.thrown e) t
  | answered (last : Entry) {t u : Scope World O} (went : Went s t) (log : u.world.log = last :: t.world.log)
      (on : last.conn = conn s.this) (looks : checkedCall last.call) (fails : last.reply.rc ≠ 0) :
      Told conn s (.thrown (errorOf last)) u

theorem wentRefl (s : Scope World O) : Went s s := ⟨[],rfl,nofun⟩

theorem wentTrans {s t u : Scope World O} (first : Went s t) (rest : Went t u) : Went s u := by
  obtain ⟨older,log,before⟩ := first
  obtain ⟨new,later,after⟩ := rest
  refine ⟨new ++ older,?_,List.forall_mem_append.mpr ⟨after,before⟩⟩
  rw [later,log,List.append_assoc]

theorem fineUnlooked {e : Entry} (unlooked : checkedCall e.call = false) : Fine e :=
  fun looks => absurd (unlooked.symm.trans looks) Bool.false_ne_true

theorem wentOne {s t : Scope World O} {e : Entry} (log : t.world.log = e :: s.world.log) (fine : Fine e) : Went s t :=
  ⟨[e],log,List.forall_mem_singleton.mpr fine⟩

theorem carriesTold (conn : O → Option Nat) : Carries (Quiet conn) (Told conn) := by
  refine ⟨⟨fun s => ⟨rfl,wentRefl s⟩,fun s t u first rest => ?_⟩,fun s t u e first rest => ?_⟩
  · exact ⟨rest.1.trans first.1,wentTrans first.2 rest.2⟩
  · cases rest with
    | undefined => exact .undefined u
    | checked own went => exact .checked own (wentTrans first.2 went)
    | answered last went log on looks fails =>
      exact .answered last (wentTrans first.2 went) log (on.trans first.1) looks fails

theorem ownRaised {nErrCode : Int} {szErrMess : String} (listed : (nErrCode,szErrMess) ∈ ownErrors) :
    Own (exception nErrCode (some (text szErrMess))) := .inl ⟨_,listed,rfl⟩

theorem toldOwn {s : Scope World O} {nErrCode : Int} {szErrMess : String} (listed : (nErrCode,szErrMess) ∈ ownErrors) :
    Told conn s (.thrown (exception nErrCode (some (text szErrMess)))) s := .checked (ownRaised listed) (wentRefl s)

theorem toldRaise {α : Type} {nErrCode : Int} {szErrMess : String} (listed : (nErrCode,szErrMess) ∈ ownErrors) :
    Concluding (Quiet conn) (Told conn) (raise nErrCode (text szErrMess) : Op O α) := fun _ => toldOwn listed

theorem toldUndefined {α : Type} : Concluding (Quiet conn) (Told conn) (undefinedBehaviour : Op O α) :=
  fun s => .undefined s

end Judging

section Databases
variable {client : Client} {s : Scope World CppMySQLDB} {α : Type}

theorem quietAsked {c : Call} (fine : Fine ⟨s.this.mpDB,c,reply client s c⟩) : Quiet mpDB s (asked client s c) :=
  ⟨rfl,wentOne rfl fine⟩

theorem toldAsked {c : Call} (looks : checkedCall c) (fails : (reply client s c).rc ≠ 0) :
    Told mpDB s (.thrown (errorOf ⟨s.this.mpDB,c,reply client s c⟩)) (asked client s c) :=
  .answered _ (wentRefl s) rfl rfl looks fails

theorem refusalOwn (s : Scope World CppMySQLDB) : Own (refusal s) := by
  unfold refusal
  split
  · exact ownRaised (by simp [ownErrors])
  · exact ownRaised (by simp [ownErrors])

theorem toldCheckDB (b : Bool) : Concluding (Quiet mpDB) (Told mpDB) (checkDB b) := by
  intro s
  rw [checkDBApply]
  split
  · exact (carriesTold mpDB).chain.refl s
  · exact .checked (refusalOwn s) (wentRefl s)

/-- A call whose answer is not looked at, and what is made of it. -/
theorem toldAnswer (b : Bool) {c : Call} (unlooked : checkedCall c = false) (follow : Reply → α) :
    Concluding (Quiet mpDB) (Told mpDB) (do
      checkDB b
      let mpDB ← handle
      let reply ← call client mpDB c
      return follow reply : Op CppMySQLDB α) :=
  concludingBind (carriesTold mpDB) (toldCheckDB b) fun _ _ => quietAsked (fineUnlooked unlooked)

/-- A call whose failure is thrown with the library's error. -/
theorem toldLooked {c : Call} (looks : checkedCall c)
    (error : ∀ conn r, errorOf ⟨conn,c,r⟩ = exception r.errno (some r.error)) {follow : Op CppMySQLDB α}
    (rest : Concluding (Quiet mpDB) (Told mpDB) follow) : Concluding (Quiet mpDB) (Told mpDB) (do
      let mpDB ← handle
      let reply ← call client mpDB c
      if reply.rc ≠ 0 then throwLastError mpDB else follow : Op CppMySQLDB α) := by
  intro s
  simp only [bindApply,handleApply,callHandle,iteApply]
  split
  · rename_i fails
    rw [throwAsked,← error s.this.mpDB]
    exact toldAsked looks fails
  · rename_i accepted
    exact concludesAfter (carriesTold mpDB) (quietAsked fun _ => not_not.mp accepted) (rest _)

theorem toldNamed (szDBName : CString) :
    Concluding (Quiet mpDB) (Told mpDB) (onWorld (fun w => {w with sDBName := szDBName}) : Op CppMySQLDB Unit) :=
  fun s => ⟨rfl,wentRefl s⟩

theorem toldConnect (host user passwd : CString) (db : Option CString) (port flag : Nat) :
    Concluding (Quiet mpDB) (Told mpDB) (connect client host user passwd db port flag) :=
  concludingBind (carriesTold mpDB) (toldCheckDB false) fun _ =>
    toldLooked rfl (fun _ _ => rfl) (concludingPure (carriesTold mpDB) _)

theorem toldSetOptions (opt : MysqlOption) (arg : Option CString) :
    Concluding (Quiet mpDB) (Told mpDB) (setOptions client opt arg) := by
  intro s
  rw [setOptionsApply]
  split
  · rename_i accepted
    exact quietAsked fun _ => accepted
  · rename_i fails
    exact toldAsked rfl fails

theorem toldBlock {b : Block} (own : ∀ m, b = .refuse m → Own (exception CPPMYSQL_DB_ERROR (some m))) :
    Concluding (Quiet mpDB) (Told mpDB) (b.perform client) := by
  cases b with
  | skip => exact concludingPure (carriesTold mpDB) _
  | hand opt arg => exact toldSetOptions opt arg
  | refuse szErrMess => exact fun s => .checked (own szErrMess rfl) (wentRefl s)

theorem compressOwn {value m : CString} (refuses : compressBlock value = .refuse m) :
    Own (exception CPPMYSQL_DB_ERROR (some m)) := by
  unfold compressBlock at refuses
  split_ifs at refuses
  cases refuses
  exact ownRaised (by simp [ownErrors])

theorem reconnectOwn {value m : CString} (refuses : reconnectBlock value = .refuse m) :
    Own (exception CPPMYSQL_DB_ERROR (some m)) := by
  unfold reconnectBlock at refuses
  split_ifs at refuses
  cases refuses
  exact ownRaised (by simp [ownErrors])

theorem charsetOwn {value m : CString} (refuses : charsetBlock value = .refuse m) :
    Own (exception CPPMYSQL_DB_ERROR (some m)) := by
  unfold charsetBlock at refuses
  split_ifs at refuses

theorem toldConnectWith (o : Options) : Concluding (Quiet mpDB) (Told mpDB) (connectWith client o) := by
  have carries := carriesTold mpDB
  refine concludingIte (fun _ => toldRaise (by simp [ownErrors])) fun _ => ?_
  refine concludingIte (fun _ => toldRaise (by simp [ownErrors])) fun _ => ?_
  refine concludingBind carries ?_ fun _ => concludingBind carries ?_ fun _ => concludingBind carries ?_ fun _ => ?_
  · rw [compressPerforms]
    exact toldBlock fun m => compressOwn
  · rw [reconnectPerforms]
    exact toldBlock fun m => reconnectOwn
  · rw [charsetPerforms]
    exact toldBlock fun m => charsetOwn
  · exact concludingBind carries (toldConnect _ _ _ _ _ _) fun _ => toldNamed _

theorem toldConnectString (sz : CString) : Concluding (Quiet mpDB) (Told mpDB) (connectString client sz) := by
  unfold connectString
  cases parses : parse sz with
  | ok o => exact toldConnectWith o
  | error stop =>
    rw [parseFails parses]
    exact toldRaise (by simp [ownErrors])

/-- A statement is sent, and what follows is done if it was accepted. -/
theorem toldQueried (szSQL : CString) {follow : Option Nat → Op CppMySQLDB α}
    (rest : ∀ s, Concludes (Quiet mpDB) (Told mpDB) s (follow s.this.mpDB s)) :
    Concluding (Quiet mpDB) (Told mpDB) (do
      checkDB true
      let mpDB ← handle
      let reply ← call client mpDB (.realQuery szSQL)
      if reply.rc = 0 then follow mpDB else throwLastError mpDB : Op CppMySQLDB α) := by
  intro s
  rw [queriedApply]
  split
  · dsimp only
    split
    · rename_i accepted
      exact concludesAfter (carriesTold mpDB) (quietAsked fun _ => accepted) (rest _)
    · rename_i fails
      exact toldAsked rfl fails
  · exact .checked (refusalOwn s) (wentRefl s)

theorem quietStored (s : Scope World CppMySQLDB) : Quiet mpDB s (stored client s).2 := by
  exact ⟨congrArg mpDB (storedThis client s),wentOne (storedLog client s) (fineUnlooked rfl)⟩

theorem toldExecDML (szSQL : CString) : Concluding (Quiet mpDB) (Told mpDB) (execDML client szSQL) :=
  toldQueried szSQL fun _ => quietAsked (fineUnlooked rfl)

theorem toldExecQuery (szSQL : CString) : Concluding (Quiet mpDB) (Told mpDB) (execQuery client szSQL) := by
  refine toldQueried szSQL fun s => ?_
  have kept : Quiet mpDB s (stored client s).2 := quietStored s
  rw [bindApply,storeHandle]
  dsimp only
  rw [CppMySQLQuery.ofRESApply]
  cases (stored client s).1 with
  | none => exact kept
  | some res => exact kept

theorem toldGetResultSet (szSQL : CString) : Concluding (Quiet mpDB) (Told mpDB) (getResultSet client szSQL) := by
  refine toldQueried szSQL fun s => ?_
  have kept : Quiet mpDB s (stored client s).2 := quietStored s
  rw [bindApply,storeHandle]
  dsimp only
  cases held : (stored client s).1 with
  | none => exact kept
  | some res =>
    obtain ⟨data,_,fresh,_⟩ := storedFresh client held
    rw [CppMySQLResultSet.ofRESApply res data _ fresh]
    dsimp only
    cases CppMySQLResultSet.fieldMap 0 data.fields with
    | ok entries => exact kept
    | error nCol => exact .checked (.inr ⟨nCol,rfl⟩) kept.2

/-- Outside defined behaviour, or with one of the wrapper's own errors. -/
def OwnStop : Stop → Prop
  | .thrown e => Own e
  | .undefined => True

section Scalars
open CppMySQLQuery

theorem raisesOwn {O : Type} {nErrCode : Int} {szErrMess : String} (listed : (nErrCode,szErrMess) ∈ ownErrors) :
    Raises OwnStop (raise nErrCode (text szErrMess) : Op O α) := raisesThrow (ownRaised listed)

theorem raisesRowAt (nField : Int) : Raises OwnStop (rowAt nField) := by
  refine raisesBind raisesGet fun t => ?_
  cases t.this.mRow with
  | none => exact raisesThrow trivial
  | some row =>
    refine raisesIte (fun _ => raisesThrow trivial) fun _ => ?_
    cases row.cells[nField.toNat]? with
    | none => exact raisesThrow trivial
    | some cell => exact raisesPure cell

theorem raisesDataIsNull (nField : Int) : Raises OwnStop (fieldDataIsNull nField) :=
  raisesBind (raisesRowAt nField) fun _ => raisesPure _

theorem raisesFieldValue (nField : Int) : Raises OwnStop (fieldValue nField) := by
  refine raisesBind raisesGet fun _ => raisesBind (raisesDataIsNull nField) fun _ => ?_
  refine raisesIte (fun _ => raisesBind (raisesRowAt nField) fun cell => ?_) fun _ => ?_
  · cases cell with
    | none => exact raisesThrow trivial
    | some value => exact raisesPure value
  · exact raisesOwn (by simp [ownErrors])

theorem raisesIntField (nField nNullValue : Int) : Raises OwnStop (getIntField nField nNullValue) := by
  refine raisesBind (raisesDataIsNull nField) fun _ => raisesIte (fun _ => ?_) fun _ => raisesPure _
  refine raisesBind ?_ fun _ => raisesPure _
  refine raisesBind (raisesDataIsNull nField) fun _ => raisesIte (fun _ => ?_) fun _ => raisesPure _
  exact raisesFieldValue nField

theorem raisesScalar (nNullValue : Int) : Raises OwnStop (scalarOf nNullValue) := by
  have invalid : Raises OwnStop (raise CPPMYSQL_DB_ERROR (text "Invalid scalar query") : Op CppMySQLQuery Int) :=
    raisesOwn (by simp [ownErrors])
  have ended : Raises OwnStop eof := raisesBind raisesGet fun _ => raisesPure _
  have counted : Raises OwnStop numFields := raisesBind raisesGet fun _ => raisesPure _
  unfold scalarOf
  generalize numFields = counts at counted ⊢
  refine raisesBind ended fun _ => raisesIte (fun _ => invalid) fun _ => ?_
  exact raisesBind counted fun _ => raisesIte (fun _ => invalid) fun _ => raisesIntField 0 nNullValue

/-- The local query frees its result on the way out. -/
theorem wentReleased (q : CppMySQLQuery) (t : Scope World CppMySQLDB) :
    Went t ⟨released ⟨t.world,q⟩,t.this⟩ := by
  unfold released
  cases q.mpRES with
  | none => exact wentRefl t
  | some res => exact wentOne rfl (fineUnlooked rfl)

end Scalars

theorem toldExecScalar (szSQL : CString) (nNullValue : Int) :
    Concluding (Quiet mpDB) (Told mpDB) (execScalar client szSQL nNullValue) := by
  refine concludingBind (carriesTold mpDB) (toldExecQuery szSQL) fun q t => ?_
  have same := scalarOfLeft nNullValue ⟨t.world,q⟩
  have raised := raisesScalar nNullValue ⟨t.world,q⟩
  have freed := wentReleased q t
  have after : CppMySQLQuery.destroy ⟨t.world,q⟩ = CppMySQLQuery.released ⟨t.world,q⟩ := by
    rw [CppMySQLQuery.destroy,CppMySQLQuery.clearLeft,leftOk]
  unfold withLocal
  cases read : scalarOf nNullValue ⟨t.world,q⟩ with
  | ok n u =>
    rw [read,leftOk] at same
    rw [same]
    dsimp only
    rw [after]
    exact ⟨rfl,freed⟩
  | error stop u =>
    rw [read,leftError] at same
    rw [read] at raised
    rw [same]
    dsimp only
    rw [after]
    cases stop with
    | undefined => exact .undefined _
    | thrown e => exact .checked raised freed

theorem toldComposed (szSQL : CString) : Concluding (Quiet mpDB) (Told mpDB) (composed szSQL) := by
  unfold composed
  cases sprintfInto 256 szSQL with
  | none => exact toldUndefined
  | some sql => exact concludingPure (carriesTold mpDB) sql

theorem toldTableExists (szTable : CString) : Concluding (Quiet mpDB) (Told mpDB) (tableExists client szTable) := by
  have carries := carriesTold mpDB
  refine concludingBind carries (toldCheckDB true) fun _ => ?_
  refine concludingBind carries (fun s => carries.chain.refl s) fun t => ?_
  refine concludingBind carries (toldComposed _) fun _ => concludingBind carries (toldExecScalar _ 0) fun _ => ?_
  exact concludingPure carries _

/-- A transaction is ended by a call whose answer is not looked at. -/
theorem toldEnded {c : Call} (unlooked : checkedCall c = false) : Concluding (Quiet mpDB) (Told mpDB) (do
    checkDB true
    let mpDB ← handle
    let _ ← call client mpDB c
    onThis (fun db => {db with mInTransaction := wrapInt (db.mInTransaction - 1)}) : Op CppMySQLDB Unit) := by
  refine concludingBind (carriesTold mpDB) (toldCheckDB true) fun _ s => ?_
  exact quietAsked (fineUnlooked unlooked)

theorem toldCreated (szSQL : CString) : Concluding (Quiet mpDB) (Told mpDB) (do
    checkDB false
    let szSQL ← composed szSQL
    let mpDB ← handle
    let reply ← call client mpDB (.realQuery szSQL)
    if reply.rc ≠ 0 then
      throwLastError mpDB : Op CppMySQLDB Unit) := by
  have carries := carriesTold mpDB
  refine concludingBind carries (toldCheckDB false) fun _ => concludingBind carries (toldComposed szSQL) fun sql => ?_
  exact toldLooked rfl (fun _ _ => rfl) (concludingPure carries _)

theorem toldCompile (szSQL : CString) : Concluding (Quiet mpDB) (Told mpDB) (compileStatement client szSQL) := by
  intro s
  simp only [compileStatement,bindApply,handleApply]
  cases held : s.this.mpDB with
  | none => exact toldOwn (by simp [ownErrors])
  | some conn =>
    have inited : (CppMySQLStatement.replied client s.world conn .stmtInit).rc = 0 → Quiet mpDB s
        ⟨(CppMySQLStatement.sent client s.world conn .stmtInit).initStmt,s.this⟩ :=
      fun init => ⟨rfl,wentOne rfl fun _ => init⟩
    by_cases init : (CppMySQLStatement.replied client s.world conn .stmtInit).rc = 0
    · by_cases prepared : (CppMySQLStatement.prepared client s.world conn szSQL).rc = 0
      · rw [CppMySQLStatement.compilePrepared init prepared]
        have sent : Quiet mpDB s ⟨CppMySQLStatement.preparing client s.world conn szSQL,s.this⟩ :=
          ⟨rfl,wentTrans (inited init).2 (wentOne rfl fun _ => prepared)⟩
        exact ⟨sent.1,wentTrans sent.2 (wentOne rfl (fineUnlooked rfl))⟩
      · rw [CppMySQLStatement.compileUnprepared init prepared]
        exact .answered ⟨some conn,.stmtPrepare s.world.nStmts szSQL,_⟩ (inited init).2 rfl held.symm rfl prepared
    · rw [CppMySQLStatement.compileUninited init]
      exact .answered ⟨some conn,.stmtInit,_⟩ (wentRefl s) rfl held.symm rfl init

theorem toldUsed {op : Operation} (remains : op ≠ .close) :
    Concluding (Quiet mpDB) (Told mpDB) (perform client op) := by
  have carries := carriesTold mpDB
  have done : ∀ r : Returned, Concluding (Quiet mpDB) (Told mpDB) (pure r) := concludingPure carries
  cases op with
  | connect host user passwd db port flag =>
    exact concludingBind carries (toldConnect host user passwd db port flag) fun _ => done _
  | connectString sz => exact concludingBind carries (toldConnectString sz) fun _ => done _
  | openDB szDBName =>
    refine concludingBind carries (concludingBind carries (toldCheckDB false) fun _ => ?_) fun _ => done _
    exact toldLooked rfl (fun _ _ => rfl) (toldNamed szDBName)
  | close => exact absurd rfl remains
  | tableExists szTable => exact concludingBind carries (toldTableExists szTable) fun _ => done _
  | execDML szSQL => exact concludingBind carries (toldExecDML szSQL) fun _ => done _
  | execQuery szSQL => exact concludingBind carries (toldExecQuery szSQL) fun _ => done _
  | execScalar szSQL nNullValue => exact concludingBind carries (toldExecScalar szSQL nNullValue) fun _ => done _
  | getResultSet szSQL => exact concludingBind carries (toldGetResultSet szSQL) fun _ => done _
  | compileStatement szSQL => exact concludingBind carries (toldCompile szSQL) fun _ => done _
  | startTransaction =>
    refine concludingBind carries (concludingBind carries (toldExecDML _) fun _ => ?_) fun _ => done _
    exact fun t => ⟨rfl,wentRefl t⟩
  | commitTransaction => exact concludingBind carries (toldEnded (c := .commit) rfl) fun _ => done _
  | rollback => exact concludingBind carries (toldEnded (c := .rollback) rfl) fun _ => done _
  | isTransaction => exact fun s => carries.chain.refl s
  | createDB szDBName => exact concludingBind carries (toldCreated _) fun _ => done _
  | dropDB name => exact concludingBind carries (toldCreated _) fun _ => done _
  | ping => exact concludingBind carries (toldAnswer true (c := .ping) rfl _) fun _ => done _
  | setCharacterSet szName =>
    exact concludingBind carries (toldAnswer false (c := .setCharacterSet szName) rfl _) fun _ => done _
  | getCharacterSetName =>
    exact concludingBind carries (toldAnswer false (c := .characterSetName) rfl _) fun _ => done _
  | setOptions opt arg => exact concludingBind carries (toldSetOptions opt arg) fun _ => done _

theorem toldPerform (op : Operation) (s : Scope World CppMySQLDB) :
    Concludes Went (Told mpDB) s (perform client op s) := by
  by_cases closes : op = .close
  · subst closes
    simp only [perform,close,bindApply,handleApply]
    cases s.this.mpDB with
    | none => exact wentRefl s
    | some conn => exact wentOne rfl (fineUnlooked rfl)
  · exact concludesMono (fun _ _ quiet => quiet.2) (toldUsed closes s)

theorem toldNew {O : Type} (s : Scope World O) : Concludes Went (Told fun _ => none) s (new client s) := by
  simp only [new,bindApply,callApply,iteApply]
  split
  · rename_i accepted
    exact wentOne rfl fun _ => accepted
  · rename_i fails
    exact .answered ⟨none,.init,_⟩ (wentRefl s) rfl rfl rfl fails

end Databases

section Statements
open CppMySQLStatement
variable {client : Client} {s : Scope World CppMySQLStatement}

/-- The connection a statement was compiled on. -/
def compiledOn (r : CppMySQLStatement) : Option Nat := r.mpStmt.map MysqlStmt.mysql

theorem toldRealBind (pos : Int) (type : FieldType) (buffer : Buffer) (length : Nat) :
    Concluding (Quiet compiledOn) (Told compiledOn) (realBind pos type buffer length) := by
  intro s
  rw [realBindApply]
  split
  · exact toldOwn (by simp [ownErrors])
  split
  · exact toldOwn (by simp [ownErrors])
  cases s.this.mpBindArray with
  | none => exact .undefined s
  | some array => exact ⟨rfl,wentRefl s⟩

theorem toldSent {stmt : MysqlStmt} (held : s.this.mpStmt = some stmt) {t : Scope World CppMySQLStatement}
    (went : Went s t) {c : Call} (looks : checkedCall c) (fails : (replied client t.world stmt.mysql c).rc ≠ 0)
    (error : ∀ conn r, errorOf ⟨conn,c,r⟩ = exception r.errno (some r.error)) :
    Told compiledOn s (.thrown (exception (replied client t.world stmt.mysql c).errno
      (some (replied client t.world stmt.mysql c).error))) ⟨sent client t.world stmt.mysql c,t.this⟩ := by
  rw [← error (some stmt.mysql)]
  exact .answered _ went rfl (by rw [compiledOn,held]; rfl) looks fails

theorem toldExecute : Concluding (Quiet compiledOn) (Told compiledOn) (execute client) := by
  intro s
  rw [executeApply]
  cases stmt : s.this.mpStmt with
  | none => exact toldOwn (by simp [ownErrors])
  | some stmt' =>
    cases s.this.mpBindArray with
    | none => exact toldOwn (by simp [ownErrors])
    | some array =>
      dsimp only
      split
      · exact toldOwn (by simp [ownErrors])
      split
      · exact toldOwn (by simp [ownErrors])
      split
      · exact .undefined s
      split
      · rename_i fails
        exact toldSent stmt (wentRefl s) rfl fails fun _ _ => rfl
      rename_i bound
      have went : Went s ⟨sent client s.world stmt'.mysql (.stmtBindParam stmt'.id),s.this⟩ :=
        wentOne rfl fun _ => not_not.mp bound
      split
      · rename_i fails
        exact toldSent stmt went rfl fails fun _ _ => rfl
      · rename_i accepted
        exact ⟨rfl,wentTrans went (wentOne rfl fun _ => not_not.mp accepted)⟩

theorem toldRequest (request : Request) (s : Scope World CppMySQLStatement) :
    Concludes Went (Told compiledOn) s (CppMySQLStatement.perform client request s) := by
  have carries := carriesTold compiledOn
  have forget : ∀ s t, Quiet compiledOn s t → Went s t := fun _ _ quiet => quiet.2
  cases request with
  | bindString nParam szValue => exact concludesMono forget (toldRealBind _ _ _ _ s)
  | bindInt nParam nValue =>
    refine concludesMono forget (concludingBind carries (fun t => ?_) (fun _ => toldRealBind _ _ _ _) s)
    exact ⟨rfl,wentRefl t⟩
  | bindDouble nParam dwValue =>
    refine concludesMono forget (concludingBind carries (fun t => ?_) (fun _ => toldRealBind _ _ _ _) s)
    exact ⟨rfl,wentRefl t⟩
  | execDML =>
    have executes : Concludes (Quiet compiledOn) (Told compiledOn) s (execute client s) := toldExecute s
    simp only [CppMySQLStatement.perform,bindApply,CppMySQLStatement.execDMLApply]
    cases result : execute client s with
    | error e t =>
      rw [result] at executes
      exact executes
    | ok a t =>
      rw [result] at executes
      dsimp only
      cases t.this.mpStmt with
      | none => exact .undefined t
      | some stmt =>
        exact wentTrans executes.2 (wentOne rfl (fineUnlooked rfl))
  | reset =>
    simp only [CppMySQLStatement.perform,resetApply]
    cases s.this.mpStmt with
    | none => exact toldOwn (by simp [ownErrors])
    | some stmt => exact wentOne rfl (fineUnlooked rfl)
  | clear =>
    simp only [CppMySQLStatement.perform,CppMySQLStatement.clearApply]
    cases s.this.mpStmt with
    | none => exact ⟨[],rfl,nofun⟩
    | some stmt => exact wentOne rfl (fineUnlooked rfl)

end Statements

/-- A call on a database, on a statement, and the making of a database return only if no checked
call failed, and what they throw is the error of their newest call or of a check of their own. -/
theorem errorsTold (client : Client) :
    (∀ op s, Concludes Went (Told mpDB) s (perform client op s)) ∧
      (∀ request s, Concludes Went (Told compiledOn) s (CppMySQLStatement.perform client request s)) ∧
      ∀ s : Scope World PUnit, Concludes Went (Told fun _ => none) s (new client s) :=
  ⟨toldPerform,toldRequest,toldNew⟩

end DatabaseLayer.MySQLErrors
