import DatabaseLayer.MySQLConnect
import DatabaseLayer.MySQLRules
import DatabaseLayer.SQLiteRules

/-! What the operations of a database do without a connection. Each checks for one itself or
through what it calls first, but for the few that do not. -/
namespace DatabaseLayer.NullHandles.MySQL
open Platform MySQLClient Foundation.Program Foundation.Run ConnectionString CppMySQLDB MySQLConnect MySQLRules

/-- A call that takes a connection, made without one. -/
def nullCall (e : Entry) : Bool :=
  match e.conn,e.call with
  | some _,_ => false
  | none,.freeResult _ => false
  | none,_ => true

def nullCalls (h : History) : Nat := h.countP nullCall

/-- The operations that ask nothing of a connection. -/
def idle : Operation → Bool
  | .close | .isTransaction => true
  | _ => false

/-- The errors of the wrapper's own checks. -/
def Own (e : CppMySQLException) : Prop := e.nErrCode = CPPMYSQL_DB_ERROR ∨ e.nErrCode = CPPMYSQL_STATEMENT_ERROR

section Guards
variable (client : Client)

def step (s : Scope World CppMySQLDB) (op : Operation) : Scope World CppMySQLDB := left (perform client op s)

/-- The operation makes no call on a NULL connection, and without a connection it makes none
at all and throws an error of its own, unless it needs none. -/
structure Guards (s : Scope World CppMySQLDB) (op : Operation) : Prop where
  calls : nullCalls (step client s op).world.log = nullCalls s.world.log
  closed : s.this.mpDB = none → (step client s op).world.log = s.world.log ∧
    (idle op ∨ ∃ e t, perform client op s = .error (.thrown e) t ∧ Own e)

end Guards

/-- Some block hands an option to the library, and none before it refuses. -/
def handsFirst : List Block → Prop
  | [] => False
  | .skip :: bs => handsFirst bs
  | .hand _ _ :: _ => True
  | .refuse _ :: _ => False

/-- The string names a user and a port, and an option comes before anything that is refused. -/
def HandsOption (sz : CString) : Prop :=
  ∃ o, parse sz = .ok o ∧ o.get "user" ≠ text "" ∧ ¬ PortRefused o ∧ handsFirst (blocks o)

/-- Not without a connection setOptions, and not a string that comes to set an option. -/
def Checked (s : Scope World CppMySQLDB) (op : Operation) : Prop :=
  s.this.mpDB = none → match op with
    | .setOptions _ _ => False
    | .connectString sz => ¬ HandsOption sz
    | _ => True

section Open
variable {client : Client}

/-- As long as there is a connection, it stays and is the one that is called. -/
def Speaks (s t : Scope World CppMySQLDB) : Prop :=
  s.this.mpDB ≠ none → t.this.mpDB ≠ none ∧ nullCalls t.world.log = nullCalls s.world.log

theorem chainSpeaks : Chain Speaks := by
  refine ⟨fun s held => ⟨held,rfl⟩,fun s t u first rest held => ?_⟩
  obtain ⟨there,same⟩ := first held
  obtain ⟨still,equal⟩ := rest there
  exact ⟨still,equal.trans same⟩

theorem nullPush {conn : Option Nat} {c : Call} {r : Reply} {h : History} (held : conn ≠ none) :
    nullCalls (⟨conn,c,r⟩ :: h) = nullCalls h := by
  cases conn with
  | none => exact absurd rfl held
  | some conn => simp [nullCalls,nullCall]

theorem askedSpeaks (client : Client) (s : Scope World CppMySQLDB) (c : Call) : Speaks s (asked client s c) :=
  fun held => ⟨held,nullPush held⟩

theorem settlesAsked {E : Stop → Prop} {α : Type} (c : Call) {rest : Option Nat → Reply → Op CppMySQLDB α}
    (follows : ∀ mpDB reply, Settles E Speaks (rest mpDB reply)) :
    Settles E Speaks (do
      let mpDB ← handle
      let reply ← call client mpDB c
      rest mpDB reply) := by
  refine ⟨fun s => ?_⟩
  simp only [bindApply,handleApply,callHandle]
  exact endsTrans chainSpeaks (askedSpeaks client s c) ((follows _ _).ends _)

theorem settlesSetOptions {E : Stop → Prop} (opt : MysqlOption) (arg : Option CString) :
    Settles E Speaks (setOptions client opt arg) :=
  settlesAsked _ fun _ _ => settlesIte (fun _ => settlesRaise chainSpeaks _ _) fun _ => settlesPure chainSpeaks _

theorem settlesBlocks (client : Client) {E : Stop → Prop} (bs : List Block) : Settles E Speaks (performAll client bs) := by
  induction bs with
  | nil => exact settlesPure chainSpeaks _
  | cons b bs ih =>
    refine settlesBind chainSpeaks ?_ fun _ => ih
    cases b with
    | skip => exact settlesPure chainSpeaks _
    | hand opt arg => exact settlesSetOptions opt arg
    | refuse szErrMess => exact settlesRaise chainSpeaks _ _

theorem namedSpeaks (o : Options) (t : Scope World CppMySQLDB) : Speaks t (left (connectNamed client o t)) := by
  intro held
  obtain ⟨r,log,this⟩ := namedConnects client o held
  rw [log,this]
  exact ⟨held,nullPush held⟩

theorem connectStringSpeaks (sz : CString) (s : Scope World CppMySQLDB) :
    Speaks s (left (connectString client sz s)) := by
  rcases connectStringCases client sz s with ⟨e,result,_⟩ | ⟨o,_,_,_,⟨e,t,performed,result⟩ | ⟨t,performed,result⟩⟩
  all_goals rw [result]
  · exact chainSpeaks.refl s
  · have settled := settlesLeft (settlesBlocks client (blocks o)) s
    rw [performed] at settled
    exact settled
  · have settled := settlesLeft (settlesBlocks client (blocks o)) s
    rw [performed] at settled
    exact chainSpeaks.trans _ _ _ settled (namedSpeaks o t)

theorem fetchedNull (szSQL : CString) (s : Scope World CppMySQLDB) :
    nullCalls (fetchedLog client szSQL s) = nullCalls s.world.log := by
  unfold fetchedLog
  split
  · rename_i connected
    have first := (askedSpeaks client s (.realQuery szSQL) connected.1).2
    dsimp only
    split
    · exact ((askedSpeaks client (asked client s (.realQuery szSQL)) .storeResult connected.1).2).trans first
    · exact first
  · rfl

theorem ranNull {op : Operation} (s : Scope World CppMySQLDB) :
    nullCalls (ranUnfetched client op s).log = nullCalls s.world.log := by
  unfold ranUnfetched
  cases ran : op.statement s with
  | none => rfl
  | some sql =>
    have held := statementConnected ran
    have first := (askedSpeaks client s (.realQuery sql) held).2
    dsimp only
    split
    · exact ((askedSpeaks client (asked client s (.realQuery sql)) .affectedRows held).2).trans first
    · exact first

theorem freedNull {h later : History} (freed : Freed h later) : nullCalls later = nullCalls h := by
  obtain rfl | ⟨res,rfl⟩ := freed
  · rfl
  · simp [nullCalls,nullCall]

theorem compileNull {conn : Nat} (szSQL : CString) (s : Scope World CppMySQLDB) (held : s.this.mpDB = some conn) :
    nullCalls (left (compileStatement client szSQL s)).world.log = nullCalls s.world.log := by
  simp only [compileStatement,bindApply,handleApply,held]
  change nullCalls (left (CppMySQLStatement.compile client (some conn) szSQL s)).world.log = _
  have named : ∀ (c : Call) (r : Reply) h, nullCalls (⟨some conn,c,r⟩ :: h) = nullCalls h :=
    fun c r h => nullPush (by simp)
  by_cases init : (CppMySQLStatement.replied client s.world conn .stmtInit).rc = 0
  · by_cases accepted : (CppMySQLStatement.prepared client s.world conn szSQL).rc = 0
    · rw [CppMySQLStatement.compilePrepared init accepted]
      exact ((named _ _ _).trans (named _ _ _)).trans (named _ _ _)
    · rw [CppMySQLStatement.compileUnprepared init accepted]
      exact (named _ _ _).trans (named _ _ _)
  · rw [CppMySQLStatement.compileUninited init]
    exact named _ _ _

theorem operationNull (op : Operation) (s : Scope World CppMySQLDB) (held : s.this.mpDB ≠ none) :
    nullCalls (step client s op).world.log = nullCalls s.world.log := by
  have speaks {m : Op CppMySQLDB Unit} {r : Returned} (settles : Settles (fun _ => False) Speaks m) :
      nullCalls (left ((m >>= fun _ => pure r) s)).world.log = nullCalls s.world.log :=
    (settlesLeft (settlesBind chainSpeaks settles fun _ => settlesPure chainSpeaks r) s held).2
  have check : ∀ b, Settles (fun _ => False) Speaks (checkDB b) := settlesCheckDB chainSpeaks
  unfold step
  cases op with
  | connect host user passwd db port flag =>
    exact speaks (settlesBind chainSpeaks (check false) fun _ => settlesAsked _ fun mpDB reply =>
      settlesIte (fun _ => settlesLastError chainSpeaks _) fun _ => settlesPure chainSpeaks _)
  | connectString sz => exact speaks (settlesOfLeft (connectStringSpeaks sz))
  | openDB szDBName =>
    exact speaks (settlesBind chainSpeaks (check false) fun _ => settlesAsked _ fun mpDB reply =>
      settlesIte (fun _ => settlesLastError chainSpeaks _) fun _ => settlesOnWorld fun _ there => ⟨there,rfl⟩)
  | close =>
    obtain ⟨conn,named⟩ := Option.ne_none_iff_exists'.mp held
    simp only [perform,close,bindApply,handleApply,named,callApply,onThisApply,pureApply,leftOk,pushLog]
    exact nullPush (by simp)
  | tableExists szTable =>
    simp only [perform,leftBindPure,tableExistsApply]
    split
    · cases sprintfInto 256 (schemaQuery s.world.sDBName szTable) with
      | none => rfl
      | some sql =>
        simp only [leftBindPure]
        exact (freedNull (execScalarLeft client sql 0 s).1).trans (fetchedNull sql s)
    · rfl
  | execDML szSQL => rw [(unfetchedLeft client rfl s).1,ranNull]
  | execQuery szSQL =>
    simp only [perform,leftBindPure]
    rw [(execQueryLeft client szSQL s).1,fetchedNull]
  | execScalar szSQL nNullValue =>
    simp only [perform,leftBindPure]
    rw [freedNull (execScalarLeft client szSQL nNullValue s).1,fetchedNull]
  | getResultSet szSQL =>
    simp only [perform,leftBindPure]
    rw [(getResultSetLeft client szSQL s).1,fetchedNull]
  | compileStatement szSQL =>
    obtain ⟨conn,named⟩ := Option.ne_none_iff_exists'.mp held
    simp only [perform,leftBindPure]
    exact compileNull szSQL s named
  | startTransaction => rw [(unfetchedLeft client rfl s).1,ranNull]
  | commitTransaction =>
    exact speaks (settlesBind chainSpeaks (check true) fun _ => settlesAsked _ fun mpDB reply =>
      settlesOnThis fun _ there => ⟨there,rfl⟩)
  | rollback =>
    exact speaks (settlesBind chainSpeaks (check true) fun _ => settlesAsked _ fun mpDB reply =>
      settlesOnThis fun _ there => ⟨there,rfl⟩)
  | isTransaction => rfl
  | createDB szDBName => rw [(unfetchedLeft client rfl s).1,ranNull]
  | dropDB name => rw [(unfetchedLeft client rfl s).1,ranNull]
  | ping =>
    simp only [perform,leftBindPure]
    exact (settlesLeft (settlesBind chainSpeaks (check true) fun _ =>
      settlesAsked _ fun mpDB reply => settlesPure chainSpeaks _) s held).2
  | setCharacterSet szName =>
    simp only [perform,leftBindPure]
    exact (settlesLeft (settlesBind chainSpeaks (check false) fun _ => settlesAsked _ fun mpDB reply =>
      settlesPure chainSpeaks _) s held).2
  | getCharacterSetName =>
    simp only [perform,leftBindPure]
    exact (settlesLeft (settlesBind chainSpeaks (check false) fun _ => settlesAsked _ fun mpDB reply =>
      settlesPure chainSpeaks _) s held).2
  | setOptions opt arg => exact speaks (settlesSetOptions opt arg)

end Open

section Closed
variable {client : Client} {s : Scope World CppMySQLDB} (closed : s.this.mpDB = none)

theorem refusalOwn (s : Scope World CppMySQLDB) : Own (refusal s) := .inl rfl

theorem handsGrow (client : Client) {bs : List Block} (hands : handsFirst bs) (s : Scope World CppMySQLDB) :
    s.world.log.length < (left (performAll client bs s)).world.log.length := by
  induction bs with
  | nil => cases hands
  | cons b bs ih =>
    cases b with
    | skip => exact ih hands
    | refuse szErrMess => cases hands
    | hand opt arg =>
      simp only [performAll,bindApply,Block.perform,setOptionsApply]
      by_cases takes : (reply client s (.options opt arg)).rc = 0
      · rw [if_pos takes]
        obtain ⟨new,log,_⟩ := (performedHanded client bs (asked client s (.options opt arg))).log
        dsimp only
        rw [log,List.length_append]
        change _ < new.length + (s.world.log.length + 1)
        omega
      · rw [if_neg takes]
        exact Nat.lt_succ_self _

theorem handsNothing (client : Client) {bs : List Block} (none : ¬ handsFirst bs) (s : Scope World CppMySQLDB) :
    performAll client bs s = .ok ⟨⟩ s ∨
      ∃ szErrMess, performAll client bs s = .error (.thrown (exception CPPMYSQL_DB_ERROR (some szErrMess))) s := by
  induction bs with
  | nil => exact .inl rfl
  | cons b bs ih =>
    cases b with
    | skip => exact ih none
    | hand opt arg => exact absurd trivial none
    | refuse szErrMess => exact .inr ⟨szErrMess,rfl⟩

include closed

theorem connectStringClosed (client : Client) (sz : CString) :
    (HandsOption sz ∧ s.world.log.length < (left (connectString client sz s)).world.log.length) ∨
    (¬ HandsOption sz ∧ ∃ e, connectString client sz s = .error (.thrown e) s ∧ Own e) := by
  unfold connectString
  cases parses : parse sz with
  | error stop =>
    refine .inr ⟨?_,?_⟩
    · rintro ⟨o,same,_⟩
      rw [parses] at same
      cases same
    · rw [parseFails parses]
      exact ⟨_,rfl,.inl rfl⟩
  | ok o =>
    have named : HandsOption sz ↔ o.get "user" ≠ text "" ∧ ¬ PortRefused o ∧ handsFirst (blocks o) := by
      simp [HandsOption,parses]
    dsimp only
    rw [connectWithApply,named]
    by_cases user : o.get "user" = text ""
    · rw [if_pos user]
      exact .inr ⟨fun hands => hands.1 user,_,rfl,.inl rfl⟩
    by_cases port : PortRefused o
    · rw [if_neg user,if_pos port]
      exact .inr ⟨fun hands => hands.2.1 port,_,rfl,.inl rfl⟩
    rw [if_neg user,if_neg port]
    by_cases hands : handsFirst (blocks o)
    · refine .inl ⟨⟨user,port,hands⟩,?_⟩
      have grows := handsGrow client hands s
      have handed := performedHanded client (blocks o) s
      cases performed : performAll client (blocks o) s with
      | error e t =>
        rw [performed] at grows
        exact grows
      | ok a t =>
        rw [performed] at grows handed
        have mine : t.this = s.this := handed.this
        dsimp only
        rw [connectNamedClosed client o (mine ▸ closed)]
        exact grows
    · refine .inr ⟨fun all => hands all.2.2,?_⟩
      obtain none | ⟨szErrMess,refused⟩ := handsNothing client hands s
      · rw [none]
        exact ⟨_,connectNamedClosed client o closed,refusalOwn s⟩
      · rw [refused]
        exact ⟨_,rfl,.inl rfl⟩

theorem operationClosed {op : Operation} (works : idle op = false) (strings : ∀ sz, op ≠ .connectString sz)
    (options : ∀ opt arg, op ≠ .setOptions opt arg) :
    ∃ e, perform client op s = .error (.thrown e) s ∧ Own e := by
  have refused : ∀ b, checkDB b s = .error (.thrown (refusal s)) s := by
    intro b
    rw [checkDBApply,if_neg fun connected : Connected b s => connected.1 closed]
  have own := refusalOwn s
  cases op with
  | connect host user passwd db port flag => exact ⟨_,by simp only [perform,connect,bindApply,refused],own⟩
  | connectString sz => exact absurd rfl (strings sz)
  | openDB szDBName => exact ⟨_,by simp only [perform,openDB,bindApply,refused],own⟩
  | close => cases works
  | tableExists szTable => exact ⟨_,by simp only [perform,tableExists,bindApply,refused],own⟩
  | execDML szSQL => exact ⟨_,by simp only [perform,execDML,bindApply,refused],own⟩
  | execQuery szSQL => exact ⟨_,by simp only [perform,execQuery,bindApply,refused],own⟩
  | execScalar szSQL nNullValue => exact ⟨_,by simp only [perform,execScalar,execQuery,bindApply,refused],own⟩
  | getResultSet szSQL => exact ⟨_,by simp only [perform,getResultSet,bindApply,refused],own⟩
  | compileStatement szSQL =>
    refine ⟨exception CPPMYSQL_STATEMENT_ERROR (some (text "mysql handle error")),?_,.inr rfl⟩
    simp only [perform,compileStatement,bindApply,handleApply,closed,CppMySQLStatement.compileApply]
    rfl
  | startTransaction => exact ⟨_,by simp only [perform,startTransaction,execDML,bindApply,refused],own⟩
  | commitTransaction => exact ⟨_,by simp only [perform,commitTransaction,bindApply,refused],own⟩
  | rollback => exact ⟨_,by simp only [perform,rollback,bindApply,refused],own⟩
  | isTransaction => cases works
  | createDB szDBName => exact ⟨_,by simp only [perform,createDB,bindApply,refused],own⟩
  | dropDB name => exact ⟨_,by simp only [perform,dropDB,bindApply,refused],own⟩
  | ping => exact ⟨_,by simp only [perform,ping,bindApply,refused],own⟩
  | setCharacterSet szName => exact ⟨_,by simp only [perform,setCharacterSet,bindApply,refused],own⟩
  | getCharacterSetName => exact ⟨_,by simp only [perform,getCharacterSetName,bindApply,refused],own⟩
  | setOptions opt arg => exact absurd rfl (options opt arg)

end Closed

theorem guardsIff (client : Client) (s : Scope World CppMySQLDB) (op : Operation) :
    Guards client s op ↔ Checked s op := by
  by_cases held : s.this.mpDB = none
  · have kept (same : (step client s op).world.log = s.world.log)
        (closed : idle op ∨ ∃ e t, perform client op s = .error (.thrown e) t ∧ Own e) : Guards client s op :=
      ⟨by rw [same],fun _ => ⟨same,closed⟩⟩
    have refused (throws : ∃ e, perform client op s = .error (.thrown e) s ∧ Own e) : Guards client s op := by
      obtain ⟨e,result,own⟩ := throws
      exact kept (by rw [step,result]; rfl) (.inr ⟨e,s,result,own⟩)
    unfold Checked
    cases op with
    | connectString sz =>
      obtain ⟨hands,grows⟩ | ⟨hands,e,result,own⟩ := connectStringClosed held client sz
      · refine iff_of_false (fun guards => ?_) (fun checked => checked held hands)
        have same := (guards.closed held).1
        simp only [step,perform,leftBindPure] at same
        rw [same] at grows
        exact Nat.lt_irrefl _ grows
      · refine iff_of_true (refused ⟨e,?_,own⟩) (fun _ => hands)
        simp only [perform,bindApply,result]
    | setOptions opt arg =>
      refine iff_of_false (fun guards => ?_) (fun checked => checked held)
      have same := congrArg List.length (guards.closed held).1
      simp only [step,perform,leftBindPure,setOptionsApply] at same
      split at same <;> exact absurd same (Nat.succ_ne_self _)
    | close =>
      refine iff_of_true (kept ?_ (.inl rfl)) (fun _ => trivial)
      simp only [step,perform,close,bindApply,handleApply,held]
      rfl
    | isTransaction => exact iff_of_true (kept rfl (.inl rfl)) (fun _ => trivial)
    | _ => exact iff_of_true (refused (operationClosed held rfl (by simp) (by simp))) (fun _ => trivial)
  · exact iff_of_true ⟨operationNull op s held,fun closed => absurd closed held⟩ (fun closed => absurd closed held)

end DatabaseLayer.NullHandles.MySQL

namespace DatabaseLayer.NullHandles.SQLite
open Platform SQLiteClient Foundation.Program Foundation.Run CppSQLite3DB SQLiteRules

/-- A call on a NULL connection. -/
def nullCall : Call → Bool
  | .errmsg none | .busyTimeout none _ => true
  | _ => false

def nullCalls (h : History) : Nat := h.countP (fun e => nullCall e.call)

/-- The errors of the wrapper's own checks. -/
def Own (e : CppSQLite3Exception) : Prop := e.nErrCode = CPPQLITE3_DB_ERROR

section Guards
variable (client : Client)

def step (s : Scope World CppSQLite3DB) (op : Operation) : Scope World CppSQLite3DB := left (perform client op s)

/-- The operation makes no call on a NULL connection, and without a connection it makes none
at all and throws an error of its own, unless it opens one or has none to close. -/
structure Guards (s : Scope World CppSQLite3DB) (op : Operation) : Prop where
  calls : nullCalls (step client s op).world.log = nullCalls s.world.log
  closed : s.this.mpDB = none → (∃ szFile, op = .openDB szFile) ∨
    (step client s op).world.log = s.world.log ∧
      (op = .close ∨ ∃ e t, perform client op s = .error (.thrown e) t ∧ Own e)

/-- Not without a connection setBusyTimeout, and not an open that obtains no handle at all. -/
def Checked (s : Scope World CppSQLite3DB) : Operation → Prop
  | .setBusyTimeout _ => s.this.mpDB ≠ none
  | .openDB szFile => (client.openConn s.world.log szFile).handle = true
  | _ => True

end Guards

section Exactness
variable {client : Client}

theorem nullCons (c : Call) (rc : Int) (h : History) :
    nullCalls (⟨c,rc⟩ :: h) = nullCalls h + if nullCall c then 1 else 0 := by
  simp [nullCalls,List.countP_cons]

theorem chainNull : Chain (fun w v : World => nullCalls v.log = nullCalls w.log) :=
  ⟨fun _ => rfl,fun _ _ _ first rest => rest.trans first⟩

theorem calledNull {c : Call} {w v : World} (named : nullCall c = false) (called : Called c w v) :
    nullCalls v.log = nullCalls w.log := by
  obtain ⟨rc,log⟩ := called.log
  rw [log,nullCons,named]
  rfl

theorem openNull (client : Client) (szFile : CString) (s : Scope World CppSQLite3DB) :
    nullCalls (left (openDB client szFile s)).world.log = nullCalls s.world.log ↔
      (client.openConn s.world.log szFile).handle = true := by
  have opens : nullCalls (s.world.opened client szFile).log = nullCalls s.world.log :=
    calledNull rfl (calledOpen client s.world szFile)
  rw [openDBApply]
  dsimp only
  by_cases ok : (client.openConn s.world.log szFile).rc ≠ SQLITE_OK
  · rw [if_pos ok]
    have raised (w : World) (m : CString) :
        nullCalls (w.raised (client.openConn s.world.log szFile).rc (.errmsg m) true).log = nullCalls w.log := by
      unfold World.raised
      split
      · exact calledNull rfl (calledPush w _ _)
      · rfl
    dsimp only [leftError]
    rw [raised,pushLog,nullCons,opens]
    by_cases handle : (client.openConn s.world.log szFile).handle = true
    · simp [openedConn,handle,nullCall]
    · simp [openedConn,handle,nullCall]
  · rw [if_neg ok]
    exact iff_of_true opens ((client.openConn s.world.log szFile).whole (not_not.mp ok))

theorem operationNull {op : Operation} (opens : ∀ szFile, op ≠ .openDB szFile)
    (waits : ∀ nMillisecs, op ≠ .setBusyTimeout nMillisecs) (s : Scope World CppSQLite3DB) :
    nullCalls (step client s op).world.log = nullCalls s.world.log := by
  refine settlesLeft (settlesOperation chainNull op fun c w v made called => calledNull ?_ called) s
  cases op with
  | openDB szFile => exact absurd rfl (opens szFile)
  | setBusyTimeout nMillisecs => exact absurd rfl (waits nMillisecs)
  | _ =>
    cases c with
    | errmsg conn =>
      cases conn with
      | none => exact absurd made Bool.false_ne_true
      | some conn => rfl
    | busyTimeout conn nMillisecs => exact absurd made Bool.false_ne_true
    | _ => rfl

theorem operationClosed (client : Client) {s : Scope World CppSQLite3DB} (closed : s.this.mpDB = none) {op : Operation}
    (opens : ∀ szFile, op ≠ .openDB szFile) (waits : ∀ nMillisecs, op ≠ .setBusyTimeout nMillisecs)
    (closes : op ≠ .close) : ∃ e, perform client op s = .error (.thrown e) s ∧ Own e := by
  have refused := checkDBClosed closed
  refine ⟨exception CPPQLITE3_DB_ERROR (some (text "Database not open")),?_,rfl⟩
  change perform client op s = notOpen s
  cases op with
  | openDB szFile => exact absurd rfl (opens szFile)
  | close => exact absurd rfl closes
  | setBusyTimeout nMillisecs => exact absurd rfl (waits nMillisecs)
  | tableExists szTable => simp only [perform,tableExists,execScalar,bindApply,execQueryClosed client closed,notOpen]
  | execDML szSQL => simp only [perform,execDML,bindApply,refused,notOpen]
  | execQuery szSQL => simp only [perform,bindApply,execQueryClosed client closed,notOpen]
  | execScalar szSQL nNullValue => simp only [perform,execScalar,bindApply,execQueryClosed client closed,notOpen]
  | getResultSet szSQL => simp only [perform,getResultSet,bindApply,refused,notOpen]
  | compileStatement szSQL => simp only [perform,compileStatement,bindApply,refused,notOpen]
  | startTransaction => simp only [perform,startTransaction,execDML,bindApply,refused,notOpen]
  | commitTransaction => simp only [perform,commitTransaction,execDML,bindApply,refused,notOpen]
  | rollback => simp only [perform,rollback,execDML,bindApply,refused,notOpen]
  | isTransaction => simp only [perform,isTransaction,bindApply,refused,notOpen]

theorem guardsIff (s : Scope World CppSQLite3DB) (op : Operation) : Guards client s op ↔ Checked client s op := by
  have ordinary (opens : ∀ szFile, op ≠ .openDB szFile) (waits : ∀ nMillisecs, op ≠ .setBusyTimeout nMillisecs)
      (closes : op ≠ .close) : Guards client s op := by
    refine ⟨operationNull opens waits s,fun closed => .inr ?_⟩
    obtain ⟨e,result,own⟩ := operationClosed client closed opens waits closes
    exact ⟨by rw [step,result]; rfl,.inr ⟨e,s,result,own⟩⟩
  cases op with
  | openDB szFile =>
    have exactly := openNull client szFile s
    constructor
    · intro guards
      have calls := guards.calls
      simp only [step,perform,leftBindPure] at calls
      exact exactly.mp calls
    · intro handle
      refine ⟨?_,fun _ => .inl ⟨szFile,rfl⟩⟩
      simp only [step,perform,leftBindPure]
      exact exactly.mpr handle
  | setBusyTimeout nMillisecs =>
    have asks : (step client s (.setBusyTimeout nMillisecs)).world.log =
        ⟨.busyTimeout s.this.mpDB nMillisecs,SQLITE_OK⟩ :: s.world.log := rfl
    simp only [Checked]
    cases held : s.this.mpDB with
    | none =>
      refine iff_of_false (fun guards => ?_) (fun checked => checked rfl)
      have calls := guards.calls
      rw [asks,held,nullCons] at calls
      exact absurd calls (Nat.succ_ne_self _)
    | some pDB =>
      refine iff_of_true ⟨?_,fun closed => ?_⟩ (by simp)
      · rw [asks,held,nullCons]
        rfl
      · rw [held] at closed
        cases closed
  | close =>
    refine iff_of_true ⟨operationNull (by simp) (by simp) s,fun closed => .inr ⟨?_,.inl rfl⟩⟩ trivial
    simp only [step,perform,leftBindPure,closeApply,closed]
    rfl
  | _ => exact iff_of_true (ordinary (by simp) (by simp) (by simp)) trivial

end Exactness
end DatabaseLayer.NullHandles.SQLite

namespace DatabaseLayer.NullHandles
open Foundation.Program Foundation.Run

/-- Over any run, on either backend, every operation is on a connection or refused by the
wrapper itself exactly when none of the unguarded ones is asked for without a connection. -/
theorem connectionsGuardedIff (mysql : MySQLClient.Client) (s : Scope MySQLClient.World CppMySQLDB)
    (ops : List CppMySQLDB.Operation) (sqlite : SQLiteClient.Client) (t : Scope SQLiteClient.World CppSQLite3DB)
    (requests : List CppSQLite3DB.Operation) :
    (Guarded (MySQL.step mysql) (MySQL.Guards mysql) s ops ↔
      Guarded (MySQL.step mysql) MySQL.Checked s ops) ∧
    (Guarded (SQLite.step sqlite) (SQLite.Guards sqlite) t requests ↔
      Guarded (SQLite.step sqlite) (SQLite.Checked sqlite) t requests) :=
  ⟨guardedIff (MySQL.guardsIff mysql) s ops,guardedIff SQLite.guardsIff t requests⟩

/-- After close, setOptions hands on a NULL connection; before open, setBusyTimeout does. -/
theorem nullHandedOver :
    ¬ Guarded (MySQL.step .obliging) (MySQL.Guards .obliging) MySQLConnect.initialised
      [.close,.setOptions .optCompress none] ∧
    ¬ Guarded (SQLite.step .obliging) (SQLite.Guards .obliging) ⟨.initial,⟨none⟩⟩ [.setBusyTimeout 100] := by
  constructor
  · intro all
    have last := (all [.close] (.setOptions .optCompress none) (List.prefix_refl _)).calls
    exact absurd last (by decide)
  · intro all
    have last := (all [] (.setBusyTimeout 100) (List.prefix_refl _)).calls
    exact absurd last (by decide)

end DatabaseLayer.NullHandles
