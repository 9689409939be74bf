import DatabaseLayer.Foundation.Run
import DatabaseLayer.SQLiteMessages
import DatabaseLayer.SQLiteLoops

/-! Handing a query on. Neither the copy constructor nor operator= carries the connection
along, which matters to nothing but the message of a call that fails; and the query of a
statement has been copied before its caller sees it. -/
namespace DatabaseLayer.SQLiteTransfers
open Platform SQLiteClient Foundation.Program Foundation.Run CppSQLite3Query
open SQLiteMessages (stepCode Fine FinalizeFails)

/-- What a call on a query returns. -/
inductive Answer where
  | unit
  | bool (value : Bool)
  | int (value : Int)
  | double (bits : UInt64)
  | text (value : Option CString)
  | blob (bytes : List UInt8)
  deriving DecidableEq, Repr

def respond (client : Client) : Request → Op CppSQLite3Query Answer
  | .numFields => do return .int (← numFields)
  | .fieldIndex szField => do return .int (← fieldIndex szField)
  | .fieldName nCol => do return .text (← fieldName nCol)
  | .fieldDataType nCol => do return .int (← fieldDataType nCol)
  | .fieldDataIsNull nField => do return .bool (← fieldDataIsNull nField)
  | .fieldValue field => do return .text (← fieldValue (← field.find))
  | .getStringField field szNullValue => do return .text (← getStringField (← field.find) szNullValue)
  | .getIntField field nNullValue => do return .int (← getIntField (← field.find) nNullValue)
  | .getDoubleField field fNullValue => do return .double (← getDoubleField (← field.find) fNullValue)
  | .getBlobField field => do return .blob (← getBlobField (← field.find))
  | .eof => do return .bool (← eof)
  | .nextRow => do
    nextRow client
    return .unit
  | .clear => do
    clear client
    return .unit

section Accessors
variable {conn : Option Nat}

def rebound (conn : Option Nat) (s : Scope World CppSQLite3Query) : Scope World CppSQLite3Query :=
  ⟨s.world,{s.this with mpDB := conn}⟩

theorem blindRaise {α : Type} (nErrCode : Int) (szErrMess : Message) (isSqlite3Free : Bool) :
    Blind (rebound conn) (raise nErrCode szErrMess isSqlite3Free : Op CppSQLite3Query α) := by
  intro s
  rw [raiseApply,raiseApply]
  rfl

theorem blindColumn (id : Nat) (nCol : Int) : Blind (rebound conn) (sqlite3Column id nCol) := by
  refine blindRead (fun _ => rfl) fun s => ?_
  cases (s.world.stmts id).value nCol with
  | some value => exact blindPure value
  | none => exact blindThrow _

theorem blindColumnName (id : Nat) (nCol : Int) : Blind (rebound conn) (sqlite3ColumnName id nCol) :=
  blindRead (fun _ => rfl) fun _ => blindPure _

theorem blindCheckStmt : Blind (rebound conn) checkStmt :=
  blindRead (fun _ => rfl) fun _ => blindIte (blindRaise _ _ _) (blindPure _)

theorem blindHandle : Blind (rebound conn) handle := by
  refine blindRead (fun _ => rfl) fun s => ?_
  cases s.this.mpStmt with
  | some pStmt => exact blindPure pStmt
  | none => exact blindThrow _

theorem blindNumFields : Blind (rebound conn) numFields :=
  blindBind blindCheckStmt fun _ => blindRead (fun _ => rfl) fun _ => blindPure _

theorem blindFieldIndexFrom (pStmt : Nat) (szField : CString) (n : Nat) (nField : Int) :
    Blind (rebound conn) (fieldIndexFrom pStmt szField nField n) := by
  induction n generalizing nField with
  | zero => exact blindPure none
  | succ n ih =>
    refine blindBind (blindColumnName pStmt nField) fun name => ?_
    cases name with
    | none => exact blindThrow _
    | some szTemp => exact blindIte (blindPure _) (ih (nField + 1))

theorem blindFieldIndex (szField : Option CString) : Blind (rebound conn) (fieldIndex szField) := by
  refine blindBind blindCheckStmt fun _ => ?_
  cases szField
  case' none => refine blindBind (blindPure none) fun found => ?_
  case' some name =>
    refine blindBind blindHandle fun pStmt => blindRead (fun _ => rfl) fun _ => ?_
    refine blindBind (blindFieldIndexFrom pStmt name _ 0) fun found => ?_
  all_goals
    cases found with
    | some nField => exact blindPure nField
    | none => exact blindRaise _ _ _

theorem blindChecked {α : Type} (nCol : Int) {m : Op CppSQLite3Query α} (rest : Blind (rebound conn) m) :
    Blind (rebound conn) (do
      checkStmt
      if nCol < 0 ∨ nCol > (← get).this.mnFieldsCount - 1 then
        raise CPPQLITE3L_QUERY_ERROR (.literal (text "Invalid field index requested")) false
      else m) :=
  blindBind blindCheckStmt fun _ => blindRead (fun _ => rfl) fun _ => blindIte (blindRaise _ _ _) rest

theorem blindColumnOf {α : Type} (nCol : Int) (f : Value → α) :
    Blind (rebound conn) (do return f (← sqlite3Column (← handle) nCol)) :=
  blindBind blindHandle fun pStmt => blindBind (blindColumn pStmt nCol) fun _ => blindPure _

theorem blindFieldName (nCol : Int) : Blind (rebound conn) (fieldName nCol) :=
  blindChecked nCol (blindBind blindHandle fun pStmt => blindColumnName pStmt nCol)

theorem blindFieldDataType (nCol : Int) : Blind (rebound conn) (fieldDataType nCol) :=
  blindChecked nCol (blindColumnOf nCol Value.type)

theorem blindFieldDataIsNull (nField : Int) : Blind (rebound conn) (fieldDataIsNull nField) :=
  blindBind (blindFieldDataType nField) fun _ => blindPure _

theorem blindFieldValue (nField : Int) : Blind (rebound conn) (fieldValue nField) :=
  blindBind blindCheckStmt fun _ => blindColumnOf nField Value.text

theorem blindGetBlobField (nField : Int) : Blind (rebound conn) (getBlobField nField) :=
  blindChecked nField (blindColumnOf nField Value.blob)

theorem blindGetStringField (nField : Int) (szNullValue : Option CString) :
    Blind (rebound conn) (getStringField nField szNullValue) :=
  blindBind (blindFieldDataIsNull nField) fun _ => blindIte (blindFieldValue nField) (blindPure _)

theorem blindGetIntField (nField nNullValue : Int) : Blind (rebound conn) (getIntField nField nNullValue) :=
  blindBind (blindFieldDataIsNull nField) fun _ => blindIte (blindColumnOf nField Value.int) (blindPure _)

theorem blindGetDoubleField (nField : Int) (fNullValue : UInt64) :
    Blind (rebound conn) (getDoubleField nField fNullValue) :=
  blindBind (blindFieldDataIsNull nField) fun _ => blindIte (blindColumnOf nField Value.double) (blindPure _)

theorem blindEof : Blind (rebound conn) eof :=
  blindBind blindCheckStmt fun _ => blindRead (fun _ => rfl) fun _ => blindPure _

theorem blindField {α : Type} (field : FieldRef) {get : Int → Op CppSQLite3Query α} {f : α → Answer}
    (blind : ∀ nField, Blind (rebound conn) (get nField)) :
    Blind (rebound conn) (do return f (← get (← field.find))) := by
  cases field with
  | index nField => exact blindBind (blindPure nField) fun i => blindBind (blind i) fun _ => blindPure _
  | name szField => exact blindBind (blindFieldIndex szField) fun i => blindBind (blind i) fun _ => blindPure _

/-- No call looks at the connection unless it moves the statement on. -/
theorem blindRespond (client : Client) {r : Request} (reads : r.moves = false) : Blind (rebound conn) (respond client r) := by
  cases r with
  | numFields => exact blindBind blindNumFields fun _ => blindPure _
  | fieldIndex szField => exact blindBind (blindFieldIndex szField) fun _ => blindPure _
  | fieldName nCol => exact blindBind (blindFieldName nCol) fun _ => blindPure _
  | fieldDataType nCol => exact blindBind (blindFieldDataType nCol) fun _ => blindPure _
  | fieldDataIsNull nField => exact blindBind (blindFieldDataIsNull nField) fun _ => blindPure _
  | fieldValue field => exact blindField field blindFieldValue
  | getStringField field szNullValue => exact blindField field fun i => blindGetStringField i szNullValue
  | getIntField field nNullValue => exact blindField field fun i => blindGetIntField i nNullValue
  | getDoubleField field fNullValue => exact blindField field fun i => blindGetDoubleField i fNullValue
  | getBlobField field => exact blindField field blindGetBlobField
  | eof => exact blindBind blindEof fun _ => blindPure _
  | nextRow => cases reads
  | clear => cases reads

end Accessors

/-- The two calls end alike, and leave the same world. -/
def SameEnd {α : Type} : EStateM.Result Stop (Scope World CppSQLite3Query) α →
    EStateM.Result Stop (Scope World CppSQLite3Query) α → Prop
  | .ok a s,.ok b t => a = b ∧ s.world = t.world
  | .error e s,.error f t => e = f ∧ s.world = t.world
  | _,_ => False

def Fails (client : Client) (w : World) (q : CppSQLite3Query) : Request → Prop
  | .nextRow => ∃ id, q.mpStmt = some id ∧ ¬ Fine (stepCode client w id)
  | .clear => FinalizeFails w q
  | _ => False

section Comparing
variable {client : Client} {s : Scope World CppSQLite3Query} {pDB : Nat} {α : Type} {m : Op CppSQLite3Query α} {fails : Prop}

/-- How a program ends on an object, and on the one that has kept its connection. -/
structure Compares (pDB : Nat) (s : Scope World CppSQLite3Query) (fails : Prop) (m : Op CppSQLite3Query α) : Prop where
  same : SameEnd (m s) (m (rebound (some pDB) s)) ↔ (fails → s.this.mpDB = some pDB)
  kept : (left (m (rebound (some pDB) s))).this = {(left (m s)).this with mpDB := some pDB}

theorem blindCompares (never : ¬ fails) (blind : m (rebound (some pDB) s) = changed (rebound (some pDB)) (m s)) :
    Compares pDB s fails m := by
  have alike : SameEnd (m s) (m (rebound (some pDB) s)) ∧
      (left (m (rebound (some pDB) s))).this = {(left (m s)).this with mpDB := some pDB} := by
    rw [blind]
    cases m s with
    | ok a t => exact ⟨⟨rfl,rfl⟩,rfl⟩
    | error e t => exact ⟨⟨rfl,rfl⟩,rfl⟩
  exact ⟨iff_of_true alike.1 fun fails => absurd fails never,alike.2⟩

/-- The connections whose last message was asked for, newest first. -/
def messagesFrom (h : History) : List (Option Nat) :=
  h.filterMap (fun e => match e.call with | .errmsg conn => some conn | _ => none)

theorem raisedFrom (w : World) (nErrCode : Int) (szErrMess : Message) (isSqlite3Free : Bool) :
    messagesFrom (w.raised nErrCode szErrMess isSqlite3Free).log = messagesFrom w.log := by
  unfold World.raised
  split <;> rfl

theorem raisedStmts (w : World) (nErrCode : Int) (szErrMess : Message) (isSqlite3Free : Bool) :
    (w.raised nErrCode szErrMess isSqlite3Free).stmts = w.stmts := by
  unfold World.raised
  split <;> rfl

theorem messageCompares (client : Client) (nRet : Int) (s : Scope World CppSQLite3Query) :
    Compares pDB s True (throwErrmsg client nRet : Op CppSQLite3Query α) := by
  have mine := throwErrmsgApply (α := α) client nRet s
  have own := throwErrmsgApply (α := α) client nRet (rebound (some pDB) s)
  refine ⟨?_,?_⟩
  · rw [mine,own,true_imp_iff]
    cases s.this.mpDB with
    | none => exact iff_of_false (fun same => nomatch same.1) nofun
    | some conn =>
      constructor
      · rintro ⟨_,world⟩
        have from_ := congrArg (fun w : World => messagesFrom w.log) world
        simp only [raisedFrom] at from_
        exact (List.cons.inj from_).1
      · rintro ⟨⟩
        exact ⟨rfl,rfl⟩
  · rw [mine,own]
    cases s.this.mpDB <;> rfl

theorem releasedRebound (s : Scope World CppSQLite3Query) :
    released (rebound (some pDB) s) = rebound (some pDB) (released s) := by
  unfold released rebound
  cases s.this.mpStmt <;> rfl

theorem failsCompares (failed : fails) {t : Scope World CppSQLite3Query} {nRet : Int} (conn : t.this.mpDB = s.this.mpDB)
    (mine : m s = throwErrmsg client nRet (released t))
    (own : m (rebound (some pDB) s) = throwErrmsg client nRet (released (rebound (some pDB) t))) :
    Compares pDB s fails m := by
  have compares : Compares pDB (released t) True (throwErrmsg client nRet : Op CppSQLite3Query α) :=
    messageCompares client nRet (released t)
  obtain ⟨same,kept⟩ := compares
  rw [releasedConnection,conn] at same
  refine ⟨?_,?_⟩
  · rw [mine,own,releasedRebound,same]
    exact imp_congr_left (iff_of_true trivial failed)
  · rw [mine,own,releasedRebound,kept]

theorem nextRowCompares (client : Client) (s : Scope World CppSQLite3Query) :
    Compares pDB s (Fails client s.world s.this .nextRow) (nextRow client) := by
  cases held : s.this.mpStmt with
  | none =>
    refine blindCompares (fun ⟨id,same,_⟩ => nomatch held.symm.trans same) ?_
    rw [nextRowNone client held,nextRowNone client (s := rebound (some pDB) s) held]
    rfl
  | some pStmt =>
    by_cases fine : Fine (stepCode client s.world pStmt)
    · refine blindCompares ?_ ?_
      · rintro ⟨id,same,failed⟩
        cases held.symm.trans same
        exact failed fine
      · rw [nextRowApply client held fine,nextRowApply client (s := rebound (some pDB) s) held fine]
        rfl
    · exact failsCompares (t := ⟨s.world.stepped client pStmt,s.this⟩) ⟨pStmt,held,fine⟩ rfl
        (nextRowFails client held fine) (nextRowFails client (s := rebound (some pDB) s) held fine)

theorem clearHeld (client : Client) {pStmt : Nat} (held : s.this.mpStmt = some pStmt) : clear client s =
    if (s.world.stmts pStmt).progress.failure ≠ SQLITE_OK
    then throwErrmsg client (s.world.stmts pStmt).progress.failure (released s) else .ok ⟨⟩ (released s) := by
  rw [clearApply,held]

theorem clearCompares (client : Client) (s : Scope World CppSQLite3Query) :
    Compares pDB s (FinalizeFails s.world s.this) (clear client) := by
  cases held : s.this.mpStmt with
  | none =>
    refine blindCompares (fun ⟨id,same,_⟩ => nomatch held.symm.trans same) ?_
    rw [clearNone client held,clearNone client (s := rebound (some pDB) s) held]
    rfl
  | some pStmt =>
    have mine := clearHeld client held
    have own := clearHeld client (s := rebound (some pDB) s) held
    by_cases failed : (s.world.stmts pStmt).progress.failure ≠ SQLITE_OK
    · exact failsCompares (t := s) ⟨pStmt,held,failed⟩ rfl (mine.trans (if_pos failed)) (own.trans (if_pos failed))
    · refine blindCompares ?_ ?_
      · rintro ⟨id,same,failure⟩
        cases held.symm.trans same
        exact failed failure
      · rw [mine.trans (if_neg failed),own.trans (if_neg failed),releasedRebound]
        rfl

theorem comparesThen {m : Op CppSQLite3Query Unit} {a : Answer} (compares : Compares pDB s fails m) :
    Compares pDB s fails (m >>= fun _ => (pure a : Op CppSQLite3Query Answer)) := by
  obtain ⟨same,kept⟩ := compares
  refine ⟨?_,?_⟩
  · rw [← same,bindApply,bindApply]
    cases m s with
    | ok _ t =>
      cases m (rebound (some pDB) s) with
      | ok _ u => exact and_congr_left fun _ => iff_of_true rfl rfl
      | error e u => exact Iff.rfl
    | error e t => cases m (rebound (some pDB) s) <;> exact Iff.rfl
  · rw [bindApply,bindApply]
    revert kept
    cases m s <;> cases m (rebound (some pDB) s) <;> exact id

theorem respondCompares (client : Client) (s : Scope World CppSQLite3Query) (r : Request) :
    Compares pDB s (Fails client s.world s.this r) (respond client r) := by
  cases moves : r.moves with
  | false =>
    refine blindCompares ?_ (blindRespond client moves s)
    cases r with
    | nextRow | clear => cases moves
    | _ => exact id
  | true =>
    cases r with
    | nextRow => exact comparesThen (nextRowCompares client s)
    | clear => exact comparesThen (clearCompares client s)
    | _ => cases moves

end Comparing

/-- A query in the hands of its last holder, and the object execQuery made of it, as if it had
never been handed on. -/
structure Handed where
  world : World
  holder : CppSQLite3Query
  original : CppSQLite3Query

/-- A call on the holder, or a transfer of it: by copying, or by assigning it to an object. -/
inductive Event where
  | request (r : Request)
  | copy
  | assign (target : CppSQLite3Query)
  deriving DecidableEq, Repr

section Transfers
variable (client : Client)

def step (s : Handed) : Event → Handed
  | .request r =>
    let t := left (respond client r ⟨s.world,s.holder⟩)
    ⟨t.world,t.this,(left (respond client r ⟨s.world,s.original⟩)).this⟩
  | .copy => {s with holder := s.holder.copy.1}
  | .assign target => match CppSQLite3Query.assign client s.holder ⟨s.world,target⟩ with
    | .ok _ t => {s with world := t.world, holder := t.this}
    | .error _ t => {s with world := t.world}

/-- A call does what it would do on the original object; a transfer comes to its end and
leaves every statement where it stands. -/
def Behaves (s : Handed) : Event → Prop
  | .request r => SameEnd (respond client r ⟨s.world,s.holder⟩) (respond client r ⟨s.world,s.original⟩)
  | .copy => True
  | .assign target => ∃ rest t, CppSQLite3Query.assign client s.holder ⟨s.world,target⟩ = .ok rest t ∧
      t.world.stmts = s.world.stmts

/-- Whenever a call fails, the object points at the connection of the original; and an object
assigned to whose own statement fails points at a connection. -/
def Keeps (s : Handed) : Event → Prop
  | .request r => Fails client s.world s.holder r → s.holder.mpDB = s.original.mpDB
  | .copy => True
  | .assign target => FinalizeFails s.world target → target.mpDB ≠ none

end Transfers

section Exactness
variable {client : Client} {s : Handed} {pDB : Nat}

/-- All but the connection has come along. -/
def Carried (pDB : Nat) (s : Handed) : Prop := s.original = {s.holder with mpDB := some pDB}

theorem assignEnds (client : Client) (rQuery : CppSQLite3Query) (s : Scope World CppSQLite3Query) :
    match CppSQLite3Query.assign client rQuery s with
    | .ok _ t => (FinalizeFails s.world s.this → s.this.mpDB ≠ none) ∧ t.world.stmts = s.world.stmts ∧
        t.this = {rQuery with mpDB := s.this.mpDB}
    | .error _ _ => FinalizeFails s.world s.this ∧ s.this.mpDB = none := by
  simp only [CppSQLite3Query.assign,bindApply,swallow,onThisApply,pureApply]
  cases held : s.this.mpStmt with
  | none =>
    rw [clearNone client held]
    refine ⟨?_,rfl,rfl⟩
    rintro ⟨id,same,_⟩
    cases held.symm.trans same
  | some pStmt =>
    have stmts : (released s).world.stmts = s.world.stmts := by rw [released,held]; rfl
    have ended := clearHeld client held
    by_cases failed : (s.world.stmts pStmt).progress.failure ≠ SQLITE_OK
    · rw [if_pos failed,throwErrmsgApply,releasedConnection] at ended
      cases conn : s.this.mpDB with
      | none =>
        rw [conn] at ended
        rw [ended]
        exact ⟨⟨pStmt,held,failed⟩,rfl⟩
      | some c =>
        rw [conn] at ended
        rw [ended]
        refine ⟨fun _ => Option.some_ne_none c,(raisedStmts _ _ _ _).trans stmts,?_⟩
        rw [← conn,← releasedConnection]
    · rw [if_neg failed] at ended
      rw [ended]
      refine ⟨?_,stmts,?_⟩
      · rintro ⟨id,same,failure⟩
        cases held.symm.trans same
        exact absurd failure failed
      · rw [releasedConnection]

theorem stepCarried (s : Handed) (e : Event) (carried : Carried pDB s) : Carried pDB (step client s e) := by
  cases e with
  | request r =>
    have compares : Compares pDB ⟨s.world,s.holder⟩ _ (respond client r) := respondCompares client _ r
    have kept := compares.kept
    unfold Carried at carried ⊢
    simp only [step,carried]
    exact kept
  | copy => exact carried
  | assign target =>
    have ends := assignEnds client s.holder ⟨s.world,target⟩
    unfold Carried at carried ⊢
    simp only [step]
    cases result : CppSQLite3Query.assign client s.holder ⟨s.world,target⟩ with
    | ok rest t =>
      rw [result] at ends
      have taken : s.original = {t.this with mpDB := some pDB} := by
        rw [ends.2.2]
        exact carried
      exact taken
    | error e t => exact carried

theorem behavesIff (s : Handed) (e : Event) (carried : Carried pDB s) : Behaves client s e ↔ Keeps client s e := by
  cases e with
  | request r =>
    have compares : Compares pDB ⟨s.world,s.holder⟩ _ (respond client r) := respondCompares client _ r
    have same := compares.same
    unfold Carried at carried
    simp only [Behaves,Keeps,carried]
    exact same
  | copy => exact Iff.rfl
  | assign target =>
    have ends := assignEnds client s.holder ⟨s.world,target⟩
    simp only [Behaves,Keeps]
    cases result : CppSQLite3Query.assign client s.holder ⟨s.world,target⟩ with
    | ok rest t =>
      rw [result] at ends
      exact iff_of_true ⟨rest,t,rfl,ends.2.1⟩ ends.1
    | error e t =>
      rw [result] at ends
      exact iff_of_false nofun (fun keeps => keeps ends.1 ends.2)

/-- A query that execQuery returned, of a database or of a statement on this connection, and
the world it did so in. The object made of it is the one returned; that of a statement was a
local on the connection of the statement. -/
inductive Executed (client : Client) (pDB : Nat) : Handed → Prop where
  | direct {szSQL q} {s t : Scope World CppSQLite3DB} (opened : s.this.mpDB = some pDB)
      (returns : CppSQLite3DB.execQuery client szSQL s = .ok q t) : Executed client pDB ⟨t.world,q,q⟩
  | prepared {q} {s t : Scope World CppSQLite3Statement} (opened : s.this.mpDB = some pDB)
      (returns : CppSQLite3Statement.execQuery client s = .ok q t) :
      Executed client pDB ⟨t.world,q,{q with mpDB := some pDB}⟩

theorem executedCarried (executed : Executed client pDB s) : Carried pDB s := by
  cases executed with
  | @direct szSQL q s t opened returns =>
    obtain ⟨_,own,knows⟩ := CppSQLite3DB.execQueryKnows client returns
    cases opened.symm.trans own
    unfold Carried
    rw [← knows]
  | prepared => rfl

/-- However a query is handed on and used between, every call of its last holder does what it
would do on the object execQuery made, and every transfer comes to its end, exactly if whenever
a call fails the connection pointed at is the one the query was executed on, and no object is
assigned to that has a failed statement and no connection. -/
theorem transfersBehaveIff (executed : Executed client pDB s) (events : List Event) :
    Guarded (step client) (Behaves client) s events ↔ Guarded (step client) (Keeps client) s events :=
  guardedCongr stepCarried behavesIff (executedCarried executed) events

end Exactness

theorem replicatedWidth (width : Nat) : ∀ row ∈ [List.replicate width SQLiteLoops.one], row.length = width := by
  intro row only
  rw [List.mem_singleton.mp only,List.length_replicate]

/-- A library whose statements fail after their first row. -/
def failing : Client := {Client.obliging with
  execute := fun _ _ width => ⟨[List.replicate width SQLiteLoops.one],SQLITE_BUSY,replicatedWidth width,busyEnds,busyCode⟩}

def compiledOnOpen : Scope World CppSQLite3Statement :=
  ⟨CppSQLite3DB.compiled .initial 0 (text "select n") [text "n"],⟨some 0,some 0⟩⟩

/-- The query of a statement is assigned to an object on its connection before its step fails. -/
theorem transfersBehaveIffAssigned : ∃ s, Executed failing 0 s ∧
    (Guarded (step failing) (Behaves failing) s [.assign ⟨some 0,none,true,0⟩,.request .nextRow] ↔
      Guarded (step failing) (Keeps failing) s [.assign ⟨some 0,none,true,0⟩,.request .nextRow]) := by
  have returns : CppSQLite3Statement.execQuery failing compiledOnOpen = .ok _ _ := rfl
  exact ⟨_,.prepared rfl returns,transfersBehaveIff (.prepared rfl returns) _⟩

theorem stepLost {s : Handed} {pDB id : Nat} {client : Client} (carried : Carried pDB s) (unset : s.holder.mpDB = none)
    (held : s.holder.mpStmt = some id) (busy : stepCode client s.world id = SQLITE_BUSY) :
    ¬ Behaves client s (.request .nextRow) := by
  intro behaves
  have failed : ¬ Fine (stepCode client s.world id) := by
    rw [busy]
    exact not_or.mpr ⟨busyEnds.1,by decide⟩
  have same : s.holder.mpDB = s.original.mpDB := (behavesIff s _ carried).mp behaves ⟨id,held,failed⟩
  unfold Carried at carried
  rw [unset,carried] at same
  cases same

/-- A copy of a query is asked for its next row, or the query of a statement that was handed on
to nobody, and the step fails. -/
theorem connectionLost :
    (∃ s, Executed failing 0 s ∧ ¬ Guarded (step failing) (Behaves failing) s [.copy,.request .nextRow]) ∧
    ∃ s, Executed failing 0 s ∧ ¬ Guarded (step failing) (Behaves failing) s [.request .nextRow] := by
  constructor
  · have returns : CppSQLite3DB.execQuery failing (text "select n") SQLiteLoops.onOpen = .ok _ _ := rfl
    refine ⟨_,.direct rfl returns,fun behaves => ?_⟩
    have carried : Carried 0 (step failing _ .copy) := stepCarried _ .copy (executedCarried (.direct rfl returns))
    exact stepLost carried rfl rfl rfl (behaves [.copy] (.request .nextRow) (List.prefix_refl _))
  · have returns : CppSQLite3Statement.execQuery failing compiledOnOpen = .ok _ _ := rfl
    refine ⟨_,.prepared rfl returns,fun behaves => ?_⟩
    have carried := executedCarried (.prepared rfl returns)
    exact stepLost carried rfl rfl rfl (behaves [] (.request .nextRow) (List.prefix_refl _))

end DatabaseLayer.SQLiteTransfers
