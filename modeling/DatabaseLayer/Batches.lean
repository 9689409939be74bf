import DatabaseLayer.Foundation.Batch
import DatabaseLayer.MySQLProtocol
import DatabaseLayer.SQLiteBindings

/-! Many rows through one prepared statement: for each row its parameters are bound, from the
first on, and the statement is executed. -/
namespace DatabaseLayer.Batches
open Platform Foundation.Program Foundation.Batch

/-- What DatabaseStatement binds. -/
inductive Value where
  | string (szValue : CString)
  | int (nValue : Int)
  | double (dwValue : UInt64)
  deriving DecidableEq, Repr

abbrev Row := List Value

def numberedFrom (nParam : Int) : Row → List (Int × Value)
  | [] => []
  | value :: rest => (nParam,value) :: numberedFrom (nParam + 1) rest

section Programs
variable {ε σ ρ : Type} (perform : ρ → EStateM ε σ Unit) (bind : Int × Value → ρ) (execDML : ρ)

/-- `s.bind(1,..); s.bind(2,..); .. s.execDML();` -/
def insert (row : Row) : EStateM ε σ Unit := do
  forEach (fun binding => perform (bind binding)) (numberedFrom 1 row)
  perform execDML

def batch (rows : List Row) : EStateM ε σ Unit := forEach (insert perform bind execDML) rows

end Programs

section SQLite
open SQLiteClient CppSQLite3Statement SQLiteBindings

def sqliteBind : Int × Value → CppSQLite3Statement.Request
  | (nParam,.string szValue) => .bindString nParam szValue
  | (nParam,.int nValue) => .bindInt nParam nValue
  | (nParam,.double dwValue) => .bindDouble nParam dwValue

def sqliteBatch (client : Client) : List Row → Op CppSQLite3Statement Unit :=
  batch (perform client) sqliteBind .execDML

/-- The parameters a statement was executed with each time it came to its end, oldest first. -/
def sqliteExecuted (id : Nat) : History → List Parameters
  | [] => []
  | e :: h => if e = ⟨.step (some id),SQLITE_DONE⟩ then sqliteExecuted id h ++ [bound id h] else sqliteExecuted id h

def Value.parameter : Value → Parameter
  | .string szValue => .text szValue
  | .int nValue => .int nValue
  | .double dwValue => .double dwValue

/-- A row bound from the first parameter on, the others as they were. -/
def rowOver (base : Parameters) (row : Row) : Parameters :=
  fun i => if 1 ≤ i then (row[(i - 1).toNat]?).elim (base i) (fun value => stored value.parameter) else base i

theorem rowOverNil (base : Parameters) : rowOver base [] = base := by
  funext i
  simp [rowOver]

theorem rowOverSnoc (base : Parameters) (row : Row) (value : Value) :
    rowOver base (row ++ [value]) = Function.update (rowOver base row) (row.length + 1) (stored value.parameter) := by
  funext i
  by_cases last : i = row.length + 1
  · subst last
    have low : (1 : Int) ≤ row.length + 1 := by omega
    have here : ((row.length : Int) + 1 - 1).toNat = row.length := by omega
    rw [Function.update_self,rowOver,if_pos low,here,List.getElem?_concat_length]
    rfl
  · rw [Function.update_of_ne last]
    unfold rowOver
    by_cases low : 1 ≤ i
    · rw [if_pos low,if_pos low]
      rcases Nat.lt_or_ge (i - 1).toNat row.length with before | after
      · rw [List.getElem?_append_left before]
      · have past : row.length + 1 ≤ (i - 1).toNat := by omega
        rw [List.getElem?_eq_none (by simpa using past),List.getElem?_eq_none after]
    · rw [if_neg low,if_neg low]

theorem rowOverSame (base : Parameters) {row other : Row} (same : row.length = other.length) :
    rowOver (rowOver base row) other = rowOver base other := by
  funext i
  by_cases low : 1 ≤ i
  · simp only [rowOver,if_pos low]
    rcases Nat.lt_or_ge (i - 1).toNat other.length with inside | past
    · rw [List.getElem?_eq_getElem inside]
      rfl
    · rw [List.getElem?_eq_none past,List.getElem?_eq_none (same ▸ past)]
      rfl
  · simp only [rowOver,if_neg low]

section Executing
variable {client : Client} {o : CppSQLite3Statement} {id pDB : Nat} {base : Parameters}

/-- Part of a row is bound, nothing was executed yet, and this much is left to bind. -/
def Binding (o : CppSQLite3Statement) (id : Nat) (base : Parameters) (before : List Parameters) (row : Row)
    (rest : List (Int × Value)) (s : Scope World CppSQLite3Statement) : Prop :=
  s.this = o ∧ sqliteExecuted id s.world.log = before ∧ ∃ done left, row = done ++ left ∧
    rest = numberedFrom (done.length + 1) left ∧ bound id s.world.log = rowOver base done

theorem sqliteBindApply (client : Client) (binding : Int × Value) : ∃ kind,
    perform client (sqliteBind binding) = bindAs client kind binding.1 binding.2.parameter := by
  obtain ⟨nParam,value⟩ := binding
  cases value with
  | string szValue => exact ⟨_,rfl⟩
  | int nValue => exact ⟨_,rfl⟩
  | double dwValue => exact ⟨_,rfl⟩

theorem bindOne (held : o.mpStmt = some id) {before : List Parameters} {row : Row} (binding : Int × Value)
    (rest : List (Int × Value)) (s : Scope World CppSQLite3Statement)
    (now : Binding o id base before row (binding :: rest) s) :
    Ending (Binding o id base before row rest) (fun t => sqliteExecuted id t.world.log = before)
      (perform client (sqliteBind binding) s) := by
  obtain ⟨rfl,quiet,done,left,whole,here,sofar⟩ := now
  obtain ⟨kind,performs⟩ := sqliteBindApply client binding
  have silent (rc : Int) : sqliteExecuted id (⟨.bind id binding.1 binding.2.parameter,rc⟩ :: s.world.log) = before := quiet
  rw [performs,bindAsApply client held]
  dsimp only
  split
  · exact silent _
  · rename_i fine
    cases left with
    | nil => cases here
    | cons value left =>
      cases here
      refine ⟨rfl,silent _,done ++ [value],left,?_,?_,?_⟩
      · rw [whole,List.append_assoc]
        rfl
      · rw [List.length_append]
        rfl
      · rw [rowOverSnoc,← sofar]
        have takes : settled (client.bind s.world.log id (done.length + 1) value.parameter) value.parameter =
            some (stored value.parameter) := if_pos (not_not.mp fine)
        exact (boundBind _ _ _).trans (congrArg _ takes)

/-- The statement is between two rows: whatever else is bound, a row covers its own parameters. -/
structure Rests (o : CppSQLite3Statement) (id n : Nat) (base : Parameters) (s : Scope World CppSQLite3Statement) : Prop where
  object : s.this = o
  parameters : ∀ row : Row, row.length = n → rowOver (bound id s.world.log) row = rowOver base row

theorem executeOne (client : Client) (opened : o.mpDB = some pDB) (held : o.mpStmt = some id) {s : Scope World CppSQLite3Statement}
    (object : s.this = o) :
    Ending (fun t => t.this = o ∧ bound id t.world.log = bound id s.world.log ∧
        sqliteExecuted id t.world.log = sqliteExecuted id s.world.log ++ [bound id s.world.log])
      (fun t => sqliteExecuted id t.world.log = sqliteExecuted id s.world.log) (perform client .execDML s) := by
  subst object
  simp only [perform,bindApply,execDMLApply client opened held]
  by_cases done : (advance client s.world.log id (s.world.stmts id)).1 = SQLITE_DONE
  · rw [if_pos done]
    refine ⟨rfl,rfl,?_⟩
    have entry : (s.world.stepped client id).log = ⟨.step (some id),SQLITE_DONE⟩ :: s.world.log := by
      rw [← done]
      rfl
    have aside : sqliteExecuted id ((s.world.stepped client id).push ⟨.changes pDB,SQLITE_OK⟩ |>.restarted id).log =
        sqliteExecuted id (s.world.stepped client id).log := rfl
    refine aside.trans ?_
    rw [entry]
    exact if_pos rfl
  · rw [if_neg done]
    have entry : (s.world.stepped client id).log =
        ⟨.step (some id),(advance client s.world.log id (s.world.stmts id)).1⟩ :: s.world.log := rfl
    have aside : sqliteExecuted id (s.world.stepped client id).log = sqliteExecuted id s.world.log := by
      rw [entry]
      exact if_neg fun same => done (congrArg Entry.rc same)
    rw [throwErrmsgApply]
    exact aside

theorem insertOne (client : Client) (opened : o.mpDB = some pDB) (held : o.mpStmt = some id) (n : Nat) :
    Records (insert (perform client) sqliteBind .execDML) (Rests o id n base) (fun row => row.length = n)
      (fun s => sqliteExecuted id s.world.log) (rowOver base) := by
  refine ⟨fun s row rests long => ?_⟩
  have start : Binding o id (bound id s.world.log) (sqliteExecuted id s.world.log) row (numberedFrom 1 row) s :=
    ⟨rests.object,rfl,[],row,rfl,rfl,(rowOverNil _).symm⟩
  refine endingBind (forEachAlong (bindOne held) start) fun t ⟨object,quiet,done,left,whole,here,now⟩ => ?_
  have all : left = [] := by
    cases left with
    | nil => rfl
    | cons value rest => cases here
  subst all
  rw [List.append_nil] at whole
  subst whole
  rw [rests.parameters row long] at now
  have ends := executeOne client opened held object
  rw [quiet,now] at ends
  cases result : perform client .execDML t with
  | error e u =>
    rw [result] at ends
    exact ends
  | ok a u =>
    rw [result] at ends
    obtain ⟨same,kept,added⟩ := ends
    refine ⟨⟨same,fun other width => ?_⟩,added⟩
    rw [kept]
    exact rowOverSame base (long.trans width.symm)

end Executing

/-- A batch through one SQLite statement that returns executed each row once, in order, with its
own values and no other row's; one that throws executed the rows before some row, and no other. -/
theorem sqliteBatchExact (client : Client) {s : Scope World CppSQLite3Statement} {id pDB n : Nat}
    (opened : s.this.mpDB = some pDB) (held : s.this.mpStmt = some id) (rows : List Row)
    (long : ∀ row ∈ rows, row.length = n) :
    Ending (fun t => sqliteExecuted id t.world.log =
        sqliteExecuted id s.world.log ++ rows.map (rowOver (bound id s.world.log)))
      (fun t => ∃ k, k < rows.length ∧ sqliteExecuted id t.world.log =
        sqliteExecuted id s.world.log ++ (rows.take k).map (rowOver (bound id s.world.log)))
      (sqliteBatch client rows s) := by
  have start : Rests s.this id n (bound id s.world.log) s := ⟨rfl,fun _ _ => rfl⟩
  have records := forEachRecords (insertOne client opened held n) start long
  unfold sqliteBatch batch
  cases result : forEach (insert (perform client) sqliteBind .execDML) rows s with
  | ok a t =>
    rw [result] at records
    exact records.2
  | error e t =>
    rw [result] at records
    exact records

/-- A statement of either database, freshly compiled, and two rows for it, the second one with a
double that is no number. -/
def sqliteCompiled : Scope World CppSQLite3Statement := ⟨.initial,⟨some 0,some 0⟩⟩

def twoRows : List Row := [[.double 0,.string (text "a")],[.double 0x7FF8000000000000,.string (text "b")]]

theorem sqliteBatchExactTwo : Ending
    (fun t => sqliteExecuted 0 t.world.log = sqliteExecuted 0 [] ++ twoRows.map (rowOver (bound 0 [])))
    (fun t => ∃ k, k < twoRows.length ∧
      sqliteExecuted 0 t.world.log = sqliteExecuted 0 [] ++ (twoRows.take k).map (rowOver (bound 0 [])))
    (sqliteBatch .obliging twoRows sqliteCompiled) :=
  sqliteBatchExact .obliging (s := sqliteCompiled) (n := 2) rfl rfl twoRows (by decide)

end SQLite

section MySQL
open MySQLClient CppMySQLStatement MySQLBinding
open MySQLProtocol (pushed stored performBind realBindHeld)

def mysqlBind : Int × Value → CppMySQLStatement.Request
  | (nParam,.string szValue) => .bindString nParam szValue
  | (nParam,.int nValue) => .bindInt nParam nValue
  | (nParam,.double dwValue) => .bindDouble nParam dwValue

def mysqlBatch (client : Client) : List Row → Op CppMySQLStatement Unit :=
  batch (perform client) mysqlBind .execDML

/-- What the library read of the parameters at each execution that succeeded, oldest first. -/
def mysqlExecuted (stmt : Nat) : History → List (List (Option BoundValue))
  | [] => []
  | e :: h => match e.call with
    | .stmtExecute id params =>
      if id = stmt ∧ e.reply.rc = 0 then mysqlExecuted stmt h ++ [params] else mysqlExecuted stmt h
    | _ => mysqlExecuted stmt h

def Value.asInt : Value → Option Int
  | .int nValue => some nValue
  | _ => none

def Value.asDouble : Value → Option UInt64
  | .double dwValue => some dwValue
  | _ => none

/-- The last value of a kind, or what was there before. -/
def lastOf {α : Type} (kind : Value → Option α) (start : α) (row : Row) : α := (row.filterMap kind).getLastD start

/-- The entry a value is kept as until execution. -/
def Value.entry : Value → MysqlBind
  | .string szValue => ⟨.string,.caller szValue,lengthThroughInt szValue.strlen⟩
  | .int _ => ⟨.long,.sNValue,4⟩
  | .double _ => ⟨.double,.sDwValue,8⟩

/-- What the library reads of a text bound with its length. -/
def throughInt (szValue : CString) : Option BoundValue :=
  if lengthThroughInt szValue.strlen ≤ szValue.strlen then
    some (.string (szValue.bytes.take (lengthThroughInt szValue.strlen)))
  else none

def seen (row : Row) : Value → Option BoundValue
  | .string szValue => throughInt szValue
  | .int _ => some (.long (lastOf Value.asInt 0 row))
  | .double _ => some (.double (lastOf Value.asDouble 0 row))

/-- What the library finds at the places the values of a row are kept, after all were bound. -/
def delivered (row : Row) : List (Option BoundValue) := row.map (seen row)

section Values
variable {row : Row}

theorem lastOfSnoc {α : Type} (kind : Value → Option α) (start : α) (row : Row) (value : Value) :
    lastOf kind start (row ++ [value]) = (kind value).getD (lastOf kind start row) := by
  unfold lastOf
  rw [List.filterMap_append]
  cases found : kind value with
  | none => simp [found]
  | some a => simp [found]

/-- The last one of a kind is one of the row's own, if it has any. -/
theorem lastOfOwn {α : Type} {kind : Value → Option α} {a : α} (own : a ∈ row.filterMap kind) (start : α) :
    lastOf kind start row ∈ row.filterMap kind ∧ ∀ other, lastOf kind start row = lastOf kind other row := by
  unfold lastOf
  cases found : row.filterMap kind with
  | nil =>
    rw [found] at own
    cases own
  | cons b rest =>
    rw [List.getLastD_cons]
    refine ⟨?_,fun other => by rw [List.getLastD_cons]⟩
    rw [← List.getLast_eq_getLastD (List.cons_ne_nil b rest)]
    exact List.getLast_mem _

theorem asIntIff (nValue : Int) : nValue ∈ row.filterMap Value.asInt ↔ .int nValue ∈ row := by
  rw [List.mem_filterMap]
  constructor
  · rintro ⟨value,inside,same⟩
    cases value with
    | int other => cases same; exact inside
    | _ => cases same
  · intro inside
    exact ⟨_,inside,rfl⟩

theorem asDoubleIff (dwValue : UInt64) : dwValue ∈ row.filterMap Value.asDouble ↔ .double dwValue ∈ row := by
  rw [List.mem_filterMap]
  constructor
  · rintro ⟨value,inside,same⟩
    cases value with
    | double other => cases same; exact inside
    | _ => cases same
  · intro inside
    exact ⟨_,inside,rfl⟩

/-- Read at execution, the entries of a row give what is delivered of it. -/
theorem readDelivered {w : World} {start : Int} {first : UInt64} (int : w.sNValue = lastOf Value.asInt start row)
    (double : w.sDwValue = lastOf Value.asDouble first row) : (row.map Value.entry).map (MysqlBind.read w) = delivered row := by
  rw [List.map_map,delivered,List.map_inj_left]
  intro value inside
  cases value with
  | string szValue =>
    rw [Function.comp_apply,Value.entry,readCaller,seen,throughInt]
  | int nValue =>
    change some (BoundValue.long w.sNValue) = some (.long (lastOf Value.asInt 0 row))
    rw [int,(lastOfOwn ((asIntIff nValue).mpr inside) start).2 0]
  | double dwValue =>
    change some (BoundValue.double w.sDwValue) = some (.double (lastOf Value.asDouble 0 row))
    rw [double,(lastOfOwn ((asDoubleIff dwValue).mpr inside) first).2 0]

theorem throughIntIff (szValue : CString) : throughInt szValue = some (.string szValue.bytes) ↔
    lengthThroughInt szValue.strlen = szValue.strlen := by
  unfold throughInt
  by_cases fits : lengthThroughInt szValue.strlen ≤ szValue.strlen
  · rw [if_pos fits,Option.some.injEq,BoundValue.string.injEq,List.take_eq_self_iff]
    exact ⟨Nat.le_antisymm fits,fun same => Nat.le_of_eq same.symm⟩
  · rw [if_neg fits]
    exact iff_of_false nofun fun same => fits (Nat.le_of_eq same)

end Values

section Executing
variable {client : Client} {stmt : MysqlStmt} {n : Nat}

/-- A compiled statement of n parameters with these entries pending. -/
structure Pends (stmt : MysqlStmt) (n : Nat) (entries : List MysqlBind) (o : CppMySQLStatement) : Prop where
  stmt : o.mpStmt = some stmt
  array : ∃ addr, o.mpBindArray = some ⟨addr,entries⟩
  index : o.mnBindIndex = entries.length
  state : STMT_COMPILED ≤ o.mState
  count : o.mnParamsCount = n

theorem pushedBind (nParam : Int) (value : Value) : pushed (mysqlBind (nParam,value)) = some (wrapInt nParam,value.entry) := by
  cases value <;> rfl

theorem storedBind (nParam : Int) (value : Value) (w : World) :
    let v := stored w (mysqlBind (nParam,value))
    v.log = w.log ∧ v.sNValue = value.asInt.getD w.sNValue ∧ v.sDwValue = value.asDouble.getD w.sDwValue := by
  cases value <;> exact ⟨rfl,rfl,rfl⟩

/-- Part of a row is bound, nothing was executed yet, and this much is left to bind. -/
def Collecting (stmt : MysqlStmt) (n : Nat) (w : World) (row : Row) (rest : List (Int × Value))
    (s : Scope World CppMySQLStatement) : Prop :=
  s.world.log = w.log ∧ ∃ done left, row = done ++ left ∧ rest = numberedFrom (done.length + 1) left ∧
    Pends stmt n (done.map Value.entry) s.this ∧ s.world.sNValue = lastOf Value.asInt w.sNValue done ∧
    s.world.sDwValue = lastOf Value.asDouble w.sDwValue done

theorem collectOne (client : Client) (few : n ≤ 1025) {w : World} {row : Row} (long : row.length = n) (binding : Int × Value)
    (rest : List (Int × Value)) (s : Scope World CppMySQLStatement) (now : Collecting stmt n w row (binding :: rest) s) :
    ∃ t, perform client (mysqlBind binding) s = .ok ⟨⟩ t ∧ Collecting stmt n w row rest t := by
  obtain ⟨log,done,left,whole,here,pends,int,double⟩ := now
  cases left with
  | nil => cases here
  | cons value left =>
    cases here
    have room : done.length < 1025 := by
      rw [whole,List.length_append,List.length_cons] at long
      omega
    have number : wrapInt ((done.length : Int) + 1) = done.length + 1 := wrapIntId (by omega) (by omega)
    have position : wrapInt (wrapInt ((done.length : Int) + 1) - 1) = done.length := by
      rw [number,Int.add_sub_cancel,wrapIntId (by omega) (by omega)]
    have index : s.this.mnBindIndex = done.length := by rw [pends.index,List.length_map]
    obtain ⟨addr,array⟩ := pends.array
    have binds : perform client (mysqlBind ((done.length : Int) + 1,value)) s = _ :=
      performBind (pushedBind (done.length + 1) value) s
    dsimp only at binds
    obtain ⟨quiet,stores,storesDouble⟩ := storedBind (done.length + 1) value s.world
    rw [position] at binds
    have returns := (realBindHeld (s := ⟨stored s.world (mysqlBind ((done.length : Int) + 1,value)),s.this⟩) array
      done.length value.entry).1 ⟨index,by omega⟩
    refine ⟨_,binds.trans returns,quiet.trans log,done ++ [value],left,?_,?_,?_,?_,?_⟩
    · rw [whole,List.append_assoc]
      rfl
    · rw [List.length_append]
      rfl
    · have next : wrapInt (s.this.mnBindIndex + 1) = done.length + 1 := by rw [index,number]
      refine ⟨pends.stmt,⟨addr,?_⟩,?_,pends.state,pends.count⟩
      · rw [List.map_append]
        rfl
      · dsimp only
        rw [next,List.length_map,List.length_append]
        rfl
    · rw [lastOfSnoc,← int]
      exact stores
    · rw [lastOfSnoc,← double]
      exact storesDouble

theorem executeRow (client : Client) (any : 0 < n) (few : n ≤ 1025) {row : Row} (long : row.length = n) {w : World}
    {s : Scope World CppMySQLStatement} (pends : Pends stmt n (row.map Value.entry) s.this)
    (int : s.world.sNValue = lastOf Value.asInt w.sNValue row)
    (double : s.world.sDwValue = lastOf Value.asDouble w.sDwValue row) :
    Ending (fun t => Pends stmt n [] t.this ∧
        mysqlExecuted stmt.id t.world.log = mysqlExecuted stmt.id s.world.log ++ [delivered row])
      (fun t => mysqlExecuted stmt.id t.world.log = mysqlExecuted stmt.id s.world.log) (perform client .execDML s) := by
  obtain ⟨addr,array⟩ := pends.array
  have executes := executeApply client s
  have sized : wrapInt ((row.map Value.entry).length : Int) = n := by
    rw [List.length_map,long,wrapIntId (by omega) (by omega)]
  have filled : row.map Value.entry ≠ [] := by
    intro empty
    rw [List.map_eq_nil_iff] at empty
    subst empty
    exact absurd long (Nat.ne_of_lt any)
  simp only [pends.stmt,array,if_neg (Int.not_lt.mpr pends.state),pends.count,sized,ne_eq,not_true_eq_false,if_false,
    filled] at executes
  have reads : (row.map Value.entry).map (MysqlBind.read (sent client s.world stmt.mysql (.stmtBindParam stmt.id))) =
      delivered row := readDelivered int double
  rw [reads] at executes
  by_cases bound : (replied client s.world stmt.mysql (.stmtBindParam stmt.id)).rc = 0
  · rw [if_neg (not_not.mpr bound)] at executes
    by_cases ran : (replied client (sent client s.world stmt.mysql (.stmtBindParam stmt.id)) stmt.mysql
        (.stmtExecute stmt.id (delivered row))).rc = 0
    · rw [if_neg (not_not.mpr ran)] at executes
      simp only [perform,bindApply,execDMLApply,executes,pureApply]
      have compiled : STMT_COMPILED ≤ STMT_EXECUTED := by decide
      exact ⟨⟨rfl,⟨addr,rfl⟩,rfl,compiled,rfl⟩,if_pos ⟨rfl,ran⟩⟩
    · rw [if_pos ran] at executes
      simp only [perform,bindApply,execDMLApply,executes]
      exact if_neg fun both => ran both.2
  · rw [if_pos bound] at executes
    simp only [perform,bindApply,execDMLApply,executes]
    rfl

theorem insertRow (client : Client) (any : 0 < n) (few : n ≤ 1025) :
    Records (insert (perform client) mysqlBind .execDML) (fun s => Pends stmt n [] s.this) (fun row => row.length = n)
      (fun s => mysqlExecuted stmt.id s.world.log) delivered := by
  refine ⟨fun s row pends long => ?_⟩
  have start : Collecting stmt n s.world row (numberedFrom 1 row) s := ⟨rfl,[],row,rfl,rfl,pends,rfl,rfl⟩
  have binds : Ending (Collecting stmt n s.world row [])
      (fun t => mysqlExecuted stmt.id t.world.log = mysqlExecuted stmt.id s.world.log)
      (forEach (fun binding => perform client (mysqlBind binding)) (numberedFrom 1 row) s) := by
    refine forEachAlong (fun binding rest t now => ?_) start
    obtain ⟨u,returns,after⟩ := collectOne client few long binding rest t now
    rw [returns]
    exact after
  refine endingBind binds fun t ⟨log,done,left,whole,here,now,int,double⟩ => ?_
  have all : left = [] := by
    cases left with
    | nil => rfl
    | cons value rest => cases here
  subst all
  rw [List.append_nil] at whole
  subst whole
  have ends := executeRow client any few long now int double
  rw [log] at ends
  exact ends

end Executing

/-- A batch through one MySQL statement executes the rows it returns for, or those before the one
it throws at, each once and in order, with whatever is delivered of it. -/
theorem mysqlBatchDelivers (client : Client) {s : Scope World CppMySQLStatement} {stmt : MysqlStmt} {n : Nat}
    (any : 0 < n) (few : n ≤ 1025) (pends : Pends stmt n [] s.this) (rows : List Row)
    (long : ∀ row ∈ rows, row.length = n) :
    Ending (fun t => mysqlExecuted stmt.id t.world.log = mysqlExecuted stmt.id s.world.log ++ rows.map delivered)
      (fun t => ∃ k, k < rows.length ∧ mysqlExecuted stmt.id t.world.log =
        mysqlExecuted stmt.id s.world.log ++ (rows.take k).map delivered)
      (mysqlBatch client rows s) := by
  have records := forEachRecords (insertRow client any few) pends long
  unfold mysqlBatch batch
  cases result : forEach (insert (perform client) mysqlBind .execDML) rows s with
  | ok a t =>
    rw [result] at records
    exact records.2
  | error e t =>
    rw [result] at records
    exact records

end MySQL

section Both
open SQLiteClient (Parameter)
open SQLiteBindings (Parameters stored isNaN)
open MySQLClient (BoundValue MysqlStmt)

/-- The value of a parameter, as MySQL has it. -/
def portable : Parameter → Option BoundValue
  | .text szValue => some (.string szValue.bytes)
  | .int nValue => some (.long nValue)
  | .double bits => some (.double bits)
  | .blob _ | .null => none

/-- The first n parameters in order. -/
def columns (n : Nat) (p : Parameters) : List (Option BoundValue) := (List.range n).map fun i : Nat => portable (p (i + 1))

/-- What SQLite executes for a value, as MySQL has it. -/
def Value.kept (value : Value) : Option BoundValue := portable (stored value.parameter)

theorem keptDouble (dwValue : UInt64) :
    (Value.double dwValue).kept = if isNaN dwValue then none else some (.double dwValue) := by
  rw [Value.kept,Value.parameter,stored]
  split <;> rfl

theorem columnsRow (base : Parameters) {row : Row} {n : Nat} (long : row.length = n) :
    columns n (rowOver base row) = row.map Value.kept := by
  subst long
  refine List.ext_getElem? fun i => ?_
  rw [columns,List.getElem?_map,List.getElem?_map]
  rcases Nat.lt_or_ge i row.length with inside | past
  · have low : (1 : Int) ≤ (i : Int) + 1 := by omega
    have here : ((i : Int) + 1 - 1).toNat = i := by omega
    rw [List.getElem?_range inside,Option.map_some,rowOver,if_pos low,here,List.getElem?_eq_getElem inside]
    rfl
  · rw [List.getElem?_eq_none (by simpa using past),List.getElem?_eq_none past]
    rfl

/-- The integers of a row are one, and so are its doubles, none of which is a NaN, and the
lengths of its texts survive the passage through an int. -/
structure Intact (row : Row) : Prop where
  int : ∀ nValue other, .int nValue ∈ row → .int other ∈ row → nValue = other
  double : ∀ dwValue other, .double dwValue ∈ row → .double other ∈ row → dwValue = other
  number : ∀ dwValue, .double dwValue ∈ row → isNaN dwValue = false
  string : ∀ szValue, .string szValue ∈ row → lengthThroughInt szValue.strlen = szValue.strlen

theorem deliveredIff {row : Row} : delivered row = row.map Value.kept ↔ Intact row := by
  rw [delivered,List.map_inj_left]
  constructor
  · intro same
    have int (nValue : Int) (inside : .int nValue ∈ row) : lastOf Value.asInt 0 row = nValue := by
      have told : some (BoundValue.long (lastOf Value.asInt 0 row)) = some (.long nValue) := same _ inside
      cases told
      rfl
    have double (dwValue : UInt64) (inside : .double dwValue ∈ row) :
        isNaN dwValue = false ∧ lastOf Value.asDouble 0 row = dwValue := by
      have told := same _ inside
      rw [keptDouble,seen] at told
      split at told
      · cases told
      · rename_i number
        cases told
        exact ⟨(Bool.not_eq_true _).mp number,rfl⟩
    refine ⟨fun nValue other here there => ?_,fun dwValue other here there => ?_,fun dwValue inside => ?_,
      fun szValue inside => ?_⟩
    · exact (int nValue here).symm.trans (int other there)
    · exact (double dwValue here).2.symm.trans (double other there).2
    · exact (double dwValue inside).1
    · have told := same _ inside
      rw [seen] at told
      exact (throughIntIff szValue).mp told
  · intro intact value inside
    cases value with
    | string szValue => exact (throughIntIff szValue).mpr (intact.string szValue inside)
    | int nValue =>
      have own := (asIntIff _).mp (lastOfOwn ((asIntIff nValue).mpr inside) 0).1
      rw [seen,intact.int _ nValue own inside]
      rfl
    | double dwValue =>
      have own := (asDoubleIff _).mp (lastOfOwn ((asDoubleIff dwValue).mpr inside) 0).1
      rw [seen,intact.double _ dwValue own inside,keptDouble,intact.number dwValue inside]
      rfl

/-- One batch through a prepared statement of either database, when both of them return: the two
databases executed the same rows exactly when each row is intact. -/
theorem batchesAgreeIff (mysql : MySQLClient.Client) (sqlite : SQLiteClient.Client) {n : Nat} {stmt : MysqlStmt}
    {id pDB : Nat} {s u : Scope MySQLClient.World CppMySQLStatement} {t v : Scope SQLiteClient.World CppSQLite3Statement}
    (any : 0 < n) (few : n ≤ 1025) (pends : Pends stmt n [] s.this) (opened : t.this.mpDB = some pDB)
    (held : t.this.mpStmt = some id) (rows : List Row) (long : ∀ row ∈ rows, row.length = n)
    (first : mysqlBatch mysql rows s = .ok ⟨⟩ u) (second : sqliteBatch sqlite rows t = .ok ⟨⟩ v) :
    (∃ ms qs, mysqlExecuted stmt.id u.world.log = mysqlExecuted stmt.id s.world.log ++ ms ∧
        sqliteExecuted id v.world.log = sqliteExecuted id t.world.log ++ qs ∧ ms = qs.map (columns n)) ↔
      ∀ row ∈ rows, Intact row := by
  have delivers := mysqlBatchDelivers mysql any few pends rows long
  have exact := sqliteBatchExact sqlite opened held rows long
  rw [first] at delivers
  rw [second] at exact
  have told : (rows.map (rowOver (SQLiteBindings.bound id t.world.log))).map (columns n) =
      rows.map fun row => row.map Value.kept := by
    rw [List.map_map,List.map_inj_left]
    exact fun row inside => columnsRow _ (long row inside)
  have each : rows.map delivered = rows.map (fun row => row.map Value.kept) ↔ ∀ row ∈ rows, Intact row := by
    rw [List.map_inj_left]
    exact forall₂_congr fun row _ => deliveredIff
  rw [← each,← told]
  constructor
  · rintro ⟨ms,qs,delivered,executed,same⟩
    cases List.append_cancel_left (delivers.symm.trans delivered)
    cases List.append_cancel_left (exact.symm.trans executed)
    exact same
  · intro same
    exact ⟨_,_,delivers,exact,same⟩

def mysqlCompiled : Scope MySQLClient.World CppMySQLStatement :=
  ⟨.initial,⟨some ⟨0,0⟩,STMT_COMPILED,2,some ⟨0,[]⟩,0⟩⟩

theorem compiledPends : Pends ⟨0,0⟩ 2 [] mysqlCompiled.this := ⟨rfl,⟨0,rfl⟩,rfl,by decide,rfl⟩

theorem batchesAgreeIffTwo : ∃ u v, mysqlBatch .obliging twoRows mysqlCompiled = .ok ⟨⟩ u ∧
    sqliteBatch .obliging twoRows sqliteCompiled = .ok ⟨⟩ v ∧
    ((∃ ms qs, mysqlExecuted 0 u.world.log = mysqlExecuted 0 [] ++ ms ∧
        sqliteExecuted 0 v.world.log = sqliteExecuted 0 [] ++ qs ∧ ms = qs.map (columns 2)) ↔
      ∀ row ∈ twoRows, Intact row) :=
  ⟨_,_,rfl,rfl,batchesAgreeIff .obliging .obliging (s := mysqlCompiled) (t := sqliteCompiled) (by decide) (by decide) compiledPends
    rfl rfl twoRows (by decide) rfl rfl⟩

end Both
end DatabaseLayer.Batches
