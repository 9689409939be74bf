import DatabaseLayer.MySQLClient

/-! CppMySQLQuery: a cursor over one stored result, handed from object to object. -/
namespace DatabaseLayer
open Platform MySQLClient Foundation.Program

structure CppMySQLQuery where
  mpRES : Option Nat
  mRow : Option MysqlRow
  mNumRows : Nat
  mNumFields : Nat
  deriving DecidableEq, Repr

namespace CppMySQLQuery

def new : CppMySQLQuery := ⟨none,none,0,0⟩

/-- The copy constructor: the new object and what is left of the source. -/
def copy (rQuery : CppMySQLQuery) : CppMySQLQuery × CppMySQLQuery :=
  (rQuery,{rQuery with mpRES := none})

/-- Positions the cursor on the first row of a result the object takes over. -/
def takeResult (res : Nat) : Op CppMySQLQuery Unit := do
  mysqlDataSeek res 0
  let row ← mysqlFetchRow res
  onThis (fun q => {q with mRow := row})
  let rows ← mysqlNumRows res
  onThis (fun q => {q with mNumRows := wrapULong rows})
  let fields ← mysqlNumFields res
  onThis (fun q => {q with mNumFields := fields})

def clear : Op CppMySQLQuery Unit := do
  match (← get).this.mpRES with
  | some res =>
    mysqlFreeResult res
    onThis (fun q => {q with mpRES := none})
  | none => return ()

/-- `operator=` from another object; returns what is left of that one. -/
def assign (rQuery : CppMySQLQuery) : Op CppMySQLQuery CppMySQLQuery := do
  clear
  onThis (fun q => {q with mpRES := rQuery.mpRES})
  match rQuery.mpRES with
  | some res => takeResult res
  | none => pure ()
  return {rQuery with mpRES := none}

/-- CppMySQLQuery(MYSQL_RES*) -/
def ofRES {O : Type} (pRES : Option Nat) : Op O CppMySQLQuery :=
  construct new do
    match pRES with
    | some res =>
      onThis (fun q => {q with mpRES := some res})
      takeResult res
    | none => return ()

def destroy (s : Scope World CppMySQLQuery) : World := (left (clear s)).world

def checkRES : Op CppMySQLQuery Unit := do
  if (← get).this.mpRES = none then
    raise CPPMYSQL_QUERY_ERROR (text "MYSQL_RES not inited")

def numFields : Op CppMySQLQuery Int := do
  return wrapInt (← get).this.mNumFields

def numRows : Op CppMySQLQuery Nat := do
  return (← get).this.mNumRows

/-- `m_Row[nField]`, defined for a row and a column inside it only. -/
def rowAt (nField : Int) : Op CppMySQLQuery Cell := do
  match (← get).this.mRow with
  | none => undefinedBehaviour
  | some row =>
    if nField < 0 then undefinedBehaviour
    else match row.cells[nField.toNat]? with
      | some cell => return cell
      | none => undefinedBehaviour

def fieldDataIsNull (nField : Int) : Op CppMySQLQuery Bool := do
  return (← rowAt nField).isNone

-- The test is a bitwise and: both sides are evaluated, also without a row.
def fieldValue (nField : Int) : Op CppMySQLQuery CString := do
  let present := (← get).this.mRow.isSome
  let isNull ← fieldDataIsNull nField
  if present && !isNull then
    match ← rowAt nField with
    | some value => return value
    | none => undefinedBehaviour
  else
    raise CPPMYSQL_QUERY_ERROR (text "get fieldValue failed")

def getStringField (nField : Int) (szNullValue : CString) : Op CppMySQLQuery CString := do
  if !(← fieldDataIsNull nField) then
    fieldValue nField
  else
    return szNullValue

def getIntField (nField : Int) (nNullValue : Int) : Op CppMySQLQuery Int := do
  if !(← fieldDataIsNull nField) then
    return atoi (← getStringField nField default)
  else
    return nNullValue

/-- `getStringField` with any pointer for the default, NULL among them. -/
def getStringFieldOr (nField : Int) (szNullValue : Option CString) : Op CppMySQLQuery (Option CString) := do
  if !(← fieldDataIsNull nField) then
    return some (← fieldValue nField)
  else
    return szNullValue

/-- A double is its bits, and `atof` whatever the C library makes of a text. -/
def getDoubleField (atof : CString → UInt64) (nField : Int) (fNullValue : UInt64) : Op CppMySQLQuery UInt64 := do
  if !(← fieldDataIsNull nField) then
    return atof (← getStringField nField default)
  else
    return fNullValue

/-- `mysql_field_seek`: the fields from there on. Each `mysql_fetch_field` of the class
follows a seek in the same call, so the field cursor is handed along that call. -/
def mysqlFieldSeek (res offset : Nat) : Op CppMySQLQuery (List MysqlField) := do
  return ((← get).world.results res).data.fields.drop offset

/-- `while (nField < m_numFields)`, n places to go. -/
def fieldIndexFrom (szField : CString) (nField : Nat) : Nat → List MysqlField → Op CppMySQLQuery (Option Nat)
  | 0, _ => return none
  | n + 1, [] => fieldIndexFrom szField (nField + 1) n []
  | n + 1, mField :: cursor => match mField.name with
    | none => undefinedBehaviour
    | some name => if name = szField then return some nField else fieldIndexFrom szField (nField + 1) n cursor

/-- The result of an object that checkRES let pass. -/
def handle : Op CppMySQLQuery Nat := do
  match (← get).this.mpRES with
  | some res => return res
  | none => undefinedBehaviour

def fieldIndex (szField : Option CString) : Op CppMySQLQuery Int := do
  checkRES
  let found ← match szField with
    | some name => fieldIndexFrom name 0 (← get).this.mNumFields (← mysqlFieldSeek (← handle) 0)
    | none => pure none
  match found with
  | some nField => return wrapInt nField
  | none => raise CPPMYSQL_QUERY_ERROR (text "Invalid field name requested")

-- The accessors by name leave their second parameter unnamed, so the default is always
-- that of the accessor by index.
def getIntFieldNamed (szField : Option CString) (_nNullValue : Int) : Op CppMySQLQuery Int := do
  getIntField (← fieldIndex szField) 0

def getDoubleFieldNamed (atof : CString → UInt64) (szField : Option CString) (_fNullValue : UInt64) :
    Op CppMySQLQuery UInt64 := do
  getDoubleField atof (← fieldIndex szField) 0

def getStringFieldNamed (szField _szNullValue : Option CString) : Op CppMySQLQuery (Option CString) := do
  getStringFieldOr (← fieldIndex szField) (some default)

def eof : Op CppMySQLQuery Bool := do
  return (← get).this.mRow = none

def nextRow : Op CppMySQLQuery Unit := do
  checkRES
  match (← get).this.mpRES with
  | some res =>
    let row ← mysqlFetchRow res
    onThis (fun q => {q with mRow := row})
  | none => undefinedBehaviour

-- `offerset < 0` in the source never holds of an unsigned argument.
def seekRow (offerset : Nat) : Op CppMySQLQuery Nat := do
  checkRES
  let q := (← get).this
  let offerset := if offerset ≥ q.mNumRows then wrapULong ((q.mNumRows : Int) - 1) else offerset
  match q.mpRES with
  | some res =>
    mysqlDataSeek res offerset
    let row ← mysqlFetchRow res
    onThis (fun q => {q with mRow := row})
    return offerset
  | none => undefinedBehaviour

section Specs
variable {O : Type}

/-- The object that has taken over a result of this world. -/
def holding (w : World) (res : Nat) : CppMySQLQuery :=
  ⟨some res,w.fetched res 0,(w.results res).data.rows.length,(w.results res).data.fields.length⟩

theorem takeResultApply (res : Nat) (s : Scope World CppMySQLQuery) :
    takeResult res s = .ok ⟨⟩ ⟨s.world.seekRes res 0,
      {holding s.world res with mpRES := s.this.mpRES}⟩ := by
  have rows : wrapULong (s.world.results res).data.rows.length = (s.world.results res).data.rows.length :=
    wrapULongId (s.world.results res).data.rowCount
  have head := seekFetchApply res 0 s
  rw [bindApply] at head
  simp only [dataSeekApply] at head
  simp only [takeResult,bindApply,dataSeekApply,head,onThisApply,numRowsApply,numFieldsApply,holding,
    World.seekRes,setResSelf,rows]

theorem clearApply (s : Scope World CppMySQLQuery) :
    clear s = match s.this.mpRES with
      | some res => .ok ⟨⟩ ⟨s.world.push ⟨none,.freeResult res,success⟩,{s.this with mpRES := none}⟩
      | none => .ok ⟨⟩ s := by
  simp only [clear,bindApply,getApply]
  cases s.this.mpRES <;> rfl

theorem ofRESApply (pRES : Option Nat) (s : Scope World O) :
    ofRES pRES s = match pRES with
      | some res => .ok (holding s.world res) ⟨s.world.seekRes res 0,s.this⟩
      | none => .ok new s := by
  cases pRES with
  | none => rfl
  | some res => simp only [ofRES,construct,bindApply,onThisApply,takeResultApply,holding]

/-- The world after the object has let go of its result. -/
def released (s : Scope World CppMySQLQuery) : World :=
  match s.this.mpRES with
  | some res => s.world.push ⟨none,.freeResult res,success⟩
  | none => s.world

theorem clearLeft (s : Scope World CppMySQLQuery) :
    clear s = .ok ⟨⟩ ⟨released s,{s.this with mpRES := none}⟩ := by
  rw [clearApply,released]
  cases held : s.this.mpRES with
  | some res => rfl
  | none => simp only [← held]

theorem assignApply (rQuery : CppMySQLQuery) (s : Scope World CppMySQLQuery) :
    assign rQuery s = .ok {rQuery with mpRES := none} (match rQuery.mpRES with
      | some res => ⟨(released s).seekRes res 0,holding (released s) res⟩
      | none => ⟨released s,{s.this with mpRES := none}⟩) := by
  simp only [assign,bindApply,clearLeft,onThisApply]
  cases rQuery.mpRES with
  | none => rfl
  | some res => simp only [bindApply,takeResultApply,holding,pureApply]

theorem rowAtApply {s : Scope World CppMySQLQuery} {row : MysqlRow} {c : Nat} {cell : Cell}
    (current : s.this.mRow = some row) (inside : row.cells[c]? = some cell) : rowAt c s = .ok cell s := by
  have low : ¬ (c : Int) < 0 := by omega
  simp only [rowAt,bindApply,getApply,current,if_neg low,Int.toNat_natCast,inside,pureApply]

theorem fieldDataIsNullApply {s : Scope World CppMySQLQuery} {row : MysqlRow} {c : Nat} {cell : Cell}
    (current : s.this.mRow = some row) (inside : row.cells[c]? = some cell) :
    fieldDataIsNull c s = .ok cell.isNone s := by
  simp only [fieldDataIsNull,bindApply,rowAtApply current inside,pureApply]

theorem getStringFieldApply {s : Scope World CppMySQLQuery} {row : MysqlRow} {c : Nat} {cell : Cell}
    (current : s.this.mRow = some row) (inside : row.cells[c]? = some cell) (szNullValue : CString) :
    getStringField c szNullValue s = .ok (cell.getD szNullValue) s := by
  cases cell with
  | none => simp [getStringField,bindApply,fieldDataIsNullApply current inside]
  | some value =>
    simp [getStringField,fieldValue,bindApply,fieldDataIsNullApply current inside,
      rowAtApply current inside,current]

def uninited {α σ : Type} (s : σ) : EStateM.Result Stop σ α :=
  .error (.thrown (exception CPPMYSQL_QUERY_ERROR (some (text "MYSQL_RES not inited")))) s

/-- The row seekRow settles on. -/
def clamped (offerset mNumRows : Nat) : Nat :=
  if offerset ≥ mNumRows then wrapULong ((mNumRows : Int) - 1) else offerset

theorem seekRowApply (offerset : Nat) (s : Scope World CppMySQLQuery) :
    seekRow offerset s = match s.this.mpRES with
      | none => uninited s
      | some res =>
        let row := clamped offerset s.this.mNumRows
        .ok row ⟨s.world.seekRes res row,{s.this with mRow := s.world.fetched res row}⟩ := by
  simp only [seekRow,checkRES,bindApply,getApply,iteApply,raiseApply,pureApply]
  cases held : s.this.mpRES with
  | none => rfl
  | some res =>
    have sought := seekFetchApply res (clamped offerset s.this.mNumRows) s
    rw [bindApply] at sought
    simp only [dataSeekApply] at sought
    simp only [reduceCtorEq,if_false,held,bindApply,dataSeekApply]
    unfold clamped at sought ⊢
    simp only [sought,onThisApply,pureApply,held]

theorem nextRowApply (s : Scope World CppMySQLQuery) :
    nextRow s = match s.this.mpRES with
      | none => uninited s
      | some res => match (s.world.results res).dataCursor with
        | [] => .ok ⟨⟩ ⟨s.world,{s.this with mRow := none}⟩
        | cells :: rest => .ok ⟨⟩ ⟨s.world.setRes res {s.world.results res with dataCursor := rest},
            {s.this with mRow := some ⟨res,cells⟩}⟩ := by
  simp only [nextRow,checkRES,bindApply,getApply,iteApply,raiseApply,pureApply]
  cases held : s.this.mpRES with
  | none => rfl
  | some res =>
    simp only [reduceCtorEq,if_false,held,bindApply,fetchRowApply]
    cases (s.world.results res).dataCursor <;> simp only [onThisApply,held]

theorem seekRowLeft {s : Scope World CppMySQLQuery} {res r : Nat} {row : List Cell}
    (held : s.this.mpRES = some res) (below : r < s.this.mNumRows)
    (sought : (s.world.results res).data.rows[r]? = some row) :
    (left (seekRow r s)).this.mRow = some ⟨res,row⟩ := by
  have clamp : clamped r s.this.mNumRows = r := if_neg (Nat.not_le.mpr below)
  rw [seekRowApply,held]
  simp [clamp,World.fetched,List.head?_drop,sought]

theorem fieldIndexFromApply {s : Scope World CppMySQLQuery} {szField : CString} {names : List CString} (nField : Nat) {cursor : List MysqlField}
    (named : cursor.map MysqlField.name = names.map some) : fieldIndexFrom szField nField names.length cursor s =
      .ok ((names.findIdx? (· = szField)).map (nField + ·)) s := by
  induction names generalizing nField cursor with
  | nil => rfl
  | cons name names ih =>
    cases cursor with
    | nil => cases named
    | cons mField cursor =>
      simp only [List.map_cons,List.cons.injEq] at named
      simp only [List.length_cons,fieldIndexFrom,named.1,List.findIdx?_cons]
      by_cases same : name = szField
      · simp [same]
      · simp only [iteApply,ih (nField + 1) named.2,same,decide_false,Bool.false_eq_true,if_false]
        cases names.findIdx? (· = szField) with
        | none => rfl
        | some n =>
          simp
          omega

theorem fieldIndexApply {s : Scope World CppMySQLQuery} {szField : CString} {res : Nat} {names : List CString} (held : s.this.mpRES = some res)
    (count : s.this.mNumFields = names.length)
    (named : (s.world.results res).data.fields.map MysqlField.name = names.map some) :
    fieldIndex (some szField) s = match names.findIdx? (· = szField) with
      | some nField => .ok (wrapInt nField) s
      | none => .error (.thrown (exception CPPMYSQL_QUERY_ERROR (some (text "Invalid field name requested")))) s := by
  have loop : fieldIndexFrom szField 0 s.this.mNumFields ((s.world.results res).data.fields.drop 0) s =
      .ok ((names.findIdx? (· = szField)).map (0 + ·)) s := by
    rw [count,List.drop_zero]
    exact fieldIndexFromApply 0 named
  simp only [fieldIndex,checkRES,bindApply,getApply,iteApply,raiseApply,pureApply,held,reduceCtorEq,if_false,
    handle,mysqlFieldSeek,loop]
  cases names.findIdx? (· = szField) with
  | none => rfl
  | some n => simp

end Specs

end CppMySQLQuery
end DatabaseLayer
