import DatabaseLayer.SQLiteClient

/-! CppSQLite3Query: a running statement, stepped row by row. A connection of `none` is a
pointer no constructor has set. -/
namespace DatabaseLayer
open Platform SQLiteClient Foundation.Program

structure CppSQLite3Query where
  mpDB : Option Nat
  mpStmt : Option Nat
  mbEof : Bool
  mnFieldsCount : Int
  deriving DecidableEq, Repr

namespace CppSQLite3Query

def new : CppSQLite3Query := ⟨none,none,true,0⟩

/-- The copy constructor: the new object and what is left of the source. -/
def copy (rQuery : CppSQLite3Query) : CppSQLite3Query × CppSQLite3Query :=
  ({rQuery with mpDB := none},{rQuery with mpStmt := none})

/-- CppSQLite3Query(sqlite3*, sqlite3_stmt*, bool) of a statement that is not NULL. Where a
temporary is returned it is built in place, and no other constructor runs for it. -/
def ofStmt {O : Type} (pDB pStmt : Nat) (bEof : Bool) : Op O CppSQLite3Query := do
  let count ← sqlite3ColumnCount pStmt
  return ⟨some pDB,some pStmt,bEof,count⟩

section
variable (client : Client)

/-- `throw CppSQLite3Exception(nRet, sqlite3_errmsg(m_pDB), true)` -/
def throwErrmsg {α : Type} (nRet : Int) : Op CppSQLite3Query α := do
  match (← get).this.mpDB with
  | some conn =>
    let message ← sqlite3Errmsg client (some conn)
    raise nRet message true
  | none => sqlite3ErrmsgUnset

def clear : Op CppSQLite3Query Unit := do
  match (← get).this.mpStmt with
  | some pStmt =>
    let nRet ← sqlite3Finalize (some pStmt)
    onThis (fun q => {q with mpStmt := none})
    if nRet ≠ SQLITE_OK then
      throwErrmsg client nRet
  | none => return ()

/-- `operator=` from another object; returns what is left of that one. -/
def assign (rQuery : CppSQLite3Query) : Op CppSQLite3Query CppSQLite3Query := do
  swallow (clear client)
  onThis (fun q => {rQuery with mpDB := q.mpDB})
  return {rQuery with mpStmt := none}

def destroy (s : Scope World CppSQLite3Query) : World := (left (clear client s)).world

def checkStmt : Op CppSQLite3Query Unit := do
  if (← get).this.mpStmt = none then
    raise CPPQLITE3L_QUERY_ERROR (.literal (text "Null stmt pointer")) false

def numFields : Op CppSQLite3Query Int := do
  checkStmt
  return (← get).this.mnFieldsCount

/-- The statement of an object that checkStmt let pass. -/
def handle : Op CppSQLite3Query Nat := do
  match (← get).this.mpStmt with
  | some pStmt => return pStmt
  | none => undefinedBehaviour

/-- `for (; nField < m_nFieldsCount; nField++)`, n places to go. -/
def fieldIndexFrom (pStmt : Nat) (szField : CString) (nField : Int) : Nat → Op CppSQLite3Query (Option Int)
  | 0 => return none
  | n + 1 => do
    match ← sqlite3ColumnName pStmt nField with
    | none => undefinedBehaviour
    | some szTemp => if szField = szTemp then return some nField else fieldIndexFrom pStmt szField (nField + 1) n

def fieldIndex (szField : Option CString) : Op CppSQLite3Query Int := do
  checkStmt
  let found ← match szField with
    | some name => fieldIndexFrom (← handle) name 0 (← get).this.mnFieldsCount.toNat
    | none => pure none
  match found with
  | some nField => return nField
  | none => raise CPPQLITE3L_QUERY_ERROR (.literal (text "Invalid field name requested")) false

def fieldName (nCol : Int) : Op CppSQLite3Query (Option CString) := do
  checkStmt
  if nCol < 0 ∨ nCol > (← get).this.mnFieldsCount - 1 then
    raise CPPQLITE3L_QUERY_ERROR (.literal (text "Invalid field index requested")) false
  else
    sqlite3ColumnName (← handle) nCol

def fieldDataType (nCol : Int) : Op CppSQLite3Query Int := do
  checkStmt
  if nCol < 0 ∨ nCol > (← get).this.mnFieldsCount - 1 then
    raise CPPQLITE3L_QUERY_ERROR (.literal (text "Invalid field index requested")) false
  else
    return (← sqlite3Column (← handle) nCol).type

def fieldValue (nField : Int) : Op CppSQLite3Query (Option CString) := do
  checkStmt
  return (← sqlite3Column (← handle) nField).text

def fieldDataIsNull (nField : Int) : Op CppSQLite3Query Bool := do
  return (← fieldDataType nField) = SQLITE_NULL

def getStringField (nField : Int) (szNullValue : Option CString) : Op CppSQLite3Query (Option CString) := do
  if !(← fieldDataIsNull nField) then
    fieldValue nField
  else
    return szNullValue

def getIntField (nField nNullValue : Int) : Op CppSQLite3Query Int := do
  if !(← fieldDataIsNull nField) then
    return (← sqlite3Column (← handle) nField).int
  else
    return nNullValue

def getDoubleField (nField : Int) (fNullValue : UInt64) : Op CppSQLite3Query UInt64 := do
  if !(← fieldDataIsNull nField) then
    return (← sqlite3Column (← handle) nField).double
  else
    return fNullValue

def getStringFieldNamed (szField szNullValue : Option CString) : Op CppSQLite3Query (Option CString) := do
  getStringField (← fieldIndex szField) szNullValue

def getIntFieldNamed (szField : Option CString) (nNullValue : Int) : Op CppSQLite3Query Int := do
  getIntField (← fieldIndex szField) nNullValue

def getDoubleFieldNamed (szField : Option CString) (fNullValue : UInt64) : Op CppSQLite3Query UInt64 := do
  getDoubleField (← fieldIndex szField) fNullValue

def getBlobField (nField : Int) : Op CppSQLite3Query (List UInt8) := do
  checkStmt
  if nField < 0 ∨ nField > (← get).this.mnFieldsCount - 1 then
    raise CPPQLITE3L_QUERY_ERROR (.literal (text "Invalid field index requested")) false
  else
    return (← sqlite3Column (← handle) nField).blob

def eof : Op CppSQLite3Query Bool := do
  checkStmt
  return (← get).this.mbEof

def nextRow : Op CppSQLite3Query Unit := do
  checkStmt
  let pStmt ← handle
  let nRet ← sqlite3Step client (some pStmt)
  if nRet = SQLITE_DONE then
    onThis (fun q => {q with mbEof := true})
  else if nRet = SQLITE_ROW then
    return ()
  else
    let nRet ← sqlite3Finalize (some pStmt)
    onThis (fun q => {q with mpStmt := none})
    throwErrmsg client nRet

end

/-- A field, by its index or by its name. -/
inductive FieldRef where
  | index (nField : Int)
  | name (szField : Option CString)
  deriving DecidableEq, Repr

def FieldRef.find : FieldRef → Op CppSQLite3Query Int
  | .index nField => return nField
  | .name szField => fieldIndex szField

inductive Request where
  | numFields
  | fieldIndex (szField : Option CString)
  | fieldName (nCol : Int)
  | fieldDataType (nCol : Int)
  | fieldDataIsNull (nField : Int)
  | fieldValue (field : FieldRef)
  | getStringField (field : FieldRef) (szNullValue : Option CString)
  | getIntField (field : FieldRef) (nNullValue : Int)
  | getDoubleField (field : FieldRef) (fNullValue : UInt64)
  | getBlobField (field : FieldRef)
  | eof
  | nextRow
  | clear
  deriving DecidableEq, Repr

def perform (client : Client) : Request → Op CppSQLite3Query Unit
  | .numFields => do let _ ← numFields
  | .fieldIndex szField => do let _ ← fieldIndex szField
  | .fieldName nCol => do let _ ← fieldName nCol
  | .fieldDataType nCol => do let _ ← fieldDataType nCol
  | .fieldDataIsNull nField => do let _ ← fieldDataIsNull nField
  | .fieldValue field => do let _ ← fieldValue (← field.find)
  | .getStringField field szNullValue => do let _ ← getStringField (← field.find) szNullValue
  | .getIntField field nNullValue => do let _ ← getIntField (← field.find) nNullValue
  | .getDoubleField field fNullValue => do let _ ← getDoubleField (← field.find) fNullValue
  | .getBlobField field => do let _ ← getBlobField (← field.find)
  | .eof => do let _ ← eof
  | .nextRow => nextRow client
  | .clear => clear client

section Specs
variable {s : Scope World CppSQLite3Query} {pStmt : Nat}

theorem ofStmtApply {O : Type} (pDB pStmt : Nat) (bEof : Bool) (s : Scope World O) :
    ofStmt pDB pStmt bEof s =
      .ok ⟨some pDB,some pStmt,bEof,((s.world.stmts pStmt).columns.length : Int)⟩ s := rfl

theorem checkStmtApply (held : s.this.mpStmt = some pStmt) : checkStmt s = .ok ⟨⟩ s := by
  simp only [checkStmt,bindApply,getApply,iteApply,held,reduceCtorEq,if_false,pureApply]

theorem handleApply (held : s.this.mpStmt = some pStmt) : handle s = .ok pStmt s := by
  simp only [handle,bindApply,getApply,held,pureApply]

theorem eofApply (held : s.this.mpStmt = some pStmt) : eof s = .ok s.this.mbEof s := by
  simp only [eof,bindApply,checkStmtApply held,getApply,pureApply]

theorem numFieldsApply (held : s.this.mpStmt = some pStmt) : numFields s = .ok s.this.mnFieldsCount s := by
  simp only [numFields,bindApply,checkStmtApply held,getApply,pureApply]

theorem fieldDataIsNullApply (held : s.this.mpStmt = some pStmt) {nField : Int} {value : Value}
    (low : 0 ≤ nField) (high : nField < s.this.mnFieldsCount)
    (shown : (s.world.stmts pStmt).value nField = some value) :
    fieldDataIsNull nField s = .ok (decide (value.type = SQLITE_NULL)) s := by
  have inside : ¬ (nField < 0 ∨ nField > s.this.mnFieldsCount - 1) := by omega
  simp only [fieldDataIsNull,fieldDataType,bindApply,checkStmtApply held,getApply,iteApply,if_neg inside,
    handleApply held,columnApply,shown,pureApply]

theorem fieldValueApply (held : s.this.mpStmt = some pStmt) {nField : Int} {value : Value}
    (shown : (s.world.stmts pStmt).value nField = some value) : fieldValue nField s = .ok value.text s := by
  simp only [fieldValue,bindApply,checkStmtApply held,handleApply held,columnApply,shown,pureApply]

theorem nextRowApply (client : Client) (held : s.this.mpStmt = some pStmt)
    (fine : (advance client s.world.log pStmt (s.world.stmts pStmt)).1 = SQLITE_ROW ∨
      (advance client s.world.log pStmt (s.world.stmts pStmt)).1 = SQLITE_DONE) :
    nextRow client s = .ok ⟨⟩ ⟨s.world.stepped client pStmt,{s.this with
      mbEof := s.this.mbEof || (advance client s.world.log pStmt (s.world.stmts pStmt)).1 = SQLITE_DONE}⟩ := by
  simp only [nextRow,bindApply,checkStmtApply held,handleApply held,stepApply]
  obtain row | done := fine
  · rw [row]
    have more : ¬ SQLITE_ROW = SQLITE_DONE := by decide
    simp [more]
  · rw [done]
    simp

def nullStmt {α σ : Type} (s : σ) : EStateM.Result Stop σ α :=
  .error (.thrown (exception CPPQLITE3L_QUERY_ERROR (some (text "Null stmt pointer")))) s

theorem throwErrmsgApply {α : Type} (client : Client) (nRet : Int) (s : Scope World CppSQLite3Query) :
    (throwErrmsg client nRet : Op CppSQLite3Query α) s = match s.this.mpDB with
      | none => .error .undefined ⟨s.world.push ⟨.errmsgUnset,SQLITE_OK⟩,s.this⟩
      | some conn =>
        let message := Message.errmsg (client.errmsg s.world.log (some conn))
        .error (.thrown (exception nRet message.text))
          ⟨(s.world.push ⟨.errmsg (some conn),SQLITE_OK⟩).raised nRet message true,s.this⟩ := by
  simp only [throwErrmsg,bindApply,getApply]
  cases s.this.mpDB with
  | none => rfl
  | some conn => simp only [sqlite3Errmsg,bindApply,getApply,onWorldApply,pureApply,raiseApply]

/-- The object and its world once it has let go of its statement. -/
def released (s : Scope World CppSQLite3Query) : Scope World CppSQLite3Query :=
  match s.this.mpStmt with
  | some pStmt => ⟨s.world.push ⟨.finalize (some pStmt),(s.world.stmts pStmt).progress.failure⟩,
      {s.this with mpStmt := none}⟩
  | none => s

theorem releasedConnection (s : Scope World CppSQLite3Query) : (released s).this.mpDB = s.this.mpDB := by
  unfold released
  cases s.this.mpStmt <;> rfl

theorem clearApply (client : Client) (s : Scope World CppSQLite3Query) :
    clear client s = match s.this.mpStmt with
      | none => .ok ⟨⟩ s
      | some pStmt =>
        let rc := (s.world.stmts pStmt).progress.failure
        if rc ≠ SQLITE_OK then throwErrmsg client rc (released s) else .ok ⟨⟩ (released s) := by
  simp only [clear,released,bindApply,getApply]
  cases s.this.mpStmt with
  | none => rfl
  | some pStmt =>
    simp only [sqlite3Finalize,bindApply,getApply,onWorldApply,onThisApply,pureApply,iteApply]

theorem nextRowFails (client : Client) (held : s.this.mpStmt = some pStmt)
    (failed : ¬ ((advance client s.world.log pStmt (s.world.stmts pStmt)).1 = SQLITE_ROW ∨
      (advance client s.world.log pStmt (s.world.stmts pStmt)).1 = SQLITE_DONE)) :
    nextRow client s =
      let t : Scope World CppSQLite3Query := ⟨s.world.stepped client pStmt,s.this⟩
      throwErrmsg client (t.world.stmts pStmt).progress.failure (released t) := by
  obtain ⟨row,done⟩ := not_or.mp failed
  simp only [nextRow,bindApply,checkStmtApply held,handleApply held,stepApply,iteApply,if_neg row,if_neg done,
    sqlite3Finalize,getApply,onWorldApply,onThisApply,pureApply,released,held]

theorem clearNone (client : Client) (none : s.this.mpStmt = none) : clear client s = .ok ⟨⟩ s := by
  rw [clearApply,none]

theorem checkStmtNone (none : s.this.mpStmt = none) : checkStmt s = nullStmt s := by
  simp only [checkStmt,bindApply,getApply,iteApply,none,if_true,raiseApply]
  rfl

theorem nextRowNone (client : Client) (none : s.this.mpStmt = none) : nextRow client s = nullStmt s := by
  have check := checkStmtNone none
  unfold nullStmt at check ⊢
  simp only [nextRow,bindApply,check]

/-- Without a statement every call but clear is refused. -/
theorem performNone (client : Client) (none : s.this.mpStmt = none) {r : Request} (uses : r ≠ .clear) :
    perform client r s = nullStmt s := by
  have check := checkStmtNone none
  have step := nextRowNone client none
  unfold nullStmt at check step ⊢
  have named (szField : Option CString) : fieldIndex szField s = nullStmt s := by
    simp only [fieldIndex,bindApply,check,nullStmt]
  unfold nullStmt at named
  cases r with
  | clear => exact absurd rfl uses
  | nextRow => exact step
  | numFields => simp only [perform,numFields,bindApply,check]
  | eof => simp only [perform,eof,bindApply,check]
  | fieldIndex szField => simp only [perform,bindApply,named]
  | fieldName nCol => simp only [perform,fieldName,bindApply,check]
  | fieldDataType nCol => simp only [perform,fieldDataType,bindApply,check]
  | fieldDataIsNull nField => simp only [perform,fieldDataIsNull,fieldDataType,bindApply,check]
  | fieldValue field | getStringField field szNullValue | getIntField field nNullValue
  | getDoubleField field fNullValue | getBlobField field =>
    cases field with
    | name szField => simp only [perform,FieldRef.find,bindApply,named]
    | index nField =>
      simp only [perform,FieldRef.find,fieldValue,getStringField,getIntField,getDoubleField,getBlobField,
        fieldDataIsNull,fieldDataType,bindApply,pureApply,check]

section Columns
variable {names : List CString} (held : s.this.mpStmt = some pStmt) (columns : (s.world.stmts pStmt).columns = names)
  (count : s.this.mnFieldsCount = names.length)
include held columns count

theorem fieldNameApply (nCol : Int) : fieldName nCol s =
    if 0 ≤ nCol ∧ nCol < names.length then .ok names[nCol.toNat]? s
    else .error (.thrown (exception CPPQLITE3L_QUERY_ERROR (some (text "Invalid field index requested")))) s := by
  simp only [fieldName,bindApply,checkStmtApply held,getApply,iteApply,count]
  by_cases inside : 0 ≤ nCol ∧ nCol < names.length
  · have fine : ¬ (nCol < 0 ∨ nCol > (names.length : Int) - 1) := by omega
    have low : ¬ nCol < 0 := by omega
    simp only [if_pos inside,if_neg fine,handleApply held,sqlite3ColumnName,bindApply,getApply,pureApply,columns,
      if_neg low]
  · have refused : nCol < 0 ∨ nCol > (names.length : Int) - 1 := by omega
    rw [if_neg inside,if_pos refused,raiseApply]
    rfl

omit held count in
theorem fieldIndexFromApply {szField : CString} (n : Nat) {nField : Nat} (rest : nField + n = names.length) :
    fieldIndexFrom pStmt szField nField n s =
      .ok (((names.drop nField).findIdx? (· = szField)).map (fun i : Nat => (nField : Int) + i)) s := by
  induction n generalizing nField with
  | zero =>
    rw [List.drop_eq_nil_of_le (by omega)]
    rfl
  | succ n ih =>
    have below : nField < names.length := by omega
    have low : ¬ (nField : Int) < 0 := by omega
    have next : (nField : Int) + 1 = (nField + 1 : Nat) := rfl
    simp only [fieldIndexFrom,sqlite3ColumnName,bindApply,getApply,pureApply,columns,if_neg low,Int.toNat_natCast,
      List.getElem?_eq_getElem below,iteApply]
    rw [List.drop_eq_getElem_cons below,List.findIdx?_cons]
    by_cases same : szField = names[nField]
    · simp [same]
    · have other : ¬ names[nField] = szField := fun eq => same eq.symm
      rw [if_neg same,next,ih (by omega)]
      simp only [other,decide_false,Bool.false_eq_true,if_false]
      cases (names.drop (nField + 1)).findIdx? (· = szField) with
      | none => rfl
      | some i =>
        simp
        omega

theorem fieldIndexApply (szField : CString) : fieldIndex (some szField) s =
    match names.findIdx? (· = szField) with
    | some nField => .ok (nField : Int) s
    | none => .error (.thrown (exception CPPQLITE3L_QUERY_ERROR (some (text "Invalid field name requested")))) s := by
  have loop : fieldIndexFrom pStmt szField 0 names.length s = _ :=
    fieldIndexFromApply columns names.length (Nat.zero_add _)
  rw [List.drop_zero] at loop
  simp only [fieldIndex,bindApply,checkStmtApply held,handleApply held,getApply,count,Int.toNat_natCast,loop]
  cases names.findIdx? (· = szField) with
  | none =>
    simp only [Option.map_none,raiseApply]
    rfl
  | some nField => simp

omit columns count in
theorem fieldIndexNull : fieldIndex none s =
    .error (.thrown (exception CPPQLITE3L_QUERY_ERROR (some (text "Invalid field name requested")))) s := by
  simp only [fieldIndex,bindApply,checkStmtApply held,pureApply,raiseApply]
  rfl

end Columns

end Specs
end CppSQLite3Query
end DatabaseLayer
