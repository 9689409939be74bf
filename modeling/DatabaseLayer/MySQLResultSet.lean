import DatabaseLayer.MySQLClient

/-! CppMySQLResultSet: a whole result copied into memory. NULL cells are stored as
the text NULL; the result it was copied from stays with nobody. -/
namespace DatabaseLayer
open Platform MySQLClient Foundation.Program

structure CppMySQLResultSet where
  mpResultSet : Option (Owned (List (List CString)))
  mpFieldMap : Option (Owned (List (Int × CString)))
  mnCurrentRow : Nat
  mnRows : Nat
  mnCols : Nat
  deriving DecidableEq, Repr

namespace CppMySQLResultSet

def new : CppMySQLResultSet := ⟨none,none,0,0,0⟩

/-- The copy constructor restarts at the first row. -/
def copy (rResultSet : CppMySQLResultSet) : CppMySQLResultSet × CppMySQLResultSet :=
  ({rResultSet with mnCurrentRow := 0},{rResultSet with mpResultSet := none, mpFieldMap := none})

def clear : Op CppMySQLResultSet Unit := do
  deletePointer (← get).this.mpFieldMap
  onThis (fun r => {r with mpFieldMap := none})
  deletePointer (← get).this.mpResultSet
  onThis (fun r => {r with mpResultSet := none})

theorem clearApply (s : Scope World CppMySQLResultSet) :
    clear s = .ok ⟨⟩ ⟨(s.world.deletes s.this.mpFieldMap).deletes s.this.mpResultSet,
      {s.this with mpResultSet := none, mpFieldMap := none}⟩ := by
  simp only [clear,bindApply,getApply,deletePointerApply,onThisApply]

/-- `operator=` from another object; returns what is left of that one. -/
def assign (rResultSet : CppMySQLResultSet) : Op CppMySQLResultSet CppMySQLResultSet := do
  clear
  onThis (fun _ => rResultSet)
  return {rResultSet with mpResultSet := none, mpFieldMap := none}

theorem assignApply (rResultSet : CppMySQLResultSet) (s : Scope World CppMySQLResultSet) :
    assign rResultSet s = .ok {rResultSet with mpResultSet := none, mpFieldMap := none}
      ⟨(s.world.deletes s.this.mpFieldMap).deletes s.this.mpResultSet,rResultSet⟩ := by
  simp only [assign,bindApply,clearApply,onThisApply,pureApply]

def cellText : Cell → CString
  | none => text "NULL"
  | some value => value

/-- `for (i = 0; i < m_nCols; i++)` over one row; `none` past the end of the row. -/
def rowTexts (row : List Cell) : Nat → Option (List CString)
  | 0 => some []
  | i + 1 => do
    let before ← rowTexts row i
    let cell ← row[i]?
    some (before ++ [cellText cell])

/-- `while (NULL != row)` down the linked list the data cursor points into. -/
def buildRows (mnCols : Nat) : List (List Cell) → Option (List (List CString))
  | [] => some []
  | row :: cursor => do
    let texts ← rowTexts row mnCols
    let rest ← buildRows mnCols cursor
    some (texts :: rest)

def buildResultSet (pRES : Nat) : Op CppMySQLResultSet Unit := do
  let addr ← newAddress
  let cols ← mysqlNumFields pRES
  let rows ← mysqlNumRows pRES
  let res := (← get).world.results pRES
  match buildRows cols res.dataCursor with
  | none => undefinedBehaviour
  | some table =>
    onWorld (fun w => w.setRes pRES {res with dataCursor := []})
    onThis (fun r => {r with
      mpResultSet := some ⟨addr,table⟩, mnCols := cols, mnRows := wrapULong rows})

/-- The columns from nCol on, or the first one without a name. -/
def fieldMap : Int → List MysqlField → Except Nat (List (Int × CString))
  | _,[] => .ok []
  | nCol,f :: fs => match f.name with
    | none => .error nCol.toNat
    | some name => do
      let rest ← fieldMap (nCol + 1) fs
      .ok ((nCol,name) :: rest)

def buildFieldMap (pRES : Nat) : Op CppMySQLResultSet Unit := do
  let addr ← newAddress
  let fields := ((← get).world.results pRES).data.fields
  match fieldMap 0 fields with
  | .ok entries => onThis (fun r => {r with mpFieldMap := some ⟨addr,entries⟩})
  | .error nCol =>
    raise CPPMYSQL_RESULTSET_ERROR (text "field " ++ decimal nCol ++ text " name is NULL")

/-- CppMySQLResultSet(MYSQL_RES*) -/
def ofRES {O : Type} (pRES : Option Nat) : Op O CppMySQLResultSet :=
  construct new do
    match pRES with
    | some res =>
      buildResultSet res
      buildFieldMap res
    | none => return ()

def checkResults : Op CppMySQLResultSet Unit := do
  if (← get).this.mpResultSet = none then
    raise CPPMYSQL_RESULTSET_ERROR (text "invalid resultSet")

def numFields : Op CppMySQLResultSet Int := do
  checkResults
  return wrapInt (← get).this.mnCols

def numRows : Op CppMySQLResultSet Nat := do
  checkResults
  return (← get).this.mnRows

/-- `(*m_pResultSet)[m_nCurrentRow][nField]`, defined inside both vectors only. -/
def cellAt (r : CppMySQLResultSet) (nField : Int) : Option CString := do
  let table ← r.mpResultSet
  let row ← table.value[r.mnCurrentRow]?
  if nField < 0 then none else row[nField.toNat]?

def fieldValue (nField : Int) : Op CppMySQLResultSet CString := do
  checkResults
  match cellAt (← get).this nField with
  | some value => return value
  | none => undefinedBehaviour

def fieldDataIsNull (nField : Int) : Op CppMySQLResultSet Bool := do
  match cellAt (← get).this nField with
  | some value => return value = text "NULL"
  | none => undefinedBehaviour

/-- The map of an object that checkFields let pass, in the order of its keys. -/
def checkFields : Op CppMySQLResultSet (List (Int × CString)) := do
  match (← get).this.mpFieldMap with
  | some fields => return fields.value
  | none => raise CPPMYSQL_RESULTSET_ERROR (text "invalid FieldsMap")

def fieldName (nCol : Int) : Op CppMySQLResultSet CString := do
  let fields ← checkFields
  if nCol ≥ 0 ∧ nCol < wrapInt (← get).this.mnCols then
    match fields.find? (fun it => it.1 = nCol) with
    | some it => return it.2
    | none => raise CPPMYSQL_RESULTSET_ERROR (text "Invalid nCol index requested")
  else
    raise CPPMYSQL_RESULTSET_ERROR (text "Invalid nCol index requested")

/-- A NULL name is compared with the first field, if there is one. -/
def fieldColIndex (szField : Option CString) : Op CppMySQLResultSet Int := do
  let fields ← checkFields
  match szField,fields with
  | some name,_ => match fields.find? (fun it => it.2 = name) with
    | some it => return it.1
    | none => raise CPPMYSQL_RESULTSET_ERROR (text "Invalid field name requested")
  | none,[] => raise CPPMYSQL_RESULTSET_ERROR (text "Invalid field name requested")
  | none,_ :: _ => undefinedBehaviour

def fieldValueNamed (szField : Option CString) : Op CppMySQLResultSet CString := do
  fieldValue (← fieldColIndex szField)

def eof (r : CppMySQLResultSet) : Bool := r.mnCurrentRow = r.mnRows

def nextRow (r : CppMySQLResultSet) : CppMySQLResultSet :=
  {r with mnCurrentRow := wrapULong (r.mnCurrentRow + 1)}

/-- The clamped position, also handed back as an int. -/
def seekRow (nRow : Nat) (r : CppMySQLResultSet) : Int × CppMySQLResultSet :=
  let row := if nRow ≥ r.mnRows then wrapULong ((r.mnRows : Int) - 1) else nRow
  (wrapInt row,{r with mnCurrentRow := row})

section Specs

theorem rowTextsTake (row : List Cell) {n : Nat} (h : n ≤ row.length) :
    rowTexts row n = some ((row.take n).map cellText) := by
  induction n with
  | zero => rfl
  | succ i ih =>
    have inside : i < row.length := h
    simp only [rowTexts,ih (Nat.le_of_lt inside),List.getElem?_eq_getElem inside,
      Option.bind_eq_bind,Option.bind_some,List.take_add_one,Option.toList_some,List.map_append,
      List.map_cons,List.map_nil]

theorem buildRowsExact (mnCols : Nat) {rows : List (List Cell)}
    (h : ∀ row ∈ rows, row.length = mnCols) :
    buildRows mnCols rows = some (rows.map (fun row => row.map cellText)) := by
  induction rows with
  | nil => rfl
  | cons row rest ih =>
    have width := h row List.mem_cons_self
    have texts : rowTexts row mnCols = some (row.map cellText) := by
      rw [rowTextsTake row (Nat.le_of_eq width.symm),← width,List.take_length]
    simp [buildRows,texts,ih (fun r hr => h r (List.mem_cons_of_mem _ hr))]

/-- The copy of a result whose columns are all named. -/
def copied (w : World) (data : ResultData) (entries : List (Int × CString)) : CppMySQLResultSet :=
  ⟨some ⟨w.nHeap,data.rows.map (fun row => row.map cellText)⟩,some ⟨w.nHeap + 1,entries⟩,0,
    data.rows.length,data.fields.length⟩

/-- A fresh result is copied whole; an unnamed column makes the constructor throw. Either
way the result itself is left to nobody. -/
theorem ofRESApply {O : Type} (res : Nat) (data : ResultData) (s : Scope World O)
    (fresh : s.world.results res = ⟨data,data.rows⟩) :
    ofRES (some res) s =
      let w := {s.world with nHeap := s.world.nHeap + 1}.setRes res ⟨data,[]⟩
      let after : Scope World O := ⟨{w with nHeap := s.world.nHeap + 2},s.this⟩
      match fieldMap 0 data.fields with
      | .ok entries => .ok (copied s.world data entries) after
      | .error nCol => .error (.thrown (exception CPPMYSQL_RESULTSET_ERROR
          (some (text "field " ++ decimal nCol ++ text " name is NULL")))) after := by
  have rows : wrapULong data.rows.length = data.rows.length := wrapULongId data.rowCount
  simp only [ofRES,construct,buildResultSet,buildFieldMap,bindApply,newAddressApply,
    numFieldsApply,numRowsApply,getApply,fresh,buildRowsExact data.fields.length data.rectangular,
    onWorldApply,onThisApply,setResSelf,rows]
  cases fieldMap 0 data.fields <;> simp [new,copied,raise,World.setRes]

theorem copiedCell (w : World) {data : ResultData} (entries : List (Int × CString)) {r c : Nat}
    {row : List Cell} {cell : Cell} (inRow : data.rows[r]? = some row) (inside : row[c]? = some cell) :
    cellAt (seekRow r (copied w data entries)).2 c = some (cellText cell) := by
  have below : ¬ r ≥ data.rows.length := by
    obtain ⟨h,_⟩ := List.getElem?_eq_some_iff.mp inRow
    omega
  have low : ¬ (c : Int) < 0 := by omega
  simp [cellAt,seekRow,copied,below,low,inRow,inside]

theorem fieldValueApply {s : Scope World CppMySQLResultSet} {nField : Int} {value : CString}
    (shown : cellAt s.this nField = some value) : fieldValue nField s = .ok value s := by
  have built : ¬ s.this.mpResultSet = none := by
    intro none
    simp [cellAt,none] at shown
  simp only [fieldValue,checkResults,bindApply,getApply,iteApply,if_neg built,pureApply,shown]

theorem fieldDataIsNullApply {s : Scope World CppMySQLResultSet} {nField : Int} {value : CString}
    (shown : cellAt s.this nField = some value) :
    fieldDataIsNull nField s = .ok (decide (value = text "NULL")) s := by
  simp only [fieldDataIsNull,bindApply,getApply,shown,pureApply]

structure Holds (table : List (List CString)) (r : CppMySQLResultSet) : Prop where
  results : ∃ addr, r.mpResultSet = some ⟨addr,table⟩
  rows : r.mnRows = table.length
  cols : ∀ row ∈ table, row.length = r.mnCols

theorem copiedHolds (w : World) (data : ResultData) (entries : List (Int × CString)) :
    Holds (data.rows.map (fun row => row.map cellText)) (copied w data entries) := by
  refine ⟨⟨_,rfl⟩,(List.length_map _).symm,fun row inside => ?_⟩
  obtain ⟨cells,member,rfl⟩ := List.mem_map.mp inside
  rw [List.length_map]
  exact data.rectangular cells member

theorem cellHeld {table : List (List CString)} {r : CppMySQLResultSet} (holds : Holds table r) {c : Nat}
    {row : List CString} {value : CString} (inRows : table[r.mnCurrentRow]? = some row)
    (inRow : row[c]? = some value) : cellAt r c = some value := by
  obtain ⟨addr,results⟩ := holds.results
  have low : ¬ (c : Int) < 0 := by omega
  simp [cellAt,results,inRows,low,inRow]

section Fields
variable {nCol : Int} {fs : List MysqlField} {entries : List (Int × CString)} {names : List CString}

theorem fieldMapCons {f : MysqlField} (built : fieldMap nCol (f :: fs) = .ok entries) :
    ∃ name rest, f.name = some name ∧ fieldMap (nCol + 1) fs = .ok rest ∧ entries = (nCol,name) :: rest := by
  unfold fieldMap at built
  cases named : f.name with
  | none =>
    rw [named] at built
    cases built
  | some name =>
    rw [named] at built
    cases tail : fieldMap (nCol + 1) fs with
    | error n =>
      rw [tail] at built
      cases built
    | ok rest =>
      rw [tail] at built
      cases built
      exact ⟨name,rest,rfl,rfl,rfl⟩

theorem fieldMapNil (built : fieldMap nCol [] = .ok entries) (named : [].map MysqlField.name = names.map some) :
    entries = [] ∧ names = [] := by
  cases names with
  | cons name names => cases named
  | nil =>
    cases built
    exact ⟨rfl,rfl⟩

/-- The first of the names is the first field's, and first in the map. -/
theorem fieldMapFirst {f : MysqlField} (built : fieldMap nCol (f :: fs) = .ok entries)
    (named : (f :: fs).map MysqlField.name = names.map some) :
    ∃ name others rest, names = name :: others ∧ fs.map MysqlField.name = others.map some ∧
      fieldMap (nCol + 1) fs = .ok rest ∧ entries = (nCol,name) :: rest := by
  obtain ⟨name,rest,here,tail,rfl⟩ := fieldMapCons built
  cases names with
  | nil => cases named
  | cons first others =>
    rw [List.map_cons,List.map_cons,List.cons.injEq,here,Option.some.injEq] at named
    obtain ⟨rfl,same⟩ := named
    exact ⟨name,others,rest,rfl,same,tail,rfl⟩

theorem fieldMapAt (built : fieldMap nCol fs = .ok entries) (named : fs.map MysqlField.name = names.map some) (i : Nat) :
    entries.find? (fun it => it.1 = nCol + i) = names[i]?.map (fun name => (nCol + i,name)) := by
  induction fs generalizing nCol entries names i with
  | nil =>
    obtain ⟨rfl,rfl⟩ := fieldMapNil built named
    rfl
  | cons f fs ih =>
    obtain ⟨name,others,rest,rfl,same,tail,rfl⟩ := fieldMapFirst built named
    cases i with
    | zero => simp
    | succ i =>
      have later : ¬ nCol = nCol + (i + 1 : Nat) := by omega
      have shift : nCol + (i + 1 : Nat) = nCol + 1 + i := by omega
      rw [List.find?_cons_of_neg (by simpa using later),List.getElem?_cons_succ,shift]
      exact ih tail same i

theorem fieldMapNamed (built : fieldMap nCol fs = .ok entries) (named : fs.map MysqlField.name = names.map some)
    (szField : CString) : entries.find? (fun it => it.2 = szField) =
      (names.findIdx? (· = szField)).map (fun i : Nat => (nCol + i,szField)) := by
  induction fs generalizing nCol entries names with
  | nil =>
    obtain ⟨rfl,rfl⟩ := fieldMapNil built named
    rfl
  | cons f fs ih =>
    obtain ⟨name,others,rest,rfl,same,tail,rfl⟩ := fieldMapFirst built named
    by_cases found : name = szField
    · simp [found,List.findIdx?_cons]
    · rw [List.find?_cons_of_neg (by simpa using found),ih tail same,List.findIdx?_cons]
      simp only [found,decide_false,Bool.false_eq_true,if_false]
      cases others.findIdx? (· = szField) with
      | none => rfl
      | some i =>
        have shift : nCol + 1 + (i : Int) = nCol + (i + 1 : Nat) := by omega
        simp [shift]

end Fields
end Specs

end CppMySQLResultSet
end DatabaseLayer
