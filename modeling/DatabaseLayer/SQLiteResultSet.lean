import DatabaseLayer.SQLiteClient

/-! CppSQLite3ResultSet: a result table of the library, addressed row by row. -/
namespace DatabaseLayer
open Platform SQLiteClient Foundation.Program

structure CppSQLite3ResultSet where
  mnCols : Int
  mnRows : Nat
  mnCurrentRow : Int
  mpaszResults : Option (Owned (List (Option CString)))
  deriving DecidableEq, Repr

namespace CppSQLite3ResultSet

def new : CppSQLite3ResultSet := ⟨0,0,0,none⟩

def copy (rResultSet : CppSQLite3ResultSet) : CppSQLite3ResultSet × CppSQLite3ResultSet :=
  (rResultSet,{rResultSet with mpaszResults := none})

/-- CppSQLite3ResultSet(char**, unsigned long, int) -/
def ofTable (paszResults : Owned (List (Option CString))) (nRows : Nat) (nCols : Int) : CppSQLite3ResultSet :=
  ⟨nCols,nRows,0,some paszResults⟩

def clear : Op CppSQLite3ResultSet Unit := do
  match (← get).this.mpaszResults with
  | some table =>
    sqlite3FreeTable table.addr
    onThis (fun r => {r with mpaszResults := none})
  | none => return ()

/-- `operator=` from another object; returns what is left of that one. -/
def assign (rResultSet : CppSQLite3ResultSet) : Op CppSQLite3ResultSet CppSQLite3ResultSet := do
  swallow clear
  onThis (fun _ => rResultSet)
  return {rResultSet with mpaszResults := none}

def destroy (s : Scope World CppSQLite3ResultSet) : World := (left (clear s)).world

/-- The array of an object that checkResults let pass. -/
def checkResults : Op CppSQLite3ResultSet (List (Option CString)) := do
  match (← get).this.mpaszResults with
  | some table => return table.value
  | none => raise CPPQLITE3_RESULTSET_ERROR (.literal (text "Null Results pointer")) false

def numFields : Op CppSQLite3ResultSet Int := do
  let _ ← checkResults
  return (← get).this.mnCols

def numRows : Op CppSQLite3ResultSet Nat := do
  let _ ← checkResults
  return (← get).this.mnRows

/-- `m_paszResults[index]`, defined inside the array only. -/
def pointerAt (paszResults : List (Option CString)) (index : Int) : Op CppSQLite3ResultSet (Option CString) :=
  if index < 0 then undefinedBehaviour
  else match paszResults[index.toNat]? with
    | some pointer => return pointer
    | none => undefinedBehaviour

def fieldName (nCol : Int) : Op CppSQLite3ResultSet (Option CString) := do
  let paszResults ← checkResults
  if nCol < 0 ∨ nCol > (← get).this.mnCols - 1 then
    raise CPPQLITE3_RESULTSET_ERROR (.literal (text "Invalid field index requested")) false
  else
    pointerAt paszResults nCol

-- The test is a disjunction, which only an empty range of columns can fail.
def fieldRealIndex (nField : Int) : Op CppSQLite3ResultSet Int := do
  let _ ← checkResults
  let r := (← get).this
  if nField ≥ 0 ∨ nField ≤ r.mnCols - 1 then
    return wrapInt (wrapInt (wrapInt (r.mnCurrentRow * r.mnCols) + r.mnCols) + nField)
  else
    raise CPPQLITE3_RESULTSET_ERROR (.literal (text "Invalid field index requested")) false

def fieldValue (nField : Int) : Op CppSQLite3ResultSet (Option CString) := do
  let index ← fieldRealIndex nField
  pointerAt (← checkResults) index

/-- `for (; nField < m_nCols; nField++)`, n places to go. -/
def fieldColIndexFrom (paszResults : List (Option CString)) (szField : CString) (nField : Int) :
    Nat → Op CppSQLite3ResultSet (Option Int)
  | 0 => return none
  | n + 1 => do
    match ← pointerAt paszResults nField with
    | none => undefinedBehaviour
    | some name =>
      if szField = name then return some nField else fieldColIndexFrom paszResults szField (nField + 1) n

def fieldColIndex (szField : Option CString) : Op CppSQLite3ResultSet Int := do
  let paszResults ← checkResults
  let found ← match szField with
    | some name => fieldColIndexFrom paszResults name 0 (← get).this.mnCols.toNat
    | none => pure none
  match found with
  | some nField => return nField
  | none => raise CPPQLITE3_RESULTSET_ERROR (.literal (text "Invalid field name requested")) false

def fieldRealIndexNamed (szField : Option CString) : Op CppSQLite3ResultSet Int := do
  let _ ← checkResults
  match szField with
  | some name =>
    let nField ← fieldColIndex (some name)
    let r := (← get).this
    return wrapInt (wrapInt (wrapInt (r.mnCurrentRow * r.mnCols) + r.mnCols) + nField)
  | none => raise CPPQLITE3_RESULTSET_ERROR (.literal (text "Invalid field name requested")) false

def fieldValueNamed (szField : Option CString) : Op CppSQLite3ResultSet (Option CString) := do
  let index ← fieldRealIndexNamed szField
  pointerAt (← checkResults) index

def fieldDataIsNull (nField : Int) : Op CppSQLite3ResultSet Bool := do
  let paszResults ← checkResults
  return (← pointerAt paszResults (← fieldRealIndex nField)).isNone

def eof (r : CppSQLite3ResultSet) : Bool := r.mnCurrentRow = wrapInt r.mnRows

def setCurrentRow (r : CppSQLite3ResultSet) (row : Int) : CppSQLite3ResultSet := {r with mnCurrentRow := row}

-- These are no reductions to the simplifier: comparing the two sides by unfolding them would
-- compare the rows too, and so count up to the limits of int.
@[simp] theorem setCurrentRowRows (r : CppSQLite3ResultSet) (row) : (r.setCurrentRow row).mnRows = r.mnRows := (rfl)
@[simp] theorem setCurrentRowResults (r : CppSQLite3ResultSet) (row) :
    (r.setCurrentRow row).mpaszResults = r.mpaszResults := (rfl)
@[simp] theorem setCurrentRowSelf (r : CppSQLite3ResultSet) (row) : (r.setCurrentRow row).mnCurrentRow = row := (rfl)

def nextRow (r : CppSQLite3ResultSet) : CppSQLite3ResultSet :=
  r.setCurrentRow (wrapInt (r.mnCurrentRow + 1))

/-- The clamped position, cut down to an int and handed back. -/
def seekRow (nRow : Nat) (r : CppSQLite3ResultSet) : Int × CppSQLite3ResultSet :=
  let row := wrapInt (if nRow ≥ r.mnRows then wrapULong ((r.mnRows : Int) - 1) else nRow : Nat)
  (row,r.setCurrentRow row)

section Specs

theorem nextRowRows (r : CppSQLite3ResultSet) : r.nextRow.mnRows = r.mnRows := by
  simp only [nextRow,setCurrentRowRows]

theorem seekRowRows (n : Nat) (r : CppSQLite3ResultSet) : (r.seekRow n).2.mnRows = r.mnRows := by
  simp only [seekRow,setCurrentRowRows]

theorem seekRowCurrent (n : Nat) (r : CppSQLite3ResultSet) : (r.seekRow n).2.mnCurrentRow =
    wrapInt (if n ≥ r.mnRows then wrapULong ((r.mnRows : Int) - 1) else n : Nat) := by
  simp only [seekRow,setCurrentRowSelf]

theorem nextRowCurrent (r : CppSQLite3ResultSet) : r.nextRow.mnCurrentRow = wrapInt (r.mnCurrentRow + 1) := by
  simp only [nextRow,setCurrentRowSelf]

structure Holds (table : TableData) (r : CppSQLite3ResultSet) : Prop where
  results : ∃ addr, r.mpaszResults = some ⟨addr,table.pointers⟩
  rows : r.mnRows = table.rows.length
  cols : r.mnCols = table.names.length

theorem holdsSet {table : TableData} {r : CppSQLite3ResultSet} (holds : Holds table r) (row : Int) :
    Holds table (r.setCurrentRow row) := ⟨holds.results,holds.rows,holds.cols⟩

theorem holdsNext {table : TableData} {r : CppSQLite3ResultSet} (holds : Holds table r) :
    Holds table r.nextRow := by
  unfold nextRow
  exact holdsSet holds _

theorem holdsSeek {table : TableData} {r : CppSQLite3ResultSet} (holds : Holds table r) (n : Nat) :
    Holds table (r.seekRow n).2 := by
  unfold seekRow
  exact holdsSet holds _

/-- Rows of one width, laid end to end, are found by multiplication. -/
theorem flattenCell {α : Type} {rows : List (List α)} {width : Nat} (rectangular : ∀ row ∈ rows, row.length = width)
    {i c : Nat} {row : List α} (inRows : rows[i]? = some row) (inside : c < width) :
    rows.flatten[i * width + c]? = row[c]? := by
  induction rows generalizing i with
  | nil => simp at inRows
  | cons first rest ih =>
    have long : first.length = width := rectangular first List.mem_cons_self
    cases i with
    | zero =>
      rw [List.getElem?_cons_zero,Option.some.injEq] at inRows
      subst inRows
      rw [List.flatten_cons,Nat.zero_mul,Nat.zero_add,List.getElem?_append_left (by omega)]
    | succ i =>
      rw [List.getElem?_cons_succ] at inRows
      have past : first.length ≤ (i + 1) * width + c := by rw [long,Nat.add_mul]; omega
      have shift : (i + 1) * width + c - first.length = i * width + c := by rw [long,Nat.add_mul]; omega
      rw [List.flatten_cons,List.getElem?_append_right past,shift]
      exact ih (fun row h => rectangular row (List.mem_cons_of_mem _ h)) inRows

theorem realIndex {i c width total : Nat} (below : i < total) (inside : c < width)
    (size : (total + 1) * width < 2^31) :
    wrapInt (wrapInt (wrapInt ((i : Int) * width) + width) + c) = (width + (i * width + c) : Nat) := by
  have last : (i + 2) * width ≤ (total + 1) * width := Nat.mul_le_mul_right _ (by omega)
  rw [Nat.add_mul] at last
  have product : (i : Int) * width = (i * width : Nat) := (Int.natCast_mul i width).symm
  rw [product]
  generalize i * width = offset at last ⊢
  have first : wrapInt (offset : Nat) = offset := wrapIntId (by omega) (by omega)
  have second : wrapInt ((offset : Int) + width) = offset + width := wrapIntId (by omega) (by omega)
  rw [first,second,wrapIntId (by omega) (by omega)]
  omega

section Cells
variable {table : TableData} {s : Scope World CppSQLite3ResultSet}

theorem fieldRealIndexApply (holds : Holds table s.this) {i c : Nat} (current : s.this.mnCurrentRow = i)
    (below : i < table.rows.length) (inside : c < table.names.length) :
    fieldRealIndex c s = .ok (table.names.length + (i * table.names.length + c) : Nat) s := by
  obtain ⟨⟨addr,results⟩,_,cols⟩ := holds
  have low : (c : Int) ≥ 0 ∨ (c : Int) ≤ s.this.mnCols - 1 := .inl (Int.natCast_nonneg c)
  simp only [fieldRealIndex,checkResults,bindApply,getApply,results,pureApply,iteApply,if_pos low]
  rw [current,cols,realIndex below inside table.size]

theorem pointerApply {paszResults : List (Option CString)} {index : Nat} {pointer : Option CString}
    (found : paszResults[index]? = some pointer) : pointerAt paszResults index s = .ok pointer s := by
  have low : ¬ (index : Int) < 0 := by omega
  simp only [pointerAt,if_neg low,Int.toNat_natCast,found,pureApply]

theorem cellPointer {i c : Nat} {row : List (Option CString)} {cell : Option CString}
    (inRows : table.rows[i]? = some row) (inRow : row[c]? = some cell) :
    c < table.names.length ∧ i < table.rows.length ∧
      table.pointers[table.names.length + (i * table.names.length + c)]? = some cell := by
  obtain ⟨below,_⟩ := List.getElem?_eq_some_iff.mp inRows
  obtain ⟨inside,_⟩ := List.getElem?_eq_some_iff.mp inRow
  rw [table.rectangular row (List.mem_of_getElem? inRows)] at inside
  refine ⟨inside,below,?_⟩
  unfold TableData.pointers
  rw [List.getElem?_append_right (by simp),List.length_map,Nat.add_sub_cancel_left,
    flattenCell table.rectangular inRows inside,inRow]

section Values
variable (holds : Holds table s.this) {i c : Nat} (current : s.this.mnCurrentRow = i)
  {row : List (Option CString)} {cell : Option CString} (inRows : table.rows[i]? = some row)
  (inRow : row[c]? = some cell)
include holds current inRows inRow

theorem fieldValueApply : fieldValue c s = .ok cell s := by
  obtain ⟨inside,below,found⟩ := cellPointer inRows inRow
  obtain ⟨addr,results⟩ := holds.results
  simp only [fieldValue,bindApply,fieldRealIndexApply holds current below inside,checkResults,getApply,
    results,pureApply,pointerApply found]

theorem fieldDataIsNullApply : fieldDataIsNull c s = .ok cell.isNone s := by
  obtain ⟨inside,below,found⟩ := cellPointer inRows inRow
  obtain ⟨addr,results⟩ := holds.results
  simp only [fieldDataIsNull,bindApply,fieldRealIndexApply holds current below inside,checkResults,getApply,
    results,pureApply,pointerApply found]

end Values

theorem numFieldsApply (holds : Holds table s.this) :
    numFields s = .ok (table.names.length : Int) s := by
  obtain ⟨⟨addr,results⟩,_,cols⟩ := holds
  simp only [numFields,checkResults,bindApply,getApply,results,pureApply,cols]

theorem numRowsApply (holds : Holds table s.this) : numRows s = .ok table.rows.length s := by
  obtain ⟨⟨addr,results⟩,rows,_⟩ := holds
  simp only [numRows,checkResults,bindApply,getApply,results,pureApply,rows]

theorem headerAt {i : Nat} {name : CString} (inside : table.names[i]? = some name) :
    table.pointers[i]? = some (some name) := by
  obtain ⟨below,_⟩ := List.getElem?_eq_some_iff.mp inside
  unfold TableData.pointers
  rw [List.getElem?_append_left (by simpa using below),List.getElem?_map,inside]
  rfl

theorem fieldNameApply (holds : Holds table s.this) (nCol : Int) : fieldName nCol s =
    if 0 ≤ nCol ∧ nCol < table.names.length then .ok table.names[nCol.toNat]? s
    else .error (.thrown (exception CPPQLITE3_RESULTSET_ERROR (some (text "Invalid field index requested")))) s := by
  obtain ⟨⟨addr,results⟩,_,cols⟩ := holds
  simp only [fieldName,checkResults,bindApply,getApply,results,pureApply,iteApply,cols]
  by_cases inside : 0 ≤ nCol ∧ nCol < table.names.length
  · have fine : ¬ (nCol < 0 ∨ nCol > (table.names.length : Int) - 1) := by omega
    have below : nCol.toNat < table.names.length := by omega
    have found : table.names[nCol.toNat]? = some table.names[nCol.toNat] := List.getElem?_eq_getElem below
    have pointer := pointerApply (s := s) (headerAt found)
    rw [Int.toNat_of_nonneg inside.1] at pointer
    rw [if_pos inside,if_neg fine,pointer,found]
  · have refused : nCol < 0 ∨ nCol > (table.names.length : Int) - 1 := by omega
    rw [if_neg inside,if_pos refused,raiseApply]
    rfl

theorem colIndexFromApply {szField : CString} (n : Nat) {nField : Nat} (rest : nField + n = table.names.length) :
    fieldColIndexFrom table.pointers szField nField n s =
      .ok (((table.names.drop nField).findIdx? (· = szField)).map (fun i : Nat => (nField : Int) + i)) s := by
  induction n generalizing nField with
  | zero =>
    rw [List.drop_eq_nil_of_le (by omega)]
    rfl
  | succ n ih =>
    have below : nField < table.names.length := by omega
    have pointer := pointerApply (s := s) (headerAt (List.getElem?_eq_getElem below))
    have next : (nField : Int) + 1 = (nField + 1 : Nat) := rfl
    simp only [fieldColIndexFrom,bindApply,pointer,iteApply,pureApply]
    rw [List.drop_eq_getElem_cons below,List.findIdx?_cons]
    by_cases same : szField = table.names[nField]
    · simp [same]
    · have other : ¬ table.names[nField] = szField := fun eq => same eq.symm
      rw [if_neg same,next,ih (by omega)]
      simp only [other,decide_false,Bool.false_eq_true,if_false]
      cases (table.names.drop (nField + 1)).findIdx? (· = szField) with
      | none => rfl
      | some i =>
        simp
        omega

theorem fieldColIndexApply (holds : Holds table s.this) (szField : CString) : fieldColIndex (some szField) s =
    match table.names.findIdx? (· = szField) with
    | some nField => .ok (nField : Int) s
    | none => .error (.thrown (exception CPPQLITE3_RESULTSET_ERROR (some (text "Invalid field name requested")))) s := by
  obtain ⟨⟨addr,results⟩,_,cols⟩ := holds
  have loop : fieldColIndexFrom table.pointers szField 0 table.names.length s = _ :=
    colIndexFromApply table.names.length (Nat.zero_add _)
  rw [List.drop_zero] at loop
  simp only [fieldColIndex,checkResults,bindApply,getApply,results,pureApply,cols,Int.toNat_natCast,loop]
  cases table.names.findIdx? (· = szField) with
  | none =>
    simp only [Option.map_none,raiseApply]
    rfl
  | some nField => simp

theorem fieldColIndexNull (holds : Holds table s.this) : fieldColIndex none s =
    .error (.thrown (exception CPPQLITE3_RESULTSET_ERROR (some (text "Invalid field name requested")))) s := by
  obtain ⟨⟨addr,results⟩,_,_⟩ := holds
  simp only [fieldColIndex,checkResults,bindApply,getApply,results,pureApply,raiseApply]
  rfl

theorem fieldValueNamedApply (holds : Holds table s.this) (szField : CString) : fieldValueNamed (some szField) s =
    match table.names.findIdx? (· = szField) with
    | some nField => fieldValue nField s
    | none => .error (.thrown (exception CPPQLITE3_RESULTSET_ERROR (some (text "Invalid field name requested")))) s := by
  have found := fieldColIndexApply holds szField
  obtain ⟨⟨addr,results⟩,_,_⟩ := holds
  simp only [fieldValueNamed,fieldRealIndexNamed,checkResults,bindApply,getApply,results,pureApply,found]
  cases table.names.findIdx? (· = szField) with
  | none => rfl
  | some nField =>
    have low : (nField : Int) ≥ 0 ∨ (nField : Int) ≤ s.this.mnCols - 1 := .inl (Int.natCast_nonneg nField)
    simp only [fieldValue,fieldRealIndex,checkResults,bindApply,getApply,results,pureApply,iteApply,if_pos low]

end Cells
end Specs
end CppSQLite3ResultSet
end DatabaseLayer
