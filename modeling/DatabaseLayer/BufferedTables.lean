import DatabaseLayer.Foundation.Transcript
import DatabaseLayer.MySQLResultSet
import DatabaseLayer.SQLiteResultSet

/-! The interface the two result sets share, as a table with a position in it. Each of them
answers as the table does: MySQL's from a vector of rows and a map of fields, SQLite's from
one array with the header in front. -/
namespace DatabaseLayer.BufferedTables
open Platform Foundation.Program Foundation.Run Foundation.Transcript
open SQLiteClient (TableData)

inductive Request where
  | numFields
  | numRows
  | fieldColIndex (szField : CString)
  | fieldName (nCol : Int)
  | fieldValue (nField : Int)
  | fieldValueNamed (szField : CString)
  | fieldDataIsNull (nField : Int)
  | eof
  | nextRow
  | seekRow (nRow : Nat)
  deriving DecidableEq, Repr

/-- What a call returns, or that it throws, or that it goes outside defined behaviour. -/
inductive Answer where
  | unit
  | bool (value : Bool)
  | int (value : Int)
  | count (value : Nat)
  | text (value : Option CString)
  | thrown
  | undefined
  deriving DecidableEq, Repr

section Tables
variable (table : TableData)

def columnOf (szField : CString) : Option Nat := table.names.findIdx? (· = szField)

def cellAt (row nField : Nat) : Option (Option CString) := do
  (← table.rows[row]?)[nField]?

def valueAt (row nField : Nat) : Answer :=
  match cellAt table row nField with
  | some (some value) => .text (some value)
  | _ => .undefined

/-- The answer of a table read at a position, and the position after it. -/
def answer (position : Nat) : Request → Answer × Nat
  | .numFields => (.int table.names.length,position)
  | .numRows => (.count table.rows.length,position)
  | .fieldColIndex szField => ((columnOf table szField).elim .thrown (fun c => .int c),position)
  | .fieldName nCol => (if 0 ≤ nCol ∧ nCol < table.names.length then .text table.names[nCol.toNat]? else .thrown,position)
  | .fieldValue nField => (valueAt table position nField.toNat,position)
  | .fieldValueNamed szField => ((columnOf table szField).elim .thrown (valueAt table position),position)
  | .fieldDataIsNull nField =>
    ((cellAt table position nField.toNat).elim .undefined (fun cell => .bool cell.isNone),position)
  | .eof => (.bool (position = table.rows.length),position)
  | .nextRow => (.unit,position + 1)
  | .seekRow nRow => (.int (min nRow (table.rows.length - 1) : Nat),min nRow (table.rows.length - 1))

/-- The requests the interface is made for: it moves on, and reads cells, on a row only, and
reads no text of a NULL cell. -/
def Admits (position : Nat) : Request → Prop
  | .nextRow => position < table.rows.length
  | .fieldDataIsNull nField => position < table.rows.length ∧ 0 ≤ nField ∧ nField < table.names.length
  | .fieldValue nField => position < table.rows.length ∧ 0 ≤ nField ∧
      ∃ value, cellAt table position nField.toNat = some (some value)
  | .fieldValueNamed szField => position < table.rows.length ∧
      ∀ nField, columnOf table szField = some nField → ∃ value, cellAt table position nField = some (some value)
  | _ => True

end Tables

/-- What a call that ended this way answers. -/
def answered {ε σ : Type} (undefined : ε → Bool) : EStateM.Result ε σ Answer → Answer
  | .ok answer _ => answer
  | .error e _ => if undefined e then .undefined else .thrown

section MySQL
open MySQLClient CppMySQLResultSet

def mysqlPerform : Request → Op CppMySQLResultSet Answer
  | .numFields => do return .int (← numFields)
  | .numRows => do return .count (← numRows)
  | .fieldColIndex szField => do return .int (← fieldColIndex (some szField))
  | .fieldName nCol => do return .text (some (← fieldName nCol))
  | .fieldValue nField => do return .text (some (← fieldValue nField))
  | .fieldValueNamed szField => do return .text (some (← fieldValueNamed (some szField)))
  | .fieldDataIsNull nField => do return .bool (← fieldDataIsNull nField)
  | .eof => do return .bool (← get).this.eof
  | .nextRow => do
    onThis nextRow
    return .unit
  | .seekRow nRow => do
    let sought := (← get).this.seekRow nRow
    onThis (fun _ => sought.2)
    return .int sought.1

def mysqlStep (s : Scope World CppMySQLResultSet) (request : Request) : Answer × Scope World CppMySQLResultSet :=
  (answered (· = .undefined) (mysqlPerform request s),left (mysqlPerform request s))

/-- The object holds the table and stands at the position. -/
structure MySQLShows (table : TableData) (position : Nat) (r : CppMySQLResultSet) : Prop where
  results : ∃ addr, r.mpResultSet = some ⟨addr,table.rows.map (fun row => row.map cellText)⟩
  fields : ∃ addr fs entries, r.mpFieldMap = some ⟨addr,entries⟩ ∧ fieldMap 0 fs = .ok entries ∧
    fs.map MysqlField.name = table.names.map some
  rows : r.mnRows = table.rows.length
  cols : r.mnCols = table.names.length
  current : r.mnCurrentRow = position
  bounded : position ≤ table.rows.length

theorem columnsFit (table : TableData) : table.names.length < 2^31 := by
  have size := table.size
  rw [Nat.add_mul,Nat.one_mul] at size
  omega

theorem copiedShows (w : World) {data : ResultData} {entries : List (Int × CString)} {table : TableData}
    (built : fieldMap 0 data.fields = .ok entries) (names : data.fields.map MysqlField.name = table.names.map some)
    (rows : data.rows = table.rows) : MySQLShows table 0 (copied w data entries) := by
  have cols : data.fields.length = table.names.length := by
    rw [← List.length_map MysqlField.name,names,List.length_map]
  exact ⟨⟨_,by rw [← rows]; rfl⟩,⟨_,_,_,rfl,built,names⟩,congrArg List.length rows,cols,rfl,Nat.zero_le _⟩

section Reading
variable {table : TableData} {position : Nat} {s : Scope World CppMySQLResultSet}
  (shows : MySQLShows table position s.this)
include shows

theorem mysqlBuilt : ¬ s.this.mpResultSet = none := by
  obtain ⟨addr,results⟩ := shows.results
  simp [results]

theorem mysqlCell (nField : Nat) :
    CppMySQLResultSet.cellAt s.this nField = (BufferedTables.cellAt table position nField).map cellText := by
  obtain ⟨addr,results⟩ := shows.results
  have low : ¬ (nField : Int) < 0 := by omega
  simp only [CppMySQLResultSet.cellAt,results,shows.current,Option.bind_eq_bind,Option.bind_some,if_neg low,
    Int.toNat_natCast,BufferedTables.cellAt,List.getElem?_map]
  cases table.rows[position]? with
  | none => rfl
  | some row => simp [List.getElem?_map]

theorem mysqlNumFields : numFields s = .ok (table.names.length : Int) s := by
  have fits := columnsFit table
  have same : wrapInt (table.names.length : Int) = table.names.length := wrapIntId (by omega) (by omega)
  simp only [numFields,checkResults,bindApply,getApply,iteApply,if_neg (mysqlBuilt shows),pureApply,shows.cols,same]

theorem mysqlNumRows : numRows s = .ok table.rows.length s := by
  simp only [numRows,checkResults,bindApply,getApply,iteApply,if_neg (mysqlBuilt shows),pureApply,shows.rows]

theorem mysqlColIndex (szField : CString) : fieldColIndex (some szField) s =
    match columnOf table szField with
    | some nField => .ok (nField : Int) s
    | none => .error (.thrown (exception CPPMYSQL_RESULTSET_ERROR (some (text "Invalid field name requested")))) s := by
  obtain ⟨addr,fs,entries,held,built,named⟩ := shows.fields
  have found := fieldMapNamed built named szField
  simp only [fieldColIndex,checkFields,bindApply,getApply,held,pureApply,found,columnOf]
  cases table.names.findIdx? (· = szField) with
  | none => rfl
  | some nField => simp

theorem mysqlFieldName (nCol : Int) : fieldName nCol s =
    match (if 0 ≤ nCol ∧ nCol < table.names.length then table.names[nCol.toNat]? else none) with
    | some name => .ok name s
    | none => .error (.thrown (exception CPPMYSQL_RESULTSET_ERROR (some (text "Invalid nCol index requested")))) s := by
  obtain ⟨addr,fs,entries,held,built,named⟩ := shows.fields
  have fits := columnsFit table
  have same : wrapInt (table.names.length : Int) = table.names.length := wrapIntId (by omega) (by omega)
  simp only [fieldName,checkFields,bindApply,getApply,held,pureApply,shows.cols,same,iteApply,raiseApply]
  by_cases inside : nCol ≥ 0 ∧ nCol < table.names.length
  · have found := fieldMapAt built named nCol.toNat
    have column : (0 : Int) + nCol.toNat = nCol := by omega
    rw [column] at found
    rw [if_pos inside,if_pos inside,found]
    cases table.names[nCol.toNat]? <;> rfl
  · rw [if_neg inside,if_neg inside]

theorem mysqlValue {nField : Nat} {value : CString} (inside : cellAt table position nField = some (some value)) :
    fieldValue nField s = .ok value s :=
  CppMySQLResultSet.fieldValueApply (by rw [mysqlCell shows,inside]; rfl)

end Reading

theorem cellInside {table : TableData} {position nField : Nat} (row : position < table.rows.length)
    (column : nField < table.names.length) : ∃ cell, cellAt table position nField = some cell ∧
      ∃ row ∈ table.rows, cell ∈ row := by
  have width := table.rectangular _ (List.getElem_mem row)
  refine ⟨table.rows[position][nField],?_,_,List.getElem_mem row,List.getElem_mem _⟩
  simp [cellAt,row,width,column]

theorem soughtRow {rows : Nat} (some : 0 < rows) (fits : rows < 2^31) (nRow : Nat) :
    (if nRow ≥ rows then wrapULong ((rows : Int) - 1) else nRow) = min nRow (rows - 1) := by
  split
  · have last : ((rows : Int) - 1) = (rows - 1 : Nat) := by omega
    rw [last,wrapULongId (by omega)]
    omega
  · omega

theorem mysqlAnswers {table : TableData} (some : 0 < table.rows.length)
    (texts : ∀ row ∈ table.rows, ∀ cell ∈ row, cell ≠ .some (text "NULL")) :
    Answers (fun s position => MySQLShows table position s.this) (Admits table) mysqlStep (answer table) := by
  have both : ∀ s position request, MySQLShows table position s.this → Admits table position request →
      (mysqlStep s request).1 = (answer table position request).1 ∧
        MySQLShows table (answer table position request).2 (mysqlStep s request).2.this := by
    intro s position request shows admits
    cases request with
    | numFields => simpa [mysqlStep,mysqlPerform,mysqlNumFields shows,answered,answer] using shows
    | numRows => simpa [mysqlStep,mysqlPerform,mysqlNumRows shows,answered,answer] using shows
    | fieldColIndex szField =>
      simp only [mysqlStep,mysqlPerform,bindApply,mysqlColIndex shows,answer]
      cases columnOf table szField with
      | none => exact ⟨rfl,shows⟩
      | some nField => exact ⟨rfl,shows⟩
    | fieldName nCol =>
      simp only [mysqlStep,mysqlPerform,bindApply,mysqlFieldName shows,answer]
      by_cases inside : 0 ≤ nCol ∧ nCol < table.names.length
      · have below : nCol.toNat < table.names.length := by omega
        rw [if_pos inside,if_pos inside,List.getElem?_eq_getElem below]
        exact ⟨rfl,shows⟩
      · rw [if_neg inside,if_neg inside]
        exact ⟨rfl,shows⟩
    | fieldValue nField =>
      obtain ⟨_,low,value,inside⟩ := admits
      have column : nField = (nField.toNat : Int) := (Int.toNat_of_nonneg low).symm
      have read := mysqlValue shows inside
      rw [← column] at read
      simp only [mysqlStep,mysqlPerform,bindApply,read,answer,valueAt,inside]
      exact ⟨rfl,shows⟩
    | fieldValueNamed szField =>
      obtain ⟨_,cells⟩ := admits
      simp only [mysqlStep,mysqlPerform,fieldValueNamed,bindApply,mysqlColIndex shows,answer]
      cases found : columnOf table szField with
      | none => exact ⟨rfl,shows⟩
      | some nField =>
        obtain ⟨value,inside⟩ := cells nField found
        simp only [mysqlValue shows inside,Option.elim,valueAt,inside]
        exact ⟨rfl,shows⟩
    | fieldDataIsNull nField =>
      obtain ⟨row,low,column⟩ := admits
      obtain ⟨cell,inside,held,inTable,inRow⟩ := cellInside row (show nField.toNat < table.names.length by omega)
      have shown : CppMySQLResultSet.cellAt s.this nField = .some (cellText cell) := by
        have at' := mysqlCell shows nField.toNat
        rw [Int.toNat_of_nonneg low,inside] at at'
        exact at'
      have isNull : decide (cellText cell = text "NULL") = cell.isNone := by
        cases cell with
        | none => exact decide_eq_true rfl
        | some value =>
          have other : value ≠ text "NULL" := fun same => texts held inTable _ inRow (congrArg Option.some same)
          exact decide_eq_false other
      simp only [mysqlStep,mysqlPerform,bindApply,CppMySQLResultSet.fieldDataIsNullApply shown,answer,inside,isNull]
      exact ⟨rfl,shows⟩
    | eof =>
      refine ⟨?_,shows⟩
      simp only [mysqlStep,mysqlPerform,bindApply,getApply,pureApply,answered,answer,CppMySQLResultSet.eof,
        shows.current,shows.rows]
    | nextRow =>
      have below : position < table.rows.length := admits
      have fits := table.rowCount
      have next : wrapULong ((position : Int) + 1) = position + 1 := by
        rw [show (position : Int) + 1 = (position + 1 : Nat) from rfl,wrapULongId (by omega)]
      refine ⟨rfl,shows.results,shows.fields,shows.rows,shows.cols,?_,below⟩
      change wrapULong ((s.this.mnCurrentRow : Int) + 1) = position + 1
      rw [shows.current,next]
    | seekRow nRow =>
      have fits := table.rowCount
      have row : (s.this.seekRow nRow).2.mnCurrentRow = min nRow (table.rows.length - 1) := by
        simp only [seekRow,shows.rows]
        exact soughtRow some fits nRow
      have handed : (s.this.seekRow nRow).1 = (min nRow (table.rows.length - 1) : Nat) := by
        have same : (s.this.seekRow nRow).1 = wrapInt (s.this.seekRow nRow).2.mnCurrentRow := by
          simp only [seekRow]
        rw [same,row,wrapIntId (by omega) (by omega)]
      have stays : MySQLShows table (min nRow (table.rows.length - 1)) (s.this.seekRow nRow).2 :=
        ⟨shows.results,shows.fields,shows.rows,shows.cols,row,by omega⟩
      simp only [mysqlStep,mysqlPerform,bindApply,getApply,onThisApply,pureApply,answered,answer,handed,leftOk]
      exact ⟨trivial,stays⟩
  exact ⟨fun s t i shows admits => (both s t i shows admits).1,fun s t i shows admits => (both s t i shows admits).2⟩

end MySQL

section SQLite
open SQLiteClient CppSQLite3ResultSet

def sqlitePerform : Request → Op CppSQLite3ResultSet Answer
  | .numFields => do return .int (← numFields)
  | .numRows => do return .count (← numRows)
  | .fieldColIndex szField => do return .int (← fieldColIndex (some szField))
  | .fieldName nCol => do return .text (← fieldName nCol)
  | .fieldValue nField => do return .text (← fieldValue nField)
  | .fieldValueNamed szField => do return .text (← fieldValueNamed (some szField))
  | .fieldDataIsNull nField => do return .bool (← fieldDataIsNull nField)
  | .eof => do return .bool (← get).this.eof
  | .nextRow => do
    onThis nextRow
    return .unit
  | .seekRow nRow => do
    let sought := (← get).this.seekRow nRow
    onThis (fun _ => sought.2)
    return .int sought.1

def sqliteStep (s : Scope World CppSQLite3ResultSet) (request : Request) : Answer × Scope World CppSQLite3ResultSet :=
  (answered (· = .undefined) (sqlitePerform request s),left (sqlitePerform request s))

/-- The object holds the table and stands at the position. -/
structure SQLiteShows (table : TableData) (position : Nat) (r : CppSQLite3ResultSet) : Prop where
  holds : r.Holds table
  current : r.mnCurrentRow = position
  bounded : position ≤ table.rows.length

theorem ofTableShows (table : TableData) (addr : Nat) :
    SQLiteShows table 0 (.ofTable ⟨addr,table.pointers⟩ table.rows.length table.names.length) :=
  ⟨⟨⟨addr,rfl⟩,rfl,rfl⟩,rfl,Nat.zero_le _⟩

section Reading
variable {table : TableData} {position : Nat} {s : Scope World CppSQLite3ResultSet}
  (shows : SQLiteShows table position s.this)
include shows

theorem sqliteValue {nField : Nat} {cell : Option CString} (inside : cellAt table position nField = some cell) :
    fieldValue nField s = .ok cell s ∧ fieldDataIsNull nField s = .ok cell.isNone s := by
  simp only [cellAt,Option.bind_eq_bind,Option.bind_eq_some_iff] at inside
  obtain ⟨row,inRows,inRow⟩ := inside
  exact ⟨CppSQLite3ResultSet.fieldValueApply shows.holds shows.current inRows inRow,
    CppSQLite3ResultSet.fieldDataIsNullApply shows.holds shows.current inRows inRow⟩

end Reading

theorem sqliteAnswers {table : TableData} (some : 0 < table.rows.length) :
    Answers (fun s position => SQLiteShows table position s.this) (Admits table) sqliteStep (answer table) := by
  have both : ∀ s position request, SQLiteShows table position s.this → Admits table position request →
      (sqliteStep s request).1 = (answer table position request).1 ∧
        SQLiteShows table (answer table position request).2 (sqliteStep s request).2.this := by
    intro s position request shows admits
    have holds := shows.holds
    cases request with
    | numFields =>
      simpa [sqliteStep,sqlitePerform,CppSQLite3ResultSet.numFieldsApply holds,answered,answer] using shows
    | numRows =>
      simpa [sqliteStep,sqlitePerform,CppSQLite3ResultSet.numRowsApply holds,answered,answer] using shows
    | fieldColIndex szField =>
      simp only [sqliteStep,sqlitePerform,bindApply,CppSQLite3ResultSet.fieldColIndexApply holds,answer,columnOf]
      cases table.names.findIdx? (· = szField) with
      | none => exact ⟨rfl,shows⟩
      | some nField => exact ⟨rfl,shows⟩
    | fieldName nCol =>
      simp only [sqliteStep,sqlitePerform,bindApply,CppSQLite3ResultSet.fieldNameApply holds,answer]
      by_cases inside : 0 ≤ nCol ∧ nCol < table.names.length
      · have below : nCol.toNat < table.names.length := by omega
        rw [if_pos inside,if_pos inside,List.getElem?_eq_getElem below]
        exact ⟨rfl,shows⟩
      · rw [if_neg inside,if_neg inside]
        exact ⟨rfl,shows⟩
    | fieldValue nField =>
      obtain ⟨_,low,value,inside⟩ := admits
      have column : nField = (nField.toNat : Int) := (Int.toNat_of_nonneg low).symm
      have read := (sqliteValue shows inside).1
      rw [← column] at read
      simp only [sqliteStep,sqlitePerform,bindApply,read,answer,valueAt,inside]
      exact ⟨rfl,shows⟩
    | fieldValueNamed szField =>
      obtain ⟨_,cells⟩ := admits
      simp only [sqliteStep,sqlitePerform,bindApply,CppSQLite3ResultSet.fieldValueNamedApply holds,answer]
      cases found : columnOf table szField with
      | none =>
        rw [show table.names.findIdx? (· = szField) = none from found]
        exact ⟨rfl,shows⟩
      | some nField =>
        obtain ⟨value,inside⟩ := cells nField found
        rw [show table.names.findIdx? (· = szField) = .some nField from found]
        simp only [(sqliteValue shows inside).1,Option.elim,valueAt,inside]
        exact ⟨rfl,shows⟩
    | fieldDataIsNull nField =>
      obtain ⟨row,low,column⟩ := admits
      obtain ⟨cell,inside,_⟩ := cellInside row (show nField.toNat < table.names.length by omega)
      have whole : nField = (nField.toNat : Int) := (Int.toNat_of_nonneg low).symm
      have read := (sqliteValue shows inside).2
      rw [← whole] at read
      simp only [sqliteStep,sqlitePerform,bindApply,read,answer,inside]
      exact ⟨rfl,shows⟩
    | eof =>
      have fits := table.rowCount
      have count : wrapInt (s.this.mnRows : Int) = table.rows.length := by
        rw [holds.rows,wrapIntId (by omega) (by omega)]
      refine ⟨?_,shows⟩
      simp only [sqliteStep,sqlitePerform,bindApply,getApply,pureApply,answered,answer,CppSQLite3ResultSet.eof,
        shows.current,count,Int.natCast_inj]
    | nextRow =>
      have below : position < table.rows.length := admits
      have fits := table.rowCount
      have next : s.this.nextRow.mnCurrentRow = (position + 1 : Nat) := by
        rw [nextRowCurrent,shows.current,wrapIntId (by omega) (by omega)]
        rfl
      exact ⟨rfl,holdsNext holds,next,below⟩
    | seekRow nRow =>
      have fits := table.rowCount
      have row : (s.this.seekRow nRow).2.mnCurrentRow = (min nRow (table.rows.length - 1) : Nat) := by
        rw [seekRowCurrent,holds.rows,soughtRow some fits nRow,wrapIntId (by omega) (by omega)]
      have handed : (s.this.seekRow nRow).1 = (min nRow (table.rows.length - 1) : Nat) := by
        rw [← row,seekRowCurrent]
        simp only [seekRow]
      have stays : SQLiteShows table (min nRow (table.rows.length - 1)) (s.this.seekRow nRow).2 :=
        ⟨holdsSeek holds nRow,row,by omega⟩
      simp only [sqliteStep,sqlitePerform,bindApply,getApply,onThisApply,pureApply,answered,answer,handed,leftOk]
      exact ⟨trivial,stays⟩
  exact ⟨fun s t i shows admits => (both s t i shows admits).1,fun s t i shows admits => (both s t i shows admits).2⟩

end SQLite

theorem answerDefined {table : TableData} {position : Nat} {request : Request} (admits : Admits table position request) :
    (answer table position request).1 ≠ .undefined := by
  cases request with
  | fieldColIndex szField => cases found : columnOf table szField <;> simp [answer,found]
  | fieldName nCol =>
    simp only [answer]
    split <;> simp
  | fieldValue nField =>
    obtain ⟨_,_,value,inside⟩ := admits
    simp [answer,valueAt,inside]
  | fieldValueNamed szField =>
    obtain ⟨_,cells⟩ := admits
    cases found : columnOf table szField with
    | none => simp [answer,found]
    | some nField =>
      obtain ⟨value,inside⟩ := cells nField found
      simp [answer,found,valueAt,inside]
  | fieldDataIsNull nField =>
    obtain ⟨row,low,column⟩ := admits
    obtain ⟨cell,inside,_⟩ := cellInside row (show nField.toNat < table.names.length by omega)
    simp [answer,inside]
  | numFields | numRows | eof | nextRow | seekRow => simp [answer]

/-- Two result sets that hold one table with rows cannot be told apart: over every sequence of
admitted calls they return the same values and throw at the same calls. -/
theorem resultSetsInterchangeable (table : TableData) (rows : 0 < table.rows.length)
    (texts : ∀ row ∈ table.rows, ∀ cell ∈ row, cell ≠ some (text "NULL")) {position : Nat}
    {s : Scope MySQLClient.World CppMySQLResultSet} {t : Scope SQLiteClient.World CppSQLite3ResultSet}
    (first : MySQLShows table position s.this) (second : SQLiteShows table position t.this) (requests : List Request)
    (admitted : Guarded (after (answer table)) (Admits table) position requests) :
    transcript mysqlStep s requests = transcript sqliteStep t requests ∧
      .undefined ∉ transcript mysqlStep s requests := by
  have mysql := transcriptsAgree (mysqlAnswers rows texts) first admitted
  have sqlite := transcriptsAgree (sqliteAnswers rows) second admitted
  refine ⟨mysql.trans sqlite.symm,fun inside => ?_⟩
  rw [mysql] at inside
  exact transcriptAll (P := fun o => o ≠ .undefined) (I := fun _ => True) (fun _ _ _ _ => trivial) (fun p i _ admits => answerDefined admits) trivial
    admitted _ inside rfl

def repeated : TableData :=
  ⟨[text "n",text "n"],[[some (text "a"),none]],by decide,by decide,by decide⟩

def repeatedFields : List MySQLClient.MysqlField := [⟨some (text "n"),253⟩,⟨some (text "n"),253⟩]

def repeatedData : MySQLClient.ResultData :=
  ⟨repeatedFields,repeated.rows,by decide,by decide,by decide⟩

def repeatedEntries : List (Int × CString) := [(0,text "n"),(1,text "n")]

def readRepeated : List Request :=
  [.seekRow 7,.fieldColIndex (text "n"),.fieldName 2,.fieldDataIsNull 1,.fieldValueNamed (text "n"),.nextRow,.eof]

theorem repeatedAdmits : Guarded (after (answer repeated)) (Admits repeated) 0 readRepeated := by
  have first : columnOf repeated (text "n") = some 0 := by decide
  have row : 0 < repeated.rows.length := by decide
  unfold readRepeated
  simp only [guardedCons,guardedNil]
  refine ⟨trivial,trivial,trivial,⟨row,by decide⟩,⟨row,fun nField found => ?_⟩,row,trivial,trivial⟩
  cases first.symm.trans found
  exact ⟨text "a",rfl⟩

theorem resultSetsInterchangeableRepeated :
    let s : Scope MySQLClient.World CppMySQLResultSet :=
      ⟨.initial,CppMySQLResultSet.copied .initial repeatedData repeatedEntries⟩
    let t : Scope SQLiteClient.World CppSQLite3ResultSet := ⟨.initial,.ofTable ⟨0,repeated.pointers⟩ 1 2⟩
    transcript mysqlStep s readRepeated = transcript sqliteStep t readRepeated ∧
      .undefined ∉ transcript mysqlStep s readRepeated :=
  resultSetsInterchangeable repeated (by decide) (by decide) (copiedShows .initial rfl rfl rfl)
    (ofTableShows repeated 0) readRepeated repeatedAdmits

end DatabaseLayer.BufferedTables
