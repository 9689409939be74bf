import DatabaseLayer.ResultSetCursors
import DatabaseLayer.SQLiteLoops

/-! One statement read in two ways: row by row as the library delivers it, and from a table of
all its rows. -/
namespace DatabaseLayer.SQLiteReads
open Platform SQLiteClient Foundation.Program Foundation.Loop Foundation.Position
open SQLiteLoops ResultSetCursors CppSQLite3ResultSet

/-- Every cell of the current row: whether it is NULL, and its text. -/
def readCells : Op CppSQLite3ResultSet (List (Bool × Option CString)) := do
  let nFields ← numFields
  readEach (fun nField => do
    let isNull ← fieldDataIsNull nField
    let value ← fieldValue nField
    return (isNull,value)) (List.range nFields.toNat)

/-- `while (!r.eof()) { read all cells; r.nextRow(); }` -/
def bufferedCursor : Cursor Stop (Scope World CppSQLite3ResultSet) (List (Bool × Option CString)) :=
  ⟨do return (← get).this.eof,readCells,onThis nextRow⟩

/-- What reading a row of pointers gives. -/
def pointed (row : List (Option CString)) : List (Bool × Option CString) :=
  row.map (fun cell => (cell.isNone,cell))

theorem bufferedWalks (table : TableData) :
    Walks sqlite bufferedCursor (table.rows.map pointed) (fun s => Holds table s.this) where
  counts s holds := by rw [List.length_map]; exact (sqliteWalks table).counts s holds
  eof s holds := (sqliteWalks table).eof s holds
  read s i row holds current inRows := by
    rw [List.getElem?_map,Option.map_eq_some_iff] at inRows
    obtain ⟨cells,inTable,rfl⟩ := inRows
    have width : (pointed cells).length = table.names.length := by
      rw [pointed,List.length_map,table.rectangular cells (List.mem_of_getElem? inTable)]
    simp only [bufferedCursor,readCells,bindApply,numFieldsApply holds,Int.toNat_natCast,← width]
    refine readEachRow fun c field inside => ?_
    rw [pointed,List.getElem?_map,Option.map_eq_some_iff] at inside
    obtain ⟨cell,inRow,rfl⟩ := inside
    simp only [bindApply,fieldDataIsNullApply holds current inTable inRow,
      fieldValueApply holds current inTable inRow,pureApply]
  next s holds := (sqliteWalks table).next s holds
  holds s m holds := (sqliteWalks table).holds s m holds

/-- The two calls return the same value, or both throw. -/
inductive Alike {σ τ α : Type} : EStateM.Result Stop σ α → EStateM.Result Stop τ α → Prop where
  | returned (a : α) (s : σ) (t : τ) : Alike (.ok a s) (.ok a t)
  | refused (e f : CppSQLite3Exception) (s : σ) (t : τ) : Alike (.error (.thrown e) s) (.error (.thrown f) t)

section Reads
variable (client : Client) (szSQL : CString)

/-- `db.getResultSet(szSQL)`, when it returns a result set. -/
def buffered (s : Scope World CppSQLite3DB) : Option (Scope World CppSQLite3ResultSet) :=
  match CppSQLite3DB.getResultSet client szSQL s with
  | .ok r t => some ⟨t.world,r⟩
  | .error _ _ => none

/-- Prepared and stepped, the text is one statement that yields these rows and ends. -/
structure Stepped (s : Scope World CppSQLite3DB) (names : List CString) (rows : List (List Value)) : Prop where
  opened : s.this.mpDB ≠ none
  statement : ∀ pDB, s.this.mpDB = some pDB →
    (client.prepare s.world.log pDB szSQL).rc = SQLITE_OK ∧
    (client.prepare s.world.log pDB szSQL).columns = some names ∧
    (execution client s pDB szSQL names).rows = rows ∧ (execution client s pDB szSQL names).ending = SQLITE_DONE

/-- sqlite3_get_table delivers the texts of these rows. -/
structure Tabled (s : Scope World CppSQLite3DB) (names : List CString) (rows : List (List Value)) : Prop where
  opened : s.this.mpDB ≠ none
  reply : ∀ pDB, s.this.mpDB = some pDB →
    (client.getTable s.world.log pDB szSQL).rc = SQLITE_OK ∧
    (client.getTable s.world.log pDB szSQL).table.names = names ∧
    (client.getTable s.world.log pDB szSQL).table.rows = rows.map (fun row => row.map Value.text)

/-- A value without a text is NULL. -/
def Textual (rows : List (List Value)) : Prop :=
  ∀ row ∈ rows, ∀ value ∈ row, value.text = none → value.type = SQLITE_NULL

/-- The loops over the two objects read the same rows, and their columns are the same. -/
structure Agree (q : Scope World CppSQLite3Query) (r : Scope World CppSQLite3ResultSet)
    (rows : List (List Value)) : Prop where
  rows : ∃ t u, Reads (cursor client) q (rows.map shown) t ∧ Reads bufferedCursor r (rows.map shown) u
  numFields : Alike (CppSQLite3Query.numFields q) (numFields r)
  fieldName : ∀ nCol, Alike (CppSQLite3Query.fieldName nCol q) (fieldName nCol r)
  fieldIndex : ∀ szField, Alike (CppSQLite3Query.fieldIndex szField q) (fieldColIndex szField r)

end Reads

section Columns
variable {q : Scope World CppSQLite3Query} {r : Scope World CppSQLite3ResultSet} {id : Nat} {names : List CString}
  {table : TableData} (held : q.this.mpStmt = some id) (columns : (q.world.stmts id).columns = names)
  (count : q.this.mnFieldsCount = names.length) (holds : Holds table r.this) (same : table.names = names)
include held columns count holds same

omit columns in
theorem numFieldsAlike : Alike (CppSQLite3Query.numFields q) (numFields r) := by
  rw [CppSQLite3Query.numFieldsApply held,count,numFieldsApply holds,same]
  exact .returned _ _ _

theorem fieldNameAlike (nCol : Int) : Alike (CppSQLite3Query.fieldName nCol q) (fieldName nCol r) := by
  rw [CppSQLite3Query.fieldNameApply held columns count,fieldNameApply holds,same]
  by_cases inside : 0 ≤ nCol ∧ nCol < names.length
  · rw [if_pos inside,if_pos inside]
    exact .returned _ _ _
  · rw [if_neg inside,if_neg inside]
    exact .refused _ _ _ _

theorem fieldIndexAlike (szField : Option CString) :
    Alike (CppSQLite3Query.fieldIndex szField q) (fieldColIndex szField r) := by
  cases szField with
  | none =>
    rw [CppSQLite3Query.fieldIndexNull held,fieldColIndexNull holds]
    exact .refused _ _ _ _
  | some name =>
    rw [CppSQLite3Query.fieldIndexApply held columns count,fieldColIndexApply holds,same]
    cases names.findIdx? (· = name) with
    | none => exact .refused _ _ _ _
    | some nField => exact .returned _ _ _

end Columns

theorem pointedTexts {rows : List (List Value)} (textual : Textual rows) :
    (rows.map (fun row => row.map Value.text)).map pointed = rows.map shown := by
  rw [List.map_map]
  refine List.map_congr_left fun row inRows => ?_
  simp only [Function.comp_apply,pointed,shown,List.map_map]
  refine List.map_congr_left fun value inRow => ?_
  have null : value.text.isNone = decide (value.type = SQLITE_NULL) := by
    rw [Bool.eq_iff_iff,Option.isNone_iff_eq_none,decide_eq_true_iff]
    exact ⟨textual row inRows value inRow,value.nullText⟩
  simp only [Function.comp_apply,null]

theorem bufferedApply {client : Client} {szSQL : CString} {s : Scope World CppSQLite3DB} {pDB : Nat}
    (opened : s.this.mpDB = some pDB) (ok : (client.getTable s.world.log pDB szSQL).rc = SQLITE_OK) :
    ∃ r, buffered client szSQL s = some r ∧ Holds (client.getTable s.world.log pDB szSQL).table r.this ∧
      r.this.mnCurrentRow = 0 := by
  unfold buffered
  rw [CppSQLite3DB.getResultSetApply client opened]
  dsimp only
  rw [if_pos ok]
  exact ⟨_,rfl,⟨⟨_,rfl⟩,rfl,rfl⟩,rfl⟩

/-- A statement with rows reads the same from the query of execQuery and from the table of
getResultSet, whenever either is made. -/
theorem streamedAsBuffered (client : Client) (szSQL : CString) (s t : Scope World CppSQLite3DB) (names : List CString)
    (rows : List (List Value)) (some : rows ≠ []) (textual : Textual rows) (stepped : Stepped client szSQL s names rows)
    (tabled : Tabled client szSQL t names rows) :
    ∃ q r, direct client szSQL s = .some q ∧ buffered client szSQL t = .some r ∧ Agree client q r rows := by
  obtain ⟨pDB,opened⟩ := Option.ne_none_iff_exists'.mp stepped.opened
  obtain ⟨ok,columns,rfl,done⟩ := stepped.statement pDB opened
  obtain ⟨tDB,tOpened⟩ := Option.ne_none_iff_exists'.mp tabled.opened
  obtain ⟨tOk,sameNames,sameRows⟩ := tabled.reply tDB tOpened
  have first := directApply client opened ok columns done
  have more : 0 < (execution client s pDB szSQL names).rows.length := List.length_pos_iff.mpr some
  rw [decide_eq_false (Nat.ne_of_gt more)] at first
  obtain ⟨r,second,holds,start⟩ := bufferedApply tOpened tOk
  obtain ⟨u,streamed⟩ := leftReads client (begunLeft client _ done more)
  have fits : SQLiteFits r := by
    unfold SQLiteFits
    rw [holds.rows]
    exact TableData.rowCount _
  obtain ⟨v,read⟩ := readsFrom sqliteLawful (bufferedWalks _) fits holds (i := 0) start (Nat.zero_le _)
  rw [List.drop_zero,sameRows,pointedTexts textual] at read
  have stands : ((begun client s pDB szSQL names).stmts s.world.nStmts).columns = names :=
    congrArg Sqlite3Stmt.columns (firstStep client done).2
  exact ⟨_,r,first,second,⟨u,v,streamed,read⟩,numFieldsAlike rfl rfl holds sameNames,
    fieldNameAlike rfl stands rfl holds sameNames,fieldIndexAlike rfl stands rfl holds sameNames⟩

def null : Value := ⟨SQLITE_NULL,none,0,0,[],fun _ => rfl⟩

def oneAndNull : List (List Value) := [[one],[null]]

def delivered : TableData := ⟨[text "n"],oneAndNull.map (fun row => row.map Value.text),by decide,by decide,by decide⟩

def delivering : Client :=
  {answering oneAndNull (by decide) with getTable := fun _ _ _ => {TableReply.empty with table := delivered}}

theorem streamedAsBufferedOneAndNull :
    ∃ q r, direct delivering (text "select n") onOpen = some q ∧
      buffered delivering (text "select n") onOpen = some r ∧ Agree delivering q r oneAndNull :=
  streamedAsBuffered delivering (text "select n") onOpen onOpen [text "n"] oneAndNull (by decide) (by unfold Textual; decide)
    ⟨by decide,fun _ _ => ⟨rfl,rfl,rfl,rfl⟩⟩ ⟨by decide,fun _ _ => ⟨rfl,rfl,rfl⟩⟩

end DatabaseLayer.SQLiteReads
