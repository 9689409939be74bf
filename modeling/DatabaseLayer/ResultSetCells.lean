import DatabaseLayer.ExclusiveOwnership
import DatabaseLayer.SQLiteReads

/-! Reading a cell of a result set in memory. Neither backend refuses a row or a column that
is not there: SQLite's flat array is read somewhere else, or past its ends, and so are
MySQL's vectors. -/
namespace DatabaseLayer.ResultSetCells
open Platform Foundation.Program Foundation.Run Foundation.Objects

section Cells
variable {ε σ α : Type} {refusal : ε → Prop} {cell : Option α} {result : EStateM.Result ε σ α}
  {rows : List (List α)} {width row c : Int}

/-- The call returns the cell there is, and is refused where there is none. -/
def Answers (refusal : ε → Prop) (cell : Option α) : EStateM.Result ε σ α → Prop
  | .ok value _ => cell = some value
  | .error e _ => cell = none ∧ refusal e

/-- The call reads the cell where there is one, and is never refused. -/
structure Reads (refusal : ε → Prop) (cell : Option α) (s : σ) (result : EStateM.Result ε σ α) : Prop where
  reads : ∀ value, cell = some value → result = .ok value s
  unrefused : ∀ e t, result = .error e t → ¬ refusal e

theorem readsIff {s : σ} (reads : Reads refusal cell s result) : Answers refusal cell result ↔ cell ≠ none := by
  cases cell with
  | none =>
    refine iff_of_false (fun answers => ?_) (not_not.mpr rfl)
    cases result with
    | ok value t => cases answers
    | error e t => exact reads.unrefused e t rfl answers.2
  | some value =>
    rw [reads.reads value rfl]
    exact iff_of_true rfl nofun

/-- What is made of the cell is right exactly when the cell is. -/
theorem readsMapIff {β : Type} {m : EStateM ε σ α} {s : σ} (reads : Reads refusal cell s (m s)) (f : α → β) :
    Answers refusal (cell.map f) ((do return f (← m)) s) ↔ cell ≠ none := by
  refine Iff.trans (readsIff (s := s) ⟨fun value found => ?_,fun e t stops => ?_⟩) (not_congr Option.map_eq_none_iff)
  · obtain ⟨a,there,rfl⟩ := Option.map_eq_some_iff.mp found
    rw [bindApply,reads.reads a there]
    rfl
  · rw [bindApply] at stops
    cases result : m s with
    | ok a u =>
      rw [result] at stops
      cases stops
    | error e' u =>
      rw [result] at stops
      cases stops
      exact reads.unrefused e t result

theorem answersRefused (none : cell = none) {e : ε} {s : σ} (refused : refusal e) :
    Answers refusal cell (.error e s : EStateM.Result ε σ α) := ⟨none,refused⟩

/-- The cell in a row and a column, both of them int. -/
def cellOf (rows : List (List α)) (width row c : Int) : Option α :=
  if 0 ≤ row ∧ 0 ≤ c ∧ c < width then rows[row.toNat]?.bind (fun cells => cells[c.toNat]?) else none

/-- The row is one of the data rows, and the column one of the columns. -/
def Inside (rows : List (List α)) (width row c : Int) : Prop := 0 ≤ row ∧ row < rows.length ∧ 0 ≤ c ∧ c < width

theorem cellOfSome {value : α} (found : cellOf rows width row c = some value) :
    ∃ (i j : Nat) (cells : List α), row = i ∧ c = j ∧ rows[i]? = some cells ∧ cells[j]? = some value := by
  unfold cellOf at found
  split at found
  · rename_i low
    obtain ⟨cells,inRows,inRow⟩ := Option.bind_eq_some_iff.mp found
    exact ⟨row.toNat,c.toNat,cells,(Int.toNat_of_nonneg low.1).symm,(Int.toNat_of_nonneg low.2.1).symm,inRows,inRow⟩
  · cases found

theorem cellOfIff (wide : ∀ cells ∈ rows, width ≤ cells.length) : cellOf rows width row c ≠ none ↔ Inside rows width row c := by
  constructor
  · intro found
    obtain ⟨value,same⟩ := Option.ne_none_iff_exists'.mp found
    unfold cellOf at same
    split at same
    · rename_i low
      obtain ⟨cells,inRows,_⟩ := Option.bind_eq_some_iff.mp same
      obtain ⟨below,_⟩ := List.getElem?_eq_some_iff.mp inRows
      exact ⟨low.1,by omega,low.2⟩
    · cases same
  · rintro ⟨low,below,inside⟩
    have inRows : row.toNat < rows.length := by omega
    have inRow : c.toNat < rows[row.toNat].length := by
      have long := wide rows[row.toNat] (List.getElem_mem inRows)
      omega
    unfold cellOf
    rw [if_pos ⟨low,inside⟩,List.getElem?_eq_getElem inRows,Option.bind_some,List.getElem?_eq_getElem inRow]
    exact nofun

end Cells

section SQLite
open SQLiteClient CppSQLite3ResultSet
variable {shown : Option TableData} {s : Scope World CppSQLite3ResultSet} {c : Int}

/-- The object holds no results, or those of this table. -/
def SQLiteShows (shown : Option TableData) (r : CppSQLite3ResultSet) : Prop :=
  match shown with
  | none => r.mpaszResults = none
  | some table => r.Holds table

def sqliteRefusal (e : Stop) : Prop := ∃ x, e = .thrown x ∧ x.nErrCode = CPPQLITE3_RESULTSET_ERROR

def sqliteCell (shown : Option TableData) (r : CppSQLite3ResultSet) (c : Int) : Option (Option CString) :=
  shown.bind (fun table => cellOf table.rows table.names.length r.mnCurrentRow c)

def SQLiteInside (shown : Option TableData) (r : CppSQLite3ResultSet) (c : Int) : Prop :=
  ∃ table ∈ shown, Inside table.rows table.names.length r.mnCurrentRow c

theorem undefinedUnrefused : ¬ sqliteRefusal .undefined := nofun

/-- No column is refused: it is not negative, or below the number of columns. -/
theorem readsAnywhere {table : TableData} (holds : s.this.Holds table) (c : Int) : ∃ index,
    fieldValue c s = pointerAt table.pointers index s ∧
    fieldDataIsNull c s = (do return (← fieldValue c).isNone) s := by
  obtain ⟨⟨addr,results⟩,_,cols⟩ := holds
  have anywhere : c ≥ 0 ∨ c ≤ s.this.mnCols - 1 := by omega
  have passes : checkResults s = .ok table.pointers s := by
    simp only [checkResults,bindApply,getApply,results,pureApply]
  refine ⟨wrapInt (wrapInt (wrapInt (s.this.mnCurrentRow * s.this.mnCols) + s.this.mnCols) + c),?_,?_⟩
  · simp only [fieldValue,fieldRealIndex,bindApply,passes,getApply,iteApply,if_pos anywhere,pureApply]
  · simp only [fieldValue,fieldDataIsNull,fieldRealIndex,bindApply,passes,getApply,iteApply,if_pos anywhere,pureApply]

theorem pointerEnds (pointers : List (Option CString)) (index : Int) (s : Scope World CppSQLite3ResultSet) :
    (∃ pointer, pointerAt pointers index s = .ok pointer s) ∨ pointerAt pointers index s = .error .undefined s := by
  unfold pointerAt
  by_cases low : index < 0
  · rw [if_pos low]
    exact .inr rfl
  · rw [if_neg low]
    cases pointers[index.toNat]? with
    | none => exact .inr rfl
    | some pointer => exact .inl ⟨pointer,rfl⟩

theorem sqliteUnheld (none : s.this.mpaszResults = none) (c : Int) :
    (∃ e, fieldValue c s = .error e s ∧ sqliteRefusal e) ∧ (∃ e, fieldDataIsNull c s = .error e s ∧ sqliteRefusal e) := by
  simp only [fieldValue,fieldDataIsNull,fieldRealIndex,checkResults,bindApply,getApply,none,raiseApply]
  exact ⟨⟨_,rfl,_,rfl,rfl⟩,⟨_,rfl,_,rfl,rfl⟩⟩

theorem sqliteInsideIff {table : TableData} {r : CppSQLite3ResultSet} (c : Int) :
    sqliteCell (some table) r c ≠ none ↔ some table = none ∨ SQLiteInside (some table) r c := by
  have wide : ∀ cells ∈ table.rows, (table.names.length : Int) ≤ cells.length :=
    fun cells inside => Int.ofNat_le.mpr (Nat.le_of_eq (table.rectangular cells inside).symm)
  refine (cellOfIff wide).trans ⟨fun inside => .inr ⟨table,rfl,inside⟩,fun either => ?_⟩
  obtain ⟨_,same,inside⟩ := either.resolve_left nofun
  cases same
  exact inside

theorem sqliteReads {table : TableData} (holds : s.this.Holds table) (c : Int) :
    Reads sqliteRefusal (sqliteCell (some table) s.this c) s (fieldValue c s) := by
  refine ⟨fun value found => ?_,fun e t stops => ?_⟩
  · obtain ⟨i,j,cells,row,rfl,inRows,inRow⟩ := cellOfSome found
    exact fieldValueApply holds row inRows inRow
  · obtain ⟨index,reads,_⟩ := readsAnywhere holds c
    obtain ⟨pointer,result⟩ | result := pointerEnds table.pointers index s
    · cases (reads.trans result).symm.trans stops
    · cases (reads.trans result).symm.trans stops
      exact undefinedUnrefused

theorem sqliteValueIff (shows : SQLiteShows shown s.this) (c : Int) :
    Answers sqliteRefusal (sqliteCell shown s.this c) (fieldValue c s) ↔ shown = none ∨ SQLiteInside shown s.this c := by
  cases shown with
  | none =>
    obtain ⟨e,refused,code⟩ := (sqliteUnheld shows c).1
    rw [refused]
    exact iff_of_true (answersRefused rfl code) (.inl rfl)
  | some table => exact (readsIff (sqliteReads shows c)).trans (sqliteInsideIff c)

theorem sqliteNullIff (shows : SQLiteShows shown s.this) (c : Int) :
    Answers sqliteRefusal ((sqliteCell shown s.this c).map Option.isNone) (fieldDataIsNull c s) ↔
      shown = none ∨ SQLiteInside shown s.this c := by
  cases shown with
  | none =>
    obtain ⟨e,refused,code⟩ := (sqliteUnheld shows c).2
    rw [refused]
    exact iff_of_true (answersRefused rfl code) (.inl rfl)
  | some table =>
    obtain ⟨_,_,null⟩ := readsAnywhere shows c
    rw [null]
    exact (readsMapIff (sqliteReads shows c) Option.isNone).trans (sqliteInsideIff c)

section Systems
open SQLiteSystem CppSQLite3DB
variable {client : Client} {k : System}

theorem sqliteReturned {op : Operation} {u t : Scope World CppSQLite3DB} {r : CppSQLite3ResultSet}
    (returns : perform client op u = .ok (.resultSet r) t) : ∃ shown, SQLiteShows shown r := by
  cases op with
  | getResultSet szSQL =>
    simp only [perform,bindApply] at returns
    cases result : getResultSet client szSQL u with
    | ok r' t' =>
      rw [result] at returns
      cases returns
      obtain ⟨_,holds,_⟩ := ResultSetCursors.getResultSetHolds result
      exact ⟨some _,holds⟩
    | error e t' =>
      rw [result] at returns
      cases returns
  | execQuery szSQL =>
    simp only [perform,bindApply] at returns
    cases result : CppSQLite3DB.execQuery client szSQL u <;> rw [result] at returns <;> cases returns
  | compileStatement szSQL =>
    simp only [perform,bindApply] at returns
    cases result : compileStatement client szSQL u <;> rw [result] at returns <;> cases returns
  | _ => cases SQLiteHandles.plainReturned rfl returns

/-- Every result set holds nothing, or a table. -/
def SQLiteKept (s : System) : Prop := All (fun r => ∃ shown, SQLiteShows shown r) s.resultSets

theorem sqliteEmptied (r : CppSQLite3ResultSet) : ∃ shown, SQLiteShows shown {r with mpaszResults := none} := ⟨none,rfl⟩

theorem sqliteMoved {r : CppSQLite3ResultSet} (kept : ∃ shown, SQLiteShows shown r) (row : Int) :
    ∃ shown, SQLiteShows shown (r.setCurrentRow row) := by
  obtain ⟨shown,shows⟩ := kept
  refine ⟨shown,?_⟩
  cases shown with
  | none => exact shows
  | some table => exact holdsSet shows row

theorem sqliteCleared (u : Scope World CppSQLite3ResultSet) : ∃ shown, SQLiteShows shown (left (clear u)).this := by
  simp only [clear,bindApply,getApply]
  cases held : u.this.mpaszResults with
  | none => exact ⟨none,held⟩
  | some table => exact sqliteEmptied _

theorem sqliteAssigned (rResultSet : CppSQLite3ResultSet) (u : Scope World CppSQLite3ResultSet) :
    ∃ w, CppSQLite3ResultSet.assign rResultSet u = .ok {rResultSet with mpaszResults := none} ⟨w,rResultSet⟩ := by
  simp only [CppSQLite3ResultSet.assign,clear,swallow,bindApply,getApply]
  cases u.this.mpaszResults with
  | none => exact ⟨_,rfl⟩
  | some table => exact ⟨_,rfl⟩

theorem sqliteStepKept (client : Client) (s : System) (cmd : Command) (kept : SQLiteKept s) : SQLiteKept (step client s cmd) := by
  unfold SQLiteKept at kept ⊢
  cases cmd with
  | operate k i op =>
    simp only [step]
    split
    · cases result : perform client op ⟨s.world,s.databases k⟩ with
      | error e t => exact kept
      | ok r t =>
        cases r with
        | resultSet r =>
          exact allPut kept i (sqliteReturned result)
        | _ => exact kept
    · exact kept
  | newResultSet i =>
    simp only [step]
    split
    · exact allPut kept i ⟨none,rfl⟩
    · exact kept
  | copyResultSet i j =>
    simp only [step]
    split
    · rename_i r _ source
      exact allCopied kept i j (kept j r source) (sqliteEmptied r)
    · exact kept
  | assignResultSet i j =>
    simp only [step]
    split
    · exact kept
    · split
      · rename_i q r _ source
        obtain ⟨w,result⟩ := sqliteAssigned r ⟨s.world,q⟩
        rw [result]
        exact allCopied kept i j (kept j r source) (sqliteEmptied r)
      · exact kept
  | nextRow i =>
    simp only [step]
    split
    · rename_i r live
      exact allPut kept i (sqliteMoved (kept i r live) _)
    · exact kept
  | seekRow i nRow =>
    simp only [step]
    split
    · rename_i r live
      exact allPut kept i (sqliteMoved (kept i r live) _)
    · exact kept
  | clearResultSet i =>
    simp only [step]
    split
    · rename_i r live
      exact allUsed kept i (sqliteCleared ⟨s.world,r⟩)
    · exact kept
  | destroyResultSet i =>
    simp only [step]
    split
    · exact allRemoved kept i
    · exact kept
  | execQuery i k =>
    simp only [step]
    split
    · rename_i o _ _
      cases CppSQLite3Statement.execQuery client ⟨s.world,o⟩ <;> exact kept
    · exact kept
  | assignQuery i j | assignStatement i j =>
    simp only [step]
    split
    · exact kept
    · split <;> exact kept
  | newQuery i | copyQuery i j | query i request | destroyQuery i | newStatement i | copyStatement i j
  | statement i request | destroyStatement i =>
    simp only [step]
    split <;> exact kept

end Systems
end SQLite

section MySQL
open MySQLClient CppMySQLResultSet
variable {shown : Option (List (List CString))} {s : Scope World CppMySQLResultSet} {c : Int}

/-- The object holds no results, or this table. -/
def MySQLShows (shown : Option (List (List CString))) (r : CppMySQLResultSet) : Prop :=
  match shown with
  | none => r.mpResultSet = none
  | some table => r.Holds table

def mysqlRefusal (e : Stop) : Prop := ∃ x, e = .thrown x ∧ x.nErrCode = CPPMYSQL_RESULTSET_ERROR

def mysqlCell (shown : Option (List (List CString))) (r : CppMySQLResultSet) (c : Int) : Option CString :=
  shown.bind (fun table => cellOf table (wrapInt r.mnCols) r.mnCurrentRow c)

def MySQLInside (shown : Option (List (List CString))) (r : CppMySQLResultSet) (c : Int) : Prop :=
  ∃ table ∈ shown, Inside table (wrapInt r.mnCols) r.mnCurrentRow c

theorem undefinedAccepted : ¬ mysqlRefusal .undefined := nofun

theorem nothingInside {r : CppMySQLResultSet} : ¬ MySQLInside none r c := nofun

theorem wrapIntBelow (n : Nat) : wrapInt n ≤ n := by
  unfold wrapInt
  omega

theorem mysqlInsideIff {table : List (List CString)} (shows : MySQLShows (some table) s.this) (c : Int) :
    mysqlCell (some table) s.this c ≠ none ↔ MySQLInside (some table) s.this c := by
  have wide : ∀ cells ∈ table, wrapInt s.this.mnCols ≤ cells.length := by
    intro cells inside
    rw [shows.cols cells inside]
    exact wrapIntBelow _
  refine (cellOfIff wide).trans ⟨fun inside => ⟨table,rfl,inside⟩,fun within => ?_⟩
  obtain ⟨_,same,inside⟩ := within
  cases same
  exact inside

theorem mysqlFound {table : List (List CString)} (shows : MySQLShows (some table) s.this) {value : CString}
    (found : mysqlCell (some table) s.this c = some value) : cellAt s.this c = some value := by
  obtain ⟨i,j,cells,row,rfl,inRows,inRow⟩ := cellOfSome found
  have same : s.this.mnCurrentRow = i := by omega
  exact cellHeld shows (by rw [same]; exact inRows) inRow

theorem mysqlReads {table : List (List CString)} (shows : MySQLShows (some table) s.this) (c : Int) :
    Reads mysqlRefusal (mysqlCell (some table) s.this c) s (fieldValue c s) ∧
    fieldDataIsNull c s = (do return decide ((← fieldValue c) = text "NULL")) s := by
  obtain ⟨addr,results⟩ := shows.results
  have built : ¬ s.this.mpResultSet = none := by simp [results]
  have missing : cellAt s.this c = none → fieldValue c s = .error .undefined s := by
    intro none
    simp only [fieldValue,checkResults,bindApply,getApply,iteApply,if_neg built,pureApply,none,undefinedApply]
  refine ⟨⟨fun value found => fieldValueApply (mysqlFound shows found),fun e t stops => ?_⟩,?_⟩
  · cases found : cellAt s.this c with
    | some value => cases (fieldValueApply found).symm.trans stops
    | none =>
      cases (missing found).symm.trans stops
      exact undefinedAccepted
  · cases found : cellAt s.this c with
    | some value => simp only [fieldDataIsNull,bindApply,getApply,found,fieldValueApply found]
    | none => simp only [fieldDataIsNull,bindApply,getApply,found,missing found,undefinedApply]

theorem mysqlValueIff (shows : MySQLShows shown s.this) (c : Int) :
    Answers mysqlRefusal (mysqlCell shown s.this c) (fieldValue c s) ↔ shown = none ∨ MySQLInside shown s.this c := by
  cases shown with
  | none =>
    have none : s.this.mpResultSet = none := shows
    simp only [fieldValue,checkResults,bindApply,getApply,iteApply,none,if_true,raiseApply]
    exact iff_of_true (answersRefused rfl ⟨_,rfl,rfl⟩) (.inl trivial)
  | some table =>
    have inside := mysqlInsideIff shows c
    exact (readsIff (mysqlReads shows c).1).trans (inside.trans (or_iff_right (Option.some_ne_none table)).symm)

/-- Without results, fieldDataIsNull goes wrong before anything is refused. -/
theorem mysqlNullIff (shows : MySQLShows shown s.this) (c : Int) :
    Answers mysqlRefusal ((mysqlCell shown s.this c).map (fun value => decide (value = text "NULL"))) (fieldDataIsNull c s) ↔
      MySQLInside shown s.this c := by
  cases shown with
  | none =>
    have nothing : cellAt s.this c = none := by
      have none : s.this.mpResultSet = none := shows
      simp only [cellAt,none]
      rfl
    simp only [fieldDataIsNull,bindApply,getApply,nothing,undefinedApply]
    exact iff_of_false (fun answers => undefinedAccepted answers.2) nothingInside
  | some table =>
    obtain ⟨reads,null⟩ := mysqlReads shows c
    rw [null]
    exact (readsMapIff reads _).trans (mysqlInsideIff shows c)

/-- A call as before, or one that moves a result set. -/
inductive Event where
  | base (e : ExclusiveOwnership.Event)
  | nextRow (i : Nat)
  | seekRow (i nRow : Nat)
  deriving DecidableEq, Repr

section Systems
open MySQLSystem
variable {client : Client}

def mysqlStep (client : Client) (s : System) : Event → System
  | .base e => ExclusiveOwnership.mysqlStep client s e
  | .nextRow i => match s.resultSets i with
    | some r => {s with resultSets := Function.update s.resultSets i (some r.nextRow)}
    | none => s
  | .seekRow i nRow => match s.resultSets i with
    | some r => {s with resultSets := Function.update s.resultSets i (some (r.seekRow nRow).2)}
    | none => s

def MySQLKept (s : System) : Prop := All (fun r => ∃ shown, MySQLShows shown r) s.resultSets

theorem mysqlReturned {szSQL : CString} {u t : Scope World CppMySQLDB} {r : CppMySQLResultSet}
    (returns : CppMySQLDB.getResultSet client szSQL u = .ok r t) : ∃ shown, MySQLShows shown r := by
  rw [CppMySQLDB.getResultSetApply] at returns
  split at returns
  · dsimp only at returns
    split at returns
    · cases kept : (CppMySQLDB.stored client (CppMySQLDB.asked client u (.realQuery szSQL))).1 with
      | none =>
        rw [kept] at returns
        cases returns
        exact ⟨none,rfl⟩
      | some res =>
        obtain ⟨data,_,fresh,_⟩ := CppMySQLDB.storedFresh client kept
        rw [kept,ofRESApply res data _ fresh] at returns
        cases mapped : fieldMap 0 data.fields with
        | ok entries =>
          simp only [mapped] at returns
          cases returns
          exact ⟨some _,copiedHolds _ data entries⟩
        | error nCol =>
          simp only [mapped] at returns
          cases returns
    · cases returns
  · cases returns

theorem mysqlEmptied (r : CppMySQLResultSet) :
    ∃ shown, MySQLShows shown {r with mpResultSet := none, mpFieldMap := none} := ⟨none,rfl⟩

theorem mysqlMoved {r : CppMySQLResultSet} (kept : ∃ shown, MySQLShows shown r) (row : Nat) :
    ∃ shown, MySQLShows shown {r with mnCurrentRow := row} := by
  obtain ⟨shown,shows⟩ := kept
  refine ⟨shown,?_⟩
  cases shown with
  | none => exact shows
  | some table => exact ⟨shows.results,shows.rows,shows.cols⟩

theorem commandKept (client : Client) (s : System) (c : Command) (kept : MySQLKept s) : MySQLKept (step client s c) := by
  unfold MySQLKept at kept ⊢
  by_cases queries : onQueries c = true
  · rw [(queriesOnly client s queries).1]
    exact kept
  cases c with
  | getResultSet mpDB i szSQL =>
    simp only [step]
    split
    · exact allCreated kept i fun _ _ returns => mysqlReturned returns
    · exact kept
  | newResultSet i =>
    simp only [step]
    split
    · exact allPut kept i ⟨none,rfl⟩
    · exact kept
  | copyResultSet i j =>
    simp only [step]
    split
    · rename_i r _ source
      exact allCopied kept i j (mysqlMoved (kept j r source) 0) (mysqlEmptied r)
    · exact kept
  | assignResultSet i j =>
    simp only [step]
    split
    · exact kept
    · split
      · rename_i q r _ source
        rw [assignApply]
        exact allCopied kept i j (kept j r source) (mysqlEmptied r)
      · exact kept
  | clearResultSet i =>
    simp only [step]
    split
    · rename_i r _
      rw [clearApply]
      exact allUsed kept i (mysqlEmptied r)
    · exact kept
  | destroyResultSet i =>
    simp only [step]
    split
    · exact allRemoved kept i
    · exact kept
  | assignStatement i j =>
    simp only [step]
    split
    · exact kept
    · split <;> exact kept
  | compileStatement mpDB i szSQL | newStatement i | copyStatement i j | statement i request | destroyStatement i =>
    simp only [step]
    split <;> exact kept
  | _ => exact absurd rfl queries

theorem mysqlStepKept (client : Client) (s : System) (e : Event) (kept : MySQLKept s) : MySQLKept (mysqlStep client s e) := by
  cases e with
  | base e =>
    cases e with
    | command c => exact commandKept client s c kept
    | operation mpDB op =>
      simp only [mysqlStep,ExclusiveOwnership.mysqlStep]
      split <;> exact kept
  | nextRow i =>
    unfold MySQLKept at kept ⊢
    simp only [mysqlStep]
    split
    · rename_i r live
      exact allPut kept i (mysqlMoved (kept i r live) _)
    · exact kept
  | seekRow i nRow =>
    unfold MySQLKept at kept ⊢
    simp only [mysqlStep]
    split
    · rename_i r live
      exact allPut kept i (mysqlMoved (kept i r live) _)
    · exact kept

end Systems
end MySQL

/-- Each accessor returns the cell that is there and refuses what is not exactly when the
object holds nothing or the cell is there. -/
structure SQLiteExact (s : Scope SQLiteClient.World CppSQLite3ResultSet) (shown : Option SQLiteClient.TableData) : Prop where
  shows : SQLiteShows shown s.this
  value : ∀ c, Answers sqliteRefusal (sqliteCell shown s.this c) (CppSQLite3ResultSet.fieldValue c s) ↔
    shown = none ∨ SQLiteInside shown s.this c
  null : ∀ c, Answers sqliteRefusal ((sqliteCell shown s.this c).map Option.isNone) (CppSQLite3ResultSet.fieldDataIsNull c s) ↔
    shown = none ∨ SQLiteInside shown s.this c

/-- Here fieldDataIsNull is wrong about an object that holds nothing, too. -/
structure MySQLExact (s : Scope MySQLClient.World CppMySQLResultSet) (shown : Option (List (List CString))) : Prop where
  shows : MySQLShows shown s.this
  value : ∀ c, Answers mysqlRefusal (mysqlCell shown s.this c) (CppMySQLResultSet.fieldValue c s) ↔
    shown = none ∨ MySQLInside shown s.this c
  null : ∀ c, Answers mysqlRefusal ((mysqlCell shown s.this c).map (fun value => decide (value = text "NULL")))
    (CppMySQLResultSet.fieldDataIsNull c s) ↔ MySQLInside shown s.this c

/-- In every state of every run, the accessors of every result set of either backend are right
about exactly the cells that are there, and about objects without results, but for
MySQL's fieldDataIsNull. -/
theorem cellsExact (sqlite : SQLiteClient.Client) (mysql : MySQLClient.Client) (cmds : List SQLiteSystem.Command)
    (events : List Event) :
    Throughout (SQLiteSystem.step sqlite)
      (fun s => ∀ i r, s.resultSets i = some r → ∃ shown, SQLiteExact ⟨s.world,r⟩ shown) .initial cmds ∧
    Throughout (mysqlStep mysql)
      (fun s => ∀ i r, s.resultSets i = some r → ∃ shown, MySQLExact ⟨s.world,r⟩ shown) (.initial .initial) events := by
  have sqliteStart : SQLiteKept .initial := allEmpty
  have mysqlStart : MySQLKept (.initial .initial) := allEmpty
  constructor
  · refine throughoutMono (fun s kept i r live => ?_) (invariantThroughout (sqliteStepKept sqlite) sqliteStart cmds)
    obtain ⟨shown,shows⟩ := kept i r live
    exact ⟨shown,shows,sqliteValueIff (s := ⟨s.world,r⟩) shows,sqliteNullIff (s := ⟨s.world,r⟩) shows⟩
  · refine throughoutMono (fun s kept i r live => ?_) (invariantThroughout (mysqlStepKept mysql) mysqlStart events)
    obtain ⟨shown,shows⟩ := kept i r live
    exact ⟨shown,shows,mysqlValueIff (s := ⟨s.world,r⟩) shows,mysqlNullIff (s := ⟨s.world,r⟩) shows⟩

open SQLiteReads (delivering delivered)

/-- Left of the first column stands the header, and a result set that holds nothing is looked into. -/
theorem cellsMisread :
    (∃ r, (run (SQLiteSystem.step delivering) .initial
        [.operate 0 0 (.openDB (text "f")),.operate 0 1 (.getResultSet (text "select n"))]).resultSets 1 = some r ∧
      SQLiteShows (some delivered) r ∧
      ¬ Answers sqliteRefusal (sqliteCell (some delivered) r (-1)) (CppSQLite3ResultSet.fieldValue (-1) ⟨.initial,r⟩)) ∧
    ∃ r, (run (mysqlStep .obliging) (.initial .initial) [.base (.command (.newResultSet 0))]).resultSets 0 = some r ∧
      MySQLShows none r ∧ ¬ Answers mysqlRefusal ((mysqlCell none r 0).map (fun value => decide (value = text "NULL")))
        (CppMySQLResultSet.fieldDataIsNull 0 ⟨.initial,r⟩) := by
  constructor
  · have shows : SQLiteShows (some delivered) (.ofTable ⟨0,delivered.pointers⟩ 2 1) := ⟨⟨0,rfl⟩,rfl,rfl⟩
    refine ⟨.ofTable ⟨0,delivered.pointers⟩ 2 1,rfl,shows,fun answers => ?_⟩
    have either := (sqliteValueIff (s := ⟨.initial,.ofTable ⟨0,delivered.pointers⟩ 2 1⟩) shows (-1)).mp answers
    obtain ⟨_,_,_,_,low,_⟩ := either.resolve_left nofun
    exact absurd low (by decide)
  · have shows : MySQLShows none .new := rfl
    refine ⟨.new,rfl,shows,fun answers => ?_⟩
    obtain ⟨_,there,_⟩ := (mysqlNullIff (s := ⟨.initial,.new⟩) shows 0).mp answers
    cases there

end DatabaseLayer.ResultSetCells
