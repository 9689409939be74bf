import DatabaseLayer.Foundation.Position
import DatabaseLayer.MySQLResultSet
import DatabaseLayer.SQLiteDB

/-! The positions of the two in-memory result sets. Both are positions in the same sense, in
different integers: unsigned long for MySQL, int for SQLite. -/
namespace DatabaseLayer.ResultSetCursors
open Platform Foundation.Program Foundation.Run Foundation.Loop Foundation.Position

/-- The position stays between the first row and one past the last, and at its end once there. -/
def StaysInRange {σ : Type} (p : Positioned σ) (s : σ) (ms : List Move) : Prop :=
  Throughout (move p) (InRange p) s ms ∧ Guarded (move p) (StaysAtEnd p) s ms

/-- `seekRow(0); while (!eof()) { read the row; nextRow(); }` reads this table. -/
def LoopReads {ε σ ρ : Type} (p : Positioned σ) (c : Cursor ε σ ρ) (s : σ) (table : List ρ) : Prop :=
  ∃ t, Reads c (p.seek 0 s) table t

section MySQL
open MySQLClient CppMySQLResultSet

def mysql : Positioned (Scope World CppMySQLResultSet) where
  rows s := s.this.mnRows
  current s := s.this.mnCurrentRow
  next s := ⟨s.world,s.this.nextRow⟩
  seek n s := ⟨s.world,(s.this.seekRow n).2⟩

/-- The row count is an unsigned long. -/
def MySQLFits (s : Scope World CppMySQLResultSet) : Prop := s.this.mnRows < 2^64

def mysqlCursor : Cursor Stop (Scope World CppMySQLResultSet) (List CString) where
  eof := do return (← get).this.eof
  read := do readEach (fun nField => fieldValue nField) (List.range (← get).this.mnCols)
  next := onThis nextRow

theorem mysqlLawful : Lawful mysql MySQLFits where
  fits s m fits := by cases m <;> exact fits
  rows s m := by cases m <;> rfl
  advances s fits range inside := by
    simp only [MySQLFits,InRange,AtEnd,mysql,nextRow] at *
    rw [show (s.this.mnCurrentRow : Int) + 1 = (s.this.mnCurrentRow + 1 : Nat) from rfl,wrapULongId (by omega)]
  overruns s fits ended := by
    simp only [MySQLFits,InRange,AtEnd,mysql,nextRow,wrapULong] at *
    omega
  clamps s n fits some := by
    simp only [MySQLFits,mysql,seekRow] at *
    split
    · have last : ((s.this.mnRows : Int) - 1) = (s.this.mnRows - 1 : Nat) := by omega
      rw [last,wrapULongId (by omega)]
      omega
    · omega
  misses s n fits none := by
    simp only [InRange,mysql,seekRow] at *
    simp [none,wrapULong]

theorem mysqlWalks (table : List (List CString)) :
    Walks mysql mysqlCursor table (fun s => Holds table s.this) where
  counts s holds := holds.rows
  eof s holds := by
    have same : (s.this.mnCurrentRow = s.this.mnRows) = AtEnd mysql s :=
      propext Int.ofNat_inj.symm
    simp only [mysqlCursor,bindApply,getApply,pureApply,CppMySQLResultSet.eof,same]
  read s i row holds current inRows := by
    have width := holds.cols row (List.mem_of_getElem? inRows)
    have here : s.this.mnCurrentRow = i := Int.ofNat.inj current
    simp only [mysqlCursor,bindApply,getApply,← width]
    exact readEachRow fun c value inRow => fieldValueApply (cellHeld holds (here ▸ inRows) inRow)
  next s holds := rfl
  holds s m holds := by cases m <;> exact ⟨holds.results,holds.rows,holds.cols⟩

end MySQL

section SQLite
open SQLiteClient CppSQLite3ResultSet

def sqlite : Positioned (Scope World CppSQLite3ResultSet) where
  rows s := s.this.mnRows
  current s := s.this.mnCurrentRow
  next s := ⟨s.world,s.this.nextRow⟩
  seek n s := ⟨s.world,(s.this.seekRow n).2⟩

/-- The row count came from the library as an int. -/
def SQLiteFits (s : Scope World CppSQLite3ResultSet) : Prop := s.this.mnRows < 2^31

def sqliteCursor : Cursor Stop (Scope World CppSQLite3ResultSet) (List (Option CString)) where
  eof := do return (← get).this.eof
  read := do
    let nFields ← numFields
    readEach (fun nField => fieldValue nField) (List.range nFields.toNat)
  next := onThis nextRow

theorem sqliteRows (s : Scope World CppSQLite3ResultSet) (m : Move) :
    sqlite.rows (move sqlite s m) = sqlite.rows s := by
  cases m with
  | next => exact nextRowRows _
  | seek n => exact seekRowRows n _

theorem sqliteLawful : Lawful sqlite SQLiteFits where
  fits s m fits := by
    unfold SQLiteFits at fits ⊢
    rw [show (move sqlite s m).this.mnRows = s.this.mnRows from sqliteRows s m]
    exact fits
  rows := sqliteRows
  advances s fits range inside := by
    have next : sqlite.current (sqlite.next s) = _ := nextRowCurrent s.this
    rw [next]
    simp only [SQLiteFits,InRange,AtEnd,sqlite] at *
    rw [wrapIntId (by omega) (by omega)]
  overruns s fits ended := by
    have next : sqlite.current (sqlite.next s) = _ := nextRowCurrent s.this
    have count : sqlite.rows (sqlite.next s) = _ := nextRowRows s.this
    rintro ⟨range,stays⟩
    unfold InRange AtEnd at *
    rw [next,count] at *
    simp only [SQLiteFits,sqlite,wrapInt] at *
    omega
  clamps s n fits some := by
    have sought : sqlite.current (sqlite.seek n s) = _ := seekRowCurrent n s.this
    rw [sought]
    simp only [SQLiteFits,sqlite] at *
    split
    · have last : ((s.this.mnRows : Int) - 1) = (s.this.mnRows - 1 : Nat) := by omega
      rw [last,wrapULongId (by omega),wrapIntId (by omega) (by omega)]
      omega
    · rw [wrapIntId (by omega) (by omega)]
      omega
  misses s n fits none := by
    have sought : sqlite.current (sqlite.seek n s) = _ := seekRowCurrent n s.this
    have empty : s.this.mnRows = 0 := none
    unfold InRange
    rw [sought,empty,if_pos (Nat.zero_le n)]
    exact fun range => absurd range.1 (by decide)

theorem sqliteWalks (table : TableData) :
    Walks sqlite sqliteCursor table.rows (fun s => Holds table s.this) where
  counts s holds := holds.rows
  eof s holds := by
    have fits : s.this.mnRows < 2^31 := holds.rows ▸ table.rowCount
    have same : (s.this.mnCurrentRow = wrapInt s.this.mnRows) = AtEnd sqlite s := by
      rw [wrapIntId (by omega) (by omega)]
      rfl
    simp only [sqliteCursor,bindApply,getApply,pureApply,CppSQLite3ResultSet.eof,same]
  read s i row holds current inRows := by
    have width := table.rectangular row (List.mem_of_getElem? inRows)
    simp only [sqliteCursor,bindApply,numFieldsApply holds,Int.toNat_natCast,← width]
    exact readEachRow fun c cell inRow => fieldValueApply holds current inRows inRow
  next s holds := rfl
  holds s m holds := by
    cases m with
    | next => exact CppSQLite3ResultSet.holdsNext holds
    | seek n => exact CppSQLite3ResultSet.holdsSeek holds n

end SQLite

/-- Whatever rows a result set has and however it is moved, its position stays in range, and at
its end, exactly when it is not moved on from its end and not sought in without rows; and
seeking to the first row and looping reads exactly its rows exactly when it has any. -/
theorem cursorsExactIffSafe (s : Scope MySQLClient.World CppMySQLResultSet)
    (t : Scope SQLiteClient.World CppSQLite3ResultSet) (sFits : MySQLFits s) (tFits : SQLiteFits t) :
    (∀ ms, InRange mysql s → (StaysInRange mysql s ms ↔ Guarded (move mysql) (Safe mysql) s ms)) ∧
    (∀ table, s.this.Holds table → (LoopReads mysql mysqlCursor s table ↔ 0 < table.length)) ∧
    (∀ ms, InRange sqlite t → (StaysInRange sqlite t ms ↔ Guarded (move sqlite) (Safe sqlite) t ms)) ∧
    (∀ table : SQLiteClient.TableData, t.this.Holds table →
      (LoopReads sqlite sqliteCursor t table.rows ↔ 0 < table.rows.length)) :=
  ⟨fun ms start => inRangeIffSafe mysqlLawful sFits start ms,
    fun table holds => readsTableIff mysqlLawful (mysqlWalks table) sFits holds,
    fun ms start => inRangeIffSafe sqliteLawful tFits start ms,
    fun table holds => readsTableIff sqliteLawful (sqliteWalks table) tFits holds⟩

theorem getResultSetHolds {client : SQLiteClient.Client} {szSQL : CString}
    {s t : Scope SQLiteClient.World CppSQLite3DB} {r : CppSQLite3ResultSet}
    (returns : CppSQLite3DB.getResultSet client szSQL s = .ok r t) :
    ∃ pDB, r.Holds (client.getTable s.world.log pDB szSQL).table ∧ r.mnCurrentRow = 0 := by
  cases opened : s.this.mpDB with
  | none =>
    simp only [CppSQLite3DB.getResultSet,CppSQLite3DB.checkDB,bindApply,getApply,opened] at returns
    cases returns
  | some pDB =>
    rw [CppSQLite3DB.getResultSetApply client opened] at returns
    dsimp only at returns
    split at returns
    · cases returns
      exact ⟨pDB,⟨⟨_,rfl⟩,rfl,rfl⟩,rfl⟩
    · cases returns

def noRows : CppMySQLResultSet := ⟨some ⟨0,[]⟩,none,0,0,1⟩

def oneRow : CppMySQLResultSet := ⟨some ⟨0,[[text "a"]]⟩,none,0,1,1⟩

/-- The header of a table of one column. -/
def headerOnly : SQLiteClient.TableData := ⟨[text "n"],[],nofun,by decide,by decide⟩

theorem cursorsExactIffSafePair :
    (StaysInRange mysql ⟨.initial,oneRow⟩ [.seek 5,.next] ↔
      Guarded (move mysql) (Safe mysql) ⟨.initial,oneRow⟩ [.seek 5,.next]) ∧
    (LoopReads mysql mysqlCursor ⟨.initial,oneRow⟩ [[text "a"]] ↔ 0 < 1) :=
  have exact := cursorsExactIffSafe ⟨.initial,oneRow⟩ ⟨.initial,.ofTable ⟨0,headerOnly.pointers⟩ 0 1⟩
    (by unfold MySQLFits; decide) (by unfold SQLiteFits; decide)
  ⟨exact.1 [.seek 5,.next] ⟨by decide,by decide⟩,exact.2.1 [[text "a"]] ⟨⟨0,rfl⟩,rfl,by decide⟩⟩

/-- Without rows, seeking to the first one loses the position of either result set, and the
loop over SQLite's does not read nothing. -/
theorem positionLost : ¬ StaysInRange mysql ⟨.initial,noRows⟩ [.seek 0] ∧
    ¬ StaysInRange sqlite ⟨.initial,.ofTable ⟨0,headerOnly.pointers⟩ 0 1⟩ [.seek 0] ∧
    ¬ LoopReads sqlite sqliteCursor ⟨.initial,.ofTable ⟨0,headerOnly.pointers⟩ 0 1⟩ [] := by
  refine ⟨fun stays => ?_,fun stays => ?_,?_⟩
  · exact absurd (throughoutLast stays.1).2 (by decide)
  · exact absurd (throughoutLast stays.1).1 (by decide)
  · rintro ⟨t,reads⟩
    exact readsSome (t := (move sqlite ⟨.initial,.ofTable ⟨0,headerOnly.pointers⟩ 0 1⟩ (.seek 0))) rfl reads rfl

end DatabaseLayer.ResultSetCursors
