import DatabaseLayer.ResultSetCursors
import Mathlib.Logic.Equiv.Fin.Basic
import Mathlib.Order.Interval.Set.Defs

/-! The flat array behind a CppSQLite3ResultSet: the names of the columns, then the cells row
after row, found by multiplication in int. -/
namespace DatabaseLayer.FlatTable
open Platform SQLiteClient Foundation.Program Foundation.Run Foundation.Position CppSQLite3ResultSet ResultSetCursors

/-- The values the expression `(m_nCurrentRow * m_nCols) + m_nCols + nField` goes through. -/
def intermediates (r : CppSQLite3ResultSet) (nField : Int) : List Int :=
  [r.mnCurrentRow * r.mnCols,r.mnCurrentRow * r.mnCols + r.mnCols,r.mnCurrentRow * r.mnCols + r.mnCols + nField]

def FitsInt (x : Int) : Prop := -2^31 ≤ x ∧ x < 2^31

abbrev Row (table : TableData) := Fin table.rows.length
abbrev Column (table : TableData) := Fin table.names.length

abbrev Slot (table : TableData) := Set.Ico table.names.length ((table.rows.length + 1) * table.names.length)

section Slots
variable (table : TableData)

theorem slotInside (cell : Row table × Column table) : table.names.length + (finProdFinEquiv cell).val ∈ Slot table := by
  have below := (finProdFinEquiv cell).isLt
  rw [Set.mem_Ico,Nat.add_mul]
  omega

def slot (cell : Row table × Column table) : Slot table := ⟨_,slotInside table cell⟩

theorem slotBijective : Function.Bijective (slot table) := by
  constructor
  · intro a b same
    have values : table.names.length + (finProdFinEquiv a).val = table.names.length + (finProdFinEquiv b).val :=
      congrArg Subtype.val same
    exact finProdFinEquiv.injective (Fin.ext (by omega))
  · rintro ⟨k,low,high⟩
    rw [Nat.add_mul] at high
    obtain ⟨cell,found⟩ := finProdFinEquiv.surjective (⟨k - table.names.length,by omega⟩ :
      Fin (table.rows.length * table.names.length))
    refine ⟨cell,Subtype.ext ?_⟩
    change table.names.length + (finProdFinEquiv cell).val = k
    rw [found]
    exact Nat.add_sub_cancel' low

end Slots

def AtRow (table : TableData) (s : Scope World CppSQLite3ResultSet) : Prop :=
  0 ≤ s.this.mnCurrentRow ∧ s.this.mnCurrentRow < table.rows.length

/-- What the two overloads of fieldRealIndex compute at a row and a column, and what is there. -/
structure Addressed (table : TableData) (s : Scope World CppSQLite3ResultSet) (r : Row table) (c : Column table) : Prop where
  current : s.this.mnCurrentRow = r.val
  exact : ∀ x ∈ intermediates s.this c.val, FitsInt x
  byIndex : fieldRealIndex c.val s = .ok ((slot table (r,c)).val : Int) s
  byName : ∀ szField, table.names.findIdx? (· = szField) = some c.val →
    fieldRealIndexNamed (some szField) s = .ok ((slot table (r,c)).val : Int) s
  value : ∀ cell, table.rows[r][c.val]? = some cell → fieldValue c.val s = .ok cell s

/-- Every cell has one of the places behind the header to itself, and none is left over; at
whatever rows a run of moves keeps to, the cells are addressed there; and any row can be sought. -/
structure FlatAddressing (table : TableData) : Prop where
  bijective : Function.Bijective (slot table)
  addressed : ∀ s moves, Holds table s.this → Throughout (move sqlite) (AtRow table) s moves →
    ∃ r, ∀ c, Addressed table (run (move sqlite) s moves) r c
  reached : ∀ s (r : Row table), Holds table s.this →
    Holds table (move sqlite s (.seek r)).this ∧ (move sqlite s (.seek r)).this.mnCurrentRow = r.val

section Addresses
variable {table : TableData} {s : Scope World CppSQLite3ResultSet}

theorem intermediatesFit {r c width total : Nat} (below : r < total) (inside : c < width)
    (size : (total + 1) * width < 2^31) :
    FitsInt ((r : Int) * width) ∧ FitsInt ((r : Int) * width + width) ∧ FitsInt ((r : Int) * width + width + c) := by
  have last : (r + 2) * width ≤ (total + 1) * width := Nat.mul_le_mul_right _ (by omega)
  rw [Nat.add_mul] at last
  rw [← Int.natCast_mul]
  generalize r * width = offset at last ⊢
  unfold FitsInt
  omega

/-- The overload for a name computes what the other one computes for the column of that name. -/
theorem namedIndex (holds : Holds table s.this) {szField : CString} {c : Nat}
    (found : table.names.findIdx? (· = szField) = some c) :
    fieldRealIndexNamed (some szField) s = fieldRealIndex c s := by
  have column := fieldColIndexApply holds szField
  rw [found] at column
  obtain ⟨addr,results⟩ := holds.results
  have low : (c : Int) ≥ 0 ∨ (c : Int) ≤ s.this.mnCols - 1 := .inl (Int.natCast_nonneg c)
  simp only [fieldRealIndexNamed,fieldRealIndex,checkResults,bindApply,getApply,results,pureApply,column,iteApply,
    if_pos low]

theorem rowAddressed (holds : Holds table s.this) {r : Row table} (current : s.this.mnCurrentRow = r.val) (c : Column table) :
    Addressed table s r c := by
  have place : (slot table (r,c)).val = table.names.length + (r.val * table.names.length + c.val) := by
    simp only [slot,finProdFinEquiv_apply_val]
    rw [Nat.mul_comm,Nat.add_comm c.val]
  obtain ⟨product,sum,whole⟩ := intermediatesFit r.isLt c.isLt table.size
  have byIndex := fieldRealIndexApply holds current r.isLt c.isLt
  rw [← place] at byIndex
  refine ⟨current,?_,byIndex,fun szField found => ?_,fun cell there => ?_⟩
  · simp only [intermediates,current,holds.cols,List.forall_mem_cons]
    exact ⟨product,sum,whole,List.forall_mem_nil _⟩
  · rw [namedIndex holds found,byIndex]
  · exact fieldValueApply holds current (List.getElem?_eq_getElem r.isLt) there

theorem holdsMoves (holds : Holds table s.this) (moves : List Move) : Holds table (run (move sqlite) s moves).this := by
  refine invariantRun (I := fun s : Scope World CppSQLite3ResultSet => Holds table s.this) (fun s m holds => ?_) holds moves
  cases m with
  | next => exact holdsNext holds
  | seek n => exact holdsSeek holds n

theorem soughtRow (holds : Holds table s.this) (r : Row table) : (move sqlite s (.seek r)).this.mnCurrentRow = r.val := by
  have fits : SQLiteFits s := by
    unfold SQLiteFits
    rw [holds.rows]
    exact table.rowCount
  have count : sqlite.rows s = table.rows.length := holds.rows
  have clamped : sqlite.current (sqlite.seek r s) = (min r.val (sqlite.rows s - 1) : Nat) :=
    sqliteLawful.clamps s r fits (count ▸ r.pos)
  have below := r.isLt
  rw [count,Nat.min_eq_left (by omega)] at clamped
  exact clamped

end Addresses

/-- The addresses are right for every table the library can return. -/
theorem flatAddressing (table : TableData) : FlatAddressing table where
  bijective := slotBijective table
  addressed s moves holds inside := by
    obtain ⟨low,high⟩ := throughoutLast inside
    have row : (run (move sqlite) s moves).this.mnCurrentRow.toNat < table.rows.length := by omega
    exact ⟨⟨_,row⟩,rowAddressed (holdsMoves holds moves) (Int.toNat_of_nonneg low).symm⟩
  reached s r holds := ⟨holdsSeek holds r,soughtRow holds r⟩

/-- There is a table for every number of rows and columns whose product is an int. -/
theorem everySize {rows cols : Nat} (some : 1 ≤ cols) (size : (rows + 1) * cols ≤ 2^31 - 1) :
    ∃ table : TableData, table.rows.length = rows ∧ table.names.length = cols := by
  have more : rows + 1 ≤ (rows + 1) * cols := Nat.le_mul_of_pos_right _ some
  refine ⟨⟨List.replicate cols default,List.replicate rows (List.replicate cols none),fun row member => ?_,?_,?_⟩,
    List.length_replicate,List.length_replicate⟩
  · rw [List.eq_of_mem_replicate member,List.length_replicate,List.length_replicate]
  · rw [List.length_replicate]
    omega
  · rw [List.length_replicate,List.length_replicate]
    omega

/-- What getResultSet returns holds such a table, and stands at its first row. -/
theorem returnedAddressing {client : Client} {szSQL : CString} {s t : Scope World CppSQLite3DB} {r : CppSQLite3ResultSet}
    (returns : CppSQLite3DB.getResultSet client szSQL s = .ok r t) :
    ∃ table, Holds table r ∧ r.mnCurrentRow = 0 ∧ FlatAddressing table := by
  obtain ⟨pDB,holds,first⟩ := getResultSetHolds returns
  exact ⟨_,holds,first,flatAddressing _⟩

end DatabaseLayer.FlatTable
