import DatabaseLayer.MySQLCursor
import DatabaseLayer.MySQLNull
import DatabaseLayer.SQLiteReads

/-! A whole table read in a loop, through each of the four objects that deliver one. -/
namespace DatabaseLayer.MySQLLoops
open Platform MySQLClient Foundation.Program Foundation.Loop Foundation.Position
open MySQLCursor MySQLNull ResultSetCursors CppMySQLDB
open SQLiteReads (pointed)

/-- Every field of the current row: whether it is NULL, and its text when it is not. -/
def readFields : Op CppMySQLQuery (List (Bool × Option CString)) := do
  let nFields ← CppMySQLQuery.numFields
  readEach (fun nField => do
    if ← CppMySQLQuery.fieldDataIsNull nField then return (true,none)
    else return (false,some (← CppMySQLQuery.fieldValue nField))) (List.range nFields.toNat)

def readCells : Op CppMySQLResultSet (List (Bool × Option CString)) := do
  let nFields ← CppMySQLResultSet.numFields
  readEach (fun nField => do
    if ← CppMySQLResultSet.fieldDataIsNull nField then return (true,none)
    else return (false,some (← CppMySQLResultSet.fieldValue nField))) (List.range nFields.toNat)

/-- `while (!q.eof()) { read all fields; q.nextRow(); }` -/
def queryCursor : Cursor Stop (Scope World CppMySQLQuery) (List (Bool × Option CString)) :=
  ⟨CppMySQLQuery.eof,readFields,CppMySQLQuery.nextRow⟩

def tableCursor : Cursor Stop (Scope World CppMySQLResultSet) (List (Bool × Option CString)) :=
  ⟨do return (← get).this.eof,readCells,onThis CppMySQLResultSet.nextRow⟩

/-- What the copy of a cell tells. -/
def told (cell : Cell) : Bool × Option CString :=
  if CppMySQLResultSet.cellText cell = text "NULL" then (true,none) else (false,some (CppMySQLResultSet.cellText cell))

section Query
variable {res : Nat} {data : ResultData} {s : Scope World CppMySQLQuery} {position : Nat}

theorem queryCell {cells : List Cell} {c : Nat} {cell : Cell} (current : s.this.mRow = some ⟨res,cells⟩)
    (inside : cells[c]? = some cell) :
    (do if ← CppMySQLQuery.fieldDataIsNull c then return (true,none)
        else return (false,some (← CppMySQLQuery.fieldValue c)) : Op CppMySQLQuery (Bool × Option CString)) s =
      .ok (cell.isNone,cell) s := by
  have isNull := CppMySQLQuery.fieldDataIsNullApply (s := s) current inside
  cases cell with
  | none => simp only [bindApply,isNull,Option.isNone_none,if_true,pureApply]
  | some value =>
    have reads : CppMySQLQuery.fieldValue c s = .ok value s := by
      simp [CppMySQLQuery.fieldValue,bindApply,isNull,CppMySQLQuery.rowAtApply current inside,current]
    simp only [bindApply,isNull,Option.isNone_some,Bool.false_eq_true,if_false,reads,pureApply]

theorem readFieldsAt (few : data.fields.length < 2^31) (stands : At res data s position) {cells : List Cell}
    (current : data.rows[position]? = some cells) : readFields s = .ok (cells.map fun cell => (cell.isNone,cell)) s := by
  have row := stands.row
  rw [current,Option.map_some] at row
  have width := data.rectangular cells (List.mem_of_getElem? current)
  have count : wrapInt (s.this.mNumFields : Int) = data.fields.length := by
    rw [stands.fields,wrapIntId (by omega) (by omega)]
  have long : data.fields.length = (cells.map fun cell => (cell.isNone,cell)).length := by rw [List.length_map,width]
  simp only [readFields,CppMySQLQuery.numFields,bindApply,getApply,pureApply,count,Int.toNat_natCast]
  rw [long]
  refine readEachRow fun c field inside => ?_
  rw [List.getElem?_map,Option.map_eq_some_iff] at inside
  obtain ⟨cell,there,rfl⟩ := inside
  exact queryCell row there

/-- The loop over a query reads the rows of its result from its position on. -/
theorem queryReads (few : data.fields.length < 2^31) (stands : At res data s position) :
    ∃ t, Reads queryCursor s ((data.rows.drop position).map pointed) t := by
  let Left (rest : List (List (Bool × Option CString))) (s : Scope World CppMySQLQuery) : Prop :=
    ∃ i, At res data s i ∧ rest = (data.rows.drop i).map pointed
  have ended : ∀ s, Left [] s → queryCursor.eof s = .ok true s := by
    rintro s ⟨i,stands,none⟩
    rw [eq_comm,List.map_eq_nil_iff,List.drop_eq_nil_iff] at none
    exact (eofAt stands).trans (by rw [decide_eq_true (Nat.le_antisymm stands.inside none)])
  have moves : ∀ row rest s, Left (row :: rest) s → queryCursor.eof s = .ok false s ∧ queryCursor.read s = .ok row s ∧
      ∃ t, queryCursor.next s = .ok ⟨⟩ t ∧ Left rest t := by
    rintro row rest s ⟨i,stands,list⟩
    have below : i < data.rows.length := by
      by_contra past
      rw [List.drop_eq_nil_iff.mpr (Nat.not_lt.mp past)] at list
      cases list
    rw [List.drop_eq_getElem_cons below,List.map_cons] at list
    cases list
    obtain ⟨returns,after⟩ := nextRowAt stands
    have next : saturated data.rows.length i .next = i + 1 := Nat.min_eq_left below
    rw [next] at after
    refine ⟨?_,readFieldsAt few stands (List.getElem?_eq_getElem below),_,returns,i + 1,after,rfl⟩
    exact (eofAt stands).trans (by rw [decide_eq_false (Nat.ne_of_lt below)])
  obtain ⟨t,reads,_⟩ := readsAlong ended moves ⟨position,stands,rfl⟩
  exact ⟨t,reads⟩

end Query

section Table
variable {data : ResultData}

theorem tableCell {s : Scope World CppMySQLResultSet} {c : Nat} {cell : Cell}
    (held : CppMySQLResultSet.cellAt s.this c = some (CppMySQLResultSet.cellText cell)) :
    (do if ← CppMySQLResultSet.fieldDataIsNull c then return (true,none)
        else return (false,some (← CppMySQLResultSet.fieldValue c)) : Op CppMySQLResultSet (Bool × Option CString)) s =
      .ok (told cell) s := by
  simp only [bindApply,CppMySQLResultSet.fieldDataIsNullApply held,told]
  by_cases null : CppMySQLResultSet.cellText cell = text "NULL"
  · simp only [null,decide_true,if_true,pureApply]
  · simp only [null,decide_false,Bool.false_eq_true,if_false,bindApply,CppMySQLResultSet.fieldValueApply held,pureApply]

/-- The copy of a result, with as many columns as the result. -/
structure Copies (data : ResultData) (r : CppMySQLResultSet) : Prop where
  holds : r.Holds (data.rows.map fun row => row.map CppMySQLResultSet.cellText)
  cols : r.mnCols = data.fields.length

theorem tableWalks (few : data.fields.length < 2^31) :
    Walks mysql tableCursor (data.rows.map fun row => row.map told) (fun s => Copies data s.this) where
  counts s copies := by rw [List.length_map]; exact copies.holds.rows.trans (List.length_map _)
  eof s copies := (mysqlWalks _).eof s copies.holds
  read s i row copies current inRows := by
    rw [List.getElem?_map,Option.map_eq_some_iff] at inRows
    obtain ⟨cells,inTable,rfl⟩ := inRows
    have width := data.rectangular cells (List.mem_of_getElem? inTable)
    have here : s.this.mnCurrentRow = i := Int.ofNat.inj current
    have count : wrapInt (s.this.mnCols : Int) = data.fields.length := by
      rw [copies.cols,wrapIntId (by omega) (by omega)]
    obtain ⟨addr,results⟩ := copies.holds.results
    have built : ¬ s.this.mpResultSet = none := by simp [results]
    have long : data.fields.length = (cells.map told).length := by rw [List.length_map,width]
    simp only [tableCursor,readCells,CppMySQLResultSet.numFields,CppMySQLResultSet.checkResults,bindApply,getApply,
      iteApply,if_neg built,pureApply,count,Int.toNat_natCast]
    rw [long]
    refine readEachRow fun c field inside => ?_
    rw [List.getElem?_map,Option.map_eq_some_iff] at inside
    obtain ⟨cell,there,rfl⟩ := inside
    have inRows : (data.rows.map fun row => row.map CppMySQLResultSet.cellText)[s.this.mnCurrentRow]? =
        some (cells.map CppMySQLResultSet.cellText) := by
      rw [here,List.getElem?_map,inTable]
      rfl
    refine tableCell (CppMySQLResultSet.cellHeld copies.holds inRows ?_)
    rw [List.getElem?_map,there]
    rfl
  next s copies := rfl
  holds s m copies := ⟨(mysqlWalks _).holds s m copies.holds,by cases m <;> exact copies.cols⟩

theorem copiedCopies (w : World) (data : ResultData) (entries : List (Int × CString)) :
    Copies data (.copied w data entries) := ⟨CppMySQLResultSet.copiedHolds w data entries,rfl⟩

theorem tableReads (few : data.fields.length < 2^31) (w t : World) (entries : List (Int × CString)) :
    ∃ u, Reads tableCursor ⟨t,.copied w data entries⟩ (data.rows.map fun row => row.map told) u := by
  have fits : MySQLFits ⟨t,.copied w data entries⟩ := data.rowCount
  exact readsFrom mysqlLawful (tableWalks few) fits (copiedCopies w data entries) (i := 0) rfl (Nat.zero_le _)

end Table

theorem toldFaithful (cell : Cell) : told cell = (cell.isNone,cell) ↔ cell ≠ some (text "NULL") := by
  cases cell with
  | none => exact iff_of_true rfl nofun
  | some value =>
    by_cases null : value = text "NULL"
    · simp [told,CppMySQLResultSet.cellText,null]
    · simp [told,CppMySQLResultSet.cellText,null]

theorem toldRows (data : ResultData) :
    (data.rows.map fun row => row.map told) = data.rows.map pointed ↔ NoNullText data := by
  unfold pointed NoNullText
  rw [List.map_inj_left]
  refine forall₂_congr fun row _ => ?_
  rw [List.map_inj_left]
  constructor
  · intro same inside
    exact (toldFaithful _).mp (same _ inside) rfl
  · intro clean cell inside
    exact (toldFaithful cell).mpr fun null => clean (null ▸ inside)

section Loops
variable {client : Client} {szSQL : CString} {data : ResultData}

theorem queryLoop {s t : Scope World CppMySQLDB} {q : CppMySQLQuery} (few : data.fields.length < 2^31)
    (queried : execQuery client szSQL s = .ok q t) (stores : Stores client szSQL s data) :
    ∃ u, Reads queryCursor ⟨t.world,q⟩ (data.rows.map pointed) u := by
  obtain ⟨res,held,same,_⟩ := execQueryHolds queried stores
  have stands := execQueryAt queried held
  rw [same] at stands
  exact queryReads few stands

theorem tableLoop {s t : Scope World CppMySQLDB} {r : CppMySQLResultSet} (few : data.fields.length < 2^31)
    (returns : getResultSet client szSQL s = .ok r t) (stores : Stores client szSQL s data) :
    ∃ u, Reads tableCursor ⟨t.world,r⟩ (data.rows.map fun row => row.map told) u := by
  obtain ⟨w,entries,rfl⟩ := getResultSetCopies returns stores
  exact tableReads few w t.world entries

/-- When the server stores the same table for both, the loop over the query of execQuery and the
loop over the result set of getResultSet read the same exactly when no cell holds the text NULL. -/
theorem loopsAgreeIff (client : Client) (szSQL : CString) (data : ResultData)
    (s u : Scope World CppMySQLDB) {t v : Scope World CppMySQLDB} {q : CppMySQLQuery} {r : CppMySQLResultSet}
    (few : data.fields.length < 2^31) (queried : execQuery client szSQL s = .ok q t)
    (stores : Stores client szSQL s data) (returns : getResultSet client szSQL u = .ok r v)
    (again : Stores client szSQL u data) :
    (∃ rows x y, Reads queryCursor ⟨t.world,q⟩ rows x ∧ Reads tableCursor ⟨v.world,r⟩ rows y) ↔ NoNullText data := by
  obtain ⟨x,streamed⟩ := queryLoop few queried stores
  obtain ⟨y,copied⟩ := tableLoop few returns again
  rw [← toldRows]
  constructor
  · rintro ⟨rows,_,_,first,second⟩
    exact (readsUnique copied second).trans (readsUnique first streamed)
  · intro same
    exact ⟨_,x,y,streamed,same ▸ copied⟩

end Loops

/-- The table of SQLiteReads, as the other server stores it. -/
def oneAndNull : ResultData :=
  ⟨[⟨some (text "n"),253⟩],SQLiteReads.oneAndNull.map fun row => row.map SQLiteClient.Value.text,by decide,by decide,
    by decide⟩

theorem loopsAgreeIffOneAndNull : ∃ q t r v,
    execQuery (.yielding oneAndNull) (text "q") (opened 0 (text "d")) = .ok q t ∧
    getResultSet (.yielding oneAndNull) (text "q") (opened 0 (text "d")) = .ok r v ∧
    ((∃ rows x y, Reads queryCursor ⟨t.world,q⟩ rows x ∧ Reads tableCursor ⟨v.world,r⟩ rows y) ↔ NoNullText oneAndNull) :=
  ⟨_,_,_,_,rfl,rfl,loopsAgreeIff (.yielding oneAndNull) (text "q") oneAndNull (opened 0 (text "d")) (opened 0 (text "d"))
    (by decide) rfl rfl rfl rfl⟩

section Both
open SQLiteReads (Stepped Tabled Textual buffered bufferedCursor)
open SQLiteLoops (direct cursor)

/-- A table with rows, and without the text NULL, is read the same in four ways: from the query
and from the result set that either database returns for it, whenever each of them is made. -/
theorem fourLoopsAgree (mysql : Client) (sqlite : SQLiteClient.Client) (szSQL : CString) {names : List CString}
    (values : List (List SQLiteClient.Value)) (data : ResultData) (s u : Scope World CppMySQLDB) {t v : Scope World CppMySQLDB} {q : CppMySQLQuery}
    {r : CppMySQLResultSet} {w x : Scope SQLiteClient.World CppSQLite3DB}
    (some : values ≠ []) (textual : Textual values) (clean : NoNullText data) (few : data.fields.length < 2^31)
    (same : data.rows = values.map fun row => row.map SQLiteClient.Value.text)
    (queried : execQuery mysql szSQL s = .ok q t) (stores : Stores mysql szSQL s data)
    (returns : getResultSet mysql szSQL u = .ok r v) (again : Stores mysql szSQL u data)
    (stepped : Stepped sqlite szSQL w names values) (tabled : Tabled sqlite szSQL x names values) :
    ∃ rows p b, direct sqlite szSQL w = .some p ∧ buffered sqlite szSQL x = .some b ∧
      (∃ y, Reads queryCursor ⟨t.world,q⟩ rows y) ∧ (∃ y, Reads tableCursor ⟨v.world,r⟩ rows y) ∧
      (∃ y, Reads (cursor sqlite) p rows y) ∧ ∃ y, Reads bufferedCursor b rows y := by
  obtain ⟨p,b,first,second,agree⟩ := SQLiteReads.streamedAsBuffered sqlite szSQL w x names values some textual stepped tabled
  obtain ⟨_,_,streamed,read⟩ := agree.rows
  have rows : data.rows.map pointed = values.map SQLiteLoops.shown := by rw [same,SQLiteReads.pointedTexts textual]
  have copied := tableLoop few returns again
  rw [(toldRows data).mpr clean] at copied
  rw [← rows] at streamed read
  exact ⟨_,p,b,first,second,queryLoop few queried stores,copied,⟨_,streamed⟩,_,read⟩

theorem fourLoopsAgreeOneAndNull : ∃ q t r v,
    execQuery (.yielding oneAndNull) (text "select n") (opened 0 (text "d")) = .ok q t ∧
    getResultSet (.yielding oneAndNull) (text "select n") (opened 0 (text "d")) = .ok r v ∧
    ∃ rows p b, direct SQLiteReads.delivering (text "select n") SQLiteLoops.onOpen = .some p ∧
      buffered SQLiteReads.delivering (text "select n") SQLiteLoops.onOpen = .some b ∧
      (∃ y, Reads queryCursor ⟨t.world,q⟩ rows y) ∧ (∃ y, Reads tableCursor ⟨v.world,r⟩ rows y) ∧
      (∃ y, Reads (cursor SQLiteReads.delivering) p rows y) ∧ ∃ y, Reads bufferedCursor b rows y :=
  ⟨_,_,_,_,rfl,rfl,fourLoopsAgree (.yielding oneAndNull) SQLiteReads.delivering (text "select n")
    SQLiteReads.oneAndNull oneAndNull (opened 0 (text "d")) (opened 0 (text "d")) (by decide) (by unfold Textual; decide)
    (by unfold NoNullText; decide) (by decide) rfl rfl rfl rfl rfl ⟨by decide,fun _ _ => ⟨rfl,rfl,rfl,rfl⟩⟩ ⟨by decide,fun _ _ => ⟨rfl,rfl,rfl⟩⟩⟩

end Both

end DatabaseLayer.MySQLLoops
