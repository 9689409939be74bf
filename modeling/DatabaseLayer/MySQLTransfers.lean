import DatabaseLayer.MySQLCursor
import DatabaseLayer.ResultSetCursors

/-! Handing a cursor on. Copying a query and assigning a result set carry the position
along, assigning a query and copying a result set start again at the first row. -/
namespace DatabaseLayer.MySQLTransfers
open Platform MySQLClient Foundation.Program Foundation.Run Foundation.Loop Foundation.Position CppMySQLDB MySQLCursor

section Queries
variable {res : Nat} {data : ResultData} {s : Scope World CppMySQLQuery} {pos : Nat}

/-- `while (!q.eof()) { read the row; q.nextRow(); }` -/
def rowCursor : Cursor Stop (Scope World CppMySQLQuery) (List Cell) where
  eof := CppMySQLQuery.eof
  read := do
    match (← get).this.mRow with
    | some row => return row.cells
    | none => undefinedBehaviour
  next := CppMySQLQuery.nextRow

/-- The object stands where these rows of the result are still to be read. -/
def Remains (res : Nat) (data : ResultData) (rest : List (List Cell)) (s : Scope World CppMySQLQuery) : Prop :=
  ∃ pos, At res data s pos ∧ rest = data.rows.drop pos

theorem readsRest (stands : At res data s pos) : ∃ t, Reads rowCursor s (data.rows.drop pos) t := by
  have ended : ∀ s, Remains res data [] s → rowCursor.eof s = .ok true s := by
    rintro s ⟨pos,stands,last⟩
    have inside := stands.inside
    rw [eq_comm,List.drop_eq_nil_iff] at last
    have eof : rowCursor.eof s = _ := eofAt stands
    rw [eof,decide_eq_true (by omega)]
  have moves : ∀ row rest s, Remains res data (row :: rest) s →
      rowCursor.eof s = .ok false s ∧ rowCursor.read s = .ok row s ∧
        ∃ t, rowCursor.next s = .ok ⟨⟩ t ∧ Remains res data rest t := by
    rintro row rest s ⟨pos,stands,list⟩
    have below : pos < data.rows.length := by
      by_contra past
      rw [List.drop_eq_nil_of_le (Nat.not_lt.mp past)] at list
      cases list
    rw [List.drop_eq_getElem_cons below] at list
    obtain ⟨rfl,rfl⟩ := List.cons.inj list
    have eof : rowCursor.eof s = _ := eofAt stands
    have row := stands.row
    rw [List.getElem?_eq_getElem below,Option.map_some] at row
    have next : min (pos + 1) data.rows.length = pos + 1 := Nat.min_eq_left below
    obtain ⟨moved,after⟩ := nextRowAt stands
    refine ⟨?_,?_,_,moved,pos + 1,?_,rfl⟩
    · rw [eof,decide_eq_false (by omega)]
    · simp only [rowCursor,bindApply,getApply,row,pureApply]
    · rw [← next]
      exact after
  have start : Remains res data (data.rows.drop pos) s := ⟨pos,stands,rfl⟩
  obtain ⟨t,reads,_⟩ := readsAlong ended moves start
  exact ⟨t,reads⟩

/-- The query stands at this row of its result, and what is left to read starts there. -/
structure ShowsFrom (data : ResultData) (pos : Nat) (s : Scope World CppMySQLQuery) : Prop where
  stands : ∃ res, At res data s pos
  rest : ∃ t, Reads rowCursor s (data.rows.drop pos) t

theorem showsFrom (stands : At res data s pos) : ShowsFrom data pos s := ⟨⟨res,stands⟩,readsRest stands⟩

theorem atUnique {res' pos' : Nat} (stands : At res data s pos) (others : At res' data s pos') : pos = pos' := by
  have inside := stands.inside
  have inside' := others.inside
  have ended : pos = data.rows.length ↔ pos' = data.rows.length := by
    have eof := (eofAt stands).symm.trans (eofAt others)
    simpa using eof
  have same : res = res' := Option.some.inj (stands.held.symm.trans others.held)
  subst same
  have left := congrArg List.length (stands.cursor.symm.trans others.cursor)
  rw [List.length_drop,List.length_drop] at left
  omega

theorem assignAt (stands : At res data s pos) (target : CppMySQLQuery) :
    At res data (left (CppMySQLQuery.assign s.this ⟨s.world,target⟩)) 0 := by
  have kept : (CppMySQLQuery.released ⟨s.world,target⟩).results = s.world.results := by
    unfold CppMySQLQuery.released
    cases target.mpRES <;> rfl
  rw [CppMySQLQuery.assignApply]
  simp only [stands.held,leftOk]
  refine ⟨rfl,?_,?_,?_,?_,?_,Nat.zero_le _⟩
  · simp [World.seekRes,kept,stands.result]
  · simp [CppMySQLQuery.holding,World.fetched,kept,stands.result,List.head?_eq_getElem?]
  · simp [World.seekRes,kept,stands.result]
  · simp [CppMySQLQuery.holding,kept,stands.result]
  · simp [CppMySQLQuery.holding,kept,stands.result]

end Queries

section ResultSets
open CppMySQLResultSet ResultSetCursors
variable {table : List (List CString)} {s : Scope World CppMySQLResultSet} {row : Nat}

structure SetShowsFrom (table : List (List CString)) (cols row : Nat) (s : Scope World CppMySQLResultSet) : Prop where
  holds : Holds table s.this
  cols : s.this.mnCols = cols
  current : s.this.mnCurrentRow = row
  rest : ∃ t, Reads mysqlCursor s (table.drop row) t

theorem setShowsFrom (fits : table.length < 2^64) (holds : Holds table s.this) (inside : s.this.mnCurrentRow ≤ table.length) :
    SetShowsFrom table s.this.mnCols s.this.mnCurrentRow s :=
  ⟨holds,rfl,rfl,readsFrom mysqlLawful (mysqlWalks table) (by rw [MySQLFits,holds.rows]; exact fits) holds rfl inside⟩

/-- Transferred by copy and by assignment, the query stands where it stood. -/
def QueryKeepsRow (data : ResultData) (pos : Nat) (s : Scope World CppMySQLQuery) (target : CppMySQLQuery) : Prop :=
  ShowsFrom data pos ⟨s.world,s.this.copy.1⟩ ∧ ShowsFrom data pos (left (CppMySQLQuery.assign s.this ⟨s.world,target⟩))

def ResultSetKeepsRow (table : List (List CString)) (s : Scope World CppMySQLResultSet)
    (target : CppMySQLResultSet) : Prop :=
  SetShowsFrom table s.this.mnCols s.this.mnCurrentRow ⟨s.world,s.this.copy.1⟩ ∧
    SetShowsFrom table s.this.mnCols s.this.mnCurrentRow (left (assign s.this ⟨s.world,target⟩))

end ResultSets

section Exactness
open CppMySQLResultSet

theorem queryKeepsRowIff {res pos : Nat} {data : ResultData} {s : Scope World CppMySQLQuery} (stands : At res data s pos)
    (target : CppMySQLQuery) : QueryKeepsRow data pos s target ↔ pos = 0 := by
  have assigned := assignAt stands target
  constructor
  · rintro ⟨_,⟨_,same⟩,_⟩
    exact atUnique same assigned
  · rintro rfl
    exact ⟨showsFrom (s := ⟨s.world,s.this.copy.1⟩) stands,showsFrom assigned⟩

theorem resultSetKeepsRowIff {table : List (List CString)} {s : Scope World CppMySQLResultSet} (fits : table.length < 2^64)
    (holds : Holds table s.this) (inside : s.this.mnCurrentRow ≤ table.length) (target : CppMySQLResultSet) :
    ResultSetKeepsRow table s target ↔ s.this.mnCurrentRow = 0 := by
  have copied : Holds table s.this.copy.1 := ⟨holds.results,holds.rows,holds.cols⟩
  constructor
  · rintro ⟨kept,_⟩
    exact kept.current.symm
  · intro first
    refine ⟨?_,?_⟩
    · rw [first]
      exact setShowsFrom (s := ⟨s.world,s.this.copy.1⟩) fits copied (Nat.zero_le _)
    · rw [assignApply]
      exact setShowsFrom (s := ⟨(s.world.deletes target.mpFieldMap).deletes target.mpResultSet,s.this⟩) fits holds inside

/-- A query that execQuery returned and that was moved, and a result set that holds a result
and stands at one of its rows or at its end, keep their row when copied and when assigned
exactly if that is the first one. -/
theorem transfersKeepRowIff {client : Client} {szSQL : CString} {s t : Scope World CppMySQLDB} {q : CppMySQLQuery}
    {res : Nat} (returns : execQuery client szSQL s = .ok q t) (held : q.mpRES = some res) (ms : List Move)
    (target : CppMySQLQuery) (data : ResultData) {r : Scope World CppMySQLResultSet}
    (holds : Holds (data.rows.map (fun row => row.map cellText)) r.this) (inside : r.this.mnCurrentRow ≤ data.rows.length)
    (other : CppMySQLResultSet) :
    let result := (t.world.results res).data
    let pos := run (saturated result.rows.length) 0 ms
    (QueryKeepsRow result pos (run move ⟨t.world,q⟩ ms) target ↔ pos = 0) ∧
      (ResultSetKeepsRow (data.rows.map (fun row => row.map cellText)) r other ↔ r.this.mnCurrentRow = 0) := by
  have count : (data.rows.map (fun row => row.map cellText)).length = data.rows.length := List.length_map _
  exact ⟨queryKeepsRowIff (movesAt (execQueryAt returns held) ms) target,
    resultSetKeepsRowIff (count ▸ data.rowCount) holds (count ▸ inside) other⟩

def copiedTwo : CppMySQLResultSet := ⟨some ⟨0,[[text "a"],[text "NULL"]]⟩,some ⟨1,[(0,text "n")]⟩,1,2,1⟩

theorem copiedTwoHolds : Holds (twoRows.rows.map (fun row => row.map cellText)) copiedTwo :=
  ⟨⟨0,rfl⟩,rfl,by decide⟩

theorem transfersKeepRowIffTwo : ∃ q t, execQuery (.yielding twoRows) (text "select n") (opened 0 (text "d")) = .ok q t ∧
    (QueryKeepsRow twoRows 0 (run move ⟨t.world,q⟩ [.next,.seek 0]) .new ↔ 0 = 0) ∧
    (ResultSetKeepsRow (twoRows.rows.map (fun row => row.map cellText)) ⟨.initial,copiedTwo⟩ .new ↔ 1 = 0) := by
  have returns : execQuery (.yielding twoRows) (text "select n") (opened 0 (text "d")) = .ok _ _ := rfl
  exact ⟨_,_,returns,transfersKeepRowIff (r := ⟨.initial,copiedTwo⟩) returns rfl [.next,.seek 0] .new twoRows
    copiedTwoHolds (by decide) .new⟩

/-- Moved on to the second row, a query is back at the first one when it is assigned, and a
result set when it is copied. -/
theorem rowLost : ∃ q t, execQuery (.yielding twoRows) (text "select n") (opened 0 (text "d")) = .ok q t ∧
    ¬ QueryKeepsRow twoRows 1 (run move ⟨t.world,q⟩ [.next]) .new ∧
    ¬ ResultSetKeepsRow (twoRows.rows.map (fun row => row.map cellText)) ⟨.initial,copiedTwo⟩ .new := by
  have returns : execQuery (.yielding twoRows) (text "select n") (opened 0 (text "d")) = .ok _ _ := rfl
  refine ⟨_,_,returns,?_,?_⟩
  · exact fun kept => absurd ((queryKeepsRowIff (movesAt (execQueryAt returns rfl) [.next]) .new).mp kept) (by decide)
  · exact fun kept => absurd kept.1.current (by decide)

end Exactness
end DatabaseLayer.MySQLTransfers
