import DatabaseLayer.Foundation.Position
import DatabaseLayer.MySQLRules

/-! The cursor of a CppMySQLQuery. Its current row trails the data cursor of its result by
one, and together they are one position that saturates at the number of rows. -/
namespace DatabaseLayer.MySQLCursor
open Platform MySQLClient Foundation.Program Foundation.Run Foundation.Loop Foundation.Position CppMySQLDB CppMySQLQuery

def move (s : Scope World CppMySQLQuery) : Move → Scope World CppMySQLQuery
  | .next => left (nextRow s)
  | .seek n => left (seekRow n s)

/-- The object stands at a position of the result it holds. -/
structure At (res : Nat) (data : ResultData) (s : Scope World CppMySQLQuery) (pos : Nat) : Prop where
  held : s.this.mpRES = some res
  result : (s.world.results res).data = data
  row : s.this.mRow = data.rows[pos]?.map (fun cells => ⟨res,cells⟩)
  cursor : (s.world.results res).dataCursor = data.rows.drop (pos + 1)
  rows : s.this.mNumRows = data.rows.length
  fields : s.this.mNumFields = data.fields.length
  inside : pos ≤ data.rows.length

section Moving
variable {res : Nat} {data : ResultData} {s : Scope World CppMySQLQuery} {pos : Nat}

theorem clampedRow (n : Nat) (some : 0 < data.rows.length) :
    clamped n data.rows.length = saturated data.rows.length pos (.seek n) := by
  have bound := data.rowCount
  change _ = min n (data.rows.length - 1)
  unfold clamped
  by_cases past : n ≥ data.rows.length
  · have last : ((data.rows.length : Int) - 1) = (data.rows.length - 1 : Nat) := by omega
    rw [if_pos past,last,wrapULongId (by omega),Nat.min_eq_right (by omega)]
  · rw [if_neg past,Nat.min_eq_left (by omega)]

/-- Without rows the clamped row is the largest there is, and yet nothing is left from it on. -/
theorem clampedLeft (n : Nat) : data.rows.drop (clamped n data.rows.length) =
    data.rows.drop (saturated data.rows.length pos (.seek n)) := by
  rcases Nat.eq_zero_or_pos data.rows.length with none | some
  · rw [List.eq_nil_of_length_eq_zero none,List.drop_nil,List.drop_nil]
  · rw [clampedRow n some]

theorem atSought (stands : At res data s pos) {offset next : Nat} (left : data.rows.drop offset = data.rows.drop next)
    (inside : next ≤ data.rows.length) :
    At res data ⟨s.world.seekRes res offset,⟨some res,s.world.fetched res offset,data.rows.length,s.this.mNumFields⟩⟩
      next := by
  refine ⟨rfl,?_,?_,?_,rfl,stands.fields,inside⟩
  · simp [World.seekRes,stands.result]
  · simp only [World.fetched]
    rw [stands.result,left,List.head?_drop]
  · simp only [World.seekRes,setResSelf]
    rw [stands.result,left,List.tail_drop]

theorem seekRowAt (stands : At res data s pos) (n : Nat) :
    seekRow n s = .ok (clamped n data.rows.length) (move s (.seek n)) ∧
      At res data (move s (.seek n)) (saturated data.rows.length pos (.seek n)) := by
  have moved : move s (.seek n) = left (seekRow n s) := rfl
  have result := seekRowApply n s
  simp only [stands.held,stands.rows] at result
  rw [moved,result]
  exact ⟨rfl,atSought stands (clampedLeft n) (saturatedInside _ _ _)⟩

theorem nextRowAt (stands : At res data s pos) :
    nextRow s = .ok ⟨⟩ (move s .next) ∧ At res data (move s .next) (saturated data.rows.length pos .next) := by
  have moved : move s .next = left (nextRow s) := rfl
  have result := nextRowApply s
  simp only [stands.held] at result
  rw [moved]
  change _ ∧ At res data _ (min (pos + 1) data.rows.length)
  by_cases more : pos + 1 < data.rows.length
  · have drop := List.drop_eq_getElem_cons more
    have cursor := stands.cursor
    rw [drop] at cursor
    simp only [cursor] at result
    rw [result,Nat.min_eq_left (Nat.le_of_lt more)]
    refine ⟨rfl,rfl,?_,?_,?_,stands.rows,stands.fields,Nat.le_of_lt more⟩
    · simp [stands.result]
    · simp [List.getElem?_eq_getElem more]
    · simp
  · have cursor := stands.cursor
    rw [List.drop_eq_nil_of_le (Nat.not_lt.mp more)] at cursor
    simp only [cursor] at result
    rw [result,Nat.min_eq_right (Nat.not_lt.mp more)]
    refine ⟨rfl,rfl,stands.result,?_,?_,stands.rows,stands.fields,le_rfl⟩
    · simp
    · simp [cursor]

theorem moveAt (stands : At res data s pos) (m : Move) :
    At res data (move s m) (saturated data.rows.length pos m) := by
  cases m with
  | next => exact (nextRowAt stands).2
  | seek n => exact (seekRowAt stands n).2

theorem movesAt (stands : At res data s pos) (ms : List Move) :
    At res data (run move s ms) (run (saturated data.rows.length) pos ms) :=
  runSimulated (R := At res data) (fun _ _ m now => moveAt now m) stands ms

theorem eofAt (stands : At res data s pos) : eof s = .ok (decide (pos = data.rows.length)) s := by
  have inside := stands.inside
  have ended : s.this.mRow = none ↔ pos = data.rows.length := by
    rw [stands.row,Option.map_eq_none_iff,List.getElem?_eq_none_iff]
    omega
  simp only [eof,bindApply,getApply,pureApply,ended]

theorem numRowsAt (stands : At res data s pos) : numRows s = .ok data.rows.length s := by
  simp only [numRows,bindApply,getApply,pureApply,stands.rows]

end Moving

section Fresh
variable {client : Client} {szSQL : CString} {s t : Scope World CppMySQLDB} {q : CppMySQLQuery} {res : Nat}

theorem execQueryAt (returns : execQuery client szSQL s = .ok q t) (held : q.mpRES = some res) :
    At res (t.world.results res).data ⟨t.world,q⟩ 0 := by
  rw [execQueryApply] at returns
  split at returns
  · dsimp only at returns
    split at returns
    · rw [ofRESApply] at returns
      cases stored : (stored client (asked client s (.realQuery szSQL))).1 with
      | none =>
        rw [stored] at returns
        cases returns
        cases held
      | some kept =>
        rw [stored] at returns
        cases returns
        cases held
        refine ⟨rfl,rfl,?_,?_,?_,?_,Nat.zero_le _⟩
        · simp [holding,World.fetched,World.seekRes,List.head?_eq_getElem?]
        · simp [World.seekRes]
        · simp [holding,World.seekRes]
        · simp [holding,World.seekRes]
    · cases returns
  · cases returns

end Fresh

/-- What can be seen of a query at a position that saturates. -/
structure Saturates (data : ResultData) (res : Nat) (s : Scope World CppMySQLQuery) (pos : Nat) : Prop where
  row : s.this.mRow = data.rows[pos]?.map (fun cells => ⟨res,cells⟩)
  inside : pos ≤ data.rows.length
  eof : CppMySQLQuery.eof s = .ok (decide (pos = data.rows.length)) s
  numRows : CppMySQLQuery.numRows s = .ok data.rows.length s
  next : ∃ t, nextRow s = .ok ⟨⟩ t
  seek : ∀ n, ∃ r t, seekRow n s = .ok r t ∧ (0 < data.rows.length → r = saturated data.rows.length pos (.seek n))

/-- However a query fresh from execQuery is moved, it shows its result at the position that
saturates at the number of rows. -/
theorem cursorSaturates {client : Client} {szSQL : CString} {s t : Scope World CppMySQLDB} {q : CppMySQLQuery}
    {res : Nat} (returns : execQuery client szSQL s = .ok q t) (held : q.mpRES = some res) (ms : List Move) :
    let data := (t.world.results res).data
    Saturates data res (run move ⟨t.world,q⟩ ms) (run (saturated data.rows.length) 0 ms) := by
  have stands := movesAt (execQueryAt returns held) ms
  refine ⟨stands.row,stands.inside,eofAt stands,numRowsAt stands,⟨_,(nextRowAt stands).1⟩,fun n => ?_⟩
  exact ⟨_,_,(seekRowAt stands n).1,clampedRow n⟩

def twoRows : ResultData := ⟨[⟨some (text "n"),254⟩],[[some (text "a")],[none]],by simp,by simp,by simp⟩

theorem cursorSaturatesTwo : ∃ q t, execQuery (.yielding twoRows) (text "select n") (opened 0 (text "d")) = .ok q t ∧
    Saturates twoRows 0 (run move ⟨t.world,q⟩ [.next,.seek 5,.next]) (run (saturated 2) 0 [.next,.seek 5,.next]) := by
  have returns : execQuery (.yielding twoRows) (text "select n") (opened 0 (text "d")) = .ok _ _ := rfl
  exact ⟨_,_,returns,cursorSaturates returns rfl [.next,.seek 5,.next]⟩

end DatabaseLayer.MySQLCursor
