import DatabaseLayer.Foundation.Loop
import DatabaseLayer.SQLiteDB

/-! The two ways to query a SQLite database, and the loop over the query either returns. -/
namespace DatabaseLayer.SQLiteLoops
open Platform SQLiteClient Foundation.Program Foundation.Loop CppSQLite3DB

/-- Every field of the current row: whether it is NULL, and its text. -/
def readFields : Op CppSQLite3Query (List (Bool × Option CString)) := do
  let nFields ← CppSQLite3Query.numFields
  readEach (fun nField => do
    let isNull ← CppSQLite3Query.fieldDataIsNull nField
    let value ← CppSQLite3Query.fieldValue nField
    return (isNull,value)) (List.range nFields.toNat)

/-- `while (!q.eof()) { read all fields; q.nextRow(); }` -/
def cursor (client : Client) : Cursor Stop (Scope World CppSQLite3Query) (List (Bool × Option CString)) :=
  ⟨CppSQLite3Query.eof,readFields,CppSQLite3Query.nextRow client⟩

def shown (row : List Value) : List (Bool × Option CString) :=
  row.map (fun value => (decide (value.type = SQLITE_NULL),value.text))

section Paths
variable (client : Client) (szSQL : CString) (s : Scope World CppSQLite3DB)

/-- `db.execQuery(szSQL)`, when it returns a query. -/
def direct : Option (Scope World CppSQLite3Query) :=
  match execQuery client szSQL s with
  | .ok q t => some ⟨t.world,q⟩
  | .error _ _ => none

/-- `db.compileStatement(szSQL).execQuery()`, when it returns a query. -/
def prepared : Option (Scope World CppSQLite3Query) :=
  match compileStatement client szSQL s with
  | .ok statement t => match CppSQLite3Statement.execQuery client ⟨t.world,statement⟩ with
    | .ok q u => some ⟨u.world,q⟩
    | .error _ _ => none
  | .error _ _ => none

/-- The text is one statement, and its execution yields these rows and ends. -/
structure Yields (rows : List (List Value)) : Prop where
  opened : s.this.mpDB ≠ none
  statement : ∀ pDB, s.this.mpDB = some pDB → ∃ names,
    (client.prepare s.world.log pDB szSQL).rc = SQLITE_OK ∧
    (client.prepare s.world.log pDB szSQL).columns = some names ∧
    let e := client.execute (compiled s.world pDB szSQL names).log s.world.nStmts names.length
    e.rows = rows ∧ e.ending = SQLITE_DONE

/-- The loops over the two queries visit the same rows, and neither starts when there are none. -/
def Agree (rows : List (List Value)) : Prop :=
  ∃ p q, direct client szSQL s = some p ∧ prepared client szSQL s = some q ∧
    (∃ visited t u, Reads (cursor client) p visited t ∧ Reads (cursor client) q visited u) ∧
    (rows = [] → CppSQLite3Query.eof p = .ok true p ∧ CppSQLite3Query.eof q = .ok true q)

end Paths

section Stepping
variable {client : Client} {w : World} {id conn : Nat} {names : List CString}

theorem steppedSelf {progress : Progress names.length} (stands : w.stmts id = ⟨conn,names,progress⟩) :
    (w.stepped client id).stmts id =
      ⟨conn,names,(advance client w.log id ⟨conn,names,progress⟩).2⟩ := by
  unfold World.stepped
  rw [setStmtSelf,stands]

/-- The loop has this much left to read. -/
def Left (rest : List (List (Bool × Option CString))) (s : Scope World CppSQLite3Query) : Prop :=
  ∃ id, s.this.mpStmt = some id ∧ ((s.this.mbEof = true ∧ rest = []) ∨
    (s.this.mbEof = false ∧ ∃ conn names, ∃ e : Execution names.length, ∃ i,
      s.world.stmts id = ⟨conn,names,.onRow e i⟩ ∧ e.ending = SQLITE_DONE ∧ i < e.rows.length ∧
      s.this.mnFieldsCount = names.length ∧ rest = (e.rows.drop i).map shown))

theorem readFieldsApply {s : Scope World CppSQLite3Query} {e : Execution names.length} {i : Nat} {row : List Value}
    (held : s.this.mpStmt = some id) (stands : s.world.stmts id = ⟨conn,names,.onRow e i⟩)
    (count : s.this.mnFieldsCount = names.length) (current : e.rows[i]? = some row) :
    readFields s = .ok (shown row) s := by
  have width : row.length = names.length := e.rectangular row (List.mem_of_getElem? current)
  simp only [readFields,bindApply,CppSQLite3Query.numFieldsApply held,count,Int.toNat_natCast]
  have long : names.length = (shown row).length := by simp [shown,width]
  rw [long]
  refine readEachRow fun c field inside => ?_
  obtain ⟨value,atCell,rfl⟩ := List.getElem?_map.symm.trans inside |> Option.map_eq_some_iff.mp
  obtain ⟨below,_⟩ := List.getElem?_eq_some_iff.mp atCell
  have low : ¬ (c : Int) < 0 := by omega
  have value : (s.world.stmts id).value c = some value := by
    rw [stands]
    simp only [Sqlite3Stmt.value,if_neg low,current,Option.bind_some,Int.toNat_natCast,atCell]
  simp only [bindApply,CppSQLite3Query.fieldDataIsNullApply held (by omega) (by omega) value,
    CppSQLite3Query.fieldValueApply held value,pureApply]

section Rows
variable {s : Scope World CppSQLite3Query} {e : Execution names.length} {i : Nat} (held : s.this.mpStmt = some id)
  (stands : s.world.stmts id = ⟨conn,names,.onRow e i⟩)
include held stands

/-- At a row the query is not at its end, and the fields of this row are read. -/
theorem rowRead (more : s.this.mbEof = false) (count : s.this.mnFieldsCount = names.length) (inside : i < e.rows.length)
    {row : List (Bool × Option CString)} {rest : List (List (Bool × Option CString))}
    (rows : row :: rest = (e.rows.drop i).map shown) :
    CppSQLite3Query.eof s = .ok false s ∧ readFields s = .ok row s ∧ rest = (e.rows.drop (i + 1)).map shown := by
  rw [List.drop_eq_getElem_cons inside,List.map_cons] at rows
  cases rows
  have eof : CppSQLite3Query.eof s = .ok false s := (CppSQLite3Query.eofApply held).trans (by rw [more])
  exact ⟨eof,readFieldsApply held stands count (List.getElem?_eq_getElem inside),rfl⟩

variable (client)

theorem nextRowMore (another : i + 1 < e.rows.length) :
    CppSQLite3Query.nextRow client s = .ok ⟨⟩ ⟨s.world.stepped client id,s.this⟩ ∧
      (s.world.stepped client id).stmts id = ⟨conn,names,.onRow e (i + 1)⟩ := by
  have result : advance client s.world.log id ⟨conn,names,.onRow e i⟩ = (SQLITE_ROW,.onRow e (i + 1)) :=
    if_pos another
  have code : (advance client s.world.log id (s.world.stmts id)).1 = SQLITE_ROW := by rw [stands,result]
  have returns := CppSQLite3Query.nextRowApply client held (.inl code)
  have more : decide (SQLITE_ROW = SQLITE_DONE) = false := by decide
  rw [code,more,Bool.or_false] at returns
  exact ⟨returns,by rw [steppedSelf stands,result]⟩

theorem nextRowDone (last : ¬ i + 1 < e.rows.length) (done : e.ending = SQLITE_DONE) :
    CppSQLite3Query.nextRow client s = .ok ⟨⟩ ⟨s.world.stepped client id,{s.this with mbEof := true}⟩ ∧
      (s.world.stepped client id).stmts id = ⟨conn,names,.ended e⟩ := by
  have result : advance client s.world.log id ⟨conn,names,.onRow e i⟩ = (SQLITE_DONE,.ended e) := by
    rw [← done]
    exact if_neg last
  have code : (advance client s.world.log id (s.world.stmts id)).1 = SQLITE_DONE := by rw [stands,result]
  have returns := CppSQLite3Query.nextRowApply client held (.inr code)
  rw [code,decide_eq_true rfl,Bool.or_true] at returns
  exact ⟨returns,by rw [steppedSelf stands,result]⟩

end Rows

theorem leftStep {row : List (Bool × Option CString)} {rest : List (List (Bool × Option CString))}
    {s : Scope World CppSQLite3Query} (left : Left (row :: rest) s) :
    CppSQLite3Query.eof s = .ok false s ∧ readFields s = .ok row s ∧
      ∃ t, CppSQLite3Query.nextRow client s = .ok ⟨⟩ t ∧ Left rest t := by
  obtain ⟨id,held,⟨_,none⟩ | ⟨more,conn,names,e,i,stands,done,inside,count,rows⟩⟩ := left
  · cases none
  obtain ⟨eof,read,rows⟩ := rowRead held stands more count inside rows
  refine ⟨eof,read,?_⟩
  by_cases another : i + 1 < e.rows.length
  · obtain ⟨returns,next⟩ := nextRowMore client held stands another
    exact ⟨_,returns,id,held,.inr ⟨more,conn,names,e,i + 1,next,done,another,count,rows⟩⟩
  · obtain ⟨returns,_⟩ := nextRowDone client held stands another done
    rw [List.drop_eq_nil_iff.mpr (Nat.not_lt.mp another),List.map_nil] at rows
    exact ⟨_,returns,id,held,.inl ⟨rfl,rows⟩⟩

variable (client) in
theorem leftReads {rest : List (List (Bool × Option CString))} {s : Scope World CppSQLite3Query}
    (left : Left rest s) : ∃ t, Reads (cursor client) s rest t := by
  have ended : ∀ s, Left [] s → (cursor client).eof s = .ok true s := by
    rintro s ⟨id,held,⟨ended,_⟩ | ⟨_,_,_,e,i,_,_,inside,_,none⟩⟩
    · exact (CppSQLite3Query.eofApply held).trans (by rw [ended])
    · rw [eq_comm,List.map_eq_nil_iff,List.drop_eq_nil_iff] at none
      omega
  obtain ⟨t,reads,_⟩ := readsAlong ended (fun row rest s => leftStep) left
  exact ⟨t,reads⟩

end Stepping

section Agreement
variable (client : Client) {szSQL : CString} {s : Scope World CppSQLite3DB} {pDB : Nat} {names : List CString}

/-- The world in which a text was prepared and stepped once. -/
def begun (s : Scope World CppSQLite3DB) (pDB : Nat) (szSQL : CString) (names : List CString) : World :=
  (compiled s.world pDB szSQL names).stepped client s.world.nStmts

/-- The first execution of a text just prepared. -/
def execution (s : Scope World CppSQLite3DB) (pDB : Nat) (szSQL : CString) (names : List CString) :
    Execution names.length :=
  client.execute (compiled s.world pDB szSQL names).log s.world.nStmts names.length

theorem compiledStands (s : Scope World CppSQLite3DB) (pDB : Nat) (szSQL : CString) (names : List CString) :
    (compiled s.world pDB szSQL names).stmts s.world.nStmts = ⟨pDB,names,.initial⟩ := setStmtSelf _ _ _

variable (szSQL s pDB names) in
theorem firstOutcome : let w := compiled s.world pDB szSQL names
    let e := execution client s pDB szSQL names
    (advance client w.log s.world.nStmts (w.stmts s.world.nStmts)).1 =
      (if 0 < e.rows.length then SQLITE_ROW else e.ending) ∧
    (begun client s pDB szSQL names).stmts s.world.nStmts =
      ⟨pDB,names,if 0 < e.rows.length then .onRow e 0 else .ended e⟩ := by
  intro w e
  have result : advance client w.log s.world.nStmts ⟨pDB,names,.initial⟩ =
      if 0 < e.rows.length then (SQLITE_ROW,.onRow e 0) else (e.ending,.ended e) := rfl
  have stands := compiledStands s pDB szSQL names
  refine ⟨?_,?_⟩
  · rw [stands,result]
    split <;> rfl
  · refine (steppedSelf stands).trans ?_
    rw [result]
    split <;> rfl

theorem firstStep (done : (execution client s pDB szSQL names).ending = SQLITE_DONE) :
    let w := compiled s.world pDB szSQL names
    let e := execution client s pDB szSQL names
    (advance client w.log s.world.nStmts (w.stmts s.world.nStmts)).1 =
      (if 0 < e.rows.length then SQLITE_ROW else SQLITE_DONE) ∧
    (begun client s pDB szSQL names).stmts s.world.nStmts =
      ⟨pDB,names,if 0 < e.rows.length then .onRow e 0 else .ended e⟩ := by
  intro w e
  obtain ⟨code,stands⟩ := firstOutcome client szSQL s pDB names
  rw [done] at code
  exact ⟨code,stands⟩

section Queries
variable (opened : s.this.mpDB = some pDB) (ok : (client.prepare s.world.log pDB szSQL).rc = SQLITE_OK)
  (columns : (client.prepare s.world.log pDB szSQL).columns = some names)
  (done : (execution client s pDB szSQL names).ending = SQLITE_DONE)
include opened ok columns done

theorem directApply : direct client szSQL s = some ⟨begun client s pDB szSQL names,
    ⟨some pDB,some s.world.nStmts,(execution client s pDB szSQL names).rows.length = 0,names.length⟩⟩ := by
  obtain ⟨code,stands⟩ := firstStep client done
  have result := execQueryApply client opened ok columns (by rw [code]; split <;> decide)
  unfold direct
  rw [result]
  refine congrArg some (congrArg (Scope.mk _) ?_)
  rw [CppSQLite3Query.mk.injEq]
  refine ⟨rfl,rfl,?_,?_⟩
  · rw [code,decide_eq_decide]
    split
    · refine iff_of_false (by decide) (by omega)
    · refine iff_of_true rfl (by omega)
  · exact congrArg (fun stmt : Sqlite3Stmt => (stmt.columns.length : Int)) stands

theorem preparedApply : prepared client szSQL s = some ⟨begun client s pDB szSQL names,
    ⟨none,some s.world.nStmts,false,names.length⟩⟩ := by
  obtain ⟨code,stands⟩ := firstStep client done
  have result := CppSQLite3Statement.execQueryApply client
    (s := ⟨compiled s.world pDB szSQL names,⟨some pDB,some s.world.nStmts⟩⟩) rfl rfl
    (by rw [code]; split <;> decide)
  unfold prepared
  rw [compileStatementApply client opened ok columns]
  dsimp only
  rw [result]
  refine congrArg some (congrArg (Scope.mk _) ?_)
  rw [CppSQLite3Query.mk.injEq]
  exact ⟨rfl,rfl,rfl,congrArg (fun stmt : Sqlite3Stmt => (stmt.columns.length : Int)) stands⟩

end Queries

theorem begunLeft (mpDB : Option Nat) (done : (execution client s pDB szSQL names).ending = SQLITE_DONE)
    (some : 0 < (execution client s pDB szSQL names).rows.length) :
    Left ((execution client s pDB szSQL names).rows.map shown) ⟨begun client s pDB szSQL names,
      ⟨mpDB,.some s.world.nStmts,false,names.length⟩⟩ := by
  have stands := (firstStep client done).2
  simp only [if_pos some] at stands
  exact ⟨s.world.nStmts,rfl,.inr ⟨rfl,pDB,names,_,0,stands,done,some,rfl,rfl⟩⟩

end Agreement

/-- On a text that yields these rows the loop over a query executed directly and the loop over
one executed as a prepared statement agree exactly when there is a row to read. -/
theorem pathsAgreeIffRows (client : Client) (szSQL : CString) (s : Scope World CppSQLite3DB)
    (rows : List (List Value)) (yields : Yields client szSQL s rows) :
    Agree client szSQL s rows ↔ rows ≠ [] := by
  obtain ⟨pDB,opened⟩ := Option.ne_none_iff_exists'.mp yields.opened
  obtain ⟨names,ok,columns,rfl,done⟩ := yields.statement pDB opened
  change Agree client szSQL s (execution client s pDB szSQL names).rows ↔ _
  have first := directApply client opened ok columns done
  have second := preparedApply client opened ok columns done
  constructor
  · rintro ⟨p,q,_,returns,_,ends⟩ none
    rw [second] at returns
    cases returns
    have eof := (ends none).2
    rw [CppSQLite3Query.eofApply rfl] at eof
    cases eof
  · intro some
    have count : 0 < (execution client s pDB szSQL names).rows.length := List.length_pos_iff.mpr some
    have more : decide ((execution client s pDB szSQL names).rows.length = 0) = false :=
      decide_eq_false (Nat.ne_of_gt count)
    rw [more] at first
    obtain ⟨t,reads⟩ := leftReads client (begunLeft client (.some pDB) done count)
    obtain ⟨u,readsPrepared⟩ := leftReads client (begunLeft client .none done count)
    exact ⟨_,_,first,second,⟨_,t,u,reads,readsPrepared⟩,fun none => absurd none some⟩

theorem oneName (names : List CString) (same : some [text "n"] = some names) : names.length < 2^31 := by
  cases same
  decide

/-- A library whose every statement has one column and yields these rows. -/
def answering (rows : List (List Value)) (narrow : ∀ row ∈ rows, row.length = 1) : Client :=
  {Client.obliging with
    prepare := fun _ _ _ => ⟨SQLITE_OK,some [text "n"],oneName⟩
    execute := fun _ _ width =>
      if one : width = 1 then ⟨rows,SQLITE_DONE,one ▸ narrow,doneEnds,doneCode⟩ else .rowless width}

/-- A fresh object on an open connection. -/
def onOpen : Scope World CppSQLite3DB := ⟨.initial,⟨some 0⟩⟩

def one : Value := ⟨1,some (text "1"),1,0,ascii "1",by decide⟩

theorem answeringYields (rows : List (List Value)) (narrow : ∀ row ∈ rows, row.length = 1) :
    Yields (answering rows narrow) (text "select n") onOpen rows :=
  ⟨nofun,fun _ _ => ⟨[text "n"],rfl,rfl,rfl,rfl⟩⟩

theorem pathsAgreeIffRowsOne : Agree (answering [[one]] (by decide)) (text "select n") onOpen [[one]] ↔
    [[one]] ≠ [] :=
  pathsAgreeIffRows (answering [[one]] (by decide)) (text "select n") onOpen [[one]] (answeringYields [[one]] _)

/-- Over a statement without rows the prepared path returns a query that is not at its end. -/
theorem phantomRow : Yields (answering [] nofun) (text "select n") onOpen [] ∧
    ∃ q, prepared (answering [] nofun) (text "select n") onOpen = some q ∧
      CppSQLite3Query.eof q = .ok false q ∧ ¬ Agree (answering [] nofun) (text "select n") onOpen [] := by
  refine ⟨answeringYields [] nofun,_,rfl,rfl,?_⟩
  rintro ⟨p,q,_,returns,_,ends⟩
  cases returns
  have eof := (ends rfl).2
  rw [CppSQLite3Query.eofApply rfl] at eof
  cases eof

end DatabaseLayer.SQLiteLoops
