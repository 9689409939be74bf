import DatabaseLayer.MySQLRules

/-! What a CppMySQLResultSet still tells about the cells it copied. NULL is written as the
text NULL, so that text is the one a cell must not hold. -/
namespace DatabaseLayer.MySQLNull
open Platform MySQLClient Foundation.Program CppMySQLDB

def answer {σ α : Type} : EStateM.Result Stop σ α → Option α
  | .ok a _ => some a
  | .error _ _ => none

/-- The object at row r, after seekRow. -/
def atRow (s : Scope World CppMySQLResultSet) (r : Nat) : Scope World CppMySQLResultSet :=
  ⟨s.world,(CppMySQLResultSet.seekRow r s.this).2⟩

def queryAtRow (s : Scope World CppMySQLQuery) (r : Nat) : Scope World CppMySQLQuery :=
  left (CppMySQLQuery.seekRow r s)

def cellOf (data : ResultData) (r c : Nat) : Option Cell := data.rows[r]?.bind (fun row => row[c]?)

/-- The answers at every cell determine the cell. -/
def Lossless (data : ResultData) (s : Scope World CppMySQLResultSet) : Prop :=
  ∀ r c cell, cellOf data r c = some cell →
    answer (CppMySQLResultSet.fieldDataIsNull c (atRow s r)) = some cell.isNone ∧
    ∀ value, cell = some value → answer (CppMySQLResultSet.fieldValue c (atRow s r)) = some value

/-- At every cell the copy answers what a query over the same rows answers. -/
def AgreesWithQuery (data : ResultData) (s : Scope World CppMySQLResultSet) (q : Scope World CppMySQLQuery) : Prop :=
  ∀ r c cell, cellOf data r c = some cell →
    answer (CppMySQLResultSet.fieldDataIsNull c (atRow s r)) =
      answer (CppMySQLQuery.fieldDataIsNull c (queryAtRow q r)) ∧
    (answer (CppMySQLQuery.fieldDataIsNull c (queryAtRow q r)) = some false →
      answer (CppMySQLResultSet.fieldValue c (atRow s r)) =
        answer (CppMySQLQuery.getStringField c default (queryAtRow q r)))

def NoNullText (data : ResultData) : Prop := ∀ row ∈ data.rows, some (text "NULL") ∉ row

theorem noNullTextIff {data : ResultData} :
    NoNullText data ↔ ∀ r c, cellOf data r c ≠ some (some (text "NULL")) := by
  constructor
  · intro h r c same
    obtain ⟨row,inRow,inside⟩ := Option.bind_eq_some_iff.mp same
    exact h row (List.mem_of_getElem? inRow) (List.mem_of_getElem? inside)
  · intro h row inRow inside
    obtain ⟨r,hr⟩ := List.mem_iff_getElem?.mp inRow
    obtain ⟨c,hc⟩ := List.mem_iff_getElem?.mp inside
    exact h r c (by simp [cellOf,hr,hc])

section Reading
variable {data : ResultData} {w : World} {entries : List (Int × CString)} {t : World}
  {r c : Nat} {cell : Cell}

theorem copyAnswers (w t : World) (entries : List (Int × CString)) (inside : cellOf data r c = some cell) :
    let s : Scope World CppMySQLResultSet := ⟨t,.copied w data entries⟩
    answer (CppMySQLResultSet.fieldDataIsNull c (atRow s r)) =
      some (decide (CppMySQLResultSet.cellText cell = text "NULL")) ∧
    answer (CppMySQLResultSet.fieldValue c (atRow s r)) = some (CppMySQLResultSet.cellText cell) := by
  obtain ⟨row,inRow,inCell⟩ := Option.bind_eq_some_iff.mp inside
  have shown := CppMySQLResultSet.copiedCell w entries inRow inCell
  intro s
  rw [CppMySQLResultSet.fieldDataIsNullApply shown,CppMySQLResultSet.fieldValueApply shown]
  exact ⟨rfl,rfl⟩

theorem queryAnswers {q : Scope World CppMySQLQuery} {res : Nat} (held : q.this.mpRES = some res)
    (reads : (q.world.results res).data = data) (counted : q.this.mNumRows = data.rows.length)
    (inside : cellOf data r c = some cell) :
    answer (CppMySQLQuery.fieldDataIsNull c (queryAtRow q r)) = some cell.isNone ∧
    answer (CppMySQLQuery.getStringField c default (queryAtRow q r)) = some (cell.getD default) := by
  obtain ⟨row,inRow,inCell⟩ := Option.bind_eq_some_iff.mp inside
  obtain ⟨below,_⟩ := List.getElem?_eq_some_iff.mp inRow
  have current := CppMySQLQuery.seekRowLeft held (counted ▸ below) (reads ▸ inRow)
  unfold queryAtRow
  rw [CppMySQLQuery.fieldDataIsNullApply current inCell,
    CppMySQLQuery.getStringFieldApply current inCell default]
  exact ⟨rfl,rfl⟩

theorem cellTextNull : CppMySQLResultSet.cellText cell = text "NULL" ↔
    cell = none ∨ cell = some (text "NULL") := by
  cases cell <;> simp [CppMySQLResultSet.cellText]

theorem cellFaithful : decide (CppMySQLResultSet.cellText cell = text "NULL") = cell.isNone ↔
    cell ≠ some (text "NULL") := by
  rw [Bool.eq_iff_iff,decide_eq_true_eq,cellTextNull]
  cases cell <;> simp

theorem copiedLossless : Lossless data ⟨t,.copied w data entries⟩ ↔ NoNullText data := by
  rw [noNullTextIff]
  constructor
  · intro lossless r c same
    have answers := (lossless r c _ same).1
    rw [(copyAnswers w t entries same).1,Option.some.injEq] at answers
    exact cellFaithful.mp answers rfl
  · intro clean r c cell inside
    obtain ⟨isNull,value⟩ := copyAnswers w t entries inside
    have faithful : cell ≠ some (text "NULL") := fun same => clean r c (same ▸ inside)
    refine ⟨isNull.trans (congrArg some (cellFaithful.mpr faithful)),?_⟩
    rintro v rfl
    exact value

theorem copiedAgrees {q : Scope World CppMySQLQuery} {res : Nat} (held : q.this.mpRES = some res)
    (reads : (q.world.results res).data = data) (counted : q.this.mNumRows = data.rows.length) :
    AgreesWithQuery data ⟨t,.copied w data entries⟩ q ↔ NoNullText data := by
  rw [noNullTextIff]
  constructor
  · intro agrees r c same
    have answers := (agrees r c _ same).1
    rw [(copyAnswers w t entries same).1,(queryAnswers held reads counted same).1,Option.some.injEq] at answers
    exact cellFaithful.mp answers rfl
  · intro clean r c cell inside
    obtain ⟨isNull,value⟩ := copyAnswers w t entries inside
    obtain ⟨queryIsNull,string⟩ := queryAnswers held reads counted inside
    have faithful : cell ≠ some (text "NULL") := fun same => clean r c (same ▸ inside)
    rw [isNull,value,queryIsNull,string]
    refine ⟨congrArg some (cellFaithful.mpr faithful),fun present => ?_⟩
    cases cell with
    | none => cases present
    | some v => rfl

end Reading

section Operations
variable {client : Client} {szSQL : CString} {s t : Scope World CppMySQLDB} {data : ResultData}

/-- The data the client library stores for the statement. -/
def Stores (client : Client) (szSQL : CString) (s : Scope World CppMySQLDB) (data : ResultData) : Prop :=
  (reply client (asked client s (.realQuery szSQL)) .storeResult).stored = some data

theorem storesResult (stores : Stores client szSQL s data) :
    ∃ res, (stored client (asked client s (.realQuery szSQL))).1 = some res ∧
      (stored client (asked client s (.realQuery szSQL))).2.world.results res = ⟨data,data.rows⟩ := by
  have kept : (stored client (asked client s (.realQuery szSQL))).1 =
      some (asked client s (.realQuery szSQL)).world.nResults := by
    unfold stored
    rw [stores]
  obtain ⟨d,yields,fresh,_⟩ := storedFresh client kept
  rw [stores] at yields
  cases yields
  exact ⟨_,kept,fresh⟩

theorem getResultSetCopies {rs : CppMySQLResultSet} (returns : getResultSet client szSQL s = .ok rs t)
    (stores : Stores client szSQL s data) : ∃ w entries, rs = .copied w data entries := by
  obtain ⟨res,kept,fresh⟩ := storesResult stores
  rw [getResultSetApply] at returns
  by_cases connected : Connected true s
  · simp only [if_pos connected] at returns
    split at returns
    · rw [kept,CppMySQLResultSet.ofRESApply res data _ fresh] at returns
      cases mapped : CppMySQLResultSet.fieldMap 0 data.fields with
      | ok entries =>
        simp only [mapped] at returns
        cases returns
        exact ⟨_,entries,rfl⟩
      | error nCol =>
        simp only [mapped] at returns
        cases returns
    · cases returns
  · simp only [if_neg connected] at returns
    cases returns

theorem execQueryHolds {q : CppMySQLQuery} (returns : execQuery client szSQL s = .ok q t)
    (stores : Stores client szSQL s data) : ∃ res, q.mpRES = some res ∧
      (t.world.results res).data = data ∧ q.mNumRows = data.rows.length := by
  obtain ⟨res,kept,fresh⟩ := storesResult stores
  rw [execQueryApply] at returns
  by_cases connected : Connected true s
  · simp only [if_pos connected] at returns
    split at returns
    · rw [kept,CppMySQLQuery.ofRESApply] at returns
      cases returns
      exact ⟨res,rfl,by simp [World.seekRes,fresh],by simp [CppMySQLQuery.holding,fresh]⟩
    · cases returns
  · simp only [if_neg connected] at returns
    cases returns

end Operations

/-- Whatever table the server yields, the copy getResultSet returns tells NULLs and texts
apart, and agrees cell by cell with the query execQuery returns over it, exactly when no
cell of the table holds the text NULL. -/
theorem copyLosslessIff (client : Client) (szSQL : CString) (s t u : Scope World CppMySQLDB)
    (data : ResultData) (rs : CppMySQLResultSet) (q : CppMySQLQuery)
    (stores : Stores client szSQL s data) (returns : getResultSet client szSQL s = .ok rs t)
    (queried : execQuery client szSQL s = .ok q u) :
    (Lossless data ⟨t.world,rs⟩ ↔ NoNullText data) ∧
    (AgreesWithQuery data ⟨t.world,rs⟩ ⟨u.world,q⟩ ↔ NoNullText data) := by
  obtain ⟨w,entries,rfl⟩ := getResultSetCopies returns stores
  obtain ⟨res,held,reads,counted⟩ := execQueryHolds queried stores
  exact ⟨copiedLossless,copiedAgrees held reads counted⟩

def single (cell : Cell) : ResultData := ⟨[⟨some (text "v"),253⟩],[[cell]],by simp,by simp,by simp⟩

theorem copyLosslessIffPlain : ∃ rs t q u,
    getResultSet (.yielding (single (some (text "a")))) (text "q") (opened 0 (text "d")) = .ok rs t ∧
    execQuery (.yielding (single (some (text "a")))) (text "q") (opened 0 (text "d")) = .ok q u ∧
    (Lossless (single (some (text "a"))) ⟨t.world,rs⟩ ↔ NoNullText (single (some (text "a")))) ∧
    (AgreesWithQuery (single (some (text "a"))) ⟨t.world,rs⟩ ⟨u.world,q⟩ ↔
      NoNullText (single (some (text "a")))) :=
  ⟨_,_,_,_,rfl,rfl,copyLosslessIff (.yielding (single (some (text "a")))) (text "q") (opened 0 (text "d"))
    _ _ (single (some (text "a"))) _ _ rfl rfl rfl⟩

/-- A cell that holds the text NULL is read back as SQL NULL. -/
theorem nullTextReadAsNull : ∃ rs t,
    getResultSet (.yielding (single (some (text "NULL")))) (text "q") (opened 0 (text "d")) = .ok rs t ∧
    ¬ Lossless (single (some (text "NULL"))) ⟨t.world,rs⟩ := by
  refine ⟨_,_,rfl,fun lossless => ?_⟩
  have isNull := (lossless 0 0 (some (text "NULL")) rfl).1
  exact absurd isNull (by decide)

end DatabaseLayer.MySQLNull
