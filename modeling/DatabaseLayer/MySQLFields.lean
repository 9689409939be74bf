import DatabaseLayer.MySQLRows
import DatabaseLayer.ResultSetCells

/-! Reading a cell of a MySQL query. All five accessors index `m_Row[nField]` before anything
has settled whether there is a row, whose row it is, and how long. -/
namespace DatabaseLayer.MySQLFields
open Platform MySQLClient Foundation.Program Foundation.Run Foundation.Objects
open ResultSetCells (Answers wrapIntBelow)
open CppMySQLQuery

section Cells
variable {α : Type} {w : World} {q : CppMySQLQuery} {c : Int} {cell : Cell} {s : Scope World CppMySQLQuery}
  {m : Op CppMySQLQuery α} {value : Cell → Except CppMySQLException α}

/-- The row, if it is one of the result the object holds. -/
def currentRow (q : CppMySQLQuery) : Option (List Cell) :=
  match q.mRow with
  | some row => if q.mpRES = some row.owner then some row.cells else none
  | none => none

/-- Its numFields() cells. -/
def ownCells (q : CppMySQLQuery) : List Cell := ((currentRow q).getD []).take (wrapInt q.mNumFields).toNat

def cellIn (q : CppMySQLQuery) (c : Int) : Option Cell := if c < 0 then none else (ownCells q)[c.toNat]?

def Inside (q : CppMySQLQuery) (c : Int) : Prop := currentRow q ≠ none ∧ 0 ≤ c ∧ c < wrapInt q.mNumFields

/-- The object amid other memory: past its own cells, and behind a row that is not of its
result, lies whatever beyond holds. -/
def amid (q : CppMySQLQuery) (beyond : List Cell) : CppMySQLQuery :=
  {q with mRow := q.mRow.map (fun row => ⟨row.owner,ownCells q ++ beyond⟩)}

/-- The accessor reads the cell there is and is refused where there is none, whatever
memory lies beyond. -/
def Clean (refusal : Stop → Prop) (cell : Option α) (m : Op CppMySQLQuery α) (s : Scope World CppMySQLQuery) : Prop :=
  ∀ beyond, Answers refusal cell (m ⟨s.world,amid s.this beyond⟩)

theorem amidSelf (q : CppMySQLQuery) : ∃ beyond, amid q beyond = q := by
  obtain ⟨mpRES,mRow,mNumRows,mNumFields⟩ := q
  unfold amid ownCells
  generalize wrapInt (mNumFields : Int) = width
  cases mRow with
  | none => exact ⟨[],rfl⟩
  | some row =>
    by_cases own : mpRES = some row.owner
    · exact ⟨row.cells.drop width.toNat,by simp [currentRow,own]⟩
    · exact ⟨row.cells,by simp [currentRow,own]⟩

theorem cleanAnswers {refusal : Stop → Prop} {expected : Option α} (clean : Clean refusal expected m s) :
    Answers refusal expected (m s) := by
  obtain ⟨beyond,same⟩ := amidSelf s.this
  have answers := clean beyond
  rw [same] at answers
  exact answers

/-- What `m_Row[nField]` finds, if there is anything. -/
def found (q : CppMySQLQuery) (c : Int) : Option Cell :=
  if c < 0 then none else q.mRow.bind (fun row => row.cells[c.toNat]?)

theorem foundRow {owner : Nat} {cells : List Cell} (held : q.mRow = some ⟨owner,cells⟩) (low : ¬ c < 0) :
    found q c = cells[c.toNat]? := by
  rw [found,if_neg low,held,Option.bind_some]

theorem foundNoRow (none : q.mRow = none) (c : Int) : found q c = .none := by
  rw [found,none,Option.bind_none,ite_self]

theorem amidRow {row : MysqlRow} (held : q.mRow = some row) (beyond : List Cell) :
    (amid q beyond).mRow = some ⟨row.owner,ownCells q ++ beyond⟩ := by
  rw [amid,held,Option.map_some]

theorem amidNoRow (none : q.mRow = none) (beyond : List Cell) : (amid q beyond).mRow = .none := by
  rw [amid,none,Option.map_none]

theorem noRowNoCells (none : q.mRow = none) : ownCells q = [] := by
  rw [ownCells,currentRow,none]
  exact List.take_nil

theorem foundNothing (nothing : cellIn q c = none) : found (amid q []) c = none := by
  by_cases low : c < 0
  · rw [found,if_pos low]
  · rw [cellIn,if_neg low] at nothing
    cases held : q.mRow with
    | none => exact foundNoRow (amidNoRow held []) c
    | some row =>
      rw [foundRow (amidRow held []) low,List.append_nil,nothing]

theorem foundBeyond (there : cellIn q c = some cell) (beyond : List Cell) : found (amid q beyond) c = some cell := by
  unfold cellIn at there
  split at there
  · cases there
  · rename_i low
    cases held : q.mRow with
    | none =>
      rw [noRowNoCells held] at there
      cases there
    | some row =>
      obtain ⟨below,_⟩ := List.getElem?_eq_some_iff.mp there
      rw [foundRow (amidRow held beyond) low,List.getElem?_append_left below,there]

theorem foundAmid (there : cellIn q c ≠ none) (beyond : List Cell) : found (amid q beyond) c = found q c := by
  obtain ⟨cell,has⟩ := Option.ne_none_iff_exists'.mp there
  obtain ⟨own,same⟩ := amidSelf q
  rw [foundBeyond has beyond,← foundBeyond has own,same]

/-- How an accessor ends that found nothing, or made something of a cell. -/
def ends {σ : Type} (s : σ) : Option (Except CppMySQLException α) → EStateM.Result Stop σ α
  | none => .error .undefined s
  | some (.error x) => .error (.thrown x) s
  | some (.ok a) => .ok a s

/-- The accessor is a function of the one cell it finds. -/
def Funnels (m : Op CppMySQLQuery α) (c : Int) (value : Cell → Except CppMySQLException α) : Prop :=
  ∀ s, m s = ends s ((found s.this c).map value)

theorem rowAtFunnels (c : Int) : Funnels (rowAt c) c .ok := by
  intro s
  simp only [rowAt,found,bindApply,getApply]
  cases s.this.mRow with
  | none => simp only [Option.bind_none,ite_self,undefinedApply,Option.map_none,ends]
  | some row =>
    simp only [Option.bind_some,iteApply]
    split
    · rfl
    · cases row.cells[c.toNat]? <;> rfl

theorem funnelsMap {β : Type} (funnels : Funnels m c value) (f : α → β) :
    Funnels (do return f (← m)) c (fun cell => (value cell).map f) := by
  intro s
  simp only [bindApply,funnels s]
  cases found s.this c with
  | none => rfl
  | some cell =>
    simp only [Option.map_some]
    cases value cell <;> rfl

theorem nullFunnels (c : Int) : Funnels (fieldDataIsNull c) c (fun cell => .ok cell.isNone) :=
  funnelsMap (rowAtFunnels c) Option.isNone

/-- The text of a cell, which fieldValue refuses to look for in a NULL. -/
def textOf : Cell → Except CppMySQLException CString
  | some value => .ok value
  | none => .error (exception CPPMYSQL_QUERY_ERROR (some (text "get fieldValue failed")))

theorem valueFunnels (c : Int) : Funnels (fieldValue c) c textOf := by
  intro s
  have null := nullFunnels c s
  have row := rowAtFunnels c s
  cases there : found s.this c with
  | none =>
    rw [there] at null
    simp only [fieldValue,bindApply,getApply,null,Option.map_none,ends]
  | some cell =>
    rw [there] at null row
    have present : s.this.mRow.isSome = true := by
      cases held : s.this.mRow with
      | none => cases (foundNoRow held c).symm.trans there
      | some row => rfl
    cases cell with
    | none => simp [fieldValue,null,raiseApply,ends,textOf]
    | some a => simp [fieldValue,null,row,present,ends,textOf]

theorem funnelsElse (funnels : Funnels m c value) (d : α) {f : CString → α} (same : ∀ a, value (some a) = .ok (f a)) :
    Funnels (do if !(← fieldDataIsNull c) then m else return d) c (fun cell => .ok (cell.elim d f)) := by
  intro s
  simp only [bindApply,nullFunnels c s]
  cases there : found s.this c with
  | none => rfl
  | some cell =>
    cases cell with
    | none => rfl
    | some a => simp [ends,funnels s,there,same]

theorem stringFunnels (c : Int) (d : CString) : Funnels (getStringField c d) c (fun cell => .ok (cell.elim d id)) :=
  funnelsElse (valueFunnels c) d fun _ => rfl

theorem stringOrFunnels (c : Int) (d : Option CString) : Funnels (getStringFieldOr c d) c (fun cell => .ok (cell.elim d some)) :=
  funnelsElse (funnelsMap (valueFunnels c) some) d fun _ => rfl

theorem intFunnels (c d : Int) : Funnels (getIntField c d) c (fun cell => .ok (cell.elim d atoi)) :=
  funnelsElse (funnelsMap (stringFunnels c default) atoi) d fun _ => rfl

theorem doubleFunnels (atof : CString → UInt64) (c : Int) (d : UInt64) :
    Funnels (getDoubleField atof c d) c (fun cell => .ok (cell.elim d atof)) :=
  funnelsElse (funnelsMap (stringFunnels c default) atof) d fun _ => rfl

/-- The row of an object that owns it has as many cells as there are fields. -/
def Fits (q : CppMySQLQuery) : Prop := ∀ cells, currentRow q = some cells → cells.length = q.mNumFields

theorem cellInIff (fits : Fits q) : cellIn q c ≠ none ↔ Inside q c := by
  unfold cellIn ownCells Inside
  have within := wrapIntBelow q.mNumFields
  generalize wrapInt (q.mNumFields : Int) = width at within ⊢
  by_cases low : c < 0
  · rw [if_pos low]
    exact iff_of_false (not_not.mpr rfl) fun inside => by omega
  rw [if_neg low]
  cases current : currentRow q with
  | none => exact iff_of_false (by simp) fun inside => inside.1 rfl
  | some cells =>
    have long := fits cells current
    rw [Option.getD_some]
    by_cases high : c < width
    · have below : c.toNat < cells.length := by omega
      rw [List.getElem?_take_of_lt (by omega),List.getElem?_eq_getElem below]
      exact iff_of_true nofun ⟨nofun,by omega,high⟩
    · rw [List.getElem?_take_eq_none (by omega)]
      exact iff_of_false (not_not.mpr rfl) fun inside => high inside.2.2

def refusal (e : Stop) : Prop := ∃ x, e = .thrown x

theorem cleanIffFound (funnels : Funnels m c value) {expected : Option α} : Clean refusal expected m s ↔
    ∃ cell, cellIn s.this c = some cell ∧ Answers refusal expected (ends s (some (value cell))) := by
  cases there : cellIn s.this c with
  | none =>
    refine iff_of_false (fun clean => ?_) fun some => by simp at some
    have answers := clean []
    rw [funnels,foundNothing there] at answers
    obtain ⟨_,x,same⟩ := answers
    cases same
  | some cell =>
    have reads : ∀ beyond, m ⟨s.world,amid s.this beyond⟩ = ends ⟨s.world,amid s.this beyond⟩ (some (value cell)) := by
      intro beyond
      rw [funnels,foundBeyond there beyond]
      rfl
    simp only [Option.some.injEq,exists_eq_left']
    refine ⟨fun clean => ?_,fun answers beyond => ?_⟩
    · have answers := clean []
      rw [reads] at answers
      cases made : value cell <;> rw [made] at answers <;> exact answers
    · rw [reads]
      cases made : value cell <;> rw [made] at answers <;> exact answers

theorem cleanIff (funnels : Funnels m c value) (fits : Fits s.this) :
    Clean refusal ((cellIn s.this c).bind (fun cell => (value cell).toOption)) m s ↔ Inside s.this c := by
  rw [← cellInIff fits,cleanIffFound funnels]
  cases there : cellIn s.this c with
  | none => exact iff_of_false (by simp) (not_not.mpr rfl)
  | some cell =>
    refine iff_of_true ⟨cell,rfl,?_⟩ nofun
    rw [Option.bind_some]
    cases value cell with
    | ok a => rfl
    | error x => exact ⟨rfl,x,rfl⟩

theorem wholeIff (fits : Fits s.this) :
    Clean refusal (cellIn s.this c) (do return some (← fieldValue c)) s ↔ Inside s.this c ∧ cellIn s.this c ≠ some none := by
  rw [← cellInIff fits,cleanIffFound (funnelsMap (valueFunnels c) some)]
  cases there : cellIn s.this c with
  | none => exact iff_of_false (by simp) fun both => both.1 rfl
  | some cell =>
    cases cell with
    | none =>
      refine iff_of_false ?_ fun both => both.2 rfl
      rintro ⟨cell,same,answers⟩
      cases same
      cases answers.1
    | some a => exact iff_of_true ⟨some a,rfl,rfl⟩ ⟨nofun,nofun⟩

/-- What each accessor owes the object, exactly when it gives it. -/
structure Exact (atof : CString → UInt64) (s : Scope World CppMySQLQuery) (c : Int) : Prop where
  isNull : Clean refusal ((cellIn s.this c).map Option.isNone) (fieldDataIsNull c) s ↔ Inside s.this c
  value : Clean refusal (cellIn s.this c).join (fieldValue c) s ↔ Inside s.this c
  whole : Clean refusal (cellIn s.this c) (do return some (← fieldValue c)) s ↔
    Inside s.this c ∧ cellIn s.this c ≠ some none
  int : ∀ d, Clean refusal ((cellIn s.this c).map (fun cell => cell.elim d atoi)) (getIntField c d) s ↔ Inside s.this c
  double : ∀ d, Clean refusal ((cellIn s.this c).map (fun cell => cell.elim d atof)) (getDoubleField atof c d) s ↔
    Inside s.this c
  string : ∀ d, Clean refusal ((cellIn s.this c).map (fun cell => cell.elim d some)) (getStringFieldOr c d) s ↔
    Inside s.this c

theorem exactOfFits (atof : CString → UInt64) (fits : Fits s.this) (c : Int) : Exact atof s c := by
  have mapped : ∀ {β : Type} (f : Cell → β), (cellIn s.this c).map f = (cellIn s.this c).bind (fun cell =>
      (Except.ok (f cell) : Except CppMySQLException β).toOption) := by
    intro β f
    cases cellIn s.this c <;> rfl
  have joined : (cellIn s.this c).join = (cellIn s.this c).bind (fun cell => (textOf cell).toOption) := by
    cases cellIn s.this c with
    | none => rfl
    | some cell => cases cell <;> rfl
  refine ⟨?_,?_,wholeIff fits,fun d => ?_,fun d => ?_,fun d => ?_⟩
  · rw [mapped]
    exact cleanIff (nullFunnels c) fits
  · rw [joined]
    exact cleanIff (valueFunnels c) fits
  · rw [mapped]
    exact cleanIff (intFunnels c d) fits
  · rw [mapped]
    exact cleanIff (doubleFunnels atof c d) fits
  · rw [mapped]
    exact cleanIff (stringOrFunnels c d) fits

end Cells
section Runs
open MySQLSystem CppMySQLDB MySQLRows MySQLRules ExclusiveOwnership
variable {client : Client} {v w : World} {q : CppMySQLQuery} {res : Nat}

/-- A result the object holds was issued and has its fields, and the row of it is in it. -/
structure Held (w : World) (q : CppMySQLQuery) : Prop where
  below : ∀ res, q.mpRES = some res → res < w.nResults
  fields : ∀ res, q.mpRES = some res → q.mNumFields = (w.results res).data.fields.length
  row : ∀ row, q.mRow = some row → q.mpRES = some row.owner → row.cells ∈ (w.results row.owner).data.rows

theorem heldFits (held : Held w q) : Fits q := by
  intro cells current
  unfold currentRow at current
  split at current
  · rename_i row there
    split at current
    · rename_i own
      cases current
      rw [held.fields row.owner own]
      exact (w.results row.owner).data.rectangular row.cells (held.row row there own)
    · cases current
  · cases current

theorem heldWithout (none : q.mpRES = none) : Held w q := by
  refine ⟨fun res own => ?_,fun res own => ?_,fun row _ own => ?_⟩ <;> cases none.symm.trans own

theorem heldGrows (grows : Grows w v) (held : Held w q) : Held v q := by
  refine ⟨fun res own => ?_,fun res own => ?_,fun row there own => ?_⟩
  · exact Nat.lt_of_lt_of_le (held.below res own) grows.count
  · rw [grows.data res (held.below res own)]
    exact held.fields res own
  · rw [grows.data row.owner (held.below row.owner own)]
    exact held.row row there own

theorem heldSought (old : res < w.nResults) (offset mNumRows : Nat) :
    Held (w.seekRes res offset) ⟨some res,w.fetched res offset,mNumRows,(w.results res).data.fields.length⟩ := by
  refine ⟨fun k own => ?_,fun k own => ?_,fun row there _ => ?_⟩
  · cases own
    exact old
  · cases own
    simp [World.seekRes]
  · obtain ⟨rfl,inside⟩ := fetchedRow there
    simpa [World.seekRes] using inside

theorem heldReturned {szSQL : CString} {s t : Scope World CppMySQLDB} (returns : execQuery client szSQL s = .ok q t) :
    Held t.world q := by
  rw [execQueryApply] at returns
  split at returns
  · dsimp only at returns
    split at returns
    · rw [ofRESApply] at returns
      have counts := storedCounts client (asked client s (.realQuery szSQL))
      cases stores : (stored client (asked client s (.realQuery szSQL))).1 with
      | none =>
        rw [stores] at returns
        cases returns
        exact heldWithout rfl
      | some res =>
        rw [stores] at returns counts
        cases returns
        refine heldSought ?_ 0 _
        rw [counts.1,counts.2.2 res rfl]
        exact Nat.lt_succ_self _
    · cases returns
  · cases returns

theorem heldAssigned {r : CppMySQLQuery} (source : Held w r) (q : CppMySQLQuery) :
    let t := left (assign r ⟨w,q⟩)
    Held t.world t.this := by
  have grows := releasedGrows ⟨w,q⟩
  rw [assignApply]
  cases held : r.mpRES with
  | none => exact heldWithout rfl
  | some res => exact heldSought (Nat.lt_of_lt_of_le (source.below res held) grows.count) 0 _

theorem heldNext (held : Held w q) (inside : ∀ res, q.mpRES = some res → CursorInside (w.results res)) :
    let t := left (nextRow ⟨w,q⟩)
    Held t.world t.this := by
  obtain ⟨mpRES,mRow,mNumRows,mNumFields⟩ := q
  have grows := nextRowGrows ⟨w,mpRES,mRow,mNumRows,mNumFields⟩
  rw [nextRowApply] at grows ⊢
  cases mpRES with
  | none => exact held
  | some res =>
    dsimp only at grows ⊢
    have cursor : (w.results res).dataCursor <:+ (w.results res).data.rows := inside res rfl
    cases rest : (w.results res).dataCursor with
    | nil => exact ⟨held.below,held.fields,nofun⟩
    | cons cells _ =>
      rw [rest] at grows cursor
      have moved := heldGrows grows held
      refine ⟨moved.below,moved.fields,fun row there _ => ?_⟩
      cases there
      have data := congrArg ResultData.rows (grows.data res (held.below res rfl))
      exact data ▸ cursor.subset List.mem_cons_self

theorem heldSeek (held : Held w q) (offerset : Nat) :
    let t := left (seekRow offerset ⟨w,q⟩)
    Held t.world t.this := by
  rw [seekRowApply]
  dsimp only
  cases own : q.mpRES with
  | none => exact held
  | some res =>
    have sought := heldSought (held.below res own) (clamped offerset q.mNumRows) q.mNumRows
    rw [← held.fields res own] at sought
    exact sought

/-- The other operations leave results and their cursors as a statement's execution does. -/
theorem operationGrows (client : Client) {op : Operation} (plain : namesObject op = false) (s : Scope World CppMySQLDB) :
    Grows s.world (left (perform client op s)).world := by
  have quiet : op.quiet → Grows s.world (left (perform client op s)).world := fun quiet =>
    settlesLeft (settlesQuiet chainGrowsOn (fun _ _ _ _ => growsHeap rfl rfl) (fun _ _ => growsHeap rfl rfl)
      (fun _ _ _ => growsHeap rfl rfl) quiet) s
  cases op with
  | execQuery szSQL | getResultSet szSQL | compileStatement szSQL => cases plain
  | execScalar szSQL nNullValue =>
    simp only [perform,leftBindPure]
    exact settlesLeft (execScalarGrows szSQL nNullValue) s
  | tableExists szTable =>
    simp only [perform,leftBindPure,tableExistsApply]
    split
    · split
      · exact chainGrows.refl _
      · simp only [leftBindPure]
        exact settlesLeft (execScalarGrows _ 0) s
    · exact chainGrows.refl _
  | execDML | startTransaction | createDB | dropDB =>
    rw [(unfetchedLeft client rfl s).1,ranUnfetched]
    split
    · exact chainGrows.refl _
    · dsimp only
      split <;> exact growsHeap rfl rfl
  | _ => exact quiet rfl

/-- What a run keeps: cursors stay in their results, and queries hold what they hold. -/
structure Kept (s : System) : Prop where
  cursors : ∀ res, res < s.world.nResults → CursorInside (s.world.results res)
  queries : All (Held s.world) s.queries

theorem keptGrows {s t : System} (grows : Grows s.world t.world) (kept : Kept s) (queries : All (Held t.world) t.queries) :
    Kept t := ⟨grows.cursors kept.cursors,queries⟩

theorem stepKept (client : Client) (s : System) (c : Command) (kept : Kept s) : Kept (step client s c) := by
  have grows := stepGrows client s c
  refine keptGrows grows kept ?_
  have before : All (Held (step client s c).world) s.queries := fun i q live => heldGrows grows (kept.queries i q live)
  clear grows
  cases c with
  | execQuery mpDB i szSQL =>
    cases free : s.queries i with
    | some q => simpa only [step,free] using kept.queries
    | none =>
      simp only [step,free] at before ⊢
      refine allCreated before i fun q t returns => ?_
      simp only [System.setQueries,createdWorld,returns,leftOk]
      exact heldReturned returns
  | newQuery i =>
    simp only [step] at before ⊢
    split
    · exact allPut kept.queries i (heldWithout rfl)
    · exact kept.queries
  | copyQuery i j =>
    simp only [step] at before ⊢
    split
    · rename_i r _ source
      exact allCopied kept.queries i j (kept.queries j r source) (heldWithout rfl)
    · exact kept.queries
  | assignQuery i j =>
    by_cases same : i = j
    · simpa only [step,if_pos same] using kept.queries
    cases target : s.queries i with
    | none => simpa only [step,if_neg same,target] using kept.queries
    | some q =>
      cases source : s.queries j with
      | none => simpa only [step,if_neg same,target,source] using kept.queries
      | some r =>
        have after := heldAssigned (kept.queries j r source) q
        simp only [step,if_neg same,target,source] at before ⊢
        rw [assignApply] at after before ⊢
        exact allCopied before i j after (heldWithout rfl)
  | clearQuery i =>
    cases live : s.queries i with
    | none => simpa only [step,live] using kept.queries
    | some q =>
      simp only [step,live] at before ⊢
      rw [clearLeft] at before ⊢
      exact allUsed before i (heldWithout rfl)
  | nextRow i =>
    cases live : s.queries i with
    | none => simpa only [step,live] using kept.queries
    | some q =>
      have held := kept.queries i q live
      simp only [step,live] at before ⊢
      exact allUsed before i (heldNext held fun res own => kept.cursors res (held.below res own))
  | seekRow i offerset =>
    cases live : s.queries i with
    | none => simpa only [step,live] using kept.queries
    | some q =>
      simp only [step,live] at before ⊢
      exact allUsed before i (heldSeek (kept.queries i q live) offerset)
  | destroyQuery i =>
    cases live : s.queries i with
    | none => simpa only [step,live] using kept.queries
    | some q =>
      simp only [step,live] at before ⊢
      exact allRemoved before i
  | execScalar | getResultSet | compileStatement | newResultSet | copyResultSet | assignResultSet | clearResultSet
  | destroyResultSet | newStatement | copyStatement | assignStatement | statement | destroyStatement =>
    rw [queriesKept client s rfl]
    exact before

theorem eventKept (s : System) (e : Event) (kept : Kept s) : Kept (mysqlStep client s e) := by
  cases e with
  | command c => exact stepKept client s c kept
  | operation mpDB op =>
    simp only [mysqlStep]
    split
    · exact kept
    · rename_i plain
      have grows := operationGrows client (Bool.eq_false_iff.mpr plain) (s.on mpDB)
      exact keptGrows grows kept fun i q live => heldGrows grows (kept.queries i q live)

theorem initialKept : Kept (.initial .initial) := ⟨fun _ old => absurd old (Nat.not_lt_zero _),allEmpty⟩

/-- In every state of every run, each accessor of a query reads the cell, or is refused off
the data, exactly when the query stands on a row of its result and the column is in it. -/
theorem readsCleanIff (client : Client) (atof : CString → UInt64) (events : List Event) :
    Throughout (mysqlStep client) (fun s => ∀ i q, s.queries i = some q → ∀ c, Exact atof ⟨s.world,q⟩ c)
      (.initial .initial) events :=
  throughoutMono (fun _ kept i q live => exactOfFits (s := ⟨_,q⟩) atof (heldFits (kept.queries i q live)))
    (invariantThroughout eventKept initialKept events)

/-- A query that was never given a result is asked whether its first field is NULL, and
indexes the row it has not got. -/
theorem newQueryIndexed : ∃ q,
    (run (mysqlStep .obliging) (.initial .initial) [.command (.newQuery 0)]).queries 0 = some q ∧
    fieldDataIsNull 0 ⟨.initial,q⟩ = .error .undefined ⟨.initial,q⟩ ∧
    ¬ Clean refusal ((cellIn q 0).map Option.isNone) (fieldDataIsNull 0) ⟨.initial,q⟩ := by
  refine ⟨.new,rfl,rfl,fun clean => ?_⟩
  obtain ⟨_,x,same⟩ := cleanAnswers clean
  cases same

end Runs
end DatabaseLayer.MySQLFields
