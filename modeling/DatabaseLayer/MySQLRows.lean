import DatabaseLayer.MySQLHandles

/-! The current row of a query points into a result. Handing a result on, or freeing it,
leaves the pointer behind in the object that no longer owns what it points into. -/
namespace DatabaseLayer.MySQLRows
open Platform MySQLClient Foundation.Program Foundation.Objects Foundation.Run Foundation.Ledger MySQLRules CppMySQLDB
open MySQLSystem MySQLHandles

/-- The current row, if there is one, is a row of the result the object holds. -/
def OwnRow (w : World) (q : CppMySQLQuery) : Prop :=
  ∀ row, q.mRow = some row → q.mpRES = some row.owner ∧ row.cells ∈ (w.results row.owner).data.rows

def NoStaleRow (s : System) : Prop := ∀ i q, s.queries i = some q → OwnRow s.world q

theorem ownRowNone {w : World} {q : CppMySQLQuery} (ended : q.mRow = none) : OwnRow w q := by
  intro row current
  rw [ended] at current
  cases current

theorem ownRowFreed {w : World} {q : CppMySQLQuery} : OwnRow w {q with mpRES := none} ↔ q.mRow = none := by
  refine ⟨fun own => ?_,fun ended => ownRowNone (q := {q with mpRES := none}) ended⟩
  by_contra stale
  obtain ⟨row,current⟩ := Option.ne_none_iff_exists'.mp stale
  exact absurd (own row current).1 nofun

def CursorInside (r : MysqlRes) : Prop := r.dataCursor <:+ r.data.rows

/-- Results keep their rows, and their cursors stay inside them. -/
structure Grows (w v : World) : Prop where
  count : w.nResults ≤ v.nResults
  data : ∀ res, res < w.nResults → (v.results res).data = (w.results res).data
  cursors : (∀ res, res < w.nResults → CursorInside (w.results res)) →
    ∀ res, res < v.nResults → CursorInside (v.results res)

theorem chainGrows : Chain Grows := by
  refine ⟨fun w => ⟨le_rfl,fun _ _ => rfl,id⟩,fun u v w first rest => ⟨first.count.trans rest.count,?_,?_⟩⟩
  · intro res old
    rw [rest.data res (Nat.lt_of_lt_of_le old first.count),first.data res old]
  · exact fun inside => rest.cursors (first.cursors inside)

theorem growsHeap {w v : World} (count : v.nResults = w.nResults) (heap : v.results = w.results) : Grows w v := by
  refine ⟨Nat.le_of_eq count.symm,fun _ _ => by rw [heap],?_⟩
  rw [heap,count]
  exact id

theorem growsSetRes {w : World} {res : Nat} {cursor : List (List Cell)}
    (inside : CursorInside (w.results res) → cursor <:+ (w.results res).data.rows) :
    Grows w (w.setRes res {w.results res with dataCursor := cursor}) := by
  refine ⟨le_rfl,fun k _ => ?_,fun before k old => ?_⟩
  · by_cases own : k = res
    · subst own
      simp
    · rw [setResOther w _ own]
  · by_cases own : k = res
    · subst own
      rw [setResSelf]
      exact inside (before k old)
    · rw [setResOther w _ own]
      exact before k old

theorem growsSeek (w : World) (res offset : Nat) : Grows w (w.seekRes res offset) :=
  growsSetRes fun _ => (List.tail_suffix _).trans (List.drop_suffix _ _)

theorem growsStore (w : World) (data : ResultData) : Grows w (w.store data) := by
  have other : ∀ k, k < w.nResults → (w.store data).results k = w.results k :=
    fun k old => setResOther w _ (Nat.ne_of_lt old)
  refine ⟨Nat.le_succ _,fun k old => by rw [other k old],fun before k old => ?_⟩
  obtain older | rfl := Nat.lt_succ_iff_lt_or_eq.mp old
  · rw [other k older]
    exact before k older
  · rw [storeSelf]
    exact List.suffix_refl _

section Operations
variable {O : Type} {client : Client} {E : Stop → Prop}

theorem chainGrowsOn : Chain (OnWorlds (O := O) Grows) := chainOnWorlds chainGrows

theorem storeResultGrows (conn : Option Nat) :
    Settles E (OnWorlds (O := O) Grows) (mysqlStoreResult client conn) := by
  refine ⟨fun s => ?_⟩
  rw [storeResultApply]
  have asked := growsHeap (w := s.world) (v := s.world.push ⟨conn,.storeResult,
    client.answer s.world.log conn .storeResult⟩) rfl rfl
  dsimp only
  cases (client.answer s.world.log conn .storeResult).stored with
  | none => exact asked
  | some data => exact chainGrows.trans _ _ _ asked (growsStore _ data)

theorem fetchGrows {α : Type} (szSQL : CString) {take : Option Nat → Op CppMySQLDB α}
    (takes : ∀ pRES, Settles E (OnWorlds Grows) (take pRES)) : Settles E (OnWorlds Grows) (do
      checkDB true
      let mpDB ← handle
      let reply ← call client mpDB (.realQuery szSQL)
      if reply.rc = 0 then
        let pRES ← mysqlStoreResult client mpDB
        take pRES
      else
        throwLastError mpDB) := by
  have chain := chainGrowsOn (O := CppMySQLDB)
  refine settlesBind chain (settlesCheckDB chain true) fun _ => ?_
  refine settlesBind chain (settlesHandle chain) fun mpDB => ?_
  refine settlesBind chain (settlesCall fun s => growsHeap rfl rfl) fun reply => ?_
  refine settlesIte (fun _ => ?_) fun _ => settlesLastError chain mpDB
  exact settlesBind chain (storeResultGrows mpDB) takes

theorem execQueryGrows (szSQL : CString) : Settles E (OnWorlds Grows) (execQuery client szSQL) := by
  refine fetchGrows szSQL fun pRES => ⟨fun s => ?_⟩
  rw [CppMySQLQuery.ofRESApply]
  cases pRES with
  | none => exact chainGrows.refl _
  | some res => exact growsSeek s.world res 0

theorem buildResultSetGrows (res : Nat) :
    Settles E (OnWorlds Grows) (CppMySQLResultSet.buildResultSet res) := by
  refine ⟨fun s => ?_⟩
  simp only [CppMySQLResultSet.buildResultSet,bindApply,newAddressApply,numFieldsApply,numRowsApply,getApply]
  have addressed := growsHeap (w := s.world) (v := {s.world with nHeap := s.world.nHeap + 1}) rfl rfl
  cases CppMySQLResultSet.buildRows _ _ with
  | none => exact .inr addressed
  | some table => exact chainGrows.trans _ _ _ addressed (growsSetRes fun _ => List.nil_suffix)

theorem getResultSetGrows (szSQL : CString) : Settles E (OnWorlds Grows) (getResultSet client szSQL) := by
  have chain := chainGrowsOn (O := CppMySQLResultSet)
  refine fetchGrows szSQL fun pRES => settlesConstruct (R := Grows) ?_
  cases pRES with
  | none => exact settlesPure chain _
  | some res =>
    refine settlesBind chain (buildResultSetGrows res) fun _ => ⟨fun s => ?_⟩
    simp only [CppMySQLResultSet.buildFieldMap,bindApply,newAddressApply,getApply]
    cases CppMySQLResultSet.fieldMap 0 _ with
    | ok entries => exact growsHeap rfl rfl
    | error nCol => exact .inr (growsHeap rfl rfl)

theorem releasedGrows (s : Scope World CppMySQLQuery) : Grows s.world (CppMySQLQuery.released s) := by
  unfold CppMySQLQuery.released
  cases s.this.mpRES <;> exact growsHeap rfl rfl

theorem execScalarGrows (szSQL : CString) (nNullValue : Int) :
    Settles E (OnWorlds Grows) (execScalar client szSQL nNullValue) := by
  refine settlesBind chainGrowsOn (execQueryGrows szSQL) fun q => ?_
  refine settlesLocal (R := Grows) chainGrows (settlesOfLeft fun s => ?_) fun s => ?_
  · rw [scalarOfLeft]
    exact chainGrows.refl _
  · simp only [CppMySQLQuery.destroy,CppMySQLQuery.clearLeft,leftOk]
    exact releasedGrows s

theorem compileGrows (client : Client) (szSQL : CString) (s : Scope World CppMySQLDB) :
    Grows s.world (left (compileStatement client szSQL s)).world := by
  simp only [compileStatement,bindApply,handleApply,CppMySQLStatement.compileApply]
  cases s.this.mpDB with
  | none => exact chainGrows.refl _
  | some conn =>
    dsimp only
    split
    · split <;> exact growsHeap rfl rfl
    · exact growsHeap rfl rfl

theorem requestGrows (client : Client) (request : CppMySQLStatement.Request) (s : Scope World CppMySQLStatement) :
    Grows s.world (left (CppMySQLStatement.perform client request s)).world := by
  by_cases clears : request = .clear
  · subst clears
    simp only [CppMySQLStatement.perform,CppMySQLStatement.clearApply]
    cases s.this.mpStmt <;> exact growsHeap rfl rfl
  · exact settlesLeft (CppMySQLStatement.settlesRequest chainGrowsOn (fun _ _ _ _ => growsHeap rfl rfl)
      (fun _ _ _ => growsHeap rfl rfl) (fun _ _ _ _ => growsHeap rfl rfl) clears) s

theorem assignGrows (rQuery : CppMySQLQuery) (s : Scope World CppMySQLQuery) :
    Grows s.world (left (CppMySQLQuery.assign rQuery s)).world := by
  rw [CppMySQLQuery.assignApply]
  cases rQuery.mpRES with
  | none => exact releasedGrows s
  | some res => exact chainGrows.trans _ _ _ (releasedGrows s) (growsSeek _ res 0)

theorem nextRowGrows (s : Scope World CppMySQLQuery) : Grows s.world (left (CppMySQLQuery.nextRow s)).world := by
  rw [CppMySQLQuery.nextRowApply]
  cases s.this.mpRES with
  | none => exact chainGrows.refl _
  | some res =>
    dsimp only
    cases cursor : (s.world.results res).dataCursor with
    | nil => exact chainGrows.refl _
    | cons cells rest =>
      refine growsSetRes fun inside => ?_
      unfold CursorInside at inside
      rw [cursor] at inside
      exact (List.suffix_cons cells rest).trans inside

theorem seekRowGrows (offerset : Nat) (s : Scope World CppMySQLQuery) :
    Grows s.world (left (CppMySQLQuery.seekRow offerset s)).world := by
  rw [CppMySQLQuery.seekRowApply]
  cases s.this.mpRES with
  | none => exact chainGrows.refl _
  | some res => exact growsSeek _ res _

end Operations

section Rows
variable {w : World}

theorem fetchedRow {res offset : Nat} {row : MysqlRow} (fetched : w.fetched res offset = some row) :
    row.owner = res ∧ row.cells ∈ (w.results res).data.rows := by
  obtain ⟨cells,first,rfl⟩ := Option.map_eq_some_iff.mp fetched
  exact ⟨rfl,List.mem_of_mem_drop (List.mem_of_mem_head? first)⟩

theorem ownRowSought {q : CppMySQLQuery} {res : Nat} (held : q.mpRES = some res) (offset : Nat) :
    OwnRow (w.seekRes res offset) {q with mRow := w.fetched res offset} := by
  intro row current
  obtain ⟨rfl,inside⟩ := fetchedRow current
  exact ⟨held,by simpa [World.seekRes] using inside⟩

theorem ownRowHolding (res : Nat) : OwnRow (w.seekRes res 0) (CppMySQLQuery.holding w res) :=
  ownRowSought (q := CppMySQLQuery.holding w res) rfl 0

theorem ownRowNext {s : Scope World CppMySQLQuery} (own : OwnRow s.world s.this)
    (inside : ∀ res, s.this.mpRES = some res → CursorInside (s.world.results res)) :
    let t := left (CppMySQLQuery.nextRow s)
    OwnRow t.world t.this := by
  rw [CppMySQLQuery.nextRowApply]
  cases held : s.this.mpRES with
  | none => exact own
  | some res =>
    dsimp only
    cases cursor : (s.world.results res).dataCursor with
    | nil => exact ownRowNone rfl
    | cons cells rest =>
      rintro row current
      cases current
      have below := inside res held
      unfold CursorInside at below
      rw [cursor] at below
      exact ⟨held,by simpa using below.subset List.mem_cons_self⟩

theorem ownRowSeek {s : Scope World CppMySQLQuery} (offerset : Nat) (own : OwnRow s.world s.this) :
    let t := left (CppMySQLQuery.seekRow offerset s)
    OwnRow t.world t.this := by
  rw [CppMySQLQuery.seekRowApply]
  cases held : s.this.mpRES with
  | none => exact own
  | some res => exact ownRowSought held _

theorem execQueryOwns {client : Client} {szSQL : CString} {s t : Scope World CppMySQLDB} {q : CppMySQLQuery}
    (returns : execQuery client szSQL s = .ok q t) : OwnRow t.world q := by
  rw [execQueryApply] at returns
  by_cases connected : Connected true s
  · rw [if_pos connected] at returns
    dsimp only at returns
    split at returns
    · rw [CppMySQLQuery.ofRESApply] at returns
      cases stored : (stored client (asked client s (.realQuery szSQL))).1 with
      | none =>
        rw [stored] at returns
        cases returns
        exact ownRowNone rfl
      | some res =>
        rw [stored] at returns
        cases returns
        exact ownRowHolding res
    · cases returns
  · rw [if_neg connected] at returns
    cases returns

theorem ownRowGrows {v : World} {q : CppMySQLQuery} (grows : Grows w v)
    (below : ∀ res, q.mpRES = some res → res < w.nResults) (own : OwnRow w q) : OwnRow v q := by
  intro row current
  obtain ⟨held,inside⟩ := own row current
  exact ⟨held,by rw [grows.data _ (below _ held)]; exact inside⟩

end Rows

section Steps
variable (client : Client)

theorem stepGrows (s : System) (c : Command) : Grows s.world (step client s c).world := by
  have still := chainGrows.refl s.world
  cases c with
  | execQuery mpDB i szSQL =>
    simp only [step]
    split
    · simp only [System.setQueries,createdWorld]
      exact settlesLeft (execQueryGrows szSQL) (s.on mpDB)
    · exact still
  | execScalar mpDB szSQL nNullValue => exact settlesLeft (execScalarGrows szSQL nNullValue) (s.on mpDB)
  | getResultSet mpDB i szSQL =>
    simp only [step]
    split
    · simp only [System.setResultSets,createdWorld]
      exact settlesLeft (getResultSetGrows szSQL) (s.on mpDB)
    · exact still
  | compileStatement mpDB i szSQL =>
    simp only [step]
    split
    · simp only [System.setStatements,createdWorld]
      exact compileGrows client szSQL (s.on mpDB)
    · exact still
  | assignQuery i j =>
    simp only [step]
    split
    · exact still
    · cases s.queries i with
      | none => exact still
      | some q =>
        cases s.queries j with
        | none => exact still
        | some r =>
          have assigns := assignGrows r ⟨s.world,q⟩
          dsimp only
          rw [CppMySQLQuery.assignApply] at assigns ⊢
          exact assigns
  | clearQuery i =>
    simp only [step]
    cases s.queries i with
    | none => exact still
    | some q =>
      simp only [System.setQueries,used,CppMySQLQuery.clearLeft,leftOk]
      exact releasedGrows ⟨s.world,q⟩
  | destroyQuery i =>
    simp only [step]
    cases s.queries i with
    | none => exact still
    | some q =>
      simp only [System.setQueries,CppMySQLQuery.destroy,CppMySQLQuery.clearLeft,leftOk]
      exact releasedGrows ⟨s.world,q⟩
  | nextRow i =>
    simp only [step]
    cases s.queries i with
    | none => exact still
    | some q => exact nextRowGrows ⟨s.world,q⟩
  | seekRow i offerset =>
    simp only [step]
    cases s.queries i with
    | none => exact still
    | some q => exact seekRowGrows offerset ⟨s.world,q⟩
  | statement i request =>
    simp only [step]
    cases s.statements i with
    | none => exact still
    | some o => exact requestGrows client request ⟨s.world,o⟩
  | destroyStatement i =>
    simp only [step]
    cases s.statements i with
    | none => exact still
    | some o => exact requestGrows client .clear ⟨s.world,o⟩
  | newQuery i | newResultSet i | newStatement i =>
    simp only [step]
    split <;> exact still
  | clearResultSet i | destroyResultSet i =>
    simp only [step,CppMySQLResultSet.clearApply]
    split
    · exact growsHeap rfl rfl
    · exact still
  | copyQuery i j | copyResultSet i j | copyStatement i j =>
    simp only [step]
    split <;> exact still
  | assignResultSet i j =>
    simp only [step,CppMySQLResultSet.assignApply]
    split
    · exact still
    · split
      · exact growsHeap rfl rfl
      · exact still
  | assignStatement i j =>
    simp only [step]
    split
    · exact still
    · split <;> exact still

/-- What the run keeps: the books of results balance, and cursors stay in their results. -/
structure Kept (s : System) : Prop where
  sound : Sound (resultBook s)
  cursors : ∀ res, res < s.world.nResults → CursorInside (s.world.results res)

theorem keptStep (s : System) (c : Command) (kept : Kept s) : Kept (step client s c) := by
  refine ⟨?_,(stepGrows client s c).cursors kept.cursors⟩
  rw [resultsSimulated]
  exact soundAct kept.sound _

end Steps

section Slots
variable {s t : System}

theorem keptBelow (kept : Kept s) {i : Nat} {q : CppMySQLQuery} (live : s.queries i = some q) (res : Nat)
    (held : q.mpRES = some res) : res < s.world.nResults :=
  kept.sound.below i res (by simp [resultBook,live,held])

/-- Only the objects a command touched need looking at. -/
theorem noStaleRowIff (kept : Kept s) (now : NoStaleRow s) (grows : Grows s.world t.world) (touched : Nat → Prop)
    (others : ∀ k, ¬ touched k → t.queries k = s.queries k) :
    NoStaleRow t ↔ ∀ k, touched k → ∀ q, t.queries k = some q → OwnRow t.world q := by
  refine ⟨fun all k _ => all k,fun mine k q live => ?_⟩
  by_cases own : touched k
  · exact mine k own q live
  · rw [others k own] at live
    exact ownRowGrows grows (keptBelow kept live) (now k q live)

theorem noStaleRowKept (kept : Kept s) (now : NoStaleRow s) (grows : Grows s.world t.world)
    (same : t.queries = s.queries) : NoStaleRow t :=
  (noStaleRowIff kept now grows (fun _ => False) fun k _ => by rw [same]).mpr fun _ none => none.elim

theorem noStaleRowPut (kept : Kept s) (now : NoStaleRow s) (grows : Grows s.world t.world) {i : Nat}
    {x : Option CppMySQLQuery} (put : t.queries = Function.update s.queries i x) :
    NoStaleRow t ↔ ∀ q, x = some q → OwnRow t.world q := by
  refine (noStaleRowIff kept now grows (· = i) fun k other => ?_).trans ?_
  · rw [put,Function.update_of_ne other]
  · rw [put]
    simp

theorem noStaleRowCopied (kept : Kept s) (now : NoStaleRow s) (grows : Grows s.world t.world) {i j : Nat}
    (apart : i ≠ j) {a b : CppMySQLQuery} (put : t.queries = copied s.queries i j (a,b)) :
    NoStaleRow t ↔ OwnRow t.world a ∧ OwnRow t.world b := by
  refine (noStaleRowIff kept now grows (fun k => k = i ∨ k = j) fun k other => ?_).trans ?_
  · rw [put]
    simp [copied,not_or.mp other]
  · rw [put]
    simp [copied,or_imp,forall_and,Ne.symm apart]

end Slots

/-- A command that leaves no row behind: what is copied is at its end, and so is what is
assigned; an object that is assigned an object without result, or cleared, is at its end. -/
def LeavesNoRow (s : System) : Command → Prop
  | .copyQuery i j => s.queries i = none → ∀ q, s.queries j = some q → q.mRow = none
  | .assignQuery i j => i ≠ j → ∀ q r, s.queries i = some q → s.queries j = some r →
      r.mRow = none ∧ (r.mpRES = none → q.mRow = none)
  | .clearQuery i => ∀ q, s.queries i = some q → q.mRow = none
  | _ => True

section Exactness
variable (client : Client)

def touchesQueries : Command → Bool
  | .execQuery _ _ _ | .newQuery _ | .copyQuery _ _ | .assignQuery _ _ | .clearQuery _ => true
  | .nextRow _ | .seekRow _ _ | .destroyQuery _ => true
  | _ => false

theorem queriesKept (s : System) {c : Command} (aside : touchesQueries c = false) :
    (step client s c).queries = s.queries := by
  cases c with
  | execScalar mpDB szSQL nNullValue => rfl
  | getResultSet mpDB i szSQL | compileStatement mpDB i szSQL =>
    simp only [step]
    split <;> rfl
  | assignResultSet i j | assignStatement i j =>
    simp only [step]
    split
    · rfl
    · split <;> rfl
  | newResultSet i | clearResultSet i | destroyResultSet i | newStatement i | destroyStatement i =>
    simp only [step]
    split <;> rfl
  | copyResultSet i j | copyStatement i j | statement i j =>
    simp only [step]
    split <;> rfl
  | _ => cases aside

theorem noStaleRowStep (s : System) (c : Command) (kept : Kept s) (now : NoStaleRow s) :
    NoStaleRow (step client s c) ↔ LeavesNoRow s c := by
  have grows := stepGrows client s c
  cases c with
  | execQuery mpDB i szSQL =>
    refine iff_of_true ?_ trivial
    cases free : s.queries i with
    | some q => simpa only [step,free] using now
    | none =>
      simp only [step,free] at grows ⊢
      cases result : execQuery client szSQL (s.on mpDB) with
      | error e t =>
        rw [result] at grows
        exact noStaleRowKept kept now grows rfl
      | ok q t =>
        rw [result] at grows
        refine (noStaleRowPut kept now grows rfl).mpr fun q' same => ?_
        cases same
        exact execQueryOwns result
  | newQuery i =>
    refine iff_of_true ?_ trivial
    cases free : s.queries i with
    | some q => simpa only [step,free] using now
    | none =>
      simp only [step,free] at grows ⊢
      refine (noStaleRowPut (t := {s with queries := Function.update s.queries i (some CppMySQLQuery.new)})
        kept now grows rfl).mpr fun q same => ?_
      cases same
      exact ownRowNone rfl
  | copyQuery i j =>
    cases free : s.queries i with
    | some q => simpa [step,LeavesNoRow,free] using now
    | none =>
      cases source : s.queries j with
      | none => simpa [step,LeavesNoRow,free,source] using now
      | some r =>
        have apart : i ≠ j := by
          rintro rfl
          rw [free] at source
          cases source
        simp only [step,free,source] at grows ⊢
        refine (noStaleRowCopied (t := {s with queries := copied s.queries i j r.copy})
          kept now grows apart rfl).trans ?_
        simp only [ownRowFreed,LeavesNoRow,free,source,Option.some.injEq]
        exact ⟨fun both _ q same => same ▸ both.2,fun ended => ⟨now j r source,ended trivial r rfl⟩⟩
  | assignQuery i j =>
    by_cases same : i = j
    · simpa [step,LeavesNoRow,same] using now
    · cases target : s.queries i with
      | none => simpa [step,LeavesNoRow,same,target] using now
      | some q =>
        cases source : s.queries j with
        | none => simpa [step,LeavesNoRow,same,target,source] using now
        | some r =>
          simp only [step,same,if_false,target,source] at grows ⊢
          rw [CppMySQLQuery.assignApply] at grows ⊢
          refine (noStaleRowCopied kept now grows same rfl).trans ?_
          rw [ownRowFreed]
          have asks : LeavesNoRow s (.assignQuery i j) ↔ r.mRow = none ∧ (r.mpRES = none → q.mRow = none) := by
            simp [LeavesNoRow,same,target,source]
          rw [asks]
          cases held : r.mpRES with
          | none =>
            rw [ownRowFreed]
            exact ⟨fun both => ⟨both.2,fun _ => both.1⟩,fun both => ⟨both.2 rfl,both.1⟩⟩
          | some res =>
            have owned : OwnRow ((CppMySQLQuery.released ⟨s.world,q⟩).seekRes res 0) _ := ownRowHolding res
            exact ⟨fun both => ⟨both.2,fun none => absurd none (by simp)⟩,fun ended => ⟨owned,ended.1⟩⟩
  | clearQuery i =>
    cases live : s.queries i with
    | none => simpa [step,LeavesNoRow,live] using now
    | some q =>
      simp only [step,live,CppMySQLQuery.clearLeft] at grows ⊢
      refine (noStaleRowPut kept now grows rfl).trans ?_
      simp only [leftOk,Option.some.injEq,forall_eq',ownRowFreed,LeavesNoRow,live]
  | nextRow i =>
    refine iff_of_true ?_ trivial
    cases live : s.queries i with
    | none => simpa only [step,live] using now
    | some q =>
      simp only [step,live] at grows ⊢
      refine (noStaleRowPut kept now grows rfl).mpr fun q' same => ?_
      cases same
      exact ownRowNext (now i q live) fun res held => kept.cursors res (keptBelow kept live res held)
  | seekRow i offerset =>
    refine iff_of_true ?_ trivial
    cases live : s.queries i with
    | none => simpa only [step,live] using now
    | some q =>
      simp only [step,live] at grows ⊢
      refine (noStaleRowPut kept now grows rfl).mpr fun q' same => ?_
      cases same
      exact ownRowSeek offerset (now i q live)
  | destroyQuery i =>
    refine iff_of_true ?_ trivial
    cases live : s.queries i with
    | none => simpa only [step,live] using now
    | some q =>
      simp only [step,live] at grows ⊢
      exact (noStaleRowPut kept now grows rfl).mpr (by simp)
  | _ => exact iff_of_true (noStaleRowKept kept now grows (queriesKept client s rfl)) trivial

end Exactness

/-- From a library that has handed out nothing yet, no query ever stands on a row that is
not its own, exactly when no command of the run leaves a row behind. -/
theorem noStaleRowIffNoneLeft (client : Client) {w : World} (unused : Unused w) (cmds : List Command) :
    Throughout (step client) NoStaleRow (.initial w) cmds ↔ Guarded (step client) LeavesNoRow (.initial w) cmds := by
  have start : Kept (.initial w) := by
    refine ⟨(freshSound unused.results unused.freed fun _ => rfl).1,fun res old => ?_⟩
    simp [System.initial,unused.results] at old
  exact throughoutIffGuarded (keptStep client) (noStaleRowStep client) start nofun cmds

def oneRow : ResultData := ⟨[⟨some (text "n"),3⟩],[[some (text "1")]],by simp,by simp,by simp⟩

theorem noStaleRowIffNoneLeftRead :
    Throughout (step (.yielding oneRow)) NoStaleRow (.initial (.connected 0 (text "test")))
        [.execQuery (some 0) 0 (text "select n"),.nextRow 0,.clearQuery 0] ↔
      Guarded (step (.yielding oneRow)) LeavesNoRow (.initial (.connected 0 (text "test")))
        [.execQuery (some 0) 0 (text "select n"),.nextRow 0,.clearQuery 0] :=
  noStaleRowIffNoneLeft (.yielding oneRow) (connectedUnused 0 (text "test"))
    [.execQuery (some 0) 0 (text "select n"),.nextRow 0,.clearQuery 0]

/-- A query on its first row is assigned one without a result, and is not at its end. -/
theorem staleRowAfterAssign :
    let s := run (step (.yielding oneRow)) (.initial (.connected 0 (text "test")))
      [.execQuery (some 0) 0 (text "select n"),.newQuery 1,.assignQuery 0 1]
    ∃ q, s.queries 0 = some q ∧ q.mpRES = none ∧ CppMySQLQuery.eof ⟨s.world,q⟩ = .ok false ⟨s.world,q⟩ ∧
      ¬ NoStaleRow s := by
  refine ⟨⟨none,some ⟨0,[some (text "1")]⟩,1,1⟩,rfl,rfl,rfl,fun none => ?_⟩
  have own := none 0 ⟨.none,some ⟨0,[some (text "1")]⟩,1,1⟩ rfl _ rfl
  exact absurd own.1 nofun

end DatabaseLayer.MySQLRows
