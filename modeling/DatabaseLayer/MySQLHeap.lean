import DatabaseLayer.MySQLHandles

/-! The heap blocks of the MySQL classes: the row vector and the field map of a result set
and the bind array of a statement. A third book is kept of a system, next to those of the
results and the statements, and every command is a list of actions on it. -/
namespace DatabaseLayer.MySQLHeap
open Platform MySQLClient Foundation.Program Foundation.Objects Foundation.Run Foundation.Ledger MySQLRules CppMySQLDB
open CppMySQLStatement (replied prepared)
open MySQLSystem

inductive Pointer where
  | rows (i : Nat)
  | fields (i : Nat)
  | binds (i : Nat)
  deriving DecidableEq, Repr

def rowsOf (r : CppMySQLResultSet) : Option Nat := r.mpResultSet.map Owned.addr
def fieldsOf (r : CppMySQLResultSet) : Option Nat := r.mpFieldMap.map Owned.addr
def bindsOf (o : CppMySQLStatement) : Option Nat := o.mpBindArray.map Owned.addr

def heldPointer (resultSets : Slots CppMySQLResultSet) (statements : Slots CppMySQLStatement) :
    Pointer → Option Nat
  | .rows i => (resultSets i).bind rowsOf
  | .fields i => (resultSets i).bind fieldsOf
  | .binds i => (statements i).bind bindsOf

def heapBook (s : System) : Book Pointer :=
  ⟨s.world.nHeap,fun addr => s.world.deleted.count addr,heldPointer s.resultSets s.statements⟩

/-- Worlds with the same blocks, the same of them deleted. -/
def SameHeap (w v : World) : Prop := v.nHeap = w.nHeap ∧ v.deleted = w.deleted

theorem chainHeap : Chain SameHeap :=
  ⟨fun _ => ⟨rfl,rfl⟩,fun _ _ _ first rest => ⟨rest.1.trans first.1,rest.2.trans first.2⟩⟩

section Updates
variable (resultSets : Slots CppMySQLResultSet) (statements : Slots CppMySQLStatement)

theorem resultSetPut (i : Nat) (r : Option CppMySQLResultSet) :
    heldPointer (Function.update resultSets i r) statements =
      Function.update (Function.update (heldPointer resultSets statements) (.rows i) (r.bind rowsOf))
        (.fields i) (r.bind fieldsOf) := by
  funext p
  cases p with
  | rows k =>
    by_cases own : k = i
    · subst own
      simp [heldPointer]
    · simp [heldPointer,own]
  | fields k =>
    by_cases own : k = i
    · subst own
      simp [heldPointer]
    · simp [heldPointer,own]
  | binds k => simp [heldPointer]

theorem statementPut (i : Nat) (o : Option CppMySQLStatement) :
    heldPointer resultSets (Function.update statements i o) =
      Function.update (heldPointer resultSets statements) (.binds i) (o.bind bindsOf) := by
  funext p
  cases p with
  | rows k => simp [heldPointer]
  | fields k => simp [heldPointer]
  | binds k =>
    by_cases own : k = i
    · subst own
      simp [heldPointer]
    · simp [heldPointer,own]

end Updates

section Books
variable {s t : System}

theorem heapKept (world : SameHeap s.world t.world)
    (held : heldPointer t.resultSets t.statements = heldPointer s.resultSets s.statements) :
    heapBook t = heapBook s :=
  Book.ext world.1 (funext fun addr => congrArg (List.count addr) world.2) held

theorem deletesCount {α : Type} (w : World) (p : Option (Owned α)) (addr : Nat) :
    (w.deletes p).deleted.count addr =
      w.deleted.count addr + if p.map Owned.addr = some addr then 1 else 0 := by
  cases p with
  | none => rfl
  | some object => simp [World.deletes,List.count_cons]

end Books

section Worlds
variable (client : Client)

theorem asideHeap : Aside SameHeap where
  chain := chainHeap
  push _ _ _ := ⟨rfl,rfl⟩
  set _ _ _ := ⟨rfl,rfl⟩
  store _ _ := ⟨rfl,rfl⟩

theorem requestHeap {request : CppMySQLStatement.Request} (clears : request ≠ .clear)
    (s : Scope World CppMySQLStatement) :
    let t := left (CppMySQLStatement.perform client request s)
    SameHeap s.world t.world ∧ bindsOf t.this = bindsOf s.this := by
  have chain : Chain (fun s t : Scope World CppMySQLStatement =>
      SameHeap s.world t.world ∧ bindsOf t.this = bindsOf s.this) :=
    ⟨fun _ => ⟨chainHeap.refl _,rfl⟩,fun _ _ _ first rest =>
      ⟨chainHeap.trans _ _ _ first.1 rest.1,rest.2.trans first.2⟩⟩
  refine settlesLeft (CppMySQLStatement.settlesRequest chain ?_ ?_ ?_ clears) s
  · exact fun s conn c _ => ⟨⟨rfl,rfl⟩,rfl⟩
  · exact fun s n d => ⟨⟨rfl,rfl⟩,rfl⟩
  · exact fun s o _ same => ⟨chainHeap.refl s.world,same⟩

theorem clearHeap (s : Scope World CppMySQLStatement) :
    let t := left (CppMySQLStatement.clear s)
    t.world.nHeap = s.world.nHeap ∧ bindsOf t.this = none ∧
    ∀ addr, t.world.deleted.count addr =
      s.world.deleted.count addr + if bindsOf s.this = some addr then 1 else 0 := by
  rw [CppMySQLStatement.clearApply]
  cases s.this.mpStmt with
  | none => exact ⟨rfl,rfl,deletesCount s.world s.this.mpBindArray⟩
  | some stmt => exact ⟨rfl,rfl,fun addr => deletesCount (s.world.push _) s.this.mpBindArray addr⟩

end Worlds
section Building
variable (client : Client)

/-- What getResultSet leaves on the heap: nothing for an empty object, else two fresh
blocks, which nobody owns when a column has no name. -/
theorem getResultSetHeap (szSQL : CString) (s : Scope World CppMySQLDB) :
    (SameHeap s.world (left (getResultSet client szSQL s)).world ∧
      ∀ r t, getResultSet client szSQL s = .ok r t → rowsOf r = none ∧ fieldsOf r = none) ∨
    ((left (getResultSet client szSQL s)).world.nHeap = s.world.nHeap + 2 ∧
      (left (getResultSet client szSQL s)).world.deleted = s.world.deleted ∧
      ∀ r t, getResultSet client szSQL s = .ok r t →
        rowsOf r = some s.world.nHeap ∧ fieldsOf r = some (s.world.nHeap + 1)) := by
  rw [getResultSetApply]
  by_cases connected : Connected true s
  · rw [if_pos connected]
    dsimp only
    by_cases rc : (reply client s (.realQuery szSQL)).rc = 0
    · rw [if_pos rc]
      have same : SameHeap s.world (stored client (asked client s (.realQuery szSQL))).2.world :=
        storedAside asideHeap client (asked client s (.realQuery szSQL))
      cases kept : (stored client (asked client s (.realQuery szSQL))).1 with
      | none =>
        refine .inl ⟨same,fun r t built => ?_⟩
        cases built
        exact ⟨rfl,rfl⟩
      | some res =>
        obtain ⟨data,_,fresh,_⟩ := storedFresh client kept
        rw [CppMySQLResultSet.ofRESApply res data _ fresh]
        have issued : (stored client (asked client s (.realQuery szSQL))).2.world.nHeap + 2 = s.world.nHeap + 2 :=
          congrArg (· + 2) same.1
        cases CppMySQLResultSet.fieldMap 0 data.fields with
        | error nCol => exact .inr ⟨issued,same.2,fun r t built => by cases built⟩
        | ok entries =>
          refine .inr ⟨issued,same.2,fun r t built => ?_⟩
          cases built
          exact ⟨congrArg some same.1,congrArg (fun n => some (n + 1)) same.1⟩
    · rw [if_neg rc]
      exact .inl ⟨⟨rfl,rfl⟩,fun r t built => by cases built⟩
  · rw [if_neg connected]
    exact .inl ⟨chainHeap.refl _,fun r t built => by cases built⟩

theorem compileHeap (mpDB : Option Nat) (szSQL : CString) (s : Scope World CppMySQLDB) :
    (SameHeap s.world (left (CppMySQLStatement.compile client mpDB szSQL s)).world ∧
      ∃ e t, CppMySQLStatement.compile client mpDB szSQL s = .error e t) ∨
    ((left (CppMySQLStatement.compile client mpDB szSQL s)).world.nHeap = s.world.nHeap + 1 ∧
      (left (CppMySQLStatement.compile client mpDB szSQL s)).world.deleted = s.world.deleted ∧
      ∃ o t, CppMySQLStatement.compile client mpDB szSQL s = .ok o t ∧ bindsOf o = some s.world.nHeap) := by
  cases mpDB with
  | none => exact .inl ⟨chainHeap.refl _,_,_,rfl⟩
  | some conn =>
    by_cases init : (replied client s.world conn .stmtInit).rc = 0
    · by_cases accepted : (prepared client s.world conn szSQL).rc = 0
      · rw [CppMySQLStatement.compilePrepared init accepted]
        exact .inr ⟨rfl,rfl,_,_,rfl,rfl⟩
      · rw [CppMySQLStatement.compileUnprepared init accepted]
        exact .inl ⟨⟨rfl,rfl⟩,_,_,rfl⟩
    · rw [CppMySQLStatement.compileUninited init]
      exact .inl ⟨⟨rfl,rfl⟩,_,_,rfl⟩

end Building

section Simulation
variable (client : Client) {s : System}

theorem emptyPut {i : Nat} (free : s.resultSets i = none) {r : CppMySQLResultSet} (rows : rowsOf r = none)
    (fields : fieldsOf r = none) :
    heldPointer (Function.update s.resultSets i (some r)) s.statements = heldPointer s.resultSets s.statements := by
  rw [resultSetPut,Option.bind_some,Option.bind_some,rows,fields]
  funext p
  by_cases own : p = .fields i
  · subst own
    simp [heldPointer,free]
  · rw [Function.update_of_ne own]
    by_cases first : p = .rows i
    · subst first
      simp [heldPointer,free]
    · rw [Function.update_of_ne first]

theorem builtBook {i : Nat} (free : s.resultSets i = none) (mpDB : Option Nat) (szSQL : CString) :
    ∃ as, heapBook (s.setResultSets (created s.resultSets i (getResultSet client szSQL (s.on mpDB)))) =
      (heapBook s).acts as := by
  have left' := getResultSetHeap client szSQL (s.on mpDB)
  cases result : getResultSet client szSQL (s.on mpDB) with
  | error e t =>
    rw [result] at left'
    obtain ⟨same,_⟩ | ⟨issued,deleted,_⟩ := left'
    · exact ⟨[],heapKept same rfl⟩
    · exact ⟨[.issueLost,.issueLost],Book.ext issued (funext fun addr => congrArg (List.count addr) deleted) rfl⟩
  | ok r t =>
    rw [result] at left'
    obtain ⟨same,empty⟩ | ⟨issued,deleted,holds⟩ := left'
    · obtain ⟨rows,fields⟩ := empty r t rfl
      exact ⟨[],heapKept same (emptyPut free rows fields)⟩
    · obtain ⟨rows,fields⟩ := holds r t rfl
      refine ⟨[.issue (.rows i),.issue (.fields i)],
        Book.ext issued (funext fun addr => congrArg (List.count addr) deleted) ?_⟩
      refine (resultSetPut s.resultSets s.statements i (some r)).trans ?_
      rw [Option.bind_some,Option.bind_some,rows,fields]
      rfl

theorem compiledBook (i : Nat) (mpDB : Option Nat) (szSQL : CString) :
    ∃ as, heapBook (s.setStatements (created s.statements i (compileStatement client szSQL (s.on mpDB)))) =
      (heapBook s).acts as := by
  have compiles : compileStatement client szSQL (s.on mpDB) =
    CppMySQLStatement.compile client mpDB szSQL (s.on mpDB) := rfl
  rw [compiles]
  obtain ⟨same,e,t,result⟩ | ⟨issued,deleted,o,t,result,binds⟩ := compileHeap client mpDB szSQL (s.on mpDB)
  · rw [result] at same ⊢
    exact ⟨[],heapKept same rfl⟩
  · rw [result] at issued deleted ⊢
    refine ⟨[.issue (.binds i)],Book.ext issued (funext fun addr => congrArg (List.count addr) deleted) ?_⟩
    refine (statementPut s.resultSets s.statements i (some o)).trans ?_
    rw [Option.bind_some,binds]
    rfl

theorem emptiedBook {i : Nat} {r : CppMySQLResultSet} (live : s.resultSets i = some r) {t : System}
    (world : t.world = (s.world.deletes r.mpFieldMap).deletes r.mpResultSet)
    (held : heldPointer t.resultSets t.statements =
      Function.update (Function.update (heldPointer s.resultSets s.statements) (.rows i) none) (.fields i) none) :
    heapBook t = ((heapBook s).release (.fields i)).release (.rows i) := by
  have rows : (heapBook s).held (.rows i) = rowsOf r := by simp [heapBook,heldPointer,live]
  have fields : (heapBook s).held (.fields i) = fieldsOf r := by simp [heapBook,heldPointer,live]
  refine Book.ext ?_ (funext fun addr => ?_) (held.trans ?_)
  · simp only [heapBook,world,Book.release]
    rfl
  · simp only [Book.release,Function.update_of_ne (show Pointer.rows i ≠ .fields i by simp),rows,fields]
    simp only [heapBook,world,deletesCount]
    rfl
  · exact Function.update_comm (by simp) _ _ _

theorem copiedPointers {i j : Nat} (apart : i ≠ j) {r : CppMySQLResultSet} (source : s.resultSets j = some r)
    (a b : CppMySQLResultSet) (rows : rowsOf a = rowsOf r) (fields : fieldsOf a = fieldsOf r)
    (noRows : rowsOf b = none) (noFields : fieldsOf b = none) :
    heldPointer (copied s.resultSets i j (a,b)) s.statements =
      (((heapBook s).move (.rows i) (.rows j)).move (.fields i) (.fields j)).held := by
  unfold copied
  rw [resultSetPut,resultSetPut]
  funext p
  cases p with
  | rows k =>
    by_cases first : k = i
    · subst first
      simp [Book.move,heapBook,heldPointer,source,rows]
    · by_cases second : k = j
      · subst second
        simp [Book.move,heapBook,first,noRows]
      · simp [Book.move,heapBook,first,second]
  | fields k =>
    by_cases first : k = i
    · subst first
      simp [Book.move,heapBook,heldPointer,source,fields]
    · by_cases second : k = j
      · subst second
        simp [Book.move,heapBook,first,noFields]
      · simp [Book.move,heapBook,first,second]
  | binds k => simp [Book.move,heapBook]

theorem copiedBinds {i j : Nat} {o : CppMySQLStatement} (source : s.statements j = some o)
    (a b : CppMySQLStatement) (binds : bindsOf a = bindsOf o) (noBinds : bindsOf b = none) :
    heldPointer s.resultSets (copied s.statements i j (a,b)) =
      ((heapBook s).move (.binds i) (.binds j)).held := by
  unfold copied
  rw [statementPut,statementPut,Option.bind_some,Option.bind_some,binds,noBinds]
  simp [Book.move,heapBook,heldPointer,source]

theorem assignedBook {i j : Nat} (apart : i ≠ j) {q r : CppMySQLResultSet} (target : s.resultSets i = some q)
    (source : s.resultSets j = some r) :
    heapBook (s.setResultSets (assigned s.resultSets i j (CppMySQLResultSet.assign r ⟨s.world,q⟩))) =
      (heapBook s).acts [.release (.fields i),.release (.rows i),.move (.rows i) (.rows j),
        .move (.fields i) (.fields j)] := by
  let emptied : System := s.setResultSets ((s.world.deletes q.mpFieldMap).deletes q.mpResultSet,
    Function.update s.resultSets i (some {q with mpResultSet := none, mpFieldMap := none}))
  have released : heapBook emptied = ((heapBook s).release (.fields i)).release (.rows i) :=
    emptiedBook target rfl (resultSetPut s.resultSets s.statements i _)
  have still : emptied.resultSets j = some r := by
    simp [emptied,System.setResultSets,Ne.symm apart,source]
  simp only [Book.acts,List.foldl_cons,List.foldl_nil,Book.act]
  rw [← released,CppMySQLResultSet.assignApply]
  refine Book.ext rfl rfl ?_
  refine Eq.trans ?_ (copiedPointers apart still r {r with mpResultSet := none, mpFieldMap := none} rfl rfl rfl rfl)
  refine congrArg (fun slots => heldPointer slots s.statements) ?_
  simp only [System.setResultSets,assigned,copied,emptied]
  rw [Function.update_comm (Ne.symm apart),Function.update_comm (Ne.symm apart),Function.update_idem]

theorem closedBook {i : Nat} {o : CppMySQLStatement} (live : s.statements i = some o) {t : System}
    (world : t.world = (left (CppMySQLStatement.clear ⟨s.world,o⟩)).world)
    (held : heldPointer t.resultSets t.statements =
      Function.update (heldPointer s.resultSets s.statements) (.binds i) none) :
    heapBook t = (heapBook s).release (.binds i) := by
  obtain ⟨issued,_,deletes⟩ := clearHeap ⟨s.world,o⟩
  have own : (heapBook s).held (.binds i) = bindsOf o := by simp [heapBook,heldPointer,live]
  refine Book.ext ((congrArg World.nHeap world).trans issued) (funext fun addr => ?_) held
  simp only [Book.release,own]
  simp only [heapBook,world,deletes]

theorem requestBook (s : System) (i : Nat) (request : CppMySQLStatement.Request) :
    ∃ as, heapBook (step client s (.statement i request)) = (heapBook s).acts as := by
  simp only [step]
  split
  · rename_i o live
    have own : (heapBook s).held (.binds i) = bindsOf o := by simp [heapBook,heldPointer,live]
    have put := statementPut s.resultSets s.statements i
      (some (left (CppMySQLStatement.perform client request ⟨s.world,o⟩)).this)
    by_cases clears : request = .clear
    · subst clears
      refine ⟨[.release (.binds i)],closedBook live rfl (put.trans ?_)⟩
      rw [Option.bind_some]
      exact congrArg _ (clearHeap ⟨s.world,o⟩).2.1
    · obtain ⟨same,binds⟩ := requestHeap client clears ⟨s.world,o⟩
      refine ⟨[],heapKept same (put.trans ?_)⟩
      rw [Option.bind_some,binds]
      exact Function.update_eq_self_iff.mpr own.symm
  · exact ⟨[],rfl⟩

/-- Every command is a list of actions on the blocks. -/
theorem heapStep (s : System) (c : Command) : ∃ as, heapBook (step client s c) = (heapBook s).acts as := by
  have still := chainHeap.refl s.world
  by_cases queries : onQueries c = true
  · obtain ⟨resultSets,statements⟩ := queriesOnly client s queries
    exact ⟨[],heapKept (queriesAside asideHeap client s queries) (by rw [resultSets,statements])⟩
  cases c with
  | getResultSet mpDB i szSQL =>
    simp only [step]
    split
    · rename_i free
      exact builtBook client free mpDB szSQL
    · exact ⟨[],rfl⟩
  | compileStatement mpDB i szSQL =>
    simp only [step]
    split
    · exact compiledBook client i mpDB szSQL
    · exact ⟨[],rfl⟩
  | newResultSet i =>
    simp only [step]
    split
    · rename_i free
      exact ⟨[],heapKept still (emptyPut free rfl rfl)⟩
    · exact ⟨[],rfl⟩
  | copyResultSet i j =>
    simp only [step]
    split
    · rename_i r free source
      have apart : i ≠ j := by
        rintro rfl
        rw [free] at source
        cases source
      exact ⟨[.move (.rows i) (.rows j),.move (.fields i) (.fields j)],
        Book.ext rfl rfl (copiedPointers apart source _ _ rfl rfl rfl rfl)⟩
    · exact ⟨[],rfl⟩
  | assignResultSet i j =>
    simp only [step]
    split
    · exact ⟨[],rfl⟩
    · rename_i apart
      split
      · rename_i q r target source
        exact ⟨_,assignedBook apart target source⟩
      · exact ⟨[],rfl⟩
  | clearResultSet i =>
    simp only [step]
    split
    · rename_i r live
      rw [CppMySQLResultSet.clearApply]
      exact ⟨[.release (.fields i),.release (.rows i)],
        emptiedBook live rfl (resultSetPut s.resultSets s.statements i _)⟩
    · exact ⟨[],rfl⟩
  | destroyResultSet i =>
    simp only [step]
    split
    · rename_i r live
      rw [CppMySQLResultSet.clearApply]
      exact ⟨[.release (.fields i),.release (.rows i)],
        emptiedBook live rfl (resultSetPut s.resultSets s.statements i none)⟩
    · exact ⟨[],rfl⟩
  | newStatement i =>
    simp only [step]
    split
    · rename_i free
      refine ⟨[],heapKept still ((statementPut s.resultSets s.statements i _).trans ?_)⟩
      exact Function.update_eq_self_iff.mpr (by simp [heldPointer,free,CppMySQLStatement.new,bindsOf])
    · exact ⟨[],rfl⟩
  | copyStatement i j =>
    simp only [step]
    split
    · rename_i o free source
      exact ⟨[.move (.binds i) (.binds j)],Book.ext rfl rfl (copiedBinds source _ _ rfl rfl)⟩
    · exact ⟨[],rfl⟩
  | assignStatement i j =>
    simp only [step]
    split
    · exact ⟨[],rfl⟩
    · split
      · rename_i q o target source
        exact ⟨[.move (.binds i) (.binds j)],Book.ext rfl rfl (copiedBinds source o _ rfl rfl)⟩
      · exact ⟨[],rfl⟩
  | statement i request => exact requestBook client s i request
  | destroyStatement i =>
    simp only [step]
    split
    · rename_i o live
      exact ⟨[.release (.binds i)],closedBook live rfl (statementPut s.resultSets s.statements i none)⟩
    · exact ⟨[],rfl⟩
  | execQuery _ _ _ | execScalar _ _ _ | newQuery _ | copyQuery _ _ | assignQuery _ _ => exact absurd rfl queries
  | clearQuery _ | nextRow _ | seekRow _ _ | destroyQuery _ => exact absurd rfl queries

end Simulation
end DatabaseLayer.MySQLHeap
