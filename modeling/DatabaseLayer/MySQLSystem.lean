import DatabaseLayer.Foundation.Objects
import DatabaseLayer.MySQLRules

/-! Any number of queries, result sets and statements over one client library, each under
a name of its own. A command on an object that is not there, or that would create one where
there is one already, is no command. -/
namespace DatabaseLayer.MySQLSystem
open Platform MySQLClient Foundation.Program Foundation.Objects CppMySQLDB

structure System where
  world : World
  queries : Nat → Option CppMySQLQuery
  resultSets : Nat → Option CppMySQLResultSet
  statements : Nat → Option CppMySQLStatement

def System.initial (world : World) : System := ⟨world,fun _ => none,fun _ => none,fun _ => none⟩

/-- The calls that create, hand on, use and end such objects. An operation of a
CppMySQLDB names the connection it holds, if it holds one. -/
inductive Command where
  | execQuery (mpDB : Option Nat) (i : Nat) (szSQL : CString)
  | execScalar (mpDB : Option Nat) (szSQL : CString) (nNullValue : Int)
  | getResultSet (mpDB : Option Nat) (i : Nat) (szSQL : CString)
  | compileStatement (mpDB : Option Nat) (i : Nat) (szSQL : CString)
  | newQuery (i : Nat)
  | copyQuery (i j : Nat)
  | assignQuery (i j : Nat)
  | clearQuery (i : Nat)
  | nextRow (i : Nat)
  | seekRow (i offerset : Nat)
  | destroyQuery (i : Nat)
  | newResultSet (i : Nat)
  | copyResultSet (i j : Nat)
  | assignResultSet (i j : Nat)
  | clearResultSet (i : Nat)
  | destroyResultSet (i : Nat)
  | newStatement (i : Nat)
  | copyStatement (i j : Nat)
  | assignStatement (i j : Nat)
  | statement (i : Nat) (request : CppMySQLStatement.Request)
  | destroyStatement (i : Nat)
  deriving DecidableEq, Repr

def System.setQueries (s : System) (r : World × Slots CppMySQLQuery) : System :=
  {s with world := r.1, queries := r.2}
def System.setResultSets (s : System) (r : World × Slots CppMySQLResultSet) : System :=
  {s with world := r.1, resultSets := r.2}
def System.setStatements (s : System) (r : World × Slots CppMySQLStatement) : System :=
  {s with world := r.1, statements := r.2}

/-- The scope of an operation on the connection. -/
def System.on (s : System) (mpDB : Option Nat) : Scope World CppMySQLDB := ⟨s.world,⟨mpDB,0⟩⟩

def step (client : Client) (s : System) : Command → System
  | .execQuery mpDB i szSQL => match s.queries i with
    | none => s.setQueries (created s.queries i (CppMySQLDB.execQuery client szSQL (s.on mpDB)))
    | some _ => s
  | .execScalar mpDB szSQL nNullValue =>
    {s with world := (left (CppMySQLDB.execScalar client szSQL nNullValue (s.on mpDB))).world}
  | .getResultSet mpDB i szSQL => match s.resultSets i with
    | none => s.setResultSets (created s.resultSets i (CppMySQLDB.getResultSet client szSQL (s.on mpDB)))
    | some _ => s
  | .compileStatement mpDB i szSQL => match s.statements i with
    | none => s.setStatements (created s.statements i (CppMySQLDB.compileStatement client szSQL (s.on mpDB)))
    | some _ => s
  | .newQuery i => match s.queries i with
    | none => {s with queries := Function.update s.queries i (some CppMySQLQuery.new)}
    | some _ => s
  | .copyQuery i j => match s.queries i,s.queries j with
    | none,some q => {s with queries := copied s.queries i j q.copy}
    | _,_ => s
  | .assignQuery i j => if i = j then s else match s.queries i,s.queries j with
    | some q,some r => s.setQueries (assigned s.queries i j (CppMySQLQuery.assign r ⟨s.world,q⟩))
    | _,_ => s
  | .clearQuery i => match s.queries i with
    | some q => s.setQueries (used s.queries i (CppMySQLQuery.clear ⟨s.world,q⟩))
    | none => s
  | .nextRow i => match s.queries i with
    | some q => s.setQueries (used s.queries i (CppMySQLQuery.nextRow ⟨s.world,q⟩))
    | none => s
  | .seekRow i offerset => match s.queries i with
    | some q => s.setQueries (used s.queries i (CppMySQLQuery.seekRow offerset ⟨s.world,q⟩))
    | none => s
  | .destroyQuery i => match s.queries i with
    | some q => s.setQueries (CppMySQLQuery.destroy ⟨s.world,q⟩,Function.update s.queries i none)
    | none => s
  | .newResultSet i => match s.resultSets i with
    | none => {s with resultSets := Function.update s.resultSets i (some CppMySQLResultSet.new)}
    | some _ => s
  | .copyResultSet i j => match s.resultSets i,s.resultSets j with
    | none,some r => {s with resultSets := copied s.resultSets i j r.copy}
    | _,_ => s
  | .assignResultSet i j => if i = j then s else match s.resultSets i,s.resultSets j with
    | some q,some r => s.setResultSets (assigned s.resultSets i j (CppMySQLResultSet.assign r ⟨s.world,q⟩))
    | _,_ => s
  | .clearResultSet i => match s.resultSets i with
    | some r => s.setResultSets (used s.resultSets i (CppMySQLResultSet.clear ⟨s.world,r⟩))
    | none => s
  | .destroyResultSet i => match s.resultSets i with
    | some r => s.setResultSets
        ((left (CppMySQLResultSet.clear ⟨s.world,r⟩)).world,Function.update s.resultSets i none)
    | none => s
  | .newStatement i => match s.statements i with
    | none => {s with statements := Function.update s.statements i (some CppMySQLStatement.new)}
    | some _ => s
  | .copyStatement i j => match s.statements i,s.statements j with
    | none,some r => {s with statements := copied s.statements i j r.copy}
    | _,_ => s
  | .assignStatement i j => if i = j then s else match s.statements i,s.statements j with
    | some q,some r => s.setStatements (assigned s.statements i j (CppMySQLStatement.assign r ⟨s.world,q⟩))
    | _,_ => s
  | .statement i request => match s.statements i with
    | some r => s.setStatements (used s.statements i (CppMySQLStatement.perform client request ⟨s.world,r⟩))
    | none => s
  | .destroyStatement i => match s.statements i with
    | some r => s.setStatements (CppMySQLStatement.destroy ⟨s.world,r⟩,Function.update s.statements i none)
    | none => s

section Fetching
variable (client : Client)

/-- The result a statement hands the operation that fetches it, if it gets that far. -/
def fetchResult (szSQL : CString) (s : Scope World CppMySQLDB) : Option Nat :=
  if Connected true s ∧ (reply client s (.realQuery szSQL)).rc = 0
  then (stored client (asked client s (.realQuery szSQL))).1 else none

/-- What fetching leaves in the world, whichever object takes the result. -/
structure Fetched (szSQL : CString) (s : Scope World CppMySQLDB) (w : World) : Prop where
  log : w.log = fetchedLog client szSQL s
  results : w.nResults = s.world.nResults + if (fetchResult client szSQL s).isSome then 1 else 0
  stmts : w.nStmts = s.world.nStmts
  fresh : ∀ res ∈ fetchResult client szSQL s, res = s.world.nResults

theorem storedCounts (s : Scope World CppMySQLDB) :
    (stored client s).2.world.nResults = s.world.nResults + (if (stored client s).1.isSome then 1 else 0) ∧
    (stored client s).2.world.nStmts = s.world.nStmts ∧
    ∀ res ∈ (stored client s).1, res = s.world.nResults := by
  unfold stored
  cases (reply client s .storeResult).stored with
  | none => exact ⟨rfl,rfl,nofun⟩
  | some data => exact ⟨rfl,rfl,fun res h => (Option.some.inj h).symm⟩

section
variable {client} {szSQL : CString} {s : Scope World CppMySQLDB} {w : World}

theorem fetchedAccepted (accepted : Connected true s ∧ (reply client s (.realQuery szSQL)).rc = 0)
    (log : w.log = fetchedLog client szSQL s)
    (results : w.nResults = (stored client (asked client s (.realQuery szSQL))).2.world.nResults)
    (stmts : w.nStmts = (stored client (asked client s (.realQuery szSQL))).2.world.nStmts) :
    Fetched client szSQL s w := by
  obtain ⟨count,same,fresh⟩ := storedCounts client (asked client s (.realQuery szSQL))
  have result : fetchResult client szSQL s = (stored client (asked client s (.realQuery szSQL))).1 :=
    if_pos accepted
  refine ⟨log,?_,stmts.trans same,?_⟩
  · rw [result,results,count]
    rfl
  · rw [result]
    exact fresh

theorem fetchedRefused (refused : ¬ (Connected true s ∧ (reply client s (.realQuery szSQL)).rc = 0))
    (log : w.log = fetchedLog client szSQL s) (results : w.nResults = s.world.nResults)
    (stmts : w.nStmts = s.world.nStmts) :
    fetchResult client szSQL s = none ∧ Fetched client szSQL s w := by
  have result : fetchResult client szSQL s = none := if_neg refused
  refine ⟨result,log,?_,stmts,?_⟩
  · rw [result,results]
    rfl
  · rw [result]
    exact nofun

end

theorem execQueryFetches (szSQL : CString) (s : Scope World CppMySQLDB) :
    Fetched client szSQL s (left (execQuery client szSQL s)).world ∧
    match execQuery client szSQL s with
    | .ok q _ => q.mpRES = fetchResult client szSQL s
    | .error _ _ => fetchResult client szSQL s = none := by
  have log := (execQueryLeft client szSQL s).1
  revert log
  rw [execQueryApply]
  by_cases connected : Connected true s
  · rw [if_pos connected]
    dsimp only
    by_cases rc : (reply client s (.realQuery szSQL)).rc = 0
    · rw [if_pos rc,CppMySQLQuery.ofRESApply]
      have result : fetchResult client szSQL s = (stored client (asked client s (.realQuery szSQL))).1 :=
        if_pos ⟨connected,rc⟩
      rw [result]
      cases (stored client (asked client s (.realQuery szSQL))).1 with
      | none => exact fun log => ⟨fetchedAccepted ⟨connected,rc⟩ log rfl rfl,rfl⟩
      | some res => exact fun log => ⟨fetchedAccepted ⟨connected,rc⟩ log rfl rfl,rfl⟩
    · rw [if_neg rc]
      intro log
      obtain ⟨none,fetched⟩ := fetchedRefused (fun both => rc both.2) log rfl rfl
      exact ⟨fetched,none⟩
  · rw [if_neg connected]
    intro log
    obtain ⟨none,fetched⟩ := fetchedRefused (fun both => connected both.1) log rfl rfl
    exact ⟨fetched,none⟩

theorem getResultSetFetches (szSQL : CString) (s : Scope World CppMySQLDB) :
    Fetched client szSQL s (left (getResultSet client szSQL s)).world := by
  have log := (getResultSetLeft client szSQL s).1
  revert log
  rw [getResultSetApply]
  by_cases connected : Connected true s
  · rw [if_pos connected]
    dsimp only
    by_cases rc : (reply client s (.realQuery szSQL)).rc = 0
    · rw [if_pos rc]
      cases kept : (stored client (asked client s (.realQuery szSQL))).1 with
      | none => exact fun log => fetchedAccepted ⟨connected,rc⟩ log rfl rfl
      | some res =>
        obtain ⟨data,_,fresh,_⟩ := storedFresh client kept
        rw [CppMySQLResultSet.ofRESApply res data _ fresh]
        cases CppMySQLResultSet.fieldMap 0 data.fields <;>
          exact fun log => fetchedAccepted ⟨connected,rc⟩ log rfl rfl
    · rw [if_neg rc]
      exact fun log => (fetchedRefused (fun both => rc both.2) log rfl rfl).2
  · rw [if_neg connected]
    exact fun log => (fetchedRefused (fun both => connected both.1) log rfl rfl).2

theorem execScalarFetches (szSQL : CString) (nNullValue : Int) (s : Scope World CppMySQLDB) :
    ∃ w, Fetched client szSQL s w ∧ (left (execScalar client szSQL nNullValue s)).world =
      match fetchResult client szSQL s with
      | some res => w.push ⟨none,.freeResult res,success⟩
      | none => w := by
  obtain ⟨fetched,held⟩ := execQueryFetches client szSQL s
  rw [execScalarApply]
  cases result : execQuery client szSQL s with
  | error e t =>
    rw [result] at fetched held
    exact ⟨t.world,fetched,by rw [held]; rfl⟩
  | ok q t =>
    rw [result] at fetched held
    refine ⟨t.world,fetched,?_⟩
    rw [← held]
    simp only [leftLocal,scalarOfLeft,CppMySQLQuery.destroy,CppMySQLQuery.clearLeft,leftOk]
    rfl

end Fetching

/-- The commands on queries. -/
def onQueries : Command → Bool
  | .execQuery _ _ _ | .execScalar _ _ _ | .newQuery _ | .copyQuery _ _ | .assignQuery _ _ => true
  | .clearQuery _ | .nextRow _ | .seekRow _ _ | .destroyQuery _ => true
  | _ => false

/-- The calls that fetch a result and free it. -/
def fetchCall : Call → Bool
  | .realQuery _ | .storeResult | .freeResult _ => true
  | _ => false

/-- A relation of worlds to which results do not matter. -/
structure Aside (R : World → World → Prop) : Prop where
  chain : Chain R
  push : ∀ w e, fetchCall e.call → R w (w.push e)
  set : ∀ w res r, R w (w.setRes res r)
  store : ∀ w data, R w (w.store data)

section Aside
variable {R : World → World → Prop} (aside : Aside R) (client : Client)
include aside

theorem storedAside (s : Scope World CppMySQLDB) : R s.world (stored client s).2.world := by
  have pushed : R s.world (asked client s .storeResult).world := aside.push _ _ rfl
  unfold stored
  cases (reply client s .storeResult).stored with
  | none => exact pushed
  | some data => exact aside.chain.trans _ _ _ pushed (aside.store _ data)

theorem execQueryAside (szSQL : CString) (s : Scope World CppMySQLDB) :
    R s.world (left (execQuery client szSQL s)).world := by
  rw [execQueryApply]
  split
  · have sent : R s.world (asked client s (.realQuery szSQL)).world := aside.push _ _ rfl
    dsimp only
    split
    · have kept := aside.chain.trans _ _ _ sent (storedAside aside client (asked client s (.realQuery szSQL)))
      rw [CppMySQLQuery.ofRESApply]
      cases (stored client (asked client s (.realQuery szSQL))).1 with
      | none => exact kept
      | some res => exact aside.chain.trans _ _ _ kept (aside.set _ res _)
    · exact sent
  · exact aside.chain.refl _

omit client in
theorem releasedAside (s : Scope World CppMySQLQuery) : R s.world (CppMySQLQuery.released s) := by
  unfold CppMySQLQuery.released
  cases s.this.mpRES with
  | none => exact aside.chain.refl _
  | some res => exact aside.push _ _ rfl

theorem execScalarAside (szSQL : CString) (nNullValue : Int) (s : Scope World CppMySQLDB) :
    R s.world (left (execScalar client szSQL nNullValue s)).world := by
  have fetched := execQueryAside aside client szSQL s
  rw [execScalarApply]
  cases result : execQuery client szSQL s with
  | error e t =>
    rw [result] at fetched
    exact fetched
  | ok q t =>
    rw [result] at fetched
    simp only [leftLocal,scalarOfLeft,CppMySQLQuery.destroy,CppMySQLQuery.clearLeft,leftOk]
    exact aside.chain.trans _ _ _ fetched (releasedAside aside ⟨t.world,q⟩)

theorem queriesAside (s : System) {c : Command} (queries : onQueries c) : R s.world (step client s c).world := by
  have still := aside.chain.refl s.world
  cases c with
  | execQuery mpDB i szSQL =>
    simp only [step]
    split
    · simp only [System.setQueries,createdWorld]
      exact execQueryAside aside client szSQL (s.on mpDB)
    · exact still
  | execScalar mpDB szSQL nNullValue => exact execScalarAside aside client szSQL nNullValue (s.on mpDB)
  | newQuery i | copyQuery i j =>
    simp only [step]
    split <;> exact still
  | assignQuery i j =>
    simp only [step]
    split
    · exact still
    · split
      · rename_i q r _ _
        have freed := releasedAside aside ⟨s.world,q⟩
        simp only [System.setQueries,CppMySQLQuery.assignApply,assigned]
        cases r.mpRES with
        | none => exact freed
        | some res => exact aside.chain.trans _ _ _ freed (aside.set _ res _)
      · exact still
  | clearQuery i =>
    simp only [step]
    split
    · rename_i q _
      simp only [System.setQueries,used,CppMySQLQuery.clearLeft,leftOk]
      exact releasedAside aside ⟨s.world,q⟩
    · exact still
  | destroyQuery i =>
    simp only [step]
    split
    · rename_i q _
      simp only [System.setQueries,CppMySQLQuery.destroy,CppMySQLQuery.clearLeft,leftOk]
      exact releasedAside aside ⟨s.world,q⟩
    · exact still
  | nextRow i =>
    simp only [step]
    split
    · simp only [System.setQueries,used,CppMySQLQuery.nextRowApply]
      split
      · exact still
      · split
        · exact still
        · exact aside.set _ _ _
    · exact still
  | seekRow i offerset =>
    simp only [step]
    split
    · simp only [System.setQueries,used,CppMySQLQuery.seekRowApply]
      split
      · exact still
      · exact aside.set _ _ _
    · exact still
  | _ => exact absurd queries Bool.false_ne_true

omit aside in
theorem queriesOnly (s : System) {c : Command} (queries : onQueries c) :
    (step client s c).resultSets = s.resultSets ∧ (step client s c).statements = s.statements := by
  cases c with
  | execScalar mpDB szSQL nNullValue => exact ⟨rfl,rfl⟩
  | execQuery mpDB i szSQL | newQuery i | copyQuery i j | assignQuery i j =>
    simp only [step]
    repeat (first | exact ⟨rfl,rfl⟩ | split)
  | clearQuery i | nextRow i | seekRow i offerset | destroyQuery i =>
    simp only [step]
    split <;> exact ⟨rfl,rfl⟩
  | _ => exact absurd queries Bool.false_ne_true

end Aside
end DatabaseLayer.MySQLSystem
