import DatabaseLayer.Foundation.Ledger
import DatabaseLayer.MySQLSystem

/-! Who frees what: every MYSQL_RES and MYSQL_STMT has one owner among the queries and the
statements, except for those the wrapper loses. Two books are kept of a system, one of
results and one of statements, and each command is one action on either. -/
namespace DatabaseLayer.MySQLHandles
open Platform MySQLClient Foundation.Program Foundation.Objects Foundation.Run Foundation.Ledger MySQLRules CppMySQLDB
open CppMySQLStatement (sent replied preparing prepared)
open MySQLSystem

def times (c : Call) (h : History) : Nat := h.countP (fun e => e.call = c)

theorem timesCons (c : Call) (e : Entry) (h : History) :
    times c (e :: h) = times c h + if e.call = c then 1 else 0 := by
  simp [times,List.countP_cons]

def resultBook (s : System) : Book Nat :=
  ⟨s.world.nResults,fun res => times (.freeResult res) s.world.log,
    fun i => (s.queries i).bind CppMySQLQuery.mpRES⟩

def statementBook (s : System) : Book Nat :=
  ⟨s.world.nStmts,fun id => times (.stmtClose id) s.world.log,
    fun i => (s.statements i).bind (fun o => o.mpStmt.map MysqlStmt.id)⟩

section Actions
variable (client : Client)

def resultAction (s : System) : Command → Action Nat
  | .execQuery mpDB i szSQL =>
    if s.queries i = none ∧ (fetchResult client szSQL (s.on mpDB)).isSome then .issue i else .keep
  | .execScalar mpDB szSQL _ =>
    if (fetchResult client szSQL (s.on mpDB)).isSome then .issueReleased else .keep
  | .getResultSet mpDB i szSQL =>
    if s.resultSets i = none ∧ (fetchResult client szSQL (s.on mpDB)).isSome then .issueLost else .keep
  | .copyQuery i j => if s.queries i = none ∧ s.queries j ≠ none then .move i j else .keep
  | .assignQuery i j =>
    if i ≠ j ∧ s.queries i ≠ none ∧ s.queries j ≠ none then .replace i j else .keep
  | .clearQuery i => .release i
  | .destroyQuery i => .release i
  | _ => .keep

def statementAction (s : System) : Command → Action Nat
  | .compileStatement (some conn) i szSQL =>
    if s.statements i = none ∧ (replied client s.world conn .stmtInit).rc = 0 then
      if (prepared client s.world conn szSQL).rc = 0 then .issue i else .issueLost
    else .keep
  | .copyStatement i j => if s.statements i = none ∧ s.statements j ≠ none then .move i j else .keep
  | .assignStatement i j =>
    if i ≠ j ∧ s.statements i ≠ none ∧ s.statements j ≠ none then .move i j else .keep
  | .statement i .clear => .release i
  | .destroyStatement i => .release i
  | _ => .keep

end Actions

/-- Worlds with the same results, each freed as often. -/
def SameResults (w v : World) : Prop :=
  v.nResults = w.nResults ∧ ∀ res, times (.freeResult res) v.log = times (.freeResult res) w.log

def SameStatements (w v : World) : Prop :=
  v.nStmts = w.nStmts ∧ ∀ id, times (.stmtClose id) v.log = times (.stmtClose id) w.log

theorem chainResults : Chain SameResults :=
  ⟨fun _ => ⟨rfl,fun _ => rfl⟩,fun _ _ _ first rest =>
    ⟨rest.1.trans first.1,fun res => (rest.2 res).trans (first.2 res)⟩⟩

theorem chainStatements : Chain SameStatements :=
  ⟨fun _ => ⟨rfl,fun _ => rfl⟩,fun _ _ _ first rest =>
    ⟨rest.1.trans first.1,fun id => (rest.2 id).trans (first.2 id)⟩⟩

theorem pushResultsSame {w : World} {e : Entry} (other : ∀ res, e.call ≠ .freeResult res) :
    SameResults w (w.push e) :=
  ⟨rfl,fun res => by simp [timesCons,other res]⟩

theorem pushStatementsSame {w : World} {e : Entry} (other : ∀ id, e.call ≠ .stmtClose id) :
    SameStatements w (w.push e) :=
  ⟨rfl,fun id => by simp [timesCons,other id]⟩

section Books
variable {s t : System}

theorem resultsKept (world : SameResults s.world t.world)
    (held : ∀ i, (t.queries i).bind CppMySQLQuery.mpRES = (s.queries i).bind CppMySQLQuery.mpRES) :
    resultBook t = resultBook s :=
  Book.ext world.1 (funext world.2) (funext held)

theorem statementsKept (world : SameStatements s.world t.world)
    (held : ∀ i, (t.statements i).bind (fun o => o.mpStmt.map MysqlStmt.id) =
      (s.statements i).bind (fun o => o.mpStmt.map MysqlStmt.id)) :
    statementBook t = statementBook s :=
  Book.ext world.1 (funext world.2) (funext held)

theorem timesFetched {client : Client} {c : Call} (query : ∀ sql, c ≠ .realQuery sql) (store : c ≠ .storeResult)
    (szSQL : CString) (s : Scope World CppMySQLDB) :
    times c (fetchedLog client szSQL s) = times c s.world.log := by
  have other : ∀ sql, ¬ Call.realQuery sql = c := fun sql same => query sql same.symm
  unfold fetchedLog
  split
  · dsimp only
    split
    · simp [asked,timesCons,other,Ne.symm store]
    · simp [asked,timesCons,other]
  · rfl

end Books

section Worlds
variable {client : Client}

theorem fetchedCounts {szSQL : CString} {s : Scope World CppMySQLDB} {w : World}
    (fetched : Fetched client szSQL s w) :
    w.nResults = s.world.nResults + (if (fetchResult client szSQL s).isSome then 1 else 0) ∧
    (∀ res, times (.freeResult res) w.log = times (.freeResult res) s.world.log) ∧
    SameStatements s.world w := by
  refine ⟨fetched.results,fun res => ?_,fetched.stmts,fun id => ?_⟩
  · rw [fetched.log,timesFetched (by simp) (by simp)]
  · rw [fetched.log,timesFetched (by simp) (by simp)]

theorem fetchedNothing {szSQL : CString} {s : Scope World CppMySQLDB} {w : World}
    (fetched : Fetched client szSQL s w) (none : fetchResult client szSQL s = none) : SameResults s.world w := by
  obtain ⟨issued,released,_⟩ := fetchedCounts fetched
  rw [none] at issued
  exact ⟨issued,released⟩

theorem compileSame (szSQL : CString) (s : Scope World CppMySQLDB) :
    SameResults s.world (left (compileStatement client szSQL s)).world := by
  simp only [compileStatement,bindApply,handleApply,CppMySQLStatement.compileApply]
  cases s.this.mpDB with
  | none => exact chainResults.refl _
  | some conn =>
    have first : SameResults s.world (sent client s.world conn .stmtInit) := pushResultsSame (by simp)
    have second (c) (hc : ∀ res, c ≠ .freeResult res) : SameResults s.world
        (sent client (sent client s.world conn .stmtInit).initStmt conn c) :=
      chainResults.trans _ _ _ first (pushResultsSame (w := (sent client s.world conn .stmtInit).initStmt) hc)
    dsimp only
    split
    · split
      · exact second _ (by simp)
      · exact chainResults.trans _ _ _ (second _ (by simp)) (pushResultsSame (by simp))
    · exact first

theorem requestSame (client : Client) {request : CppMySQLStatement.Request} (clears : request ≠ .clear)
    (s : Scope World CppMySQLStatement) :
    let t := left (CppMySQLStatement.perform client request s)
    SameResults s.world t.world ∧ SameStatements s.world t.world ∧ t.this.mpStmt = s.this.mpStmt := by
  have chain : Chain (fun s t : Scope World CppMySQLStatement => SameResults s.world t.world ∧
      SameStatements s.world t.world ∧ t.this.mpStmt = s.this.mpStmt) :=
    ⟨fun _ => ⟨chainResults.refl _,chainStatements.refl _,rfl⟩,fun _ _ _ first rest =>
      ⟨chainResults.trans _ _ _ first.1 rest.1,chainStatements.trans _ _ _ first.2.1 rest.2.1,
        rest.2.2.trans first.2.2⟩⟩
  refine settlesLeft (CppMySQLStatement.settlesRequest chain ?_ ?_ ?_ clears) s
  · intro s conn c hc
    refine ⟨pushResultsSame ?_,pushStatementsSame ?_,rfl⟩
    · rintro res rfl
      cases hc
    · rintro id rfl
      cases hc
  · exact fun s n d => ⟨chainResults.refl s.world,chainStatements.refl s.world,rfl⟩
  · exact fun s o same _ => ⟨chainResults.refl s.world,chainStatements.refl s.world,same⟩

theorem clearSame (s : Scope World CppMySQLStatement) :
    SameResults s.world (left (CppMySQLStatement.clear s)).world ∧
    (left (CppMySQLStatement.clear s)).world.nStmts = s.world.nStmts ∧
    (∀ id, times (.stmtClose id) (left (CppMySQLStatement.clear s)).world.log =
      times (.stmtClose id) s.world.log + if s.this.mpStmt.map MysqlStmt.id = some id then 1 else 0) ∧
    (left (CppMySQLStatement.clear s)).this.mpStmt = none := by
  rw [CppMySQLStatement.clearApply]
  cases held : s.this.mpStmt with
  | none => exact ⟨chainResults.refl _,rfl,fun _ => rfl,held⟩
  | some stmt => exact ⟨pushResultsSame (by simp),rfl,fun id => by simp [timesCons],rfl⟩

/-- The cursor moves of a query free nothing and keep its result. -/
structure CursorMoved (s t : Scope World CppMySQLQuery) : Prop where
  log : t.world.log = s.world.log
  results : t.world.nResults = s.world.nResults
  stmts : t.world.nStmts = s.world.nStmts
  held : t.this.mpRES = s.this.mpRES

theorem nextRowMoves (s : Scope World CppMySQLQuery) : CursorMoved s (left (CppMySQLQuery.nextRow s)) := by
  rw [CppMySQLQuery.nextRowApply]
  cases s.this.mpRES with
  | none => exact ⟨rfl,rfl,rfl,rfl⟩
  | some res =>
    dsimp only
    cases (s.world.results res).dataCursor <;> exact ⟨rfl,rfl,rfl,rfl⟩

theorem seekRowMoves (offerset : Nat) (s : Scope World CppMySQLQuery) :
    CursorMoved s (left (CppMySQLQuery.seekRow offerset s)) := by
  rw [CppMySQLQuery.seekRowApply]
  cases s.this.mpRES <;> exact ⟨rfl,rfl,rfl,rfl⟩

theorem releasedTimes (s : Scope World CppMySQLQuery) (res : Nat) :
    times (.freeResult res) (CppMySQLQuery.released s).log =
      times (.freeResult res) s.world.log + if s.this.mpRES = some res then 1 else 0 := by
  unfold CppMySQLQuery.released
  cases s.this.mpRES with
  | none => rfl
  | some own => simp [timesCons]

theorem releasedCount (s : Scope World CppMySQLQuery) :
    (CppMySQLQuery.released s).nResults = s.world.nResults := by
  unfold CppMySQLQuery.released
  cases s.this.mpRES <;> rfl

end Worlds

section Simulation
variable {client : Client}

theorem releaseBook {s : System} {i : Nat} {q : CppMySQLQuery} (live : s.queries i = some q) {t : System}
    (world : t.world = CppMySQLQuery.released ⟨s.world,q⟩)
    (held : (fun k => (t.queries k).bind CppMySQLQuery.mpRES) =
      Function.update (fun k => (s.queries k).bind CppMySQLQuery.mpRES) i none) :
    resultBook t = (resultBook s).release i := by
  refine Book.ext ?_ (funext fun res => ?_) held
  · exact (congrArg World.nResults world).trans (releasedCount _)
  · simp only [resultBook,world,releasedTimes,Book.release,live,Option.bind_some]

theorem assignBook {s : System} {i j : Nat} {q r : CppMySQLQuery} (apart : i ≠ j) (target : s.queries i = some q)
    (source : s.queries j = some r) :
    resultBook (s.setQueries (assigned s.queries i j (CppMySQLQuery.assign r ⟨s.world,q⟩))) =
      ((resultBook s).release i).move i j := by
  have result := CppMySQLQuery.assignApply r ⟨s.world,q⟩
  have taken : ∃ t, CppMySQLQuery.assign r ⟨s.world,q⟩ = .ok {r with mpRES := none} t ∧
      t.this.mpRES = r.mpRES ∧ t.world.log = (CppMySQLQuery.released ⟨s.world,q⟩).log ∧
      t.world.nResults = s.world.nResults := by
    refine ⟨_,result,?_⟩
    have count := releasedCount ⟨s.world,q⟩
    cases held : r.mpRES with
    | none => exact ⟨rfl,rfl,count⟩
    | some res => exact ⟨rfl,rfl,count⟩
  obtain ⟨t,ok,mine,log,issued⟩ := taken
  rw [ok]
  refine Book.ext issued (funext fun h => ?_) ?_
  · simp only [resultBook,System.setQueries,assigned,log,releasedTimes,Book.move,Book.release,target,
      Option.bind_some]
  · refine (copiedHeld s.queries i j t.this {r with mpRES := none} CppMySQLQuery.mpRES rfl).trans ?_
    funext k
    by_cases first : k = i
    · subst first
      simp [resultBook,Book.move,Book.release,Ne.symm apart,source,mine]
    · by_cases second : k = j
      · subst second
        simp [resultBook,Book.move,Book.release,first]
      · simp [resultBook,Book.move,Book.release,first,second]

theorem cursorBook {s : System} {i : Nat} {q : CppMySQLQuery} (live : s.queries i = some q)
    {β : Type} {r : EStateM.Result Stop (Scope World CppMySQLQuery) β} (moved : CursorMoved ⟨s.world,q⟩ (left r)) :
    resultBook (s.setQueries (used s.queries i r)) = resultBook s := by
  refine resultsKept ⟨moved.results,fun res => congrArg (times _) moved.log⟩ fun k => ?_
  by_cases own : k = i
  · subst own
    simp [System.setQueries,used,live,moved.held]
  · simp [System.setQueries,used,own]

theorem nothingHeld {s : System} {i : Nat} (free : s.queries i = none) :
    Function.update (resultBook s).held i none = (resultBook s).held :=
  Function.update_eq_self_iff.mpr (by simp [resultBook,free])

theorem execQueryResults (client : Client) (s : System) (mpDB : Option Nat) (i : Nat) (szSQL : CString) :
    resultBook (step client s (.execQuery mpDB i szSQL)) =
      (resultBook s).act (resultAction client s (.execQuery mpDB i szSQL)) := by
  simp only [step,resultAction]
  cases slot : s.queries i with
  | some q => simp [Book.act]
  | none =>
    obtain ⟨fetched,hands⟩ := execQueryFetches client szSQL (s.on mpDB)
    cases result : execQuery client szSQL (s.on mpDB) with
    | error e t =>
      rw [result] at fetched hands
      have kept : resultBook (s.setQueries (created s.queries i (.error e t))) = resultBook s :=
        resultsKept (fetchedNothing fetched hands) fun _ => rfl
      simp [hands,kept,Book.act]
    | ok q t =>
      rw [result] at fetched hands
      obtain ⟨issued,released,_⟩ := fetchedCounts fetched
      have held : (resultBook (s.setQueries (t.world,Function.update s.queries i (some q)))).held =
          Function.update (resultBook s).held i q.mpRES := bindUpdate s.queries i (some q) CppMySQLQuery.mpRES
      cases obtains : fetchResult client szSQL (s.on mpDB) with
      | none =>
        rw [obtains] at issued hands
        simp only [Option.isSome_none,Bool.false_eq_true,and_false,if_false,Book.act]
        refine Book.ext issued (funext released) (held.trans ?_)
        rw [hands]
        exact nothingHeld slot
      | some res =>
        rw [obtains] at issued hands
        have fresh := fetched.fresh res obtains
        simp only [Option.isSome_some,and_self,if_true,Book.act]
        refine Book.ext issued (funext released) (held.trans ?_)
        rw [hands,fresh]
        rfl

theorem execScalarResults (client : Client) (s : System) (mpDB : Option Nat) (szSQL : CString) (nNullValue : Int) :
    resultBook (step client s (.execScalar mpDB szSQL nNullValue)) =
      (resultBook s).act (resultAction client s (.execScalar mpDB szSQL nNullValue)) := by
  obtain ⟨w,fetched,world⟩ := execScalarFetches client szSQL nNullValue (s.on mpDB)
  obtain ⟨issued,released,_⟩ := fetchedCounts fetched
  simp only [step,resultAction]
  cases obtains : fetchResult client szSQL (s.on mpDB) with
  | none =>
    rw [obtains] at issued world
    simp only [Option.isSome_none,Bool.false_eq_true,if_false,Book.act]
    exact resultsKept (world ▸ ⟨issued,released⟩) fun _ => rfl
  | some res =>
    rw [obtains] at issued world
    have fresh := fetched.fresh res obtains
    simp only [Option.isSome_some,if_true,Book.act]
    refine Book.ext ?_ (funext fun h => ?_) rfl
    · simp only [resultBook,world]
      exact issued
    · simp only [resultBook,world,pushLog,timesCons,released h,Call.freeResult.injEq,fresh,eq_comm]
      rfl

theorem getResultSetResults (client : Client) (s : System) (mpDB : Option Nat) (i : Nat) (szSQL : CString) :
    resultBook (step client s (.getResultSet mpDB i szSQL)) =
      (resultBook s).act (resultAction client s (.getResultSet mpDB i szSQL)) := by
  have fetched := getResultSetFetches client szSQL (s.on mpDB)
  obtain ⟨issued,released,_⟩ := fetchedCounts fetched
  simp only [step,resultAction]
  cases slot : s.resultSets i with
  | some r => simp [Book.act]
  | none =>
    have world := createdWorld s.resultSets i (getResultSet client szSQL (s.on mpDB))
    cases obtains : fetchResult client szSQL (s.on mpDB) with
    | none =>
      simp only [Option.isSome_none,Bool.false_eq_true,and_false,if_false,Book.act]
      refine resultsKept ?_ fun _ => rfl
      simp only [System.setResultSets,world]
      exact fetchedNothing fetched obtains
    | some res =>
      rw [obtains] at issued
      simp only [Option.isSome_some,and_self,if_true,Book.act]
      refine Book.ext ?_ (funext fun h => ?_) rfl
      · simp only [resultBook,System.setResultSets,world]
        exact issued
      · simp only [resultBook,System.setResultSets,world]
        exact released h

theorem resultsSimulated (client : Client) (s : System) (c : Command) :
    resultBook (step client s c) = (resultBook s).act (resultAction client s c) := by
  cases c with
  | execQuery mpDB i szSQL => exact execQueryResults client s mpDB i szSQL
  | execScalar mpDB szSQL nNullValue => exact execScalarResults client s mpDB szSQL nNullValue
  | getResultSet mpDB i szSQL => exact getResultSetResults client s mpDB i szSQL
  | compileStatement mpDB i szSQL =>
    simp only [step,resultAction,Book.act]
    cases s.statements i with
    | some r => rfl
    | none =>
      refine resultsKept ?_ fun _ => rfl
      simp only [System.setStatements,createdWorld]
      exact compileSame szSQL (s.on mpDB)
  | newQuery i =>
    simp only [step,resultAction,Book.act]
    cases slot : s.queries i with
    | some q => rfl
    | none =>
      exact Book.ext rfl rfl ((bindUpdate s.queries i _ _).trans (nothingHeld slot))
  | copyQuery i j =>
    simp only [step,resultAction]
    cases free : s.queries i with
    | some q => simp [Book.act]
    | none =>
      cases source : s.queries j with
      | none => simp [Book.act]
      | some q =>
        simp only [ne_eq,reduceCtorEq,not_false_eq_true,and_self,if_true,Book.act]
        refine Book.ext rfl rfl ((copiedHeld s.queries i j _ _ _ rfl).trans ?_)
        simp [Book.move,resultBook,source]
  | assignQuery i j =>
    simp only [step,resultAction]
    by_cases same : i = j
    · simp [same,Book.act]
    · cases target : s.queries i with
      | none => simp [same,Book.act]
      | some q =>
        cases source : s.queries j with
        | none => simp [same,Book.act]
        | some r =>
          simp only [same,ne_eq,not_false_eq_true,reduceCtorEq,and_self,if_true,if_false,Book.act]
          exact assignBook same target source
  | clearQuery i =>
    simp only [step,resultAction,Book.act]
    cases live : s.queries i with
    | none => exact (releaseNothing (by simp [resultBook,live])).symm
    | some q =>
      refine releaseBook live ?_ ?_
      · simp [System.setQueries,used,CppMySQLQuery.clearLeft]
      · simp only [System.setQueries,used,CppMySQLQuery.clearLeft,leftOk]
        exact bindUpdate s.queries i _ _
  | destroyQuery i =>
    simp only [step,resultAction,Book.act]
    cases live : s.queries i with
    | none => exact (releaseNothing (by simp [resultBook,live])).symm
    | some q =>
      refine releaseBook live ?_ ?_
      · simp [System.setQueries,CppMySQLQuery.destroy,CppMySQLQuery.clearLeft]
      · exact bindUpdate s.queries i _ _
  | nextRow i =>
    simp only [step,resultAction,Book.act]
    cases live : s.queries i with
    | none => rfl
    | some q => exact cursorBook live (nextRowMoves _)
  | seekRow i offerset =>
    simp only [step,resultAction,Book.act]
    cases live : s.queries i with
    | none => rfl
    | some q => exact cursorBook live (seekRowMoves offerset _)
  | statement i request =>
    simp only [step,resultAction,Book.act]
    cases s.statements i with
    | none => rfl
    | some o =>
      refine resultsKept ?_ fun _ => rfl
      by_cases clears : request = .clear
      · subst clears
        exact (clearSame _).1
      · exact (requestSame client clears ⟨s.world,o⟩).1
  | destroyStatement i =>
    simp only [step,resultAction,Book.act]
    cases s.statements i with
    | none => rfl
    | some o => exact resultsKept (clearSame ⟨s.world,o⟩).1 fun _ => rfl
  | newResultSet i | newStatement i =>
    simp only [step,resultAction,Book.act]
    split <;> rfl
  | clearResultSet i | destroyResultSet i =>
    simp only [step,resultAction,Book.act,CppMySQLResultSet.clearApply]
    split <;> rfl
  | copyResultSet i j | copyStatement i j =>
    simp only [step,resultAction,Book.act]
    split <;> rfl
  | assignResultSet i j | assignStatement i j =>
    simp only [step,resultAction,Book.act,CppMySQLResultSet.assignApply]
    split
    · rfl
    · split <;> rfl

theorem statementsAside {s t : System} (world : SameStatements s.world t.world)
    (same : t.statements = s.statements) : statementBook t = statementBook s :=
  statementsKept world fun i => by rw [same]

theorem closeBook {s : System} {i : Nat} {o : CppMySQLStatement} (live : s.statements i = some o) {t : System}
    (world : t.world = (left (CppMySQLStatement.clear ⟨s.world,o⟩)).world)
    (held : (fun k => (t.statements k).bind (fun o => o.mpStmt.map MysqlStmt.id)) =
      Function.update (fun k => (s.statements k).bind (fun o => o.mpStmt.map MysqlStmt.id)) i none) :
    statementBook t = (statementBook s).release i := by
  obtain ⟨_,count,closes,_⟩ := clearSame ⟨s.world,o⟩
  refine Book.ext ((congrArg World.nStmts world).trans count) (funext fun id => ?_) held
  simp only [statementBook,world,closes,Book.release,live,Option.bind_some]

theorem preparingSame (client : Client) (w : World) (conn : Nat) (szSQL : CString) (id : Nat) :
    times (.stmtClose id) (preparing client w conn szSQL).log = times (.stmtClose id) w.log := by
  have first : SameStatements w (sent client w conn .stmtInit) := pushStatementsSame (by simp)
  have second : SameStatements (sent client w conn .stmtInit).initStmt (preparing client w conn szSQL) :=
    pushStatementsSame (by simp)
  exact (second.2 id).trans (first.2 id)

/-- Compiling opens a statement for the object it returns, and opens one for nobody when
the preparation is refused. -/
theorem compileBook {s : System} {i : Nat} (free : s.statements i = none) (mpDB : Option Nat) (szSQL : CString) :
    statementBook (s.setStatements (created s.statements i (compileStatement client szSQL (s.on mpDB)))) =
      (statementBook s).act (statementAction client s (.compileStatement mpDB i szSQL)) := by
  have compiles : compileStatement client szSQL (s.on mpDB) =
    CppMySQLStatement.compile client mpDB szSQL (s.on mpDB) := rfl
  rw [compiles]
  cases mpDB with
  | none => exact statementsAside (chainStatements.refl _) rfl
  | some conn =>
    by_cases init : (replied client s.world conn .stmtInit).rc = 0
    · have opens : s.statements i = none ∧ (replied client s.world conn .stmtInit).rc = 0 := ⟨free,init⟩
      simp only [statementAction,if_pos opens]
      by_cases accepted : (prepared client s.world conn szSQL).rc = 0
      · rw [if_pos accepted,CppMySQLStatement.compilePrepared init accepted]
        refine Book.ext rfl (funext fun id => ?_) (bindUpdate s.statements i _ _)
        have counted : SameStatements (preparing client s.world conn szSQL) (sent client
            (preparing client s.world conn szSQL) conn (.stmtParamCount s.world.nStmts)) :=
          pushStatementsSame (by simp)
        exact (counted.2 id).trans (preparingSame client s.world conn szSQL id)
      · rw [if_neg accepted,CppMySQLStatement.compileUnprepared init accepted]
        exact Book.ext rfl (funext (preparingSame client s.world conn szSQL)) rfl
    · have stays : ¬ (s.statements i = none ∧ (replied client s.world conn .stmtInit).rc = 0) :=
        fun both => init both.2
      simp only [statementAction,if_neg stays,Book.act]
      rw [CppMySQLStatement.compileUninited init]
      exact statementsAside (pushStatementsSame (by simp)) rfl

theorem asideStatements : Aside SameStatements where
  chain := chainStatements
  push w e fetches := pushStatementsSame fun id same => by
    rw [same] at fetches
    cases fetches
  set _ _ _ := ⟨rfl,fun _ => rfl⟩
  store _ _ := ⟨rfl,fun _ => rfl⟩

theorem statementsSimulated (client : Client) (s : System) (c : Command) :
    statementBook (step client s c) = (statementBook s).act (statementAction client s c) := by
  by_cases queries : onQueries c = true
  · have idle : statementAction client s c = .keep := by
      cases c <;> first | rfl | exact absurd queries Bool.false_ne_true
    rw [idle]
    exact statementsAside (queriesAside asideStatements client s queries) (queriesOnly client s queries).2
  cases c with
  | compileStatement mpDB i szSQL =>
    cases slot : s.statements i with
    | none => simpa only [step,slot] using compileBook slot mpDB szSQL
    | some o => cases mpDB <;> simp [step,statementAction,slot,Book.act]
  | newStatement i =>
    simp only [step,statementAction,Book.act]
    cases slot : s.statements i with
    | some o => rfl
    | none =>
      refine Book.ext rfl rfl ((bindUpdate s.statements i _ _).trans ?_)
      exact Function.update_eq_self_iff.mpr (by simp [CppMySQLStatement.new,slot])
  | copyStatement i j =>
    simp only [step,statementAction]
    cases free : s.statements i with
    | some o => simp [Book.act]
    | none =>
      cases source : s.statements j with
      | none => simp [Book.act]
      | some o =>
        simp only [ne_eq,reduceCtorEq,not_false_eq_true,and_self,if_true,Book.act]
        refine Book.ext rfl rfl ((copiedHeld s.statements i j _ _ _ rfl).trans ?_)
        simp [Book.move,statementBook,source]
  | assignStatement i j =>
    simp only [step,statementAction]
    by_cases same : i = j
    · simp [same,Book.act]
    · cases target : s.statements i with
      | none => simp [same,Book.act]
      | some o =>
        cases source : s.statements j with
        | none => simp [same,Book.act]
        | some r =>
          simp only [same,ne_eq,not_false_eq_true,reduceCtorEq,and_self,if_true,if_false,Book.act]
          refine Book.ext rfl rfl ((copiedHeld s.statements i j r
            {r with mpStmt := none, mpBindArray := none} _ rfl).trans ?_)
          simp [Book.move,statementBook,source]
  | statement i request =>
    simp only [step]
    cases live : s.statements i with
    | none =>
      have nothing : (statementBook s).held i = none := by simp [statementBook,live]
      cases request with
      | clear => exact (releaseNothing nothing).symm
      | _ => rfl
    | some o =>
      by_cases clears : request = .clear
      · subst clears
        have cleared : (left (CppMySQLStatement.clear ⟨s.world,o⟩)).this.mpStmt = none := (clearSame _).2.2.2
        refine closeBook live rfl ((bindUpdate s.statements i _ _).trans ?_)
        simp [CppMySQLStatement.perform,cleared]
      · obtain ⟨_,world,held⟩ := requestSame client clears ⟨s.world,o⟩
        have keeps : statementAction client s (.statement i request) = .keep := by
          cases request <;> first | rfl | exact absurd rfl clears
        rw [keeps]
        refine statementsKept world fun k => ?_
        by_cases own : k = i
        · subst own
          simp [System.setStatements,used,live,held]
        · simp [System.setStatements,used,own]
  | destroyStatement i =>
    simp only [step,statementAction,Book.act]
    cases live : s.statements i with
    | none => exact (releaseNothing (by simp [statementBook,live])).symm
    | some o => exact closeBook live rfl (bindUpdate s.statements i _ _)
  | getResultSet mpDB i szSQL =>
    simp only [step,statementAction,Book.act]
    split
    · refine statementsAside ?_ rfl
      simp only [System.setResultSets,createdWorld]
      exact (fetchedCounts (getResultSetFetches client szSQL (s.on mpDB))).2.2
    · rfl
  | newResultSet i =>
    simp only [step,statementAction,Book.act]
    split <;> rfl
  | clearResultSet i | destroyResultSet i =>
    simp only [step,statementAction,Book.act,CppMySQLResultSet.clearApply]
    split <;> rfl
  | copyResultSet i j =>
    simp only [step,statementAction,Book.act]
    split <;> rfl
  | assignResultSet i j =>
    simp only [step,statementAction,Book.act,CppMySQLResultSet.assignApply]
    split
    · rfl
    · split <;> rfl
  | execQuery _ _ _ | execScalar _ _ _ | newQuery _ | copyQuery _ _ | assignQuery _ _ => exact absurd rfl queries
  | clearQuery _ | nextRow _ | seekRow _ _ | destroyQuery _ => exact absurd rfl queries

end Simulation

section Conservation
variable (client : Client)

/-- A command after which no handle is without an owner: getResultSet gets no result, a
statement that was opened is prepared, and no open statement is assigned over. -/
def NothingLost (s : System) : Command → Prop
  | .getResultSet mpDB i szSQL => s.resultSets i = none → fetchResult client szSQL (s.on mpDB) = none
  | .compileStatement (some conn) i szSQL =>
    s.statements i = none → (replied client s.world conn .stmtInit).rc = 0 →
      (prepared client s.world conn szSQL).rc = 0
  | .assignStatement i j => i ≠ j → s.statements j ≠ none → (statementBook s).held i = none
  | _ => True

theorem nothingLostIff (s : System) (c : Command) : NothingLost client s c ↔
    ¬ (resultBook s).Loses (resultAction client s c) ∧ ¬ (statementBook s).Loses (statementAction client s c) := by
  have kept {ι : Type} (l : Book ι) : ¬ l.Loses .keep := id
  cases c with
  | execQuery mpDB i szSQL =>
    refine iff_of_true trivial ⟨?_,id⟩
    simp only [resultAction]
    split
    · rename_i free
      simp [Book.Loses,resultBook,free.1]
    · exact id
  | execScalar mpDB szSQL nNullValue =>
    refine iff_of_true trivial ⟨?_,id⟩
    simp only [resultAction]
    split <;> exact id
  | getResultSet mpDB i szSQL =>
    refine Iff.trans ?_ (and_iff_left id).symm
    simp only [resultAction,NothingLost]
    cases fetchResult client szSQL (s.on mpDB) <;> by_cases free : s.resultSets i = none <;>
      simp [free,Book.Loses]
  | compileStatement mpDB i szSQL =>
    refine Iff.trans ?_ (and_iff_right id).symm
    cases mpDB with
    | none => exact iff_of_true trivial id
    | some conn =>
      simp only [statementAction,NothingLost]
      by_cases free : s.statements i = none <;> by_cases init : (replied client s.world conn .stmtInit).rc = 0 <;>
        by_cases accepted : (prepared client s.world conn szSQL).rc = 0 <;>
        simp [free,init,accepted,Book.Loses,statementBook]
  | copyQuery i j =>
    refine iff_of_true trivial ⟨?_,id⟩
    simp only [resultAction]
    split
    · rename_i free
      simp [Book.Loses,resultBook,free.1]
    · exact id
  | assignQuery i j =>
    refine iff_of_true trivial ⟨?_,id⟩
    simp only [resultAction]
    split <;> exact id
  | copyStatement i j =>
    refine iff_of_true trivial ⟨id,?_⟩
    simp only [statementAction]
    split
    · rename_i free
      simp [Book.Loses,statementBook,free.1]
    · exact id
  | assignStatement i j =>
    refine Iff.trans ?_ (and_iff_right id).symm
    simp only [statementAction,NothingLost]
    by_cases apart : i = j
    · simp [apart,Book.Loses]
    · by_cases source : s.statements j = none
      · simp [source,Book.Loses]
      · by_cases target : s.statements i = none
        · simp [target,Book.Loses,statementBook]
        · simp [apart,source,target,Book.Loses]
  | statement i request =>
    refine iff_of_true trivial ⟨id,?_⟩
    cases request <;> exact id
  | _ => exact iff_of_true trivial ⟨id,id⟩

def NoLiveObject (s : System) : Prop :=
  ∀ i, s.queries i = none ∧ s.resultSets i = none ∧ s.statements i = none

/-- Every result was freed and every statement closed, exactly once. -/
def AllReleased (s : System) : Prop :=
  (∀ res, res < s.world.nResults → times (.freeResult res) s.world.log = 1) ∧
  (∀ id, id < s.world.nStmts → times (.stmtClose id) s.world.log = 1)

/-- A world whose library has handed out no result and no statement yet. -/
structure Unused (w : World) : Prop where
  results : w.nResults = 0
  statements : w.nStmts = 0
  freed : ∀ res, times (.freeResult res) w.log = 0
  closed : ∀ id, times (.stmtClose id) w.log = 0

/-- Once no object is alive, every result has been freed and every statement closed exactly
once, exactly when no command of the run lost a handle. -/
theorem releasedIffNothingLost {w : World} (unused : Unused w) (cmds : List Command)
    (ended : NoLiveObject (run (step client) (.initial w) cmds)) :
    AllReleased (run (step client) (.initial w) cmds) ↔
      Guarded (step client) (NothingLost client) (.initial w) cmds := by
  obtain ⟨soundResults,accountedResults⟩ :=
    freshSound (l := resultBook (.initial w)) unused.results unused.freed (fun _ => rfl)
  obtain ⟨soundStatements,accountedStatements⟩ :=
    freshSound (l := statementBook (.initial w)) unused.statements unused.closed (fun _ => rfl)
  have results := accountedIffReleased (soundRun (resultsSimulated client) soundResults cmds)
    fun i => by simp [resultBook,(ended i).1]
  have statements := accountedIffReleased (soundRun (statementsSimulated client) soundStatements cmds)
    fun i => by simp [statementBook,(ended i).2.2]
  refine (and_congr results statements).symm.trans ?_
  rw [accountedIffNothingLost (resultsSimulated client) soundResults accountedResults,
    accountedIffNothingLost (statementsSimulated client) soundStatements accountedStatements,← guardedAnd]
  exact guardedIff (fun s c => (nothingLostIff client s c).symm) _ cmds

end Conservation

theorem connectedUnused (conn : Nat) (db : CString) : Unused (.connected conn db) :=
  ⟨rfl,rfl,fun _ => rfl,fun _ => rfl⟩

theorem oneField (f : MysqlField) : [f].length < 2^32 := by
  rw [List.length_singleton]
  decide

def emptyTable : ResultData :=
  ⟨[⟨some (text "1"),3⟩],[],nofun,noRows,oneField _⟩

def selecting : List Command := [.execQuery (some 0) 0 (text "select 1"),.destroyQuery 0]

theorem releasedIffNothingLostQuery :
    AllReleased (run (step (.yielding emptyTable)) (.initial (.connected 0 (text "test"))) selecting) ↔
      Guarded (step (.yielding emptyTable)) (NothingLost (.yielding emptyTable))
        (.initial (.connected 0 (text "test"))) selecting :=
  releasedIffNothingLost (.yielding emptyTable) (connectedUnused 0 _) selecting fun i => by
    cases i with
    | zero => exact ⟨rfl,rfl,rfl⟩
    | succ i => exact ⟨rfl,rfl,rfl⟩

/-- A result copied by getResultSet is never freed. -/
theorem copiedResultNeverFreed :
    let s := run (step (.yielding emptyTable)) (.initial (.connected 0 (text "test")))
      [.getResultSet (some 0) 0 (text "select 1"),.destroyResultSet 0]
    NoLiveObject s ∧ ¬ AllReleased s := by
  refine ⟨fun i => ?_,fun all => ?_⟩
  · cases i with
    | zero => exact ⟨rfl,rfl,rfl⟩
    | succ i => exact ⟨rfl,rfl,rfl⟩
  · exact absurd (all.1 0 (by decide)) (by decide)

end DatabaseLayer.MySQLHandles
