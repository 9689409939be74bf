import DatabaseLayer.SQLiteBooks

/-! Who finalizes, frees and closes what: each command is one action on each of the three
books, and only an overwritten statement object or a reopened database loses a handle. -/
namespace DatabaseLayer.SQLiteHandles
open Platform SQLiteClient Foundation.Program Foundation.Objects Foundation.Run Foundation.Ledger SQLiteRules SQLiteSystem
open SQLiteBooks
open CppSQLite3DB (Returned)

section Operated
variable {client : Client} {s : System} {k i : Nat} {op : CppSQLite3DB.Operation}

/-- What has no object in it. -/
def plain : Returned → Bool
  | .unit | .bool _ | .int _ => true
  | _ => false

theorem plainReturned (nameless : names op = false) {u t : Scope World CppSQLite3DB} {r : Returned}
    (returns : CppSQLite3DB.perform client op u = .ok r t) : plain r = true := by
  have mapped {α : Type} {m : Op CppSQLite3DB α} {g : α → Returned} (all : ∀ a, plain (g a) = true)
      (returns : (do let a ← m; return g a : Op CppSQLite3DB Returned) u = .ok r t) : plain r = true := by
    rw [bindApply] at returns
    cases result : m u with
    | ok a v =>
      rw [result] at returns
      cases returns
      exact all a
    | error e v =>
      rw [result] at returns
      cases returns
  cases op with
  | execQuery szSQL | getResultSet szSQL | compileStatement szSQL => cases nameless
  | _ => exact mapped (fun _ => rfl) returns

theorem operatedNameless (nameless : names op = false) (u : Scope World CppSQLite3DB) :
    s.operated k i (CppSQLite3DB.perform client op u) = s.setDatabase k (left (CppSQLite3DB.perform client op u)) := by
  cases result : CppSQLite3DB.perform client op u with
  | error e t => rfl
  | ok r t =>
    have nothing := plainReturned nameless result
    cases r with
    | unit | bool _ | int _ => rfl
    | _ => cases nothing

theorem operatedWorld (r : EStateM.Result Stop (Scope World CppSQLite3DB) Returned) :
    (s.operated k i r).world = (left r).world := by
  cases r with
  | ok r t => cases r <;> rfl
  | error e t => rfl

theorem operatedConnections (r : EStateM.Result Stop (Scope World CppSQLite3DB) Returned) :
    heldConnection (s.operated k i r) = Function.update (heldConnection s) (some k) (left r).this.mpDB := by
  have databases : (s.operated k i r).databases = Function.update s.databases k (left r).this := by
    cases r with
    | ok r t => cases r <;> rfl
    | error e t => rfl
  funext o
  cases o with
  | none => simp [heldConnection]
  | some j =>
    by_cases own : j = k
    · subst own
      simp [heldConnection,databases]
    · simp [heldConnection,databases,own]

section Named
variable (vacant : s.Vacant i) (r : EStateM.Result Stop (Scope World CppSQLite3DB) Returned)
include vacant

theorem operatedStatements : ∃ h, heldStatement s h = none ∧
    heldStatement (s.operated k i r) = Function.update (heldStatement s) h (given stmtOf r) := by
  have query : heldStatement s (.query i) = none := by simp [heldStatement,vacant.1]
  have statement : heldStatement s (.statement i) = none := by simp [heldStatement,vacant.2.2]
  have nothing : heldStatement s = Function.update (heldStatement s) (.query i) none :=
    (Function.update_eq_self_iff.mpr query.symm).symm
  cases r with
  | error e t => exact ⟨.query i,query,nothing⟩
  | ok r t =>
    cases r with
    | query q =>
      refine ⟨.query i,query,funext fun h => ?_⟩
      cases h with
      | query j => by_cases own : j = i <;> simp [own,System.operated,System.place,System.setDatabase,heldStatement,given,stmtOf]
      | statement j => rfl
    | statement o =>
      refine ⟨.statement i,statement,funext fun h => ?_⟩
      cases h with
      | statement j => by_cases own : j = i <;> simp [own,System.operated,System.place,System.setDatabase,heldStatement,given,stmtOf]
      | query j => rfl
    | _ => exact ⟨.query i,query,nothing⟩

theorem operatedTables : heldTable s i = none ∧
    heldTable (s.operated k i r) = Function.update (heldTable s) i (given tableIn r) := by
  have free : heldTable s i = none := by simp [heldTable,vacant.2.1]
  have nothing : heldTable s = Function.update (heldTable s) i none := (Function.update_eq_self_iff.mpr free.symm).symm
  refine ⟨free,?_⟩
  cases r with
  | error e t => exact nothing
  | ok r t =>
    cases r with
    | resultSet r => exact bindUpdate s.resultSets i (some r) tableOf
    | _ => exact nothing

end Named

theorem givenNameless {f : Returned → Option Nat} (nothing : ∀ r, plain r = true → f r = none)
    (nameless : names op = false) (u : Scope World CppSQLite3DB) :
    given f (CppSQLite3DB.perform client op u) = none := by
  cases result : CppSQLite3DB.perform client op u with
  | error e t => rfl
  | ok r t => exact nothing r (plainReturned nameless result)

end Operated

section Held
variable (s : System) (w : World) (i : Nat)

theorem queriesPut (x : Option CppSQLite3Query) :
    heldStatement (s.setQueries (w,Function.update s.queries i x)) =
      Function.update (heldStatement s) (.query i) (x.bind CppSQLite3Query.mpStmt) := by
  funext h
  cases h with
  | statement j => rfl
  | query j => by_cases own : j = i <;> simp [heldStatement,System.setQueries,own]

theorem statementsPut (x : Option CppSQLite3Statement) :
    heldStatement (s.setStatements (w,Function.update s.statements i x)) =
      Function.update (heldStatement s) (.statement i) (x.bind CppSQLite3Statement.mpStmt) := by
  funext h
  cases h with
  | query j => rfl
  | statement j => by_cases own : j = i <;> simp [heldStatement,System.setStatements,own]

theorem queriesCopied (j : Nat) {a b : CppSQLite3Query} (emptied : b.mpStmt = none) :
    heldStatement (s.setQueries (w,copied s.queries i j (a,b))) =
      Function.update (Function.update (heldStatement s) (.query j) none) (.query i) a.mpStmt := by
  have first := queriesPut s w j (some b)
  rw [Option.bind_some,emptied] at first
  rw [← first]
  exact queriesPut (s.setQueries (w,Function.update s.queries j (some b))) w i (some a)

theorem statementsCopied (j : Nat) {a b : CppSQLite3Statement} (emptied : b.mpStmt = none) :
    heldStatement (s.setStatements (w,copied s.statements i j (a,b))) =
      Function.update (Function.update (heldStatement s) (.statement j) none) (.statement i) a.mpStmt := by
  have first := statementsPut s w j (some b)
  rw [Option.bind_some,emptied] at first
  rw [← first]
  exact statementsPut (s.setStatements (w,Function.update s.statements j (some b))) w i (some a)

end Held

/-- A command that does not overwrite a statement object that holds a statement. -/
def KeepsStatements (s : System) : Command → Prop
  | .assignStatement i j => i ≠ j → s.statements j ≠ none → heldStatement s (.statement i) = none
  | _ => True

/-- A command that does not open a database that has a connection. -/
def KeepsConnections (s : System) : Command → Prop
  | .operate k _ (.openDB _) => (s.databases k).mpDB = none
  | _ => True

section StatementSteps
variable {client : Client} {s t : System}

theorem statementKept (same : statements.Same s.world t.world) (held : heldStatement t = heldStatement s) :
    (statementBook s).Safe (statementBook t) :=
  ⟨.keep,Kind.bookSame same held,id⟩

theorem statementReleased {h : Holder} {x : Option Nat} (gone : statements.Released x s.world t.world)
    (own : heldStatement s h = x) (held : heldStatement t = Function.update (heldStatement s) h none) :
    (statementBook s).Safe (statementBook t) := by
  refine ⟨.release h,?_,id⟩
  unfold statementBook
  rw [held]
  exact Kind.bookReleased gone own

theorem statementStill : (statementBook s).Safe (statementBook s) := statementKept (Kind.chainSame.refl _) rfl

variable (client s)

theorem operateStatement (k i : Nat) (op : CppSQLite3DB.Operation) :
    (statementBook s).Safe (statementBook (step client s (.operate k i op))) := by
  simp only [step]
  split
  · rename_i free
    have obtained := operationStatements client op ⟨s.world,s.databases k⟩
    by_cases named : names op = true
    · obtain ⟨h,empty,held⟩ := operatedStatements (k := k) (free named)
        (CppSQLite3DB.perform client op ⟨s.world,s.databases k⟩)
      unfold statementBook
      rw [operatedWorld,held]
      exact Kind.bookObtained obtained empty
    · have nameless := (Bool.not_eq_true _).mp named
      have nothing : given stmtOf (CppSQLite3DB.perform client op ⟨s.world,s.databases k⟩) = none :=
        givenNameless (fun r plain => by cases r <;> first | rfl | cases plain) nameless _
      rw [nothing] at obtained
      rw [operatedNameless nameless]
      exact Kind.bookUnheld obtained (heldStatement s)
  · exact statementStill

theorem copyQueryStatement (i j : Nat) :
    (statementBook s).Safe (statementBook (step client s (.copyQuery i j))) := by
  simp only [step]
  split
  · rename_i q free source
    refine ⟨.move (.query i) (.query j),?_,fun loses => loses.2 ?_⟩
    · have own : heldStatement s (.query j) = q.mpStmt := by simp [heldStatement,source]
      refine (congrArg (statements.book s.world) (queriesCopied s _ i j rfl)).trans ?_
      exact own ▸ Kind.bookMoved (Kind.chainSame.refl _)
    · simp [statementBook,Kind.book,heldStatement,free]
  · exact statementStill

/-- Assigning to a query finalizes what it holds; it takes over only if that went well. -/
theorem assignQueryStatement (i j : Nat) :
    (statementBook s).Safe (statementBook (step client s (.assignQuery i j))) := by
  simp only [step]
  split
  · exact statementStill
  · rename_i apart
    split
    · rename_i q r target source
      have own : heldStatement s (.query i) = q.mpStmt := by simp [heldStatement,target]
      obtain ⟨gone,emptied⟩ := clearFinalizes client ⟨s.world,q⟩
      rw [assignQueryApply]
      dsimp only
      cases swallow (CppSQLite3Query.clear client) ⟨s.world,q⟩ with
      | error e t =>
        refine statementReleased gone own ((queriesPut s _ i _).trans ?_)
        rw [Option.bind_some,emptied]
      | ok a t =>
        refine ⟨.replace (.query i) (.query j),?_,id⟩
        have other : heldStatement s (.query j) = r.mpStmt := by simp [heldStatement,source]
        have away : Holder.query j ≠ .query i := fun same => apart (Holder.query.inj same).symm
        refine (congrArg (statements.book _) (queriesCopied s _ i j rfl)).trans ?_
        exact other ▸ Kind.bookReplaced away gone own
    · exact statementStill

theorem queryStatement (i : Nat) (request : CppSQLite3Query.Request) :
    (statementBook s).Safe (statementBook (step client s (.query i request))) := by
  simp only [step]
  split
  · rename_i q live
    have own : heldStatement s (.query i) = q.mpStmt := by simp [heldStatement,live]
    obtain ⟨same,holds⟩ | ⟨gone,emptied⟩ := queryKeepsOrFinalizes client request ⟨s.world,q⟩
    · refine statementKept same ((queriesPut s _ i _).trans ?_)
      rw [Option.bind_some,holds,← own]
      exact Function.update_eq_self _ _
    · refine statementReleased gone own ((queriesPut s _ i _).trans ?_)
      rw [Option.bind_some,emptied]
  · exact statementStill

theorem copyStatementStatement (i j : Nat) :
    (statementBook s).Safe (statementBook (step client s (.copyStatement i j))) := by
  simp only [step]
  split
  · rename_i o free source
    refine ⟨.move (.statement i) (.statement j),?_,fun loses => loses.2 ?_⟩
    · have own : heldStatement s (.statement j) = o.mpStmt := by simp [heldStatement,source]
      refine (congrArg (statements.book s.world) (statementsCopied s _ i j rfl)).trans ?_
      exact own ▸ Kind.bookMoved (Kind.chainSame.refl _)
    · simp [statementBook,Kind.book,heldStatement,free]
  · exact statementStill

theorem assignStatementStatement (i j : Nat) :
    ∃ a, statementBook (step client s (.assignStatement i j)) = (statementBook s).act a ∧
      (KeepsStatements s (.assignStatement i j) ↔ ¬ (statementBook s).Loses a) := by
  simp only [step,KeepsStatements]
  split
  · rename_i same
    exact ⟨.keep,rfl,iff_of_true (fun apart => absurd same apart) id⟩
  · rename_i apart
    split
    · rename_i o r target source
      refine ⟨.move (.statement i) (.statement j),?_,?_⟩
      · have own : heldStatement s (.statement j) = r.mpStmt := by simp [heldStatement,source]
        refine (congrArg (statements.book s.world) (statementsCopied s _ i j rfl)).trans ?_
        exact own ▸ Kind.bookMoved (Kind.chainSame.refl _)
      · simp [Book.Loses,apart,source,statementBook,Kind.book]
    · rename_i absent
      refine ⟨.keep,rfl,iff_of_true (fun _ present => ?_) id⟩
      obtain ⟨r,source⟩ := Option.ne_none_iff_exists'.mp present
      cases target : s.statements i with
      | none => simp [heldStatement,target]
      | some o => exact absurd source (absent o r target)

theorem requestStatement (i : Nat) (request : CppSQLite3Statement.Request) :
    (statementBook s).Safe (statementBook (step client s (.statement i request))) := by
  simp only [step]
  split
  · rename_i o live
    have own : heldStatement s (.statement i) = o.mpStmt := by simp [heldStatement,live]
    by_cases clears : request = .clear
    · subst clears
      obtain ⟨gone,emptied⟩ := clearStatement client ⟨s.world,o⟩
      refine statementReleased gone own ((statementsPut s _ i _).trans ?_)
      rw [Option.bind_some]
      exact congrArg _ emptied
    · have same : statements.Same s.world (left (CppSQLite3Statement.perform client request ⟨s.world,o⟩)).world := by
        refine settlesLeft (CppSQLite3Statement.settlesRequest Kind.chainSame request fun c w v makes called =>
          Kind.calledSame ?_ called) ⟨s.world,o⟩
        cases request with
        | clear => exact absurd rfl clears
        | _ => cases c <;> first | rfl | cases makes
      refine statementKept same ((statementsPut s _ i _).trans ?_)
      rw [Option.bind_some,requestKeeps client clears,← own]
      exact Function.update_eq_self _ _
  · exact statementStill

theorem execQueryStatement (i k : Nat) :
    (statementBook s).Safe (statementBook (step client s (.execQuery i k))) := by
  simp only [step]
  split
  · rename_i o free live
    have own : heldStatement s (.statement k) = o.mpStmt := by simp [heldStatement,live]
    have same : statements.Same s.world (left (CppSQLite3Statement.execQuery client ⟨s.world,o⟩)).world :=
      settlesLeft (CppSQLite3Statement.settlesExecQuery Kind.chainSame
        (fun _ _ _ called => Kind.calledSame (by rfl) called)
        fun _ _ _ called => Kind.calledSame (by rfl) called) ⟨s.world,o⟩
    have hands := runHands client ⟨s.world,o⟩
    cases result : CppSQLite3Statement.execQuery client ⟨s.world,o⟩ with
    | error e t =>
      rw [result] at same hands
      refine statementKept same ((statementsPut s _ k _).trans ?_)
      rw [Option.bind_some,hands,← own]
      exact Function.update_eq_self _ _
    | ok q t =>
      rw [result] at same hands
      refine ⟨.move (.query i) (.statement k),?_,fun loses => loses.2 ?_⟩
      · have first := statementsPut s t.world k (some t.this)
        rw [Option.bind_some,hands.2] at first
        have held := queriesPut (s.setStatements (t.world,Function.update s.statements k (some t.this))) t.world i (some q)
        rw [first,Option.bind_some,hands.1,← own] at held
        exact (congrArg (statements.book t.world) held).trans (Kind.bookMoved same)
      · simp [statementBook,Kind.book,heldStatement,free]
  · exact statementStill

/-- Each command is one action on the statements, and loses one only by overwriting it. -/
theorem statementStep (cmd : Command) : ∃ a, statementBook (step client s cmd) = (statementBook s).act a ∧
    (KeepsStatements s cmd ↔ ¬ (statementBook s).Loses a) := by
  have still : statements.Same s.world s.world := Kind.chainSame.refl _
  have done {t : System} (safe : (statementBook s).Safe (statementBook t)) :
      ∃ a, statementBook t = (statementBook s).act a ∧ (True ↔ ¬ (statementBook s).Loses a) := by
    obtain ⟨a,book,kept⟩ := safe
    exact ⟨a,book,iff_of_true trivial kept⟩
  cases cmd with
  | assignStatement i j => exact assignStatementStatement client s i j
  | operate k i op => exact done (operateStatement client s k i op)
  | copyQuery i j => exact done (copyQueryStatement client s i j)
  | assignQuery i j => exact done (assignQueryStatement client s i j)
  | query i request => exact done (queryStatement client s i request)
  | copyStatement i j => exact done (copyStatementStatement client s i j)
  | statement i request => exact done (requestStatement client s i request)
  | execQuery i k => exact done (execQueryStatement client s i k)
  | newQuery i =>
    refine done ?_
    simp only [step]
    split
    · rename_i free
      refine statementKept still ((queriesPut s _ i _).trans ?_)
      exact Function.update_eq_self_iff.mpr (by simp [heldStatement,free,CppSQLite3Query.new])
    · exact statementStill
  | destroyQuery i =>
    refine done ?_
    simp only [step]
    split
    · rename_i q live
      exact statementReleased (clearFinalizes client ⟨s.world,q⟩).1 (by simp [heldStatement,live]) (queriesPut s _ i _)
    · exact statementStill
  | newStatement i =>
    refine done ?_
    simp only [step]
    split
    · rename_i free
      refine statementKept still ((statementsPut s _ i _).trans ?_)
      exact Function.update_eq_self_iff.mpr (by simp [heldStatement,free,CppSQLite3Statement.new])
    · exact statementStill
  | destroyStatement i =>
    refine done ?_
    simp only [step]
    split
    · rename_i o live
      exact statementReleased (clearStatement client ⟨s.world,o⟩).1 (by simp [heldStatement,live]) (statementsPut s _ i _)
    · exact statementStill
  | newResultSet i | copyResultSet i j | nextRow i | seekRow i nRow =>
    refine done ?_
    simp only [step]
    split <;> exact statementKept still rfl
  | clearResultSet i | destroyResultSet i | assignResultSet i j =>
    refine done (statementKept (Kind.stepSame client s fun c makes => by cases c <;> first | rfl | cases makes) ?_)
    simp only [step]
    repeat (first | rfl | split)

end StatementSteps

section TableSteps
variable {client : Client} {s t : System}

theorem tableKept (same : tables.Same s.world t.world) (held : heldTable t = heldTable s) :
    (tableBook s).Safe (tableBook t) :=
  ⟨.keep,Kind.bookSame same held,id⟩

theorem tableStill : (tableBook s).Safe (tableBook s) := tableKept (Kind.chainSame.refl _) rfl

variable (s) in
theorem tablePut (i : Nat) (x : Option CppSQLite3ResultSet) :
    (fun k => (Function.update s.resultSets i x k).bind tableOf) = Function.update (heldTable s) i (x.bind tableOf) :=
  bindUpdate s.resultSets i x tableOf

theorem tableReleased {i : Nat} {r : CppSQLite3ResultSet} (live : s.resultSets i = some r)
    (gone : tables.Released (tableOf r) s.world t.world) (held : heldTable t = Function.update (heldTable s) i none) :
    (tableBook s).Safe (tableBook t) := by
  refine ⟨.release i,?_,id⟩
  unfold tableBook
  rw [held]
  exact Kind.bookReleased gone (by simp [heldTable,live])

theorem tableMoved {i : Nat} {r next : CppSQLite3ResultSet} (live : s.resultSets i = some r)
    (same : tableOf next = tableOf r) :
    (tableBook s).Safe (tableBook {s with resultSets := Function.update s.resultSets i (some next)}) := by
  refine tableKept (Kind.chainSame.refl _) ((tablePut s i (some next)).trans ?_)
  exact Function.update_eq_self_iff.mpr (by simp [heldTable,live,same])

variable (client s)

theorem operateTable (k i : Nat) (op : CppSQLite3DB.Operation) :
    (tableBook s).Safe (tableBook (step client s (.operate k i op))) := by
  simp only [step]
  split
  · rename_i free
    have obtained := operationTables client op ⟨s.world,s.databases k⟩
    by_cases named : names op = true
    · obtain ⟨empty,held⟩ := operatedTables (k := k) (free named)
        (CppSQLite3DB.perform client op ⟨s.world,s.databases k⟩)
      unfold tableBook
      rw [operatedWorld,held]
      exact Kind.bookObtained obtained empty
    · have nameless := (Bool.not_eq_true _).mp named
      have nothing : given tableIn (CppSQLite3DB.perform client op ⟨s.world,s.databases k⟩) = none :=
        givenNameless (fun r plain => by cases r <;> first | rfl | cases plain) nameless _
      rw [nothing] at obtained
      rw [operatedNameless nameless]
      exact Kind.bookUnheld obtained (heldTable s)
  · exact tableStill

theorem assignTable (i j : Nat) : (tableBook s).Safe (tableBook (step client s (.assignResultSet i j))) := by
  simp only [step]
  split
  · exact tableStill
  · rename_i apart
    split
    · rename_i q r target source
      have own : heldTable s i = tableOf q := by simp [heldTable,target]
      have other : heldTable s j = tableOf r := by simp [heldTable,source]
      obtain ⟨gone,emptied⟩ := clearTable ⟨s.world,q⟩
      rw [← leftSwallow] at gone emptied
      simp only [CppSQLite3ResultSet.assign,bindApply]
      cases result : swallow CppSQLite3ResultSet.clear ⟨s.world,q⟩ with
      | error e t =>
        rw [result] at gone emptied
        refine tableReleased target gone ((tablePut s i _).trans ?_)
        rw [Option.bind_some]
        exact congrArg _ emptied
      | ok a t =>
        rw [result] at gone
        refine ⟨.replace i j,?_,id⟩
        refine (congrArg (tables.book t.world) (copiedHeld s.resultSets i j _ _ tableOf rfl)).trans ?_
        exact other ▸ Kind.bookReplaced (Ne.symm apart) gone own
    · exact tableStill

theorem tableStep (cmd : Command) : (tableBook s).Safe (tableBook (step client s cmd)) := by
  cases cmd with
  | operate k i op => exact operateTable client s k i op
  | assignResultSet i j => exact assignTable client s i j
  | newResultSet i =>
    simp only [step]
    split
    · rename_i free
      refine tableKept (Kind.chainSame.refl _) ((tablePut s i _).trans ?_)
      exact Function.update_eq_self_iff.mpr (by simp [heldTable,free,CppSQLite3ResultSet.new,tableOf])
    · exact tableStill
  | copyResultSet i j =>
    simp only [step]
    split
    · rename_i r free source
      refine ⟨.move i j,?_,fun loses => loses.2 (by simp [tableBook,Kind.book,heldTable,free])⟩
      have own : heldTable s j = tableOf r := by simp [heldTable,source]
      refine (congrArg (tables.book s.world) (copiedHeld s.resultSets i j _ _ tableOf rfl)).trans ?_
      exact own ▸ Kind.bookMoved (Kind.chainSame.refl _)
    · exact tableStill
  | nextRow i =>
    simp only [step]
    split
    · exact tableMoved (by assumption) (by simp only [tableOf,CppSQLite3ResultSet.nextRow,
        CppSQLite3ResultSet.setCurrentRowResults])
    · exact tableStill
  | seekRow i nRow =>
    simp only [step]
    split
    · exact tableMoved (by assumption) (by simp only [tableOf,CppSQLite3ResultSet.seekRow,
        CppSQLite3ResultSet.setCurrentRowResults])
    · exact tableStill
  | clearResultSet i =>
    simp only [step]
    split
    · rename_i r live
      obtain ⟨gone,emptied⟩ := clearTable ⟨s.world,r⟩
      refine tableReleased live gone ((tablePut s i _).trans ?_)
      rw [Option.bind_some,emptied]
    · exact tableStill
  | destroyResultSet i =>
    simp only [step]
    split
    · rename_i r live
      exact tableReleased live (clearTable ⟨s.world,r⟩).1 (tablePut s i none)
    · exact tableStill
  | newQuery i | copyQuery i j | newStatement i | copyStatement i j =>
    simp only [step]
    split <;> exact tableKept (Kind.chainSame.refl _) rfl
  | query i request | destroyQuery i | destroyStatement i | assignStatement i j | assignQuery i j =>
    refine tableKept (Kind.stepSame client s fun c makes => by cases c <;> first | rfl | cases makes) ?_
    simp only [step]
    repeat (first | rfl | split)
  | statement i request =>
    refine tableKept (Kind.stepSame client s fun c makes => ?_) ?_
    · cases request <;> cases c <;> first | rfl | cases makes
    · simp only [step]
      split <;> rfl
  | execQuery i k =>
    refine tableKept (Kind.stepSame client s fun c makes => by cases c <;> first | rfl | cases makes) ?_
    simp only [step]
    split
    · cases CppSQLite3Statement.execQuery client ⟨s.world,_⟩ <;> rfl
    · rfl

end TableSteps

section ConnectionSteps
variable (client : Client) (s : System)

theorem connectionKept {s t : System} (same : connections.Same s.world t.world) (held : heldConnection t = heldConnection s) :
    (connectionBook s).Safe (connectionBook t) :=
  ⟨.keep,Kind.bookSame same held,id⟩

theorem openConnection (k i : Nat) (szFile : CString) :
    ∃ a, connectionBook (step client s (.operate k i (.openDB szFile))) = (connectionBook s).act a ∧
      (KeepsConnections s (.operate k i (.openDB szFile)) ↔ ¬ (connectionBook s).Loses a) := by
  have own : heldConnection s (some k) = (s.databases k).mpDB := rfl
  have free : names (.openDB szFile) → s.Vacant i := fun hands => absurd hands Bool.false_ne_true
  obtain ⟨counts,connects⟩ := openConnects client szFile ⟨s.world,s.databases k⟩
  simp only [step,KeepsConnections]
  rw [if_pos free]
  unfold connectionBook
  rw [operatedWorld,operatedConnections]
  simp only [CppSQLite3DB.perform,leftBindPure]
  obtain ⟨issued,handle⟩ | ⟨issued,handle⟩ := connects
  · rw [handle]
    refine ⟨.issue (some k),Book.ext issued (funext counts) rfl,?_⟩
    simp [Book.Loses,Kind.book,own]
  · rw [handle]
    refine ⟨.move (some k) none,?_,?_⟩
    · have idle : Function.update (heldConnection s) none none = heldConnection s :=
        Function.update_eq_self_iff.mpr rfl
      have moved : connections.book _ (Function.update (Function.update (heldConnection s) none none) (some k) none)
          = (connectionBook s).move (some k) none := Kind.bookMoved ⟨issued,counts⟩
      rw [idle] at moved
      exact moved
    · simp [Book.Loses,Kind.book,own]

/-- No other operation loses a connection; close releases it, or leaves it where it is. -/
theorem operateConnection (k i : Nat) {op : CppSQLite3DB.Operation} (apart : ∀ szFile, op ≠ .openDB szFile) :
    (connectionBook s).Safe (connectionBook (step client s (.operate k i op))) := by
  have own : heldConnection s (some k) = (s.databases k).mpDB := rfl
  simp only [step]
  by_cases free : names op → s.Vacant i
  · rw [if_pos free]
    unfold connectionBook
    rw [operatedWorld,operatedConnections]
    by_cases closes : op = .close
    · subst closes
      simp only [CppSQLite3DB.perform,leftBindPure]
      obtain ⟨same,this⟩ | ⟨gone,handle⟩ := closeDisconnects client ⟨s.world,s.databases k⟩
      · refine ⟨.keep,Kind.bookSame same ?_,id⟩
        rw [this]
        exact Function.update_eq_self_iff.mpr own.symm
      · refine ⟨.release (some k),?_,id⟩
        rw [handle]
        exact Kind.bookReleased gone own
    · have same : connections.Same s.world (left (CppSQLite3DB.perform client op ⟨s.world,s.databases k⟩)).world := by
        refine operationSame client (fun c makes => ?_) _
        cases op with
        | openDB szFile => exact absurd rfl (apart szFile)
        | close => exact absurd rfl closes
        | _ => cases c <;> first | rfl | cases makes
      refine ⟨.keep,Kind.bookSame same ?_,id⟩
      rw [operationKeeps client apart closes]
      exact Function.update_eq_self_iff.mpr own.symm
  · rw [if_neg free]
    exact ⟨.keep,rfl,id⟩

/-- Each command is one action on the connections, and loses one only by opening over it. -/
theorem connectionStep (cmd : Command) : ∃ a, connectionBook (step client s cmd) = (connectionBook s).act a ∧
    (KeepsConnections s cmd ↔ ¬ (connectionBook s).Loses a) := by
  by_cases opens : ∃ k i szFile, cmd = .operate k i (.openDB szFile)
  · obtain ⟨k,i,szFile,rfl⟩ := opens
    exact openConnection client s k i szFile
  have fine : KeepsConnections s cmd := by
    cases cmd with
    | operate k i op =>
      cases op with
      | openDB szFile => exact absurd ⟨k,i,szFile,rfl⟩ opens
      | _ => trivial
    | _ => trivial
  suffices safe : (connectionBook s).Safe (connectionBook (step client s cmd)) by
    obtain ⟨a,book,kept⟩ := safe
    exact ⟨a,book,iff_of_true fine kept⟩
  by_cases operates : ∃ k i op, cmd = .operate k i op
  · obtain ⟨k,i,op,rfl⟩ := operates
    exact operateConnection client s k i fun szFile same => opens ⟨k,i,szFile,by rw [same]⟩
  have databases : (step client s cmd).databases = s.databases := by
    cases cmd with
    | operate k i op => exact absurd ⟨k,i,op,rfl⟩ operates
    | execQuery i k =>
      simp only [step]
      split
      · cases CppSQLite3Statement.execQuery client ⟨s.world,_⟩ <;> rfl
      · rfl
    | _ =>
      simp only [step]
      repeat (first | rfl | split)
  refine connectionKept (Kind.stepSame client s fun c makes => ?_) (by unfold heldConnection; rw [databases])
  cases cmd with
  | operate k i op => exact absurd ⟨k,i,op,rfl⟩ operates
  | statement i request => cases request <;> cases c <;> first | rfl | cases makes
  | _ => cases c <;> first | rfl | cases makes

end ConnectionSteps

section Conservation
variable (client : Client)

def NothingLost (s : System) (cmd : Command) : Prop := KeepsStatements s cmd ∧ KeepsConnections s cmd

/-- Every handle not yet released has an owner; and with no query, result set or statement
left, every statement is finalized and none keeps a connection from being closed. -/
structure Conserved (s : System) : Prop where
  statements : Accounted (statementBook s)
  tables : Accounted (tableBook s)
  connections : Accounted (connectionBook s)
  closable : (∀ i, s.Vacant i) →
    (∀ id, id < s.world.nStmts → s.world.finalized id = true) ∧ ∀ conn, s.world.busy conn = false

structure BooksSound (s : System) : Prop where
  statements : Sound (statementBook s)
  tables : Sound (tableBook s)
  connections : Sound (connectionBook s)

theorem booksStep (s : System) (cmd : Command) (sound : BooksSound s) : BooksSound (step client s cmd) := by
  obtain ⟨a,statements,_⟩ := statementStep client s cmd
  obtain ⟨b,tables,_⟩ := tableStep client s cmd
  obtain ⟨c,connections,_⟩ := connectionStep client s cmd
  exact ⟨statements ▸ soundAct sound.statements a,tables ▸ soundAct sound.tables b,
    connections ▸ soundAct sound.connections c⟩

theorem finalizedOnce {w : World} {id : Nat} (once : statements.count id w.log = 1) : w.finalized id = true := by
  obtain ⟨e,inside,released⟩ := List.countP_pos_iff.mp (show 0 < statements.count id w.log by omega)
  exact List.any_eq_true.mpr ⟨e,inside,released⟩

theorem allFinalized {s : System} (sound : Sound (statementBook s)) (accounted : Accounted (statementBook s))
    (vacant : ∀ i, s.Vacant i) :
    (∀ id, id < s.world.nStmts → s.world.finalized id = true) ∧ ∀ conn, s.world.busy conn = false := by
  have empty : ∀ h, (statementBook s).held h = none := by
    intro h
    cases h with
    | query i => simp [statementBook,Kind.book,heldStatement,(vacant i).1]
    | statement i => simp [statementBook,Kind.book,heldStatement,(vacant i).2.2]
  have all : ∀ id, id < s.world.nStmts → s.world.finalized id = true := fun id below =>
    finalizedOnce ((accountedIffReleased sound empty).mp accounted id below)
  refine ⟨all,fun conn => ?_⟩
  rw [World.busy,List.any_eq_false]
  intro id inside
  simp [all id (List.mem_range.mp inside)]

theorem conservedIff {s : System} (sound : Sound (statementBook s)) : Conserved s ↔
    Accounted (statementBook s) ∧ Accounted (tableBook s) ∧ Accounted (connectionBook s) :=
  ⟨fun h => ⟨h.statements,h.tables,h.connections⟩,
    fun h => ⟨h.1,h.2.1,h.2.2,allFinalized sound h.1⟩⟩

theorem conservedStep (s : System) (cmd : Command) (sound : BooksSound s) (now : Conserved s) :
    Conserved (step client s cmd) ↔ NothingLost s cmd := by
  rw [conservedIff (booksStep client s cmd sound).statements]
  obtain ⟨a,statements,keepsStatements⟩ := statementStep client s cmd
  obtain ⟨b,tables,safe⟩ := tableStep client s cmd
  obtain ⟨c,connections,keepsConnections⟩ := connectionStep client s cmd
  rw [statements,tables,connections,accountedAct sound.statements now.statements,accountedAct sound.tables now.tables,
    accountedAct sound.connections now.connections,← keepsStatements,← keepsConnections]
  exact and_congr_right fun _ => and_iff_right safe

theorem initialBooks : BooksSound .initial ∧ Conserved .initial := by
  have statements := freshSound (l := statementBook .initial) rfl (fun _ => rfl) fun h => by cases h <;> rfl
  have tables := freshSound (l := tableBook .initial) rfl (fun _ => rfl) fun _ => rfl
  have connections := freshSound (l := connectionBook .initial) rfl (fun _ => rfl) fun o => by cases o <;> rfl
  exact ⟨⟨statements.1,tables.1,connections.1⟩,
    (conservedIff statements.1).mpr ⟨statements.2,tables.2,connections.2⟩⟩

/-- Every statement, table and connection not released yet has an owner throughout a run exactly
when the run neither assigns over a statement object that holds a statement nor opens a
database that has a connection. -/
theorem conservedIffNothingLost (cmds : List Command) :
    Throughout (step client) Conserved .initial cmds ↔ Guarded (step client) NothingLost .initial cmds :=
  throughoutIffGuarded (booksStep client) (fun s cmd sound now => conservedStep client s cmd sound now)
    initialBooks.1 initialBooks.2 cmds

end Conservation

/-- Two statements, of which one is assigned over the other; then both objects go. -/
def overwriting : List Command :=
  [.operate 0 0 (.openDB (text "d")),.operate 0 0 (.compileStatement (text "a")),
    .operate 0 1 (.compileStatement (text "b")),.assignStatement 1 0,.destroyStatement 0,.destroyStatement 1]

/-- The statement that was assigned over keeps the database from being closed. -/
theorem overwrittenStatement :
    let s := run (step .obliging) .initial overwriting
    (∀ i, s.Vacant i) ∧ s.world.busy 0 = true ∧
      ¬ Throughout (step .obliging) Conserved .initial overwriting := by
  have vacant : ∀ i, (run (step .obliging) .initial overwriting).Vacant i := by
    intro i
    match i with
    | 0 => exact ⟨rfl,rfl,rfl⟩
    | 1 => exact ⟨rfl,rfl,rfl⟩
    | i + 2 => exact ⟨rfl,rfl,rfl⟩
  have busy : (run (step .obliging) .initial overwriting).world.busy 0 = true := by decide
  refine ⟨vacant,busy,fun conserved => ?_⟩
  have free := ((throughoutLast conserved).closable vacant).2 0
  rw [busy] at free
  cases free

end DatabaseLayer.SQLiteHandles
