import DatabaseLayer.PortableQueries
import DatabaseLayer.SQLiteLifetimes

/-! A query among all the other objects of a run. Whatever is done with those, its own calls are
answered as if there were none. -/
namespace DatabaseLayer.UndisturbedQueries
open Platform Foundation.Program Foundation.Run Foundation.Objects Foundation.Transcript PortableQueries

section SQLite
open SQLiteClient SQLiteSystem SQLiteBooks SQLiteHandles SQLiteTenures SQLiteLifetimes
variable (client : Client)

/-- The commands that neither call the query of this name nor take its statement from it. -/
def elsewhere (i : Nat) : Command → Bool
  | .query k _ | .destroyQuery k | .copyQuery _ k => k ≠ i
  | .assignQuery k j => k ≠ i && j ≠ i
  | _ => true

/-- The calls made on a statement so far, newest first. -/
def callsOn (id : Nat) (s : System) : History := s.world.log.filter (onStatement id)

theorem queryElsewhere {i : Nat} {cmd : Command} (apart : elsewhere i cmd) {s : System} {q : CppSQLite3Query}
    (live : s.queries i = some q) : (step client s cmd).queries i = some q := by
  cases cmd with
  | operate k j op =>
    simp only [step]
    split
    · rename_i free
      cases named : names op with
      | false =>
        rw [operatedNameless named]
        exact live
      | true =>
        cases CppSQLite3DB.perform client op ⟨s.world,s.databases k⟩ with
        | error e t => exact live
        | ok r t =>
          cases r with
          | query r => exact otherUpdate live (vacantApart live (free named).1) _
          | _ => exact live
    · exact live
  | newQuery k =>
    simp only [step]
    split
    · exact otherUpdate live (vacantApart live (by assumption)) _
    · exact live
  | copyQuery k j =>
    have source : j ≠ i := of_decide_eq_true apart
    simp only [step]
    split
    · rename_i free _
      exact otherCopied live (vacantApart live free) source _
    · exact live
  | assignQuery k j =>
    obtain ⟨target,source⟩ := Bool.and_eq_true_iff.mp apart
    simp only [step]
    split
    · exact live
    · split
      · exact otherAssigned live (of_decide_eq_true target) (of_decide_eq_true source) _
      · exact live
  | query k request | destroyQuery k =>
    have unlike : k ≠ i := of_decide_eq_true apart
    simp only [step]
    split
    · exact otherUpdate live unlike _
    · exact live
  | execQuery k j =>
    simp only [step]
    split
    · rename_i o free _
      cases CppSQLite3Statement.execQuery client ⟨s.world,o⟩ with
      | error e t => exact live
      | ok r t => exact otherUpdate live (vacantApart live free) _
    · exact live
  | newResultSet k | copyResultSet k j | nextRow k | seekRow k nRow | clearResultSet k | destroyResultSet k
  | newStatement k | copyStatement k j | statement k request | destroyStatement k =>
    simp only [step]
    split <;> exact live
  | assignResultSet k j | assignStatement k j =>
    simp only [step]
    split
    · exact live
    · split <;> exact live

theorem touchedElsewhere {i : Nat} {cmd : Command} (apart : elsewhere i cmd) {s : System} (sound : BooksSound s)
    {id : Nat} (own : heldStatement s (.query i) = some id) : touched s cmd ≠ some id := by
  intro same
  obtain ⟨h,names,holds⟩ := Option.bind_eq_some_iff.mp same
  obtain rfl : h = .query i := sound.statements.apart h (.query i) id holds own
  cases cmd with
  | query k request | destroyQuery k =>
    have unlike : k ≠ i := of_decide_eq_true apart
    simp [holder,unlike] at names
  | assignQuery k j =>
    have unlike : k ≠ i := of_decide_eq_true (Bool.and_eq_true_iff.mp apart).1
    simp [holder,unlike] at names
  | _ => simp [holder] at names

theorem callsElsewhere {i : Nat} {cmd : Command} (apart : elsewhere i cmd) {s : System} (sound : BooksSound s)
    {id : Nat} (own : heldStatement s (.query i) = some id) : callsOn id (step client s cmd) = callsOn id s := by
  obtain ⟨y,tenure⟩ := stepTenure client s cmd
  obtain ⟨new,added⟩ := tenureAdds tenure
  have below := sound.statements.below (.query i) id own
  have none : new.filter (onStatement id) = [] := by
    refine List.filter_eq_nil_iff.mpr fun e inside made => ?_
    rcases added.uses e inside id (of_decide_eq_true made) with touches | fresh
    · exact touchedElsewhere apart sound own touches
    · exact absurd below (Nat.not_lt.mpr fresh)
  unfold callsOn
  rw [added.log,List.filter_append,none,List.nil_append]

/-- At any point of any run a query is left alone for a while. Whatever is done with all other
objects, its database and the statement it came from among them, it is what it was, and no call
is made on its statement. -/
theorem statementUndisturbed (client : Client) (cmds : List Command) (i : Nat) (q : CppSQLite3Query)
    (live : (run (step client) .initial cmds).queries i = some q) (later : List Command)
    (apart : ∀ cmd ∈ later, elsewhere i cmd) :
    (run (step client) (run (step client) .initial cmds) later).queries i = some q ∧
    ∀ id, q.mpStmt = some id → callsOn id (run (step client) (run (step client) .initial cmds) later) =
      callsOn id (run (step client) .initial cmds) := by
  have sound : BooksSound (run (step client) .initial cmds) :=
    invariantRun (booksStep client) initialBooks.1 cmds
  generalize run (step client) .initial cmds = s at live sound ⊢
  induction later generalizing s with
  | nil => exact ⟨live,fun _ _ => rfl⟩
  | cons cmd later ih =>
    obtain ⟨first,rest⟩ := List.forall_mem_cons.mp apart
    obtain ⟨stays,calls⟩ := ih rest _ (queryElsewhere client first live) (booksStep client s cmd sound)
    refine ⟨stays,fun id held => ?_⟩
    have own : heldStatement s (.query i) = some id := by simp [heldStatement,live,held]
    exact (calls id held).trans (callsElsewhere client first sound own)

/-- The query is there after the second command. Its database is closed in vain, another query
runs on it and goes. -/
def opening : List Command := [.operate 0 0 (.openDB (text "d")),.operate 0 0 (.execQuery (text "select n"))]

def amidOthers : List Command :=
  [.operate 0 0 .close,.operate 0 1 (.execQuery (text "b")),.query 1 .nextRow,.destroyQuery 1]

theorem statementUndisturbedFirst :
    let client := SQLiteLoops.answering SQLiteReads.oneAndNull (by decide)
    (run (step client) (run (step client) .initial opening) amidOthers).queries 0 = some ⟨some 0,some 0,false,1⟩ ∧
      callsOn 0 (run (step client) (run (step client) .initial opening) amidOthers) =
        [⟨.step (some 0),SQLITE_ROW⟩] := by
  intro client
  have live : (run (step client) .initial opening).queries 0 = some ⟨some 0,some 0,false,1⟩ := rfl
  have apart : ∀ cmd ∈ amidOthers, elsewhere 0 cmd := by decide
  obtain ⟨stays,calls⟩ := statementUndisturbed client opening 0 _ live amidOthers apart
  exact ⟨stays,(calls 0 rfl).trans rfl⟩

end SQLite

section MySQL
open MySQLClient MySQLSystem MySQLRules MySQLHandles CppMySQLDB ExclusiveOwnership Foundation.Ledger
variable {client : Client} {x : Option Nat}

/-- More may be stored, and of the results before only this one may move. -/
structure Apart (x : Option Nat) (w v : World) : Prop where
  grows : w.nResults ≤ v.nResults
  others : ∀ res, res < w.nResults → x ≠ some res → v.results res = w.results res

theorem chainApart : Chain (Apart x) := by
  refine ⟨fun w => ⟨le_rfl,fun _ _ _ => rfl⟩,fun u v w first rest => ?_⟩
  refine ⟨first.grows.trans rest.grows,fun res old other => ?_⟩
  rw [rest.others res (Nat.lt_of_lt_of_le old first.grows) other,first.others res old other]

theorem apartOn {O : Type} : Chain (OnWorlds (O := O) (Apart x)) := chainOnWorlds chainApart

theorem apartStill {w v : World} (count : v.nResults = w.nResults) (results : v.results = w.results) : Apart x w v :=
  ⟨Nat.le_of_eq count.symm,fun _ _ _ => by rw [results]⟩

theorem apartSet {w v : World} (apart : Apart x w v) {res : Nat} (own : x = some res ∨ w.nResults ≤ res)
    (r : MysqlRes) : Apart x w (v.setRes res r) := by
  refine ⟨apart.grows,fun j old other => ?_⟩
  have unlike : j ≠ res := by
    rintro rfl
    rcases own with mine | fresh
    · exact other mine
    · omega
  rw [setResOther v r unlike]
  exact apart.others j old other

variable (client)

theorem storedApart (s : Scope World CppMySQLDB) : Apart none s.world (stored client s).2.world := by
  have asked : Apart none s.world (asked client s .storeResult).world := apartStill rfl rfl
  unfold stored
  cases (reply client s .storeResult).stored with
  | none => exact asked
  | some data =>
    obtain ⟨grows,others⟩ := apartSet asked (.inr (Nat.le_refl s.world.nResults)) ⟨data,data.rows⟩
    exact ⟨grows.trans (Nat.le_succ _),others⟩

theorem fetchedApart (szSQL : CString) (s : Scope World CppMySQLDB) :
    Apart none s.world (stored client (asked client s (.realQuery szSQL))).2.world := by
  have sent : Apart none s.world (asked client s (.realQuery szSQL)).world := apartStill rfl rfl
  exact chainApart.trans _ _ _ sent (storedApart client (asked client s (.realQuery szSQL)))

/-- Fetching a result moves that one at most. -/
theorem execQueryApart (szSQL : CString) (s : Scope World CppMySQLDB) :
    Apart none s.world (left (execQuery client szSQL s)).world := by
  have kept := fetchedApart client szSQL s
  rw [execQueryApply]
  split
  · dsimp only
    split
    · rw [CppMySQLQuery.ofRESApply]
      cases taken : (stored client (asked client s (.realQuery szSQL))).1 with
      | none => exact kept
      | some res =>
        obtain ⟨_,_,_,rfl⟩ := storedFresh client taken
        exact apartSet kept (.inr (Nat.le_refl s.world.nResults)) _
    · exact apartStill rfl rfl
  · exact chainApart.refl _

theorem getResultSetApart (szSQL : CString) (s : Scope World CppMySQLDB) :
    Apart none s.world (left (getResultSet client szSQL s)).world := by
  have kept := fetchedApart client szSQL s
  rw [getResultSetApply]
  split
  · dsimp only
    split
    · cases taken : (stored client (asked client s (.realQuery szSQL))).1 with
      | none => exact kept
      | some res =>
        obtain ⟨data,_,result,rfl⟩ := storedFresh client taken
        have moved := apartSet kept (.inr (Nat.le_refl s.world.nResults)) ⟨data,[]⟩
        rw [CppMySQLResultSet.ofRESApply _ data _ result]
        cases CppMySQLResultSet.fieldMap 0 data.fields <;> exact ⟨moved.grows,moved.others⟩
    · exact apartStill rfl rfl
  · exact chainApart.refl _

omit client in
theorem releasedApart (s : Scope World CppMySQLQuery) : Apart x s.world (CppMySQLQuery.released s) := by
  unfold CppMySQLQuery.released
  cases s.this.mpRES <;> exact apartStill rfl rfl

theorem execScalarApart (szSQL : CString) (nNullValue : Int) (s : Scope World CppMySQLDB) :
    Apart none s.world (left (execScalar client szSQL nNullValue s)).world := by
  have fetched := execQueryApart client szSQL s
  rw [execScalarApply]
  cases result : execQuery client szSQL s with
  | error e t =>
    rw [result] at fetched
    exact fetched
  | ok q t =>
    rw [result] at fetched
    simp only [leftLocal,scalarOfLeft,CppMySQLQuery.destroy,CppMySQLQuery.clearLeft,leftOk]
    exact chainApart.trans _ _ _ fetched (releasedApart ⟨t.world,q⟩)

theorem compileApart (szSQL : CString) (s : Scope World CppMySQLDB) :
    Apart none s.world (left (compileStatement client szSQL s)).world := by
  simp only [compileStatement,bindApply,handleApply,CppMySQLStatement.compileApply]
  cases s.this.mpDB with
  | none => exact chainApart.refl _
  | some conn =>
    dsimp only
    split
    · split <;> exact apartStill rfl rfl
    · exact apartStill rfl rfl

theorem requestApart (request : CppMySQLStatement.Request) (s : Scope World CppMySQLStatement) :
    Apart none s.world (left (CppMySQLStatement.perform client request s)).world := by
  by_cases clears : request = .clear
  · subst clears
    simp only [CppMySQLStatement.perform,CppMySQLStatement.clearApply]
    cases s.this.mpStmt <;> exact apartStill rfl rfl
  · exact settlesLeft (CppMySQLStatement.settlesRequest apartOn (fun _ _ _ _ => apartStill rfl rfl)
      (fun _ _ _ => apartStill rfl rfl) (fun _ _ _ _ => apartStill rfl rfl) clears) s

theorem operationApart {op : Operation} (plain : namesObject op = false) (s : Scope World CppMySQLDB) :
    Apart none s.world (left (perform client op s)).world := by
  have quiet : op.quiet → Apart none s.world (left (perform client op s)).world := fun quiet =>
    settlesLeft (settlesQuiet apartOn (fun _ _ _ _ => apartStill rfl rfl) (fun _ _ => apartStill rfl rfl)
      (fun _ _ _ => apartStill rfl rfl) quiet) s
  cases op with
  | execQuery szSQL | getResultSet szSQL | compileStatement szSQL => cases plain
  | execScalar szSQL nNullValue =>
    simp only [perform,leftBindPure]
    exact execScalarApart client szSQL nNullValue s
  | tableExists szTable =>
    simp only [perform,leftBindPure,tableExistsApply]
    split
    · split
      · exact chainApart.refl _
      · simp only [leftBindPure]
        exact execScalarApart client _ 0 s
    · exact chainApart.refl _
  | execDML | startTransaction | createDB | dropDB =>
    rw [(unfetchedLeft client rfl s).1,ranUnfetched]
    split
    · exact chainApart.refl _
    · dsimp only
      split <;> exact apartStill rfl rfl
  | _ => exact quiet rfl

/-- The result a command fetches from or seeks in, besides one it stores. -/
def touchedResult (s : System) : Command → Option Nat
  | .nextRow i | .seekRow i _ => (s.queries i).bind CppMySQLQuery.mpRES
  | .assignQuery _ j => (s.queries j).bind CppMySQLQuery.mpRES
  | _ => none

theorem stepApart (s : System) (c : Command) : Apart (touchedResult s c) s.world (step client s c).world := by
  have still : Apart (touchedResult s c) s.world s.world := chainApart.refl _
  cases c with
  | execQuery mpDB i szSQL =>
    simp only [step]
    split
    · simp only [System.setQueries,createdWorld]
      exact execQueryApart client szSQL (s.on mpDB)
    · exact still
  | execScalar mpDB szSQL nNullValue => exact execScalarApart client szSQL nNullValue (s.on mpDB)
  | getResultSet mpDB i szSQL =>
    simp only [step]
    split
    · simp only [System.setResultSets,createdWorld]
      exact getResultSetApart client szSQL (s.on mpDB)
    · exact still
  | compileStatement mpDB i szSQL =>
    simp only [step]
    split
    · simp only [System.setStatements,createdWorld]
      exact compileApart client szSQL (s.on mpDB)
    · exact still
  | assignQuery i j =>
    simp only [step]
    split
    · exact still
    · split
      · rename_i q r _ source
        have freed : Apart (touchedResult s (.assignQuery i j)) s.world (CppMySQLQuery.released ⟨s.world,q⟩) :=
          releasedApart ⟨s.world,q⟩
        simp only [System.setQueries,CppMySQLQuery.assignApply,assigned]
        cases held : r.mpRES with
        | none => exact freed
        | some res => exact apartSet freed (.inl (by simp [touchedResult,source,held])) _
      · exact still
  | clearQuery i =>
    simp only [step]
    split
    · rename_i q _
      simp only [System.setQueries,used,CppMySQLQuery.clearLeft,leftOk]
      exact releasedApart ⟨s.world,q⟩
    · exact still
  | destroyQuery i =>
    simp only [step]
    split
    · rename_i q _
      simp only [System.setQueries,CppMySQLQuery.destroy,CppMySQLQuery.clearLeft,leftOk]
      exact releasedApart ⟨s.world,q⟩
    · exact still
  | nextRow i =>
    cases live : s.queries i with
    | none => simpa only [step,live] using still
    | some q =>
      simp only [step,live,System.setQueries,used,CppMySQLQuery.nextRowApply,touchedResult,Option.bind_some]
      cases held : q.mpRES with
      | none => exact chainApart.refl _
      | some res =>
        dsimp only
        split
        · exact chainApart.refl _
        · exact apartSet (chainApart.refl _) (.inl rfl) _
  | seekRow i offerset =>
    cases live : s.queries i with
    | none => simpa only [step,live] using still
    | some q =>
      simp only [step,live,System.setQueries,used,CppMySQLQuery.seekRowApply,touchedResult,Option.bind_some]
      cases held : q.mpRES with
      | none => exact chainApart.refl _
      | some res => exact apartSet (chainApart.refl _) (.inl rfl) _
  | statement i request =>
    simp only [step]
    split
    · exact requestApart client request ⟨s.world,_⟩
    · exact still
  | destroyStatement i =>
    simp only [step]
    split
    · exact requestApart client .clear ⟨s.world,_⟩
    · exact still
  | newQuery i | newResultSet i | newStatement i | copyQuery i j | copyResultSet i j | copyStatement i j =>
    simp only [step]
    split <;> exact still
  | clearResultSet i | destroyResultSet i =>
    simp only [step,CppMySQLResultSet.clearApply]
    split
    · exact apartStill rfl rfl
    · exact still
  | assignResultSet i j =>
    simp only [step,CppMySQLResultSet.assignApply]
    split
    · exact still
    · split
      · exact apartStill rfl rfl
      · exact still
  | assignStatement i j =>
    simp only [step]
    split
    · exact still
    · split <;> exact still

/-- The same of an event. An operation that names no object touches only what it stores. -/
def touchedBy (s : System) : Event → Option Nat
  | .command c => touchedResult s c
  | .operation _ _ => none

theorem eventApart (s : System) (e : Event) :
    Apart (touchedBy s e) s.world (ExclusiveOwnership.mysqlStep client s e).world := by
  cases e with
  | command c => exact stepApart client s c
  | operation mpDB op =>
    simp only [ExclusiveOwnership.mysqlStep]
    split
    · exact chainApart.refl _
    · rename_i plain
      exact operationApart client (Bool.eq_false_iff.mpr plain) (s.on mpDB)

/-- What a query holds was not freed, so neither was the result the next event fetches from or
seeks in, whichever it is; all others stay as they are. -/
theorem freedUntouched (client : Client) (events : List Event) :
    Throughout (ExclusiveOwnership.mysqlStep client) (fun s =>
      (∀ i res, (resultBook s).held i = some res → times (.freeResult res) s.world.log = 0) ∧
      ∀ e, (∀ res, touchedBy s e = some res → times (.freeResult res) s.world.log = 0) ∧
        ∀ res, res < s.world.nResults → touchedBy s e ≠ some res →
          (ExclusiveOwnership.mysqlStep client s e).world.results res = s.world.results res) (.initial .initial) events := by
  refine throughoutMono (fun s sound => ?_) (invariantThroughout mysqlStepSound mysqlInitialSound events)
  have unfreed := sound.results.unreleased
  refine ⟨unfreed,fun e => ⟨fun res touched => ?_,(eventApart client s e).others⟩⟩
  cases e with
  | operation mpDB op => cases touched
  | command c =>
    cases c with
    | nextRow i | seekRow i offerset => exact unfreed i res touched
    | assignQuery i j => exact unfreed j res touched
    | _ => cases touched

/-- The events that neither call the query of this name nor take its result from it. -/
def mysqlElsewhere (i : Nat) : Event → Bool
  | .command (.clearQuery k) | .command (.nextRow k) | .command (.seekRow k _) => k ≠ i
  | .command (.destroyQuery k) | .command (.copyQuery _ k) => k ≠ i
  | .command (.assignQuery k j) => k ≠ i && j ≠ i
  | _ => true

theorem mysqlQueryElsewhere {i : Nat} {e : Event} (apart : mysqlElsewhere i e) {s : System} {q : CppMySQLQuery}
    (live : s.queries i = some q) : (ExclusiveOwnership.mysqlStep client s e).queries i = some q := by
  cases e with
  | operation mpDB op =>
    simp only [ExclusiveOwnership.mysqlStep]
    split <;> exact live
  | command c =>
    simp only [ExclusiveOwnership.mysqlStep]
    cases c with
    | execQuery mpDB k szSQL =>
      simp only [step]
      split
      · exact otherCreated live (by assumption) _
      · exact live
    | newQuery k =>
      simp only [step]
      split
      · exact otherUpdate live (vacantApart live (by assumption)) _
      · exact live
    | copyQuery k j =>
      have source : j ≠ i := of_decide_eq_true apart
      simp only [step]
      split
      · rename_i free _
        exact otherCopied live (vacantApart live free) source _
      · exact live
    | assignQuery k j =>
      obtain ⟨target,source⟩ := Bool.and_eq_true_iff.mp apart
      simp only [step]
      split
      · exact live
      · split
        · exact otherAssigned live (of_decide_eq_true target) (of_decide_eq_true source) _
        · exact live
    | clearQuery k | nextRow k | seekRow k offerset | destroyQuery k =>
      have unlike : k ≠ i := of_decide_eq_true apart
      simp only [step]
      split
      · exact otherUpdate live unlike _
      · exact live
    | _ =>
      rw [MySQLRows.queriesKept client s rfl]
      exact live

theorem resultElsewhere {i : Nat} {e : Event} (apart : mysqlElsewhere i e) {s : System} (sound : MySQLBooks Sound s)
    {res : Nat} (own : (resultBook s).held i = some res) :
    (ExclusiveOwnership.mysqlStep client s e).world.results res = s.world.results res := by
  refine (eventApart client s e).others res (sound.results.below i res own) fun touched => ?_
  cases e with
  | operation mpDB op => cases touched
  | command c =>
    cases c with
    | nextRow k | seekRow k offerset =>
      have unlike : k ≠ i := of_decide_eq_true apart
      exact unlike (sound.results.apart k i res touched own)
    | assignQuery k j =>
      have unlike : j ≠ i := of_decide_eq_true (Bool.and_eq_true_iff.mp apart).2
      exact unlike (sound.results.apart j i res touched own)
    | _ => cases touched

section Calls
open CppMySQLQuery
open ColumnNames (wrapUInt)

/-- The calls of the interface the queries share, and those only this class has. -/
inductive QueryCall where
  | shared (request : Request)
  | numRows
  | fieldDataType (nCol : Int)
  | seekRow (offerset : Nat)
  deriving DecidableEq, Repr

variable (atof : CString → UInt64)

def invoke : QueryCall → Op CppMySQLQuery Answer
  | .shared request => mysqlPerform atof request
  | .numRows => do return .int (← numRows)
  | .fieldDataType nCol => do return .int (← fieldDataType nCol)
  | .seekRow offerset => do return .int (← seekRow offerset)

/-- What a call returns, or what it throws. -/
def outcome {σ : Type} : EStateM.Result Stop σ Answer → Except Stop Answer
  | .ok answer _ => .ok answer
  | .error e _ => .error e

/-- A query with no others around it. -/
def alone (s : Scope World CppMySQLQuery) (call : QueryCall) : Except Stop Answer × Scope World CppMySQLQuery :=
  (outcome (invoke atof call s),left (invoke atof call s))

/-- The command a call is, if it moves anything. -/
def command (i : Nat) : QueryCall → Option Command
  | .shared .nextRow => some (.nextRow i)
  | .shared .clear => some (.clearQuery i)
  | .seekRow offerset => some (.seekRow i offerset)
  | _ => none

/-- The same call on the query of this name. Behind the cells of its row lies whatever memory
holds. -/
def ask (memory : System → List Cell) (i : Nat) (s : System) (call : QueryCall) : Except Stop Answer × System :=
  ((s.queries i).elim (.error .undefined) (fun q => (alone atof ⟨s.world,MySQLFields.amid q (memory s)⟩ call).1),
    (command i call).elim s (step client s))

/-- A cell is read where there is one: in the row the query is on, of the result it holds. -/
def InRow (s : Scope World CppMySQLQuery) : QueryCall → Prop
  | .shared (.fieldValue field) | .shared (.getIntField field _) | .shared (.getDoubleField field _)
  | .shared (.getStringField field _) => match field with
    | .index nField => MySQLFields.cellIn s.this nField ≠ none
    | .name szField => ∀ c t, fieldIndex szField s = .ok c t → MySQLFields.cellIn s.this c ≠ none
  | .shared (.fieldDataIsNull nField) => MySQLFields.cellIn s.this nField ≠ none
  | _ => True

section Columns
variable {f : Scope World CppMySQLQuery → Scope World CppMySQLQuery}

/-- A change around the result the object holds. -/
structure Around (f : Scope World CppMySQLQuery → Scope World CppMySQLQuery) : Prop where
  held : ∀ s, (f s).this.mpRES = s.this.mpRES
  count : ∀ s, (f s).this.mNumFields = s.this.mNumFields
  result : ∀ s res, s.this.mpRES = some res → (f s).world.results res = s.world.results res

theorem blindRaise {α : Type} (nErrCode : Int) (szErrMess : CString) :
    Blind f (raise nErrCode szErrMess : Op CppMySQLQuery α) := blindThrow _

theorem blindCheckRES (around : Around f) : Blind f checkRES :=
  blindRead (fun s => by rw [around.held s]) fun _ => blindIte (blindRaise _ _) (blindPure _)

/-- Of the results a query reads its own only. -/
theorem blindFields (around : Around f) {α : Type} (offset : Nat) {k : List MysqlField → Op CppMySQLQuery α}
    (rest : ∀ fields, Blind f (k fields)) :
    Blind f (do k (← mysqlFieldSeek (← CppMySQLQuery.handle) offset)) := by
  intro s
  have same := around.held s
  cases held : s.this.mpRES with
  | none =>
    rw [held] at same
    simp only [CppMySQLQuery.handle,bindApply,getApply,same,held,undefinedApply]
    rfl
  | some res =>
    rw [held] at same
    simp only [CppMySQLQuery.handle,mysqlFieldSeek,bindApply,getApply,pureApply,same,held,around.result s res held]
    exact rest _ s

theorem blindFieldIndexFrom (szField : CString) (n nField : Nat) (cursor : List MysqlField) :
    Blind f (fieldIndexFrom szField nField n cursor) := by
  induction n generalizing nField cursor with
  | zero => exact blindPure none
  | succ n ih =>
    cases cursor with
    | nil => exact ih _ _
    | cons mField cursor =>
      unfold fieldIndexFrom
      cases mField.name with
      | none => exact blindThrow _
      | some name => exact blindIte (blindPure _) (ih _ _)

theorem blindFieldIndex (around : Around f) (szField : Option CString) : Blind f (fieldIndex szField) := by
  refine blindBind (blindCheckRES around) fun _ => ?_
  cases szField
  case' none => refine blindBind (blindPure none) fun found => ?_
  case' some name =>
    refine blindRead (fun s => by rw [around.count s]) fun s => blindFields around 0 fun cursor => ?_
    refine blindBind (blindFieldIndexFrom name _ 0 cursor) fun found => ?_
  all_goals
    cases found with
    | some nField => exact blindPure _
    | none => exact blindRaise _ _

theorem blindFieldName (around : Around f) (nCol : Int) : Blind f (fieldName nCol) := by
  refine blindBind (blindCheckRES around) fun _ => blindFields around _ fun fields => ?_
  cases fields with
  | nil => exact blindRaise _ _
  | cons mField _ => exact blindPure _

theorem blindFieldDataType (around : Around f) (nCol : Int) : Blind f (fieldDataType nCol) := by
  refine blindBind (blindCheckRES around) fun _ => blindRead (fun s => by rw [around.count s]) fun _ => ?_
  refine blindIte (blindRaise _ _) (blindFields around _ fun fields => ?_)
  cases fields with
  | nil => exact blindRaise _ _
  | cons mField _ => exact blindPure _

end Columns

section Grafting
variable {w : World}

/-- The object with its own result, in another world. -/
def graft (w : World) (s : Scope World CppMySQLQuery) : Scope World CppMySQLQuery :=
  ⟨s.this.mpRES.elim w (fun res => w.setRes res (s.world.results res)),s.this⟩

theorem graftHeld {s : Scope World CppMySQLQuery} {res : Nat} (held : s.this.mpRES = some res) :
    graft w s = ⟨w.setRes res (s.world.results res),s.this⟩ := by
  rw [graft,held]
  rfl

theorem graftAround : Around (graft w) := by
  refine ⟨fun _ => rfl,fun _ => rfl,fun s res held => ?_⟩
  rw [graftHeld held]
  exact setResSelf w res _

theorem setResTwice (w : World) (res : Nat) (r r' : MysqlRes) : (w.setRes res r).setRes res r' = w.setRes res r' := by
  simp [World.setRes]

theorem blindNextRow : Blind (graft w) nextRow := by
  intro s
  rw [nextRowApply,nextRowApply]
  cases held : s.this.mpRES with
  | none =>
    simp only [show (graft w s).this.mpRES = none from held]
    rfl
  | some res =>
    rw [graftHeld held]
    simp only [held,setResSelf,setResTwice]
    cases (s.world.results res).dataCursor <;> simp only [changed,graft,Option.elim_some,setResSelf]

theorem blindSeekRow (offerset : Nat) : Blind (graft w) (seekRow offerset) := by
  intro s
  rw [seekRowApply,seekRowApply]
  cases held : s.this.mpRES with
  | none =>
    simp only [show (graft w s).this.mpRES = none from held]
    rfl
  | some res =>
    rw [graftHeld held]
    simp only [held,World.seekRes,World.fetched,setResSelf,setResTwice,changed,graft,Option.elim_some]

theorem blindFunnels {α : Type} {m : Op CppMySQLQuery α} {c : Int} {value : Cell → Except CppMySQLException α}
    (funnels : MySQLFields.Funnels m c value) : Blind (graft w) m := by
  intro s
  rw [funnels s,funnels (graft w s),show (graft w s).this = s.this from rfl]
  cases MySQLFields.found s.this c with
  | none => rfl
  | some cell =>
    simp only [Option.map_some]
    cases value cell <;> rfl

theorem blindNamed {α : Type} {f : Int → Op CppMySQLQuery α} {value : Cell → Except CppMySQLException α}
    (wrap : α → Answer) (funnels : ∀ c, MySQLFields.Funnels (f c) c value) (szField : Option CString) :
    Blind (graft w) (do return wrap (← (do f (← fieldIndex szField)))) :=
  blindBind (blindBind (blindFieldIndex graftAround szField) fun c => blindFunnels (funnels c)) fun _ => blindPure _

/-- No call looks at any other result, and none but clear at anything else of the world. -/
theorem blindInvoke {call : QueryCall} (stays : call ≠ .shared .clear) : Blind (graft w) (invoke atof call) := by
  have wrapped {α : Type} {m : Op CppMySQLQuery α} {c : Int} {value : Cell → Except CppMySQLException α}
      (wrap : α → Answer) (funnels : MySQLFields.Funnels m c value) : Blind (graft w) (do return wrap (← m)) :=
    blindBind (blindFunnels funnels) fun _ => blindPure _
  cases call with
  | numRows => exact blindBind (blindRead (fun _ => rfl) fun _ => blindPure _) fun _ => blindPure _
  | fieldDataType nCol => exact blindBind (blindFieldDataType graftAround nCol) fun _ => blindPure _
  | seekRow offerset => exact blindBind (blindSeekRow offerset) fun _ => blindPure _
  | shared request =>
    cases request with
    | clear => exact absurd rfl stays
    | numFields | eof => exact blindBind (blindRead (fun _ => rfl) fun _ => blindPure _) fun _ => blindPure _
    | nextRow => exact blindBind blindNextRow fun _ => blindPure _
    | fieldIndex szField => exact blindBind (blindFieldIndex graftAround szField) fun _ => blindPure _
    | fieldName nCol => exact blindBind (blindFieldName graftAround nCol) fun _ => blindPure _
    | fieldDataIsNull nField => exact wrapped .bool (MySQLFields.nullFunnels nField)
    | fieldValue field =>
      cases field with
      | index nField => exact wrapped (fun a => .text (some a)) (MySQLFields.valueFunnels nField)
      | name szField => exact blindNamed (fun a => .text (some a)) MySQLFields.valueFunnels szField
    | getIntField field nNullValue =>
      cases field with
      | index nField => exact wrapped .int (MySQLFields.intFunnels nField nNullValue)
      | name szField => exact blindNamed .int (fun c => MySQLFields.intFunnels c 0) szField
    | getDoubleField field fNullValue =>
      cases field with
      | index nField => exact wrapped .double (MySQLFields.doubleFunnels atof nField fNullValue)
      | name szField => exact blindNamed .double (fun c => MySQLFields.doubleFunnels atof c 0) szField
    | getStringField field szNullValue =>
      cases field with
      | index nField => exact wrapped .text (MySQLFields.stringOrFunnels nField szNullValue)
      | name szField => exact blindNamed .text (fun c => MySQLFields.stringOrFunnels c (some default)) szField

end Grafting

section Memory
open MySQLFields
variable {u : Scope World CppMySQLQuery} {α : Type} {m : Op CppMySQLQuery α} {c : Int}
  {value : Cell → Except CppMySQLException α} {f : Int → Op CppMySQLQuery α}

def amidst (beyond : List Cell) (s : Scope World CppMySQLQuery) : Scope World CppMySQLQuery := ⟨s.world,amid s.this beyond⟩

theorem amidstAround (beyond : List Cell) : Around (amidst beyond) := ⟨fun _ => rfl,fun _ => rfl,fun _ _ _ => rfl⟩

theorem outcomeBlind {g : Scope World CppMySQLQuery → Scope World CppMySQLQuery} {m : Op CppMySQLQuery Answer}
    (blind : Blind g m) (u : Scope World CppMySQLQuery) : outcome (m (g u)) = outcome (m u) := by
  rw [blind u]
  cases m u <;> rfl

theorem funnelsAmid (wrap : α → Answer) (funnels : Funnels m c value) (there : cellIn u.this c ≠ none)
    (beyond : List Cell) :
    outcome ((do return wrap (← m) : Op CppMySQLQuery Answer) (amidst beyond u)) =
      outcome ((do return wrap (← m) : Op CppMySQLQuery Answer) u) := by
  have same : found (amidst beyond u).this c = found u.this c := foundAmid there beyond
  simp only [bindApply,funnels u,funnels (amidst beyond u),same]
  cases found u.this c with
  | none => rfl
  | some cell =>
    simp only [Option.map_some]
    cases value cell <;> rfl

theorem namedAmid (wrap : α → Answer) (funnels : ∀ c, Funnels (f c) c value) {szField : Option CString}
    (there : ∀ c t, fieldIndex szField u = .ok c t → cellIn u.this c ≠ none) (beyond : List Cell) :
    outcome ((do return wrap (← (do f (← fieldIndex szField))) : Op CppMySQLQuery Answer) (amidst beyond u)) =
      outcome ((do return wrap (← (do f (← fieldIndex szField))) : Op CppMySQLQuery Answer) u) := by
  have blind := blindFieldIndex (amidstAround beyond) szField u
  cases has : fieldIndex szField u with
  | error e t =>
    simp only [bindApply,blind,has,changed]
    rfl
  | ok c t =>
    obtain rfl : t = u := settlesReturned (settlesFieldIndex (E := fun _ => True) szField) has
    have read := funnelsAmid wrap (funnels c) (there c t has) beyond
    simp only [bindApply] at read
    simp only [bindApply,blind,has,changed]
    exact read

/-- What lies behind the cells of the row does not show where a cell is read that there is. -/
theorem aloneAmid {call : QueryCall} (inRow : InRow u call) (beyond : List Cell) :
    (alone atof (amidst beyond u) call).1 = (alone atof u call).1 := by
  have around := amidstAround beyond
  unfold alone
  cases call with
  | numRows => rfl
  | fieldDataType nCol => exact outcomeBlind (blindBind (blindFieldDataType around nCol) fun _ => blindPure _) u
  | seekRow offerset =>
    simp only [invoke,bindApply,seekRowApply,amidst,amid]
    cases u.this.mpRES <;> rfl
  | shared request =>
    cases request with
    | numFields => rfl
    | eof =>
      have same : ((amidst beyond u).this.mRow = none) = (u.this.mRow = none) := propext Option.map_eq_none_iff
      simp only [invoke,mysqlPerform,eof,bindApply,getApply,pureApply,same,outcome]
    | clear =>
      simp only [invoke,mysqlPerform,bindApply,clearLeft]
      rfl
    | nextRow =>
      simp only [invoke,mysqlPerform,bindApply,nextRowApply,amidst,amid]
      cases u.this.mpRES <;> rfl
    | fieldIndex szField => exact outcomeBlind (blindBind (blindFieldIndex around szField) fun _ => blindPure _) u
    | fieldName nCol => exact outcomeBlind (blindBind (blindFieldName around nCol) fun _ => blindPure _) u
    | fieldDataIsNull nField => exact funnelsAmid .bool (nullFunnels nField) inRow beyond
    | fieldValue field =>
      cases field with
      | index nField => exact funnelsAmid (fun a => .text (some a)) (valueFunnels nField) inRow beyond
      | name szField => exact namedAmid (fun a => .text (some a)) valueFunnels inRow beyond
    | getIntField field nNullValue =>
      cases field with
      | index nField => exact funnelsAmid .int (intFunnels nField nNullValue) inRow beyond
      | name szField => exact namedAmid .int (fun c => intFunnels c 0) inRow beyond
    | getDoubleField field fNullValue =>
      cases field with
      | index nField => exact funnelsAmid .double (doubleFunnels atof nField fNullValue) inRow beyond
      | name szField => exact namedAmid .double (fun c => doubleFunnels atof c 0) inRow beyond
    | getStringField field szNullValue =>
      cases field with
      | index nField => exact funnelsAmid .text (stringOrFunnels nField szNullValue) inRow beyond
      | name szField => exact namedAmid .text (fun c => stringOrFunnels c (some default)) inRow beyond

end Memory

/-- The object with its own result, in whatever world. -/
structure Alike (s u : Scope World CppMySQLQuery) : Prop where
  this : s.this = u.this
  result : ∀ res, u.this.mpRES = some res → s.world.results res = u.world.results res

theorem graftAlike (w : World) (u : Scope World CppMySQLQuery) : Alike (graft w u) u :=
  ⟨rfl,graftAround.result u⟩

theorem alikeGraft {s u : Scope World CppMySQLQuery} (alike : Alike s u) : s = graft s.world u := by
  obtain ⟨w,q⟩ := s
  obtain ⟨rfl,result⟩ := alike
  cases held : u.this.mpRES with
  | none => simp [graft,held]
  | some res =>
    rw [graftHeld held,← result res held]
    simp [World.setRes]

theorem aloneAlike {s u : Scope World CppMySQLQuery} (alike : Alike s u) (call : QueryCall) :
    (alone atof s call).1 = (alone atof u call).1 ∧ Alike (alone atof s call).2 (alone atof u call).2 := by
  unfold alone
  by_cases clears : call = .shared .clear
  · subst clears
    simp only [invoke,mysqlPerform,bindApply,clearLeft]
    exact ⟨rfl,congrArg (fun q : CppMySQLQuery => {q with mpRES := none}) alike.this,fun res held => by cases held⟩
  · have blind := blindInvoke atof (w := s.world) clears u
    rw [← alikeGraft alike] at blind
    rw [blind]
    cases invoke atof call u with
    | ok a t => exact ⟨rfl,graftAlike s.world t⟩
    | error e t => exact ⟨rfl,graftAlike s.world t⟩

theorem aloneStill (i : Nat) {call : QueryCall} (reads : command i call = none) (u : Scope World CppMySQLQuery) :
    (alone atof u call).2 = u := by
  unfold alone
  cases call with
  | numRows => rfl
  | seekRow offerset => cases reads
  | fieldDataType nCol =>
    have same := chainEq (id : Scope World CppMySQLQuery → _)
    have still : Settles (fun _ => False) (fun s t => id t = id s) (fieldDataType nCol) := by
      refine settlesBind same settlesCheckRES fun _ => settlesBind same (settlesGet same) fun _ => ?_
      refine settlesIte (fun _ => settlesRaise same _ _) fun _ => settlesBind same settlesHandle fun _ => ?_
      refine settlesBind same ⟨fun _ => rfl⟩ fun fields => ?_
      cases fields with
      | nil => exact settlesRaise same _ _
      | cons mField _ => exact settlesPure same _
    simp only [invoke,leftBindPure]
    exact settlesLeft still u
  | shared request =>
    refine readStill atof ?_ u
    cases request with
    | nextRow | clear => cases reads
    | _ => rfl

/-- A call that moves the query is the command there is for it. -/
theorem commandLeft {i : Nat} {call : QueryCall} {c : Command} (moves : command i call = some c) {s : System}
    {q : CppMySQLQuery} (live : s.queries i = some q) :
    (step client s c).queries i = some (alone atof ⟨s.world,q⟩ call).2.this ∧
      (step client s c).world = (alone atof ⟨s.world,q⟩ call).2.world := by
  have put {α : Type} {r : EStateM.Result Stop (Scope World CppMySQLQuery) α} {t : Scope World CppMySQLQuery}
      (same : left r = t) : (s.setQueries (used s.queries i r)).queries i = some t.this ∧
        (s.setQueries (used s.queries i r)).world = t.world := by
    subst same
    exact ⟨Function.update_self i _ s.queries,rfl⟩
  cases call with
  | numRows | fieldDataType nCol => cases moves
  | seekRow offerset =>
    cases moves
    simp only [step,live]
    exact put (leftBindPure _ _ _).symm
  | shared request =>
    cases request with
    | nextRow | clear =>
      cases moves
      simp only [step,live]
      exact put (leftBindPure _ _ _).symm
    | _ => cases moves

/-- The query of this name is the one that stands alone. -/
structure Here (i : Nat) (s : System) (u : Scope World CppMySQLQuery) : Prop where
  sound : MySQLBooks Sound s
  live : s.queries i = some u.this
  result : ∀ res, u.this.mpRES = some res → s.world.results res = u.world.results res

theorem hereElsewhere {i : Nat} (s : System) (u : Scope World CppMySQLQuery) (e : Event) (here : Here i s u)
    (apart : mysqlElsewhere i e) : Here i (ExclusiveOwnership.mysqlStep client s e) u := by
  refine ⟨mysqlStepSound s e here.sound,mysqlQueryElsewhere client apart here.live,fun res held => ?_⟩
  have own : (resultBook s).held i = some res := by simp [resultBook,here.live,held]
  exact (resultElsewhere client apart here.sound own).trans (here.result res held)

theorem asked (memory : System → List Cell) (i : Nat) :
    Answers (Here i) InRow (ask client atof memory i) (alone atof) := by
  refine ⟨fun s u call here inRow => ?_,fun s u call here _ => ?_⟩
  · simp only [ask,here.live,Option.elim_some]
    rw [← aloneAmid atof inRow (memory s)]
    have alike : Alike ⟨s.world,MySQLFields.amid u.this (memory s)⟩ (amidst (memory s) u) := ⟨rfl,here.result⟩
    exact (aloneAlike atof alike call).1
  · have alike : Alike ⟨s.world,u.this⟩ u := ⟨rfl,here.result⟩
    obtain ⟨this,result⟩ := (aloneAlike atof alike call).2
    cases moves : command i call with
    | none =>
      rw [aloneStill atof i moves u]
      simp only [ask,moves]
      exact here
    | some c =>
      have sound : MySQLBooks Sound (step client s c) := commandSound c here.sound
      obtain ⟨there,world⟩ := commandLeft client atof moves here.live
      simp only [ask,moves]
      exact ⟨sound,there.trans (congrArg some this),fun res held => world ▸ result res held⟩

end Calls

/-- At any point of any run a query is used, by whatever calls, while commands on all other
objects and operations of any database come in between. Each call returns or throws what it does
where there is nothing but the query, whatever lies in memory behind the cells of its row. -/
theorem mysqlUndisturbed (client : Client) (atof : CString → UInt64) (memory : System → List Cell)
    (events : List Event) (i : Nat) (q : CppMySQLQuery)
    (live : (run (ExclusiveOwnership.mysqlStep client) (.initial .initial) events).queries i = some q)
    (later : List (QueryCall ⊕ Event)) (apart : ∀ e, .inr e ∈ later → mysqlElsewhere i e)
    (inRow : Guarded (after (alone atof)) InRow
      ⟨(run (ExclusiveOwnership.mysqlStep client) (.initial .initial) events).world,q⟩ (own later)) :
    interleaved (ask client atof memory i) (ExclusiveOwnership.mysqlStep client)
        (run (ExclusiveOwnership.mysqlStep client) (.initial .initial) events) later =
      transcript (alone atof) ⟨(run (ExclusiveOwnership.mysqlStep client) (.initial .initial) events).world,q⟩ (own later) := by
  have sound := invariantRun (@mysqlStepSound client) mysqlInitialSound events
  exact interleavedAgree (asked client atof memory i) (hereElsewhere client) ⟨sound,live,fun _ _ => rfl⟩ apart inRow

def selecting : List Event :=
  [.operation (some 0) (.openDB (text "d")),.command (.execQuery (some 0) 0 (text "select n"))]

/-- The query goes to its end and back while another one is run on its database and moved, that
one is closed, and the other query goes. -/
def amidCommands : List (QueryCall ⊕ Event) :=
  [.inl (.shared (.getIntField (.name (some (text "n"))) 0)),.inr (.command (.execQuery (some 0) 1 (text "b"))),
    .inl (.shared .nextRow),.inr (.command (.seekRow 1 1)),.inl .numRows,.inl (.shared .nextRow),.inl (.shared .eof),
    .inr (.operation (some 0) .close),.inl (.seekRow 9),.inl (.shared (.getStringField (.index 0) none)),
    .inr (.command (.destroyQuery 1)),.inl (.fieldDataType 1),.inl (.shared .clear),
    .inl (.shared (.fieldValue (.name (some (text "n")))))]

theorem amidCommandsApart : ∀ e, .inr e ∈ amidCommands → mysqlElsewhere 0 e := by
  intro e inside
  simp only [amidCommands,List.mem_cons,reduceCtorEq,Sum.inr.injEq,List.not_mem_nil,or_false,false_or] at inside
  rcases inside with rfl | rfl | rfl | rfl <;> rfl

theorem mysqlUndisturbedOneAndNull :
    let client := Client.yielding oneAndNullStored
    interleaved (ask client (fun _ => 0) (fun _ => [some (text "x")]) 0) (ExclusiveOwnership.mysqlStep client)
        (run (ExclusiveOwnership.mysqlStep client) (.initial .initial) selecting) amidCommands =
      [.ok (.int 1),.ok .unit,.ok (.int 2),.ok .unit,.ok (.bool true),.ok (.int 1),.ok (.text none),
        .error (.thrown (exception CPPMYSQL_QUERY_ERROR (some (text "Invalid field index requested")))),.ok .unit,
        .error (.thrown (exception CPPMYSQL_QUERY_ERROR (some (text "MYSQL_RES not inited"))))] := by
  intro client
  have live : (run (ExclusiveOwnership.mysqlStep client) (.initial .initial) selecting).queries 0 =
      some ⟨some 0,some ⟨0,[some (text "1")]⟩,2,1⟩ := rfl
  have inRow : Guarded (after (alone fun _ => 0)) InRow
      ⟨(run (ExclusiveOwnership.mysqlStep client) (.initial .initial) selecting).world,
        some 0,some ⟨0,[some (text "1")]⟩,2,1⟩ (own amidCommands) := by
    simp only [amidCommands,own,guardedCons,guardedNil,and_true]
    refine ⟨fun c t named => ?_,trivial,trivial,trivial,trivial,trivial,?_,trivial,trivial,fun c t named => ?_⟩
    · cases named
      decide +kernel
    · show MySQLFields.cellIn _ 0 ≠ none
      decide +kernel
    · cases named.symm.trans (CppMySQLQuery.fieldIndexUninited _ (by decide +kernel))
  rw [mysqlUndisturbed client (fun _ => 0) (fun _ => [some (text "x")]) selecting 0 _ live amidCommands amidCommandsApart inRow]
  decide +kernel

end MySQL

end DatabaseLayer.UndisturbedQueries
