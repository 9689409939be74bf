import DatabaseLayer.ExclusiveOwnership
import DatabaseLayer.MySQLProtocol

/-! Statements that hold nothing: default-constructed, cleared, or handed on. execDML and
reset check for that, realBind does not; and execDML takes the first entry of an array that
has none where there is nothing to bind. -/
namespace DatabaseLayer.MySQLInert
open Platform MySQLClient Foundation.Program Foundation.Run Foundation.Objects CppMySQLStatement MySQLSystem
open ExclusiveOwnership
open MySQLProtocol (pushed stored pushedInt performBind performExecDML)

/-- What holds of every statement object, in use or not. -/
structure Kept (o : CppMySQLStatement) : Prop where
  owns : o.mpStmt = none ↔ o.mpBindArray = none
  compiled : o.mpStmt ≠ none → STMT_COMPILED ≤ o.mState
  counts : ∀ array ∈ o.mpBindArray, o.mnBindIndex = array.value.length
  small : 0 ≤ o.mnBindIndex ∧ o.mnBindIndex ≤ 1025

section Objects
variable {client : Client} {o : CppMySQLStatement}

theorem newKept : Kept .new := ⟨iff_of_true rfl rfl,nofun,nofun,by decide⟩

theorem emptiedKept (kept : Kept o) : Kept {o with mpStmt := none, mpBindArray := none} :=
  ⟨iff_of_true rfl rfl,fun held => absurd rfl held,nofun,kept.small⟩

theorem copiedKept (kept : Kept o) : Kept o.copy.1 ∧ Kept o.copy.2 := ⟨kept,emptiedKept kept⟩

theorem clearedKept (kept : Kept o) {mState : Int} (compiled : STMT_COMPILED ≤ mState) :
    Kept (clearBindings {o with mState := mState}) := by
  have none : (0 : Int) ≤ 0 ∧ (0 : Int) ≤ 1025 := by omega
  refine ⟨?_,fun _ => compiled,?_,none⟩
  · simp [clearBindings,kept.owns]
  · simp [clearBindings]

theorem bindKept {s : Scope World CppMySQLStatement} (kept : Kept s.this) (pos : Int) (b : MysqlBind) :
    Kept (left (realBind pos b.bufferType b.buffer b.bufferLength s)).this := by
  rw [realBindApply]
  split
  · exact kept
  split
  · exact kept
  rename_i inRange atIndex
  cases array : s.this.mpBindArray with
  | none => exact kept
  | some a =>
    obtain ⟨owns,compiled,counts,low,_⟩ := kept
    have index := counts a array
    have next : wrapInt (s.this.mnBindIndex + 1) = (a.value.length : Int) + 1 := by
      rw [index,wrapIntId] <;> omega
    rw [array] at owns
    refine ⟨owns.trans (iff_of_false nofun nofun),compiled,?_,?_⟩
    · rintro _ ⟨⟩
      simp [next]
    · simp only [leftOk,next]
      omega

theorem executeKept {s : Scope World CppMySQLStatement} (kept : Kept s.this) :
    Kept (left (execute client s)).this := by
  have executed := executeExecuted client s
  cases ok : returned (execute client s) with
  | false =>
    rw [executed.failed ok]
    exact kept
  | true =>
    obtain ⟨_,_,cleared⟩ := executed.succeeded ok
    rw [cleared]
    exact clearedKept kept (by decide)

theorem pushedKept {s : Scope World CppMySQLStatement} (kept : Kept s.this) {r : Request} {e : Int × MysqlBind}
    (binds : pushed r = some e) : Kept (left (perform client r s)).this := by
  rw [performBind binds]
  exact bindKept (s := ⟨stored s.world r,s.this⟩) kept _ e.2

theorem requestKept (client : Client) {s : Scope World CppMySQLStatement} (kept : Kept s.this) (r : Request) :
    Kept (left (perform client r s)).this := by
  cases r with
  | bindString nParam szValue => exact pushedKept kept rfl
  | bindInt nParam nValue => exact pushedKept kept rfl
  | bindDouble nParam dwValue => exact pushedKept kept rfl
  | execDML =>
    rw [(performExecDML _ s).2.1]
    exact executeKept kept
  | reset =>
    have result : perform client .reset s = _ := resetApply client s
    rw [result]
    cases held : s.this.mpStmt with
    | none => exact kept
    | some stmt => exact clearedKept kept (kept.compiled (by simp [held]))
  | clear =>
    have result : perform client .clear s = _ := clearApply s
    rw [result]
    cases held : s.this.mpStmt with
    | none => exact ⟨iff_of_true held rfl,fun some => absurd held some,nofun,kept.small⟩
    | some stmt => exact emptiedKept kept

theorem compileKept {szSQL : CString} {s t : Scope World CppMySQLDB}
    (compiles : CppMySQLDB.compileStatement client szSQL s = .ok o t) : Kept o := by
  simp only [CppMySQLDB.compileStatement,bindApply,CppMySQLDB.handleApply,compileApply] at compiles
  cases held : s.this.mpDB with
  | none =>
    rw [held] at compiles
    cases compiles
  | some conn =>
    rw [held] at compiles
    dsimp only at compiles
    split at compiles
    · split at compiles
      · cases compiles
      · cases compiles
        have both : ∀ {α β : Type} {a : α} {b : β}, some a = none ↔ some b = none := by simp
        refine ⟨both,fun _ => Int.le_refl _,fun array there => ?_,newKept.small⟩
        cases there
        rfl
    · cases compiles

end Objects

section Systems
variable {client : Client}

theorem queriesStatements {s : System} (all : All Kept s.statements) {c : Command} (queries : onQueries c) :
    All Kept (step client s c).statements := by
  rw [(queriesOnly client s queries).2]
  exact all

theorem commandKept {s : System} (all : All Kept s.statements) (c : Command) :
    All Kept (step client s c).statements := by
  by_cases queries : onQueries c = true
  · exact queriesStatements all queries
  cases c with
  | getResultSet mpDB i szSQL | newResultSet i | copyResultSet i j =>
    simp only [step]
    split <;> exact all
  | assignResultSet i j =>
    simp only [step]
    split
    · exact all
    · split <;> exact all
  | clearResultSet i | destroyResultSet i =>
    simp only [step]
    split <;> exact all
  | compileStatement mpDB i szSQL =>
    simp only [step]
    split
    · exact allCreated all i fun _ _ compiles => compileKept compiles
    · exact all
  | newStatement i =>
    simp only [step]
    split
    · exact allPut all i newKept
    · exact all
  | copyStatement i j =>
    simp only [step]
    split
    · rename_i r _ source
      obtain ⟨first,second⟩ := copiedKept (all j r source)
      exact allCopied all i j first second
    · exact all
  | assignStatement i j =>
    simp only [step]
    split
    · exact all
    · split
      · rename_i q r _ source
        obtain ⟨first,second⟩ := copiedKept (all j r source)
        exact allCopied all i j first second
      · exact all
  | statement i request =>
    simp only [step]
    split
    · rename_i o live
      exact allUsed all i (requestKept client (s := ⟨s.world,o⟩) (all i o live) request)
    · exact all
  | destroyStatement i =>
    simp only [step]
    split
    · exact allRemoved all i
    · exact all
  | _ => exact absurd rfl queries

theorem eventKept {s : System} (all : All Kept s.statements) (e : Event) : All Kept (mysqlStep client s e).statements := by
  cases e with
  | command c => exact commandKept all c
  | operation mpDB op =>
    simp only [mysqlStep]
    split <;> exact all

def Clean (client : Client) (s : System) : Event → Prop
  | .command (.statement i request) => ∀ o, s.statements i = some o → ∀ t, perform client request ⟨s.world,o⟩ ≠ .error .undefined t
  | _ => True

/-- Nothing is bound at its turn on an object without a statement, and nothing executed that
takes no parameters. -/
def Answered (o : CppMySQLStatement) (request : Request) : Prop :=
  (∀ e ∈ pushed request, o.mpStmt = none → ¬ (e.1 - 1 = o.mnBindIndex ∧ e.1 - 1 ≤ 1024)) ∧
    (request = .execDML → o.mpStmt ≠ none → ¬ (o.mnParamsCount = 0 ∧ o.mnBindIndex = 0))

def Provided (s : System) : Event → Prop
  | .command (.statement i request) => ∀ o, s.statements i = some o → Answered o request
  | _ => True

end Systems

section Exactness
variable {client : Client} {s : Scope World CppMySQLStatement} {request : Request}

theorem bindCleanIff (kept : Kept s.this) {e : Int × MysqlBind} (binds : pushed request = some e) :
    (∀ t, perform client request s ≠ .error .undefined t) ↔
      (s.this.mpStmt = none → ¬ (e.1 - 1 = s.this.mnBindIndex ∧ e.1 - 1 ≤ 1024)) := by
  have whole := pushedInt binds
  obtain ⟨low,high⟩ := kept.small
  have position : s.this.mnBindIndex = wrapInt (e.1 - 1) ∧ wrapInt (e.1 - 1) ≤ 1024 ↔
      e.1 - 1 = s.this.mnBindIndex ∧ e.1 - 1 ≤ 1024 := by
    unfold wrapInt at whole ⊢
    omega
  rw [kept.owns,← position,performBind binds,realBindApply]
  by_cases past : wrapInt (e.1 - 1) > 1024
  · rw [if_pos past]
    exact iff_of_true nofun (fun _ both => absurd both.2 (Int.not_le.mpr past))
  rw [if_neg past]
  by_cases index : s.this.mnBindIndex = wrapInt (e.1 - 1)
  · rw [if_neg (not_not.mpr index)]
    have next : s.this.mnBindIndex = wrapInt (e.1 - 1) ∧ wrapInt (e.1 - 1) ≤ 1024 := ⟨index,Int.not_lt.mp past⟩
    cases s.this.mpBindArray with
    | none => exact iff_of_false (fun clean => clean _ rfl) (fun answered => answered rfl next)
    | some array => exact iff_of_true nofun nofun
  · rw [if_pos index]
    exact iff_of_true nofun (fun _ both => index both.1)

theorem executeUndefined (client : Client) (s : Scope World CppMySQLStatement) : (∃ t, execute client s = .error .undefined t) ↔
    s.this.mpStmt ≠ none ∧ ∃ array, s.this.mpBindArray = some array ∧ STMT_COMPILED ≤ s.this.mState ∧
      s.this.mnParamsCount = wrapInt array.value.length ∧ array.value = [] := by
  rw [executeApply]
  cases stmt : s.this.mpStmt with
  | none => exact iff_of_false nofun (fun both => both.1 rfl)
  | some stmt =>
    cases s.this.mpBindArray with
    | none => exact iff_of_false nofun nofun
    | some array =>
      dsimp only
      by_cases compiled : s.this.mState < STMT_COMPILED
      · rw [if_pos compiled]
        refine iff_of_false nofun ?_
        rintro ⟨_,_,_,done,_⟩
        omega
      rw [if_neg compiled]
      by_cases sized : s.this.mnParamsCount ≠ wrapInt array.value.length
      · rw [if_pos sized]
        refine iff_of_false nofun ?_
        rintro ⟨_,_,⟨⟩,_,same,_⟩
        exact sized same
      rw [if_neg sized]
      by_cases empty : array.value = []
      · rw [if_pos empty]
        exact iff_of_true ⟨s,rfl⟩ ⟨nofun,array,rfl,Int.not_lt.mp compiled,not_not.mp sized,empty⟩
      rw [if_neg empty]
      refine iff_of_false ?_ ?_
      · split
        · exact nofun
        · split <;> exact nofun
      · rintro ⟨_,_,⟨⟩,_,_,same⟩
        exact empty same

theorem performUndefined (s : Scope World CppMySQLStatement) : (∃ t, perform client .execDML s = .error .undefined t) ↔
    ∃ t, execute client s = .error .undefined t := by
  have ended := (performExecDML client s).1
  cases ran : execute client s with
  | ok a t =>
    refine iff_of_false ?_ nofun
    rintro ⟨u,undefined⟩
    rw [undefined,ran] at ended
    cases ended
  | error e t =>
    have result : perform client .execDML s = .error e t := by
      simp only [perform,bindApply,execDMLApply,ran]
    rw [result]

theorem executeCleanIff (kept : Kept s.this) : (∀ t, perform client .execDML s ≠ .error .undefined t) ↔
    (s.this.mpStmt ≠ none → ¬ (s.this.mnParamsCount = 0 ∧ s.this.mnBindIndex = 0)) := by
  have undefined := (performUndefined s).trans (executeUndefined client s)
  rw [← not_exists,undefined,not_and]
  refine imp_congr_right fun held => not_congr ?_
  obtain ⟨array,there⟩ := Option.ne_none_iff_exists'.mp (fun none => held (kept.owns.mpr none))
  have index := kept.counts array there
  constructor
  · rintro ⟨_,same,_,count,empty⟩
    cases there.symm.trans same
    rw [empty] at index count
    exact ⟨count,index⟩
  · rintro ⟨count,first⟩
    have empty : array.value = [] := List.eq_nil_of_length_eq_zero (by omega)
    refine ⟨array,there,kept.compiled held,?_,empty⟩
    rw [count,empty]
    rfl

theorem requestCleanIff (client : Client) (kept : Kept s.this) (request : Request) :
    (∀ t, perform client request s ≠ .error .undefined t) ↔ Answered s.this request := by
  cases request with
  | bindString nParam szValue | bindInt nParam nValue | bindDouble nParam dwValue =>
    refine (bindCleanIff kept rfl).trans ⟨fun clean => ⟨?_,nofun⟩,fun answered => answered.1 _ rfl⟩
    rintro _ ⟨⟩
    exact clean
  | execDML =>
    refine (executeCleanIff kept).trans ⟨fun clean => ⟨nofun,fun _ => clean⟩,fun answered => answered.2 rfl⟩
  | reset =>
    have result : perform client .reset s = _ := resetApply client s
    rw [result]
    cases s.this.mpStmt <;> exact iff_of_true nofun ⟨nofun,nofun⟩
  | clear =>
    have result : perform client .clear s = _ := clearApply s
    rw [result]
    cases s.this.mpStmt <;> exact iff_of_true nofun ⟨nofun,nofun⟩

theorem eventCleanIff (client : Client) (s : System) (e : Event) (all : All Kept s.statements) :
    Clean client s e ↔ Provided s e := by
  cases e with
  | command c =>
    cases c with
    | statement i request =>
      refine forall_congr' fun o => forall_congr' fun live => ?_
      exact requestCleanIff client (s := ⟨s.world,o⟩) (all i o live) request
    | _ => exact Iff.rfl
  | operation mpDB op => exact Iff.rfl

/-- In every run, the calls on statement objects stay within what is defined exactly if none
binds at its turn without a statement, and none executes what has no parameters. -/
theorem statementsCleanIff (client : Client) (events : List Event) :
    Guarded (mysqlStep client) (Clean client) (.initial .initial) events ↔
      Guarded (mysqlStep client) Provided (.initial .initial) events :=
  guardedCongr (fun _ e all => eventKept all e) (eventCleanIff client) allEmpty events

/-- A statement compiled on a library that accepts all, without parameters. -/
def parameterless : CppMySQLStatement := ⟨some ⟨0,0⟩,STMT_COMPILED,0,some ⟨0,[]⟩,0⟩

theorem parameterlessUndefined (client : Client) (w : World) :
    ∃ t, perform client .execDML ⟨w,parameterless⟩ = .error .undefined t := by
  have count : parameterless.mnParamsCount = wrapInt ([] : List MysqlBind).length := by decide
  have held : parameterless.mpStmt ≠ none := by decide
  exact (performUndefined _).mpr ((executeUndefined _ _).mpr ⟨held,⟨0,[]⟩,rfl,Int.le_refl _,count,rfl⟩)

/-- A bind on a statement object just constructed, and the execution of a statement
without parameters. -/
theorem inertUndefined :
    ¬ Guarded (mysqlStep .obliging) (Clean .obliging) (.initial .initial)
      [.command (.newStatement 0),.command (.statement 0 (.bindString 1 (text "a")))] ∧
    ¬ Guarded (mysqlStep .obliging) (Clean .obliging) (.initial .initial)
      [.command (.compileStatement (some 0) 0 (text "delete")),.command (.statement 0 .execDML)] := by
  constructor
  · intro clean
    exact clean [_] _ (List.prefix_refl _) .new rfl _ rfl
  · intro clean
    have compiles : (run (mysqlStep .obliging) (.initial .initial)
      [.command (.compileStatement (some 0) 0 (text "delete"))]).statements 0 = some parameterless := by decide
    obtain ⟨t,undefined⟩ := parameterlessUndefined .obliging _
    exact clean [_] _ (List.prefix_refl _) parameterless compiles t undefined

end Exactness

end DatabaseLayer.MySQLInert
