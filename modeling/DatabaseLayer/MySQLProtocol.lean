import DatabaseLayer.MySQLBinding

/-! The protocol of a statement: parameters are bound one after the other from the first,
executed when all are there, and then collected anew. A refused integer or double still
reaches the place the pending ones are read from. -/
namespace DatabaseLayer.MySQLProtocol
open Platform MySQLClient Foundation.Program Foundation.Run CppMySQLStatement MySQLBinding

/-- The parameter a request binds, by number, and the entry it asks to store. -/
def pushed : Request → Option (Int × MysqlBind)
  | .bindString nParam szValue => some (wrapInt nParam,⟨.string,.caller szValue,lengthThroughInt szValue.strlen⟩)
  | .bindInt nParam _ => some (wrapInt nParam,⟨.long,.sNValue,4⟩)
  | .bindDouble nParam _ => some (wrapInt nParam,⟨.double,.sDwValue,8⟩)
  | _ => none

def stored (w : World) (r : Request) : World :=
  {w with sNValue := intAfter w.sNValue r, sDwValue := doubleAfter w.sDwValue r}

section Binds
variable {client : Client} {r : Request} {e : Int × MysqlBind}

theorem wrapIntTwice (x : Int) : wrapInt (wrapInt x - 1) = wrapInt (x - 1) := by
  unfold wrapInt
  omega

theorem pushedInt (binds : pushed r = some e) : wrapInt e.1 = e.1 := by
  have twice (x : Int) : wrapInt (wrapInt x) = wrapInt x := by
    unfold wrapInt
    omega
  cases r <;> cases binds <;> exact twice _

theorem performBind (binds : pushed r = some e) (s : Scope World CppMySQLStatement) :
    perform client r s =
      realBind (wrapInt (e.1 - 1)) e.2.bufferType e.2.buffer e.2.bufferLength ⟨stored s.world r,s.this⟩ := by
  cases r <;> cases binds
  all_goals
    dsimp only
    rw [wrapIntTwice]
    rfl

theorem realBindHeld {s : Scope World CppMySQLStatement} {array : Owned (List MysqlBind)}
    (held : s.this.mpBindArray = some array) (pos : Int) (b : MysqlBind) :
    let r := realBind pos b.bufferType b.buffer b.bufferLength s
    (s.this.mnBindIndex = pos ∧ pos ≤ 1024 → r = .ok ⟨⟩ ⟨s.world,{s.this with
        mpBindArray := some {array with value := array.value ++ [b]}
        mnBindIndex := wrapInt (s.this.mnBindIndex + 1)}⟩) ∧
      (¬ (s.this.mnBindIndex = pos ∧ pos ≤ 1024) → ∃ x, r = .error (.thrown x) s) := by
  intro r
  have result : r = _ := realBindApply pos b.bufferType b.buffer b.bufferLength s
  rw [result]
  constructor
  · rintro ⟨index,inRange⟩
    rw [if_neg (Int.not_lt.mpr inRange),if_neg (not_not.mpr index),held]
  · intro refused
    by_cases past : pos > 1024
    · rw [if_pos past]
      exact ⟨_,rfl⟩
    · rw [if_neg past,if_pos (fun index => refused ⟨index,Int.not_lt.mp past⟩)]
      exact ⟨_,rfl⟩

theorem throwingBind (binds : pushed r = some e) {s t : Scope World CppMySQLStatement} {x : CppMySQLException}
    (throws : perform client r s = .error (.thrown x) t) : t = ⟨stored s.world r,s.this⟩ := by
  rw [performBind binds,realBindApply] at throws
  split at throws
  · cases throws
    rfl
  split at throws
  · cases throws
    rfl
  split at throws <;> cases throws

end Binds

/-- A statement with the binds it accepted since it was last executed or reset. -/
structure Protocol where
  scope : Scope World CppMySQLStatement
  bound : List (Int × MysqlBind)

/-- The requests that leave a statement in use. -/
abbrev Use := {r : Request // r ≠ .clear}

/-- An accepted bind is collected, any other request that returns starts the collecting anew. -/
def boundAfter (bound : List (Int × MysqlBind)) (r : Request) : List (Int × MysqlBind) :=
  match pushed r with
  | some e => bound ++ [e]
  | none => []

def numbered (n : Nat) : List Int := (List.range n).map (fun i => (i : Int) + 1)

theorem numberedSucc (n : Nat) : numbered (n + 1) = numbered n ++ [(n : Int) + 1] := by
  simp [numbered,List.range_succ]

section Steps
variable (client : Client)

def step (s : Protocol) (u : Use) : Protocol :=
  let r := perform client u.1 s.scope
  ⟨left r,bif returned r then boundAfter s.bound u.1 else s.bound⟩

/-- The index counts the pending entries, and entry k is the one bind k + 1 stored. -/
structure Aligned (s : Protocol) : Prop where
  array : ∃ array, s.scope.this.mpBindArray = some array ∧ array.value = s.bound.map Prod.snd
  index : s.scope.this.mnBindIndex = s.bound.length
  numbers : s.bound.map Prod.fst = numbered s.bound.length

/-- A step of the protocol on a statement with n parameters. -/
structure Obeys (n : Nat) (s : Protocol) (u : Use) : Prop where
  accepts : ∀ e ∈ pushed u.1, (returned (perform client u.1 s.scope) = true ↔
    e.1 - 1 = s.scope.this.mnBindIndex ∧ e.1 - 1 ≤ 1024)
  executes : executions (step client s u).scope.world.log ≠ executions s.scope.world.log →
    u.1 = .execDML ∧ s.bound.map Prod.fst = numbered n
  throws : u.1 = .execDML → returned (perform client u.1 s.scope) = false →
    (step client s u).scope.this = s.scope.this

/-- What holds of a compiled statement with n parameters at any time. -/
structure Follows (n : Nat) (s : Protocol) : Prop where
  stmt : ∃ stmt, s.scope.this.mpStmt = some stmt
  params : s.scope.this.mnParamsCount = wrapInt n
  aligned : Aligned s
  small : s.bound.length ≤ 1025

end Steps

section Following
variable {client : Client} {n : Nat} {s : Protocol} {u : Use} {e : Int × MysqlBind}

theorem stepEq : step client s u = ⟨left (perform client u.1 s.scope),
    bif returned (perform client u.1 s.scope) then boundAfter s.bound u.1 else s.bound⟩ := rfl

theorem positionIff (follows : Follows n s) (binds : pushed u.1 = some e) :
    s.scope.this.mnBindIndex = wrapInt (e.1 - 1) ∧ wrapInt (e.1 - 1) ≤ 1024 ↔
      e.1 - 1 = s.scope.this.mnBindIndex ∧ e.1 - 1 ≤ 1024 := by
  have whole := pushedInt binds
  have small := follows.small
  rw [follows.aligned.index]
  unfold wrapInt at whole ⊢
  omega

theorem bindReturns (follows : Follows n s) (binds : pushed u.1 = some e) :
    returned (perform client u.1 s.scope) = true ↔ e.1 - 1 = s.scope.this.mnBindIndex ∧ e.1 - 1 ≤ 1024 := by
  obtain ⟨array,held,_⟩ := follows.aligned.array
  have ends := realBindHeld (s := ⟨stored s.scope.world u.1,s.scope.this⟩) held (wrapInt (e.1 - 1)) e.2
  rw [← positionIff follows binds,performBind binds]
  by_cases position : s.scope.this.mnBindIndex = wrapInt (e.1 - 1) ∧ wrapInt (e.1 - 1) ≤ 1024
  · rw [ends.1 position]
    exact iff_of_true rfl position
  · obtain ⟨x,refused⟩ := ends.2 position
    rw [refused]
    exact iff_of_false nofun position

theorem bindFollows (follows : Follows n s) (binds : pushed u.1 = some e) : Follows n (step client s u) := by
  obtain ⟨array,held,pending⟩ := follows.aligned.array
  have index := follows.aligned.index
  have small := follows.small
  have ends := realBindHeld (s := ⟨stored s.scope.world u.1,s.scope.this⟩) held (wrapInt (e.1 - 1)) e.2
  have performed : perform client u.1 s.scope = _ := performBind binds s.scope
  rw [stepEq]
  rw [performed]
  by_cases position : s.scope.this.mnBindIndex = wrapInt (e.1 - 1) ∧ wrapInt (e.1 - 1) ≤ 1024
  · obtain ⟨next,room⟩ := (positionIff follows binds).mp position
    have number : e.1 = (s.bound.length : Int) + 1 := by omega
    have counted : wrapInt (s.scope.this.mnBindIndex + 1) = (s.bound.length + 1 : Nat) := by
      rw [index,wrapIntId] <;> omega
    rw [ends.1 position]
    simp only [returned,leftOk,cond_true,boundAfter,binds]
    refine ⟨follows.stmt,follows.params,⟨⟨_,rfl,?_⟩,?_,?_⟩,?_⟩
    · simp [pending]
    · simp only [counted,List.length_append,List.length_singleton]
    · simp only [List.map_append,List.map_singleton,List.length_append,List.length_singleton,
        follows.aligned.numbers,numberedSucc,number]
    · simp only [List.length_append,List.length_singleton]
      omega
  · obtain ⟨x,refused⟩ := ends.2 position
    rw [refused]
    exact ⟨follows.stmt,follows.params,⟨⟨array,held,pending⟩,index,follows.aligned.numbers⟩,small⟩

theorem bindAsks (binds : pushed u.1 = some e) :
    executions (step client s u).scope.world.log = executions s.scope.world.log := by
  have performed : perform client u.1 s.scope = _ := performBind binds s.scope
  rw [stepEq]
  rw [performed,realBindApply]
  dsimp only
  split
  · rfl
  split
  · rfl
  split <;> rfl

theorem emptiedFollows {t : Scope World CppMySQLStatement} (follows : Follows n s)
    (stmt : t.this.mpStmt = s.scope.this.mpStmt) (params : t.this.mnParamsCount = s.scope.this.mnParamsCount)
    (array : t.this.mpBindArray = s.scope.this.mpBindArray.map (fun a => {a with value := []}))
    (index : t.this.mnBindIndex = 0) : Follows n ⟨t,[]⟩ := by
  obtain ⟨held,same⟩ := follows.stmt
  obtain ⟨pending,there,_⟩ := follows.aligned.array
  rw [there] at array
  exact ⟨⟨held,stmt.trans same⟩,params.trans follows.params,⟨⟨_,array,rfl⟩,index,rfl⟩,Nat.zero_le _⟩

theorem resetFollows (follows : Follows n s) (resets : u.1 = .reset) :
    returned (perform client u.1 s.scope) = true ∧ Follows n (step client s u) ∧
      executions (step client s u).scope.world.log = executions s.scope.world.log := by
  obtain ⟨stmt,held⟩ := follows.stmt
  have result : perform client u.1 s.scope = _ := (congrArg (perform client · s.scope) resets).trans (resetApply client s.scope)
  rw [stepEq]
  rw [result,held,resets]
  exact ⟨rfl,emptiedFollows follows rfl rfl rfl rfl,rfl⟩

/-- execDML ends as execute does: after it there is only a count to be read. -/
theorem performExecDML (client : Client) (s : Scope World CppMySQLStatement) :
    let r := perform client .execDML s
    let q := execute client s
    returned r = returned q ∧ (left r).this = (left q).this ∧
      executions (left r).world.log = executions (left q).world.log := by
  intro r q
  have performed : r = match execDML client s with
      | .ok _ t => .ok ⟨⟩ t
      | .error e t => .error e t := by
    simp only [r,perform,bindApply]
    cases execDML client s <;> rfl
  have executed := (executeExecuted client s).succeeded
  have dml := execDMLApply client s
  cases ran : execute client s with
  | error x t =>
    rw [ran] at dml
    rw [performed,dml,show q = _ from ran]
    exact ⟨rfl,rfl,rfl⟩
  | ok a t =>
    rw [ran] at dml executed
    obtain ⟨stmt,_,this⟩ := executed rfl
    obtain ⟨stmt',held⟩ := Option.ne_none_iff_exists'.mp stmt
    have kept : t.this.mpStmt = some stmt' := (congrArg mpStmt this).trans held
    simp only [kept] at dml
    rw [performed,dml,show q = _ from ran]
    exact ⟨rfl,rfl,rfl⟩

/-- An execution that comes as far as the library finds all parameters, and no others. -/
theorem reachedNumbers (below : n < 2^32) (follows : Follows n s) (comes : reached client s.scope ≠ none) :
    s.bound.map Prod.fst = numbered n := by
  obtain ⟨stmt,held⟩ := follows.stmt
  obtain ⟨array,there,pending⟩ := follows.aligned.array
  have small := follows.small
  have count : array.value.length = s.bound.length := by rw [pending,List.length_map]
  unfold reached at comes
  simp only [held,there] at comes
  split at comes
  · rename_i ready
    have sized := ready.2.1
    rw [follows.params,count] at sized
    have same : s.bound.length = n := by
      unfold wrapInt at sized
      omega
    rw [follows.aligned.numbers,same]
  · exact absurd rfl comes

theorem executeFollows (follows : Follows n s) (executes : u.1 = .execDML) :
    (returned (perform client u.1 s.scope) = false → (step client s u).scope.this = s.scope.this) ∧
      Follows n (step client s u) := by
  obtain ⟨ended,this,_⟩ := performExecDML client s.scope
  have executed := executeExecuted client s.scope
  have stepped : step client s u =
      ⟨left (perform client .execDML s.scope),bif returned (execute client s.scope) then [] else s.bound⟩ := by
    rw [stepEq,executes,ended]
    rfl
  rw [executes,ended,stepped]
  cases ok : returned (execute client s.scope) with
  | false =>
    have kept := this.trans (executed.failed ok)
    obtain ⟨array,index,numbers⟩ := follows.aligned
    refine ⟨fun _ => kept,⟨?_,?_,⟨?_,?_,numbers⟩,follows.small⟩⟩
    all_goals rw [kept]
    · exact follows.stmt
    · exact follows.params
    · exact array
    · exact index
  | true =>
    obtain ⟨_,_,cleared⟩ := executed.succeeded ok
    have now := this.trans cleared
    refine ⟨nofun,emptiedFollows follows ?_ ?_ ?_ ?_⟩
    all_goals
      rw [now]
      rfl

theorem executeAsks (below : n < 2^32) (follows : Follows n s) (executes : u.1 = .execDML)
    (asks : executions (step client s u).scope.world.log ≠ executions s.scope.world.log) :
    s.bound.map Prod.fst = numbered n := by
  obtain ⟨_,_,log⟩ := performExecDML client s.scope
  have executed := executeExecuted client s.scope
  have reach : reached client s.scope ≠ none := by
    intro none
    refine asks ?_
    rw [stepEq]
    rw [executes,log,executed.asked,none]
    rfl
  exact reachedNumbers below follows reach

theorem useCases (u : Use) : (∃ e, pushed u.1 = some e) ∨ u.1 = .reset ∨ u.1 = .execDML := by
  obtain ⟨r,stays⟩ := u
  cases r with
  | bindString => exact Or.inl ⟨_,rfl⟩
  | bindInt => exact Or.inl ⟨_,rfl⟩
  | bindDouble => exact Or.inl ⟨_,rfl⟩
  | execDML => exact Or.inr (Or.inr rfl)
  | reset => exact Or.inr (Or.inl rfl)
  | clear => exact absurd rfl stays

theorem stepFollows (follows : Follows n s) (u : Use) : Follows n (step client s u) := by
  rcases useCases u with ⟨e,binds⟩ | resets | executes
  · exact bindFollows follows binds
  · exact (resetFollows follows resets).2.1
  · exact (executeFollows follows executes).2

theorem runFollows (client : Client) (follows : Follows n s) (us : List Use) : Follows n (run (step client) s us) := by
  have keep : ∀ s u, Follows n s → Follows n (step client s u) := fun _ u now => stepFollows now u
  exact invariantRun keep follows us

theorem stepObeys (below : n < 2^32) (follows : Follows n s) (u : Use) : Obeys client n s u := by
  rcases useCases u with ⟨e,binds⟩ | resets | executes
  · refine ⟨fun e' same => ?_,fun asks => absurd (bindAsks binds) asks,fun executes => ?_⟩
    · exact bindReturns follows same
    · rw [executes] at binds
      cases binds
  · refine ⟨fun e' same => ?_,fun asks => absurd (resetFollows follows resets).2.2 asks,fun executes => ?_⟩
    · rw [resets] at same
      cases same
    · cases resets.symm.trans executes
  · refine ⟨fun e' same => ?_,fun asks => ⟨executes,executeAsks below follows executes asks⟩,fun _ => ?_⟩
    · rw [executes] at same
      cases same
    · exact (executeFollows follows executes).1

theorem stillEmpty (empty : s.bound = []) (us : List Use)
    (refused : Guarded (step client) (fun s u => pushed u.1 ≠ none → returned (perform client u.1 s.scope) = false) s us) :
    (run (step client) s us).bound = [] := by
  induction us generalizing s with
  | nil => exact empty
  | cons u us ih =>
    obtain ⟨first,rest⟩ := guardedCons.mp refused
    refine ih ?_ rest
    change (bif _ then boundAfter s.bound u.1 else s.bound) = []
    unfold boundAfter
    cases binds : pushed u.1 with
    | some e =>
      rw [first (by simp [binds])]
      exact empty
    | none =>
      rw [empty]
      cases returned (perform client u.1 s.scope) <;> rfl

end Following

section Compiled
variable {client : Client} {O : Type} {conn : Nat} {szDML : CString} {s t : Scope World O} {o : CppMySQLStatement}

/-- The number of parameters the library reports of the statement it has prepared. -/
def paramCount (client : Client) (w : World) (conn : Nat) (szDML : CString) : Nat :=
  (replied client (preparing client w conn szDML) conn (.stmtParamCount w.nStmts)).value

theorem compiledFollows (compiles : compile client (some conn) szDML s = .ok o t) :
    Follows (paramCount client s.world conn szDML) ⟨⟨t.world,o⟩,[]⟩ := by
  by_cases init : (replied client s.world conn .stmtInit).rc = 0
  · by_cases accepted : (prepared client s.world conn szDML).rc = 0
    · rw [compilePrepared init accepted] at compiles
      cases compiles
      exact ⟨⟨_,rfl⟩,rfl,⟨⟨_,rfl,rfl⟩,rfl,rfl⟩,Nat.zero_le _⟩
    · rw [compileUnprepared init accepted] at compiles
      cases compiles
  · rw [compileUninited init] at compiles
    cases compiles

/-- After an execution or a reset that returns, the first bind accepted is that of the first parameter. -/
def Restarts (client : Client) (s : Protocol) (us : List Use) : Prop :=
  ∀ before u between v e, before ++ u :: (between ++ [v]) <+: us →
    let t := run (step client) s before
    u.1 = .execDML ∨ u.1 = .reset → returned (perform client u.1 t.scope) = true →
    Guarded (step client) (fun s u => pushed u.1 ≠ none → returned (perform client u.1 s.scope) = false)
      (step client t u) between →
    pushed v.1 = some e → returned (perform client v.1 (run (step client) (step client t u) between).scope) = true →
    e.1 = 1

theorem restarts {n : Nat} {s : Protocol} (follows : Follows n s) (us : List Use) : Restarts client s us := by
  intro before u between v e _ t ends returns refused binds accepted
  have start : (step client t u).bound = [] := by
    rw [stepEq,returns]
    rcases ends with executes | resets
    · rw [executes]
      rfl
    · rw [resets]
      rfl
  have now : Follows n t := runFollows client follows before
  have next : Follows n (step client t u) := stepFollows now u
  have later := runFollows client next between
  have position := (bindReturns later binds).mp accepted
  have index := later.aligned.index
  rw [stillEmpty start between refused] at index
  rw [index] at position
  simp only [List.length_nil] at position
  omega

/-- However a compiled statement is bound, executed and reset, its entries stay in step with its
index, every call obeys the protocol, and the collecting starts anew with the first parameter. -/
theorem protocolObeyed (compiles : compile client (some conn) szDML s = .ok o t)
    (counted : paramCount client s.world conn szDML < 2^32) (us : List Use) :
    Throughout (step client) Aligned ⟨⟨t.world,o⟩,[]⟩ us ∧
      Guarded (step client) (Obeys client (paramCount client s.world conn szDML)) ⟨⟨t.world,o⟩,[]⟩ us ∧
      Restarts client ⟨⟨t.world,o⟩,[]⟩ us := by
  have start := compiledFollows compiles
  refine ⟨fun before _ => (runFollows client start before).aligned,fun before u _ => ?_,restarts start us⟩
  exact stepObeys counted (runFollows client start before) u

end Compiled

def twoParams : Client := ⟨fun _ _ call => match call with
  | .stmtParamCount _ => {success with value := 2}
  | _ => success⟩

theorem execKeeps : Request.execDML ≠ .clear := nofun

def twoBinds : List Use := [⟨.bindInt 1 7,nofun⟩,⟨.bindInt 5 9,nofun⟩,⟨.bindString 2 (text "a"),nofun⟩,⟨.execDML,execKeeps⟩]

theorem protocolObeyedTwo : ∃ o t, compile twoParams (some 0) (text "insert into t values (?,?)")
      (⟨.initial,()⟩ : Scope World Unit) = .ok o t ∧ Throughout (step twoParams) Aligned ⟨⟨t.world,o⟩,[]⟩ twoBinds ∧
    Guarded (step twoParams) (Obeys twoParams 2) ⟨⟨t.world,o⟩,[]⟩ twoBinds ∧ Restarts twoParams ⟨⟨t.world,o⟩,[]⟩ twoBinds := by
  have compiles : compile twoParams (some 0) (text "insert into t values (?,?)") (⟨.initial,()⟩ : Scope World Unit) =
    .ok _ _ := rfl
  exact ⟨_,_,compiles,protocolObeyed compiles (by decide) twoBinds⟩

section Refusals
variable {client : Client} {pool : Pool World CppMySQLStatement} {k : Nat} {r : Request}

/-- The same statements, with the same values to be read for their pending parameters. -/
structure Unchanged (p q : Pool World CppMySQLStatement) : Prop where
  objects : ∀ j, q.objects j = p.objects j
  reads : ∀ j, ∀ array ∈ (p.objects j).mpBindArray, ∀ b ∈ array.value, b.read q.world = b.read p.world

/-- A parameter of this type is pending whose value is kept in this place. -/
def Awaits (pool : Pool World CppMySQLStatement) (type : FieldType) (buffer : Buffer) : Prop :=
  ∃ j, ∃ array ∈ (pool.objects j).mpBindArray, ∃ b ∈ array.value, b.bufferType = type ∧ b.buffer = buffer

/-- A bind that stores what is there already, or what no pending parameter is read from. -/
def Harmless (pool : Pool World CppMySQLStatement) : Request → Prop
  | .bindInt _ nValue => Awaits pool .long .sNValue → nValue = pool.world.sNValue
  | .bindDouble _ dwValue => Awaits pool .double .sDwValue → dwValue = pool.world.sDwValue
  | _ => True

/-- Only an integer and a double are read from the statics, each from its own. -/
theorem readStored (w : World) (r : Request) (b : MysqlBind) : b.read (stored w r) = b.read w ↔
    (b.bufferType = .long → b.buffer = .sNValue → intAfter w.sNValue r = w.sNValue) ∧
    (b.bufferType = .double → b.buffer = .sDwValue → doubleAfter w.sDwValue r = w.sDwValue) := by
  obtain ⟨type,buffer,length⟩ := b
  cases type <;> cases buffer <;> simp [MysqlBind.read,stored]

theorem storedReads : (∀ j, ∀ array ∈ (pool.objects j).mpBindArray, ∀ b ∈ array.value,
      b.read (stored pool.world r) = b.read pool.world) ↔
    (Awaits pool .long .sNValue → intAfter pool.world.sNValue r = pool.world.sNValue) ∧
      (Awaits pool .double .sDwValue → doubleAfter pool.world.sDwValue r = pool.world.sDwValue) := by
  constructor
  · intro same
    constructor
    · rintro ⟨j,array,held,b,pending,type,buffer⟩
      exact ((readStored _ r b).mp (same j array held b pending)).1 type buffer
    · rintro ⟨j,array,held,b,pending,type,buffer⟩
      exact ((readStored _ r b).mp (same j array held b pending)).2 type buffer
  · rintro ⟨int,double⟩ j array held b pending
    refine (readStored _ r b).mpr ⟨fun type buffer => int ?_,fun type buffer => double ?_⟩
    · exact ⟨j,array,held,b,pending,type,buffer⟩
    · exact ⟨j,array,held,b,pending,type,buffer⟩

theorem harmlessIff (binds : pushed r ≠ none) : Harmless pool r ↔
    (Awaits pool .long .sNValue → intAfter pool.world.sNValue r = pool.world.sNValue) ∧
      (Awaits pool .double .sDwValue → doubleAfter pool.world.sDwValue r = pool.world.sDwValue) := by
  cases r with
  | bindString => exact iff_of_true trivial ⟨fun _ => rfl,fun _ => rfl⟩
  | bindInt => exact (and_iff_left fun _ => rfl).symm
  | bindDouble => exact (and_iff_right fun _ => rfl).symm
  | execDML => exact absurd rfl binds
  | reset => exact absurd rfl binds
  | clear => exact absurd rfl binds

/-- A bind that throws leaves every statement and all that is pending as it was exactly if the
value it was given is harmless. -/
theorem refusedBindIff (binds : pushed r ≠ none) {x : CppMySQLException} {t : Scope World CppMySQLStatement}
    (throws : perform client r (pool.scope k) = .error (.thrown x) t) :
    Unchanged pool (pool.put k t) ↔ Harmless pool r := by
  obtain ⟨e,pushes⟩ := Option.ne_none_iff_exists'.mp binds
  have left := throwingBind pushes throws
  subst left
  have objects : (pool.put k ⟨stored pool.world r,pool.objects k⟩).objects = pool.objects := putSame pool rfl
  rw [harmlessIff binds,← storedReads]
  constructor
  · exact fun unchanged => unchanged.reads
  · exact fun reads => ⟨fun j => congrFun objects j,reads⟩

/-- Two statements, the first with its first parameter bound to 7. -/
def sevenPending : Pool World CppMySQLStatement :=
  compiled.put 0 (left (perform .obliging (.bindInt 1 7) (compiled.scope 0)))

theorem refusedBindIffText : ∃ x t, perform .obliging (.bindString 5 (text "a")) (sevenPending.scope 0) = .error (.thrown x) t ∧
    (Unchanged sevenPending (sevenPending.put 0 t) ↔ Harmless sevenPending (.bindString 5 (text "a"))) := by
  have throws : perform .obliging (.bindString 5 (text "a")) (sevenPending.scope 0) = .error (.thrown _) _ := rfl
  exact ⟨_,_,throws,refusedBindIff (by simp [pushed]) throws⟩

/-- Refused for its position, the second integer is what the library reads for the first. -/
theorem refusedBindOverwrites : ∃ x t, perform .obliging (.bindInt 5 9) (sevenPending.scope 0) = .error (.thrown x) t ∧
    ¬ Unchanged sevenPending (sevenPending.put 0 t) := by
  have throws : perform .obliging (.bindInt 5 9) (sevenPending.scope 0) = .error (.thrown _) _ := rfl
  refine ⟨_,_,throws,fun unchanged => ?_⟩
  have reads := unchanged.reads 0 ⟨0,[⟨.long,.sNValue,4⟩]⟩ rfl _ List.mem_cons_self
  exact absurd reads (by decide)

end Refusals

end DatabaseLayer.MySQLProtocol
