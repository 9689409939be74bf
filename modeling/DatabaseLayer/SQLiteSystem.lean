import DatabaseLayer.Foundation.Objects
import DatabaseLayer.SQLiteRules

/-! Any number of databases, queries, result sets and statements over one library, each
under a name of its own. A command on an object that is not there, or that would create one
under a name in use, is no command. -/
namespace DatabaseLayer.SQLiteSystem
open Platform SQLiteClient Foundation.Program Foundation.Objects SQLiteRules

structure System where
  world : World
  databases : Nat → CppSQLite3DB
  queries : Slots CppSQLite3Query
  resultSets : Slots CppSQLite3ResultSet
  statements : Slots CppSQLite3Statement

/-- Every database is constructed, and none is open. -/
def System.initial : System := ⟨.initial,fun _ => ⟨none⟩,fun _ => none,fun _ => none,fun _ => none⟩

/-- The calls that create, hand on, use and end such objects. An object that an operation of
a database returns gets the name i. -/
inductive Command where
  | operate (k i : Nat) (op : CppSQLite3DB.Operation)
  | newQuery (i : Nat)
  | copyQuery (i j : Nat)
  | assignQuery (i j : Nat)
  | query (i : Nat) (request : CppSQLite3Query.Request)
  | destroyQuery (i : Nat)
  | newResultSet (i : Nat)
  | copyResultSet (i j : Nat)
  | assignResultSet (i j : Nat)
  | nextRow (i : Nat)
  | seekRow (i nRow : Nat)
  | clearResultSet (i : Nat)
  | destroyResultSet (i : Nat)
  | newStatement (i : Nat)
  | copyStatement (i j : Nat)
  | assignStatement (i j : Nat)
  | statement (i : Nat) (request : CppSQLite3Statement.Request)
  | execQuery (i k : Nat)
  | destroyStatement (i : Nat)
  deriving DecidableEq, Repr

def System.setQueries (s : System) (r : World × Slots CppSQLite3Query) : System :=
  {s with world := r.1, queries := r.2}
def System.setResultSets (s : System) (r : World × Slots CppSQLite3ResultSet) : System :=
  {s with world := r.1, resultSets := r.2}
def System.setStatements (s : System) (r : World × Slots CppSQLite3Statement) : System :=
  {s with world := r.1, statements := r.2}

/-- No object has this name. -/
def System.Vacant (s : System) (i : Nat) : Prop :=
  s.queries i = none ∧ s.resultSets i = none ∧ s.statements i = none

instance (s i) : Decidable (System.Vacant s i) := by unfold System.Vacant; infer_instance

/-- A returned object gets its name. -/
def System.place (s : System) (i : Nat) : CppSQLite3DB.Returned → System
  | .query q => {s with queries := Function.update s.queries i (some q)}
  | .resultSet r => {s with resultSets := Function.update s.resultSets i (some r)}
  | .statement o => {s with statements := Function.update s.statements i (some o)}
  | _ => s

def System.setDatabase (s : System) (k : Nat) (t : Scope World CppSQLite3DB) : System :=
  {s with world := t.world, databases := Function.update s.databases k t.this}

def System.operated (s : System) (k i : Nat) :
    EStateM.Result Stop (Scope World CppSQLite3DB) CppSQLite3DB.Returned → System
  | .ok r t => (s.setDatabase k t).place i r
  | .error _ t => s.setDatabase k t

/-- The query a statement runs as takes what the statement gives up. -/
def System.ran (s : System) (i k : Nat) :
    EStateM.Result Stop (Scope World CppSQLite3Statement) CppSQLite3Query → System
  | .ok q t => ⟨t.world,s.databases,Function.update s.queries i (some q),s.resultSets,
      Function.update s.statements k (some t.this)⟩
  | .error _ t => s.setStatements (t.world,Function.update s.statements k (some t.this))

/-- The operations that return an object, which needs a name. -/
def names : CppSQLite3DB.Operation → Bool
  | .execQuery _ | .getResultSet _ | .compileStatement _ => true
  | _ => false

def step (client : Client) (s : System) : Command → System
  | .operate k i op =>
    if names op → s.Vacant i then s.operated k i (CppSQLite3DB.perform client op ⟨s.world,s.databases k⟩) else s
  | .newQuery i => match s.queries i with
    | none => {s with queries := Function.update s.queries i (some CppSQLite3Query.new)}
    | some _ => s
  | .copyQuery i j => match s.queries i,s.queries j with
    | none,some q => {s with queries := copied s.queries i j q.copy}
    | _,_ => s
  | .assignQuery i j => if i = j then s else match s.queries i,s.queries j with
    | some q,some r => s.setQueries (assigned s.queries i j (CppSQLite3Query.assign client r ⟨s.world,q⟩))
    | _,_ => s
  | .query i request => match s.queries i with
    | some q => s.setQueries (used s.queries i (CppSQLite3Query.perform client request ⟨s.world,q⟩))
    | none => s
  | .destroyQuery i => match s.queries i with
    | some q => s.setQueries (CppSQLite3Query.destroy client ⟨s.world,q⟩,Function.update s.queries i none)
    | none => s
  | .newResultSet i => match s.resultSets i with
    | none => {s with resultSets := Function.update s.resultSets i (some CppSQLite3ResultSet.new)}
    | some _ => s
  | .copyResultSet i j => match s.resultSets i,s.resultSets j with
    | none,some r => {s with resultSets := copied s.resultSets i j r.copy}
    | _,_ => s
  | .assignResultSet i j => if i = j then s else match s.resultSets i,s.resultSets j with
    | some q,some r => s.setResultSets (assigned s.resultSets i j (CppSQLite3ResultSet.assign r ⟨s.world,q⟩))
    | _,_ => s
  | .nextRow i => match s.resultSets i with
    | some r => {s with resultSets := Function.update s.resultSets i (some r.nextRow)}
    | none => s
  | .seekRow i nRow => match s.resultSets i with
    | some r => {s with resultSets := Function.update s.resultSets i (some (r.seekRow nRow).2)}
    | none => s
  | .clearResultSet i => match s.resultSets i with
    | some r => s.setResultSets (used s.resultSets i (CppSQLite3ResultSet.clear ⟨s.world,r⟩))
    | none => s
  | .destroyResultSet i => match s.resultSets i with
    | some r => s.setResultSets (CppSQLite3ResultSet.destroy ⟨s.world,r⟩,Function.update s.resultSets i none)
    | none => s
  | .newStatement i => match s.statements i with
    | none => {s with statements := Function.update s.statements i (some CppSQLite3Statement.new)}
    | some _ => s
  | .copyStatement i j => match s.statements i,s.statements j with
    | none,some r => {s with statements := copied s.statements i j r.copy}
    | _,_ => s
  | .assignStatement i j => if i = j then s else match s.statements i,s.statements j with
    | some q,some r => s.setStatements (assigned s.statements i j (CppSQLite3Statement.assign r ⟨s.world,q⟩))
    | _,_ => s
  | .statement i request => match s.statements i with
    | some o => s.setStatements (used s.statements i (CppSQLite3Statement.perform client request ⟨s.world,o⟩))
    | none => s
  | .execQuery i k => match s.queries i,s.statements k with
    | none,some o => s.ran i k (CppSQLite3Statement.execQuery client ⟨s.world,o⟩)
    | _,_ => s
  | .destroyStatement i => match s.statements i with
    | some o => s.setStatements (CppSQLite3Statement.destroy client ⟨s.world,o⟩,Function.update s.statements i none)
    | none => s

/-- The calls a command may make. -/
def Command.makes (cmd : Command) (c : Call) : Bool :=
  match cmd with
  | .operate _ _ op => op.makes c
  | .assignQuery _ _ | .query _ _ | .destroyQuery _ =>
    match c with | .step _ | .finalize (some _) | .errmsg (some _) | .errmsgUnset | .free _ => true | _ => false
  | .assignResultSet _ _ | .clearResultSet _ | .destroyResultSet _ => match c with | .freeTable _ => true | _ => false
  | .statement _ request => request.makes c
  | .execQuery _ _ => match c with | .step _ | .reset _ => true | _ => false
  | .destroyStatement _ => CppSQLite3Statement.Request.clear.makes c
  | _ => false

section Worlds
variable {client : Client} {R : World → World → Prop} (chain : Chain R)

theorem leftSwallow {O : Type} (m : Op O Unit) (s : Scope World O) : left (swallow m s) = left (m s) := by
  unfold swallow
  cases m s with
  | ok a t => rfl
  | error e t => cases e <;> rfl

/-- Assignment clears the target, and takes what the source holds unless that goes wrong. -/
theorem assignQueryApply (client : Client) (r : CppSQLite3Query) (s : Scope World CppSQLite3Query) :
    CppSQLite3Query.assign client r s =
      let t := left (CppSQLite3Query.clear client s)
      match swallow (CppSQLite3Query.clear client) s with
      | .ok _ _ => .ok {r with mpStmt := none} ⟨t.world,{r with mpDB := t.this.mpDB}⟩
      | .error e _ => .error e t := by
  have same := leftSwallow (CppSQLite3Query.clear client) s
  simp only [CppSQLite3Query.assign,bindApply]
  cases result : swallow (CppSQLite3Query.clear client) s with
  | ok a t =>
    rw [result] at same
    rw [← same]
    rfl
  | error e t =>
    rw [result] at same
    rw [← same]
    rfl

theorem assignedWorld (slots : Slots CppSQLite3Query) (i j : Nat) (r : CppSQLite3Query)
    (s : Scope World CppSQLite3Query) :
    (assigned slots i j (CppSQLite3Query.assign client r s)).1 = (left (CppSQLite3Query.clear client s)).world := by
  rw [assignQueryApply]
  dsimp only
  cases swallow (CppSQLite3Query.clear client) s <;> rfl

include chain

theorem queryWorld (request : CppSQLite3Query.Request) (s : Scope World CppSQLite3Query)
    (kept : ∀ c w v, (Command.query 0 request).makes c → Called c w v → R w v) :
    R s.world (left (CppSQLite3Query.perform client request s)).world := by
  have clears : R s.world (left (CppSQLite3Query.clear client s)).world := by
    refine settlesLeft (CppSQLite3Query.settlesClear chain fun conn message pStmt w v called => ?_) s
    obtain (called | called | called) | called := called <;> exact kept _ w v rfl called
  by_cases moves : request.moves = true
  · cases request with
    | clear => exact clears
    | nextRow =>
      refine settlesLeft (R := fun s t : Scope World CppSQLite3Query => R s.world t.world) ?_ s
      have worlds := chainWorlds (O := CppSQLite3Query) chain
      have still {α : Type} {m : Op CppSQLite3Query α} (h : Settles (fun _ => False) (fun s t => id t = id s) m) :
          Settles (fun _ => False) (fun s t => R s.world t.world) m :=
        settlesMono (fun s t same => by rw [show t = s from same]; exact chain.refl _) h
      refine settlesBind worlds (still CppSQLite3Query.settlesCheckStmt) fun _ =>
        settlesBind worlds (still CppSQLite3Query.settlesHandle) fun pStmt => ?_
      refine settlesBind worlds (settlesStep _ fun w v => kept _ w v rfl) fun nRet =>
        settlesIte (fun _ => settlesStill chain fun _ => rfl) fun _ => settlesIte (fun _ => settlesPure worlds _) fun _ => ?_
      refine settlesBind worlds (settlesFinalize _ fun w v => kept _ w v rfl) fun nRet =>
        settlesBind worlds (settlesStill chain fun _ => rfl) fun _ => ?_
      exact CppSQLite3Query.settlesMessage chain _ fun conn message w v called =>
        called.elim (kept _ w v rfl) fun called => called.elim (kept _ w v rfl) (kept _ w v rfl)
    | _ => exact absurd moves Bool.false_ne_true
  · rw [CppSQLite3Query.accessorStill client (Bool.not_eq_true _ |>.mp moves)]
    exact chain.refl _

theorem clearTableWorld (s : Scope World CppSQLite3ResultSet)
    (kept : ∀ table w v, Called (.freeTable table) w v → R w v) :
    R s.world (left (CppSQLite3ResultSet.clear s)).world := by
  simp only [CppSQLite3ResultSet.clear,bindApply,getApply]
  cases s.this.mpaszResults with
  | none => exact chain.refl _
  | some table => exact kept table.addr _ _ (calledPush _ _ _)

theorem stepWorld (s : System) (cmd : Command) (kept : ∀ c w v, cmd.makes c → Called c w v → R w v) :
    R s.world (step client s cmd).world := by
  have still := chain.refl s.world
  cases cmd with
  | operate k i op =>
    simp only [step]
    split
    · have settles : R s.world (left (CppSQLite3DB.perform client op ⟨s.world,s.databases k⟩)).world :=
        settlesLeft (CppSQLite3DB.settlesOperation chain op kept) ⟨s.world,s.databases k⟩
      cases result : CppSQLite3DB.perform client op ⟨s.world,s.databases k⟩ with
      | ok r t =>
        rw [result] at settles
        cases r <;> exact settles
      | error e t =>
        rw [result] at settles
        exact settles
    · exact still
  | query i request =>
    simp only [step]
    split
    · exact queryWorld chain request ⟨s.world,_⟩ kept
    · exact still
  | destroyQuery i =>
    simp only [step]
    split
    · exact queryWorld chain .clear ⟨s.world,_⟩ kept
    · exact still
  | assignQuery i j =>
    simp only [step]
    split
    · exact still
    · split
      · simp only [System.setQueries,assignedWorld]
        exact queryWorld chain .clear ⟨s.world,_⟩ kept
      · exact still
  | clearResultSet i =>
    simp only [step]
    split
    · exact clearTableWorld chain ⟨s.world,_⟩ fun table w v => kept _ w v rfl
    · exact still
  | destroyResultSet i =>
    simp only [step]
    split
    · exact clearTableWorld chain ⟨s.world,_⟩ fun table w v => kept _ w v rfl
    · exact still
  | assignResultSet i j =>
    simp only [step]
    split
    · exact still
    · split
      · have clears := fun t => clearTableWorld chain t fun table w v => kept (.freeTable table) w v rfl
        rename_i q r _ _
        have cleared := clears ⟨s.world,q⟩
        rw [← leftSwallow] at cleared
        simp only [System.setResultSets,CppSQLite3ResultSet.assign,bindApply]
        cases result : swallow CppSQLite3ResultSet.clear ⟨s.world,q⟩ with
        | ok a t => rw [result] at cleared; exact cleared
        | error e t => rw [result] at cleared; exact cleared
      · exact still
  | statement i request =>
    simp only [step]
    split
    · exact settlesLeft (CppSQLite3Statement.settlesRequest chain request kept) ⟨s.world,_⟩
    · exact still
  | destroyStatement i =>
    simp only [step]
    split
    · exact settlesLeft (CppSQLite3Statement.settlesRequest chain .clear kept) ⟨s.world,_⟩
    · exact still
  | execQuery i k =>
    simp only [step]
    split
    · rename_i o _ _
      have settles : R s.world (left (CppSQLite3Statement.execQuery client ⟨s.world,o⟩)).world :=
        settlesLeft (CppSQLite3Statement.settlesExecQuery chain (fun pStmt w v => kept _ w v rfl)
          fun pStmt w v => kept _ w v rfl) ⟨s.world,o⟩
      cases result : CppSQLite3Statement.execQuery client ⟨s.world,o⟩ with
      | ok q t => rw [result] at settles; exact settles
      | error e t => rw [result] at settles; exact settles
    · exact still
  | assignStatement i j =>
    simp only [step]
    split
    · exact still
    · split <;> exact still
  | newQuery i | copyQuery i j | newResultSet i | copyResultSet i j | nextRow i | seekRow i nRow | newStatement i
  | copyStatement i j =>
    simp only [step]
    split <;> exact still

end Worlds
end DatabaseLayer.SQLiteSystem
