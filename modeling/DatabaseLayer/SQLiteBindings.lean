import DatabaseLayer.SQLiteLifetimes

/-! The parameters of a prepared statement. The library keeps them with the statement, from one
execution to the next; here they go with the object that holds it, and with whichever takes it
over. -/
namespace DatabaseLayer.SQLiteBindings
open Platform SQLiteClient Foundation.Program Foundation.Objects Foundation.Run SQLiteRules SQLiteSystem SQLiteBooks
open SQLiteHandles SQLiteTenures SQLiteLifetimes
open CppSQLite3Statement (Request)
open CppSQLite3DB (Returned)

/-- The value of each parameter; one that was never bound is NULL. -/
abbrev Parameters := Int → Parameter

def unbound : Parameters := fun _ => .null

def isNaN (bits : UInt64) : Bool := 0x7FF0000000000000 < bits &&& 0x7FFFFFFFFFFFFFFF

/-- What the library keeps of a value: there is no double for a NaN. -/
def stored : Parameter → Parameter
  | .double bits => if isNaN bits then .null else .double bits
  | value => value

/-- What a bind leaves of its parameter, told by its answer. The old value is dropped before the
new one is looked at, unless there is no such parameter or the statement is running. -/
def settled (rc : Int) (value : Parameter) : Option Parameter :=
  if rc = SQLITE_OK then some (stored value)
  else if rc = SQLITE_RANGE ∨ rc = SQLITE_MISUSE then none
  else some .null

def Parameters.take (p : Parameters) (nParam : Int) : Option Parameter → Parameters
  | some value => Function.update p nParam value
  | none => p

/-- The parameters the library executes a statement with. -/
def bound (id : Nat) : History → Parameters
  | [] => unbound
  | e :: h => match e.call with
    | .bind stmt nParam value =>
      if stmt = id then (bound id h).take nParam (settled e.rc value) else bound id h
    | _ => bound id h

/-- What a call binds, if it is one that does. -/
def parameter : Request → Option (Int × Parameter)
  | .bindString nParam szValue => some (nParam,.text szValue)
  | .bindInt nParam nValue => some (nParam,.int nValue)
  | .bindDouble nParam dValue => some (nParam,.double dValue)
  | .bindBlob nParam blobValue => some (nParam,.blob blobValue)
  | .bindNull nParam => some (nParam,.null)
  | _ => none

section Objects
variable (client : Client)

/-- Whose parameters an object has after a command: its own, those of the object whose statement
it took over, or none yet. -/
def origin (s : System) (cmd : Command) (h : Holder) : Option Holder :=
  match cmd,h with
  | .operate _ i _,.query k | .operate _ i _,.statement k => if k = i ∧ s.Vacant i then none else some h
  | .copyQuery i j,.query k => if k = i ∧ s.queries i = none then some (.query j) else some h
  | .assignQuery i j,.query k => if k = i ∧ s.queries j ≠ none then some (.query j) else some h
  | .copyStatement i j,.statement k => if k = i ∧ s.statements i = none then some (.statement j) else some h
  | .assignStatement i j,.statement k => if k = i ∧ s.statements j ≠ none then some (.statement j) else some h
  | .execQuery i k,.query m => if m = i ∧ s.queries i = none then some (.statement k) else some h
  | _,_ => some h

/-- What a bind leaves of its parameter, told by whether it returns and what it throws. -/
def told (r : EStateM.Result Stop (Scope World CppSQLite3Statement) Unit) (value : Parameter) : Option Parameter :=
  match r with
  | .ok _ _ => settled SQLITE_OK value
  | .error (.thrown e) _ => settled e.nErrCode value
  | .error .undefined _ => none

/-- What a command leaves of a parameter of an object that holds a statement. -/
def binds (s : System) (cmd : Command) (h : Holder) : Option (Int × Parameter) :=
  match cmd,h with
  | .statement i request,.statement k => if k = i then (s.statements i).bind fun o => o.mpStmt.bind fun _ =>
      (parameter request).bind fun (nParam,value) =>
        (told (CppSQLite3Statement.perform client request ⟨s.world,o⟩) value).map (Prod.mk nParam) else none
  | _,_ => none

def carried (s : System) (p : Holder → Parameters) (cmd : Command) (h : Holder) : Parameters :=
  let before := (origin s cmd h).elim unbound p
  match binds client s cmd h with
  | some (nParam,value) => Function.update before nParam value
  | none => before

/-- A system with the parameters of its objects. -/
def follow (s : System × (Holder → Parameters)) (cmd : Command) : System × (Holder → Parameters) :=
  (step client s.1 cmd,carried client s.1 s.2 cmd)

end Objects

section Histories
variable {id : Nat} {h : History} {w v : World}

theorem boundBind (nParam : Int) (value : Parameter) (rc : Int) :
    bound id (⟨.bind id nParam value,rc⟩ :: h) = (bound id h).take nParam (settled rc value) := by
  simp [bound]

theorem boundOther {stmt : Nat} (other : stmt ≠ id) (nParam : Int) (value : Parameter) (rc : Int) :
    bound id (⟨.bind stmt nParam value,rc⟩ :: h) = bound id h := by
  simp [bound,other]

def isBind : Call → Bool
  | .bind _ _ _ => true
  | _ => false

theorem boundAside {e : Entry} (aside : isBind e.call = false) : bound id (e :: h) = bound id h := by
  obtain ⟨c,rc⟩ := e
  cases c with
  | bind stmt nParam value => cases aside
  | _ => rfl

/-- A statement no call was made on has no parameters. -/
theorem boundFresh (known : ∀ e ∈ h, ∀ j, onStatement j e → j < id) : bound id h = unbound := by
  induction h with
  | nil => rfl
  | cons e h ih =>
    have rest := ih fun f inside => known f (List.mem_cons_of_mem _ inside)
    obtain ⟨c,rc⟩ := e
    cases c with
    | bind stmt nParam value =>
      have below : stmt < id := known _ List.mem_cons_self stmt (by simp [onStatement,SQLiteTenures.target])
      exact (boundOther (Nat.ne_of_lt below) nParam value rc).trans rest
    | _ => exact rest

/-- The same parameters for every statement. -/
def SameBound (w v : World) : Prop := ∀ id, bound id v.log = bound id w.log

theorem chainBound : Chain SameBound := ⟨fun _ _ => rfl,fun _ _ _ first rest id => (rest id).trans (first id)⟩

theorem calledBound {c : Call} (aside : isBind c = false) (called : Called c w v) : SameBound w v := by
  obtain ⟨rc,log⟩ := called.log
  intro id
  rw [log]
  exact boundAside aside

end Histories

section Origins
variable (client : Client) {s : System}

theorem updated {f : Holder → Option Nat} {g h : Holder} {x : Option Nat} {id : Nat}
    (held : Function.update f g x h = some id) : (h = g ∧ x = some id) ∨ (h ≠ g ∧ f h = some id) := by
  by_cases own : h = g
  · subst own
    rw [Function.update_self] at held
    exact .inl ⟨rfl,held⟩
  · rw [Function.update_of_ne own] at held
    exact .inr ⟨own,held⟩

/-- What an object takes over is given up, and the others keep theirs. -/
theorem handedOver {f : Holder → Option Nat} {g k h : Holder} {x : Option Nat} {id : Nat}
    (held : Function.update (Function.update f k none) g x h = some id) : (h = g ∧ x = some id) ∨ (h ≠ g ∧ f h = some id) := by
  rcases updated held with took | ⟨away,rest⟩
  · exact .inl took
  · rcases updated rest with ⟨_,none⟩ | ⟨_,kept⟩
    · cases none
    · exact .inr ⟨away,kept⟩

/-- Whose statement an object holds after a command. -/
def Holds (s : System) (cmd : Command) (h : Holder) (id : Nat) : Prop :=
  match origin s cmd h with
  | some g => heldStatement s g = some id
  | none => id = s.world.nStmts

theorem stays {cmd : Command} {h : Holder} {id : Nat} (same : origin s cmd h = some h) (held : heldStatement s h = some id) :
    Holds s cmd h id := by
  unfold Holds
  rw [same]
  exact held

theorem operatedHeld {k i : Nat} {r : EStateM.Result Stop (Scope World CppSQLite3DB) Returned} {h : Holder} {id : Nat}
    (held : heldStatement (s.operated k i r) h = some id) :
    ((h = .query i ∨ h = .statement i) ∧ given stmtOf r = some id) ∨ heldStatement s h = some id := by
  cases r with
  | error e t => exact .inr held
  | ok r t =>
    cases r with
    | query q =>
      have put := queriesPut (s.setDatabase k t) t.world i (some q)
      rcases updated ((congrFun put h).symm.trans held) with ⟨own,took⟩ | ⟨_,kept⟩
      · exact .inl ⟨.inl own,took⟩
      · exact .inr kept
    | statement o =>
      have put := statementsPut (s.setDatabase k t) t.world i (some o)
      rcases updated ((congrFun put h).symm.trans held) with ⟨own,took⟩ | ⟨_,kept⟩
      · exact .inl ⟨.inr own,took⟩
      · exact .inr kept
    | _ => exact .inr held

theorem operateHolds (k i : Nat) (op : CppSQLite3DB.Operation) {h : Holder} {id : Nat}
    (held : heldStatement (step client s (.operate k i op)) h = some id) : Holds s (.operate k i op) h id := by
  have before (kept : heldStatement s h = some id) : Holds s (.operate k i op) h id := by
    refine stays ?_ kept
    cases h with
    | query m | statement m =>
      refine if_neg fun ⟨same,free⟩ => ?_
      simp [heldStatement,same,free.1,free.2.2] at kept
  simp only [step] at held
  split at held
  · rename_i free
    rcases operatedHeld held with ⟨own,new⟩ | kept
    · by_cases named : names op = true
      · have none : origin s (.operate k i op) h = none := by
          rcases own with rfl | rfl
          · exact if_pos ⟨rfl,free named⟩
          · exact if_pos ⟨rfl,free named⟩
        unfold Holds
        rw [none]
        obtain ⟨_,nothing⟩ | ⟨_,_,fresh⟩ | ⟨_,_,nothing⟩ := operationStatements client op ⟨s.world,s.databases k⟩
        · cases nothing.symm.trans new
        · exact (Option.some.inj (fresh.symm.trans new)).symm
        · cases nothing.symm.trans new
      · have nothing : given stmtOf (CppSQLite3DB.perform client op ⟨s.world,s.databases k⟩) = none :=
          givenNameless (fun r plain => by cases r <;> first | rfl | cases plain) ((Bool.not_eq_true _).mp named) _
        cases nothing.symm.trans new
    · exact before kept
  · exact before held

theorem copyQueryHolds (i j : Nat) {h : Holder} {id : Nat}
    (held : heldStatement (step client s (.copyQuery i j)) h = some id) : Holds s (.copyQuery i j) h id := by
  have before (away : s.queries i = none → h ≠ .query i) (kept : heldStatement s h = some id) :
      Holds s (.copyQuery i j) h id := by
    refine stays ?_ kept
    cases h with
    | statement m => rfl
    | query m => exact if_neg fun named => away named.2 (congrArg _ named.1)
  simp only [step] at held
  split at held
  · rename_i q free source
    rcases handedOver ((congrFun (queriesCopied s s.world i j rfl) h).symm.trans held) with ⟨own,took⟩ | ⟨away,kept⟩
    · subst own
      unfold Holds
      rw [origin,if_pos ⟨rfl,free⟩]
      simpa [heldStatement,source,CppSQLite3Query.copy] using took
    · exact before (fun _ => away) kept
  · refine before (fun free own => ?_) held
    simp [own,heldStatement,free] at held

theorem assignQueryHolds (i j : Nat) {h : Holder} {id : Nat}
    (held : heldStatement (step client s (.assignQuery i j)) h = some id) : Holds s (.assignQuery i j) h id := by
  have before (away : s.queries j ≠ none → h = .query i → i = j) (kept : heldStatement s h = some id) :
      Holds s (.assignQuery i j) h id := by
    by_cases own : h = .query i ∧ s.queries j ≠ none
    · obtain ⟨rfl,present⟩ := own
      unfold Holds
      rw [origin,if_pos ⟨rfl,present⟩]
      exact away present rfl ▸ kept
    · refine stays ?_ kept
      cases h with
      | statement m => rfl
      | query m => exact if_neg fun named => own ⟨congrArg _ named.1,named.2⟩
  simp only [step] at held
  split at held
  · rename_i same
    exact before (fun _ _ => same) held
  · split at held
    · rename_i q r target source
      have emptied := (clearFinalizes client ⟨s.world,q⟩).2
      rw [assignQueryApply] at held
      dsimp only at held
      cases result : swallow (CppSQLite3Query.clear client) ⟨s.world,q⟩ with
      | error e t =>
        rw [result] at held
        have put := (congrFun (queriesPut s _ i _) h).symm.trans held
        rw [Option.bind_some,emptied] at put
        rcases updated put with ⟨_,none⟩ | ⟨away,kept⟩
        · cases none
        · exact before (fun _ own => absurd own away) kept
      | ok a t =>
        rw [result] at held
        rcases handedOver ((congrFun (queriesCopied s _ i j rfl) h).symm.trans held) with ⟨own,took⟩ | ⟨away,kept⟩
        · subst own
          unfold Holds
          rw [origin,if_pos ⟨rfl,by rw [source]; exact Option.some_ne_none r⟩]
          simpa [heldStatement,source] using took
        · exact before (fun _ own => absurd own away) kept
    · rename_i absent
      refine before (fun present own => ?_) held
      obtain ⟨r,source⟩ := Option.ne_none_iff_exists'.mp present
      cases target : s.queries i with
      | none => simp [own,heldStatement,target] at held
      | some q => exact absurd source (absent q r target)

theorem copyStatementHolds (i j : Nat) {h : Holder} {id : Nat}
    (held : heldStatement (step client s (.copyStatement i j)) h = some id) : Holds s (.copyStatement i j) h id := by
  have before (away : s.statements i = none → h ≠ .statement i) (kept : heldStatement s h = some id) :
      Holds s (.copyStatement i j) h id := by
    refine stays ?_ kept
    cases h with
    | query m => rfl
    | statement m => exact if_neg fun named => away named.2 (congrArg _ named.1)
  simp only [step] at held
  split at held
  · rename_i o free source
    rcases handedOver ((congrFun (statementsCopied s s.world i j rfl) h).symm.trans held) with ⟨own,took⟩ | ⟨away,kept⟩
    · subst own
      unfold Holds
      rw [origin,if_pos ⟨rfl,free⟩]
      simpa [heldStatement,source,CppSQLite3Statement.copy] using took
    · exact before (fun _ => away) kept
  · refine before (fun free own => ?_) held
    simp [own,heldStatement,free] at held

theorem assignStatementHolds (i j : Nat) {h : Holder} {id : Nat}
    (held : heldStatement (step client s (.assignStatement i j)) h = some id) : Holds s (.assignStatement i j) h id := by
  have before (away : s.statements j ≠ none → h = .statement i → i = j) (kept : heldStatement s h = some id) :
      Holds s (.assignStatement i j) h id := by
    by_cases own : h = .statement i ∧ s.statements j ≠ none
    · obtain ⟨rfl,present⟩ := own
      unfold Holds
      rw [origin,if_pos ⟨rfl,present⟩]
      exact away present rfl ▸ kept
    · refine stays ?_ kept
      cases h with
      | query m => rfl
      | statement m => exact if_neg fun named => own ⟨congrArg _ named.1,named.2⟩
  simp only [step] at held
  split at held
  · rename_i same
    exact before (fun _ _ => same) held
  · split at held
    · rename_i o r target source
      rcases handedOver ((congrFun (statementsCopied s _ i j rfl) h).symm.trans held) with ⟨own,took⟩ | ⟨away,kept⟩
      · subst own
        unfold Holds
        rw [origin,if_pos ⟨rfl,by rw [source]; exact Option.some_ne_none r⟩]
        simpa [heldStatement,source] using took
      · exact before (fun _ own => absurd own away) kept
    · rename_i absent
      refine before (fun present own => ?_) held
      obtain ⟨r,source⟩ := Option.ne_none_iff_exists'.mp present
      cases target : s.statements i with
      | none => simp [own,heldStatement,target] at held
      | some q => exact absurd source (absent q r target)

theorem execQueryHolds (i k : Nat) {h : Holder} {id : Nat}
    (held : heldStatement (step client s (.execQuery i k)) h = some id) : Holds s (.execQuery i k) h id := by
  have before (away : s.queries i = none → h ≠ .query i) (kept : heldStatement s h = some id) :
      Holds s (.execQuery i k) h id := by
    refine stays ?_ kept
    cases h with
    | statement m => rfl
    | query m => exact if_neg fun named => away named.2 (congrArg _ named.1)
  simp only [step] at held
  split at held
  · rename_i o free live
    have hands := runHands client ⟨s.world,o⟩
    cases result : CppSQLite3Statement.execQuery client ⟨s.world,o⟩ with
    | error e t =>
      rw [result] at held hands
      rcases updated ((congrFun (statementsPut s t.world k (some t.this)) h).symm.trans held) with ⟨own,same⟩ | ⟨_,kept⟩
      · rw [Option.bind_some,hands] at same
        refine before (fun _ there => Holder.noConfusion (own.symm.trans there)) ?_
        simpa [own,heldStatement,live] using same
      · refine before (fun none own => ?_) kept
        simp [own,heldStatement,none] at kept
    | ok q t =>
      rw [result] at held hands
      have first := statementsPut s t.world k (some t.this)
      rw [Option.bind_some,hands.2] at first
      have put := queriesPut (s.setStatements (t.world,Function.update s.statements k (some t.this))) t.world i (some q)
      rw [first,Option.bind_some,hands.1] at put
      rcases handedOver ((congrFun put h).symm.trans held) with ⟨own,took⟩ | ⟨away,kept⟩
      · subst own
        unfold Holds
        rw [origin,if_pos ⟨rfl,free⟩]
        simpa [heldStatement,live] using took
      · exact before (fun _ => away) kept
  · refine before (fun free own => ?_) held
    simp [own,heldStatement,free] at held

/-- Where the statement of an object comes from. -/
theorem heldOrigin (cmd : Command) {h : Holder} {id : Nat} (held : heldStatement (step client s cmd) h = some id) :
    Holds s cmd h id := by
  cases cmd with
  | operate k i op => exact operateHolds client k i op held
  | copyQuery i j => exact copyQueryHolds client i j held
  | assignQuery i j => exact assignQueryHolds client i j held
  | copyStatement i j => exact copyStatementHolds client i j held
  | assignStatement i j => exact assignStatementHolds client i j held
  | execQuery i k => exact execQueryHolds client i k held
  | query i request =>
    refine stays rfl ?_
    simp only [step] at held
    split at held
    · rename_i q live
      rcases updated ((congrFun (queriesPut s _ i _) h).symm.trans held) with ⟨own,now⟩ | ⟨_,kept⟩
      · subst own
        rcases (queryKeepsOrFinalizes client request ⟨s.world,q⟩).imp And.right And.right with same | gone
        · rw [Option.bind_some,same] at now
          simpa [heldStatement,live] using now
        · rw [Option.bind_some,gone] at now
          cases now
      · exact kept
    · exact held
  | destroyQuery i =>
    refine stays rfl ?_
    simp only [step] at held
    split at held
    · rcases updated ((congrFun (queriesPut s _ i none) h).symm.trans held) with ⟨_,none⟩ | ⟨_,kept⟩
      · cases none
      · exact kept
    · exact held
  | statement i request =>
    refine stays rfl ?_
    simp only [step] at held
    split at held
    · rename_i o live
      rcases updated ((congrFun (statementsPut s _ i _) h).symm.trans held) with ⟨own,now⟩ | ⟨_,kept⟩
      · subst own
        by_cases clears : request = .clear
        · subst clears
          rw [Option.bind_some] at now
          cases (clearStatement client ⟨s.world,o⟩).2.symm.trans now
        · rw [Option.bind_some,requestKeeps client clears] at now
          simpa [heldStatement,live] using now
      · exact kept
    · exact held
  | destroyStatement i =>
    refine stays rfl ?_
    simp only [step] at held
    split at held
    · rcases updated ((congrFun (statementsPut s _ i none) h).symm.trans held) with ⟨_,none⟩ | ⟨_,kept⟩
      · cases none
      · exact kept
    · exact held
  | newQuery i =>
    refine stays rfl ?_
    simp only [step] at held
    split at held
    · rcases updated ((congrFun (queriesPut s s.world i _) h).symm.trans held) with ⟨_,none⟩ | ⟨_,kept⟩
      · cases none
      · exact kept
    · exact held
  | newStatement i =>
    refine stays rfl ?_
    simp only [step] at held
    split at held
    · rcases updated ((congrFun (statementsPut s s.world i _) h).symm.trans held) with ⟨_,none⟩ | ⟨_,kept⟩
      · cases none
      · exact kept
    · exact held
  | assignResultSet i j =>
    refine stays rfl ?_
    simp only [step] at held
    split at held
    · exact held
    · split at held <;> exact held
  | newResultSet i | copyResultSet i j | nextRow i | seekRow i nRow | clearResultSet i | destroyResultSet i =>
    refine stays rfl ?_
    simp only [step] at held
    split at held <;> exact held

end Origins

section Steps
variable {client : Client} {s : System} {p : Holder → Parameters}

def binding : Command → Bool
  | .statement _ request => (parameter request).isSome
  | _ => false

theorem asideBound {cmd : Command} (aside : binding cmd = false) : SameBound s.world (step client s cmd).world := by
  refine stepWorld chainBound s cmd fun c w v makes called => calledBound ?_ called
  cases cmd with
  | statement i request =>
    cases request with
    | bindString nParam szValue | bindInt nParam nValue | bindDouble nParam dValue | bindBlob nParam blobValue
    | bindNull nParam => cases aside
    | _ => cases c <;> first | rfl | cases makes
  | operate k i op => cases op <;> cases c <;> first | rfl | cases makes
  | _ => cases c <;> first | rfl | cases makes

theorem asideBinds {cmd : Command} (aside : binding cmd = false) (h : Holder) : binds client s cmd h = none := by
  cases cmd with
  | statement i request =>
    have nothing : parameter request = none := Option.not_isSome_iff_eq_none.mp ((Bool.not_eq_true _).mpr aside)
    cases h with
    | query m => rfl
    | statement m => simp [binds,nothing]
  | _ => rfl

theorem performBinds (client : Client) {request : Request} {nParam : Int} {value : Parameter}
    (gives : parameter request = some (nParam,value)) :
    ∃ kind, CppSQLite3Statement.perform client request = CppSQLite3Statement.bindAs client kind nParam value := by
  cases request with
  | bindString nParam szValue | bindInt nParam nValue | bindDouble nParam dValue | bindBlob nParam blobValue
  | bindNull nParam => cases gives; exact ⟨_,rfl⟩
  | _ => cases gives

/-- What the library has for the statement of each object. -/
def Kept (s : System) (p : Holder → Parameters) : Prop :=
  ∀ h id, heldStatement s h = some id → bound id s.world.log = p h

theorem asideKept {cmd : Command} (aside : binding cmd = false) (alive : Alive s) (kept : Kept s p) :
    Kept (step client s cmd) (carried client s p cmd) := by
  intro h id held
  have own : carried client s p cmd h = (origin s cmd h).elim unbound p := by simp [carried,asideBinds aside]
  have comes := heldOrigin client cmd held
  rw [own,asideBound aside id]
  unfold Holds at comes
  cases source : origin s cmd h with
  | some g =>
    rw [source] at comes
    exact kept g id comes
  | none =>
    rw [source] at comes
    subst comes
    exact boundFresh alive.known

/-- What a bind changes: the parameter, for the statement it was called on. -/
theorem bindAsBound (kind : String) (nParam : Int) (value : Parameter) (u : Scope World CppSQLite3Statement) (id : Nat) :
    let r := CppSQLite3Statement.bindAs client kind nParam value u
    bound id (left r).world.log = if u.this.mpStmt = some id then (bound id u.world.log).take nParam (told r value)
      else bound id u.world.log := by
  cases own : u.this.mpStmt with
  | none =>
    have refused : CppSQLite3Statement.bindAs client kind nParam value u =
        CppSQLite3Statement.refused "Null Virtual Machine pointer" u := by
      simp only [CppSQLite3Statement.bindAs,bindApply,CppSQLite3Statement.checkStmtNone own]
      rfl
    rw [refused]
    simp only [reduceCtorEq,if_false]
    rfl
  | some pStmt =>
    rw [CppSQLite3Statement.bindAsApply client own]
    dsimp only
    by_cases mine : pStmt = id
    · subst mine
      rw [if_pos rfl]
      split
      · exact boundBind nParam value _
      · rename_i fine
        rw [leftOk,told,← not_not.mp fine]
        exact boundBind nParam value _
    · rw [if_neg fun same => mine (Option.some.inj same)]
      split <;> exact boundOther mine nParam value _

theorem heldApart (sound : BooksSound s) {g h : Holder} {id : Nat} (first : heldStatement s g = some id)
    (second : heldStatement s h = some id) : g = h := sound.statements.apart g h id first second

/-- The parameter is bound for the object it was called on, and the others keep theirs. -/
theorem bindingKept {i : Nat} {request : Request} {nParam : Int} {value : Parameter}
    (gives : parameter request = some (nParam,value)) (alive : Alive s) (kept : Kept s p) :
    Kept (step client s (.statement i request)) (carried client s p (.statement i request)) := by
  intro h id held
  obtain ⟨kind,performs⟩ := performBinds client gives
  have before : heldStatement s h = some id := heldOrigin client (.statement i request) held
  have was := kept h id before
  cases live : s.statements i with
  | none =>
    have silent : binds client s (.statement i request) h = none := by cases h <;> simp [binds,live]
    simp only [carried,silent,step,live]
    exact was
  | some o =>
    have now : bound id (step client s (.statement i request)).world.log = _ :=
      (congrArg (fun w : World => bound id w.log) (by simp only [step,live,performs]; rfl)).trans
        (bindAsBound kind nParam value ⟨s.world,o⟩ id)
    rw [now]
    have mine : o.mpStmt = some id ↔ h = .statement i := by
      have own : heldStatement s (.statement i) = o.mpStmt := by simp [heldStatement,live]
      constructor
      · intro same
        exact heldApart alive.books before (own.trans same)
      · rintro rfl
        exact own.symm.trans before
    split
    · rename_i same
      change o.mpStmt = some id at same
      obtain rfl := mine.mp same
      simp only [carried,binds,live,same,gives,performs,Option.bind_some,if_true]
      cases told (CppSQLite3Statement.bindAs client kind nParam value ⟨s.world,o⟩) value with
      | none => exact was
      | some left => exact congrArg (fun f => Function.update f nParam left) was
    · rename_i other
      have silent : binds client s (.statement i request) h = none := by
        cases h with
        | query m => rfl
        | statement m => exact if_neg fun same => other (mine.mpr (congrArg _ same))
      simp only [carried,silent]
      exact was

theorem keptStep (cmd : Command) (alive : Alive s) (kept : Kept s p) :
    Kept (step client s cmd) (carried client s p cmd) := by
  cases aside : binding cmd with
  | false => exact asideKept aside alive kept
  | true =>
    cases cmd with
    | statement i request =>
      obtain ⟨⟨nParam,value⟩,gives⟩ := Option.isSome_iff_exists.mp aside
      exact bindingKept gives alive kept
    | _ => cases aside

end Steps

/-- In every run, what the library executes the statement of an object with is what was bound
through the objects that held it, in that order, and nothing else. -/
theorem parametersCarried (client : Client) (cmds : List Command) :
    Throughout (follow client) (fun s => ∀ h id, heldStatement s.1 h = some id → bound id s.1.world.log = s.2 h)
      (.initial,fun _ => unbound) cmds := by
  have start : Alive (System.initial) ∧ Kept .initial fun _ => unbound :=
    ⟨⟨initialBooks.1,nofun,trivial⟩,fun h id held => by cases h <;> cases held⟩
  refine throughoutMono (fun s both => both.2) (invariantThroughout
    (I := fun s : System × (Holder → Parameters) => Alive s.1 ∧ Kept s.1 s.2) (fun s cmd both => ?_) start cmds)
  exact ⟨aliveStep client s.1 cmd both.1,keptStep cmd both.1 both.2⟩

end DatabaseLayer.SQLiteBindings
