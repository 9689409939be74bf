import DatabaseLayer.Foundation.Run
import DatabaseLayer.MySQLStatement

/-! Bound values between bind and execution, over any number of statements. A bind keeps an
address; what the library finds there is whatever the last bind of that type stored,
by whichever statement. -/
namespace DatabaseLayer.MySQLBinding
open Platform MySQLClient Foundation.Program Foundation.Run CppMySQLStatement

/-- The parameter a request binds, by number, and the value passed. -/
def given : Request → Option (Int × BoundValue)
  | .bindString nParam szValue => some (wrapInt nParam,.string szValue.bytes)
  | .bindInt nParam nValue => some (wrapInt nParam,.long nValue)
  | .bindDouble nParam dwValue => some (wrapInt nParam,.double dwValue)
  | _ => none

/-- Statements over one client library, with the values accepted for each parameter since
its statement was last executed or reset, and the last integer and double any bind got. -/
structure Session where
  pool : Pool World CppMySQLStatement
  values : Nat → Int → Option BoundValue
  lastInt : Int
  lastDouble : UInt64

def Session.start (pool : Pool World CppMySQLStatement) : Session :=
  ⟨pool,fun _ _ => none,pool.world.sNValue,pool.world.sDwValue⟩

/-- An accepted bind adds its value, any other request that returns ends the collecting. -/
def valuesAfter (values : Int → Option BoundValue) (r : Request) : Int → Option BoundValue :=
  match given r with
  | some (i,v) => Function.update values i (some v)
  | none => fun _ => none

def intAfter (lastInt : Int) : Request → Int
  | .bindInt _ nValue => nValue
  | _ => lastInt

def doubleAfter (lastDouble : UInt64) : Request → UInt64
  | .bindDouble _ dwValue => dwValue
  | _ => lastDouble

section
variable (client : Client)

def step (s : Session) (e : Nat × Request) : Session :=
  let r := perform client e.2 (s.pool.scope e.1)
  ⟨s.pool.put e.1 (left r),
    bif returned r then Function.update s.values e.1 (valuesAfter (s.values e.1) e.2) else s.values,
    intAfter s.lastInt e.2,doubleAfter s.lastDouble e.2⟩

/-- What the library reads for every parameter is what the statement was given for it. -/
def ReadsGiven (s : Session) (k : Nat) (params : List (Option BoundValue)) : Prop :=
  (s.pool.objects k).mnParamsCount = params.length ∧
    ∀ i, i < params.length → params[i]? = some (s.values k (i + 1))

/-- Every execution a request asks the library for reads the values given. -/
def Survives (s : Session) (e : Nat × Request) : Prop :=
  ∀ asked, executions (step client s e).pool.world.log = asked ++ executions s.pool.world.log →
    ∀ params ∈ asked, ReadsGiven s e.1 params

/-- A value is still there if no later bind of its type stored another one, and a text
if its length passes through an int. -/
def Intact (s : Session) : BoundValue → Prop
  | .long value => value = s.lastInt
  | .double bits => bits = s.lastDouble
  | .string bytes => lengthThroughInt bytes.length = bytes.length

/-- Whenever execution comes as far as the library, the values given are intact. -/
def StillIntact (s : Session) (e : Nat × Request) : Prop :=
  e.2 = .execDML → reached client (s.pool.scope e.1) ≠ none →
    ∀ i : Nat, i < (s.pool.objects e.1).mnParamsCount → ∀ v ∈ s.values e.1 (i + 1), Intact s v

end

def Binds (b : MysqlBind) : BoundValue → Prop
  | .long _ => b = ⟨.long,.sNValue,4⟩
  | .double _ => b = ⟨.double,.sDwValue,8⟩
  | .string bytes => ∃ szValue : CString, szValue.bytes = bytes ∧
      b = ⟨.string,.caller szValue,lengthThroughInt szValue.strlen⟩

/-- The pending entries are those of the values given, in order. -/
structure Pending (o : CppMySQLStatement) (values : Int → Option BoundValue) : Prop where
  index : ∀ array ∈ o.mpBindArray, o.mnBindIndex = array.value.length ∧ array.value.length ≤ 1025
  entries : ∀ array ∈ o.mpBindArray, ∀ (i : Nat) b, array.value[i]? = some b →
    ∃ v, values (i + 1) = some v ∧ Binds b v

structure Tracked (s : Session) : Prop where
  pending : ∀ k, Pending (s.pool.objects k) (s.values k)
  int : s.lastInt = s.pool.world.sNValue
  double : s.lastDouble = s.pool.world.sDwValue

section Reading
variable {s : Session}

theorem readIff (tracked : Tracked s) {b : MysqlBind} {v : BoundValue} (binds : Binds b v) :
    b.read s.pool.world = some v ↔ Intact s v := by
  cases v with
  | long value =>
    cases binds
    simp [MysqlBind.read,Intact,tracked.int,eq_comm]
  | double bits =>
    cases binds
    simp [MysqlBind.read,Intact,tracked.double,eq_comm]
  | string bytes =>
    obtain ⟨szValue,rfl,rfl⟩ := binds
    rw [readCaller]
    by_cases fits : lengthThroughInt szValue.strlen ≤ szValue.strlen
    · rw [if_pos fits,Option.some.injEq,BoundValue.string.injEq,List.take_eq_self_iff]
      exact ⟨Nat.le_antisymm fits,fun same => Nat.le_of_eq same.symm⟩
    · rw [if_neg fits]
      exact iff_of_false nofun (fun same => fits (Nat.le_of_eq same))

theorem wrapIntCount {n : Nat} (h : n ≤ 1025) : wrapInt n = n := by
  rw [wrapIntId] <;> omega

end Reading

section Step
variable {client : Client}

theorem boundPosition {nParam : Int} {n : Nat} (small : n ≤ 1025)
    (h : (n : Int) = wrapInt (nParam - 1)) : wrapInt nParam = n + 1 := by
  unfold wrapInt at h ⊢
  omega

theorem bindPending {s : Scope World CppMySQLStatement} {values : Int → Option BoundValue} (nParam : Int)
    {type : FieldType} {buffer : Buffer} {length : Nat} (v : BoundValue)
    (pending : Pending s.this values) (binds : Binds ⟨type,buffer,length⟩ v) :
    let r := realBind (wrapInt (nParam - 1)) type buffer length s
    Pending (left r).this (bif returned r then Function.update values (wrapInt nParam) (some v) else values) ∧
      (left r).world = s.world := by
  intro r
  have result : r = _ := realBindApply (wrapInt (nParam - 1)) type buffer length s
  rw [result]
  split
  · exact ⟨pending,rfl⟩
  split
  · exact ⟨pending,rfl⟩
  rename_i inRange atIndex
  cases array : s.this.mpBindArray with
  | none => exact ⟨pending,rfl⟩
  | some a =>
    obtain ⟨index,bound⟩ := pending.index a array
    have position : (a.value.length : Int) = wrapInt (nParam - 1) := by
      rw [← index]
      exact not_not.mp atIndex
    have key := boundPosition bound position
    have room : a.value.length ≤ 1024 := by omega
    have next : wrapInt (s.this.mnBindIndex + 1) = (a.value.length : Int) + 1 := by
      rw [index,wrapIntId] <;> omega
    refine ⟨⟨fun b hb => ?_,fun b hb i e he => ?_⟩,rfl⟩
    · cases hb
      simp only [leftOk,next,List.length_append,List.length_cons,List.length_nil]
      omega
    · cases hb
      simp only [returned,cond_true]
      by_cases last : i = a.value.length
      · subst last
        simp only [List.getElem?_concat_length,Option.some.injEq] at he
        subst he
        exact ⟨v,by rw [key,Function.update_self],binds⟩
      · have before : i < a.value.length := by
          obtain ⟨inside,_⟩ := List.getElem?_eq_some_iff.mp he
          simp only [List.length_append,List.length_cons,List.length_nil] at inside
          omega
        rw [List.getElem?_append_left before] at he
        obtain ⟨u,hu,ub⟩ := pending.entries a array i e he
        refine ⟨u,?_,ub⟩
        rw [Function.update_of_ne (by rw [key]; omega),hu]

theorem emptiedPending (o : CppMySQLStatement) (values : Int → Option BoundValue) :
    Pending (clearBindings o) values := by
  cases array : o.mpBindArray with
  | none => exact ⟨by simp [clearBindings,array],by simp [clearBindings,array]⟩
  | some a => exact ⟨by simp [clearBindings,array],by simp [clearBindings,array]⟩

/-- One request on a statement: its pending entries, the statics, and the executions asked for. -/
structure Effect (client : Client) (s : Scope World CppMySQLStatement) (values : Int → Option BoundValue)
    (r : Request) : Prop where
  pending : Pending (left (perform client r s)).this
    (bif returned (perform client r s) then valuesAfter values r else values)
  int : (left (perform client r s)).world.sNValue = intAfter s.world.sNValue r
  double : (left (perform client r s)).world.sDwValue = doubleAfter s.world.sDwValue r
  asked : executions (left (perform client r s)).world.log =
    (if r = .execDML then (reached client s).toList.map (List.map (MysqlBind.read s.world)) else []) ++
      executions s.world.log

theorem silentEffect {s : Scope World CppMySQLStatement} {values : Int → Option BoundValue} {r : Request}
    {w : World} (silent : r ≠ .execDML)
    (after : Pending (left (perform client r s)).this
      (bif returned (perform client r s) then valuesAfter values r else values) ∧
      (left (perform client r s)).world = w)
    (int : w.sNValue = intAfter s.world.sNValue r) (double : w.sDwValue = doubleAfter s.world.sDwValue r)
    (asked : executions w.log = executions s.world.log) : Effect client s values r := by
  obtain ⟨pending,rfl⟩ := after
  exact ⟨pending,int,double,by rw [if_neg silent]; exact asked⟩

theorem requestEffect (client : Client) {s : Scope World CppMySQLStatement} {values : Int → Option BoundValue}
    (pending : Pending s.this values) (r : Request) : Effect client s values r := by
  cases r with
  | bindString nParam szValue =>
    exact silentEffect nofun (bindPending nParam (.string szValue.bytes) pending ⟨szValue,rfl,rfl⟩) rfl rfl rfl
  | bindInt nParam nValue =>
    exact silentEffect nofun (bindPending (s := ⟨{s.world with sNValue := nValue},s.this⟩)
      nParam (.long nValue) pending rfl) rfl rfl rfl
  | bindDouble nParam dwValue =>
    exact silentEffect nofun (bindPending (s := ⟨{s.world with sDwValue := dwValue},s.this⟩)
      nParam (.double dwValue) pending rfl) rfl rfl rfl
  | reset =>
    have result := resetApply client s
    refine silentEffect (w := (left (CppMySQLStatement.reset client s)).world) nofun ⟨?_,rfl⟩ ?_ ?_ ?_
    · change Pending (left (CppMySQLStatement.reset client s)).this
        (bif returned (CppMySQLStatement.reset client s) then _ else _)
      rw [result]
      cases s.this.mpStmt with
      | none => exact pending
      | some stmt => exact emptiedPending _ _
    · rw [result]
      cases s.this.mpStmt <;> rfl
    · rw [result]
      cases s.this.mpStmt <;> rfl
    · rw [result]
      cases s.this.mpStmt <;> rfl
  | clear =>
    have result := clearApply s
    refine silentEffect (w := (left (CppMySQLStatement.clear s)).world) nofun ⟨?_,rfl⟩ ?_ ?_ ?_
    · change Pending (left (CppMySQLStatement.clear s)).this
        (bif returned (CppMySQLStatement.clear s) then _ else _)
      rw [result]
      cases s.this.mpStmt <;> exact ⟨by simp,by simp⟩
    · rw [result]
      cases s.this.mpStmt <;> rfl
    · rw [result]
      cases s.this.mpStmt <;> rfl
    · rw [result]
      cases s.this.mpStmt <;> rfl
  | execDML =>
    have executed := executeExecuted client s
    have performed : perform client .execDML s = match execDML client s with
        | .ok _ t => .ok ⟨⟩ t
        | .error e t => .error e t := by
      simp only [perform,bindApply]
      cases execDML client s <;> rfl
    rw [execDMLApply] at performed
    cases ran : execute client s with
    | error e t =>
      rw [ran] at executed performed
      obtain ⟨asked,⟨int,double⟩,failed,_⟩ := executed
      refine ⟨?_,?_,?_,?_⟩
      · rw [performed]
        exact (failed rfl).symm ▸ pending
      · rw [performed]
        exact int
      · rw [performed]
        exact double
      · rw [performed,if_pos rfl]
        exact asked
    | ok a t =>
      rw [ran] at executed performed
      obtain ⟨asked,⟨int,double⟩,_,succeeded⟩ := executed
      obtain ⟨stmt,_,this⟩ := succeeded rfl
      obtain ⟨stmt',held⟩ := Option.ne_none_iff_exists'.mp stmt
      have kept : t.this.mpStmt = some stmt' := by
        have field := congrArg CppMySQLStatement.mpStmt this
        exact field.trans held
      simp only [kept] at performed
      refine ⟨?_,?_,?_,?_⟩
      · rw [performed]
        exact this ▸ emptiedPending _ _
      · rw [performed]
        exact int
      · rw [performed]
        exact double
      · rw [performed,if_pos rfl]
        exact asked

theorem stepValues (s : Session) (k : Nat) (r : Request) : (step client s (k,r)).values =
    bif returned (perform client r (s.pool.scope k)) then Function.update s.values k (valuesAfter (s.values k) r)
    else s.values := rfl

theorem trackedStep (s : Session) (e : Nat × Request) (tracked : Tracked s) :
    Tracked (step client s e) := by
  obtain ⟨k,r⟩ := e
  have effect := requestEffect client (s := s.pool.scope k) (tracked.pending k) r
  refine ⟨fun j => ?_,?_,?_⟩
  · by_cases own : j = k
    · subst own
      have after := effect.pending
      rw [stepValues,show (step client s (j,r)).pool.objects j = _ from putSelf _ _ _]
      revert after
      cases returned (perform client r (s.pool.scope j)) with
      | true =>
        simp only [cond_true,Function.update_self]
        exact id
      | false => exact id
    · have kept := tracked.pending j
      rw [stepValues,show (step client s (k,r)).pool.objects j = _ from putOther _ _ own]
      cases returned (perform client r (s.pool.scope k)) with
      | true =>
        simp only [cond_true,Function.update_of_ne own]
        exact kept
      | false => exact kept
  · exact (congrArg (intAfter · r) tracked.int).trans effect.int.symm
  · exact (congrArg (doubleAfter · r) tracked.double).trans effect.double.symm

theorem reachedEntries {s : Session} {k : Nat} (tracked : Tracked s) {bs : List MysqlBind}
    (comes : reached client (s.pool.scope k) = some bs) :
    (s.pool.objects k).mnParamsCount = bs.length ∧
      ∀ (i : Nat) b, bs[i]? = some b → ∃ v, s.values k (i + 1) = some v ∧ Binds b v := by
  unfold reached at comes
  cases stmt : (s.pool.scope k).this.mpStmt with
  | none => simp [stmt] at comes
  | some stmt' =>
    cases array : (s.pool.scope k).this.mpBindArray with
    | none => simp [stmt,array] at comes
    | some a =>
      simp only [stmt,array] at comes
      split at comes
      · rename_i ready
        cases comes
        have pending := tracked.pending k
        obtain ⟨_,small⟩ := pending.index a array
        refine ⟨?_,pending.entries a array⟩
        rw [← wrapIntCount small]
        exact ready.2.1
      · cases comes

/-- A request reads the values given exactly if they are intact when it executes. -/
theorem survivesIff (s : Session) (e : Nat × Request) (tracked : Tracked s) :
    Survives client s e ↔ StillIntact client s e := by
  obtain ⟨k,r⟩ := e
  have log : executions (step client s (k,r)).pool.world.log = _ :=
    (requestEffect client (s := s.pool.scope k) (tracked.pending k) r).asked
  unfold Survives StillIntact
  rw [log]
  by_cases runs : r = .execDML
  · subst runs
    cases comes : reached client (s.pool.scope k) with
    | none =>
      refine iff_of_true (fun es same params asked => ?_) (fun _ reach => absurd rfl reach)
      have none := List.append_cancel_right same
      simp only [if_true,Option.toList_none,List.map_nil] at none
      subst none
      cases asked
    | some bs =>
      obtain ⟨count,entries⟩ := reachedEntries tracked comes
      have reads : ReadsGiven s k (bs.map (MysqlBind.read s.pool.world)) ↔
          ∀ i : Nat, i < (s.pool.objects k).mnParamsCount → ∀ v ∈ s.values k (i + 1), Intact s v := by
        simp only [ReadsGiven,List.length_map,count,true_and,Int.ofNat_lt]
        refine forall_congr' fun i => forall_congr' fun below => ?_
        have inside := List.getElem?_eq_getElem below
        obtain ⟨v,given,binds⟩ := entries i _ inside
        rw [List.getElem?_map,inside,given,Option.map_some,Option.some.injEq,readIff tracked binds]
        simp
      constructor
      · intro survives _ _
        exact reads.mp (survives _ rfl _ (by simp [Pool.scope]))
      · intro intact es same params asked
        have only := List.append_cancel_right same
        simp only [if_true,Option.toList_some,List.map_cons,List.map_nil] at only
        subst only
        rw [List.mem_singleton] at asked
        subst asked
        exact reads.mpr (intact rfl (by simp))
  · refine iff_of_true (fun es same params asked => ?_) (fun same => absurd same runs)
    have none := List.append_cancel_right same
    rw [if_neg runs] at none
    subst none
    cases asked

end Step

def Unbound (pool : Pool World CppMySQLStatement) : Prop :=
  ∀ k, ∀ array ∈ (pool.objects k).mpBindArray, array.value = [] ∧ (pool.objects k).mnBindIndex = 0

theorem trackedStart {pool : Pool World CppMySQLStatement} (unbound : Unbound pool) : Tracked (.start pool) := by
  refine ⟨fun k => ⟨fun array held => ?_,fun array held i b entry => ?_⟩,rfl,rfl⟩
  · obtain ⟨empty,index⟩ := unbound k array held
    change (pool.objects k).mnBindIndex = array.value.length ∧ array.value.length ≤ 1025
    rw [empty,index]
    exact ⟨rfl,by simp⟩
  · rw [(unbound k array held).1] at entry
    cases entry

/-- Over any interleaving of requests on any number of statements: every execution reads
the values its statement was given since its last execution or reset exactly when, each time
execution is reached, its integers and doubles are the last ones bound by any
statement and the lengths of its texts survive the passage through an int. -/
theorem survivesIffIntact (client : Client) (pool : Pool World CppMySQLStatement) (unbound : Unbound pool)
    (requests : List (Nat × Request)) :
    Guarded (step client) (Survives client) (.start pool) requests ↔
      Guarded (step client) (StillIntact client) (.start pool) requests :=
  guardedCongr trackedStep survivesIff (trackedStart unbound) requests

def compiled : Pool World CppMySQLStatement :=
  ⟨.initial,fun k => ⟨some ⟨0,k⟩,STMT_COMPILED,2,some ⟨k,[]⟩,0⟩⟩

theorem compiledUnbound : Unbound compiled := by
  intro k array held
  cases held
  exact ⟨rfl,rfl⟩

theorem survivesIffIntactMixed :
    Guarded (step .obliging) (Survives .obliging) (.start compiled)
        [(0,.bindInt 1 7),(0,.bindString 2 (text "a")),(0,.execDML)] ↔
      Guarded (step .obliging) (StillIntact .obliging) (.start compiled)
        [(0,.bindInt 1 7),(0,.bindString 2 (text "a")),(0,.execDML)] :=
  survivesIffIntact .obliging compiled compiledUnbound _

/-- Two integers of one statement share one place: both parameters read the second. -/
theorem firstIntOverwritten : ¬ Guarded (step .obliging) (Survives .obliging) (.start compiled)
    [(0,.bindInt 1 7),(0,.bindInt 2 8),(0,.execDML)] := by
  intro survives
  have reads := survives [(0,.bindInt 1 7),(0,.bindInt 2 8)] (0,.execDML) (List.prefix_refl _)
    [[some (.long 8),some (.long 8)]] (by decide) _ List.mem_cons_self
  exact absurd (reads.2 0 (by decide)) (by decide)

end DatabaseLayer.MySQLBinding
