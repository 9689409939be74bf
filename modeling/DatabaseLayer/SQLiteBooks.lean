import DatabaseLayer.Foundation.Ledger
import DatabaseLayer.SQLiteSystem

/-! Three books are kept of a system: of its statements, which queries and statement objects
hold, of its result tables, and of its connections. Each operation of an object obtains,
keeps or releases what that object holds. -/
namespace DatabaseLayer.SQLiteBooks
open Platform SQLiteClient Foundation.Program Foundation.Objects Foundation.Ledger SQLiteRules SQLiteSystem
open CppSQLite3DB (Returned)

/-- A kind of handle: how many the library issued, which entries release one, and which calls
there are that may do either. -/
structure Kind where
  issued : World → Nat
  releases : Nat → Entry → Bool
  concerns : Call → Bool
  aside : ∀ c w v, concerns c = false → Called c w v → issued v = issued w ∧ ∀ id rc, releases id ⟨c,rc⟩ = false

namespace Kind
variable (kind : Kind)

def count (id : Nat) (h : History) : Nat := h.countP (kind.releases id)

theorem countCons (id : Nat) (e : Entry) (h : History) :
    kind.count id (e :: h) = kind.count id h + if kind.releases id e then 1 else 0 := by
  simp [count,List.countP_cons]

/-- The books of this kind, given who holds what. -/
def book {ι : Type} (w : World) (held : ι → Option Nat) : Book ι :=
  ⟨kind.issued w,fun id => kind.count id w.log,held⟩

/-- As many issued, and each released as often. -/
def Same (w v : World) : Prop := kind.issued v = kind.issued w ∧ ∀ id, kind.count id v.log = kind.count id w.log

/-- One handle, if it is one, was released, and nothing else. -/
def Released (x : Option Nat) (w v : World) : Prop :=
  kind.issued v = kind.issued w ∧ ∀ id, kind.count id v.log = kind.count id w.log + if x = some id then 1 else 0

/-- What a constructor did that hands this handle to its object, if any: nothing, or issue
the handle, or issue one and release it again. -/
def Obtained (x : Option Nat) (w v : World) : Prop :=
  (kind.Same w v ∧ x = none) ∨
  (kind.issued v = kind.issued w + 1 ∧ (∀ id, kind.count id v.log = kind.count id w.log) ∧ x = some (kind.issued w)) ∨
  (kind.issued v = kind.issued w + 1 ∧
    (∀ id, kind.count id v.log = kind.count id w.log + if id = kind.issued w then 1 else 0) ∧ x = none)

variable {kind}

theorem chainSame : Chain kind.Same :=
  ⟨fun _ => ⟨rfl,fun _ => rfl⟩,fun _ _ _ first rest =>
    ⟨rest.1.trans first.1,fun id => (rest.2 id).trans (first.2 id)⟩⟩

theorem calledSame {c : Call} {w v : World} (other : kind.concerns c = false) (called : Called c w v) :
    kind.Same w v := by
  obtain ⟨issued,silent⟩ := kind.aside c w v other called
  obtain ⟨rc,log⟩ := called.log
  refine ⟨issued,fun id => ?_⟩
  rw [log,countCons,silent id rc]
  rfl

theorem raisedSame (other : ∀ message, kind.concerns (.free message) = false) (w : World) (nErrCode : Int)
    (szErrMess : Message) (isSqlite3Free : Bool) : kind.Same w (w.raised nErrCode szErrMess isSqlite3Free) := by
  unfold World.raised
  split
  · exact calledSame (other _) (calledPush _ _ _)
  · exact chainSame.refl _

theorem stepSame (client : Client) (s : System) {cmd : Command} (other : ∀ c, cmd.makes c → kind.concerns c = false) :
    kind.Same s.world (step client s cmd).world :=
  stepWorld chainSame s cmd fun c _ _ makes called => calledSame (other c makes) called

theorem releasedSame {x : Option Nat} {u w v : World} (first : kind.Same u w) (rest : kind.Released x w v) :
    kind.Released x u v :=
  ⟨rest.1.trans first.1,fun id => (rest.2 id).trans (congrArg (· + _) (first.2 id))⟩

theorem releasedThen {x : Option Nat} {u w v : World} (first : kind.Released x u w) (rest : kind.Same w v) :
    kind.Released x u v :=
  ⟨rest.1.trans first.1,fun id => (rest.2 id).trans (first.2 id)⟩

section Books
variable {ι : Type} [DecidableEq ι] {w v : World} {held : ι → Option Nat}

omit [DecidableEq ι] in
theorem bookSame {kept : ι → Option Nat} (same : kind.Same w v) (unmoved : kept = held) :
    kind.book v kept = kind.book w held :=
  Book.ext same.1 (funext same.2) unmoved

theorem bookReleased {i : ι} {x : Option Nat} (released : kind.Released x w v) (own : held i = x) :
    kind.book v (Function.update held i none) = (kind.book w held).release i := by
  subst own
  exact Book.ext released.1 (funext released.2) rfl

theorem bookMoved {i j : ι} (same : kind.Same w v) :
    kind.book v (Function.update (Function.update held j none) i (held j)) = (kind.book w held).move i j :=
  Book.ext same.1 (funext same.2) rfl

theorem bookReplaced {i j : ι} {x : Option Nat} (apart : j ≠ i) (released : kind.Released x w v) (own : held i = x) :
    kind.book v (Function.update (Function.update held j none) i (held j)) = (kind.book w held).act (.replace i j) := by
  have moved : kind.book v _ = (kind.book v (Function.update held i none)).move i j := bookMoved (chainSame.refl v)
  rw [bookReleased released own,Function.update_of_ne apart,Function.update_comm apart.symm,
    Function.update_idem] at moved
  exact moved

/-- Handing nothing on, a constructor released whatever it had issued. -/
theorem bookUnheld (obtained : kind.Obtained none w v) (held : ι → Option Nat) :
    (kind.book w held).Safe (kind.book v held) := by
  obtain ⟨same,_⟩ | ⟨_,_,none⟩ | ⟨issued,counts,_⟩ := obtained
  · exact ⟨.keep,bookSame same rfl,id⟩
  · cases none
  · exact ⟨.issueReleased,Book.ext issued (funext counts) rfl,id⟩

theorem bookObtained {i : ι} {x : Option Nat} (obtained : kind.Obtained x w v) (free : held i = none) :
    (kind.book w held).Safe (kind.book v (Function.update held i x)) := by
  have unmoved : Function.update held i none = held := Function.update_eq_self_iff.mpr free.symm
  obtain ⟨same,rfl⟩ | ⟨issued,counts,rfl⟩ | ⟨issued,counts,rfl⟩ := obtained
  · exact ⟨.keep,bookSame same unmoved,id⟩
  · exact ⟨.issue i,Book.ext issued (funext counts) rfl,not_not.mpr free⟩
  · exact ⟨.issueReleased,Book.ext issued (funext counts) unmoved,id⟩

end Books
end Kind

def statements : Kind where
  issued := World.nStmts
  releases id e := e.call = .finalize (some id)
  concerns c := match c with | .prepare _ _ | .finalize (some _) => true | _ => false
  aside c w v other called := by
    refine ⟨called.stmts.resolve_right ?_,fun id rc => decide_eq_false ?_⟩
    · rintro ⟨conn,sql,rfl⟩
      cases other
    · rintro rfl
      cases other

def tables : Kind where
  issued := World.nTables
  releases id e := e.call = .freeTable id
  concerns c := match c with | .getTable _ _ | .freeTable _ => true | _ => false
  aside c w v other called := by
    refine ⟨called.tables.resolve_right ?_,fun id rc => decide_eq_false ?_⟩
    · rintro ⟨conn,sql,rfl⟩
      cases other
    · rintro rfl
      cases other

/-- A connection that could not be closed is not released. -/
def connections : Kind where
  issued := World.nConns
  releases id e := e = ⟨.closeConn id,SQLITE_OK⟩
  concerns c := match c with | .openConn _ | .closeConn _ => true | _ => false
  aside c w v other called := by
    refine ⟨called.conns.resolve_right ?_,fun id rc => decide_eq_false ?_⟩
    · rintro ⟨szFile,rfl⟩
      cases other
    · intro same
      rw [Entry.mk.injEq] at same
      rw [same.1] at other
      cases other

inductive Holder where
  | query (i : Nat)
  | statement (i : Nat)
  deriving DecidableEq, Repr

def heldStatement (s : System) : Holder → Option Nat
  | .query i => (s.queries i).bind CppSQLite3Query.mpStmt
  | .statement i => (s.statements i).bind CppSQLite3Statement.mpStmt

def tableOf (r : CppSQLite3ResultSet) : Option Nat := r.mpaszResults.map Owned.addr

def heldTable (s : System) (i : Nat) : Option Nat := (s.resultSets i).bind tableOf

/-- Nobody is an owner too, to take what a database drops. -/
def heldConnection (s : System) (k : Option Nat) : Option Nat := k.bind (fun k => (s.databases k).mpDB)

def statementBook (s : System) : Book Holder := statements.book s.world (heldStatement s)

def tableBook (s : System) : Book Nat := tables.book s.world (heldTable s)

def connectionBook (s : System) : Book (Option Nat) := connections.book s.world (heldConnection s)

section Objects
variable (client : Client)

theorem finalizeReleased (w : World) (pStmt : Nat) (rc : Int) :
    statements.Released (some pStmt) w (w.push ⟨.finalize (some pStmt),rc⟩) := by
  refine ⟨rfl,fun id => ?_⟩
  rw [pushLog,Kind.countCons]
  simp [statements]

theorem freeTableReleased (w : World) (table : Nat) (rc : Int) :
    tables.Released (some table) w (w.push ⟨.freeTable table,rc⟩) := by
  refine ⟨rfl,fun id => ?_⟩
  rw [pushLog,Kind.countCons]
  simp [tables]

/-- A query keeps its statement, or has finalized it and let go of it. -/
def Finalizes (s t : Scope World CppSQLite3Query) : Prop :=
  statements.Released s.this.mpStmt s.world t.world ∧ t.this.mpStmt = none

theorem messageSame {α : Type} (nRet : Int) (s : Scope World CppSQLite3Query) :
    let t := left (CppSQLite3Query.throwErrmsg client nRet s : EStateM.Result Stop _ α)
    statements.Same s.world t.world ∧ t.this = s.this := by
  rw [CppSQLite3Query.throwErrmsgApply]
  cases s.this.mpDB with
  | none => exact ⟨Kind.chainSame.refl _,rfl⟩
  | some conn =>
    refine ⟨Kind.chainSame.trans _ (s.world.push ⟨.errmsg (some conn),SQLITE_OK⟩) _ ?_ ?_,rfl⟩
    · exact Kind.calledSame (by rfl) (calledPush _ _ _)
    · exact Kind.raisedSame (fun _ => rfl) _ _ _ _

theorem releasedFinalizes {s : Scope World CppSQLite3Query} {pStmt : Nat} (held : s.this.mpStmt = some pStmt)
    (nRet : Int) : Finalizes s (CppSQLite3Query.released s) ∧ Finalizes s
      (left (CppSQLite3Query.throwErrmsg client nRet (CppSQLite3Query.released s) : EStateM.Result Stop _ Unit)) := by
  have first : Finalizes s (CppSQLite3Query.released s) := by
    unfold CppSQLite3Query.released Finalizes
    rw [held]
    exact ⟨finalizeReleased _ _ _,rfl⟩
  obtain ⟨same,this⟩ := messageSame (α := Unit) client nRet (CppSQLite3Query.released s)
  exact ⟨first,Kind.releasedThen first.1 same,by rw [this]; exact first.2⟩

theorem clearFinalizes (s : Scope World CppSQLite3Query) : Finalizes s (left (CppSQLite3Query.clear client s)) := by
  rw [CppSQLite3Query.clearApply]
  cases held : s.this.mpStmt with
  | none =>
    refine ⟨⟨rfl,fun id => ?_⟩,held⟩
    rw [held]
    rfl
  | some pStmt =>
    obtain ⟨quiet,thrown⟩ := releasedFinalizes client held (s.world.stmts pStmt).progress.failure
    dsimp only
    split
    · exact thrown
    · exact quiet

theorem steppedSame (w : World) (pStmt : Nat) : statements.Same w (w.stepped client pStmt) :=
  Kind.calledSame (c := .step (some pStmt)) (by rfl) ⟨⟨_,rfl⟩,.inl rfl,.inl rfl,.inl rfl⟩

theorem queryKeepsOrFinalizes (request : CppSQLite3Query.Request) (s : Scope World CppSQLite3Query) :
    let t := left (CppSQLite3Query.perform client request s)
    (statements.Same s.world t.world ∧ t.this.mpStmt = s.this.mpStmt) ∨ Finalizes s t := by
  by_cases moves : request.moves = true
  · cases request with
    | clear => exact .inr (clearFinalizes client s)
    | nextRow =>
      simp only [CppSQLite3Query.perform]
      cases held : s.this.mpStmt with
      | none =>
        rw [CppSQLite3Query.nextRowNone client held]
        exact .inl ⟨Kind.chainSame.refl _,held⟩
      | some pStmt =>
        by_cases fine : (advance client s.world.log pStmt (s.world.stmts pStmt)).1 = SQLITE_ROW ∨
            (advance client s.world.log pStmt (s.world.stmts pStmt)).1 = SQLITE_DONE
        · rw [CppSQLite3Query.nextRowApply client held fine]
          exact .inl ⟨steppedSame client _ _,held⟩
        · rw [CppSQLite3Query.nextRowFails client held fine]
          obtain ⟨released,gone⟩ := (releasedFinalizes client
            (s := ⟨s.world.stepped client pStmt,s.this⟩) held
            ((s.world.stepped client pStmt).stmts pStmt).progress.failure).2
          exact .inr ⟨Kind.releasedSame (steppedSame client _ _) released,gone⟩
    | _ => exact absurd moves Bool.false_ne_true
  · rw [CppSQLite3Query.accessorStill client ((Bool.not_eq_true _).mp moves)]
    exact .inl ⟨Kind.chainSame.refl _,rfl⟩

theorem clearStatement (s : Scope World CppSQLite3Statement) :
    let t := left (CppSQLite3Statement.clear client s)
    statements.Released s.this.mpStmt s.world t.world ∧ t.this.mpStmt = none := by
  simp only [CppSQLite3Statement.clear,bindApply,getApply]
  cases held : s.this.mpStmt with
  | none => exact ⟨⟨rfl,fun id => rfl⟩,held⟩
  | some pStmt =>
    have first := finalizeReleased s.world pStmt (s.world.stmts pStmt).progress.failure
    simp only [sqlite3Finalize,bindApply,getApply,onWorldApply,onThisApply,pureApply,iteApply,
      CppSQLite3Statement.throwErrmsg,sqlite3Errmsg,raiseApply]
    split
    · split
      · refine ⟨Kind.releasedThen first ?_,rfl⟩
        exact Kind.chainSame.trans _ _ _ (Kind.calledSame (by rfl) (calledPush _ _ _))
          (Kind.raisedSame (fun _ => rfl) _ _ _ _)
      · exact ⟨Kind.releasedThen first (Kind.raisedSame (fun _ => rfl) _ _ _ _),rfl⟩
    · exact ⟨first,rfl⟩

theorem clearTable (s : Scope World CppSQLite3ResultSet) :
    let t := left (CppSQLite3ResultSet.clear s)
    tables.Released (tableOf s.this) s.world t.world ∧ tableOf t.this = none := by
  simp only [CppSQLite3ResultSet.clear,bindApply,getApply]
  cases held : s.this.mpaszResults with
  | none => exact ⟨⟨rfl,fun id => by simp [tableOf,held]⟩,by simp [tableOf,held]⟩
  | some table =>
    have mine : tableOf s.this = some table.addr := by simp [tableOf,held]
    rw [mine]
    exact ⟨freeTableReleased _ _ _,rfl⟩

theorem requestKeeps {request : CppSQLite3Statement.Request} (clears : request ≠ .clear)
    (s : Scope World CppSQLite3Statement) : (left (CppSQLite3Statement.perform client request s)).this = s.this := by
  have same := chainEq (Scope.this : Scope World CppSQLite3Statement → _)
  have thrown {α : Type} (nErrCode : Int) (message : Message) : Settles (fun _ => False)
      (fun s t => Scope.this t = Scope.this s) (raise nErrCode message false : Op CppSQLite3Statement α) :=
    settlesMono (fun s t eq => congrArg Scope.this eq) (CppSQLite3Query.settlesLiteral nErrCode message)
  have checkStmt : Settles (fun _ => False) (fun s t => Scope.this t = Scope.this s) CppSQLite3Statement.checkStmt := by
    refine settlesBind same (settlesGet same) fun s => ?_
    cases s.this.mpStmt with
    | none => exact thrown _ _
    | some pStmt => exact settlesPure same _
  have message {α : Type} (nRet : Int) : Settles (fun _ => False) (fun s t => Scope.this t = Scope.this s)
      (CppSQLite3Statement.throwErrmsg client nRet : Op CppSQLite3Statement α) :=
    settlesBind same (settlesGet same) fun s => settlesBind same ⟨fun _ => rfl⟩ fun m => thrown _ _
  have binds (kind : String) (nParam : Int) (value : Parameter) : Settles (fun _ => False)
      (fun s t => Scope.this t = Scope.this s) (CppSQLite3Statement.bindAs client kind nParam value) :=
    settlesBind same checkStmt fun pStmt => settlesBind same ⟨fun _ => rfl⟩ fun nRes =>
      settlesIte (fun _ => thrown _ _) fun _ => settlesPure same _
  suffices h : Settles (fun _ => False) (fun s t => Scope.this t = Scope.this s)
    (CppSQLite3Statement.perform client request) from settlesLeft h s
  cases request with
  | bindString nParam szValue => exact binds _ _ _
  | bindInt nParam nValue => exact binds _ _ _
  | bindDouble nParam dValue => exact binds _ _ _
  | bindBlob nParam blobValue => exact binds _ _ _
  | bindNull nParam => exact binds _ _ _
  | clear => exact absurd rfl clears
  | reset =>
    refine settlesBind same (settlesGet same) fun s => ?_
    cases s.this.mpStmt with
    | none => exact settlesPure same _
    | some pStmt =>
      exact settlesBind same ⟨fun _ => rfl⟩ fun nRet => settlesIte (fun _ => message _) fun _ => settlesPure same _
  | execDML =>
    have checkDB : Settles (fun _ => False) (fun s t => Scope.this t = Scope.this s) CppSQLite3Statement.checkDB := by
      refine settlesBind same (settlesGet same) fun s => ?_
      cases s.this.mpDB with
      | none => exact thrown _ _
      | some pDB => exact settlesPure same _
    refine settlesBind same ?_ fun _ => settlesPure same _
    refine settlesBind same checkDB fun pDB => settlesBind same checkStmt fun pStmt =>
      settlesBind same ⟨fun _ => rfl⟩ fun nRet => settlesIte (fun _ => ?_) fun _ =>
        settlesBind same ⟨fun _ => rfl⟩ fun nRet => message _
    exact settlesBind same ⟨fun _ => rfl⟩ fun nRowsChanged => settlesBind same ⟨fun _ => rfl⟩ fun nRet =>
      settlesIte (fun _ => message _) fun _ => settlesPure same _

theorem runHands (s : Scope World CppSQLite3Statement) : match CppSQLite3Statement.execQuery client s with
    | .ok q t => q.mpStmt = s.this.mpStmt ∧ t.this.mpStmt = none
    | .error _ t => t.this = s.this := by
  cases opened : s.this.mpDB with
  | none => simp [CppSQLite3Statement.execQuery,CppSQLite3Statement.checkDB,opened,raiseApply]
  | some pDB =>
    cases held : s.this.mpStmt with
    | none =>
      simp [CppSQLite3Statement.execQuery,CppSQLite3Statement.checkDB,CppSQLite3Statement.checkStmt,opened,held,
        raiseApply]
    | some pStmt =>
      by_cases fine : (advance client s.world.log pStmt (s.world.stmts pStmt)).1 = SQLITE_ROW ∨
          (advance client s.world.log pStmt (s.world.stmts pStmt)).1 = SQLITE_DONE
      · rw [CppSQLite3Statement.execQueryApply client opened held fine]
        exact ⟨rfl,rfl⟩
      · obtain ⟨row,done⟩ := not_or.mp fine
        simp [CppSQLite3Statement.execQuery,CppSQLite3Statement.checkDB,CppSQLite3Statement.checkStmt,opened,held,
          stepApply,row,done,sqlite3Reset,raiseApply]

end Objects

section Operations
variable (client : Client)

def stmtOf : Returned → Option Nat
  | .query q => q.mpStmt
  | .statement o => o.mpStmt
  | _ => none

def tableIn : Returned → Option Nat
  | .resultSet r => tableOf r
  | _ => none

/-- What an operation hands the object it returns, if it returns one. -/
def given {α : Type} (f : α → Option Nat) : EStateM.Result Stop (Scope World CppSQLite3DB) α → Option Nat
  | .ok a _ => f a
  | .error _ _ => none

theorem givenBind {α β : Type} (f : β → Option Nat) (m : Op CppSQLite3DB α) (g : α → β) (s : Scope World CppSQLite3DB) :
    given f ((do let a ← m; return g a) s) = given (fun a => f (g a)) (m s) := by
  rw [bindApply]
  cases m s <;> rfl

theorem givenNothing {α β : Type} {f : β → Option Nat} {g : α → β} (nothing : ∀ a, f (g a) = none)
    (m : Op CppSQLite3DB α) (s : Scope World CppSQLite3DB) : given f ((do let a ← m; return g a) s) = none := by
  rw [givenBind]
  cases m s with
  | ok a t => exact nothing a
  | error e t => rfl

/-- What is obtained for a local object is released with it. -/
theorem obtainedReleased {kind : Kind} {x : Option Nat} {u v w : World} (first : kind.Obtained x u v)
    (rest : kind.Released x v w) : kind.Obtained none u w := by
  obtain ⟨same,rfl⟩ | ⟨issued,counts,rfl⟩ | ⟨issued,counts,rfl⟩ := first
  · exact .inl ⟨⟨rest.1.trans same.1,fun id => (rest.2 id).trans (same.2 id)⟩,rfl⟩
  · refine .inr (.inr ⟨rest.1.trans issued,fun id => ?_,rfl⟩)
    rw [rest.2 id,counts id]
    simp only [Option.some.injEq,eq_comm]
  · exact .inr (.inr ⟨rest.1.trans issued,fun id => (rest.2 id).trans (counts id),rfl⟩)

theorem preparedSame {w : World} {pDB : Nat} {szSQL : CString} (none : preparedColumns client w pDB szSQL = none) :
    statements.Same w (w.prepared client pDB szSQL) := by
  unfold World.prepared
  rw [none]
  refine ⟨rfl,fun id => ?_⟩
  rw [pushLog,Kind.countCons]
  simp [statements]

theorem compiledCounts (w : World) (pDB : Nat) (szSQL : CString) (names : List CString) (id : Nat) :
    statements.count id (CppSQLite3DB.compiled w pDB szSQL names).log = statements.count id w.log := by
  change statements.count id (_ :: w.log) = _
  rw [Kind.countCons]
  simp [statements]

theorem abandonedReleased (pDB : Nat) (pStmt : Option Nat) (w : World) :
    statements.Released pStmt w (CppSQLite3DB.abandoned client pDB pStmt w) := by
  have after (v : World) (rc : Int) (message : Message) :
      statements.Same v ((v.push ⟨.errmsg (some pDB),SQLITE_OK⟩).raised rc message true) :=
    Kind.chainSame.trans _ _ _ (Kind.calledSame (by rfl) (calledPush _ _ _)) (Kind.raisedSame (fun _ => rfl) _ _ _ _)
  cases pStmt with
  | none =>
    have first : statements.Same w (w.push ⟨.finalize none,SQLITE_OK⟩) :=
      Kind.calledSame (by rfl) (calledPush _ _ _)
    exact Kind.releasedThen ⟨first.1,first.2⟩ (after _ _ _)
  | some id => exact Kind.releasedThen (finalizeReleased _ _ _) (after _ _ _)

theorem execQueryObtains (szSQL : CString) (s : Scope World CppSQLite3DB) :
    statements.Obtained (given CppSQLite3Query.mpStmt (CppSQLite3DB.execQuery client szSQL s)) s.world
      (left (CppSQLite3DB.execQuery client szSQL s)).world := by
  cases opened : s.this.mpDB with
  | none =>
    rw [CppSQLite3DB.execQueryClosed client opened]
    exact .inl ⟨Kind.chainSame.refl _,rfl⟩
  | some pDB =>
    by_cases ok : (client.prepare s.world.log pDB szSQL).rc = SQLITE_OK
    · cases columns : (client.prepare s.world.log pDB szSQL).columns with
      | none =>
        have first := preparedSame client (w := s.world) ((if_pos ok).trans columns)
        have second : statements.Same (s.world.prepared client pDB szSQL) _ :=
          Kind.calledSame (c := .step none) (by rfl) (calledPush _ _ SQLITE_MISUSE)
        obtain ⟨e,fails⟩ := CppSQLite3DB.execQueryEmpty client opened ok columns
        rw [fails]
        exact .inl ⟨Kind.releasedSame (Kind.chainSame.trans _ _ _ first second) (abandonedReleased client pDB none _),rfl⟩
      | some names =>
        have stepped := steppedSame client (CppSQLite3DB.compiled s.world pDB szSQL names) s.world.nStmts
        have counts (id : Nat) := (stepped.2 id).trans (compiledCounts s.world pDB szSQL names id)
        by_cases fine : (advance client (CppSQLite3DB.compiled s.world pDB szSQL names).log s.world.nStmts
              ((CppSQLite3DB.compiled s.world pDB szSQL names).stmts s.world.nStmts)).1 = SQLITE_ROW ∨
            (advance client (CppSQLite3DB.compiled s.world pDB szSQL names).log s.world.nStmts
              ((CppSQLite3DB.compiled s.world pDB szSQL names).stmts s.world.nStmts)).1 = SQLITE_DONE
        · rw [CppSQLite3DB.execQueryApply client opened ok columns fine]
          exact .inr (.inl ⟨stepped.1,counts,rfl⟩)
        · obtain ⟨e,fails⟩ := CppSQLite3DB.execQueryFails client opened ok columns fine
          rw [fails]
          exact obtainedReleased (.inr (.inl ⟨stepped.1,counts,rfl⟩)) (abandonedReleased client pDB (some s.world.nStmts) _)
    · obtain ⟨e,fails⟩ := CppSQLite3DB.execQueryUnprepared client opened ok
      rw [fails]
      exact .inl ⟨Kind.chainSame.trans _ _ _ (preparedSame client (if_neg ok)) (Kind.calledSame (by rfl) (calledPush _ _ _)),rfl⟩

theorem execScalarObtains (szSQL : CString) (nNullValue : Int) (s : Scope World CppSQLite3DB) :
    statements.Obtained none s.world (left (CppSQLite3DB.execScalar client szSQL nNullValue s)).world := by
  have first := execQueryObtains client szSQL s
  simp only [CppSQLite3DB.execScalar,bindApply]
  cases result : CppSQLite3DB.execQuery client szSQL s with
  | error e t =>
    rw [result] at first
    exact first
  | ok q t =>
    rw [result] at first
    simp only [leftLocal,CppSQLite3DB.scalarStill]
    exact obtainedReleased first (clearFinalizes client ⟨t.world,q⟩).1

theorem compileObtains (szSQL : CString) (s : Scope World CppSQLite3DB) :
    statements.Obtained (given CppSQLite3Statement.mpStmt (CppSQLite3DB.compileStatement client szSQL s)) s.world
      (left (CppSQLite3DB.compileStatement client szSQL s)).world := by
  simp only [CppSQLite3DB.compileStatement,bindApply]
  cases opened : s.this.mpDB with
  | none =>
    rw [CppSQLite3DB.checkDBClosed opened]
    exact .inl ⟨Kind.chainSame.refl _,rfl⟩
  | some pDB =>
    rw [CppSQLite3DB.checkDBApply opened]
    dsimp only
    rw [CppSQLite3DB.compileApply client opened]
    dsimp only
    by_cases ok : (client.prepare s.world.log pDB szSQL).rc ≠ SQLITE_OK
    · rw [if_pos ok]
      exact .inl ⟨Kind.chainSame.trans _ _ _ (preparedSame client (if_neg ok)) (Kind.calledSame (by rfl) (calledPush _ _ _)),rfl⟩
    · rw [if_neg ok]
      cases columns : preparedColumns client s.world pDB szSQL with
      | none => exact .inl ⟨preparedSame client columns,rfl⟩
      | some names =>
        refine .inr (.inl ⟨?_,fun id => ?_,rfl⟩)
        · simp only [pureApply,leftOk,World.prepared,columns]
          rfl
        · simp only [pureApply,leftOk,World.prepared,columns]
          change statements.count id (_ :: s.world.log) = _
          rw [Kind.countCons]
          simp [statements]

theorem operationSame {kind : Kind} {op : CppSQLite3DB.Operation} (other : ∀ c, op.makes c → kind.concerns c = false)
    (s : Scope World CppSQLite3DB) : kind.Same s.world (left (CppSQLite3DB.perform client op s)).world :=
  settlesLeft (CppSQLite3DB.settlesOperation Kind.chainSame op
    fun c _ _ makes called => Kind.calledSame (other c makes) called) s

theorem operationStatements (op : CppSQLite3DB.Operation) (s : Scope World CppSQLite3DB) :
    statements.Obtained (given stmtOf (CppSQLite3DB.perform client op s)) s.world
      (left (CppSQLite3DB.perform client op s)).world := by
  have aside {op : CppSQLite3DB.Operation} (other : ∀ c, op.makes c → statements.concerns c = false)
      (nothing : given stmtOf (CppSQLite3DB.perform client op s) = none) :
      statements.Obtained (given stmtOf (CppSQLite3DB.perform client op s)) s.world
        (left (CppSQLite3DB.perform client op s)).world :=
    .inl ⟨operationSame client other s,nothing⟩
  cases op with
  | execQuery szSQL =>
    simp only [CppSQLite3DB.perform,givenBind,leftBindPure]
    exact execQueryObtains client szSQL s
  | compileStatement szSQL =>
    simp only [CppSQLite3DB.perform,givenBind,leftBindPure]
    exact compileObtains client szSQL s
  | execScalar szSQL nNullValue =>
    simp only [CppSQLite3DB.perform,givenNothing (f := stmtOf) (g := Returned.int) (fun _ => rfl),leftBindPure]
    exact execScalarObtains client szSQL nNullValue s
  | tableExists szTable =>
    simp only [CppSQLite3DB.perform,givenNothing (f := stmtOf) (g := Returned.bool) (fun _ => rfl),leftBindPure,
      CppSQLite3DB.tableExists]
    exact execScalarObtains client _ 0 s
  | openDB szFile => exact aside (fun c makes => by cases c <;> first | rfl | cases makes) (givenNothing (fun _ => rfl) _ _)
  | close => exact aside (fun c makes => by cases c <;> first | rfl | cases makes) (givenNothing (fun _ => rfl) _ _)
  | execDML szSQL => exact aside (fun c makes => by cases c <;> first | rfl | cases makes) (givenNothing (fun _ => rfl) _ _)
  | getResultSet szSQL =>
    exact aside (fun c makes => by cases c <;> first | rfl | cases makes) (givenNothing (fun _ => rfl) _ _)
  | startTransaction => exact aside (fun c makes => by cases c <;> first | rfl | cases makes) (givenNothing (fun _ => rfl) _ _)
  | commitTransaction =>
    exact aside (fun c makes => by cases c <;> first | rfl | cases makes) (givenNothing (fun _ => rfl) _ _)
  | rollback => exact aside (fun c makes => by cases c <;> first | rfl | cases makes) (givenNothing (fun _ => rfl) _ _)
  | isTransaction => exact aside (fun c makes => by cases c <;> first | rfl | cases makes) (givenNothing (fun _ => rfl) _ _)
  | setBusyTimeout nMillisecs =>
    exact aside (fun c makes => by cases c <;> first | rfl | cases makes) (givenNothing (fun _ => rfl) _ _)

theorem operationTables (op : CppSQLite3DB.Operation) (s : Scope World CppSQLite3DB) :
    tables.Obtained (given tableIn (CppSQLite3DB.perform client op s)) s.world
      (left (CppSQLite3DB.perform client op s)).world := by
  have aside {op : CppSQLite3DB.Operation} (other : ∀ c, op.makes c → tables.concerns c = false)
      (nothing : given tableIn (CppSQLite3DB.perform client op s) = none) :
      tables.Obtained (given tableIn (CppSQLite3DB.perform client op s)) s.world
        (left (CppSQLite3DB.perform client op s)).world :=
    .inl ⟨operationSame client other s,nothing⟩
  by_cases fetches : ∃ szSQL, op = .getResultSet szSQL
  · obtain ⟨szSQL,rfl⟩ := fetches
    simp only [CppSQLite3DB.perform,givenBind,leftBindPure]
    cases opened : s.this.mpDB with
    | none =>
      simp only [CppSQLite3DB.getResultSet,bindApply,CppSQLite3DB.checkDBClosed opened]
      exact .inl ⟨Kind.chainSame.refl _,rfl⟩
    | some pDB =>
      have asked (rc : Int) (id : Nat) :
          tables.count id (s.world.push ⟨.getTable pDB szSQL,rc⟩).log = tables.count id s.world.log := by
        rw [pushLog,Kind.countCons]
        simp [tables]
      rw [CppSQLite3DB.getResultSetApply client opened]
      dsimp only
      split
      · exact .inr (.inl ⟨rfl,asked _,rfl⟩)
      · exact .inl ⟨Kind.chainSame.trans _ _ _ ⟨rfl,asked (client.getTable s.world.log pDB szSQL).rc⟩
          (Kind.raisedSame (fun _ => rfl) _ _ _ _),rfl⟩
  · cases op with
    | getResultSet szSQL => exact absurd ⟨szSQL,rfl⟩ fetches
    | execQuery szSQL =>
      exact aside (fun c makes => by cases c <;> first | rfl | cases makes) (givenNothing (fun _ => rfl) _ _)
    | _ => exact aside (fun c makes => by cases c <;> first | rfl | cases makes) (givenNothing (fun _ => rfl) _ _)

theorem operationKeeps {op : CppSQLite3DB.Operation} (opens : ∀ szFile, op ≠ .openDB szFile) (closes : op ≠ .close)
    (s : Scope World CppSQLite3DB) : (left (CppSQLite3DB.perform client op s)).this = s.this := by
  have same := chainEq (Scope.this : Scope World CppSQLite3DB → _)
  have thrown {α : Type} (nErrCode : Int) (message : Message) (own : Bool) : Settles (fun _ => False)
      (fun s t => Scope.this t = Scope.this s) (raise nErrCode message own : Op CppSQLite3DB α) :=
    settlesOfLeft fun s => by rw [raiseApply]; rfl
  have checkDB : Settles (fun _ => False) (fun s t => Scope.this t = Scope.this s) CppSQLite3DB.checkDB := by
    refine settlesBind same (settlesGet same) fun s => ?_
    cases s.this.mpDB with
    | none => exact thrown _ _ _
    | some pDB => exact settlesPure same _
  have execDML (szSQL : CString) : Settles (fun _ => False) (fun s t => Scope.this t = Scope.this s)
      (CppSQLite3DB.execDML client szSQL) :=
    settlesBind same checkDB fun pDB => settlesBind same ⟨fun _ => rfl⟩ fun reply =>
      settlesIte (fun _ => ⟨fun _ => rfl⟩) fun _ => thrown _ _ _
  have compile (szSQL : CString) : Settles (fun _ => False) (fun s t => Scope.this t = Scope.this s)
      (CppSQLite3DB.compile client szSQL) :=
    settlesBind same checkDB fun pDB => settlesBind same (settlesOfLeft fun s => by rw [prepareApply]; rfl)
      fun prepared => settlesIte (fun _ => settlesBind same ⟨fun _ => rfl⟩ fun m => thrown _ _ _)
        fun _ => settlesPure same _
  have query (pDB : Nat) (pStmt : Option Nat) (bEof : Bool) : Settles (fun _ => False)
      (fun s t => Scope.this t = Scope.this s) (CppSQLite3DB.query pDB pStmt bEof) :=
    settlesOfLeft fun s => by cases pStmt <;> rfl
  have execQuery (szSQL : CString) : Settles (fun _ => False) (fun s t => Scope.this t = Scope.this s)
      (CppSQLite3DB.execQuery client szSQL) := by
    refine settlesBind same checkDB fun pDB => settlesBind same (compile szSQL) fun pStmt => ?_
    refine settlesBind same (settlesOfLeft fun s => by cases pStmt <;> rfl) fun nRet =>
      settlesIte (fun _ => query _ _ _) fun _ => settlesIte (fun _ => query _ _ _) fun _ => ?_
    exact settlesBind same ⟨fun _ => rfl⟩ fun nRet => settlesBind same ⟨fun _ => rfl⟩ fun m => thrown _ _ _
  have execScalar (szSQL : CString) (nNullValue : Int) : Settles (fun _ => False)
      (fun s t => Scope.this t = Scope.this s) (CppSQLite3DB.execScalar client szSQL nNullValue) :=
    settlesBind same (execQuery szSQL) fun q => settlesOfLeft fun s => by rw [leftLocal]
  suffices h : Settles (fun _ => False) (fun s t => Scope.this t = Scope.this s) (CppSQLite3DB.perform client op)
    from settlesLeft h s
  cases op with
  | openDB szFile => exact absurd rfl (opens szFile)
  | close => exact absurd rfl closes
  | execDML szSQL => exact settlesBind same (execDML szSQL) fun _ => settlesPure same _
  | execQuery szSQL => exact settlesBind same (execQuery szSQL) fun _ => settlesPure same _
  | execScalar szSQL nNullValue => exact settlesBind same (execScalar szSQL nNullValue) fun _ => settlesPure same _
  | tableExists szTable =>
    exact settlesBind same (settlesBind same (execScalar _ 0) fun _ => settlesPure same _) fun _ => settlesPure same _
  | getResultSet szSQL =>
    refine settlesBind same ?_ fun _ => settlesPure same _
    exact settlesBind same checkDB fun pDB => settlesBind same (settlesOfLeft fun s => by rw [getTableApply]; rfl)
      fun reply => settlesIte (fun _ => settlesPure same _) fun _ => thrown _ _ _
  | compileStatement szSQL =>
    refine settlesBind same ?_ fun _ => settlesPure same _
    exact settlesBind same checkDB fun pDB => settlesBind same (compile szSQL) fun _ => settlesPure same _
  | startTransaction | commitTransaction | rollback =>
    exact settlesBind same (settlesBind same (execDML _) fun _ => settlesPure same _) fun _ => settlesPure same _
  | isTransaction =>
    refine settlesBind same ?_ fun _ => settlesPure same _
    exact settlesBind same checkDB fun pDB => settlesBind same ⟨fun _ => rfl⟩ fun _ => settlesPure same _
  | setBusyTimeout nMillisecs =>
    exact settlesBind same ⟨fun _ => rfl⟩ fun _ => settlesPure same _

/-- Opening overwrites the handle, whether or not there is a new one to overwrite it with. -/
theorem openConnects (szFile : CString) (s : Scope World CppSQLite3DB) :
    let t := left (CppSQLite3DB.openDB client szFile s)
    (∀ id, connections.count id t.world.log = connections.count id s.world.log) ∧
    ((t.world.nConns = s.world.nConns + 1 ∧ t.this.mpDB = some s.world.nConns) ∨
      (t.world.nConns = s.world.nConns ∧ t.this.mpDB = none)) := by
  have opens : (∀ id, connections.count id (s.world.opened client szFile).log = connections.count id s.world.log) ∧
      (((s.world.opened client szFile).nConns = s.world.nConns + 1 ∧
        openedConn client s.world szFile = some s.world.nConns) ∨
      ((s.world.opened client szFile).nConns = s.world.nConns ∧ openedConn client s.world szFile = none)) := by
    obtain ⟨⟨rc,log⟩,_⟩ := calledOpen client s.world szFile
    refine ⟨fun id => ?_,?_⟩
    · rw [log,Kind.countCons]
      simp [connections]
    · unfold World.opened openedConn
      dsimp only
      by_cases handle : (client.openConn s.world.log szFile).handle = true
      · rw [if_pos handle,if_pos handle]
        exact .inl ⟨rfl,rfl⟩
      · rw [if_neg handle,if_neg handle]
        exact .inr ⟨rfl,rfl⟩
  rw [CppSQLite3DB.openDBApply]
  dsimp only
  split
  · have thrown (rc : Int) (message : Message) (conn : Option Nat) : connections.Same (s.world.opened client szFile)
        (((s.world.opened client szFile).push ⟨.errmsg conn,SQLITE_OK⟩).raised rc message true) :=
      Kind.chainSame.trans _ _ _ (Kind.calledSame (by rfl) (calledPush _ _ _)) (Kind.raisedSame (fun _ => rfl) _ _ _ _)
    obtain ⟨issued,counts⟩ := thrown (client.openConn s.world.log szFile).rc
      (.errmsg (client.errmsg (s.world.opened client szFile).log (openedConn client s.world szFile)))
      (openedConn client s.world szFile)
    refine ⟨fun id => (counts id).trans (opens.1 id),?_⟩
    exact opens.2.imp (fun h => ⟨issued.trans h.1,h.2⟩) fun h => ⟨issued.trans h.1,h.2⟩
  · exact opens

theorem closeDisconnects (s : Scope World CppSQLite3DB) :
    let t := left (CppSQLite3DB.close client s)
    (connections.Same s.world t.world ∧ t.this = s.this) ∨
    (connections.Released s.this.mpDB s.world t.world ∧ t.this.mpDB = none) := by
  rw [CppSQLite3DB.closeApply]
  cases held : s.this.mpDB with
  | none => exact .inl ⟨Kind.chainSame.refl _,rfl⟩
  | some pDB =>
    dsimp only
    generalize (if s.world.busy pDB then SQLITE_BUSY else client.closeConn s.world.log pDB) = rc
    have counted (id : Nat) : connections.count id (s.world.push ⟨.closeConn pDB,rc⟩).log =
        connections.count id s.world.log + if pDB = id ∧ rc = SQLITE_OK then 1 else 0 := by
      rw [pushLog,Kind.countCons]
      simp [connections]
    by_cases ok : rc = SQLITE_OK
    · rw [if_pos ok]
      refine .inr ⟨⟨rfl,fun id => (counted id).trans ?_⟩,rfl⟩
      simp [ok]
    · rw [if_neg ok]
      refine .inl ⟨⟨rfl,fun id => (counted id).trans ?_⟩,rfl⟩
      simp [ok]

end Operations

end DatabaseLayer.SQLiteBooks
