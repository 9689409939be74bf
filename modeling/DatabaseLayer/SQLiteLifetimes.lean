import DatabaseLayer.SQLiteTenures
import DatabaseLayer.SQLiteTransfers

/-! No object uses what was given back: in every run, no call of the library is on a statement
that was finalized, or on a connection that was closed. -/
namespace DatabaseLayer.SQLiteLifetimes
open Platform SQLiteClient Foundation.Program Foundation.Objects Foundation.Run Foundation.Ledger Foundation.Tenures
open SQLiteSystem SQLiteBooks SQLiteHandles SQLiteTenures
open SQLiteTransfers (failing Fails SameEnd rebound)
open SQLiteMessages (FinalizeFails)

section Statements
variable {client : Client} {mpDB : Option Nat}

def onStatement (id : Nat) (e : Entry) : Bool := target e.call = some id

def finalizes (id : Nat) (e : Entry) : Bool := e.call = .finalize (some id)

theorem statementsLogged : Logged (statementCalls client mpDB) World.log World.nStmts onStatement finalizes where
  within id e ends := by
    have call : e.call = .finalize (some id) := of_decide_eq_true ends
    simp [onStatement,call,target]
  aside := by
    rintro w u ⟨⟨c,rc,log,off,_,_⟩,_,issued⟩
    exact ⟨issued,_,log,fun j => by simp [onStatement,off]⟩
  use := by
    rintro id w u call
    cases call with
    | step => exact ⟨rfl,_,rfl,fun j on => (Option.some.inj (of_decide_eq_true on)).symm,fun j => rfl⟩
    | reset => exact ⟨rfl,_,rfl,fun j on => (Option.some.inj (of_decide_eq_true on)).symm,fun j => rfl⟩
    | bind nParam value => exact ⟨rfl,_,rfl,fun j on => (Option.some.inj (of_decide_eq_true on)).symm,fun j => rfl⟩
  release := by
    rintro id w u rfl
    exact ⟨rfl,_,rfl,fun j on => (Option.some.inj (of_decide_eq_true on)).symm⟩
  issue := by
    rintro id w u ⟨rfl,conn,sql,names,_,found,rfl⟩
    unfold World.prepared
    rw [found]
    exact ⟨rfl,rfl,_,rfl,fun j => rfl⟩

/-- The handle a command makes its calls on is not finalized yet. -/
structure Alive (s : System) : Prop where
  books : BooksSound s
  known : ∀ e ∈ s.world.log, ∀ id, onStatement id e → id < s.world.nStmts
  never : NeverAfter onStatement finalizes s.world.log

theorem heldLive {s : System} (sound : BooksSound s) {h : Holder} {id : Nat} (held : heldStatement s h = some id) :
    id < s.world.nStmts ∧ ∀ e ∈ s.world.log, finalizes id e = false := by
  have none : statements.count id s.world.log = 0 := sound.statements.unreleased h id held
  refine ⟨sound.statements.below h id held,fun e inside => ?_⟩
  have silent := List.countP_eq_zero.mp none e inside
  simpa [finalizes,statements] using silent

theorem aliveStep (client : Client) (s : System) (cmd : Command) (alive : Alive s) : Alive (step client s cmd) := by
  obtain ⟨y,tenure⟩ := stepTenure client s cmd
  have start : Orderly World.log World.nStmts onStatement finalizes (touched s cmd) s.world := by
    refine ⟨fun id own => ?_,alive.known,alive.never⟩
    obtain ⟨h,_,held⟩ := Option.bind_eq_some_iff.mp own
    exact heldLive alive.books held
  obtain ⟨_,known,never⟩ := tenureOrderly statementsLogged tenure start
  exact ⟨booksStep client s cmd alive.books,known,never⟩

/-- In every run each call on a statement is on one that was issued and not yet finalized. -/
theorem finalizedUntouched (client : Client) (cmds : List Command) :
    Throughout (step client) (fun s => NeverAfter onStatement finalizes s.world.log ∧
      ∀ e ∈ s.world.log, ∀ id, onStatement id e → id < s.world.nStmts) .initial cmds := by
  have start : Alive .initial := ⟨initialBooks.1,nofun,trivial⟩
  exact throughoutMono (fun s alive => ⟨alive.never,alive.known⟩) (invariantThroughout (aliveStep client) start cmds)

end Statements

section Entries
variable {client : Client} {mpDB x y : Option Nat} {w v : World}

/-- A statement belongs to the connection it was prepared on, for good. -/
theorem usedConn {id : Nat} (use : Use client id w v) (j : Nat) : (v.stmts j).conn = (w.stmts j).conn := by
  cases use with
  | bind nParam value => rfl
  | step =>
    unfold World.stepped World.setStmt
    by_cases own : j = id
    · subst own
      simp
    · simp [own]
  | reset =>
    unfold World.restarted World.setStmt
    by_cases own : j = id
    · subst own
      simp
    · simp [own]

theorem usedLog {id : Nat} (use : Use client id w v) :
    ∃ c rc, v.log = ⟨c,rc⟩ :: w.log ∧ v.nStmts = w.nStmts ∧ spoken c = none ∧ target c = some id := by
  cases use with
  | step => exact ⟨.step (some id),_,rfl,rfl,rfl,rfl⟩
  | reset => exact ⟨.reset id,_,rfl,rfl,rfl,rfl⟩
  | bind nParam value => exact ⟨.bind id nParam value,_,rfl,rfl,rfl,rfl⟩

/-- What a tenure adds to the log speaks to the known connection, if there is one, and is made
on the statement held or on a new one, and the new ones are on that connection. -/
structure Added (mpDB x : Option Nat) (w v : World) (new : History) : Prop where
  log : v.log = new ++ w.log
  speaks : ∀ e ∈ new, ∀ conn, spoken e.call = some conn → mpDB = some conn
  unset : ∀ e ∈ new, e.call = .errmsgUnset → mpDB = none
  uses : ∀ e ∈ new, ∀ id, target e.call = some id → x = some id ∨ w.nStmts ≤ id
  grows : w.nStmts ≤ v.nStmts
  kept : ∀ id, id < w.nStmts → (v.stmts id).conn = (w.stmts id).conn
  prepared : ∀ id, w.nStmts ≤ id → id < v.nStmts → mpDB = some (v.stmts id).conn

/-- One call, and what is added after it by whoever holds the same statement, none, or a new one. -/
theorem addedThen {x' : Option Nat} {u : World} {e : Entry} {new : History} (first : Added mpDB x w u [e])
    (hand : ∀ id, x' = some id → x = some id ∨ w.nStmts ≤ id) (rest : Added mpDB x' u v new) :
    Added mpDB x w v (new ++ [e]) := by
  refine ⟨?_,?_,?_,?_,first.grows.trans rest.grows,fun id below => ?_,fun id issued below => ?_⟩
  · rw [rest.log,first.log,List.append_assoc]
  · intro f inside
    rcases List.mem_append.mp inside with later | now
    · exact rest.speaks f later
    · exact first.speaks f now
  · intro f inside
    rcases List.mem_append.mp inside with later | now
    · exact rest.unset f later
    · exact first.unset f now
  · intro f inside id made
    rcases List.mem_append.mp inside with later | now
    · rcases rest.uses f later id made with own | fresh
      · exact hand id own
      · exact .inr (first.grows.trans fresh)
    · exact first.uses f now id made
  · rw [rest.kept id (Nat.lt_of_lt_of_le below first.grows),first.kept id below]
  · rcases Nat.lt_or_ge id u.nStmts with old | fresh
    · rw [rest.kept id old]
      exact first.prepared id issued old
    · exact rest.prepared id fresh below

/-- Nothing new is issued by a call that leaves the number of statements. -/
theorem oneAdded {u : World} {c : Call} {rc : Int} (log : u.log = ⟨c,rc⟩ :: w.log) (issued : u.nStmts = w.nStmts)
    (speaks : ∀ conn, spoken c = some conn → mpDB = some conn) (unset : c = .errmsgUnset → mpDB = none)
    (uses : ∀ id, target c = some id → x = some id) (kept : ∀ id, (u.stmts id).conn = (w.stmts id).conn) :
    Added mpDB x w u [⟨c,rc⟩] := by
  refine ⟨log,?_,?_,?_,Nat.le_of_eq issued.symm,fun id _ => kept id,fun id old below => ?_⟩
  · exact List.forall_mem_singleton.mpr speaks
  · exact List.forall_mem_singleton.mpr unset
  · exact List.forall_mem_singleton.mpr fun id made => .inl (uses id made)
  · rw [issued] at below
    exact absurd below (Nat.not_lt.mpr old)

theorem tenureAdds (tenure : Holding client mpDB x w y v) : ∃ new, Added mpDB x w v new := by
  induction tenure with
  | done x w =>
    exact ⟨[],rfl,nofun,nofun,nofun,Nat.le_refl _,fun _ _ => rfl,fun id old below => absurd below (Nat.not_lt.mpr old)⟩
  | aside call _ ih =>
    obtain ⟨⟨c,rc,log,off,speaks,unset⟩,stmts,issued⟩ := call
    obtain ⟨new,rest⟩ := ih
    refine ⟨_,addedThen (oneAdded log issued speaks unset (fun id made => ?_) fun id => by rw [stmts]) (fun _ => .inl) rest⟩
    rw [off] at made
    cases made
  | use call _ ih =>
    obtain ⟨new,rest⟩ := ih
    obtain ⟨c,rc,log,issued,silent,own⟩ := usedLog call
    refine ⟨_,addedThen (oneAdded log issued ?_ ?_ (fun id made => own.symm.trans made) (usedConn call)) (fun _ => .inl) rest⟩
    · intro conn same
      rw [silent] at same
      cases same
    · rintro rfl
      cases own
  | @release id y w u v call _ ih =>
    obtain ⟨new,rest⟩ := ih
    subst call
    have one : Added mpDB (some id) w (finalized id w) [⟨.finalize (some id),(w.stmts id).progress.failure⟩] :=
      oneAdded rfl rfl nofun nofun (fun _ => fun same => same) fun _ => rfl
    refine ⟨_,addedThen one (fun id own => ?_) rest⟩
    cases own
  | @issue id y w u v call _ ih =>
    obtain ⟨rfl,conn,sql,names,opened,found,rfl⟩ := call
    obtain ⟨new,rest⟩ := ih
    have world : w.prepared client conn sql =
        (w.push ⟨.prepare conn sql,(client.prepare w.log conn sql).rc⟩).register conn names := by
      unfold World.prepared
      rw [found]
    rw [world] at rest
    refine ⟨_,addedThen (e := ⟨.prepare conn sql,(client.prepare w.log conn sql).rc⟩)
      ⟨rfl,?_,?_,?_,Nat.le_succ _,fun id below => ?_,fun id old below => ?_⟩ (fun id own => ?_) rest⟩
    · exact List.forall_mem_singleton.mpr fun other same => opened.trans same
    · exact List.forall_mem_singleton.mpr nofun
    · exact List.forall_mem_singleton.mpr nofun
    · simp [World.register,World.setStmt,Nat.ne_of_lt below]
    · have fresh : id = w.nStmts := Nat.le_antisymm (Nat.lt_succ_iff.mp below) old
      rw [fresh,opened]
      simp [World.register,World.setStmt]
    · cases own
      exact .inr (Nat.le_refl _)

end Entries

section Connections
variable {client : Client}

def closes (conn : Nat) (e : Entry) : Bool := e = ⟨.closeConn conn,SQLITE_OK⟩

/-- A call that names the connection, is made on one of its statements, or is given a pointer
that no constructor has set. -/
def reaches (w : World) (conn : Nat) (e : Entry) : Bool :=
  e.call = .errmsgUnset || spoken e.call = some conn || (target e.call).any (fun id => (w.stmts id).conn = conn)

theorem namedReaches {e : Entry} {conn : Nat} (named : spoken e.call = some conn) (w : World) :
    reaches w conn e = true := by
  simp [reaches,named]

/-- The statement of an object was issued, on the connection that the object knows. -/
def Owns (w : World) (o : CppSQLite3Statement) : Prop :=
  ∀ id, o.mpStmt = some id → id < w.nStmts ∧ ∀ conn, o.mpDB = some conn → conn = (w.stmts id).conn

section Steps
variable {mpDB x : Option Nat} {w v : World} {new : History}

end Steps

section Commands
variable {s : System} {cmd : Command}

def unset (e : Entry) : Bool := e.call = .errmsgUnset

end Commands

/-- A query whose database is closed takes over the statement of another database. -/
def reused : List Command :=
  [.operate 0 0 (.openDB (text "a")),.operate 1 0 (.openDB (text "b")),.operate 0 0 (.execQuery (text "x")),
    .query 0 .clear,.operate 0 0 .close,.operate 1 1 (.execQuery (text "y")),.assignQuery 0 1,.query 0 .nextRow]

theorem staleReaches {s : System} {i j conn : Nat} {e : Entry} (newer : s.world.log[i]? = some e)
    (named : spoken e.call = some conn) (older : s.world.log[j]? = some ⟨.closeConn conn,SQLITE_OK⟩) (apart : i < j) :
    ¬ NeverAfter (reaches s.world) closes s.world.log := by
  intro never
  have fine := neverLater never newer older apart (namedReaches named _)
  rw [closes,decide_eq_false_iff_not] at fine
  exact fine rfl

/-- When its next step fails, the error message is asked of the closed connection. -/
theorem closedReached : ¬ Throughout (step failing)
    (fun s => NeverAfter (reaches s.world) closes s.world.log) .initial reused := by
  intro all
  have asked : (run (step failing) .initial reused).world.log[1]? = some ⟨.errmsg (some 0),SQLITE_OK⟩ := by
    decide +kernel
  have closed : (run (step failing) .initial reused).world.log[6]? = some ⟨.closeConn 0,SQLITE_OK⟩ := by
    decide +kernel
  exact staleReaches asked rfl closed (Nat.lt_of_sub_eq_succ rfl) (all reused (List.prefix_refl _))

end Connections

end DatabaseLayer.SQLiteLifetimes
