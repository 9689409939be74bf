import DatabaseLayer.MySQLHeap
import DatabaseLayer.SQLiteHandles

/-! No two objects share a handle, in either backend. The calls on the MySQL objects are
joined here by the other operations of a CppMySQLDB, none of which touches what they own. -/
namespace DatabaseLayer.ExclusiveOwnership
open Platform Foundation.Program Foundation.Run Foundation.Ledger

section MySQL
open MySQLClient MySQLRules CppMySQLDB MySQLSystem MySQLHandles MySQLHeap

/-- A command on the objects, or a call on a CppMySQLDB that holds the handle mpDB. -/
inductive Event where
  | command (c : Command)
  | operation (mpDB : Option Nat) (op : Operation)
  deriving DecidableEq, Repr

/-- The operations whose result is an object; they are the commands of their names. -/
def namesObject : Operation → Bool
  | .execQuery _ | .getResultSet _ | .compileStatement _ => true
  | _ => false

variable (client : Client)

def mysqlStep (s : System) : Event → System
  | .command c => step client s c
  | .operation mpDB op =>
    if namesObject op then s else {s with world := (left (perform client op (s.on mpDB))).world}

/-- Worlds in which the same was issued and released. -/
structure SameBooks (w v : World) : Prop where
  results : SameResults w v
  statements : SameStatements w v
  heap : SameHeap w v

theorem chainBooks : Chain SameBooks :=
  ⟨fun w => ⟨chainResults.refl w,chainStatements.refl w,chainHeap.refl w⟩,fun _ _ _ first rest =>
    ⟨chainResults.trans _ _ _ first.results rest.results,chainStatements.trans _ _ _ first.statements rest.statements,
      chainHeap.trans _ _ _ first.heap rest.heap⟩⟩

theorem pushBooks {w : World} {e : Entry} (frees : ∀ res, e.call ≠ .freeResult res)
    (closes : ∀ id, e.call ≠ .stmtClose id) : SameBooks w (w.push e) :=
  ⟨pushResultsSame frees,pushStatementsSame closes,⟨rfl,rfl⟩⟩

variable {client}

theorem unfetchedBooks (op : Operation) (s : Scope World CppMySQLDB) :
    SameBooks s.world (ranUnfetched client op s) := by
  unfold ranUnfetched
  split
  · exact chainBooks.refl _
  · rename_i sql _
    have sent : SameBooks s.world (asked client s (.realQuery sql)).world := pushBooks nofun nofun
    dsimp only
    split
    · exact chainBooks.trans _ _ _ sent (pushBooks nofun nofun)
    · exact sent

theorem quietBooks {op : Operation} (quiet : op.quiet) (s : Scope World CppMySQLDB) :
    SameBooks s.world (left (perform client op s)).world := by
  have settles : Settles (fun _ => False) (OnWorlds SameBooks) (perform client op) := by
    refine settlesQuiet (chainOnWorlds chainBooks) (fun s conn c asks => ?_) (fun s name => ?_) (fun s db _ => ?_) quiet
    · refine pushBooks ?_ ?_
      · rintro res rfl
        cases asks
      · rintro id rfl
        cases asks
    · exact ⟨⟨rfl,fun _ => rfl⟩,⟨rfl,fun _ => rfl⟩,rfl,rfl⟩
    · exact chainBooks.refl _
  exact settlesLeft settles s

/-- An operation that returns no object leaves all books alone, or is an execScalar. -/
theorem operationBooks (client : Client) {op : Operation} (plain : namesObject op = false) (s : Scope World CppMySQLDB) :
    SameBooks s.world (left (perform client op s)).world ∨
    ∃ szSQL nNullValue, (left (perform client op s)).world = (left (execScalar client szSQL nNullValue s)).world := by
  cases op with
  | execQuery szSQL | getResultSet szSQL | compileStatement szSQL => cases plain
  | execScalar szSQL nNullValue =>
    refine .inr ⟨szSQL,nNullValue,?_⟩
    simp only [perform,leftBindPure]
  | tableExists szTable =>
    simp only [perform,leftBindPure,tableExistsApply]
    split
    · split
      · exact .inl (chainBooks.refl _)
      · rename_i szSQL _
        exact .inr ⟨szSQL,0,by simp only [leftBindPure]⟩
    · exact .inl (chainBooks.refl _)
  | execDML | startTransaction | createDB | dropDB =>
    rw [(unfetchedLeft client rfl s).1]
    exact .inl (unfetchedBooks _ s)
  | _ => exact .inl (quietBooks rfl s)

/-- The three books of the MySQL objects. -/
structure MySQLBooks (P : {ι : Type} → Book ι → Prop) (s : System) : Prop where
  results : P (resultBook s)
  statements : P (statementBook s)
  heap : P (heapBook s)

theorem commandSound (c : Command) {s : System} (sound : MySQLBooks Sound s) : MySQLBooks Sound (step client s c) := by
  obtain ⟨as,heap⟩ := heapStep client s c
  refine ⟨?_,?_,?_⟩
  · rw [resultsSimulated]
    exact soundAct sound.results _
  · rw [statementsSimulated]
    exact soundAct sound.statements _
  · rw [heap]
    exact soundActs sound.heap as

theorem sameSound {s t : System} (world : SameBooks s.world t.world) (queries : t.queries = s.queries)
    (resultSets : t.resultSets = s.resultSets) (statements : t.statements = s.statements)
    (sound : MySQLBooks Sound s) : MySQLBooks Sound t := by
  refine ⟨?_,?_,?_⟩
  · rw [resultsKept world.results (by simp [queries])]
    exact sound.results
  · rw [statementsKept world.statements (by simp [statements])]
    exact sound.statements
  · rw [heapKept world.heap (by rw [resultSets,statements])]
    exact sound.heap

theorem mysqlStepSound (s : System) (e : Event) (sound : MySQLBooks Sound s) :
    MySQLBooks Sound (mysqlStep client s e) := by
  cases e with
  | command c => exact commandSound c sound
  | operation mpDB op =>
    simp only [mysqlStep]
    cases plain : namesObject op with
    | true => exact sound
    | false =>
      obtain same | ⟨szSQL,nNullValue,scalar⟩ := operationBooks client plain (s.on mpDB)
      · exact sameSound same rfl rfl rfl sound
      · rw [if_neg Bool.false_ne_true,scalar]
        exact commandSound (.execScalar mpDB szSQL nNullValue) sound

theorem mysqlInitialSound : MySQLBooks Sound (.initial .initial) := by
  refine ⟨?_,?_,?_⟩
  · exact (freshSound rfl (fun _ => rfl) fun _ => rfl).1
  · exact (freshSound rfl (fun _ => rfl) fun _ => rfl).1
  · exact (freshSound rfl (fun _ => rfl) fun p => by cases p <;> rfl).1

end MySQL

/-- A query or statement object owns a statement, a result set a table. -/
structure SQLiteExclusive (s : SQLiteSystem.System) : Prop where
  statements : Exclusive (SQLiteBooks.statementBook s)
  tables : Exclusive (SQLiteBooks.tableBook s)

/-- In every state of every run and in either backend, no handle and no block has two
owners, none was released that still has one, and none was released twice. -/
theorem ownersExclusive (mysql : MySQLClient.Client) (sqlite : SQLiteClient.Client) (events : List Event)
    (cmds : List SQLiteSystem.Command) :
    Throughout (mysqlStep mysql) (MySQLBooks Exclusive) (.initial .initial) events ∧
    Throughout (SQLiteSystem.step sqlite) SQLiteExclusive .initial cmds := by
  constructor
  · refine throughoutMono (fun s sound => ?_) (invariantThroughout mysqlStepSound mysqlInitialSound events)
    exact ⟨soundExclusive sound.results,soundExclusive sound.statements,soundExclusive sound.heap⟩
  · refine throughoutMono (fun s sound => ?_)
      (invariantThroughout (SQLiteHandles.booksStep sqlite) SQLiteHandles.initialBooks.1 cmds)
    exact ⟨soundExclusive sound.statements,soundExclusive sound.tables⟩

end DatabaseLayer.ExclusiveOwnership
