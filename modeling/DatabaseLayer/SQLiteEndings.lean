import DatabaseLayer.Foundation.Run
import DatabaseLayer.SQLiteLoops

/-! The loop over a query however its statement ends: by DONE, or by an error, at its first
step or at a later one. -/
namespace DatabaseLayer.SQLiteEndings
open Platform SQLiteClient Foundation.Program Foundation.Loop Foundation.Run CppSQLite3DB SQLiteLoops

/-- What the finalizations of a statement returned, newest first. -/
def finalizations (id : Nat) (h : History) : List Int :=
  h.filterMap (fun e => if e.call = .finalize (some id) then some e.rc else none)

/-- From one world to the next a statement was finalized once, and this was returned. -/
def FinalizedOnce (id : Nat) (rc : Int) (w v : World) : Prop := finalizations id v.log = rc :: finalizations id w.log

/-- A call on a query, whatever became of it. -/
def respond (client : Client) (s : Scope World CppSQLite3Query) (r : CppSQLite3Query.Request) :
    Scope World CppSQLite3Query := left (CppSQLite3Query.perform client r s)

/-- However the query is used on, its statement stays finalized once, also when the query is
destroyed, and every call but clear is refused. -/
structure Over (client : Client) (id : Nat) (rc : Int) (w : World) (s : Scope World CppSQLite3Query) : Prop where
  finalized : ∀ later, FinalizedOnce id rc w (CppSQLite3Query.destroy client (run (respond client) s later))
  refuses : ∀ later r, r ≠ .clear → let t := run (respond client) s later
    CppSQLite3Query.perform client r t = CppSQLite3Query.nullStmt t

section Finalizations
variable {id : Nat}

theorem finalizationsPush {w : World} {c : Call} {rc : Int} (other : c ≠ .finalize (some id)) :
    finalizations id (w.push ⟨c,rc⟩).log = finalizations id w.log := by
  unfold finalizations
  rw [pushLog,List.filterMap_cons,if_neg other]

theorem finalizationsPushed (w : World) (rc : Int) : FinalizedOnce id rc w (w.push ⟨.finalize (some id),rc⟩) := by
  unfold FinalizedOnce finalizations
  rw [pushLog,List.filterMap_cons,if_pos rfl]

theorem finalizationsRaised (w : World) (nErrCode : Int) (szErrMess : Message) (isSqlite3Free : Bool) :
    finalizations id (w.raised nErrCode szErrMess isSqlite3Free).log = finalizations id w.log := by
  unfold World.raised
  split
  · exact finalizationsPush nofun
  · rfl

theorem finalizationsStepped (client : Client) (w : World) (other : Nat) :
    finalizations id (w.stepped client other).log = finalizations id w.log :=
  finalizationsPush (c := .step (some other)) nofun

theorem finalizationsAbandoned (id : Nat) (client : Client) (pDB : Nat) (w : World) :
    FinalizedOnce id (w.stmts id).progress.failure w (abandoned client pDB (some id) w) := by
  unfold FinalizedOnce abandoned
  rw [finalizationsRaised,finalizationsPush (c := .errmsg (some pDB)) nofun]
  exact finalizationsPushed w _

theorem finalizationsBegun (id : Nat) (client : Client) (s : Scope World CppSQLite3DB) (pDB : Nat) (szSQL : CString)
    (names : List CString) : finalizations id (begun client s pDB szSQL names).log = finalizations id s.world.log :=
  (finalizationsStepped client _ _).trans (finalizationsPush nofun)

end Finalizations

section Empty
variable {client : Client} {s : Scope World CppSQLite3Query}

theorem respondNone (none : s.this.mpStmt = none) (r : CppSQLite3Query.Request) : respond client s r = s := by
  unfold respond
  by_cases clears : r = .clear
  · rw [clears,CppSQLite3Query.perform,CppSQLite3Query.clearNone client none]
    rfl
  · rw [CppSQLite3Query.performNone client none clears]
    rfl

theorem laterNone (none : s.this.mpStmt = none) (later : List CppSQLite3Query.Request) :
    run (respond client) s later = s := by
  induction later with
  | nil => rfl
  | cons r later ih => rw [runCons,respondNone none,ih]

theorem overOfNone (none : s.this.mpStmt = none) {id : Nat} {rc : Int} {w : World}
    (once : FinalizedOnce id rc w s.world) : Over client id rc w s := by
  refine ⟨fun later => ?_,fun later r uses => ?_⟩
  · rw [laterNone none]
    unfold CppSQLite3Query.destroy
    rw [CppSQLite3Query.clearNone client none]
    exact once
  · rw [laterNone none]
    exact CppSQLite3Query.performNone client none uses

end Empty

section Passes
variable {client : Client} {w : World} {pDB conn id : Nat} {names : List CString} {e : Execution names.length}

/-- How a pass over an execution ends: at DONE with eof, and else with the error it met. -/
def EndsAs (client : Client) (id : Nat) (ending : Int) (w : World) :
    EStateM.Result Stop (Scope World CppSQLite3Query) Unit → Prop
  | .ok _ t => ending = SQLITE_DONE ∧ CppSQLite3Query.eof t = .ok true t ∧
    FinalizedOnce id SQLITE_OK w (CppSQLite3Query.destroy client t)
  | .error (.thrown x) t => ending ≠ SQLITE_DONE ∧ Over client id x.nErrCode w t
  | .error .undefined _ => False

/-- The pass has these rows to read, of a statement that has not been finalized since w. -/
def Ahead (w : World) (pDB conn id : Nat) (e : Execution names.length) (rest : List (List (Bool × Option CString)))
    (s : Scope World CppSQLite3Query) : Prop :=
  s.this.mpDB = some pDB ∧ s.this.mpStmt = some id ∧ finalizations id s.world.log = finalizations id w.log ∧
  ((s.this.mbEof = true ∧ rest = [] ∧ e.ending = SQLITE_DONE ∧ s.world.stmts id = ⟨conn,names,.ended e⟩) ∨
    (s.this.mbEof = false ∧ s.this.mnFieldsCount = names.length ∧ ∃ i, s.world.stmts id = ⟨conn,names,.onRow e i⟩ ∧
      i < e.rows.length ∧ rest = (e.rows.drop i).map shown))

theorem destroyedEnded {s : Scope World CppSQLite3Query} (held : s.this.mpStmt = some id) (done : e.ending = SQLITE_DONE)
    (stands : s.world.stmts id = ⟨conn,names,.ended e⟩) (kept : finalizations id s.world.log = finalizations id w.log) :
    FinalizedOnce id SQLITE_OK w (CppSQLite3Query.destroy client s) := by
  have fine : (s.world.stmts id).progress.failure = SQLITE_OK := by
    rw [stands]
    exact if_pos done
  have quiet : ¬ SQLITE_OK ≠ SQLITE_OK := not_not.mpr rfl
  unfold CppSQLite3Query.destroy FinalizedOnce
  rw [CppSQLite3Query.clearApply,held]
  dsimp only
  rw [fine,if_neg quiet,← kept]
  simp only [CppSQLite3Query.released,held,left,fine]
  exact finalizationsPushed _ _

variable (client) in
/-- The step behind the last row of an execution that fails: the statement is finalized, and
what that returned is thrown. -/
theorem nextRowThrows {s : Scope World CppSQLite3Query} {i : Nat} (own : s.this.mpDB = some pDB)
    (held : s.this.mpStmt = some id) (stands : s.world.stmts id = ⟨conn,names,.onRow e i⟩)
    (last : ¬ i + 1 < e.rows.length) (failed : e.ending ≠ SQLITE_DONE)
    (kept : finalizations id s.world.log = finalizations id w.log) :
    ∃ x t, CppSQLite3Query.nextRow client s = .error (.thrown x) t ∧ Over client id x.nErrCode w t := by
  have result : advance client s.world.log id ⟨conn,names,.onRow e i⟩ = (e.ending,.ended e) := if_neg last
  have code : (advance client s.world.log id (s.world.stmts id)).1 = e.ending := by rw [stands,result]
  have throws := CppSQLite3Query.nextRowFails client held (by rw [code]; exact not_or.mpr ⟨e.ends.1,failed⟩)
  rw [CppSQLite3Query.throwErrmsgApply] at throws
  simp only [CppSQLite3Query.released,held,own] at throws
  refine ⟨_,_,throws,overOfNone rfl ?_⟩
  unfold FinalizedOnce
  have other : Call.errmsg (some pDB) ≠ .finalize (some id) := fun same => by cases same
  rw [finalizationsRaised,finalizationsPush other,← kept,← finalizationsStepped client s.world id]
  exact finalizationsPushed _ _

theorem aheadEnds {s : Scope World CppSQLite3Query} (ahead : Ahead w pDB conn id e [] s) :
    CppSQLite3Query.eof s = .ok true s ∧ EndsAs client id e.ending w (.ok ⟨⟩ s) := by
  obtain ⟨own,held,kept,⟨ended,_,done,stands⟩ | ⟨_,_,i,_,inside,none⟩⟩ := ahead
  · have eof : CppSQLite3Query.eof s = .ok true s := (CppSQLite3Query.eofApply held).trans (by rw [ended])
    exact ⟨eof,done,eof,destroyedEnded held done stands kept⟩
  · rw [eq_comm,List.map_eq_nil_iff,List.drop_eq_nil_iff] at none
    omega

theorem aheadRow {row : List (Bool × Option CString)} {rest : List (List (Bool × Option CString))}
    {s : Scope World CppSQLite3Query} (ahead : Ahead w pDB conn id e (row :: rest) s) :
    CppSQLite3Query.eof s = .ok false s ∧ readFields s = .ok row s ∧
      ((∃ t, CppSQLite3Query.nextRow client s = .ok ⟨⟩ t ∧ Ahead w pDB conn id e rest t) ∨
        (rest = [] ∧ ∃ x t, CppSQLite3Query.nextRow client s = .error x t ∧ EndsAs client id e.ending w (.error x t))) := by
  obtain ⟨own,held,kept,⟨_,none,_⟩ | ⟨more,count,i,stands,inside,rows⟩⟩ := ahead
  · cases none
  obtain ⟨eof,read,rows⟩ := rowRead held stands more count inside rows
  refine ⟨eof,read,?_⟩
  have still : finalizations id (s.world.stepped client id).log = finalizations id w.log :=
    (finalizationsStepped client s.world id).trans kept
  by_cases another : i + 1 < e.rows.length
  · obtain ⟨returns,next⟩ := nextRowMore client held stands another
    exact .inl ⟨_,returns,own,held,still,.inr ⟨more,count,i + 1,next,another,rows⟩⟩
  · rw [List.drop_eq_nil_iff.mpr (Nat.not_lt.mp another),List.map_nil] at rows
    by_cases done : e.ending = SQLITE_DONE
    · obtain ⟨returns,ended⟩ := nextRowDone client held stands another done
      exact .inl ⟨_,returns,own,held,still,.inl ⟨rfl,rows,done,ended⟩⟩
    · obtain ⟨x,t,throws,past⟩ := nextRowThrows client own held stands another done kept
      exact .inr ⟨rows,_,t,throws,done,past⟩

end Passes

section Outcomes
variable (client : Client) {szSQL : CString} {s : Scope World CppSQLite3DB} {pDB : Nat} {names : List CString}

/-- Executed and looped over, a text whose outcomes are these rows and this ending is read row
by row, and ends as it should. -/
structure Exact (s : Scope World CppSQLite3DB) (szSQL : CString) (rows : List (List Value)) (ending : Int) : Prop where
  completes : ending = SQLITE_DONE → ∃ q t u, execQuery client szSQL s = .ok q t ∧
    Reads (cursor client) ⟨t.world,q⟩ (rows.map shown) u ∧ CppSQLite3Query.eof u = .ok true u ∧
    FinalizedOnce s.world.nStmts SQLITE_OK s.world (CppSQLite3Query.destroy client u)
  fails : ending ≠ SQLITE_DONE → rows ≠ [] → ∃ q t x u, execQuery client szSQL s = .ok q t ∧
    Visits (cursor client) ⟨t.world,q⟩ (rows.map shown) (.error (.thrown x) u) ∧
    Over client s.world.nStmts x.nErrCode s.world u
  failsAtOnce : ending ≠ SQLITE_DONE → rows = [] → ∃ x t, execQuery client szSQL s = .error (.thrown x) t ∧
    FinalizedOnce s.world.nStmts x.nErrCode s.world t.world

section Begun
variable (opened : s.this.mpDB = some pDB) (ok : (client.prepare s.world.log pDB szSQL).rc = SQLITE_OK)
  (columns : (client.prepare s.world.log pDB szSQL).columns = some names)
include opened ok columns

theorem begunAhead (starts : 0 < (execution client s pDB szSQL names).rows.length ∨
    (execution client s pDB szSQL names).ending = SQLITE_DONE) :
    ∃ q, execQuery client szSQL s = .ok q ⟨begun client s pDB szSQL names,s.this⟩ ∧
      Ahead s.world pDB pDB s.world.nStmts (execution client s pDB szSQL names)
        ((execution client s pDB szSQL names).rows.map shown) ⟨begun client s pDB szSQL names,q⟩ := by
  obtain ⟨code,stands⟩ := firstOutcome client szSQL s pDB names
  have kept := finalizationsBegun s.world.nStmts client s pDB szSQL names
  have returns := execQueryApply client opened ok columns
  dsimp only at code returns
  have count : ((begun client s pDB szSQL names).stmts s.world.nStmts).columns.length = names.length := by rw [stands]
  by_cases some : 0 < (execution client s pDB szSQL names).rows.length
  · rw [if_pos some] at code stands
    have more : decide (SQLITE_ROW = SQLITE_DONE) = false := by decide
    refine ⟨_,returns (.inl code),rfl,rfl,kept,.inr ⟨?_,congrArg Nat.cast count,0,stands,some,rfl⟩⟩
    rw [code]
    exact more
  · have done := starts.resolve_left some
    have ended : decide (SQLITE_DONE = SQLITE_DONE) = true := by decide
    rw [if_neg some] at code stands
    rw [done] at code
    have none : (execution client s pDB szSQL names).rows = [] :=
      List.length_eq_zero_iff.mp (Nat.eq_zero_of_not_pos some)
    refine ⟨_,returns (.inr code),rfl,rfl,kept,.inl ⟨?_,?_,done,stands⟩⟩
    · rw [code]
      exact ended
    · rw [none,List.map_nil]

/-- Whatever rows a text yields and however it ends, the loop over its query is exact. -/
theorem loopExact : Exact client s szSQL (execution client s pDB szSQL names).rows
    (execution client s pDB szSQL names).ending := by
  have passes (starts : 0 < (execution client s pDB szSQL names).rows.length ∨
      (execution client s pDB szSQL names).ending = SQLITE_DONE) : ∃ q last,
      execQuery client szSQL s = .ok q ⟨begun client s pDB szSQL names,s.this⟩ ∧
      Visits (cursor client) ⟨begun client s pDB szSQL names,q⟩ ((execution client s pDB szSQL names).rows.map shown) last ∧
      EndsAs client s.world.nStmts (execution client s pDB szSQL names).ending s.world last := by
    obtain ⟨q,returns,ahead⟩ := begunAhead client opened ok columns starts
    obtain ⟨last,visits,ends⟩ := visitsAlong (c := cursor client) (fun s => aheadEnds) (fun row rest s => aheadRow) ahead
    exact ⟨q,last,returns,visits,ends⟩
  refine ⟨fun done => ?_,fun failed some => ?_,fun failed none => ?_⟩
  · obtain ⟨q,last,returns,visits,ends⟩ := passes (.inr done)
    cases last with
    | ok a u => exact ⟨q,_,u,returns,visitsReads visits,ends.2.1,ends.2.2⟩
    | error e u =>
      cases e with
      | thrown x => exact absurd done ends.1
      | undefined => exact ends.elim
  · obtain ⟨q,last,returns,visits,ends⟩ := passes (.inl (List.length_pos_iff.mpr some))
    cases last with
    | ok a u => exact absurd ends.1 failed
    | error e u =>
      cases e with
      | thrown x => exact ⟨q,_,x,u,returns,visits,ends.2⟩
      | undefined => exact ends.elim
  · obtain ⟨code,stands⟩ := firstOutcome client szSQL s pDB names
    have nothing : ¬ 0 < (execution client s pDB szSQL names).rows.length := by rw [none]; exact Nat.not_lt_zero 0
    rw [if_neg nothing] at code
    have unfine := not_or.mpr ⟨(execution client s pDB szSQL names).ends.1,failed⟩
    rw [← code] at unfine
    obtain ⟨message,throws⟩ := execQueryFailsCode client opened ok columns unfine
    refine ⟨_,_,throws,?_⟩
    have once := finalizationsAbandoned s.world.nStmts client pDB (begun client s pDB szSQL names)
    unfold FinalizedOnce at once ⊢
    rw [finalizationsBegun] at once
    exact once

end Begun
end Outcomes

theorem narrowRows {rows : List (List Value)} {width : Nat} (narrow : ∀ row ∈ rows, row.length = 1) (one : width = 1) :
    ∀ row ∈ rows, row.length = width := one ▸ narrow

/-- A library whose every statement has one column, yields these rows and then fails. -/
def interrupted (rows : List (List Value)) (narrow : ∀ row ∈ rows, row.length = 1) : Client :=
  {answering rows narrow with
    execute := fun _ _ width =>
      if one : width = 1 then ⟨rows,SQLITE_BUSY,narrowRows narrow one,busyEnds,busyCode⟩ else .rowless width}

theorem twoNarrow : ∀ row ∈ [[one],[one]], row.length = 1 := by decide

theorem loopExactInterrupted :
    Exact (interrupted [[one],[one]] twoNarrow) onOpen (text "select n") [[one],[one]] SQLITE_BUSY :=
  @loopExact (interrupted [[one],[one]] twoNarrow) (text "select n") onOpen 0 [text "n"] rfl rfl rfl

end DatabaseLayer.SQLiteEndings
