import DatabaseLayer.Foundation.Run
import DatabaseLayer.MySQLDB

/-! The transaction counter of CppMySQLDB against the open or closed transaction of the
server, over any sequence of start, commit and rollback with any of them refused. -/
namespace DatabaseLayer.MySQLTransaction
open Platform MySQLClient Foundation.Program Foundation.Run CppMySQLDB

/-- The server's side: START TRANSACTION opens, COMMIT and ROLLBACK close, a refused
command changes nothing. -/
def transactionOpen (conn : Option Nat) : History → Bool
  | [] => false
  | e :: es =>
    if e.conn = conn ∧ e.reply.rc = 0 then
      match e.call with
      | .realQuery sql => if sql = text "start transaction;" then true else transactionOpen conn es
      | .commit | .rollback => false
      | _ => transactionOpen conn es
    else transactionOpen conn es

inductive Request where
  | startTransaction | commitTransaction | rollback
  deriving DecidableEq, Repr

def Request.perform (client : Client) : Request → Op CppMySQLDB Unit
  | .startTransaction => CppMySQLDB.startTransaction client
  | .commitTransaction => CppMySQLDB.commitTransaction client
  | .rollback => CppMySQLDB.rollback client

/-- The command a request sends. -/
def Request.command : Request → Call
  | .startTransaction => .realQuery (text "start transaction;")
  | .commitTransaction => .commit
  | .rollback => .rollback

/-- A run also counts accepted starts minus commit and rollback calls. -/
structure Session where
  scope : Scope World CppMySQLDB
  balance : Int

variable (client : Client)

def Accepted (s : Session) (r : Request) : Prop := (reply client s.scope r.command).rc = 0
instance (s r) : Decidable (Accepted client s r) := by unfold Accepted; infer_instance

def change (s : Session) : Request → Int
  | .startTransaction => if Accepted client s .startTransaction then 1 else 0
  | .commitTransaction => -1
  | .rollback => -1

def step (s : Session) (r : Request) : Session :=
  ⟨left (r.perform client s.scope),s.balance + change client s r⟩

def FlagAgrees (s : Session) : Prop :=
  isTransaction s.scope.this = transactionOpen s.scope.this.mpDB s.scope.world.log

instance (s) : Decidable (FlagAgrees s) := by unfold FlagAgrees; infer_instance

/-- An accepted start needs a balance of at least zero, an accepted commit or rollback one
of at most one, and a refused commit or rollback one other than one. -/
def Balanced (s : Session) : Request → Prop
  | .startTransaction => Accepted client s .startTransaction → 0 ≤ s.balance ∧ s.balance < 2^31 - 1
  | r => if Accepted client s r then -2^31 < s.balance ∧ s.balance ≤ 1
    else s.balance ≠ 1 ∧ s.balance ≠ -2^31

/-- What holds of every run: the connection stays, the counter is the balance as an int. -/
structure Tracked (s : Session) : Prop where
  connected : Connected true s.scope
  counter : s.scope.this.mInTransaction = wrapInt s.balance

/-- The flag agrees and the balance fits the counter. -/
structure Settled (s : Session) : Prop where
  agrees : FlagAgrees s
  low : -2^31 ≤ s.balance
  high : s.balance < 2^31

section Step
variable {client}

theorem leftStart {s : Scope World CppMySQLDB} (connected : Connected true s) :
    left (startTransaction client s) =
      let command := Call.realQuery (text "start transaction;")
      if (reply client s command).rc = 0 then
        ⟨(asked client (asked client s command) .affectedRows).world,
          {s.this with mInTransaction := wrapInt (s.this.mInTransaction + 1)}⟩
      else asked client s command := by
  simp only [startTransactionApply,if_pos connected]
  split <;> rfl

theorem stepEffect (client : Client) {s : Session} (connected : Connected true s.scope) (r : Request) :
    (step client s r).scope.this = ⟨s.scope.this.mpDB,
      if change client s r = 0 then s.scope.this.mInTransaction
      else wrapInt (s.scope.this.mInTransaction + change client s r)⟩ ∧
    selectedDb s.scope.this.mpDB (step client s r).scope.world.log =
      selectedDb s.scope.this.mpDB s.scope.world.log ∧
    (transactionOpen s.scope.this.mpDB (step client s r).scope.world.log = true ↔
      if Accepted client s r then r = .startTransaction
      else transactionOpen s.scope.this.mpDB s.scope.world.log = true) := by
  cases r with
  | startTransaction =>
    simp only [step,Request.perform,leftStart connected,Accepted,change,Request.command]
    by_cases accepted : (reply client s.scope (.realQuery (text "start transaction;"))).rc = 0
    · simp only [if_pos accepted]
      refine ⟨by simp [accepted],?_,?_⟩
      · simp [asked,selectedDb]
      · have rc := accepted
        unfold reply at rc
        simp [asked,transactionOpen,rc]
    · simp only [if_neg accepted]
      refine ⟨by simp [accepted],?_,?_⟩
      · simp [asked,selectedDb]
      · have rc := accepted
        unfold reply at rc
        simp [asked,transactionOpen,rc]
  | commitTransaction =>
    simp only [step,Request.perform,commitTransactionApply,if_pos connected,leftOk,Accepted,change,
      Request.command]
    exact ⟨by simp [Int.sub_eq_add_neg],by simp [asked,selectedDb],by simp [asked,transactionOpen,reply]⟩
  | rollback =>
    simp only [step,Request.perform,rollbackApply,if_pos connected,leftOk,Accepted,change,
      Request.command]
    exact ⟨by simp [Int.sub_eq_add_neg],by simp [asked,selectedDb],by simp [asked,transactionOpen,reply]⟩

theorem trackedStep (s : Session) (r : Request) (h : Tracked s) : Tracked (step client s r) := by
  obtain ⟨this,selected,_⟩ := stepEffect client h.connected r
  refine ⟨⟨?_,?_⟩,?_⟩
  · rw [this]
    exact h.connected.1
  · rw [this,selected]
    exact h.connected.2
  · rw [this,h.counter]
    change (if change client s r = 0 then _ else _) = wrapInt (s.balance + change client s r)
    split
    · rename_i none
      rw [none,Int.add_zero]
    · unfold wrapInt
      omega

theorem agreesAfter {s : Session} (h : Tracked s) (now : Settled s) (r : Request) :
    FlagAgrees (step client s r) ↔ (0 < wrapInt (s.balance + change client s r) ↔
      if Accepted client s r then r = .startTransaction else 0 < s.balance) := by
  obtain ⟨this,_,server⟩ := stepEffect client h.connected r
  have counter := h.counter
  rw [wrapIntId now.low now.high] at counter
  have before := now.agrees
  rw [FlagAgrees,isTransaction,counter,Bool.eq_iff_iff,decide_eq_true_eq] at before
  have after : (if change client s r = 0 then s.balance else wrapInt (s.balance + change client s r)) =
      wrapInt (s.balance + change client s r) := by
    split
    · rename_i none
      rw [none,Int.add_zero,wrapIntId now.low now.high]
    · rfl
  rw [FlagAgrees,isTransaction,this,counter,after,Bool.eq_iff_iff,decide_eq_true_eq,server,← before]

/-- In a settled session the next flag agrees exactly when the request is balanced. -/
theorem agreesStep (s : Session) (r : Request) (h : Tracked s) (now : Settled s) :
    FlagAgrees (step client s r) ↔ Balanced client s r := by
  have low := now.low
  have high := now.high
  rw [agreesAfter h now]
  cases r with
  | startTransaction =>
    by_cases accepted : Accepted client s .startTransaction
    · simp only [Balanced,change,accepted,if_true,forall_const,iff_true,wrapInt]
      omega
    · simp only [Balanced,change,accepted,if_false,false_implies,iff_true,wrapInt]
      omega
  | commitTransaction =>
    simp only [Balanced,change,wrapInt]
    split <;> simp <;> omega
  | rollback =>
    simp only [Balanced,change,wrapInt]
    split <;> simp <;> omega

theorem settledStep (s : Session) (r : Request) (h : Tracked s) (now : Settled s)
    (agrees : FlagAgrees (step client s r)) : Settled (step client s r) := by
  have low := now.low
  have high := now.high
  have balanced := (agreesStep s r h now).mp agrees
  have inside : -2^31 ≤ s.balance + change client s r ∧ s.balance + change client s r < 2^31 := by
    cases r with
    | startTransaction =>
      simp only [Balanced,change] at balanced ⊢
      split
      · have bound := balanced (by assumption)
        omega
      · omega
    | commitTransaction =>
      simp only [Balanced,change] at balanced ⊢
      split at balanced <;> omega
    | rollback =>
      simp only [Balanced,change] at balanced ⊢
      split at balanced <;> omega
  exact ⟨agrees,inside.1,inside.2⟩

end Step

/-- On a connected object without an open transaction, the flag tells the server's state
after every call of a run exactly when every call of the run is balanced. -/
theorem flagAgreesIffBalanced (s : Scope World CppMySQLDB) (connected : Connected true s)
    (fresh : s.this.mInTransaction = 0) (closed : transactionOpen s.this.mpDB s.world.log = false)
    (requests : List Request) :
    Throughout (step client) FlagAgrees ⟨s,0⟩ requests ↔
      Guarded (step client) (Balanced client) ⟨s,0⟩ requests := by
  have tracked : Tracked ⟨s,0⟩ := ⟨connected,fresh⟩
  have settled : Settled ⟨s,0⟩ := ⟨by simp [FlagAgrees,isTransaction,fresh,closed],by simp,by simp⟩
  rw [← throughoutIffGuarded trackedStep (P := Settled) (fun t r h now =>
    ⟨fun next => (agreesStep t r h now).mp next.agrees,
      fun balanced => settledStep t r h now ((agreesStep t r h now).mpr balanced)⟩) tracked settled]
  exact ⟨throughoutStrengthen trackedStep settledStep tracked settled,
    throughoutMono (fun _ h => h.agrees)⟩

theorem flagAgreesIffBalancedPair :
    Throughout (step .obliging) FlagAgrees ⟨opened 0 (text "test"),0⟩ [.startTransaction,.rollback] ↔
      Guarded (step .obliging) (Balanced .obliging) ⟨opened 0 (text "test"),0⟩ [.startTransaction,.rollback] :=
  flagAgreesIffBalanced .obliging (opened 0 (text "test")) (by decide) rfl (by decide) _

/-- The second start commits the first transaction on the server, not in the counter. -/
theorem flagLostAfterSecondStart : ¬ Throughout (step .obliging) FlagAgrees ⟨opened 0 (text "test"),0⟩
    [.startTransaction,.startTransaction,.commitTransaction] :=
  fun h => absurd (h _ (List.prefix_refl _)) (by decide)

end DatabaseLayer.MySQLTransaction
