import DatabaseLayer.Foundation.Run

/-! What the holder of one handle does in a world. A tenure goes from call to call: beside
the handle, on it, or the one that releases it. A holder without a handle may be issued one. -/
namespace Foundation.Tenures

variable {W : Type}

/-- The calls of a library, by what they do with a handle. -/
structure Calls (W : Type) where
  aside : W → W → Prop
  use : Nat → W → W → Prop
  release : Nat → W → W → Prop
  issue : Nat → W → W → Prop

/-- The handle held and the world before, and after. -/
inductive Tenure (calls : Calls W) : Option Nat → W → Option Nat → W → Prop
  | done (x : Option Nat) (w : W) : Tenure calls x w x w
  | aside {x y : Option Nat} {w u v : W} (call : calls.aside w u) (rest : Tenure calls x u y v) : Tenure calls x w y v
  | use {id : Nat} {y : Option Nat} {w u v : W} (call : calls.use id w u) (rest : Tenure calls (some id) u y v) :
      Tenure calls (some id) w y v
  | release {id : Nat} {y : Option Nat} {w u v : W} (call : calls.release id w u) (rest : Tenure calls none u y v) :
      Tenure calls (some id) w y v
  | issue {id : Nat} {y : Option Nat} {w u v : W} (call : calls.issue id w u) (rest : Tenure calls (some id) u y v) :
      Tenure calls none w y v

variable {calls : Calls W} {x y z : Option Nat} {w u v : W}

theorem tenureTrans (first : Tenure calls x w y u) (rest : Tenure calls y u z v) : Tenure calls x w z v := by
  induction first with
  | done x w => exact rest
  | aside call _ ih => exact .aside call (ih rest)
  | use call _ ih => exact .use call (ih rest)
  | release call _ ih => exact .release call (ih rest)
  | issue call _ ih => exact .issue call (ih rest)

/-- What every call keeps, given which handle is held, a tenure keeps. -/
theorem tenureKeeps {I : Option Nat → W → Prop} (aside : ∀ x w u, calls.aside w u → I x w → I x u)
    (use : ∀ id w u, calls.use id w u → I (some id) w → I (some id) u)
    (release : ∀ id w u, calls.release id w u → I (some id) w → I none u)
    (issue : ∀ id w u, calls.issue id w u → I none w → I (some id) u)
    (tenure : Tenure calls x w y v) (start : I x w) : I y v := by
  induction tenure with
  | done x w => exact start
  | aside call _ ih => exact ih (aside _ _ _ call start)
  | use call _ ih => exact ih (use _ _ _ call start)
  | release call _ ih => exact ih (release _ _ _ call start)
  | issue call _ ih => exact ih (issue _ _ _ call start)

section Lives
variable {E : Type} {log : W → List E} {issued : W → Nat} {on ends : Nat → E → Bool}

/-- No call on a handle is newer than the one that ended it. -/
def NeverAfter (on ends : Nat → E → Bool) : List E → Prop
  | [] => True
  | e :: h => (∀ id, on id e → ∀ f ∈ h, ends id f = false) ∧ NeverAfter on ends h

/-- Each call is logged, and with its own handle; the log is kept newest first. -/
structure Logged (calls : Calls W) (log : W → List E) (issued : W → Nat) (on ends : Nat → E → Bool) : Prop where
  within : ∀ id e, ends id e → on id e
  aside : ∀ w u, calls.aside w u → issued u = issued w ∧ ∃ e, log u = e :: log w ∧ ∀ j, on j e = false
  use : ∀ id w u, calls.use id w u →
    issued u = issued w ∧ ∃ e, log u = e :: log w ∧ (∀ j, on j e → j = id) ∧ ∀ j, ends j e = false
  release : ∀ id w u, calls.release id w u → issued u = issued w ∧ ∃ e, log u = e :: log w ∧ ∀ j, on j e → j = id
  issue : ∀ id w u, calls.issue id w u →
    id = issued w ∧ issued u = issued w + 1 ∧ ∃ e, log u = e :: log w ∧ ∀ j, on j e = false

/-- The handle that is held was issued and not ended; no call was on one that was not issued,
and none on one that had ended. -/
structure Orderly (log : W → List E) (issued : W → Nat) (on ends : Nat → E → Bool) (x : Option Nat) (w : W) : Prop where
  held : ∀ id, x = some id → id < issued w ∧ ∀ e ∈ log w, ends id e = false
  known : ∀ e ∈ log w, ∀ id, on id e → id < issued w
  never : NeverAfter on ends (log w)

theorem neverAppend {new h : List E} (fresh : ∀ e ∈ new, ∀ id, on id e → ∀ f ∈ new ++ h, ends id f = false)
    (old : NeverAfter on ends h) : NeverAfter on ends (new ++ h) := by
  induction new with
  | nil => exact old
  | cons e new ih =>
    refine ⟨fun id used f inside => fresh e List.mem_cons_self id used f (List.mem_cons_of_mem _ inside),ih ?_⟩
    exact fun g later id used f inside =>
      fresh g (List.mem_cons_of_mem _ later) id used f (List.mem_cons_of_mem _ inside)

/-- Whoever holds a handle that was issued and not ended comes and goes. -/
theorem orderlyHeld (start : Orderly log issued on ends x w)
    (held : ∀ id, y = some id → id < issued w ∧ ∀ e ∈ log w, ends id e = false) :
    Orderly log issued on ends y w := ⟨held,start.known,start.never⟩

section Calls
variable {id : Nat} {e : E}

/-- More calls, on the handle held if on any, none of which ends it. -/
theorem orderlyAdded {new : List E} (start : Orderly log issued on ends x w) (same : issued v = issued w)
    (extended : log v = new ++ log w) (own : ∀ e ∈ new, ∀ id, on id e → x = some id)
    (last : ∀ e ∈ new, ∀ id, ends id e = false) : Orderly log issued on ends x v := by
  refine ⟨fun id held => ?_,?_,?_⟩
  · obtain ⟨below,live⟩ := start.held id held
    rw [same,extended]
    exact ⟨below,List.forall_mem_append.mpr ⟨fun e inside => last e inside id,live⟩⟩
  · rw [same,extended]
    exact List.forall_mem_append.mpr
      ⟨fun e inside id used => (start.held id (own e inside id used)).1,start.known⟩
  · rw [extended]
    refine neverAppend (fun e inside id used => ?_) start.never
    have live := (start.held id (own e inside id used)).2
    exact List.forall_mem_append.mpr ⟨fun f later => last f later id,live⟩

theorem orderlyReleased (start : Orderly log issued on ends (some id) w) (same : issued v = issued w)
    (extended : log v = e :: log w) (own : ∀ j, on j e → j = id) : Orderly log issued on ends none v := by
  obtain ⟨below,live⟩ := start.held id rfl
  refine ⟨nofun,?_,?_⟩
  · rw [same,extended]
    exact List.forall_mem_cons.mpr ⟨fun j on => (own j on) ▸ below,start.known⟩
  · rw [extended]
    exact ⟨fun j on => (own j on) ▸ live,start.never⟩

theorem orderlyIssued (within : ∀ id e, ends id e → on id e) (start : Orderly log issued on ends none w)
    (more : issued v = issued w + 1) (extended : log v = e :: log w) (off : ∀ j, on j e = false) :
    Orderly log issued on ends (some (issued w)) v := by
  have silent {id : Nat} {e : E} (off : on id e = false) : ends id e = false := by
    cases ended : ends id e with
    | false => rfl
    | true => rw [within id e ended] at off; cases off
  have never {b : Bool} (off : b = false) : ¬ b = true := by simp [off]
  refine ⟨fun j held => ?_,?_,?_⟩
  · cases held
    rw [more,extended]
    refine ⟨Nat.lt_succ_self _,List.forall_mem_cons.mpr ⟨silent (off _),fun e inside => silent ?_⟩⟩
    cases used : on (issued w) e with
    | false => rfl
    | true => exact absurd (start.known e inside _ used) (Nat.lt_irrefl _)
  · rw [more,extended]
    refine List.forall_mem_cons.mpr ⟨fun j on => absurd on (never (off j)),fun e inside j on => ?_⟩
    exact Nat.lt_succ_of_lt (start.known e inside j on)
  · rw [extended]
    exact ⟨fun j on => absurd on (never (off j)),start.never⟩

end Calls

theorem tenureOrderly (logged : Logged calls log issued on ends) (tenure : Tenure calls x w y v)
    (start : Orderly log issued on ends x w) : Orderly log issued on ends y v := by
  have silent {id : Nat} {e : E} (off : on id e = false) : ends id e = false := by
    cases ended : ends id e with
    | false => rfl
    | true => rw [logged.within id e ended] at off; cases off
  have never {b : Bool} (off : b = false) : ¬ b = true := by simp [off]
  refine tenureKeeps ?_ ?_ ?_ ?_ tenure start
  · intro x w u call before
    obtain ⟨same,e,extended,off⟩ := logged.aside w u call
    have one : log u = [e] ++ log w := extended
    refine orderlyAdded before same one ?_ ?_
    · exact List.forall_mem_singleton.mpr fun id on => absurd on (never (off id))
    · exact List.forall_mem_singleton.mpr fun id => silent (off id)
  · intro id w u call before
    obtain ⟨same,e,extended,own,last⟩ := logged.use id w u call
    have one : log u = [e] ++ log w := extended
    refine orderlyAdded before same one ?_ ?_
    · exact List.forall_mem_singleton.mpr fun j on => congrArg some (own j on).symm
    · exact List.forall_mem_singleton.mpr last
  · intro id w u call before
    obtain ⟨same,e,extended,own⟩ := logged.release id w u call
    exact orderlyReleased before same extended own
  · intro id w u call before
    obtain ⟨rfl,more,e,extended,off⟩ := logged.issue id w u call
    exact orderlyIssued logged.within before more extended off

theorem neverLater {h : List E} (never : NeverAfter on ends h) {i j id : Nat} {e f : E} (newer : h[i]? = some e)
    (older : h[j]? = some f) (apart : i < j) (used : on id e) : ends id f = false := by
  induction h generalizing i j with
  | nil => cases newer
  | cons g h ih =>
    cases j with
    | zero => cases apart
    | succ j =>
      cases i with
      | zero =>
        cases newer
        exact never.1 id used f (List.mem_of_getElem? older)
      | succ i => exact ih never.2 newer older (Nat.lt_of_succ_lt_succ apart)

end Lives

end Foundation.Tenures
