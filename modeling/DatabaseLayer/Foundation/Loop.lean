import DatabaseLayer.Foundation.Program

/-! The loop `while (!eof()) { read; next(); }` over anything that has these three. -/
namespace Foundation.Loop
open Foundation.Program

variable {ε σ ρ : Type}

structure Cursor (ε σ ρ : Type) where
  eof : EStateM ε σ Bool
  read : EStateM ε σ ρ
  next : EStateM ε σ Unit

/-- The rows one pass reads, unless it is still going when the fuel is used up. -/
def readAll (c : Cursor ε σ ρ) : Nat → EStateM ε σ (Option (List ρ))
  | 0 => pure none
  | fuel + 1 => do
    if ← c.eof then return some []
    else
      let row ← c.read
      c.next
      let rest ← readAll c fuel
      return rest.map (row :: ·)

/-- The rows one pass reads whether or not it is stopped, and how it ends, fuel permitting. -/
def visit (c : Cursor ε σ ρ) : Nat → σ → List ρ × Option (EStateM.Result ε σ Unit)
  | 0,_ => ([],none)
  | fuel + 1,s => match c.eof s with
    | .error e t => ([],some (.error e t))
    | .ok true t => ([],some (.ok ⟨⟩ t))
    | .ok false t => match c.read t with
      | .error e u => ([],some (.error e u))
      | .ok row u => match c.next u with
        | .error e v => ([row],some (.error e v))
        | .ok _ v => (row :: (visit c fuel v).1,(visit c fuel v).2)

/-- The loop reads these rows in this order, and then ends like this. -/
def Visits (c : Cursor ε σ ρ) (s : σ) (rows : List ρ) (last : EStateM.Result ε σ Unit) : Prop :=
  ∃ fuel, visit c fuel s = (rows,some last)

/-- The loop ends, having read these rows in this order. -/
def Reads (c : Cursor ε σ ρ) (s : σ) (rows : List ρ) (t : σ) : Prop :=
  ∃ fuel, readAll c fuel s = .ok (some rows) t

section Rules
variable {c : Cursor ε σ ρ} {s t u v : σ} {row : ρ} {rows : List ρ}

theorem readsEnd (ended : c.eof s = .ok true t) : Reads c s [] t := by
  refine ⟨1,?_⟩
  simp only [readAll,bindApply,ended,if_true,pureApply]

theorem readsRow (inside : c.eof s = .ok false t) (read : c.read t = .ok row u) (next : c.next u = .ok ⟨⟩ v)
    {w : σ} (rest : Reads c v rows w) : Reads c s (row :: rows) w := by
  obtain ⟨fuel,rest⟩ := rest
  refine ⟨fuel + 1,?_⟩
  simp only [readAll,bindApply,inside,Bool.false_eq_true,if_false,read,next,rest,pureApply,Option.map_some]

theorem readsInv (reads : Reads c s rows t) : (c.eof s = .ok true t ∧ rows = []) ∨
    ∃ u v w row rest, c.eof s = .ok false u ∧ c.read u = .ok row v ∧ c.next v = .ok ⟨⟩ w ∧
      Reads c w rest t ∧ rows = row :: rest := by
  obtain ⟨fuel,run⟩ := reads
  cases fuel with
  | zero => cases run
  | succ fuel =>
    simp only [readAll,bindApply] at run
    cases eof : c.eof s with
    | error e u => simp [eof] at run
    | ok ended u =>
      simp only [eof] at run
      cases ended with
      | true =>
        cases run
        exact .inl ⟨rfl,rfl⟩
      | false =>
        simp only [Bool.false_eq_true,if_false,bindApply] at run
        cases read : c.read u with
        | error e v => simp [read] at run
        | ok row v =>
          simp only [read] at run
          cases next : c.next v with
          | error e w => simp [next] at run
          | ok _ w =>
            simp only [next] at run
            cases rest : readAll c fuel w with
            | error e x => simp [rest] at run
            | ok more x =>
              cases more with
              | none => simp [rest] at run
              | some more =>
                simp only [rest,pureApply,Option.map_some] at run
                cases run
                exact .inr ⟨u,v,w,row,more,rfl,read,next,⟨fuel,rest⟩,rfl⟩

/-- The rows a loop reads are all it can read. -/
theorem readsUnique (reads : Reads c s rows t) {others : List ρ} (again : Reads c s others u) : rows = others := by
  induction rows generalizing s others with
  | nil =>
    obtain ⟨ended,_⟩ | ⟨_,_,_,_,_,_,_,_,_,none⟩ := readsInv reads
    · obtain ⟨_,rfl⟩ | ⟨_,_,_,_,_,inside,_⟩ := readsInv again
      · rfl
      · cases ended.symm.trans inside
    · cases none
  | cons row rest ih =>
    obtain ⟨_,none⟩ | ⟨_,_,_,_,_,inside,read,next,after,same⟩ := readsInv reads
    · cases none
    · cases same
      obtain ⟨ended,_⟩ | ⟨_,_,_,_,_,inside',read',next',after',rfl⟩ := readsInv again
      · cases inside.symm.trans ended
      · cases inside.symm.trans inside'
        cases read.symm.trans read'
        cases next.symm.trans next'
        rw [ih after after']

theorem readsSome (inside : c.eof s = .ok false t) (reads : Reads c s rows u) : rows ≠ [] := by
  obtain ⟨ended,_⟩ | ⟨_,_,_,_,_,_,_,_,_,rfl⟩ := readsInv reads
  · rw [inside] at ended
    cases ended
  · exact List.cons_ne_nil _ _

theorem readsAlong {At : List ρ → σ → Prop} (ended : ∀ s, At [] s → c.eof s = .ok true s)
    (inside : ∀ row rest s, At (row :: rest) s → c.eof s = .ok false s ∧ c.read s = .ok row s ∧
      ∃ t, c.next s = .ok ⟨⟩ t ∧ At rest t) {rows : List ρ} {s : σ} (start : At rows s) :
    ∃ t, Reads c s rows t ∧ At [] t := by
  induction rows generalizing s with
  | nil => exact ⟨s,readsEnd (ended s start),start⟩
  | cons row rest ih =>
    obtain ⟨more,read,t,next,after⟩ := inside row rest s start
    obtain ⟨u,reads,last⟩ := ih after
    exact ⟨u,readsRow more read next reads,last⟩

section Stopped
variable {last : EStateM.Result ε σ Unit}

theorem visitsEnd (ended : c.eof s = .ok true t) : Visits c s [] (.ok ⟨⟩ t) := by
  refine ⟨1,?_⟩
  simp only [visit,ended]

theorem visitsRow (inside : c.eof s = .ok false t) (read : c.read t = .ok row u) (next : c.next u = .ok ⟨⟩ v)
    (rest : Visits c v rows last) : Visits c s (row :: rows) last := by
  obtain ⟨fuel,rest⟩ := rest
  refine ⟨fuel + 1,?_⟩
  simp only [visit,inside,read,next,rest]

theorem visitsLast (inside : c.eof s = .ok false t) (read : c.read t = .ok row u) {e : ε}
    (next : c.next u = .error e v) : Visits c s [row] (.error e v) := by
  refine ⟨1,?_⟩
  simp only [visit,inside,read,next]

theorem visitsReads (visits : Visits c s rows (.ok ⟨⟩ t)) : Reads c s rows t := by
  obtain ⟨fuel,run⟩ := visits
  refine ⟨fuel,?_⟩
  induction fuel generalizing s rows with
  | zero => cases run
  | succ fuel ih =>
    simp only [visit] at run
    simp only [readAll,bindApply]
    cases eof : c.eof s with
    | error e u => simp [eof] at run
    | ok ended u =>
      cases ended with
      | true =>
        simp only [eof,Prod.mk.injEq,Option.some.injEq] at run
        obtain ⟨rfl,same⟩ := run
        cases same
        rfl
      | false =>
        simp only [eof,Bool.false_eq_true,if_false,bindApply] at run ⊢
        cases read : c.read u with
        | error e v => simp [read] at run
        | ok row v =>
          simp only [read] at run ⊢
          cases next : c.next v with
          | error e w => simp [next] at run
          | ok _ w =>
            simp only [next,Prod.mk.injEq] at run ⊢
            obtain ⟨rfl,last⟩ := run
            have rest : visit c fuel w = ((visit c fuel w).1,some (.ok ⟨⟩ t)) := Prod.ext rfl last
            rw [ih rest]
            rfl

/-- Reading on leads from row to row, until the last one is moved on from. -/
theorem visitsAlong {At : List ρ → σ → Prop} {Ends : EStateM.Result ε σ Unit → Prop}
    (ended : ∀ s, At [] s → c.eof s = .ok true s ∧ Ends (.ok ⟨⟩ s))
    (inside : ∀ row rest s, At (row :: rest) s → c.eof s = .ok false s ∧ c.read s = .ok row s ∧
      ((∃ t, c.next s = .ok ⟨⟩ t ∧ At rest t) ∨ (rest = [] ∧ ∃ e t, c.next s = .error e t ∧ Ends (.error e t))))
    {rows : List ρ} {s : σ} (start : At rows s) : ∃ last, Visits c s rows last ∧ Ends last := by
  induction rows generalizing s with
  | nil =>
    obtain ⟨eof,last⟩ := ended s start
    exact ⟨_,visitsEnd eof,last⟩
  | cons row rest ih =>
    obtain ⟨more,read,⟨t,next,after⟩ | ⟨rfl,e,t,next,last⟩⟩ := inside row rest s start
    · obtain ⟨last,visits,ends⟩ := ih after
      exact ⟨last,visitsRow more read next visits,ends⟩
    · exact ⟨_,visitsLast more read next,last⟩

end Stopped
end Rules

section Each
variable {α : Type}

/-- `for (i = 0; i < n; i++)` reading one thing each time. -/
def readEach (read : Nat → EStateM ε σ α) : List Nat → EStateM ε σ (List α)
  | [] => return []
  | i :: rest => do
    let a ← read i
    let more ← readEach read rest
    return a :: more

theorem readEachFrom {read : Nat → EStateM ε σ α} {row : List α} {k : Nat} {s : σ}
    (each : ∀ c a, row[c]? = some a → read (k + c) s = .ok a s) :
    readEach read (List.range' k row.length) s = .ok row s := by
  induction row generalizing k with
  | nil => rfl
  | cons a rest ih =>
    have first : read k s = .ok a s := each 0 a rfl
    have more := ih (k := k + 1) fun c b inside => by
      rw [Nat.add_assoc,Nat.add_comm 1 c]
      exact each (c + 1) b inside
    simp only [List.length_cons,List.range'_succ,readEach,bindApply,first,more,pureApply]

theorem readEachRow {read : Nat → EStateM ε σ α} {row : List α} {s : σ}
    (each : ∀ c a, row[c]? = some a → read c s = .ok a s) :
    readEach read (List.range row.length) s = .ok row s := by
  rw [List.range_eq_range']
  exact readEachFrom fun c a inside => by rw [Nat.zero_add]; exact each c a inside

end Each
end Foundation.Loop
