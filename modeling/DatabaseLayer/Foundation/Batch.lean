import DatabaseLayer.Foundation.Program

/-! A loop that works through a list of items, until the work for one of them throws. -/
namespace Foundation.Batch
open Foundation.Program

variable {ε σ ι ω : Type}

def forEach (work : ι → EStateM ε σ Unit) : List ι → EStateM ε σ Unit
  | [] => return ()
  | item :: rest => do
    work item
    forEach work rest

/-- How a loop ends: in P when it returns, in Q when it throws. -/
def Ending (P Q : σ → Prop) : EStateM.Result ε σ Unit → Prop
  | .ok _ t => P t
  | .error _ t => Q t

section Rules
variable {work : ι → EStateM ε σ Unit} {P Q : σ → Prop} {s t : σ} {items : List ι}

theorem endingBind {m : EStateM ε σ Unit} {next : EStateM ε σ Unit} {R : σ → Prop} (first : Ending R Q (m s))
    (rest : ∀ t, R t → Ending P Q (next t)) : Ending P Q ((do m; next) s) := by
  rw [bindApply]
  cases result : m s with
  | ok a t =>
    rw [result] at first
    exact rest t first
  | error e t =>
    rw [result] at first
    exact first

theorem forEachAlong {At : List ι → σ → Prop}
    (each : ∀ item rest s, At (item :: rest) s → Ending (At rest) Q (work item s)) (start : At items s) :
    Ending (At []) Q (forEach work items s) := by
  induction items generalizing s with
  | nil => exact start
  | cons item rest ih => exact endingBind (each item rest s start) fun t after => ih after

/-- What was completed is recorded, oldest first: the work for an item adds its record when it
returns, and nothing when it throws. -/
structure Records (work : ι → EStateM ε σ Unit) (Ready : σ → Prop) (Fits : ι → Prop) (done : σ → List ω)
    (record : ι → ω) : Prop where
  once : ∀ s item, Ready s → Fits item →
    Ending (fun t => Ready t ∧ done t = done s ++ [record item]) (fun t => done t = done s) (work item s)

variable {Ready : σ → Prop} {Fits : ι → Prop} {done : σ → List ω} {record : ι → ω}

/-- The items before the one that throws are completed, each once and in order, and no other. -/
theorem forEachRecords (records : Records work Ready Fits done record) (ready : Ready s)
    (fits : ∀ item ∈ items, Fits item) :
    Ending (fun t => Ready t ∧ done t = done s ++ items.map record)
      (fun t => ∃ k, k < items.length ∧ done t = done s ++ (items.take k).map record) (forEach work items s) := by
  induction items generalizing s with
  | nil => exact ⟨ready,(List.append_nil _).symm⟩
  | cons item rest ih =>
    have first := records.once s item ready (fits item List.mem_cons_self)
    have later := fun t now => ih (s := t) now fun other inside => fits other (List.mem_cons_of_mem _ inside)
    simp only [forEach,bindApply]
    cases result : work item s with
    | error e t =>
      rw [result] at first
      exact ⟨0,Nat.zero_lt_succ _,first.trans (List.append_nil _).symm⟩
    | ok a t =>
      rw [result] at first
      obtain ⟨next,added⟩ := first
      have rests := later t next
      dsimp only
      cases ending : forEach work rest t with
      | ok b u =>
        rw [ending] at rests
        refine ⟨rests.1,?_⟩
        rw [rests.2,added,List.append_assoc]
        rfl
      | error e u =>
        rw [ending] at rests
        obtain ⟨k,below,recorded⟩ := rests
        refine ⟨k + 1,Nat.succ_lt_succ below,?_⟩
        rw [recorded,added,List.append_assoc]
        rfl

end Rules
end Foundation.Batch
