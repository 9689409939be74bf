import DatabaseLayer.Foundation.Run

/-! Machines that answer requests. Two of them that meet the same diagram of answers and
states cannot be told apart by any list of requests. -/
namespace Foundation.Transcript
open Foundation.Run

variable {σ τ ι ο : Type*}

def transcript (step : σ → ι → ο × σ) : σ → List ι → List ο
  | _,[] => []
  | s,i :: is => (step s i).1 :: transcript step (step s i).2 is

/-- The states alone. -/
def after (step : σ → ι → ο × σ) (s : σ) (i : ι) : σ := (step s i).2

/-- On requests the second machine admits, related states answer alike and stay related. -/
structure Answers (R : σ → τ → Prop) (admits : τ → ι → Prop) (concrete : σ → ι → ο × σ)
    (abstract : τ → ι → ο × τ) : Prop where
  alike : ∀ s t i, R s t → admits t i → (concrete s i).1 = (abstract t i).1
  related : ∀ s t i, R s t → admits t i → R (concrete s i).2 (abstract t i).2

variable {R : σ → τ → Prop} {admits : τ → ι → Prop} {concrete : σ → ι → ο × σ} {abstract : τ → ι → ο × τ}

theorem transcriptsAgree (answers : Answers R admits concrete abstract) {s : σ} {t : τ} (start : R s t) {is : List ι}
    (admitted : Guarded (after abstract) admits t is) : transcript concrete s is = transcript abstract t is := by
  induction is generalizing s t with
  | nil => rfl
  | cons i is ih =>
    obtain ⟨first,rest⟩ := guardedCons.mp admitted
    unfold transcript
    rw [answers.alike s t i start first,ih (answers.related s t i start first) rest]

/-- What every admitted request is answered with is what the transcript is made of. -/
theorem transcriptAll {P : ο → Prop} {I : τ → Prop} (keep : ∀ t i, I t → admits t i → I (abstract t i).2)
    (answer : ∀ t i, I t → admits t i → P (abstract t i).1) {t : τ} (start : I t) {is : List ι}
    (admitted : Guarded (after abstract) admits t is) : ∀ o ∈ transcript abstract t is, P o := by
  induction is generalizing t with
  | nil => simp [transcript]
  | cons i is ih =>
    obtain ⟨first,rest⟩ := guardedCons.mp admitted
    intro o inside
    rcases List.mem_cons.mp inside with rfl | later
    · exact answer t i start first
    · exact ih (keep t i start first) rest o later

section Interleaving
variable {ε : Type*}

/-- What the own requests are answered with among events of others. -/
def interleaved (step : σ → ι → ο × σ) (other : σ → ε → σ) : σ → List (ι ⊕ ε) → List ο
  | _,[] => []
  | s,.inl i :: es => (step s i).1 :: interleaved step other (step s i).2 es
  | s,.inr e :: es => interleaved step other (other s e) es

/-- The own requests alone. -/
def own : List (ι ⊕ ε) → List ι
  | [] => []
  | .inl i :: es => i :: own es
  | .inr _ :: es => own es

/-- Events that leave states related do not show in the answers. -/
theorem interleavedAgree (answers : Answers R admits concrete abstract) {other : σ → ε → σ} {foreign : ε → Prop}
    (aside : ∀ s t e, R s t → foreign e → R (other s e) t) {s : σ} {t : τ} (start : R s t) {es : List (ι ⊕ ε)}
    (strangers : ∀ e, .inr e ∈ es → foreign e) (admitted : Guarded (after abstract) admits t (own es)) :
    interleaved concrete other s es = transcript abstract t (own es) := by
  induction es generalizing s t with
  | nil => rfl
  | cons e es ih =>
    have later : ∀ e, .inr e ∈ es → foreign e := fun e inside => strangers e (List.mem_cons_of_mem _ inside)
    cases e with
    | inl i =>
      obtain ⟨first,rest⟩ := guardedCons.mp admitted
      unfold interleaved own transcript
      rw [answers.alike s t i start first,ih (answers.related s t i start first) later rest]
    | inr e => exact ih (aside s t e start (strangers e List.mem_cons_self)) later admitted

end Interleaving

section Separation
variable {ρ : Type*} (left : σ → ι → ο × σ) (right : ρ → ι → ο × ρ) (abstract : τ → ι → ο × τ)

variable {left right abstract} {S : σ × ρ × τ → Prop} {meets : σ × ρ × τ → ι → Prop}

end Separation

end Foundation.Transcript
