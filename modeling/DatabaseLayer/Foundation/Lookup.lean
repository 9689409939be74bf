import DatabaseLayer.Foundation.Program
import Mathlib.Data.List.Basic

/-! Lookups by name and by number in one list of names, made by programs that may keep
something of their own between the calls. -/
namespace Foundation.Lookup
open Foundation.Program

section Results
variable {ε σ α : Type}

def Returns (a : α) (r : EStateM.Result ε σ α) : Prop := ∃ t, r = .ok a t

def Refuses (refusal : ε → Prop) (r : EStateM.Result ε σ α) : Prop := ∃ e t, r = .error e t ∧ refusal e

end Results

section Positions
variable {N : Type} {names : List N} {name n : N} {i : Nat}

/-- The first position of a name. -/
def Least (names : List N) (name : N) (i : Int) : Prop :=
  ∃ k : Nat, i = k ∧ names[k]? = some name ∧ ∀ j < k, names[j]? ≠ some name

theorem leastOfFindIdx [DecidableEq N] (found : names.findIdx? (· = name) = some i) : Least names name i := by
  obtain ⟨below,same,before⟩ := List.findIdx?_eq_some_iff_getElem.mp found
  refine ⟨i,rfl,?_,fun j earlier there => ?_⟩
  · rw [List.getElem?_eq_getElem below,of_decide_eq_true same]
  · obtain ⟨inside,eq⟩ := List.getElem?_eq_some_iff.mp there
    exact before j earlier (decide_eq_true eq)

theorem leastAtMost {j : Int} (there : names[i]? = some n) (least : Least names n j) :
    j ≤ i ∧ (j = i ↔ ∀ k < i, names[k]? ≠ some n) := by
  obtain ⟨first,rfl,here,before⟩ := least
  have low : first ≤ i := Nat.le_of_not_lt fun more => before i more there
  refine ⟨Int.ofNat_le.mpr low,fun same k earlier => ?_,fun none => ?_⟩
  · rw [Int.ofNat.inj same] at before
    exact before k earlier
  · have high : i ≤ first := Nat.le_of_not_lt fun more => none first more here
    rw [Nat.le_antisymm low high]

end Positions

section Lookups
variable {ε σ N β : Type} {n : N}
variable (refusal : ε → Prop) (domain : Int → Prop) (names : List N) (shown : N → β)
  (index : N → EStateM ε σ Int) (nameAt : Int → EStateM ε σ β)

/-- In this state the names are looked up right: the first position of a name, the name at a
position, and either after the other. -/
structure LooksUp (s : σ) : Prop where
  found : ∀ n ∈ names, ∃ i, Least names n i ∧ Returns i (index n s)
  missing : ∀ n, n ∉ names → Refuses refusal (index n s)
  inside : ∀ (i : Nat) n, names[i]? = some n → Returns (shown n) (nameAt i s)
  outside : ∀ i : Int, domain i → i < 0 ∨ names.length ≤ i → Refuses refusal (nameAt i s)
  there : ∀ n i t, index n s = .ok i t → Returns (shown n) (nameAt i t)
  back : ∀ (i : Nat) n t, names[i]? = some n → nameAt i s = .ok (shown n) t →
    ∃ j, Returns j (index n t) ∧ j ≤ i ∧ (j = i ↔ ∀ k < i, names[k]? ≠ some n)

/-- What the two lookups answer while P holds, which they keep. -/
structure Answers [DecidableEq N] (P : σ → Prop) : Prop where
  index : ∀ s, P s → ∀ n, match names.findIdx? (· = n) with
    | some i => ∃ t, P t ∧ index n s = .ok (i : Int) t
    | none => Refuses refusal (index n s)
  inside : ∀ s, P s → ∀ (i : Nat) n, names[i]? = some n → ∃ t, P t ∧ nameAt i s = .ok (shown n) t
  outside : ∀ s, P s → ∀ i : Int, domain i → i < 0 ∨ names.length ≤ i → Refuses refusal (nameAt i s)

variable {refusal domain names shown index nameAt}

theorem answersFound [DecidableEq N] {P : σ → Prop} (answers : Answers refusal domain names shown index nameAt P) {s : σ}
    (now : P s) (member : n ∈ names) : ∃ i t, Least names n i ∧ P t ∧ index n s = .ok i t := by
  have answer := answers.index s now n
  cases found : names.findIdx? (· = n) with
  | none =>
    have differs := List.findIdx?_eq_none_iff.mp found n member
    exact absurd rfl (of_decide_eq_false differs)
  | some i =>
    rw [found] at answer
    obtain ⟨t,after,returns⟩ := answer
    exact ⟨i,t,leastOfFindIdx found,after,returns⟩

theorem answersMissing [DecidableEq N] {P : σ → Prop} (answers : Answers refusal domain names shown index nameAt P) {s : σ}
    (now : P s) (absent : n ∉ names) : Refuses refusal (index n s) := by
  have answer := answers.index s now n
  have none : names.findIdx? (· = n) = none :=
    List.findIdx?_eq_none_iff.mpr fun x member => decide_eq_false fun same => absent (same ▸ member)
  rwa [none] at answer

theorem looksUp [DecidableEq N] {P : σ → Prop} (answers : Answers refusal domain names shown index nameAt P) {s : σ}
    (now : P s) : LooksUp refusal domain names shown index nameAt s := by
  refine ⟨fun n member => ?_,fun n => answersMissing answers now,fun i n there => ?_,answers.outside s now,?_,?_⟩
  · obtain ⟨i,t,least,_,returns⟩ := answersFound answers now member
    exact ⟨i,least,t,returns⟩
  · obtain ⟨t,_,returns⟩ := answers.inside s now i n there
    exact ⟨t,returns⟩
  · intro n i t found
    by_cases member : n ∈ names
    · obtain ⟨j,u,⟨k,rfl,at_,_⟩,after,returns⟩ := answersFound answers now member
      cases found.symm.trans returns
      obtain ⟨v,_,shows⟩ := answers.inside t after k n at_
      exact ⟨v,shows⟩
    · obtain ⟨e,u,refused,_⟩ := answersMissing answers now member
      cases found.symm.trans refused
  · intro i n t there shows
    obtain ⟨u,after,returns⟩ := answers.inside s now i n there
    cases shows.symm.trans returns
    obtain ⟨j,v,least,_,again⟩ := answersFound answers after (List.mem_of_getElem? there)
    exact ⟨j,⟨v,again⟩,leastAtMost there least⟩

end Lookups
end Foundation.Lookup
