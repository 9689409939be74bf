import Mathlib.Data.List.Nodup
import Mathlib.Logic.Function.Basic

/-! A partial function overridden by pairs of a key and a value, one after the other. -/
namespace Foundation.Overrides

variable {κ ν : Type*} [DecidableEq κ]

def overrides (o : κ → Option ν) (ps : List (κ × ν)) : κ → Option ν :=
  ps.foldl (fun o p => Function.update o p.1 (some p.2)) o

def keys (ps : List (κ × ν)) : List κ := ps.map Prod.fst

/-- The last pair of each key. -/
def effective : List (κ × ν) → List (κ × ν)
  | [] => []
  | p :: rest => if p.1 ∈ keys rest then effective rest else p :: effective rest

section Rules
variable {o : κ → Option ν} {ps qs : List (κ × ν)} {k : κ}

theorem overridesAppend (o : κ → Option ν) (ps qs : List (κ × ν)) :
    overrides o (ps ++ qs) = overrides (overrides o ps) qs := List.foldl_append

theorem overridesUnnamed (unnamed : k ∉ keys ps) : overrides o ps k = o k := by
  induction ps generalizing o with
  | nil => rfl
  | cons p rest ih =>
    obtain ⟨other,later⟩ := not_or.mp (mt List.mem_cons.mpr unnamed)
    exact (ih later).trans (Function.update_of_ne other _ _)

/-- What a named key is overridden with does not depend on what it was. -/
theorem overridesNamed (named : k ∈ keys ps) (other : κ → Option ν) : overrides o ps k = overrides other ps k := by
  induction ps generalizing o other with
  | nil => cases named
  | cons p rest ih =>
    by_cases later : k ∈ keys rest
    · exact ih later _
    · have same : k = p.1 := (List.mem_cons.mp named).resolve_right later
      subst same
      have first (base : κ → Option ν) : overrides base (p :: rest) p.1 = some p.2 :=
        (overridesUnnamed later).trans (Function.update_self _ _ _)
      exact (first o).trans (first other).symm

theorem overridesInside {v : ν} (distinct : (keys ps).Nodup) (inside : (k,v) ∈ ps) : overrides o ps k = some v := by
  induction ps generalizing o with
  | nil => cases inside
  | cons p rest ih =>
    obtain ⟨absent,others⟩ := List.nodup_cons.mp distinct
    rcases List.mem_cons.mp inside with rfl | later
    · exact (overridesUnnamed absent).trans (Function.update_self _ _ _)
    · exact ih others later

/-- Two lists of pairs, one after the other: the second one's keys have what it gives them alone. -/
theorem overridesTwice (ps qs : List (κ × ν)) : overrides (overrides o ps) qs =
    fun k => if k ∈ keys qs then overrides o qs k else overrides o ps k := by
  funext k
  by_cases named : k ∈ keys qs
  · rw [if_pos named]
    exact overridesNamed named o
  · rw [if_neg named]
    exact overridesUnnamed named

theorem overridesPerm (perm : ps.Perm qs) (distinct : (keys ps).Nodup) : overrides o ps = overrides o qs := by
  refine perm.foldl_eq' (fun p here q there z => ?_) o
  by_cases same : p.1 = q.1
  · have one : p = q := List.inj_on_of_nodup_map distinct here there same
    rw [one]
  · exact Function.update_comm same _ _ _

end Rules

section Effective
variable {o : κ → Option ν} {ps : List (κ × ν)} {k : κ}

theorem effectiveKeys : k ∈ keys (effective ps) ↔ k ∈ keys ps := by
  induction ps with
  | nil => exact Iff.rfl
  | cons p rest ih =>
    unfold effective
    split
    · rename_i later
      rw [ih]
      refine ⟨List.mem_cons_of_mem _,fun named => ?_⟩
      rcases List.mem_cons.mp named with same | inside
      · exact same ▸ later
      · exact inside
    · simp only [keys,List.map_cons,List.mem_cons] at ih ⊢
      rw [ih]

theorem effectiveDistinct (ps : List (κ × ν)) : (keys (effective ps)).Nodup := by
  induction ps with
  | nil => exact List.nodup_nil
  | cons p rest ih =>
    unfold effective
    split
    · exact ih
    · rename_i first
      exact List.nodup_cons.mpr ⟨fun later => first (effectiveKeys.mp later),ih⟩

theorem effectiveInside {p : κ × ν} (inside : p ∈ effective ps) : p ∈ ps := by
  induction ps with
  | nil => exact inside
  | cons q rest ih =>
    unfold effective at inside
    split at inside
    · exact List.mem_cons_of_mem _ (ih inside)
    · rcases List.mem_cons.mp inside with rfl | later
      · exact List.mem_cons_self
      · exact List.mem_cons_of_mem _ (ih later)

/-- Pairs that a later one overrides can be left out. -/
theorem overridesEffective (o : κ → Option ν) (ps : List (κ × ν)) : overrides o (effective ps) = overrides o ps := by
  induction ps generalizing o with
  | nil => rfl
  | cons p rest ih =>
    unfold effective
    split
    · rename_i later
      rw [ih]
      funext k
      by_cases named : k ∈ keys rest
      · exact overridesNamed named _
      · have other : k ≠ p.1 := fun same => named (same ▸ later)
        rw [overridesUnnamed named]
        exact ((overridesUnnamed named).trans (Function.update_of_ne other _ _)).symm
    · exact ih _

end Effective
end Foundation.Overrides
