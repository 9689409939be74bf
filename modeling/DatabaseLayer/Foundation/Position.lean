import DatabaseLayer.Foundation.Loop
import DatabaseLayer.Foundation.Run

/-! A position in a sequence of rows, moved by one or sought. It is at its end when it is
the number of rows. -/
namespace Foundation.Position
open Foundation.Loop Foundation.Run

variable {σ : Type}

structure Positioned (σ : Type) where
  rows : σ → Nat
  current : σ → Int
  next : σ → σ
  seek : Nat → σ → σ

inductive Move where
  | next
  | seek (n : Nat)
  deriving DecidableEq, Repr

/-- A position that saturates: it moves on to the end and stays there, and seeks to the last
row at most, or nowhere if there is none. -/
def saturated (rows pos : Nat) : Move → Nat
  | .next => min (pos + 1) rows
  | .seek n => min n (rows - 1)

theorem saturatedInside (rows pos : Nat) (m : Move) : saturated rows pos m ≤ rows := by
  cases m with
  | next => exact Nat.min_le_right _ _
  | seek n =>
    change min n (rows - 1) ≤ rows
    omega

section Definitions
variable (p : Positioned σ)

def move (s : σ) : Move → σ
  | .next => p.next s
  | .seek n => p.seek n s

def AtEnd (s : σ) : Prop := p.current s = p.rows s

def InRange (s : σ) : Prop := 0 ≤ p.current s ∧ p.current s ≤ p.rows s

/-- Moving on from the end stays at the end. -/
def StaysAtEnd (s : σ) (m : Move) : Prop := m = .next → AtEnd p s → AtEnd p (p.next s)

/-- Moves that are not made off the end, nor into no rows. -/
def Safe (s : σ) : Move → Prop
  | .next => ¬ AtEnd p s
  | .seek _ => 0 < p.rows s

/-- What an implementation in machine integers does, for states its integers can represent. -/
structure Lawful (Fits : σ → Prop) : Prop where
  fits : ∀ s m, Fits s → Fits (move p s m)
  rows : ∀ s m, p.rows (move p s m) = p.rows s
  advances : ∀ s, Fits s → InRange p s → ¬ AtEnd p s → p.current (p.next s) = p.current s + 1
  overruns : ∀ s, Fits s → AtEnd p s → ¬ (InRange p (p.next s) ∧ AtEnd p (p.next s))
  clamps : ∀ s n, Fits s → 0 < p.rows s → p.current (p.seek n s) = (min n (p.rows s - 1) : Nat)
  misses : ∀ s n, Fits s → p.rows s = 0 → ¬ InRange p (p.seek n s)

instance (s : σ) : Decidable (AtEnd p s) := by unfold AtEnd; infer_instance

end Definitions

section Rules
variable {p : Positioned σ} {Fits : σ → Prop}

theorem safeStep (lawful : Lawful p Fits) (s : σ) (m : Move) (fits : Fits s) (now : InRange p s) :
    InRange p (move p s m) ∧ StaysAtEnd p s m ↔ Safe p s m := by
  have count := lawful.rows s m
  cases m with
  | next =>
    by_cases ended : AtEnd p s
    · refine iff_of_false (fun both => ?_) (fun safe => safe ended)
      exact lawful.overruns s fits ended ⟨both.1,both.2 rfl ended⟩
    · refine iff_of_true ⟨?_,fun _ last => absurd last ended⟩ ended
      have next := lawful.advances s fits now ended
      unfold AtEnd at ended
      obtain ⟨low,high⟩ := now
      simp only [move] at count
      simp only [InRange,move,next,count]
      omega
  | seek n =>
    by_cases some : 0 < p.rows s
    · refine iff_of_true ⟨?_,nofun⟩ some
      simp only [move] at count
      simp only [InRange,move,lawful.clamps s n fits some,count]
      omega
    · exact iff_of_false (fun both => lawful.misses s n fits (Nat.eq_zero_of_not_pos some) both.1) some

/-- A position stays in range, and its end stays its end, throughout a run exactly if every
move of the run is safe. -/
theorem inRangeIffSafe (lawful : Lawful p Fits) {s : σ} (fits : Fits s) (start : InRange p s) (ms : List Move) :
    Throughout (move p) (InRange p) s ms ∧ Guarded (move p) (StaysAtEnd p) s ms ↔
      Guarded (move p) (Safe p) s ms :=
  throughoutAndIffGuarded lawful.fits (safeStep lawful) fits start ms

end Rules

section Reading
variable {ε ρ : Type} {p : Positioned σ} {Fits Holds : σ → Prop} {c : Cursor ε σ ρ} {table : List ρ}

/-- The loop's three operations on an object that holds a table. -/
structure Walks (p : Positioned σ) (c : Cursor ε σ ρ) (table : List ρ) (Holds : σ → Prop) : Prop where
  counts : ∀ s, Holds s → p.rows s = table.length
  eof : ∀ s, Holds s → c.eof s = .ok (decide (AtEnd p s)) s
  read : ∀ s (i : Nat) row, Holds s → p.current s = i → table[i]? = some row → c.read s = .ok row s
  next : ∀ s, Holds s → c.next s = .ok ⟨⟩ (p.next s)
  holds : ∀ s m, Holds s → Holds (move p s m)

theorem readsFrom (lawful : Lawful p Fits) (walks : Walks p c table Holds) {s : σ} (fits : Fits s) (holds : Holds s)
    {i : Nat} (current : p.current s = i) (inside : i ≤ table.length) :
    ∃ t, Reads c s (table.drop i) t := by
  let At (rest : List ρ) (s : σ) : Prop := Fits s ∧ Holds s ∧
    ∃ i : Nat, p.current s = i ∧ i ≤ table.length ∧ rest = table.drop i
  have ended : ∀ s, At [] s → c.eof s = .ok true s := by
    rintro s ⟨_,holds,i,current,inside,last⟩
    have ended : AtEnd p s := by
      rw [eq_comm,List.drop_eq_nil_iff] at last
      rw [AtEnd,current,walks.counts s holds]
      omega
    rw [walks.eof s holds,decide_eq_true ended]
  have moves : ∀ row rest s, At (row :: rest) s → c.eof s = .ok false s ∧ c.read s = .ok row s ∧
      ∃ t, c.next s = .ok ⟨⟩ t ∧ At rest t := by
    rintro row rest s ⟨fits,holds,i,current,inside,list⟩
    have below : i < table.length := by
      by_contra past
      rw [List.drop_eq_nil_iff.mpr (Nat.not_lt.mp past)] at list
      cases list
    rw [List.drop_eq_getElem_cons below] at list
    cases list
    have more : ¬ AtEnd p s := by
      rw [AtEnd,current,walks.counts s holds]
      omega
    have range : InRange p s := by
      rw [InRange,current,walks.counts s holds]
      omega
    refine ⟨?_,walks.read s i _ holds current (List.getElem?_eq_getElem below),_,walks.next s holds,
      lawful.fits s .next fits,walks.holds s .next holds,i + 1,?_,below,rfl⟩
    · rw [walks.eof s holds,decide_eq_false more]
    · rw [lawful.advances s fits range more,current]
      rfl
  obtain ⟨t,reads,_⟩ := readsAlong ended moves ⟨fits,holds,i,current,inside,rfl⟩
  exact ⟨t,reads⟩

/-- Seeking to the first row and looping reads exactly the table, unless there is no first row. -/
theorem readsTableIff (lawful : Lawful p Fits) (walks : Walks p c table Holds) {s : σ} (fits : Fits s) (holds : Holds s) :
    (∃ t, Reads c (p.seek 0 s) table t) ↔ 0 < table.length := by
  have count := walks.counts s holds
  constructor
  · rintro ⟨t,reads⟩
    by_contra none
    have empty : table = [] := List.eq_nil_of_length_eq_zero (Nat.eq_zero_of_not_pos none)
    have lost : ¬ AtEnd p (p.seek 0 s) := by
      intro ended
      refine lawful.misses s 0 fits (count.trans (Nat.eq_zero_of_not_pos none)) ⟨?_,Int.le_of_eq ended⟩
      rw [ended]
      exact Int.natCast_nonneg _
    have inside : c.eof (p.seek 0 s) = _ := walks.eof _ (walks.holds s (.seek 0) holds)
    rw [decide_eq_false lost] at inside
    exact readsSome inside reads empty
  · intro some
    have first : p.current (p.seek 0 s) = (0 : Nat) := by
      rw [lawful.clamps s 0 fits (count ▸ some),Nat.zero_min]
    exact readsFrom lawful walks (lawful.fits s (.seek 0) fits) (walks.holds s (.seek 0) holds) first (Nat.zero_le _)

end Reading
end Foundation.Position
