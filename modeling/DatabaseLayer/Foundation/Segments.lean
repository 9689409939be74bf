import Mathlib.Data.List.DropRight
import Mathlib.Data.List.TakeWhile

/-! Lists cut at separators and stripped at both ends: what a scanner over indices
computes, in terms of the list it scans. -/
namespace Foundation.Segments

variable {α : Type*}

section Strip
variable (p : α → Bool)

def strip (l : List α) : List α := (l.dropWhile p).rdropWhile p

/-- Nothing to strip at either end. -/
structure Stripped (l : List α) : Prop where
  leading : ∀ x, l.head? = some x → p x = false
  trailing : ∀ x, l.getLast? = some x → p x = false

variable {p}

theorem memStrip {l : List α} {x : α} (h : x ∈ strip p l) : x ∈ l :=
  (List.dropWhile_sublist p).subset ((List.rdropWhile_prefix p _).subset h)

theorem headPrefix {k l : List α} (pre : k <+: l) {x : α} (first : k.head? = some x) : l.head? = some x := by
  obtain ⟨rest,rfl⟩ := pre
  cases k with
  | nil => cases first
  | cons y ys => exact first

theorem stripStripped (l : List α) : Stripped p (strip p l) := by
  constructor
  · intro x first
    have kept : (l.dropWhile p).head? = some x := headPrefix (List.rdropWhile_prefix p _) first
    induction l with
    | nil => cases kept
    | cons y ys ih =>
      by_cases drops : p y = true
      · rw [List.dropWhile_cons_of_pos drops] at kept
        exact ih (by rwa [strip,List.dropWhile_cons_of_pos drops] at first) kept
      · rw [List.dropWhile_cons_of_neg drops] at kept
        cases kept
        exact Bool.eq_false_iff.mpr drops
  · intro x last
    have some : strip p l ≠ [] := by
      intro none
      rw [none] at last
      cases last
    rw [List.getLast?_eq_some_getLast some] at last
    cases last
    exact Bool.eq_false_iff.mpr (List.rdropWhile_last_not p (l.dropWhile p) some)

theorem stripSelf {l : List α} (stripped : Stripped p l) : strip p l = l := by
  have first : l.dropWhile p = l := by
    cases l with
    | nil => rfl
    | cons y ys => exact List.dropWhile_cons_of_neg (Bool.eq_false_iff.mp (stripped.leading y rfl))
  rw [strip,first,List.rdropWhile_eq_self_iff]
  exact fun some => Bool.eq_false_iff.mp (stripped.trailing _ (List.getLast?_eq_some_getLast some))

theorem strippedIff {l : List α} : Stripped p l ↔ strip p l = l :=
  ⟨stripSelf,fun same => same ▸ stripStripped l⟩

theorem stripTrailing {l pad : List α} (blank : ∀ x ∈ pad, p x = true) :
    (l ++ pad).rdropWhile p = l.rdropWhile p := by
  induction pad using List.reverseRecOn with
  | nil => rw [List.append_nil]
  | append_singleton pad x ih =>
    have last : p x = true := blank x (by simp)
    rw [← List.append_assoc,List.rdropWhile_concat_pos p _ x last]
    exact ih fun y inside => blank y (by simp [inside])

theorem stripPadded {before l behind : List α} (leading : ∀ x ∈ before, p x = true)
    (trailing : ∀ x ∈ behind, p x = true) (stripped : Stripped p l) : strip p (before ++ (l ++ behind)) = l := by
  rw [strip,List.dropWhile_append_of_pos leading]
  cases l with
  | nil =>
    rw [List.nil_append,List.dropWhile_eq_nil_iff.mpr trailing]
    rfl
  | cons y ys =>
    have kept : (y :: ys ++ behind).dropWhile p = y :: ys ++ behind :=
      List.dropWhile_cons_of_neg (Bool.eq_false_iff.mp (stripped.leading y rfl))
    rw [kept,stripTrailing trailing]
    have same := stripSelf stripped
    rwa [strip,List.dropWhile_cons_of_neg (Bool.eq_false_iff.mp (stripped.leading y rfl))] at same

theorem stripInfix (l : List α) : strip p l <:+: l :=
  (List.rdropWhile_prefix p _).isInfix.trans (List.dropWhile_suffix p).isInfix

/-- What is stripped is what p holds of, on both sides. -/
theorem stripParts (l : List α) : ∃ before behind, l = before ++ (strip p l ++ behind) ∧
    (∀ x ∈ before, p x = true) ∧ ∀ x ∈ behind, p x = true := by
  refine ⟨l.takeWhile p,(l.dropWhile p).rtakeWhile p,?_,fun x => List.mem_takeWhile_imp,fun x => List.mem_rtakeWhile_imp⟩
  rw [strip,List.rdropWhile_append_rtakeWhile,List.takeWhile_append_dropWhile]

theorem findNone {l : List α} (blank : ∀ x ∈ l, p x = true) : l.find? (fun x => !p x) = none := by
  rw [List.find?_eq_none]
  intro x inside
  simp [blank x inside]

theorem findStrip (l : List α) : (strip p l).find? (fun x => !p x) = l.find? (fun x => !p x) := by
  obtain ⟨before,behind,whole,leading,trailing⟩ := stripParts (p := p) l
  rw [whole,List.find?_append,List.find?_append,findNone leading,findNone trailing,Option.none_or,Option.or_none,← whole]

theorem findLastStrip (l : List α) :
    (strip p l).reverse.find? (fun x => !p x) = l.reverse.find? (fun x => !p x) := by
  obtain ⟨before,behind,whole,leading,trailing⟩ := stripParts (p := p) l
  have leading : ∀ x ∈ before.reverse, p x = true := fun x inside => leading x (List.mem_reverse.mp inside)
  have trailing : ∀ x ∈ behind.reverse, p x = true := fun x inside => trailing x (List.mem_reverse.mp inside)
  rw [whole,List.reverse_append,List.reverse_append,List.find?_append,List.find?_append,findNone leading,
    findNone trailing,Option.none_or,Option.or_none,← whole]

theorem findLastDropped (l : List α) :
    (l.dropWhile p).reverse.find? (fun x => !p x) = l.reverse.find? (fun x => !p x) := by
  have leading : ∀ x ∈ (l.takeWhile p).reverse, p x = true := fun x inside =>
    List.mem_takeWhile_imp (List.mem_reverse.mp inside)
  have parts := congrArg List.reverse (List.takeWhile_append_dropWhile (p := p) (l := l))
  rw [← parts,List.reverse_append,List.find?_append,findNone leading,Option.or_none]

theorem dropBefore {a m : List α} (leading : ∀ x, m.head? = some x → p x = false) (some : m ≠ []) (b : List α) :
    (a ++ (m ++ b)).dropWhile p = a.dropWhile p ++ (m ++ b) := by
  have kept : (m ++ b).dropWhile p = m ++ b := by
    cases m with
    | nil => exact absurd rfl some
    | cons y ys => exact List.dropWhile_cons_of_neg (Bool.eq_false_iff.mp (leading y rfl))
  rw [List.dropWhile_append]
  split
  · rename_i none
    rw [kept,List.isEmpty_iff.mp none,List.nil_append]
  · rfl

theorem dropBehind {m b : List α} (trailing : ∀ x, m.getLast? = some x → p x = false) (some : m ≠ []) (a : List α) :
    (a ++ (m ++ b)).rdropWhile p = a ++ (m ++ b.rdropWhile p) := by
  have first : ∀ x, m.reverse.head? = .some x → p x = false := fun x => by
    rw [List.head?_reverse]
    exact trailing x
  have dropped := dropBefore (a := b.reverse) first (List.reverse_ne_nil_iff.mpr some) a.reverse
  rw [List.rdropWhile,List.reverse_append,List.reverse_append,List.append_assoc,dropped,List.reverse_append,
    List.reverse_append,List.reverse_reverse,List.reverse_reverse,List.rdropWhile,List.append_assoc]

/-- Stripping leaves every piece whole that has nothing to strip. -/
theorem pieceInside {l m : List α} (piece : m <:+: l) (stripped : Stripped p m) : m <:+: strip p l := by
  by_cases none : m = []
  · rw [none]
    exact List.nil_infix
  · obtain ⟨a,b,rfl⟩ := piece
    rw [strip,List.append_assoc,dropBefore stripped.leading none,dropBehind stripped.trailing none]
    exact ⟨_,_,List.append_assoc _ _ _⟩

/-- The one longest piece of a list that has nothing to strip. -/
structure Longest (p : α → Bool) (l k : List α) : Prop where
  piece : k <:+: l
  stripped : Stripped p k
  longest : ∀ m, m <:+: l → Stripped p m → m.length ≤ k.length
  unique : ∀ m, m <:+: l → Stripped p m → m.length = k.length → m = k

theorem stripLongest (l : List α) : Longest p l (strip p l) where
  piece := stripInfix l
  stripped := stripStripped l
  longest _ piece stripped := (pieceInside piece stripped).length_le
  unique _ piece stripped same := (pieceInside piece stripped).eq_of_length same

end Strip

section Cut
variable [DecidableEq α] (x : α)

def before (l : List α) : List α := l.takeWhile (fun y => !(y == x))
def after (l : List α) : List α := (l.dropWhile (fun y => !(y == x))).tail

variable {x}

theorem notMemBefore (l : List α) : x ∉ before x l := by
  intro inside
  have other := List.mem_takeWhile_imp inside
  simp at other

theorem memBefore {l : List α} {y : α} (h : y ∈ before x l) : y ∈ l := (List.takeWhile_sublist _).subset h

theorem memAfter {l : List α} {y : α} (h : y ∈ after x l) : y ∈ l :=
  (List.dropWhile_sublist _).subset (List.mem_of_mem_tail h)

theorem others {l : List α} (absent : x ∉ l) : ∀ y ∈ l, (!(y == x)) = true := by
  intro y inside
  have other : y ≠ x := fun same => absent (same ▸ inside)
  simp [other]

theorem beforeAppend {l rest : List α} (absent : x ∉ l) : before x (l ++ x :: rest) = l := by
  rw [before,List.takeWhile_append_of_pos (others absent)]
  simp

theorem afterAppend {l rest : List α} (absent : x ∉ l) : after x (l ++ x :: rest) = rest := by
  rw [after,List.dropWhile_append_of_pos (others absent)]
  simp

theorem beforeAbsent {l : List α} (absent : x ∉ l) : before x l = l :=
  List.takeWhile_eq_self_iff.mpr (others absent)

theorem beforeAfter {l : List α} (inside : x ∈ l) : l = before x l ++ x :: after x l := by
  induction l with
  | nil => cases inside
  | cons y ys ih =>
    by_cases same : y = x
    · subst same
      simp [before,after]
    · have tail : x ∈ ys := (List.mem_cons.mp inside).resolve_left (Ne.symm same)
      have rest := ih tail
      have first : before x (y :: ys) = y :: before x ys := by simp [before,same]
      have last : after x (y :: ys) = after x ys := by simp [after,same]
      rw [first,last,List.cons_append]
      exact congrArg (List.cons y) rest

theorem splitOnFirst {l : List α} (inside : x ∈ l) : l.splitOn x = before x l :: (after x l).splitOn x := by
  have cut := List.splitOn_append_cons_self_of_not_mem (notMemBefore (x := x) l) (after x l)
  rwa [← beforeAfter inside] at cut

/-- A segment has no separator in it, and nothing that is not in the list. -/
theorem segmentMembers {l segment : List α} (h : segment ∈ l.splitOn x) : x ∉ segment ∧ ∀ y ∈ segment, y ∈ l := by
  induction n : l.length using Nat.strong_induction_on generalizing l with
  | _ n ih =>
    by_cases inside : x ∈ l
    · rw [splitOnFirst inside] at h
      rcases List.mem_cons.mp h with rfl | later
      · exact ⟨notMemBefore l,fun y => memBefore⟩
      · have whole := congrArg List.length (beforeAfter inside)
        rw [List.length_append,List.length_cons] at whole
        obtain ⟨absent,members⟩ := ih (after x l).length (by omega) later rfl
        exact ⟨absent,fun y mine => memAfter (members y mine)⟩
    · rw [List.splitOn_eq_singleton inside,List.mem_singleton] at h
      subst h
      exact ⟨inside,fun y => id⟩

end Cut

section Index
variable [DecidableEq α] {x : α} {l : List α}

theorem indexOfAbsent : l.findIdx (· == x) = l.length ↔ x ∉ l := by
  rw [List.findIdx_eq_length]
  constructor
  · intro all inside
    simpa using all x inside
  · intro absent y inside
    simpa using fun same : y = x => absent (same ▸ inside)

theorem takeIndex : l.take (l.findIdx (· == x)) = before x l := by
  rw [before,List.takeWhile_eq_take_findIdx_not]
  simp

theorem dropIndex : l.drop (l.findIdx (· == x) + 1) = after x l := by
  rw [after,List.dropWhile_eq_drop_findIdx_not,← List.drop_one,List.drop_drop]
  simp

end Index
end Foundation.Segments
