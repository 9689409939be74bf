import DatabaseLayer.Foundation.Program

/-! The objects of one class, each under a name of its own, over a world they share. -/
namespace Foundation.Objects
open Foundation.Program

variable {W O ε α β : Type}

/-- The objects of one class, by name. -/
abbrev Slots (α : Type) := Nat → Option α

/-- A constructor that returned puts its object under the name. -/
def created (slots : Slots α) (i : Nat) : EStateM.Result ε (Scope W O) α → W × Slots α
  | .ok a t => (t.world,Function.update slots i (some a))
  | .error _ t => (t.world,slots)

def used (slots : Slots α) (i : Nat) (r : EStateM.Result ε (Scope W α) β) : W × Slots α :=
  ((left r).world,Function.update slots i (some (left r).this))

/-- Copy construction and assignment hand the source back as it is left. -/
def copied (slots : Slots α) (i j : Nat) (objects : α × α) : Slots α :=
  Function.update (Function.update slots j (some objects.2)) i (some objects.1)

def assigned (slots : Slots α) (i j : Nat) : EStateM.Result ε (Scope W α) α → W × Slots α
  | .ok rest t => (t.world,copied slots i j (t.this,rest))
  | .error _ t => (t.world,Function.update slots i (some t.this))

theorem createdWorld (slots : Slots α) (i : Nat) (r : EStateM.Result ε (Scope W O) α) :
    (created slots i r).1 = (left r).world := by
  cases r <;> rfl

theorem bindUpdate (slots : Slots α) (i : Nat) (x : Option α) (f : α → Option Nat) :
    (fun k => (Function.update slots i x k).bind f) =
      Function.update (fun k => (slots k).bind f) i (x.bind f) := by
  funext k
  by_cases own : k = i
  · subst own
    simp
  · simp [own]

theorem copiedHeld (slots : Slots α) (i j : Nat) (a b : α) (f : α → Option Nat) (left : f b = none) :
    (fun k => (copied slots i j (a,b) k).bind f) =
      Function.update (Function.update (fun k => (slots k).bind f) j none) i (f a) := by
  unfold copied
  rw [bindUpdate,bindUpdate]
  simp only [Option.bind_some,left]

section Others
variable {slots : Slots α} {i k j : Nat} {a : α} (live : slots i = some a)
include live

/-- An object stays as it is while something is done under other names. -/
theorem otherUpdate (unlike : k ≠ i) (x : Option α) : Function.update slots k x i = some a := by
  rw [Function.update_of_ne unlike.symm]
  exact live

theorem vacantApart (free : slots k = none) : k ≠ i := by
  rintro rfl
  cases free.symm.trans live

theorem otherCreated (free : slots k = none) (r : EStateM.Result ε (Scope W O) α) : (created slots k r).2 i = some a := by
  cases r with
  | ok b t => exact otherUpdate live (vacantApart live free) _
  | error e t => exact live

theorem otherCopied (target : k ≠ i) (source : j ≠ i) (objects : α × α) : copied slots k j objects i = some a :=
  otherUpdate (otherUpdate live source _) target _

theorem otherAssigned (target : k ≠ i) (source : j ≠ i) (r : EStateM.Result ε (Scope W α) α) :
    (assigned slots k j r).2 i = some a := by
  cases r with
  | ok rest t => exact otherCopied live target source _
  | error e t => exact otherUpdate live target _

end Others

section Paired
variable {R : α → β → Prop} {slots : Slots α} {others : Slots β}

theorem relUpdate (paired : ∀ k, Option.Rel R (slots k) (others k)) (i : Nat) {x : Option α} {y : Option β}
    (new : Option.Rel R x y) : ∀ k, Option.Rel R (Function.update slots i x k) (Function.update others i y k) := by
  intro k
  by_cases own : k = i
  · subst own
    simpa using new
  · simpa [own] using paired k

theorem relCopied (paired : ∀ k, Option.Rel R (slots k) (others k)) (i j : Nat) {objects : α × α} {links : β × β}
    (first : R objects.1 links.1) (second : R objects.2 links.2) :
    ∀ k, Option.Rel R (copied slots i j objects k) (copied others i j links k) :=
  relUpdate (relUpdate paired j (.some second)) i (.some first)

end Paired

section All
variable {P : α → Prop} {slots : Slots α}

/-- Every object that is there has the property. -/
def All (P : α → Prop) (slots : Slots α) : Prop := ∀ i a, slots i = some a → P a

theorem allEmpty : All P (fun _ => none) := nofun

theorem allUpdate (all : All P slots) (i : Nat) {x : Option α} (new : ∀ a ∈ x, P a) :
    All P (Function.update slots i x) := by
  intro k a held
  by_cases own : k = i
  · subst own
    rw [Function.update_self] at held
    exact new a held
  · rw [Function.update_of_ne own] at held
    exact all k a held

theorem allPut (all : All P slots) (i : Nat) {a : α} (new : P a) : All P (Function.update slots i (some a)) := by
  refine allUpdate all i fun b same => ?_
  cases same
  exact new

theorem allRemoved (all : All P slots) (i : Nat) : All P (Function.update slots i none) :=
  allUpdate all i fun _ none => by cases none

theorem allCreated (all : All P slots) (i : Nat) {r : EStateM.Result ε (Scope W O) α}
    (new : ∀ a t, r = .ok a t → P a) : All P (created slots i r).2 := by
  cases r with
  | ok a t => exact allPut all i (new a t rfl)
  | error e t => exact all

theorem allUsed (all : All P slots) (i : Nat) {r : EStateM.Result ε (Scope W α) β} (after : P (left r).this) :
    All P (used slots i r).2 := allPut all i after

theorem allCopied (all : All P slots) (i j : Nat) {objects : α × α} (first : P objects.1) (second : P objects.2) :
    All P (copied slots i j objects) := allPut (allPut all j second) i first

end All

end Foundation.Objects
