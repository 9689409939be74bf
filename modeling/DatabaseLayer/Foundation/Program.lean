import Mathlib.Logic.Function.Basic
import Mathlib.Order.Basic

/-! Programs that may stop with an exception and keep the state they reached when
they do. The state is a world shared by all objects and the object at hand.
`Settles E R` is the rule format: the state left is related by R to the start,
unless the program stopped with an exception admitted by E. -/
namespace Foundation.Program

structure Scope (W O : Type) where
  world : W
  this : O

abbrev Method (ε W O α : Type) := EStateM ε (Scope W O) α

variable {ε σ α β : Type}

@[simp] theorem bindApply (m : EStateM ε σ α) (f : α → EStateM ε σ β) (s : σ) :
    (m >>= f) s = match m s with
      | .ok a t => f a t
      | .error e t => .error e t := by
  change EStateM.bind m f s = _
  unfold EStateM.bind
  cases m s <;> rfl

@[simp] theorem pureApply (a : α) (s : σ) : (pure a : EStateM ε σ α) s = .ok a s := rfl

@[simp] theorem throwApply (e : ε) (s : σ) : (throw e : EStateM ε σ α) s = .error e s := rfl

@[simp] theorem getApply (s : σ) : (get : EStateM ε σ σ) s = .ok s s := rfl

@[simp] theorem setApply (s t : σ) : (set t : EStateM ε σ PUnit) s = .ok ⟨⟩ t := rfl

@[simp] theorem modifyApply (f : σ → σ) (s : σ) :
    (modify f : EStateM ε σ PUnit) s = .ok ⟨⟩ (f s) := rfl

@[simp] theorem iteApply (c : Prop) [Decidable c] (m n : EStateM ε σ α) (s : σ) :
    (if c then m else n) s = if c then m s else n s := by
  split <;> rfl

/-- The state a result carries, whichever way the program ended. -/
def left : EStateM.Result ε σ α → σ
  | .ok _ t => t
  | .error _ t => t

@[simp] theorem leftOk (a : α) (t : σ) : left (.ok a t : EStateM.Result ε σ α) = t := rfl
@[simp] theorem leftError (e : ε) (t : σ) : left (.error e t : EStateM.Result ε σ α) = t := rfl

@[simp] theorem leftBindPure (m : EStateM ε σ α) (f : α → β) (s : σ) :
    left ((m >>= fun a => pure (f a)) s) = left (m s) := by
  rw [bindApply]
  cases m s <;> rfl

def returned : EStateM.Result ε σ α → Bool
  | .ok _ _ => true
  | .error _ _ => false

def Ends (E : ε → Prop) (R : σ → σ → Prop) (s : σ) : EStateM.Result ε σ α → Prop
  | .ok _ t => R s t
  | .error e t => E e ∨ R s t

structure Settles (E : ε → Prop) (R : σ → σ → Prop) (m : EStateM ε σ α) : Prop where
  ends : ∀ s, Ends E R s (m s)

/-- The relations that compose along a program. -/
structure Chain (R : σ → σ → Prop) : Prop where
  refl : ∀ s, R s s
  trans : ∀ s t u, R s t → R t u → R s u

theorem chainEq {γ : Type} (f : σ → γ) : Chain (fun s t => f t = f s) :=
  ⟨fun _ => rfl,fun _ _ _ first rest => rest.trans first⟩

section Rules
variable {E : ε → Prop} {R : σ → σ → Prop}

theorem settlesPure (chain : Chain R) (a : α) : Settles E R (pure a : EStateM ε σ α) :=
  ⟨fun s => chain.refl s⟩

theorem settlesThrow (chain : Chain R) (e : ε) : Settles E R (throw e : EStateM ε σ α) :=
  ⟨fun s => Or.inr (chain.refl s)⟩

theorem settlesGet (chain : Chain R) : Settles E R (get : EStateM ε σ σ) :=
  ⟨fun s => chain.refl s⟩

theorem endsTrans (chain : Chain R) {s t : σ} (first : R s t)
    {r : EStateM.Result ε σ α} (rest : Ends E R t r) : Ends E R s r := by
  cases r with
  | ok a u => exact chain.trans _ _ _ first rest
  | error e u => exact rest.imp id (chain.trans _ _ _ first)

theorem settlesBind (chain : Chain R) {m : EStateM ε σ α} {f : α → EStateM ε σ β}
    (head : Settles E R m) (tail : ∀ a, Settles E R (f a)) : Settles E R (m >>= f) := by
  refine ⟨fun s => ?_⟩
  have h := head.ends s
  rw [bindApply]
  cases result : m s with
  | ok a t =>
    rw [result] at h
    exact endsTrans chain h ((tail a).ends t)
  | error e t =>
    rw [result] at h
    exact h

theorem settlesIte {c : Prop} [Decidable c] {m n : EStateM ε σ α}
    (yes : c → Settles E R m) (no : ¬ c → Settles E R n) : Settles E R (if c then m else n) := by
  split
  · exact yes (by assumption)
  · exact no (by assumption)

theorem settlesMono {S : σ → σ → Prop} (sub : ∀ s t, R s t → S s t) {m : EStateM ε σ α}
    (h : Settles E R m) : Settles E S m := by
  refine ⟨fun s => ?_⟩
  have hs := h.ends s
  cases result : m s with
  | ok a t => rw [result] at hs; exact sub s t hs
  | error e t => rw [result] at hs; exact hs.imp id (sub s t)

theorem settlesOfLeft {m : EStateM ε σ α} (h : ∀ s, R s (left (m s))) : Settles E R m := by
  refine ⟨fun s => ?_⟩
  have hs := h s
  cases result : m s with
  | ok a t => rw [result] at hs; exact hs
  | error e t => rw [result] at hs; exact Or.inr hs

theorem settlesLeft {m : EStateM ε σ α} (h : Settles (fun _ => False) R m) (s : σ) :
    R s (left (m s)) := by
  have hs := h.ends s
  cases result : m s with
  | ok a t => rw [result] at hs; exact hs
  | error e t => rw [result] at hs; exact hs.resolve_left id

theorem settlesReturned {m : EStateM ε σ α} (h : Settles E R m) {a : α} {s t : σ} (returns : m s = .ok a t) : R s t := by
  have hs := h.ends s
  rw [returns] at hs
  exact hs

end Rules

section Raising
variable {E : ε → Prop}

/-- The exception of a result, if it has one, is of this kind. -/
def Raised (E : ε → Prop) : EStateM.Result ε σ α → Prop
  | .ok _ _ => True
  | .error e _ => E e

/-- A program whose every exception is of this kind. -/
def Raises (E : ε → Prop) (m : EStateM ε σ α) : Prop := ∀ s, Raised E (m s)

theorem raisesPure (a : α) : Raises E (pure a : EStateM ε σ α) := fun _ => trivial

theorem raisesGet : Raises E (get : EStateM ε σ σ) := fun _ => trivial

theorem raisesThrow {e : ε} (kind : E e) : Raises E (throw e : EStateM ε σ α) := fun _ => kind

/-- When what comes after raises nothing else, the exceptions are those of the first part. -/
theorem raisedBind {m : EStateM ε σ α} {f : α → EStateM ε σ β} (tail : ∀ a, Raises E (f a)) (s : σ) :
    Raised E ((m >>= f) s) ↔ Raised E (m s) := by
  rw [bindApply]
  cases m s with
  | ok a t => exact iff_of_true (tail a t) trivial
  | error e t => exact Iff.rfl

theorem raisesBind {m : EStateM ε σ α} {f : α → EStateM ε σ β} (head : Raises E m) (tail : ∀ a, Raises E (f a)) :
    Raises E (m >>= f) := fun s => (raisedBind tail s).mpr (head s)

theorem raisesIte {c : Prop} [Decidable c] {m n : EStateM ε σ α} (yes : c → Raises E m) (no : ¬ c → Raises E n) :
    Raises E (if c then m else n) := by
  split
  · exact yes (by assumption)
  · exact no (by assumption)

end Raising

section Conclusions
variable {R : σ → σ → Prop} {T : σ → ε → σ → Prop}

/-- A result that is one of R if the program returned, and one of T if it threw. -/
def Concludes (R : σ → σ → Prop) (T : σ → ε → σ → Prop) (s : σ) : EStateM.Result ε σ α → Prop
  | .ok _ t => R s t
  | .error e t => T s e t

def Concluding (R : σ → σ → Prop) (T : σ → ε → σ → Prop) (m : EStateM ε σ α) : Prop := ∀ s, Concludes R T s (m s)

/-- What was returned from before carries over to what comes after. -/
structure Carries (R : σ → σ → Prop) (T : σ → ε → σ → Prop) : Prop where
  chain : Chain R
  carry : ∀ s t u e, R s t → T t e u → T s e u

theorem concludesAfter (carries : Carries R T) {s t : σ} (first : R s t) {r : EStateM.Result ε σ α}
    (rest : Concludes R T t r) : Concludes R T s r := by
  cases r with
  | ok a u => exact carries.chain.trans _ _ _ first rest
  | error e u => exact carries.carry _ _ _ _ first rest

theorem concludingPure (carries : Carries R T) (a : α) : Concluding R T (pure a : EStateM ε σ α) :=
  fun s => carries.chain.refl s

theorem concludingBind (carries : Carries R T) {m : EStateM ε σ α} {f : α → EStateM ε σ β}
    (head : Concluding R T m) (tail : ∀ a, Concluding R T (f a)) : Concluding R T (m >>= f) := by
  intro s
  have ends := head s
  rw [bindApply]
  cases result : m s with
  | ok a t =>
    rw [result] at ends
    exact concludesAfter carries ends (tail a t)
  | error e t =>
    rw [result] at ends
    exact ends

theorem concludingIte {c : Prop} [Decidable c] {m n : EStateM ε σ α} (yes : c → Concluding R T m)
    (no : ¬ c → Concluding R T n) : Concluding R T (if c then m else n) := by
  split
  · exact yes (by assumption)
  · exact no (by assumption)

theorem concludesMono {S : σ → σ → Prop} (sub : ∀ s t, R s t → S s t) {s : σ} {r : EStateM.Result ε σ α}
    (ends : Concludes R T s r) : Concludes S T s r := by
  cases r with
  | ok a t => exact sub s t ends
  | error e t => exact ends

end Conclusions

section Blindness
variable {f : σ → σ}

/-- The result with its state changed. -/
def changed (f : σ → σ) : EStateM.Result ε σ α → EStateM.Result ε σ α
  | .ok a t => .ok a (f t)
  | .error e t => .error e (f t)

/-- A program that neither reads nor writes what f changes. -/
def Blind (f : σ → σ) (m : EStateM ε σ α) : Prop := ∀ s, m (f s) = changed f (m s)

theorem blindPure (a : α) : Blind f (pure a : EStateM ε σ α) := fun _ => rfl

theorem blindThrow (e : ε) : Blind f (throw e : EStateM ε σ α) := fun _ => rfl

theorem blindBind {m : EStateM ε σ α} {k : α → EStateM ε σ β} (head : Blind f m) (tail : ∀ a, Blind f (k a)) :
    Blind f (m >>= k) := by
  intro s
  rw [bindApply,bindApply,head s]
  cases m s with
  | ok a t => exact tail a t
  | error e t => rfl

/-- What is read of the state is not what f changes. -/
theorem blindRead {k : σ → EStateM ε σ β} (same : ∀ s, k (f s) = k s) (rest : ∀ s, Blind f (k s)) :
    Blind f (get >>= k) := by
  intro s
  rw [bindApply,bindApply,getApply,getApply]
  dsimp only
  rw [same]
  exact rest s s

theorem blindIte {c : Prop} [Decidable c] {m n : EStateM ε σ α} (yes : Blind f m) (no : Blind f n) :
    Blind f (if c then m else n) := by
  split
  · exact yes
  · exact no

end Blindness

section Parts
variable {W O : Type}

def onWorld (f : W → W) : Method ε W O Unit := modify (fun s => {s with world := f s.world})

def onThis (f : O → O) : Method ε W O Unit := modify (fun s => {s with this := f s.this})

@[simp] theorem onWorldApply (f : W → W) (s : Scope W O) :
    (onWorld f : Method ε W O Unit) s = .ok ⟨⟩ ⟨f s.world,s.this⟩ := rfl

@[simp] theorem onThisApply (f : O → O) (s : Scope W O) :
    (onThis f : Method ε W O Unit) s = .ok ⟨⟩ ⟨s.world,f s.this⟩ := rfl

theorem chainWorlds {R : W → W → Prop} (chain : Chain R) : Chain (fun s t : Scope W O => R s.world t.world) :=
  ⟨fun s => chain.refl s.world,fun s t u => chain.trans s.world t.world u.world⟩

section Settling
variable {E : ε → Prop} {R : Scope W O → Scope W O → Prop}

theorem settlesOnWorld {f : W → W} (h : ∀ s, R s ⟨f s.world,s.this⟩) : Settles E R (onWorld f) := ⟨h⟩

theorem settlesOnThis {f : O → O} (h : ∀ s, R s ⟨s.world,f s.this⟩) : Settles E R (onThis f) := ⟨h⟩

end Settling

end Parts

section Local
variable {W O P : Type}

/-- A local object: built by the caller, used by the body, and destroyed on the way
out, also when the body throws. -/
def withLocal (q : P) (body : Method ε W P α) (destroy : Scope W P → W) : Method ε W O α :=
  fun s => match body ⟨s.world,q⟩ with
    | .ok a t => .ok a ⟨destroy t,s.this⟩
    | .error e t => .error e ⟨destroy t,s.this⟩

/-- A constructor: the object exists for the caller only when the body returns. -/
def construct (blank : P) (body : Method ε W P Unit) : Method ε W O P :=
  fun s => match body ⟨s.world,blank⟩ with
    | .ok _ t => .ok t.this ⟨t.world,s.this⟩
    | .error e t => .error e ⟨t.world,s.this⟩

theorem leftLocal (q : P) (body : Method ε W P α) (destroy : Scope W P → W) (s : Scope W O) :
    left (withLocal q body destroy s) = ⟨destroy (left (body ⟨s.world,q⟩)),s.this⟩ := by
  unfold withLocal
  cases body ⟨s.world,q⟩ <;> rfl

theorem localOk {q : P} {body : Method ε W P α} {destroy : Scope W P → W} {s : Scope W O} {a : α} {t : Scope W P}
    (inner : body ⟨s.world,q⟩ = .ok a t) : withLocal q body destroy s = .ok a ⟨destroy t,s.this⟩ := by
  rw [withLocal,inner]

theorem raisedLocal {E : ε → Prop} {q : P} {body : Method ε W P α} {destroy : Scope W P → W} (inner : Raises E body)
    (s : Scope W O) : Raised E (withLocal q body destroy s) := by
  have h := inner ⟨s.world,q⟩
  unfold withLocal
  cases result : body ⟨s.world,q⟩ with
  | ok a t => exact trivial
  | error e t =>
    rw [result] at h
    exact h

theorem settlesConstruct {E : ε → Prop} {R : W → W → Prop} {blank : P}
    {body : Method ε W P Unit} (inner : Settles E (fun s t => R s.world t.world) body) :
    Settles E (fun s t => R s.world t.world) (construct (O := O) blank body) := by
  refine ⟨fun s => ?_⟩
  have h := inner.ends ⟨s.world,blank⟩
  unfold construct
  cases result : body ⟨s.world,blank⟩ with
  | ok a t => rw [result] at h; exact h
  | error e t => rw [result] at h; exact h

theorem settlesLocal {E : ε → Prop} {R : W → W → Prop} (chain : Chain R) {q : P} {body : Method ε W P α}
    {destroy : Scope W P → W}
    (inner : Settles E (fun s t => R s.world t.world) body)
    (last : ∀ t, R t.world (destroy t)) :
    Settles E (fun s t => R s.world t.world) (withLocal (O := O) q body destroy) := by
  refine ⟨fun s => ?_⟩
  have h := inner.ends ⟨s.world,q⟩
  unfold withLocal
  cases result : body ⟨s.world,q⟩ with
  | ok a t =>
    rw [result] at h
    exact chain.trans _ _ _ h (last t)
  | error e t =>
    rw [result] at h
    exact h.imp id (fun hr => chain.trans _ _ _ hr (last t))

end Local

section Pool
variable {W O : Type}

/-- Any number of objects over one world. -/
structure Pool (W O : Type) where
  world : W
  objects : Nat → O

def Pool.scope (p : Pool W O) (k : Nat) : Scope W O := ⟨p.world,p.objects k⟩

def Pool.put (p : Pool W O) (k : Nat) (s : Scope W O) : Pool W O :=
  ⟨s.world,Function.update p.objects k s.this⟩

@[simp] theorem putSelf (p : Pool W O) (k : Nat) (s : Scope W O) : (p.put k s).objects k = s.this := by
  simp [Pool.put]

theorem putOther (p : Pool W O) {k j : Nat} (s : Scope W O) (h : j ≠ k) :
    (p.put k s).objects j = p.objects j := by
  simp [Pool.put,h]

theorem putSame (p : Pool W O) {k : Nat} {s : Scope W O} (h : s.this = p.objects k) :
    (p.put k s).objects = p.objects := by
  simp [Pool.put,h]

end Pool

end Foundation.Program
