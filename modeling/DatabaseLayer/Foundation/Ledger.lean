import DatabaseLayer.Foundation.Run
import Mathlib.Logic.Function.Basic

/-! Handles with one owner each. A handle is issued, held by at most one owner, and
released at most once; it is lost when nobody holds it and nobody released it. -/
namespace Foundation.Ledger
open Foundation.Run

variable {ι : Type*}

/-- How many handles were issued, how often each was released, and who holds which. -/
@[ext] structure Book (ι : Type*) where
  issued : Nat
  released : Nat → Nat
  held : ι → Option Nat

inductive Action (ι : Type*) where
  | keep
  | issue (i : ι)
  | issueReleased
  | issueLost
  | release (i : ι)
  | move (i j : ι)
  | replace (i j : ι)

namespace Book
variable [DecidableEq ι]

def release (l : Book ι) (i : ι) : Book ι :=
  ⟨l.issued,fun h => l.released h + if l.held i = some h then 1 else 0,Function.update l.held i none⟩

/-- The first owner gets what the second one holds. -/
def move (l : Book ι) (i j : ι) : Book ι :=
  ⟨l.issued,l.released,Function.update (Function.update l.held j none) i (l.held j)⟩

def act (l : Book ι) : Action ι → Book ι
  | .keep => l
  | .issue i => ⟨l.issued + 1,l.released,Function.update l.held i (some l.issued)⟩
  | .issueReleased => ⟨l.issued + 1,fun h => l.released h + if h = l.issued then 1 else 0,l.held⟩
  | .issueLost => ⟨l.issued + 1,l.released,l.held⟩
  | .release i => l.release i
  | .move i j => l.move i j
  | .replace i j => (l.release i).move i j

/-- Several actions, one after the other. -/
def acts (l : Book ι) (as : List (Action ι)) : Book ι := as.foldl act l

/-- The actions after which a handle has no owner left to release it. -/
def Loses (l : Book ι) : Action ι → Prop
  | .issueLost => True
  | .issue i => l.held i ≠ none
  | .move i j => i ≠ j ∧ l.held i ≠ none
  | _ => False

/-- One action leads from a book to another, and it loses nothing. -/
def Safe (l m : Book ι) : Prop := ∃ a, m = l.act a ∧ ¬ l.Loses a

end Book

structure Sound (l : Book ι) : Prop where
  below : ∀ i h, l.held i = some h → h < l.issued
  unreleased : ∀ i h, l.held i = some h → l.released h = 0
  apart : ∀ i j h, l.held i = some h → l.held j = some h → i = j
  once : ∀ h, l.released h ≤ 1
  unissued : ∀ h, l.issued ≤ h → l.released h = 0

/-- Every handle has one owner at most, none is released while it has one, and none twice. -/
structure Exclusive (l : Book ι) : Prop where
  apart : ∀ i j h, l.held i = some h → l.held j = some h → i = j
  unreleased : ∀ i h, l.held i = some h → l.released h = 0
  once : ∀ h, l.released h ≤ 1

theorem soundExclusive {l : Book ι} (sound : Sound l) : Exclusive l := ⟨sound.apart,sound.unreleased,sound.once⟩

def Orphan (l : Book ι) (h : Nat) : Prop :=
  h < l.issued ∧ l.released h = 0 ∧ ∀ i, l.held i ≠ some h

/-- Every issued handle was released or is still held. -/
def Accounted (l : Book ι) : Prop := ∀ h, ¬ Orphan l h

theorem freshSound {l : Book ι} (issued : l.issued = 0) (released : ∀ h, l.released h = 0)
    (held : ∀ i, l.held i = none) : Sound l ∧ Accounted l := by
  refine ⟨⟨?_,?_,?_,fun h => by simp [released h],fun h _ => released h⟩,?_⟩
  · simp [held]
  · simp [held]
  · simp [held]
  · rintro h ⟨low,_⟩
    simp [issued] at low

section Rules
variable [DecidableEq ι] {l : Book ι}

theorem releaseNothing {i : ι} (empty : l.held i = none) : l.release i = l := by
  refine Book.ext rfl (funext fun h => ?_) (Function.update_eq_self_iff.mpr empty.symm)
  simp [Book.release,empty]

theorem soundRelease (sound : Sound l) (i : ι) : Sound (l.release i) := by
  have kept : ∀ j h, (l.release i).held j = some h → j ≠ i ∧ l.held j = some h := by
    intro j h held
    by_cases own : j = i
    · subst own
      simp [Book.release] at held
    · exact ⟨own,by simpa [Book.release,own] using held⟩
  refine ⟨fun j h held => sound.below j h (kept j h held).2,fun j h held => ?_,
    fun j k h hj hk => sound.apart j k h (kept j h hj).2 (kept k h hk).2,fun h => ?_,fun h high => ?_⟩
  · obtain ⟨other,before⟩ := kept j h held
    have mine : ¬ l.held i = some h := fun same => other (sound.apart j i h before same)
    simp [Book.release,mine,sound.unreleased j h before]
  · have bound := sound.once h
    by_cases mine : l.held i = some h
    · simp [Book.release,mine,sound.unreleased i h mine]
    · simpa [Book.release,mine] using bound
  · have mine : ¬ l.held i = some h := fun same => Nat.not_lt.mpr high (sound.below i h same)
    simp [Book.release,mine,sound.unissued h high]

theorem moveHeld {i j k : ι} {h : Nat} (held : (l.move i j).held k = some h) :
    (k = i ∧ l.held j = some h) ∨ (k ≠ i ∧ k ≠ j ∧ l.held k = some h) := by
  unfold Book.move at held
  by_cases first : k = i
  · subst first
    exact .inl ⟨rfl,by simpa using held⟩
  · by_cases second : k = j
    · subst second
      simp [first] at held
    · exact .inr ⟨first,second,by simpa [first,second] using held⟩

theorem soundMove (sound : Sound l) (i j : ι) : Sound (l.move i j) := by
  have before : ∀ k h, (l.move i j).held k = some h → ∃ m, l.held m = some h := by
    intro k h held
    obtain ⟨_,other⟩ | ⟨_,_,other⟩ := moveHeld held <;> exact ⟨_,other⟩
  refine ⟨fun k h held => ?_,fun k h held => ?_,fun k m h hk hm => ?_,sound.once,sound.unissued⟩
  · obtain ⟨m,other⟩ := before k h held
    exact sound.below m h other
  · obtain ⟨m,other⟩ := before k h held
    exact sound.unreleased m h other
  · obtain ⟨rfl,fromj⟩ | ⟨_,notj,own⟩ := moveHeld hk
    · obtain ⟨rfl,_⟩ | ⟨_,other,owner⟩ := moveHeld hm
      · rfl
      · exact absurd (sound.apart m j h owner fromj) other
    · obtain ⟨rfl,fromj⟩ | ⟨_,_,owner⟩ := moveHeld hm
      · exact absurd (sound.apart k j h own fromj) notj
      · exact sound.apart k m h own owner

theorem soundAct (sound : Sound l) (a : Action ι) : Sound (l.act a) := by
  cases a with
  | keep => exact sound
  | release i => exact soundRelease sound i
  | move i j => exact soundMove sound i j
  | replace i j => exact soundMove (soundRelease sound i) i j
  | issueLost =>
    refine ⟨fun i h held => Nat.lt_succ_of_lt (sound.below i h held),sound.unreleased,sound.apart,
      sound.once,fun h high => sound.unissued h (Nat.le_of_succ_le high)⟩
  | issueReleased =>
    refine ⟨fun i h held => Nat.lt_succ_of_lt (sound.below i h held),fun i h held => ?_,sound.apart,
      fun h => ?_,fun h high => ?_⟩
    · have old : h ≠ l.issued := Nat.ne_of_lt (sound.below i h held)
      simp [Book.act,old,sound.unreleased i h held]
    · by_cases fresh : h = l.issued
      · simp [Book.act,fresh,sound.unissued l.issued le_rfl]
      · simpa [Book.act,fresh] using sound.once h
    · have fresh : h ≠ l.issued := Nat.ne_of_gt high
      simp [Book.act,fresh,sound.unissued h (Nat.le_of_succ_le high)]
  | issue i =>
    have before : ∀ k h, (l.act (.issue i)).held k = some h →
        (k = i ∧ h = l.issued) ∨ (k ≠ i ∧ l.held k = some h) := by
      intro k h held
      by_cases own : k = i
      · subst own
        exact .inl ⟨rfl,by simpa [Book.act,eq_comm] using held⟩
      · exact .inr ⟨own,by simpa [Book.act,own] using held⟩
    refine ⟨fun k h held => ?_,fun k h held => ?_,fun k m h hk hm => ?_,sound.once,
      fun h high => sound.unissued h (Nat.le_of_succ_le high)⟩
    · obtain ⟨_,rfl⟩ | ⟨_,old⟩ := before k h held
      · exact Nat.lt_succ_self _
      · exact Nat.lt_succ_of_lt (sound.below k h old)
    · obtain ⟨_,rfl⟩ | ⟨_,old⟩ := before k h held
      · exact sound.unissued l.issued le_rfl
      · exact sound.unreleased k h old
    · obtain ⟨rfl,rfl⟩ | ⟨_,old⟩ := before k h hk
      · obtain ⟨rfl,_⟩ | ⟨_,other⟩ := before m _ hm
        · rfl
        · exact absurd (sound.below m _ other) (Nat.lt_irrefl _)
      · obtain ⟨_,rfl⟩ | ⟨_,other⟩ := before m h hm
        · exact absurd (sound.below k _ old) (Nat.lt_irrefl _)
        · exact sound.apart k m h old other

theorem soundActs (sound : Sound l) (as : List (Action ι)) : Sound (l.acts as) := by
  induction as generalizing l with
  | nil => exact sound
  | cons a as ih => exact ih (soundAct sound a)

theorem orphanAct {h : Nat} (orphan : Orphan l h) (a : Action ι) : Orphan (l.act a) h := by
  obtain ⟨low,never,alone⟩ := orphan
  have releasing : ∀ i, Orphan (l.release i) h := by
    refine fun i => ⟨low,by simp [Book.release,never,alone i],fun k held => ?_⟩
    by_cases own : k = i
    · subst own
      simp [Book.release] at held
    · exact alone k (by simpa [Book.release,own] using held)
  have moving : ∀ (m : Book ι) i j, Orphan m h → Orphan (m.move i j) h := by
    rintro m i j ⟨below,zero,nobody⟩
    refine ⟨below,zero,fun k held => ?_⟩
    obtain ⟨_,other⟩ | ⟨_,_,other⟩ := moveHeld held <;> exact nobody _ other
  cases a with
  | keep => exact ⟨low,never,alone⟩
  | issueLost => exact ⟨Nat.lt_succ_of_lt low,never,alone⟩
  | issueReleased =>
    exact ⟨Nat.lt_succ_of_lt low,by simp [Book.act,never,Nat.ne_of_lt low],alone⟩
  | issue i =>
    refine ⟨Nat.lt_succ_of_lt low,never,fun k held => ?_⟩
    by_cases own : k = i
    · subst own
      simp [Book.act] at held
      omega
    · exact alone k (by simpa [Book.act,own] using held)
  | release i => exact releasing i
  | move i j => exact moving l i j ⟨low,never,alone⟩
  | replace i j => exact moving _ i j (releasing i)

theorem orphanRelease {i : ι} {h : Nat} (orphan : Orphan (l.release i) h) : Orphan l h := by
  obtain ⟨low,never,alone⟩ := orphan
  have mine : l.held i ≠ some h := by
    intro held
    simp [Book.release,held] at never
  refine ⟨low,by simpa [Book.release,mine] using never,fun k held => ?_⟩
  by_cases own : k = i
  · exact mine (own ▸ held)
  · exact alone k (by simpa [Book.release,own] using held)

/-- A move orphans what the receiver held before, and nothing else. -/
theorem orphanMove {i j : ι} {h : Nat} (empty : l.held i = none) (orphan : Orphan (l.move i j) h) :
    Orphan l h := by
  obtain ⟨low,never,alone⟩ := orphan
  refine ⟨low,never,fun k held => ?_⟩
  by_cases second : k = j
  · exact alone i (by simp [Book.move,← second,held])
  · have first : k ≠ i := by
      rintro rfl
      rw [empty] at held
      cases held
    exact alone k (by simp [Book.move,first,second,held])

theorem moveSelf (i : ι) : l.move i i = l := by
  unfold Book.move
  congr 1
  funext k
  by_cases own : k = i
  · simp [own]
  · simp [own]

theorem accountedAct (sound : Sound l) (accounted : Accounted l) (a : Action ι) :
    Accounted (l.act a) ↔ ¬ l.Loses a := by
  cases a with
  | keep => exact iff_of_true accounted id
  | release i => exact iff_of_true (fun h orphan => accounted h (orphanRelease orphan)) id
  | replace i j =>
    refine iff_of_true (fun h orphan => accounted h (orphanRelease (orphanMove ?_ orphan))) id
    simp [Book.release]
  | issueLost =>
    refine iff_of_false (fun after => ?_) (fun safe => safe trivial)
    refine after l.issued ⟨Nat.lt_succ_self _,sound.unissued _ le_rfl,fun i held => ?_⟩
    exact Nat.lt_irrefl _ (sound.below i _ held)
  | issueReleased =>
    refine iff_of_true ?_ id
    rintro h ⟨low,never,alone⟩
    have old : h ≠ l.issued := by
      rintro rfl
      simp [Book.act] at never
    have below : h < l.issued := by
      have bound : h < l.issued + 1 := low
      omega
    exact accounted h ⟨below,by simpa [Book.act,old] using never,alone⟩
  | issue i =>
    constructor
    · intro after held
      obtain ⟨g,owns⟩ := Option.ne_none_iff_exists'.mp held
      have below := sound.below i g owns
      refine after g ⟨Nat.lt_succ_of_lt below,sound.unreleased i g owns,fun k holds => ?_⟩
      by_cases own : k = i
      · subst own
        simp [Book.act] at holds
        omega
      · exact own (sound.apart k i g (by simpa [Book.act,own] using holds) owns)
    · intro safe h orphan
      obtain ⟨low,never,alone⟩ := orphan
      have empty : l.held i = none := not_not.mp safe
      have old : h ≠ l.issued := by
        rintro rfl
        exact alone i (by simp [Book.act])
      have bound : h < l.issued + 1 := low
      refine accounted h ⟨by omega,never,fun k held => ?_⟩
      have other : k ≠ i := by
        rintro rfl
        rw [empty] at held
        cases held
      exact alone k (by simpa [Book.act,other] using held)
  | move i j =>
    by_cases same : i = j
    · subst same
      rw [show l.act (.move i i) = l from moveSelf i]
      exact iff_of_true accounted (fun loses => loses.1 rfl)
    constructor
    · intro after loses
      obtain ⟨g,owns⟩ := Option.ne_none_iff_exists'.mp loses.2
      refine after g ⟨sound.below i g owns,sound.unreleased i g owns,fun k holds => ?_⟩
      obtain ⟨_,other⟩ | ⟨first,_,other⟩ := moveHeld holds
      · exact same (sound.apart i j g owns other)
      · exact first (sound.apart k i g other owns)
    · intro safe h orphan
      have empty : l.held i = none := by
        by_contra held
        exact safe ⟨same,held⟩
      exact accounted h (orphanMove empty orphan)

end Rules

section Runs
variable [DecidableEq ι] {σ ε : Type*} {step : σ → ε → σ} {view : σ → Book ι} {action : σ → ε → Action ι}

/-- A machine whose steps act on a ledger ends with every handle accounted for exactly if
none of its steps lost one. -/
theorem accountedIffNothingLost (simulates : ∀ s e, view (step s e) = (view s).act (action s e)) {s : σ}
    (sound : Sound (view s)) (accounted : Accounted (view s)) (es : List ε) :
    Accounted (view (run step s es)) ↔
      Guarded step (fun s e => ¬ (view s).Loses (action s e)) s es := by
  refine finalIffGuarded (I := fun s => Sound (view s)) (P := fun s => Accounted (view s))
    (fun s e h => ?_) (fun s e h now => ?_) (fun s e _ lost => ?_) sound accounted es
  · rw [simulates]
    exact soundAct h _
  · rw [simulates]
    exact accountedAct h now _
  · rw [simulates]
    unfold Accounted at lost ⊢
    push Not at lost ⊢
    obtain ⟨h,orphan⟩ := lost
    exact ⟨h,orphanAct orphan _⟩

theorem soundRun (simulates : ∀ s e, view (step s e) = (view s).act (action s e)) {s : σ}
    (sound : Sound (view s)) (es : List ε) : Sound (view (run step s es)) :=
  invariantRun (I := fun s => Sound (view s))
    (fun s e h => by rw [simulates]; exact soundAct h _) sound es

end Runs

/-- Every issued handle was released once and nobody holds it, or was not and one owner does. -/
def Conserved (l : Book ι) : Prop := ∀ h, h < l.issued →
  (l.released h = 1 ∧ ∀ i, l.held i ≠ some h) ∨ (l.released h = 0 ∧ ∃! i, l.held i = some h)

theorem soundConserved {l : Book ι} (sound : Sound l) (accounted : Accounted l) : Conserved l := by
  intro h low
  rcases Nat.eq_zero_or_pos (l.released h) with never | once
  · refine .inr ⟨never,?_⟩
    by_contra nobody
    refine accounted h ⟨low,never,fun i held => nobody ⟨i,held,fun j other => ?_⟩⟩
    exact sound.apart j i h other held
  · refine .inl ⟨Nat.le_antisymm (sound.once h) once,fun i held => ?_⟩
    rw [sound.unreleased i h held] at once
    exact Nat.lt_irrefl 0 once

theorem accountedIffReleased {l : Book ι} (sound : Sound l) (none : ∀ i, l.held i = none) :
    Accounted l ↔ ∀ h, h < l.issued → l.released h = 1 := by
  refine forall_congr' fun h => ?_
  have once := sound.once h
  constructor
  · intro safe low
    by_contra more
    exact safe ⟨low,by omega,fun i => by simp [none i]⟩
  · rintro released ⟨low,never,_⟩
    rw [released low] at never
    cases never

end Foundation.Ledger
