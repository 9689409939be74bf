import DatabaseLayer.Foundation.Ledger
import DatabaseLayer.Foundation.Objects
import DatabaseLayer.MySQLClient

/-! CppMySQLException: an error code and a message on the heap, which a copy takes from what it
is copied from. Beside the objects stands what the copying is for. -/
namespace DatabaseLayer.MySQLExceptions
open Platform MySQLClient Foundation.Run Foundation.Ledger Foundation.Objects

structure Exception where
  mnErrCode : Int
  mpErrMess : Option Nat
  deriving DecidableEq, Repr

/-- The strings ever allocated, by address, and how often each address was deleted. -/
structure Heap where
  strings : Nat → CString
  nHeap : Nat
  deleted : Nat → Nat

/-- `if (p) delete p;` -/
def Heap.delete (heap : Heap) (p : Option Nat) : Heap :=
  {heap with deleted := fun a => heap.deleted a + if p = some a then 1 else 0}

/-- CppMySQLException(int, const char*) -/
def new (heap : Heap) (nErrCode : Int) (szErrMess : Option CString) : Heap × Exception :=
  (⟨Function.update heap.strings heap.nHeap (exception nErrCode szErrMess).errMess,heap.nHeap + 1,heap.deleted⟩,
    ⟨nErrCode,some heap.nHeap⟩)

/-- The body of the copy constructor and, behind its check for itself, of operator=. The first
runs on storage that holds no object yet, and reads a pointer there all the same. -/
def take (heap : Heap) (this e : Exception) : Heap × Exception × Exception :=
  (heap.delete this.mpErrMess,⟨e.mnErrCode,e.mpErrMess⟩,{e with mpErrMess := none})

def destroy (heap : Heap) (this : Exception) : Heap := heap.delete this.mpErrMess

def errorCode (this : Exception) : Int := this.mnErrCode

def errorMessage (heap : Heap) (this : Exception) : CString :=
  match this.mpErrMess with
  | some p => heap.strings p
  | none => default

structure State where
  heap : Heap
  objects : Slots Exception

inductive Event where
  | construct (i : Nat) (nErrCode : Int) (szErrMess : Option CString)
  | copyConstruct (i j : Nat) (storage : Exception)
  | assign (i j : Nat)
  | destroy (i : Nat)
  deriving DecidableEq, Repr

/-- An object is made where there is none; the others are used where there is one. -/
def step (s : State) : Event → State
  | .construct i nErrCode szErrMess => match s.objects i with
    | none => ⟨(new s.heap nErrCode szErrMess).1,Function.update s.objects i (some (new s.heap nErrCode szErrMess).2)⟩
    | some _ => s
  | .copyConstruct i j storage => match s.objects i,s.objects j with
    | none,some e => ⟨(take s.heap storage e).1,copied s.objects i j (take s.heap storage e).2⟩
    | _,_ => s
  | .assign i j => if i = j then s else match s.objects i,s.objects j with
    | some this,some e => ⟨(take s.heap this e).1,copied s.objects i j (take s.heap this e).2⟩
    | _,_ => s
  | .destroy i => match s.objects i with
    | some this => ⟨MySQLExceptions.destroy s.heap this,Function.update s.objects i none⟩
    | none => s

/-- What an exception stands for: the one first thrown, and whether it is the last in its
chain, no copy having been made from it. -/
structure Link where
  original : CppMySQLException
  last : Bool
  deriving DecidableEq, Repr

def chain (links : Slots Link) : Event → Slots Link
  | .construct i nErrCode szErrMess => match links i with
    | none => Function.update links i (some ⟨exception nErrCode szErrMess,true⟩)
    | some _ => links
  | .copyConstruct i j _ => match links i,links j with
    | none,some e => copied links i j (⟨e.original,true⟩,{e with last := false})
    | _,_ => links
  | .assign i j => if i = j then links else match links i,links j with
    | some _,some e => copied links i j (⟨e.original,true⟩,{e with last := false})
    | _,_ => links
  | .destroy i => Function.update links i none

structure Both where
  state : State
  links : Slots Link

def Both.step (s : Both) (e : Event) : Both := ⟨MySQLExceptions.step s.state e,chain s.links e⟩

def initial : Both := ⟨⟨⟨fun _ => default,0,fun _ => 0⟩,fun _ => none⟩,fun _ => none⟩

def view (s : State) : Book Nat := ⟨s.heap.nHeap,s.heap.deleted,fun i => (s.objects i).bind Exception.mpErrMess⟩

def Event.receiver : Event → Nat
  | .construct i _ _ | .copyConstruct i _ _ | .assign i _ | .destroy i => i

/-- The object is the only one to point at this string, which was allocated and not deleted. -/
structure Owns (s : State) (i p : Nat) : Prop where
  points : (view s).held i = some p
  alone : ∀ j, (view s).held j = some p → j = i
  allocated : p < s.heap.nHeap
  live : s.heap.deleted p = 0

def FreesOwn (s : State) (e : Event) : Prop :=
  ∀ p, (step s e).heap.deleted p ≠ s.heap.deleted p → Owns s e.receiver p

/-- A string has one owner and was not deleted, or it has none and was deleted once. -/
def Once (s : State) : Prop :=
  ∀ p < s.heap.nHeap, (∃ i, Owns s i p) ∨ (s.heap.deleted p = 1 ∧ ∀ i, (view s).held i ≠ some p)

/-- The last object of a chain reports what its first one was made with. -/
def Reports (s : Both) : Prop :=
  ∀ i link, s.links i = some link → link.last = true → ∃ o, s.state.objects i = some o ∧
    errorCode o = link.original.nErrCode ∧ errorMessage s.state.heap o = link.original.errMess

structure WellDefined (s : Both) (e : Event) : Prop where
  freesOwn : FreesOwn s.state e
  once : Once (s.step e).state
  reports : Reports (s.step e)

/-- The storage of a copy happens to hold NULL where the pointer will be, and whatever is copied
or assigned was not copied from before. -/
def Favourable (s : Both) : Event → Prop
  | .copyConstruct i j storage => s.links i = none → ∀ e, s.links j = some e →
      storage.mpErrMess = none ∧ e.last = true
  | .assign i j => i ≠ j → s.links i ≠ none → ∀ e, s.links j = some e → e.last = true
  | .construct _ _ _ | .destroy _ => True

/-- An object that is the last of its chain has the message, any other has none. -/
def Stands (strings : Nat → CString) (o : Exception) (link : Link) : Prop :=
  o.mnErrCode = link.original.nErrCode ∧
    o.mpErrMess.map strings = if link.last then some link.original.errMess else none

def Linked (s : Both) : Prop := ∀ k, Option.Rel (Stands s.state.heap.strings) (s.state.objects k) (s.links k)

/-- What a step does to objects that are there, and to their links. -/
inductive Acts (s : Both) : Event → Both → Prop where
  | idle {e} (favourable : Favourable s e) : Acts s e s
  | construct {i} (nErrCode : Int) (szErrMess : Option CString) (free : s.state.objects i = none)
      (unlinked : s.links i = none) : Acts s (.construct i nErrCode szErrMess)
        ⟨⟨(new s.state.heap nErrCode szErrMess).1,
          Function.update s.state.objects i (some (new s.state.heap nErrCode szErrMess).2)⟩,
          Function.update s.links i (some ⟨exception nErrCode szErrMess,true⟩)⟩
  | copyConstruct {i j} (storage : Exception) {e link} (free : s.state.objects i = none) (unlinked : s.links i = none)
      (source : s.state.objects j = some e) (linked : s.links j = some link) : Acts s (.copyConstruct i j storage)
        ⟨⟨(take s.state.heap storage e).1,copied s.state.objects i j (take s.state.heap storage e).2⟩,
          copied s.links i j (⟨link.original,true⟩,{link with last := false})⟩
  | assign {i j this e link} (other : i ≠ j) (receiver : s.state.objects i = some this) (there : s.links i ≠ none)
      (source : s.state.objects j = some e) (linked : s.links j = some link) : Acts s (.assign i j)
        ⟨⟨(take s.state.heap this e).1,copied s.state.objects i j (take s.state.heap this e).2⟩,
          copied s.links i j (⟨link.original,true⟩,{link with last := false})⟩
  | destroy {i this} (receiver : s.state.objects i = some this) : Acts s (.destroy i)
        ⟨⟨destroy s.state.heap this,Function.update s.state.objects i none⟩,Function.update s.links i none⟩

section Steps
variable {s : Both}

theorem linkedCases (linked : Linked s) (k : Nat) : (s.state.objects k = none ∧ s.links k = none) ∨
    ∃ o link, s.state.objects k = some o ∧ s.links k = some link ∧ Stands s.state.heap.strings o link := by
  have both := linked k
  cases object : s.state.objects k with
  | none =>
    cases there : s.links k with
    | none => exact .inl ⟨rfl,rfl⟩
    | some link => simp [object,there] at both
  | some o =>
    cases there : s.links k with
    | none => simp [object,there] at both
    | some link =>
      rw [object,there,Option.rel_some_some] at both
      exact .inr ⟨o,link,rfl,rfl,both⟩

theorem stepActs (linked : Linked s) (e : Event) : Acts s e (s.step e) := by
  cases e with
  | construct i nErrCode szErrMess =>
    obtain ⟨free,unlinked⟩ | ⟨o,link,object,linked,_⟩ := linkedCases linked i
    · simp only [Both.step,step,chain,free,unlinked]
      exact .construct nErrCode szErrMess free unlinked
    · simp only [Both.step,step,chain,object,linked]
      exact .idle trivial
  | copyConstruct i j storage =>
    obtain ⟨free,unlinked⟩ | ⟨o,link,object,there,_⟩ := linkedCases linked i
    · obtain ⟨absent,missing⟩ | ⟨e,link,source,there,_⟩ := linkedCases linked j
      · simp only [Both.step,step,chain,free,unlinked,absent,missing]
        exact .idle fun _ e there => by rw [missing] at there; cases there
      · simp only [Both.step,step,chain,free,unlinked,source,there]
        exact .copyConstruct storage free unlinked source there
    · simp only [Both.step,step,chain,object,there]
      exact .idle fun none => by rw [there] at none; cases none
  | assign i j =>
    by_cases same : i = j
    · simp only [Both.step,step,chain,if_pos same]
      exact .idle fun other => absurd same other
    · obtain ⟨free,unlinked⟩ | ⟨this,own,receiver,held,_⟩ := linkedCases linked i
      · simp only [Both.step,step,chain,if_neg same,free,unlinked]
        exact .idle fun _ there => absurd unlinked there
      · obtain ⟨absent,missing⟩ | ⟨e,link,source,there,_⟩ := linkedCases linked j
        · simp only [Both.step,step,chain,if_neg same,receiver,held,absent,missing]
          exact .idle fun _ _ e there => by rw [missing] at there; cases there
        · simp only [Both.step,step,chain,if_neg same,receiver,held,source,there]
          exact .assign same receiver (by rw [held]; nofun) source there
  | destroy i =>
    obtain ⟨free,unlinked⟩ | ⟨o,link,object,there,_⟩ := linkedCases linked i
    · have nothing : Function.update s.links i none = s.links := Function.update_eq_self_iff.mpr unlinked.symm
      simp only [Both.step,step,chain,free,nothing]
      exact .idle trivial
    · simp only [Both.step,step,chain,object]
      exact .destroy object

/-- A favourable step does with the strings what a ledger does with its handles. -/
theorem viewActs {e : Event} {t : Both} (acts : Acts s e t) (favourable : Favourable s e) :
    (view s.state).Safe (view t.state) := by
  cases acts with
  | idle _ => exact ⟨.keep,rfl,id⟩
  | @construct i nErrCode szErrMess free unlinked =>
    refine ⟨.issue i,Book.ext rfl rfl (bindUpdate _ _ _ _),fun held => held ?_⟩
    simp [view,free]
  | @copyConstruct i j storage e link free unlinked source linked =>
    have null : storage.mpErrMess = none := (favourable unlinked link linked).1
    refine ⟨.move i j,Book.ext rfl (funext fun p => ?_) ((copiedHeld _ _ _ _ _ _ rfl).trans ?_),fun loses => loses.2 ?_⟩
    · simp [view,take,Heap.delete,null,Book.act,Book.move]
    · simp [view,Book.act,Book.move,source]
    · simp [view,free]
  | @assign i j this e link other receiver there source linked =>
    refine ⟨.replace i j,Book.ext rfl (funext fun p => ?_) ((copiedHeld _ _ _ _ _ _ rfl).trans ?_),id⟩
    · simp [view,take,Heap.delete,Book.act,Book.move,Book.release,receiver]
    · have apart : j ≠ i := fun same => other same.symm
      funext k
      by_cases own : k = i
      · subst own
        simp [view,Book.act,Book.move,Book.release,source,apart]
      · simp [view,Book.act,Book.move,Book.release,own,Function.update_apply]
  | @destroy i this receiver =>
    refine ⟨.release i,Book.ext rfl (funext fun p => ?_) (bindUpdate _ _ _ _),id⟩
    simp [view,destroy,Heap.delete,Book.act,Book.release,receiver]

structure Consistent (s : Both) : Prop where
  sound : Sound (view s.state)
  accounted : Accounted (view s.state)
  linked : Linked s
  texts : All (fun link : Link => link.original.errMess ≠ default) s.links

theorem exceptionText (nErrCode : Int) (szErrMess : Option CString) : (exception nErrCode szErrMess).errMess ≠ default := by
  intro none
  have bytes := congrArg CString.bytes none
  simp only [exception,CString.appendBytes] at bytes
  cases bytes

theorem standsTaken {strings : Nat → CString} {e : Exception} {link : Link} (stands : Stands strings e link)
    (last : link.last = true) : Stands strings ⟨e.mnErrCode,e.mpErrMess⟩ ⟨link.original,true⟩ ∧
      Stands strings {e with mpErrMess := none} {link with last := false} := by
  refine ⟨⟨stands.1,?_⟩,stands.1,rfl⟩
  rw [stands.2,last]

theorem linkedStands (linked : Linked s) {k : Nat} {o : Exception} {link : Link} (object : s.state.objects k = some o)
    (there : s.links k = some link) : Stands s.state.heap.strings o link := by
  have both := linked k
  rwa [object,there,Option.rel_some_some] at both

theorem linkedNew (consistent : Consistent s) (nErrCode : Int) (szErrMess : Option CString) (k : Nat) :
    Option.Rel (Stands (new s.state.heap nErrCode szErrMess).1.strings) (s.state.objects k) (s.links k) := by
  obtain ⟨free,unlinked⟩ | ⟨o,link,object,there,stands⟩ := linkedCases consistent.linked k
  · rw [free,unlinked]
    exact .none
  · rw [object,there]
    refine .some ⟨stands.1,Eq.trans (Option.map_congr fun p points => ?_) stands.2⟩
    have below : p < s.state.heap.nHeap := consistent.sound.below k p (by simpa [view,object] using points)
    exact Function.update_of_ne (Nat.ne_of_lt below) _ _

theorem linkedActs (consistent : Consistent s) {e : Event} {t : Both} (acts : Acts s e t) (favourable : Favourable s e) :
    Linked t := by
  cases acts with
  | idle _ => exact consistent.linked
  | construct nErrCode szErrMess free unlinked =>
    exact relUpdate (linkedNew consistent nErrCode szErrMess) _ (.some ⟨rfl,by simp [new]⟩)
  | copyConstruct storage free unlinked source linked =>
    obtain ⟨first,second⟩ := standsTaken (linkedStands consistent.linked source linked) (favourable unlinked _ linked).2
    exact relCopied consistent.linked _ _ first second
  | assign other receiver there source linked =>
    obtain ⟨first,second⟩ := standsTaken (linkedStands consistent.linked source linked) (favourable other there _ linked)
    exact relCopied consistent.linked _ _ first second
  | destroy receiver => exact relUpdate consistent.linked _ .none

theorem textsActs (texts : All (fun link : Link => link.original.errMess ≠ default) s.links) {e : Event} {t : Both}
    (acts : Acts s e t) : All (fun link : Link => link.original.errMess ≠ default) t.links := by
  cases acts with
  | idle _ => exact texts
  | construct nErrCode szErrMess free unlinked => exact allPut texts _ (exceptionText nErrCode szErrMess)
  | copyConstruct storage free unlinked source linked =>
    have text := texts _ _ linked
    exact allCopied texts _ _ text text
  | assign other receiver there source linked =>
    have text := texts _ _ linked
    exact allCopied texts _ _ text text
  | destroy receiver => exact allRemoved texts _

theorem consistentStep (s : Both) (e : Event) (consistent : Consistent s) (favourable : Favourable s e) :
    Consistent (s.step e) := by
  have acts := stepActs consistent.linked e
  obtain ⟨a,acted,safe⟩ := viewActs acts favourable
  exact ⟨acted ▸ soundAct consistent.sound a,acted ▸ (accountedAct consistent.sound consistent.accounted a).mpr safe,
    linkedActs consistent acts favourable,textsActs consistent.texts acts⟩

theorem consistentOwns (consistent : Consistent s) {i p : Nat} (points : (view s.state).held i = some p) :
    Owns s.state i p :=
  ⟨points,fun j other => consistent.sound.apart j i p other points,consistent.sound.below i p points,
    consistent.sound.unreleased i p points⟩

theorem consistentOnce (consistent : Consistent s) : Once s.state := by
  intro p allocated
  by_cases owned : ∃ i, (view s.state).held i = some p
  · obtain ⟨i,points⟩ := owned
    exact .inl ⟨i,consistentOwns consistent points⟩
  · have unowned : ∀ i, (view s.state).held i ≠ some p := fun i points => owned ⟨i,points⟩
    refine .inr ⟨?_,unowned⟩
    by_contra other
    have once : s.state.heap.deleted p ≤ 1 := consistent.sound.once p
    have never : s.state.heap.deleted p = 0 := by omega
    exact consistent.accounted p ⟨allocated,never,unowned⟩

theorem consistentReports (consistent : Consistent s) : Reports s := by
  intro i link there last
  obtain ⟨_,unlinked⟩ | ⟨o,own,object,there',stands⟩ := linkedCases consistent.linked i
  · rw [there] at unlinked
    cases unlinked
  · obtain rfl := Option.some.inj (there.symm.trans there')
    have points := stands.2
    rw [if_pos last] at points
    obtain ⟨p,pointer,string⟩ := Option.map_eq_some_iff.mp points
    exact ⟨o,object,stands.1,by rw [errorMessage,pointer]; exact string⟩

theorem deletedOnly {heap : Heap} {q : Option Nat} {p : Nat} (changed : (heap.delete q).deleted p ≠ heap.deleted p) :
    q = some p := by
  by_contra other
  exact changed (by simp [Heap.delete,other])

theorem consistentFrees (consistent : Consistent s) {e : Event} {t : Both} (acts : Acts s e t)
    (favourable : Favourable s e) {p : Nat} (changed : t.state.heap.deleted p ≠ s.state.heap.deleted p) :
    Owns s.state e.receiver p := by
  cases acts with
  | idle _ | construct nErrCode szErrMess free unlinked => exact absurd rfl changed
  | copyConstruct storage free unlinked source linked =>
    have points := (favourable unlinked _ linked).1.symm.trans (deletedOnly changed)
    cases points
  | assign other receiver there source linked =>
    exact consistentOwns consistent (by simp [view,Event.receiver,receiver,deletedOnly changed])
  | destroy receiver => exact consistentOwns consistent (by simp [view,Event.receiver,receiver,deletedOnly changed])

/-- A copy of what was copied from before has no message. -/
theorem staleSilent {e : Exception} {link : Link} (stands : Stands s.state.heap.strings e link)
    (text : link.original.errMess ≠ default) {t : Both} {i : Nat} (made : t.links i = some ⟨link.original,true⟩)
    (object : t.state.objects i = some ⟨e.mnErrCode,e.mpErrMess⟩) (reports : Reports t) : link.last = true := by
  by_contra stale
  obtain ⟨o,there,_,message⟩ := reports i _ made rfl
  have silent := stands.2
  rw [if_neg stale,Option.map_eq_none_iff] at silent
  obtain rfl := Option.some.inj (object.symm.trans there)
  rw [errorMessage,silent] at message
  exact text message.symm

theorem wellDefinedIff (s : Both) (e : Event) (consistent : Consistent s) : WellDefined s e ↔ Favourable s e := by
  have acts := stepActs consistent.linked e
  constructor
  · rintro ⟨frees,_,reports⟩
    generalize target : s.step e = t at acts reports
    have frees : ∀ p, t.state.heap.deleted p ≠ s.state.heap.deleted p → Owns s.state e.receiver p := target ▸ frees
    clear target
    cases acts with
    | idle favourable => exact favourable
    | construct _ _ _ _ | destroy _ => trivial
    | @copyConstruct i j storage o link free unlinked source linked =>
      intro _ other same
      obtain rfl := Option.some.inj (linked.symm.trans same)
      refine ⟨?_,?_⟩
      · by_contra filled
        obtain ⟨p,points⟩ := Option.ne_none_iff_exists'.mp filled
        have owns := (frees p (by simp [take,Heap.delete,points])).points
        simp [view,Event.receiver,free] at owns
      · exact staleSilent (linkedStands consistent.linked source linked) (consistent.texts _ _ linked)
          (i := i) (by simp [copied]) (by simp [copied,take]) reports
    | @assign i j this o link other receiver there source linked =>
      intro _ _ o' same
      obtain rfl := Option.some.inj (linked.symm.trans same)
      exact staleSilent (linkedStands consistent.linked source linked) (consistent.texts _ _ linked)
        (i := i) (by simp [copied]) (by simp [copied,take]) reports
  · intro favourable
    have next := consistentStep s e consistent favourable
    exact ⟨fun p changed => consistentFrees consistent acts favourable changed,consistentOnce next,consistentReports next⟩

end Steps

theorem initialConsistent : Consistent initial := by
  obtain ⟨sound,accounted⟩ := freshSound (l := view initial.state) rfl (fun _ => rfl) (fun _ => rfl)
  exact ⟨sound,accounted,fun _ => .none,allEmpty⟩

/-- Exceptions are copied as they should be in all steps of a run exactly when every step is a
favourable one. -/
theorem wellDefinedThroughoutIff (events : List Event) :
    Guarded Both.step WellDefined initial events ↔ Guarded Both.step Favourable initial events :=
  guardedIffCarried consistentStep wellDefinedIff initialConsistent events

theorem dirtyStorage : ¬ ∀ events, Guarded Both.step WellDefined initial events := by
  intro all
  have step := all [.construct 0 5 (some (text "lost")),.copyConstruct 1 0 ⟨0,some 7⟩] [.construct 0 5 (some (text "lost"))]
    (.copyConstruct 1 0 ⟨0,some 7⟩) (List.prefix_refl _)
  have owns := (step.freesOwn 7 (by decide)).points
  cases owns

end DatabaseLayer.MySQLExceptions
