import DatabaseLayer.MySQLConnect

/-! What rejected connection strings leave on a connection. An option is handed to the
library as soon as its own block accepts it, and the blocks after it may still refuse. -/
namespace DatabaseLayer.MySQLTraces
open Platform MySQLClient Foundation.Program Foundation.Run ConnectionString CppMySQLDB MySQLConnect

section Calls
variable (client : Client)

def step (s : Scope World CppMySQLDB) (sz : CString) : Scope World CppMySQLDB := left (connectString client sz s)

/-- The call throws, and has not called mysql_real_connect. -/
def Rejects (s : Scope World CppMySQLDB) (sz : CString) : Prop :=
  ∃ e t, connectString client sz s = .error e t ∧ connects t.world.log = connects s.world.log

/-- Either a check before the options refuses the string, or no option is accepted before
one is refused. -/
def LeavesNothing (s : Scope World CppMySQLDB) (sz : CString) : Prop :=
  ∀ o, parse sz = .ok o → o.get "user" ≠ text "" → ¬ PortRefused o → Untouched client s (blocks o)

/-- The call comes to mysql_real_connect, with this history behind it. -/
def Reaches (s : Scope World CppMySQLDB) (sz : CString) (h : History) : Prop :=
  connects (step client s sz).world.log ≠ connects s.world.log ∧ ∃ e, (step client s sz).world.log = e :: h

end Calls

def NoTrace (conn : Nat) (s t : Scope World CppMySQLDB) : Prop :=
  accepted conn t.world.log = accepted conn s.world.log ∧ t.world.sDBName = s.world.sDBName

/-- What the options of a string alone put in force. -/
def requested (o : Options) (opt : MysqlOption) : Option (Option CString) :=
  (((blocks o).filterMap Block.handed).reverse.find? (fun p => p.1 = opt)).map Prod.snd

section Steps
variable {client : Client} {conn : Nat} {s : Scope World CppMySQLDB} {sz : CString}

variable (client) in
theorem namedCounts (o : Options) {t : Scope World CppMySQLDB} (held : t.this.mpDB ≠ none) :
    connects (left (connectNamed client o t)).world.log = connects t.world.log + 1 := by
  obtain ⟨r,log,_⟩ := namedConnects client o held
  rw [log,connects,List.countP_cons_of_pos rfl]
  rfl

theorem stepThis (s : Scope World CppMySQLDB) (sz : CString) : (step client s sz).this = s.this := by
  unfold step
  rcases connectStringCases client sz s with ⟨e,result,_⟩ | ⟨o,_,_,_,⟨e,t,performed,result⟩ | ⟨t,performed,result⟩⟩
  · rw [result]
    rfl
  · have handed := handedThrown performed
    rw [result]
    exact handed.this
  · have handed := handedReturned performed
    have same : t.this = s.this := handed.this
    rw [result]
    by_cases closed : t.this.mpDB = none
    · rw [connectNamedClosed client o closed]
      exact same
    · obtain ⟨_,_,this⟩ := namedConnects client o closed
      exact this.trans same

theorem noTraceStep (held : s.this.mpDB = some conn) (rejects : Rejects client s sz) :
    NoTrace conn s (step client s sz) ↔ LeavesNothing client s sz := by
  unfold step
  rcases connectStringCases client sz s with ⟨e,result,refused⟩ | ⟨o,parses,user,port,⟨e,t,performed,result⟩ | ⟨t,performed,result⟩⟩
  · rw [result]
    refine iff_of_true ⟨rfl,rfl⟩ fun o parses user port => ?_
    rcases refused o parses with ⟨none,_⟩ | ⟨_,bad,_⟩
    · exact absurd none user
    · exact absurd bad port
  · have handed := performedHanded client (blocks o) s
    have untouched := performedUntouched client held (blocks o)
    rw [performed] at handed untouched
    rw [result]
    constructor
    · intro clean p same _ _
      rw [parses] at same
      cases same
      exact untouched.mp clean.1
    · intro clean
      exact ⟨untouched.mpr (clean o parses user port),handed.name⟩
  · have handed := handedReturned performed
    have same : t.this = s.this := handed.this
    have counts := namedCounts client o (t := t) (by rw [same,held]; simp)
    obtain ⟨e,u,stops,connects⟩ := rejects
    rw [result] at stops
    rw [stops] at counts
    have before : MySQLConnect.connects t.world.log = MySQLConnect.connects s.world.log := handedConnects handed
    rw [leftError] at counts
    omega

/-- A string that comes to mysql_real_connect had all its options accepted before. -/
theorem reachedPerformed (held : s.this.mpDB = some conn) {o : Options} (parses : parse sz = .ok o)
    (counted : connects (step client s sz).world.log ≠ connects s.world.log) {e : Entry} {h : History}
    (log : (step client s sz).world.log = e :: h) :
    ∃ t, performAll client (blocks o) s = .ok ⟨⟩ t ∧ h = t.world.log ∧ e.call = realConnect o := by
  unfold step at counted log
  rcases connectStringCases client sz s with ⟨e,result,_⟩ | ⟨p,same,_,_,⟨e,t,performed,result⟩ | ⟨t,performed,result⟩⟩
  · rw [result] at counted
    exact absurd rfl counted
  · have handed := handedThrown performed
    rw [result] at counted
    exact absurd (handedConnects handed) counted
  · rw [parses] at same
    cases same
    have handed := handedReturned performed
    have mine : t.this = s.this := handed.this
    obtain ⟨r,named,_⟩ := namedConnects client o (t := t) (by rw [mine,held]; simp)
    rw [result,named] at log
    cases log
    exact ⟨t,performed,rfl,rfl⟩

/-- At mysql_real_connect the options of the string are in force, over those from before. -/
theorem reachedInForce (held : s.this.mpDB = some conn) {h : History} (reaches : Reaches client s sz h) {o : Options}
    (parses : parse sz = .ok o) (opt : MysqlOption) :
    inForce conn h opt = (requested o opt).or (inForce conn s.world.log opt) := by
  obtain ⟨counted,e,log⟩ := reaches
  obtain ⟨t,performed,rfl,_⟩ := reachedPerformed held parses counted log
  rw [inForce,performedAccepted client held performed,List.find?_append,Option.map_or]
  rfl

end Steps

/-- Rejected connection strings leave no option and no name behind, and at the next connect
the options of its own string are in force over those from before all of them, exactly when
none of the rejected strings had an option accepted before another one was refused. -/
theorem rejectedLeavesNothingIff (client : Client) {conn : Nat} {s : Scope World CppMySQLDB}
    (held : s.this.mpDB = some conn) (rejected : List CString) (all : Guarded (step client) (Rejects client) s rejected) :
    (Throughout (step client) (NoTrace conn s) s rejected ∧
      ∀ last h, Reaches client (run (step client) s rejected) last h → ∀ o, parse last = .ok o → ∀ opt,
        inForce conn h opt = (requested o opt).or (inForce conn s.world.log opt)) ↔
    Guarded (step client) (LeavesNothing client) s rejected := by
  have keep : ∀ t sz, t.this.mpDB = some conn → (step client t sz).this.mpDB = some conn := by
    intro t sz mine
    rw [stepThis,mine]
  have exact : ∀ t sz, t.this.mpDB = some conn → NoTrace conn s t →
      (NoTrace conn s (step client t sz) ∧ Rejects client t sz ↔ LeavesNothing client t sz ∧ Rejects client t sz) := by
    intro t sz mine clean
    refine and_congr_left fun rejects => ?_
    rw [← noTraceStep mine rejects,NoTrace,NoTrace,clean.1,clean.2]
  have runs := throughoutAndIffGuarded keep exact held ⟨rfl,rfl⟩ rejected
  rw [guardedAnd] at runs
  constructor
  · intro both
    exact (runs.mp ⟨both.1,all⟩).1
  · intro nothing
    have clean := (runs.mpr ⟨nothing,all⟩).1
    refine ⟨clean,fun last h reaches o parses opt => ?_⟩
    have mine := invariantRun keep held rejected
    rw [reachedInForce mine reaches parses,inForce,(throughoutLast clean).1]
    rfl

def refusedCompress : CString := text "user=a;compress=x"

def halfRefused : CString := text "user=a;compress=true;auto-reconnect=x"

theorem refusedOnce : Guarded (step .obliging) (Rejects .obliging) initialised [refusedCompress] :=
  guardedCons.mpr ⟨⟨_,_,rfl,rfl⟩,guardedNil.mpr trivial⟩

theorem rejectedLeavesNothingIffCompress :
    (Throughout (step .obliging) (NoTrace 0 initialised) initialised [refusedCompress] ∧
      ∀ last h, Reaches .obliging (run (step .obliging) initialised [refusedCompress]) last h →
        ∀ o, parse last = .ok o → ∀ opt,
          inForce 0 h opt = (requested o opt).or (inForce 0 initialised.world.log opt)) ↔
    Guarded (step .obliging) (LeavesNothing .obliging) initialised [refusedCompress] :=
  rejectedLeavesNothingIff .obliging rfl [refusedCompress] refusedOnce

/-- A bad reconnect option leaves compression on, and the next connect has it in force. -/
theorem compressionLeft : Rejects .obliging initialised halfRefused ∧
    ¬ NoTrace 0 initialised (step .obliging initialised halfRefused) ∧
    ∃ h, Reaches .obliging (step .obliging initialised halfRefused) (text "user=a") h ∧
      inForce 0 h .optCompress = some none ∧ ∀ o, parse (text "user=a") = .ok o → requested o .optCompress = none := by
  refine ⟨⟨_,_,rfl,rfl⟩,fun clean => ?_,_,⟨by decide,_,rfl⟩,rfl,fun o parses => ?_⟩
  · exact absurd clean.1 (by decide)
  · cases parses
    rfl

end DatabaseLayer.MySQLTraces
