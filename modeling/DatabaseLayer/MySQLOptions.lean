import DatabaseLayer.MySQLTraces

/-! What the options of a connection string mean to the library by the time it connects.
MYSQL_OPT_RECONNECT takes the address of a flag and is given a text. -/
namespace DatabaseLayer.MySQLOptions
open Platform MySQLClient Foundation.Program ConnectionString CppMySQLDB MySQLConnect MySQLTraces

/-- `*(my_bool *) arg`: the first byte there, be it the terminator. -/
def myBool (arg : CString) : Bool := arg.bytes.headD 0 ≠ 0

/-- Whatever the argument, MYSQL_OPT_COMPRESS turns compression on. -/
def compresses (conn : Nat) (h : History) : Bool := (inForce conn h .optCompress).isSome

def reconnects (conn : Nat) (h : History) : Option Bool := (inForce conn h .optReconnect).join.map myBool

def charset (conn : Nat) (h : History) : Option CString := (inForce conn h .setCharsetName).join

/-- At this connect, and with this history behind it, the options mean what they say. -/
structure Meant (conn : Nat) (o : Options) (e : Entry) (h : History) : Prop where
  compression : compresses conn h = true ↔ o.get "compress" = text "true"
  reconnecting : o.get "auto-reconnect" = text "true" → reconnects conn h = some true
  staying : o.get "auto-reconnect" = text "false" → reconnects conn h = some false
  untouched : o.get "auto-reconnect" = text "" → reconnects conn h = none
  charset : charset conn h =
    if o.get "default-character-set" = text "" then none else some (o.get "default-character-set")
  arguments : ∃ port flag, e.call = .realConnect (o.get "host") (o.get "user") (o.get "password")
    (if o.get "db" = text "" then none else some (o.get "db")) port flag

section Requested
variable {o : Options}

/-- A block that hands on nothing but this option. -/
def Concerns (opt : MysqlOption) (b : Block) : Prop := ∀ p, b.handed = some p → p.1 = opt

theorem compressConcerns (value : CString) : Concerns .optCompress (compressBlock value) := by
  unfold compressBlock
  split_ifs
  all_goals
    rintro p ⟨⟩
    try rfl

theorem reconnectConcerns (value : CString) : Concerns .optReconnect (reconnectBlock value) := by
  unfold reconnectBlock
  split_ifs
  all_goals
    rintro p ⟨⟩
    try rfl

theorem charsetConcerns (value : CString) : Concerns .setCharsetName (charsetBlock value) := by
  unfold charsetBlock
  split_ifs
  all_goals
    rintro p ⟨⟩
    try rfl

def blockOf (o : Options) : MysqlOption → Block
  | .optCompress => compressBlock (o.get "compress")
  | .optReconnect => reconnectBlock (o.get "auto-reconnect")
  | .setCharsetName => charsetBlock (o.get "default-character-set")

theorem requestedBlock (opt : MysqlOption) : requested o opt = (blockOf o opt).handed.map Prod.snd := by
  have first := compressConcerns (o.get "compress")
  have second := reconnectConcerns (o.get "auto-reconnect")
  have third := charsetConcerns (o.get "default-character-set")
  unfold Concerns at first second third
  unfold requested blocks blockOf
  simp only [List.filterMap_cons,List.filterMap_nil]
  cases compress : (compressBlock (o.get "compress")).handed <;>
  cases reconnect : (reconnectBlock (o.get "auto-reconnect")).handed <;>
  cases charset : (charsetBlock (o.get "default-character-set")).handed <;>
  cases opt <;> simp_all

end Requested

section Connecting
variable {client : Client} {conn : Nat} {s : Scope World CppMySQLDB} {sz : CString} {o : Options} {e : Entry} {h : History}

theorem compressesIff (only : inForce conn h .optCompress = requested o .optCompress) :
    compresses conn h = true ↔ o.get "compress" = text "true" := by
  rw [compresses,only,requestedBlock]
  unfold blockOf compressBlock
  by_cases on : o.get "compress" = text "true"
  · simp [on,Block.handed]
  · simp only [if_neg on]
    split_ifs <;> simp [Block.handed,on]

theorem reconnectsGiven (only : inForce conn h .optReconnect = requested o .optReconnect) :
    (o.get "auto-reconnect" = text "true" → reconnects conn h = some true) ∧
    (o.get "auto-reconnect" = text "false" → reconnects conn h = some true) ∧
    (o.get "auto-reconnect" = text "" → reconnects conn h = none) := by
  rw [reconnects,only,requestedBlock]
  refine ⟨?_,?_,?_⟩
  all_goals
    intro given
    simp only [blockOf,given]
    decide

theorem charsetGiven (only : inForce conn h .setCharsetName = requested o .setCharsetName) : charset conn h =
    if o.get "default-character-set" = text "" then none else some (o.get "default-character-set") := by
  rw [charset,only,requestedBlock]
  unfold blockOf charsetBlock
  by_cases none : o.get "default-character-set" = text ""
  · simp [none,Block.handed]
  · simp [none,Block.handed]

/-- On a handle without options, a string that comes to the connect puts its options in force
as they are meant exactly if auto-reconnect is not the text false, which is read as a flag
that is set. -/
theorem meantIff (held : s.this.mpDB = some conn) (fresh : accepted conn s.world.log = []) (parses : parse sz = .ok o)
    (counted : connects (step client s sz).world.log ≠ connects s.world.log)
    (log : (step client s sz).world.log = e :: h) : Meant conn o e h ↔ o.get "auto-reconnect" ≠ text "false" := by
  have reaches : Reaches client s sz h := ⟨counted,e,log⟩
  have only (opt : MysqlOption) : inForce conn h opt = requested o opt := by
    rw [reachedInForce held reaches parses opt,inForce,fresh]
    exact Option.or_none
  obtain ⟨yes,no,unset⟩ := reconnectsGiven (only .optReconnect)
  constructor
  · intro meant off
    have wrong := (no off).symm.trans (meant.staying off)
    cases wrong
  · intro off
    refine ⟨compressesIff (only .optCompress),yes,fun same => absurd same off,unset,charsetGiven (only .setCharsetName),?_⟩
    obtain ⟨_,_,_,call⟩ := reachedPerformed held parses counted log
    unfold realConnect at call
    rw [ite_not] at call
    exact ⟨_,_,call⟩

end Connecting

def reconnecting : CString := text "user=a;compress=true;auto-reconnect=true;default-character-set=utf8"

theorem meantIffReconnecting : ∃ o e h, parse reconnecting = .ok o ∧
    (step .obliging initialised reconnecting).world.log = e :: h ∧ (Meant 0 o e h ↔ o.get "auto-reconnect" ≠ text "false") := by
  have parses : parse reconnecting = .ok _ := rfl
  have log : (step .obliging initialised reconnecting).world.log = _ :: _ := rfl
  exact ⟨_,_,_,parses,log,meantIff rfl rfl parses (by decide) log⟩

/-- Told not to reconnect, the library is set to reconnect. -/
theorem falseReconnects : ∃ o e h, parse (text "user=a;auto-reconnect=false") = .ok o ∧
    (step .obliging initialised (text "user=a;auto-reconnect=false")).world.log = e :: h ∧
    o.get "auto-reconnect" = text "false" ∧ reconnects 0 h = some true ∧ ¬ Meant 0 o e h := by
  refine ⟨_,_,_,rfl,rfl,rfl,rfl,fun meant => ?_⟩
  have wrong := meant.staying rfl
  exact absurd wrong (by decide)

end DatabaseLayer.MySQLOptions
