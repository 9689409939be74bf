import DatabaseLayer.ConnectionGrammar
import DatabaseLayer.Foundation.Run
import DatabaseLayer.MySQLDB

/-! connect(const char*) once the string is parsed: the checks of user and port, three
blocks that validate and hand on one option each, and the connect itself. -/
namespace DatabaseLayer.MySQLConnect
open Platform MySQLClient Foundation.Program Foundation.Run ConnectionString CppMySQLDB

/-- What becomes of one option: nothing, it is handed to the library, or it is refused. -/
inductive Block where
  | skip
  | hand (opt : MysqlOption) (arg : Option CString)
  | refuse (szErrMess : CString)
  deriving DecidableEq, Repr

def compressBlock (value : CString) : Block :=
  if value = text "true" then .hand .optCompress none
  else if value = text "false" then .skip
  else if value ≠ text "" then
    .refuse (text "create session: specify correct compress option (true or false) or skip it")
  else .skip

def reconnectBlock (value : CString) : Block :=
  if value = text "true" then .hand .optReconnect (some (text "true"))
  else if value = text "false" then .hand .optReconnect (some (text "false"))
  else if value ≠ text "" then
    .refuse (text "create session: specify correct auto-reconnect option (true or false) or skip it")
  else .skip

def charsetBlock (value : CString) : Block :=
  if value ≠ text "" then .hand .setCharsetName (some value) else .skip

def blocks (o : Options) : List Block :=
  [compressBlock (o.get "compress"),reconnectBlock (o.get "auto-reconnect"),
    charsetBlock (o.get "default-character-set")]

def userError : CppMySQLException :=
  exception CPPMYSQL_DB_ERROR (some (text "create session: specify user name"))

def portError : CppMySQLException :=
  exception CPPMYSQL_DB_ERROR
    (some (text "create session: specify correct port (numeric in decimal notation)"))

def optionError : CppMySQLException := exception CPPMYSQL_DB_ERROR (some (text "mysql_options error"))

def PortRefused (o : Options) : Prop := atoi (o.get "port") = 0 ∨ atoi (o.get "port") > 65535

instance (o) : Decidable (PortRefused o) := by unfold PortRefused; infer_instance

section Blocks
variable (client : Client)

def Block.perform : Block → Op CppMySQLDB Unit
  | .skip => pure ()
  | .hand opt arg => setOptions client opt arg
  | .refuse szErrMess => raise CPPMYSQL_DB_ERROR szErrMess

def performAll : List Block → Op CppMySQLDB Unit
  | [] => pure ()
  | b :: bs => do
    b.perform client
    performAll bs

/-- The arguments of mysql_real_connect, in its order. -/
def realConnect (o : Options) : Call :=
  .realConnect (o.get "host") (o.get "user") (o.get "password")
    (if o.get "db" ≠ text "" then some (o.get "db") else none) (atoi (o.get "port") % 2^32).toNat 0

def connectNamed (o : Options) : Op CppMySQLDB Unit := do
  connect client (o.get "host") (o.get "user") (o.get "password")
    (if o.get "db" ≠ text "" then some (o.get "db") else none) (atoi (o.get "port") % 2^32).toNat 0
  onWorld (fun w => {w with sDBName := o.get "db"})

theorem compressPerforms (value : CString) : setCompress client value = (compressBlock value).perform client := by
  simp only [compressBlock,apply_ite (Block.perform client)]
  rfl

theorem reconnectPerforms (value : CString) :
    setReconnect client value = (reconnectBlock value).perform client := by
  simp only [reconnectBlock,apply_ite (Block.perform client)]
  rfl

theorem charsetPerforms (value : CString) : setCharset client value = (charsetBlock value).perform client := by
  simp only [charsetBlock,apply_ite (Block.perform client)]
  rfl

theorem connectWithApply (o : Options) (s : Scope World CppMySQLDB) :
    connectWith client o s =
      if o.get "user" = text "" then .error (.thrown userError) s
      else if PortRefused o then .error (.thrown portError) s
      else match performAll client (blocks o) s with
        | .ok _ t => connectNamed client o t
        | .error e t => .error e t := by
  simp only [connectWith,iteApply,raiseApply]
  refine ite_congr rfl (fun _ => rfl) fun _ => ite_congr rfl (fun _ => rfl) fun _ => ?_
  simp only [compressPerforms,reconnectPerforms,charsetPerforms,blocks,performAll,bindApply,connectNamed]
  cases (compressBlock (o.get "compress")).perform client s with
  | error e t => rfl
  | ok a t =>
    dsimp only
    cases (reconnectBlock (o.get "auto-reconnect")).perform client t with
    | error e t => rfl
    | ok a t =>
      dsimp only
      cases (charsetBlock (o.get "default-character-set")).perform client t <;> rfl

theorem setOptionsApply (opt : MysqlOption) (arg : Option CString) (s : Scope World CppMySQLDB) :
    setOptions client opt arg s =
      if (reply client s (.options opt arg)).rc = 0 then .ok ⟨⟩ (asked client s (.options opt arg))
      else .error (.thrown optionError) (asked client s (.options opt arg)) := by
  simp only [setOptions,bindApply,handleApply,callHandle,iteApply,raiseApply,pureApply]
  by_cases accepted : (reply client s (.options opt arg)).rc = 0
  · simp only [accepted,ne_eq,not_true_eq_false,if_false,if_true]
  · simp only [ne_eq,accepted,not_false_eq_true,if_true,if_false]
    rfl

theorem connectNamedClosed (o : Options) {s : Scope World CppMySQLDB} (closed : s.this.mpDB = none) :
    connectNamed client o s = .error (.thrown (refusal s)) s := by
  have refused : ¬ Connected false s := fun h => h.1 closed
  simp only [connectNamed,connect,bindApply,checkDBApply,if_neg refused]

theorem connectOpen (host user passwd : CString) (db : Option CString) (port flag : Nat)
    {s : Scope World CppMySQLDB} (held : s.this.mpDB ≠ none) :
    connect client host user passwd db port flag s =
      let c := Call.realConnect host user passwd db port flag
      if (reply client s c).rc = 0 then .ok ⟨⟩ (asked client s c)
      else .error (.thrown (exception (reply client s c).errno (some (reply client s c).error))) (asked client s c) := by
  have passed : Connected false s := ⟨held,nofun⟩
  simp only [connect,bindApply,checkDBApply,if_pos passed,handleApply,callHandle,iteApply,pureApply]
  by_cases accepted : (reply client s (.realConnect host user passwd db port flag)).rc = 0
  · simp only [accepted,ne_eq,not_true_eq_false,if_false,if_true]
  · simp only [ne_eq,accepted,not_false_eq_true,if_true,if_false,throwAsked]

theorem connectNamedOpen (o : Options) {s : Scope World CppMySQLDB} (held : s.this.mpDB ≠ none) :
    connectNamed client o s =
      if (reply client s (realConnect o)).rc = 0 then
        .ok ⟨⟩ ⟨{(asked client s (realConnect o)).world with sDBName := o.get "db"},s.this⟩
      else .error (.thrown (exception (reply client s (realConnect o)).errno
        (some (reply client s (realConnect o)).error))) (asked client s (realConnect o)) := by
  have asks : connect client (o.get "host") (o.get "user") (o.get "password")
      (if o.get "db" ≠ text "" then some (o.get "db") else none) (atoi (o.get "port") % 2^32).toNat 0 s =
      if (reply client s (realConnect o)).rc = 0 then .ok ⟨⟩ (asked client s (realConnect o))
      else .error (.thrown (exception (reply client s (realConnect o)).errno
        (some (reply client s (realConnect o)).error))) (asked client s (realConnect o)) :=
    connectOpen client _ _ _ _ _ _ held
  simp only [connectNamed,bindApply,asks]
  by_cases accepted : (reply client s (realConnect o)).rc = 0
  · simp only [if_pos accepted,onWorldApply,askedThis]
  · simp only [if_neg accepted]

theorem namedConnects (o : Options) {t : Scope World CppMySQLDB} (held : t.this.mpDB ≠ none) :
    ∃ r, (left (connectNamed client o t)).world.log = ⟨t.this.mpDB,realConnect o,r⟩ :: t.world.log ∧
      (left (connectNamed client o t)).this = t.this := by
  rw [connectNamedOpen client o held]
  split <;> exact ⟨_,rfl,rfl⟩

theorem connectStringCases (sz : CString) (s : Scope World CppMySQLDB) :
    (∃ e, connectString client sz s = .error e s ∧
      ∀ o, parse sz = .ok o → (o.get "user" = text "" ∧ e = .thrown userError) ∨
        (o.get "user" ≠ text "" ∧ PortRefused o ∧ e = .thrown portError)) ∨
    (∃ o, parse sz = .ok o ∧ o.get "user" ≠ text "" ∧ ¬ PortRefused o ∧
      ((∃ e t, performAll client (blocks o) s = .error e t ∧ connectString client sz s = .error e t) ∨
        ∃ t, performAll client (blocks o) s = .ok ⟨⟩ t ∧ connectString client sz s = connectNamed client o t)) := by
  unfold connectString
  cases parses : parse sz with
  | error stop => exact .inl ⟨stop,rfl,nofun⟩
  | ok o =>
    dsimp only
    rw [connectWithApply]
    by_cases user : o.get "user" = text ""
    · refine .inl ⟨.thrown userError,if_pos user,fun p same => ?_⟩
      cases same
      exact .inl ⟨user,rfl⟩
    by_cases port : PortRefused o
    · refine .inl ⟨.thrown portError,by rw [if_neg user,if_pos port],fun p same => ?_⟩
      cases same
      exact .inr ⟨user,port,rfl⟩
    refine .inr ⟨o,rfl,user,port,?_⟩
    rw [if_neg user,if_neg port]
    cases performed : performAll client (blocks o) s with
    | error e t => exact .inl ⟨e,t,rfl,rfl⟩
    | ok a t => exact .inr ⟨t,rfl,rfl⟩

end Blocks

/-- The options the library accepted on a connection, newest first. -/
def accepted (conn : Nat) (h : History) : List (MysqlOption × Option CString) :=
  h.filterMap fun e => match e.call with
    | .options opt arg => if e.conn = some conn ∧ e.reply.rc = 0 then some (opt,arg) else none
    | _ => none

def inForce (conn : Nat) (h : History) (opt : MysqlOption) : Option (Option CString) :=
  ((accepted conn h).find? (fun p => p.1 = opt)).map Prod.snd

def isConnect : Call → Bool
  | .realConnect _ _ _ _ _ _ => true
  | _ => false

def connects (h : History) : Nat := h.countP (fun e => isConnect e.call)

/-- What the blocks do to the world: nothing but hand on options. -/
structure Handed (s t : Scope World CppMySQLDB) : Prop where
  this : t.this = s.this
  name : t.world.sDBName = s.world.sDBName
  log : ∃ new, t.world.log = new ++ s.world.log ∧ ∀ e ∈ new, ∃ opt arg, e.call = .options opt arg

theorem chainHanded : Chain Handed := by
  constructor
  · exact fun s => ⟨rfl,rfl,[],rfl,by simp⟩
  · intro s t u first rest
    obtain ⟨new,log,options⟩ := first.log
    obtain ⟨newer,later,others⟩ := rest.log
    refine ⟨rest.this.trans first.this,rest.name.trans first.name,newer ++ new,?_,?_⟩
    · rw [later,log,List.append_assoc]
    · intro e inside
      rcases List.mem_append.mp inside with late | early
      · exact others e late
      · exact options e early

section Handing
variable (client : Client)

theorem setOptionsHanded (opt : MysqlOption) (arg : Option CString) (s : Scope World CppMySQLDB) :
    Handed s (left (setOptions client opt arg s)) := by
  rw [setOptionsApply]
  split
  all_goals
    refine ⟨rfl,rfl,[⟨s.this.mpDB,.options opt arg,reply client s (.options opt arg)⟩],rfl,?_⟩
    simp

theorem performedHanded (bs : List Block) (s : Scope World CppMySQLDB) :
    Handed s (left (performAll client bs s)) := by
  refine settlesLeft (R := Handed) ?_ s
  induction bs with
  | nil => exact settlesPure chainHanded _
  | cons b bs ih =>
    refine settlesBind chainHanded ?_ fun _ => ih
    cases b with
    | skip => exact settlesPure chainHanded _
    | hand opt arg => exact settlesOfLeft (setOptionsHanded client opt arg)
    | refuse szErrMess => exact settlesThrow chainHanded _

variable {conn : Nat} {s t : Scope World CppMySQLDB}

variable {client} in
theorem handedReturned {bs : List Block} (performed : performAll client bs s = .ok ⟨⟩ t) : Handed s t := by
  have handed := performedHanded client bs s
  rwa [performed] at handed

variable {client} in
theorem handedThrown {bs : List Block} {e : Stop} (performed : performAll client bs s = .error e t) : Handed s t := by
  have handed := performedHanded client bs s
  rwa [performed] at handed

theorem handedConnects (handed : Handed s t) : connects t.world.log = connects s.world.log := by
  obtain ⟨new,log,options⟩ := handed.log
  have none : new.countP (fun e => isConnect e.call) = 0 := by
    refine List.countP_eq_zero.mpr fun e inside => ?_
    obtain ⟨opt,arg,call⟩ := options e inside
    simp [call,isConnect]
  rw [connects,log,List.countP_append,none,Nat.zero_add]
  rfl

theorem handedAccepted (handed : Handed s t) :
    ∃ more, accepted conn t.world.log = more ++ accepted conn s.world.log := by
  obtain ⟨new,log,_⟩ := handed.log
  refine ⟨accepted conn new,?_⟩
  rw [log,accepted,List.filterMap_append]
  rfl

theorem acceptedAsked (held : s.this.mpDB = some conn) (opt : MysqlOption) (arg : Option CString) :
    accepted conn (asked client s (.options opt arg)).world.log =
      if (reply client s (.options opt arg)).rc = 0 then (opt,arg) :: accepted conn s.world.log
      else accepted conn s.world.log := by
  have mine : (asked client s (.options opt arg)).world.log =
      ⟨some conn,.options opt arg,reply client s (.options opt arg)⟩ :: s.world.log := by
    rw [← held]
    rfl
  rw [mine,accepted,List.filterMap_cons]
  by_cases takes : (reply client s (.options opt arg)).rc = 0
  · simp only [takes,and_self,if_true,accepted]
  · simp only [takes,and_false,if_false,accepted]

/-- No option is accepted before the blocks refuse one or run out. -/
def Untouched (s : Scope World CppMySQLDB) : List Block → Prop
  | [] => True
  | .skip :: bs => Untouched s bs
  | .hand opt arg :: _ => (reply client s (.options opt arg)).rc ≠ 0
  | .refuse _ :: _ => True

theorem performedUntouched (held : s.this.mpDB = some conn) (bs : List Block) :
    accepted conn (left (performAll client bs s)).world.log = accepted conn s.world.log ↔ Untouched client s bs := by
  induction bs with
  | nil => exact iff_of_true rfl trivial
  | cons b bs ih =>
    cases b with
    | skip => exact ih
    | refuse szErrMess => exact iff_of_true rfl trivial
    | hand opt arg =>
      have asks := acceptedAsked client held opt arg
      simp only [performAll,bindApply,Block.perform,setOptionsApply,Untouched]
      by_cases takes : (reply client s (.options opt arg)).rc = 0
      · rw [if_pos takes] at asks
        rw [if_pos takes]
        refine iff_of_false (fun same => ?_) (fun refused => refused takes)
        obtain ⟨more,grown⟩ := handedAccepted (performedHanded client bs (asked client s (.options opt arg)))
        have length := congrArg List.length (grown.symm.trans same)
        rw [asks,List.length_append,List.length_cons] at length
        omega
      · rw [if_neg takes] at asks
        rw [if_neg takes]
        exact iff_of_true asks takes

def Block.handed : Block → Option (MysqlOption × Option CString)
  | .hand opt arg => some (opt,arg)
  | _ => none

theorem performedAccepted (held : s.this.mpDB = some conn) {bs : List Block}
    (returns : performAll client bs s = .ok ⟨⟩ t) :
    accepted conn t.world.log = (bs.filterMap Block.handed).reverse ++ accepted conn s.world.log := by
  induction bs generalizing s with
  | nil =>
    cases returns
    rfl
  | cons b bs ih =>
    simp only [performAll,bindApply] at returns
    cases b with
    | skip => exact ih held returns
    | refuse szErrMess => cases returns
    | hand opt arg =>
      simp only [Block.perform,setOptionsApply] at returns
      by_cases takes : (reply client s (.options opt arg)).rc = 0
      · rw [if_pos takes] at returns
        have asks := acceptedAsked client held opt arg
        rw [if_pos takes] at asks
        dsimp only at returns
        have rest := ih (s := asked client s (.options opt arg)) held returns
        rw [rest,asks]
        simp [Block.handed]
      · rw [if_neg takes] at returns
        cases returns

end Handing

def initialised : Scope World CppMySQLDB := ⟨{World.initial with nConns := 1},⟨some 0,0⟩⟩

end DatabaseLayer.MySQLConnect
