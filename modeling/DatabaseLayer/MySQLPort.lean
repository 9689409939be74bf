import DatabaseLayer.MySQLConnect

/-! The port of a connection string, between atoi, a signed comparison and an unsigned
parameter. -/
namespace DatabaseLayer.MySQLPort
open Platform MySQLClient Foundation.Program Foundation.Segments ConnectionString CppMySQLDB MySQLConnect

/-- A numeral of digits only, for a number a port can have. -/
structure Denotes (value : CString) (port : Nat) : Prop where
  digits : ∀ b ∈ value.bytes, isdigit b = true
  number : digitsValue value.bytes = port
  low : 1 ≤ port
  high : port ≤ 65535

/-- The integer a text starts with: a sign, if any, and digits. -/
def leadingInteger : List UInt8 → Int
  | 45 :: tail => -(digitsValue (tail.takeWhile isdigit) : Int)
  | 43 :: tail => digitsValue (tail.takeWhile isdigit)
  | bytes => digitsValue (bytes.takeWhile isdigit)

/-- What is left of it in an int, 64 bits being read, is neither negative nor a port. -/
def NoPort (value : CString) : Prop :=
  let r := max (-2^63) (min (leadingInteger value.bytes) (2^63 - 1)) % 2^32
  r = 0 ∨ 65536 ≤ r ∧ r < 2^31

section Text
variable {value : CString}

theorem unpadded {bytes : List UInt8} (stripped : Stripped blank bytes) :
    bytes.dropWhile (fun b => isspace (signedChar b)) = bytes := by
  cases bytes with
  | nil => rfl
  | cons b rest => exact List.dropWhile_cons_of_neg (Bool.eq_false_iff.mp (stripped.leading b rfl))

theorem atoiLeading (stripped : Stripped blank value.bytes) :
    atoi value = wrapInt (max (-2^63) (min (leadingInteger value.bytes) (2^63 - 1))) := by
  unfold atoi
  rw [unpadded stripped]
  generalize value.bytes = bytes
  unfold leadingInteger
  dsimp only
  split
  · simp only [if_true]
    congr 1
    omega
  · simp only [Bool.false_eq_true,if_false]
    congr 1
    omega
  · simp only [Bool.false_eq_true,if_false]
    congr 1
    omega

theorem noPortIff (stripped : Stripped blank value.bytes) : atoi value = 0 ∨ atoi value > 65535 ↔ NoPort value := by
  rw [atoiLeading stripped,NoPort]
  generalize max (-2^63) (min (leadingInteger value.bytes) (2^63 - 1)) = n
  unfold wrapInt
  omega

theorem denotesAtoi {port : Nat} (denotes : Denotes value port) : atoi value = port := by
  have digit : ∀ b, isdigit b = true → blank b = false ∧ b ≠ 45 ∧ b ≠ 43 := by
    intro b inside
    simp only [isdigit,Bool.and_eq_true,decide_eq_true_eq] at inside
    have low : 48 ≤ b.toNat := UInt8.le_iff_toNat_le.mp inside.1
    have high : b.toNat ≤ 57 := UInt8.le_iff_toNat_le.mp inside.2
    refine ⟨?_,?_,?_⟩
    · simp only [blank,isspace,signedChar,if_pos (show b.toNat < 128 by omega)]
      simp only [Bool.or_eq_false_iff,beq_eq_false_iff_ne,Bool.and_eq_false_iff,decide_eq_false_iff_not]
      omega
    · rintro rfl
      exact absurd low (by decide)
    · rintro rfl
      exact absurd low (by decide)
  have whole : value.bytes.takeWhile isdigit = value.bytes := List.takeWhile_eq_self_iff.mpr denotes.digits
  have stripped : Stripped blank value.bytes := by
    constructor
    · intro b first
      exact (digit b (denotes.digits b (List.mem_of_mem_head? first))).1
    · intro b last
      exact (digit b (denotes.digits b (List.mem_of_mem_getLast? last))).1
  have leading : leadingInteger value.bytes = digitsValue (value.bytes.takeWhile isdigit) := by
    unfold leadingInteger
    split
    · rename_i tail same
      exact absurd rfl (digit 45 (denotes.digits 45 (by simp [same]))).2.1
    · rename_i tail same
      exact absurd rfl (digit 43 (denotes.digits 43 (by simp [same]))).2.2
    · rfl
  have low := denotes.low
  have high := denotes.high
  rw [atoiLeading stripped,leading,whole,denotes.number]
  unfold wrapInt
  omega

end Text

/-- The calls made after a history. -/
def since (before after : History) : History := after.take (after.length - before.length)

theorem sinceAppend (new old : History) : since old (new ++ old) = new := by
  rw [since,List.length_append,Nat.add_sub_cancel,List.take_left]

/-- Only a numeral for a port passes, and anything else is refused as a port. -/
structure PortChecked (client : Client) (s : Scope World CppMySQLDB) (sz : CString) (port : CString) : Prop where
  passes : ∀ e ∈ since s.world.log (left (connectString client sz s)).world.log,
    ∀ host user passwd db p flag, e.call = .realConnect host user passwd db p flag → Denotes port p
  refuses : (∀ p, ¬ Denotes port p) → (∃ t, connectString client sz s = .error (.thrown portError) t) ∧
    ∀ e ∈ since s.world.log (left (connectString client sz s)).world.log, isConnect e.call = false

section Checked
variable (client : Client) {s t : Scope World CppMySQLDB} {sz : CString} {o : Options}

theorem blocksDiffer (o : Options) {szErrMess : CString} (inside : .refuse szErrMess ∈ blocks o) :
    exception CPPMYSQL_DB_ERROR (some szErrMess) ≠ portError := by
  have compress : exception CPPMYSQL_DB_ERROR
      (some (text "create session: specify correct compress option (true or false) or skip it")) ≠ portError := by
    decide
  have reconnect : exception CPPMYSQL_DB_ERROR
      (some (text "create session: specify correct auto-reconnect option (true or false) or skip it")) ≠
      portError := by
    decide
  simp only [blocks,List.mem_cons,List.not_mem_nil,or_false] at inside
  rcases inside with first | second | third
  · unfold compressBlock at first
    split_ifs at first
    rw [Block.refuse.inj first]
    exact compress
  · unfold reconnectBlock at second
    split_ifs at second
    rw [Block.refuse.inj second]
    exact reconnect
  · unfold charsetBlock at third
    split_ifs at third

theorem performedDiffers {bs : List Block}
    (differ : ∀ szErrMess, .refuse szErrMess ∈ bs → exception CPPMYSQL_DB_ERROR (some szErrMess) ≠ portError) :
    performAll client bs s ≠ .error (.thrown portError) t := by
  induction bs generalizing s with
  | nil => simp [performAll]
  | cons b bs ih =>
    have rest := fun {u} => ih (s := u) fun m inside => differ m (List.mem_cons_of_mem _ inside)
    intro stops
    simp only [performAll,bindApply] at stops
    cases b with
    | skip => exact rest stops
    | hand opt arg =>
      simp only [Block.perform,setOptionsApply] at stops
      by_cases takes : (reply client s (.options opt arg)).rc = 0
      · rw [if_pos takes] at stops
        exact rest stops
      · rw [if_neg takes,EStateM.Result.error.injEq,Stop.thrown.injEq] at stops
        exact absurd stops.1 (by decide)
    | refuse szErrMess =>
      have mine := differ szErrMess List.mem_cons_self
      simp only [Block.perform,raiseApply,EStateM.Result.error.injEq,Stop.thrown.injEq] at stops
      exact mine stops.1

theorem callsMade {e : Entry} (made : e ∈ since s.world.log (left (connectString client sz s)).world.log) :
    (∃ opt arg, e.call = .options opt arg) ∨
      ∃ o, parse sz = .ok o ∧ ¬ PortRefused o ∧ e.call = realConnect o := by
  have handed (o : Options) := performedHanded client (blocks o) s
  have options {t : Scope World CppMySQLDB} (handed : Handed s t) (mine : e ∈ since s.world.log t.world.log) :
      ∃ opt arg, e.call = .options opt arg := by
    obtain ⟨new,log,calls⟩ := handed.log
    rw [log,sinceAppend] at mine
    exact calls e mine
  rcases connectStringCases client sz s with ⟨_,result,_⟩ | ⟨o,parses,user,port,⟨_,t,performed,result⟩ | ⟨t,performed,result⟩⟩
  · rw [result] at made
    exact .inl (options (chainHanded.refl s) made)
  · have handed := handed o
    rw [performed] at handed
    rw [result] at made
    exact .inl (options handed made)
  · have handed := handed o
    rw [performed] at handed
    rw [result] at made
    by_cases closed : t.this.mpDB = none
    · rw [connectNamedClosed client o closed] at made
      exact .inl (options handed made)
    · obtain ⟨r,log,_⟩ := namedConnects client o closed
      obtain ⟨new,before,calls⟩ := handed.log
      rw [leftOk] at before
      rw [log,before,← List.cons_append,sinceAppend] at made
      rcases List.mem_cons.mp made with rfl | early
      · exact .inr ⟨o,parses,port,rfl⟩
      · exact .inl (calls e early)

theorem portGet (parses : parse sz = .ok o) : PortRefused o ↔ NoPort (o.get "port") := by
  refine noPortIff ?_
  unfold Options.get
  cases found : o (text "port") with
  | none => exact ⟨nofun,nofun⟩
  | some value => exact (parsedCarried parses found).stripped

theorem portPasses {port : Nat} (denotes : Denotes (o.get "port") port) :
    ¬ PortRefused o ∧ (atoi (o.get "port") % 2^32).toNat = port := by
  have low := denotes.low
  have high := denotes.high
  unfold PortRefused
  rw [denotesAtoi denotes]
  omega

theorem numeralChecked (parses : parse sz = .ok o) {port : Nat} (denotes : Denotes (o.get "port") port) :
    PortChecked client s sz (o.get "port") := by
  refine ⟨fun e made host user passwd db q flag call => ?_,fun none => absurd denotes (none port)⟩
  rcases callsMade client made with ⟨opt,arg,other⟩ | ⟨o',same,_,mine⟩
  · rw [call] at other
    cases other
  · rw [parses] at same
    cases same
    rw [call,realConnect,Call.realConnect.injEq] at mine
    rw [mine.2.2.2.2.1,(portPasses denotes).2]
    exact denotes

theorem refusedChecked (parses : parse sz = .ok o) (user : o.get "user" ≠ text "") (port : PortRefused o) :
    PortChecked client s sz (o.get "port") := by
  have result : connectString client sz s = .error (.thrown portError) s := by
    unfold connectString
    rw [parses]
    dsimp only
    rw [connectWithApply,if_neg user,if_pos port]
  have none : since s.world.log (left (connectString client sz s)).world.log = [] := by
    rw [result]
    exact sinceAppend [] _
  refine ⟨?_,fun _ => ⟨⟨s,result⟩,?_⟩⟩
  · simp [none]
  · simp [none]

/-- The port is refused without a connect only where the port check refuses it. -/
theorem refusedOfStopped (parses : parse sz = .ok o) (stops : connectString client sz s = .error (.thrown portError) t)
    (quiet : ∀ e ∈ since s.world.log (left (connectString client sz s)).world.log, isConnect e.call = false) :
    o.get "user" ≠ text "" ∧ PortRefused o := by
  rcases connectStringCases client sz s with ⟨e,result,refused⟩ | ⟨p,same,user,port,⟨e,u,performed,result⟩ | ⟨u,performed,result⟩⟩
  · rw [result,EStateM.Result.error.injEq] at stops
    rcases refused o parses with ⟨_,mine⟩ | ⟨user,port,_⟩
    · rw [mine,Stop.thrown.injEq] at stops
      exact absurd stops.1 (by decide)
    · exact ⟨user,port⟩
  · rw [result] at stops
    rw [stops] at performed
    exact absurd performed (performedDiffers client fun m => blocksDiffer p)
  · by_cases closed : u.this.mpDB = none
    · rw [result,connectNamedClosed client p closed,EStateM.Result.error.injEq,Stop.thrown.injEq,refusal,
        if_pos closed] at stops
      exact absurd stops.1 (by decide)
    · obtain ⟨r,log,_⟩ := namedConnects client p closed
      obtain ⟨new,before,_⟩ := (handedReturned performed).log
      rw [result,log,before,← List.cons_append,sinceAppend] at quiet
      exact absurd (quiet _ List.mem_cons_self) (by simp [realConnect,isConnect])

end Checked

/-- The port is checked exactly when it is a numeral for a port, or there is a user name and
what atoi makes of the text is neither a port nor negative. -/
theorem portCheckedIff (client : Client) (s : Scope World CppMySQLDB) {sz : CString} {o : Options}
    (parses : parse sz = .ok o) :
    PortChecked client s sz (o.get "port") ↔
      (∃ p, Denotes (o.get "port") p) ∨ o.get "user" ≠ text "" ∧ NoPort (o.get "port") := by
  rw [← portGet parses]
  constructor
  · intro checked
    by_cases numeral : ∃ p, Denotes (o.get "port") p
    · exact .inl numeral
    · obtain ⟨⟨t,stops⟩,quiet⟩ := checked.refuses (not_exists.mp numeral)
      exact .inr (refusedOfStopped client parses stops quiet)
  · rintro (⟨p,denotes⟩ | ⟨user,port⟩)
    · exact numeralChecked client parses denotes
    · exact refusedChecked client parses user port

theorem portCheckedIffGiven : ∃ o, parse (text "user=a;port=3307") = .ok o ∧
    (PortChecked .obliging initialised (text "user=a;port=3307") (o.get "port") ↔
      (∃ p, Denotes (o.get "port") p) ∨ o.get "user" ≠ text "" ∧ NoPort (o.get "port")) :=
  ⟨_,rfl,portCheckedIff .obliging initialised rfl⟩

/-- A negative port is handed on as a large one. -/
theorem negativePortPasses : ∃ o, parse (text "user=a;port=-1") = .ok o ∧ o.get "port" = text "-1" ∧
    ¬ PortChecked .obliging initialised (text "user=a;port=-1") (o.get "port") ∧
    ∃ e t, (left (connectString .obliging (text "user=a;port=-1") initialised)).world.log = e :: t ∧
      e.call = .realConnect (text "127.0.0.1") (text "a") (text "") none 4294967295 0 := by
  refine ⟨_,rfl,rfl,fun checked => ?_,_,_,rfl,rfl⟩
  have denotes := checked.passes _ List.mem_cons_self _ _ _ _ _ _ rfl
  exact absurd (denotes.digits 45 List.mem_cons_self) (by decide)

end DatabaseLayer.MySQLPort
