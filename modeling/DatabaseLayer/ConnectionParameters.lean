import DatabaseLayer.ConnectionComposition
import DatabaseLayer.MySQLPort

/-! The two ways to connect: which parameters of the one a connection string can ask the other
for, and that it then does the same. -/
namespace DatabaseLayer.ConnectionParameters
open Platform MySQLClient Foundation.Program Foundation.Segments Foundation.Overrides ConnectionString CppMySQLDB
open MySQLConnect MySQLPort ConnectionComposition

section Numerals
variable {b : UInt8} {n : Nat}

theorem digitByte {c : Char} (digit : c.isDigit = true) : (UInt8.ofNat c.toNat).toNat = c.toNat ∧
    48 ≤ c.toNat ∧ c.toNat ≤ 57 := by
  have low : 48 ≤ c.toNat ∧ c.toNat ≤ 57 := by
    simp only [Char.isDigit,ge_iff_le,Bool.and_eq_true,decide_eq_true_eq,UInt32.le_iff_toNat_le] at digit
    exact digit
  refine ⟨?_,low⟩
  rw [UInt8.toNat_ofNat']
  omega

theorem digitCases (digit : isdigit b = true) : 48 ≤ b.toNat ∧ b.toNat ≤ 57 := by
  simp only [isdigit,Bool.and_eq_true,decide_eq_true_eq,UInt8.le_iff_toNat_le] at digit
  exact digit

theorem decimalBytes (n : Nat) :
    (decimal n).bytes = (Nat.toDigits 10 n).map (fun c => UInt8.ofNat c.toNat) := by
  refine List.takeWhile_eq_self_iff.mpr fun b inside => ?_
  obtain ⟨c,mine,rfl⟩ := List.mem_map.mp inside
  obtain ⟨same,low,_⟩ := digitByte (Nat.isDigit_of_mem_toDigits (by decide) (by decide) mine)
  simp only [decide_eq_true_eq,ne_eq]
  intro zero
  rw [zero] at same
  simp at same
  omega

theorem decimalDigits (n : Nat) : ∀ b ∈ (decimal n).bytes, isdigit b = true := by
  intro b inside
  rw [decimalBytes] at inside
  obtain ⟨c,mine,rfl⟩ := List.mem_map.mp inside
  obtain ⟨same,low,high⟩ := digitByte (Nat.isDigit_of_mem_toDigits (by decide) (by decide) mine)
  simp only [isdigit,Bool.and_eq_true,decide_eq_true_eq,UInt8.le_iff_toNat_le,same]
  exact ⟨low,high⟩

/-- Reading a numeral gives the number it was written for. -/
theorem decimalValue (n : Nat) : digitsValue (decimal n).bytes = n := by
  have read (cs : List Char) (digits : ∀ c ∈ cs, c.isDigit = true) (start : Nat) :
      (cs.map (fun c => UInt8.ofNat c.toNat)).foldl (fun n d => 10 * n + (d.toNat - 48)) start =
        Nat.ofDigitChars 10 cs start := by
    induction cs generalizing start with
    | nil => rfl
    | cons c cs ih =>
      obtain ⟨first,rest⟩ := List.forall_mem_cons.mp digits
      rw [List.map_cons,List.foldl_cons,ih rest,Nat.ofDigitChars_cons,(digitByte first).1]
      rfl
  rw [decimalBytes,digitsValue,read _ fun c mine => Nat.isDigit_of_mem_toDigits (by decide) (by decide) mine]
  exact Nat.ofDigitChars_ten_toDigits

end Numerals

/-- A port as a connection string says it; the large ones pass as negative numbers. -/
def portText (port : Nat) : CString := if port ≤ 65535 then decimal port else text "-" ++ decimal (2^32 - port)

/-- The ports that pass the check of the connection string. -/
def PortPasses (port : Nat) : Prop := 1 ≤ port ∧ port ≤ 65535 ∨ 2^31 ≤ port ∧ port < 2^32

section Ports
variable {port : Nat}

theorem numeralCarried {value : CString} (numeral : ∀ b ∈ value.bytes, isdigit b = true ∨ b = 45) :
    Carried value := by
  have visible : ∀ b ∈ value.bytes, blank b = false ∧ b ≠ 59 := by
    intro b inside
    rcases numeral b inside with digit | rfl
    · obtain ⟨low,high⟩ := digitCases digit
      refine ⟨?_,?_⟩
      · simp only [blank,isspace,signedChar,if_pos (show b.toNat < 128 by omega)]
        simp only [Bool.or_eq_false_iff,beq_eq_false_iff_ne,Bool.and_eq_false_iff,decide_eq_false_iff_not]
        omega
      · rintro rfl
        exact absurd high (by decide)
    · decide
  refine ⟨fun inside => (visible 59 inside).2 rfl,?_,?_⟩
  · exact fun b first => (visible b (List.mem_of_mem_head? first)).1
  · exact fun b last => (visible b (List.mem_of_mem_getLast? last)).1

theorem portCarried (port : Nat) : Carried (portText port) := by
  refine numeralCarried fun b inside => ?_
  unfold portText at inside
  split at inside
  · exact .inl (decimalDigits _ b inside)
  · rcases List.mem_append.mp inside with sign | digit
    · exact .inr (List.mem_singleton.mp sign)
    · exact .inl (decimalDigits _ b digit)

theorem portRead (passes : PortPasses port) :
    atoi (portText port) = if port ≤ 65535 then (port : Int) else port - 2^32 := by
  unfold PortPasses at passes
  have carried := portCarried port
  unfold portText at carried ⊢
  split
  · rename_i small
    exact denotesAtoi ⟨decimalDigits port,decimalValue port,by omega,small⟩
  · rename_i large
    rw [if_neg large] at carried
    have leading : leadingInteger (text "-" ++ decimal (2^32 - port)).bytes = -((2^32 - port : Nat) : Int) := by
      have whole : (decimal (2^32 - port)).bytes.takeWhile isdigit = (decimal (2^32 - port)).bytes :=
        List.takeWhile_eq_self_iff.mpr (decimalDigits _)
      change -(digitsValue ((decimal (2^32 - port)).bytes.takeWhile isdigit) : Int) = _
      rw [whole,decimalValue]
    rw [atoiLeading carried.stripped,leading]
    unfold wrapInt
    omega

theorem portAsked (passes : PortPasses port) :
    ¬ (atoi (portText port) = 0 ∨ atoi (portText port) > 65535) ∧ (atoi (portText port) % 2^32).toNat = port := by
  rw [portRead passes]
  unfold PortPasses at passes
  split <;> omega

/-- A port that was asked for passed the check. -/
theorem askedPasses {value : CString} (passes : ¬ (atoi value = 0 ∨ atoi value > 65535)) :
    PortPasses (atoi value % 2^32).toNat := by
  have bounded : -2^31 ≤ atoi value ∧ atoi value < 2^31 := by
    unfold atoi wrapInt
    dsimp only
    omega
  unfold PortPasses
  omega

end Ports

/-- connect with its parameters, as connect(const char*) comes to call it: without a flag, and
the name of the database is remembered. -/
def connectsWith (client : Client) (host user passwd : CString) (db : Option CString) (port : Nat) :
    Op CppMySQLDB Unit := do
  connect client host user passwd db port 0
  onWorld (fun w => {w with sDBName := db.getD (text "")})

/-- The parameters a connection string can ask for. -/
structure Expressible (host user passwd : CString) (db : Option CString) (port : Nat) : Prop where
  texts : Carried host ∧ Carried user ∧ Carried passwd ∧ ∀ d ∈ db, Carried d
  names : user ≠ text "" ∧ ∀ d ∈ db, d ≠ text ""
  passes : PortPasses port

def parameters (host user passwd : CString) (db : Option CString) (port : Nat) : List (CString × CString) :=
  [(text "host",host),(text "user",user),(text "password",passwd),(text "db",db.getD (text "")),
    (text "port",portText port)]

section Expressing
variable {client : Client} {host user passwd : CString} {db : Option CString} {port : Nat} {o : Options}

theorem getCarried {sz : CString} (parses : parse sz = .ok o) (key : String) : Carried (o.get key) := by
  unfold Options.get
  cases found : o (text key) with
  | none => exact ⟨List.not_mem_nil,strippedIff.mpr (by decide)⟩
  | some value => exact parsedCarried parses found

/-- The database a connection string names. -/
def schemaOf (o : Options) : Option CString := if o.get "db" ≠ text "" then some (o.get "db") else none

theorem schemaText (o : Options) : (schemaOf o).getD (text "") = o.get "db" := by
  unfold schemaOf
  split
  · rfl
  · rename_i empty
    exact (not_not.mp empty).symm

theorem namedWith (o : Options) : connectNamed client o =
    connectsWith client (o.get "host") (o.get "user") (o.get "password") (schemaOf o)
      (atoi (o.get "port") % 2^32).toNat := by
  unfold connectsWith
  rw [schemaText]
  rfl

theorem parametersKeys : (keys (parameters host user passwd db port)).Nodup := by
  have apart : (["host","user","password","db","port"].map text).Nodup := by decide
  exact apart

/-- Of a string that gives the five parameters and nothing else, these are what is read. -/
theorem parametersGet (same : o = overrides defaults (parameters host user passwd db port)) :
    o.get "host" = host ∧ o.get "user" = user ∧ o.get "password" = passwd ∧ o.get "db" = db.getD (text "") ∧
      o.get "port" = portText port ∧ blocks o = [.skip,.skip,.skip] := by
  have given {key : String} {value : CString} (inside : (text key,value) ∈ parameters host user passwd db port) :
      o.get key = value := by
    rw [same,Options.get,overridesInside parametersKeys inside]
    rfl
  have kept {key : String} (absent : text key ∉ ["host","user","password","db","port"].map text)
      (empty : defaults (text key) = some (text "")) : o.get key = text "" := by
    have unnamed : text key ∉ keys (parameters host user passwd db port) := absent
    rw [same,Options.get,overridesUnnamed unnamed,empty]
    rfl
  refine ⟨given (by simp [parameters]),given (by simp [parameters]),given (by simp [parameters]),
    given (by simp [parameters]),given (by simp [parameters]),?_⟩
  rw [blocks,kept (by decide) (by decide),kept (by decide) (by decide),kept (by decide) (by decide)]
  decide

theorem parametersWith (expressible : Expressible host user passwd db port) {sz : CString}
    (parses : parse sz = .ok (overrides defaults (parameters host user passwd db port))) :
    connectString client sz = connectsWith client host user passwd db port := by
  obtain ⟨hosts,users,passwords,schemas,ports,quiet⟩ := parametersGet (rfl : overrides defaults _ = _)
  obtain ⟨passed,asked⟩ := portAsked expressible.passes
  have schema : schemaOf (overrides defaults (parameters host user passwd db port)) = db := by
    rw [schemaOf,schemas]
    cases db with
    | none => rfl
    | some d => exact if_pos (expressible.names.2 d rfl)
  have accepted : ¬ PortRefused (overrides defaults (parameters host user passwd db port)) := by
    unfold PortRefused
    rwa [ports]
  funext s
  rw [connectString,parses]
  dsimp only
  rw [connectWithApply,users,if_neg expressible.names.1,if_neg accepted,quiet]
  simp only [performAll,Block.perform,bindApply,pureApply]
  rw [namedWith,hosts,users,passwords,schema,ports,asked]

theorem parametersWritten (expressible : Expressible host user passwd db port) :
    ∃ fields : List Field, fields.map Field.pair = parameters host user passwd db port := by
  obtain ⟨hosts,users,passwords,schemas⟩ := expressible.texts
  have key {name : String} (semicolon : 59 ∉ (text name).bytes) (equals : 61 ∉ (text name).bytes)
      (stripped : strip blank (text name).bytes = (text name).bytes) : KeyForm (text name) :=
    ⟨semicolon,equals,strippedIff.mpr stripped⟩
  have schema : Carried (db.getD (text "")) := by
    cases db with
    | none => exact carriedText (by decide) (by decide)
    | some d => exact schemas d rfl
  exact ⟨[.plain _ host (key (by decide) (by decide) (by decide)) hosts,
    .plain _ user userKey users,.plain _ passwd (key (by decide) (by decide) (by decide)) passwords,
    .plain _ _ (key (by decide) (by decide) (by decide)) schema,
    .plain _ _ (key (by decide) (by decide) (by decide)) (portCarried port)],rfl⟩

/-- What a string asks for when it gets as far as to connect. -/
theorem askedExpressible {sz : CString} (parses : parse sz = .ok o) (user : o.get "user" ≠ text "")
    (passes : ¬ PortRefused o) : Expressible (o.get "host") (o.get "user") (o.get "password") (schemaOf o)
      (atoi (o.get "port") % 2^32).toNat := by
  have carried := getCarried parses
  have named : ∀ d ∈ schemaOf o, d = o.get "db" ∧ d ≠ text "" := by
    intro d inside
    unfold schemaOf at inside
    split at inside
    · rename_i given
      cases inside
      exact ⟨rfl,given⟩
    · cases inside
  refine ⟨⟨carried _,carried _,carried _,fun d inside => ?_⟩,?_,askedPasses passes⟩
  · rw [(named d inside).1]
    exact carried _
  · exact ⟨user,fun d inside => (named d inside).2⟩

/-- A connect that the library accepts is the newest call there is. -/
theorem obligingConnects (host user passwd : CString) (db : Option CString) (port : Nat) {s : Scope World CppMySQLDB}
    (held : s.this.mpDB ≠ none) : ∃ t, connectsWith .obliging host user passwd db port s = .ok ⟨⟩ t ∧
      t.world.log.head?.map Entry.call = some (.realConnect host user passwd db port 0) := by
  simp only [connectsWith,bindApply,connectOpen Client.obliging host user passwd db port 0 held]
  have accepts : (reply .obliging s (.realConnect host user passwd db port 0)).rc = 0 := by
    simp only [reply,Client.answer,isCommand,Client.obliging]
    split <;> rfl
  rw [if_pos accepts]
  exact ⟨_,rfl,rfl⟩

/-- Connecting by a string and connecting by parameters are the same for exactly these parameters,
and then for every string that gives them, in whatever order and spacing. -/
theorem connectExpressible (host user passwd : CString) (db : Option CString) (port : Nat) :
    ((∃ sz, ∀ client, connectString client sz = connectsWith client host user passwd db port) ↔
      Expressible host user passwd db port) ∧
    (Expressible host user passwd db port → ∀ fields : List Field,
      (fields.map Field.pair).Perm (parameters host user passwd db port) →
        ∀ client, connectString client (rendered fields) = connectsWith client host user passwd db port) := by
  have written (expressible : Expressible host user passwd db port) {fields : List Field}
      (same : (fields.map Field.pair).Perm (parameters host user passwd db port)) (client : Client) :
      connectString client (rendered fields) = connectsWith client host user passwd db port := by
    refine parametersWith expressible ?_
    have some : fields ≠ [] := by
      rintro rfl
      cases List.nil_perm.mp same
    have distinct : (keys (fields.map Field.pair)).Nodup := (same.map _).nodup_iff.mpr parametersKeys
    rw [renderedParses some,overriddenOverrides,overridesPerm same distinct]
  refine ⟨⟨fun string => ?_,fun expressible => ?_⟩,fun expressible fields same => written expressible same⟩
  · obtain ⟨sz,same⟩ := string
    obtain ⟨t,connects,last⟩ := obligingConnects host user passwd db port (s := initialised) (by simp [initialised])
    rw [← same] at connects
    rcases connectStringCases .obliging sz initialised with ⟨e,refused,_⟩ | ⟨o,parses,user,passes,performed⟩
    · rw [refused] at connects
      cases connects
    · rcases performed with ⟨e,u,_,refused⟩ | ⟨u,returned,performs⟩
      · rw [refused] at connects
        cases connects
      · rw [performs,namedWith] at connects
        have held : u.this.mpDB ≠ none := by
          rw [(handedReturned returned).this]
          simp [initialised]
        obtain ⟨v,ends,newest⟩ := obligingConnects (o.get "host") (o.get "user") (o.get "password") (schemaOf o)
          (atoi (o.get "port") % 2^32).toNat held
        rw [ends] at connects
        cases connects
        cases newest.symm.trans last
        exact askedExpressible parses user passes
  · obtain ⟨fields,gives⟩ := parametersWritten expressible
    exact ⟨rendered fields,written expressible (gives ▸ .refl _)⟩

end Expressing
end DatabaseLayer.ConnectionParameters
