import Mathlib.Data.List.TakeWhile

/-! Statements read against a template: fixed texts, with string literals and words in between.
A text filled into a template is read back unchanged exactly when it stands for itself. -/
namespace Foundation.Template

abbrev Bytes := List UInt8

/-- What a backslash and the byte after it stand for. Before a wildcard it is kept. -/
def unescape (c : UInt8) : Bytes :=
  if c = 48 then [0] else if c = 98 then [8] else if c = 116 then [9] else if c = 110 then [10]
  else if c = 114 then [13] else if c = 90 then [26] else if c = 37 ∨ c = 95 then [92,c] else [c]

/-- The value of a string literal and what comes after it, from behind its opening quote on. A
doubled quote is a quote; a backslash escapes in a language where it does. -/
def literal (quote : UInt8) (escapes : Bool) : Bytes → Option (Bytes × Bytes)
  | [] => none
  | [b] => if b = quote then some ([],[]) else none
  | b :: c :: bs =>
    if b = quote then
      if c = quote then (literal quote escapes bs).map (fun r => (quote :: r.1,r.2)) else some ([],c :: bs)
    else if escapes ∧ b = 92 then (literal quote escapes bs).map (fun r => (unescape c ++ r.1,r.2))
    else (literal quote escapes (c :: bs)).map (fun r => (b :: r.1,r.2))

/-- No quote, and every backslash that escapes is one before a wildcard. -/
def Plain (quote : UInt8) (escapes : Bool) : Bytes → Prop
  | [] => True
  | [b] => b ≠ quote ∧ ¬ (escapes ∧ b = 92)
  | b :: c :: bs =>
    b ≠ quote ∧ if escapes ∧ b = 92 then (c = 37 ∨ c = 95) ∧ Plain quote escapes bs else Plain quote escapes (c :: bs)

def isBlank (b : UInt8) : Bool := b == 32 || (9 ≤ b && b ≤ 13)

def isWord (b : UInt8) : Bool :=
  (48 ≤ b && b ≤ 57) || (65 ≤ b && b ≤ 90) || (97 ≤ b && b ≤ 122) || b == 36 || b == 95 || 128 ≤ b

def isDigit (b : UInt8) : Bool := 48 ≤ b && b ≤ 57

def isHex (b : UInt8) : Bool := isDigit b || (65 ≤ b && b ≤ 70) || (97 ≤ b && b ≤ 102)

def isBit (b : UInt8) : Bool := b == 48 || b == 49

/-- An exponent that needs no sign. What comes after its first digit is not looked at. -/
def exponent : Bytes → Bool
  | e :: d :: _ => (e == 69 || e == 101) && isDigit d
  | _ => false

/-- A word that is read as a number: 0x and hexadecimal digits, 0b and bits, or digits alone
or before an exponent. -/
def numeral : Bytes → Bool
  | 48 :: 120 :: h :: hs => (h :: hs).all isHex
  | 48 :: 98 :: b :: bs => (b :: bs).all isBit
  | [] => false
  | b :: bs => isDigit b && (bs.all isDigit || exponent (bs.dropWhile isDigit))

/-- The next identifier and what comes after it: what stands between backquotes, or a longest
word that is no number and that the language has no other use for. -/
def identifier (free : Bytes → Bool) (bs : Bytes) : Option (Bytes × Bytes) :=
  match bs.dropWhile isBlank with
  | 96 :: quoted => literal 96 false quoted
  | rest => if rest.takeWhile isWord ≠ [] ∧ numeral (rest.takeWhile isWord) = false ∧ free (rest.takeWhile isWord) then
      some (rest.takeWhile isWord,rest.dropWhile isWord) else none

/-- A word may begin with a digit, but it must not be a number. -/
def Word (free : Bytes → Bool) (bs : Bytes) : Prop :=
  bs ≠ [] ∧ (∀ b ∈ bs, isWord b = true) ∧ numeral bs = false ∧ free bs = true

inductive Part where
  | fixed (text : Bytes)
  | literal (quote : UInt8) (escapes : Bool)
  | word (free : Bytes → Bool)

/-- The values a part is read as, none for a fixed text, and what comes after it. -/
def Part.read : Part → Bytes → Option (List Bytes × Bytes)
  | .fixed text,bs => if text <+: bs then some ([],bs.drop text.length) else none
  | .literal quote escapes,bs => (Template.literal quote escapes bs).map (fun r => ([r.1],r.2))
  | .word free,bs => (identifier free bs).map (fun r => ([r.1],r.2))

/-- The values of a statement, if it is the template from beginning to end. -/
def read : List Part → Bytes → Option (List Bytes)
  | [],bs => if bs = [] then some [] else none
  | part :: parts,bs => (part.read bs).bind (fun r => (read parts r.2).map (r.1 ++ ·))

/-- The template with these texts filled in as they are. An opening quote is fixed text. -/
def compose : List Part → List Bytes → Bytes
  | .fixed text :: parts,values => text ++ compose parts values
  | .literal quote _ :: parts,v :: values => v ++ quote :: compose parts values
  | .word _ :: parts,v :: values => v ++ compose parts values
  | _,_ => []

/-- A text for each place, and each stands for itself there. -/
def Verbatim : List Part → List Bytes → Prop
  | [],values => values = []
  | .fixed _ :: parts,values => Verbatim parts values
  | .literal quote escapes :: parts,v :: values => Plain quote escapes v ∧ Verbatim parts values
  | .word free :: parts,v :: values => Word free v ∧ Verbatim parts values
  | _,[] => False

/-- The statement ends here, or a fixed text comes that begins with another kind of byte. -/
def Stops (kind : UInt8 → Bool) : List Part → Prop
  | [] => True
  | .fixed (b :: _) :: _ => kind b = false
  | _ => False

/-- Nothing runs into what comes after it. -/
def Apart : List Part → Prop
  | [] => True
  | .fixed _ :: parts => Apart parts
  | .literal quote _ :: parts => Stops (· = quote) parts ∧ Apart parts
  | .word _ :: parts => Stops isWord parts ∧ Apart parts

section Literals
variable {quote : UInt8} {escapes : Bool} {bs v rest : Bytes}

theorem unescapeLength (c : UInt8) :
    (unescape c).length ≤ 2 ∧ ((unescape c).length = 2 → (c = 37 ∨ c = 95) ∧ unescape c = [92,c]) := by
  unfold unescape
  repeat' split
  all_goals simp_all

theorem plainCons {b : UInt8} (other : b ≠ quote) (unescaped : ¬ (escapes ∧ b = 92)) (plain : Plain quote escapes v) :
    Plain quote escapes (b :: v) := by
  cases v with
  | nil => exact ⟨other,unescaped⟩
  | cons c v => exact ⟨other,by rwa [if_neg unescaped]⟩

/-- Reading a literal takes up its value and the closing quote at least; no more only where the
value was plain. -/
theorem literalCost (read : literal quote escapes bs = some (v,rest)) :
    v.length + 1 + rest.length ≤ bs.length ∧ (bs.length = v.length + 1 + rest.length → Plain quote escapes v) := by
  induction bs using literal.induct quote escapes generalizing v rest with
  | case1 => cases read
  | case2 =>
    rw [literal,if_pos rfl] at read
    cases read
    exact ⟨Nat.le_refl 1,fun _ => trivial⟩
  | case3 b other =>
    rw [literal,if_neg other] at read
    cases read
  | case4 bs ih =>
    rw [literal,if_pos rfl,if_pos rfl] at read
    obtain ⟨⟨w,r⟩,inner,same⟩ := Option.map_eq_some_iff.mp read
    cases same
    have cost := (ih inner).1
    simp only [List.length_cons] at cost ⊢
    exact ⟨by omega,fun all => by omega⟩
  | case5 c bs other =>
    rw [literal,if_pos rfl,if_neg other] at read
    cases read
    refine ⟨?_,fun _ => trivial⟩
    simp only [List.length_nil,List.length_cons]
    omega
  | case6 b c bs other escape ih =>
    rw [literal,if_neg other,if_pos escape] at read
    obtain ⟨⟨w,r⟩,inner,same⟩ := Option.map_eq_some_iff.mp read
    cases same
    obtain ⟨cost,plain⟩ := ih inner
    obtain ⟨few,kept⟩ := unescapeLength c
    simp only [List.length_cons,List.length_append] at cost plain ⊢
    refine ⟨by omega,fun all => ?_⟩
    obtain ⟨wild,both⟩ := kept (by omega)
    rw [both]
    obtain ⟨on,rfl⟩ := escape
    exact ⟨other,by rw [if_pos ⟨on,rfl⟩]; exact ⟨wild,plain (by omega)⟩⟩
  | case7 b c bs other unescaped ih =>
    rw [literal,if_neg other,if_neg unescaped] at read
    obtain ⟨⟨w,r⟩,inner,same⟩ := Option.map_eq_some_iff.mp read
    cases same
    obtain ⟨cost,plain⟩ := ih inner
    simp only [List.length_cons] at cost plain ⊢
    exact ⟨by omega,fun all => plainCons other unescaped (plain (by omega))⟩

theorem literalCons {b : UInt8} (other : b ≠ quote) (unescaped : ¬ (escapes ∧ b = 92)) (more : bs ≠ []) :
    literal quote escapes (b :: bs) = (literal quote escapes bs).map (fun r => (b :: r.1,r.2)) := by
  cases bs with
  | nil => exact absurd rfl more
  | cons c bs => rw [literal,if_neg other,if_neg unescaped]

theorem literalPlain (plain : Plain quote escapes v) (closed : rest.head? ≠ some quote) :
    literal quote escapes (v ++ quote :: rest) = some (v,rest) := by
  have ends : literal quote escapes (quote :: rest) = some ([],rest) := by
    cases rest with
    | nil => exact if_pos rfl
    | cons c rest =>
      have other : c ≠ quote := fun same => closed (congrArg some same)
      rw [literal,if_pos rfl,if_neg other]
  induction v using Plain.induct with
  | case1 => exact ends
  | case2 b =>
    obtain ⟨other,unescaped⟩ := plain
    rw [List.singleton_append,literalCons other unescaped (List.cons_ne_nil _ _),ends]
    rfl
  | case3 b c bs past tail =>
    obtain ⟨other,plain⟩ := plain
    by_cases escape : escapes ∧ b = 92
    · rw [if_pos escape] at plain
      have kept : unescape c = [92,c] := by obtain rfl | rfl := plain.1 <;> rfl
      rw [List.cons_append,List.cons_append,literal,if_neg other,if_pos escape,past plain.2,kept,escape.2]
      rfl
    · rw [if_neg escape] at plain
      rw [List.cons_append,literalCons other escape (List.append_ne_nil_of_left_ne_nil (List.cons_ne_nil _ _) _),tail plain]
      rfl

theorem plainUnescaped : Plain quote false v ↔ quote ∉ v := by
  induction v using Plain.induct with
  | case1 => exact iff_of_true trivial List.not_mem_nil
  | case2 b => simp [Plain,eq_comm]
  | case3 b c bs past tail =>
    rw [Plain,if_neg (fun escape => Bool.false_ne_true escape.1),tail]
    constructor
    · rintro ⟨other,none⟩ member
      exact (List.mem_cons.mp member).elim (fun same => other same.symm) none
    · intro none
      exact ⟨fun same => none (same ▸ List.mem_cons_self),fun member => none (List.mem_cons_of_mem b member)⟩

theorem wordCost {free : Bytes → Bool} (read : identifier free bs = some (v,rest)) :
    v.length + rest.length ≤ bs.length ∧ (bs.length = v.length + rest.length → Word free v) := by
  have fewer : (bs.dropWhile isBlank).length ≤ bs.length := (List.dropWhile_suffix isBlank).length_le
  unfold identifier at read
  split at read
  · rename_i quoted start
    rw [start,List.length_cons] at fewer
    have cost := (literalCost read).1
    exact ⟨by omega,fun all => by omega⟩
  · split at read
    · rename_i word
      cases read
      have both := congrArg List.length (List.takeWhile_append_dropWhile (p := isWord) (l := bs.dropWhile isBlank))
      rw [List.length_append] at both
      exact ⟨by omega,fun _ => ⟨word.1,fun b member => List.mem_takeWhile_imp member,word.2⟩⟩
    · cases read

theorem wordStart {b : UInt8} (word : isWord b = true) : isBlank b = false ∧ b ≠ 96 := by
  unfold isWord at word
  unfold isBlank
  simp only [Bool.or_eq_true,Bool.and_eq_true,decide_eq_true_eq,beq_iff_eq,UInt8.le_iff_toNat_le,
    ← UInt8.toNat_inj,Bool.or_eq_false_iff,Bool.and_eq_false_imp,beq_eq_false_iff_ne,ne_eq,decide_eq_false_iff_not,
    UInt8.reduceToNat] at word ⊢
  omega

theorem wordRead {free : Bytes → Bool} (word : Word free v) (closed : ∀ b, rest.head? = some b → isWord b = false) :
    identifier free (v ++ rest) = some (v,rest) := by
  obtain ⟨b,u,rfl⟩ := List.exists_cons_of_ne_nil word.1
  obtain ⟨shown,unquoted⟩ := wordStart (word.2.1 b List.mem_cons_self)
  have stop : rest.takeWhile isWord = [] ∧ rest.dropWhile isWord = rest := by
    cases rest with
    | nil => exact ⟨rfl,rfl⟩
    | cons c rest =>
      have other := closed c rfl
      exact ⟨List.takeWhile_cons_of_neg (ne_true_of_eq_false other),
        List.dropWhile_cons_of_neg (ne_true_of_eq_false other)⟩
  have taken : ((b :: u) ++ rest).takeWhile isWord = b :: u := by
    rw [List.takeWhile_append_of_pos word.2.1,stop.1,List.append_nil]
  have dropped : ((b :: u) ++ rest).dropWhile isWord = rest := by
    rw [List.dropWhile_append_of_pos word.2.1,stop.2]
  have start : ((b :: u) ++ rest).dropWhile isBlank = (b :: u) ++ rest :=
    List.dropWhile_cons_of_neg (ne_true_of_eq_false shown)
  unfold identifier
  rw [start]
  split
  · rename_i quoted same
    exact absurd (List.cons.inj same).1 unquoted
  · rw [taken,dropped,if_pos ⟨List.cons_ne_nil _ _,word.2.2⟩]

end Literals

section Templates
variable {parts : List Part} {bs : Bytes} {values : List Bytes}

theorem stopsHead {kind : UInt8 → Bool} (stops : Stops kind parts) (values : List Bytes) :
    ∀ b, (compose parts values).head? = some b → kind b = false := by
  intro b head
  cases parts with
  | nil => cases head
  | cons part parts =>
    cases part with
    | fixed text =>
      cases text with
      | nil => exact stops.elim
      | cons c text =>
        cases head
        exact stops
    | literal quote escapes => exact stops.elim
    | word free => exact stops.elim

/-- What is read takes up no more than the statement, and as much only where it was filled in
as it is. -/
theorem readCost (result : read parts bs = some values) :
    (compose parts values).length ≤ bs.length ∧ (bs.length = (compose parts values).length → Verbatim parts values) := by
  induction parts generalizing bs values with
  | nil =>
    rw [read] at result
    split at result
    · cases result
      exact ⟨Nat.zero_le _,fun _ => rfl⟩
    · cases result
  | cons part parts ih =>
    obtain ⟨⟨own,rest⟩,first,result⟩ := Option.bind_eq_some_iff.mp result
    obtain ⟨others,later,rfl⟩ := Option.map_eq_some_iff.mp result
    obtain ⟨cost,verbatim⟩ := ih later
    cases part with
    | fixed text =>
      rw [Part.read] at first
      split at first
      · rename_i start
        cases first
        have longer := start.length_le
        rw [List.length_drop] at cost verbatim
        simp only [List.nil_append,compose,List.length_append]
        exact ⟨by omega,fun all => verbatim (by omega)⟩
      · cases first
    | literal quote escapes =>
      obtain ⟨⟨v,r⟩,inner,same⟩ := Option.map_eq_some_iff.mp first
      cases same
      obtain ⟨less,plain⟩ := literalCost inner
      dsimp only at cost verbatim
      simp only [List.singleton_append,compose,List.length_append,List.length_cons]
      exact ⟨by omega,fun all => ⟨plain (by omega),verbatim (by omega)⟩⟩
    | word free =>
      obtain ⟨⟨v,r⟩,inner,same⟩ := Option.map_eq_some_iff.mp first
      cases same
      obtain ⟨less,word⟩ := wordCost inner
      dsimp only at cost verbatim
      simp only [List.singleton_append,compose,List.length_append]
      exact ⟨by omega,fun all => ⟨word (by omega),verbatim (by omega)⟩⟩

theorem verbatimRead (apart : Apart parts) (verbatim : Verbatim parts values) :
    read parts (compose parts values) = some values := by
  induction parts generalizing values with
  | nil =>
    cases verbatim
    rfl
  | cons part parts ih =>
    cases part with
    | fixed text =>
      rw [compose,read,Part.read,if_pos (List.prefix_append _ _),Option.bind_some,List.drop_left,ih apart verbatim]
      rfl
    | literal quote escapes =>
      cases values with
      | nil => exact verbatim.elim
      | cons v values =>
        have closed : (compose parts values).head? ≠ some quote :=
          fun head => absurd (stopsHead apart.1 values quote head) (by simp)
        rw [compose,read,Part.read,literalPlain verbatim.1 closed,Option.map_some,Option.bind_some,ih apart.2 verbatim.2]
        rfl
    | word free =>
      cases values with
      | nil => exact verbatim.elim
      | cons v values =>
        rw [compose,read,Part.read,wordRead verbatim.1 (stopsHead apart.1 values),Option.map_some,Option.bind_some,
          ih apart.2 verbatim.2]
        rfl

/-- Texts filled into a template are read back exactly when each of them stands for itself. -/
theorem composedReads (apart : Apart parts) :
    read parts (compose parts values) = some values ↔ Verbatim parts values :=
  ⟨fun result => (readCost result).2 rfl,verbatimRead apart⟩

end Templates
end Foundation.Template
