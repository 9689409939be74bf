import DatabaseLayer.ConnectionGrammar

/-! copyStripped with the calls it makes to isspace. Beyond the values of an unsigned char and
EOF that function may answer anything, and a byte is passed to it as a signed char. -/
namespace DatabaseLayer.Stripping
open Platform ConnectionString Foundation.Segments

/-- The values isspace is defined for; EOF is -1. -/
def InDomain (c : Int) : Prop := -1 ≤ c ∧ c ≤ 255

instance (c : Int) : Decidable (InDomain c) := by unfold InDomain; infer_instance

structure CType where
  isspace : Int → Bool
  conforms : ∀ c, InDomain c → isspace c = Platform.isspace c

/-- The position where a loop stops, and the positions it looked at. -/
structure Course where
  stop : Nat
  looked : List Nat
  deriving DecidableEq, Repr

def Course.looking (i : Nat) (c : Course) : Course := ⟨c.stop,i :: c.looked⟩

section Loops
variable (ctype : CType) (s : List UInt8) (start : Nat)

/-- `while ((from != to) && isspace(*from)) from++;` with `to` n places ahead. -/
def leading (ctype : CType) (s : List UInt8) (start : Nat) : Nat → Course
  | 0 => ⟨start,[]⟩
  | n + 1 => match s[start]? with
    | some b => if ctype.isspace (signedChar b) then (leading ctype s (start + 1) n).looking start else ⟨start,[start]⟩
    | none => ⟨start,[start]⟩

/-- `while ((from != to) && isspace(*(to - 1))) to--;` with `to` n places ahead. -/
def trailing : Nat → Course
  | 0 => ⟨start,[]⟩
  | n + 1 => match s[start + n]? with
    | some b => if ctype.isspace (signedChar b) then (trailing n).looking (start + n) else ⟨start + n + 1,[start + n]⟩
    | none => ⟨start + n + 1,[start + n]⟩

structure Strip where
  begins : Nat
  ends : Nat
  looked : List Nat
  deriving DecidableEq, Repr

def copyStripped (first last : Nat) : Strip :=
  let l := leading ctype s first (last - first)
  let t := trailing ctype s l.stop (last - l.stop)
  ⟨l.stop,t.stop,l.looked ++ t.looked⟩

def between (first last : Nat) : List UInt8 := (s.drop first).take (last - first)

def result (first last : Nat) : List UInt8 :=
  between s (copyStripped ctype s first last).begins (copyStripped ctype s first last).ends

end Loops

/-- All that was looked at is a byte that isspace is defined for. -/
def Defined (s : List UInt8) (looked : List Nat) : Prop := ∀ i ∈ looked, ∃ b ∈ s[i]?, InDomain (signedChar b)

instance (s looked) : Decidable (Defined s looked) := by unfold Defined; infer_instance

/-- What copyStripped should do on a range. -/
structure Exact (ctype : CType) (s : List UInt8) (first last : Nat) : Prop where
  domain : Defined s (copyStripped ctype s first last).looked
  inside : ∀ i ∈ (copyStripped ctype s first last).looked, first ≤ i ∧ i < last
  kept : first ≤ (copyStripped ctype s first last).begins ∧
    (copyStripped ctype s first last).begins ≤ (copyStripped ctype s first last).ends ∧
    (copyStripped ctype s first last).ends ≤ last
  longest : Longest blank (between s first last) (result ctype s first last)
  again : result ctype (result ctype s first last) 0 (result ctype s first last).length = result ctype s first last

/-- ASCII, or the byte that is EOF as a signed char. -/
def Fine (b : UInt8) : Prop := b < 128 ∨ b = 255

/-- The first and the last byte of a range that are not white space. -/
def firstText (part : List UInt8) : Option UInt8 := part.find? (fun b => !blank b)
def lastText (part : List UInt8) : Option UInt8 := part.reverse.find? (fun b => !blank b)

def FineText (found : Option UInt8) : Prop := ∀ b, found = some b → Fine b

/-- Neither loop ends at a byte from 0x80 to 0xFE. -/
def Edges (part : List UInt8) : Prop := FineText (firstText part) ∧ FineText (lastText part)

section Bytes
variable {b : UInt8}

theorem fineIff : InDomain (signedChar b) ↔ Fine b := by
  have limit := b.toNat_lt
  rw [Fine,UInt8.lt_iff_toNat_lt,← UInt8.toNat_inj,InDomain,signedChar]
  simp only [UInt8.reduceToNat]
  split <;> omega

theorem blankFine (white : blank b = true) : Fine b := by
  rw [← fineIff]
  simp only [blank,isspace,Bool.or_eq_true,Bool.and_eq_true,beq_iff_eq,decide_eq_true_eq] at white
  unfold InDomain
  omega

theorem classified (ctype : CType) (fine : Fine b) : ctype.isspace (signedChar b) = blank b :=
  ctype.conforms _ (fineIff.mpr fine)

end Bytes

section Scans
variable {ctype : CType} {s : List UInt8} {start n : Nat}

theorem definedCons {i : Nat} {looked : List Nat} {b : UInt8} (here : s[i]? = some b) :
    Defined s (i :: looked) ↔ Fine b ∧ Defined s looked := by
  rw [Defined,List.forall_mem_cons,here]
  refine and_congr ⟨?_,fun fine => ⟨b,rfl,fineIff.mpr fine⟩⟩ Iff.rfl
  rintro ⟨_,same,domain⟩
  cases same
  exact fineIff.mp domain

theorem definedNil : Defined s [] := nofun

theorem firstCons (b : UInt8) (part : List UInt8) :
    firstText (b :: part) = if blank b = true then firstText part else some b := by
  rw [firstText,List.find?_cons]
  cases blank b <;> rfl

theorem lastConcat (b : UInt8) (part : List UInt8) :
    lastText (part ++ [b]) = if blank b = true then lastText part else some b := by
  rw [lastText,List.reverse_append,List.reverse_singleton,List.singleton_append,List.find?_cons]
  cases blank b <;> rfl

theorem fineSome {b : UInt8} : FineText (some b) ↔ Fine b :=
  ⟨fun fine => fine b rfl,fun fine _ same => Option.some.inj same ▸ fine⟩

/-- One look at a byte: past white space a loop goes on, at anything else it stops, if it may
look at it. -/
theorem lookDefined {b : UInt8} {i stop : Nat} {rest : Course} {text : Option UInt8} {next : Nat} (here : s[i]? = some b)
    (tail : (Defined s rest.looked ↔ FineText text) ∧ (Defined s rest.looked → rest.stop = next)) :
    let course := if ctype.isspace (signedChar b) then rest.looking i else ⟨stop,[i]⟩
    (Defined s course.looked ↔ FineText (if blank b = true then text else some b)) ∧
      (Defined s course.looked → course.stop = if blank b = true then next else stop) := by
  dsimp only
  by_cases white : blank b = true
  · rw [if_pos ((classified ctype (blankFine white)).trans white),if_pos white,if_pos white,Course.looking,
      definedCons here,and_iff_right (blankFine white)]
    exact tail
  · rw [if_neg white,if_neg white,fineSome]
    by_cases fine : Fine b
    · rw [if_neg (by rwa [classified ctype fine]),definedCons here]
      exact ⟨and_iff_left definedNil,fun _ => rfl⟩
    · have refused : ¬ Defined s (if ctype.isspace (signedChar b) then rest.looking i else ⟨stop,[i]⟩).looked := by
        split
        · exact fun defined => fine ((definedCons here).mp defined).1
        · exact fun defined => fine ((definedCons here).mp defined).1
      exact ⟨iff_of_false refused fine,fun defined => absurd defined refused⟩

variable (ctype) in
/-- The leading loop is defined exactly if the byte it ends at is one it may look at, and then it
is the loop of an isspace that is defined everywhere. -/
theorem leadingDefined (inside : start + n ≤ s.length) :
    (Defined s (leading ctype s start n).looked ↔ FineText (firstText ((s.drop start).take n))) ∧
    (Defined s (leading ctype s start n).looked → (leading ctype s start n).stop = skipLeading s start n) := by
  induction n generalizing start with
  | zero => exact ⟨iff_of_true definedNil nofun,fun _ => rfl⟩
  | succ n ih =>
    have below : start < s.length := by omega
    have here : s[start]? = some s[start] := List.getElem?_eq_getElem below
    rw [leading,skipLeading,here,List.drop_eq_getElem_cons below,List.take_succ_cons,firstCons]
    exact lookDefined here (ih (by omega))

variable (ctype) in
theorem trailingDefined (inside : start + n ≤ s.length) :
    (Defined s (trailing ctype s start n).looked ↔ FineText (lastText ((s.drop start).take n))) ∧
    (Defined s (trailing ctype s start n).looked → (trailing ctype s start n).stop = skipTrailing s start n) := by
  induction n with
  | zero => exact ⟨iff_of_true definedNil nofun,fun _ => rfl⟩
  | succ n ih =>
    have below : start + n < s.length := by omega
    have here : s[start + n]? = some s[start + n] := List.getElem?_eq_getElem below
    have last : (s.drop start)[n]? = some s[start + n] := by rw [List.getElem?_drop,here]
    rw [trailing,skipTrailing,here,List.take_add_one,last,Option.toList_some,lastConcat]
    exact lookDefined here (ih (by omega))

structure Within (first last : Nat) (c : Course) : Prop where
  looked : ∀ i ∈ c.looked, first ≤ i ∧ i < last
  low : first ≤ c.stop
  high : c.stop ≤ last

theorem withinOnce {first last i stop : Nat} (here : first ≤ i ∧ i < last) (low : first ≤ stop) (high : stop ≤ last) :
    Within first last ⟨stop,[i]⟩ :=
  ⟨fun _ only => List.mem_singleton.mp only ▸ here,low,high⟩

theorem withinLooking {c : Course} {first last later earlier i : Nat} (rest : Within later earlier c)
    (here : first ≤ i ∧ i < last) (low : first ≤ later) (high : earlier ≤ last) : Within first last (c.looking i) := by
  obtain ⟨looked,begins,ends⟩ := rest
  refine ⟨fun j there => ?_,low.trans begins,ends.trans high⟩
  obtain rfl | later := List.mem_cons.mp there
  · exact here
  · have inside := looked j later
    omega

variable (ctype s start n) in
theorem leadingWithin : Within start (start + n) (leading ctype s start n) := by
  induction n generalizing start with
  | zero => exact ⟨nofun,Nat.le_refl _,Nat.le_refl _⟩
  | succ n ih =>
    rw [leading]
    cases s[start]? with
    | none => exact withinOnce (by omega) (by omega) (by omega)
    | some b =>
      dsimp only
      split
      · exact withinLooking (ih (start + 1)) (by omega) (by omega) (by omega)
      · exact withinOnce (by omega) (by omega) (by omega)

variable (ctype s start n) in
theorem trailingWithin : Within start (start + n) (trailing ctype s start n) := by
  induction n with
  | zero => exact ⟨nofun,Nat.le_refl _,Nat.le_refl _⟩
  | succ n ih =>
    rw [trailing]
    cases s[start + n]? with
    | none => exact withinOnce (by omega) (by omega) (by omega)
    | some b =>
      dsimp only
      split
      · exact withinLooking ih (by omega) (by omega) (by omega)
      · exact withinOnce (by omega) (by omega) (by omega)

end Scans

theorem edgesStrip {part : List UInt8} : Edges (strip blank part) ↔ Edges part := by
  unfold Edges firstText lastText
  rw [findStrip,findLastStrip]

theorem betweenAll (s : List UInt8) : between s 0 s.length = s := by
  rw [between,List.drop_zero,Nat.sub_zero,List.take_length]

section Ranges
variable (ctype : CType) {s : List UInt8} {first last : Nat} (low : first ≤ last)
include low

/-- The iterators stay in the range, whatever isspace answers. -/
theorem strippedWithin : (∀ i ∈ (copyStripped ctype s first last).looked, first ≤ i ∧ i < last) ∧
    first ≤ (copyStripped ctype s first last).begins ∧
    (copyStripped ctype s first last).begins ≤ (copyStripped ctype s first last).ends ∧
    (copyStripped ctype s first last).ends ≤ last := by
  obtain ⟨looked,least,begins⟩ := leadingWithin ctype s first (last - first)
  generalize course : leading ctype s first (last - first) = l at looked least begins
  obtain ⟨later,ends,most⟩ := trailingWithin ctype s l.stop (last - l.stop)
  unfold copyStripped
  dsimp only
  rw [course]
  refine ⟨fun i there => ?_,least,ends,by omega⟩
  obtain there | there := List.mem_append.mp there
  · have inside := looked i there
    omega
  · have inside := later i there
    omega

variable (high : last ≤ s.length)
include high

theorem betweenRest : between s (skipLeading s first (last - first)) last = (between s first last).dropWhile blank := by
  rw [skipLeadingTaken (by omega)]
  change between s (first + ((between s first last).takeWhile blank).length) last = _
  have dropped : (between s first last).drop ((between s first last).takeWhile blank).length =
      (between s first last).dropWhile blank := by
    nth_rewrite 2 [← List.takeWhile_append_dropWhile (p := blank) (l := between s first last)]
    exact List.drop_left
  rw [← dropped,between,between,List.drop_take,List.drop_drop,Nat.sub_add_eq]

theorem skipLeadingWithin : first ≤ skipLeading s first (last - first) ∧ skipLeading s first (last - first) ≤ last := by
  have shorter := (List.takeWhile_sublist blank (l := between s first last)).length_le
  rw [skipLeadingTaken (by omega)]
  change first ≤ first + ((between s first last).takeWhile blank).length ∧
    first + ((between s first last).takeWhile blank).length ≤ last
  rw [between,List.length_take,List.length_drop] at shorter
  rw [between]
  omega

theorem definedIff : Defined s (copyStripped ctype s first last).looked ↔ Edges (between s first last) := by
  have whole : first + (last - first) ≤ s.length := by omega
  obtain ⟨_,within⟩ := skipLeadingWithin low high
  have rest : skipLeading s first (last - first) + (last - skipLeading s first (last - first)) ≤ s.length := by omega
  obtain ⟨begins,stop⟩ := leadingDefined ctype whole
  refine List.forall_mem_append.trans ?_
  rw [Edges,between,← begins]
  refine and_congr_right fun defined => ?_
  rw [stop defined]
  refine (trailingDefined ctype rest).1.trans ?_
  rw [← between,betweenRest low high,lastText,findLastDropped]
  rfl

/-- Where isspace is defined for all that is looked at, the loops are those of the model that
takes it to be defined everywhere. -/
theorem definedStops (defined : Defined s (copyStripped ctype s first last).looked) :
    let begins := skipLeading s first (last - first)
    (copyStripped ctype s first last).begins = begins ∧
      (copyStripped ctype s first last).ends = skipTrailing s begins (last - begins) := by
  intro begins
  have whole : first + (last - first) ≤ s.length := by omega
  obtain ⟨_,within⟩ := skipLeadingWithin low high
  have rest : begins + (last - begins) ≤ s.length := by omega
  obtain ⟨lead,trail⟩ := List.forall_mem_append.mp defined
  have stop : (leading ctype s first (last - first)).stop = begins := (leadingDefined ctype whole).2 lead
  rw [stop] at trail
  refine ⟨stop,?_⟩
  unfold copyStripped
  dsimp only
  rw [stop]
  exact (trailingDefined ctype rest).2 trail

theorem resultStripped (edges : Edges (between s first last)) :
    result ctype s first last = strip blank (between s first last) := by
  obtain ⟨begins,ends⟩ := definedStops ctype low high ((definedIff ctype low high).mpr edges)
  obtain ⟨_,within⟩ := skipLeadingWithin low high
  rw [skipTrailingTaken (by omega)] at ends
  change _ = _ + ((between s (skipLeading s first (last - first)) last).rdropWhile blank).length at ends
  have start := (List.rdropWhile_prefix blank (between s (skipLeading s first (last - first)) last)).trans
    (List.take_prefix _ _)
  rw [strip,← betweenRest low high,List.prefix_iff_eq_take.mp start,result,begins,ends,between,Nat.add_sub_cancel_left]

theorem copyStrippedSame (edges : Edges (between s first last)) :
    ConnectionString.copyStripped s first last = some (.ofBytes (result ctype s first last)) := by
  rw [copyStrippedApply low high,resultStripped ctype low high edges]
  rfl

theorem exactIff : Exact ctype s first last ↔ Edges (between s first last) := by
  constructor
  · exact fun exact => (definedIff ctype low high).mp exact.domain
  · intro edges
    have stripped := resultStripped ctype low high edges
    obtain ⟨inside,kept⟩ := strippedWithin ctype (s := s) low
    refine ⟨(definedIff ctype low high).mpr edges,inside,kept,stripped ▸ stripLongest _,?_⟩
    rw [stripped]
    have ends : Edges (between (strip blank (between s first last)) 0 (strip blank (between s first last)).length) := by
      rwa [betweenAll,edgesStrip]
    rw [resultStripped ctype (Nat.zero_le _) (Nat.le_refl _) ends,betweenAll,stripSelf (stripStripped _)]

end Ranges

/-- The ranges the parsing loop hands to copyStripped, key and value by turns. -/
def passedFrom (s : List UInt8) : Nat → Nat → List (Nat × Nat)
  | 0,_ => []
  | fuel + 1,start =>
    let finish := find s start s.length 59
    let middle := find s start finish 61
    if middle = finish then []
    else (start,middle) :: (middle + 1,finish) ::
      if finish < s.length then passedFrom s fuel (finish + 1) else []

def passed (szConnectionString : CString) : List (Nat × Nat) :=
  passedFrom szConnectionString.bytes (szConnectionString.strlen + 1) 0

/-- The parsing loop, over any answers of copyStripped. -/
def parseFromWith (copies : Nat → Nat → Option CString) (s : List UInt8) : Nat → Nat → Options → Except MySQLClient.Stop Options
  | 0,_,_ => .error .undefined
  | fuel + 1,start,options =>
    let finish := find s start s.length 59
    let middle := find s start finish 61
    if middle = finish then .error badFormat
    else match copies start middle,copies (middle + 1) finish with
      | some key,some value =>
        let options := options.set key value
        if finish = s.length then .ok options
        else if finish < s.length then parseFromWith copies s fuel (finish + 1) options
        else .error .undefined
      | _,_ => .error .undefined

/-- What is returned, where isspace is defined for all that is looked at. -/
def definedCopy (ctype : CType) (s : List UInt8) (first last : Nat) : Option CString :=
  if Defined s (copyStripped ctype s first last).looked then some (.ofBytes (result ctype s first last)) else none

section Parser
variable {s : List UInt8} {fuel start : Nat} {o : Options}

theorem parseFromModel (fuel start : Nat) (o : Options) :
    parseFromWith (ConnectionString.copyStripped s) s fuel start o = parseFrom s fuel start o := by
  induction fuel generalizing start o with
  | zero => rfl
  | succ fuel ih =>
    unfold parseFromWith parseFrom
    dsimp only
    split
    · rfl
    · cases ConnectionString.copyStripped s start (find s start (find s start s.length 59) 61) with
      | none => rfl
      | some key =>
        cases ConnectionString.copyStripped s (find s start (find s start s.length 59) 61 + 1) (find s start s.length 59) with
        | none => rfl
        | some value => simp only [ih]

theorem findWithin {first last : Nat} (low : first ≤ last) (high : last ≤ s.length) (c : UInt8) :
    first ≤ find s first last c ∧ find s first last c ≤ last := by
  have bound : ((s.drop first).take (last - first)).findIdx (· == c) ≤ ((s.drop first).take (last - first)).length :=
    List.findIdx_le_length
  rw [List.length_take,List.length_drop] at bound
  unfold find
  omega

theorem passedCases {range : Nat × Nat} (passes : range ∈ passedFrom s (fuel + 1) start) :
    let finish := find s start s.length 59
    let middle := find s start finish 61
    middle ≠ finish ∧ (range = (start,middle) ∨ range = (middle + 1,finish) ∨
      finish < s.length ∧ range ∈ passedFrom s fuel (finish + 1)) := by
  intro finish middle
  rw [passedFrom] at passes
  by_cases bad : middle = finish
  · rw [if_pos bad] at passes
    cases passes
  · rw [if_neg bad,List.mem_cons,List.mem_cons] at passes
    refine ⟨bad,passes.imp_right (.imp_right fun later => ?_)⟩
    split at later
    · rename_i more
      exact ⟨more,later⟩
    · cases later

theorem passedInside {range : Nat × Nat} (low : start ≤ s.length) (passes : range ∈ passedFrom s fuel start) :
    range.1 ≤ range.2 ∧ range.2 ≤ s.length := by
  induction fuel generalizing start with
  | zero => cases passes
  | succ fuel ih =>
    obtain ⟨begins,ends⟩ := findWithin (s := s) low (Nat.le_refl _) 59
    obtain ⟨first,last⟩ := findWithin (s := s) begins ends 61
    obtain ⟨found,rfl | rfl | ⟨more,later⟩⟩ := passedCases passes
    · exact ⟨first,last.trans ends⟩
    · exact ⟨by dsimp only; omega,ends⟩
    · exact ih (by omega) later

/-- The loop depends on the ranges it passes only. -/
theorem parseFromAgree {copies others : Nat → Nat → Option CString}
    (agree : ∀ range ∈ passedFrom s fuel start, copies range.1 range.2 = others range.1 range.2) :
    parseFromWith copies s fuel start o = parseFromWith others s fuel start o := by
  induction fuel generalizing start o with
  | zero => rfl
  | succ fuel ih =>
    rw [passedFrom] at agree
    rw [parseFromWith,parseFromWith]
    dsimp only at agree ⊢
    by_cases bad : find s start (find s start s.length 59) 61 = find s start s.length 59
    · rw [if_pos bad,if_pos bad]
    · rw [if_neg bad,List.forall_mem_cons,List.forall_mem_cons] at agree
      obtain ⟨key,value,later⟩ := agree
      rw [if_neg bad,if_neg bad,key,value]
      by_cases more : find s start s.length 59 < s.length
      · rw [if_pos more] at later
        simp only [ih later]
      · simp only [if_neg more]

theorem parseFromNeeds {copies : Nat → Nat → Option CString} {range : Nat × Nat}
    (passes : range ∈ passedFrom s fuel start) (none : copies range.1 range.2 = none) :
    parseFromWith copies s fuel start o = .error .undefined := by
  induction fuel generalizing start o with
  | zero => rfl
  | succ fuel ih =>
    obtain ⟨good,here⟩ := passedCases passes
    rw [parseFromWith,if_neg good]
    cases key : copies start (find s start (find s start s.length 59) 61) with
    | none => rfl
    | some name =>
      cases value : copies (find s start (find s start s.length 59) 61 + 1) (find s start s.length 59) with
      | none => rfl
      | some text =>
        obtain rfl | rfl | ⟨more,later⟩ := here
        · rw [key] at none
          cases none
        · rw [value] at none
          cases none
        · dsimp only
          rw [if_neg (Nat.ne_of_lt more),if_pos more]
          exact ih later

end Parser

section Strings
variable (ctype : CType)

/-- The loop over the isspace there is, going nowhere that it is not defined. -/
def parse (szConnectionString : CString) : Except MySQLClient.Stop Options :=
  parseFromWith (definedCopy ctype szConnectionString.bytes) szConnectionString.bytes (szConnectionString.strlen + 1) 0
    defaults

/-- The parser that takes isspace to be defined everywhere is right about every string on which
the other one is defined. -/
theorem parseDefined (szConnectionString : CString) : parse ctype szConnectionString =
    if ∀ range ∈ passed szConnectionString, Defined szConnectionString.bytes
      (copyStripped ctype szConnectionString.bytes range.1 range.2).looked then
      ConnectionString.parse szConnectionString else .error .undefined := by
  unfold parse
  split
  · rename_i defined
    refine (parseFromAgree fun range passes => ?_).trans (parseFromModel _ _ _)
    obtain ⟨low,high⟩ := passedInside (Nat.zero_le _) passes
    have edges := (definedIff ctype low high).mp (defined range passes)
    rw [definedCopy,if_pos (defined range passes),copyStrippedSame ctype low high edges]
  · rename_i undefined
    push Not at undefined
    obtain ⟨range,passes,here⟩ := undefined
    exact parseFromNeeds passes (if_neg here)

/-- On a range the parser passes, copyStripped does what it should exactly when neither loop ends
at a byte from 0x80 to 0xFE. -/
theorem exactIffEdges (szConnectionString : CString) (range : Nat × Nat) (passes : range ∈ passed szConnectionString) :
    Exact ctype szConnectionString.bytes range.1 range.2 ↔ Edges (between szConnectionString.bytes range.1 range.2) := by
  obtain ⟨low,high⟩ := passedInside (Nat.zero_le _) passes
  exact exactIff ctype low high

end Strings

def lenient : CType := ⟨isspace,fun _ _ => rfl⟩

theorem exactIffEdgesKey : Exact lenient (text "user = x").bytes 0 5 ↔ Edges (between (text "user = x").bytes 0 5) :=
  exactIffEdges lenient (text "user = x") (0,5) (by decide +kernel)

/-- A user whose name begins with an e acute in UTF-8. -/
def accented : CString := text "user=" ++ .ofBytes [195,169]

theorem accentedUndefined : ¬ ∀ ctype szConnectionString, ∀ range ∈ passed szConnectionString,
    Exact ctype szConnectionString.bytes range.1 range.2 := by
  intro all
  have domain := (all lenient accented (5,7) (by decide +kernel)).domain
  exact absurd domain (by decide +kernel)

end DatabaseLayer.Stripping
