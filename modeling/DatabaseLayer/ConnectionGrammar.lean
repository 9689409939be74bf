import DatabaseLayer.ConnectionString
import DatabaseLayer.Foundation.Segments

/-! What the parsing loop accepts: segments between semicolons, each a key and a value
around its first equals sign, both stripped of white space. -/
namespace DatabaseLayer.ConnectionString
open Platform MySQLClient Foundation.Segments

def blank (b : UInt8) : Bool := isspace (signedChar b)

section Loops
variable {s : List UInt8}

theorem skipLeadingTaken {start n : Nat} (inside : start + n ≤ s.length) :
    skipLeading s start n = start + (((s.drop start).take n).takeWhile blank).length := by
  induction n generalizing start with
  | zero => rfl
  | succ n ih =>
    have below : start < s.length := by omega
    rw [skipLeading,List.getElem?_eq_getElem below,List.drop_eq_getElem_cons below,List.take_succ_cons]
    change (if blank s[start] = true then _ else _) = _
    by_cases skips : blank s[start] = true
    · rw [if_pos skips,ih (by omega),List.takeWhile_cons_of_pos skips,List.length_cons]
      omega
    · rw [if_neg skips,List.takeWhile_cons_of_neg skips,List.length_nil,Nat.add_zero]

theorem skipTrailingTaken {start n : Nat} (inside : start + n ≤ s.length) :
    skipTrailing s start n = start + (((s.drop start).take n).rdropWhile blank).length := by
  induction n with
  | zero => rfl
  | succ n ih =>
    have below : start + n < s.length := by omega
    have last : (s.drop start)[n]? = some s[start + n] := by
      rw [List.getElem?_drop,List.getElem?_eq_getElem below]
    rw [skipTrailing,List.getElem?_eq_getElem below,List.take_add_one,last,Option.toList_some]
    change (if blank s[start + n] = true then _ else _) = _
    by_cases skips : blank s[start + n] = true
    · rw [if_pos skips,ih (by omega),List.rdropWhile_concat_pos _ _ _ skips]
    · rw [if_neg skips,List.rdropWhile_concat_neg _ _ _ skips,List.length_append,List.length_singleton,
        List.length_take,List.length_drop]
      omega

theorem copyStrippedApply {first last : Nat} (low : first ≤ last) (high : last ≤ s.length) :
    copyStripped s first last = some (.ofBytes (strip blank ((s.drop first).take (last - first)))) := by
  have range : first ≤ last ∧ last ≤ s.length := ⟨low,high⟩
  rw [copyStripped,if_pos range,skipLeadingTaken (by omega)]
  generalize same : ((s.drop first).take (last - first)) = part
  have length : part.length = last - first := by
    rw [← same,List.length_take,List.length_drop]
    omega
  have skipped := (List.takeWhile_sublist blank (l := part)).length_le
  have rest : (s.drop (first + (part.takeWhile blank).length)).take
      (last - (first + (part.takeWhile blank).length)) = part.dropWhile blank := by
    have dropped : part.drop (part.takeWhile blank).length = part.dropWhile blank := by
      nth_rewrite 2 [← List.takeWhile_append_dropWhile (p := blank) (l := part)]
      exact List.drop_left
    rw [← dropped,← same,List.drop_take,List.drop_drop,same]
    congr 1
    omega
  dsimp only
  rw [skipTrailingTaken (by omega),rest,Nat.add_sub_cancel_left,strip]
  obtain ⟨tail,whole⟩ := List.rdropWhile_prefix blank (part.dropWhile blank)
  have shown : (s.drop (first + (part.takeWhile blank).length)).take
      ((part.dropWhile blank).rdropWhile blank).length = (part.dropWhile blank).rdropWhile blank := by
    have shorter := congrArg (List.take ((part.dropWhile blank).rdropWhile blank).length) rest
    rw [List.take_take] at shorter
    have least := congrArg List.length whole
    have most := congrArg List.length rest
    rw [List.length_append] at least
    rw [List.length_take] at most
    rw [Nat.min_eq_left (by omega)] at shorter
    rw [shorter]
    nth_rewrite 2 [← whole]
    exact List.take_left
  rw [shown]

end Loops

def segments (s : CString) : List (List UInt8) := s.bytes.splitOn 59

/-- The key and the value around the first equals sign of a segment. -/
def pairOf (segment : List UInt8) : CString × CString :=
  (.ofBytes (strip blank (before 61 segment)),.ofBytes (strip blank (after 61 segment)))

/-- Later pairs override earlier ones. -/
def Options.overridden (o : Options) (pairs : List (CString × CString)) : Options :=
  pairs.foldl (fun o pair => o.set pair.1 pair.2) o

def readSegments (parts : List (List UInt8)) (o : Options) : Except Stop Options :=
  if ∃ segment ∈ parts, 61 ∉ segment then .error badFormat else .ok (o.overridden (parts.map pairOf))

section Parsing
variable {s : List UInt8} {start : Nat} {o : Options}

theorem readSegmentsBad {segment : List UInt8} {parts : List (List UInt8)} (bad : 61 ∉ segment) :
    readSegments (segment :: parts) o = .error badFormat :=
  if_pos ⟨segment,List.mem_cons_self,bad⟩

theorem readSegmentsGood {segment : List UInt8} {parts : List (List UInt8)} (good : 61 ∈ segment) :
    readSegments (segment :: parts) o = readSegments parts (o.set (pairOf segment).1 (pairOf segment).2) := by
  simp only [readSegments,List.exists_mem_cons_iff,not_not.mpr good,false_or,List.map_cons,
    Options.overridden,List.foldl_cons]

theorem segmentFound (low : start ≤ s.length) :
    find s start s.length 59 = start + (before 59 (s.drop start)).length ∧
    (s.drop start).take (find s start s.length 59 - start) = before 59 (s.drop start) ∧
    find s start s.length 59 ≤ s.length := by
  have whole : (s.drop start).take (s.length - start) = s.drop start :=
    List.take_of_length_le (by rw [List.length_drop])
  have found : find s start s.length 59 = start + (s.drop start).findIdx (· == 59) := by
    rw [find,whole]
  have bound : (s.drop start).findIdx (· == 59) ≤ (s.drop start).length := List.findIdx_le_length
  have taken : (before 59 (s.drop start)).length = (s.drop start).findIdx (· == 59) := by
    rw [← takeIndex,List.length_take,Nat.min_eq_left bound]
  refine ⟨by rw [found,taken],?_,?_⟩
  · rw [found,Nat.add_sub_cancel_left]
    exact takeIndex
  · rw [List.length_drop] at bound
    omega

theorem middleFound {finish : Nat} {segment : List UInt8} (low : start ≤ finish) (high : finish ≤ s.length)
    (part : (s.drop start).take (finish - start) = segment) :
    let middle := find s start finish 61
    (middle = finish ↔ 61 ∉ segment) ∧ (61 ∈ segment →
      copyStripped s start middle = some (pairOf segment).1 ∧
      copyStripped s (middle + 1) finish = some (pairOf segment).2) := by
  have length : segment.length = finish - start := by
    rw [← part,List.length_take,List.length_drop]
    omega
  have found : find s start finish 61 = start + segment.findIdx (· == 61) := by rw [find,part]
  have bound : segment.findIdx (· == 61) ≤ segment.length := List.findIdx_le_length
  intro middle
  have place : middle = start + segment.findIdx (· == 61) := found
  refine ⟨?_,fun good => ?_⟩
  · rw [← indexOfAbsent]
    omega
  · have inside : segment.findIdx (· == 61) < segment.length :=
      lt_of_le_of_ne bound fun same => indexOfAbsent.mp same good
    have shorter : (s.drop start).take (middle - start) = segment.take (middle - start) := by
      rw [← part,List.take_take,Nat.min_eq_left (by omega)]
    have key : (s.drop start).take (middle - start) = before 61 segment := by
      rw [shorter,place,Nat.add_sub_cancel_left]
      exact takeIndex
    have value : (s.drop (middle + 1)).take (finish - (middle + 1)) = after 61 segment := by
      rw [← dropIndex,← part,List.drop_take,List.drop_drop,part]
      congr 1
      · omega
      · congr 1
        omega
    rw [copyStrippedApply (by omega) (by omega),copyStrippedApply (by omega) (by omega),key,value]
    exact ⟨rfl,rfl⟩

/-- The induction is on the rounds left; what is left of the string carries it. -/
theorem parseFromSegments {fuel : Nat} (low : start ≤ s.length) (rounds : s.length - start < fuel) :
    parseFrom s fuel start o = readSegments ((s.drop start).splitOn 59) o := by
  induction fuel generalizing start o with
  | zero => omega
  | succ fuel ih =>
    obtain ⟨finish,part,high⟩ := segmentFound low
    obtain ⟨bad,copies⟩ := middleFound (by omega) high part
    rw [parseFrom]
    by_cases last : 59 ∈ s.drop start
    · have cut := beforeAfter last
      have whole := congrArg List.length cut
      rw [List.length_append,List.length_cons,List.length_drop] at whole
      rw [splitOnFirst last]
      by_cases good : 61 ∈ before 59 (s.drop start)
      · have goes : ¬ find s start s.length 59 = s.length := by omega
        have below : find s start s.length 59 < s.length := by omega
        have rest : s.drop (find s start s.length 59 + 1) = after 59 (s.drop start) := by
          rw [← dropIndex,List.drop_drop,finish,← takeIndex,List.length_take,
            Nat.min_eq_left List.findIdx_le_length,Nat.add_assoc]
        dsimp only
        rw [if_neg (fun same => bad.mp same good),(copies good).1,(copies good).2]
        dsimp only
        rw [if_neg goes,if_pos below,ih (by omega) (by omega),rest,readSegmentsGood good]
      · dsimp only
        rw [if_pos (bad.mpr good),readSegmentsBad good]
    · have ends : find s start s.length 59 = s.length := by
        rw [finish,beforeAbsent last,List.length_drop]
        omega
      rw [List.splitOn_eq_singleton last]
      rw [beforeAbsent last] at bad copies
      by_cases good : 61 ∈ s.drop start
      · dsimp only
        rw [if_neg (fun same => bad.mp same good),(copies good).1,(copies good).2]
        dsimp only
        rw [if_pos ends,readSegmentsGood good]
        rfl
      · dsimp only
        rw [if_pos (bad.mpr good),readSegmentsBad good]

theorem parseSegments (s : CString) : parse s = readSegments (segments s) defaults := by
  have rounds : s.bytes.length - 0 < s.strlen + 1 := Nat.lt_succ_self _
  rw [parse,parseFromSegments (Nat.zero_le _) rounds,List.drop_zero]
  rfl

theorem parseFails {s : CString} {stop : Stop} (fails : parse s = .error stop) : stop = badFormat := by
  rw [parseSegments] at fails
  unfold readSegments at fails
  split at fails
  · cases fails
    rfl
  · cases fails

end Parsing

/-- The loop ends in one of two ways: it throws exactly on a segment without an equals sign,
and otherwise overrides the defaults by the pairs of the segments, from left to right. -/
theorem parsesGrammar (s : CString) :
    (parse s = .error badFormat ↔ ∃ segment ∈ segments s, 61 ∉ segment) ∧
    ((∀ segment ∈ segments s, 61 ∈ segment) →
      parse s = .ok (defaults.overridden ((segments s).map pairOf))) := by
  rw [parseSegments]
  constructor
  · constructor
    · intro throws
      by_contra none
      rw [readSegments,if_neg none] at throws
      cases throws
    · exact fun some => if_pos some
  · intro all
    refine if_neg ?_
    rintro ⟨segment,inside,bad⟩
    exact bad (all segment inside)

structure KeyForm (key : CString) : Prop where
  noSemicolon : 59 ∉ key.bytes
  noEquals : 61 ∉ key.bytes
  stripped : Stripped blank key.bytes

/-- The values a connection string can carry. -/
structure Carried (value : CString) : Prop where
  noSemicolon : 59 ∉ value.bytes
  stripped : Stripped blank value.bytes

/-- A key and a value with the white space written around them. -/
structure Field where
  key : CString
  value : CString
  keyForm : KeyForm key
  valueForm : Carried value
  beforeKey : CString
  afterKey : CString
  beforeValue : CString
  afterValue : CString
  aroundKey : ∀ b, b ∈ beforeKey.bytes ∨ b ∈ afterKey.bytes → blank b = true
  aroundValue : ∀ b, b ∈ beforeValue.bytes ∨ b ∈ afterValue.bytes → blank b = true

def Field.rendered (f : Field) : CString :=
  f.beforeKey ++ (f.key ++ f.afterKey) ++ (text "=" ++ (f.beforeValue ++ (f.value ++ f.afterValue)))

def Field.pair (f : Field) : CString × CString := (f.key,f.value)

/-- The fields, separated by semicolons. -/
def rendered : List Field → CString
  | [] => text ""
  | [f] => f.rendered
  | f :: fs => f.rendered ++ (text ";" ++ rendered fs)

section RoundTrip

theorem ofBytesSelf (s : CString) : CString.ofBytes s.bytes = s := by
  refine CString.ext (List.takeWhile_eq_self_iff.mpr fun b inside => ?_)
  simpa using fun same : b = 0 => s.terminated (same ▸ inside)

theorem blankOther {b : UInt8} {l : List UInt8} (all : ∀ c ∈ l, blank c = true) (other : blank b = false) :
    b ∉ l := by
  intro inside
  rw [all b inside] at other
  cases other

theorem renderedPair (f : Field) : pairOf f.rendered.bytes = f.pair := by
  have clean : 61 ∉ f.beforeKey.bytes ++ (f.key.bytes ++ f.afterKey.bytes) := by
    have first := blankOther (fun c inside => f.aroundKey c (.inl inside)) (b := 61) rfl
    have last := blankOther (fun c inside => f.aroundKey c (.inr inside)) (b := 61) rfl
    simp [first,last,f.keyForm.noEquals]
  have shape : f.rendered.bytes = (f.beforeKey.bytes ++ (f.key.bytes ++ f.afterKey.bytes)) ++
      61 :: (f.beforeValue.bytes ++ (f.value.bytes ++ f.afterValue.bytes)) := rfl
  have key := stripPadded (fun c inside => f.aroundKey c (.inl inside))
    (fun c inside => f.aroundKey c (.inr inside)) f.keyForm.stripped
  have value := stripPadded (fun c inside => f.aroundValue c (.inl inside))
    (fun c inside => f.aroundValue c (.inr inside)) f.valueForm.stripped
  rw [shape,pairOf,beforeAppend clean,afterAppend clean,key,value,ofBytesSelf,ofBytesSelf]
  rfl

theorem renderedHolds (f : Field) : 61 ∈ f.rendered.bytes ∧ 59 ∉ f.rendered.bytes := by
  constructor
  · have mine : (61 : UInt8) ∈ (text "=").bytes := by decide
    simp [Field.rendered,mine]
  · have sign : (59 : UInt8) ∉ (text "=").bytes := by decide
    have around : ∀ p : CString, (∀ c ∈ p.bytes, blank c = true) → 59 ∉ p.bytes := fun p all => blankOther all rfl
    simp [Field.rendered,sign,f.keyForm.noSemicolon,f.valueForm.noSemicolon,
      around _ fun c inside => f.aroundKey c (.inl inside),
      around _ fun c inside => f.aroundKey c (.inr inside),
      around _ fun c inside => f.aroundValue c (.inl inside),
      around _ fun c inside => f.aroundValue c (.inr inside)]

theorem renderedSegments {fields : List Field} (some : fields ≠ []) :
    segments (rendered fields) = fields.map (fun f => f.rendered.bytes) := by
  induction fields with
  | nil => exact absurd rfl some
  | cons f fs ih =>
    have clean := (renderedHolds f).2
    cases fs with
    | nil => exact List.splitOn_eq_singleton clean
    | cons g gs =>
      have rest := ih (by simp)
      have shape : (rendered (f :: g :: gs)).bytes = f.rendered.bytes ++ 59 :: (rendered (g :: gs)).bytes := rfl
      rw [segments,shape,List.splitOn_append_cons_self_of_not_mem clean,List.map_cons]
      exact congrArg (List.cons _) rest

theorem renderedParses {fields : List Field} (some : fields ≠ []) :
    parse (rendered fields) = .ok (defaults.overridden (fields.map Field.pair)) := by
  have pairs : (segments (rendered fields)).map pairOf = fields.map Field.pair := by
    rw [renderedSegments some,List.map_map]
    exact List.map_congr_left fun f _ => renderedPair f
  rw [← pairs]
  refine (parsesGrammar _).2 fun segment inside => ?_
  rw [renderedSegments some] at inside
  obtain ⟨f,_,rfl⟩ := List.mem_map.mp inside
  exact (renderedHolds f).1

end RoundTrip

section Values
variable {o : Options} {key value : CString}

theorem setCases {k v : CString} (found : o.set k v key = some value) : value = v ∨ o key = some value := by
  unfold Options.set at found
  by_cases same : key = k
  · subst same
    rw [Function.update_self] at found
    exact .inl (Option.some.inj found).symm
  · rw [Function.update_of_ne same] at found
    exact .inr found

theorem overriddenCarried (pairs : List (CString × CString)) (base : ∀ k v, o k = some v → Carried v)
    (all : ∀ pair ∈ pairs, Carried pair.2) (found : o.overridden pairs key = some value) : Carried value := by
  induction pairs generalizing o with
  | nil => exact base key value found
  | cons pair pairs ih =>
    refine ih ?_ (fun other inside => all other (List.mem_cons_of_mem _ inside)) found
    intro k v mine
    rcases setCases mine with rfl | before
    · exact all pair List.mem_cons_self
    · exact base k v before

theorem carriedText {s : CString} (clean : 59 ∉ s.bytes) (same : strip blank s.bytes = s.bytes) : Carried s :=
  ⟨clean,strippedIff.mpr same⟩

theorem defaultsCarried (found : defaults key = some value) : Carried value := by
  have empty : Carried (text "") := carriedText (by decide) (by decide)
  have host : Carried (text "127.0.0.1") := carriedText (by decide) (by decide)
  have port : Carried (text "3306") := carriedText (by decide) (by decide)
  refine overriddenCarried (o := fun _ => none) [(text "host",text "127.0.0.1"),(text "port",text "3306"),
    (text "user",text ""),(text "password",text ""),(text "db",text ""),(text "compress",text ""),
    (text "auto-reconnect",text ""),(text "default-character-set",text "")] nofun ?_ found
  simp only [List.forall_mem_cons,empty,host,port,true_and]
  exact List.forall_mem_nil _

theorem pairCarried {s : CString} {segment : List UInt8} (inside : segment ∈ segments s) :
    Carried (pairOf segment).2 := by
  obtain ⟨absent,members⟩ := segmentMembers inside
  have mine : ∀ b ∈ strip blank (after 61 segment), b ∈ segment := fun b h => memAfter (memStrip h)
  have whole : (pairOf segment).2.bytes = strip blank (after 61 segment) := by
    refine List.takeWhile_eq_self_iff.mpr fun b h => ?_
    simpa using fun same : b = 0 => s.terminated (members 0 (same ▸ mine b h))
  refine ⟨?_,?_⟩
  · rw [whole]
    exact fun h => absent (mine 59 h)
  · rw [whole]
    exact stripStripped _

theorem parsedCarried {s : CString} (parses : parse s = .ok o) (found : o key = some value) : Carried value := by
  by_cases all : ∀ segment ∈ segments s, 61 ∈ segment
  · rw [(parsesGrammar s).2 all] at parses
    cases parses
    refine overriddenCarried _ (fun k v => defaultsCarried) ?_ found
    intro pair inside
    obtain ⟨segment,mine,rfl⟩ := List.mem_map.mp inside
    exact pairCarried mine
  · have throws : parse s = .error badFormat := by
      refine (parsesGrammar s).1.mpr ?_
      by_contra none
      exact all fun segment inside => not_not.mp fun bad => none ⟨segment,inside,bad⟩
    rw [throws] at parses
    cases parses

end Values

def Field.plain (key value : CString) (keyForm : KeyForm key) (valueForm : Carried value) : Field :=
  ⟨key,value,keyForm,valueForm,default,default,default,default,
    fun _ inside => absurd (inside.elim id id) List.not_mem_nil,
    fun _ inside => absurd (inside.elim id id) List.not_mem_nil⟩

/-- Reading undoes writing, and what is read could have been written: the option values a
connection string can carry are those without a semicolon and without white space around. -/
theorem carriesExactly (fields : List Field) (nonempty : fields ≠ []) :
    parse (rendered fields) = .ok (defaults.overridden (fields.map Field.pair)) ∧
    (∀ s o key value, parse s = .ok o → o key = some value → Carried value) ∧
    (∀ key value, KeyForm key → ((∃ s o, parse s = .ok o ∧ o key = some value) ↔ Carried value)) := by
  refine ⟨renderedParses nonempty,fun s o key value => parsedCarried,fun key value keyForm => ?_⟩
  constructor
  · rintro ⟨s,o,parses,found⟩
    exact parsedCarried parses found
  · intro valueForm
    have parses := renderedParses (List.cons_ne_nil (Field.plain key value keyForm valueForm) [])
    exact ⟨_,_,parses,Function.update_self _ _ _⟩

theorem userKey : KeyForm (text "user") := ⟨by decide,by decide,strippedIff.mpr (by decide)⟩

/-- A user name with an equals sign in it and white space written around it. -/
def spaced : Field :=
  ⟨text "user",text "a=b",userKey,⟨by decide,strippedIff.mpr (by decide)⟩,text " ",text "\t",text "  ",text "\n",
    by simp [text,ascii,CString.ofBytes,blank,isspace,signedChar],
    by simp [text,ascii,CString.ofBytes,blank,isspace,signedChar]⟩

def again : Field := .plain (text "user") (text "c") userKey ⟨by decide,strippedIff.mpr (by decide)⟩

theorem carriesExactlySpaced : ∃ o, parse (rendered [spaced,again]) = .ok o ∧ o.get "user" = text "c" :=
  ⟨_,(carriesExactly [spaced,again] (List.cons_ne_nil _ _)).1,rfl⟩

end DatabaseLayer.ConnectionString
