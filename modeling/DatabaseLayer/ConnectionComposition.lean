import DatabaseLayer.ConnectionGrammar
import DatabaseLayer.MySQLDB
import DatabaseLayer.Foundation.Overrides
import Mathlib.Data.Set.List

/-! Connection strings put together and written anew: what two strings mean joined by a
semicolon, and how much of a string's writing the connect depends on. -/
namespace DatabaseLayer.ConnectionComposition
open Platform MySQLClient ConnectionString Foundation.Program Foundation.Segments Foundation.Overrides

/-- The pairs of a string that are not overridden by a later one. -/
def settings (s : CString) : List (CString × CString) := effective ((segments s).map pairOf)

/-- The string sets the key. -/
def Names (s : CString) (key : CString) : Prop := key ∈ keys ((segments s).map pairOf)

instance (s key) : Decidable (Names s key) := by unfold Names; infer_instance

def joined (s t : CString) : CString := s ++ (text ";" ++ t)

section Parts
variable {s t : CString} {o p : Options}

theorem overriddenOverrides (o : Options) (pairs : List (CString × CString)) : o.overridden pairs = overrides o pairs :=
  rfl

/-- A string is parsed if every segment has an equals sign, and then to what its pairs make
of the defaults. -/
theorem parsesTo : parse s = .ok o ↔
    (∀ segment ∈ segments s, 61 ∈ segment) ∧ o = overrides defaults ((segments s).map pairOf) := by
  obtain ⟨throws,reads⟩ := parsesGrammar s
  constructor
  · intro parses
    have all : ∀ segment ∈ segments s, 61 ∈ segment := by
      by_contra some
      push Not at some
      have stopped := throws.mpr some
      rw [parses] at stopped
      cases stopped
    rw [reads all] at parses
    cases parses
    exact ⟨all,rfl⟩
  · rintro ⟨all,rfl⟩
    exact reads all

theorem joinedSegments (s t : CString) : segments (joined s t) = segments s ++ segments t :=
  List.splitOn_append_cons_self s.bytes t.bytes

theorem joinedGood : (∀ segment ∈ segments (joined s t), 61 ∈ segment) ↔
    (∀ segment ∈ segments s, 61 ∈ segment) ∧ ∀ segment ∈ segments t, 61 ∈ segment := by
  rw [joinedSegments,List.forall_mem_append]

theorem joinedParses (first : parse s = .ok o) (second : parse t = .ok p) :
    parse (joined s t) = .ok (fun key => if Names t key then p key else o key) := by
  obtain ⟨good,rfl⟩ := parsesTo.mp first
  obtain ⟨fine,rfl⟩ := parsesTo.mp second
  refine parsesTo.mpr ⟨joinedGood.mpr ⟨good,fine⟩,?_⟩
  rw [joinedSegments,List.map_append,overridesAppend,overridesTwice]
  rfl

theorem joinedThrows (stops : ¬ ∃ o p, parse s = .ok o ∧ parse t = .ok p) : parse (joined s t) = .error badFormat := by
  cases parses : parse (joined s t) with
  | error stop => rw [parseFails parses]
  | ok q =>
    obtain ⟨first,second⟩ := joinedGood.mp (parsesTo.mp parses).1
    exact absurd ⟨_,_,parsesTo.mpr ⟨first,rfl⟩,parsesTo.mpr ⟨second,rfl⟩⟩ stops

end Parts

section Writing
variable {s : CString} {o : Options}

/-- What is left of a segment before its equals sign can be a key. -/
theorem pairKeyForm {segment : List UInt8} (inside : segment ∈ segments s) : KeyForm (pairOf segment).1 := by
  obtain ⟨absent,members⟩ := segmentMembers inside
  have mine : ∀ b ∈ strip blank (before 61 segment), b ∈ segment := fun b h => memBefore (memStrip h)
  have whole : (pairOf segment).1.bytes = strip blank (before 61 segment) := by
    refine List.takeWhile_eq_self_iff.mpr fun b h => ?_
    simpa using fun same : b = 0 => s.terminated (members 0 (same ▸ mine b h))
  refine ⟨?_,?_,?_⟩
  · rw [whole]
    exact fun h => absent (mine 59 h)
  · rw [whole]
    exact fun h => notMemBefore segment (memStrip h)
  · rw [whole]
    exact stripStripped _

theorem settingsForm {pair : CString × CString} (inside : pair ∈ settings s) : KeyForm pair.1 ∧ Carried pair.2 := by
  obtain ⟨segment,mine,rfl⟩ := List.mem_map.mp (effectiveInside inside)
  exact ⟨pairKeyForm mine,pairCarried mine⟩

theorem settingsSome (s : CString) : settings s ≠ [] := by
  intro none
  have some : segments s ≠ [] := List.splitOn_ne_nil 59 s.bytes
  obtain ⟨segment,mine⟩ := List.exists_mem_of_ne_nil _ some
  have named : (pairOf segment).1 ∈ keys (settings s) :=
    effectiveKeys.mpr (List.mem_map_of_mem (List.mem_map_of_mem mine))
  rw [none] at named
  cases named

theorem settingsWritten (s : CString) : ∃ fields : List Field, fields.map Field.pair = settings s := by
  have all : ∀ pair ∈ settings s, pair ∈ Set.range Field.pair := fun pair inside =>
    ⟨Field.plain pair.1 pair.2 (settingsForm inside).1 (settingsForm inside).2,rfl⟩
  have written : settings s ∈ Set.range (List.map Field.pair) := by
    rw [Set.range_list_map]
    exact all
  exact written

/-- A string with the settings of another, in any order and with any white space around them,
is parsed to the same options. -/
theorem writtenParses {fields : List Field} (parses : parse s = .ok o)
    (same : (fields.map Field.pair).Perm (settings s)) : parse (rendered fields) = .ok o := by
  obtain ⟨_,rfl⟩ := parsesTo.mp parses
  have some : fields ≠ [] := by
    rintro rfl
    exact settingsSome s (List.nil_perm.mp same)
  have distinct : (keys (fields.map Field.pair)).Nodup := (same.map _).nodup_iff.mpr (effectiveDistinct _)
  rw [renderedParses some,overriddenOverrides,overridesPerm same distinct,settings,overridesEffective]

end Writing

section Connecting
variable (client : Client) (s : CString)

/-- How connect(const char*) answers to two strings joined by a semicolon: it refuses them if it
refuses one, and otherwise connects with the second one's settings over the first one's. -/
theorem connectJoined (t : CString) (scope : Scope World CppMySQLDB) :
    (∀ o p, parse s = .ok o → parse t = .ok p → CppMySQLDB.connectString client (joined s t) scope =
      CppMySQLDB.connectWith client (fun key => if Names t key then p key else o key) scope) ∧
    ((¬ ∃ o p, parse s = .ok o ∧ parse t = .ok p) →
      CppMySQLDB.connectString client (joined s t) scope = .error badFormat scope) := by
  unfold CppMySQLDB.connectString
  constructor
  · intro o p first second
    rw [joinedParses first second]
  · intro stops
    rw [joinedThrows stops]
    rfl

/-- What connect(const char*) does is the same for every string with the same settings, however
they are ordered and spaced, and every string it can parse has its settings written out so. -/
theorem connectWritten (parses : ∃ o, parse s = .ok o) :
    (∃ fields : List Field, fields.map Field.pair = settings s) ∧
    ∀ fields : List Field, (fields.map Field.pair).Perm (settings s) →
      CppMySQLDB.connectString client (rendered fields) = CppMySQLDB.connectString client s := by
  obtain ⟨o,parses⟩ := parses
  refine ⟨settingsWritten s,fun fields same => ?_⟩
  unfold CppMySQLDB.connectString
  rw [writtenParses parses same,parses]

end Connecting

/-- The schema is named twice, and a blank stands before the user. -/
def repeated : CString := text "db=old; user=me;db=new"

def schema : Field :=
  Field.plain (text "db") (text "new") ⟨by decide,by decide,strippedIff.mpr (by decide)⟩
    ⟨by decide,strippedIff.mpr (by decide)⟩

def user : Field := Field.plain (text "user") (text "me") userKey ⟨by decide,strippedIff.mpr (by decide)⟩

theorem connectWrittenRepeated : CppMySQLDB.connectString .obliging (rendered [schema,user]) =
    CppMySQLDB.connectString .obliging repeated :=
  (connectWritten .obliging repeated ⟨_,rfl⟩).2 [schema,user] (.swap _ _ [])
end DatabaseLayer.ConnectionComposition
