import DatabaseLayer.MySQLNull
import DatabaseLayer.MySQLFields

/-! A field by its name. Both classes look its index up and go on with the accessor by
index, but MySQL's does not take the caller's default along. -/
namespace DatabaseLayer.FieldsByName
open Platform Foundation.Program Foundation.Run

section MySQL
open MySQLClient CppMySQLQuery MySQLFields
variable {α : Type} {s t : Scope World CppMySQLQuery} {szField : CString} {i : Int}

/-- Two defaults of an accessor differ in a NULL only. -/
theorem defaultsIff {accessor : α → Op CppMySQLQuery α} {value : CString → α}
    (funnels : ∀ d, Funnels (accessor d) i (fun cell => .ok (cell.elim d value))) (own d : α)
    (s : Scope World CppMySQLQuery) : accessor own s = accessor d s ↔ (found s.this i = some none → d = own) := by
  rw [funnels own s,funnels d s]
  cases found s.this i with
  | none => exact iff_of_true rfl nofun
  | some cell =>
    cases cell with
    | some a => exact iff_of_true rfl nofun
    | none =>
      constructor
      · intro same _
        cases same
        rfl
      · intro same
        rw [same rfl]

/-- The accessors by name against those by index, when the name has that index. -/
structure MySQLAgrees (atof : CString → UInt64) (szField : CString) (i : Int) (s : Scope World CppMySQLQuery) : Prop where
  int : ∀ d, getIntFieldNamed (some szField) d s = getIntField i d s ↔ (found s.this i = some none → d = 0)
  double : ∀ d, getDoubleFieldNamed atof (some szField) d s = getDoubleField atof i d s ↔
    (found s.this i = some none → d = 0)
  string : ∀ d, getStringFieldNamed (some szField) d s = getStringFieldOr i d s ↔
    (found s.this i = some none → d = some default)

theorem mysqlAgrees (atof : CString → UInt64) (has : fieldIndex (some szField) s = .ok i t) :
    MySQLAgrees atof szField i s := by
  obtain rfl : t = s := settlesReturned (settlesFieldIndex (E := fun _ => True) (some szField)) has
  refine ⟨fun d => ?_,fun d => ?_,fun d => ?_⟩
  · rw [getIntFieldNamed,bindApply,has]
    exact defaultsIff (intFunnels i) 0 d t
  · rw [getDoubleFieldNamed,bindApply,has]
    exact defaultsIff (doubleFunnels atof i) 0 d t
  · rw [getStringFieldNamed,bindApply,has]
    exact defaultsIff (stringOrFunnels i) (some default) d t

end MySQL

section SQLite
open SQLiteClient CppSQLite3Query
variable {s t : Scope World CppSQLite3Query} {szField : CString} {i : Int}

structure SQLiteAgrees (szField : CString) (i : Int) (s : Scope World CppSQLite3Query) : Prop where
  int : ∀ d, getIntFieldNamed (some szField) d s = getIntField i d s
  double : ∀ d, getDoubleFieldNamed (some szField) d s = getDoubleField i d s
  string : ∀ d, getStringFieldNamed (some szField) d s = getStringField i d s

theorem sqliteAgrees (has : fieldIndex (some szField) s = .ok i t) : SQLiteAgrees szField i s := by
  obtain rfl : t = s := settlesReturned (settlesFieldIndex (E := fun _ => True) (some szField)) has
  refine ⟨fun d => ?_,fun d => ?_,fun d => ?_⟩
  · rw [getIntFieldNamed,bindApply,has]
  · rw [getDoubleFieldNamed,bindApply,has]
  · rw [getStringFieldNamed,bindApply,has]

end SQLite

/-- On any query and any row, and for every name that has an index: SQLite's accessors by name
are those by index, MySQL's are exactly where the cell is not NULL, or the caller's default
is the one the accessor has of its own. -/
theorem byNameAsByIndexIff (atof : CString → UInt64) :
    (∀ (s t : Scope MySQLClient.World CppMySQLQuery) (szField : CString) (i : Int),
      CppMySQLQuery.fieldIndex (some szField) s = .ok i t → MySQLAgrees atof szField i s) ∧
    (∀ (s t : Scope SQLiteClient.World CppSQLite3Query) (szField : CString) (i : Int),
      CppSQLite3Query.fieldIndex (some szField) s = .ok i t → SQLiteAgrees szField i s) :=
  ⟨fun _ _ _ _ has => mysqlAgrees atof has,fun _ _ _ _ has => sqliteAgrees has⟩

section NullCell
open MySQLSystem
open MySQLNull (single)

/-- A query on the first row of a result just stored. -/
def onFirst (data : MySQLClient.ResultData) : Scope MySQLClient.World CppMySQLQuery :=
  ⟨MySQLClient.World.initial.store data,.holding (MySQLClient.World.initial.store data) 0⟩

/-- A query over a statement with one column. -/
def onColumn : Scope SQLiteClient.World CppSQLite3Query :=
  ⟨SQLiteClient.World.initial.setStmt 0 ⟨0,[text "v"],.initial⟩,⟨some 0,some 0,false,1⟩⟩

theorem byNameAsByIndexOneNull : MySQLAgrees (fun _ => 0) (text "v") 0 (onFirst (single none)) ∧
    SQLiteAgrees (text "v") 0 onColumn := by
  obtain ⟨mysql,sqlite⟩ := byNameAsByIndexIff (fun _ => 0)
  constructor
  · exact mysql _ _ _ _ (@CppMySQLQuery.fieldIndexApply (onFirst (single none)) (text "v") 0 [text "v"] rfl rfl rfl)
  · exact sqlite _ _ _ _ (@CppSQLite3Query.fieldIndexApply onColumn 0 [text "v"] rfl rfl rfl (text "v"))

/-- A NULL read by index gives the caller's seven, read by name it gives zero. -/
theorem nullByName :
    let s := run (step (.yielding (single none))) (.initial (.connected 0 (text "test"))) [.execQuery (some 0) 0 (text "select v")]
    ∃ q, s.queries 0 = some q ∧
      CppMySQLQuery.fieldIndex (some (text "v")) ⟨s.world,q⟩ = .ok 0 ⟨s.world,q⟩ ∧
      CppMySQLQuery.getIntField 0 7 ⟨s.world,q⟩ = .ok 7 ⟨s.world,q⟩ ∧
      CppMySQLQuery.getIntFieldNamed (some (text "v")) 7 ⟨s.world,q⟩ = .ok 0 ⟨s.world,q⟩ ∧
      ¬ CppMySQLQuery.getIntFieldNamed (some (text "v")) 7 ⟨s.world,q⟩ = CppMySQLQuery.getIntField 0 7 ⟨s.world,q⟩ :=
  ⟨_,rfl,rfl,rfl,rfl,nofun⟩

end NullCell
end DatabaseLayer.FieldsByName
