import Mathlib.Data.List.Forall2
import DatabaseLayer.Foundation.Transcript
import DatabaseLayer.ColumnNames
import DatabaseLayer.MySQLFields
import DatabaseLayer.SQLiteReads

/-! The query interface the two wrappers share, as a table with a position in it that only moves
forward. MySQL's query answers from a stored result, SQLite's from a running statement. -/
namespace DatabaseLayer
open Platform Foundation.Program

namespace CppMySQLQuery
open MySQLClient
open ColumnNames (wrapUInt)

def fieldValueNamed (szField : Option CString) : Op CppMySQLQuery CString := do
  fieldValue (← fieldIndex szField)

def fieldName (nCol : Int) : Op CppMySQLQuery (Option CString) := do
  checkRES
  match ← mysqlFieldSeek (← handle) (wrapUInt nCol) with
  | mField :: _ => return mField.name
  | [] => raise CPPMYSQL_QUERY_ERROR (text "Invalid field column NO.")

def fieldDataType (nCol : Int) : Op CppMySQLQuery Int := do
  checkRES
  if nCol < 0 ∨ nCol > wrapInt (← get).this.mNumFields - 1 then
    raise CPPMYSQL_QUERY_ERROR (text "Invalid field index requested")
  else
    match ← mysqlFieldSeek (← handle) (wrapUInt nCol) with
    | mField :: _ => return mField.type
    | [] => raise CPPMYSQL_QUERY_ERROR (text "Invalid column NO.")

theorem fieldIndexUninited (szField : Option CString) {s : Scope World CppMySQLQuery} (none : s.this.mpRES = none) :
    fieldIndex szField s = uninited s := by
  simp only [fieldIndex,checkRES,bindApply,getApply,iteApply,none,if_true,raiseApply]
  rfl

theorem fieldNameUninited (nCol : Int) {s : Scope World CppMySQLQuery} (none : s.this.mpRES = none) :
    fieldName nCol s = uninited s := by
  simp only [fieldName,checkRES,bindApply,getApply,iteApply,none,if_true,raiseApply]
  rfl

theorem fieldNameApply (nCol : Int) {s : Scope World CppMySQLQuery} {res : Nat} (held : s.this.mpRES = some res) :
    fieldName nCol s = match (s.world.results res).data.fields[wrapUInt nCol]? with
      | some mField => .ok mField.name s
      | none => .error (.thrown (exception CPPMYSQL_QUERY_ERROR (some (text "Invalid field column NO.")))) s := by
  simp only [fieldName,checkRES,bindApply,getApply,iteApply,held,reduceCtorEq,if_false,pureApply,handle,mysqlFieldSeek]
  rw [← List.head?_drop]
  cases (s.world.results res).data.fields.drop (wrapUInt nCol) <;> rfl

/-- It is the call that moves the field cursor of the result. -/
theorem fieldNameSame (nCol : Int) : ColumnNames.Follows (ColumnNames.fieldName nCol) (fieldName nCol) := by
  refine ColumnNames.followsBind (ColumnNames.followsLift _) fun _ => ColumnNames.seekFollows _ fun fields => ?_
  cases fields with
  | nil => exact ColumnNames.followsLift _
  | cons mField _ => exact ColumnNames.followsPure _

theorem fieldDataTypeSame (nCol : Int) : ColumnNames.Follows (ColumnNames.fieldDataType nCol) (fieldDataType nCol) := by
  refine ColumnNames.followsBind (ColumnNames.followsLift _) fun _ s => ?_
  rw [bindApply,bindApply,getApply,getApply]
  dsimp only
  rw [iteApply,iteApply,show (ColumnNames.plain s).this = s.this from rfl]
  split
  · exact ColumnNames.followsLift _ s
  · refine ColumnNames.seekFollows _ (fun fields => ?_) s
    cases fields with
    | nil => exact ColumnNames.followsLift _
    | cons mField _ => exact ColumnNames.followsPure _

end CppMySQLQuery

namespace PortableQueries
open Foundation.Run Foundation.Transcript
open CppSQLite3Query (FieldRef)

/-- What a query selected. -/
structure Selection where
  names : List CString
  rows : List (List (Option CString))
  rectangular : ∀ row ∈ rows, row.length = names.length
  few : names.length < 2^31
  deriving Repr

inductive Request where
  | numFields
  | fieldIndex (szField : Option CString)
  | fieldName (nCol : Int)
  | fieldValue (field : FieldRef)
  | fieldDataIsNull (nField : Int)
  | getIntField (field : FieldRef) (nNullValue : Int)
  | getDoubleField (field : FieldRef) (fNullValue : UInt64)
  | getStringField (field : FieldRef) (szNullValue : Option CString)
  | eof
  | nextRow
  | clear
  deriving DecidableEq, Repr

/-- The calls that move the query on, or let it go. -/
def Request.moves : Request → Bool
  | .nextRow | .clear => true
  | _ => false

/-- What a call returns, or that it throws, or that it goes outside defined behaviour. -/
inductive Answer where
  | unit
  | bool (value : Bool)
  | int (value : Int)
  | double (bits : UInt64)
  | text (value : Option CString)
  | thrown
  | undefined
  deriving DecidableEq, Repr

def answered {ε σ : Type} (undefined : ε → Bool) : EStateM.Result ε σ Answer → Answer
  | .ok answer _ => answer
  | .error e _ => if undefined e then .undefined else .thrown

section Selections
variable (atof : CString → UInt64) (sel : Selection)

def columnOf : FieldRef → Option Nat
  | .index nField => some nField.toNat
  | .name szField => szField.bind (fun name => sel.names.findIdx? (· = name))

def cellAt (position nField : Nat) : Option (Option CString) := do
  (← sel.rows[position]?)[nField]?

def read (position : Nat) (field : FieldRef) (shown : Option CString → Answer) : Answer :=
  (columnOf sel field).elim .thrown (fun nField => (cellAt sel position nField).elim .undefined shown)

/-- The answer at a position, or of a query that was cleared, and where it leaves the query. -/
def answer : Option Nat → Request → Answer × Option Nat
  | _,.clear => (.unit,none)
  | none,_ => (.thrown,none)
  | some position,.numFields => (.int sel.names.length,some position)
  | some position,.fieldIndex szField => ((columnOf sel (.name szField)).elim .thrown (fun c => .int c),some position)
  | some position,.fieldName nCol =>
    (if 0 ≤ nCol ∧ nCol < sel.names.length then .text sel.names[nCol.toNat]? else .thrown,some position)
  | some position,.fieldValue field => (read sel position field .text,some position)
  | some position,.fieldDataIsNull nField =>
    (read sel position (.index nField) (fun cell => .bool cell.isNone),some position)
  | some position,.getIntField field nNullValue =>
    (read sel position field (fun cell => .int (cell.elim nNullValue atoi)),some position)
  | some position,.getDoubleField field fNullValue =>
    (read sel position field (fun cell => .double (cell.elim fNullValue atof)),some position)
  | some position,.getStringField field szNullValue =>
    (read sel position field (fun cell => .text (cell.elim szNullValue some)),some position)
  | some position,.eof => (.bool (position = sel.rows.length),some position)
  | some position,.nextRow => (.unit,some (position + 1))

/-- The column is one of the current row, or is asked for by a name there is not, and its cell
will do. -/
def Reads (position : Nat) (field : FieldRef) (fine : Option CString → Prop) : Prop :=
  match field with
  | .index nField => 0 ≤ nField ∧ ∃ cell, cellAt sel position nField.toNat = some cell ∧ fine cell
  | .name szField => ∀ c, columnOf sel (.name szField) = some c → ∃ cell, cellAt sel position c = some cell ∧ fine cell

/-- By name, a default other than the declared one is not for a NULL cell. -/
def Plain (field : FieldRef) (declared : Prop) (cell : Option CString) : Prop :=
  match field with
  | .index _ => True
  | .name _ => cell ≠ none ∨ declared

/-- The calls the interface is made for: on a row it reads its cells and moves on; a query that
was cleared is asked for fields by name. -/
def Admits : Option Nat → Request → Prop
  | none,.clear | none,.nextRow | none,.fieldIndex _ | none,.fieldName _ => True
  | none,.fieldValue (.name _) | none,.getIntField (.name _) _ => True
  | none,.getDoubleField (.name _) _ | none,.getStringField (.name _) _ => True
  | none,_ => False
  | some _,.fieldName nCol => ColumnNames.isInt nCol
  | some position,.fieldValue field => Reads sel position field (· ≠ none)
  | some position,.fieldDataIsNull nField => Reads sel position (.index nField) fun _ => True
  | some position,.getIntField field nNullValue => Reads sel position field (Plain field (nNullValue = 0))
  | some position,.getDoubleField field fNullValue => Reads sel position field (Plain field (fNullValue = 0))
  | some position,.getStringField field szNullValue =>
    Reads sel position field (Plain field (szNullValue = some default))
  | some position,.nextRow => position < sel.rows.length
  | some _,_ => True

end Selections

/-- A call gives this answer, and moves nothing. -/
def Gives {ε σ : Type} (undefined : ε → Bool) (s : σ) (a : Answer) (r : EStateM.Result ε σ Answer) : Prop :=
  answered undefined r = a ∧ left r = s

section MySQL
open MySQLClient CppMySQLQuery
open MySQLCursor (At nextRowAt eofAt)
open MySQLFields (Funnels found foundRow foundNoRow ends textOf nullFunnels valueFunnels intFunnels doubleFunnels
  stringOrFunnels)

def mysqlPerform (atof : CString → UInt64) : Request → Op CppMySQLQuery Answer
  | .numFields => do return .int (← numFields)
  | .fieldIndex szField => do return .int (← fieldIndex szField)
  | .fieldName nCol => do return .text (← fieldName nCol)
  | .fieldValue (.index nField) => do return .text (some (← fieldValue nField))
  | .fieldValue (.name szField) => do return .text (some (← fieldValueNamed szField))
  | .fieldDataIsNull nField => do return .bool (← fieldDataIsNull nField)
  | .getIntField (.index nField) nNullValue => do return .int (← getIntField nField nNullValue)
  | .getIntField (.name szField) nNullValue => do return .int (← getIntFieldNamed szField nNullValue)
  | .getDoubleField (.index nField) fNullValue => do return .double (← getDoubleField atof nField fNullValue)
  | .getDoubleField (.name szField) fNullValue => do return .double (← getDoubleFieldNamed atof szField fNullValue)
  | .getStringField (.index nField) szNullValue => do return .text (← getStringFieldOr nField szNullValue)
  | .getStringField (.name szField) szNullValue => do return .text (← getStringFieldNamed szField szNullValue)
  | .eof => do return .bool (← eof)
  | .nextRow => do
    nextRow
    return .unit
  | .clear => do
    clear
    return .unit

def mysqlStep (atof : CString → UInt64) (s : Scope World CppMySQLQuery) (request : Request) :
    Answer × Scope World CppMySQLQuery :=
  (answered (· = .undefined) (mysqlPerform atof request s),left (mysqlPerform atof request s))

/-- Every other call leaves the query and its result where they are. -/
theorem readStill (atof : CString → UInt64) {request : Request} (reads : request.moves = false)
    (s : Scope World CppMySQLQuery) : left (mysqlPerform atof request s) = s := by
  have funnel {α : Type} {m : Op CppMySQLQuery α} {c : Int} {value : Cell → Except CppMySQLException α}
      (funnels : Funnels m c value) (u : Scope World CppMySQLQuery) : left (m u) = u := by
    rw [funnels u]
    cases found u.this c with
    | none => rfl
    | some cell =>
      simp only [Option.map_some]
      cases value cell <;> rfl
  have index (szField : Option CString) : left (fieldIndex szField s) = s :=
    settlesLeft (settlesFieldIndex (E := fun _ => False) szField) s
  have named {α : Type} {f : Int → Op CppMySQLQuery α} {value : Cell → Except CppMySQLException α} (wrap : α → Answer)
      (funnels : ∀ c, Funnels (f c) c value) (szField : Option CString) :
      left ((do return wrap (← (do f (← fieldIndex szField))) : Op CppMySQLQuery Answer) s) = s := by
    have found := index szField
    rw [leftBindPure,bindApply]
    cases result : fieldIndex szField s with
    | error e t =>
      rw [result] at found
      exact found
    | ok c t =>
      rw [result] at found
      exact (funnel (funnels c) t).trans found
  cases request with
  | nextRow | clear => cases reads
  | numFields | eof => rfl
  | fieldIndex szField =>
    simp only [mysqlPerform,leftBindPure]
    exact index szField
  | fieldName nCol =>
    simp only [mysqlPerform,leftBindPure]
    cases held : s.this.mpRES with
    | none =>
      rw [fieldNameUninited nCol held]
      rfl
    | some res =>
      rw [fieldNameApply nCol held]
      split <;> rfl
  | fieldDataIsNull nField =>
    simp only [mysqlPerform,leftBindPure]
    exact funnel (nullFunnels nField) s
  | fieldValue field =>
    cases field with
    | index nField =>
      simp only [mysqlPerform,leftBindPure]
      exact funnel (valueFunnels nField) s
    | name szField => exact named (fun a => .text (some a)) valueFunnels szField
  | getIntField field nNullValue =>
    cases field with
    | index nField =>
      simp only [mysqlPerform,leftBindPure]
      exact funnel (intFunnels nField nNullValue) s
    | name szField => exact named .int (fun c => intFunnels c 0) szField
  | getDoubleField field fNullValue =>
    cases field with
    | index nField =>
      simp only [mysqlPerform,leftBindPure]
      exact funnel (doubleFunnels atof nField fNullValue) s
    | name szField => exact named .double (fun c => doubleFunnels atof c 0) szField
  | getStringField field szNullValue =>
    cases field with
    | index nField =>
      simp only [mysqlPerform,leftBindPure]
      exact funnel (stringOrFunnels nField szNullValue) s
    | name szField => exact named .text (fun c => stringOrFunnels c (some default)) szField

/-- The object stands at a position of a result that is the selection, or was cleared. -/
def MySQLShows (sel : Selection) (s : Scope World CppMySQLQuery) : Option Nat → Prop
  | none => s.this.mpRES = none
  | some position => ∃ res data, At res data s position ∧ data.rows = sel.rows ∧
      data.fields.map MysqlField.name = sel.names.map some

variable {sel : Selection}

section Reading
variable {position : Nat} {s : Scope World CppMySQLQuery} (shows : MySQLShows sel s (some position))
  {α : Type} {value : Cell → Except CppMySQLException α} {wrap : α → Answer} {shown : Option CString → Answer}
  {fine : Option CString → Prop}
include shows

theorem mysqlCell {nField : Int} (low : 0 ≤ nField) : found s.this nField = cellAt sel position nField.toNat := by
  obtain ⟨res,data,stands,rows,_⟩ := shows
  have row := stands.row
  rw [rows] at row
  unfold cellAt
  cases inside : sel.rows[position]? with
  | none =>
    rw [inside] at row
    exact foundNoRow row nField
  | some cells =>
    rw [inside] at row
    exact foundRow row (Int.not_lt.mpr low)

theorem mysqlFields : s.this.mNumFields = sel.names.length := by
  obtain ⟨res,data,stands,_,named⟩ := shows
  rw [stands.fields,← List.length_map MysqlField.name,named,List.length_map]

theorem mysqlNumFields : numFields s = .ok (sel.names.length : Int) s := by
  have few := sel.few
  have same : wrapInt (sel.names.length : Int) = sel.names.length := wrapIntId (by omega) (by omega)
  simp only [numFields,bindApply,getApply,pureApply,mysqlFields shows,same]

theorem mysqlIndex (szField : Option CString) : fieldIndex szField s =
    match columnOf sel (.name szField) with
    | some nField => .ok (nField : Int) s
    | none => .error (.thrown (exception CPPMYSQL_QUERY_ERROR (some (text "Invalid field name requested")))) s := by
  have few := sel.few
  have count := mysqlFields shows
  obtain ⟨res,data,stands,_,named⟩ := shows
  cases szField with
  | none => simp [fieldIndex,checkRES,stands.held,columnOf]
  | some name =>
    rw [fieldIndexApply stands.held count (by rw [stands.result]; exact named)]
    simp only [columnOf,Option.bind_some]
    cases there : sel.names.findIdx? (· = name) with
    | none => rfl
    | some nField =>
      have below := (List.findIdx?_eq_some_iff_findIdx_eq.mp there).1
      have same : wrapInt (nField : Int) = nField := wrapIntId (by omega) (by omega)
      simp only [same]

theorem mysqlReadAt {m : Op CppMySQLQuery α} {nField : Int} (funnels : Funnels m nField value) (low : 0 ≤ nField)
    {cell : Option CString} (inside : cellAt sel position nField.toNat = some cell) {a : α} (same : value cell = .ok a) :
    m s = .ok a s := by
  rw [funnels s,mysqlCell shows low,inside,Option.map_some,same]
  rfl

/-- An accessor by number gives what the cell there shows. -/
theorem mysqlReads {m : Op CppMySQLQuery α} {nField : Int} (funnels : Funnels m nField value)
    (reads : Reads sel position (.index nField) fine)
    (same : ∀ cell, fine cell → ∃ a, value cell = .ok a ∧ wrap a = shown cell) :
    Gives (· = .undefined) s (read sel position (.index nField) shown) ((do return wrap (← m)) s) := by
  obtain ⟨low,cell,inside,fits⟩ := reads
  obtain ⟨a,eq,answers⟩ := same cell fits
  rw [bindApply,mysqlReadAt shows funnels low inside eq]
  refine ⟨?_,rfl⟩
  simp only [pureApply,answered,answers,read,columnOf,Option.elim,inside]

/-- An accessor by name gives what the cell of the first such column shows. -/
theorem mysqlReadsNamed {f : Int → Op CppMySQLQuery α} {szField : Option CString} (funnels : ∀ c, Funnels (f c) c value)
    (reads : Reads sel position (.name szField) fine)
    (same : ∀ cell, fine cell → ∃ a, value cell = .ok a ∧ wrap a = shown cell) :
    Gives (· = .undefined) s (read sel position (.name szField) shown)
      ((do return wrap (← (do f (← fieldIndex szField)))) s) := by
  simp only [bindApply,mysqlIndex shows]
  cases there : columnOf sel (.name szField) with
  | none => exact ⟨by simp [answered,read,there],rfl⟩
  | some c =>
    obtain ⟨cell,inside,fits⟩ := reads c there
    obtain ⟨a,eq,answers⟩ := same cell fits
    dsimp only
    rw [mysqlReadAt shows (funnels c) (Int.natCast_nonneg c) inside eq]
    refine ⟨?_,rfl⟩
    simp only [pureApply,answered,answers,read,there,Option.elim,inside]

end Reading

/-- Cleared, a query refuses what it is asked for by name. -/
theorem mysqlCleared (atof : CString → UInt64) {s : Scope World CppMySQLQuery} (none : s.this.mpRES = none)
    {request : Request} (admits : Admits sel .none request) :
    (mysqlStep atof s request).1 = (answer atof sel .none request).1 ∧
      (answer atof sel .none request).2 = .none ∧ (mysqlStep atof s request).2.this.mpRES = .none := by
  have index (szField : Option CString) := fieldIndexUninited szField none
  unfold uninited at index
  cases request with
  | numFields | fieldDataIsNull nField | eof => cases admits
  | fieldIndex szField =>
    simp only [mysqlStep,mysqlPerform,bindApply,index]
    exact ⟨rfl,rfl,none⟩
  | fieldName nCol =>
    simp only [mysqlStep,mysqlPerform,bindApply,fieldNameUninited nCol none]
    exact ⟨rfl,rfl,none⟩
  | fieldValue field | getIntField field nNullValue | getDoubleField field fNullValue | getStringField field szNullValue =>
    cases field with
    | index nField => cases admits
    | name szField =>
      simp only [mysqlStep,mysqlPerform,fieldValueNamed,getIntFieldNamed,getDoubleFieldNamed,getStringFieldNamed,bindApply,
        index]
      exact ⟨rfl,rfl,none⟩
  | nextRow =>
    have result := nextRowApply s
    simp only [none] at result
    simp only [mysqlStep,mysqlPerform,bindApply,result]
    exact ⟨rfl,rfl,none⟩
  | clear =>
    have result := clearApply s
    simp only [none] at result
    simp only [mysqlStep,mysqlPerform,bindApply,result]
    exact ⟨rfl,rfl,none⟩

theorem mysqlFieldName {s : Scope World CppMySQLQuery} {position : Nat} (shows : MySQLShows sel s (some position))
    {nCol : Int} (int : ColumnNames.isInt nCol) : fieldName nCol s =
      if 0 ≤ nCol ∧ nCol < sel.names.length then .ok sel.names[nCol.toNat]? s
      else .error (.thrown (exception CPPMYSQL_QUERY_ERROR (some (text "Invalid field column NO.")))) s := by
  have few := sel.few
  obtain ⟨low,high⟩ := int
  obtain ⟨res,data,stands,_,named⟩ := shows
  have result := fieldNameApply nCol stands.held
  rw [stands.result] at result
  split
  · rename_i inside
    have column : ColumnNames.wrapUInt nCol = nCol.toNat := by
      unfold ColumnNames.wrapUInt
      omega
    have below : nCol.toNat < sel.names.length := by omega
    obtain ⟨mField,there,name⟩ : ∃ mField, data.fields[nCol.toNat]? = some mField ∧
        mField.name = some sel.names[nCol.toNat] := by
      rw [← Option.map_eq_some_iff (f := MysqlField.name),← List.getElem?_map,named,List.getElem?_map,
        List.getElem?_eq_getElem below,Option.map_some]
    rw [result,column,there,List.getElem?_eq_getElem below]
    simp only [name]
  · rename_i outside
    have beyond : data.fields[ColumnNames.wrapUInt nCol]? = none := by
      have count : data.fields.length = sel.names.length := by
        rw [← List.length_map MysqlField.name,named,List.length_map]
      rw [List.getElem?_eq_none_iff,count]
      unfold ColumnNames.wrapUInt
      omega
    rw [result,beyond]

theorem mysqlAnswers (atof : CString → UInt64) (sel : Selection) :
    Answers (MySQLShows sel) (Admits sel) (mysqlStep atof) (answer atof sel) := by
  have both : ∀ s cursor request, MySQLShows sel s cursor → Admits sel cursor request →
      (mysqlStep atof s request).1 = (answer atof sel cursor request).1 ∧
        MySQLShows sel (mysqlStep atof s request).2 (answer atof sel cursor request).2 := by
    intro s cursor request shows admits
    cases cursor with
    | none =>
      obtain ⟨alike,stays,none⟩ := mysqlCleared atof shows admits
      rw [stays]
      exact ⟨alike,none⟩
    | some position =>
      have still {a : Answer} (gives : Gives (· = .undefined) s a (mysqlPerform atof request s)) :
          (mysqlStep atof s request).1 = a ∧ MySQLShows sel (mysqlStep atof s request).2 (some position) := by
        refine ⟨gives.1,?_⟩
        rw [show (mysqlStep atof s request).2 = s from gives.2]
        exact shows
      cases request with
      | numFields =>
        refine still ?_
        simp only [mysqlPerform,bindApply,mysqlNumFields shows]
        exact ⟨rfl,rfl⟩
      | fieldIndex szField =>
        refine still ?_
        simp only [mysqlPerform,bindApply,mysqlIndex shows]
        cases there : columnOf sel (.name szField) with
        | none => exact ⟨by simp [answered,answer,there],rfl⟩
        | some nField => exact ⟨by simp [answered,answer,there],rfl⟩
      | fieldName nCol =>
        refine still ?_
        simp only [mysqlPerform,bindApply,mysqlFieldName shows admits]
        by_cases inside : 0 ≤ nCol ∧ nCol < sel.names.length
        · simp only [answer,if_pos inside]
          exact ⟨rfl,rfl⟩
        · simp only [answer,if_neg inside]
          exact ⟨rfl,rfl⟩
      | fieldDataIsNull nField =>
        exact still (mysqlReads shows (nullFunnels nField) admits fun cell _ => ⟨_,rfl,rfl⟩)
      | fieldValue field =>
        have present (cell : Option CString) (some : cell ≠ none) :
            ∃ a, textOf cell = .ok a ∧ Answer.text (.some a) = .text cell := by
          cases cell with
          | none => exact absurd rfl some
          | some a => exact ⟨a,rfl,rfl⟩
        cases field with
        | index nField => exact still (mysqlReads shows (valueFunnels nField) admits present)
        | name szField => exact still (mysqlReadsNamed shows valueFunnels admits present)
      | getIntField field nNullValue =>
        cases field with
        | index nField => exact still (mysqlReads shows (intFunnels nField nNullValue) admits fun cell _ => ⟨_,rfl,rfl⟩)
        | name szField =>
          refine still (mysqlReadsNamed shows (fun c => intFunnels c 0) admits fun cell plain => ⟨_,rfl,?_⟩)
          rcases plain with present | rfl
          · cases cell with
            | none => exact absurd rfl present
            | some a => rfl
          · rfl
      | getDoubleField field fNullValue =>
        cases field with
        | index nField =>
          exact still (mysqlReads shows (doubleFunnels atof nField fNullValue) admits fun cell _ => ⟨_,rfl,rfl⟩)
        | name szField =>
          refine still (mysqlReadsNamed shows (fun c => doubleFunnels atof c 0) admits fun cell plain => ⟨_,rfl,?_⟩)
          rcases plain with present | rfl
          · cases cell with
            | none => exact absurd rfl present
            | some a => rfl
          · rfl
      | getStringField field szNullValue =>
        cases field with
        | index nField =>
          exact still (mysqlReads shows (stringOrFunnels nField szNullValue) admits fun cell _ => ⟨_,rfl,rfl⟩)
        | name szField =>
          refine still (mysqlReadsNamed shows (fun c => stringOrFunnels c (some default)) admits fun cell plain => ⟨_,rfl,?_⟩)
          rcases plain with present | rfl
          · cases cell with
            | none => exact absurd rfl present
            | some a => rfl
          · rfl
      | eof =>
        obtain ⟨res,data,stands,rows,named⟩ := id shows
        refine still ?_
        simp only [mysqlPerform,bindApply,eofAt stands,rows]
        exact ⟨rfl,rfl⟩
      | nextRow =>
        obtain ⟨res,data,stands,rows,named⟩ := shows
        have below : position < data.rows.length := rows ▸ admits
        obtain ⟨result,next⟩ := nextRowAt stands
        have moved : Foundation.Position.saturated data.rows.length position .next = position + 1 :=
          Nat.min_eq_left below
        rw [moved] at next
        simp only [mysqlStep,mysqlPerform,bindApply,result]
        exact ⟨rfl,res,data,next,rows,named⟩
      | clear =>
        simp only [mysqlStep,mysqlPerform,bindApply,clearLeft]
        exact ⟨rfl,rfl⟩
  exact ⟨fun s t i shows admits => (both s t i shows admits).1,fun s t i shows admits => (both s t i shows admits).2⟩

end MySQL

section SQLite
open SQLiteClient CppSQLite3Query

def sqlitePerform (client : Client) : Request → Op CppSQLite3Query Answer
  | .numFields => do return .int (← numFields)
  | .fieldIndex szField => do return .int (← fieldIndex szField)
  | .fieldName nCol => do return .text (← fieldName nCol)
  | .fieldValue field => do return .text (← fieldValue (← field.find))
  | .fieldDataIsNull nField => do return .bool (← fieldDataIsNull nField)
  | .getIntField field nNullValue => do return .int (← getIntField (← field.find) nNullValue)
  | .getDoubleField field fNullValue => do return .double (← getDoubleField (← field.find) fNullValue)
  | .getStringField field szNullValue => do return .text (← getStringField (← field.find) szNullValue)
  | .eof => do return .bool (← eof)
  | .nextRow => do
    nextRow client
    return .unit
  | .clear => do
    clear client
    return .unit

def sqliteStep (client : Client) (s : Scope World CppSQLite3Query) (request : Request) :
    Answer × Scope World CppSQLite3Query :=
  (answered (· = .undefined) (sqlitePerform client request s),left (sqlitePerform client request s))

/-- The value is this cell, and converts to numbers as its text does. -/
structure Renders (atof : CString → UInt64) (value : Value) (cell : Option CString) : Prop where
  null : value.type = SQLITE_NULL ↔ cell = none
  text : value.text = cell
  int : ∀ digits, cell = some digits → value.int = atoi digits
  double : ∀ digits, cell = some digits → value.double = atof digits

/-- The object steps an execution that yields the selection, and stands at a position of it. -/
structure Stands (atof : CString → UInt64) (sel : Selection) (position id : Nat) (s : Scope World CppSQLite3Query) :
    Prop where
  held : s.this.mpStmt = some id
  count : s.this.mnFieldsCount = sel.names.length
  ended : s.this.mbEof = decide (position = sel.rows.length)
  stmt : ∃ conn, ∃ e : Execution sel.names.length, List.Forall₂ (List.Forall₂ (Renders atof)) e.rows sel.rows ∧
    e.ending = SQLITE_DONE ∧
    s.world.stmts id = ⟨conn,sel.names,if position < sel.rows.length then .onRow e position else .ended e⟩

def SQLiteShows (atof : CString → UInt64) (sel : Selection) (s : Scope World CppSQLite3Query) : Option Nat → Prop
  | none => s.this.mpStmt = none
  | some position => ∃ id, Stands atof sel position id s

variable {atof : CString → UInt64} {sel : Selection}

section Reading
variable {position id : Nat} {s : Scope World CppSQLite3Query} (stands : Stands atof sel position id s)
include stands

theorem sqliteColumns : (s.world.stmts id).columns = sel.names := by
  obtain ⟨conn,e,_,_,stmt⟩ := stands.stmt
  rw [stmt]

theorem sqliteCell {nField : Int} (low : 0 ≤ nField) {cell : Option CString}
    (inside : cellAt sel position nField.toNat = some cell) : nField < s.this.mnFieldsCount ∧
      ∃ value, (s.world.stmts id).value nField = some value ∧ Renders atof value cell := by
  obtain ⟨cells,atRow,inRow⟩ := Option.bind_eq_some_iff.mp inside
  obtain ⟨conn,e,same,_,stmt⟩ := stands.stmt
  obtain ⟨below,rfl⟩ := List.getElem?_eq_some_iff.mp atRow
  obtain ⟨column,rfl⟩ := List.getElem?_eq_some_iff.mp inRow
  have width := sel.rectangular _ (List.getElem_mem below)
  have rows := same.length_eq
  have rowSame := (List.forall₂_iff_get.mp same).2 position (by omega) below
  have columns := rowSame.length_eq
  simp only [List.get_eq_getElem] at rowSame columns
  have renders := (List.forall₂_iff_get.mp rowSame).2 nField.toNat (by omega) column
  refine ⟨by rw [stands.count]; omega,_,?_,renders⟩
  rw [stmt,if_pos below]
  simp only [Sqlite3Stmt.value,if_neg (Int.not_lt.mpr low),List.get_eq_getElem]
  rw [List.getElem?_eq_getElem (by omega : position < e.rows.length),Option.bind_some,List.getElem?_eq_getElem]

end Reading

/-- The accessor is a function of the value of its column, for columns of the current row. -/
def Extracts {α : Type} (f : Int → Op CppSQLite3Query α) (g : Value → α) : Prop :=
  ∀ (s : Scope World CppSQLite3Query) (pStmt : Nat) (nField : Int) (value : Value), s.this.mpStmt = some pStmt →
    0 ≤ nField → nField < s.this.mnFieldsCount → (s.world.stmts pStmt).value nField = some value →
    f nField s = .ok (g value) s

theorem valueExtracts : Extracts fieldValue Value.text := fun _ _ _ _ held _ _ shown => fieldValueApply held shown

theorem nullExtracts : Extracts fieldDataIsNull fun value => value.type = SQLITE_NULL :=
  fun _ _ _ _ held low high shown => fieldDataIsNullApply held low high shown

theorem extractsElse {α : Type} {f : Int → Op CppSQLite3Query α} {g : Value → α} (extracts : Extracts f g) (d : α) :
    Extracts (fun nField => do if !(← fieldDataIsNull nField) then f nField else return d)
      fun value => if value.type = SQLITE_NULL then d else g value := by
  intro s pStmt nField value held low high shown
  simp only [bindApply,nullExtracts s pStmt nField value held low high shown]
  by_cases null : value.type = SQLITE_NULL
  · simp [null]
  · simp [null,extracts s pStmt nField value held low high shown]

theorem columnExtracts {α : Type} (g : Value → α) :
    Extracts (fun nField => do return g (← sqlite3Column (← handle) nField)) g := by
  intro s pStmt nField value held _ _ shown
  simp only [bindApply,handleApply held,columnApply,shown,pureApply]

theorem stringExtracts (d : Option CString) : Extracts (fun nField => getStringField nField d)
    fun value => if value.type = SQLITE_NULL then d else value.text := extractsElse valueExtracts d

theorem intExtracts (d : Int) : Extracts (fun nField => getIntField nField d)
    fun value => if value.type = SQLITE_NULL then d else value.int := extractsElse (columnExtracts Value.int) d

theorem doubleExtracts (d : UInt64) : Extracts (fun nField => getDoubleField nField d)
    fun value => if value.type = SQLITE_NULL then d else value.double := extractsElse (columnExtracts Value.double) d

theorem sqliteIndex {position id : Nat} {s : Scope World CppSQLite3Query} (stands : Stands atof sel position id s)
    (szField : Option CString) : fieldIndex szField s =
    match columnOf sel (.name szField) with
    | some nField => .ok (nField : Int) s
    | none => .error (.thrown (exception CPPQLITE3L_QUERY_ERROR (some (text "Invalid field name requested")))) s := by
  cases szField with
  | none => exact fieldIndexNull stands.held
  | some name => exact fieldIndexApply stands.held (sqliteColumns stands) stands.count name

/-- An accessor gives what the cell of its column shows. -/
theorem sqliteReads {α : Type} {position id : Nat} {s : Scope World CppSQLite3Query} (stands : Stands atof sel position id s)
    {f : Int → Op CppSQLite3Query α} {g : Value → α} (extracts : Extracts f g) {field : FieldRef}
    {wrap : α → Answer} {shown : Option CString → Answer} {fine : Option CString → Prop}
    (reads : Reads sel position field fine)
    (same : ∀ value cell, Renders atof value cell → fine cell → wrap (g value) = shown cell) :
    Gives (· = .undefined) s (read sel position field shown) ((do return wrap (← f (← field.find))) s) := by
  have found {nField : Int} (low : 0 ≤ nField) {cell : Option CString}
      (inside : cellAt sel position nField.toNat = some cell) (fits : fine cell) :
      ∃ value, f nField s = .ok (g value) s ∧ wrap (g value) = shown cell := by
    obtain ⟨high,value,there,renders⟩ := sqliteCell stands low inside
    exact ⟨value,extracts s id nField value stands.held low high there,same value cell renders fits⟩
  cases field with
  | index nField =>
    obtain ⟨low,cell,inside,fits⟩ := reads
    obtain ⟨value,result,answers⟩ := found low inside fits
    simp only [FieldRef.find,bindApply,pureApply,result,Gives,answered,answers,read,columnOf,Option.elim,inside,leftOk,
      and_self]
  | name szField =>
    simp only [FieldRef.find,bindApply,sqliteIndex stands]
    cases there : columnOf sel (.name szField) with
    | none => exact ⟨by simp [answered,read,there],rfl⟩
    | some c =>
      obtain ⟨cell,inside,fits⟩ := reads c there
      obtain ⟨value,result,answers⟩ := found (Int.natCast_nonneg c) inside fits
      simp only [result,pureApply,Gives,answered,answers,read,there,Option.elim,inside,leftOk,and_self]

/-- The same call, its answer dropped. -/
def Request.sqlite : Request → CppSQLite3Query.Request
  | .numFields => .numFields
  | .fieldIndex szField => .fieldIndex szField
  | .fieldName nCol => .fieldName nCol
  | .fieldValue field => .fieldValue field
  | .fieldDataIsNull nField => .fieldDataIsNull nField
  | .getIntField field nNullValue => .getIntField field nNullValue
  | .getDoubleField field fNullValue => .getDoubleField field fNullValue
  | .getStringField field szNullValue => .getStringField field szNullValue
  | .eof => .eof
  | .nextRow => .nextRow
  | .clear => .clear

theorem sqliteDropped (client : Client) (request : Request) (s : Scope World CppSQLite3Query) :
    perform client request.sqlite s = match sqlitePerform client request s with
      | .ok _ t => .ok ⟨⟩ t
      | .error e t => .error e t := by
  have wrapped {α : Type} (m : Op CppSQLite3Query α) (wrap : α → Answer) : (do let _ ← m : Op CppSQLite3Query Unit) s =
      match (do return wrap (← m) : Op CppSQLite3Query Answer) s with
        | .ok _ t => .ok ⟨⟩ t
        | .error e t => .error e t := by
    simp only [bindApply]
    cases m s <;> rfl
  have found {α : Type} (f : Int → Op CppSQLite3Query α) (wrap : α → Answer) (field : FieldRef) :
      (do let _ ← f (← field.find) : Op CppSQLite3Query Unit) s =
      match (do return wrap (← f (← field.find)) : Op CppSQLite3Query Answer) s with
        | .ok _ t => .ok ⟨⟩ t
        | .error e t => .error e t := by
    simp only [bindApply]
    cases field.find s with
    | error e t => rfl
    | ok c t =>
      dsimp only
      cases f c t <;> rfl
  cases request with
  | numFields => exact wrapped numFields .int
  | fieldIndex szField => exact wrapped (fieldIndex szField) .int
  | fieldName nCol => exact wrapped (fieldName nCol) .text
  | fieldValue field => exact found fieldValue .text field
  | fieldDataIsNull nField => exact wrapped (fieldDataIsNull nField) .bool
  | getIntField field nNullValue => exact found (fun c => getIntField c nNullValue) .int field
  | getDoubleField field fNullValue => exact found (fun c => getDoubleField c fNullValue) .double field
  | getStringField field szNullValue => exact found (fun c => getStringField c szNullValue) .text field
  | eof => exact wrapped eof .bool
  | nextRow =>
    simp only [Request.sqlite,perform,sqlitePerform,bindApply]
    cases nextRow client s <;> rfl
  | clear =>
    simp only [Request.sqlite,perform,sqlitePerform,bindApply]
    cases clear client s <;> rfl

theorem sqliteCleared (client : Client) {s : Scope World CppSQLite3Query} (none : s.this.mpStmt = none)
    {request : Request} (admits : Admits sel .none request) :
    (sqliteStep client s request).1 = (answer atof sel .none request).1 ∧
      (answer atof sel .none request).2 = .none ∧ (sqliteStep client s request).2.this.mpStmt = .none := by
  by_cases clears : request = .clear
  · subst clears
    simp only [sqliteStep,sqlitePerform,bindApply,clearNone client none]
    exact ⟨rfl,rfl,none⟩
  · have uses : request.sqlite ≠ .clear := by
      cases request with
      | clear => exact absurd rfl clears
      | _ => exact nofun
    have refused := performNone client none uses
    rw [sqliteDropped] at refused
    unfold sqliteStep
    cases result : sqlitePerform client request s with
    | ok a t =>
      rw [result] at refused
      cases refused
    | error e t =>
      rw [result] at refused
      cases refused
      cases request with
      | clear => exact absurd rfl clears
      | _ => exact ⟨rfl,rfl,none⟩

theorem sqliteNext (client : Client) {position id : Nat} {s : Scope World CppSQLite3Query}
    (stands : Stands atof sel position id s) (below : position < sel.rows.length) :
    ∃ t, nextRow client s = .ok ⟨⟩ t ∧ Stands atof sel (position + 1) id t := by
  obtain ⟨conn,e,same,done,stmt⟩ := stands.stmt
  have rows := same.length_eq
  rw [if_pos below] at stmt
  by_cases another : position + 1 < e.rows.length
  · obtain ⟨returns,next⟩ := SQLiteLoops.nextRowMore client stands.held stmt another
    refine ⟨_,returns,stands.held,stands.count,?_,conn,e,same,done,?_⟩
    · rw [stands.ended,decide_eq_decide]
      omega
    · rw [if_pos (by omega)]
      exact next
  · obtain ⟨returns,next⟩ := SQLiteLoops.nextRowDone client stands.held stmt another done
    refine ⟨_,returns,stands.held,stands.count,?_,conn,e,same,done,?_⟩
    · have last : position + 1 = sel.rows.length := by omega
      simp [last]
    · rw [if_neg (by omega)]
      exact next

theorem sqliteClear (client : Client) {position id : Nat} {s : Scope World CppSQLite3Query}
    (stands : Stands atof sel position id s) : ∃ t, clear client s = .ok ⟨⟩ t ∧ t.this.mpStmt = none := by
  obtain ⟨conn,e,_,done,stmt⟩ := stands.stmt
  have fine : (s.world.stmts id).progress.failure = SQLITE_OK := by
    rw [stmt]
    dsimp only
    split
    · rfl
    · exact if_pos done
  have result := clearApply client s
  simp only [stands.held,fine,ne_eq,not_true_eq_false,if_false] at result
  exact ⟨_,result,by simp only [released,stands.held]⟩

theorem sqliteAnswers (client : Client) (atof : CString → UInt64) (sel : Selection) :
    Answers (SQLiteShows atof sel) (Admits sel) (sqliteStep client) (answer atof sel) := by
  have both : ∀ s cursor request, SQLiteShows atof sel s cursor → Admits sel cursor request →
      (sqliteStep client s request).1 = (answer atof sel cursor request).1 ∧
        SQLiteShows atof sel (sqliteStep client s request).2 (answer atof sel cursor request).2 := by
    intro s cursor request shows admits
    cases cursor with
    | none =>
      obtain ⟨alike,stays,none⟩ := sqliteCleared client shows admits
      rw [stays]
      exact ⟨alike,none⟩
    | some position =>
      obtain ⟨id,stands⟩ := id shows
      have still {a : Answer} (gives : Gives (· = .undefined) s a (sqlitePerform client request s)) :
          (sqliteStep client s request).1 = a ∧ SQLiteShows atof sel (sqliteStep client s request).2 (some position) := by
        refine ⟨gives.1,?_⟩
        rw [show (sqliteStep client s request).2 = s from gives.2]
        exact shows
      have defaults {α : Type} {value : Value} {cell : Option CString} (renders : Renders atof value cell) (d a : α)
          (f : CString → α) (same : ∀ digits, cell = some digits → a = f digits) :
          (if value.type = SQLITE_NULL then d else a) = cell.elim d f := by
        cases cell with
        | none => exact if_pos (renders.null.mpr rfl)
        | some digits =>
          have there : ¬ value.type = SQLITE_NULL := fun null => nomatch renders.null.mp null
          exact (if_neg there).trans (same digits rfl)
      cases request with
      | numFields =>
        refine still ?_
        simp only [sqlitePerform,bindApply,numFieldsApply stands.held,stands.count]
        exact ⟨rfl,rfl⟩
      | fieldIndex szField =>
        refine still ?_
        simp only [sqlitePerform,bindApply,sqliteIndex stands]
        cases there : columnOf sel (.name szField) with
        | none => exact ⟨by simp [answered,answer,there],rfl⟩
        | some nField => exact ⟨by simp [answered,answer,there],rfl⟩
      | fieldName nCol =>
        refine still ?_
        simp only [sqlitePerform,bindApply,fieldNameApply stands.held (sqliteColumns stands) stands.count]
        by_cases inside : 0 ≤ nCol ∧ nCol < sel.names.length
        · simp only [answer,if_pos inside]
          exact ⟨rfl,rfl⟩
        · simp only [answer,if_neg inside]
          exact ⟨rfl,rfl⟩
      | fieldDataIsNull nField =>
        have reads : Reads sel position (.index nField) fun _ => True := admits
        refine still (sqliteReads stands nullExtracts reads fun value cell renders _ => ?_)
        cases cell with
        | none => simp [renders.null]
        | some digits => simp [renders.null]
      | fieldValue field =>
        exact still (sqliteReads stands valueExtracts admits fun value cell renders _ => congrArg Answer.text renders.text)
      | getIntField field nNullValue =>
        exact still (sqliteReads stands (intExtracts nNullValue) admits fun value cell renders _ =>
          congrArg Answer.int (defaults renders nNullValue value.int atoi renders.int))
      | getDoubleField field fNullValue =>
        exact still (sqliteReads stands (doubleExtracts fNullValue) admits fun value cell renders _ =>
          congrArg Answer.double (defaults renders fNullValue value.double atof renders.double))
      | getStringField field szNullValue =>
        refine still (sqliteReads stands (stringExtracts szNullValue) admits fun value cell renders _ =>
          congrArg Answer.text (defaults renders szNullValue value.text some fun digits same => ?_))
        rw [renders.text,same]
      | eof =>
        refine still ?_
        simp only [sqlitePerform,bindApply,eofApply stands.held,stands.ended]
        exact ⟨rfl,rfl⟩
      | nextRow =>
        obtain ⟨t,result,next⟩ := sqliteNext client stands admits
        simp only [sqliteStep,sqlitePerform,bindApply,result]
        exact ⟨rfl,id,next⟩
      | clear =>
        obtain ⟨t,result,none⟩ := sqliteClear client stands
        simp only [sqliteStep,sqlitePerform,bindApply,result]
        exact ⟨rfl,none⟩
  exact ⟨fun s t i shows admits => (both s t i shows admits).1,fun s t i shows admits => (both s t i shows admits).2⟩

end SQLite

theorem answerDefined {atof : CString → UInt64} {sel : Selection} {cursor : Option Nat} {request : Request}
    (admits : Admits sel cursor request) : (answer atof sel cursor request).1 ≠ .undefined := by
  have defined {position : Nat} {field : FieldRef} {fine : Option CString → Prop} {shown : Option CString → Answer}
      (reads : Reads sel position field fine) (never : ∀ cell, shown cell ≠ .undefined) :
      read sel position field shown ≠ .undefined := by
    cases field with
    | index nField =>
      obtain ⟨_,cell,inside,_⟩ := reads
      simpa [read,columnOf,inside] using never cell
    | name szField =>
      cases there : columnOf sel (.name szField) with
      | none => simp [read,there]
      | some c =>
        obtain ⟨cell,inside,_⟩ := reads c there
        simpa [read,there,inside] using never cell
  cases cursor with
  | none => cases request <;> simp [answer]
  | some position =>
    cases request with
    | fieldDataIsNull nField =>
      have reads : Reads sel position (.index nField) fun _ => True := admits
      exact defined reads fun cell => by simp
    | fieldValue field | getIntField field nNullValue | getDoubleField field fNullValue | getStringField field szNullValue =>
      exact defined admits fun cell => by simp
    | fieldIndex szField => cases there : columnOf sel (.name szField) <;> simp [answer,there]
    | fieldName nCol =>
      simp only [answer]
      split <;> simp
    | numFields | eof | nextRow | clear => simp [answer]

section Fresh

/-- `db.execQuery(szSQL)`, when it returns a query. -/
def mysqlDirect (client : MySQLClient.Client) (szSQL : CString) (s : Scope MySQLClient.World CppMySQLDB) :
    Option (Scope MySQLClient.World CppMySQLQuery) :=
  match CppMySQLDB.execQuery client szSQL s with
  | .ok q t => some ⟨t.world,q⟩
  | .error _ _ => none

/-- The server executes the text, and its result is the selection. -/
structure MySQLSelects (client : MySQLClient.Client) (szSQL : CString) (s : Scope MySQLClient.World CppMySQLDB)
    (sel : Selection) : Prop where
  connected : CppMySQLDB.Connected true s
  executed : (CppMySQLDB.reply client s (.realQuery szSQL)).rc = 0
  stored : ∃ data, (CppMySQLDB.reply client (CppMySQLDB.asked client s (.realQuery szSQL)) .storeResult).stored = some data ∧
    data.rows = sel.rows ∧ data.fields.map MySQLClient.MysqlField.name = sel.names.map some

/-- The text is a statement, and its execution yields the selection and ends. -/
structure SQLiteSelects (atof : CString → UInt64) (client : SQLiteClient.Client) (szSQL : CString)
    (s : Scope SQLiteClient.World CppSQLite3DB) (sel : Selection) : Prop where
  statement : ∃ pDB, s.this.mpDB = some pDB ∧
    (client.prepare s.world.log pDB szSQL).rc = SQLiteClient.SQLITE_OK ∧
    (client.prepare s.world.log pDB szSQL).columns = some sel.names ∧
    (SQLiteLoops.execution client s pDB szSQL sel.names).ending = SQLiteClient.SQLITE_DONE ∧
    List.Forall₂ (List.Forall₂ (Renders atof)) (SQLiteLoops.execution client s pDB szSQL sel.names).rows sel.rows

variable {atof : CString → UInt64} {szSQL : CString} {sel : Selection}

theorem mysqlSelected {client : MySQLClient.Client} {s : Scope MySQLClient.World CppMySQLDB}
    (selects : MySQLSelects client szSQL s sel) : ∃ q, mysqlDirect client szSQL s = some q ∧ MySQLShows sel q (some 0) := by
  obtain ⟨data,kept,rows,named⟩ := selects.stored
  have returns := CppMySQLDB.execQueryApply client szSQL s
  simp only [if_pos selects.connected,if_pos selects.executed,CppMySQLDB.stored,kept,CppMySQLQuery.ofRESApply] at returns
  have stands := MySQLCursor.execQueryAt returns rfl
  unfold mysqlDirect
  rw [returns]
  refine ⟨_,rfl,_,_,stands,?_⟩
  have result := MySQLClient.storeSelf
    (CppMySQLDB.asked client (CppMySQLDB.asked client s (.realQuery szSQL)) .storeResult).world data
  simp only [MySQLClient.World.seekRes,MySQLClient.setResSelf]
  exact ⟨(congrArg (fun r => r.data.rows) result).trans rows,
    (congrArg (fun r => r.data.fields.map MySQLClient.MysqlField.name) result).trans named⟩

theorem sqliteSelected {client : SQLiteClient.Client} {s : Scope SQLiteClient.World CppSQLite3DB}
    (selects : SQLiteSelects atof client szSQL s sel) :
    ∃ q, SQLiteLoops.direct client szSQL s = some q ∧ SQLiteShows atof sel q (some 0) := by
  obtain ⟨pDB,opened,ok,columns,done,same⟩ := selects.statement
  have rows := same.length_eq
  refine ⟨_,SQLiteLoops.directApply client opened ok columns done,s.world.nStmts,rfl,rfl,?_,pDB,_,same,done,?_⟩
  · rw [decide_eq_decide,rows]
    exact eq_comm
  · rw [(SQLiteLoops.firstStep client done).2]
    simp only [rows]

/-- Where both servers select the same, the queries that execQuery returns on either backend
cannot be told apart through the interface they share. -/
theorem queriesInterchangeable (mysql : MySQLClient.Client) (sqlite : SQLiteClient.Client) (atof : CString → UInt64)
    (szSQL : CString) (sel : Selection) (s : Scope MySQLClient.World CppMySQLDB) (t : Scope SQLiteClient.World CppSQLite3DB)
    (first : MySQLSelects mysql szSQL s sel) (second : SQLiteSelects atof sqlite szSQL t sel) :
    ∃ p q, mysqlDirect mysql szSQL s = some p ∧ SQLiteLoops.direct sqlite szSQL t = some q ∧
      ∀ requests, Guarded (after (answer atof sel)) (Admits sel) (some 0) requests →
        transcript (mysqlStep atof) p requests = transcript (sqliteStep sqlite) q requests ∧
        .undefined ∉ transcript (sqliteStep sqlite) q requests := by
  obtain ⟨p,returned,stored⟩ := mysqlSelected first
  obtain ⟨q,begun,steps⟩ := sqliteSelected second
  refine ⟨p,q,returned,begun,fun requests admitted => ?_⟩
  have alike := transcriptsAgree (mysqlAnswers atof sel) stored admitted
  have likewise := transcriptsAgree (sqliteAnswers sqlite atof sel) steps admitted
  refine ⟨alike.trans likewise.symm,fun inside => ?_⟩
  rw [likewise] at inside
  exact transcriptAll (P := fun o => o ≠ .undefined) (I := fun _ => True) (fun _ _ _ _ => trivial)
    (fun cursor i _ admits => answerDefined admits) trivial admitted _ inside rfl

end Fresh

def oneAndNull : Selection := ⟨[text "n"],[[some (text "1")],[none]],by decide,by decide⟩

def oneAndNullStored : MySQLClient.ResultData :=
  ⟨[⟨some (text "n"),3⟩],[[some (text "1")],[none]],by decide,by decide,by decide⟩

def readBoth : List Request :=
  [.getIntField (.name (some (text "n"))) 0,.fieldName (-1),.nextRow,.getStringField (.index 0) none,.nextRow,.eof,
    .clear,.fieldValue (.name (some (text "n")))]

theorem readBothAdmitted : Guarded (after (answer (fun _ => 0) oneAndNull)) (Admits oneAndNull) (some 0) readBoth := by
  unfold readBoth
  simp only [guardedCons,guardedNil,and_true]
  have int : ColumnNames.isInt (-1) := ⟨by decide,by decide⟩
  have both : 0 < oneAndNull.rows.length ∧ 1 < oneAndNull.rows.length := by decide
  refine ⟨fun c there => ?_,int,both.1,⟨by decide,none,by decide,trivial⟩,both.2,trivial,trivial,trivial⟩
  have first : columnOf oneAndNull (.name (some (text "n"))) = some 0 := by decide
  cases first.symm.trans there
  exact ⟨some (text "1"),by decide,.inr rfl⟩

theorem oneAndNullRenders : List.Forall₂ (List.Forall₂ (Renders fun _ => 0)) SQLiteReads.oneAndNull oneAndNull.rows := by
  have renders : Renders (fun _ => 0) SQLiteLoops.one (some (text "1")) := by
    refine ⟨by decide,rfl,fun digits same => ?_,fun digits same => rfl⟩
    cases same
    decide
  have blank : Renders (fun _ => 0) SQLiteReads.null none := ⟨by decide,rfl,nofun,nofun⟩
  exact .cons (.cons renders .nil) (.cons (.cons blank .nil) .nil)

theorem queriesInterchangeableOneAndNull :
    ∃ p q, mysqlDirect (.yielding oneAndNullStored) (text "select n") (CppMySQLDB.opened 0 (text "d")) = some p ∧
      SQLiteLoops.direct (SQLiteLoops.answering SQLiteReads.oneAndNull (by decide)) (text "select n") SQLiteLoops.onOpen =
        some q ∧
      transcript (mysqlStep fun _ => 0) p readBoth =
        transcript (sqliteStep (SQLiteLoops.answering SQLiteReads.oneAndNull (by decide))) q readBoth := by
  obtain ⟨p,q,first,second,alike⟩ := queriesInterchangeable (.yielding oneAndNullStored)
    (SQLiteLoops.answering SQLiteReads.oneAndNull (by decide)) (fun _ => 0) (text "select n") oneAndNull
    (CppMySQLDB.opened 0 (text "d")) SQLiteLoops.onOpen ⟨by decide,rfl,oneAndNullStored,rfl,rfl,rfl⟩
    ⟨0,rfl,rfl,rfl,rfl,oneAndNullRenders⟩
  exact ⟨p,q,first,second,(alike readBoth readBothAdmitted).1⟩

end PortableQueries
end DatabaseLayer
