import DatabaseLayer.Foundation.Lookup
import DatabaseLayer.MySQLCursor
import DatabaseLayer.ResultSetCursors
import DatabaseLayer.SQLiteRules

/-! Columns by name and by number. MySQL's query looks them up with the field cursor the library
keeps of a result, which here stays between the calls as it does there. -/
namespace DatabaseLayer.ColumnNames
open Platform Foundation.Program Foundation.Run Foundation.Lookup Foundation.Position

def wrapUInt (x : Int) : Nat := (x % 2^32).toNat

/-- The calls made before. A call that a class does not have is none. -/
inductive Earlier where
  | fieldIndex (szField : Option CString)
  | fieldName (nCol : Int)
  | fieldDataType (nCol : Int)
  | move (m : Move)
  deriving Repr

def isInt (i : Int) : Prop := -2^31 ≤ i ∧ i < 2^31

section FieldCursor
open MySQLClient

/-- The world, and where the field cursor of each result stands. -/
structure FieldWorld where
  world : World
  fieldCursors : Nat → Nat

abbrev FieldOp (α : Type) := Method Stop FieldWorld CppMySQLQuery α

def plain (s : Scope FieldWorld CppMySQLQuery) : Scope World CppMySQLQuery := ⟨s.world.world,s.this⟩

/-- What comes back, whatever became of the field cursors. -/
def answer {α : Type} :
    EStateM.Result Stop (Scope FieldWorld CppMySQLQuery) α → EStateM.Result Stop (Scope World CppMySQLQuery) α
  | .ok a t => .ok a (plain t)
  | .error e t => .error e (plain t)

/-- A call that has nothing to do with the field cursors. -/
def lift {α : Type} (m : Op CppMySQLQuery α) : FieldOp α := fun s => match m (plain s) with
  | .ok a t => .ok a ⟨⟨t.world,s.world.fieldCursors⟩,t.this⟩
  | .error e t => .error e ⟨⟨t.world,s.world.fieldCursors⟩,t.this⟩

def mysqlFieldSeek (res offset : Nat) : FieldOp Unit :=
  onWorld (fun w => {w with fieldCursors := Function.update w.fieldCursors res offset})

/-- The field at the cursor, which moves on; NULL behind the last one. -/
def mysqlFetchField (res : Nat) : FieldOp (Option MysqlField) := do
  let w := (← get).world
  match (w.world.results res).data.fields[w.fieldCursors res]? with
  | some mField =>
    mysqlFieldSeek res (w.fieldCursors res + 1)
    return some mField
  | none => return none

/-- `while (nField < m_numFields)`, n places to go. -/
def fieldIndexFrom (res : Nat) (szField : CString) (nField : Nat) : Nat → FieldOp (Option Nat)
  | 0 => return none
  | n + 1 => do
    match ← mysqlFetchField res with
    | none => fieldIndexFrom res szField (nField + 1) n
    | some mField => match mField.name with
      | none => lift undefinedBehaviour
      | some name => if name = szField then return some nField else fieldIndexFrom res szField (nField + 1) n

def fieldIndex (szField : Option CString) : FieldOp Int := do
  lift CppMySQLQuery.checkRES
  let found ← match szField with
    | some name => do
      let res ← lift CppMySQLQuery.handle
      mysqlFieldSeek res 0
      fieldIndexFrom res name 0 (← get).this.mNumFields
    | none => pure none
  match found with
  | some nField => return wrapInt nField
  | none => lift (raise CPPMYSQL_QUERY_ERROR (text "Invalid field name requested"))

-- A negative number is a large offset.
def fieldName (nCol : Int) : FieldOp (Option CString) := do
  lift CppMySQLQuery.checkRES
  let res ← lift CppMySQLQuery.handle
  mysqlFieldSeek res (wrapUInt nCol)
  match ← mysqlFetchField res with
  | some mField => return mField.name
  | none => lift (raise CPPMYSQL_QUERY_ERROR (text "Invalid field column NO."))

def fieldDataType (nCol : Int) : FieldOp Int := do
  lift CppMySQLQuery.checkRES
  if nCol < 0 ∨ nCol > wrapInt (← get).this.mNumFields - 1 then
    lift (raise CPPMYSQL_QUERY_ERROR (text "Invalid field index requested"))
  else
    let res ← lift CppMySQLQuery.handle
    mysqlFieldSeek res (wrapUInt nCol)
    match ← mysqlFetchField res with
    | some mField => return mField.type
    | none => lift (raise CPPMYSQL_QUERY_ERROR (text "Invalid column NO."))

section Answers
variable {α β : Type} {s : Scope FieldWorld CppMySQLQuery} {res : Nat}

/-- The one program answers as the other does, whatever it does to the field cursors. -/
def Follows (m : FieldOp α) (m' : Op CppMySQLQuery α) : Prop := ∀ s, answer (m s) = m' (plain s)

theorem followsLift (m : Op CppMySQLQuery α) : Follows (lift m) m := by
  intro s
  unfold lift
  cases m (plain s) <;> rfl

theorem followsPure (a : α) : Follows (pure a) (pure a) := fun _ => rfl

theorem answerBind {m : FieldOp α} {m' : Op CppMySQLQuery α} {f : α → FieldOp β} {f' : α → Op CppMySQLQuery β}
    {u : Scope World CppMySQLQuery} (head : answer (m s) = m' u) (tail : ∀ a, Follows (f a) (f' a)) :
    answer ((m >>= f) s) = (m' >>= f') u := by
  rw [bindApply,bindApply,← head]
  cases m s with
  | ok a t => exact tail a t
  | error e t => rfl

theorem followsBind {m : FieldOp α} {m' : Op CppMySQLQuery α} {f : α → FieldOp β} {f' : α → Op CppMySQLQuery β}
    (head : Follows m m') (tail : ∀ a, Follows (f a) (f' a)) : Follows (m >>= f) (m' >>= f') :=
  fun s => answerBind (head s) tail

theorem fetchFieldApply (res : Nat) (s : Scope FieldWorld CppMySQLQuery) :
    mysqlFetchField res s = match (s.world.world.results res).data.fields[s.world.fieldCursors res]? with
      | some mField => .ok (some mField)
          ⟨⟨s.world.world,Function.update s.world.fieldCursors res (s.world.fieldCursors res + 1)⟩,s.this⟩
      | none => .ok none s := by
  simp only [mysqlFetchField,bindApply,getApply]
  cases (s.world.world.results res).data.fields[s.world.fieldCursors res]? <;> rfl

/-- The fields behind the cursor decide the search, and nothing else of the cursors does. -/
theorem fieldIndexFromAnswer (res : Nat) (szField : CString) (n nField : Nat) (s : Scope FieldWorld CppMySQLQuery) :
    answer (fieldIndexFrom res szField nField n s) = CppMySQLQuery.fieldIndexFrom szField nField n
      ((s.world.world.results res).data.fields.drop (s.world.fieldCursors res)) (plain s) := by
  induction n generalizing nField s with
  | zero => rfl
  | succ n ih =>
    simp only [fieldIndexFrom,bindApply,fetchFieldApply]
    cases at_ : (s.world.world.results res).data.fields[s.world.fieldCursors res]? with
    | none =>
      have past := List.drop_eq_nil_of_le (List.getElem?_eq_none_iff.mp at_)
      simp only [past,CppMySQLQuery.fieldIndexFrom]
      rw [ih,past]
    | some mField =>
      obtain ⟨below,same⟩ := List.getElem?_eq_some_iff.mp at_
      rw [List.drop_eq_getElem_cons below,same]
      simp only [CppMySQLQuery.fieldIndexFrom]
      cases mField.name with
      | none => rfl
      | some name =>
        by_cases found : name = szField
        · simp only [iteApply,if_pos found]
          rfl
        · simp only [iteApply,if_neg found,ih,Function.update_self]
          rfl

theorem checkApply (held : s.this.mpRES = some res) : lift CppMySQLQuery.checkRES s = .ok ⟨⟩ s := by
  simp only [lift,CppMySQLQuery.checkRES,plain,bindApply,getApply,iteApply,held,reduceCtorEq,if_false,pureApply]

theorem handleApply (held : s.this.mpRES = some res) : lift CppMySQLQuery.handle s = .ok res s := by
  simp only [lift,CppMySQLQuery.handle,plain,bindApply,getApply,held,pureApply]

theorem searchFollows (szField : CString) {f : Option Nat → FieldOp β} {f' : Option Nat → Op CppMySQLQuery β}
    (tail : ∀ found, Follows (f found) (f' found)) :
    Follows (do
      let res ← lift CppMySQLQuery.handle
      mysqlFieldSeek res 0
      let found ← fieldIndexFrom res szField 0 (← get).this.mNumFields
      f found) (do
        let found ← CppMySQLQuery.fieldIndexFrom szField 0 (← get).this.mNumFields
          (← CppMySQLQuery.mysqlFieldSeek (← CppMySQLQuery.handle) 0)
        f' found) := by
  intro s
  have same : (plain s).this = s.this := rfl
  cases held : s.this.mpRES with
  | none =>
    simp only [lift,CppMySQLQuery.handle,same,bindApply,getApply,held,undefinedApply]
    rfl
  | some res =>
    let t : Scope FieldWorld CppMySQLQuery := ⟨⟨s.world.world,Function.update s.world.fieldCursors res 0⟩,s.this⟩
    have start : t.world.fieldCursors res = 0 := Function.update_self _ _ _
    have searched := fieldIndexFromAnswer res szField s.this.mNumFields 0 t
    rw [start] at searched
    have handle : CppMySQLQuery.handle (plain s) = .ok res (plain s) := by
      simp only [CppMySQLQuery.handle,bindApply,getApply,same,held,pureApply]
    refine (congrArg answer ?_).trans ((answerBind searched tail).trans (Eq.symm ?_))
    · rw [bindApply,handleApply held]
      rfl
    · rw [bindApply,getApply]
      dsimp only
      rw [bindApply,handle]
      rfl

/-- Wherever the field cursor was left, a name has the index it has for a fresh one. -/
theorem fieldIndexFollows (szField : Option CString) : Follows (fieldIndex szField) (CppMySQLQuery.fieldIndex szField) := by
  have last (found : Option Nat) : Follows
      (match found with
        | some nField => return wrapInt nField
        | none => lift (raise CPPMYSQL_QUERY_ERROR (text "Invalid field name requested")))
      (match found with
        | some nField => return wrapInt nField
        | none => raise CPPMYSQL_QUERY_ERROR (text "Invalid field name requested")) := by
    cases found with
    | none => exact followsLift _
    | some nField => exact followsPure _
  refine followsBind (followsLift _) fun _ => ?_
  cases szField with
  | none => exact followsBind (followsPure none) last
  | some name => exact searchFollows name last

/-- A field fetched right after a seek is the first of those there. -/
theorem seekFollows (offset : Nat) {f : Option MysqlField → FieldOp β} {f' : List MysqlField → Op CppMySQLQuery β}
    (tail : ∀ fields, Follows (f fields.head?) (f' fields)) : Follows (do
      let res ← lift CppMySQLQuery.handle
      mysqlFieldSeek res offset
      f (← mysqlFetchField res)) (do f' (← CppMySQLQuery.mysqlFieldSeek (← CppMySQLQuery.handle) offset)) := by
  intro s
  have same : (plain s).this = s.this := rfl
  cases held : s.this.mpRES with
  | none =>
    simp only [lift,CppMySQLQuery.handle,same,bindApply,getApply,held,undefinedApply]
    rfl
  | some res =>
    let t : Scope FieldWorld CppMySQLQuery := ⟨⟨s.world.world,Function.update s.world.fieldCursors res offset⟩,s.this⟩
    have handle : CppMySQLQuery.handle (plain s) = .ok res (plain s) := by
      simp only [CppMySQLQuery.handle,bindApply,getApply,same,held,pureApply]
    have fetched : answer (mysqlFetchField res t) =
        .ok ((s.world.world.results res).data.fields.drop offset).head? (plain s) := by
      have start : t.world.fieldCursors res = offset := Function.update_self _ _ _
      rw [fetchFieldApply,start,List.head?_drop]
      cases (s.world.world.results res).data.fields[offset]? <;> rfl
    have before : (lift CppMySQLQuery.handle >>= fun res => mysqlFieldSeek res offset >>= fun _ =>
        mysqlFetchField res >>= f) s = (mysqlFetchField res >>= f) t := by
      rw [bindApply,handleApply held]
      rfl
    rw [before,bindApply,bindApply,handle]
    cases result : mysqlFetchField res t with
    | error e u =>
      rw [result] at fetched
      cases fetched
    | ok found u =>
      rw [result] at fetched
      injection fetched with first rest
      dsimp only
      rw [first,tail _ u,rest]
      rfl

theorem fieldNameFollows (held : s.this.mpRES = some res) (nCol : Int) : answer (fieldName nCol s) =
    match ((plain s).world.results res).data.fields[wrapUInt nCol]? with
      | some mField => .ok mField.name (plain s)
      | none => .error (.thrown (exception CPPMYSQL_QUERY_ERROR (some (text "Invalid field column NO.")))) (plain s) := by
  simp only [fieldName,bindApply,checkApply held,handleApply held,mysqlFieldSeek,onWorldApply,fetchFieldApply,
    Function.update_self,plain]
  cases (s.world.world.results res).data.fields[wrapUInt nCol]? <;> rfl

end Answers

section Still
variable {α : Type}

abbrev Still (m : FieldOp α) : Prop := Settles (fun _ => False) (fun s t => plain t = plain s) m

theorem stillLift {m : Op CppMySQLQuery α} (still : Settles (fun _ => False) (fun s t => id t = id s) m) : Still (lift m) := by
  refine settlesOfLeft fun s => ?_
  have same : left (m (plain s)) = plain s := settlesLeft still (plain s)
  unfold lift
  cases result : m (plain s) with
  | ok a t =>
    rw [result] at same
    exact same
  | error e t =>
    rw [result] at same
    exact same

theorem stillRaise (nErrCode : Int) (szErrMess : CString) :
    Still (lift (raise nErrCode szErrMess : Op CppMySQLQuery α)) := stillLift ⟨fun _ => .inr rfl⟩

theorem stillCheck : Still (lift CppMySQLQuery.checkRES) :=
  stillLift (settlesBind (chainEq id) (settlesGet (chainEq id)) fun _ =>
    settlesIte (fun _ => ⟨fun _ => .inr rfl⟩) fun _ => settlesPure (chainEq id) _)

theorem stillSeek (res offset : Nat) : Still (mysqlFieldSeek res offset) := settlesOnWorld fun _ => rfl

theorem stillFetch (res : Nat) : Still (mysqlFetchField res) := by
  refine settlesOfLeft fun s => ?_
  rw [fetchFieldApply]
  cases (s.world.world.results res).data.fields[s.world.fieldCursors res]? <;> rfl

theorem stillAt (nCol : Int) {f : Option MysqlField → FieldOp α} (after : ∀ mField, Still (f mField)) : Still (do
    let res ← lift CppMySQLQuery.handle
    mysqlFieldSeek res (wrapUInt nCol)
    let mField ← mysqlFetchField res
    f mField) :=
  settlesBind (chainEq plain) (stillLift CppMySQLQuery.settlesHandle) fun _ =>
    settlesBind (chainEq plain) (stillSeek _ _) fun _ => settlesBind (chainEq plain) (stillFetch _) after

theorem stillFieldName (nCol : Int) : Still (fieldName nCol) := by
  refine settlesBind (chainEq plain) stillCheck fun _ => stillAt nCol fun found => ?_
  cases found with
  | none => exact stillRaise _ _
  | some mField => exact settlesPure (chainEq plain) _

theorem stillFieldDataType (nCol : Int) : Still (fieldDataType nCol) := by
  refine settlesBind (chainEq plain) stillCheck fun _ => settlesBind (chainEq plain) (settlesGet (chainEq plain)) fun _ =>
    settlesIte (fun _ => stillRaise _ _) fun _ => stillAt nCol fun found => ?_
  cases found with
  | none => exact stillRaise _ _
  | some mField => exact settlesPure (chainEq plain) _

theorem plainLeft (r : EStateM.Result Stop (Scope FieldWorld CppMySQLQuery) α) : plain (left r) = left (answer r) := by
  cases r <;> rfl

theorem stillFieldIndex (szField : Option CString) (s : Scope FieldWorld CppMySQLQuery) :
    plain (left (fieldIndex szField s)) = plain s := by
  rw [plainLeft,fieldIndexFollows szField s]
  exact settlesLeft (CppMySQLQuery.settlesFieldIndex szField) (plain s)

end Still

section Holding
variable {names : List CString} {s : Scope World CppMySQLQuery}

/-- The object holds a result with columns of these names, which an int can count. -/
structure QueryNamed (names : List CString) (s : Scope World CppMySQLQuery) : Prop where
  held : ∃ res, s.this.mpRES = some res ∧ (s.world.results res).data.fields.map MysqlField.name = names.map some
  count : s.this.mNumFields = names.length
  few : names.length < 2^31

theorem moveNamed (named : QueryNamed names s) (m : Move) : QueryNamed names (MySQLCursor.move s m) := by
  obtain ⟨⟨res,held,fields⟩,count,few⟩ := named
  cases m with
  | next =>
    rw [MySQLCursor.move,CppMySQLQuery.nextRowApply,held]
    dsimp only
    cases (s.world.results res).dataCursor with
    | nil => exact ⟨⟨res,held,fields⟩,count,few⟩
    | cons cells rest => exact ⟨⟨res,held,by rwa [leftOk,setResSelf]⟩,count,few⟩
  | seek n =>
    rw [MySQLCursor.move,CppMySQLQuery.seekRowApply,held]
    exact ⟨⟨res,held,by rwa [leftOk,World.seekRes,setResSelf]⟩,count,few⟩

theorem holdingNamed {w : World} {res : Nat} (few : names.length < 2^31)
    (named : (w.results res).data.fields.map MysqlField.name = names.map some) :
    QueryNamed names ⟨w,.holding w res⟩ := by
  refine ⟨⟨res,rfl,named⟩,?_,few⟩
  have lengths := congrArg List.length named
  rwa [List.length_map,List.length_map] at lengths

/-- A call on the object, and what it leaves of the library. -/
def queryAfter (s : Scope FieldWorld CppMySQLQuery) : Earlier → Scope FieldWorld CppMySQLQuery
  | .fieldIndex szField => left (fieldIndex szField s)
  | .fieldName nCol => left (fieldName nCol s)
  | .fieldDataType nCol => left (fieldDataType nCol s)
  | .move .next => left (lift CppMySQLQuery.nextRow s)
  | .move (.seek n) => left (lift (CppMySQLQuery.seekRow n) s)

theorem queryNamedAfter (s : Scope FieldWorld CppMySQLQuery) (call : Earlier) (named : QueryNamed names (plain s)) :
    QueryNamed names (plain (queryAfter s call)) := by
  cases call with
  | fieldIndex szField => rwa [queryAfter,stillFieldIndex]
  | fieldName nCol =>
    have same : plain (left (fieldName nCol s)) = plain s := settlesLeft (stillFieldName nCol) s
    rwa [queryAfter,same]
  | fieldDataType nCol =>
    have same : plain (left (fieldDataType nCol s)) = plain s := settlesLeft (stillFieldDataType nCol) s
    rwa [queryAfter,same]
  | move m =>
    have moved : plain (queryAfter s (.move m)) = MySQLCursor.move (plain s) m := by
      cases m <;> exact (plainLeft _).trans (congrArg left (followsLift _ s))
    rw [moved]
    exact moveNamed named m

theorem fieldAt {fields : List MysqlField} (named : fields.map MysqlField.name = names.map some) (i : Nat) :
    fields[i]?.map MysqlField.name = names[i]?.map some := by
  rw [← List.getElem?_map,named,List.getElem?_map]

theorem answerOk {α : Type} {r : EStateM.Result Stop (Scope FieldWorld CppMySQLQuery) α} {a : α}
    {u : Scope World CppMySQLQuery} (same : answer r = .ok a u) : ∃ t, plain t = u ∧ r = .ok a t := by
  cases r with
  | ok b t =>
    cases same
    exact ⟨t,rfl,rfl⟩
  | error e t => cases same

theorem answerError {α : Type} {r : EStateM.Result Stop (Scope FieldWorld CppMySQLQuery) α} {e : Stop}
    {u : Scope World CppMySQLQuery} (same : answer r = .error e u) : ∃ t, r = .error e t := by
  cases r with
  | ok b t => cases same
  | error e t =>
    cases same
    exact ⟨t,rfl⟩

def refusal (e : Stop) : Prop := ∃ x, e = .thrown x

theorem queryAnswers (names : List CString) : Answers refusal isInt names some (fun n => fieldIndex (some n)) fieldName
    (fun s => QueryNamed names (plain s)) := by
  refine ⟨fun s named n => ?_,fun s named i n there => ?_,fun s named i int outside => ?_⟩
  · obtain ⟨res,held,fields⟩ := named.held
    have found := (fieldIndexFollows (some n) s).trans (CppMySQLQuery.fieldIndexApply held named.count fields)
    cases search : names.findIdx? (· = n) with
    | none =>
      rw [search] at found
      obtain ⟨t,refused⟩ := answerError found
      exact ⟨_,t,refused,_,rfl⟩
    | some i =>
      obtain ⟨below,_⟩ := List.findIdx?_eq_some_iff_getElem.mp search
      have few := named.few
      rw [search] at found
      dsimp only at found
      rw [wrapIntId (by omega) (by omega)] at found
      obtain ⟨t,same,returns⟩ := answerOk found
      exact ⟨t,same ▸ named,returns⟩
  · obtain ⟨res,held,fields⟩ := named.held
    obtain ⟨below,_⟩ := List.getElem?_eq_some_iff.mp there
    have few := named.few
    have offset : wrapUInt i = i := by unfold wrapUInt; omega
    have shows := fieldNameFollows held i
    have here := fieldAt fields i
    rw [offset] at shows
    rw [there] at here
    cases field : ((plain s).world.results res).data.fields[i]? with
    | none =>
      rw [field] at here
      cases here
    | some mField =>
      rw [field] at here shows
      have name : mField.name = some n := Option.some.inj here
      dsimp only at shows
      rw [name] at shows
      obtain ⟨t,same,returns⟩ := answerOk shows
      exact ⟨t,same ▸ named,returns⟩
  · obtain ⟨res,held,fields⟩ := named.held
    have few := named.few
    have past : names.length ≤ wrapUInt i := by
      unfold wrapUInt isInt at *
      omega
    have long : ((plain s).world.results res).data.fields.length = names.length := by
      have lengths := congrArg List.length fields
      rwa [List.length_map,List.length_map] at lengths
    have none : ((plain s).world.results res).data.fields[wrapUInt i]? = none := List.getElem?_eq_none (by omega)
    have refused := fieldNameFollows held i
    rw [none] at refused
    obtain ⟨t,throws⟩ := answerError refused
    exact ⟨_,t,throws,_,rfl⟩

end Holding
end FieldCursor

section Buffered
open MySQLClient CppMySQLResultSet
variable {names : List CString}

/-- The object holds a result set with columns of these names, which an int can count. -/
structure SetNamed (names : List CString) (s : Scope World CppMySQLResultSet) : Prop where
  held : ∃ addr entries fields, s.this.mpFieldMap = some ⟨addr,entries⟩ ∧ fieldMap 0 fields = .ok entries ∧
    fields.map MysqlField.name = names.map some
  count : s.this.mnCols = names.length
  few : names.length < 2^31

def setAfter (s : Scope World CppMySQLResultSet) : Earlier → Scope World CppMySQLResultSet
  | .fieldIndex szField => left (fieldColIndex szField s)
  | .fieldName nCol => left (CppMySQLResultSet.fieldName nCol s)
  | .fieldDataType _ => s
  | .move m => move ResultSetCursors.mysql s m

section Fields
variable {s : Scope World CppMySQLResultSet} {entries : List (Int × CString)}

theorem checkFieldsApply {addr : Nat} (held : s.this.mpFieldMap = some ⟨addr,entries⟩) : checkFields s = .ok entries s := by
  simp only [checkFields,bindApply,getApply,held,pureApply]

theorem fieldColIndexStill (szField : Option CString) (s : Scope World CppMySQLResultSet) :
    left (fieldColIndex szField s) = s := by
  simp only [fieldColIndex,checkFields,bindApply,getApply]
  cases s.this.mpFieldMap with
  | none => rfl
  | some fields =>
    simp only [pureApply]
    cases szField with
    | none => cases fields.value <;> rfl
    | some name =>
      dsimp only
      cases fields.value.find? (fun it => it.2 = name) <;> rfl

theorem fieldNameStill (nCol : Int) (s : Scope World CppMySQLResultSet) :
    left (CppMySQLResultSet.fieldName nCol s) = s := by
  simp only [CppMySQLResultSet.fieldName,checkFields,bindApply,getApply]
  cases s.this.mpFieldMap with
  | none => rfl
  | some fields =>
    simp only [pureApply,iteApply]
    split
    · cases fields.value.find? (fun it => it.1 = nCol) <;> rfl
    · rfl

end Fields

theorem copiedNamed {w : World} {data : ResultData} {entries : List (Int × CString)} (few : names.length < 2^31)
    (built : fieldMap 0 data.fields = .ok entries) (named : data.fields.map MysqlField.name = names.map some) :
    SetNamed names ⟨w,copied w data entries⟩ := by
  refine ⟨⟨_,entries,data.fields,rfl,built,named⟩,?_,few⟩
  have lengths := congrArg List.length named
  rwa [List.length_map,List.length_map] at lengths

theorem setNamedAfter (s : Scope World CppMySQLResultSet) (call : Earlier) (named : SetNamed names s) :
    SetNamed names (setAfter s call) := by
  cases call with
  | fieldIndex szField => rwa [setAfter,fieldColIndexStill]
  | fieldName nCol => rwa [setAfter,fieldNameStill]
  | fieldDataType nCol => exact named
  | move m => cases m <;> exact ⟨named.held,named.count,named.few⟩

theorem setAnswers (names : List CString) : Answers ColumnNames.refusal isInt names id
    (fun n => fieldColIndex (some n)) CppMySQLResultSet.fieldName (SetNamed names) := by
  refine ⟨fun s named n => ?_,fun s named i n there => ?_,fun s named i int outside => ?_⟩
  · obtain ⟨addr,entries,fields,held,built,same⟩ := named.held
    simp only [fieldColIndex,bindApply,checkFieldsApply held,fieldMapNamed built same n]
    cases names.findIdx? (· = n) with
    | none => exact ⟨_,s,rfl,_,rfl⟩
    | some i => exact ⟨s,named,by simp⟩
  · obtain ⟨addr,entries,fields,held,built,same⟩ := named.held
    obtain ⟨below,_⟩ := List.getElem?_eq_some_iff.mp there
    have few := named.few
    have count : wrapInt s.this.mnCols = names.length := by rw [named.count,wrapIntId (by omega) (by omega)]
    have inside : (i : Int) ≥ 0 ∧ (i : Int) < names.length := ⟨Int.natCast_nonneg i,Int.ofNat_lt.mpr below⟩
    have found := fieldMapAt built same i
    rw [Int.zero_add,there] at found
    refine ⟨s,named,?_⟩
    simp only [CppMySQLResultSet.fieldName,bindApply,checkFieldsApply held,getApply,iteApply,count,if_pos inside,found]
    rfl
  · obtain ⟨addr,entries,fields,held,_,_⟩ := named.held
    have few := named.few
    have count : wrapInt s.this.mnCols = names.length := by rw [named.count,wrapIntId (by omega) (by omega)]
    have refused : ¬ (i ≥ 0 ∧ i < names.length) := by omega
    simp only [CppMySQLResultSet.fieldName,bindApply,checkFieldsApply held,getApply,iteApply,count,if_neg refused]
    exact ⟨_,s,rfl,_,rfl⟩

end Buffered

section Stepped
open SQLiteClient CppSQLite3Query
variable {names : List CString} {client : Client}

/-- The object holds a statement with columns of these names. -/
structure StatementNamed (names : List CString) (s : Scope World CppSQLite3Query) : Prop where
  held : ∃ pStmt, s.this.mpStmt = some pStmt ∧ (s.world.stmts pStmt).columns = names
  count : s.this.mnFieldsCount = names.length

/-- A statement that fails on the way is finalized, and the object then holds none. -/
def StillNamed (names : List CString) (s : Scope World CppSQLite3Query) : Prop :=
  s.this.mpStmt = none ∨ StatementNamed names s

def statementAfter (client : Client) (s : Scope World CppSQLite3Query) : Earlier → Scope World CppSQLite3Query
  | .fieldIndex szField => left (perform client (.fieldIndex szField) s)
  | .fieldName nCol => left (perform client (.fieldName nCol) s)
  | .fieldDataType nCol => left (perform client (.fieldDataType nCol) s)
  | .move .next => left (perform client .nextRow s)
  | .move (.seek _) => s

theorem nextNamed (client : Client) (s : Scope World CppSQLite3Query) (named : StillNamed names s) :
    StillNamed names (left (nextRow client s)) := by
  obtain none | ⟨⟨pStmt,held,columns⟩,count⟩ := named
  · rw [nextRowNone client none]
    exact .inl none
  · by_cases fine : (advance client s.world.log pStmt (s.world.stmts pStmt)).1 = SQLITE_ROW ∨
        (advance client s.world.log pStmt (s.world.stmts pStmt)).1 = SQLITE_DONE
    · rw [nextRowApply client held fine]
      exact .inr ⟨⟨pStmt,held,by rwa [leftOk,World.stepped,setStmtSelf]⟩,count⟩
    · rw [nextRowFails client held fine,throwErrmsgApply]
      have gone : (released ⟨s.world.stepped client pStmt,s.this⟩).this.mpStmt = none := by
        simp only [released,held]
      refine .inl ?_
      cases (released ⟨s.world.stepped client pStmt,s.this⟩).this.mpDB <;> exact gone

theorem statementNamedAfter (s : Scope World CppSQLite3Query) (call : Earlier) (named : StillNamed names s) :
    StillNamed names (statementAfter client s call) := by
  cases call with
  | fieldIndex szField => rwa [statementAfter,accessorStill client (by rfl)]
  | fieldName nCol => rwa [statementAfter,accessorStill client (by rfl)]
  | fieldDataType nCol => rwa [statementAfter,accessorStill client (by rfl)]
  | move m =>
    cases m with
    | next => exact nextNamed client s named
    | seek n => exact named

def sqliteRefusal (e : Stop) : Prop := ∃ x, e = .thrown x

theorem statementAnswers (names : List CString) : Answers sqliteRefusal isInt names some
    (fun n => CppSQLite3Query.fieldIndex (some n)) CppSQLite3Query.fieldName (StatementNamed names) := by
  refine ⟨fun s named n => ?_,fun s named i n there => ?_,fun s named i int outside => ?_⟩
  · obtain ⟨pStmt,held,columns⟩ := named.held
    have found := fieldIndexApply held columns named.count n
    cases search : names.findIdx? (· = n) with
    | none =>
      rw [search] at found
      exact ⟨_,s,found,_,rfl⟩
    | some i =>
      rw [search] at found
      exact ⟨s,named,found⟩
  · obtain ⟨pStmt,held,columns⟩ := named.held
    obtain ⟨below,_⟩ := List.getElem?_eq_some_iff.mp there
    have shows := fieldNameApply held columns named.count i
    rw [if_pos ⟨Int.natCast_nonneg i,Int.ofNat_lt.mpr below⟩,Int.toNat_natCast,there] at shows
    exact ⟨s,named,shows⟩
  · obtain ⟨pStmt,held,columns⟩ := named.held
    have refused := fieldNameApply held columns named.count i
    rw [if_neg (by omega)] at refused
    exact ⟨_,s,refused,_,rfl⟩

end Stepped

section Tables
open SQLiteClient CppSQLite3ResultSet
variable {table : TableData}

def tableAfter (s : Scope World CppSQLite3ResultSet) : Earlier → Scope World CppSQLite3ResultSet
  | .fieldIndex szField => left (fieldColIndex szField s)
  | .fieldName nCol => left (CppSQLite3ResultSet.fieldName nCol s)
  | .fieldDataType _ => s
  | .move m => move ResultSetCursors.sqlite s m

theorem tableAnswers (table : TableData) : Answers sqliteRefusal isInt table.names some
    (fun n => fieldColIndex (some n)) CppSQLite3ResultSet.fieldName (fun s => Holds table s.this) := by
  refine ⟨fun s holds n => ?_,fun s holds i n there => ?_,fun s holds i int outside => ?_⟩
  · have found := fieldColIndexApply holds n
    cases search : table.names.findIdx? (· = n) with
    | none =>
      rw [search] at found
      exact ⟨_,s,found,_,rfl⟩
    | some i =>
      rw [search] at found
      exact ⟨s,holds,found⟩
  · obtain ⟨below,_⟩ := List.getElem?_eq_some_iff.mp there
    have shows := fieldNameApply holds i
    rw [if_pos ⟨Int.natCast_nonneg i,Int.ofNat_lt.mpr below⟩,Int.toNat_natCast,there] at shows
    exact ⟨s,holds,shows⟩
  · have refused := fieldNameApply holds i
    rw [if_neg (by omega)] at refused
    exact ⟨_,s,refused,_,rfl⟩

theorem colIndexStill {s : Scope World CppSQLite3ResultSet} (holds : Holds table s.this) (szField : Option CString) : left (fieldColIndex szField s) = s := by
  cases szField with
  | none => rw [fieldColIndexNull holds,leftError]
  | some n =>
    rw [fieldColIndexApply holds n]
    cases table.names.findIdx? (· = n) <;> rfl

theorem tableAfterHolds (s : Scope World CppSQLite3ResultSet) (call : Earlier) (holds : Holds table s.this) :
    Holds table (tableAfter s call).this := by
  cases call with
  | fieldIndex szField => rwa [tableAfter,colIndexStill holds]
  | fieldName nCol =>
    rw [tableAfter,fieldNameApply holds]
    split <;> exact holds
  | fieldDataType nCol => exact holds
  | move m =>
    cases m with
    | next => exact holdsNext holds
    | seek n => exact holdsSeek holds n

end Tables

/-- Whatever calls were made before, the columns of a result are looked up by name and by number
as in the list of their names. A SQLite query must not have lost its statement by then. -/
theorem columnNamesExact (client : SQLiteClient.Client) (names : List CString) (calls : List Earlier) :
    (∀ s, QueryNamed names (plain s) → Throughout queryAfter
      (LooksUp refusal isInt names some (fun n => fieldIndex (some n)) fieldName) s calls) ∧
    (∀ s, SetNamed names s → Throughout setAfter (LooksUp refusal isInt names id
      (fun n => CppMySQLResultSet.fieldColIndex (some n)) CppMySQLResultSet.fieldName) s calls) ∧
    (∀ s, StatementNamed names s → Throughout (statementAfter client) (fun t => t.this.mpStmt ≠ none →
      LooksUp sqliteRefusal isInt names some (fun n => CppSQLite3Query.fieldIndex (some n)) CppSQLite3Query.fieldName t) s calls) ∧
    (∀ s table, CppSQLite3ResultSet.Holds table s.this → table.names = names → Throughout tableAfter
      (LooksUp sqliteRefusal isInt names some (fun n => CppSQLite3ResultSet.fieldColIndex (some n))
        CppSQLite3ResultSet.fieldName) s calls) := by
  refine ⟨fun s named => ?_,fun s named => ?_,fun s named => ?_,fun s table holds same => ?_⟩
  · exact throughoutMono (fun _ => looksUp (queryAnswers names)) (invariantThroughout queryNamedAfter named calls)
  · exact throughoutMono (fun _ => looksUp (setAnswers names)) (invariantThroughout setNamedAfter named calls)
  · refine throughoutMono (fun t still some => ?_) (invariantThroughout statementNamedAfter (.inr named) calls)
    exact looksUp (statementAnswers names) (still.resolve_left some)
  · subst same
    exact throughoutMono (fun _ => looksUp (tableAnswers table)) (invariantThroughout tableAfterHolds holds calls)

section Repeated

/-- A name given to two columns. -/
def repeated : List CString := [text "n",text "m",text "n"]

def repeatedStored : MySQLClient.ResultData :=
  ⟨[⟨some (text "n"),3⟩,⟨some (text "m"),3⟩,⟨some (text "n"),3⟩],[[some (text "1"),none,some (text "2")]],by decide,by decide,
    by decide⟩

theorem repeatedSmall : (([] : List (List (Option CString))).length + 1) * repeated.length < 2^31 := by decide

theorem repeatedNoRows : ([] : List (List (Option CString))).length < 2^31 := Nat.two_pow_pos 31

def repeatedHeader : SQLiteClient.TableData :=
  ⟨repeated,[],fun _ inside => absurd inside List.not_mem_nil,repeatedNoRows,repeatedSmall⟩

def inVain : List Earlier := [.fieldIndex (some (text "m")),.fieldIndex (some (text "x")),.fieldName (-1),.move .next]

def onStored : Scope FieldWorld CppMySQLQuery :=
  ⟨⟨MySQLClient.World.initial.store repeatedStored,fun _ => 5⟩,.holding (MySQLClient.World.initial.store repeatedStored) 0⟩

def onCopied : Scope MySQLClient.World CppMySQLResultSet :=
  ⟨.initial,.copied .initial repeatedStored [(0,text "n"),(1,text "m"),(2,text "n")]⟩

def onStatement : Scope SQLiteClient.World CppSQLite3Query :=
  ⟨SQLiteClient.World.initial.setStmt 0 ⟨0,repeated,.initial⟩,⟨some 0,some 0,false,3⟩⟩

def onTable : Scope SQLiteClient.World CppSQLite3ResultSet := ⟨.initial,.ofTable ⟨0,repeatedHeader.pointers⟩ 0 3⟩

theorem columnNamesExactRepeated :
    LooksUp refusal isInt repeated some (fun n => fieldIndex (some n)) fieldName (run queryAfter onStored inVain) ∧
    LooksUp refusal isInt repeated id (fun n => CppMySQLResultSet.fieldColIndex (some n)) CppMySQLResultSet.fieldName
      (run setAfter onCopied inVain) ∧
    LooksUp sqliteRefusal isInt repeated some (fun n => CppSQLite3Query.fieldIndex (some n)) CppSQLite3Query.fieldName
      (run (statementAfter .obliging) onStatement inVain) ∧
    LooksUp sqliteRefusal isInt repeated some (fun n => CppSQLite3ResultSet.fieldColIndex (some n))
      CppSQLite3ResultSet.fieldName (run tableAfter onTable inVain) := by
  have few : repeated.length < 2^31 := by decide
  obtain ⟨query,set,statement,table⟩ := columnNamesExact .obliging repeated inVain
  refine ⟨throughoutLast (query onStored (holdingNamed few rfl)),throughoutLast (set onCopied (copiedNamed few rfl rfl)),
    ?_,throughoutLast (table onTable repeatedHeader ⟨⟨0,rfl⟩,rfl,rfl⟩ rfl)⟩
  exact throughoutLast (statement onStatement ⟨⟨0,rfl,rfl⟩,rfl⟩) nofun

end Repeated
end DatabaseLayer.ColumnNames
