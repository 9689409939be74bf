import DatabaseLayer.Foundation.Buffers
import DatabaseLayer.SQLiteClient

/-! The text of a CppSQLite3Exception, in the buffer the constructor prints it into. Which
snprintf does that is chosen by the preprocessor. -/
namespace DatabaseLayer.SQLiteExceptions
open Platform SQLiteClient Foundation.Buffers

def BUF_SIZE : Nat := 256

/-- `"[", CLASSS_NAME, "] "`, and the message unless it is NULL. -/
def errorText (nErrCode : Int) (szErrMess : Option CString) : CString :=
  text "[" ++ (className nErrCode).getD (text "sqlite3") ++ text "] " ++ szErrMess.getD default

/-- m_aszErrMess after the constructor. -/
def aszErrMess (snprintf : Formatter) (nErrCode : Int) (szErrMess : Option CString) : Cells :=
  snprintf.print (BUF_SIZE - 1) (errorText nErrCode szErrMess).bytes (List.replicate BUF_SIZE 0)

/-- The buffer is kept within its bounds, and holds the first 255 bytes of the text. -/
def HoldsStart (snprintf : Formatter) (nErrCode : Int) (szErrMess : Option CString) : Prop :=
  (aszErrMess snprintf nErrCode szErrMess).length = BUF_SIZE ∧
    held (aszErrMess snprintf nErrCode szErrMess) = some ((errorText nErrCode szErrMess).bytes.take (BUF_SIZE - 1))

theorem bufferKept (snprintf : Formatter) (nErrCode : Int) (szErrMess : Option CString) :
    (aszErrMess snprintf nErrCode szErrMess).length = BUF_SIZE := by
  rw [aszErrMess,printLength snprintf (by rw [List.length_replicate]; decide),List.length_replicate]

theorem heldC99 (nErrCode : Int) (szErrMess : Option CString) :
    held (aszErrMess .c99 nErrCode szErrMess) = some ((errorText nErrCode szErrMess).bytes.take (BUF_SIZE - 2)) :=
  c99Held (errorText nErrCode szErrMess).terminated

theorem heldMSVC (nErrCode : Int) (szErrMess : Option CString) :
    held (aszErrMess .msvc nErrCode szErrMess) = some ((errorText nErrCode szErrMess).bytes.take (BUF_SIZE - 1)) := by
  refine msvcHeld (errorText nErrCode szErrMess).terminated ?_ ?_
  · rw [List.length_replicate]
    decide
  · rw [List.length_replicate]

/-- The exceptions of the other modules are those of a C99 library. -/
theorem exceptionHeld (nErrCode : Int) (szErrMess : Option CString) :
    held (aszErrMess .c99 nErrCode szErrMess) = some (exception nErrCode szErrMess).aszErrMess.bytes := by
  have proper := takeProper (errorText nErrCode szErrMess).terminated (BUF_SIZE - 2)
  have whole : ∀ b ∈ (errorText nErrCode szErrMess).bytes.take (BUF_SIZE - 2), decide (b ≠ 0) = true :=
    fun b member => decide_eq_true fun same => proper (same ▸ member)
  rw [heldC99]
  exact congrArg some (List.takeWhile_eq_self_iff.mpr whole).symm

/-- The first 255 bytes of the text are kept by MSVC's snprintf; by that of C99, if there are
no more than 254. -/
theorem holdsStartIff (snprintf : Formatter) (nErrCode : Int) (szErrMess : Option CString) :
    HoldsStart snprintf nErrCode szErrMess ↔ snprintf = .msvc ∨ (errorText nErrCode szErrMess).strlen ≤ 254 := by
  have kept := bufferKept snprintf nErrCode szErrMess
  cases snprintf with
  | msvc => exact iff_of_true ⟨kept,heldMSVC nErrCode szErrMess⟩ (.inl rfl)
  | c99 =>
    rw [HoldsStart,heldC99,Option.some.injEq]
    constructor
    · rintro ⟨_,same⟩
      have lengths := congrArg List.length same
      rw [List.length_take,List.length_take] at lengths
      unfold BUF_SIZE at lengths
      exact .inr (by unfold CString.strlen; omega)
    · intro short
      have fits : (errorText nErrCode szErrMess).bytes.length ≤ 254 := short.resolve_left nofun
      refine ⟨kept,?_⟩
      rw [List.take_of_length_le (by simpa [BUF_SIZE] using fits),List.take_of_length_le (by unfold BUF_SIZE; omega)]

theorem unbroken : 0 ∉ List.replicate 349 (116 : UInt8) :=
  fun zero => absurd (List.eq_of_mem_replicate zero) (by decide)

def longMessage : CString := ⟨List.replicate 349 116,unbroken⟩

theorem longMessageShort : ¬ ∀ snprintf nErrCode szErrMess, HoldsStart snprintf nErrCode szErrMess := by
  intro all
  have start := (all .c99 5002 (some longMessage)).2
  rw [heldC99,Option.some.injEq] at start
  exact absurd (congrArg List.length start) (by decide +kernel)

end DatabaseLayer.SQLiteExceptions
