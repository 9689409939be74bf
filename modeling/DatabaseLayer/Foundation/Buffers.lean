import Mathlib.Data.List.TakeWhile

/-! Texts written into a buffer of fixed size, as the formatting functions of C leave them. A
text has no zero byte in it. -/
namespace Foundation.Buffers

abbrev Cells := List UInt8

/-- The text in a buffer: the bytes before the first zero, if there is a zero. -/
def held (buffer : Cells) : Option (List UInt8) :=
  if 0 ∈ buffer then some (buffer.takeWhile (· ≠ 0)) else none

def write (bytes : List UInt8) (buffer : Cells) : Cells := bytes ++ buffer.drop bytes.length

inductive Formatter where
  | c99
  | msvc
  deriving DecidableEq, Repr

/-- C99 prints one byte less than it is given and a terminator; MSVC prints all it is given,
and a terminator if there is room left. -/
def Formatter.print : Formatter → Nat → List UInt8 → Cells → Cells
  | .c99,0,_,buffer => buffer
  | .c99,count + 1,text,buffer => write (text.take count ++ [0]) buffer
  | .msvc,count,text,buffer =>
    if text.length < count then write (text ++ [0]) buffer else write (text.take count) buffer

/-- sprintf, which is undefined where the text does not fit with its terminator. -/
def sprintf (text : List UInt8) (buffer : Cells) : Option Cells :=
  if text.length < buffer.length then some (write (text ++ [0]) buffer) else none

section Held
variable {text rest : List UInt8} {buffer : Cells} {count : Nat}

theorem heldTerminated (proper : 0 ∉ text) : held (text ++ 0 :: rest) = some text := by
  have whole : ∀ b ∈ text, decide (b ≠ 0) = true := fun b member => decide_eq_true fun same => proper (same ▸ member)
  rw [held,if_pos (by simp),List.takeWhile_append_of_pos whole]
  simp

theorem heldWritten (proper : 0 ∉ text) : held (write (text ++ [0]) buffer) = some text := by
  rw [write,List.append_assoc]
  exact heldTerminated proper

theorem heldAfter (proper : 0 ∉ text) : held (text ++ rest) = (held rest).map (text ++ ·) := by
  have whole : ∀ b ∈ text, decide (b ≠ 0) = true := fun b member => decide_eq_true fun same => proper (same ▸ member)
  by_cases zero : 0 ∈ rest
  · rw [held,held,if_pos (List.mem_append_right _ zero),if_pos zero,List.takeWhile_append_of_pos whole]
    rfl
  · have none : 0 ∉ text ++ rest := fun member => (List.mem_append.mp member).elim proper zero
    rw [held,held,if_neg none,if_neg zero]
    rfl

theorem heldZeros (n : Nat) : held (List.replicate (n + 1) 0) = some [] := by
  rw [held,if_pos (by simp),List.replicate_succ,List.takeWhile_cons_of_neg (by simp)]

theorem takeProper (proper : 0 ∉ text) (n : Nat) : 0 ∉ text.take n := fun member => proper (List.mem_of_mem_take member)

theorem writeLength (fits : text.length ≤ buffer.length) : (write text buffer).length = buffer.length := by
  rw [write,List.length_append,List.length_drop]
  omega

theorem c99Held (proper : 0 ∉ text) : held (Formatter.c99.print (count + 1) text buffer) = some (text.take count) :=
  heldWritten (takeProper proper count)

/-- A buffer of zeros terminates what fills all but the last of its cells. -/
theorem msvcHeld (proper : 0 ∉ text) (size : count < buffer.length) (zeros : buffer = List.replicate buffer.length 0) :
    held (Formatter.msvc.print count text buffer) = some (text.take count) := by
  rw [Formatter.print]
  split
  · rename_i short
    rw [heldWritten proper,List.take_of_length_le (Nat.le_of_lt short)]
  · rename_i long
    have full : (text.take count).length = count := List.length_take_of_le (Nat.not_lt.mp long)
    rw [write,heldAfter (takeProper proper count),full,zeros,List.drop_replicate]
    obtain ⟨n,more⟩ := Nat.exists_eq_add_of_lt size
    rw [show buffer.length - count = n + 1 by omega,heldZeros]
    simp

theorem printLength (f : Formatter) (fits : count ≤ buffer.length) : (f.print count text buffer).length = buffer.length := by
  cases f with
  | c99 =>
    cases count with
    | zero => rfl
    | succ count =>
      refine writeLength ?_
      rw [List.length_append,List.length_take,List.length_singleton]
      omega
  | msvc =>
    rw [Formatter.print]
    split
    · refine writeLength ?_
      rw [List.length_append,List.length_singleton]
      omega
    · refine writeLength ?_
      rw [List.length_take]
      omega

/-- Whatever a buffer had in it, a text arrives whole exactly when one byte less than counted
is enough for it. -/
theorem printWhole (f : Formatter) (proper : 0 ∉ text) (size : Nat) :
    (∀ buffer : Cells, buffer.length = size → held (f.print (count + 1) text buffer) = some text) ↔
      text.length ≤ count := by
  have ones : 0 ∉ List.replicate size (1 : UInt8) := fun zero => absurd (List.eq_of_mem_replicate zero) (by decide)
  constructor
  · intro all
    have some := all (List.replicate size 1) List.length_replicate
    cases f with
    | c99 =>
      rw [c99Held proper,Option.some.injEq] at some
      have length := congrArg List.length some
      rw [List.length_take] at length
      omega
    | msvc =>
      by_contra long
      have unended : 0 ∉ write (text.take (count + 1)) (List.replicate size 1) := fun zero =>
        (List.mem_append.mp zero).elim (takeProper proper _) fun member => ones (List.mem_of_mem_drop member)
      rw [Formatter.print,if_neg (by omega),held,if_neg unended] at some
      cases some
  · intro short buffer _
    cases f with
    | c99 => rw [c99Held proper,List.take_of_length_le short]
    | msvc => rw [Formatter.print,if_pos (by omega),heldWritten proper]

theorem sprintfWhole (proper : 0 ∉ text) {size : Nat} (room : buffer.length = size) :
    (∃ printed, sprintf text buffer = some printed ∧ printed.length = size ∧ held printed = some text) ↔
      text.length < size := by
  subst room
  constructor
  · rintro ⟨printed,defined,_⟩
    unfold sprintf at defined
    split at defined
    · assumption
    · cases defined
  · intro fits
    refine ⟨_,if_pos fits,writeLength ?_,heldWritten proper⟩
    rw [List.length_append,List.length_singleton]
    exact fits

end Held
end Foundation.Buffers
