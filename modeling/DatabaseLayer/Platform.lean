import Mathlib.Algebra.Group.Int.Defs
import Mathlib.Algebra.Group.Nat.Defs
import Mathlib.Data.List.Basic

/-! The C++ side both wrappers are compiled for: 32-bit int, 64-bit unsigned long,
8-bit char, C strings and the C library calls on them. Signed overflow wraps, as the
targeted x86 compilers leave it. -/
namespace DatabaseLayer.Platform

def wrapInt (x : Int) : Int := (x + 2^31) % 2^32 - 2^31
def wrapULong (x : Int) : Nat := (x % 2^64).toNat

theorem wrapIntId {x : Int} (low : -2^31 ≤ x) (high : x < 2^31) : wrapInt x = x := by
  unfold wrapInt
  omega

theorem wrapULongId {x : Nat} (high : x < 2^64) : wrapULong x = x := by
  unfold wrapULong
  omega

/-- `strlen` handed on through an int parameter to an unsigned long field. -/
def lengthThroughInt (n : Nat) : Nat := wrapULong (wrapInt n)

def ascii (s : String) : List UInt8 := s.toList.map (fun c => UInt8.ofNat c.toNat)

/-- A C string is the bytes before its terminator, so none of them is zero. -/
structure CString where
  bytes : List UInt8
  terminated : 0 ∉ bytes
  deriving DecidableEq, Repr

namespace CString

def ofBytes (bs : List UInt8) : CString :=
  ⟨bs.takeWhile (· ≠ 0),fun h => by simpa using List.all_eq_true.mp List.all_takeWhile 0 h⟩

def append (a b : CString) : CString :=
  ⟨a.bytes ++ b.bytes,fun h => (List.mem_append.mp h).elim a.terminated b.terminated⟩

instance : Append CString := ⟨append⟩
instance : Inhabited CString := ⟨⟨[],List.not_mem_nil⟩⟩

def strlen (s : CString) : Nat := s.bytes.length

@[simp] theorem appendBytes (a b : CString) : (a ++ b).bytes = a.bytes ++ b.bytes := rfl

theorem ext {a b : CString} (h : a.bytes = b.bytes) : a = b := by
  cases a; cases b; cases h; rfl

end CString

/-- A string literal of the source. -/
def text (s : String) : CString := .ofBytes (ascii s)

/-- `isspace` in the C locale. Negative arguments, which a signed char yields from
bytes of 128 on, are outside its domain; the table answers false for them. -/
def isspace (c : Int) : Bool := c == 32 || (9 ≤ c && c ≤ 13)
def isdigit (c : UInt8) : Bool := 48 ≤ c && c ≤ 57

def signedChar (b : UInt8) : Int := if b.toNat < 128 then b.toNat else (b.toNat : Int) - 256

def digitsValue (ds : List UInt8) : Nat := ds.foldl (fun n d => 10 * n + (d.toNat - 48)) 0

/-- `atoi` is `strtol` in base ten, saturated at the limits of long, cut down to int. A long has
64 bits here; where it has 32, a number past an int comes out as the limit instead. -/
def atoi (s : CString) : Int :=
  let rest := s.bytes.dropWhile (fun b => isspace (signedChar b))
  let signed : Bool × List UInt8 := match rest with
    | 45 :: tail => (true,tail)
    | 43 :: tail => (false,tail)
    | other => (false,other)
  let magnitude : Int := digitsValue (signed.2.takeWhile isdigit)
  wrapInt (if signed.1 then max (-magnitude) (-2^63) else min magnitude (2^63 - 1))

/-- `%d` of an unsigned column number. -/
def decimal (n : Nat) : CString := .ofBytes ((Nat.toDigits 10 n).map (fun c => UInt8.ofNat c.toNat))

/-- `sprintf` into `char szSQL[size]`: the text when it fits with its terminator. -/
def sprintfInto (size : Nat) (s : CString) : Option CString :=
  if s.strlen < size then some s else none

/-- A pointer to a heap object together with the object, which has one owner. -/
structure Owned (α : Type) where
  addr : Nat
  value : α
  deriving DecidableEq, Repr

end DatabaseLayer.Platform
