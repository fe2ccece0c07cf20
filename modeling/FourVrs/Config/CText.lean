import Mathlib.Algebra.Group.Nat.Defs
import Mathlib.Data.List.TakeWhile
import Mathlib.Tactic.Common

/-!
# C strings and the number scanner

The configuration code passes text around as NUL-terminated arrays and reads
numbers with `strtoul` and `sscanf("%u")`. A C string is the list of its bytes up to
the terminator, none of them zero. The scanner follows the documented behaviour of
the C library on the gateway's 32-bit target, where `unsigned long` has 32 bits:
leading white space and one sign are skipped, a value out of range is `ULONG_MAX`.
-/

set_option autoImplicit false

namespace FourVrs.Config

/-- The bytes of a NUL-terminated string. -/
structure CString where
  bytes : List UInt8
  nonzero : ∀ b ∈ bytes, b ≠ 0
  deriving DecidableEq

def CString.length (s : CString) : Nat := s.bytes.length

def ascii (c : Char) : UInt8 := c.toNat.toUInt8

/-- The bytes of a string literal of the source. -/
def text (s : String) : List UInt8 := s.toList.map ascii

-- Checked along the text; the instance over all bytes would be taken otherwise.
instance decidableNonzero (bytes : List UInt8) : Decidable (∀ b ∈ bytes, b ≠ 0) :=
  List.decidableBAll _ bytes

instance lawfulBytes : LawfulBEq (List UInt8) := inferInstance

theorem nil_nonzero : ∀ b ∈ ([] : List UInt8), b ≠ 0 := by simp

def isSpace (b : UInt8) : Bool :=
  decide (b = 32) || (decide (9 ≤ b) && decide (b ≤ 13))

def isDigit (b : UInt8) : Bool := decide (48 ≤ b) && decide (b ≤ 57)

def digitValue (b : UInt8) : Nat := b.toNat - 48

/-- The number a list of digits spells. -/
def digitsValue (digits : List UInt8) : Nat :=
  digits.foldl (fun value b => 10 * value + digitValue b) 0

def ulongMax : Nat := 0xffffffff

/-- What `strtoul(text, &end, 10)` finds, if it finds a number: the value, the bytes
    from `end` on, and whether it left `errno` at zero. -/
structure ScannedNumber where
  value : Nat
  rest : List UInt8
  inRange : Bool
  deriving DecidableEq, Repr

/-- An optional sign: whether it is a minus, and what follows it. -/
def takeSign : List UInt8 → Bool × List UInt8
  | 45 :: rest => (true, rest)
  | 43 :: rest => (false, rest)
  | rest => (false, rest)

def strtoul (input : List UInt8) : Option ScannedNumber :=
  let (negative, unsigned) := takeSign (input.dropWhile isSpace)
  let digits := unsigned.takeWhile isDigit
  if digits = [] then none
  else
    let rest := unsigned.dropWhile isDigit
    let value := digitsValue digits
    if value > ulongMax then some { value := ulongMax, rest := rest, inRange := false }
    else some
      { value := if negative then (ulongMax + 1 - value) % (ulongMax + 1) else value
        rest := rest
        inRange := true }

end FourVrs.Config
