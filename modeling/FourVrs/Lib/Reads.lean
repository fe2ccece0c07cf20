import Mathlib.Data.List.Basic
import Mathlib.Tactic.Common

/-!
# Bounded reads

A buffer that is read by offsets: each read is `none` at or beyond its end. A parser in
`Option` that never is `none` has read only what is there.
-/

set_option autoImplicit false

namespace FourVrs.Lib

/-- A byte of the buffer. -/
def readByte (p : List UInt8) (i : Nat) : Option UInt8 := p[i]?

/-- Bytes of the buffer, one after the other. -/
def readBytes (p : List UInt8) (i : Nat) : Nat → Option (List UInt8)
  | 0 => some []
  | n + 1 => do
      let byte ← readByte p i
      let rest ← readBytes p (i + 1) n
      some (byte :: rest)

/-- A buffer inside the buffer. -/
def readWithin (p : List UInt8) (i n : Nat) : Option (List UInt8) :=
  if i + n ≤ p.length then some ((p.drop i).take n) else none

section

variable {p : List UInt8} {i n : Nat}

theorem readByte_eq (h : i < p.length) : readByte p i = some (p.getD i 0) := by
  simp [readByte, h]

theorem readBytes_eq (h : i + n ≤ p.length) : readBytes p i n = some ((p.drop i).take n) := by
  induction n generalizing i with
  | zero => simp [readBytes]
  | succ n ih =>
    have hi : i < p.length := by omega
    have hbyte : p.getD i 0 = p[i] := by simp [hi]
    rw [readBytes, readByte_eq hi, ih (i := i + 1) (by omega), hbyte]
    -- the first byte of what is left, and the bytes after it
    rw [List.drop_eq_getElem_cons hi, List.take_succ_cons]
    rfl

theorem readWithin_eq (h : i + n ≤ p.length) : readWithin p i n = some ((p.drop i).take n) := if_pos h

theorem getD_drop (p : List UInt8) (k i : Nat) : (p.drop k).getD i 0 = p.getD (k + i) 0 := by
  simp [List.getD_eq_getElem?_getD]

end

/-! ## Reads that may be given up -/

/-- How a reader ends: beyond the end of its buffer, given up, or done. -/
inductive Reading (α : Type) where
  | beyond
  | fail
  | done (a : α)
  deriving DecidableEq, Repr

namespace Reading

variable {α β : Type}

def bind : Reading α → (α → Reading β) → Reading β
  | .beyond, _ => .beyond
  | .fail, _ => .fail
  | .done a, f => f a

instance : Monad Reading where
  pure := .done
  bind := bind

@[simp] theorem pure_eq (a : α) : (pure a : Reading α) = .done a := rfl

@[simp] theorem done_bind (a : α) (f : α → Reading β) : (Reading.done a >>= f) = f a := rfl

@[simp] theorem fail_bind (f : α → Reading β) : ((Reading.fail : Reading α) >>= f) = .fail := rfl

theorem bind_eq_done {x : Reading α} {f : α → Reading β} {b : β} (h : (x >>= f) = .done b) :
    ∃ a, x = .done a ∧ f a = .done b := by
  cases x with
  | beyond | fail => cases h
  | done a => exact ⟨a, rfl, h⟩

theorem bind_ne_beyond {x : Reading α} {f : α → Reading β} (hx : x ≠ .beyond)
    (hf : ∀ a, x = .done a → f a ≠ .beyond) : (x >>= f) ≠ .beyond := by
  cases x with
  | beyond => exact absurd rfl hx
  | fail => simp
  | done a => exact hf a rfl

/-- The reader gives up unless the condition holds. -/
def check (condition : Bool) : Reading Unit := if condition then .done () else .fail

theorem check_bind_eq_done {condition : Bool} {f : Unit → Reading β} {b : β}
    (h : (check condition >>= f) = .done b) : condition = true ∧ f () = .done b := by
  cases condition with
  | true => exact ⟨rfl, h⟩
  | false => cases h

theorem check_bind_ne_beyond {condition : Bool} {f : Unit → Reading β}
    (h : condition = true → f () ≠ .beyond) : (check condition >>= f) ≠ .beyond := by
  cases condition with
  | true => exact h rfl
  | false => simp [check]

theorem check_bind {condition : Bool} (h : condition = true) (f : Unit → Reading β) :
    (check condition >>= f) = f () := by
  rw [h]
  rfl

/-- Bytes of the buffer. -/
def bytes (p : List UInt8) (i n : Nat) : Reading (List UInt8) :=
  match readWithin p i n with
  | none => .beyond
  | some part => .done part

theorem bytes_eq {p : List UInt8} {i n : Nat} (h : i + n ≤ p.length) :
    bytes p i n = .done ((p.drop i).take n) := by
  rw [bytes, readWithin_eq h]

end Reading

end FourVrs.Lib
