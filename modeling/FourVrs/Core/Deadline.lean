import Mathlib.Algebra.Group.Nat.Defs
import Mathlib.Tactic.Common

/-!
# Ticks and deadlines (`core/deadline.c`)

`core_tick_t` is a 32-bit counter that wraps, so an instant is compared with a
deadline by the sign of their difference: an armed deadline has expired when the
tick is less than half the range past it.
-/

set_option autoImplicit false

namespace FourVrs.Core

abbrev CoreTick := BitVec 32

/-- The tick at a time that counts without end. -/
def tick (now : Nat) : CoreTick := BitVec.ofNat 32 now

def coreTickHalfRange : CoreTick := 0x80000000#32

/-- `due`, elsewhere `(int32_t)(now - at) >= 0`: the tick is at the moment, or less than half
    the range past it. -/
def due (now at' : CoreTick) : Bool := decide (now - at' < coreTickHalfRange)

/-- A moment less than half the range ahead is due once it has come. -/
theorem due_tick_iff {now at' : Nat} (hlate : now < at' + 2 ^ 31) (hsoon : at' ≤ now + 2 ^ 31) :
    due (tick now) (tick at') = true ↔ at' ≤ now := by
  unfold due tick coreTickHalfRange
  rw [decide_eq_true_iff, BitVec.lt_def]
  simp only [BitVec.toNat_sub, BitVec.toNat_ofNat]
  omega

structure CoreDeadline where
  dueAt : CoreTick
  armed : Bool
  deriving DecidableEq, Repr, Inhabited

def coreTicksValidInterval (interval : CoreTick) : Bool :=
  decide (interval < coreTickHalfRange)

def coreDeadlineAfter (now interval : CoreTick) : CoreDeadline :=
  { dueAt := now + interval, armed := coreTicksValidInterval interval }

def coreDeadlineExpired (deadline : CoreDeadline) (now : CoreTick) : Bool :=
  deadline.armed && decide (now - deadline.dueAt < coreTickHalfRange)

def coreElapsed (since now : CoreTick) : CoreTick := now - since

theorem tick_add (base ms : Nat) : tick base + BitVec.ofNat 32 ms = tick (base + ms) := by
  unfold tick
  rw [BitVec.ofNat_add]

/-- A tick that wraps may show less time than has gone by, never more. -/
theorem le_of_coreElapsed {since now : Nat} {interval : CoreTick} (hnow : since ≤ now)
    (h : interval ≤ coreElapsed (tick since) (tick now)) : since + interval.toNat ≤ now := by
  have helapsed : (coreElapsed (tick since) (tick now)).toNat = (now - since) % 2 ^ 32 := by
    simp only [coreElapsed, tick, BitVec.toNat_sub, BitVec.toNat_ofNat]
    omega
  have hle : interval.toNat ≤ (now - since) % 2 ^ 32 := helapsed ▸ BitVec.le_def.mp h
  have hmod : (now - since) % 2 ^ 32 ≤ now - since := Nat.mod_le _ _
  omega

/-- Until it wraps, a tick shows the time that has gone by. -/
theorem toNat_coreElapsed {since now : Nat} (hnow : since ≤ now) (hwrap : now < since + 2 ^ 32) :
    (coreElapsed (tick since) (tick now)).toNat = now - since := by
  simp only [coreElapsed, tick, BitVec.toNat_sub, BitVec.toNat_ofNat]
  omega

theorem lt_of_coreElapsed {since now : Nat} {interval : CoreTick} (hnow : since ≤ now)
    (hwrap : now < since + 2 ^ 32) (h : coreElapsed (tick since) (tick now) < interval) :
    now < since + interval.toNat := by
  have hlt := BitVec.lt_def.mp h
  rw [toNat_coreElapsed hnow hwrap] at hlt
  omega

end FourVrs.Core
