import FourVrs.Core.Deadline

/-!
# Held keys (`panel/key_repeat.c`)

Keys are sampled: the mask has bit 0 for F2 and bit 1 for F4. A key that is sampled as held
makes one step at once, one after half a second and then one every 100 ms, or every 10 ms
after five seconds where no number is edited; where one is, each step then stands for ten.
What is held when the context changes, or with another key, is blocked until it is let go.
-/

set_option autoImplicit false

namespace FourVrs.Panel

open FourVrs.Core

/-- `context` names the view and the field that is edited. -/
structure KeyRepeat where
  pressedAt : CoreTick := 0
  emittedAt : CoreTick := 0
  context : BitVec 32 := 0
  mask : Nat := 0
  blocked : Bool := false
  started : Bool := false
  initialized : Bool := false
  deriving DecidableEq, Repr, Inhabited

def keyRepeatInit : KeyRepeat := {}

/-- Five seconds have gone by. -/
def longHeld (s : KeyRepeat) (now : CoreTick) : Bool := decide (5000 < coreElapsed s.pressedAt now)

def repeatInterval (s : KeyRepeat) (now : CoreTick) (numeric : Bool) : CoreTick :=
  if s.started then (if longHeld s now && !numeric then 10 else 100) else 500

/-- F2 steps back, F4 forth. -/
def stepOf (mask : Nat) : Int := if mask = 1 then -1 else 1

/-- The key that is held already. -/
def repeatHeld (s : KeyRepeat) (now : CoreTick) (mask : Nat) (numeric : Bool) : Int × KeyRepeat :=
  if coreElapsed s.emittedAt now < repeatInterval s now numeric then (0, s)
  else (stepOf mask * (if numeric && longHeld s now then 10 else 1), { s with emittedAt := now, started := true })

/-- The first sample fixes the context. -/
def enterContext (s : KeyRepeat) (context : BitVec 32) : KeyRepeat :=
  if s.initialized then s else { s with context, initialized := true }

def keyRepeatEntered (s : KeyRepeat) (now : CoreTick) (mask : Nat) (context : BitVec 32)
    (allowed numeric : Bool) : Int × KeyRepeat :=
  if context ≠ s.context ∨ !allowed ∨ 2 < mask then
    (0, { s with context, blocked := mask ≠ 0, mask := 0, started := false })
  else if mask = 0 then (0, { s with mask := 0, blocked := false, started := false })
  else if s.blocked then (0, s)
  else if mask ≠ s.mask then
    (stepOf mask, { s with mask, pressedAt := now, emittedAt := now, started := false })
  else repeatHeld s now mask numeric

def keyRepeatScaled (s : KeyRepeat) (now : CoreTick) (mask : Nat) (context : BitVec 32)
    (allowed numeric : Bool) : Int × KeyRepeat :=
  keyRepeatEntered (enterContext s context) now mask context allowed numeric

end FourVrs.Panel
