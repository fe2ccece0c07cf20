import FourVrs.Lib.Bytes

/-!
# Keyed hashes and key derivation (RFC 2104, RFC 2898)

Over any hash of byte strings: HMAC with a block of `blockSize` bytes, and the blocks of PBKDF2
over any keyed function.
-/

set_option autoImplicit false

namespace FourVrs.Lib

def xorBytes : List UInt8 → List UInt8 → List UInt8 := List.zipWith (· ^^^ ·)

theorem zeros_xorBytes {n : Nat} {bytes : List UInt8} (h : bytes.length = n) :
    xorBytes (List.replicate n 0) bytes = bytes := by
  induction bytes generalizing n with
  | nil =>
    subst h
    rfl
  | cons byte bytes ih =>
    subst h
    rw [List.length_cons, List.replicate_succ, xorBytes, List.zipWith_cons_cons,
      UInt8.zero_xor]
    exact congrArg _ (ih rfl)

/-! ## HMAC -/

section
variable (hash : List UInt8 → List UInt8) (blockSize : Nat)

/-- The key on a whole block; a longer one is hashed first. -/
def hmacKey (key : List UInt8) : List UInt8 :=
  let short := if key.length > blockSize then hash key else key
  short ++ List.replicate (blockSize - short.length) 0

def hmac (key text : List UInt8) : List UInt8 :=
  hash ((hmacKey hash blockSize key).map (· ^^^ 0x5c) ++
    hash ((hmacKey hash blockSize key).map (· ^^^ 0x36) ++ text))

theorem length_hmacKey (hash : List UInt8 → List UInt8) (blockSize : Nat)
    (hhash : ∀ bytes, (hash bytes).length ≤ blockSize) (key : List UInt8) :
    (hmacKey hash blockSize key).length = blockSize := by
  have hlength := hhash key
  simp only [hmacKey, List.length_append, List.length_replicate]
  split <;> omega

end

/-! ## PBKDF2 -/

section
variable (prf : List UInt8 → List UInt8) (salt : List UInt8) (i : Nat)

/-- `U_1`, `U_2` and so on of block `i`, counted from zero. -/
def pbkdf2U : Nat → List UInt8
  | 0 => prf (salt ++ put32 i)
  | j + 1 => prf (pbkdf2U j)

/-- The exclusive or of the first of them. -/
def pbkdf2Xor : Nat → List UInt8
  | 0 => pbkdf2U prf salt i 0
  | j + 1 => xorBytes (pbkdf2Xor j) (pbkdf2U prf salt i (j + 1))

/-- Block `i` after `count` iterations. -/
def pbkdf2Block (count : Nat) : List UInt8 := pbkdf2Xor prf salt i (count - 1)

end

end FourVrs.Lib
