import Mathlib.Algebra.Group.Nat.Defs
import Mathlib.Logic.Function.Iterate
import Mathlib.Tactic.Common

/-!
# Checksums and big-endian words

The CRC-32 with polynomial `0xedb88320`, computed bit by bit, and 32-bit words in
network byte order.
-/

set_option autoImplicit false

namespace FourVrs.Lib

def crc32Bit (crc : BitVec 32) : BitVec 32 :=
  if crc &&& 1 = 1 then (crc >>> 1) ^^^ 0xedb88320 else crc >>> 1

def crc32Byte (crc : BitVec 32) (byte : UInt8) : BitVec 32 :=
  crc32Bit^[8] (crc ^^^ byte.toBitVec.setWidth 32)

def crc32 (bytes : List UInt8) : BitVec 32 :=
  bytes.foldl crc32Byte 0xffffffff ^^^ 0xffffffff

def put32 (word : Nat) : List UInt8 :=
  [UInt8.ofNat (word / 2 ^ 24), UInt8.ofNat (word / 2 ^ 16), UInt8.ofNat (word / 2 ^ 8),
    UInt8.ofNat word]

/-- The word the first four bytes spell. -/
def get32 : List UInt8 → Nat
  | a :: b :: c :: d :: _ => ((a.toNat * 256 + b.toNat) * 256 + c.toNat) * 256 + d.toNat
  | _ => 0

@[simp] theorem length_put32 (word : Nat) : (put32 word).length = 4 := rfl

theorem get32_put32 {word : Nat} (h : word < 2 ^ 32) : get32 (put32 word) = word := by
  simp only [put32, get32, UInt8.toNat_ofNat']
  omega

theorem get32_append {word : Nat} (h : word < 2 ^ 32) (rest : List UInt8) :
    get32 (put32 word ++ rest) = word :=
  (get32_put32 h : _)

/-- The bytes a word is read from. -/
theorem put32_get32 {bytes : List UInt8} (h : 4 ≤ bytes.length) : put32 (get32 bytes) = bytes.take 4 := by
  rcases bytes with _ | ⟨a, _ | ⟨b, _ | ⟨c, _ | ⟨d, rest⟩⟩⟩⟩
  · simp at h
  · simp at h
  · simp at h
  · simp at h
  · have ha := a.toNat_lt
    have hb := b.toNat_lt
    have hc := c.toNat_lt
    have hd := d.toNat_lt
    simp only [put32, get32, List.take_succ_cons, List.take_zero, List.cons.injEq, ← UInt8.toNat_inj,
      UInt8.toNat_ofNat', and_true]
    omega

end FourVrs.Lib
