import Mathlib.Algebra.Group.Nat.Defs
import Mathlib.Tactic.Common

/-!
# SHA-256 (FIPS 180-4)

The hash of a byte string: it is padded to whole blocks of 64 bytes, and each block is compressed
into eight words. `foldBlocks` takes the whole blocks of any byte string and leaves the rest, the
`openBlock`, for what comes after; that is all a streaming computation has to know.
-/

set_option autoImplicit false

namespace FourVrs.Lib.Sha256

/-! ## Functions of 4.1.2 -/

def ch (x y z : BitVec 32) : BitVec 32 := (x &&& y) ^^^ (~~~x &&& z)

def maj (x y z : BitVec 32) : BitVec 32 := (x &&& y) ^^^ (x &&& z) ^^^ (y &&& z)

def bigSigma0 (x : BitVec 32) : BitVec 32 :=
  x.rotateRight 2 ^^^ x.rotateRight 13 ^^^ x.rotateRight 22

def bigSigma1 (x : BitVec 32) : BitVec 32 :=
  x.rotateRight 6 ^^^ x.rotateRight 11 ^^^ x.rotateRight 25

def smallSigma0 (x : BitVec 32) : BitVec 32 := x.rotateRight 7 ^^^ x.rotateRight 18 ^^^ x >>> 3

def smallSigma1 (x : BitVec 32) : BitVec 32 := x.rotateRight 17 ^^^ x.rotateRight 19 ^^^ x >>> 10

/-! ## Constants of 4.2.2 and 5.3.3 -/

/-- The primes below 312, the first sixty-four. -/
def primes : List Nat :=
  (List.range' 2 310).filter fun n => (List.range' 2 (n - 2)).all fun d => n % d != 0

/-- The largest number below `2 ^ 37` whose power `e` is at most `n`. -/
def root (e n : Nat) : Nat :=
  (List.range 37).foldr (fun i r => if (r + 2 ^ i) ^ e ≤ n then r + 2 ^ i else r) 0

/-- The first 32 bits of the fractional part of the root of `p`. -/
def rootBits (e p : Nat) : BitVec 32 := BitVec.ofNat 32 (root e (p * 2 ^ (32 * e)))

def roundConstants : List (BitVec 32) := primes.map (rootBits 3)

/-- The eight words of a hash value, and the working variables. -/
@[ext] structure Words where
  a : BitVec 32
  b : BitVec 32
  c : BitVec 32
  d : BitVec 32
  e : BitVec 32
  f : BitVec 32
  g : BitVec 32
  h : BitVec 32
  deriving DecidableEq, Repr

def initialHash : Words where
  a := rootBits 2 2
  b := rootBits 2 3
  c := rootBits 2 5
  d := rootBits 2 7
  e := rootBits 2 11
  f := rootBits 2 13
  g := rootBits 2 17
  h := rootBits 2 19

/-! ## Compression, 6.2.2 -/

/-- Word `t` of a block, big-endian. -/
def blockWord (block : List UInt8) (t : Nat) : BitVec 32 :=
  (block.getD (4 * t) 0).toBitVec ++ (block.getD (4 * t + 1) 0).toBitVec ++
    (block.getD (4 * t + 2) 0).toBitVec ++ (block.getD (4 * t + 3) 0).toBitVec

def messageSchedule (block : List UInt8) (t : Nat) : BitVec 32 :=
  if t < 16 then blockWord block t
  else smallSigma1 (messageSchedule block (t - 2)) + messageSchedule block (t - 7) +
    smallSigma0 (messageSchedule block (t - 15)) + messageSchedule block (t - 16)
termination_by t

def round (k w : BitVec 32) (v : Words) : Words :=
  let t1 := v.h + bigSigma1 v.e + ch v.e v.f v.g + k + w
  let t2 := bigSigma0 v.a + maj v.a v.b v.c
  { a := t1 + t2, b := v.a, c := v.b, d := v.c, e := v.d + t1, f := v.e, g := v.f, h := v.g }

def rounds (block : List UInt8) (v : Words) : Words :=
  (List.range 64).foldl (fun v t => round (roundConstants.getD t 0) (messageSchedule block t) v) v

def Words.add (x y : Words) : Words where
  a := x.a + y.a
  b := x.b + y.b
  c := x.c + y.c
  d := x.d + y.d
  e := x.e + y.e
  f := x.f + y.f
  g := x.g + y.g
  h := x.h + y.h

def compress (v : Words) (block : List UInt8) : Words := (rounds block v).add v

/-! ## The hash -/

/-- The words after the whole blocks of `bytes`. -/
def foldBlocks (v : Words) (bytes : List UInt8) : Words :=
  if 64 ≤ bytes.length then foldBlocks (compress v (bytes.take 64)) (bytes.drop 64) else v
termination_by bytes.length
decreasing_by
  rw [List.length_drop]
  omega

/-- The length in bits, on eight bytes. -/
def lengthBytes (length : Nat) : List UInt8 :=
  (List.range 8).map fun i => UInt8.ofNat (8 * length / 2 ^ (8 * (7 - i)))

/-- 5.1.1: a one, zeros until eight bytes are left in a block, and the length. -/
def padding (length : Nat) : List UInt8 :=
  0x80 :: (List.replicate ((119 - length % 64) % 64) 0 ++ lengthBytes length)

def wordBytes (word : BitVec 32) : List UInt8 :=
  [24, 16, 8, 0].map fun n => UInt8.ofBitVec ((word >>> n).setWidth 8)

def Words.toList (v : Words) : List (BitVec 32) := [v.a, v.b, v.c, v.d, v.e, v.f, v.g, v.h]

/-- The digest of a message. -/
def sha256 (message : List UInt8) : List UInt8 :=
  (foldBlocks initialHash (message ++ padding message.length)).toList.flatMap wordBytes

theorem length_sha256 (message : List UInt8) : (sha256 message).length = 32 := by
  simp [sha256, Words.toList, wordBytes]

/-! ## Whole blocks and the rest -/

/-- What is left after the whole blocks. -/
def openBlock (bytes : List UInt8) : List UInt8 := bytes.drop (64 * (bytes.length / 64))

theorem length_openBlock (bytes : List UInt8) : (openBlock bytes).length = bytes.length % 64 := by
  rw [openBlock, List.length_drop]
  omega

theorem openBlock_drop {bytes : List UInt8} (h : 64 ≤ bytes.length) :
    openBlock (bytes.drop 64) = openBlock bytes := by
  rw [openBlock, openBlock, List.drop_drop, List.length_drop]
  congr 1
  omega

theorem foldBlocks_short (v : Words) {bytes : List UInt8} (h : bytes.length < 64) :
    foldBlocks v bytes = v := by
  rw [foldBlocks, if_neg (by omega)]

theorem foldBlocks_long (v : Words) {bytes : List UInt8} (h : 64 ≤ bytes.length) :
    foldBlocks v bytes = foldBlocks (compress v (bytes.take 64)) (bytes.drop 64) := by
  rw [foldBlocks, if_pos h]

/-- Bytes that do not fill the block wait in it. -/
theorem foldBlocks_append_open (v : Words) (bytes more : List UInt8)
    (hopen : bytes.length % 64 + more.length < 64) :
    foldBlocks v (bytes ++ more) = foldBlocks v bytes ∧
      openBlock (bytes ++ more) = openBlock bytes ++ more := by
  constructor
  · fun_induction foldBlocks v bytes with
    | case1 v bytes hlong ih =>
      rw [foldBlocks_long v (by rw [List.length_append]; omega), List.take_append_of_le_length hlong,
        List.drop_append_of_le_length hlong]
      apply ih
      rw [List.length_drop]
      omega
    | case2 v bytes hshort =>
      apply foldBlocks_short
      rw [List.length_append]
      omega
  · have hdiv : (bytes.length + more.length) / 64 = bytes.length / 64 := by omega
    rw [openBlock, openBlock, List.length_append, hdiv, List.drop_append_of_le_length (by omega)]

/-- Bytes that fill the block close it. -/
theorem foldBlocks_append_closed (v : Words) (bytes more : List UInt8)
    (hclosed : bytes.length % 64 + more.length = 64) :
    foldBlocks v (bytes ++ more) = compress (foldBlocks v bytes) (openBlock bytes ++ more) ∧
      openBlock (bytes ++ more) = [] := by
  constructor
  · fun_induction foldBlocks v bytes with
    | case1 v bytes hlong ih =>
      rw [foldBlocks_long v (by rw [List.length_append]; omega), List.take_append_of_le_length hlong,
        List.drop_append_of_le_length hlong, ← openBlock_drop hlong]
      apply ih
      rw [List.length_drop]
      omega
    | case2 v bytes hshort =>
      have hlength : (bytes ++ more).length = 64 := by
        rw [List.length_append]
        omega
      have hopen : openBlock bytes = bytes := by
        rw [openBlock, Nat.div_eq_of_lt (by omega), Nat.mul_zero, List.drop_zero]
      rw [foldBlocks_long v (by omega), List.take_of_length_le (by omega), foldBlocks_short, hopen]
      rw [List.length_drop]
      omega
  · apply List.length_eq_zero_iff.mp
    rw [length_openBlock, List.length_append]
    omega

end FourVrs.Lib.Sha256
