import FourVrs.Lib.Sha256
import Mathlib.Data.List.Basic

/-!
# The installer's digest (`installer/install_digest.c`)

SHA-256 taken piece by piece. Bytes wait in a block of 64 until it is full; every write to the
block is checked here, so a result says that none left it. Whatever the pieces, the digest is that
of the whole (`installDigest_chunks`).
-/

set_option autoImplicit false

namespace FourVrs.Installer

open Lib

/-! ## Compression -/

def k : List (BitVec 32) := [
  0x428a2f98, 0x71374491, 0xb5c0fbcf, 0xe9b5dba5, 0x3956c25b, 0x59f111f1, 0x923f82a4, 0xab1c5ed5,
  0xd807aa98, 0x12835b01, 0x243185be, 0x550c7dc3, 0x72be5d74, 0x80deb1fe, 0x9bdc06a7, 0xc19bf174,
  0xe49b69c1, 0xefbe4786, 0x0fc19dc6, 0x240ca1cc, 0x2de92c6f, 0x4a7484aa, 0x5cb0a9dc, 0x76f988da,
  0x983e5152, 0xa831c66d, 0xb00327c8, 0xbf597fc7, 0xc6e00bf3, 0xd5a79147, 0x06ca6351, 0x14292967,
  0x27b70a85, 0x2e1b2138, 0x4d2c6dfc, 0x53380d13, 0x650a7354, 0x766a0abb, 0x81c2c92e, 0x92722c85,
  0xa2bfe8a1, 0xa81a664b, 0xc24b8b70, 0xc76c51a3, 0xd192e819, 0xd6990624, 0xf40e3585, 0x106aa070,
  0x19a4c116, 0x1e376c08, 0x2748774c, 0x34b0bcb5, 0x391c0cb3, 0x4ed8aa4a, 0x5b9cca4f, 0x682e6ff3,
  0x748f82ee, 0x78a5636f, 0x84c87814, 0x8cc70208, 0x90befffa, 0xa4506ceb, 0xbef9a3f7, 0xc67178f2]

def rr (x : BitVec 32) (n : Nat) : BitVec 32 := (x >>> n) ||| (x <<< (32 - n))

def byteWord (p : List UInt8) (i : Nat) : BitVec 32 := (p.getD i 0).toBitVec.setWidth 32

/-- `w[0..15]`. -/
def loadWord (p : List UInt8) (i : Nat) : BitVec 32 :=
  (byteWord p (i * 4) <<< 24) ||| (byteWord p (i * 4 + 1) <<< 16) |||
    (byteWord p (i * 4 + 2) <<< 8) ||| byteWord p (i * 4 + 3)

/-- One pass of the loop that fills `w[16..63]`: the words so far, and the next. -/
def extendWord (w : List (BitVec 32)) (i : Nat) : List (BitVec 32) :=
  let word (j : Nat) : BitVec 32 := w.getD j 0
  w ++ [word (i - 16) + (rr (word (i - 15)) 7 ^^^ rr (word (i - 15)) 18 ^^^ (word (i - 15) >>> 3)) +
    word (i - 7) + (rr (word (i - 2)) 17 ^^^ rr (word (i - 2)) 19 ^^^ (word (i - 2) >>> 10))]

def scheduleWords (p : List UInt8) : List (BitVec 32) :=
  (List.range' 16 48).foldl extendWord ((List.range 16).map (loadWord p))

/-- One pass of the loop over the working variables. -/
def compressPass (w : List (BitVec 32)) (v : Sha256.Words) (i : Nat) : Sha256.Words :=
  let t := v.h + (rr v.e 6 ^^^ rr v.e 11 ^^^ rr v.e 25) + ((v.e &&& v.f) ^^^ (~~~v.e &&& v.g)) +
    k.getD i 0 + w.getD i 0
  let u := (rr v.a 2 ^^^ rr v.a 13 ^^^ rr v.a 22) + ((v.a &&& v.b) ^^^ (v.a &&& v.c) ^^^ (v.b &&& v.c))
  { h := v.g, g := v.f, f := v.e, e := v.d + t, d := v.c, c := v.b, b := v.a, a := t + u }

def compress (h : Sha256.Words) (p : List UInt8) : Sha256.Words :=
  h.add ((List.range 64).foldl (compressPass (scheduleWords p)) h)

/-! ## The state -/

/-- `block[64]`. -/
structure Block where
  bytes : List UInt8
  size : bytes.length = 64
  deriving DecidableEq

/-- Bytes copied into the block, unless they would leave it. -/
def Block.write (block : Block) (start : Nat) (bytes : List UInt8) : Option Block :=
  if hfits : start + bytes.length ≤ 64 then
    some
      { bytes := block.bytes.take start ++ bytes ++ block.bytes.drop (start + bytes.length)
        size := by
          have hsize := block.size
          simp only [List.length_append, List.length_take, List.length_drop]
          omega }
  else none

structure InstallDigest where
  h : Sha256.Words
  bytes : BitVec 64
  block : Block
  used : Nat
  deriving DecidableEq

def installDigestInit : InstallDigest where
  h :=
    { a := 0x6a09e667, b := 0xbb67ae85, c := 0x3c6ef372, d := 0xa54ff53a
      e := 0x510e527f, f := 0x9b05688c, g := 0x1f83d9ab, h := 0x5be0cd19 }
  bytes := 0
  block := { bytes := List.replicate 64 0, size := List.length_replicate }
  used := 0

/-- The loop of `install_digest_update`, with a bound on its passes. -/
def updateLoop : Nat → InstallDigest → List UInt8 → Option InstallDigest
  | _, s, [] => some s
  | 0, _, _ :: _ => none
  | passes + 1, s, byte :: p =>
      let z := min (64 - s.used) (byte :: p).length
      match s.block.write s.used ((byte :: p).take z) with
      | none => none
      | some block =>
          if s.used + z = 64 then
            updateLoop passes { s with block, h := compress s.h block.bytes, used := 0 }
              ((byte :: p).drop z)
          else updateLoop passes { s with block, used := s.used + z } ((byte :: p).drop z)

def installDigestUpdate (s : InstallDigest) (data : List UInt8) : Option InstallDigest :=
  updateLoop data.length { s with bytes := s.bytes + BitVec.ofNat 64 data.length } data

/-- The marker behind the bytes, and a full block compressed if the length has no room. -/
def closeBlock (s : InstallDigest) : Option InstallDigest := do
  let block ← s.block.write s.used [0x80]
  let used := s.used + 1
  if used > 56 then
    let block ← block.write used (List.replicate (64 - used) 0)
    pure { s with block, h := compress s.h block.bytes, used := 0 }
  else pure { s with block, used }

/-- `(unsigned char)(bits >> (i * 8))` at `63 - i`. -/
def bitsBytes (bits : BitVec 64) : List UInt8 :=
  (List.range 8).map fun j => UInt8.ofBitVec ((bits >>> ((7 - j) * 8)).setWidth 8)

/-- `(unsigned char)(s->h[i / 4] >> (24 - (i % 4) * 8))`. -/
def digestByte (h : Sha256.Words) (i : Nat) : UInt8 :=
  UInt8.ofBitVec (((h.toList.getD (i / 4) 0) >>> (24 - i % 4 * 8)).setWidth 8)

def installDigestFinal (s : InstallDigest) : Option (List UInt8) := do
  let bits := s.bytes * 8
  let s ← closeBlock s
  let block ← s.block.write s.used (List.replicate (56 - s.used) 0)
  let block ← block.write 56 (bitsBytes bits)
  pure ((List.range 32).map (digestByte (compress s.h block.bytes)))

def hexDigits : List Char :=
  ['0', '1', '2', '3', '4', '5', '6', '7', '8', '9', 'a', 'b', 'c', 'd', 'e', 'f']

/-- The text of a digest, two digits for a byte. -/
def hexText (digest : List UInt8) : List Char :=
  digest.flatMap fun (byte : UInt8) =>
    [hexDigits.getD (byte >>> 4).toNat '0', hexDigits.getD (byte &&& 15).toNat '0']

def installDigestHex (data : List UInt8) : Option (List Char) := do
  let s ← installDigestUpdate installDigestInit data
  let d ← installDigestFinal s
  pure (hexText d)

/-! ## The compression is that of the standard -/

theorem k_eq : k = Sha256.roundConstants := by decide +kernel

theorem init_eq : installDigestInit.h = Sha256.initialHash := by decide +kernel

theorem rr_eq (x : BitVec 32) {n : Nat} (hn : n < 32) : rr x n = x.rotateRight n := by
  rw [rr, BitVec.rotateRight, BitVec.rotateRightAux, Nat.mod_eq_of_lt hn]

/-- Four bytes moved to their places make up a word. -/
theorem append_bytes (a b c d : BitVec 8) :
    (a.setWidth 32 <<< 24) ||| (b.setWidth 32 <<< 16) ||| (c.setWidth 32 <<< 8) ||| d.setWidth 32 =
      a ++ b ++ c ++ d := by
  apply BitVec.eq_of_getLsbD_eq
  intro j hj
  simp only [BitVec.getLsbD_or, BitVec.getLsbD_shiftLeft, BitVec.getLsbD_setWidth,
    BitVec.getLsbD_append]
  -- which of the four bytes the bit is of
  by_cases h8 : j < 8
  · have h16 : j < 16 := by omega
    have h24 : j < 24 := by omega
    simp [h8, h16, h24, hj]
  have hd := BitVec.getLsbD_of_ge d j (by omega)
  by_cases h16 : j < 16
  · have h24 : j < 24 := by omega
    have hj8 : j - 8 < 8 := by omega
    have hj32 : j - 8 < 32 := by omega
    simp [h8, h16, h24, hj, hd, hj8, hj32]
  have hc := BitVec.getLsbD_of_ge c (j - 8) (by omega)
  have hj8 : ¬ j - 8 < 8 := by omega
  by_cases h24 : j < 24
  · have hj16 : j - 16 < 8 := by omega
    have hj32 : j - 16 < 32 := by omega
    simp [h8, h16, h24, hj, hd, hc, hj8, hj16, hj32, Nat.sub_sub]
  · have hb := BitVec.getLsbD_of_ge b (j - 16) (by omega)
    have hj16 : ¬ j - 16 < 8 := by omega
    have hj32 : j - 24 < 32 := by omega
    simp [h8, h16, h24, hj, hd, hc, hb, hj8, hj16, hj32, Nat.sub_sub]

theorem loadWord_eq (p : List UInt8) (i : Nat) : loadWord p i = Sha256.blockWord p i := by
  rw [loadWord, Nat.mul_comm]
  exact append_bytes _ _ _ _

/-- The words filled so far are those of the schedule. -/
theorem extendWord_schedule (p : List UInt8) (n : Nat) :
    (List.range' 16 n).foldl extendWord ((List.range 16).map (loadWord p)) =
      (List.range (16 + n)).map (Sha256.messageSchedule p) := by
  induction n with
  | zero =>
    apply List.map_congr_left
    intro t ht
    rw [Sha256.messageSchedule, if_pos (List.mem_range.mp ht), loadWord_eq]
  | succ n ih =>
    have hword {j : Nat} (hj : j < 16 + n) :
        ((List.range (16 + n)).map (Sha256.messageSchedule p)).getD j 0 =
          Sha256.messageSchedule p j := by
      rw [List.getD_eq_getElem?_getD, List.getElem?_map, List.getElem?_range hj]
      rfl
    rw [List.range'_1_concat, List.foldl_append, ih, ← Nat.add_assoc, List.range_succ,
      List.map_append, List.foldl_cons, List.foldl_nil, extendWord]
    dsimp only
    rw [hword (by omega), hword (by omega), hword (by omega), hword (by omega), List.map_cons,
      List.map_nil, Sha256.messageSchedule.eq_1 p (16 + n), if_neg (by omega), Sha256.smallSigma0,
      Sha256.smallSigma1]
    simp only [rr_eq _ (show 7 < 32 by decide), rr_eq _ (show 18 < 32 by decide),
      rr_eq _ (show 17 < 32 by decide), rr_eq _ (show 19 < 32 by decide)]
    congr 2
    ac_rfl

theorem compress_eq (h : Sha256.Words) (p : List UInt8) : compress h p = Sha256.compress h p := by
  have hpass {v : Sha256.Words} {t : Nat} (ht : t < 64) : compressPass (scheduleWords p) v t =
      Sha256.round (Sha256.roundConstants.getD t 0) (Sha256.messageSchedule p t) v := by
    have hword : (scheduleWords p).getD t 0 = Sha256.messageSchedule p t := by
      rw [scheduleWords, extendWord_schedule, List.getD_eq_getElem?_getD, List.getElem?_map,
        List.getElem?_range (by omega)]
      rfl
    simp only [compressPass, hword, k_eq, rr_eq _ (show 2 < 32 by decide),
      rr_eq _ (show 6 < 32 by decide), rr_eq _ (show 11 < 32 by decide),
      rr_eq _ (show 13 < 32 by decide), rr_eq _ (show 22 < 32 by decide),
      rr_eq _ (show 25 < 32 by decide)]
    rfl
  have hrounds : (List.range 64).foldl (compressPass (scheduleWords p)) h = Sha256.rounds p h :=
    List.foldl_ext _ _ _ fun v t ht => hpass (List.mem_range.mp ht)
  rw [compress, hrounds, Sha256.compress]
  ext1 <;> exact BitVec.add_comm _ _

/-! ## Writes to the block -/

theorem Block.write_eq (block : Block) (start : Nat) (bytes : List UInt8)
    (hfits : start + bytes.length ≤ 64) :
    ∃ after, block.write start bytes = some after ∧
      after.bytes = block.bytes.take start ++ bytes ++ block.bytes.drop (start + bytes.length) := by
  simp [Block.write, hfits]

/-- A write behind what the block holds adds to it. -/
theorem Block.take_write {block after : Block} {start : Nat} {bytes : List UInt8}
    (hwrite : block.write start bytes = some after) :
    after.bytes.take (start + bytes.length) = block.bytes.take start ++ bytes := by
  have hsize := block.size
  unfold Block.write at hwrite
  split at hwrite
  next hfits =>
    cases hwrite
    have hlength : (block.bytes.take start ++ bytes).length = start + bytes.length := by
      rw [List.length_append, List.length_take]
      omega
    rw [List.take_append_of_le_length (by omega), List.take_of_length_le (by omega)]
  next => cases hwrite

/-- A block filled to its end is what was written. -/
theorem Block.bytes_of_take (block : Block) {n : Nat} {bytes : List UInt8} (hn : n = 64)
    (h : block.bytes.take n = bytes) : block.bytes = bytes := by
  rw [← h, List.take_of_length_le (Nat.le_of_eq (by rw [block.size, hn]))]

/-! ## Streaming -/

/-- The state has taken `message`: its whole blocks are in the words, the rest waits. -/
structure Taken (s : InstallDigest) (message : List UInt8) : Prop where
  words : s.h = Sha256.foldBlocks Sha256.initialHash message
  used : s.used = message.length % 64
  waiting : s.block.bytes.take s.used = Sha256.openBlock message

theorem taken_init : Taken installDigestInit [] where
  words := by rw [Sha256.foldBlocks_short _ (by decide), init_eq]
  used := rfl
  waiting := rfl

variable {s : InstallDigest} {message : List UInt8}

theorem Taken.used_lt (h : Taken s message) :
    s.used < 64 := by
  rw [h.used]
  exact Nat.mod_lt _ (by decide)

/-- What goes behind the waiting bytes, as long as it leaves the block open. -/
theorem Taken.waits (h : Taken s message) (more : List UInt8) (hopen : s.used + more.length < 64) :
    ∃ block, s.block.write s.used more = some block ∧
      Taken { s with block, used := s.used + more.length } (message ++ more) := by
  obtain ⟨block, hwrite, -⟩ := s.block.write_eq s.used more (by omega)
  have hrest := Sha256.foldBlocks_append_open Sha256.initialHash message more
    (by rw [← h.used]; exact hopen)
  refine ⟨block, hwrite, ?_, ?_, ?_⟩
  · rw [hrest.1]
    exact h.words
  · have hused := h.used
    simp only [List.length_append]
    omega
  · rw [hrest.2, ← h.waiting]
    exact Block.take_write hwrite

/-- A block filled up with `more` is compressed. -/
theorem Taken.closed {message more : List UInt8} {block : Block} (h : Taken s message)
    (hclosed : s.used + more.length = 64) (hblock : block.bytes = Sha256.openBlock message ++ more) :
    Taken { s with block, h := compress s.h block.bytes, used := 0 } (message ++ more) := by
  have hrest := Sha256.foldBlocks_append_closed Sha256.initialHash message more
    (by rw [← h.used]; exact hclosed)
  refine ⟨?_, ?_, ?_⟩
  · rw [hrest.1, hblock, compress_eq, ← h.words]
  · have hused := h.used
    simp only [List.length_append]
    omega
  · rw [hrest.2]
    rfl

/-- What fills the block is compressed with it. -/
theorem Taken.closes (h : Taken s message) (more : List UInt8) (hclosed : s.used + more.length = 64) :
    ∃ block, s.block.write s.used more = some block ∧
      Taken { s with block, h := compress s.h block.bytes, used := 0 } (message ++ more) := by
  obtain ⟨block, hwrite, -⟩ := s.block.write_eq s.used more (by omega)
  refine ⟨block, hwrite, h.closed hclosed ?_⟩
  apply block.bytes_of_take hclosed
  rw [Block.take_write hwrite, h.waiting]

/-- The loop takes all of the data, and keeps the count. -/
theorem updateLoop_taken {passes : Nat} {message data : List UInt8} (h : Taken s message)
    (hpasses : data.length ≤ passes) :
    ∃ after, updateLoop passes s data = some after ∧ Taken after (message ++ data) ∧
      after.bytes = s.bytes := by
  induction passes generalizing s message data with
  | zero =>
    obtain rfl : data = [] := List.length_eq_zero_iff.mp (by omega)
    exact ⟨s, by rw [updateLoop], by rwa [List.append_nil], rfl⟩
  | succ passes ih =>
    cases data with
    | nil => exact ⟨s, by rw [updateLoop], by rwa [List.append_nil], rfl⟩
    | cons byte p =>
      have hlt := h.used_lt
      have hz : 1 ≤ min (64 - s.used) (byte :: p).length := by
        rw [List.length_cons]
        omega
      rw [updateLoop]
      generalize byte :: p = data at hpasses hz
      have hmin : min (64 - s.used) data.length ≤ data.length := Nat.min_le_right _ _
      have htaken : (data.take (min (64 - s.used) data.length)).length =
          min (64 - s.used) data.length := List.length_take_of_le hmin
      have hdropped : (data.drop (min (64 - s.used) data.length)).length ≤ passes := by
        rw [List.length_drop]
        omega
      have hsplit := List.take_append_drop (min (64 - s.used) data.length) data
      by_cases hfull : s.used + min (64 - s.used) data.length = 64
      · obtain ⟨block, hwrite, hnext⟩ := h.closes _ (htaken.symm ▸ hfull)
        obtain ⟨after, hloop, hafter, hbytes⟩ := ih hnext hdropped
        simp only [hwrite, if_pos hfull]
        rw [List.append_assoc, hsplit] at hafter
        exact ⟨after, hloop, hafter, hbytes⟩
      · obtain ⟨block, hwrite, hnext⟩ := h.waits
          (data.take (min (64 - s.used) data.length)) (by omega)
        rw [htaken] at hnext
        obtain ⟨after, hloop, hafter, hbytes⟩ := ih hnext hdropped
        simp only [hwrite, if_neg hfull]
        rw [List.append_assoc, hsplit] at hafter
        exact ⟨after, hloop, hafter, hbytes⟩

theorem installDigestUpdate_taken (h : Taken s message) (hbytes : s.bytes = BitVec.ofNat 64 message.length)
    (data : List UInt8) :
    ∃ after, installDigestUpdate s data = some after ∧ Taken after (message ++ data) ∧
      after.bytes = BitVec.ofNat 64 (message ++ data).length := by
  have hcounted : Taken { s with bytes := s.bytes + BitVec.ofNat 64 data.length } message :=
    ⟨h.words, h.used, h.waiting⟩
  obtain ⟨after, hloop, hafter, hcount⟩ := updateLoop_taken hcounted (Nat.le_refl data.length)
  refine ⟨after, hloop, hafter, ?_⟩
  rw [hcount, hbytes, List.length_append, BitVec.ofNat_add]

/-- Whatever the pieces, the state has taken all of them. -/
theorem foldlM_update_taken (chunks : List (List UInt8)) (h : Taken s message)
    (hbytes : s.bytes = BitVec.ofNat 64 message.length) :
    ∃ after, chunks.foldlM installDigestUpdate s = some after ∧
      Taken after (message ++ chunks.flatten) ∧
      after.bytes = BitVec.ofNat 64 (message ++ chunks.flatten).length := by
  induction chunks generalizing s message with
  | nil => exact ⟨s, rfl, by simpa using h, by simpa using hbytes⟩
  | cons data chunks ih =>
    obtain ⟨next, hupdate, hnext, hcount⟩ := installDigestUpdate_taken h hbytes data
    obtain ⟨after, hfold, hafter, hafterCount⟩ := ih hnext hcount
    refine ⟨after, ?_, ?_, ?_⟩
    · rw [List.foldlM_cons, hupdate]
      exact hfold
    · rwa [List.flatten_cons, ← List.append_assoc]
    · rwa [List.flatten_cons, ← List.append_assoc]

/-! ## Padding -/

theorem bitsBytes_eq {length : Nat} (h : length < 2 ^ 61) :
    bitsBytes (BitVec.ofNat 64 length * 8) = Sha256.lengthBytes length := by
  have hbits : (BitVec.ofNat 64 length * 8).toNat = 8 * length := by
    have height : (8 : BitVec 64).toNat = 8 := rfl
    rw [BitVec.toNat_mul, BitVec.toNat_ofNat, height]
    omega
  unfold bitsBytes Sha256.lengthBytes
  apply List.map_congr_left
  intro j hj
  apply UInt8.toNat_inj.mp
  simp only [UInt8.toNat_ofBitVec, BitVec.toNat_setWidth, BitVec.toNat_ushiftRight, hbits,
    UInt8.toNat_ofNat', Nat.shiftRight_eq_div_pow, Nat.mul_comm (7 - j) 8]

theorem map_digestByte (h : Sha256.Words) :
    (List.range 32).map (digestByte h) = h.toList.flatMap Sha256.wordBytes := rfl

/-- The marker, and the zeros that go with it when the length has no room. -/
def markerZeros (used : Nat) : List UInt8 :=
  0x80 :: List.replicate (if used < 56 then 0 else 63 - used) 0

theorem closeBlock_taken (h : Taken s message) :
    ∃ after, closeBlock s = some after ∧
      after.used = (if s.used < 56 then s.used + 1 else 0) ∧
      Taken after (message ++ markerZeros s.used) := by
  have hlt := h.used_lt
  by_cases hroom : s.used < 56
  · obtain ⟨block, hwrite, hnext⟩ := h.waits [0x80] (by simp only [List.length_singleton]; omega)
    refine ⟨{ s with block, used := s.used + 1 }, ?_, by rw [if_pos hroom], ?_⟩
    · simp only [closeBlock, hwrite, Option.bind_eq_bind, Option.bind_some]
      rw [if_neg (by omega)]
      rfl
    · rw [markerZeros, if_pos hroom]
      exact hnext
  · obtain ⟨block, hwrite, -⟩ := s.block.write_eq s.used [0x80]
      (by simp only [List.length_singleton]; omega)
    obtain ⟨full, hzeros, -⟩ := block.write_eq (s.used + 1)
      (List.replicate (64 - (s.used + 1)) 0) (by rw [List.length_replicate]; omega)
    refine ⟨{ s with block := full, h := compress s.h full.bytes, used := 0 }, ?_,
      by rw [if_neg hroom], ?_⟩
    · simp only [closeBlock, hwrite, Option.bind_eq_bind, Option.bind_some]
      rw [if_pos (by omega), hzeros]
      rfl
    · -- the two writes fill the block up
      have hmarker := Block.take_write hwrite
      have hfull := Block.take_write hzeros
      rw [List.length_singleton, h.waiting] at hmarker
      rw [hmarker] at hfull
      apply h.closed
      · simp only [markerZeros, if_neg hroom, List.length_cons, List.length_replicate]
        omega
      · apply full.bytes_of_take ?_ (hfull.trans ?_)
        · rw [List.length_replicate]
          omega
        · rw [markerZeros, if_neg hroom, List.append_assoc, Nat.sub_add_eq, Nat.sub_right_comm]
          rfl

/-- The marker, the zeros and the length make up the padding. -/
theorem markerZeros_append (length : Nat) :
    markerZeros (length % 64) ++
        List.replicate (56 - if length % 64 < 56 then length % 64 + 1 else 0) 0 ++
      Sha256.lengthBytes length = Sha256.padding length := by
  have hlt : length % 64 < 64 := Nat.mod_lt _ (by decide)
  simp only [markerZeros, Sha256.padding, List.cons_append, List.replicate_append_replicate]
  congr 3
  split <;> omega

/-- The writes of `install_digest_final`, when they stay in the block. -/
theorem installDigestFinal_eq {s marked : InstallDigest} {padded last : Block}
    (hclose : closeBlock s = some marked)
    (hzeros : marked.block.write marked.used (List.replicate (56 - marked.used) 0) = some padded)
    (hlast : padded.write 56 (bitsBytes (s.bytes * 8)) = some last) :
    installDigestFinal s = some ((compress marked.h last.bytes).toList.flatMap Sha256.wordBytes) := by
  rw [installDigestFinal, hclose, Option.bind_eq_bind, Option.bind_some, hzeros,
    Option.bind_eq_bind, Option.bind_some, hlast, Option.bind_some, map_digestByte,
    Option.pure_def]

/-- The digest of a state is that of what it has taken. -/
theorem installDigestFinal_taken (h : Taken s message) (hbytes : s.bytes = BitVec.ofNat 64 message.length)
    (hlength : message.length < 2 ^ 61) :
    installDigestFinal s = some (Sha256.sha256 message) := by
  obtain ⟨marked, hclose, hused, hmarked⟩ := closeBlock_taken h
  have hle : marked.used ≤ 56 := by
    rw [hused]
    split <;> omega
  obtain ⟨padded, hzeros, hpadded⟩ := hmarked.waits (List.replicate (56 - marked.used) 0)
    (by rw [List.length_replicate]; omega)
  have hat : marked.used + (List.replicate (56 - marked.used) (0 : UInt8)).length = 56 := by
    rw [List.length_replicate]
    omega
  rw [hat] at hpadded
  obtain ⟨last, hlast, htaken⟩ := hpadded.closes (Sha256.lengthBytes message.length)
    (by simp [Sha256.lengthBytes])
  have hwords : compress marked.h last.bytes = _ := htaken.words
  rw [h.used] at hused hwords
  rw [hused, List.append_assoc message, List.append_assoc message, markerZeros_append] at hwords
  have hbits : padded.write 56 (bitsBytes (s.bytes * 8)) = some last := by
    rw [hbytes, bitsBytes_eq hlength]
    exact hlast
  rw [installDigestFinal_eq hclose hzeros hbits, hwords, Sha256.sha256]

/-- Whatever the pieces, no write leaves the block, bytes wait in it only until it is full, and
    the digest is that of the whole. -/
theorem installDigest_chunks (chunks : List (List UInt8))
    (hlength : chunks.flatten.length < 2 ^ 61) :
    ∃ s, chunks.foldlM installDigestUpdate installDigestInit = some s ∧ s.used < 64 ∧
      installDigestFinal s = some (Sha256.sha256 chunks.flatten) := by
  obtain ⟨s, hfold, htaken, hcount⟩ := foldlM_update_taken chunks taken_init rfl
  rw [List.nil_append] at htaken hcount
  exact ⟨s, hfold, htaken.used_lt, installDigestFinal_taken htaken hcount hlength⟩

/-- The second piece fills the first block. -/
theorem installDigest_chunks_blocks :
    ∃ s, [List.replicate 60 97, List.replicate 10 98].foldlM installDigestUpdate installDigestInit = some s ∧
      s.used < 64 ∧
      installDigestFinal s = some (Sha256.sha256 [List.replicate 60 97, List.replicate 10 98].flatten) :=
  installDigest_chunks [List.replicate 60 97, List.replicate 10 98] (by decide)

theorem installDigestHex_eq {data : List UInt8} (hlength : data.length < 2 ^ 61) :
    installDigestHex data = some (hexText (Sha256.sha256 data)) := by
  obtain ⟨s, hupdate, htaken, hcount⟩ := installDigestUpdate_taken taken_init rfl data
  rw [List.nil_append] at htaken hcount
  rw [installDigestHex, hupdate, Option.bind_eq_bind, Option.bind_some,
    installDigestFinal_taken htaken hcount hlength, Option.bind_eq_bind, Option.bind_some,
    Option.pure_def]

example : installDigestHex [97, 98, 99] =
    some "ba7816bf8f01cfea414140de5dae2223b00361a396177a9cb410ff61f20015ad".toList := by
  decide +kernel

end FourVrs.Installer
