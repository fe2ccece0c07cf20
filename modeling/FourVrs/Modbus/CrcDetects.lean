import FourVrs.Lib.ReflectedCrc
import FourVrs.Modbus.RtuFrames
import FourVrs.Network.UdpListener

/-!
# The errors a CRC never lets through (`modbus/modbus_crc.c`)

The register that starts at `0xffff` and takes a frame with its checksum, the low byte first, is
left with nothing (`crcMatches_iff`). What it is left with after an error is what the error alone
leaves, so the frame passes only if that is nothing too.
-/

set_option autoImplicit false

namespace FourVrs.Modbus

open FourVrs.Core Lib Network

/-! ## The frame as bits -/

def byteBits (byte : UInt8) : List Bool := (List.range 8).map byte.toBitVec.getLsbD

/-- The bytes in order, each with its least significant bit first. -/
def frameBits (data : List UInt8) : List Bool := data.flatMap byteBits

def crc16Poly : BitVec 16 := 0xa001

theorem crc16Bit_eq (crc : BitVec 16) : crc16Bit crc = crcShift crc16Poly crc := by
  have hone : crc &&& 1 = 1 ↔ crc.getLsbD 0 = true := by
    rw [BitVec.ofNat_eq_ofNat, BitVec.and_one_eq_setWidth_ofBool_getLsbD]
    cases crc.getLsbD 0 <;> decide
  simp only [crc16Bit, crcShift, hone, crc16Poly]

theorem length_byteBits (byte : UInt8) : (byteBits byte).length = 8 := by
  simp [byteBits]

theorem getD_byteBits (byte : UInt8) (i : Nat) :
    (byteBits byte).getD i false = byte.toBitVec.getLsbD i := by
  rw [byteBits, List.getD_eq_getElem?_getD, List.getElem?_map]
  by_cases hi : i < 8
  · simp [List.getElem?_range hi]
  · rw [List.getElem?_eq_none (by simpa using hi), BitVec.getLsbD_of_ge _ _ (by omega)]
    rfl

theorem wordOf_byteBits (byte : UInt8) : wordOf 16 (byteBits byte) = byte.toBitVec.setWidth 16 := by
  apply BitVec.eq_of_getLsbD_eq
  intro i hi
  rw [getLsbD_wordOf, getD_byteBits, BitVec.getLsbD_setWidth]

theorem crc16Byte_eq (crc : BitVec 16) (byte : UInt8) :
    crc16Byte crc byte = crcFeed crc16Poly crc (byteBits byte) := by
  have hfits : (byteBits byte).length ≤ 16 := by
    rw [length_byteBits]
    decide
  have hbit : crc16Bit = crcShift crc16Poly := funext crc16Bit_eq
  rw [crcFeed_eq_iterate crc16Poly crc hfits, length_byteBits, wordOf_byteBits, crc16Byte, hbit]

theorem foldl_crc16Byte (data : List UInt8) (crc : BitVec 16) :
    data.foldl crc16Byte crc = crcFeed crc16Poly crc (frameBits data) := by
  induction data generalizing crc with
  | nil => rfl
  | cons byte data ih =>
    rw [List.foldl_cons, ih, crc16Byte_eq, frameBits, frameBits, List.flatMap_cons,
      crcFeed_append]

/-! ## A frame that passes leaves nothing -/

theorem wordOf_bytes (low high : UInt8) :
    (wordOf 16 (byteBits low ++ byteBits high)).toNat = low.toNat + high.toNat * 256 := by
  have hword : wordOf 16 (byteBits low ++ byteBits high) = high.toBitVec ++ low.toBitVec := by
    apply BitVec.eq_of_getLsbD_eq
    intro i hi
    rw [getLsbD_wordOf, BitVec.getLsbD_append, List.getD_eq_getElem?_getD]
    by_cases hlow : i < 8
    · rw [List.getElem?_append_left (by simpa [length_byteBits] using hlow),
        ← List.getD_eq_getElem?_getD, getD_byteBits]
      simp [hlow, hi]
    · rw [List.getElem?_append_right (by simpa [length_byteBits] using hlow),
        ← List.getD_eq_getElem?_getD, getD_byteBits, length_byteBits]
      simp [hlow, hi]
  have hlow := low.toBitVec.isLt
  rw [hword, BitVec.toNat_append, ← Nat.shiftLeft_add_eq_or_of_lt hlow, Nat.shiftLeft_eq]
  simp only [UInt8.toNat_toBitVec]
  omega

/-- The last two bytes are the CRC of those before exactly when the whole leaves nothing. -/
theorem crcMatches_iff {data : List UInt8} (hlength : 2 ≤ data.length) :
    crcMatches data = true ↔ crcFeed crc16Poly 0xffff (frameBits data) = 0#16 := by
  have hbits : frameBits data = frameBits (data.take (data.length - 2)) ++
      (byteBits (byteAt data (data.length - 2)) ++ byteBits (byteAt data (data.length - 1))) := by
    conv => lhs; rw [← front_append_last hlength]
    simp [frameBits]
  have hpoly : crc16Poly.getLsbD (16 - 1) = true := by decide
  rw [hbits, crcFeed_append, ← foldl_crc16Byte, ← modbusCrc16,
    crcFeed_eq_iterate crc16Poly _ (by simp [length_byteBits])]
  generalize hcrc : modbusCrc16 (data.take (data.length - 2)) = crc
  have hword := wordOf_bytes (byteAt data (data.length - 2)) (byteAt data (data.length - 1))
  rw [crcMatches, hcrc, ← hword, decide_eq_true_iff, BitVec.toNat_inj]
  constructor
  · intro h
    rw [h, BitVec.xor_self, Function.iterate_fixed (crcShift_zero _)]
  · intro h
    exact BitVec.xor_eq_zero_iff.mp (iterate_crcShift_eq_zero hpoly h)

/-! ## Errors -/

/-- The frame with the bits of an error flipped. -/
def corrupted (frame error : List UInt8) : List UInt8 := List.zipWith (· ^^^ ·) frame error

/-- The error lies within sixteen consecutive bits. -/
def Burst (error : List UInt8) : Prop :=
  ∃ first, ∀ i, (frameBits error)[i]? = some true → first ≤ i ∧ i < first + 16

/-- The error flips an odd number of bits. -/
def OddWeight (error : List UInt8) : Prop := (frameBits error).count true % 2 = 1

theorem frameBits_corrupted {frame error : List UInt8} (hlength : frame.length = error.length) :
    frameBits (corrupted frame error) = List.zipWith xor (frameBits frame) (frameBits error) := by
  induction frame generalizing error with
  | nil =>
    cases error with
    | nil => rfl
    | cons e error => cases hlength
  | cons byte frame ih =>
    cases error with
    | nil => cases hlength
    | cons e error =>
      have hbyte : byteBits (byte ^^^ e) = List.zipWith xor (byteBits byte) (byteBits e) := by
        simp [byteBits, List.zipWith_map]
      have hrest := ih (Nat.succ.inj hlength)
      rw [corrupted] at hrest
      simp only [corrupted, List.zipWith_cons_cons, frameBits, List.flatMap_cons] at hrest ⊢
      rw [List.zipWith_append (by rw [length_byteBits, length_byteBits]), hbyte, hrest]

theorem length_frameBits (data : List UInt8) : (frameBits data).length = 8 * data.length := by
  induction data with
  | nil => rfl
  | cons byte data ih =>
    rw [frameBits, List.flatMap_cons, List.length_append, ← frameBits, ih, length_byteBits,
      List.length_cons]
    omega

/-- An error that flips anything has a bit that does. -/
theorem true_mem_frameBits {error : List UInt8} {byte : UInt8} (hbyte : byte ∈ error)
    (hne : byte ≠ 0) : true ∈ frameBits error := by
  by_contra hno
  apply hne
  apply UInt8.toBitVec_inj.mp
  apply BitVec.eq_of_getLsbD_eq
  intro i hi
  have hbit : ¬ byte.toBitVec.getLsbD i = true := by
    intro htrue
    apply hno
    exact List.mem_flatMap.mpr ⟨byte, hbyte, List.mem_map.mpr ⟨i, List.mem_range.mpr hi, htrue⟩⟩
  simpa using hbit

theorem crcMatches_corrupted {message error : List UInt8}
    (hlength : error.length = (crcAppend message).length) (hnonzero : ∃ byte ∈ error, byte ≠ 0)
    (hdetect : Burst error ∨ OddWeight error) :
    crcMatches (corrupted (crcAppend message) error) = false := by
  have hcorrupted : (corrupted (crcAppend message) error).length = message.length + 2 := by
    rw [corrupted, List.length_zipWith, hlength, length_crcAppend, min_self]
  -- the frame itself leaves nothing, so what is left is what the error leaves
  have hclean := (crcMatches_iff (by rw [length_crcAppend]; omega)).mp
    (crcMatches_crcAppend message)
  have hleft := crcFeed_xor crc16Poly (frameBits (crcAppend message)) (frameBits error)
    (by rw [length_frameBits, length_frameBits, hlength]) 0xffff 0#16
  rw [← frameBits_corrupted hlength.symm, hclean, BitVec.xor_zero, BitVec.zero_xor] at hleft
  have herror : crcFeed crc16Poly 0#16 (frameBits error) ≠ 0#16 := by
    obtain ⟨first, hburst⟩ | hodd := hdetect
    · obtain ⟨byte, hbyte, hne⟩ := hnonzero
      apply crcFeed_burst ?_ (true_mem_frameBits hbyte hne) hburst
      decide
    · apply crcFeed_odd ?_ ?_ hodd <;> decide
  rw [← Bool.not_eq_true, crcMatches_iff (by omega), hleft]
  exact herror

/-- **What the CRC detects**: a frame with an error that lies within sixteen bits, or flips an odd
    number of them, passes no comparison. -/
theorem corrupted_rejected (message error : List UInt8)
    (hlength : error.length = (crcAppend message).length) (hnonzero : ∃ byte ∈ error, byte ≠ 0)
    (hdetect : Burst error ∨ OddWeight error) :
    crcMatches (corrupted (crcAppend message) error) = false ∧
      (∀ request, (modbusRtuFrameProbe request (corrupted (crcAppend message) error)).1 ≠
        .complete) ∧
      (∀ t capacity adu, modbusTcpBuildResponse t (corrupted (crcAppend message) error) capacity ≠
        .ok adu) ∧
      decodeDatagram true (corrupted (crcAppend message) error) = none := by
  have hrejected := crcMatches_corrupted hlength hnonzero hdetect
  -- each of the readers checks the CRC, so it refuses the frame whatever else is in it
  generalize corrupted (crcAppend message) error = frame at hrejected
  refine ⟨hrejected, ?_, ?_, ?_⟩
  · intro request hcomplete
    have hcrc := ((probe_complete_iff request frame).mp hcomplete).crc
    rw [hrejected] at hcrc
    cases hcrc
  · intro t capacity adu
    simp only [modbusTcpBuildResponse, hrejected]
    split
    · simp
    · simp
  · simp only [decodeDatagram, hrejected]
    simp

/-- Three bits of a read request, its checksum among them. -/
theorem corrupted_rejected_three :
    let frame := corrupted (crcAppend [1, 3, 0, 0, 0, 1]) [0, 0x10, 0, 0, 0, 0x80, 0, 0x01]
    crcMatches frame = false ∧
      (∀ request, (modbusRtuFrameProbe request frame).1 ≠ .complete) ∧
      (∀ t capacity adu, modbusTcpBuildResponse t frame capacity ≠ .ok adu) ∧
      decodeDatagram true frame = none :=
  corrupted_rejected _ _ (length_crcAppend _).symm ⟨0x10, by simp, by decide⟩
    (.inr (by unfold OddWeight; decide))

end FourVrs.Modbus
