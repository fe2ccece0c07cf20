import Mathlib.Logic.Function.Iterate
import Mathlib.Tactic.Common

/-!
# The remainder of a reflected CRC

A register takes a message a bit at a time, the lowest bit first: the bit is added to the lowest
bit of the register, the register moves down, and what falls out adds the polynomial. All of it
is linear in exclusive or, so what an error does to the remainder depends on the error alone. An
error no longer than the register leaves a remainder because moving down loses nothing, and one
of odd weight because the parity of the register is that of the bits it took.
-/

set_option autoImplicit false

namespace FourVrs.Lib

variable {w : Nat}

/-! ## The register -/

def crcShift (poly c : BitVec w) : BitVec w :=
  if c.getLsbD 0 then (c >>> 1) ^^^ poly else c >>> 1

/-- The register with `bit` at its lowest place. -/
def lowBit (w : Nat) (bit : Bool) : BitVec w := (BitVec.ofBool bit).setWidth w

/-- What the register holds after `bits`. -/
def crcFeed (poly : BitVec w) : BitVec w → List Bool → BitVec w :=
  List.foldl fun c bit => crcShift poly (c ^^^ lowBit w bit)

theorem crcFeed_cons (poly c : BitVec w) (bit : Bool) (bits : List Bool) :
    crcFeed poly c (bit :: bits) = crcFeed poly (crcShift poly (c ^^^ lowBit w bit)) bits := rfl

theorem crcFeed_append (poly c : BitVec w) (front back : List Bool) :
    crcFeed poly c (front ++ back) = crcFeed poly (crcFeed poly c front) back :=
  List.foldl_append

theorem getLsbD_lowBit (bit : Bool) (i : Nat) :
    (lowBit w bit).getLsbD i = (decide (i < w) && decide (i = 0) && bit) := by
  simp only [lowBit, BitVec.getLsbD_setWidth, BitVec.getLsbD_ofBool]
  cases bit <;> simp

theorem lowBit_xor (a b : Bool) : lowBit w (a ^^ b) = lowBit w a ^^^ lowBit w b := by
  apply BitVec.eq_of_getLsbD_eq
  intro i _
  simp only [BitVec.getLsbD_xor, getLsbD_lowBit]
  cases a <;> cases b <;> simp

/-! ## It is linear -/

theorem crcShift_xor (poly a b : BitVec w) :
    crcShift poly (a ^^^ b) = crcShift poly a ^^^ crcShift poly b := by
  simp only [crcShift, BitVec.getLsbD_xor, BitVec.ushiftRight_xor_distrib]
  cases a.getLsbD 0 <;> cases b.getLsbD 0
  · simp
  · simp [BitVec.xor_assoc]
  · simp only [Bool.bne_false, if_true, Bool.false_eq_true, if_false]
    ac_rfl
  · apply BitVec.eq_of_getLsbD_eq
    intro i _
    simp only [bne_self_eq_false, Bool.false_eq_true, if_false, if_true, BitVec.getLsbD_xor]
    cases poly.getLsbD i <;> simp

/-- What two messages leave together is what they leave one by one. -/
theorem crcFeed_xor (poly : BitVec w) (xs ys : List Bool) (hlength : xs.length = ys.length)
    (a b : BitVec w) :
    crcFeed poly (a ^^^ b) (List.zipWith xor xs ys) = crcFeed poly a xs ^^^ crcFeed poly b ys := by
  induction xs generalizing ys a b with
  | nil =>
    cases ys with
    | nil => rfl
    | cons y ys => cases hlength
  | cons x xs ih =>
    cases ys with
    | nil => cases hlength
    | cons y ys =>
      have hxor : a ^^^ b ^^^ lowBit w (x ^^ y) = (a ^^^ lowBit w x) ^^^ (b ^^^ lowBit w y) := by
        rw [lowBit_xor]
        ac_rfl
      rw [List.zipWith_cons_cons, crcFeed_cons, crcFeed_cons, crcFeed_cons, hxor, crcShift_xor]
      exact ih ys (Nat.succ.inj hlength) _ _

theorem crcShift_zero (poly : BitVec w) : crcShift poly 0#w = 0#w := by
  simp [crcShift]

theorem crcFeed_replicate (poly c : BitVec w) (n : Nat) :
    crcFeed poly c (List.replicate n false) = (crcShift poly)^[n] c := by
  have hlow : lowBit w false = 0#w := by simp [lowBit]
  induction n generalizing c with
  | zero => rfl
  | succ n ih =>
    rw [List.replicate_succ, crcFeed_cons, ih, hlow, BitVec.xor_zero,
      Function.iterate_succ_apply]

/-! ## Moving down loses nothing -/

/-- With the polynomial's highest bit set, what fell out shows at the top. -/
theorem crcShift_eq_zero {poly c : BitVec w} (hpoly : poly.getLsbD (w - 1) = true)
    (h : crcShift poly c = 0#w) : c = 0#w := by
  have hbit (i : Nat) : (crcShift poly c).getLsbD i = false := by rw [h]; simp
  by_cases hlow : c.getLsbD 0 = true
  · have htop := hbit (w - 1)
    have hpos : 0 < w := by
      by_contra hno
      obtain rfl : w = 0 := by omega
      simp at hlow
    have hout : c.getLsbD (1 + (w - 1)) = false := BitVec.getLsbD_of_ge c _ (by omega)
    simp [crcShift, hlow, hpoly, hout] at htop
  · apply BitVec.eq_of_getLsbD_eq
    intro i _
    cases i with
    | zero => simpa using hlow
    | succ i =>
      have hnext := hbit i
      rw [crcShift, if_neg hlow, BitVec.getLsbD_ushiftRight, Nat.add_comm] at hnext
      simpa using hnext

variable {poly : BitVec w}

theorem iterate_crcShift_eq_zero (hpoly : poly.getLsbD (w - 1) = true) {n : Nat} {c : BitVec w}
    (h : (crcShift poly)^[n] c = 0#w) : c = 0#w := by
  induction n generalizing c with
  | zero => exact h
  | succ n ih =>
    rw [Function.iterate_succ_apply] at h
    exact crcShift_eq_zero hpoly (ih h)

/-- The word a few bits spell, the lowest first. -/
def wordOf (w : Nat) : List Bool → BitVec w
  | [] => 0#w
  | bit :: bits => lowBit w bit ^^^ (wordOf w bits <<< 1)

theorem getLsbD_wordOf (bits : List Bool) (i : Nat) :
    (wordOf w bits).getLsbD i = (decide (i < w) && bits.getD i false) := by
  induction bits generalizing i with
  | nil => simp [wordOf]
  | cons bit bits ih =>
    cases i with
    | zero => simp [wordOf, getLsbD_lowBit]
    | succ i =>
      simp only [wordOf, BitVec.getLsbD_xor, getLsbD_lowBit, BitVec.getLsbD_shiftLeft, ih]
      by_cases hi : i + 1 < w
      · simp [hi, Nat.lt_of_succ_lt hi]
      · simp [hi]

variable {bits : List Bool}

/-- Bits that fit the register are taken as one word. -/
theorem crcFeed_eq_iterate (poly c : BitVec w) (hfits : bits.length ≤ w) :
    crcFeed poly c bits = (crcShift poly)^[bits.length] (c ^^^ wordOf w bits) := by
  induction bits generalizing c with
  | nil => simp [crcFeed, wordOf]
  | cons bit bits ih =>
    -- the bits behind the first come down without reaching the polynomial
    have hdown : crcShift poly (wordOf w bits <<< 1) = wordOf w bits := by
      have hlow : (wordOf w bits <<< 1).getLsbD 0 = false := by simp
      rw [crcShift, hlow]
      apply BitVec.eq_of_getLsbD_eq
      intro i hi
      simp only [Bool.false_eq_true, if_false, BitVec.getLsbD_ushiftRight,
        BitVec.getLsbD_shiftLeft, getLsbD_wordOf]
      by_cases hlast : i + 1 < w
      · simp [hi, Nat.add_comm 1 i, hlast]
      · have hnone : bits.length ≤ i := by
          simp only [List.length_cons] at hfits
          omega
        simp [hnone]
    have hfits' : bits.length ≤ w := Nat.le_of_succ_le hfits
    rw [crcFeed_cons, ih _ hfits', List.length_cons, Function.iterate_succ_apply, wordOf,
      ← BitVec.xor_assoc, crcShift_xor poly (c ^^^ lowBit w bit), hdown]

/-- Bits that all lie within `w` places are zeros around a burst. -/
theorem burst_parts {first n : Nat} (htrue : true ∈ bits)
    (h : ∀ i, bits[i]? = some true → first ≤ i ∧ i < first + n) :
    ∃ before burst after, burst.length ≤ n ∧ true ∈ burst ∧
      bits = List.replicate before false ++ (burst ++ List.replicate after false) := by
  have hfront : bits.take first = List.replicate (bits.take first).length false := by
    rw [List.eq_replicate_iff]
    refine ⟨rfl, fun bit hbit => ?_⟩
    obtain ⟨i, hi⟩ := List.mem_iff_getElem?.mp hbit
    rw [List.getElem?_take] at hi
    cases bit with
    | false => rfl
    | true =>
      split at hi
      · have hplace := h i hi
        omega
      · cases hi
  have hback : (bits.drop first).drop n =
      List.replicate ((bits.drop first).drop n).length false := by
    rw [List.eq_replicate_iff]
    refine ⟨rfl, fun bit hbit => ?_⟩
    obtain ⟨i, hi⟩ := List.mem_iff_getElem?.mp hbit
    rw [List.getElem?_drop, List.getElem?_drop] at hi
    cases bit with
    | false => rfl
    | true =>
      have hplace := h _ hi
      omega
  refine ⟨(bits.take first).length, (bits.drop first).take n, ((bits.drop first).drop n).length,
    List.length_take_le n _, ?_, ?_⟩
  · obtain ⟨i, hi⟩ := List.mem_iff_getElem?.mp htrue
    have hplace := h i hi
    apply List.mem_iff_getElem?.mpr
    refine ⟨i - first, ?_⟩
    rw [List.getElem?_take_of_lt (by omega), List.getElem?_drop, Nat.add_sub_cancel' hplace.1, hi]
  · rw [← hfront, ← hback, List.take_append_drop, List.take_append_drop]

/-- **A burst no longer than the register leaves a remainder.** -/
theorem crcFeed_burst (hpoly : poly.getLsbD (w - 1) = true) {first : Nat} (htrue : true ∈ bits)
    (hplaces : ∀ i, bits[i]? = some true → first ≤ i ∧ i < first + w) :
    crcFeed poly 0#w bits ≠ 0#w := by
  intro h
  obtain ⟨before, burst, after, hfits, hburst, rfl⟩ := burst_parts htrue hplaces
  rw [crcFeed_append, crcFeed_append, crcFeed_replicate, crcFeed_replicate,
    Function.iterate_fixed (crcShift_zero poly)] at h
  have hword := iterate_crcShift_eq_zero hpoly h
  rw [crcFeed_eq_iterate poly 0#w hfits] at hword
  have hzero := iterate_crcShift_eq_zero hpoly hword
  obtain ⟨i, hi, hbit⟩ := List.mem_iff_getElem.mp hburst
  have hlsb := getLsbD_wordOf (w := w) burst i
  rw [BitVec.zero_xor] at hzero
  rw [hzero, List.getD_eq_getElem?_getD, List.getElem?_eq_getElem hi, hbit] at hlsb
  simp at hlsb
  omega

/-! ## The parity of the register -/

/-- Whether an odd number of the first `n` places holds. -/
def oddBits : Nat → (Nat → Bool) → Bool
  | 0, _ => false
  | n + 1, f => f n ^^ oddBits n f

theorem oddBits_xor (n : Nat) (f g : Nat → Bool) :
    oddBits n (fun i => f i ^^ g i) = (oddBits n f ^^ oddBits n g) := by
  induction n with
  | zero => rfl
  | succ n ih =>
    rw [oddBits, oddBits, oddBits, ih]
    cases f n <;> cases g n <;> cases oddBits n f <;> cases oddBits n g <;> rfl

theorem oddBits_succ (n : Nat) (f : Nat → Bool) :
    oddBits (n + 1) f = (f 0 ^^ oddBits n fun i => f (i + 1)) := by
  induction n with
  | zero => rfl
  | succ n ih =>
    rw [oddBits, ih, oddBits]
    cases f (n + 1) <;> cases f 0 <;> simp

def parity (c : BitVec w) : Bool := oddBits w c.getLsbD

theorem parity_xor (a b : BitVec w) : parity (a ^^^ b) = (parity a ^^ parity b) := by
  rw [parity, parity, parity, ← oddBits_xor]
  congr 1
  funext i
  exact BitVec.getLsbD_xor

theorem parity_shift (c : BitVec w) : parity (c >>> 1) = (parity c ^^ c.getLsbD 0) := by
  have hout : c.getLsbD w = false := BitVec.getLsbD_of_ge c w (Nat.le_refl w)
  have hnext : (c >>> 1).getLsbD = fun i => c.getLsbD (i + 1) := by
    funext i
    rw [BitVec.getLsbD_ushiftRight, Nat.add_comm]
  have hsucc : oddBits (w + 1) c.getLsbD = parity c := by
    rw [oddBits, hout, Bool.false_xor, parity]
  rw [← hsucc, oddBits_succ, parity, hnext]
  cases c.getLsbD 0 <;> simp

/-- The polynomial makes up for the bit that falls out. -/
theorem parity_crcShift (hpoly : parity poly = true) (c : BitVec w) :
    parity (crcShift poly c) = parity c := by
  unfold crcShift
  cases hlow : c.getLsbD 0 <;> simp [parity_xor, parity_shift, hpoly, hlow]

theorem parity_zero : parity 0#w = false := by
  have hself := parity_xor 0#w 0#w
  rw [BitVec.xor_self] at hself
  cases h : parity 0#w <;> simp_all

theorem parity_lowBit (hw : 0 < w) (bit : Bool) : parity (lowBit w bit) = bit := by
  obtain ⟨n, rfl⟩ : ∃ n, w = n + 1 := ⟨w - 1, by omega⟩
  have hrest : (fun i => (lowBit (n + 1) bit).getLsbD (i + 1)) = (0#n).getLsbD := by
    funext i
    simp [getLsbD_lowBit]
  have hzero := parity_zero (w := n)
  rw [parity] at hzero
  rw [parity, oddBits_succ, hrest, hzero, getLsbD_lowBit]
  simp

theorem parity_crcFeed (hw : 0 < w) (hpoly : parity poly = true) (bits : List Bool) (c : BitVec w) :
    parity (crcFeed poly c bits) = (parity c ^^ decide (bits.count true % 2 = 1)) := by
  induction bits generalizing c with
  | nil => simp [crcFeed]
  | cons bit bits ih =>
    rw [crcFeed_cons, ih, parity_crcShift hpoly, parity_xor, parity_lowBit hw]
    cases bit with
    | false => simp
    | true =>
      rw [List.count_cons_self]
      rcases Nat.mod_two_eq_zero_or_one (bits.count true) with h | h <;>
        cases parity c <;> simp [h, Nat.add_mod]

/-- **An error of odd weight leaves a remainder.** -/
theorem crcFeed_odd (hw : 0 < w) (hpoly : parity poly = true) (hodd : bits.count true % 2 = 1) :
    crcFeed poly 0#w bits ≠ 0#w := by
  intro h
  have hparity := parity_crcFeed hw hpoly bits 0#w
  rw [h, parity_zero] at hparity
  simp [hodd] at hparity

end FourVrs.Lib
