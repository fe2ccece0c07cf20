import Mathlib

/-!
# Masks and the sets they cut out

A mask fixes some bits of a word and leaves the others free. The words that agree with a given
one where the mask is set are a *subnet*; a mask of leading ones is told by arithmetic on its
complement, and whether two subnets meet by one comparison under the intersection of the masks.
-/

set_option autoImplicit false

namespace FourVrs.Lib

variable {w : Nat}

/-- `k` ones, then zeros. -/
def leadingOnes (w k : Nat) : BitVec w := ~~~BitVec.ofNat w (2 ^ (w - k) - 1)

/-- The words that agree with `a` under the mask. -/
def subnet (a m : BitVec w) : Set (BitVec w) := {x | x &&& m = a &&& m}

theorem mem_subnet {a m x : BitVec w} : x ∈ subnet a m ↔ x &&& m = a &&& m := Iff.rfl

/-- **Two subnets are apart exactly when the two words differ where both masks are set.** -/
theorem disjoint_subnet {a m b n : BitVec w} :
    Disjoint (subnet a m) (subnet b n) ↔ a &&& (m &&& n) ≠ b &&& (m &&& n) := by
  rw [Set.disjoint_left]
  constructor
  · intro hapart hsame
    -- the bits of the first under its mask, and those of the second under its own
    refine hapart (a := (a &&& m) ||| (b &&& n)) ?_ ?_
    · refine BitVec.eq_of_getElem_eq fun i hi => ?_
      have hbit := congrArg (·[i]) hsame
      simp only [BitVec.getElem_and, BitVec.getElem_or] at hbit ⊢
      revert hbit
      cases a[i] <;> cases m[i] <;> cases b[i] <;> cases n[i] <;> simp
    · refine BitVec.eq_of_getElem_eq fun i hi => ?_
      have hbit := congrArg (·[i]) hsame
      simp only [BitVec.getElem_and, BitVec.getElem_or] at hbit ⊢
      revert hbit
      cases a[i] <;> cases m[i] <;> cases b[i] <;> cases n[i] <;> simp
  · intro hdiffer x hx hy
    rw [mem_subnet] at hx hy
    apply hdiffer
    calc a &&& (m &&& n) = (x &&& m) &&& n := by rw [hx, BitVec.and_assoc]
      _ = (x &&& n) &&& m := by rw [BitVec.and_assoc, BitVec.and_comm m, ← BitVec.and_assoc]
      _ = b &&& (m &&& n) := by rw [hy, BitVec.and_assoc, BitVec.and_comm n]

/-! ## Contiguous masks -/

theorem and_succ_eq_zero {n : Nat} : n &&& (n + 1) = 0 ↔ ∃ k, n = 2 ^ k - 1 := by
  have hpower := Nat.and_sub_one_eq_zero_iff_isPowerOfTwo (n := n + 1) (by omega)
  rw [Nat.add_sub_cancel, Nat.and_comm] at hpower
  rw [hpower]
  constructor
  · intro ⟨k, hk⟩
    exact ⟨k, by omega⟩
  · intro ⟨k, hk⟩
    have hpos := Nat.two_pow_pos k
    exact ⟨k, by omega⟩

/-- A word and its successor have no bit in common exactly when it is a row of ones. -/
theorem and_succ_word {x : BitVec w} (hx : x ≠ BitVec.allOnes w) :
    x &&& (x + 1) = 0 ↔ ∃ k ≤ w, x = BitVec.ofNat w (2 ^ k - 1) := by
  have hlt : x.toNat + 1 < 2 ^ w := by
    have hbound := x.isLt
    by_contra hlarge
    refine hx (BitVec.eq_of_toNat_eq ?_)
    rw [BitVec.toNat_allOnes]
    omega
  have hsucc : (x + 1).toNat = x.toNat + 1 := by
    simp only [BitVec.toNat_add, BitVec.ofNat_eq_ofNat, BitVec.toNat_ofNat, Nat.add_mod_mod]
    exact Nat.mod_eq_of_lt hlt
  have hand : x &&& (x + 1) = 0 ↔ x.toNat &&& (x.toNat + 1) = 0 := by
    rw [← hsucc, ← BitVec.toNat_and]
    constructor
    · intro h
      rw [h]
      simp
    · intro h
      exact BitVec.eq_of_toNat_eq (by simpa using h)
  rw [hand, and_succ_eq_zero]
  constructor
  · intro ⟨k, hk⟩
    have hk' : k ≤ w := by
      refine (Nat.pow_le_pow_iff_right (a := 2) (by decide)).mp ?_
      omega
    refine ⟨k, hk', BitVec.eq_of_toNat_eq ?_⟩
    rw [BitVec.toNat_ofNat, ← hk, Nat.mod_eq_of_lt (by omega)]
  · intro ⟨k, hk, hx⟩
    refine ⟨k, ?_⟩
    have hle := Nat.pow_le_pow_right (n := 2) (by decide) hk
    have hpos := Nat.two_pow_pos k
    rw [hx, BitVec.toNat_ofNat, Nat.mod_eq_of_lt (by omega)]

/-- A mask is leading ones exactly when its complement is a row of ones. -/
theorem leadingOnes_iff {m : BitVec w} (hm : m ≠ 0) :
    ~~~m &&& (~~~m + 1) = 0 ↔ ∃ k ≤ w, m = leadingOnes w k := by
  have hnot : ~~~m ≠ BitVec.allOnes w := by
    intro h
    apply hm
    have := congrArg (~~~·) h
    simpa using this
  rw [and_succ_word hnot]
  constructor
  · intro ⟨k, hk, hx⟩
    refine ⟨w - k, Nat.sub_le w k, ?_⟩
    unfold leadingOnes
    rw [Nat.sub_sub_self hk, ← hx, BitVec.not_not]
  · intro ⟨k, hk, hx⟩
    exact ⟨w - k, Nat.sub_le w k, by rw [hx, leadingOnes, BitVec.not_not]⟩

theorem toNat_not_leadingOnes {k : Nat} : (~~~leadingOnes w k).toNat = 2 ^ (w - k) - 1 := by
  have hle := Nat.pow_le_pow_right (n := 2) (by decide) (Nat.sub_le w k)
  have hpos := Nat.two_pow_pos (w - k)
  rw [leadingOnes, BitVec.not_not, BitVec.toNat_ofNat, Nat.mod_eq_of_lt (by omega)]

end FourVrs.Lib
