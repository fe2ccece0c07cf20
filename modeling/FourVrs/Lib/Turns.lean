import Mathlib.Algebra.Group.Fin.Basic
import Mathlib.Data.List.FinRange
import Mathlib.Tactic.Common

/-!
# Taking turns

`n` places around a table and a pointer to the one that is asked first. `ahead next i`
is how many places `i` is behind the pointer; whoever is served, the pointer moves on to
the place after it. As long as a place `j` is ready, the pointer that starts behind `i`
cannot pass `j`, so `i` is not served again before `j` (`ahead_step`, `ahead_ne`).
-/

set_option autoImplicit false

namespace FourVrs.Lib

variable {n : Nat}

/-- The number of places from `next` on to `i`, going around. -/
def ahead (next i : Fin n) : Nat := (i - next).val

theorem ahead_eq (next i : Fin n) :
    ahead next i = if next.val ≤ i.val then i.val - next.val else n + i.val - next.val := by
  have hi := i.isLt
  have hnext := next.isLt
  unfold ahead
  rw [Fin.val_sub]
  split
  · rename_i hle
    rw [show n - next.val + i.val = (i.val - next.val) + n by omega, Nat.add_mod_right]
    exact Nat.mod_eq_of_lt (by omega)
  · rw [Nat.mod_eq_of_lt (by omega)]
    omega

theorem ahead_inj {next i j : Fin n} (h : ahead next i = ahead next j) : i = j := by
  have hi := i.isLt
  have hj := j.isLt
  rw [ahead_eq, ahead_eq] at h
  apply Fin.ext
  split at h <;> split at h <;> omega

/-- Up to a place at or beyond `next`, the way leads through `next`. -/
theorem ahead_through {start next j : Fin n} (h : ahead start next ≤ ahead start j) :
    ahead start j = ahead start next + ahead next j := by
  have hstart := start.isLt
  have hnext := next.isLt
  have hj := j.isLt
  simp only [ahead_eq] at *
  split_ifs at * <;> omega

/-- The ways add up as long as they do not go around. -/
theorem ahead_add {start next p : Fin n} (h : ahead start next + ahead next p < n) :
    ahead start p = ahead start next + ahead next p := by
  have hstart := start.isLt
  have hnext := next.isLt
  simp only [ahead_eq] at *
  split_ifs at * <;> omega

theorem ahead_lt (next i : Fin n) : ahead next i < n := (i - next).isLt

theorem val_succ (i : Fin (n + 1)) : (i + 1).val = if i.val = n then 0 else i.val + 1 := by
  rw [Fin.val_add_one]
  by_cases h : i = Fin.last n
  · rw [if_pos h, if_pos (by rw [h]; rfl)]
  · rw [if_neg h, if_neg (fun he => h (Fin.ext (by simpa using he)))]

theorem ahead_succ {start p : Fin (n + 1)} (h : ahead start p < n) :
    ahead start (p + 1) = ahead start p + 1 := by
  have hstart := start.isLt
  have hp := p.isLt
  have hsucc := val_succ p
  simp only [ahead_eq] at *
  split_ifs at * <;> omega

/-- Right behind `i`, everyone else comes before it. -/
theorem ahead_succ_lt {i j : Fin (n + 1)} (h : j ≠ i) : ahead (i + 1) j < ahead (i + 1) i := by
  have hne : ahead (i + 1) j ≠ ahead (i + 1) i := fun he => h (ahead_inj he)
  have hlt := ahead_lt (i + 1) j
  have hi := i.isLt
  have hlast : ahead (i + 1) i = n := by
    have hsucc := val_succ i
    rw [ahead_eq]
    split at hsucc <;> split <;> omega
  omega

/-- Who is served comes no later than a ready place, counted from where the round began. -/
theorem ahead_served {start next j p : Fin n} (hnext : ahead start next ≤ ahead start j)
    (hp : ahead next p ≤ ahead next j) : ahead start p ≤ ahead start j := by
  have hway := ahead_through hnext
  have hlt := ahead_lt start j
  have hserved : ahead start p = ahead start next + ahead next p := ahead_add (by omega)
  omega

/-- **The pointer does not pass a ready place.** -/
theorem ahead_step {start next j p : Fin (n + 1)} (hnext : ahead start next ≤ ahead start j)
    (hp : ahead next p ≤ ahead next j) (hne : p ≠ j) :
    ahead start (p + 1) ≤ ahead start j := by
  have hserved := ahead_served hnext hp
  have hdiffers : ahead start p ≠ ahead start j := fun he => hne (ahead_inj he)
  have hlt := ahead_lt start j
  rw [ahead_succ (by omega)]
  omega

/-- The first ready place from `next` on is the one least far ahead. -/
theorem ahead_first {ready : Fin (n + 1) → Bool} {next p j : Fin (n + 1)}
    (h : ((List.finRange (n + 1)).map fun k => next + k).find? ready = some p)
    (hj : ready j = true) : ahead next p ≤ ahead next j := by
  obtain ⟨k, hfind, hp⟩ := Option.map_eq_some_iff.mp (List.find?_map.symm.trans h)
  obtain ⟨-, before, after, hsplit, hbefore⟩ := List.find?_eq_some_iff_append.mp hfind
  have hback : next + (j - next) = j := add_sub_cancel next j
  have hmem : j - next ∈ before ++ k :: after := hsplit ▸ List.mem_finRange (j - next)
  have hsorted : (before ++ k :: after).Pairwise (· < ·) := hsplit ▸ List.pairwise_lt_finRange (n + 1)
  have hk : ahead next p = k.val := by
    rw [← hp]
    exact congrArg Fin.val (add_sub_cancel_left next k)
  rw [hk]
  rcases List.mem_append.mp hmem with hskipped | hrest
  · have hnot := hbefore _ hskipped
    simp only [Function.comp_apply, hback, hj] at hnot
    cases hnot
  · rcases List.mem_cons.mp hrest with heq | hlater
    · exact Nat.le_of_eq (congrArg Fin.val heq).symm
    · exact Nat.le_of_lt (List.rel_of_pairwise_cons (List.pairwise_append.mp hsorted).2.1 hlater)

end FourVrs.Lib
