import Mathlib.Data.List.Basic
import Mathlib.Tactic.Common

/-!
# Counting in buckets

A limiter that counts what it lets through, and starts again from nothing once its bucket is
as old as the window is wide, lets twice its limit through in a window: the window may lie
across two buckets, and never across three.
-/

set_option autoImplicit false

namespace FourVrs.Lib

/-- The account of a limiter whose bucket began at `start` and holds `used`. -/
structure Buckets (limit width start used : Nat) (times : List Nat) : Prop where
  within : used ≤ limit
  current : times.countP (fun t => decide (start ≤ t)) ≤ used
  /-- What a window that reaches into the bucket may hold from before it. -/
  before : times.countP (fun t => decide (t < start ∧ start ≤ t + width)) ≤ limit
  window : ∀ first, times.countP (fun t => decide (first ≤ t ∧ t ≤ first + width)) ≤ 2 * limit

variable {limit width start used : Nat} {times : List Nat}

theorem Buckets.nil (limit width start : Nat) : Buckets limit width start 0 [] where
  within := by simp
  current := by simp
  before := by simp
  window first := by simp

/-- What is counted has not gone through for that. -/
theorem Buckets.count (h : Buckets limit width start used times) (hroom : used < limit) :
    Buckets limit width start (used + 1) times where
  within := hroom
  current := by
    have hcurrent := h.current
    omega
  before := h.before
  window := h.window

/-- A new bucket. -/
theorem Buckets.turn {next : Nat} (h : Buckets limit width start used times) (hwidth : start + width ≤ next)
    (hpast : ∀ t ∈ times, t < next) : Buckets limit width next 0 times where
  within := Nat.zero_le _
  current := by
    have hnone : times.countP (fun t => decide (next ≤ t)) = 0 := by
      rw [List.countP_eq_zero]
      intro t ht
      have hlt := hpast t ht
      simpa using hlt
    exact Nat.le_of_eq hnone
  before := by
    -- what is in reach of the new bucket is in the old one
    calc times.countP (fun t => decide (t < next ∧ next ≤ t + width))
        ≤ times.countP (fun t => decide (start ≤ t)) := by
          refine List.countP_mono_left ?_
          intro t _ ht
          simp only [decide_eq_true_eq] at ht ⊢
          omega
      _ ≤ used := h.current
      _ ≤ limit := h.within
  window := h.window

/-- A window that reaches into the bucket. -/
theorem Buckets.window_current (h : Buckets limit width start used times) {first : Nat}
    (hreach : start ≤ first + width) :
    times.countP (fun t => decide (first ≤ t ∧ t ≤ first + width)) ≤ limit + used := by
  have hsplit : times.countP (fun t => decide (first ≤ t ∧ t ≤ first + width)) ≤
      times.countP (fun t => decide (t < start ∧ start ≤ t + width)) +
        times.countP (fun t => decide (start ≤ t)) := by
    clear h
    induction times with
    | nil => simp
    | cons t times ih =>
      simp only [List.countP_cons, decide_eq_true_eq]
      split_ifs <;> omega
  have hbefore := h.before
  have hcurrent := h.current
  omega

/-- One more goes through. -/
theorem Buckets.take {now : Nat} (h : Buckets limit width start used times) (hroom : used < limit)
    (hnow : start ≤ now) : Buckets limit width start (used + 1) (times ++ [now]) where
  within := hroom
  current := by
    have hcurrent := h.current
    simp only [List.countP_append, List.countP_singleton, hnow, decide_true, if_true]
    omega
  before := by
    have hbefore := h.before
    simp only [List.countP_append, List.countP_singleton, decide_eq_true_eq]
    rw [if_neg (by omega)]
    exact hbefore
  window first := by
    simp only [List.countP_append, List.countP_singleton, decide_eq_true_eq]
    split
    · rename_i hin
      have hcount := @Buckets.window_current _ _ _ _ _ h first (by omega)
      omega
    · exact h.window first

end FourVrs.Lib
