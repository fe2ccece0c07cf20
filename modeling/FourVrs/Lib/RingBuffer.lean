import Mathlib.Data.List.Basic
import Mathlib.Data.List.Range
import Mathlib.Data.Nat.ModEq
import Mathlib.Tactic.Common

/-!
# Ring buffers

A fixed array of `n` slots, the index of the oldest entry and the number of live
entries. The bounds are fields, so a ring whose indices leave the array cannot be
built, and `toList` — the live entries, oldest first — is the whole of what a
client may rely on: `toList_push` and `toList_pop` say that the two operations are
a queue's, wrap-around included.
-/

set_option autoImplicit false

/-- `count` live entries of an `n`-slot array, starting at `head`. -/
structure RingBuffer (α : Type) (n : Nat) where
  entries : Vector α n
  head : Nat
  count : Nat
  head_lt : head < n
  count_le : count ≤ n

namespace RingBuffer

variable {α : Type} {n : Nat}

variable (r : RingBuffer α n)

theorem wrapped_lt (i : Nat) : (r.head + i) % n < n :=
  Nat.mod_lt _ (Nat.lt_of_le_of_lt (Nat.zero_le _) r.head_lt)

/-- The slot holding the `i`-th live entry. -/
def slot (r : RingBuffer α n) (i : Nat) : Fin n := ⟨(r.head + i) % n, r.wrapped_lt i⟩

/-- The `i`-th live entry. -/
def nth (r : RingBuffer α n) (i : Nat) : α := r.entries.get (r.slot i)

/-- The live entries, oldest first. -/
def toList (r : RingBuffer α n) : List α := (List.range r.count).map r.nth

/-- All slots filled with `a`, none of them live. -/
def empty (a : α) (h : 0 < n) : RingBuffer α n :=
  { entries := Vector.replicate n a, head := 0, count := 0, head_lt := h, count_le := Nat.zero_le _ }

/-- Write the slot behind the last live entry. -/
def push (r : RingBuffer α n) (a : α) (h : r.count < n) : RingBuffer α n :=
  { r with
    entries := r.entries.set (r.slot r.count) a (r.slot r.count).isLt
    count := r.count + 1
    count_le := h }

/-- The oldest live entry, and the ring without it. The slot keeps its content. -/
def pop (r : RingBuffer α n) (h : 0 < r.count) : α × RingBuffer α n :=
  (r.nth 0,
    { r with
      head := (r.head + 1) % n
      count := r.count - 1
      head_lt := Nat.mod_lt _ (Nat.lt_of_lt_of_le h r.count_le)
      count_le := Nat.le_trans (Nat.sub_le _ _) r.count_le })

@[simp] theorem length_toList : r.toList.length = r.count := by
  simp [toList]

@[simp] theorem toList_empty (a : α) (h : 0 < n) : (empty a h).toList = [] := by
  simp [toList, empty]

@[simp] theorem count_push (a : α) (h : r.count < n) :
    (r.push a h).count = r.count + 1 := rfl

@[simp] theorem count_pop (h : 0 < r.count) :
    (r.pop h).2.count = r.count - 1 := rfl

/-- Two live positions, or a live one and the first free one, never share a slot. -/
theorem slot_ne {r : RingBuffer α n} {i j : Nat} (hij : i < j) (hj : j < n) :
    r.slot i ≠ r.slot j := by
  intro he
  have hmod : (r.head + i) % n = (r.head + j) % n := congrArg Fin.val he
  have hmod' : Nat.ModEq n i j := Nat.ModEq.add_left_cancel' r.head hmod
  have : i = j := Nat.ModEq.eq_of_lt_of_lt hmod' (Nat.lt_trans hij hj) hj
  exact absurd this (Nat.ne_of_lt hij)

theorem nth_push_of_lt {r : RingBuffer α n} {a : α} {h : r.count < n} {i : Nat} (hi : i < r.count) :
    (r.push a h).nth i = r.nth i := by
  have hne : r.slot i ≠ r.slot r.count := slot_ne hi h
  exact Vector.getElem_set_ne (r.slot r.count).isLt (r.slot i).isLt
    fun he => hne (Fin.ext he.symm)

theorem nth_push_count {r : RingBuffer α n} {a : α} {h : r.count < n} :
    (r.push a h).nth r.count = a :=
  Vector.getElem_set_self _

/-- **Pushing appends.** -/
theorem toList_push (a : α) (h : r.count < n) :
    (r.push a h).toList = r.toList ++ [a] := by
  unfold toList
  rw [count_push, List.range_succ, List.map_append, List.map_singleton, nth_push_count]
  exact congrArg (· ++ [a])
    (List.map_congr_left fun i hi => nth_push_of_lt (List.mem_range.mp hi))

theorem nth_pop (h : 0 < r.count) (i : Nat) :
    (r.pop h).2.nth i = r.nth (i + 1) := by
  refine congrArg r.entries.get (Fin.ext ?_)
  show ((r.head + 1) % n + i) % n = (r.head + (i + 1)) % n
  rw [Nat.mod_add_mod, Nat.add_assoc, Nat.add_comm 1 i]

/-- **Popping takes the head off.** -/
theorem toList_pop (h : 0 < r.count) :
    r.toList = (r.pop h).1 :: (r.pop h).2.toList := by
  obtain ⟨k, hk⟩ : ∃ k, r.count = k + 1 := ⟨r.count - 1, by omega⟩
  unfold toList
  rw [count_pop, hk, Nat.add_sub_cancel, List.range_succ_eq_map, List.map_cons, List.map_map]
  exact congrArg (_ :: ·) (List.map_congr_left fun i _ => (nth_pop r h i).symm)

theorem toList_eq_nil {r : RingBuffer α n} : r.toList = [] ↔ r.count = 0 := by
  rw [← List.length_eq_zero_iff, length_toList]

end RingBuffer
