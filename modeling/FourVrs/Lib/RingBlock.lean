import FourVrs.Lib.RingBuffer

/-!
# Whole blocks in and out of a ring buffer

A block is appended with at most two copies, one up to the end of the array and one from
its beginning, and any number of the oldest entries is given up at once. Both are what
they should be on `toList`, wherever the block wraps around. The copies carry a proof
that they stay within the array.
-/

set_option autoImplicit false

namespace RingBuffer

variable {α : Type} {n : Nat}

/-- Copy `data` to the slots from `start` on. -/
def blit (entries : Vector α n) : (start : Nat) → (data : List α) → start + data.length ≤ n →
    Vector α n
  | _, [], _ => entries
  | start, a :: data, h =>
      blit (entries.set start a (by simp only [List.length_cons] at h; omega)) (start + 1) data
        (by simp only [List.length_cons] at h; omega)

theorem blit_outside {entries : Vector α n} {start : Nat} {data : List α}
    (h : start + data.length ≤ n) {i : Nat} (hi : i < n)
    (hout : i < start ∨ start + data.length ≤ i) : (blit entries start data h)[i] = entries[i] := by
  induction data generalizing entries start with
  | nil => rfl
  | cons a data ih =>
    simp only [List.length_cons] at h hout
    unfold blit
    rw [ih (by omega) (by omega)]
    exact Vector.getElem_set_ne _ _ (by omega)

theorem blit_inside {entries : Vector α n} {start : Nat} {data : List α}
    (h : start + data.length ≤ n) {k : Nat} (hk : k < data.length) :
    (blit entries start data h)[start + k] = data[k] := by
  induction data generalizing entries start k with
  | nil => simp at hk
  | cons a data ih =>
    simp only [List.length_cons] at h hk
    unfold blit
    cases k with
    | zero =>
      rw [blit_outside (by omega) (by omega) (.inl (by omega))]
      exact Vector.getElem_set_self _
    | succ k =>
      have hrest := @ih (entries.set start a (by omega)) (start + 1) (by omega) k (by omega)
      have hindex : start + (k + 1) = start + 1 + k := by omega
      simp only [hindex]
      exact hrest

/-- The index of the first free slot. -/
def tail (r : RingBuffer α n) : Nat := (r.head + r.count) % n

variable (r : RingBuffer α n)

theorem tail_lt : r.tail < n :=
  Nat.mod_lt _ (Nat.lt_of_le_of_lt (Nat.zero_le _) r.head_lt)

/-- How many entries fit between the first free slot and the end of the array. -/
def upfront (r : RingBuffer α n) (data : List α) : Nat := min (n - r.tail) data.length

/-- Append a block that fits. -/
def append (r : RingBuffer α n) (data : List α) (h : data.length ≤ n - r.count) :
    RingBuffer α n :=
  { r with
    entries :=
      blit
        (blit r.entries r.tail (data.take (r.upfront data)) (by
          have := r.tail_lt
          simp only [List.length_take, upfront]
          omega))
        0 (data.drop (r.upfront data)) (by
          simp only [List.length_drop]
          omega)
    count := r.count + data.length
    count_le := by
      have := r.count_le
      omega }

/-- Give up the oldest `k` entries. -/
def skip (r : RingBuffer α n) (k : Nat) : RingBuffer α n :=
  { r with
    head := (r.head + k) % n
    count := r.count - k
    head_lt := r.wrapped_lt k
    count_le := Nat.le_trans (Nat.sub_le _ _) r.count_le }

@[simp] theorem count_append (data : List α) (h : data.length ≤ n - r.count) :
    (r.append data h).count = r.count + data.length := rfl

@[simp] theorem count_skip (k : Nat) : (r.skip k).count = r.count - k := rfl

theorem getElem_toList {i : Nat} (h : i < r.toList.length) :
    r.toList[i] = r.nth i := by
  simp [toList]

/-- Where a live entry, or a slot that is to become one, lies. -/
theorem slot_val {i : Nat} (hi : i < n) :
    (r.slot i).val = if r.head + i < n then r.head + i else r.head + i - n := by
  have hhead := r.head_lt
  show (r.head + i) % n = _
  split
  · exact Nat.mod_eq_of_lt ‹_›
  · rw [Nat.mod_eq_sub_mod (by omega)]
    exact Nat.mod_eq_of_lt (by omega)

theorem tail_val (h : r.count < n) :
    r.tail = if r.head + r.count < n then r.head + r.count else r.head + r.count - n :=
  r.slot_val h

/-- A live entry is not written over. -/
theorem nth_append_of_lt {r : RingBuffer α n} {data : List α} {h : data.length ≤ n - r.count}
    {i : Nat} (hi : i < r.count) : (r.append data h).nth i = r.nth i := by
  have hcount := r.count_le
  have hslot := r.slot_val (i := i) (by omega)
  have hlt := (r.slot i).isLt
  have hhead := r.head_lt
  have hup : r.upfront data = min (n - r.tail) data.length := rfl
  have hfirst : (data.take (r.upfront data)).length = r.upfront data := by
    rw [List.length_take]
    omega
  have hsecond : (data.drop (r.upfront data)).length = data.length - r.upfront data :=
    List.length_drop
  have hboth : 0 + (data.drop (r.upfront data)).length ≤ (r.slot i).val ∧
      ((r.slot i).val < r.tail ∨
        r.tail + (data.take (r.upfront data)).length ≤ (r.slot i).val) := by
    rw [hfirst, hsecond]
    rcases Nat.eq_zero_or_pos data.length with hnone | hsome
    · omega
    · have htail := r.tail_val (by omega)
      split at hslot <;> split at htail <;> omega
  exact (blit_outside _ hlt (.inr hboth.1)).trans (blit_outside _ hlt hboth.2)

/-- A new entry lies behind the live ones. -/
theorem nth_append_add {r : RingBuffer α n} {data : List α} {h : data.length ≤ n - r.count}
    {k : Nat} (hk : k < data.length) : (r.append data h).nth (r.count + k) = data[k] := by
  have hcount := r.count_le
  have hslot := r.slot_val (i := r.count + k) (by omega)
  have hlt := (r.slot (r.count + k)).isLt
  have hhead := r.head_lt
  have htail := r.tail_val (by omega)
  have hup : r.upfront data = min (n - r.tail) data.length := rfl
  have hfirst : (data.take (r.upfront data)).length = r.upfront data := by
    rw [List.length_take]
    omega
  have hsecond : (data.drop (r.upfront data)).length = data.length - r.upfront data :=
    List.length_drop
  by_cases hwraps : k < r.upfront data
  · -- it is part of the first copy
    have hplace : (r.slot (r.count + k)).val = r.tail + k := by
      split at hslot <;> split at htail <;> omega
    have houter : 0 + (data.drop (r.upfront data)).length ≤ (r.slot (r.count + k)).val := by
      rw [hsecond]
      omega
    refine (blit_outside _ hlt (.inr houter)).trans ?_
    simp only [hplace]
    rw [blit_inside _ (by rw [hfirst]; exact hwraps), List.getElem_take]
  · have hplace : (r.slot (r.count + k)).val = 0 + (k - r.upfront data) := by
      split at hslot <;> split at htail <;> omega
    show (blit _ 0 (data.drop (r.upfront data)) _)[(r.slot (r.count + k)).val] = data[k]
    simp only [hplace]
    rw [blit_inside _ (by rw [hsecond]; omega), List.getElem_drop]
    congr 1
    omega

/-- **Appending appends.** -/
theorem toList_append (data : List α) (h : data.length ≤ n - r.count) :
    (r.append data h).toList = r.toList ++ data := by
  apply List.ext_getElem
  · simp
  · intro i hi hi'
    rw [getElem_toList, List.getElem_append]
    split
    · rename_i hlive
      rw [getElem_toList]
      exact nth_append_of_lt (by simpa using hlive)
    · rename_i hnew
      simp only [length_toList, Nat.not_lt, List.length_append] at hnew hi'
      have hk : i = r.count + (i - r.count) := by omega
      have hadd := nth_append_add (r := r) (h := h) (k := i - r.count) (by omega)
      rw [← hk] at hadd
      simp only [hadd, length_toList]

/-- **Skipping drops.** -/
theorem toList_skip (k : Nat) :
    (r.skip k).toList = r.toList.drop k := by
  apply List.ext_getElem
  · simp
  · intro i hi hi'
    rw [getElem_toList, List.getElem_drop, getElem_toList]
    refine congrArg r.entries.get (Fin.ext ?_)
    show ((r.head + k) % n + i) % n = (r.head + (k + i)) % n
    rw [Nat.mod_add_mod, Nat.add_assoc]

end RingBuffer
