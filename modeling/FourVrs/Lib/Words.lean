import Mathlib.Data.List.TakeWhile
import Mathlib.Tactic.Common

/-!
# The words of a text

A word is a longest run without separators. `strtok` finds the words one at a time: it skips
separators, takes a word and the separator that ends it, and leaves the rest.
-/

set_option autoImplicit false

namespace FourVrs.Lib

variable {α : Type} (sep : α → Bool)

/-- The first word, and what stands behind it and its separator. -/
def strtok (s : List α) : Option (List α × List α) :=
  match s.dropWhile sep with
  | [] => none
  | x :: rest =>
      some ((x :: rest).takeWhile (fun y => !sep y), ((x :: rest).dropWhile fun y => !sep y).drop 1)

/-- The words `strtok` finds in as many calls. -/
def strtokFor : Nat → List α → List (List α)
  | 0, _ => []
  | calls + 1, s =>
      match strtok sep s with
      | none => []
      | some (word, rest) => word :: strtokFor calls rest

theorem strtok_shorter {s word rest : List α} (h : strtok sep s = some (word, rest)) :
    rest.length < s.length := by
  unfold strtok at h
  split at h
  next => cases h
  next x tail hdrop =>
    obtain ⟨rfl, rfl⟩ := Prod.mk.inj (Option.some.inj h)
    have hle := (List.dropWhile_sublist sep (l := s)).length_le
    have hx : sep x = false := by
      have hhead := List.head_dropWhile_not sep (by rw [hdrop]; simp)
      simpa [hdrop] using hhead
    have hle' := (List.dropWhile_sublist (fun y => !sep y) (l := tail)).length_le
    rw [hdrop, List.length_cons] at hle
    rw [List.dropWhile_cons_of_pos (by simp [hx]), List.length_drop]
    omega

/-- The words, in order. -/
def words (s : List α) : List (List α) :=
  match hfirst : strtok sep s with
  | none => []
  | some (word, rest) =>
      have := strtok_shorter sep hfirst
      word :: words rest
termination_by s.length

theorem words_of_none {s : List α} (h : strtok sep s = none) : words sep s = [] := by
  rw [words]
  split
  · rfl
  · rename_i heq
    rw [h] at heq
    cases heq

theorem words_of_some {s word rest : List α} (h : strtok sep s = some (word, rest)) :
    words sep s = word :: words sep rest := by
  rw [words]
  split
  · rename_i heq
    rw [h] at heq
    cases heq
  · rename_i heq
    rw [h] at heq
    cases heq
    rfl

/-- One separator before the first word may be dropped. -/
theorem strtok_drop_one {s : List α} (h : ∀ x ∈ s.head?, sep x = true) :
    strtok sep (s.drop 1) = strtok sep s := by
  cases s with
  | nil => rfl
  | cons x rest =>
    have hx : sep x = true := h x (by simp)
    simp [strtok, hx]

theorem words_congr {s t : List α} (h : strtok sep s = strtok sep t) : words sep s = words sep t := by
  cases hs : strtok sep s with
  | none => rw [words_of_none sep hs, words_of_none sep (h ▸ hs)]
  | some found =>
    have ht : strtok sep t = some found := h ▸ hs
    rw [words_of_some sep hs, words_of_some sep ht]

/-- The first word is what stands before the next separator. -/
theorem strtok_eq_some {s word rest : List α} (h : strtok sep s = some (word, rest)) :
    ∃ behind, s.dropWhile sep = word ++ behind ∧ word ≠ [] ∧ rest = behind.drop 1 ∧
      (word ++ behind).takeWhile (fun y => !sep y) = word ∧ ∀ x ∈ behind.head?, sep x = true := by
  unfold strtok at h
  split at h
  next => cases h
  next x tail hdrop =>
    obtain ⟨rfl, rfl⟩ := Prod.mk.inj (Option.some.inj h)
    have hx : sep x = false := by
      have hhead := List.head_dropWhile_not sep (by rw [hdrop]; simp)
      simpa [hdrop] using hhead
    refine ⟨(x :: tail).dropWhile fun y => !sep y, ?_, by simp [hx], rfl, ?_, ?_⟩
    · rw [hdrop, List.takeWhile_append_dropWhile]
    · rw [List.takeWhile_append_dropWhile]
    · intro y hy
      have hhead := List.head?_dropWhile_not (fun y => !sep y) (x :: tail)
      rw [Option.mem_def.mp hy] at hhead
      simpa using hhead

/-- Enough calls find all of them. -/
theorem strtokFor_eq {calls : Nat} {s : List α} (h : s.length ≤ calls) :
    strtokFor sep calls s = words sep s := by
  induction calls generalizing s with
  | zero =>
    obtain rfl : s = [] := List.length_eq_zero_iff.mp (by omega)
    rw [strtokFor, words_of_none sep rfl]
  | succ calls ih =>
    rw [strtokFor]
    cases hfirst : strtok sep s with
    | none => exact (words_of_none sep hfirst).symm
    | some found =>
      obtain ⟨word, rest⟩ := found
      have hshort := strtok_shorter sep hfirst
      rw [words_of_some sep hfirst, ← ih (by omega)]

/-! ## Components

What `splitOn` finds between separators. -/

section Components

variable [DecidableEq α] {mark : α}

theorem splitOn_induct (mark : α) {motive : List α → Prop} (whole : ∀ l, mark ∉ l → motive l)
    (cut : ∀ front back, motive front → motive back → motive (front ++ mark :: back)) (l : List α) :
    motive l := by
  induction hlength : l.length using Nat.strong_induction_on generalizing l with
  | _ n ih =>
    by_cases hmem : mark ∈ l
    · obtain ⟨front, back, rfl⟩ := List.append_of_mem hmem
      rw [List.length_append, List.length_cons] at hlength
      exact cut front back (ih _ (by omega) front rfl) (ih _ (by omega) back rfl)
    · exact whole l hmem

/-- With a separator in front, a text is its components, each behind one. -/
theorem cons_eq_flatMap_splitOn (l : List α) : mark :: l = (l.splitOn mark).flatMap (mark :: ·) := by
  induction l using splitOn_induct mark with
  | whole l hno => rw [List.splitOn_eq_singleton hno, List.flatMap_singleton]
  | cut front back hfront hback =>
    rw [List.splitOn_append_cons_self, List.flatMap_append, ← hfront, ← hback]
    rfl

/-- Where a component can stand: alone, first, last or between two others. -/
theorem mem_splitOn_iff {c : List α} (hc : mark ∉ c) (l : List α) :
    c ∈ l.splitOn mark ↔
      l = c ∨ c ++ [mark] <+: l ∨ mark :: c <:+ l ∨ mark :: c ++ [mark] <:+: l := by
  constructor
  · induction l using splitOn_induct mark with
    | whole l hno =>
      rw [List.splitOn_eq_singleton hno, List.mem_singleton]
      exact fun h => .inl h.symm
    | cut front back hfront hback =>
      rw [List.splitOn_append_cons_self, List.mem_append]
      rintro (h | h)
      · rcases hfront h with rfl | ⟨rest, rfl⟩ | ⟨rest, rfl⟩ | ⟨before, rest, rfl⟩
        · exact .inr (.inl ⟨back, by simp⟩)
        · exact .inr (.inl ⟨rest ++ mark :: back, by simp⟩)
        · exact .inr (.inr (.inr ⟨rest, back, by simp⟩))
        · exact .inr (.inr (.inr ⟨before, rest ++ mark :: back, by simp⟩))
      · rcases hback h with rfl | ⟨rest, rfl⟩ | ⟨rest, rfl⟩ | ⟨before, rest, rfl⟩
        · exact .inr (.inr (.inl ⟨front, rfl⟩))
        · exact .inr (.inr (.inr ⟨front, rest, by simp⟩))
        · exact .inr (.inr (.inl ⟨front ++ mark :: rest, by simp⟩))
        · exact .inr (.inr (.inr ⟨front ++ mark :: before, rest, by simp⟩))
  · have hself : c ∈ c.splitOn mark := by
      rw [List.splitOn_eq_singleton hc]
      exact List.mem_singleton_self c
    rintro (rfl | ⟨rest, rfl⟩ | ⟨rest, rfl⟩ | ⟨before, rest, rfl⟩)
    · exact hself
    · rw [List.append_assoc, List.singleton_append, List.splitOn_append_cons_self]
      exact List.mem_append_left _ hself
    · rw [List.splitOn_append_cons_self]
      exact List.mem_append_right _ hself
    · have hsplit : before ++ (mark :: c ++ [mark]) ++ rest = before ++ mark :: (c ++ mark :: rest) := by
        simp
      rw [hsplit, List.splitOn_append_cons_self, List.splitOn_append_cons_self]
      exact List.mem_append_right _ (List.mem_append_left _ hself)

end Components

end FourVrs.Lib
