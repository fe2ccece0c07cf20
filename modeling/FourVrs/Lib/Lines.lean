import Mathlib.Data.List.Basic
import Mathlib.Data.List.Flatten
import Mathlib.Tactic.Common

/-!
# The lines of a text

A text is cut behind every separator, and each line keeps the separator that ends it; the
last one may have none. Lines that were put together are found again (`splitLines_flatten`),
so a rewriter of lines can be followed line by line through the text it writes.
-/

set_option autoImplicit false

namespace FourVrs.Lib

variable {α β σ : Type} {sep : α}

/-! ## Lines -/

/-- Lines as they stand in a text: each is ended by a separator, but perhaps the last. -/
inductive Lines (sep : α) : List (List α) → Prop where
  | nil : Lines sep []
  | last {line : List α} (hne : line ≠ []) (hsep : sep ∉ line) : Lines sep [line]
  | cons {line : List α} {lines : List (List α)} (hsep : sep ∉ line) (h : Lines sep lines) :
      Lines sep ((line ++ [sep]) :: lines)

variable {lines : List (List α)}

theorem Lines.ne_nil (h : Lines sep lines) : ∀ line ∈ lines, line ≠ [] := by
  induction h with
  | nil => simp
  | last hne _ => simpa using hne
  | cons _ _ ih =>
    intro line hline
    rcases List.mem_cons.mp hline with rfl | hline
    · simp
    · exact ih line hline

/-- A line that is ended. -/
def OneLine (sep : α) (line : List α) : Prop := ∃ text, sep ∉ text ∧ line = text ++ [sep]

theorem Lines.append {front back : List (List α)} (hfront : ∀ line ∈ front, OneLine sep line)
    (hback : Lines sep back) : Lines sep (front ++ back) := by
  induction front with
  | nil => exact hback
  | cons line front ih =>
    obtain ⟨text, hsep, rfl⟩ := hfront line (by simp)
    exact .cons hsep (ih fun line hline => hfront line (by simp [hline]))

theorem Lines.of_ended (h : ∀ line ∈ lines, OneLine sep line) : Lines sep lines := by
  simpa using Lines.append h .nil

theorem Lines.tail {line : List α} (h : Lines sep (line :: lines)) :
    Lines sep lines := by
  cases h with
  | last => exact .nil
  | cons _ h => exact h

/-- A line that another follows is ended. -/
theorem Lines.head_ended {line next : List α} (h : Lines sep (line :: next :: lines)) : OneLine sep line := by
  cases h with
  | cons hsep _ => exact ⟨_, hsep, rfl⟩

theorem Lines.of_mem {line : List α} (h : Lines sep lines) (hmem : line ∈ lines) :
    Lines sep [line] := by
  induction h with
  | nil => cases hmem
  | last hne hsep =>
    obtain rfl := List.mem_singleton.mp hmem
    exact .last hne hsep
  | cons hsep _ ih =>
    rcases List.mem_cons.mp hmem with rfl | hmem
    · exact .cons hsep .nil
    · exact ih hmem

/-- A line is its text, and perhaps the separator. -/
theorem Lines.head {line : List α} (h : Lines sep (line :: lines)) :
    Lines sep [line] := by
  cases h with
  | last hne hsep => exact .last hne hsep
  | cons hsep _ => exact .cons hsep .nil

/-! ## The lines of a text -/

section Split

variable [DecidableEq α]

def splitLines (sep : α) : List α → List (List α)
  | [] => []
  | x :: rest =>
      if x = sep then [x] :: splitLines sep rest
      else
        match splitLines sep rest with
        | [] => [[x]]
        | line :: lines => (x :: line) :: lines

theorem flatten_splitLines (input : List α) : (splitLines sep input).flatten = input := by
  induction input with
  | nil => rfl
  | cons x rest ih =>
    unfold splitLines
    split
    · simp [ih]
    · cases hlines : splitLines sep rest with
      | nil =>
        rw [hlines] at ih
        simp [← ih]
      | cons line lines =>
        rw [hlines] at ih
        simp [← ih]

theorem lines_splitLines (input : List α) : Lines sep (splitLines sep input) := by
  induction input with
  | nil => exact .nil
  | cons x rest ih =>
    unfold splitLines
    split
    · rename_i heq
      rw [heq]
      exact @Lines.cons _ sep [] _ (by simp) ih
    · rename_i hne
      cases hlines : splitLines sep rest with
      | nil => exact .last (by simp) (by simpa using Ne.symm hne)
      | cons line lines =>
        rw [hlines] at ih
        cases ih with
        | last hline hsep => exact .last (by simp) (by simp [hsep, Ne.symm hne])
        | cons hsep h =>
          rename_i text
          exact @Lines.cons _ sep (x :: text) _ (by simp [hsep, Ne.symm hne]) h

/-- A line without a separator in front of what follows. -/
theorem splitLines_append {line : List α} (hsep : sep ∉ line) (rest : List α) :
    splitLines sep (line ++ sep :: rest) = (line ++ [sep]) :: splitLines sep rest := by
  induction line with
  | nil => simp [splitLines]
  | cons x line ih =>
    simp only [List.mem_cons, not_or] at hsep
    simp only [List.cons_append, splitLines, if_neg (Ne.symm hsep.1), ih hsep.2]

theorem splitLines_last {line : List α} (hne : line ≠ []) (hsep : sep ∉ line) :
    splitLines sep line = [line] := by
  induction line with
  | nil => exact absurd rfl hne
  | cons x line ih =>
    simp only [List.mem_cons, not_or] at hsep
    cases line with
    | nil => simp [splitLines, Ne.symm hsep.1]
    | cons y line =>
      rw [splitLines, if_neg (Ne.symm hsep.1), ih (by simp) hsep.2]

/-- **The lines of a text that was put together from lines are these lines.** -/
theorem splitLines_flatten {lines : List (List α)} (h : Lines sep lines) :
    splitLines sep lines.flatten = lines := by
  induction h with
  | nil => rfl
  | last hne hsep => simpa using splitLines_last hne hsep
  | cons hsep _ ih =>
    rw [List.flatten_cons, List.append_assoc, List.singleton_append, splitLines_append hsep, ih]

/-- A text that ends with a separator has ended lines only. -/
theorem ended_splitLines {input : List α} (h : input.getLast? = some sep) :
    ∀ line ∈ splitLines sep input, OneLine sep line := by
  have hlines : Lines sep _ := lines_splitLines input
  rw [← @flatten_splitLines _ sep _ input] at h
  generalize splitLines sep input = lines at h hlines
  induction hlines with
  | nil => simp
  | last hne hsep =>
    rw [List.flatten_singleton] at h
    exact absurd (List.mem_of_getLast? h) hsep
  | @cons line lines hsep hrest ih =>
    intro next hnext
    rcases List.mem_cons.mp hnext with rfl | hnext
    · exact ⟨line, hsep, rfl⟩
    · apply ih ?_ next hnext
      have hne : lines.flatten ≠ [] := by
        intro hnil
        exact hrest.ne_nil next hnext (List.flatten_eq_nil_iff.mp hnil next hnext)
      rw [List.flatten_cons, List.getLast?_append_of_ne_nil _ hne] at h
      exact h

end Split

end FourVrs.Lib
