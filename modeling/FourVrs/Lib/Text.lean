import Mathlib.Data.List.Chain
import Mathlib.Data.List.Infix
import Mathlib.Tactic.Common

/-!
# Texts of lines

Two searches a reader of a text of lines makes: for the next separator, and for the first
place a given text stands at. What was written as lines is found again line by line, and a
text that no line contains is found behind them.
-/

set_option autoImplicit false

namespace FourVrs.Lib

/-- A blank or a tab. -/
def isBlank (b : UInt8) : Bool := decide (b = 32) || decide (b = 9)

variable {α : Type} [DecidableEq α]

/-- What stands before the first separator, and behind it. -/
def cutAt (sep : α) : List α → Option (List α × List α)
  | [] => none
  | x :: rest =>
      if x = sep then some ([], rest) else (cutAt sep rest).map fun cut => (x :: cut.1, cut.2)

theorem cutAt_append {sep : α} {line : List α} (h : sep ∉ line) (rest : List α) :
    cutAt sep (line ++ sep :: rest) = some (line, rest) := by
  induction line with
  | nil => simp [cutAt]
  | cons x line ih =>
    simp only [List.mem_cons, not_or] at h
    simp [cutAt, Ne.symm h.1, ih h.2]

theorem cutAt_eq_some {sep : α} {input line rest : List α} (h : cutAt sep input = some (line, rest)) :
    input = line ++ sep :: rest ∧ sep ∉ line := by
  induction input generalizing line with
  | nil => simp [cutAt] at h
  | cons x input ih =>
    unfold cutAt at h
    split at h
    · rename_i hsep
      obtain ⟨rfl, rfl⟩ := Prod.mk.inj (Option.some.inj h)
      simp [hsep]
    · rename_i hne
      obtain ⟨⟨line', rest'⟩, hcut, heq⟩ := Option.map_eq_some_iff.mp h
      obtain ⟨rfl, rfl⟩ := Prod.mk.inj heq
      obtain ⟨hinput, hnot⟩ := ih hcut
      refine ⟨by rw [hinput]; rfl, ?_⟩
      simp only [List.mem_cons, not_or]
      exact ⟨Ne.symm hne, hnot⟩

/-- What stands before the first place a text stands at, and what begins there. -/
def findText (needle : List α) : List α → Option (List α × List α)
  | [] => if needle = [] then some ([], []) else none
  | x :: rest =>
      if needle <+: x :: rest then some ([], x :: rest)
      else (findText needle rest).map fun found => (x :: found.1, found.2)

theorem findText_eq_some {needle input before found : List α}
    (h : findText needle input = some (before, found)) :
    input = before ++ found ∧ needle <+: found := by
  induction input generalizing before with
  | nil =>
    unfold findText at h
    split at h
    · rename_i hnil
      obtain ⟨rfl, rfl⟩ := Prod.mk.inj (Option.some.inj h)
      simp [hnil]
    · cases h
  | cons x input ih =>
    unfold findText at h
    split at h
    · rename_i hhere
      obtain ⟨rfl, rfl⟩ := Prod.mk.inj (Option.some.inj h)
      exact ⟨rfl, hhere⟩
    · obtain ⟨⟨before', found'⟩, hfind, heq⟩ := Option.map_eq_some_iff.mp h
      obtain ⟨rfl, rfl⟩ := Prod.mk.inj heq
      obtain ⟨hinput, hprefix⟩ := ih hfind
      exact ⟨by rw [hinput]; rfl, hprefix⟩

theorem findText_append {needle found : List α} {before : List α} (hfound : needle <+: found)
    (hearlier : ∀ front back, before = front ++ back → back ≠ [] → ¬ needle <+: back ++ found) :
    findText needle (before ++ found) = some (before, found) := by
  induction before with
  | nil =>
    cases found with
    | nil => simp [findText, List.prefix_nil.mp hfound]
    | cons x found => simp [findText, hfound]
  | cons x before ih =>
    have hhere := hearlier [] (x :: before) rfl (by simp)
    have hrest := ih fun front back hsplit hne =>
      hearlier (x :: front) back (by rw [hsplit]; rfl) hne
    rw [List.cons_append] at hhere ⊢
    simp [findText, hhere, hrest]

/-- A text without a separator that has two letters in a row that no line has side by side
    is found behind the lines. -/
theorem findText_lines {sep a b : α} {stem tail lines found : List α}
    (hsep : sep ∉ stem ++ a :: b :: tail) (hfound : stem ++ a :: b :: tail <+: found)
    (hchain : lines.IsChain fun x y => ¬ (x = a ∧ y = b)) (hlast : ∀ x ∈ lines.getLast?, x = sep) :
    findText (stem ++ a :: b :: tail) (lines ++ found) = some (lines, found) := by
  refine findText_append hfound fun front back hsplit hne hmatch => ?_
  rcases List.prefix_or_prefix_of_prefix hmatch (List.prefix_append back found) with hinside | hbeyond
  · have hinfix : stem ++ a :: b :: tail <:+: lines := by
      rw [hsplit]
      exact hinside.isInfix.trans (List.suffix_append front back).isInfix
    have hpair := List.IsChain.infix hchain hinfix
    exact (List.isChain_append_cons_cons.mp hpair).2.1 ⟨rfl, rfl⟩
  · -- the end of the last line stands inside the text
    have hend := hlast (back.getLast hne) (by
      rw [hsplit, List.getLast?_append_of_ne_nil _ hne, List.getLast?_eq_some_getLast hne]
      rfl)
    exact hsep (hend ▸ hbeyond.subset (List.getLast_mem hne))

/-- Where the text stands at all, it is found. -/
theorem findText_ne_none {needle found : List α} (hfound : needle <+: found) (before : List α) :
    findText needle (before ++ found) ≠ none := by
  induction before with
  | nil =>
    cases found with
    | nil => simp [findText, List.prefix_nil.mp hfound]
    | cons x found => simp [findText, hfound]
  | cons x before ih =>
    rw [List.cons_append, findText]
    split
    · simp
    · simpa using ih

/-- It is found at the first place it stands at. -/
theorem findText_first {needle input before found : List α} (h : findText needle input = some (before, found))
    {front back : List α} (hsplit : input = front ++ back) (hback : needle <+: back) :
    before.length ≤ front.length := by
  induction input generalizing before front with
  | nil =>
    obtain ⟨hinput, -⟩ := findText_eq_some h
    rw [List.append_eq_nil_iff.mp hinput.symm |>.1]
    exact Nat.zero_le _
  | cons x input ih =>
    unfold findText at h
    split at h
    · obtain ⟨rfl, -⟩ := Prod.mk.inj (Option.some.inj h)
      exact Nat.zero_le _
    · rename_i hhere
      obtain ⟨⟨before', found'⟩, hfind, heq⟩ := Option.map_eq_some_iff.mp h
      obtain ⟨rfl, rfl⟩ := Prod.mk.inj heq
      cases front with
      | nil => exact absurd (hsplit ▸ hback) hhere
      | cons y front =>
        obtain ⟨rfl, hinput⟩ := List.cons.inj hsplit
        exact Nat.succ_le_succ (ih hfind hinput)

/-- What follows does not matter. -/
theorem findText_append_right {needle input before found : List α}
    (h : findText needle input = some (before, found)) (more : List α) :
    findText needle (input ++ more) = some (before, found ++ more) := by
  obtain ⟨rfl, hfound⟩ := findText_eq_some h
  rw [List.append_assoc]
  refine findText_append (hfound.trans (List.prefix_append found more)) fun front back hsplit hne hmatch => ?_
  have hhere : needle <+: back ++ found := by
    refine List.prefix_of_prefix_length_le hmatch ?_ ?_
    · rw [← List.append_assoc]
      exact List.prefix_append _ more
    · rw [List.length_append]
      exact Nat.le_add_left_of_le hfound.length_le
  have hle := @findText_first α _ needle _ _ _ h front (back ++ found) (by rw [hsplit, List.append_assoc]) hhere
  have hpos := List.length_pos_iff.mpr hne
  rw [hsplit, List.length_append] at hle
  omega

/-- In a text that is cut off it is found at the same place, if it is not cut off itself. -/
theorem findText_of_append {needle front more before found : List α}
    (h : findText needle (front ++ more) = some (before, found)) :
    findText needle front =
      if before.length + needle.length ≤ front.length then some (before, front.drop before.length)
      else none := by
  obtain ⟨hinput, hfound⟩ := findText_eq_some h
  cases hfront : findText needle front with
  | none =>
    rw [if_neg]
    intro hlong
    have htake : front = before ++ front.drop before.length := by
      have hpre : before <+: front :=
        List.prefix_of_prefix_length_le (hinput ▸ List.prefix_append before found)
          (List.prefix_append front more) (by omega)
      obtain ⟨rest, rfl⟩ := hpre
      rw [List.drop_left]
    have hback : needle <+: front.drop before.length := by
      have hfound' : found = front.drop before.length ++ more := by
        have hall : before ++ found = before ++ (front.drop before.length ++ more) := by
          rw [← hinput, ← List.append_assoc, ← htake]
        exact List.append_cancel_left hall
      refine List.prefix_of_prefix_length_le hfound (hfound' ▸ List.prefix_append _ more) ?_
      rw [List.length_drop]
      omega
    exact absurd hfront (by rw [htake]; exact findText_ne_none hback before)
  | some cut =>
    obtain ⟨before', found'⟩ := cut
    obtain ⟨hcut, hneedle⟩ := findText_eq_some hfront
    have hsame := (findText_append_right hfront more).symm.trans h
    obtain ⟨rfl, rfl⟩ := Prod.mk.inj (Option.some.inj hsame)
    have hlength := hneedle.length_le
    rw [hcut, List.length_append, if_pos (by omega), List.drop_left]

end FourVrs.Lib
