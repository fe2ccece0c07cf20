/-!
# Runs of a machine that is called

A machine with a state and a function that says what a call makes of it. `Along` says
that every call of a run meets a condition in the state it is made in; what every such
call keeps, the run keeps.
-/

set_option autoImplicit false

namespace FourVrs.Lib

variable {S C : Type}

/-- Every call of the run meets the condition in the state it is made in. -/
def Along (exec : S → C → S) (meets : S → C → Prop) : List C → S → Prop
  | [], _ => True
  | call :: calls, s => meets s call ∧ Along exec meets calls (exec s call)

instance (exec : S → C → S) (meets : S → C → Prop) [∀ s c, Decidable (meets s c)] :
    (calls : List C) → (s : S) → Decidable (Along exec meets calls s)
  | [], _ => inferInstanceAs (Decidable True)
  | call :: calls, s =>
      have := instDecidableAlong exec meets calls (exec s call)
      inferInstanceAs (Decidable (meets s call ∧ Along exec meets calls (exec s call)))

variable {exec : S → C → S} {meets : S → C → Prop}

theorem along_append (before after : List C) (s : S) :
    Along exec meets (before ++ after) s ↔
      Along exec meets before s ∧ Along exec meets after (before.foldl exec s) := by
  induction before generalizing s with
  | nil => simp [Along]
  | cons call before ih => simp [Along, ih, and_assoc]

/-- A run meets the condition if each of its calls does where it is made. -/
theorem along_of_forall {calls : List C} {s : S}
    (h : ∀ before call after, calls = before ++ call :: after →
      meets (before.foldl exec s) call) : Along exec meets calls s := by
  induction calls generalizing s with
  | nil => trivial
  | cons call calls ih =>
    refine ⟨h [] call calls rfl, ih ?_⟩
    intro before call' after heq
    exact h (call :: before) call' after (by rw [heq, List.cons_append])

/-- The invariant rule: what every call that meets the condition keeps, the run keeps. -/
theorem Along.invariant {inv : S → Prop} (hstep : ∀ s c, inv s → meets s c → inv (exec s c))
    {calls : List C} {s : S} (h : Along exec meets calls s) (hinv : inv s) :
    inv (calls.foldl exec s) := by
  induction calls generalizing s with
  | nil => exact hinv
  | cons call calls ih => exact ih h.2 (hstep s call hinv h.1)

/-- The rule of two states: a relation that every call establishes, and that composes,
    holds between the two ends of a run. -/
theorem Along.relates {inv : S → Prop} {rel : S → S → Prop} (hrefl : ∀ s, rel s s)
    (htrans : ∀ {s₁ s₂ s₃}, rel s₁ s₂ → rel s₂ s₃ → rel s₁ s₃)
    (hstep : ∀ s c, inv s → meets s c → inv (exec s c) ∧ rel s (exec s c))
    {calls : List C} {s : S} (h : Along exec meets calls s) (hinv : inv s) :
    rel s (calls.foldl exec s) := by
  induction calls generalizing s with
  | nil => exact hrefl s
  | cons call calls ih =>
    obtain ⟨hinv', hrel⟩ := hstep s call hinv h.1
    exact htrans hrel (ih h.2 hinv')

end FourVrs.Lib
