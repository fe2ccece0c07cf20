import Mathlib.Data.List.Basic

/-!
# Histories

A history lists what has happened, the latest last. `Each P` says of every event that
`P` holds of it and of the events before it: what may follow what. `Since` is the past
operator of temporal logic: something has begun that nothing has ended.
-/

set_option autoImplicit false

namespace FourVrs.Lib

variable {α : Type}

/-- `P` holds of every event and its past. -/
def Each (P : List α → α → Prop) (history : List α) : Prop :=
  ∀ past event rest, history = past ++ event :: rest → P past event

variable {P : List α → α → Prop}

@[simp] theorem each_nil : Each P [] := by
  intro past event rest h
  simp at h

variable {history : List α}

theorem Each.mono {Q : List α → α → Prop} (h : Each P history)
    (hPQ : ∀ past event, P past event → Q past event) : Each Q history :=
  fun past event rest heq => hPQ past event (h past event rest heq)

variable {event : α}

theorem each_append_singleton :
    Each P (history ++ [event]) ↔ Each P history ∧ P history event := by
  constructor
  · intro h
    refine ⟨fun past event' rest heq => h past event' (rest ++ [event]) (by simp [heq]),
      h history event [] rfl⟩
  · rintro ⟨hall, hlast⟩ past event' rest heq
    -- the event is the last one, or has a last one after it
    rcases List.eq_nil_or_concat rest with rfl | ⟨rest', last, rfl⟩
    · obtain ⟨rfl, hcons⟩ := List.append_inj' heq rfl
      cases hcons
      exact hlast
    · refine hall past event' rest' ?_
      have heq' : history ++ [event] = (past ++ event' :: rest') ++ [last] := by simpa using heq
      exact (List.append_inj' heq' rfl).1

theorem each_append_pair {first second : α} :
    Each P (history ++ [first, second]) ↔
      Each P history ∧ P history first ∧ P (history ++ [first]) second := by
  have hsplit : history ++ [first, second] = (history ++ [first]) ++ [second] := by simp
  rw [hsplit, each_append_singleton, each_append_singleton, and_assoc]

/-- An event that begins has happened, and none that ends since. -/
def Since (begins ends : α → Prop) (history : List α) : Prop :=
  ∃ past event later, history = past ++ event :: later ∧ begins event ∧ ∀ e ∈ later, ¬ ends e

variable {begins ends : α → Prop}

theorem not_since_nil : ¬ Since begins ends [] := by
  intro ⟨past, event, later, heq, _, _⟩
  simp at heq

theorem Since.begun (h : begins event) (history : List α) : Since begins ends (history ++ [event]) :=
  ⟨history, event, [], rfl, h, by simp⟩

theorem Since.snoc (h : Since begins ends history) (hends : ¬ ends event) :
    Since begins ends (history ++ [event]) := by
  obtain ⟨past, first, later, rfl, hfirst, hlater⟩ := h
  refine ⟨past, first, later ++ [event], by simp, hfirst, fun e he => ?_⟩
  rcases List.mem_append.1 he with he | he
  · exact hlater e he
  · exact (List.mem_singleton.1 he) ▸ hends

/-- What begins with the last event, or began before and is not ended by it. -/
theorem since_append_singleton :
    Since begins ends (history ++ [event]) ↔ begins event ∨ Since begins ends history ∧ ¬ ends event := by
  constructor
  · intro ⟨past, first, later, heq, hfirst, hlater⟩
    rcases List.eq_nil_or_concat later with rfl | ⟨later', last, rfl⟩
    · obtain ⟨rfl, hcons⟩ := List.append_inj' heq rfl
      cases hcons
      exact .inl hfirst
    · have heq' : history ++ [event] = (past ++ first :: later') ++ [last] := by simpa using heq
      obtain ⟨rfl, hcons⟩ := List.append_inj' heq' rfl
      cases hcons
      exact .inr ⟨⟨past, first, later', rfl, hfirst, fun e he => hlater e (by simp [he])⟩, hlater event (by simp)⟩
  · intro h
    rcases h with h | ⟨h, hends⟩
    · exact .begun h history
    · exact h.snoc hends

end FourVrs.Lib
