import Mathlib.Data.List.Nodup
import Mathlib.Logic.Relation
import Mathlib.Tactic.Common

/-!
# Custody of accepted items

A component accepts items, holds at most one of them while the others wait in
line, and reports each one when it is done with it. Between two acceptances its
bookkeeping is three moves: `take` the front item in hand, `drop` the front one
unserved, `finish` the one in hand.

A component whose every operation accepts an item at the back of the line or makes
a sequence of these moves never loses an item, never reports one twice and takes
them in the order it accepted them. That is proved here once, about the moves; a
client shows that its operations are moves.
-/

set_option autoImplicit false

/-- What a component has accepted, and where those items are. -/
structure Custody (α : Type) where
  accepted : List α
  queued : List α
  current : Option α
  done : List α

namespace Custody

variable {α : Type}

/-- All items a component has to answer for, the reported ones first. -/
def items (c : Custody α) : List α := c.done ++ (c.current.toList ++ c.queued)

def accept (c : Custody α) (a : α) : Custody α :=
  { c with accepted := c.accepted ++ [a], queued := c.queued ++ [a] }

inductive Serve : Custody α → Custody α → Prop where
  | take (c : Custody α) (a : α) (rest : List α) (line : c.queued = a :: rest)
      (free : c.current = none) : Serve c { c with queued := rest, current := some a }
  | drop (c : Custody α) (a : α) (rest : List α) (line : c.queued = a :: rest) :
      Serve c { c with queued := rest, done := c.done ++ [a] }
  | finish (c : Custody α) (a : α) (held : c.current = some a) :
      Serve c { c with current := none, done := c.done ++ [a] }

abbrev Serves : Custody α → Custody α → Prop := Relation.ReflTransGen Serve

variable {c c' : Custody α}

theorem Serves.of_eq (h : c' = c) : Serves c c' := h ▸ .refl

/-- A stretch of a component's life: acceptances and moves in any order. -/
inductive Evolves : Custody α → Custody α → Prop where
  | refl (c : Custody α) : Evolves c c
  | accept {c c' : Custody α} (a : α) (h : Evolves c c') : Evolves c (c'.accept a)
  | serve {c c' c'' : Custody α} (h : Evolves c c') (hs : Serves c' c'') : Evolves c c''

theorem Evolves.trans {c c' c'' : Custody α} (h : Evolves c c') (h' : Evolves c' c'') :
    Evolves c c'' := by
  induction h' with
  | refl => exact h
  | accept a _ ih => exact .accept a ih
  | serve _ hs ih => exact .serve ih hs

/-- No item lost or invented, and those not yet reported still in order. -/
structure Sound (c : Custody α) : Prop where
  conserved : c.items.Perm c.accepted
  ordered : (c.current.toList ++ c.queued).Sublist c.accepted

theorem Sound.accept {c : Custody α} (h : Sound c) (a : α) : Sound (c.accept a) := by
  obtain ⟨hperm, hsub⟩ := h
  refine ⟨?_, ?_⟩
  · show (c.done ++ (c.current.toList ++ (c.queued ++ [a]))).Perm (c.accepted ++ [a])
    rw [← List.append_assoc c.current.toList, ← List.append_assoc]
    exact hperm.append_right [a]
  · show (c.current.toList ++ (c.queued ++ [a])).Sublist (c.accepted ++ [a])
    rw [← List.append_assoc]
    exact hsub.append (List.Sublist.refl [a])

theorem Sound.serve (h : Sound c) (hs : Serve c c') : Sound c' := by
  obtain ⟨hperm, hsub⟩ := h
  unfold items at hperm
  cases hs with
  | take a rest line free =>
    rw [line, free] at hperm hsub
    exact ⟨hperm, hsub⟩
  | drop a rest line =>
    rw [line] at hperm hsub
    have hmid : (a :: (c.current.toList ++ rest)).Perm (c.current.toList ++ a :: rest) :=
      List.perm_middle.symm
    refine ⟨?_, ?_⟩
    · refine List.Perm.trans ?_ hperm
      show ((c.done ++ [a]) ++ (c.current.toList ++ rest)).Perm _
      rw [List.append_assoc]
      exact hmid.append_left c.done
    · exact (List.Sublist.append (List.Sublist.refl _) (List.sublist_cons_self a rest)).trans hsub
  | finish a held =>
    rw [held] at hperm hsub
    refine ⟨?_, (List.sublist_cons_self a c.queued).trans hsub⟩
    unfold items
    rw [List.append_assoc]
    exact hperm

theorem Sound.serves (h : Sound c) (hs : Serves c c') : Sound c' := by
  induction hs with
  | refl => exact h
  | tail _ hstep ih => exact ih.serve hstep

theorem Sound.evolves (h : Sound c) (he : Evolves c c') : Sound c' := by
  induction he with
  | refl => exact h
  | accept a _ ih => exact ih.accept a
  | serve _ hs ih => exact ih.serves hs

/-! ## What never shrinks -/

theorem Serves.done_prefix (hs : Serves c c') : c.done <+: c'.done := by
  induction hs with
  | refl => exact List.prefix_rfl
  | tail _ hstep ih =>
    refine ih.trans ?_
    cases hstep with
    | take _ _ _ _ => exact List.prefix_rfl
    | drop a _ _ | finish a _ => exact List.prefix_append _ [a]

theorem Serves.accepted_eq (hs : Serves c c') : c'.accepted = c.accepted := by
  induction hs with
  | refl => rfl
  | tail _ hstep ih => cases hstep <;> exact ih

theorem Evolves.done_prefix (he : Evolves c c') : c.done <+: c'.done := by
  induction he with
  | refl => exact List.prefix_rfl
  | accept _ _ ih => exact ih
  | serve _ hs ih => exact ih.trans (Serves.done_prefix hs)

theorem Evolves.accepted_prefix (he : Evolves c c') :
    c.accepted <+: c'.accepted := by
  induction he with
  | refl => exact List.prefix_rfl
  | accept a _ ih => exact ih.trans (List.prefix_append _ [a])
  | serve _ hs ih => exact ih.trans (Serves.accepted_eq hs ▸ List.prefix_rfl)

/-! ## Exactly once, in order -/

theorem Sound.nodup_items {c : Custody α} (h : Sound c) (hnd : c.accepted.Nodup) :
    c.items.Nodup := h.conserved.nodup_iff.mpr hnd

theorem Sound.mem_iff {c : Custody α} (h : Sound c) {a : α} :
    a ∈ c.accepted ↔ a ∈ c.done ∨ c.current = some a ∨ a ∈ c.queued := by
  rw [← h.conserved.mem_iff]
  simp [items]

/-- A reported item is not waiting any more. -/
theorem Sound.notMem_queued_of_done {c : Custody α} (h : Sound c) (hnd : c.accepted.Nodup) {a : α}
    (ha : a ∈ c.done) : a ∉ c.queued := by
  have hdisj := (List.nodup_append'.mp (h.nodup_items hnd)).2.2 ha
  exact fun hq => hdisj (List.mem_append_right _ hq)

/-- A reported item is not in hand any more. -/
theorem Sound.current_ne_of_done {c : Custody α} (h : Sound c) (hnd : c.accepted.Nodup) {a : α}
    (ha : a ∈ c.done) : c.current ≠ some a := by
  have hdisj := (List.nodup_append'.mp (h.nodup_items hnd)).2.2 ha
  intro hc
  exact hdisj (List.mem_append_left _ (by simp [hc]))

/-- The item in hand is not waiting. -/
theorem Sound.notMem_queued_of_current {c : Custody α} (h : Sound c) (hnd : c.accepted.Nodup)
    {a : α} (ha : c.current = some a) : a ∉ c.queued := by
  have hrest := (List.nodup_append'.mp (h.nodup_items hnd)).2.1
  rw [ha] at hrest
  exact (List.nodup_cons.mp hrest).1

/-- **Exactly once.** An accepted item waits unreported, is in hand unreported, or
    has been reported a single time — and only one of the three. -/
theorem Sound.exactlyOnce [DecidableEq α] {c : Custody α} (h : Sound c) (hnd : c.accepted.Nodup)
    {a : α} (ha : a ∈ c.accepted) :
    (a ∈ c.queued ∧ c.current ≠ some a ∧ c.done.count a = 0) ∨
      (a ∉ c.queued ∧ c.current = some a ∧ c.done.count a = 0) ∨
      (a ∉ c.queued ∧ c.current ≠ some a ∧ c.done.count a = 1) := by
  have hdone : c.done.Nodup := (List.nodup_append'.mp (h.nodup_items hnd)).1
  rcases h.mem_iff.mp ha with hd | hc | hq
  · exact .inr (.inr ⟨h.notMem_queued_of_done hnd hd, h.current_ne_of_done hnd hd,
      List.count_eq_one_of_mem hdone hd⟩)
  · refine .inr (.inl ⟨h.notMem_queued_of_current hnd hc, hc, ?_⟩)
    exact List.count_eq_zero.mpr fun hd => h.current_ne_of_done hnd hd hc
  · refine .inl ⟨hq, fun hc => h.notMem_queued_of_current hnd hc hq, ?_⟩
    exact List.count_eq_zero.mpr fun hd => h.notMem_queued_of_done hnd hd hq

/-- **In order.** An item in hand later was accepted later. -/
theorem Sound.taken_in_order (h : Sound c) (h' : Sound c') (he : Evolves c c') (hnd : c'.accepted.Nodup)
    {a b : α} (ha : c.current = some a) (hb : c'.current = some b) (hne : a ≠ b) : [a, b].Sublist c'.accepted := by
  obtain ⟨later, hlater⟩ := he.accepted_prefix
  have hmem : b ∈ c.accepted ++ later := hlater ▸ h'.mem_iff.mpr (.inr (.inl hb))
  rw [← hlater]
  rcases List.mem_append.mp hmem with hold | hnew
  · rcases h.mem_iff.mp hold with hd | hc | hq
    · exact absurd hb (h'.current_ne_of_done hnd (he.done_prefix.subset hd))
    · rw [ha] at hc
      exact absurd (Option.some.inj hc) hne
    · have hsub := h.ordered
      rw [ha] at hsub
      exact ((List.Sublist.cons_cons a (List.singleton_sublist.mpr hq)).trans hsub).trans
        (List.sublist_append_left _ _)
  · have hacc : a ∈ c.accepted := h.mem_iff.mpr (.inr (.inl ha))
    exact (List.singleton_sublist.mpr hacc).append (List.singleton_sublist.mpr hnew)

end Custody
