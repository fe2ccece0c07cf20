import Mathlib.Data.List.Sublists
import Mathlib.Logic.Function.Basic

/-!
# A directory that can crash

Names hold contents. A change of the directory — a rename, a removal — takes effect at
once for whoever looks, and on the disk at some later time, at the latest when the
directory is synchronised. `view` is what a look shows; a crash keeps some of the
changes that are pending and forgets the others. Which ones it may keep is a
parameter: any of them, or only an initial part.

`May d n v` is the bound the invariants are stated with: whatever a look or a crash
shows under the name `n` is a `v` with `May d n v`.
-/

set_option autoImplicit false

namespace FourVrs.Lib

/-- What one change writes, under which names; it takes effect as a whole. -/
abbrev Change (ν δ : Type) : Type := List (ν × Option δ)

structure Directory (ν δ : Type) where
  base : ν → Option δ
  pending : List (Change ν δ)

namespace Directory

variable {ν δ : Type} [DecidableEq ν]

def applyChange (m : ν → Option δ) (c : Change ν δ) : ν → Option δ :=
  c.foldl (fun m e => Function.update m e.1 e.2) m

def applyChanges (m : ν → Option δ) (changes : List (Change ν δ)) : ν → Option δ :=
  changes.foldl applyChange m

/-- What the directory shows. -/
def view (d : Directory ν δ) : ν → Option δ := applyChanges d.base d.pending

def change (d : Directory ν δ) (c : Change ν δ) : Directory ν δ :=
  { d with pending := d.pending ++ [c] }

/-- The directory is synchronised: nothing is pending. -/
def sync (d : Directory ν δ) : Directory ν δ := { base := d.view, pending := [] }

/-- A crash keeps some of the pending changes. -/
inductive Crash (keeps : List (Change ν δ) → List (Change ν δ) → Prop) (d : Directory ν δ) :
    Directory ν δ → Prop where
  | mk (kept : List (Change ν δ)) (h : keeps kept d.pending) :
      Crash keeps d { base := applyChanges d.base kept, pending := [] }

variable (m : ν → Option δ)

@[simp] theorem applyChange_nil : applyChange m [] = m := rfl

@[simp] theorem applyChange_cons (e : ν × Option δ) (c : Change ν δ) :
    applyChange m (e :: c) = applyChange (Function.update m e.1 e.2) c := rfl

@[simp] theorem view_change (d : Directory ν δ) (c : Change ν δ) :
    (d.change c).view = applyChange d.view c := by
  simp [view, change, applyChanges]

@[simp] theorem view_sync (d : Directory ν δ) : d.sync.view = d.view := rfl

@[simp] theorem pending_sync (d : Directory ν δ) : d.sync.pending = [] := rfl

theorem view_of_settled {d : Directory ν δ} (h : d.pending = []) : d.view = d.base := by
  simp [view, h, applyChanges]

/-! ## What a name may hold -/

def May (d : Directory ν δ) (n : ν) (v : Option δ) : Prop :=
  v = d.base n ∨ ∃ c ∈ d.pending, (n, v) ∈ c

theorem applyChange_cases (c : Change ν δ) (n : ν) :
    applyChange m c n = m n ∨ (n, applyChange m c n) ∈ c := by
  induction c generalizing m with
  | nil => exact .inl rfl
  | cons e c ih =>
    rcases ih (Function.update m e.1 e.2) with heq | hmem
    · by_cases hn : n = e.1
      · subst hn
        refine .inr ?_
        rw [applyChange_cons, heq, Function.update_self]
        exact List.mem_cons_self
      · refine .inl (heq.trans ?_)
        rw [Function.update_of_ne hn]
    · exact .inr (List.mem_cons_of_mem _ hmem)

theorem applyChanges_cases (changes : List (Change ν δ)) (n : ν) :
    applyChanges m changes n = m n ∨ ∃ c ∈ changes, (n, applyChanges m changes n) ∈ c := by
  induction changes generalizing m with
  | nil => exact .inl rfl
  | cons c changes ih =>
    rcases ih (applyChange m c) with heq | ⟨c', hc', hmem⟩
    · rcases applyChange_cases m c n with hsame | hmem
      · exact .inl (heq.trans hsame)
      · refine .inr ⟨c, List.mem_cons_self, ?_⟩
        have heq : applyChanges m (c :: changes) n = applyChange m c n := heq
        rw [heq]
        exact hmem
    · exact .inr ⟨c', List.mem_cons_of_mem _ hc', hmem⟩

theorem may_view (d : Directory ν δ) (n : ν) : d.May n (d.view n) :=
  applyChanges_cases d.base d.pending n

variable {v : Option δ} {keeps : List (Change ν δ) → List (Change ν δ) → Prop} {n : ν}

theorem may_of_settled {d : Directory ν δ} (h : d.pending = []) :
    d.May n v ↔ v = d.view n := by
  simp [May, h, view_of_settled h]

theorem may_sync {d : Directory ν δ} : d.sync.May n v ↔ v = d.view n :=
  may_of_settled rfl

omit [DecidableEq ν] in
theorem may_change {d : Directory ν δ} {c : Change ν δ} :
    (d.change c).May n v ↔ d.May n v ∨ (n, v) ∈ c := by
  simp [May, change, or_assoc]

/-- Synchronising and crashing show nothing new. -/
theorem May.of_sync {d : Directory ν δ} (h : d.sync.May n v) : d.May n v := by
  rw [may_sync] at h
  subst h
  exact d.may_view n

theorem May.of_crash (hkeeps : ∀ kept all, keeps kept all → kept ⊆ all) {d d' : Directory ν δ}
    (hcrash : Crash keeps d d') (h : d'.May n v) : d.May n v := by
  obtain ⟨kept, hkept⟩ := hcrash
  rw [may_of_settled rfl] at h
  subst h
  rcases applyChanges_cases d.base kept n with heq | ⟨c, hc, hmem⟩
  · exact .inl heq
  · exact .inr ⟨c, hkeeps _ _ hkept hc, hmem⟩

/-- With nothing pending, a crash changes nothing. -/
theorem crash_of_settled (hkeeps : ∀ kept all, keeps kept all → kept ⊆ all) {d d' : Directory ν δ}
    (h : d.pending = []) (hcrash : Crash keeps d d') : d' = d := by
  obtain ⟨kept, hkept⟩ := hcrash
  have hnil : kept = [] := List.subset_nil.mp (h ▸ hkeeps _ _ hkept)
  subst hnil
  obtain ⟨base, pending⟩ := d
  subst h
  rfl

/-! ## Whatever a crash keeps -/

/-- `P` of what the directory shows, now or after a crash that keeps any of the pending changes, in
    their order. -/
def Always (P : (ν → Option δ) → Prop) (d : Directory ν δ) : Prop :=
  ∀ kept, kept.Sublist d.pending → P (applyChanges d.base kept)

variable {P Q : (ν → Option δ) → Prop} {d d' : Directory ν δ}

theorem Always.view (h : Always P d) : P d.view := h d.pending (List.Sublist.refl _)

theorem Always.mono (h : Always P d) (hpq : ∀ m, P m → Q m) : Always Q d := fun kept hk => hpq _ (h kept hk)

theorem Always.change {c : Change ν δ} (h : Always P d) (hc : ∀ m, P m → P (applyChange m c)) :
    Always P (d.change c) := by
  intro kept hk
  obtain ⟨first, last, rfl, hfirst, hlast⟩ := List.sublist_append_iff.mp hk
  rcases List.sublist_singleton.mp hlast with rfl | rfl
  · rw [List.append_nil]
    exact h first hfirst
  · have happly : applyChanges d.base (first ++ [c]) = applyChange (applyChanges d.base first) c := by
      simp [applyChanges]
    show P (applyChanges d.base (first ++ [c]))
    rw [happly]
    exact hc _ (h first hfirst)

theorem always_of_settled (hd : d.pending = []) (h : P d.view) : Always P d := by
  intro kept hk
  rw [hd, List.sublist_nil] at hk
  subst hk
  exact view_of_settled hd ▸ h

theorem Always.sync (h : Always P d) : Always P d.sync := always_of_settled rfl h.view

theorem Always.crash (h : Always P d) (hcrash : Crash List.Sublist d d') : Always P d' := by
  obtain ⟨kept, hk⟩ := hcrash
  exact always_of_settled rfl (h kept hk)

end Directory

end FourVrs.Lib
