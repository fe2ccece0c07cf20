import FourVrs.Lib.Prog

/-!
# Parties that share a world

Several programs work on one world. Each owns a part of it, its view, that no other
changes, so what a program may rely on at its next call depends on its own calls alone:
`Prog.Lawful` says that every call it makes is allowed in the view it makes it in.
`seen` is the world as its owner sees it, in all states that keep an invariant.
-/

set_option autoImplicit false

namespace FourVrs.Lib.Prog

variable {Op : Type} {Res : Op → Type} {α β σ υ : Type}

/-- Every call the program makes is one the law allows, and what it returns in satisfies
    `post`. -/
def Lawful (world : World Op Res σ) (law : (op : Op) → Res op → σ → Prop) (post : α → σ → Prop) :
    Prog Op Res α → σ → Prop
  | .pure a, s => post a s
  | .call op next, s => ∀ r s', world op s r s' → law op r s ∧ Lawful world law post (next r) s'

variable {world : World Op Res σ} {law : (op : Op) → Res op → σ → Prop} {post : α → σ → Prop}

@[simp] theorem lawful_pure {a : α} {s : σ} :
    Lawful world law post (Pure.pure a : Prog Op Res α) s ↔ post a s := Iff.rfl

@[simp] theorem lawful_call {op : Op} {next : Res op → Prog Op Res α} {s : σ} :
    Lawful world law post (.call op next) s ↔
      ∀ r s', world op s r s' → law op r s ∧ Lawful world law post (next r) s' := Iff.rfl

theorem Lawful.mono {post' : α → σ → Prop} {p : Prog Op Res α} {s : σ} (h : Lawful world law post p s)
    (hpost : ∀ a t, post a t → post' a t) : Lawful world law post' p s := by
  induction p generalizing s with
  | pure a => exact hpost a s h
  | call op next ih =>
    intro r s' hstep
    exact ⟨(h r s' hstep).1, ih r (h r s' hstep).2⟩

/-- Sequencing: the first program ends where the second is lawful. -/
theorem Lawful.bind {post : β → σ → Prop} {p : Prog Op Res α} {f : α → Prog Op Res β} {s : σ}
    (h : Lawful world law (fun a t => Lawful world law post (f a) t) p s) :
    Lawful world law post (p >>= f) s := by
  induction p generalizing s with
  | pure a => exact h
  | call op next ih =>
    intro r s' hstep
    exact ⟨(h r s' hstep).1, ih r (h r s' hstep).2⟩

/-! ## A program inside another -/

variable {Op' : Type} {Res' : Op' → Type}

/-- The program with its calls among those of a larger one. -/
def embed (f : Op → Op') : Prog Op (fun op => Res' (f op)) α → Prog Op' Res' α
  | .pure a => .pure a
  | .call op next => .call (f op) fun r => (next r).embed f

theorem Lawful.embed {world : World Op' Res' σ} {law : (op : Op') → Res' op → σ → Prop} {f : Op → Op'}
    {p : Prog Op (fun op => Res' (f op)) α} {s : σ}
    (h : Lawful (fun op => world (f op)) (fun op => law (f op)) post p s) :
    Lawful world law post (p.embed f) s := by
  induction p generalizing s with
  | pure a => exact h
  | call op next ih =>
    intro r s' hstep
    exact ⟨(h r s' hstep).1, ih r (h r s' hstep).2⟩

/-! ## What a party sees -/

/-- The world as the owner of a view sees it. -/
def seen (inv : σ → Prop) (view : σ → υ) (world : World Op Res σ) : World Op Res υ :=
  fun op v r v' => ∃ s s', view s = v ∧ view s' = v' ∧ inv s ∧ world op s r s'

/-- The next call of a lawful party, in the world itself. -/
theorem Lawful.next {inv : σ → Prop} {view : σ → υ} {world : World Op Res σ}
    {law : (op : Op) → Res op → υ → Prop} {post : α → υ → Prop} {op : Op} {next : Res op → Prog Op Res α}
    {s s' : σ} {r : Res op} (h : Lawful (seen inv view world) law post (.call op next) (view s))
    (hinv : inv s) (hstep : world op s r s') :
    law op r (view s) ∧ Lawful (seen inv view world) law post (next r) (view s') :=
  h r (view s') ⟨s, s', rfl, rfl, hinv, hstep⟩

end FourVrs.Lib.Prog
