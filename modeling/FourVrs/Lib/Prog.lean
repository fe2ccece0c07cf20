import Mathlib.Logic.Relation

/-!
# Programs that may be cut short

A sequential program makes calls to a world it does not control: what a call returns
and what it does to the state is a relation, and between any two calls the program may
be cut short, by a crash or a signal. `Prog.Runs` says how a program can end, cut
short or not; `Prog.Safe` is the matching weakest precondition, with an invariant for
the states it can be cut in and a postcondition for the one it returns in.
-/

set_option autoImplicit false

namespace FourVrs.Lib

universe u

/-- A program that makes calls `Op` and goes on with what they return. -/
inductive Prog (Op : Type) (Res : Op → Type) (α : Type u) where
  | pure (a : α)
  | call (op : Op) (next : Res op → Prog Op Res α)

namespace Prog

variable {Op : Type} {Res : Op → Type} {α β σ : Type}

def bind (p : Prog Op Res α) (f : α → Prog Op Res β) : Prog Op Res β :=
  match p with
  | .pure a => f a
  | .call op next => .call op fun r => (next r).bind f

instance : Monad (Prog Op Res) where
  pure := .pure
  bind := .bind

/-- A program of one call. -/
def lift (op : Op) : Prog Op Res (Res op) := .call op .pure

@[simp] theorem pure_bind (a : α) (f : α → Prog Op Res β) : (Prog.pure a >>= f) = f a := rfl

@[simp] theorem call_bind (op : Op) (next : Res op → Prog Op Res α) (f : α → Prog Op Res β) :
    (Prog.call op next >>= f) = .call op fun r => next r >>= f := rfl

@[simp] theorem lift_bind (op : Op) (f : Res op → Prog Op Res β) :
    (lift op >>= f) = .call op f := rfl

/-- The world: what a call may return and do. -/
abbrev World (Op : Type) (Res : Op → Type) (σ : Type) : Type :=
  (op : Op) → σ → Res op → σ → Prop

/-- The ways a program can end: with a result, or cut short. -/
inductive Runs (world : World Op Res σ) : Prog Op Res α → σ → Option α → σ → Prop where
  | done (a : α) (s : σ) : Runs world (.pure a) s (some a) s
  | cut (p : Prog Op Res α) (s : σ) : Runs world p s none s
  | call {op : Op} {next : Res op → Prog Op Res α} {s s' t : σ} {r : Res op} {o : Option α}
      (h : world op s r s') (rest : Runs world (next r) s' o t) : Runs world (.call op next) s o t

/-- Every state the program can be cut short in satisfies `I`, and what it returns
    satisfies `post`. -/
def Safe (world : World Op Res σ) (I : σ → Prop) (post : α → σ → Prop) :
    Prog Op Res α → σ → Prop
  | .pure a, s => I s ∧ post a s
  | .call op next, s => I s ∧ ∀ r s', world op s r s' → Safe world I post (next r) s'

variable {world : World Op Res σ} {I : σ → Prop} {post : α → σ → Prop}

variable {p : Prog Op Res α}

variable {f : α → Prog Op Res β} {s : σ}

theorem Safe.now (h : Safe world I post p s) : I s := by
  cases p with
  | pure a | call op next => exact h.1

/-- **Soundness.** What is safe ends as it should. -/
theorem Safe.runs {s t : σ} {o : Option α} (h : Safe world I post p s) (hrun : Runs world p s o t) :
    I t ∧ ∀ a, o = some a → post a t := by
  induction hrun with
  | done a s => exact ⟨h.1, fun _ heq => Option.some.inj heq ▸ h.2⟩
  | cut p s => exact ⟨h.now, fun _ heq => absurd heq (by simp)⟩
  | call hstep _ ih => exact ih (h.2 _ _ hstep)

theorem Safe.mono {post' : α → σ → Prop} (h : Safe world I post p s)
    (hpost : ∀ a t, I t → post a t → post' a t) :
    Safe world I post' p s := by
  induction p generalizing s with
  | pure a => exact ⟨h.1, hpost a s h.1 h.2⟩
  | call op next ih => exact ⟨h.1, fun r s' hstep => ih r (h.2 r s' hstep)⟩

/-- Two postconditions at once. -/
theorem Safe.and {post' : α → σ → Prop} (h : Safe world I post p s) (h' : Safe world I post' p s) :
    Safe world I (fun a t => post a t ∧ post' a t) p s := by
  induction p generalizing s with
  | pure a => exact ⟨h.1, h.2, h'.2⟩
  | call op next ih => exact ⟨h.1, fun r s' hstep => ih r (h.2 r s' hstep) (h'.2 r s' hstep)⟩

theorem safe_true (p : Prog Op Res α) (s : σ) :
    Safe world (fun _ => True) (fun _ _ => True) p s := by
  induction p generalizing s with
  | pure a => exact ⟨trivial, trivial⟩
  | call op next ih => exact ⟨trivial, fun r s' _ => ih r s'⟩

/-- Sequencing: the first program ends where the second is safe. -/
theorem Safe.bind {post : β → σ → Prop} (h : Safe world I (fun a t => Safe world I post (f a) t) p s) :
    Safe world I post (p >>= f) s := by
  induction p generalizing s with
  | pure a => exact h.2
  | call op next ih => exact ⟨h.1, fun r s' hstep => ih r (h.2 r s' hstep)⟩

theorem Safe.lift {op : Op} {post : Res op → σ → Prop} (hinv : I s)
    (h : ∀ r s', world op s r s' → I s' ∧ post r s') :
    Safe world I post (Prog.lift op) s :=
  ⟨hinv, h⟩

/-! ## Calls and answers -/

/-- The calls a program makes, with what they return, when it runs to its end. -/
inductive Answers : Prog Op Res α → List ((op : Op) × Res op) → α → Prop where
  | done (a : α) : Answers (.pure a) [] a
  | call {op : Op} {next : Res op → Prog Op Res α} {calls : List ((op : Op) × Res op)} {a : α}
      (r : Res op) (rest : Answers (next r) calls a) : Answers (.call op next) (⟨op, r⟩ :: calls) a

variable (handle : (op : Op) → σ → Res op × σ) {calls : List ((op : Op) × Res op)}

@[simp] theorem answers_pure {a b : α} :
    Answers (Pure.pure a : Prog Op Res α) calls b ↔ calls = [] ∧ b = a := by
  constructor
  · intro h
    cases h
    exact ⟨rfl, rfl⟩
  · rintro ⟨rfl, rfl⟩
    exact .done _

@[simp] theorem answers_call {op : Op} {next : Res op → Prog Op Res α}
    {calls : List ((op : Op) × Res op)} {b : α} :
    Answers (.call op next) calls b ↔ ∃ r rest, calls = ⟨op, r⟩ :: rest ∧ Answers (next r) rest b := by
  constructor
  · intro h
    cases h with
    | call r rest => exact ⟨r, _, rfl, rest⟩
  · rintro ⟨r, rest, rfl, h⟩
    exact .call r h

theorem answers_bind {b : β} :
    Answers (p >>= f) calls b ↔
      ∃ first a rest, calls = first ++ rest ∧ Answers p first a ∧ Answers (f a) rest b := by
  induction p generalizing calls with
  | pure a =>
    constructor
    · exact fun h => ⟨[], a, calls, rfl, .done a, h⟩
    · rintro ⟨first, a', rest, rfl, hfirst, hrest⟩
      cases hfirst
      exact hrest
  | call op next ih =>
    rw [call_bind, answers_call]
    constructor
    · rintro ⟨r, rest, rfl, h⟩
      obtain ⟨first, a, rest, rfl, hfirst, hrest⟩ := (ih r).1 h
      exact ⟨⟨op, r⟩ :: first, a, rest, rfl, .call r hfirst, hrest⟩
    · rintro ⟨first, a, rest, rfl, hfirst, hrest⟩
      cases hfirst with
      | call r hfirst => exact ⟨r, _, rfl, (ih r).2 ⟨_, a, rest, rfl, hfirst, hrest⟩⟩

/-- The calls and the result when the calls return what is on a list. -/
def replay {R : Type} : Prog Op (fun _ => R) α → List R → Option (List ((_ : Op) × R) × α)
  | .pure a, _ => some ([], a)
  | .call _ _, [] => none
  | .call op next, r :: results =>
      (replay (next r) results).map fun (calls, a) => (⟨op, r⟩ :: calls, a)

theorem answers_of_replay {R : Type} {p : Prog Op (fun _ => R) α} {results : List R}
    {calls : List ((_ : Op) × R)} {a : α} (h : p.replay results = some (calls, a)) :
    p.Answers calls a := by
  induction p generalizing results calls with
  | pure a =>
    cases h
    exact .done _
  | call op next ih =>
    cases results with
    | nil => simp [replay] at h
    | cons r results =>
      rw [replay, Option.map_eq_some_iff] at h
      obtain ⟨⟨calls, a⟩, hrest, heq⟩ := h
      cases heq
      exact answers_call.2 ⟨r, calls, rfl, ih r hrest⟩

/-! ## A world that answers -/

/-- The result in a world that is a function. -/
def eval (handle : (op : Op) → σ → Res op × σ) : Prog Op Res α → σ → α × σ
  | .pure a, s => (a, s)
  | .call op next, s => eval handle (next (handle op s).1) (handle op s).2

@[simp] theorem eval_pure (a : α) (s : σ) :
    eval handle (Pure.pure a : Prog Op Res α) s = (a, s) := rfl

@[simp] theorem eval_call (op : Op) (next : Res op → Prog Op Res α) (s : σ) :
    eval handle (.call op next) s = eval handle (next (handle op s).1) (handle op s).2 := rfl

theorem eval_bind (p : Prog Op Res α) (f : α → Prog Op Res β) (s : σ) :
    eval handle (p >>= f) s = eval handle (f (eval handle p s).1) (eval handle p s).2 := by
  induction p generalizing s with
  | pure a => rfl
  | call op next ih => exact ih _ _

/-- Whatever the calls return, the result satisfies `post`. -/
def Always (post : α → Prop) : Prog Op Res α → Prop
  | .pure a => post a
  | .call _ next => ∀ r, Always post (next r)

theorem Always.bind {post : β → Prop} (h : Always (fun a => Always post (f a)) p) :
    Always post (p >>= f) := by
  induction p with
  | pure a => exact h
  | call op next ih => exact fun r => ih r (h r)

theorem Always.mono {post post' : α → Prop} (h : Always post p) (hpost : ∀ a, post a → post' a) :
    Always post' p := by
  induction p with
  | pure a => exact hpost a h
  | call op next ih => exact fun r => ih r (h r)

theorem Always.and {post post' : α → Prop} (h : Always post p) (h' : Always post' p) :
    Always (fun a => post a ∧ post' a) p := by
  induction p with
  | pure a => exact ⟨h, h'⟩
  | call op next ih => exact fun r => ih r (h r) (h' r)

theorem Always.eval {post : α → Prop} (h : Always post p) (handle : (op : Op) → σ → Res op × σ) (s : σ) :
    post (Prog.eval handle p s).1 := by
  induction p generalizing s with
  | pure a => exact h
  | call op next ih => exact ih _ (h _) _

theorem Always.answers {post : α → Prop} (h : Always post p) {a : α} (hanswers : Answers p calls a) : post a := by
  induction hanswers with
  | done a => exact h
  | call r rest ih => exact ih (h r)

/-- In that world the program runs to its end. -/
theorem answers_eval (p : Prog Op Res α) (s : σ) :
    ∃ calls, Answers p calls (eval handle p s).1 := by
  induction p generalizing s with
  | pure a => exact ⟨[], .done a⟩
  | call op next ih =>
    obtain ⟨calls, h⟩ := ih (handle op s).1 (handle op s).2
    exact ⟨⟨op, (handle op s).1⟩ :: calls, .call _ h⟩

/-- What every call keeps of the state, the program keeps. -/
theorem eval_keeps {inv : σ → Prop} {handle : (op : Op) → σ → Res op × σ}
    (h : ∀ op s, inv s → inv (handle op s).2) (p : Prog Op Res α) (hs : inv s) :
    inv (eval handle p s).2 := by
  induction p generalizing s with
  | pure a => exact hs
  | call op next ih => exact ih _ (h op s hs)

/-- What is safe ends as it should where the calls are answered by a function, of whose
    state the world sees a part. -/
theorem Safe.eval {τ : Type} {handle : (op : Op) → τ → Res op × τ} (view : τ → σ)
    (hview : ∀ op t, world op (view t) (handle op t).1 (view (handle op t).2)) {t : τ}
    (h : Safe world I post p (view t)) :
    post (Prog.eval handle p t).1 (view (Prog.eval handle p t).2) := by
  induction p generalizing t with
  | pure a => exact h.2
  | call op next ih => exact ih _ (h.2 _ _ (hview op t))

/-- It is one of the ways to end. -/
theorem runs_eval {handle : (op : Op) → σ → Res op × σ}
    (h : ∀ op s, world op s (handle op s).1 (handle op s).2) (p : Prog Op Res α) (s : σ) :
    Runs world p s (some (eval handle p s).1) (eval handle p s).2 := by
  induction p generalizing s with
  | pure a => exact .done a s
  | call op next ih => exact .call (h op s) (ih _ _)

/-- The state after the first calls. -/
def evalFor (handle : (op : Op) → σ → Res op × σ) : Nat → Prog Op Res α → σ → σ
  | 0, _, s | _ + 1, .pure _, s => s
  | calls + 1, .call op next, s => evalFor handle calls (next (handle op s).1) (handle op s).2

theorem runs_evalFor {handle : (op : Op) → σ → Res op × σ}
    (h : ∀ op s, world op s (handle op s).1 (handle op s).2) (calls : Nat) (p : Prog Op Res α)
    (s : σ) : Runs world p s none (evalFor handle calls p s) := by
  induction calls generalizing p s with
  | zero => exact .cut p s
  | succ calls ih =>
    cases p with
    | pure a => exact .cut _ s
    | call op next => exact .call (h op s) (ih _ _)

end Prog

end FourVrs.Lib
