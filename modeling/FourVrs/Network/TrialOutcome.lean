import FourVrs.Network.CrashAtomic
import FourVrs.Network.TwoPhase

/-!
# What a trial ends with is what the store holds

The operations the manager calls are those of `network/gateway_network_runtime.c`. `stage` writes
the candidate into the store; `commit` forks a child that confirms it, and later asks how the child
has ended; `restore` kills a child that has not, and `poll` waits for it and aborts what it began.
The child goes on between any two calls, and a killed one until it is waited for. `Worked` says what
an operation may return and do, as far as the store goes; every call of the store may fail.

`Joined` is the invariant: what the state of the manager says of the child and of the store.
-/

set_option autoImplicit false

namespace FourVrs.Network

open FourVrs.Core Lib

variable {Settings : Type}

/-- `commit_pending` and `commit_canceled`, with what the child has still to do. -/
inductive CommitChild where
  | none
  | running (p : StoreProg StoreResult)
  | killed (p : StoreProg StoreResult)

/-- `worker_t`. -/
structure TrialWorker where
  dir : StoreDirectory
  child : CommitChild

/-- Any fault. -/
def AnyFault : StoreFaults := fun _ _ _ => True

def Aborts (d : StoreDirectory) (a : StoreResult) (d' : StoreDirectory) : Prop :=
  Prog.Runs (storeWorld AnyFault) storeAbortCommit d (some a) d'

/-- What an operation may return and do; `render` makes a candidate of the settings and encodes it.
    The manager polls, stages, applies and discards with no child that runs, and restores once. -/
inductive Worked (render : Settings → List UInt8) (w : TrialWorker) :
    ManagerCall Settings → Int → TrialWorker → Prop where
  | refuses {settings r a d} (hchild : w.child = .none) (h : Aborts w.dir a d) (hr : r ≠ 0) :
      Worked render w (.stage settings) r ⟨d, .none⟩
  | stages {settings r a d d'} (hchild : w.child = .none) (h : Aborts w.dir .ok d)
      (hwrite : Prog.Runs (storeWorld AnyFault) (storeWrite .candidate (render settings)) d (some a) d')
      (hr : r = if a = .ok then 0 else -1) : Worked render w (.stage settings) r ⟨d', .none⟩
  | applies (r : Int) : Worked render w .apply r w
  | polls {r} (hchild : w.child = .none) (hr : r = -1 ∨ r = 0 ∨ r = 1) : Worked render w .poll r w
  | waits {p} (hchild : w.child = .killed p) : Worked render w .poll 0 w
  /-- Durable Keep won the race. -/
  | outran (hchild : w.child = .killed (.pure .ok)) : Worked render w .poll 2 ⟨w.dir, .none⟩
  /-- `poll` goes on with `restore`, which aborts again. -/
  | aborts {p r a b d d'} (hchild : w.child = .killed p) (h : Aborts w.dir a d)
      (hagain : a ≠ .ok ∧ d' = d ∧ r = -1 ∨ a = .ok ∧ Aborts d b d' ∧ (r = -1 ∨ r = 0 ∧ b = .ok)) :
      Worked render w .poll r ⟨d', .none⟩
  | survives {p} (hchild : w.child = .running p) : Worked render w .restore (-1) w
  | kills {p} (hchild : w.child = .running p) : Worked render w .restore 0 ⟨w.dir, .killed p⟩
  | restores {r a d} (hchild : w.child = .none) (h : Aborts w.dir a d) (hr : r = -1 ∨ r = 0 ∧ a = .ok) :
      Worked render w .restore r ⟨d, .none⟩
  | unforked (hchild : w.child = .none) : Worked render w .commit (-1) w
  /-- A child that is not isolated exits. -/
  | forks {p} (hchild : w.child = .none) (hp : p = storeConfirm ∨ p = pure .io) :
      Worked render w .commit 1 ⟨w.dir, .running p⟩
  | goesOn {p} (hchild : w.child = .running p) : Worked render w .commit 1 w
  | succeeds (hchild : w.child = .running (.pure .ok)) : Worked render w .commit 0 ⟨w.dir, .none⟩
  /-- The child has failed or died, or cannot be waited for. -/
  | fails {p} (hchild : w.child = .running p) : Worked render w .commit (-1) ⟨w.dir, .none⟩
  | doubts {r a d} (hchild : w.child = .running (.pure .uncertain)) (h : Aborts w.dir a d)
      (hr : r = -2 ∨ r = -1 ∧ a = .ok) : Worked render w .commit r ⟨d, .none⟩
  | discards {r a d} (hchild : w.child = .none)
      (h : Prog.Runs (storeWorld AnyFault) storeDiscard w.dir (some a) d)
      (hr : r = if a = .ok then 0 else -1) : Worked render w .discard r ⟨d, .none⟩

/-- The child makes a call. -/
inductive ChildStep (faults : StoreFaults) (w : TrialWorker) : TrialWorker → Prop where
  | running {call next r d} (hchild : w.child = .running (.call call next))
      (h : storeWorld faults call w.dir r d) : ChildStep faults w ⟨d, .running (next r)⟩
  | killed {call next r d} (hchild : w.child = .killed (.call call next))
      (h : storeWorld faults call w.dir r d) : ChildStep faults w ⟨d, .killed (next r)⟩

abbrev ChildSteps (faults : StoreFaults) : TrialWorker → TrialWorker → Prop :=
  Relation.ReflTransGen (ChildStep faults)

/-- The calls of a turn, answered one after the other while the child goes on. -/
def TurnRun (render : Settings → List UInt8) (faults : StoreFaults) :
    TrialWorker → List (ManagerAnswer Settings) → TrialWorker → Prop
  | w, [], w' => ChildSteps faults w w'
  | w, ⟨call, r⟩ :: calls, w' =>
      ∃ w₁ w₂, ChildSteps faults w w₁ ∧ Worked render w₁ call r w₂ ∧ TurnRun render faults w₂ calls w'

/-- A trial of `candidate` on the store `d₀`. -/
inductive TrialRun (render : Settings → List UInt8) (faults : StoreFaults) (validate : Settings → Int)
    (candidate : Settings) (d₀ : StoreDirectory) : Supervisor → TrialWorker → Prop where
  | start (m : NetworkManager) (now : CoreTick) {s : Supervisor} {calls : List (ManagerAnswer Settings)}
      {w : TrialWorker} (hidle : m.state = .idle)
      (h : (supervisorStart validate m candidate now).Answers calls s)
      (hw : TurnRun render faults ⟨d₀, .none⟩ calls w) : TrialRun render faults validate candidate d₀ s w
  | turn {s s' : Supervisor} {w w' : TrialWorker} (turn : Turn) {calls : List (ManagerAnswer Settings)}
      (hrun : TrialRun render faults validate candidate d₀ s w) (hrunning : s.running = true)
      (h : (supervisorTurn s turn).Answers calls s') (hw : TurnRun render faults w calls w') :
      TrialRun render faults validate candidate d₀ s' w'

/-! ## The store under the operations -/

variable {render : Settings → List UInt8} {faults : StoreFaults} {C N : List UInt8} {released : Prop}
  {d d' : StoreDirectory} {w w' : TrialWorker}

theorem Committing.discard {o : Option StoreResult} (h : Committing C N released d)
    (hrun : Prog.Runs (storeWorld AnyFault) storeDiscard d o d') : Committing C N released d' := by
  have hsafe : Prog.Safe (storeWorld AnyFault) (Committing C N released) (fun _ _ => True) storeDiscard d :=
    safe_storeDiscard h (fun _ _ _ _ => trivial) fun _ _ _ _ _ => trivial
  exact (hsafe.runs hrun).1

theorem Committing.abort {a : StoreResult} (h : Committing C N released d) (hrun : Aborts d a d') :
    Committing C N released d' :=
  ((safe_storeAbortCommit h).runs hrun).1

/-- Without a guard there is nothing to abort. -/
theorem abort_keeps {a : StoreResult} (hguard : d.view .commitGuard = none) (hrun : Aborts d a d') : d' = d := by
  have hsafe : Prog.Safe (storeWorld AnyFault) (· = d) (fun _ _ => True) storeAbortCommit d := by
    unfold storeAbortCommit
    refine Prog.Safe.bind (safe_storeRead rfl ?_ ?_ ?_)
    · intro z hz
      simp [StoreDirectory.snapshot, snapshotOf, hguard] at hz
    · exact fun _ => ⟨rfl, trivial⟩
    · rintro r (rfl | rfl) _ <;> exact ⟨rfl, trivial⟩
  exact (hsafe.runs hrun).1

/-! ## The invariant -/

/-- What a trial is about. -/
structure Trial where
  old : List UInt8
  new : List UInt8
  /-- The child may remove the guard. -/
  released : Prop
  /-- Of the child's calls. -/
  faults : StoreFaults

abbrev Trial.Commits (t : Trial) (d : StoreDirectory) : Prop := Committing t.old t.new t.released d

/-- A commit is under way or none is; a child that has still to go on ends with it done or not. -/
def Sound (t : Trial) (w : TrialWorker) : Prop :=
  match w.child with
  | .none => t.Commits w.dir
  | .running p | .killed p => Prog.Safe (storeWorld t.faults) t.Commits (fun r d => r = .ok → Done t.new d) p w.dir

/-- The commit is done, and nobody is there to undo it. -/
def KeptIn (N : List UInt8) (w : TrialWorker) : Prop := Done N w.dir ∧ w.child = .none

def TrialWorker.Running (w : TrialWorker) : Prop := ∃ p, w.child = .running p

def TrialWorker.Killed (w : TrialWorker) : Prop := ∃ p, w.child = .killed p

/-- What the state of the manager says. -/
def Joined (t : Trial) (w : TrialWorker) : NetworkState → Prop
  | .unavailable | .idle | .failed => True
  | .applying | .waitBindings | .waitConfirm | .rollbackBindings | .reverted =>
      Sound t w ∧ w.child = .none
  | .committing => Sound t w ∧ ¬ w.Killed
  | .rollingBack => Sound t w ∧ ¬ w.Running
  | .rollbackFailed | .durabilityUncertain => Sound t w
  | .kept => KeptIn t.new w

variable {t : Trial}

theorem Sound.committing (h : Sound t w) : t.Commits w.dir := by
  unfold Sound at h
  split at h
  · exact h
  · exact h.now
  · exact h.now

theorem Sound.step (h : Sound t w) (hstep : ChildStep t.faults w w') : Sound t w' := by
  cases hstep with
  | running hchild hcall =>
    simp only [Sound, hchild] at h
    exact h.2 _ _ hcall
  | killed hchild hcall =>
    simp only [Sound, hchild] at h
    exact h.2 _ _ hcall

/-- The child goes on: it stays what it is, running or killed. -/
theorem child_steps (hsteps : ChildSteps t.faults w w') :
    (Sound t w → Sound t w') ∧ (w.child = .none → w' = w) ∧
      (w'.Running → w.Running) ∧ (w'.Killed → w.Killed) := by
  induction hsteps with
  | refl => exact ⟨id, fun _ => rfl, id, id⟩
  | tail _ hstep ih =>
    obtain ⟨hsound, hnone, hrunning, hkilled⟩ := ih
    refine ⟨fun h => (hsound h).step hstep, fun h => ?_, fun h => hrunning ?_, fun h => hkilled ?_⟩
    · obtain rfl := hnone h
      cases hstep with
      | running hchild _ | killed hchild _ => exact absurd (h.symm.trans hchild) (by simp)
    · obtain ⟨p, hp⟩ := h
      cases hstep with
      | running hchild _ => exact ⟨_, hchild⟩
      | killed hchild _ => exact absurd hp (by simp)
    · obtain ⟨p, hp⟩ := h
      cases hstep with
      | running hchild _ => exact absurd hp (by simp)
      | killed hchild _ => exact ⟨_, hchild⟩

theorem Joined.steps {state : NetworkState} (h : Joined t w state) (hsteps : ChildSteps t.faults w w') :
    Joined t w' state := by
  obtain ⟨hsound, hnone, hrunning, hkilled⟩ := child_steps hsteps
  cases state with
  | unavailable | idle | failed => trivial
  | applying | waitBindings | waitConfirm | rollbackBindings | reverted => exact hnone h.2 ▸ h
  | kept => exact hnone h.2 ▸ h
  | committing => exact ⟨hsound h.1, fun hk => h.2 (hkilled hk)⟩
  | rollingBack => exact ⟨hsound h.1, fun hr => h.2 (hrunning hr)⟩
  | rollbackFailed | durabilityUncertain => exact hsound h

/-! ## Operations -/

theorem idle_of_none (h : w.child = .none) : ¬ w.Running ∧ ¬ w.Killed := by
  simp [TrialWorker.Running, TrialWorker.Killed, h]

theorem Sound.of_none {d : StoreDirectory} (h : t.Commits d) : Sound t ⟨d, .none⟩ := h

theorem Sound.poll {r : Int} (h : Sound t w) (hr : ¬ w.Running) (hw : Worked render w .poll r w') :
    (r = 2 → KeptIn t.new w') ∧ (r ≠ 2 → Sound t w' ∧ ¬ w'.Running) ∧
      (0 < r → r ≠ 2 → w'.child = .none) ∧ (w.child = .none → w' = w ∧ r ≠ 2) := by
  cases hw with
  | polls hchild hvalue => exact ⟨by omega, fun _ => ⟨h, hr⟩, fun _ _ => hchild, fun _ => ⟨rfl, by omega⟩⟩
  | waits hchild => exact ⟨by omega, fun _ => ⟨h, hr⟩, by omega, by simp [hchild]⟩
  | outran hchild =>
    simp only [Sound, hchild] at h
    exact ⟨fun _ => ⟨h.2 rfl, rfl⟩, by simp, by simp, by simp [hchild]⟩
  | aborts hchild habort hagain =>
    have hkept := h.committing.abort habort
    rcases hagain with ⟨-, rfl, rfl⟩ | ⟨-, hagain, hvalue⟩
    · exact ⟨by omega, fun _ => ⟨.of_none hkept, (idle_of_none rfl).1⟩, by omega, by simp [hchild]⟩
    · exact ⟨by omega, fun _ => ⟨.of_none (hkept.abort hagain), (idle_of_none rfl).1⟩, by omega, by simp [hchild]⟩

theorem Sound.restore {r : Int} (h : Sound t w) (hw : Worked render w .restore r w') :
    Sound t w' ∧ (r = 0 → ¬ w'.Running) := by
  cases hw with
  | survives hchild => exact ⟨h, by simp⟩
  | kills hchild =>
    simp only [Sound, hchild] at h
    exact ⟨h, fun _ => by simp [TrialWorker.Running]⟩
  | restores hchild habort hvalue =>
    exact ⟨.of_none (h.committing.abort habort), fun _ => (idle_of_none rfl).1⟩

theorem Sound.discard {r : Int} (h : Sound t w) (hw : Worked render w .discard r w') :
    Sound t w' ∧ w'.child = .none := by
  cases hw with
  | discards hchild hrun hr => exact ⟨.of_none (h.committing.discard hrun), rfl⟩

section

variable (hreads : ∀ d, ReadMayFail t.faults d .confirmed → HarmlessRead d)
  (hrelease : ∀ d, t.faults (.unlink .commitGuard) d .ok → t.released)

include hreads hrelease in
theorem Sound.commit {r : Int} (h : Sound t w) (hk : ¬ w.Killed) (hw : Worked render w .commit r w') :
    (r = 0 → KeptIn t.new w') ∧ (r ≠ 0 → Sound t w' ∧ ¬ w'.Killed) := by
  have hrunning : ∀ {d : StoreDirectory} {p}, ¬ (TrialWorker.mk d (.running p)).Killed := by
    simp [TrialWorker.Killed]
  cases hw with
  | unforked hchild => exact ⟨by simp, fun _ => ⟨h, hk⟩⟩
  | forks hchild hp =>
    refine ⟨by simp, fun _ => ⟨?_, hrunning⟩⟩
    rcases hp with rfl | rfl
    · exact safe_storeConfirm hreads hrelease h.committing
    · exact ⟨h.committing, fun hr => absurd hr (by simp)⟩
  | goesOn hchild => exact ⟨by simp, fun _ => ⟨h, hk⟩⟩
  | succeeds hchild =>
    simp only [Sound, hchild] at h
    exact ⟨fun _ => ⟨h.2 rfl, rfl⟩, by simp⟩
  | fails hchild => exact ⟨by simp, fun _ => ⟨.of_none h.committing, (idle_of_none rfl).2⟩⟩
  | doubts hchild habort hvalue =>
    exact ⟨by omega, fun _ => ⟨.of_none (h.committing.abort habort), (idle_of_none rfl).2⟩⟩

theorem Joined.onTrial {m : NetworkManager} (h : Joined t w m.state) (htrial : m.onTrial = true) :
    Sound t w := by
  revert htrial h
  unfold NetworkManager.onTrial
  cases m.state with
  | applying | waitBindings | waitConfirm | committing => exact fun h _ => h.1
  | _ => exact fun _ htrial => absurd htrial (by simp)

theorem Joined.restored {m : NetworkManager} {now : CoreTick} {r : Int} (h : Sound t w)
    (hw : TurnRun render t.faults w [⟨.restore, r⟩] w') :
    Joined t w' (restored m now r).state := by
  obtain ⟨w₁, w₂, hbefore, hrestore, hafter⟩ := hw
  obtain ⟨hrestored, hrunning⟩ := ((child_steps hbefore).1 h).restore hrestore
  refine Joined.steps ?_ hafter
  unfold FourVrs.Network.restored
  split
  · exact hrestored
  · rename_i hr
    exact ⟨hrestored, hrunning (not_not.mp hr)⟩

/-- A poll while no child is there. -/
theorem served_poll {r : Int} {calls : List (ManagerAnswer Settings)} (h : Sound t w)
    (hchild : w.child = .none) (hw : TurnRun render t.faults w (⟨.poll, r⟩ :: calls) w') :
    TurnRun render t.faults w calls w' ∧ r ≠ 2 := by
  obtain ⟨w₁, w₂, hbefore, hpoll, hafter⟩ := hw
  obtain rfl := (child_steps (t := t) hbefore).2.1 hchild
  obtain ⟨-, -, -, hsame⟩ := h.poll (idle_of_none hchild).1 hpoll
  obtain ⟨rfl, hr⟩ := hsame hchild
  exact ⟨hafter, hr⟩

theorem rollingBack_poll {w₁ w₂ : TrialWorker} {r : Int} (h : Joined t w .rollingBack)
    (hbefore : ChildSteps t.faults w w₁) (hpoll : Worked render w₁ .poll r w₂) :
    (r = 2 → KeptIn t.new w₂) ∧ (r ≠ 2 → Sound t w₂ ∧ ¬ w₂.Running) ∧
      (0 < r → r ≠ 2 → w₂.child = .none) := by
  have h₁ : Sound t w₁ ∧ ¬ w₁.Running := h.steps hbefore
  obtain ⟨hkept, hsound, hnone, -⟩ := h₁.1.poll h₁.2 hpoll
  exact ⟨hkept, hsound, hnone⟩

theorem rollingBack_discard {polled r : Int} (h : Joined t w .rollingBack) (hpolled : 0 < polled ∧ polled ≠ 2)
    (hw : TurnRun render t.faults w [⟨.poll, polled⟩, ⟨.discard, r⟩] w') :
    Sound t w' ∧ w'.child = .none := by
  obtain ⟨w₁, w₂, hbefore, hpoll, w₃, w₄, hbetween, hdiscard, hafter⟩ := hw
  obtain ⟨-, hsound, -⟩ := rollingBack_poll h hbefore hpoll
  have h₃ := (child_steps (t := t) hbetween).1 (hsound hpolled.2).1
  exact (show Joined t w₄ .reverted from h₃.discard hdiscard).steps hafter

include hreads hrelease in
theorem committing_commit {w₁ w₂ : TrialWorker} {r : Int} (h : Joined t w .committing)
    (hbefore : ChildSteps t.faults w w₁) (hcommit : Worked render w₁ .commit r w₂) :
    (r = 0 → KeptIn t.new w₂) ∧ (r ≠ 0 → Joined t w₂ .committing) := by
  have h₁ : Sound t w₁ ∧ ¬ w₁.Killed := h.steps hbefore
  exact h₁.1.commit hreads hrelease h₁.2 hcommit

include hreads hrelease in
/-- **The step lemma.** -/
theorem Joined.stepped {m m' : NetworkManager} {now : CoreTick} {calls : List (ManagerAnswer Settings)}
    (h : Joined t w m.state) (hstep : Stepped m now calls m')
    (hw : TurnRun render t.faults w calls w') : Joined t w' m'.state := by
  -- one case for each move of the manager; `hw` is what the worker did in the turn
  cases hstep with
  | finished hdone => exact h.steps hw
  | cancelled reason r htrial hoff => exact Joined.restored (h.onTrial htrial) hw
  | unfit observed r hstate =>
    have hnone : Sound t w ∧ w.child = .none := by
      rcases hstate with hstate | hstate
      · rwa [hstate] at h
      · rwa [hstate] at h
    exact Joined.restored hnone.1 (served_poll hnone.1 hnone.2 hw).1
  | applying hstate =>
    rw [hstate] at h ⊢
    exact Joined.steps h (served_poll h.1 h.2 hw).1
  | applied r hstate hr =>
    rw [hstate] at h
    exact (show Joined t w .waitBindings from h).steps (served_poll h.1 h.2 hw).1
  | unbound hstate hready => exact h.steps hw
  | bound hstate hready =>
    rw [hstate] at h
    exact (show Joined t w .waitConfirm from h).steps hw
  | unconfirmed hstate =>
    rw [hstate] at h ⊢
    exact Joined.steps h (served_poll h.1 h.2 hw).1
  | confirmed hstate hready hrequested =>
    rw [hstate] at h
    have hcommitting : Joined t w .committing := ⟨h.1, (idle_of_none h.2).2⟩
    exact hcommitting.steps (served_poll h.1 h.2 hw).1
  -- the answers of the commit, each with what it says of the store
  | saving hstate hon =>
    rw [hstate] at h ⊢
    obtain ⟨w₁, w₂, hbefore, hcommit, hafter⟩ := hw
    exact Joined.steps ((committing_commit hreads hrelease h hbefore hcommit).2 (by simp)) hafter
  | saved hstate hon =>
    rw [hstate] at h
    obtain ⟨w₁, w₂, hbefore, hcommit, hafter⟩ := hw
    have hkept : Joined t w₂ .kept := (committing_commit hreads hrelease h hbefore hcommit).1 rfl
    exact hkept.steps hafter
  | uncertain hstate hon =>
    rw [hstate] at h
    obtain ⟨w₁, w₂, hbefore, hcommit, hafter⟩ := hw
    have huncertain : Joined t w₂ .durabilityUncertain :=
      ((committing_commit hreads hrelease h hbefore hcommit).2 (by simp)).1
    exact huncertain.steps hafter
  | unsaved refused r hstate hon hrefused =>
    rw [hstate] at h
    obtain ⟨w₁, w₂, hbefore, hcommit, hafter⟩ := hw
    exact Joined.restored ((committing_commit hreads hrelease h hbefore hcommit).2 hrefused.1).1 hafter
  | savedBefore hstate =>
    rw [hstate] at h
    obtain ⟨w₁, w₂, hbefore, hpoll, hafter⟩ := hw
    have hkept : Joined t w₂ .kept := (rollingBack_poll h hbefore hpoll).1 rfl
    exact hkept.steps hafter
  | rollbackFailed r error hstate hr =>
    rw [hstate] at h
    obtain ⟨w₁, w₂, hbefore, hpoll, hafter⟩ := hw
    have hfailed : Joined t w₂ .rollbackFailed := ((rollingBack_poll h hbefore hpoll).2.1 hr).1
    exact hfailed.steps hafter
  | rollingBack hstate =>
    rw [hstate] at h ⊢
    obtain ⟨w₁, w₂, hbefore, hpoll, hafter⟩ := hw
    exact Joined.steps ((rollingBack_poll h hbefore hpoll).2.1 (by simp)) hafter
  | undiscarded polled r hstate hpolled hr =>
    rw [hstate] at h
    exact (rollingBack_discard h hpolled hw).1
  | discarded polled hstate hpolled =>
    rw [hstate] at h
    have hdiscarded := rollingBack_discard h hpolled hw
    cases m.clientAlive with
    | true | false => exact hdiscarded
  | reboundFailed hstate =>
    rw [hstate] at h
    exact (show Joined t w .rollbackFailed from h.1).steps hw
  | rebinding hstate => exact h.steps hw
  | rebound hstate =>
    rw [hstate] at h
    exact (show Joined t w .reverted from h).steps hw

/-! ## Trials -/

theorem supervisorPoll_state (s : Supervisor) (polled : Bool) (result : PollResult) :
    (supervisorPoll s polled result).manager.state = s.manager.state := by
  cases result with
  | quiet => rfl
  | hangup =>
    cases polled with
    | true => exact (supervisorLost_state s).1
    | false => rfl
  | failed => exact (supervisorLost_state s).1

theorem supervisorReceive_state (s : Supervisor) (received : RecvResult) :
    (supervisorReceive s received).manager.state = s.manager.state := by
  unfold supervisorReceive
  split
  · cases received with
    | again => rfl
    | eof | failed => exact (supervisorLost_state s).1
    | command byte =>
      simp only [supervisorCommand, managerConfirm, managerRevert]
      split_ifs <;> rfl
  · rfl

theorem supervisorHear_state (s : Supervisor) (turn : Turn) :
    (supervisorHear s turn).manager.state = s.manager.state := by
  have hsignal : ∀ s : Supervisor, (supervisorSignal s turn.stopping).manager.state = s.manager.state := by
    intro s
    unfold supervisorSignal
    split <;> rfl
  unfold supervisorHear
  rw [hsignal, supervisorReceive_state, supervisorPoll_state]

theorem supervisorAnnounce_state (s : Supervisor) (result : SendResult) :
    (supervisorAnnounce s result).manager.state = s.manager.state := by
  unfold supervisorAnnounce
  split
  · cases result with
    | sent | again => rfl
    | failed => exact (supervisorLost_state s).1
  · rfl

theorem joined_start {validate : Settings → Int} {m : NetworkManager} {candidate : Settings} {now : CoreTick}
    {s : Supervisor} {calls : List (ManagerAnswer Settings)} (hidle : m.state = .idle)
    (hguard : d.view .commitGuard = none) (hboot : bootOf d = (.ok, t.old)) (hnew : t.new = render candidate)
    (h : (supervisorStart validate m candidate now).Answers calls s)
    (hw : TurnRun render t.faults ⟨d, .none⟩ calls w) :
    Joined t w s.manager.state := by
  obtain ⟨first, ⟨result, m'⟩, rest, rfl, happly, hrest⟩ := Prog.answers_bind.1 h
  obtain ⟨rfl, rfl⟩ := Prog.answers_pure.1 hrest
  rw [List.append_nil] at hw
  unfold managerApply at happly
  split at happly
  · obtain ⟨rfl, heq⟩ := Prog.answers_pure.1 happly
    obtain ⟨rfl, rfl⟩ := Prod.mk.inj heq
    exact hidle ▸ (trivial : Joined t w .idle)
  · simp only [callOp, Prog.lift_bind, Prog.answers_call] at happly
    obtain ⟨r, rest, rfl, happly⟩ := happly
    obtain ⟨w₁, w₂, hbefore, hstage, hw⟩ := hw
    split at happly
    · obtain ⟨rfl, heq⟩ := Prog.answers_pure.1 happly
      obtain ⟨rfl, rfl⟩ := Prod.mk.inj heq
      trivial
    · rename_i hr
      have hstaged : Sound t w₂ ∧ w₂.child = .none := by
        obtain rfl := (child_steps (t := t) hbefore).2.1 rfl
        cases hstage with
        | refuses _ _ hrefused => exact absurd (not_not.mp hr) hrefused
        | stages _ habort hwrite hvalue =>
          obtain rfl := abort_keeps hguard habort
          split at hvalue
          · rename_i hok
            exact ⟨.of_none (committing_of_staged hguard hboot (hnew ▸ hok ▸ hwrite)), rfl⟩
          · exact absurd hvalue (by omega)
      simp only [Prog.answers_call] at happly
      obtain ⟨r', rest', rfl, happly⟩ := happly
      obtain ⟨w₃, w₄, hbetween, happlied, hw⟩ := hw
      obtain rfl := (child_steps (t := t) hbetween).2.1 hstaged.2
      cases happlied
      split at happly
      · obtain ⟨first, m'', rest, rfl, hrollback, hrest⟩ := Prog.answers_bind.1 happly
        obtain ⟨r'', rfl, rfl⟩ := rollback_answers.1 hrollback
        obtain ⟨rfl, heq⟩ := Prog.answers_pure.1 hrest
        obtain ⟨rfl, rfl⟩ := Prod.mk.inj heq
        exact Joined.restored hstaged.1 hw
      · obtain ⟨rfl, heq⟩ := Prog.answers_pure.1 happly
        obtain ⟨rfl, rfl⟩ := Prod.mk.inj heq
        exact (show Joined t w₃ .applying from hstaged).steps hw

include hreads hrelease in
theorem joined_of_run {validate : Settings → Int} {candidate : Settings} {s : Supervisor}
    (hguard : d.view .commitGuard = none) (hboot : bootOf d = (.ok, t.old))
    (hrun : TrialRun render t.faults validate candidate d s w) (hnew : t.new = render candidate) :
    Joined t w s.manager.state := by
  induction hrun with
  | start m now hidle h hw => exact joined_start hidle hguard hboot hnew h hw
  | @turn s s' w w' turn calls _ _ h hw ih =>
    obtain ⟨first, m, rest, rfl, hstep, hrest⟩ := Prog.answers_bind.1 h
    have hrest' : rest = [] ∧ s'.manager.state = m.state := by
      dsimp only at hrest
      split at hrest
      · obtain ⟨rfl, rfl⟩ := Prog.answers_pure.1 hrest
        exact ⟨rfl, supervisorAnnounce_state _ _⟩
      · obtain ⟨rfl, rfl⟩ := Prog.answers_pure.1 hrest
        exact ⟨rfl, (supervisorPoll_state _ _ _).trans (supervisorAnnounce_state _ _)⟩
    obtain ⟨rfl, hstate⟩ := hrest'
    rw [List.append_nil] at hw
    rw [hstate]
    have hheard : Joined t w (supervisorHear s turn).manager.state := by
      rw [supervisorHear_state]
      exact ih
    exact hheard.stepped hreads hrelease (managerStep_answers hstep) hw

end

/-- The store as it is, or as a crash leaves it. -/
def Survives (P : StoreDirectory → Prop) (d : StoreDirectory) : Prop := ∀ d', d' = d ∨ StoreCrash d d' → P d'

theorem survives_of_committing (h : Committing C N released d) :
    Survives (fun d => bootOf d = (.ok, C) ∨ released ∧ bootOf d = (.ok, N)) d := by
  rintro d' (rfl | hcrash)
  · exact h.bootOf.imp_right fun hn => ⟨hn.1, hn.2.2⟩
  · exact (h.narrows (Narrows.of_crash hcrash)).bootOf.imp_right fun hn => ⟨hn.1, hn.2.2⟩

theorem Done.survives (h : Done N d) : Survives (fun d => bootOf d = (.ok, N)) d := by
  rintro d' (rfl | hcrash)
  · exact bootOf_of_confirmed h.guard h.confirmed
  · rw [h.crash hcrash]
    exact bootOf_of_confirmed h.guard h.confirmed

/-- From the staging on, the store is in a commit or past it. -/
theorem Joined.boots {state : NetworkState} (h : Joined t w state)
    (hpast : state.pastStage = true) : t.Commits w.dir ∨ Done t.new w.dir := by
  cases state with
  | unavailable | idle | failed => exact absurd hpast (by simp [NetworkState.pastStage])
  | applying | waitBindings | waitConfirm | rollbackBindings | reverted | committing | rollingBack =>
    exact .inl h.1.committing
  | rollbackFailed | durabilityUncertain => exact .inl (Sound.committing h)
  | kept => exact .inr h.1

/-- **The outcome is what the store holds.** Take a trial on a store that boots to `C` without a
    guard. Whatever the client, the clock, the signals and the operations do, and whenever the child
    that commits is killed: past the staging the store boots to `C` or to the candidate, a trial that
    was kept to the candidate, now and after a crash; and one that was reverted to `C`, unless
    the child has removed the guard. -/
theorem outcome_of_soundReads {validate : Settings → Int} {candidate : Settings} {s : Supervisor}
    (hguard : d.view .commitGuard = none) (hboot : bootOf d = (.ok, C)) :
    (TrialRun render SoundReads validate candidate d s w →
      (s.manager.state.pastStage = true →
        Survives (fun d => bootOf d = (.ok, C) ∨ bootOf d = (.ok, render candidate)) w.dir) ∧
      (s.manager.state = .kept → Survives (fun d => bootOf d = (.ok, render candidate)) w.dir)) ∧
    (TrialRun render KeepsGuard validate candidate d s w → s.manager.state = .reverted →
      Survives (fun d => bootOf d = (.ok, C)) w.dir) := by
  constructor
  -- the worker commits what the supervisor lets it, so both are one joined invariant
  · intro hrun
    have h : Joined ⟨C, render candidate, True, SoundReads⟩ w s.manager.state :=
      joined_of_run harmless_of_soundReads (fun _ _ => trivial) hguard hboot hrun rfl
    refine ⟨fun hpast => ?_, fun hkept => ?_⟩
    · rcases h.boots hpast with hcommitting | hdone
      · exact fun d' hd' => (survives_of_committing hcommitting d' hd').imp_right And.right
      · exact fun d' hd' => .inr (hdone.survives d' hd')
    · rw [hkept] at h
      exact h.1.survives
  · intro hrun hreverted
    have h : Joined ⟨C, render candidate, False, KeepsGuard⟩ w s.manager.state :=
      joined_of_run (t := ⟨C, render candidate, False, KeepsGuard⟩) harmless_of_keepsGuard
        (fun _ hallowed => hallowed rfl) hguard hboot hrun rfl
    rw [hreverted] at h
    exact fun d' hd' => (survives_of_committing h.1.committing d' hd').resolve_right And.left

/-- The child runs to its end. -/
theorem childSteps_eval (h : ∀ call d, storeWorld faults call d (answer call d).1 (answer call d).2)
    (p : StoreProg StoreResult) (d : StoreDirectory) :
    ChildSteps faults ⟨d, .running p⟩ ⟨(p.eval answer d).2, .running (.pure (p.eval answer d).1)⟩ := by
  induction p generalizing d with
  | pure a => exact .refl
  | call call next ih => exact .head (.running rfl (h call d)) (ih _ _)

theorem TrialRun.replay {validate : Settings → Int} {candidate : Settings} {s s' : Supervisor} {calls}
    (hrun : TrialRun render faults validate candidate d s w) (turn : Turn) (results : List Int)
    (hrunning : s.running = true) (h : (supervisorTurn s turn).replay results = some (calls, s'))
    (hw : TurnRun render faults w calls w') : TrialRun render faults validate candidate d s' w' :=
  hrun.turn turn hrunning (Prog.answers_of_replay h) hw

/-- A trial that is kept. -/
theorem outcome_of_soundReads_kept : ∃ s w,
    TrialRun (fun _ : Unit => [3]) SoundReads (fun _ => 0) () secondProfile s w ∧ s.manager.state = .kept ∧
      Survives (fun d => bootOf d = (.ok, [3])) w.dir := by
  have hany : ∀ call d, storeWorld AnyFault call d (answer call d).1 (answer call d).2 :=
    fun call d => ⟨storeStep_answer call d, trivial⟩
  have hguard : secondProfile.view .commitGuard = none := by decide +kernel
  have habort := Prog.runs_eval hany storeAbortCommit secondProfile
  have hwrite := Prog.runs_eval hany (storeWrite .candidate [3]) secondProfile
  have hconfirm := childSteps_eval (fun call d => ⟨storeStep_answer call d, soundReads_answer call d⟩)
    storeConfirm thirdStaged
  rw [show (storeAbortCommit.eval answer secondProfile).1 = .ok by decide +kernel] at habort
  rw [show ((storeWrite .candidate [3]).eval answer secondProfile).1 = .ok by decide +kernel] at hwrite
  rw [show (storeConfirm.eval answer thirdStaged).1 = .ok by decide +kernel] at hconfirm
  rw [abort_keeps hguard habort] at habort
  have hasked : (supervisorStart (fun _ : Unit => 0) managerInit () 0).replay [0, 0] = some (_, _) := rfl
  have hstaged : TrialRun (fun _ => [3]) SoundReads (fun _ => 0) () secondProfile _ _ :=
    .start managerInit 0 rfl (Prog.answers_of_replay hasked)
      ⟨_, _, .refl, .stages rfl habort hwrite rfl, _, _, .refl, .applies 0, .refl⟩
  have happlied := hstaged.replay { now := 1 } [1] rfl rfl ⟨_, _, .refl, .polls rfl (by simp), .refl⟩
  have hbound := happlied.replay { now := 2, received := .command 'B' } [] rfl rfl .refl
  have hconfirmed := hbound.replay { now := 3, received := .command 'K' } [1] rfl rfl
    ⟨_, _, .refl, .polls rfl (by simp), .refl⟩
  have hforked := hconfirmed.replay { now := 4 } [1] rfl rfl ⟨_, _, .refl, .forks rfl (.inl rfl), hconfirm⟩
  have hkept := hforked.replay { now := 5 } [0] rfl rfl ⟨_, _, .refl, .succeeds rfl, .refl⟩
  have hboot : bootOf secondProfile = (.ok, [1]) := by decide +kernel
  exact ⟨_, _, hkept, rfl, ((outcome_of_soundReads hguard hboot).1 hkept).2 rfl⟩

end FourVrs.Network
