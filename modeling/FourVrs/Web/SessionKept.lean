import FourVrs.Web.Sessions

/-!
# The session of the credentials

What is done with the credentials keeps the session or ends it; only a poll that answers 200
opens one.
-/

set_option autoImplicit false

namespace FourVrs.Web

open FourVrs.Core Lib
open Prog (Always)

/-- The session is kept, or ended. -/
def SessionKept (s s' : WebSecurity) : Prop := s'.token ≠ [] → s'.token = s.token

variable {s s₀ : WebSecurity}

theorem SessionKept.refl (s : WebSecurity) : SessionKept s s := fun _ => rfl

theorem SessionKept.ended {s' : WebSecurity} (h : s'.token = []) : SessionKept s s' := fun htoken => absurd h htoken

theorem SessionKept.trans {s' : WebSecurity} (h : SessionKept s₀ s) (h' : SessionKept s s') : SessionKept s₀ s' := by
  intro htoken
  have heq := h' htoken
  rw [heq]
  exact h (heq ▸ htoken)

theorem Frame.kept {s' : WebSecurity} (h : Frame s s') : SessionKept s s' := fun htoken => (h.session htoken).1

theorem sessionKept_abandonCommit (s : WebSecurity) : SessionKept s (abandonCommit s) := by
  unfold abandonCommit
  split
  · exact .ended rfl
  · exact .refl s

theorem sessionKept_stopWorker (h : SessionKept s₀ s) : Always (SessionKept s₀) (stopWorker s) := by
  unfold stopWorker
  split
  · exact fun _ => h.trans (sessionKept_abandonCommit s)
  · exact h.trans (sessionKept_abandonCommit s)

theorem sessionKept_cancelPending (h : SessionKept s₀ s) : Always (SessionKept s₀) (webSecurityCancelPending s) :=
  Always.bind ((sessionKept_stopWorker h).mono fun _ h => h)

/-- A cancellation ends it. -/
theorem ended_cancel (s : WebSecurity) : Always (fun s' => s'.token = []) (webSecurityCancel s) :=
  Always.bind ((sessionKept_cancelPending (.refl s)).mono fun _ _ => rfl)

theorem sessionKept_cancel (s : WebSecurity) : Always (SessionKept s) (webSecurityCancel s) :=
  (ended_cancel s).mono fun _ h => .ended h

theorem sessionKept_expireCode (h : SessionKept s₀ s) (now : CoreTick) : Always (SessionKept s₀)
    (expireCode s now) := by
  unfold expireCode
  split
  · exact Always.bind ((sessionKept_stopWorker h).mono fun _ h => h)
  · exact h

theorem sessionKept_tick (h : SessionKept s₀ s) (now : CoreTick) : Always (SessionKept s₀) (webSecurityTick s now) :=
  Always.bind ((sessionKept_expireCode h now).mono fun s h => h.trans (frame_expireSession s now).kept)

theorem sessionKept_launch (h : SessionKept s₀ s) (password : Text) (next : Option Text) (purpose : Purpose)
    (now : CoreTick) : Always (fun a => SessionKept s₀ a.2) (launch s password next purpose now) := by
  intro spawned
  cases spawned with
  | refused => exact h
  | started done =>
    cases done with
    | true => exact h
    | false =>
      show Always _ (stopWorker _ >>= fun s => Pure.pure (503, s))
      refine Always.bind ((sessionKept_stopWorker ?_).mono fun _ h => h)
      exact h

theorem sessionKept_fillPendingSalt {next : WebSecurity → SecurityProg Answered} (h : SessionKept s₀ s)
    (hnext : ∀ s, SessionKept s₀ s → Always (fun a => SessionKept s₀ a.2) (next s)) :
    Always (fun a => SessionKept s₀ a.2) (fillPendingSalt s next) := by
  intro filled
  show Always _ (if filled.1 then _ else _)
  split
  · exact hnext _ h
  · exact h

theorem sessionKept_change (s : WebSecurity) (current password again : Text) (now : CoreTick) :
    Always (fun a => SessionKept s a.2) (webSecurityChange s current password again now) := by
  refine Always.bind ((sessionKept_tick (.refl s) now).mono fun s' h => ?_)
  have hframe := h.trans (frame_changeAdmitted s' current password again now).kept
  split
  · next heq =>
    rw [heq] at hframe
    exact sessionKept_fillPendingSalt hframe fun s h => sessionKept_launch h _ _ _ _
  · exact hframe

theorem sessionKept_begin (s : WebSecurity) (enroll : Bool) (code password : Text) (now : CoreTick) :
    Always (fun a => SessionKept s a.2) (webSecurityBegin s enroll code password now) := by
  refine Always.bind ((sessionKept_tick (.refl s) now).mono fun s' h => ?_)
  have hframe := h.trans (frame_beginAdmitted s' enroll code password now).kept
  split
  · next heq =>
    rw [heq] at hframe
    split
    · exact sessionKept_fillPendingSalt hframe fun s h => sessionKept_launch h _ _ _ _
    · exact sessionKept_launch hframe _ _ _ _
  · exact hframe

theorem sessionKept_local (s : WebSecurity) (action : Nat) (now : CoreTick) :
    Always (fun a => SessionKept s a.2) (webSecurityLocal s action now) := by
  unfold webSecurityLocal
  split
  · exact Always.bind ((sessionKept_cancelPending (.refl s)).mono fun _ h => h)
  split
  · exact .refl s
  split
  · exact .refl s
  · refine Always.bind ((sessionKept_cancelPending (.refl s)).mono fun s' h => ?_)
    intro filled
    show Always _ (if filled.1 then _ else _)
    split
    · exact h
    · exact h

/-- A request is let through with the session there is. -/
theorem sessionKept_authorized (s : WebSecurity) (token csrf : Text) (write : Bool) (now : CoreTick) :
    Always (fun a => SessionKept s a.2 ∧ (a.1 = true → a.2.token ≠ [] ∧ a.2.token = token))
      (webSecurityAuthorized s token csrf write now) := by
  refine Always.bind ((sessionKept_tick (.refl s) now).mono fun s' h => ?_)
  show Always _ (Pure.pure _)
  split
  · next hshown =>
    simp only [sessionShown, Bool.and_eq_true, decide_eq_true_eq] at hshown
    exact ⟨h, fun _ => ⟨hshown.1.1.2, hshown.1.2.symm⟩⟩
  · exact ⟨h, fun htrue => absurd htrue Bool.false_ne_true⟩

theorem sessionKept_openSession (s : WebSecurity) (now : CoreTick) :
    Always (fun a => a.1 = 200 ∨ SessionKept s₀ a.2) (openSession s now) := by
  intro filled
  show Always _ (if filled.1 then _ else _)
  split
  · intro filled'
    show Always _ (if filled'.1 then _ else _)
    split
    · exact .inl rfl
    · exact .inr (.ended rfl)
  · exact .inr (.ended rfl)

theorem sessionKept_launchCommit (h : SessionKept s₀ s) (hash : List UInt8) :
    Always (fun a => SessionKept s₀ a.2) (launchCommit s hash) := by
  unfold launchCommit
  split
  · exact h
  · intro spawned
    cases spawned with
    | refused => exact h
    | started done =>
      cases done with
      | true => exact h
      | false =>
        show Always _ (stopWorker _ >>= fun s => Pure.pure (503, s))
        refine Always.bind ((sessionKept_stopWorker ?_).mono fun _ h => h)
        exact h

theorem sessionKept_enrolled (h : SessionKept s₀ s) (hash : List UInt8) (now : CoreTick) :
    Always (fun a => a.1 = 200 ∨ SessionKept s₀ a.2) (enrolled s hash now) := by
  unfold enrolled
  split
  · exact Always.bind ((sessionKept_stopWorker h).mono fun _ h => .inr h)
  split
  · exact (sessionKept_launchCommit h hash).mono fun _ h => .inr h
  · split
    · exact .inl rfl
    · exact sessionKept_openSession _ now

/-- What does not answer 200 opens no session. -/
theorem sessionKept_poll (s : WebSecurity) (now : CoreTick) :
    Always (fun a => a.1 = 200 ∨ SessionKept s a.2) (webSecurityPoll s now) := by
  unfold webSecurityPoll
  split
  · exact .inr (.refl s)
  split
  · exact Always.bind ((sessionKept_stopWorker (.refl s)).mono fun _ h => .inr h)
  · intro ended
    cases ended with
    | none => exact .inr (.refl s)
    | some ended =>
      show Always _ (workerEnded _ _ _)
      unfold workerEnded
      split
      · intro hash
        show Always _ (if hash.length ≠ 32 then _ else _)
        split
        · refine Always.bind ((sessionKept_stopWorker ?_).mono fun _ h => Or.inr h)
          exact SessionKept.refl s
        split
        · apply sessionKept_enrolled
          exact .refl s
        · split
          · exact .inr (.refl s)
          · exact sessionKept_openSession _ now
      · refine .inr ?_
        have hafter : SessionKept s (afterFailure { s with worker := false } ended) := by
          intro htoken
          exact sessionKept_abandonCommit _ htoken
        show SessionKept s (if _ then _ else _)
        split
        · exact .ended rfl
        · exact hafter

theorem ended_init (path : Text) : Always (fun a => a.2.token = []) (webSecurityInit path) := by
  unfold webSecurityInit
  split
  · exact rfl
  · intro r
    cases r with
    | missing | unreadable | record record => exact rfl

end FourVrs.Web
