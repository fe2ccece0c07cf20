import FourVrs.Web.Guessing
import FourVrs.Web.Sessions

/-!
# Guessing is bounded

`Controlled` ties the one slot for a worker to the workers there are; `CodeAccount` and
`RateAccount` tie the counters of the operations to what has happened. An operation that does
neither compare nor count keeps both accounts (`Kept`).

The bound on a code and the one on the rate are both read off the events of a run; the time
between two looks at the clock is less than half its range, so no window is missed.
-/

set_option autoImplicit false

namespace FourVrs.Web

open FourVrs.Core Lib

variable {s s' s'' : WebSecurity} {w w' : GuessWorld}

/-! ## The worker -/

def Controlled (s : WebSecurity) (w : GuessWorld) : Prop := w.alive = s.worker.toNat

theorem Controlled.le_one (h : Controlled s w) : w.alive ≤ 1 := by
  rw [h]
  exact s.worker.toNat_le

theorem guess_call {α : Type} {post : α → GuessWorld → Prop} {call : SecurityCall}
    {f : call.Result → SecurityProg α} (h : Controlled s w)
    (hnext : ∀ r w', w.Call call r w' → GuessSafe post (f r) w') :
    GuessSafe post (securityCall call >>= f) w :=
  ⟨h.le_one, hnext⟩

/-- The accounts are as they were, but the code may be gone. -/
structure Kept (s s' : WebSecurity) : Prop where
  code : s'.code = s.code ∨ s'.code = []
  codeAt : s'.codeAt = s.codeAt
  attempts : s'.attempts = s.attempts
  loginAttempts : s'.loginAttempts = s.loginAttempts
  rateAt : s'.rateAt = s.rateAt

theorem Kept.refl (s : WebSecurity) : Kept s s := ⟨Or.inl rfl, rfl, rfl, rfl, rfl⟩

theorem Kept.trans (h : Kept s s') (h' : Kept s' s'') : Kept s s'' where
  code := by
    rcases h'.code with hsame | hgone
    · rw [hsame]
      exact h.code
    · exact Or.inr hgone
  codeAt := h'.codeAt.trans h.codeAt
  attempts := h'.attempts.trans h.attempts
  loginAttempts := h'.loginAttempts.trans h.loginAttempts
  rateAt := h'.rateAt.trans h.rateAt

theorem kept_abandonCommit (s : WebSecurity) : Kept s (abandonCommit s) := by
  unfold abandonCommit clearSession
  split
  · exact ⟨Or.inl rfl, rfl, rfl, rfl, rfl⟩
  · exact .refl s

theorem kept_workerStopped (s : WebSecurity) : Kept s (workerStopped s) := by
  have h := kept_abandonCommit s
  exact ⟨h.code, h.codeAt, h.attempts, h.loginAttempts, h.rateAt⟩

theorem kept_withoutCode (s : WebSecurity) (recovery : Bool) : Kept s { s with code := [], recovery } :=
  ⟨Or.inr rfl, rfl, rfl, rfl, rfl⟩

theorem kept_clearSession (s : WebSecurity) : Kept s (clearSession s) := ⟨Or.inl rfl, rfl, rfl, rfl, rfl⟩

theorem kept_expireSession (s : WebSecurity) (now : CoreTick) : Kept s (expireSession s now) := by
  unfold expireSession
  split
  · exact kept_clearSession s
  · exact .refl s

theorem expireSession_worker (s : WebSecurity) (now : CoreTick) : (expireSession s now).worker = s.worker := by
  unfold expireSession clearSession
  split <;> rfl

theorem guess_stopWorker (h : Controlled s w) :
    GuessSafe (fun s' w' => s' = workerStopped s ∧ w' = { w with alive := 0 }) (stopWorker s) w := by
  have hle := h.le_one
  unfold stopWorker
  split
  · refine ⟨hle, ?_⟩
    rintro _ _ ⟨⟩
    have hnone : w.alive - 1 = 0 := by omega
    exact ⟨by simp [hnone], rfl, by rw [hnone]⟩
  · rename_i hworker
    have hworker : s.worker = false := by simpa using hworker
    refine ⟨hle, ?_, ?_⟩
    · have hsame : (abandonCommit s).worker = false := (abandonCommit_worker s).trans hworker
      rw [workerStopped, ← hsame]
    · have halive : w.alive = 0 := by rw [h, hworker]; rfl
      rw [← halive]

/-- What is stopped is under control. -/
theorem controlled_stopped (hs : s.worker = false) : Controlled s { w with alive := 0 } := by
  rw [Controlled, hs]
  rfl

theorem guess_tick (h : Controlled s w) (now : CoreTick) :
    GuessSafe (fun s' w' => s' = ticked s now ∧ Controlled s' w' ∧ w'.derived = w.derived) (webSecurityTick s now) w := by
  unfold webSecurityTick expireCode
  split
  · rename_i hexpired
    refine Prog.Safe.bind (Prog.Safe.bind (Prog.Safe.mono (guess_stopWorker h) ?_))
    rintro _ _ _ ⟨rfl, rfl⟩
    refine ⟨by simp, by simp, by rw [ticked, if_pos hexpired], ?_, rfl⟩
    exact controlled_stopped (expireSession_worker _ now)
  · rename_i hyoung
    refine ⟨h.le_one, by rw [ticked, if_neg hyoung], ?_, rfl⟩
    rw [Controlled, expireSession_worker]
    exact h

theorem kept_ticked (s : WebSecurity) (now : CoreTick) : Kept s (ticked s now) := by
  unfold ticked
  refine Kept.trans ?_ (kept_expireSession _ now)
  split
  · exact (kept_workerStopped s).trans (kept_withoutCode _ false)
  · exact .refl s

/-! ## The launches -/

/-- A launch may start one worker to derive a hash. -/
theorem guess_launch (h : Controlled s w) (hidle : s.worker = false) (password : Text) (next : Option Text)
    (purpose : Purpose) (now : CoreTick) :
    GuessSafe (fun a w' => Kept s a.2 ∧ Controlled a.2 w' ∧ w'.derived ≤ w.derived + 1)
      (launch s password next purpose now) w := by
  have halive : w.alive = 0 := by rw [h, hidle]; rfl
  have hstarted : Kept s { s with worker := true, workerEnroll := purpose, workerAt := now } :=
    ⟨Or.inl rfl, rfl, rfl, rfl, rfl⟩
  refine guess_call h ?_
  intro r w' hcall
  cases hcall with
  | refused => exact ⟨h.le_one, .refl s, h, Nat.le_succ _⟩
  | started _ sent =>
    have hcontrol : ∀ derived, Controlled { s with worker := true, workerEnroll := purpose, workerAt := now }
        { alive := w.alive + 1, derived } := fun _ => by simp [Controlled, halive]
    cases sent with
    | true => exact ⟨(hcontrol _).le_one, hstarted, hcontrol _, Nat.le_refl _⟩
    | false =>
      refine Prog.Safe.bind (Prog.Safe.mono (guess_stopWorker (hcontrol _)) ?_)
      rintro _ _ _ ⟨rfl, rfl⟩
      exact ⟨by simp, hstarted.trans (kept_workerStopped _), controlled_stopped rfl, Nat.le_refl _⟩

theorem guess_launchCommit (h : Controlled s w) (hidle : s.worker = false) (hash : List UInt8) :
    GuessSafe (fun a w' => Kept s a.2 ∧ Controlled a.2 w' ∧ w'.derived = w.derived ∧ a.1 ≠ 200)
      (launchCommit s hash) w := by
  have halive : w.alive = 0 := by rw [h, hidle]; rfl
  have hstarted : Kept s { s with worker := true, commitPending := true } := ⟨Or.inl rfl, rfl, rfl, rfl, rfl⟩
  unfold launchCommit
  split
  · exact ⟨h.le_one, .refl s, h, rfl, by simp⟩
  · refine guess_call h ?_
    intro r w' hcall
    cases hcall with
    | refused => exact ⟨h.le_one, .refl s, h, rfl, by simp⟩
    | started _ sent =>
      have hcontrol : ∀ derived, Controlled { s with worker := true, commitPending := true }
          { alive := w.alive + 1, derived } := fun _ => by simp [Controlled, halive]
      cases sent with
      | true => exact ⟨(hcontrol _).le_one, hstarted, hcontrol _, rfl, by simp⟩
      | false =>
        refine Prog.Safe.bind (Prog.Safe.mono (guess_stopWorker (hcontrol _)) ?_)
        rintro _ _ _ ⟨rfl, rfl⟩
        exact ⟨by simp, hstarted.trans (kept_workerStopped _), controlled_stopped rfl, rfl, by simp⟩

/-- What is left of an attempt that was answered with `answer`, at first. -/
structure Attempted (answer : Answered) (w : GuessWorld) (a : Answered) (w' : GuessWorld) : Prop where
  kept : Kept answer.2 a.2
  controlled : Controlled a.2 w'
  one : w'.derived ≤ w.derived + 1
  none : answer.1 ≠ 0 → w'.derived = w.derived

theorem Attempted.refused {answer : Answered} (h : Controlled answer.2 w) : Attempted answer w answer w :=
  ⟨.refl _, h, Nat.le_succ _, fun _ => rfl⟩

theorem guess_admitted (h : Controlled s w) (hidle : s.worker = false) (password : Text) (next : Option Text)
    (purpose : Purpose) (now : CoreTick) :
    GuessSafe (Attempted (0, s) w) (launch s password next purpose now) w :=
  Prog.Safe.mono (guess_launch h hidle password next purpose now) fun _ _ _ h =>
    ⟨h.1, h.2.1, h.2.2, fun hne => absurd rfl hne⟩

theorem guess_filled (h : Controlled s w) (hidle : s.worker = false) (password : Text) (next : Option Text)
    (purpose : Purpose) (now : CoreTick) :
    GuessSafe (Attempted (0, s) w) (fillPendingSalt s fun s => launch s password next purpose now) w := by
  refine guess_call h ?_
  intro r w' hcall
  cases hcall with
  | random _ filled bytes hlen =>
    have hsalt : Kept s { s with pendingSalt := bytes } := ⟨Or.inl rfl, rfl, rfl, rfl, rfl⟩
    have hcontrol : Controlled { s with pendingSalt := bytes } w := h
    cases filled with
    | false => exact ⟨h.le_one, hsalt, hcontrol, Nat.le_succ _, fun _ => rfl⟩
    | true =>
      refine Prog.Safe.mono (guess_admitted hcontrol hidle password next purpose now) ?_
      intro a w' _ h
      exact ⟨hsalt.trans h.kept, h.controlled, h.one, h.none⟩

theorem guess_begin (h : Controlled s w) (enroll : Bool) (code password : Text) (now : CoreTick) :
    GuessSafe (Attempted (beginAdmitted (ticked s now) enroll code password now) w)
      (webSecurityBegin s enroll code password now) w := by
  refine Prog.Safe.bind (Prog.Safe.mono (guess_tick h now) ?_)
  rintro _ w' _ ⟨rfl, hcontrol, hderived⟩
  have hworker := (frame_beginAdmitted (ticked s now) enroll code password now).worker
  rcases hanswer : beginAdmitted (ticked s now) enroll code password now with ⟨r, s'⟩
  rw [hanswer] at hworker
  have hcontrol : Controlled s' w' := hcontrol.trans (congrArg Bool.toNat hworker).symm
  have hone : ∀ a w'', Attempted (r, s') w' a w'' → Attempted (r, s') w a w'' := fun a w'' h =>
    ⟨h.kept, h.controlled, hderived ▸ h.one, hderived ▸ h.none⟩
  cases r with
  | zero =>
    have hidle := beginAdmitted_idle hanswer
    cases enroll with
    | true => exact Prog.Safe.mono (guess_filled hcontrol hidle password none .enroll now) fun a w _ => hone a w
    | false => exact Prog.Safe.mono (guess_admitted hcontrol hidle password none .login now) fun a w _ => hone a w
  | succ r => exact ⟨hcontrol.le_one, hone _ _ (.refused hcontrol)⟩

theorem guess_change (h : Controlled s w) (current password again : Text) (now : CoreTick) :
    GuessSafe (Attempted (changeAdmitted (ticked s now) current password again now) w)
      (webSecurityChange s current password again now) w := by
  refine Prog.Safe.bind (Prog.Safe.mono (guess_tick h now) ?_)
  rintro _ w' _ ⟨rfl, hcontrol, hderived⟩
  have hworker := (frame_changeAdmitted (ticked s now) current password again now).worker
  rcases hanswer : changeAdmitted (ticked s now) current password again now with ⟨r, s'⟩
  rw [hanswer] at hworker
  have hcontrol : Controlled s' w' := hcontrol.trans (congrArg Bool.toNat hworker).symm
  have hone : ∀ a w'', Attempted (r, s') w' a w'' → Attempted (r, s') w a w'' := fun a w'' h =>
    ⟨h.kept, h.controlled, hderived ▸ h.one, hderived ▸ h.none⟩
  cases r with
  | zero =>
    have hidle := changeAdmitted_idle hanswer
    exact Prog.Safe.mono (guess_filled hcontrol hidle current (some password) .change now) fun a w _ => hone a w
  | succ r => exact ⟨hcontrol.le_one, hone _ _ (.refused hcontrol)⟩

/-! ## `web_security_poll` and `web_security_local` -/

/-- Nothing is counted, and no worker starts to derive a hash. -/
structure Quiet (s : WebSecurity) (w : GuessWorld) (s' : WebSecurity) (w' : GuessWorld) : Prop where
  kept : Kept s s'
  controlled : Controlled s' w'
  derived : w'.derived = w.derived

theorem Quiet.refl (h : Controlled s w) : Quiet s w s w := ⟨.refl s, h, rfl⟩

theorem Quiet.trans {w'' : GuessWorld} (h : Quiet s w s' w') (h' : Quiet s' w' s'' w'') : Quiet s w s'' w'' :=
  ⟨h.kept.trans h'.kept, h'.controlled, h'.derived.trans h.derived⟩

/-- An update beside the accounts. -/
theorem Quiet.update (h : Controlled s w) (hkept : Kept s s') (hworker : s'.worker = s.worker) : Quiet s w s' w :=
  ⟨hkept, h.trans (congrArg Bool.toNat hworker).symm, rfl⟩

theorem quiet_stopWorker (h : Controlled s w) :
    GuessSafe (fun s' w' => s' = workerStopped s ∧ Quiet s w s' w') (stopWorker s) w := by
  refine Prog.Safe.mono (guess_stopWorker h) ?_
  rintro _ _ _ ⟨rfl, rfl⟩
  exact ⟨rfl, kept_workerStopped s, controlled_stopped rfl, rfl⟩

theorem quiet_openSession (h : Controlled s w) (now : CoreTick) :
    GuessSafe (fun a w' => Quiet s w a.2 w') (openSession s now) w := by
  have hclosed : Quiet s w { s with token := [] } w := .update h ⟨Or.inl rfl, rfl, rfl, rfl, rfl⟩ rfl
  refine guess_call h ?_
  intro r w' hcall
  cases hcall with
  | random _ filled bytes hlen =>
    cases filled with
    | false => exact ⟨h.le_one, hclosed⟩
    | true =>
      refine guess_call h ?_
      intro r w' hcall
      cases hcall with
      | random _ filled more hlen =>
        cases filled with
        | false => exact ⟨h.le_one, hclosed⟩
        | true => exact ⟨h.le_one, .update h ⟨Or.inl rfl, rfl, rfl, rfl, rfl⟩ rfl⟩

/-- An enrolment that succeeds has found its code, and in time. -/
def InTime (s : WebSecurity) (now : CoreTick) (a : Answered) : Prop :=
  a.1 = 200 → s.workerEnroll = .enroll → s.code ≠ [] ∧ codeExpired s now = false

theorem quiet_enrolled (h : Controlled s w) (hidle : s.worker = false) (hash : List UInt8) (now : CoreTick) :
    GuessSafe (fun a w' => Quiet s w a.2 w' ∧ InTime s now a) (enrolled s hash now) w := by
  have hadopt : Kept s (adopt s hash) := ⟨Or.inr rfl, rfl, rfl, rfl, rfl⟩
  unfold enrolled
  split
  · refine Prog.Safe.bind (Prog.Safe.mono (quiet_stopWorker h) ?_)
    rintro _ w' _ ⟨rfl, hquiet⟩
    refine ⟨hquiet.controlled.le_one, ?_, fun h200 => absurd h200 (by simp)⟩
    exact hquiet.trans (.update hquiet.controlled (kept_withoutCode _ false) rfl)
  · rename_i hfound
    have hintime : ∀ a, InTime s now a := by
      intro a _ hpurpose
      simp only [hpurpose, true_and, not_or] at hfound
      exact ⟨hfound.1, by simpa using hfound.2⟩
    split
    · refine Prog.Safe.mono (guess_launchCommit h hidle hash) ?_
      intro a w' _ h
      exact ⟨⟨h.1, h.2.1, h.2.2.1⟩, hintime a⟩
    · have hadopted : Quiet s w (adopt s hash) w := .update h hadopt rfl
      split
      · refine ⟨h.le_one, ?_, hintime _⟩
        exact hadopted.trans (.update hadopted.controlled (kept_clearSession _) rfl)
      · refine Prog.Safe.mono (quiet_openSession hadopted.controlled now) ?_
        intro a w' _ h
        exact ⟨hadopted.trans h, hintime a⟩

theorem quiet_afterSuccess (h : Controlled s w) (hidle : s.worker = false) (now : CoreTick) :
    GuessSafe (fun a w' => Quiet s w a.2 w' ∧ InTime s now a) (afterSuccess s now) w := by
  refine guess_call h ?_
  intro hash w' hcall
  cases hcall with
  | reply hash =>
    split
    · refine Prog.Safe.bind (Prog.Safe.mono (quiet_stopWorker h) ?_)
      rintro _ w' _ ⟨rfl, hquiet⟩
      exact ⟨hquiet.controlled.le_one, hquiet, fun h200 => absurd h200 (by simp)⟩
    split
    · exact quiet_enrolled h hidle hash now
    · rename_i hlogin
      have hintime : ∀ a, InTime s now a := by
        intro a _ hpurpose
        exact absurd (hpurpose ▸ hlogin) (by simp)
      split
      · exact ⟨h.le_one, .refl h, hintime _⟩
      · exact Prog.Safe.mono (quiet_openSession h now) fun a w' _ h => ⟨h, hintime a⟩

theorem kept_failedAnswer (s : WebSecurity) (how : WorkerEnd) :
    Kept s (failedAnswer (afterFailure s how) how).2 := by
  have hleft : Kept s (afterFailure s how) := by
    unfold afterFailure
    refine Kept.trans ?_ (kept_abandonCommit _)
    refine ⟨?_, rfl, rfl, rfl, rfl⟩
    cases s.commitPending with
    | true => exact Or.inr rfl
    | false => exact Or.inl rfl
  refine hleft.trans ?_
  unfold failedAnswer
  dsimp only
  split
  · exact kept_clearSession _
  · exact .refl _

theorem failedAnswer_worker (s : WebSecurity) (how : WorkerEnd) :
    (failedAnswer (afterFailure s how) how).2.worker = s.worker := by
  have hleft : (afterFailure s how).worker = s.worker := abandonCommit_worker _
  unfold failedAnswer clearSession
  dsimp only
  split <;> exact hleft

theorem quiet_poll (h : Controlled s w) (now : CoreTick) :
    GuessSafe (fun a w' => Quiet s w a.2 w' ∧ InTime s now a) (webSecurityPoll s now) w := by
  unfold webSecurityPoll
  split
  · exact ⟨h.le_one, .refl h, fun h200 => absurd h200 (by simp)⟩
  · rename_i hworker
    have hworker : s.worker = true := by simpa using hworker
    split
    · refine Prog.Safe.bind (Prog.Safe.mono (quiet_stopWorker h) ?_)
      rintro _ w' _ ⟨rfl, hquiet⟩
      exact ⟨hquiet.controlled.le_one, hquiet, fun h200 => absurd h200 (by simp)⟩
    · refine guess_call h ?_
      intro r w' hcall
      cases hcall with
      | running => exact ⟨h.le_one, .refl h, fun h200 => absurd h200 (by simp)⟩
      | ended how =>
        have hgone : Quiet s w { s with worker := false } { w with alive := w.alive - 1 } := by
          refine ⟨⟨Or.inl rfl, rfl, rfl, rfl, rfl⟩, ?_, rfl⟩
          simp [Controlled, h.trans (congrArg Bool.toNat hworker)]
        have hend : GuessSafe (fun a w' => Quiet { s with worker := false } { w with alive := w.alive - 1 } a.2 w' ∧
            InTime { s with worker := false } now a) (workerEnded { s with worker := false } how now)
            { w with alive := w.alive - 1 } := by
          unfold workerEnded
          split
          · exact quiet_afterSuccess hgone.controlled rfl now
          · refine ⟨hgone.controlled.le_one, ?_, ?_⟩
            · exact .update hgone.controlled (kept_failedAnswer _ how) (failedAnswer_worker _ how)
            · intro h200
              unfold failedAnswer at h200
              dsimp only at h200
              split at h200 <;> simp at h200
        refine Prog.Safe.mono hend ?_
        intro a w' _ h
        exact ⟨hgone.trans h.1, h.2⟩

theorem quiet_cancelPending (h : Controlled s w) :
    GuessSafe (fun s' w' => s'.code = [] ∧ Quiet s w s' w') (webSecurityCancelPending s) w := by
  refine Prog.Safe.bind (Prog.Safe.mono (quiet_stopWorker h) ?_)
  rintro _ w' _ ⟨rfl, hquiet⟩
  exact ⟨hquiet.controlled.le_one, rfl, hquiet.trans (.update hquiet.controlled (kept_withoutCode _ false) rfl)⟩

theorem quiet_cancel (h : Controlled s w) :
    GuessSafe (fun s' w' => Quiet s w s' w') (webSecurityCancel s) w := by
  refine Prog.Safe.bind (Prog.Safe.mono (quiet_cancelPending h) ?_)
  rintro s' w' _ ⟨_, hquiet⟩
  exact ⟨hquiet.controlled.le_one, hquiet.trans (.update hquiet.controlled ⟨Or.inl rfl, rfl, rfl, rfl, rfl⟩ rfl)⟩

/-- A code is issued now, with its own attempts. -/
structure Issued (s : WebSecurity) (now : CoreTick) (s' : WebSecurity) : Prop where
  code : s'.code ≠ []
  codeAt : s'.codeAt = now
  attempts : s'.attempts = 0
  loginAttempts : s'.loginAttempts = s.loginAttempts
  rateAt : s'.rateAt = s.rateAt

theorem guess_local (h : Controlled s w) (action : Nat) (now : CoreTick) :
    GuessSafe (fun a w' => Controlled a.2 w' ∧ w'.derived = w.derived ∧
      (codeIssued s a.2 = false ∧ Kept s a.2 ∨ codeIssued s a.2 = true ∧ Issued s now a.2))
      (webSecurityLocal s action now) w := by
  have hkept : ∀ {s'}, Kept s s' → codeIssued s s' = false := by
    intro s' hkept
    rcases hkept.code with hcode | hcode <;> simp [codeIssued, hcode]
  have hquiet : ∀ {s' w'}, Quiet s w s' w' → Controlled s' w' ∧ w'.derived = w.derived ∧
      (codeIssued s s' = false ∧ Kept s s' ∨ codeIssued s s' = true ∧ Issued s now s') :=
    fun h => ⟨h.controlled, h.derived, Or.inl ⟨hkept h.kept, h.kept⟩⟩
  unfold webSecurityLocal
  split
  · refine Prog.Safe.bind (Prog.Safe.mono (quiet_cancelPending h) ?_)
    intro s' w' hle h
    exact ⟨hle, hquiet h.2⟩
  split
  · exact ⟨h.le_one, hquiet (.refl h)⟩
  split
  · exact ⟨h.le_one, hquiet (.refl h)⟩
  · rename_i hnone
    have hnone : s.code = [] := by simpa using hnone
    refine Prog.Safe.bind (Prog.Safe.mono (quiet_cancelPending h) ?_)
    rintro s' w' _ ⟨_, h⟩
    refine guess_call h.controlled ?_
    intro r w'' hcall
    cases hcall with
    | random _ filled bytes hlen =>
      cases filled with
      | false => exact ⟨h.controlled.le_one, hquiet h⟩
      | true =>
        -- six bytes in hexadecimal
        have hcode : webHex bytes ≠ [] := by
          cases bytes with
          | nil => cases hlen
          | cons b bytes => simp [webHex]
        refine ⟨h.controlled.le_one, h.controlled, h.derived, Or.inr ⟨by simp [codeIssued, hnone, hcode], ?_⟩⟩
        exact ⟨hcode, rfl, rfl, h.kept.loginAttempts, h.kept.rateAt⟩

/-! ## The account of the code -/

@[simp] theorem issuedAt_append (events : Guesses) (event : GuessEvent × Nat) :
    issuedAt (events ++ [event]) = if event.1 = .issued then some event.2 else issuedAt events := by
  simp [issuedAt]

@[simp] theorem comparedSince_append (events : Guesses) (event : GuessEvent × Nat) :
    comparedSince (events ++ [event]) = (match event.1 with
      | .issued => 0
      | .compared _ => comparedSince events + 1
      | .effective | .launched => comparedSince events) := by
  obtain ⟨event, at'⟩ := event
  cases event <;> simp [comparedSince]

@[simp] theorem launchTimes_append (events : Guesses) (event : GuessEvent × Nat) :
    launchTimes (events ++ [event]) =
      launchTimes events ++ (if event.1 = .launched then [event.2] else []) := by
  unfold launchTimes
  rw [List.filterMap_append]
  congr 1
  split <;> simp_all

/-- At most the fifth comparison of a code. -/
def Compares (past : Guesses) (event : GuessEvent × Nat) : Prop :=
  ∀ equal, event.1 = .compared equal → comparedSince past < 5

/-- The code is young enough. -/
def Accepts (past : Guesses) (event : GuessEvent × Nat) : Prop :=
  event.1 = .compared true ∨ event.1 = .effective →
    ∃ at', issuedAt past = some at' ∧ event.2 < at' + webCodeMs.toNat

structure CodeAccount (s : WebSecurity) (looked : Nat) (events : Guesses) : Prop where
  attempts : s.code ≠ [] → comparedSince events = s.attempts
  issued : s.code ≠ [] → ∃ at', issuedAt events = some at' ∧ s.codeAt = tick at' ∧ at' ≤ looked ∧
    looked < at' + webCodeMs.toNat
  compared : Each Compares events
  accepted : Each Accepts events

variable {now looked next start : Nat} {events : Guesses}

theorem CodeAccount.kept (h : CodeAccount s looked events) (hkept : Kept s s') : CodeAccount s' looked events := by
  have hcode : s'.code ≠ [] → s.code ≠ [] := by
    intro hcode
    rcases hkept.code with hsame | hgone
    · exact hsame ▸ hcode
    · exact absurd hgone hcode
  refine ⟨fun hs => ?_, fun hs => ?_, h.compared, h.accepted⟩
  · rw [hkept.attempts]
    exact h.attempts (hcode hs)
  · rw [hkept.codeAt]
    exact h.issued (hcode hs)

/-- A code that does not look expired is young. -/
theorem CodeAccount.young (h : CodeAccount s looked events) (hcode : s.code ≠ [])
    (hyoung : codeExpired s (tick next) = false) (hlooked : looked ≤ next) (hwrap : next < looked + 2 ^ 31) :
    ∃ at', issuedAt events = some at' ∧ s.codeAt = tick at' ∧ at' ≤ next ∧ next < at' + webCodeMs.toNat := by
  obtain ⟨at', hat, hcodeAt, hle, hlt⟩ := h.issued hcode
  have hms : webCodeMs.toNat = 180000 := rfl
  refine ⟨at', hat, hcodeAt, by omega, ?_⟩
  refine lt_of_coreElapsed (by omega) (by omega) ?_
  rw [← hcodeAt]
  simpa [codeExpired] using hyoung

/-- `web_security_tick` leaves no code that is too old. -/
theorem CodeAccount.ticked (h : CodeAccount s looked events) (hlooked : looked ≤ next)
    (hwrap : next < looked + 2 ^ 31) : CodeAccount (ticked s (tick next)) next events := by
  have hkept := h.kept (kept_ticked s (tick next))
  refine ⟨hkept.attempts, ?_, h.compared, h.accepted⟩
  intro hcode
  have hsame : s.code ≠ [] ∧ codeExpired s (tick next) = false := by
    by_contra hno
    refine hcode ?_
    rcases (kept_expireSession _ (tick next)).code with hcode' | hcode'
    · refine hcode'.trans ?_
      split
      · rfl
      · rename_i hexpired
        grind
    · exact hcode'
  rw [(kept_ticked s (tick next)).codeAt]
  exact h.young hsame.1 hsame.2 hlooked hwrap

/-- An event the code has no part in. -/
theorem CodeAccount.launch (h : CodeAccount s looked events) (t : Nat) :
    CodeAccount s looked (events ++ [(.launched, t)]) := by
  refine ⟨?_, ?_, ?_, ?_⟩
  · simpa using h.attempts
  · simpa using h.issued
  · refine each_append_singleton.mpr ⟨h.compared, ?_⟩
    rintro equal ⟨⟩
  · refine each_append_singleton.mpr ⟨h.accepted, ?_⟩
    rintro (⟨⟨⟩⟩ | ⟨⟨⟩⟩)

theorem CodeAccount.issue (h : CodeAccount s looked events) (hissued : Issued s (tick next) s') :
    CodeAccount s' next (events ++ [(.issued, next)]) := by
  have hms : webCodeMs.toNat = 180000 := rfl
  refine ⟨?_, ?_, ?_, ?_⟩
  · intro _
    simp [hissued.attempts]
  · intro _
    exact ⟨next, by simp, hissued.codeAt, Nat.le_refl _, by omega⟩
  · refine each_append_singleton.mpr ⟨h.compared, ?_⟩
    rintro equal ⟨⟩
  · refine each_append_singleton.mpr ⟨h.accepted, ?_⟩
    rintro (⟨⟨⟩⟩ | ⟨⟨⟩⟩)

/-- An enrolment succeeds, by the code. -/
theorem CodeAccount.effect (h : CodeAccount s looked events)
    (hintime : s.code ≠ [] ∧ codeExpired s (tick next) = false) (hlooked : looked ≤ next)
    (hwrap : next < looked + 2 ^ 31) : CodeAccount s looked (events ++ [(.effective, next)]) := by
  refine ⟨?_, ?_, ?_, ?_⟩
  · simpa using h.attempts
  · simpa using h.issued
  · refine each_append_singleton.mpr ⟨h.compared, ?_⟩
    rintro equal ⟨⟩
  · refine each_append_singleton.mpr ⟨h.accepted, ?_⟩
    intro _
    obtain ⟨at', hat, _, _, hlt⟩ := h.young hintime.1 hintime.2 hlooked hwrap
    exact ⟨at', hat, hlt⟩

/-- A submitted code is compared with a code that is young. -/
theorem CodeAccount.compare {password : Text} (h : CodeAccount s next events) (code : Text) (now : CoreTick)
    (hcompares : comparesCode s password = true) :
    CodeAccount (beginAdmitted s true code password now).2 next
      (events ++ [(.compared (decide (code.length = 12 ∧ code = s.code)), next)]) := by
  have hcode : s.code ≠ [] := by grind [comparesCode]
  have hfew : s.attempts < 5 := by grind [comparesCode]
  have hbegin : beginAdmitted s true code password now = enrollAdmitted s code := by
    grind [comparesCode, beginAdmitted]
  have hcounted : (enrollAdmitted s code).2.attempts = s.attempts + 1 := by
    grind [comparesCode, enrollAdmitted]
  have hkept : ((enrollAdmitted s code).2.code = s.code ∨ (enrollAdmitted s code).2.code = []) ∧
      (enrollAdmitted s code).2.codeAt = s.codeAt := by
    grind [enrollAdmitted]
  rw [hbegin]
  refine ⟨?_, ?_, ?_, ?_⟩
  · intro _
    simp [hcounted, h.attempts hcode]
  · intro _
    rw [hkept.2]
    simpa using h.issued hcode
  · refine each_append_singleton.mpr ⟨h.compared, ?_⟩
    intro _ _
    rw [h.attempts hcode]
    exact hfew
  · refine each_append_singleton.mpr ⟨h.accepted, ?_⟩
    intro _
    obtain ⟨at', hat, _, _, hlt⟩ := h.issued hcode
    exact ⟨at', hat, hlt⟩

/-! ## The account of the rate -/

/-- The bucket of the limiter began at `start`. -/
structure RateAccount (s : WebSecurity) (now start : Nat) (events : Guesses) : Prop where
  rateAt : s.rateAt = tick start
  start_le : start ≤ now
  buckets : Buckets 5 60000 start s.loginAttempts (launchTimes events)
  past : ∀ t ∈ launchTimes events, t ≤ now
  young : ∀ t ∈ launchTimes events, start ≤ t → coreElapsed (tick start) (tick t) < 60000

theorem RateAccount.kept (h : RateAccount s now start events) (hkept : Kept s s') : RateAccount s' now start events :=
  ⟨hkept.rateAt.trans h.rateAt, h.start_le, hkept.loginAttempts ▸ h.buckets, h.past, h.young⟩

theorem RateAccount.later (h : RateAccount s now start events) (hle : now ≤ next) :
    RateAccount s next start events :=
  ⟨h.rateAt, Nat.le_trans h.start_le hle, h.buckets, fun t ht => Nat.le_trans (h.past t ht) hle, h.young⟩

/-- An event that is no launch. -/
theorem RateAccount.beside (h : RateAccount s now start events) {event : GuessEvent} (hevent : event ≠ .launched)
    (t : Nat) : RateAccount s now start (events ++ [(event, t)]) := by
  have hsame : launchTimes (events ++ [(event, t)]) = launchTimes events := by simp [hevent]
  exact ⟨h.rateAt, h.start_le, hsame ▸ h.buckets, hsame ▸ h.past, hsame ▸ h.young⟩

/-- The bucket is turned when it is old. -/
theorem RateAccount.fresh (h : RateAccount s next start events) :
    ∃ start', RateAccount (freshRate s (tick next)) next start' events ∧
      coreElapsed (tick start') (tick next) < 60000 := by
  unfold freshRate
  split
  · rename_i hold
    have hold : 60000 ≤ coreElapsed (tick start) (tick next) := h.rateAt ▸ hold
    have hwidth := le_of_coreElapsed h.start_le hold
    have hpast : ∀ t ∈ launchTimes events, t < next := by
      intro t ht
      refine Nat.lt_of_le_of_ne (h.past t ht) ?_
      -- at this very tick the bucket was already too old
      rintro rfl
      exact absurd (h.young t ht h.start_le) (BitVec.not_lt.mpr hold)
    refine ⟨next, ⟨rfl, Nat.le_refl _, h.buckets.turn hwidth hpast, h.past, ?_⟩, ?_⟩
    · intro t ht hle
      exact absurd (hpast t ht) (Nat.not_lt.mpr hle)
    · simp [coreElapsed]
  · rename_i hyoung
    exact ⟨start, h, h.rateAt ▸ BitVec.not_le.mp hyoung⟩

/-- An attempt is counted whether or not a worker can be started for it. -/
theorem RateAccount.attempt {answer : Answered} (h : RateAccount s next start events)
    (hanswer : takeLoginAttempt s (tick next) = answer) :
    ∃ start', RateAccount answer.2 next start' events ∧
      (answer.1 = 0 → RateAccount answer.2 next start' (events ++ [(.launched, next)])) := by
  subst hanswer
  obtain ⟨start', h, hyoung⟩ := h.fresh
  refine ⟨start', ?_⟩
  unfold takeLoginAttempt countLoginAttempt
  split
  · exact ⟨h, fun h0 => by cases h0⟩
  · rename_i hroom
    have hroom : (freshRate s (tick next)).loginAttempts < 5 := by omega
    have htimes : launchTimes (events ++ [(.launched, next)]) = launchTimes events ++ [next] := by simp
    refine ⟨⟨h.rateAt, h.start_le, h.buckets.count hroom, h.past, h.young⟩, fun _ => ?_⟩
    refine ⟨h.rateAt, h.start_le, ?_, ?_, ?_⟩
    · rw [htimes]
      exact h.buckets.take hroom h.start_le
    · rw [htimes]
      intro t ht
      rcases List.mem_append.mp ht with ht | ht
      · exact h.past t ht
      · exact Nat.le_of_eq (List.mem_singleton.mp ht)
    · rw [htimes]
      intro t ht hle
      rcases List.mem_append.mp ht with ht | ht
      · exact h.young t ht hle
      · rw [List.mem_singleton.mp ht]
        exact hyoung

/-! ## The runs -/

structure GuessHolds (now looked : Nat) (s : WebSecurity) (w : GuessWorld) (events : Guesses) : Prop where
  controlled : Controlled s w
  looked_le : looked ≤ now
  code : CodeAccount s looked events
  rate : ∃ start, RateAccount s now start events

theorem GuessHolds.quiet (h : GuessHolds now looked s w events) (hnow : now ≤ next) (hquiet : Quiet s w s' w') :
    GuessHolds next looked s' w' events := by
  obtain ⟨start, hrate⟩ := h.rate
  exact ⟨hquiet.controlled, Nat.le_trans h.looked_le hnow, h.code.kept hquiet.kept,
    start, (hrate.later hnow).kept hquiet.kept⟩

theorem codeIssued_kept (hkept : Kept s s') : codeIssued s s' = false := by
  rcases hkept.code with hcode | hcode <;> simp [codeIssued, hcode]

/-- What an attempt leaves behind that one worker may have been started for. -/
theorem GuessHolds.attempted {answer a : Answered} (hrate : ∃ start, RateAccount answer.2 next start events ∧
      (answer.1 = 0 → RateAccount answer.2 next start (events ++ [(.launched, next)])))
    (hcode : CodeAccount answer.2 next events) (h : Attempted answer w a w') :
    GuessHolds next next a.2 w' (events ++ (List.replicate (w'.derived - w.derived) GuessEvent.launched).map (·, next)) := by
  obtain ⟨start, hkept, hlaunched⟩ := hrate
  have hone : w'.derived - w.derived = 0 ∨ (w'.derived - w.derived = 1 ∧ answer.1 = 0) := by
    have hle := h.one
    by_cases hanswer : answer.1 = 0
    · omega
    · have hnone := h.none hanswer
      omega
  rcases hone with hnone | ⟨hone, hanswer⟩
  · rw [hnone]
    simp only [List.replicate_zero, List.map_nil, List.append_nil]
    exact ⟨h.controlled, Nat.le_refl _, hcode.kept h.kept, start, hkept.kept h.kept⟩
  · rw [hone]
    exact ⟨h.controlled, Nat.le_refl _, (hcode.launch next).kept h.kept, start, (hlaunched hanswer).kept h.kept⟩

theorem rate_unchanged {answer : Answered} (hrate : RateAccount s next start events) (hsame : answer.2 = s)
    (hrefused : answer.1 ≠ 0) : ∃ start, RateAccount answer.2 next start events ∧
      (answer.1 = 0 → RateAccount answer.2 next start (events ++ [(.launched, next)])) :=
  ⟨start, hsame ▸ hrate, fun h => absurd h hrefused⟩

theorem RateAccount.change (hrate : RateAccount s next start events) (current password again : Text) :
    ∃ start, RateAccount (changeAdmitted s current password again (tick next)).2 next start events ∧
      ((changeAdmitted s current password again (tick next)).1 = 0 →
        RateAccount (changeAdmitted s current password again (tick next)).2 next start
          (events ++ [(.launched, next)])) := by
  unfold changeAdmitted
  split
  · exact rate_unchanged hrate rfl (by simp)
  split
  · exact rate_unchanged hrate rfl (by simp)
  · split
    · exact rate_unchanged hrate rfl (by simp)
    · exact hrate.attempt rfl

theorem RateAccount.login (hrate : RateAccount s next start events) (code password : Text) :
    ∃ start, RateAccount (beginAdmitted s false code password (tick next)).2 next start events ∧
      ((beginAdmitted s false code password (tick next)).1 = 0 →
        RateAccount (beginAdmitted s false code password (tick next)).2 next start
          (events ++ [(.launched, next)])) := by
  unfold beginAdmitted loginAdmitted
  split
  · exact rate_unchanged hrate rfl (by simp)
  split
  · exact rate_unchanged hrate rfl (by simp)
  · rw [if_neg (by simp)]
    split
    · exact rate_unchanged hrate rfl (by simp)
    · exact hrate.attempt rfl

/-- Neither a login nor a change touches the code. -/
theorem code_takeLoginAttempt (s : WebSecurity) (now : CoreTick) :
    (takeLoginAttempt s now).2.code = s.code ∧ (takeLoginAttempt s now).2.codeAt = s.codeAt ∧
      (takeLoginAttempt s now).2.attempts = s.attempts := by
  unfold takeLoginAttempt countLoginAttempt freshRate
  split <;> split <;> exact ⟨rfl, rfl, rfl⟩

theorem CodeAccount.same (h : CodeAccount s looked events)
    (hsame : s'.code = s.code ∧ s'.codeAt = s.codeAt ∧ s'.attempts = s.attempts) : CodeAccount s' looked events := by
  refine ⟨?_, ?_, h.compared, h.accepted⟩
  · rw [hsame.1, hsame.2.2]
    exact h.attempts
  · rw [hsame.1, hsame.2.1]
    exact h.issued

theorem CodeAccount.change (h : CodeAccount s looked events) (current password again : Text) (now : CoreTick) :
    CodeAccount (changeAdmitted s current password again now).2 looked events := by
  unfold changeAdmitted
  split
  · exact h
  split
  · exact h
  · split
    · exact h
    · exact h.same (code_takeLoginAttempt s now)

theorem CodeAccount.login (h : CodeAccount s looked events) (code password : Text) (now : CoreTick) :
    CodeAccount (beginAdmitted s false code password now).2 looked events := by
  unfold beginAdmitted loginAdmitted
  split
  · exact h
  split
  · exact h
  · rw [if_neg (by simp)]
    split
    · exact h
    · exact h.same (code_takeLoginAttempt s now)

/-- An enrolment leaves the rate alone. -/
theorem rate_enroll (s : WebSecurity) (code password : Text) (now : CoreTick) :
    (beginAdmitted s true code password now).2.rateAt = s.rateAt ∧
      (beginAdmitted s true code password now).2.loginAttempts = s.loginAttempts := by
  unfold beginAdmitted enrollAdmitted
  split
  · exact ⟨rfl, rfl⟩
  split
  · exact ⟨rfl, rfl⟩
  · simp only [if_true]
    split
    · exact ⟨rfl, rfl⟩
    · split <;> exact ⟨rfl, rfl⟩

/-- Without a comparison an enrolment is refused, and nothing is counted. -/
theorem beginAdmitted_not_compares {password : Text} (h : comparesCode s password = false) (code : Text)
    (now : CoreTick) : (beginAdmitted s true code password now).2 = s := by
  grind [beginAdmitted, enrollAdmitted, comparesCode]

theorem guess_op (h : GuessHolds now looked s w events) (op : SecurityOp) (hnow : now ≤ next)
    (hwrap : next < looked + 2 ^ 31) :
    GuessSafe (fun a w' => GuessHolds next (if op.looks || codeIssued s a.2 then next else looked) a.2 w'
        (events ++ (op.guesses s (tick next) a.1 a.2 (w'.derived - w.derived)).map (·, next)))
      (op.run s (tick next)) w := by
  have hlooked : looked ≤ next := Nat.le_trans h.looked_le hnow
  have hcode := h.code.ticked hlooked hwrap
  obtain ⟨start, hrate⟩ := h.rate
  have hticked := (hrate.later hnow).kept (kept_ticked s (tick next))
  -- an operation that only ticks
  have hlooks : ∀ {s'}, Kept (ticked s (tick next)) s' → ∀ {w'}, Controlled s' w' →
      GuessHolds next next s' w' (events ++ []) := by
    intro s' hkept w' hcontrol
    rw [List.append_nil]
    exact ⟨hcontrol, Nat.le_refl _, hcode.kept hkept, start, hticked.kept hkept⟩
  cases op with
  | begin enroll code password =>
    refine Prog.Safe.bind (Prog.Safe.mono (guess_begin h.controlled enroll code password (tick next)) ?_)
    intro a w' hle hattempted
    refine ⟨hle, ?_⟩
    cases enroll with
    | false =>
      exact .attempted (hticked.login code password) (hcode.login code password (tick next)) hattempted
    | true =>
      have hsame := rate_enroll (ticked s (tick next)) code password (tick next)
      have hrate' : RateAccount (beginAdmitted (ticked s (tick next)) true code password (tick next)).2 next start events :=
        ⟨hsame.1.trans hticked.rateAt, hticked.start_le, hsame.2 ▸ hticked.buckets, hticked.past, hticked.young⟩
      simp only [SecurityOp.guesses, SecurityOp.looks, Bool.true_or, if_true]
      cases hcompares : comparesCode (ticked s (tick next)) password with
      | true =>
        exact ⟨hattempted.controlled, Nat.le_refl _, (hcode.compare code (tick next) hcompares).kept hattempted.kept,
          start, (hrate'.beside (by simp) next).kept hattempted.kept⟩
      | false =>
        have hkept := hattempted.kept
        rw [beginAdmitted_not_compares hcompares] at hkept
        exact hlooks hkept hattempted.controlled
  | change current password again =>
    refine Prog.Safe.bind (Prog.Safe.mono (guess_change h.controlled current password again (tick next)) ?_)
    intro a w' hle hattempted
    exact ⟨hle, .attempted (hticked.change current password again)
      (hcode.change current password again (tick next)) hattempted⟩
  | poll =>
    refine Prog.Safe.bind (Prog.Safe.mono (quiet_poll h.controlled (tick next)) ?_)
    rintro a w' hle ⟨hquiet, hintime⟩
    refine ⟨hle, ?_⟩
    have hquiet' := h.quiet hnow hquiet
    simp only [SecurityOp.guesses, SecurityOp.looks, codeIssued_kept hquiet.kept, Bool.or_self, Bool.false_eq_true,
      if_false]
    split
    · rename_i heffective
      have hfound := hintime (Int.ofNat_inj.mp heffective.1) heffective.2
      exact ⟨hquiet.controlled, hlooked, (h.code.effect hfound hlooked hwrap).kept hquiet.kept, start,
        ((hrate.later hnow).beside (by simp) next).kept hquiet.kept⟩
    · simpa using hquiet'
  | «local» action =>
    refine Prog.Safe.mono (guess_local h.controlled action (tick next)) ?_
    rintro a w' _ ⟨hcontrol, hderived, ⟨hnone, hkept⟩ | ⟨hissued, hnew⟩⟩
    · simp only [SecurityOp.guesses, SecurityOp.looks, hnone, Bool.or_self, Bool.false_eq_true, if_false, List.map_nil,
        List.append_nil]
      exact h.quiet hnow ⟨hkept, hcontrol, hderived⟩
    · simp only [SecurityOp.guesses, SecurityOp.looks, hissued, Bool.or_true, if_true]
      have hrate' : RateAccount a.2 next start events :=
        ⟨hnew.rateAt.trans hrate.rateAt, Nat.le_trans hrate.start_le hnow, hnew.loginAttempts ▸ hrate.buckets,
          (hrate.later hnow).past, hrate.young⟩
      exact ⟨hcontrol, Nat.le_refl _, h.code.issue hnew, start, hrate'.beside (by simp) next⟩
  | tick =>
    refine Prog.Safe.bind (Prog.Safe.mono (guess_tick h.controlled (tick next)) ?_)
    rintro _ w' hle ⟨rfl, hcontrol, _⟩
    exact ⟨hle, hlooks (.refl _) hcontrol⟩
  | cancel =>
    refine Prog.Safe.bind (Prog.Safe.mono (quiet_cancel h.controlled) ?_)
    intro s' w' hle hquiet
    refine ⟨hle, ?_⟩
    simpa [SecurityOp.guesses, SecurityOp.looks, codeIssued_kept hquiet.kept] using h.quiet hnow hquiet
  | cancelPending =>
    refine Prog.Safe.bind (Prog.Safe.mono (quiet_cancelPending h.controlled) ?_)
    rintro s' w' hle ⟨_, hquiet⟩
    refine ⟨hle, ?_⟩
    simpa [SecurityOp.guesses, SecurityOp.looks, codeIssued_kept hquiet.kept] using h.quiet hnow hquiet
  | authorized token csrf write =>
    refine Prog.Safe.bind (Prog.Safe.bind (Prog.Safe.mono (guess_tick h.controlled (tick next)) ?_))
    rintro _ w' hle ⟨rfl, hcontrol, _⟩
    refine ⟨hle, hle, ?_⟩
    have hused : Kept (ticked s (tick next)) { ticked s (tick next) with touched := tick next } :=
      ⟨Or.inl rfl, rfl, rfl, rfl, rfl⟩
    cases hshown : sessionShown (ticked s (tick next)) token csrf write with
    | true => exact hlooks hused hcontrol
    | false => exact hlooks (.refl _) hcontrol

theorem guess_init (path : Text) (now : Nat) :
    GuessSafe (fun a w' => GuessHolds now now a.2 w' []) (webSecurityInit path) {} := by
  have hnew : ∀ s : WebSecurity, s.worker = false → s.code = [] → s.rateAt = 0 → s.loginAttempts = 0 →
      GuessHolds now now s {} [] := by
    intro s hworker hcode hrateAt hattempts
    refine ⟨by simp [Controlled, hworker], Nat.le_refl _, ?_, now - now % 2 ^ 32, ?_⟩
    · exact ⟨fun h => absurd hcode h, fun h => absurd hcode h, each_nil, each_nil⟩
    · -- the last time the tick was 0
      refine ⟨?_, Nat.sub_le _ _, hattempts ▸ .nil _ _ _, by simp [launchTimes], by simp [launchTimes]⟩
      have hzero : (now - now % 2 ^ 32) % 2 ^ 32 = 0 := by omega
      rw [hrateAt, tick]
      refine BitVec.eq_of_toNat_eq ?_
      rw [BitVec.toNat_ofNat, hzero]
      rfl
  unfold webSecurityInit
  split
  · exact ⟨by simp, hnew _ rfl rfl rfl rfl⟩
  · refine ⟨by simp, ?_⟩
    intro (r : Stored) w' hcall
    obtain rfl : w' = {} := by
      cases hcall
      rfl
    cases r with
    | missing | unreadable | record record => exact ⟨by simp, hnew _ rfl rfl rfl rfl⟩

theorem GuessRun.holds (hrun : GuessRun now looked s w events) : GuessHolds now looked s w events := by
  induction hrun with
  | init path now h => exact ((guess_init path now).runs h).2 _ rfl
  | op op next _ hnow hlooked h ih => exact ((guess_op ih op hnow hlooked).runs h).2 _ rfl

/-- Whatever the tick is, there is one worker at most. -/
theorem controlled_op (h : Controlled s w) (op : SecurityOp) (now : CoreTick) :
    GuessSafe (fun a w' => Controlled a.2 w') (op.run s now) w := by
  cases op with
  | begin enroll code password =>
    exact Prog.Safe.bind (Prog.Safe.mono (guess_begin h enroll code password now) fun _ _ hle h => ⟨hle, h.controlled⟩)
  | change current password again =>
    exact Prog.Safe.bind (Prog.Safe.mono (guess_change h current password again now) fun _ _ hle h =>
      ⟨hle, h.controlled⟩)
  | poll => exact Prog.Safe.bind (Prog.Safe.mono (quiet_poll h now) fun _ _ hle h => ⟨hle, h.1.controlled⟩)
  | «local» action => exact Prog.Safe.mono (guess_local h action now) fun _ _ _ h => h.1
  | tick => exact Prog.Safe.bind (Prog.Safe.mono (guess_tick h now) fun _ _ hle h => ⟨hle, h.2.1⟩)
  | cancel => exact Prog.Safe.bind (Prog.Safe.mono (quiet_cancel h) fun _ _ hle h => ⟨hle, h.controlled⟩)
  | cancelPending =>
    exact Prog.Safe.bind (Prog.Safe.mono (quiet_cancelPending h) fun _ _ hle h => ⟨hle, h.2.controlled⟩)
  | authorized token csrf write =>
    refine Prog.Safe.bind (Prog.Safe.bind (Prog.Safe.mono (guess_tick h now) ?_))
    rintro s' w' hle ⟨_, hcontrol, _⟩
    refine ⟨hle, hle, ?_⟩
    cases sessionShown s' token csrf write with
    | true | false => exact hcontrol

/-- Every call succeeds, and every worker has exited with 0 when it is waited for. -/
def GuessWorld.play (call : SecurityCall) (w : GuessWorld) : call.Result × GuessWorld :=
  match call with
  | .readRecord => (.missing, w)
  | .random n => ((true, List.replicate n 5), w)
  | .spawn job => (.started true, { alive := w.alive + 1, derived := w.derived + job.derives })
  | .kill => ((), { w with alive := w.alive - 1 })
  | .waitpid => (some (.exited 0), { w with alive := w.alive - 1 })
  | .readReply => (List.replicate 32 9, w)

theorem guessWorld_play (call : SecurityCall) (w : GuessWorld) :
    guessWorld call w (w.play call).1 (w.play call).2 := by
  cases call with
  | readRecord => exact .read .missing
  | random n => exact .random n true _ (by simp)
  | spawn job => exact .started job true
  | kill => exact .killed
  | waitpid => exact .ended (.exited 0)
  | readReply => exact .reply _

/-- Where a run has come to. -/
structure GuessState where
  now : Nat
  looked : Nat
  security : WebSecurity
  world : GuessWorld
  events : Guesses

def GuessState.Reached (g : GuessState) : Prop := GuessRun g.now g.looked g.security g.world g.events

def GuessState.play (op : SecurityOp) (next : Nat) (g : GuessState) : GuessState :=
  let after := Prog.eval (fun call w => w.play call) (op.run g.security (tick next)) g.world
  { now := next
    looked := if op.looks || codeIssued g.security after.1.2 then next else g.looked
    security := after.1.2
    world := after.2
    events := g.events ++
      (op.guesses g.security (tick next) after.1.1 after.1.2 (after.2.derived - g.world.derived)).map (·, next) }

theorem GuessState.Reached.play {g : GuessState} (h : g.Reached) (op : SecurityOp) (next : Nat) (hnow : g.now ≤ next)
    (hlooked : next < g.looked + 2 ^ 31) : (g.play op next).Reached :=
  .op op next h hnow hlooked (Prog.runs_eval guessWorld_play (op.run g.security (tick next)) g.world)

/-- A wrong code, the right one, and a login. -/
def guessed : GuessState :=
  let first : GuessState := { now := 0, looked := 0, security := { path := [47] }, world := {}, events := [] }
  let issued := first.play (.local 1) 0
  let refused := issued.play (.begin true [97] (List.replicate 12 97)) 1000
  let taken := refused.play (.begin true (webHex (List.replicate 6 5)) (List.replicate 12 97)) 2000
  let enrolled := (taken.play .poll 3000).play .poll 4000
  enrolled.play (.begin false [] (List.replicate 12 97)) 5000

theorem reached_guessed : guessed.Reached := by
  unfold guessed
  refine GuessState.Reached.play ?_ _ _ (by decide +kernel) (by decide +kernel)
  refine GuessState.Reached.play ?_ _ _ (by decide +kernel) (by decide +kernel)
  refine GuessState.Reached.play ?_ _ _ (by decide +kernel) (by decide +kernel)
  refine GuessState.Reached.play ?_ _ _ (by decide +kernel) (by decide +kernel)
  refine GuessState.Reached.play ?_ _ _ (by decide +kernel) (by decide +kernel)
  refine GuessState.Reached.play ?_ _ _ (by decide +kernel) (by decide +kernel)
  exact .init [47] 0 (Prog.runs_eval guessWorld_play (webSecurityInit [47]) {})

example : guessed.events =
    [(.issued, 0), (.compared false, 1000), (.compared true, 2000), (.effective, 4000), (.launched, 5000)] := by
  decide +kernel

end FourVrs.Web
