import FourVrs.Web.SecurityWorld

/-!
# Sessions and the stored record

`Holds` is kept by every operation and by whatever the worker does meanwhile. Within a poll
that has seen the end of a commit it does not: `Loose` is what is left of it, and `Done` says
that the commit has stored its record.
-/

set_option autoImplicit false

namespace FourVrs.Web

open FourVrs.Core Lib

/-! ## The invariant -/

structure Holds (s : WebSecurity) (w : SecurityWorld) : Prop where
  worker : s.worker = w.worker.isSome
  pending : s.commitPending = true → s.workerEnroll ≠ .login ∧ ∃ path record ended,
    w.worker = some { job := .commit path record, ended } ∧ record.salt = s.pendingSalt
  deriving' : s.commitPending = false → ∀ job ended, w.worker = some { job, ended } →
    ∃ request, job = .derive request
  /-- Unless a commit has ended that may have stored its record. -/
  stored : s.saveFailed = false →
    (∀ path record how, w.worker = some { job := .commit path record, ended := some how } → how = .exited 4) →
      w.stored = s.stored
  storedNew : ∀ path record, w.worker = some { job := .commit path record, ended := some (.exited 0) } →
    w.stored = .record record
  effective : ∀ record, s.stored = .record record → w.loaded = .record record ∨ .committed record ∈ w.log
  enrolled : Each FollowsCommit w.log
  session : s.token ≠ [] → Opened w.log s.token s.sessionAt s.touched

variable {s s' : WebSecurity} {w w' : SecurityWorld}

/-- Nothing the invariant is about has changed, but a session may have ended. -/
structure Frame (s s' : WebSecurity) : Prop where
  worker : s'.worker = s.worker
  commitPending : s'.commitPending = s.commitPending
  workerEnroll : s'.workerEnroll = s.workerEnroll
  pendingSalt : s.commitPending = true → s'.pendingSalt = s.pendingSalt
  saveFailed : s'.saveFailed = s.saveFailed
  stored : s'.stored = s.stored
  session : s'.token ≠ [] → s'.token = s.token ∧ s'.sessionAt = s.sessionAt ∧ s'.touched = s.touched

theorem Holds.frame (h : Holds s w) (hf : Frame s s') : Holds s' w where
  worker := hf.worker.trans h.worker
  pending hpending := by
    rw [hf.commitPending] at hpending
    rw [hf.workerEnroll, hf.pendingSalt hpending]
    exact h.pending hpending
  deriving' hpending := h.deriving' (hf.commitPending ▸ hpending)
  stored hsave := by
    rw [hf.stored]
    exact h.stored (hf.saveFailed ▸ hsave)
  storedNew := h.storedNew
  effective := by
    rw [hf.stored]
    exact h.effective
  enrolled := h.enrolled
  session htoken := by
    obtain ⟨heq, hat, htouched⟩ := hf.session htoken
    rw [heq, hat, htouched]
    exact h.session (heq ▸ htoken)

theorem Holds.meanwhile (h : Holds s w) (hw : w.Meanwhile w') : Holds s w' := by
  cases hw with
  | nothing => exact h
  | ended hrunning how after hleaves =>
    rename_i job
    refine ⟨?_, ?_, ?_, ?_, ?_, h.effective, h.enrolled, h.session⟩
    · rw [h.worker, hrunning]
      rfl
    · intro hpending
      obtain ⟨hpurpose, path, record, ended, hworker, hsalt⟩ := h.pending hpending
      rw [hrunning] at hworker
      cases hworker
      exact ⟨hpurpose, path, record, some how, rfl, hsalt⟩
    · rintro hpending job ended ⟨⟩
      exact h.deriving' hpending _ _ hrunning
    · intro hsave hended
      have hbefore : w.stored = s.stored := by
        refine h.stored hsave ?_
        intro path record how' hworker
        rw [hrunning] at hworker
        cases hworker
      cases job with
      | derive request => exact Eq.trans hleaves hbefore
      | commit path record =>
        obtain rfl := hended path record how rfl
        exact Eq.trans hleaves hbefore
    · rintro path record ⟨⟩
      exact hleaves

/-! ## The calls -/

theorem call_random {n : Nat} {r : Bool × List UInt8} (h : w.Call (.random n) r w') : w' = w := by
  cases h
  rfl

theorem call_spawn {job : WorkerJob} {r : Spawned} (h : w.Call (.spawn job) r w') :
    (r = .refused ∧ w' = w) ∨
      ∃ sent, r = .started sent ∧ w' = { w with worker := some { job, ended := none } } := by
  cases h with
  | refused => exact Or.inl ⟨rfl, rfl⟩
  | started _ sent => exact Or.inr ⟨sent, rfl, rfl⟩

theorem call_kill {r : Unit} (h : w.Call .kill r w') (hsome : w.worker.isSome = true) :
    ∃ k after, w.worker = some k ∧ k.job.Leaves .lost w.stored after ∧
      w' = { w with worker := none, stored := after, log := w.log ++ k.job.events .lost } := by
  cases h with
  | killed k hworker after h => exact ⟨k, after, hworker, h, rfl⟩
  | killedNone hidle => simp [hidle] at hsome

abbrev SecuritySafe {α : Type} (post : α → SecurityWorld → Prop) (p : SecurityProg α) (w : SecurityWorld) : Prop :=
  Prog.Safe securityWorld (fun _ => True) post p w

theorem Holds.call {α : Type} {post : α → SecurityWorld → Prop} {call : SecurityCall}
    {f : call.Result → SecurityProg α} (h : Holds s w)
    (hnext : ∀ w, Holds s w → ∀ r w', w.Call call r w' → SecuritySafe post (f r) w') :
    SecuritySafe post (securityCall call >>= f) w := by
  refine ⟨trivial, ?_⟩
  rintro r w' ⟨now, hmeanwhile, hcall⟩
  exact hnext now (h.meanwhile hmeanwhile) r w' hcall

/-- Nobody works, and what is in effect is accounted for: a commit may be over unnoticed. -/
structure Loose (s : WebSecurity) (w : SecurityWorld) : Prop where
  idle : w.worker = none
  stopped : s.worker = false
  effective : ∀ record, s.stored = .record record → w.loaded = .record record ∨ .committed record ∈ w.log
  enrolled : Each FollowsCommit w.log

@[simp] theorem abandonCommit_worker (s : WebSecurity) : (abandonCommit s).worker = s.worker := by
  unfold abandonCommit clearSession
  split <;> rfl

@[simp] theorem abandonCommit_commitPending (s : WebSecurity) : (abandonCommit s).commitPending = false := by
  unfold abandonCommit clearSession
  split
  · rfl
  · rename_i hpending
    simpa using hpending

/-- The session ends, the commit is no longer pending, and nothing more is known of it. -/
theorem Loose.abandon (h : Loose s w) (hpending : s.commitPending = true) : Holds (abandonCommit s) w := by
  have hs : abandonCommit s = { clearSession s with saveFailed := true, commitPending := false } := by
    simp [abandonCommit, hpending]
  rw [hs]
  refine ⟨?_, ?_, ?_, ?_, ?_, h.effective, h.enrolled, ?_⟩
  · simp [clearSession, h.idle, h.stopped]
  · intro hpending
    cases hpending
  · intro _ job ended hworker
    rw [h.idle] at hworker
    cases hworker
  · intro hsave
    cases hsave
  · intro path record hworker
    rw [h.idle] at hworker
    cases hworker
  · intro htoken
    exact absurd rfl htoken

theorem each_unknown {events : List SecurityEvent} (hlog : Each FollowsCommit w.log)
    (hevents : events = [] ∨ ∃ event, events = [event] ∧ FollowsCommit w.log event) :
    Each FollowsCommit (w.log ++ events) := by
  rcases hevents with rfl | ⟨event, rfl, hfollows⟩
  · simpa using hlog
  · exact each_append_singleton.mpr ⟨hlog, hfollows⟩

/-- A worker that is gone, however it ended, has opened no session. -/
theorem WorkerJob.follows (job : WorkerJob) (how : WorkerEnd) (past : List SecurityEvent) :
    job.events how = [] ∨ ∃ event, job.events how = [event] ∧ FollowsCommit past event := by
  unfold WorkerJob.events
  split
  · exact Or.inl rfl
  · refine Or.inr ⟨_, rfl, ?_⟩
    intro token at' h
    cases h
  · exact Or.inl rfl
  · refine Or.inr ⟨_, rfl, ?_⟩
    intro token at' h
    cases h

/-- A record that was committed stays so. -/
theorem effective_append {record : AdminRecord} (h : w.loaded = .record record ∨ .committed record ∈ w.log)
    (more : List SecurityEvent) : w.loaded = .record record ∨ .committed record ∈ w.log ++ more :=
  h.imp_right (List.mem_append_left more)

/-- The worker is gone: what is left of the invariant. -/
theorem Holds.loose (h : Holds s w) (job : WorkerJob) (how : WorkerEnd) (after : Stored)
    (replier : Option WorkerJob) :
    Loose { s with worker := false }
      { w with worker := none, stored := after, replier, log := w.log ++ job.events how } where
  idle := rfl
  stopped := rfl
  effective record hrecord := effective_append (h.effective record hrecord) _
  enrolled := each_unknown h.enrolled (job.follows how w.log)

variable {request : DeriveRequest}

/-- A worker that only derives a hash is gone. -/
theorem Holds.withoutDeriver {ended : Option WorkerEnd} (h : Holds s w)
    (hworker : w.worker = some { job := .derive request, ended }) (replier : Option WorkerJob) :
    s.commitPending = false ∧ Holds { s with worker := false } { w with worker := none, replier } := by
  have hpending : s.commitPending = false := by
    cases hpending : s.commitPending with
    | false => rfl
    | true =>
      obtain ⟨_, path, record, ended', hcommit, _⟩ := h.pending hpending
      rw [hworker] at hcommit
      cases hcommit
  refine ⟨hpending, rfl, ?_, ?_, ?_, ?_, h.effective, h.enrolled, h.session⟩
  · intro hpending'
    exact absurd (hpending.symm.trans hpending') (by simp)
  · intro _ job ended hnone
    cases hnone
  · intro hsave _
    refine h.stored hsave ?_
    intro path record how hcommit
    rw [hworker] at hcommit
    cases hcommit
  · intro path record hnone
    cases hnone

/-- The worker is stopped. -/
def Stopped (s : WebSecurity) (w : SecurityWorld) : Prop :=
  Holds s w ∧ s.worker = false ∧ s.commitPending = false

theorem safe_stopWorker (h : Holds s w) :
    SecuritySafe (fun s' w' => Stopped s' w') (stopWorker s) w := by
  unfold stopWorker
  split
  · rename_i hs
    refine h.call fun w h r w' hcall => ?_
    obtain ⟨⟨job, ended⟩, after, hworker, hleaves, rfl⟩ := call_kill hcall (h.worker ▸ hs)
    have hstop : { abandonCommit s with worker := false } = abandonCommit { s with worker := false } := by
      unfold abandonCommit clearSession
      split <;> rfl
    rw [hstop]
    refine ⟨trivial, ?_, by simp, by simp⟩
    by_cases hpending : s.commitPending = true
    · exact (h.loose job .lost after w.replier).abandon hpending
    · obtain ⟨request, rfl⟩ := h.deriving' (by simpa using hpending) _ _ hworker
      obtain rfl : after = w.stored := hleaves
      have hgone := (h.withoutDeriver hworker w.replier).2
      have hsame : abandonCommit { s with worker := false } = { s with worker := false } := by
        simp [abandonCommit, hpending]
      rw [hsame]
      simpa [WorkerJob.events] using hgone
  · rename_i hworker
    have hpending : s.commitPending = false := by
      cases hpending : s.commitPending with
      | false => rfl
      | true =>
        obtain ⟨_, path, record, ended, hcommit, _⟩ := h.pending hpending
        exact absurd (h.worker.trans (by rw [hcommit]; rfl)) hworker
    have hsame : abandonCommit s = s := by simp [abandonCommit, hpending]
    rw [hsame]
    exact ⟨trivial, h, by simpa using hworker, hpending⟩

/-! ## Launching -/

/-- A worker that derives a hash has been started. -/
theorem Stopped.derives (h : Stopped s w) (purpose : Purpose) (now : CoreTick) :
    Holds { s with worker := true, workerEnroll := purpose, workerAt := now }
      { w with worker := some { job := .derive request, ended := none } } where
  worker := rfl
  pending hpending := absurd (h.2.2.symm.trans hpending) (by simp)
  deriving' := by
    rintro _ job ended ⟨⟩
    exact ⟨request, rfl⟩
  stored hsave _ := by
    refine h.1.stored hsave ?_
    intro path record how hworker
    have hidle := h.1.worker
    rw [hworker, h.2.1] at hidle
    cases hidle
  storedNew := by
    rintro path record ⟨⟩
  effective := h.1.effective
  enrolled := h.1.enrolled
  session := h.1.session

theorem safe_launch (h : Stopped s w) (password : Text) (next : Option Text) (purpose : Purpose)
    (now : CoreTick) :
    SecuritySafe (fun a w' => Holds a.2 w') (launch s password next purpose now) w := by
  refine h.1.call fun w hw r w' hcall => ?_
  have h : Stopped s w := ⟨hw, h.2⟩
  rcases call_spawn hcall with ⟨rfl, rfl⟩ | ⟨sent, rfl, rfl⟩
  · exact ⟨trivial, hw⟩
  · cases sent with
    | true => exact ⟨trivial, h.derives purpose now⟩
    | false =>
      exact Prog.Safe.bind (Prog.Safe.mono (safe_stopWorker (h.derives purpose now)) fun s w _ h => ⟨trivial, h.1⟩)

/-- A commit worker has been started. -/
theorem Stopped.commits {path : Text} {hash : List UInt8} (h : Stopped s w)
    (hpurpose : s.workerEnroll ≠ .login) :
    Holds { s with worker := true, commitPending := true }
      { w with worker := some { job := .commit path { salt := s.pendingSalt, hash }, ended := none } } where
  worker := rfl
  pending _ := ⟨hpurpose, path, _, none, rfl, rfl⟩
  deriving' hpending := by cases hpending
  stored hsave _ := by
    refine h.1.stored hsave ?_
    intro path record how hworker
    have hidle := h.1.worker
    rw [hworker, h.2.1] at hidle
    cases hidle
  storedNew := by
    rintro path record ⟨⟩
  effective := h.1.effective
  enrolled := h.1.enrolled
  session := h.1.session

/-- The answer is not 200. -/
def Unopened (a : Answered) (w : SecurityWorld) : Prop := Holds a.2 w ∧ a.1 ≠ 200

theorem safe_launchCommit (h : Stopped s w) (hpurpose : s.workerEnroll ≠ .login) (hash : List UInt8) :
    SecuritySafe Unopened (launchCommit s hash) w := by
  unfold launchCommit
  split
  · exact ⟨trivial, h.1, by simp⟩
  · refine h.1.call fun w hw r w' hcall => ?_
    have h : Stopped s w := ⟨hw, h.2⟩
    rcases call_spawn hcall with ⟨rfl, rfl⟩ | ⟨sent, rfl, rfl⟩
    · exact ⟨trivial, hw, by simp⟩
    · cases sent with
      | true => exact ⟨trivial, h.commits hpurpose, by simp⟩
      | false =>
        refine Prog.Safe.bind (Prog.Safe.mono (safe_stopWorker (h.commits hpurpose)) fun s w _ h => ?_)
        exact ⟨trivial, h.1, by simp⟩

/-! ## The operations that open no session -/

theorem frame_expireSession (s : WebSecurity) (now : CoreTick) : Frame s (expireSession s now) := by
  unfold expireSession clearSession
  split
  · exact ⟨rfl, rfl, rfl, fun _ => rfl, rfl, rfl, fun htoken => absurd rfl htoken⟩
  · exact ⟨rfl, rfl, rfl, fun _ => rfl, rfl, rfl, fun _ => ⟨rfl, rfl, rfl⟩⟩

/-- The frame of an update of the code and the attempts. -/
theorem Frame.code (s : WebSecurity) (code : Text) (recovery : Bool) (attempts : Nat) (codeAt : CoreTick) :
    Frame s { s with code, recovery, attempts, codeAt } :=
  ⟨rfl, rfl, rfl, fun _ => rfl, rfl, rfl, fun _ => ⟨rfl, rfl, rfl⟩⟩

theorem safe_expireCode (h : Holds s w) (now : CoreTick) :
    SecuritySafe (fun s' w' => Holds s' w') (expireCode s now) w := by
  unfold expireCode
  split
  · refine Prog.Safe.bind (Prog.Safe.mono (safe_stopWorker h) fun s w _ h => ?_)
    exact ⟨trivial, h.1.frame (Frame.code s [] false s.attempts s.codeAt)⟩
  · exact ⟨trivial, h⟩

theorem safe_tick (h : Holds s w) (now : CoreTick) :
    SecuritySafe (fun s' w' => Holds s' w') (webSecurityTick s now) w := by
  refine Prog.Safe.bind (Prog.Safe.mono (safe_expireCode h now) fun s w _ h => ?_)
  exact ⟨trivial, h.frame (frame_expireSession s now)⟩

theorem frame_takeLoginAttempt (s : WebSecurity) (now : CoreTick) : Frame s (takeLoginAttempt s now).2 := by
  unfold takeLoginAttempt countLoginAttempt freshRate
  split <;> split <;> exact ⟨rfl, rfl, rfl, fun _ => rfl, rfl, rfl, fun _ => ⟨rfl, rfl, rfl⟩⟩

theorem Frame.refl (s : WebSecurity) : Frame s s :=
  ⟨rfl, rfl, rfl, fun _ => rfl, rfl, rfl, fun _ => ⟨rfl, rfl, rfl⟩⟩

theorem frame_changeAdmitted (s : WebSecurity) (current password again : Text) (now : CoreTick) :
    Frame s (changeAdmitted s current password again now).2 := by
  unfold changeAdmitted
  split
  · exact .refl s
  split
  · exact .refl s
  · split
    · exact .refl s
    · exact frame_takeLoginAttempt s now

theorem frame_beginAdmitted (s : WebSecurity) (enroll : Bool) (code password : Text) (now : CoreTick) :
    Frame s (beginAdmitted s enroll code password now).2 := by
  unfold beginAdmitted
  split
  · exact .refl s
  split
  · exact .refl s
  split
  · unfold enrollAdmitted
    split
    · exact .refl s
    · split <;> exact ⟨rfl, rfl, rfl, fun _ => rfl, rfl, rfl, fun _ => ⟨rfl, rfl, rfl⟩⟩
  · unfold loginAdmitted
    split
    · exact .refl s
    · exact frame_takeLoginAttempt s now

theorem Holds.stopped (h : Holds s w) (hworker : s.worker = false) : Stopped s w := by
  refine ⟨h, hworker, ?_⟩
  by_contra hpending
  obtain ⟨_, path, record, ended, hcommit, _⟩ := h.pending (by simpa using hpending)
  have hidle := h.worker
  rw [hworker, hcommit] at hidle
  cases hidle

variable {now : CoreTick}

/-- A change is let through only when nobody works. -/
theorem changeAdmitted_idle {current password again : Text}
    (h : changeAdmitted s current password again now = (0, s')) : s'.worker = false := by
  have hframe := (frame_changeAdmitted s current password again now).worker
  rw [h] at hframe
  refine hframe.trans ?_
  by_contra hworker
  rw [Bool.not_eq_false] at hworker
  simp [changeAdmitted, hworker] at h

theorem beginAdmitted_idle {enroll : Bool} {code password : Text}
    (h : beginAdmitted s enroll code password now = (0, s')) : s'.worker = false := by
  have hframe := (frame_beginAdmitted s enroll code password now).worker
  rw [h] at hframe
  refine hframe.trans ?_
  by_contra hworker
  rw [Bool.not_eq_false] at hworker
  simp [beginAdmitted, hworker] at h

/-- The salt for a new hash may change while no commit is pending. -/
theorem safe_fillPendingSalt {next : WebSecurity → SecurityProg Answered} (h : Stopped s w)
    (hnext : ∀ (s' : WebSecurity) w', Stopped s' w' → SecuritySafe (fun a w' => Holds a.2 w') (next s') w') :
    SecuritySafe (fun a w' => Holds a.2 w') (fillPendingSalt s next) w := by
  refine h.1.call fun w hw r w' hcall => ?_
  obtain rfl := call_random hcall
  obtain ⟨filled, bytes⟩ := r
  have hfilled : Stopped { s with pendingSalt := bytes } w' := by
    refine ⟨hw.frame ⟨rfl, rfl, rfl, ?_, rfl, rfl, fun _ => ⟨rfl, rfl, rfl⟩⟩, h.2⟩
    intro hpending
    exact absurd (h.2.2.symm.trans hpending) (by simp)
  cases filled with
  | true => exact hnext _ _ hfilled
  | false => exact ⟨trivial, hfilled.1⟩

theorem safe_change (h : Holds s w) (current password again : Text) (now : CoreTick) :
    SecuritySafe (fun a w' => Holds a.2 w') (webSecurityChange s current password again now) w := by
  refine Prog.Safe.bind (Prog.Safe.mono (safe_tick h now) fun s w _ h => ?_)
  have hadmitted := h.frame (frame_changeAdmitted s current password again now)
  rcases hanswer : changeAdmitted s current password again now with ⟨r, s'⟩
  rw [hanswer] at hadmitted
  cases r with
  | zero =>
    have hstopped := hadmitted.stopped (changeAdmitted_idle hanswer)
    exact safe_fillPendingSalt hstopped fun s' w' h => safe_launch h current (some password) .change now
  | succ r => exact ⟨trivial, hadmitted⟩

theorem safe_begin (h : Holds s w) (enroll : Bool) (code password : Text) (now : CoreTick) :
    SecuritySafe (fun a w' => Holds a.2 w') (webSecurityBegin s enroll code password now) w := by
  refine Prog.Safe.bind (Prog.Safe.mono (safe_tick h now) fun s w _ h => ?_)
  have hadmitted := h.frame (frame_beginAdmitted s enroll code password now)
  rcases hanswer : beginAdmitted s enroll code password now with ⟨r, s'⟩
  rw [hanswer] at hadmitted
  cases r with
  | zero =>
    have hstopped := hadmitted.stopped (beginAdmitted_idle hanswer)
    cases enroll with
    | true => exact safe_fillPendingSalt hstopped fun s' w' h => safe_launch h password none .enroll now
    | false => exact safe_launch hstopped password none .login now
  | succ r => exact ⟨trivial, hadmitted⟩

theorem safe_cancelPending (h : Holds s w) :
    SecuritySafe (fun s' w' => Holds s' w') (webSecurityCancelPending s) w := by
  refine Prog.Safe.bind (Prog.Safe.mono (safe_stopWorker h) fun s w _ h => ?_)
  exact ⟨trivial, h.1.frame (Frame.code s [] false s.attempts s.codeAt)⟩

theorem safe_cancel (h : Holds s w) :
    SecuritySafe (fun s' w' => Holds s' w' ∧ s'.token = []) (webSecurityCancel s) w := by
  refine Prog.Safe.bind (Prog.Safe.mono (safe_cancelPending h) fun s w _ h => ?_)
  refine ⟨trivial, h.frame ⟨rfl, rfl, rfl, fun _ => rfl, rfl, rfl, ?_⟩, rfl⟩
  intro htoken
  exact absurd rfl htoken

theorem safe_local (h : Holds s w) (action : Nat) (now : CoreTick) :
    SecuritySafe (fun a w' => Holds a.2 w') (webSecurityLocal s action now) w := by
  unfold webSecurityLocal
  split
  · exact Prog.Safe.bind (Prog.Safe.mono (safe_cancelPending h) fun s w _ h => ⟨trivial, h⟩)
  split
  · exact ⟨trivial, h⟩
  split
  · exact ⟨trivial, h⟩
  · refine Prog.Safe.bind (Prog.Safe.mono (safe_cancelPending h) fun s w _ h => ?_)
    refine h.call fun w h r w' hcall => ?_
    obtain rfl := call_random hcall
    obtain ⟨filled, bytes⟩ := r
    cases filled with
    | true => exact ⟨trivial, h.frame (Frame.code s (webHex bytes) (action = 2) 0 now)⟩
    | false => exact ⟨trivial, h⟩

/-! ## `web_security_poll` -/

/-- The commit worker has exited with 0. -/
structure Done (record : AdminRecord) (s : WebSecurity) (w : SecurityWorld) : Prop where
  loose : Loose s w
  pending : s.commitPending = true
  purpose : s.workerEnroll ≠ .login
  salt : record.salt = s.pendingSalt
  stored : w.stored = .record record
  replies : ∃ path, w.replier = some (.commit path record)
  committed : w.log.getLast? = some (.committed record)

/-- While nobody works, the world only answers. -/
theorem safe_idleCall {α : Type} {post : α → SecurityWorld → Prop} {call : SecurityCall}
    {f : call.Result → SecurityProg α} (hidle : w.worker = none)
    (hnext : ∀ r w', w.Call call r w' → SecuritySafe post (f r) w') :
    SecuritySafe post (securityCall call >>= f) w := by
  refine ⟨trivial, ?_⟩
  rintro r w' ⟨now, hmeanwhile, hcall⟩
  cases hmeanwhile with
  | nothing => exact hnext r w' hcall
  | ended hrunning =>
    rw [hidle] at hrunning
    cases hrunning

theorem stopWorker_idle (hworker : s.worker = false) : stopWorker s = pure (abandonCommit s) := by
  unfold stopWorker
  rw [hworker]
  exact if_neg Bool.false_ne_true

theorem pollEvents_unopened {r : Nat} (h : r ≠ 200) : pollEvents s now r s' = [] := by
  simp [pollEvents, h]

theorem note_nil (w : SecurityWorld) : w.note [] = w := by
  simp [SecurityWorld.note]

/-- What a poll from `s` answers. -/
def Polled (s : WebSecurity) (now : CoreTick) (a : Answered) (w : SecurityWorld) : Prop :=
  Holds a.2 (w.note (pollEvents s now a.1 a.2))

theorem Unopened.polled {a : Answered} (h : Unopened a w) : Polled s now a w := by
  unfold Polled
  rw [pollEvents_unopened h.2, note_nil]
  exact h.1

/-- A session opens. -/
theorem Holds.opens {token csrf : Text} {enrolment : Bool} (h : Holds s w)
    (henrolment : enrolment = true → ∃ record, w.log.getLast? = some (.committed record)) :
    Holds { s with token, csrf, sessionAt := now, touched := now } (w.note [.session enrolment token now]) where
  worker := h.worker
  pending := h.pending
  deriving' := h.deriving'
  stored := h.stored
  storedNew := h.storedNew
  effective record hrecord := effective_append (h.effective record hrecord) _
  enrolled := by
    refine each_append_singleton.mpr ⟨h.enrolled, ?_⟩
    rintro token' at' ⟨⟩
    exact henrolment rfl
  session _ := by
    refine ⟨w.log, enrolment, [], rfl, ?_, rfl⟩
    intro event hevent
    cases hevent

variable {s₀ : WebSecurity}

/-- `s₀` is the state the poll began in. -/
theorem safe_openSession (h : Holds s w) (hidle : w.worker = none)
    (hopens : s₀.workerEnroll = .login ∨ s₀.administrator = false)
    (henrolment : s₀.workerEnroll ≠ .login → ∃ record, w.log.getLast? = some (.committed record)) :
    SecuritySafe (Polled s₀ now) (openSession s now) w := by
  have hclosed : Polled s₀ now (503, { s with token := [] }) w := by
    refine Unopened.polled ⟨h.frame ⟨rfl, rfl, rfl, fun _ => rfl, rfl, rfl, ?_⟩, by simp⟩
    intro htoken
    exact absurd rfl htoken
  refine safe_idleCall hidle fun r w' hcall => ?_
  obtain rfl := call_random hcall
  obtain ⟨filled, bytes⟩ := r
  cases filled with
  | false => exact ⟨trivial, hclosed⟩
  | true =>
    refine safe_idleCall hidle fun r w hcall => ?_
    obtain rfl := call_random hcall
    obtain ⟨filled, more⟩ := r
    cases filled with
    | false => exact ⟨trivial, hclosed⟩
    | true =>
      refine ⟨trivial, ?_⟩
      have hevents : ∀ s', pollEvents s₀ now 200 s' =
          [.session (decide (s₀.workerEnroll ≠ .login)) s'.token now] := by
        intro s'
        simp [pollEvents, hopens]
      unfold Polled
      rw [hevents]
      exact h.opens fun hpurpose => henrolment (of_decide_eq_true hpurpose)

theorem Loose.congr {s' : WebSecurity} (h : Loose s w) (hworker : s'.worker = s.worker)
    (hstored : s'.stored = s.stored) : Loose s' w :=
  ⟨h.idle, hworker.trans h.stopped, hstored ▸ h.effective, h.enrolled⟩

variable {record : AdminRecord}

/-- A commit that is done may still be given up. -/
theorem Done.abandoned (h : Done record s w) : Holds (abandonCommit s) w :=
  h.loose.abandon h.pending

/-- The stored record takes effect; no session outlives it. -/
theorem Done.adopted (h : Done record s w) :
    Holds { adopt s record.hash with token := [] } w := by
  have hstored : { adopt s record.hash with token := [] }.stored = .record record := by
    simp [WebSecurity.stored, adopt, ← h.salt]
  refine ⟨?_, ?_, ?_, ?_, ?_, ?_, h.loose.enrolled, ?_⟩
  · exact h.loose.stopped.trans (by rw [h.loose.idle]; rfl)
  · intro hpending
    cases hpending
  · intro _ job ended hworker
    rw [h.loose.idle] at hworker
    cases hworker
  · intro _ _
    exact h.stored.trans hstored.symm
  · intro path record' hworker
    rw [h.loose.idle] at hworker
    cases hworker
  · intro record' hrecord
    obtain rfl := Stored.record.inj (hstored.symm.trans hrecord)
    exact Or.inr (List.mem_of_getLast? h.committed)
  · intro htoken
    exact absurd rfl htoken

/-- The answer 200 to a change or a recovery opens no session. -/
theorem polled_replaced (h : Holds s w) (hreplaces : s₀.workerEnroll ≠ .login ∧ s₀.administrator = true) :
    Polled s₀ now (200, s) w := by
  have hevents : pollEvents s₀ now 200 s = [] := by simp [pollEvents, hreplaces]
  unfold Polled
  rw [hevents, note_nil]
  exact h

theorem safe_enrolledDone (h : Done record s w) :
    SecuritySafe (Polled s now) (enrolled s record.hash now) w := by
  unfold enrolled
  split
  · rw [stopWorker_idle h.loose.stopped]
    exact ⟨trivial, Unopened.polled ⟨h.abandoned.frame (Frame.code _ _ _ _ _), by simp⟩⟩
  · rw [if_neg (by simp [h.pending])]
    split
    · rename_i hadministrator
      refine ⟨trivial, polled_replaced (h.adopted.frame ?_) ⟨h.purpose, hadministrator⟩⟩
      exact ⟨rfl, rfl, rfl, fun _ => rfl, rfl, rfl, fun htoken => absurd rfl htoken⟩
    · rename_i hadministrator
      -- the session that opens replaces the token
      have hopens : openSession (adopt s record.hash) now =
          openSession { adopt s record.hash with token := [] } now := rfl
      rw [hopens]
      exact safe_openSession h.adopted h.loose.idle (Or.inr (by simpa using hadministrator))
        fun _ => ⟨record, h.committed⟩

/-- The first phase of an enrolment or a change, or a login, has succeeded. -/
theorem safe_afterDerivation (h : Stopped s w) (hidle : w.worker = none) :
    SecuritySafe (Polled s now) (afterSuccess s now) w := by
  refine safe_idleCall hidle fun hash w' hcall => ?_
  obtain rfl : w' = w := by
    cases hcall
    rfl
  split
  · refine Prog.Safe.bind (Prog.Safe.mono (safe_stopWorker h.1) fun s w _ h => ?_)
    exact ⟨trivial, Unopened.polled ⟨h.1, by simp⟩⟩
  split
  · rename_i hpurpose
    unfold enrolled
    split
    · refine Prog.Safe.bind (Prog.Safe.mono (safe_stopWorker h.1) fun s w _ h => ?_)
      exact ⟨trivial, Unopened.polled ⟨h.1.frame (Frame.code _ _ _ _ _), by simp⟩⟩
    · rw [if_pos (by simp [h.2.2])]
      exact Prog.Safe.mono (safe_launchCommit h hpurpose hash) fun a w _ h => h.polled
  rename_i hpurpose
  split
  · exact ⟨trivial, Unopened.polled ⟨h.1, by simp⟩⟩
  · have hlogin : s.workerEnroll = .login := by simpa using hpurpose
    exact safe_openSession h.1 hidle (Or.inl hlogin) fun hne => absurd hlogin hne

theorem safe_afterCommit (h : Done record s w) :
    SecuritySafe (Polled s now) (afterSuccess s now) w := by
  refine safe_idleCall h.loose.idle fun hash w' hcall => ?_
  obtain ⟨path, hreplier⟩ := h.replies
  have hreply : w' = w ∧ (hash.length = 32 → hash = record.hash) := by
    cases hcall with
    | reply _ hhash => exact ⟨rfl, hhash path record hreplier⟩
  obtain ⟨rfl, hhash⟩ := hreply
  split
  · rw [stopWorker_idle h.loose.stopped]
    exact ⟨trivial, Unopened.polled ⟨h.abandoned, by simp⟩⟩
  · rename_i hlen
    rw [if_pos h.purpose, hhash (by simpa using hlen)]
    exact safe_enrolledDone h

theorem polled_failedAnswer {ended : WorkerEnd} (h : Holds s w) :
    Polled s₀ now (failedAnswer s ended) w := by
  have hframe : Frame s (if s.saveFailed then clearSession s else s) := by
    split
    · exact ⟨rfl, rfl, rfl, fun _ => rfl, rfl, rfl, fun htoken => absurd rfl htoken⟩
    · exact .refl s
  refine Unopened.polled ⟨h.frame hframe, ?_⟩
  unfold failedAnswer
  dsimp only
  split <;> simp

/-- The worker is gone: it has ended, or is lost sight of. -/
def SecurityWorld.gone (w : SecurityWorld) (job : WorkerJob) (how : WorkerEnd) (after : Stored) : SecurityWorld :=
  { w with worker := none, stored := after, replier := some job, log := w.log ++ job.events how }

/-- What `waitpid` has seen: the end of the worker, or nothing it could make sense of. -/
def WorkerSeen (w : SecurityWorld) (job : WorkerJob) (how : WorkerEnd) (after : Stored) : Prop :=
  w.worker = some { job, ended := some how } ∧ after = w.stored ∨
    (∃ ended, w.worker = some { job, ended }) ∧ how = .lost ∧ job.Leaves .lost w.stored after

theorem call_waitpid {r : Option WorkerEnd} (h : w.Call .waitpid r w') (hsome : w.worker.isSome = true) :
    (r = none ∧ w' = w) ∨
      ∃ how job after, r = some how ∧ WorkerSeen w job how after ∧ w' = w.gone job how after := by
  cases h with
  | waitedNone hidle => simp [hidle] at hsome
  | running => exact Or.inl ⟨rfl, rfl⟩
  | exited job how hended => exact Or.inr ⟨how, job, _, rfl, Or.inl ⟨hended, rfl⟩, rfl⟩
  | lostSight k hworker after h =>
    exact Or.inr ⟨.lost, k.job, after, rfl, Or.inr ⟨⟨k.ended, hworker⟩, rfl, h⟩, rfl⟩

variable {how : WorkerEnd} {after : Stored}

theorem WorkerSeen.worker {job : WorkerJob} (h : WorkerSeen w job how after) :
    ∃ ended, w.worker = some { job, ended } := by
  rcases h with ⟨hended, _⟩ | ⟨hworker, _⟩
  · exact ⟨_, hended⟩
  · exact hworker

/-- A worker that derived a hash is gone: nothing is stored. -/
theorem safe_deriverGone (h : Holds s w) (hseen : WorkerSeen w (.derive request) how after) :
    SecuritySafe (Polled s now) (workerEnded { s with worker := false } how now)
      (w.gone (.derive request) how after) := by
  have hafter : after = w.stored := by
    rcases hseen with ⟨_, hafter⟩ | ⟨_, _, hafter⟩ <;> exact hafter
  obtain ⟨ended, hworker⟩ := hseen.worker
  obtain ⟨hpending, hgone⟩ := h.withoutDeriver hworker (some (.derive request))
  have hsame : w.gone (.derive request) how after =
      { w with worker := none, replier := some (.derive request) } := by
    simp [SecurityWorld.gone, WorkerJob.events, hafter]
  rw [hsame]
  unfold workerEnded
  split
  · exact safe_afterDerivation ⟨hgone, rfl, hpending⟩ rfl
  · have hleft : afterFailure { s with worker := false } how = { s with worker := false } := by
      simp [afterFailure, abandonCommit, hpending]
    rw [hleft]
    exact ⟨trivial, polled_failedAnswer hgone⟩

/-- A commit worker that exits with 4 has changed nothing. -/
theorem Loose.untouched (h : Loose s w) (hstored : s.saveFailed = false → w.stored = s.stored)
    (hsession : s.token ≠ [] → Opened w.log s.token s.sessionAt s.touched) :
    Holds { s with code := [], commitPending := false } w where
  worker := h.stopped.trans (by rw [h.idle]; rfl)
  pending hpending := by cases hpending
  deriving' _ job ended hworker := by
    rw [h.idle] at hworker
    cases hworker
  stored hsave _ := hstored hsave
  storedNew path record hworker := by
    rw [h.idle] at hworker
    cases hworker
  effective := h.effective
  enrolled := h.enrolled
  session := hsession

theorem safe_committerGone {path : Text} (h : Holds s w)
    (hseen : WorkerSeen w (.commit path record) how after) :
    SecuritySafe (Polled s now) (workerEnded { s with worker := false } how now)
      (w.gone (.commit path record) how after) := by
  obtain ⟨ended, hworker⟩ := hseen.worker
  have hloose : Loose { s with worker := false } (w.gone (.commit path record) how after) :=
    h.loose (.commit path record) how after _
  have hpending : s.commitPending = true := by
    by_contra hpending
    obtain ⟨request, hderive⟩ := h.deriving' (by simpa using hpending) _ _ hworker
    cases hderive
  obtain ⟨hpurpose, path', record', ended', hcommit, hsalt⟩ := h.pending hpending
  rw [hworker] at hcommit
  cases hcommit
  unfold workerEnded
  split
  · rename_i hzero
    subst hzero
    have hstored : after = .record record := by
      rcases hseen with ⟨hended, rfl⟩ | ⟨_, hlost, _⟩
      · exact h.storedNew path record hended
      · cases hlost
    exact safe_afterCommit ⟨hloose, hpending, hpurpose, hsalt, hstored, ⟨path, rfl⟩,
      by simp [SecurityWorld.gone, WorkerJob.events]⟩
  · refine ⟨trivial, polled_failedAnswer ?_⟩
    by_cases hfour : how = .exited 4
    · subst hfour
      have hleft : afterFailure { s with worker := false } (.exited 4) =
          { s with worker := false, code := [], commitPending := false } := by
        simp [afterFailure, abandonCommit, hpending]
      have hlog : (w.gone (.commit path record) (.exited 4) after).log = w.log := by
        simp [SecurityWorld.gone, WorkerJob.events]
      rw [hleft]
      refine hloose.untouched ?_ ?_
      · intro hsave
        rcases hseen with ⟨hended, rfl⟩ | ⟨_, hlost, _⟩
        · refine h.stored hsave ?_
          intro path' record' how' hworker'
          rw [hended] at hworker'
          cases hworker'
          rfl
        · cases hlost
      · rw [hlog]
        exact h.session
    · have hleft : afterFailure { s with worker := false } how =
          abandonCommit { s with worker := false, code := [] } := by
        simp [afterFailure, hpending, hfour]
      have hcode : Loose { s with worker := false, code := [] } (w.gone (.commit path record) how after) :=
        hloose.congr rfl rfl
      rw [hleft]
      exact hcode.abandon hpending

theorem safe_poll (h : Holds s w) (now : CoreTick) :
    SecuritySafe (Polled s now) (webSecurityPoll s now) w := by
  unfold webSecurityPoll
  split
  · exact ⟨trivial, Unopened.polled ⟨h, by simp⟩⟩
  · rename_i hs
    have hworker : s.worker = true := by simpa using hs
    split
    · refine Prog.Safe.bind (Prog.Safe.mono (safe_stopWorker h) fun s w _ h => ?_)
      exact ⟨trivial, Unopened.polled ⟨h.1, by simp⟩⟩
    · refine h.call fun w h r w' hcall => ?_
      have hsome : w.worker.isSome = true := h.worker ▸ hworker
      rcases call_waitpid hcall hsome with ⟨rfl, rfl⟩ | ⟨how, job, after, rfl, hseen, rfl⟩
      · exact ⟨trivial, Unopened.polled ⟨h, by simp⟩⟩
      · cases job with
        | derive request => exact safe_deriverGone h hseen
        | commit path record => exact safe_committerGone h hseen

/-! ## `web_security_authorized` -/

/-- The session, if there is one, is within its times. -/
def Alive (s : WebSecurity) (now : CoreTick) : Prop :=
  s.token ≠ [] →
    coreElapsed s.sessionAt now < webSessionMaxMs ∧ coreElapsed s.touched now < webSessionIdleMs

theorem alive_expireSession (s : WebSecurity) (now : CoreTick) : Alive (expireSession s now) now := by
  unfold expireSession
  split
  · intro htoken
    exact absurd rfl htoken
  · rename_i hexpired
    intro htoken
    simp only [htoken, ne_eq, not_false_eq_true, true_and, not_or] at hexpired
    exact ⟨BitVec.not_le.mp hexpired.1, BitVec.not_le.mp hexpired.2⟩

theorem Opened.use {log : List SecurityEvent} {token : Text} {opened touched : CoreTick}
    (h : Opened log token opened touched) (now : CoreTick) : Opened (log ++ [.used now]) token opened now := by
  obtain ⟨past, enrolment, later, rfl, hlater, _⟩ := h
  refine ⟨past, enrolment, later ++ [.used now], by simp, ?_, by simp [lastUse]⟩
  intro event hevent
  rcases List.mem_append.mp hevent with hevent | hevent
  · exact hlater event hevent
  · exact ⟨now, List.mem_singleton.mp hevent⟩

theorem Holds.used (h : Holds s w) (now : CoreTick) : Holds { s with touched := now } (w.note [.used now]) where
  worker := h.worker
  pending := h.pending
  deriving' := h.deriving'
  stored := h.stored
  storedNew := h.storedNew
  effective record hrecord := effective_append (h.effective record hrecord) _
  enrolled := by
    refine each_append_singleton.mpr ⟨h.enrolled, ?_⟩
    rintro token at' ⟨⟩
  session htoken := (h.session htoken).use now

/-- What the answer to a request says about the session. -/
def Shown (token : Text) (now : CoreTick) (shown : Bool) (w : SecurityWorld) : Prop :=
  shown = true → ∃ opened touched, Opened w.log token opened touched ∧
    coreElapsed opened now < webSessionMaxMs ∧ coreElapsed touched now < webSessionIdleMs

theorem safe_authorized (h : Holds s w) (token csrf : Text) (write : Bool) (now : CoreTick) :
    SecuritySafe (fun a w' => Holds a.2 (w'.note (if a.1 then [.used now] else [])) ∧ Shown token now a.1 w')
      (webSecurityAuthorized s token csrf write now) w := by
  refine Prog.Safe.bind (Prog.Safe.bind (Prog.Safe.mono (safe_expireCode h now) fun s w _ h => ?_))
  have h := h.frame (frame_expireSession s now)
  have halive := alive_expireSession s now
  refine ⟨trivial, trivial, ?_⟩
  cases hshown : sessionShown (expireSession s now) token csrf write with
  | false =>
    refine ⟨?_, by simp [Shown]⟩
    simp only [Bool.false_eq_true, if_false, note_nil]
    exact h
  | true =>
    simp only [sessionShown, Bool.and_eq_true, decide_eq_true_eq] at hshown
    obtain ⟨⟨⟨_, htoken⟩, heq⟩, _⟩ := hshown
    refine ⟨h.used now, ?_⟩
    intro _
    rw [heq]
    exact ⟨_, _, h.session htoken, halive htoken⟩

/-! ## The runs -/

theorem Holds.cancelled (h : Holds s w) (htoken : s.token = []) : Holds s (w.note [.cancelled]) where
  worker := h.worker
  pending := h.pending
  deriving' := h.deriving'
  stored := h.stored
  storedNew := h.storedNew
  effective record hrecord := effective_append (h.effective record hrecord) _
  enrolled := by
    refine each_append_singleton.mpr ⟨h.enrolled, ?_⟩
    rintro token at' ⟨⟩
  session hsome := absurd htoken hsome

theorem safe_op (h : Holds s w) (op : SecurityOp) (now : CoreTick) :
    SecuritySafe (fun a w' => Holds a.2 (w'.note (op.events s now a.1 a.2))) (op.run s now) w := by
  have hplain : ∀ {s' : WebSecurity} {w' : SecurityWorld}, Holds s' w' → Holds s' (w'.note []) := by
    intro s' w' h
    rw [note_nil]
    exact h
  cases op with
  | begin enroll code password =>
    exact Prog.Safe.bind (Prog.Safe.mono (safe_begin h enroll code password now) fun _ _ _ h => ⟨trivial, hplain h⟩)
  | change current password again =>
    exact Prog.Safe.bind (Prog.Safe.mono (safe_change h current password again now) fun _ _ _ h =>
      ⟨trivial, hplain h⟩)
  | poll =>
    exact Prog.Safe.bind (Prog.Safe.mono (safe_poll h now) fun a w _ h => ⟨trivial, h⟩)
  | «local» action =>
    exact Prog.Safe.mono (safe_local h action now) fun _ _ _ h => hplain h
  | tick =>
    exact Prog.Safe.bind (Prog.Safe.mono (safe_tick h now) fun _ _ _ h => ⟨trivial, hplain h⟩)
  | cancel =>
    exact Prog.Safe.bind (Prog.Safe.mono (safe_cancel h) fun _ _ _ h => ⟨trivial, h.1.cancelled h.2⟩)
  | cancelPending =>
    exact Prog.Safe.bind (Prog.Safe.mono (safe_cancelPending h) fun _ _ _ h => ⟨trivial, hplain h⟩)
  | authorized token csrf write =>
    refine Prog.Safe.bind (Prog.Safe.mono (safe_authorized h token csrf write now) ?_)
    rintro ⟨shown, s'⟩ w' _ ⟨h, _⟩
    cases shown with
    | true | false => exact ⟨trivial, h⟩

/-- A state that has just been made. -/
theorem holds_fresh {stored : Stored} (hidle : s.worker = false) (hpending : s.commitPending = false)
    (htoken : s.token = []) (hsave : s.saveFailed = false → stored = s.stored)
    (hloaded : s.stored = .missing ∨ stored = s.stored) : Holds s { stored, loaded := stored } where
  worker := hidle
  pending hpending' := absurd (hpending.symm.trans hpending') (by simp)
  deriving' := by
    rintro _ job ended ⟨⟩
  stored hsave' _ := hsave hsave'
  storedNew := by
    rintro path record ⟨⟩
  effective record hrecord := by
    rcases hloaded with hmissing | hloaded
    · rw [hmissing] at hrecord
      cases hrecord
    · exact Or.inl (hloaded.trans hrecord)
  enrolled := each_nil
  session hsome := absurd htoken hsome

theorem safe_init {path : Text} {stored : Stored} (hpath : path.length < 512) :
    SecuritySafe (fun a w' => Holds a.2 w') (webSecurityInit path) { stored, loaded := stored } := by
  unfold webSecurityInit
  rw [if_neg (by omega)]
  refine safe_idleCall rfl fun r w' hcall => ?_
  have hfailed : Holds { path, saveFailed := true } { stored, loaded := stored } :=
    holds_fresh rfl rfl rfl (fun hsave => by cases hsave) (Or.inl rfl)
  cases hcall with
  | unreadable => exact ⟨trivial, hfailed⟩
  | loaded =>
    cases stored with
    | missing => exact ⟨trivial, holds_fresh rfl rfl rfl (fun _ => rfl) (Or.inl rfl)⟩
    | unreadable => exact ⟨trivial, hfailed⟩
    | record record => exact ⟨trivial, holds_fresh rfl rfl rfl (fun _ => rfl) (Or.inr rfl)⟩

theorem SecurityRun.holds (hrun : SecurityRun s w) : Holds s w := by
  induction hrun with
  | init path stored hpath h => exact ((safe_init hpath).runs h).2 _ rfl
  | meanwhile _ h ih => exact ih.meanwhile h
  | op op now _ h ih => exact ((safe_op ih op now).runs h).2 _ rfl

/-- **Credentials and sessions.** In every reachable state what is in memory is what is stored,
    unless a commit is pending or has failed; only committed hashes are in effect; and a request
    is authorized by the token of the last session that was opened, in its times, with nothing
    but uses of it since. -/
theorem trustworthy_of_securityRun (hrun : SecurityRun s w) : Trustworthy s w where
  stored hsave hpending := by
    refine hrun.holds.stored hsave ?_
    intro path record how hworker
    obtain ⟨request, hderive⟩ := hrun.holds.deriving' hpending _ _ hworker
    cases hderive
  effective := hrun.holds.effective
  enrolled := hrun.holds.enrolled
  authorized token csrf write now s' w' h := ((safe_authorized hrun.holds token csrf write now).runs h).2 _ rfl |>.2 rfl

/-! ## A run -/

/-- Every worker exits with 0 before it is waited for, and every call succeeds. -/
def SecurityWorld.play (call : SecurityCall) (w : SecurityWorld) : call.Result × SecurityWorld :=
  match call with
  | .readRecord => (w.stored, w)
  | .random n => ((true, List.replicate n 5), w)
  | .spawn job => (.started true, { w with worker := some { job, ended := none } })
  | .kill =>
      match w.worker with
      | none => ((), w)
      | some k => ((), { w with worker := none, log := w.log ++ k.job.events .lost })
  | .waitpid =>
      match w.worker with
      | none => (some .lost, w)
      | some { job, ended := some how } => (some how, w.gone job how w.stored)
      | some { job := .derive request, ended := none } => (some (.exited 0), w.gone (.derive request) (.exited 0) w.stored)
      | some { job := .commit path record, ended := none } =>
          (some (.exited 0), w.gone (.commit path record) (.exited 0) (.record record))
  | .readReply =>
      match w.replier with
      | some (.commit _ record) => (record.hash, w)
      | _ => (List.replicate 32 9, w)

theorem WorkerJob.leaves_lost (job : WorkerJob) (stored : Stored) : job.Leaves .lost stored stored := by
  cases job with
  | derive request => rfl
  | commit path record => trivial

theorem securityWorld_play (call : SecurityCall) (w : SecurityWorld) :
    securityWorld call w (w.play call).1 (w.play call).2 := by
  cases call with
  | readRecord => exact ⟨w, .nothing w, .loaded⟩
  | random n => exact ⟨w, .nothing w, .random n true _ (by simp)⟩
  | spawn job => exact ⟨w, .nothing w, .started job true⟩
  | kill =>
    cases hworker : w.worker with
    | none =>
      simp only [SecurityWorld.play, hworker]
      exact ⟨w, .nothing w, .killedNone hworker⟩
    | some k =>
      simp only [SecurityWorld.play, hworker]
      exact ⟨w, .nothing w, .killed k hworker w.stored (k.job.leaves_lost w.stored)⟩
  | waitpid =>
    cases hworker : w.worker with
    | none =>
      simp only [SecurityWorld.play, hworker]
      exact ⟨w, .nothing w, .waitedNone hworker⟩
    | some k =>
      obtain ⟨job, ended⟩ := k
      cases ended with
      | some how =>
        simp only [SecurityWorld.play, hworker]
        exact ⟨w, .nothing w, .exited job how hworker⟩
      | none =>
        -- the worker ends now
        cases job with
        | derive request =>
          simp only [SecurityWorld.play, hworker]
          exact ⟨_, .ended hworker (.exited 0) w.stored rfl, .exited _ (.exited 0) rfl⟩
        | commit path record =>
          simp only [SecurityWorld.play, hworker]
          exact ⟨_, .ended hworker (.exited 0) (.record record) rfl, .exited _ (.exited 0) rfl⟩
  | readReply =>
    refine ⟨w, .nothing w, ?_⟩
    simp only [SecurityWorld.play]
    split
    · rename_i path record hreplier
      refine .reply record.hash ?_
      intro path' record' hreplier' _
      rw [hreplier] at hreplier'
      cases hreplier'
      rfl
    · rename_i hreplier
      refine .reply _ ?_
      intro path record hreplier'
      exact absurd hreplier' (hreplier path record)

def playOp (op : SecurityOp) (now : CoreTick) (run : WebSecurity × SecurityWorld) : WebSecurity × SecurityWorld :=
  let after := Prog.eval (fun call w => w.play call) (op.run run.1 now) run.2
  (after.1.2, after.2.note (op.events run.1 now after.1.1 after.1.2))

theorem securityRun_playOp {run : WebSecurity × SecurityWorld} (hrun : SecurityRun run.1 run.2) (op : SecurityOp)
    (now : CoreTick) : SecurityRun (playOp op now run).1 (playOp op now run).2 :=
  .op op now hrun (Prog.runs_eval securityWorld_play (op.run run.1 now) run.2)

/-- The first administrator enrols, and a request shows the token. -/
def enrolRun : WebSecurity × SecurityWorld :=
  playOp (.authorized (webHex (List.replicate 32 5)) [] false) 900
    (playOp .poll 20 (playOp .poll 10
      (playOp (.begin true (webHex (List.replicate 6 5)) (List.replicate 12 97)) 5
        (playOp (.local 1) 0 ({ path := [47] }, { stored := .missing, loaded := .missing })))))

theorem securityRun_enrolRun : SecurityRun enrolRun.1 enrolRun.2 := by
  unfold enrolRun
  iterate 5 refine securityRun_playOp ?_ _ _
  exact .init [47] .missing (by decide)
    (Prog.runs_eval securityWorld_play (webSecurityInit [47]) { stored := .missing, loaded := .missing })

theorem trustworthy_enrolRun : Trustworthy enrolRun.1 enrolRun.2 :=
  trustworthy_of_securityRun securityRun_enrolRun

example : enrolRun.2.log =
    [.committed { salt := List.replicate 16 5, hash := List.replicate 32 9 },
      .session true (webHex (List.replicate 32 5)) 20, .used 900] := by
  decide +kernel

end FourVrs.Web
