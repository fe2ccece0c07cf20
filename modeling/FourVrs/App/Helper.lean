import FourVrs.App.Exclusion
import FourVrs.App.Views

/-!
# The helper that sets the clock

The functions of the helper are logged with what they return. `Helper` says what such a
log may be: a helper is started, and the clock set by hand, only while there is none; a
helper is there until a poll says that it is not. The time of the application keeps track
of it in two fields, the trust and whether a helper is being terminated (`helperOf`).
-/

set_option autoImplicit false

namespace FourVrs.App

open FourVrs.Core Config Gateway Network Lib

variable {ω σ κ : Type} {device : σ → σ → Prop}

/-! ## The log -/

/-- A call of one of the helper's functions, or of the one that sets the clock. -/
inductive HelperCall where
  | start (result : Int)
  | poll (result : Int)
  | cancel
  | setClock
  deriving DecidableEq

/-- Whether there is a helper. -/
inductive Helper where
  | none | running | cancelled
  deriving DecidableEq

/-- What a call makes of the helper: nothing is right after a second start or a clock set by
    hand while there is a helper. -/
def Helper.next : Helper → HelperCall → Option Helper
  | .none, .start r => some (if r = 0 then .running else .none)
  | .running, .start _ | .cancelled, .start _ => Option.none
  | .none, .setClock => some .none
  | .running, .setClock | .cancelled, .setClock => Option.none
  | h, .poll r => some (if r = 0 then h else .none)
  | .none, .cancel => some .none
  | .running, .cancel | .cancelled, .cancel => some .cancelled

/-- The helper after a log. -/
def Helper.after (calls : List HelperCall) : Option Helper := calls.foldlM Helper.next .none

theorem Helper.after_append (calls more : List HelperCall) :
    Helper.after (calls ++ more) = (Helper.after calls).bind fun h => more.foldlM Helper.next h := by
  unfold Helper.after
  rw [List.foldlM_append]
  rfl

theorem Helper.after_snoc (calls : List HelperCall) (call : HelperCall) :
    Helper.after (calls ++ [call]) = (Helper.after calls).bind fun h => h.next call := by
  rw [Helper.after_append]
  simp

/-- A call that needs there to be no helper. -/
def HelperCall.exclusive : HelperCall → Bool
  | .start _ | .setClock => true
  | .poll _ | .cancel => false

/-- In a log that is right, such a call finds none. -/
theorem Helper.none_of_exclusive {before rest : List HelperCall} {call : HelperCall}
    (h : (Helper.after (before ++ call :: rest)).isSome) (hcall : call.exclusive = true) :
    Helper.after before = some .none := by
  rw [Helper.after_append] at h
  cases hbefore : Helper.after before with
  | none => simp [hbefore] at h
  | some helper =>
    cases helper with
    | none => rfl
    | running | cancelled => cases call <;> simp_all [HelperCall.exclusive, Helper.next]

/-- How many helpers a log has started. -/
def startedHelpers (calls : List HelperCall) : Nat := calls.countP (· = .start 0)

@[simp] theorem startedHelpers_append (calls more : List HelperCall) :
    startedHelpers (calls ++ more) = startedHelpers calls + startedHelpers more :=
  List.countP_append

/-- A world and the log of it. -/
structure Logged (ω : Type) where
  world : ω
  calls : List HelperCall

/-- A function that is not logged. -/
def quietly {α : Type} (f : ω → α × ω) (w : Logged ω) : α × Logged ω :=
  ((f w.world).1, { w with world := (f w.world).2 })

/-- A function that is logged with its result. -/
def noting {α : Type} (f : ω → α × ω) (call : α → HelperCall) (w : Logged ω) : α × Logged ω :=
  ((f w.world).1, { world := (f w.world).2, calls := w.calls ++ [call (f w.world).1] })

def loggedNetwork (sys : NetworkSystem ω) : NetworkSystem (Logged ω) where
  clock := quietly sys.clock
  readObserver := quietly sys.readObserver
  reapObserver := quietly sys.reapObserver
  killObserver := fun w => { w with world := sys.killObserver w.world }
  startObserver := fun r => quietly (sys.startObserver r)
  recvStatus := quietly sys.recvStatus
  reapSupervisor := quietly sys.reapSupervisor
  startSupervisor := fun settings => quietly (sys.startSupervisor settings)
  send := fun command => quietly (sys.send command)

/-- The dependencies, with the helper's functions logged. A missing function is one that answers
    `-1`, or does nothing. -/
def logged (deps : GatewayApplicationDependencies ω σ κ device) :
    GatewayApplicationDependencies (Logged ω) σ κ device where
  clock := quietly deps.clock
  stopSignal := quietly deps.stopSignal
  selectConfiguration := quietly deps.selectConfiguration
  provideBindings := fun ports => quietly (deps.provideBindings ports)
  attachBindings := deps.attachBindings.map fun attach => quietly attach
  stageConfiguration := fun config => quietly (deps.stageConfiguration config)
  promoteConfiguration := quietly deps.promoteConfiguration
  discardConfiguration := fun w => { w with world := deps.discardConfiguration w.world }
  backlightSet := deps.backlightSet.map fun set on => quietly (set on)
  systemTimeGet := quietly deps.systemTimeGet
  systemTimeSet := fun v => noting (deps.systemTimeSet v) fun _ => .setClock
  ntpStart := some fun server =>
    noting (fun w => (deps.ntpStart.map fun start => start server w).getD ((-1 : Int), w)) .start
  ntpPoll := some
    (noting (fun w => (deps.ntpPoll.map fun poll => poll w).getD (((-1 : Int), false), w)) fun r => .poll r.1)
  ntpCancel := some fun w =>
    { world := (deps.ntpCancel.map fun cancel => cancel w.world).getD w.world
      calls := w.calls ++ [.cancel] }
  rtcProbe := deps.rtcProbe.map fun probe => quietly probe
  rtcSave := deps.rtcSave.map fun save => quietly save
  network := loggedNetwork deps.network
  documents := deps.documents

variable (deps : GatewayApplicationDependencies ω σ κ device)

theorem quiet_logged :
    Quiet (logged deps) Logged.calls where
  clock := fun _ => rfl
  stopSignal := fun _ => rfl
  selectConfiguration := fun _ => rfl
  provideBindings := fun _ _ => rfl
  attachBindings := by
    rintro f hf w
    obtain ⟨attach, _, rfl⟩ := Option.map_eq_some_iff.mp hf
    rfl
  stageConfiguration := fun _ _ => rfl
  promoteConfiguration := fun _ => rfl
  discardConfiguration := fun _ => rfl
  backlightSet := by
    rintro f hf on w
    obtain ⟨set, _, rfl⟩ := Option.map_eq_some_iff.mp hf
    rfl
  systemTimeGet := fun _ => rfl
  rtcProbe := by
    rintro f hf w
    obtain ⟨probe, _, rfl⟩ := Option.map_eq_some_iff.mp hf
    rfl
  rtcSave := by
    rintro f hf w
    obtain ⟨save, _, rfl⟩ := Option.map_eq_some_iff.mp hf
    rfl
  network := by constructor <;> intros <;> rfl

/-! ## The invariant -/

/-- The helper as the time of the application has it. -/
def helperOf (t : ApplicationTime) : Helper :=
  if t.ntpTerminating then .cancelled else if t.trust = .syncing then .running else .none

/-- The time keeps track of the helper. -/
structure Owns (t : ApplicationTime) (calls : List HelperCall) : Prop where
  helper : Helper.after calls = some (helperOf t)
  exclusive : t.ntpTerminating = true → t.trust ≠ .syncing
  before : t.trustBeforeSync ≠ .syncing
  applied : t.trust = .syncing →
    t.timeSettingsApplied = true ∧ t.ntpEnabled ≠ 0 ∧ t.ntpServer.bytes ≠ []
  deadline : t.trust = .syncing →
    t.ntpDeadline = coreDeadlineAfter t.lastNtpAttempt gatewayNtpAttemptTimeoutMs
  tests : t.ntpTestActive = true → t.ntpTestAttempts ≤ 3 ∧ (t.ntpTestAttempts = 3 → t.trust = .syncing)

/-- What a function of the time does to a helper it keeps track of. -/
structure Moved (t : ApplicationTime) (calls : List HelperCall) (t' : ApplicationTime)
    (calls' : List HelperCall) : Prop where
  owns : Owns t' calls'
  grows : calls <+: calls'
  ends : t'.ntpTestActive = true → t.ntpTestActive = true
  counts : t'.ntpTestActive = true →
    startedHelpers calls' + t.ntpTestAttempts ≤ startedHelpers calls + t'.ntpTestAttempts

variable (a : GatewayApplication ω σ κ device) (t : ApplicationTime) {calls : List HelperCall}

theorem Moved.refl {t : ApplicationTime} (h : Owns t calls) :
    Moved t calls t calls :=
  ⟨h, List.prefix_rfl, id, fun _ => le_refl _⟩

variable (now : CoreTick) (w : Logged ω) {t₁ t₂ t₃ : ApplicationTime}

theorem Moved.trans {calls₁ calls₂ calls₃ : List HelperCall} (h : Moved t₁ calls₁ t₂ calls₂)
    (h' : Moved t₂ calls₂ t₃ calls₃) : Moved t₁ calls₁ t₃ calls₃ := by
  refine ⟨h'.owns, h.grows.trans h'.grows, fun hact => h.ends (h'.ends hact), fun hact => ?_⟩
  have h₁ := h.counts (h'.ends hact)
  have h₂ := h'.counts hact
  omega

/-- Times that agree in what the helper is about. -/
structure SameHelper (t t' : ApplicationTime) : Prop where
  trust : t'.trust = t.trust
  trustBeforeSync : t'.trustBeforeSync = t.trustBeforeSync
  ntpTerminating : t'.ntpTerminating = t.ntpTerminating
  timeSettingsApplied : t'.timeSettingsApplied = t.timeSettingsApplied
  ntpEnabled : t'.ntpEnabled = t.ntpEnabled
  ntpServer : t'.ntpServer = t.ntpServer
  ntpDeadline : t'.ntpDeadline = t.ntpDeadline
  lastNtpAttempt : t'.lastNtpAttempt = t.lastNtpAttempt
  ntpTestActive : t'.ntpTestActive = t.ntpTestActive
  ntpTestAttempts : t'.ntpTestAttempts = t.ntpTestAttempts

theorem SameHelper.trans (h : SameHelper t₁ t₂) (h' : SameHelper t₂ t₃) :
    SameHelper t₁ t₃ where
  trust := h'.trust.trans h.trust
  trustBeforeSync := h'.trustBeforeSync.trans h.trustBeforeSync
  ntpTerminating := h'.ntpTerminating.trans h.ntpTerminating
  timeSettingsApplied := h'.timeSettingsApplied.trans h.timeSettingsApplied
  ntpEnabled := h'.ntpEnabled.trans h.ntpEnabled
  ntpServer := h'.ntpServer.trans h.ntpServer
  ntpDeadline := h'.ntpDeadline.trans h.ntpDeadline
  lastNtpAttempt := h'.lastNtpAttempt.trans h.lastNtpAttempt
  ntpTestActive := h'.ntpTestActive.trans h.ntpTestActive
  ntpTestAttempts := h'.ntpTestAttempts.trans h.ntpTestAttempts

theorem SameHelper.helperOf {t t' : ApplicationTime} (h : SameHelper t t') :
    FourVrs.App.helperOf t' = FourVrs.App.helperOf t := by
  simp only [FourVrs.App.helperOf, h.trust, h.ntpTerminating]

theorem Moved.of_same {t t' : ApplicationTime} {calls calls' : List HelperCall} (h : Owns t calls)
    (hsame : SameHelper t t') (hcalls : calls' = calls) : Moved t calls t' calls' := by
  subst hcalls
  refine ⟨⟨?_, ?_, ?_, ?_, ?_, ?_⟩, List.prefix_rfl, ?_, fun _ => ?_⟩
  · rw [hsame.helperOf]
    exact h.helper
  · rw [hsame.ntpTerminating, hsame.trust]
    exact h.exclusive
  · rw [hsame.trustBeforeSync]
    exact h.before
  · rw [hsame.trust, hsame.timeSettingsApplied, hsame.ntpEnabled, hsame.ntpServer]
    exact h.applied
  · rw [hsame.trust, hsame.ntpDeadline, hsame.lastNtpAttempt]
    exact h.deadline
  · rw [hsame.ntpTestActive, hsame.ntpTestAttempts, hsame.trust]
    exact h.tests
  · rw [hsame.ntpTestActive]
    exact id
  · rw [hsame.ntpTestAttempts]

/-! ## The settings -/

theorem moved_probeRtc (h : Owns t w.calls) :
    Moved t w.calls (probeRtc (logged deps) t w).1 (probeRtc (logged deps) t w).2.calls := by
  unfold probeRtc
  split
  · exact .refl h
  split
  · exact .of_same h (by constructor <;> rfl) rfl
  · rename_i probe hprobe
    exact .of_same h (by constructor <;> rfl) ((quiet_logged deps).rtcProbe probe (by simp [hprobe]) w)

theorem moved_rescheduleSync (h : Owns t w.calls) :
    Moved t w.calls (rescheduleSync (logged deps) t w).1 (rescheduleSync (logged deps) t w).2.calls := by
  unfold rescheduleSync
  simp only []
  split <;> exact .of_same h (by constructor <;> rfl) rfl

theorem sameHelper_rtcSaveTrusted :
    SameHelper t (rtcSaveTrusted (logged deps) t w).1 ∧
      (rtcSaveTrusted (logged deps) t w).2.calls = w.calls := by
  unfold rtcSaveTrusted
  split
  · exact ⟨by constructor <;> rfl, rfl⟩
  · rename_i save hsave
    have hquiet := (quiet_logged deps).rtcSave save (by simp [hsave]) w
    split
    · rename_i heq
      rw [heq] at hquiet
      exact ⟨by constructor <;> rfl, hquiet⟩
    · rename_i heq
      rw [heq] at hquiet
      exact ⟨by constructor <;> rfl, hquiet⟩

/-- A helper that runs is cancelled, and there is one until it is reaped. -/
theorem after_cancel (h : Helper.after calls = some .running) :
    Helper.after (calls ++ [.cancel]) = some .cancelled := by
  rw [Helper.after_snoc, h]
  rfl

theorem helperOf_eq_running {t : ApplicationTime} (h : t.trust = .syncing) (hterm : t.ntpTerminating = false) :
    helperOf t = .running := by
  simp [helperOf, h, hterm]

theorem Owns.notTerminating {t : ApplicationTime} (h : Owns t calls) (htrust : t.trust = .syncing) :
    t.ntpTerminating = false := by
  by_contra hterm
  exact h.exclusive (by simpa using hterm) htrust

/-- New settings cancel the helper that runs for the old ones. -/
theorem moved_adoptTimeSettings (s : GatewayProductSettings) (t : ApplicationTime) (w : Logged ω)
    (h : Owns t w.calls) :
    Moved t w.calls (adoptTimeSettings (logged deps) s t w).1
        (adoptTimeSettings (logged deps) s t w).2.calls ∧
      (adoptTimeSettings (logged deps) s t w).2.calls =
        (if t.trust = .syncing then w.calls ++ [.cancel] else w.calls) := by
  have hnot : (if (if t.trust = .syncing then t.trustBeforeSync else t.trust) = .synced then .holdover
      else if t.trust = .syncing then t.trustBeforeSync else t.trust) ≠ GatewayTimeTrust.syncing := by
    by_cases hs : t.trust = .syncing
    · simp only [if_pos hs]
      split
      · decide
      · exact h.before
    · simp only [if_neg hs]
      split
      · decide
      · exact hs
  by_cases hsync : t.trust = .syncing
  · have hterm := h.notTerminating hsync
    have hcalls : (adoptTimeSettings (logged deps) s t w).2.calls = w.calls ++ [.cancel] := by
      simp [adoptTimeSettings, hsync, logged]
    rw [hcalls, if_pos hsync]
    refine ⟨⟨⟨?_, ?_, h.before, ?_, ?_, nofun⟩, List.prefix_append _ _, nofun, nofun⟩, rfl⟩
    · rw [after_cancel (h.helper.trans (congrArg some (helperOf_eq_running hsync hterm)))]
      simp [adoptTimeSettings, helperOf, hsync]
    · exact fun _ => hnot
    · exact fun hs => absurd hs hnot
    · exact fun hs => absurd hs hnot
  · have hcalls : (adoptTimeSettings (logged deps) s t w).2.calls = w.calls := by
      simp [adoptTimeSettings, hsync]
    rw [hcalls, if_neg hsync]
    refine ⟨⟨⟨?_, ?_, h.before, ?_, ?_, nofun⟩, List.prefix_rfl, nofun, nofun⟩, rfl⟩
    · rw [h.helper]
      have hterm : (adoptTimeSettings (logged deps) s t w).1.ntpTerminating = t.ntpTerminating := by
        simp [adoptTimeSettings, hsync]
      have htrust : (adoptTimeSettings (logged deps) s t w).1.trust ≠ .syncing := hnot
      simp only [helperOf, hterm, htrust, hsync, if_false]
    · exact fun _ => hnot
    · exact fun hs => absurd hs hnot
    · exact fun hs => absurd hs hnot

/-- The settings in force are those of the selected configuration. -/
def SettingsAgree (t : ApplicationTime) (s : GatewayProductSettings) : Prop :=
  t.timeSettingsApplied = true ∧ t.ntpEnabled = s.ntpEnabled ∧ t.ntpServer = s.ntpServer

instance (t : ApplicationTime) (s : GatewayProductSettings) : Decidable (SettingsAgree t s) :=
  inferInstanceAs (Decidable (_ ∧ _ ∧ _))

theorem probeRtc_eq (w : ω) :
    ∃ rtc checked, (probeRtc deps t w).1 = { t with rtc := rtc, rtcChecked := checked } := by
  unfold probeRtc
  split
  · exact ⟨t.rtc, t.rtcChecked, rfl⟩
  · split <;> exact ⟨_, _, rfl⟩

/-- The settings of a gateway that runs: a helper goes on under the same, and is cancelled under
    others. -/
theorem moved_timeSettingsStep (deps : GatewayApplicationDependencies ω σ κ device)
    (state : GatewayApplicationState) (s : GatewayProductSettings) (t : ApplicationTime) (w : Logged ω)
    (h : Owns t w.calls) :
    let r := timeSettingsStep (logged deps) state s t w
    Moved t w.calls r.1 r.2.calls ∧
      (runningState state = true → SettingsAgree t s → SameHelper t r.1 ∧ r.2.calls = w.calls) ∧
      (runningState state = true → ¬ SettingsAgree t s → t.trust = .syncing →
        r.2.calls = w.calls ++ [.cancel]) ∧
      (r.1.timeSettingsApplied = true → t.timeSettingsApplied = true ∨ runningState state = true) := by
  simp only []
  unfold timeSettingsStep
  split
  · rename_i hrun
    simp only []
    have hprobe := moved_probeRtc deps t w h
    have hcalls : (probeRtc (logged deps) t w).2.calls = w.calls := by
      unfold probeRtc
      split
      · rfl
      split
      · rfl
      · rename_i probe hprobe
        exact (quiet_logged deps).rtcProbe probe (by simp [hprobe]) w
    obtain ⟨rtc, checked, heq⟩ := probeRtc_eq (logged deps) t w
    have hsame : SameHelper t (probeRtc (logged deps) t w).1 := by
      rw [heq]
      constructor <;> rfl
    have hagree : SettingsAgree t s ↔ SettingsAgree (probeRtc (logged deps) t w).1 s := by
      rw [heq]
      exact Iff.rfl
    have htrust := hsame.trust
    generalize probeRtc (logged deps) t w = probed at *
    obtain ⟨t₁, w₁⟩ := probed
    simp only at *
    split
    · rename_i hsettings
      have hsettings : SettingsAgree t s := hagree.mpr hsettings
      have hstill : ∀ {p : Prop}, ¬ SettingsAgree t s → p := fun hnot => absurd hsettings hnot
      have hmark : SameHelper t₁ { t₁ with ntpIntervalHours := s.ntpIntervalHours } := by
        constructor <;> rfl
      have happlied : ∀ {p : Prop}, p → t.timeSettingsApplied = true ∨ runningState state = true :=
        fun _ => .inl hsettings.1
      split
      · split
        · have hres := moved_rescheduleSync deps { t₁ with ntpIntervalHours := s.ntpIntervalHours } w₁
            (Moved.of_same hprobe.owns hmark rfl).owns
          refine ⟨(hprobe.trans (.of_same hprobe.owns hmark rfl)).trans hres, fun _ _ => ?_,
            fun _ hnot => hstill hnot, happlied⟩
          refine ⟨(hsame.trans hmark).trans ?_, ?_⟩
          · unfold rescheduleSync
            simp only []
            split <;> constructor <;> rfl
          · rw [← hcalls]
            rfl
        · exact ⟨hprobe.trans (.of_same hprobe.owns hmark rfl), fun _ _ => ⟨hsame.trans hmark, hcalls⟩,
            fun _ hnot => hstill hnot, happlied⟩
      · exact ⟨hprobe, fun _ _ => ⟨hsame, hcalls⟩, fun _ hnot => hstill hnot, happlied⟩
    · rename_i hsettings
      have hsettings : ¬ SettingsAgree t s := fun hyes => hsettings (hagree.mp hyes)
      obtain ⟨hadopt, hcancel⟩ := moved_adoptTimeSettings deps s t₁ w₁ hprobe.owns
      refine ⟨hprobe.trans hadopt, fun _ hyes => absurd hyes hsettings, fun _ _ hsync => ?_, fun _ => .inr hrun⟩
      rw [hcancel, if_pos (htrust.trans hsync), hcalls]
  · rename_i hnot
    exact ⟨.refl h, fun hrun => absurd hrun hnot, fun hrun => absurd hrun hnot, .inl⟩

/-! ## The synchronization -/

/-- A poll is logged with its result and changes nothing but what is said of the helper's output. -/
theorem pollNtp_logged :
    (pollNtp (logged deps) t w).2.2.calls = w.calls ++ [.poll (pollNtp (logged deps) t w).1] ∧
      SameHelper t (pollNtp (logged deps) t w).2.1 := by
  refine ⟨rfl, ?_⟩
  simp only [pollNtp, logged]
  split <;> constructor <;> rfl

theorem trustAfterFailure_ne (trust : GatewayTimeTrust) : trustAfterFailure trust ≠ .syncing := by
  cases trust <;> decide

/-- After a failure there is a helper only if one is being terminated. -/
theorem timeSyncFailed_frame (result : GatewayNtpResult) :
    (timeSyncFailed t now result).trust ≠ .syncing ∧
      (timeSyncFailed t now result).ntpTerminating = t.ntpTerminating ∧
      (timeSyncFailed t now result).trustBeforeSync = t.trustBeforeSync ∧
      (timeSyncFailed t now result).ntpTestAttempts = t.ntpTestAttempts ∧
      ((timeSyncFailed t now result).ntpTestActive = true →
        t.ntpTestActive = true ∧ t.ntpTestAttempts < 3) := by
  refine ⟨trustAfterFailure_ne _, rfl, rfl, rfl, fun h => ?_⟩
  simpa [timeSyncFailed] using h

/-- A function after which no helper runs. -/
theorem Moved.of_ended {t t' : ApplicationTime} {calls more : List HelperCall}
    (hafter : Helper.after (calls ++ more) = some (helperOf t')) (hnot : t'.trust ≠ .syncing)
    (hbefore : t'.trustBeforeSync ≠ .syncing)
    (htests : t'.ntpTestActive = true → t.ntpTestActive = true ∧ t'.ntpTestAttempts < 3)
    (hcounts : startedHelpers more = 0) (hattempts : t.ntpTestAttempts ≤ t'.ntpTestAttempts) :
    Moved t calls t' (calls ++ more) := by
  refine ⟨⟨hafter, fun _ => hnot, hbefore, fun hs => absurd hs hnot, fun hs => absurd hs hnot, ?_⟩,
    List.prefix_append _ _, fun hact => (htests hact).1, fun _ => ?_⟩
  · intro hact
    have hlt := (htests hact).2
    exact ⟨hlt.le, fun heq => absurd heq hlt.ne⟩
  · rw [startedHelpers_append, hcounts]
    omega

/-- A helper that has ended is there no more. -/
theorem after_poll {helper : Helper} {r : Int} (h : Helper.after calls = some helper) (hr : r ≠ 0) :
    Helper.after (calls ++ [.poll r]) = some .none := by
  rw [Helper.after_snoc, h]
  cases helper <;> simp [Helper.next, hr]

theorem after_poll_zero {helper : Helper} (h : Helper.after calls = some helper) :
    Helper.after (calls ++ [.poll 0]) = some helper := by
  rw [Helper.after_snoc, h]
  cases helper <;> rfl

theorem helperOf_eq_none {t : ApplicationTime} (htrust : t.trust ≠ .syncing)
    (hterm : t.ntpTerminating = false) : helperOf t = .none := by
  simp [helperOf, htrust, hterm]

/-- The helper reports success, and is there no more. -/
theorem moved_timeSyncSucceeded (t t₀ : ApplicationTime) (now : CoreTick) (w : Logged ω)
    (calls : List HelperCall) (r : Int) (h : Owns t calls) (hsame : SameHelper t t₀)
    (hsync : t.trust = .syncing) (hr : r ≠ 0) :
    Moved t calls (timeSyncSucceeded (logged deps) t₀ now w).1 (calls ++ [.poll r]) ∧
      (timeSyncSucceeded (logged deps) t₀ now w).2.calls = w.calls := by
  have hterm := h.notTerminating hsync
  have hafter := after_poll h.helper hr
  unfold timeSyncSucceeded
  simp only []
  split
  · obtain ⟨hnot, hterm', hbefore, hattempts, htests⟩ :=
      timeSyncFailed_frame { t₀ with trustBeforeSync := .unsynced } now .failed
    refine ⟨.of_ended ?_ hnot (fun heq => by cases hbefore.symm.trans heq) ?_ rfl ?_, rfl⟩
    · rw [hafter, helperOf_eq_none hnot (hterm'.trans (hsame.ntpTerminating.trans hterm))]
    · intro hact
      obtain ⟨hact', hlt⟩ := htests hact
      exact ⟨hsame.ntpTestActive ▸ hact', hattempts ▸ hlt⟩
    · rw [hattempts]
      exact hsame.ntpTestAttempts.ge
  · obtain ⟨hsaved, hquiet⟩ := sameHelper_rtcSaveTrusted deps
      { t₀ with
        trust := .synced, lastNtpResult := .succeeded, lastSync := now, ntpFailures := 0
        ntpNormalDeadline := coreDeadlineAfter now (BitVec.ofNat 32 (t₀.ntpIntervalHours * 3600000))
        ntpTestActive := t₀.ntpTestActive && decide (t₀.ntpTestAttempts < 3)
        ntpRetryDeadline := coreDeadlineAfter now
          (if (t₀.ntpTestActive && decide (t₀.ntpTestAttempts < 3)) = true then ntpTestIntervalMs
            else BitVec.ofNat 32 (t₀.ntpIntervalHours * 3600000))
        nextNtpAttempt := now +
          (if (t₀.ntpTestActive && decide (t₀.ntpTestAttempts < 3)) = true then ntpTestIntervalMs
            else BitVec.ofNat 32 (t₀.ntpIntervalHours * 3600000)) }
      ((logged deps).systemTimeGet w).2
    refine ⟨.of_ended ?_ ?_ ?_ ?_ rfl ?_, hquiet⟩
    · have hend : t₀.ntpTerminating = false := hsame.ntpTerminating.trans hterm
      rw [hafter, hsaved.helperOf]
      simp [helperOf, hend]
    · rw [hsaved.trust]
      simp
    · rw [hsaved.trustBeforeSync]
      exact hsame.trustBeforeSync ▸ h.before
    · intro hact
      rw [hsaved.ntpTestActive] at hact
      rw [hsaved.ntpTestAttempts]
      simp only [Bool.and_eq_true, decide_eq_true_eq] at hact
      exact ⟨hsame.ntpTestActive ▸ hact.1, hact.2⟩
    · rw [hsaved.ntpTestAttempts]
      exact hsame.ntpTestAttempts.ge

/-- The calls of a poll of a helper that runs. -/
def awaitCalls (r : Int) (expired : Bool) : List HelperCall :=
  .poll r :: if r = 0 ∧ expired = true then [.cancel] else []

/-- A helper that runs is polled; past its deadline it is cancelled. -/
theorem moved_awaitSync (h : Owns t w.calls) (hsync : t.trust = .syncing) :
    Moved t w.calls (awaitSync (logged deps) t now w).1 (awaitSync (logged deps) t now w).2.calls ∧
      ∃ r, (awaitSync (logged deps) t now w).2.calls =
        w.calls ++ awaitCalls r (coreDeadlineExpired t.ntpDeadline now) := by
  obtain ⟨hcalls, hsame⟩ := pollNtp_logged deps t w
  have hterm := h.notTerminating hsync
  unfold awaitSync
  generalize pollNtp (logged deps) t w = polled at *
  obtain ⟨r, t₀, w₀⟩ := polled
  simp only at *
  -- however it fails, the helper that has exited is gone
  have hended : ∀ {result : GatewayNtpResult}, r ≠ 0 →
      Moved t w.calls (timeSyncFailed t₀ now result) (w.calls ++ [.poll r]) := by
    intro result hr
    obtain ⟨hnot, hterm', hbefore, hattempts, htests⟩ := timeSyncFailed_frame t₀ now result
    refine .of_ended ?_ hnot (hbefore ▸ hsame.trustBeforeSync ▸ h.before) ?_ rfl ?_
    · rw [after_poll h.helper hr, helperOf_eq_none hnot (hterm'.trans (hsame.ntpTerminating.trans hterm))]
    · intro hact
      obtain ⟨hact', hlt⟩ := htests hact
      exact ⟨hsame.ntpTestActive ▸ hact', hattempts ▸ hlt⟩
    · rw [hattempts]
      exact hsame.ntpTestAttempts.ge
  split
  · rename_i hr
    have hr : r ≠ 0 := by omega
    obtain ⟨hmoved, hquiet⟩ := moved_timeSyncSucceeded deps t t₀ now w₀ w.calls r h hsame hsync hr
    rw [hquiet, hcalls]
    exact ⟨hmoved, r, by simp [awaitCalls, hr]⟩
  split
  · rename_i hr
    have hr : r ≠ 0 := by omega
    rw [hcalls]
    exact ⟨hended hr, r, by simp [awaitCalls, hr]⟩
  · have hr : r = 0 := by omega
    subst hr
    split
    -- the deadline: the helper that still runs is cancelled
    · rename_i hexp
      have hexp : coreDeadlineExpired t.ntpDeadline now = true := hsame.ntpDeadline ▸ hexp
      have hcancel : ((((logged deps).ntpCancel.map fun cancel => cancel w₀)).getD w₀).calls =
          w.calls ++ [.poll 0, .cancel] := by
        show w₀.calls ++ [.cancel] = _
        rw [hcalls]
        simp
      rw [hcancel]
      refine ⟨.of_ended ?_ ?_ ?_ ?_ rfl ?_, 0, by simp [awaitCalls, hexp]⟩
      · have hafter := after_poll_zero (h.helper.trans (congrArg some (helperOf_eq_running hsync hterm)))
        have happend : w.calls ++ [.poll 0, .cancel] = (w.calls ++ [.poll 0]) ++ [.cancel] := by simp
        rw [happend, after_cancel hafter]
        rfl
      · exact (timeSyncFailed_frame { t₀ with ntpTerminating := true } now .timedOut).1
      · exact hsame.trustBeforeSync ▸ h.before
      · intro hact
        obtain ⟨hact', hlt⟩ := (timeSyncFailed_frame { t₀ with ntpTerminating := true } now .timedOut).2.2.2.2 hact
        exact ⟨hsame.ntpTestActive ▸ hact', hlt⟩
      · exact hsame.ntpTestAttempts.ge
    · rename_i hexp
      have hexp : coreDeadlineExpired t.ntpDeadline now = false := by
        simpa [hsame.ntpDeadline] using hexp
      rw [hcalls]
      refine ⟨?_, 0, by simp [awaitCalls, hexp]⟩
      have hstill := Moved.of_same h hsame rfl
      refine ⟨⟨?_, hstill.owns.exclusive, hstill.owns.before, hstill.owns.applied, hstill.owns.deadline,
        hstill.owns.tests⟩, List.prefix_append _ _, hstill.ends, fun hact => ?_⟩
      · rw [after_poll_zero h.helper, hsame.helperOf]
      · have hcounts := hstill.counts hact
        have hzero : startedHelpers [HelperCall.poll 0] = 0 := rfl
        rw [startedHelpers_append, hzero]
        omega

/-- A cancelled helper is reaped first; then there is none. -/
theorem moved_reapNtp (deps : GatewayApplicationDependencies ω σ κ device) (t : ApplicationTime)
    (w : Logged ω) (h : Owns t w.calls) :
    let r := reapNtp (logged deps) t w
    Moved t w.calls r.2.1 r.2.2.calls ∧ (r.1 = true → r.2.1.ntpTerminating = false) ∧
      (t.ntpTerminating = false → r = (true, t, w)) := by
  simp only []
  obtain ⟨hcalls, _⟩ := pollNtp_logged deps t w
  unfold reapNtp
  split
  · rename_i hterm
    have hnot := h.exclusive hterm
    generalize pollNtp (logged deps) t w = polled at hcalls
    obtain ⟨r, t₀, w₀⟩ := polled
    simp only at hcalls ⊢
    have htests : t.ntpTestActive = true → t.ntpTestActive = true ∧ t.ntpTestAttempts < 3 := by
      intro hact
      obtain ⟨hle, hthree⟩ := h.tests hact
      exact ⟨hact, lt_of_le_of_ne hle fun heq => hnot (hthree heq)⟩
    split
    · rename_i hr
      subst hr
      rw [hcalls]
      exact ⟨.of_ended (after_poll_zero h.helper) hnot h.before htests rfl (le_refl _), nofun,
        fun hoff => absurd (hterm.symm.trans hoff) (by decide)⟩
    · rename_i hr
      rw [hcalls]
      refine ⟨.of_ended ?_ hnot h.before htests rfl (le_refl _), fun _ => rfl,
        fun hoff => absurd (hterm.symm.trans hoff) (by decide)⟩
      rw [after_poll h.helper hr]
      simp [helperOf, hnot]
  · rename_i hterm
    exact ⟨.refl h, fun _ => by simpa using hterm, fun _ => rfl⟩

/-- A helper is started when there is none. -/
theorem moved_startSync (h : Owns t w.calls) (hnone : t.trust ≠ .syncing) (hterm : t.ntpTerminating = false)
    (happlied : t.timeSettingsApplied = true ∧ t.ntpEnabled ≠ 0 ∧ t.ntpServer.bytes ≠ []) :
    Moved t w.calls (startSync (logged deps) t now w).1 (startSync (logged deps) t now w).2.calls := by
  have hhelper : Helper.after w.calls = some .none := by
    rw [h.helper, helperOf_eq_none hnone hterm]
  have htests : t.ntpTestActive = true → t.ntpTestAttempts < 3 := by
    intro hact
    obtain ⟨hle, hthree⟩ := h.tests hact
    exact lt_of_le_of_ne hle fun heq => hnone (hthree heq)
  have hafter : ∀ r, Helper.after (w.calls ++ [.start r]) = some (if r = 0 then .running else .none) := by
    intro r
    rw [Helper.after_snoc, hhelper]
    rfl
  unfold startSync
  simp only [logged, Option.map_some, Option.getD_some, noting]
  split
  · rename_i hstart
    obtain ⟨hr, rfl⟩ := Prod.mk.inj hstart
    rw [hr]
    refine ⟨⟨?_, ?_, hnone, fun _ => happlied, fun _ => rfl, ?_⟩, List.prefix_append _ _, id, fun hact => ?_⟩
    · rw [hafter]
      simp [helperOf, hterm]
    · intro hon
      exact absurd (hterm.symm.trans hon) (by decide)
    · intro hact
      have hact : t.ntpTestActive = true := hact
      have hlt := htests hact
      simp only [if_pos hact]
      exact ⟨hlt, fun _ => trivial⟩
    · have hact : t.ntpTestActive = true := hact
      have hone : startedHelpers [HelperCall.start 0] = 1 := rfl
      simp only [if_pos hact]
      rw [startedHelpers_append, hone]
      omega
  · rename_i r w₁ hr hstart
    obtain ⟨hresult, rfl⟩ := Prod.mk.inj hstart
    rw [hresult]
    have hr : r ≠ 0 := hr
    obtain ⟨hnot, hterm', hbefore, hattempts, htests'⟩ := timeSyncFailed_frame
      { t with
        trustBeforeSync := t.trust, ntpAttempts := saturate t.ntpAttempts, lastNtpAttempt := now
        ntpTestAttempts := if t.ntpTestActive then t.ntpTestAttempts + 1 else t.ntpTestAttempts } now .failed
    refine .of_ended ?_ hnot (fun heq => hnone (hbefore.symm.trans heq)) ?_ ?_ ?_
    · rw [hafter, if_neg hr, helperOf_eq_none hnot (hterm'.trans hterm)]
    · intro hact
      obtain ⟨hact', hlt⟩ := htests' hact
      exact ⟨hact', hattempts ▸ hlt⟩
    · simp [startedHelpers, hr]
    · rw [hattempts]
      simp only []
      split <;> omega

/-- The calls of a step that finds a helper running, under settings that have not changed. -/
theorem moved_timeSyncFollow (deps : GatewayApplicationDependencies ω σ κ device) (stopping : Bool)
    (n : NetworkRuntime) (t : ApplicationTime) (now : CoreTick) (w : Logged ω) (h : Owns t w.calls) :
    let r := timeSyncFollow (logged deps) stopping n t now w
    Moved t w.calls r.1 r.2.calls ∧
      (stopping = true → r.1.trust ≠ .syncing ∨ t.trust = .syncing) ∧
      (stopping = false → t.trust = .syncing → ∃ r', r.2.calls =
        w.calls ++ awaitCalls r' (coreDeadlineExpired t.ntpDeadline now)) := by
  simp only []
  obtain ⟨hreap, hgone, hnone⟩ := moved_reapNtp deps t w h
  have hreapTrust : (reapNtp (logged deps) t w).2.1.trust = t.trust := by
    unfold reapNtp
    split
    · split
      split <;> rfl
    · rfl
  unfold timeSyncFollow
  generalize reapNtp (logged deps) t w = reaped at *
  obtain ⟨gone, t₁, w₁⟩ := reaped
  simp only at hreap hgone hnone hreapTrust ⊢
  cases gone with
  | false =>
    refine ⟨hreap, fun _ => ?_, fun _ hsync => ?_⟩
    · rw [hreapTrust]
      exact Classical.or_iff_not_imp_right.mpr id
    · exact absurd (hnone (h.notTerminating hsync)) (by simp)
  | true =>
    have hterm := hgone rfl
    simp only []
    split
    · rename_i hidle
      refine ⟨hreap, fun _ => ?_, fun hgo hsync => ?_⟩
      · rw [hreapTrust]
        exact Classical.or_iff_not_imp_right.mpr id
      · exfalso
        obtain ⟨happlied, henabled, hserver⟩ := hreap.owns.applied (hreapTrust.trans hsync)
        simp [hgo, happlied, henabled, hserver] at hidle
    · rename_i hbusy
      simp only [not_or, not_not] at hbusy
      obtain ⟨hgo, happlied, henabled, hserver⟩ := hbusy
      have hgo' : ∀ {p : Prop}, stopping = true → p := fun hstop => absurd hstop hgo
      split
      · rename_i hsync
        obtain ⟨hawait, r', hcalls⟩ := moved_awaitSync deps t₁ now w₁ hreap.owns hsync
        refine ⟨hreap.trans hawait, fun hstop => hgo' hstop, fun _ hsync' => ?_⟩
        obtain ⟨_, rfl, rfl⟩ := Prod.mk.inj (hnone (h.notTerminating hsync'))
        exact ⟨r', hcalls⟩
      · rename_i hsync
        have hnotSync : ∀ {p : Prop}, t.trust = .syncing → p :=
          fun heq => absurd (hreapTrust.trans heq) hsync
        split
        · have hnot : (if t₁.trust = .synced ∧ coreDeadlineExpired t₁.ntpNormalDeadline now then .holdover
              else t₁.trust) ≠ GatewayTimeTrust.syncing := by
            split
            · decide
            · exact hsync
          have htests : t₁.ntpTestActive = true → t₁.ntpTestAttempts < 3 := by
            intro hact
            obtain ⟨hle, hthree⟩ := hreap.owns.tests hact
            exact lt_of_le_of_ne hle fun heq => hsync (hthree heq)
          refine ⟨hreap.trans ⟨⟨?_, fun _ => hnot, hreap.owns.before, fun heq => absurd heq hnot,
            fun heq => absurd heq hnot, ?_⟩, List.prefix_rfl, id, fun _ => le_refl _⟩,
            fun hstop => hgo' hstop, fun _ heq => hnotSync heq⟩
          · rw [hreap.owns.helper, helperOf_eq_none hsync hterm]
            refine (congrArg some ?_).symm
            exact helperOf_eq_none hnot hterm
          · intro hact
            have hlt := htests hact
            exact ⟨hlt.le, fun heq => absurd heq hlt.ne⟩
        split
        · exact ⟨hreap, fun hstop => hgo' hstop, fun _ heq => hnotSync heq⟩
        · exact ⟨hreap.trans (moved_startSync deps t₁ now w₁ hreap.owns hsync hterm
            ⟨happlied, henabled, hserver⟩), fun hstop => hgo' hstop, fun _ heq => hnotSync heq⟩

/-- Whether settings have been taken is no matter of the synchronization. -/
theorem applied_timeSyncFollow (stopping : Bool) (n : NetworkRuntime) (t : ApplicationTime) (now : CoreTick)
    (w : ω) :
    (timeSyncFollow deps stopping n t now w).1.timeSettingsApplied = t.timeSettingsApplied := by
  have hsave : ∀ t : ApplicationTime, ∀ w, (rtcSaveTrusted deps t w).1.timeSettingsApplied = t.timeSettingsApplied := by
    intro t w
    unfold rtcSaveTrusted
    split
    · rfl
    · split <;> rfl
  have hpoll : ∀ t : ApplicationTime, ∀ w, (pollNtp deps t w).2.1.timeSettingsApplied = t.timeSettingsApplied := by
    intro t w
    unfold pollNtp
    split
    · rfl
    · simp only []
      split <;> rfl
  have hreap : (reapNtp deps t w).2.1.timeSettingsApplied = t.timeSettingsApplied := by
    unfold reapNtp
    split
    · simp only []
      split <;> rfl
    · rfl
  have hawait : ∀ t : ApplicationTime, ∀ w, (awaitSync deps t now w).1.timeSettingsApplied = t.timeSettingsApplied := by
    intro t w
    unfold awaitSync
    simp only []
    split
    · unfold timeSyncSucceeded
      simp only []
      split
      · exact hpoll t w
      · rw [hsave]
        exact hpoll t w
    split
    · exact hpoll t w
    · split
      · exact hpoll t w
      · exact hpoll t w
  have hstart : ∀ t : ApplicationTime, ∀ w, (startSync deps t now w).1.timeSettingsApplied = t.timeSettingsApplied := by
    intro t w
    unfold startSync
    simp only []
    split <;> rfl
  unfold timeSyncFollow
  generalize reapNtp deps t w = reaped at hreap
  obtain ⟨gone, t₁, w₁⟩ := reaped
  simp only at hreap
  cases gone with
  | false => exact hreap
  | true =>
    simp only []
    split
    · exact hreap
    split
    · rw [hawait, hreap]
    split
    · exact hreap
    · split
      · exact hreap
      · rw [hstart, hreap]

/-- The gateway is ending, as a step of the time sees it. -/
def timeStops (stop : Bool) (c : GatewayCoordinator σ κ device) : Bool := stop || endingState c.state

/-- A step of the time. A helper that runs is cancelled when the gateway ends, and when it runs for
    settings that are no more; else it is polled. -/
theorem moved_timeSyncStep (deps : GatewayApplicationDependencies ω σ κ device) (stop : Bool)
    (c : GatewayCoordinator σ κ device) (n : NetworkRuntime) (t : ApplicationTime) (now : CoreTick)
    (w : Logged ω) (h : Owns t w.calls) :
    let r := timeSyncStep (logged deps) stop c n t now w
    Moved t w.calls r.1 r.2.calls ∧
      (timeStops stop c = true → r.1.trust ≠ .syncing) ∧
      (t.trust = .syncing → timeStops stop c = true → ∃ rest, r.2.calls = w.calls ++ .cancel :: rest) ∧
      (t.trust = .syncing → timeStops stop c = false → runningState c.state = true →
        ¬ SettingsAgree t c.selected.settings → ∃ rest, r.2.calls = w.calls ++ .cancel :: rest) ∧
      (t.trust = .syncing → timeStops stop c = false → runningState c.state = true →
        SettingsAgree t c.selected.settings →
          ∃ r', r.2.calls = w.calls ++ awaitCalls r' (coreDeadlineExpired t.ntpDeadline now)) ∧
      (r.1.timeSettingsApplied = true → t.timeSettingsApplied = true ∨ runningState c.state = true) := by
  have hstops : (stop || decide (c.state = .shuttingDown) || decide (c.state = .stopped) ||
      decide (c.state = .fatalError)) = timeStops stop c := by
    simp only [timeStops, endingState, Bool.or_assoc]
  simp only []
  unfold timeSyncStep
  simp only [hstops]
  have hclear : SameHelper t { t with ntpNetworkDeferred := false } := by constructor <;> rfl
  have hcleared := Moved.of_same h hclear rfl
  -- when it stops, a helper under way is cancelled first and nothing is started
  cases hstop : timeStops stop c with
  | true =>
    have hnever : ∀ {p : Prop}, true = false → p := fun heq => absurd heq (by decide)
    have hends : ∀ (t₁ : ApplicationTime), Owns t₁ w.calls →
        Moved t₁ w.calls { t₁ with ntpTestActive := false } w.calls := by
      intro t₁ h₁
      exact ⟨⟨h₁.helper, h₁.exclusive, h₁.before, h₁.applied, h₁.deadline, by simp⟩, List.prefix_rfl, by simp, by simp⟩
    have hended := hcleared.trans (hends _ hcleared.owns)
    simp only [if_true]
    split
    · rename_i hcancel
      obtain ⟨hsync, hterm⟩ := hcancel
      have hterm : t.ntpTerminating = false := by simpa using hterm
      have hafter : Helper.after (w.calls ++ [.cancel]) = some .cancelled :=
        after_cancel (h.helper.trans (congrArg some (helperOf_eq_running hsync hterm)))
      have hcancelled : Owns
          { t with
            ntpNetworkDeferred := false, ntpTestActive := false, ntpTerminating := true
            trust := t.trustBeforeSync, lastNtpResult := .notAttempted } (w.calls ++ [.cancel]) :=
        ⟨hafter, fun _ => h.before, h.before, fun heq => absurd heq h.before,
          fun heq => absurd heq h.before, by simp⟩
      obtain ⟨hfollow, hquiet, _⟩ := moved_timeSyncFollow deps true n _ now
        ((((logged deps).ntpCancel.map fun cancel => cancel w)).getD w) hcancelled
      refine ⟨(Moved.trans ⟨hcancelled, List.prefix_append _ _, by simp, by simp⟩ hfollow), fun _ => ?_,
        fun _ _ => ?_, fun _ heq => hnever heq, fun _ heq => hnever heq, ?_⟩
      · exact (hquiet rfl).resolve_right h.before
      · obtain ⟨rest, hrest⟩ := hfollow.grows
        exact ⟨rest, by rw [← hrest]; simp [logged]⟩
      · rw [applied_timeSyncFollow]
        exact .inl
    · rename_i hgo
      have hnot : t.trust ≠ .syncing := by
        intro hsync
        exact hgo ⟨hsync, by simp [h.notTerminating hsync]⟩
      obtain ⟨hfollow, hquiet, _⟩ := moved_timeSyncFollow deps true n _ now w hended.owns
      refine ⟨hended.trans hfollow, fun _ => (hquiet rfl).resolve_right hnot, fun hsync => absurd hsync hnot,
        fun _ heq => hnever heq, fun _ heq => hnever heq, ?_⟩
      rw [applied_timeSyncFollow]
      exact .inl
  | false =>
    simp only [Bool.false_eq_true, if_false]
    -- else the settings come first, and the helper is awaited on what they left
    obtain ⟨hsettings, hsame, hcancel, happlied⟩ := moved_timeSettingsStep deps c.state c.selected.settings
      { t with ntpNetworkDeferred := false } w hcleared.owns
    generalize timeSettingsStep (logged deps) c.state c.selected.settings
      { t with ntpNetworkDeferred := false } w = settled at *
    obtain ⟨t₁, w₁⟩ := settled
    simp only at hsettings hsame hcancel happlied ⊢
    obtain ⟨hfollow, _, hawait⟩ := moved_timeSyncFollow deps false n t₁ now w₁ hsettings.owns
    refine ⟨(hcleared.trans hsettings).trans hfollow, fun heq => heq.elim, fun _ heq => heq.elim,
      fun hsync _ hrun hnot => ?_, fun hsync _ hrun hagree => ?_, ?_⟩
    · obtain ⟨rest, hrest⟩ := hfollow.grows
      refine ⟨rest, ?_⟩
      rw [← hrest, hcancel hrun hnot hsync]
      simp
    · obtain ⟨hsame, hcalls⟩ := hsame hrun hagree
      rw [← hcalls, ← hsame.ntpDeadline]
      exact hawait rfl (hsame.trust.trans hsync)
    · rw [applied_timeSyncFollow]
      exact happlied

/-! ## The step -/

/-- The application as a step comes to the time. -/
def timeEntry (deps : GatewayApplicationDependencies ω σ κ device) (a : GatewayApplication ω σ κ device) :
    GatewayApplication ω σ κ device :=
  backlightStep deps (deliverSignal deps
    (configTransactionStep deps (beforeTransaction deps a) (deps.clock a.world).1))

/-- What a step has the time do. -/
def timeOfStep (deps : GatewayApplicationDependencies ω σ κ device) (a : GatewayApplication ω σ κ device) :
    ApplicationTime × ω :=
  timeSyncStep deps (timeEntry deps a).stopRequested (timeEntry deps a).coordinator
    (timeEntry deps a).network (timeEntry deps a).time (deps.clock a.world).1 (timeEntry deps a).world

theorem timeEntry_frame :
    (timeEntry deps a).time = a.time ∧
      (timeEntry deps a).coordinator.state = (beforeNetwork deps a).coordinator.state := by
  have hside := transactionSide_configTransactionStep deps (beforeTransaction deps a) (deps.clock a.world).1
  have hfollow := (followed_networkFollow deps (polledNetwork deps a) (deps.clock a.world).1).side
  have hrecord : (polledNetwork deps a).time = a.time := by
    unfold polledNetwork recordNetworkState
    split
    · rw [advance_eq]
      rfl
    · rfl
  obtain ⟨w, backlight, hback⟩ := backlightStep_eq deps (deliverSignal deps
    (configTransactionStep deps (beforeTransaction deps a) (deps.clock a.world).1))
  rw [timeEntry, hback]
  exact ⟨hside.time.trans (hfollow.time.trans hrecord),
    hside.coordinatorState.trans (beforeTransaction_state deps a).1⟩

/-- The time stands behind the configuration transaction and the backlight. -/
theorem sideSteps_timeEntry :
    sideSteps deps (configTransactionStep deps (beforeTransaction deps a) (deps.clock a.world).1)
        (deps.clock a.world).1 =
      { timeEntry deps a with time := (timeOfStep deps a).1, world := (timeOfStep deps a).2 } := by
  show applicationTimeStep deps (timeEntry deps a) (deps.clock a.world).1 = _
  unfold applicationTimeStep timeOfStep
  generalize timeSyncStep deps (timeEntry deps a).stopRequested (timeEntry deps a).coordinator
    (timeEntry deps a).network (timeEntry deps a).time (deps.clock a.world).1 (timeEntry deps a).world
    = timed
  obtain ⟨time, world⟩ := timed
  rfl

theorem timeEntry_processState : (timeEntry deps a).processState = a.processState := by
  have hside := transactionSide_configTransactionStep deps (beforeTransaction deps a) (deps.clock a.world).1
  obtain ⟨w, backlight, hback⟩ := backlightStep_eq deps (deliverSignal deps
    (configTransactionStep deps (beforeTransaction deps a) (deps.clock a.world).1))
  rw [timeEntry, hback]
  exact hside.processState.trans (beforeTransaction_state deps a).2

/-- The revision is noted beside what the time is about. -/
theorem observeRevision_time :
    (observeRevision a).time = a.time ∧ (observeRevision a).world = a.world ∧
      (observeRevision a).stopRequested = a.stopRequested ∧
      (observeRevision a).coordinator = a.coordinator ∧
      (observeRevision a).processState = a.processState := by
  unfold observeRevision
  simp only []
  split
  · split
    · rw [advance_eq]
      exact ⟨rfl, rfl, rfl, rfl, rfl⟩
    · exact ⟨rfl, rfl, rfl, rfl, rfl⟩
  split
  · rw [advance_eq]
    exact ⟨rfl, rfl, rfl, rfl, rfl⟩
  · exact ⟨rfl, rfl, rfl, rfl, rfl⟩

/-- The end of a step settles only how far the process has come; a fatal error also begins
    the shutdown. -/
theorem processStep_time :
    (processStep a now).time = a.time ∧ (processStep a now).world = a.world ∧
      (processStep a now).stopRequested = a.stopRequested ∧
      (processStep a now).coordinator.selected = a.coordinator.selected ∧
      endingState (processStep a now).coordinator.state = endingState a.coordinator.state ∧
      runningState (processStep a now).coordinator.state = runningState a.coordinator.state := by
  unfold processStep
  split
  · rename_i hfatal
    obtain ⟨hselected, hend⟩ := beginShutdown_kept a.coordinator now
    have hends : endingState (gatewayCoordinatorRequestShutdown a.coordinator now).state = true ∧
        runningState (gatewayCoordinatorRequestShutdown a.coordinator now).state = false := by
      unfold gatewayCoordinatorRequestShutdown
      rcases hend with h | h <;> rw [h] <;> exact ⟨rfl, rfl⟩
    refine ⟨rfl, rfl, rfl, hselected, ?_, ?_⟩
    · rw [hends.1, hfatal]
      rfl
    · rw [hends.2, hfatal]
      rfl
  all_goals exact ⟨rfl, rfl, rfl, rfl, rfl, rfl⟩

/-- The process is stopped only behind a stopped coordinator, once the helper is gone. -/
theorem processStep_stopped {a : GatewayApplication ω σ κ device} {now : CoreTick}
    (h : (processStep a now).processState = .stopped) :
    a.processState = .stopped ∨
      endingState a.coordinator.state = true ∧ a.time.ntpTerminating = false := by
  unfold processStep at h
  split at h
  · cases h
  · cases h
  · cases h
  · cases h
  · cases h
  · rename_i hstopped
    right
    refine ⟨by rw [hstopped]; rfl, ?_⟩
    simp only at h
    split at h
    · cases h
    · rename_i hbusy
      simpa using (not_or.mp hbusy).1
  · exact .inl h

/-- How a step leaves what the time is about. -/
theorem step_time (deps : GatewayApplicationDependencies ω σ κ device)
    (a : GatewayApplication ω σ κ device) (hrun : a.processState ≠ .stopped) :
    let e := gatewayApplicationStep deps a
    e.time = (timeOfStep deps a).1 ∧ e.world = (timeOfStep deps a).2 ∧
      e.stopRequested = (timeEntry deps a).stopRequested ∧
      e.coordinator.selected = (timeEntry deps a).coordinator.selected ∧
      endingState e.coordinator.state = endingState (timeEntry deps a).coordinator.state ∧
      runningState e.coordinator.state = runningState (timeEntry deps a).coordinator.state ∧
      (e.processState = .stopped → a.processState = .stopped ∨
        endingState (timeEntry deps a).coordinator.state = true ∧
          (timeOfStep deps a).1.ntpTerminating = false) := by
  have hprocess := timeEntry_processState deps a
  simp only []
  rw [gatewayApplicationStep_eq deps a hrun, sideSteps_timeEntry]
  generalize timeEntry deps a = entry at *
  generalize timeOfStep deps a = timed at *
  obtain ⟨time, world⟩ := timed
  obtain ⟨htime, hworld, hstop, hcoordinator, hstate⟩ :=
    observeRevision_time { entry with time := time, world := world }
  generalize observeRevision { entry with time := time, world := world } = o at *
  simp only at htime hworld hstop hcoordinator hstate ⊢
  obtain ⟨htime', hworld', hstop', hselected', hending', hrunning'⟩ :=
    processStep_time o (deps.clock a.world).1
  refine ⟨htime'.trans htime, hworld'.trans hworld, hstop'.trans hstop, ?_, ?_, ?_, fun h => ?_⟩
  · rw [hselected', hcoordinator]
  · rw [hending', hcoordinator]
  · rw [hrunning', hcoordinator]
  · rw [← hprocess, ← hstate, ← hcoordinator, ← htime]
    exact processStep_stopped h

/-- The gateway has come to run, and may have begun to end. -/
def begunState (state : GatewayApplicationState) : Bool := runningState state || endingState state

theorem ending_gatewayCoordinatorStep (stop : Bool) (c : GatewayCoordinator σ κ device) (now : CoreTick)
    (w : ω) (hend : endingState c.state = true) :
    endingState (gatewayCoordinatorStep deps stop c now w).1.state = true := by
  cases stop with
  | true => exact (gatewayCoordinatorStep_stop deps c now w).2
  | false =>
    have hcases : c.state = .shuttingDown ∨ c.state = .stopped ∨ c.state = .fatalError := by
      simpa [endingState, or_assoc] using hend
    unfold gatewayCoordinatorStep
    simp only [Bool.false_eq_true, if_false]
    rcases hcases with h | h | h
    · simp only [h]
      rcases (stepShutdown_kept c now).2 with h' | h'
      · rw [h', h]
        rfl
      · rw [h']
        rfl
    · simp only [h]
      rfl
    · simp only [h]
      rfl

/-- A gateway that has come to run does not start again. -/
theorem begun_beforeNetwork (h : begunState a.coordinator.state = true) :
    begunState (beforeNetwork deps a).coordinator.state = true := by
  simp only [begunState, Bool.or_eq_true] at h ⊢
  rcases h with hrun | hend
  · rcases (beforeNetwork_coordinator deps a hrun).2 with ⟨_, hend⟩ | ⟨_, hsame⟩
    · exact .inr hend
    · exact .inl (hsame ▸ hrun)
  · right
    have hstep := ending_gatewayCoordinatorStep deps (deliverSignal deps (stepEntry deps a)).stopRequested
      (stepEntry deps a).coordinator (deps.clock a.world).1 (deliverSignal deps (stepEntry deps a)).world hend
    have hphase : (beforeNetwork deps a).coordinator =
        (coordinatorPhase deps (stepEntry deps a) (deps.clock a.world).1).coordinator := rfl
    rw [hphase, coordinatorPhase_coordinator deps (stepEntry deps a) (deps.clock a.world).1 fun heq => by
      rw [heq] at hstep
      exact absurd hstep (by decide)]
    exact hstep

/-- What holds of the helper between the calls. -/
structure HelperKept (a : GatewayApplication (Logged ω) σ κ device) : Prop where
  owns : Owns a.time a.world.calls
  begun : a.time.timeSettingsApplied = true → begunState a.coordinator.state = true
  stopped : a.processState = .stopped → helperOf a.time = .none

theorem helperKept_init (environment : Option (NetworkEnvironment × NetworkProfile)) (server : CString)
    (controller : GatewayController σ κ device) (now : CoreTick) (w : ω) :
    HelperKept (gatewayApplicationInit environment server controller now (Logged.mk w [])) where
  owns := ⟨rfl, nofun, nofun, nofun, nofun, nofun⟩
  begun := nofun
  stopped := nofun

/-- The step sees the gateway end. -/
def stepStops (deps : GatewayApplicationDependencies ω σ κ device) (a : GatewayApplication ω σ κ device) :
    Bool :=
  timeStops (timeEntry deps a).stopRequested (timeEntry deps a).coordinator

/-- The settings the step selects. -/
def stepSettings (deps : GatewayApplicationDependencies ω σ κ device) (a : GatewayApplication ω σ κ device) :
    GatewayProductSettings :=
  (timeEntry deps a).coordinator.selected.settings

/-- What the time of a step does with the helper it finds. -/
structure TimeOfStep (deps : GatewayApplicationDependencies ω σ κ device)
    (a : GatewayApplication (Logged ω) σ κ device) (t' : ApplicationTime) (calls' : List HelperCall) :
    Prop where
  moved : Moved a.time a.world.calls t' calls'
  quiet : stepStops (logged deps) a = true → t'.trust ≠ .syncing
  stops : a.time.trust = .syncing → stepStops (logged deps) a = true →
    ∃ rest, calls' = a.world.calls ++ .cancel :: rest
  changed : a.time.trust = .syncing → stepStops (logged deps) a = false →
    runningState (timeEntry (logged deps) a).coordinator.state = true →
      ¬ SettingsAgree a.time (stepSettings (logged deps) a) →
        ∃ rest, calls' = a.world.calls ++ .cancel :: rest
  polled : a.time.trust = .syncing → stepStops (logged deps) a = false →
    runningState (timeEntry (logged deps) a).coordinator.state = true →
      SettingsAgree a.time (stepSettings (logged deps) a) →
        ∃ r, calls' = a.world.calls ++
          awaitCalls r (coreDeadlineExpired a.time.ntpDeadline ((logged deps).clock a.world).1)
  applied : t'.timeSettingsApplied = true →
    a.time.timeSettingsApplied = true ∨
      runningState (timeEntry (logged deps) a).coordinator.state = true

theorem timeOfStep_spec (a : GatewayApplication (Logged ω) σ κ device) (h : Owns a.time a.world.calls) :
    TimeOfStep deps a (timeOfStep (logged deps) a).1 (timeOfStep (logged deps) a).2.calls := by
  have htime := (timeEntry_frame (logged deps) a).1
  have hcalls : (timeEntry (logged deps) a).world.calls = a.world.calls :=
    quiet_beforeTime (quiet_logged deps) a
  have hspec := moved_timeSyncStep deps (timeEntry (logged deps) a).stopRequested
    (timeEntry (logged deps) a).coordinator (timeEntry (logged deps) a).network
    (timeEntry (logged deps) a).time ((logged deps).clock a.world).1 (timeEntry (logged deps) a).world
    (by rw [htime, hcalls]; exact h)
  have heq : timeOfStep (logged deps) a = timeSyncStep (logged deps) (timeEntry (logged deps) a).stopRequested
      (timeEntry (logged deps) a).coordinator (timeEntry (logged deps) a).network
      (timeEntry (logged deps) a).time ((logged deps).clock a.world).1 (timeEntry (logged deps) a).world := rfl
  rw [← heq, htime, hcalls] at hspec
  generalize timeOfStep (logged deps) a = r at hspec
  obtain ⟨h₁, h₂, h₃, h₄, h₅, h₆⟩ := hspec
  exact ⟨h₁, h₂, h₃, h₄, h₅, h₆⟩

theorem helperKept_step (a : GatewayApplication (Logged ω) σ κ device) (h : HelperKept a) :
    HelperKept (gatewayApplicationStep (logged deps) a) ∧
      Moved a.time a.world.calls (gatewayApplicationStep (logged deps) a).time
        (gatewayApplicationStep (logged deps) a).world.calls := by
  by_cases hrun : a.processState = .stopped
  · have hsame : gatewayApplicationStep (logged deps) a = a := by
      unfold gatewayApplicationStep
      rw [if_pos hrun]
    rw [hsame]
    exact ⟨h, .refl h.owns⟩
  · obtain ⟨htime, hworld, _, _, hending, hrunning, hstopped⟩ := step_time (logged deps) a hrun
    have hspec := timeOfStep_spec deps a h.owns
    have hbegun : a.time.timeSettingsApplied = true →
        begunState (timeEntry (logged deps) a).coordinator.state = true := by
      intro ha
      rw [(timeEntry_frame (logged deps) a).2]
      exact begun_beforeNetwork (logged deps) a (h.begun ha)
    rw [← htime, ← hworld] at hspec
    refine ⟨⟨hspec.moved.owns, ?_, ?_⟩, hspec.moved⟩
    · intro ha
      have hstate : begunState (gatewayApplicationStep (logged deps) a).coordinator.state =
          begunState (timeEntry (logged deps) a).coordinator.state := by
        unfold begunState
        rw [hending, hrunning]
      rw [hstate]
      rcases hspec.applied ha with hbefore | hnow
      · exact hbegun hbefore
      · simp [begunState, hnow]
    · intro hs
      rcases hstopped hs with hbefore | ⟨hend, hterm⟩
      · exact absurd hbefore hrun
      · rw [← htime] at hterm
        exact helperOf_eq_none (hspec.quiet (by simp [stepStops, timeStops, hend])) hterm

/-! ## The requests -/

/-- While the test goes on, no more helpers are started than the test counts. -/
def TestCounted (a a' : GatewayApplication (Logged ω) σ κ device) : Prop :=
  a.time.ntpTestActive = true → a'.time.ntpTestActive = true →
    startedHelpers a'.world.calls + a.time.ntpTestAttempts ≤
      startedHelpers a.world.calls + a'.time.ntpTestAttempts

/-- A request that has nothing to do with the helper. -/
theorem HelperKept.of_same {a a' : GatewayApplication (Logged ω) σ κ device} (h : HelperKept a)
    (htime : a'.time = a.time) (hcalls : a'.world.calls = a.world.calls)
    (hcoordinator : a'.coordinator = a.coordinator) (hprocess : a'.processState = a.processState) :
    HelperKept a' ∧ TestCounted a a' := by
  refine ⟨⟨?_, ?_, ?_⟩, ?_⟩
  · rw [htime, hcalls]
    exact h.owns
  · rw [htime, hcoordinator]
    exact h.begun
  · rw [htime, hprocess]
    exact h.stopped
  · intro _ _
    rw [htime, hcalls]

theorem requestConfiguration_helper (deps : GatewayApplicationDependencies ω σ κ device)
    (a : GatewayApplication (Logged ω) σ κ device) (config : GatewayPersistentConfig) :
    let a' := (gatewayApplicationRequestConfiguration (logged deps) a config).2
    a'.time = a.time ∧ a'.world.calls = a.world.calls ∧ a'.coordinator = a.coordinator ∧
      a'.processState = a.processState := by
  have hcalls := quiet_requestConfiguration (quiet_logged deps) a config
  have hresult := requestOutcome (logged deps) a config
  simp only []
  generalize gatewayApplicationRequestConfiguration (logged deps) a config = result at hcalls hresult
  cases hresult with
  | accepted w =>
    simp only [acceptRequest, GatewayApplication.withTransaction] at hcalls ⊢
    rw [advance_eq] at hcalls ⊢
    exact ⟨rfl, hcalls, rfl, rfl⟩
  | refused | rejected | unchanged | notStaged => exact ⟨rfl, hcalls, rfl, rfl⟩

theorem acceptManualTime_frame (result : GatewaySystemTimeResult) (w : Logged ω) :
    SameHelper { t with trust := .manual } (acceptManualTime (logged deps) t result w).2.1 ∧
      (acceptManualTime (logged deps) t result w).2.2.calls = w.calls := by
  unfold acceptManualTime
  split
  · exact sameHelper_rtcSaveTrusted deps { t with trust := .manual } w
  · exact ⟨by constructor <;> rfl, rfl⟩

/-- The clock is set by hand when there is no helper. -/
theorem helperKept_systemTimeSet (a : GatewayApplication (Logged ω) σ κ device) (v : GatewaySystemTime)
    (h : HelperKept a) :
    HelperKept (gatewayApplicationSystemTimeSet (logged deps) a v).2 ∧
      TestCounted a (gatewayApplicationSystemTimeSet (logged deps) a v).2 := by
  unfold gatewayApplicationSystemTimeSet
  split
  · exact h.of_same rfl rfl rfl rfl
  split
  · exact h.of_same rfl rfl rfl rfl
  · rename_i hfree
    simp only [not_or, Bool.not_eq_true] at hfree
    obtain ⟨hsync, hterm, _, hrun⟩ := hfree
    have hnone : Helper.after a.world.calls = some .none := by
      rw [h.owns.helper, helperOf_eq_none hsync hterm]
    have hafter : Helper.after (a.world.calls ++ [.setClock]) = some .none := by
      rw [Helper.after_snoc, hnone]
      rfl
    have htests : a.time.ntpTestActive = true → a.time.ntpTestAttempts ≤ 3 ∧ a.time.ntpTestAttempts ≠ 3 := by
      intro hact
      obtain ⟨hle, hthree⟩ := h.owns.tests hact
      exact ⟨hle, fun heq => hsync (hthree heq)⟩
    have hzero : startedHelpers [HelperCall.setClock] = 0 := rfl
    have hset : ((logged deps).systemTimeSet v a.world).2.calls = a.world.calls ++ [.setClock] := rfl
    generalize (logged deps).systemTimeSet v a.world = answered at hset
    obtain ⟨result, w⟩ := answered
    simp only at hset ⊢
    split
    · obtain ⟨hsame, hcalls⟩ := acceptManualTime_frame deps a.time result w
      rw [advance_eq]
      simp only
      generalize acceptManualTime (logged deps) a.time result w = accepted at hsame hcalls
      obtain ⟨result', t', w'⟩ := accepted
      simp only at hsame hcalls ⊢
      have hmanual : Owns { a.time with trust := .manual } w'.calls := by
        rw [hcalls, hset]
        refine ⟨?_, fun _ => nofun, h.owns.before, nofun, nofun, fun hact => ?_⟩
        · rw [hafter]
          simp [helperOf, hterm]
        · obtain ⟨hle, hne⟩ := htests hact
          exact ⟨hle, fun heq => absurd heq hne⟩
      have hmoved := Moved.of_same hmanual hsame rfl
      refine ⟨⟨hmoved.owns, fun ha => h.begun ?_, fun hs => absurd hs hrun⟩, fun _ _ => ?_⟩
      · exact hsame.timeSettingsApplied ▸ ha
      · rw [hcalls, hset, hsame.ntpTestAttempts, startedHelpers_append, hzero]
        exact le_refl _
    · have hafter' : Helper.after w.calls = some (helperOf a.time) := by
        rw [hset, hafter, helperOf_eq_none hsync hterm]
      refine ⟨⟨⟨hafter', h.owns.exclusive, h.owns.before, h.owns.applied, h.owns.deadline, h.owns.tests⟩,
        h.begun, h.stopped⟩, fun _ _ => ?_⟩
      rw [hset, startedHelpers_append, hzero]
      exact le_refl _

/-- How a request about the diagnostic test may end. -/
theorem ntpTest_cases (enabled : Bool) :
    (gatewayApplicationNtpTest deps a enabled).2 = a ∨
      enabled ≠ a.time.ntpTestActive ∧ ∃ retry normal next,
        (gatewayApplicationNtpTest deps a enabled).2 =
          { gatewayApplicationRevisionAdvance a with
            world := (deps.clock a.world).2
            time :=
              { a.time with
                ntpTestActive := enabled
                ntpTestAttempts := if enabled then 0 else a.time.ntpTestAttempts
                ntpRetryDeadline := retry, ntpNormalDeadline := normal, nextNtpAttempt := next } } := by
  unfold gatewayApplicationNtpTest
  split
  · exact .inl rfl
  split
  · exact .inl rfl
  split
  · exact .inl rfl
  · rename_i hne
    refine .inr ⟨hne, ?_⟩
    rw [advance_eq]
    cases enabled with
    | true =>
      simp only [if_true]
      split
      · exact ⟨_, _, _, rfl⟩
      · exact ⟨_, _, _, rfl⟩
    | false =>
      simp only [Bool.false_eq_true, if_false]
      split
      · exact ⟨_, _, _, rfl⟩
      · exact ⟨_, _, _, rfl⟩

theorem helperKept_ntpTest (a : GatewayApplication (Logged ω) σ κ device) (enabled : Bool) (h : HelperKept a) :
    HelperKept (gatewayApplicationNtpTest (logged deps) a enabled).2 ∧
      TestCounted a (gatewayApplicationNtpTest (logged deps) a enabled).2 := by
  rcases ntpTest_cases (logged deps) a enabled with hsame | ⟨hne, retry, normal, next, heq⟩
  · rw [hsame]
    exact h.of_same rfl rfl rfl rfl
  · rw [heq, advance_eq]
    have htests : ∀ n, n = (if enabled = true then 0 else a.time.ntpTestAttempts) → enabled = true →
        n ≤ 3 ∧ (n = 3 → a.time.trust = .syncing) := by
      intro n hn hon
      rw [if_pos hon] at hn
      subst hn
      exact ⟨by decide, nofun⟩
    refine ⟨⟨⟨h.owns.helper, h.owns.exclusive, h.owns.before, h.owns.applied, h.owns.deadline,
      htests _ rfl⟩, h.begun, h.stopped⟩, fun hact hact' => ?_⟩
    exact absurd (hact'.trans hact.symm) hne

theorem helperKept_exec (a : GatewayApplication (Logged ω) σ κ device) (call : ApplicationCall)
    (h : HelperKept a) :
    HelperKept (call.exec (logged deps) a) ∧ TestCounted a (call.exec (logged deps) a) := by
  cases call with
  | step =>
    obtain ⟨hkept, hmoved⟩ := helperKept_step deps a h
    exact ⟨hkept, fun _ => hmoved.counts⟩
  | requestConfiguration config =>
    obtain ⟨htime, hcalls, hcoordinator, hprocess⟩ := requestConfiguration_helper deps a config
    exact h.of_same htime hcalls hcoordinator hprocess
  | backlightSet on =>
    simp only [ApplicationCall.exec]
    unfold gatewayApplicationBacklightSet
    split
    · exact h.of_same rfl rfl rfl rfl
    · simp only []
      have hrequest := requestConfiguration_helper deps a
        { a.coordinator.selected with settings := { a.coordinator.selected.settings with backlightOn := on } }
      generalize gatewayApplicationRequestConfiguration (logged deps) a _ = result at hrequest ⊢
      obtain ⟨htime, hcalls, hcoordinator, hprocess⟩ := hrequest
      split <;> exact h.of_same htime hcalls hcoordinator hprocess
  | networkApply settings =>
    have hcalls := quiet_networkApply (quiet_logged deps) a settings
    simp only [ApplicationCall.exec]
    have hresult := applyOutcome (logged deps) a settings
    generalize gatewayApplicationNetworkApply (logged deps) a settings = result at hresult hcalls
    cases hresult with
    | refused => exact h.of_same rfl rfl rfl rfl
    | notStarted candidate w => exact h.of_same rfl hcalls rfl rfl
    | started candidate w =>
      rw [advance_eq] at hcalls ⊢
      exact h.of_same rfl hcalls rfl rfl
  | networkKeep =>
    simp only [ApplicationCall.exec, gatewayApplicationNetworkKeep]
    split
    · exact h.of_same rfl rfl rfl rfl
    · exact h.of_same rfl
        (quiet_networkRuntimeCommand (quiet_logged deps).network a.network 'K' a.world) rfl rfl
  | networkRevert => exact h.of_same rfl (quiet_revert (quiet_logged deps) a) rfl rfl
  | systemTimeSet v => exact helperKept_systemTimeSet deps a v h
  | ntpTest enabled => exact helperKept_ntpTest deps a enabled h
  | requestStop =>
    simp only [ApplicationCall.exec, gatewayApplicationRequestStop]
    rw [advance_eq]
    exact h.of_same rfl rfl rfl rfl
  | setEpoch epoch =>
    simp only [ApplicationCall.exec, setRevisionEpoch]
    rw [advance_eq]
    exact h.of_same rfl rfl rfl rfl

/-! ## Whole runs -/

theorem helperKept_runApplication (calls : List ApplicationCall)
    {a : GatewayApplication (Logged ω) σ κ device} (h : HelperKept a) :
    HelperKept (runApplication (logged deps) calls a) :=
  (along_true (ApplicationCall.exec (logged deps)) calls a).invariant
    (fun a call h _ => (helperKept_exec deps a call h).1) h

/-- The test goes on after the call. -/
def TestGoesOn (deps : GatewayApplicationDependencies ω σ κ device) (a : GatewayApplication ω σ κ device)
    (call : ApplicationCall) : Prop :=
  (call.exec deps a).time.ntpTestActive = true

/-- While a test goes on, it counts the helpers started. -/
theorem testCounted_run (calls : List ApplicationCall) {a : GatewayApplication (Logged ω) σ κ device}
    (h : HelperKept a) (hact : a.time.ntpTestActive = true)
    (hgo : Along (ApplicationCall.exec (logged deps)) (TestGoesOn (logged deps)) calls a) :
    (runApplication (logged deps) calls a).time.ntpTestActive = true ∧
      startedHelpers (runApplication (logged deps) calls a).world.calls + a.time.ntpTestAttempts ≤
        startedHelpers a.world.calls + (runApplication (logged deps) calls a).time.ntpTestAttempts := by
  induction calls generalizing a with
  | nil => exact ⟨hact, le_refl _⟩
  | cons call calls ih =>
    obtain ⟨hkept, hcounted⟩ := helperKept_exec deps a call h
    obtain ⟨hstill, hmore⟩ := ih hkept hgo.1 hgo.2
    have hfirst := hcounted hact hgo.1
    have hcons : runApplication (logged deps) (call :: calls) a =
        runApplication (logged deps) calls (call.exec (logged deps) a) := rfl
    rw [hcons]
    exact ⟨hstill, by omega⟩

/-- The helper has one owner. -/
structure HelperOwned (deps : GatewayApplicationDependencies ω σ κ device)
    (a : GatewayApplication (Logged ω) σ κ device) : Prop where
  /-- A helper is started, and the clock set by hand, only when there is none. -/
  exclusive : ∀ before call rest, a.world.calls = before ++ call :: rest → call.exclusive = true →
    Helper.after before = some .none
  /-- The process does not stop before the helper has been reaped. -/
  reaped : a.processState = .stopped → Helper.after a.world.calls = some .none
  deadline : Helper.after a.world.calls = some .running →
    a.time.ntpDeadline = coreDeadlineAfter a.time.lastNtpAttempt gatewayNtpAttemptTimeoutMs
  /-- A step cancels the helper of a gateway that ends, and of a server that is no more. -/
  cancelled : Helper.after a.world.calls = some .running →
    (gatewayApplicationStep (logged deps) a).stopRequested = true ∨
        endingState (gatewayApplicationStep (logged deps) a).coordinator.state = true ∨
          ¬ SettingsAgree a.time (gatewayApplicationStep (logged deps) a).coordinator.selected.settings →
      ∃ rest, (gatewayApplicationStep (logged deps) a).world.calls = a.world.calls ++ .cancel :: rest
  /-- Else it polls the helper, and cancels one that has not ended in its time. -/
  polled : Helper.after a.world.calls = some .running →
    ¬ ((gatewayApplicationStep (logged deps) a).stopRequested = true ∨
        endingState (gatewayApplicationStep (logged deps) a).coordinator.state = true ∨
          ¬ SettingsAgree a.time (gatewayApplicationStep (logged deps) a).coordinator.selected.settings) →
      ∃ r, (gatewayApplicationStep (logged deps) a).world.calls = a.world.calls ++
        awaitCalls r (coreDeadlineExpired a.time.ntpDeadline ((logged deps).clock a.world).1)
  /-- A test starts three helpers at most. -/
  tested : ∀ between, a.time.ntpTestActive = false →
    TestGoesOn (logged deps) a (.ntpTest true) →
      Along (ApplicationCall.exec (logged deps)) (TestGoesOn (logged deps)) between
          ((ApplicationCall.ntpTest true).exec (logged deps) a) →
        startedHelpers (runApplication (logged deps) between
            ((ApplicationCall.ntpTest true).exec (logged deps) a)).world.calls ≤
          startedHelpers a.world.calls + 3

theorem helperOf_running {t : ApplicationTime} (h : helperOf t = .running) : t.trust = .syncing := by
  unfold helperOf at h
  split at h
  · cases h
  · split at h
    · assumption
    · cases h

/-- What a step does with a helper that runs, in terms of the gateway it leaves. -/
theorem HelperKept.stepCalls {deps : GatewayApplicationDependencies ω σ κ device}
    {a : GatewayApplication (Logged ω) σ κ device} (h : HelperKept a)
    (hrunning : Helper.after a.world.calls = some .running) :
    let e := gatewayApplicationStep (logged deps) a
    (e.stopRequested = true ∨ endingState e.coordinator.state = true ∨
        ¬ SettingsAgree a.time e.coordinator.selected.settings →
      ∃ rest, e.world.calls = a.world.calls ++ .cancel :: rest) ∧
    (¬ (e.stopRequested = true ∨ endingState e.coordinator.state = true ∨
        ¬ SettingsAgree a.time e.coordinator.selected.settings) →
      ∃ r, e.world.calls = a.world.calls ++
        awaitCalls r (coreDeadlineExpired a.time.ntpDeadline ((logged deps).clock a.world).1)) := by
  have hsync : a.time.trust = .syncing :=
    helperOf_running (Option.some.inj (h.owns.helper.symm.trans hrunning))
  have hrun : a.processState ≠ .stopped := by
    intro hstopped
    have hnone := h.stopped hstopped
    rw [Option.some.inj (h.owns.helper.symm.trans hrunning)] at hnone
    cases hnone
  obtain ⟨htime, hworld, hstop, hselected, hending, _⟩ := step_time (logged deps) a hrun
  have hspec := timeOfStep_spec deps a h.owns
  have hbegun : begunState (timeEntry (logged deps) a).coordinator.state = true := by
    rw [(timeEntry_frame (logged deps) a).2]
    exact begun_beforeNetwork (logged deps) a (h.begun (h.owns.applied hsync).1)
  simp only []
  rw [hworld, hstop, hselected, hending]
  have hstops : stepStops (logged deps) a = true ↔ (timeEntry (logged deps) a).stopRequested = true ∨
      endingState (timeEntry (logged deps) a).coordinator.state = true := by
    simp [stepStops, timeStops]
  cases hcase : stepStops (logged deps) a with
  | true =>
    refine ⟨fun _ => hspec.stops hsync hcase, fun hnot => absurd ?_ hnot⟩
    rcases hstops.mp hcase with h' | h'
    · exact .inl h'
    · exact .inr (.inl h')
  | false =>
    have hgo : ¬ ((timeEntry (logged deps) a).stopRequested = true ∨
        endingState (timeEntry (logged deps) a).coordinator.state = true) := by
      rw [← hstops, hcase]
      decide
    have hstate : runningState (timeEntry (logged deps) a).coordinator.state = true := by
      simp only [begunState, Bool.or_eq_true] at hbegun
      exact hbegun.resolve_right (not_or.mp hgo).2
    constructor
    · intro hwhy
      refine hspec.changed hsync hcase hstate ?_
      rcases hwhy with h' | h' | h'
      · exact absurd (.inl h') hgo
      · exact absurd (.inr h') hgo
      · exact h'
    · intro hwhy
      exact hspec.polled hsync hcase hstate (not_not.mp (not_or.mp (not_or.mp hwhy).2).2)

theorem HelperKept.tested {deps : GatewayApplicationDependencies ω σ κ device}
    {a : GatewayApplication (Logged ω) σ κ device} (h : HelperKept a) (between : List ApplicationCall)
    (hoff : a.time.ntpTestActive = false) (hon : TestGoesOn (logged deps) a (.ntpTest true))
    (hgo : Along (ApplicationCall.exec (logged deps)) (TestGoesOn (logged deps)) between
      ((ApplicationCall.ntpTest true).exec (logged deps) a)) :
    startedHelpers (runApplication (logged deps) between
        ((ApplicationCall.ntpTest true).exec (logged deps) a)).world.calls ≤
      startedHelpers a.world.calls + 3 := by
  have hkept := (helperKept_exec deps a (.ntpTest true) h).1
  have hbegins : ((ApplicationCall.ntpTest true).exec (logged deps) a).time.ntpTestAttempts = 0 ∧
      ((ApplicationCall.ntpTest true).exec (logged deps) a).world.calls = a.world.calls := by
    rcases ntpTest_cases (logged deps) a true with hsame | ⟨_, retry, normal, next, heq⟩
    · have hact : (gatewayApplicationNtpTest (logged deps) a true).2.time.ntpTestActive = true := hon
      rw [hsame, hoff] at hact
      cases hact
    · simp only [ApplicationCall.exec]
      rw [heq]
      exact ⟨rfl, rfl⟩
  obtain ⟨hact, hcounted⟩ := testCounted_run deps between hkept hon hgo
  have hthree := ((helperKept_runApplication deps between hkept).owns.tests hact).1
  rw [hbegins.1, hbegins.2] at hcounted
  omega

/-- **Single ownership of the helper.** In every run, whatever the helper, the clocks and the
    system answer. -/
theorem helperOwned_of_runApplication (deps : GatewayApplicationDependencies ω σ κ device)
    (environment : Option (NetworkEnvironment × NetworkProfile)) (server : CString)
    (controller : GatewayController σ κ device) (now : CoreTick) (w : ω) (calls : List ApplicationCall) :
    HelperOwned deps (runApplication (logged deps) calls
      (gatewayApplicationInit environment server controller now (Logged.mk w []))) := by
  have hkept := helperKept_runApplication deps calls
    (helperKept_init environment server controller now w)
  generalize runApplication (logged deps) calls
    (gatewayApplicationInit environment server controller now (Logged.mk w [])) = a at hkept
  refine ⟨?_, ?_, ?_, fun hrun => (hkept.stepCalls hrun).1, fun hrun => (hkept.stepCalls hrun).2,
    fun between hoff hon hgo => hkept.tested between hoff hon hgo⟩
  · intro before call rest hcalls hcall
    refine @Helper.none_of_exclusive before rest call ?_ hcall
    rw [← hcalls, hkept.owns.helper]
    rfl
  · intro hstopped
    rw [hkept.owns.helper, hkept.stopped hstopped]
  · intro hrun
    exact hkept.owns.deadline (helperOf_running (Option.some.inj (hkept.owns.helper.symm.trans hrun)))

/-! ## A helper that stays -/

/-- The helper is asked once an hour. -/
def hourlyConfig : GatewayPersistentConfig :=
  { gatewayPersistentSafeMode with
    settings :=
      { gatewayPersistentSafeMode.settings with ntpEnabled := 1, ntpServer := .ofText (text "10.0.0.9") } }

/-- A helper that takes its time. -/
def slowDependencies : GatewayApplicationDependencies Script (List Int) (List Int) fun _ _ => False :=
  { scriptedDependencies hourlyConfig with
    ntpStart := some fun _ w => (0, w)
    ntpPoll := some fun w => ((0, false), w) }

/-- The gateway has started and asks the helper; then it is to ask every six hours. -/
def sixHourlyApplication : GatewayApplication (Logged Script) (List Int) (List Int) fun _ _ => False :=
  runApplication (logged slowDependencies)
    (List.replicate 7 .step ++
      [.requestConfiguration
        { hourlyConfig with settings := { hourlyConfig.settings with ntpIntervalHours := 6 } }])
    (gatewayApplicationInit none emptyString (scriptedStart [] []) 0 (Logged.mk {} []))

/-- **The helper that stays.** Another interval is taken while the helper runs, and the helper is
    not cancelled. -/
theorem helper_outlives_interval :
    Helper.after sixHourlyApplication.world.calls = some .running ∧
      sixHourlyApplication.time.ntpIntervalHours = 1 ∧
      (gatewayApplicationStep (logged slowDependencies) sixHourlyApplication).time.ntpIntervalHours = 6 ∧
      (gatewayApplicationStep (logged slowDependencies) sixHourlyApplication).world.calls =
        sixHourlyApplication.world.calls ++ [.poll 0] := by
  decide +kernel

end FourVrs.App
