import FourVrs.App.ClockMoves

/-!
# The clock is trusted for a reason

The functions that are about the clock are logged with what they return, and a run is kept as
what each call has left in the log. The time of the application follows the moves
(`moves_timeSyncStep`), so in every run there stands behind the trust what is to stand there.

Three things are shown apart and put together at the end: what leaves the log alone
(`quiet_watched`), the settings the clock was synchronized under, and the moves of its state.
-/

set_option autoImplicit false

namespace FourVrs.App

open FourVrs.Core Config Gateway Network Lib

variable {ω σ κ : Type} {device : σ → σ → Prop}

/-! ## Watching the clock -/

/-- A world and the log of it. -/
structure Watched (ω : Type) where
  world : ω
  events : List ClockEvent

/-- A function that is not about the clock. -/
def unwatched {α : Type} (f : ω → α × ω) (w : Watched ω) : α × Watched ω :=
  ((f w.world).1, { w with world := (f w.world).2 })

def watching {α : Type} (f : ω → α × ω) (event : α → ClockEvent) (w : Watched ω) : α × Watched ω :=
  ((f w.world).1, { world := (f w.world).2, events := w.events ++ [event (f w.world).1] })

def watchedNetwork (sys : NetworkSystem ω) : NetworkSystem (Watched ω) where
  clock := unwatched sys.clock
  readObserver := unwatched sys.readObserver
  reapObserver := unwatched sys.reapObserver
  killObserver := fun w => { w with world := sys.killObserver w.world }
  startObserver := fun r => unwatched (sys.startObserver r)
  recvStatus := unwatched sys.recvStatus
  reapSupervisor := unwatched sys.reapSupervisor
  startSupervisor := fun settings => unwatched (sys.startSupervisor settings)
  send := fun command => unwatched (sys.send command)

/-- The calendar that was read is one to be believed. -/
def calendarGood (read : GatewaySystemTimeResult × GatewaySystemTime) : Bool :=
  decide (read.1 = .ok) && systemTimeValid read.2

/-- The dependencies, with what is about the clock logged. A missing function of the helper is one
    that answers `-1`, or does nothing. -/
def watched (deps : GatewayApplicationDependencies ω σ κ device) :
    GatewayApplicationDependencies (Watched ω) σ κ device where
  clock := unwatched deps.clock
  stopSignal := unwatched deps.stopSignal
  selectConfiguration := unwatched deps.selectConfiguration
  provideBindings := fun ports => unwatched (deps.provideBindings ports)
  attachBindings := deps.attachBindings.map fun attach => unwatched attach
  stageConfiguration := fun config => unwatched (deps.stageConfiguration config)
  promoteConfiguration := unwatched deps.promoteConfiguration
  discardConfiguration := fun w => { w with world := deps.discardConfiguration w.world }
  backlightSet := deps.backlightSet.map fun set on => unwatched (set on)
  systemTimeGet := watching deps.systemTimeGet fun read => .readBack (calendarGood read)
  systemTimeSet := fun v => watching (deps.systemTimeSet v) .setClock
  ntpStart := some fun server =>
    watching (fun w => (deps.ntpStart.map fun start => start server w).getD ((-1 : Int), w)) .start
  ntpPoll := some
    (watching (fun w => (deps.ntpPoll.map fun poll => poll w).getD (((-1 : Int), false), w)) fun r => .poll r.1)
  ntpCancel := some fun w =>
    { world := (deps.ntpCancel.map fun cancel => cancel w.world).getD w.world
      events := w.events ++ [.cancel] }
  rtcProbe := deps.rtcProbe.map fun probe => unwatched probe
  rtcSave := deps.rtcSave.map fun save => watching save fun _ => .saveRtc
  network := watchedNetwork deps.network
  documents := deps.documents

/-- The dependencies without the calendar and the hardware clock, which only the time reads. -/
def withoutCalendar (deps : GatewayApplicationDependencies ω σ κ device) :
    GatewayApplicationDependencies ω σ κ device :=
  { deps with systemTimeGet := fun w => ((.readFailed, ⟨0, 0, 0, 0, 0, 0⟩), w), rtcSave := none }

theorem quiet_watched (deps : GatewayApplicationDependencies ω σ κ device) :
    Quiet (withoutCalendar (watched deps)) Watched.events where
  clock := fun _ => rfl
  stopSignal := fun _ => rfl
  selectConfiguration := fun _ => rfl
  provideBindings := fun _ _ => rfl
  attachBindings := by
    rintro f hf w
    obtain ⟨attach, _, rfl⟩ := Option.map_eq_some_iff.mp hf
    rfl
  stageConfiguration := fun _ _ => rfl
  promoteConfiguration := fun _ => rfl
  discardConfiguration := fun _ => rfl
  backlightSet := by
    rintro f hf on w
    obtain ⟨set, _, rfl⟩ := Option.map_eq_some_iff.mp hf
    rfl
  systemTimeGet := fun _ => rfl
  rtcProbe := by
    rintro f hf w
    obtain ⟨probe, _, rfl⟩ := Option.map_eq_some_iff.mp hf
    rfl
  rtcSave := nofun
  network := by constructor <;> intros <;> rfl

section withoutCalendar

variable (deps : GatewayApplicationDependencies ω σ κ device) (a : GatewayApplication ω σ κ device) (now : CoreTick)

theorem deliverSignal_withoutCalendar : deliverSignal (withoutCalendar deps) a = deliverSignal deps a := rfl

theorem guardConfirm_withoutCalendar : guardConfirm (withoutCalendar deps) a = guardConfirm deps a := rfl

theorem stepBindings_withoutCalendar : stepBindings (withoutCalendar deps) a now = stepBindings deps a now := rfl

theorem networkPoll_withoutCalendar : networkPoll (withoutCalendar deps) a = networkPoll deps a := rfl

theorem networkStep_withoutCalendar :
    gatewayApplicationNetworkStep (withoutCalendar deps) a now = gatewayApplicationNetworkStep deps a now := by
  unfold gatewayApplicationNetworkStep networkFollow
  simp only [networkPoll_withoutCalendar, deliverSignal_withoutCalendar, guardConfirm_withoutCalendar,
    stepBindings_withoutCalendar]
  rfl

theorem coordinatorPhase_withoutCalendar :
    coordinatorPhase (withoutCalendar deps) a now = coordinatorPhase deps a now := rfl

theorem configTransactionStep_withoutCalendar :
    configTransactionStep (withoutCalendar deps) a now = configTransactionStep deps a now := rfl

theorem backlightStep_withoutCalendar : backlightStep (withoutCalendar deps) a = backlightStep deps a := rfl

theorem timeEntry_withoutCalendar : timeEntry (withoutCalendar deps) a = timeEntry deps a := by
  unfold timeEntry beforeTransaction beforeNetwork
  rw [deliverSignal_withoutCalendar, coordinatorPhase_withoutCalendar, networkStep_withoutCalendar,
    configTransactionStep_withoutCalendar, deliverSignal_withoutCalendar, backlightStep_withoutCalendar]
  rfl

end withoutCalendar

/-- A step is not about the clock until it comes to the time. -/
theorem events_timeEntry (deps : GatewayApplicationDependencies ω σ κ device)
    (a : GatewayApplication (Watched ω) σ κ device) : (timeEntry (watched deps) a).world.events = a.world.events := by
  rw [← timeEntry_withoutCalendar]
  exact quiet_beforeTime (quiet_watched deps) a

/-! ## The settings -/

/-- The settings in force have changed. -/
def settingsMark (t t' : ApplicationTime) : List ClockEvent :=
  if t'.ntpEnabled = t.ntpEnabled ∧ t'.ntpServer = t.ntpServer then [] else [.settings]

theorem settingsMark_cases (t t' : ApplicationTime) : settingsMark t t' = [] ∨ settingsMark t t' = [.settings] := by
  unfold settingsMark
  split
  · exact Or.inl rfl
  · exact Or.inr rfl

/-- Times with the same settings in force. -/
structure SameSettings (t t' : ApplicationTime) : Prop where
  enabled : t'.ntpEnabled = t.ntpEnabled
  server : t'.ntpServer = t.ntpServer

theorem SameSettings.settingsMark_left {t t₁ : ApplicationTime} (h : SameSettings t t₁) (t' : ApplicationTime) :
    settingsMark t t' = settingsMark t₁ t' := by
  unfold settingsMark
  rw [h.enabled, h.server]

theorem SameSettings.settingsMark_right {t' t₁ : ApplicationTime} (h : SameSettings t' t₁) (t : ApplicationTime) :
    settingsMark t t₁ = settingsMark t t' := by
  unfold settingsMark
  rw [h.enabled, h.server]

variable {t t' : ApplicationTime}

theorem SameSettings.settingsMark_eq (h : SameSettings t t') : settingsMark t t' = [] := by
  unfold settingsMark
  exact if_pos ⟨h.enabled, h.server⟩

/-- A function of the time that takes no other settings: it follows the moves, and does not begin with
    a cancel. The hardware clock is written after a synchronization. -/
structure Follows (t : ApplicationTime) (w : Watched ω) (t' : ApplicationTime) (w' : Watched ω)
    (more : List ClockEvent) : Prop where
  events : w'.events = w.events ++ more
  moves : ClockMoves (clockState t) more (clockState t')
  first : more.head? ≠ some .cancel
  same : SameSettings t t'
  saves : .saveRtc ∈ more → .readBack true ∈ more ∧ t'.trust = .synced

theorem Follows.keep {w w' : Watched ω} (hevents : w'.events = w.events)
    (hstate : clockState t' = clockState t) (hsame : SameSettings t t') : Follows t w t' w' [] where
  events := by rw [hevents, List.append_nil]
  moves := hstate ▸ ClockMoves.nil
  first := nofun
  same := hsame
  saves := nofun

theorem Follows.append {t t₁ t₂ : ApplicationTime} {w w₁ w₂ : Watched ω} {more more' : List ClockEvent}
    (h : Follows t w t₁ w₁ more) (h' : Follows t₁ w₁ t₂ w₂ more') (hquiet : .saveRtc ∉ more) :
    Follows t w t₂ w₂ (more ++ more') where
  events := by rw [h'.events, h.events, List.append_assoc]
  moves := h.moves.append h'.moves h'.first
  first := by
    cases more with
    | nil => exact h'.first
    | cons e more => exact h.first
  same := ⟨h'.same.enabled.trans h.same.enabled, h'.same.server.trans h.same.server⟩
  saves hmem := by
    have hsaves := h'.saves ((List.mem_append.mp hmem).resolve_left hquiet)
    exact ⟨List.mem_append_right _ hsaves.1, hsaves.2⟩

theorem watched_probeRtc (deps : GatewayApplicationDependencies ω σ κ device) (t : ApplicationTime) (w : Watched ω) :
    Follows t w (probeRtc (watched deps) t w).1 (probeRtc (watched deps) t w).2 [] := by
  unfold probeRtc
  split
  · exact .keep rfl rfl ⟨rfl, rfl⟩
  split
  · exact .keep rfl rfl ⟨rfl, rfl⟩
  · rename_i probe hprobe
    obtain ⟨probe', -, rfl⟩ := Option.map_eq_some_iff.mp hprobe
    exact .keep rfl rfl ⟨rfl, rfl⟩

theorem rescheduleSync_eq (deps : GatewayApplicationDependencies ω σ κ device) (t : ApplicationTime) (w : ω) :
    ∃ normal retry next, rescheduleSync deps t w =
      ({ t with ntpNormalDeadline := normal, ntpRetryDeadline := retry, nextNtpAttempt := next }, (deps.clock w).2) := by
  unfold rescheduleSync
  simp only []
  split <;> exact ⟨_, _, _, rfl⟩

theorem watched_rescheduleSync (deps : GatewayApplicationDependencies ω σ κ device) (t : ApplicationTime)
    (w : Watched ω) : Follows t w (rescheduleSync (watched deps) t w).1 (rescheduleSync (watched deps) t w).2 [] := by
  obtain ⟨normal, retry, next, heq⟩ := rescheduleSync_eq (watched deps) t w
  rw [heq]
  exact .keep rfl rfl ⟨rfl, rfl⟩

/-- What the beginning of a step does: settings are taken, or the gateway ends. -/
structure Leads (t : ApplicationTime) (w : Watched ω) (t' : ApplicationTime) (w' : Watched ω)
    (more : List ClockEvent) : Prop where
  events : w'.events = w.events ++ more
  moves : ClockMoves (clockState t) (settingsMark t t' ++ more) (clockState t')
  quiet : .saveRtc ∉ more

theorem Follows.leads {w w' : Watched ω} {more : List ClockEvent} (h : Follows t w t' w' more)
    (hquiet : .saveRtc ∉ more) : Leads t w t' w' more where
  events := h.events
  moves := by
    rw [h.same.settingsMark_eq]
    exact h.moves
  quiet := hquiet

/-- New settings cancel the helper that runs for the old ones. -/
theorem watched_adoptTimeSettings (deps : GatewayApplicationDependencies ω σ κ device) (s : GatewayProductSettings)
    (t : ApplicationTime) (w : Watched ω) :
    ∃ more, Leads t w (adoptTimeSettings (watched deps) s t w).1 (adoptTimeSettings (watched deps) s t w).2 more := by
  by_cases hsync : t.trust = .syncing
  · refine ⟨[.cancel], ?_, ?_, by simp⟩
    · simp [adoptTimeSettings, hsync, watched]
    · have hstate : clockState (adoptTimeSettings (watched deps) s t w).1 =
          ⟨heldOver t.trustBeforeSync, t.trustBeforeSync, true⟩ := by
        simp [adoptTimeSettings, clockState, hsync, heldOver]
      rw [hstate]
      exact .one (.adoptCancel (clockState t) _ (settingsMark_cases _ _) hsync)
  · refine ⟨[], ?_, ?_, by simp⟩
    · simp [adoptTimeSettings, hsync]
    · have hstate : clockState (adoptTimeSettings (watched deps) s t w).1 =
          { clockState t with trust := heldOver t.trust } := by
        simp [adoptTimeSettings, clockState, hsync, heldOver]
      rw [hstate, List.append_nil]
      exact .one (.adopt (clockState t) _ (settingsMark_cases _ _) hsync)

theorem watched_timeSettingsStep (deps : GatewayApplicationDependencies ω σ κ device)
    (state : GatewayApplicationState) (s : GatewayProductSettings) (t : ApplicationTime) (w : Watched ω) :
    ∃ more, Leads t w (timeSettingsStep (watched deps) state s t w).1
      (timeSettingsStep (watched deps) state s t w).2 more := by
  unfold timeSettingsStep
  split
  · have hprobe := watched_probeRtc deps t w
    obtain ⟨rtc, checked, hprobed⟩ := probeRtc_eq (watched deps) t w
    generalize probeRtc (watched deps) t w = probed at *
    obtain ⟨t₁, w₁⟩ := probed
    simp only at hprobe hprobed ⊢
    split
    · split
      · split
        · have hres := watched_rescheduleSync deps { t₁ with ntpIntervalHours := s.ntpIntervalHours } w₁
          have hmark : Follows t₁ w₁ { t₁ with ntpIntervalHours := s.ntpIntervalHours } w₁ [] := .keep rfl rfl ⟨rfl, rfl⟩
          exact ⟨_, ((hprobe.append hmark nofun).append hres nofun).leads nofun⟩
        · have hmark : Follows t₁ w₁ { t₁ with ntpIntervalHours := s.ntpIntervalHours } w₁ [] := .keep rfl rfl ⟨rfl, rfl⟩
          exact ⟨_, (hprobe.append hmark nofun).leads nofun⟩
      · exact ⟨_, hprobe.leads nofun⟩
    · obtain ⟨more, hadopt⟩ := watched_adoptTimeSettings deps s t₁ w₁
      refine ⟨more, ?_, ?_, hadopt.quiet⟩
      · rw [hadopt.events, hprobe.events, List.append_nil]
      · have hstate : clockState t = clockState t₁ := by
          rw [hprobed]
          rfl
        rw [hprobe.same.settingsMark_left, hstate]
        exact hadopt.moves
  · exact ⟨[], (Follows.keep rfl rfl ⟨rfl, rfl⟩).leads nofun⟩

/-! ## The synchronization -/

/-- What is saved leaves the trust as it is. -/
theorem watched_rtcSaveTrusted (deps : GatewayApplicationDependencies ω σ κ device) (t : ApplicationTime)
    (w : Watched ω) :
    ∃ saves, (saves = [] ∨ saves = [.saveRtc]) ∧
      (rtcSaveTrusted (watched deps) t w).2.events = w.events ++ saves ∧
      clockState (rtcSaveTrusted (watched deps) t w).1 = clockState t ∧
      SameSettings t (rtcSaveTrusted (watched deps) t w).1 := by
  unfold rtcSaveTrusted
  split
  · exact ⟨[], Or.inl rfl, by rw [List.append_nil], rfl, rfl, rfl⟩
  · rename_i save hsave
    obtain ⟨save', -, rfl⟩ := Option.map_eq_some_iff.mp hsave
    have hevents : (watching save' (fun _ => ClockEvent.saveRtc) w).2.events = w.events ++ [.saveRtc] := rfl
    split
    · rename_i heq
      rw [heq] at hevents
      exact ⟨[.saveRtc], Or.inr rfl, hevents, rfl, rfl, rfl⟩
    · rename_i heq
      rw [heq] at hevents
      exact ⟨[.saveRtc], Or.inr rfl, hevents, rfl, rfl, rfl⟩

theorem watched_pollNtp (deps : GatewayApplicationDependencies ω σ κ device) (t : ApplicationTime) (w : Watched ω) :
    (pollNtp (watched deps) t w).2.2.events = w.events ++ [.poll (pollNtp (watched deps) t w).1] ∧
      ∃ result, (pollNtp (watched deps) t w).2.1 = { t with lastNtpResult := result } := by
  refine ⟨rfl, ?_⟩
  simp only [pollNtp, watched]
  split
  · exact ⟨_, rfl⟩
  · exact ⟨t.lastNtpResult, rfl⟩

theorem clockState_timeSyncFailed (t : ApplicationTime) (now : CoreTick) (result : GatewayNtpResult) :
    clockState (timeSyncFailed t now result) = { clockState t with trust := trustAfterFailure t.trustBeforeSync } := rfl

/-- The calendar is good: the time is synchronized, and saved. -/
theorem watched_synced (deps : GatewayApplicationDependencies ω σ κ device) {t t₁ : ApplicationTime}
    {w₀ w₁ : Watched ω} {r : Int} (hr : 0 < r) (hsync : t.trust = .syncing)
    (hstate : clockState t₁ = { clockState t with trust := .synced }) (hsame : SameSettings t t₁)
    (hread : w₁.events = w₀.events ++ [.poll r, .readBack true]) :
    ∃ more, Follows t w₀ (rtcSaveTrusted (watched deps) t₁ w₁).1 (rtcSaveTrusted (watched deps) t₁ w₁).2 more := by
  obtain ⟨saves, hsaves, hevents, hsaved, hsaved'⟩ := watched_rtcSaveTrusted deps t₁ w₁
  have hmove : ClockMoves (clockState t) [.poll r, .readBack true] { clockState t with trust := .synced } :=
    .one (.succeed (clockState t) r hr hsync)
  have htrust : (rtcSaveTrusted (watched deps) t₁ w₁).1.trust = .synced := by
    have htrust := congrArg ClockState.trust (hsaved.trans hstate)
    exact htrust
  refine ⟨[.poll r, .readBack true] ++ saves, ?_, ?_, nofun,
    ⟨hsaved'.enabled.trans hsame.enabled, hsaved'.server.trans hsame.server⟩, fun _ => ⟨by simp, htrust⟩⟩
  · rw [hevents, hread, List.append_assoc]
  · rw [hsaved, hstate]
    rcases hsaves with rfl | rfl
    · rw [List.append_nil]
      exact hmove
    · exact hmove.append (.one (.save _)) (by simp)

/-- The helper has reported success: the calendar decides. -/
theorem watched_timeSyncSucceeded (deps : GatewayApplicationDependencies ω σ κ device) (t : ApplicationTime)
    (now : CoreTick) (w₀ w : Watched ω) (r : Int) (hr : 0 < r) (hsync : t.trust = .syncing)
    (hpolled : w.events = w₀.events ++ [.poll r]) :
    ∃ more, Follows t w₀ (timeSyncSucceeded (watched deps) t now w).1 (timeSyncSucceeded (watched deps) t now w).2
      more := by
  have hread : ((watched deps).systemTimeGet w).2.events =
      w₀.events ++ [.poll r, .readBack (calendarGood ((watched deps).systemTimeGet w).1)] := by
    show w.events ++ [_] = _
    rw [hpolled]
    simp [watched, watching]
  unfold timeSyncSucceeded
  generalize (watched deps).systemTimeGet w = read at hread
  obtain ⟨⟨result, checked⟩, w₁⟩ := read
  simp only at hread ⊢
  split
  · rename_i hbad
    have hgood : calendarGood (result, checked) = false := by
      rcases hbad with hbad | hbad <;> simp [calendarGood, hbad]
    rw [hgood] at hread
    refine ⟨[.poll r, .readBack false], hread, ?_, nofun, ⟨rfl, rfl⟩, by simp⟩
    rw [clockState_timeSyncFailed]
    exact .one (.invalid (clockState t) r hr hsync)
  · rename_i hok
    have hgood : calendarGood (result, checked) = true := by
      simpa [calendarGood, not_or] using hok
    rw [hgood] at hread
    exact watched_synced deps hr hsync rfl ⟨rfl, rfl⟩ hread

/-- A helper that runs is polled. -/
theorem watched_awaitSync (deps : GatewayApplicationDependencies ω σ κ device) (t : ApplicationTime) (now : CoreTick)
    (w : Watched ω) (hsync : t.trust = .syncing) :
    ∃ more, Follows t w (awaitSync (watched deps) t now w).1 (awaitSync (watched deps) t now w).2 more := by
  obtain ⟨hevents, result, hresult⟩ := watched_pollNtp deps t w
  unfold awaitSync
  generalize pollNtp (watched deps) t w = polled at *
  obtain ⟨r, t₀, w₀⟩ := polled
  simp only at hevents hresult ⊢
  subst hresult
  split
  · rename_i hr
    have hsucceeded := watched_timeSyncSucceeded deps { t with lastNtpResult := result } now w w₀ r hr hsync hevents
    obtain ⟨more, hfollows⟩ := hsucceeded
    exact ⟨more, hfollows.events, hfollows.moves, hfollows.first, ⟨hfollows.same.enabled, hfollows.same.server⟩,
      hfollows.saves⟩
  split
  · rename_i hr
    refine ⟨[.poll r], hevents, ?_, nofun, ⟨rfl, rfl⟩, by simp⟩
    rw [clockState_timeSyncFailed]
    exact .one (.fail (clockState t) r hr hsync)
  · have hr : r = 0 := by omega
    subst hr
    split
    · refine ⟨[.poll 0, .cancel], ?_, ?_, nofun, ⟨rfl, rfl⟩, by simp⟩
      · show w₀.events ++ [.cancel] = _
        rw [hevents]
        simp
      · rw [clockState_timeSyncFailed]
        exact .one (.timeout (clockState t) hsync)
    · exact ⟨[.poll 0], hevents, .one (.wait (clockState t) hsync), nofun, ⟨rfl, rfl⟩, by simp⟩

/-- A cancelled helper is reaped. -/
theorem watched_reapNtp (deps : GatewayApplicationDependencies ω σ κ device) (t : ApplicationTime) (w : Watched ω) :
    ∃ more, Follows t w (reapNtp (watched deps) t w).2.1 (reapNtp (watched deps) t w).2.2 more ∧ .saveRtc ∉ more ∧
      ((reapNtp (watched deps) t w).1 = true → (reapNtp (watched deps) t w).2.1.ntpTerminating = false) := by
  obtain ⟨hevents, -⟩ := watched_pollNtp deps t w
  unfold reapNtp
  split
  · rename_i hterm
    generalize pollNtp (watched deps) t w = polled at hevents
    obtain ⟨r, t₀, w₀⟩ := polled
    simp only at hevents ⊢
    have hmove := ClockMove.reap (clockState t) r hterm
    split
    · rename_i hr
      subst hr
      refine ⟨[.poll 0], ⟨hevents, ?_, nofun, ⟨rfl, rfl⟩, by simp⟩, by simp, nofun⟩
      have hstate : clockState t = { clockState t with terminating := decide ((0 : Int) = 0) } := by
        simp [clockState, hterm]
      have hstays := ClockMoves.one hmove
      rw [← hstate] at hstays
      exact hstays
    · rename_i hr
      refine ⟨[.poll r], ⟨hevents, ?_, nofun, ⟨rfl, rfl⟩, by simp⟩, by simp, fun _ => rfl⟩
      have hstate : clockState { t with ntpTerminating := false } =
          { clockState t with terminating := decide (r = 0) } := by
        simp [clockState, hr]
      rw [hstate]
      exact .one hmove
  · rename_i hterm
    exact ⟨[], .keep rfl rfl ⟨rfl, rfl⟩, nofun, fun _ => by simpa using hterm⟩

/-- A helper is started, or fails to start. -/
theorem watched_startSync (deps : GatewayApplicationDependencies ω σ κ device) (t : ApplicationTime) (now : CoreTick)
    (w : Watched ω) (hnone : t.trust ≠ .syncing) (hterm : t.ntpTerminating = false) :
    ∃ more, Follows t w (startSync (watched deps) t now w).1 (startSync (watched deps) t now w).2 more := by
  unfold startSync
  simp only [watched, Option.map_some, Option.getD_some, watching]
  split
  · rename_i hstart
    obtain ⟨hr, rfl⟩ := Prod.mk.inj hstart
    rw [hr]
    exact ⟨[.start 0], rfl, .one (.start (clockState t) hnone hterm), nofun, ⟨rfl, rfl⟩, by simp⟩
  · rename_i r w₁ hr hstart
    obtain ⟨hresult, rfl⟩ := Prod.mk.inj hstart
    rw [hresult]
    refine ⟨[.start r], rfl, ?_, nofun, ⟨rfl, rfl⟩, by simp⟩
    exact .one (.startFail (clockState t) r hr hnone hterm)

theorem watched_timeSyncFollow (deps : GatewayApplicationDependencies ω σ κ device) (stopping : Bool)
    (n : NetworkRuntime) (t : ApplicationTime) (now : CoreTick) (w : Watched ω) :
    ∃ more, Follows t w (timeSyncFollow (watched deps) stopping n t now w).1
      (timeSyncFollow (watched deps) stopping n t now w).2 more := by
  obtain ⟨reaped, hreap, hquiet, hgone⟩ := watched_reapNtp deps t w
  unfold timeSyncFollow
  generalize reapNtp (watched deps) t w = result at hreap hgone
  obtain ⟨gone, t₁, w₁⟩ := result
  simp only at hreap hgone ⊢
  cases gone with
  | false => exact ⟨reaped, hreap⟩
  | true =>
    have hterm := hgone rfl
    simp only []
    split
    · exact ⟨reaped, hreap⟩
    split
    · rename_i hsync
      obtain ⟨more, hawait⟩ := watched_awaitSync deps t₁ now w₁ hsync
      exact ⟨_, hreap.append hawait hquiet⟩
    rename_i hnone
    split
    · refine ⟨_, hreap.append (?_ : Follows t₁ w₁ _ w₁ []) hquiet⟩
      refine ⟨by rw [List.append_nil], ?_, nofun, ⟨rfl, rfl⟩, nofun⟩
      by_cases hover : t₁.trust = .synced ∧ coreDeadlineExpired t₁.ntpNormalDeadline now
      · simp only [if_pos hover]
        exact .one (.defer (clockState t₁) hover.1)
      · simp only [if_neg hover]
        exact .nil
    split
    · exact ⟨reaped, hreap⟩
    · obtain ⟨more, hstart⟩ := watched_startSync deps t₁ now w₁ hnone hterm
      exact ⟨_, hreap.append hstart hquiet⟩

/-- What a call does: it follows the moves, and writes the hardware clock after a synchronization. -/
structure TimeMoves (t : ApplicationTime) (w : Watched ω) (t' : ApplicationTime) (w' : Watched ω)
    (more : List ClockEvent) : Prop where
  events : w'.events = w.events ++ more
  moves : ClockMoves (clockState t) (settingsMark t t' ++ more) (clockState t')
  saves : .saveRtc ∈ more → .readBack true ∈ more ∧ t'.trust = .synced

theorem Leads.follow {t t₁ t' : ApplicationTime} {w w₁ w' : Watched ω} {lead more : List ClockEvent}
    (h : Leads t w t₁ w₁ lead) (h' : Follows t₁ w₁ t' w' more) : TimeMoves t w t' w' (lead ++ more) where
  events := by rw [h'.events, h.events, List.append_assoc]
  moves := by
    rw [h'.same.settingsMark_right, ← List.append_assoc]
    exact h.moves.append h'.moves h'.first
  saves hmem := by
    have hsaves := h'.saves ((List.mem_append.mp hmem).resolve_left h.quiet)
    exact ⟨List.mem_append_right _ hsaves.1, hsaves.2⟩

theorem watched_timeSyncStep (deps : GatewayApplicationDependencies ω σ κ device) (stop : Bool)
    (c : GatewayCoordinator σ κ device) (n : NetworkRuntime) (t : ApplicationTime) (now : CoreTick) (w : Watched ω) :
    ∃ more, TimeMoves t w (timeSyncStep (watched deps) stop c n t now w).1
      (timeSyncStep (watched deps) stop c n t now w).2 more := by
  unfold timeSyncStep
  simp only []
  split
  · split
    · rename_i hcancel
      have hlead : Leads t w
          { t with
            ntpNetworkDeferred := false, ntpTestActive := false, ntpTerminating := true
            trust := t.trustBeforeSync, lastNtpResult := .notAttempted }
          (((watched deps).ntpCancel.map fun cancel => cancel w).getD w) [.cancel] := by
        refine ⟨rfl, ?_, by simp⟩
        have hsame : SameSettings t
            { t with
              ntpNetworkDeferred := false, ntpTestActive := false, ntpTerminating := true
              trust := t.trustBeforeSync, lastNtpResult := .notAttempted } := ⟨rfl, rfl⟩
        rw [hsame.settingsMark_eq]
        exact .one (.stop (clockState t) hcancel.1)
      obtain ⟨more, hfollow⟩ := watched_timeSyncFollow deps true n _ now
        (((watched deps).ntpCancel.map fun cancel => cancel w).getD w)
      exact ⟨_, hlead.follow hfollow⟩
    · have hkept : Follows t w { t with ntpNetworkDeferred := false, ntpTestActive := false } w [] :=
        .keep rfl rfl ⟨rfl, rfl⟩
      have hlead := hkept.leads nofun
      obtain ⟨more, hfollow⟩ := watched_timeSyncFollow deps true n _ now w
      exact ⟨_, hlead.follow hfollow⟩
  · obtain ⟨lead, hlead⟩ := watched_timeSettingsStep deps c.state c.selected.settings
      { t with ntpNetworkDeferred := false } w
    have hlead' : Leads t w _ _ lead := ⟨hlead.events, hlead.moves, hlead.quiet⟩
    obtain ⟨more, hfollow⟩ := watched_timeSyncFollow deps false n
      (timeSettingsStep (watched deps) c.state c.selected.settings { t with ntpNetworkDeferred := false } w).1 now
      (timeSettingsStep (watched deps) c.state c.selected.settings { t with ntpNetworkDeferred := false } w).2
    exact ⟨_, hlead'.follow hfollow⟩

/-! ## The calls -/

/-- A call, what it has left in the log, and the trust at its end. -/
structure ClockMoment where
  call : ApplicationCall
  events : List ClockEvent
  trust : GatewayTimeTrust

/-- What a call leaves; that it has taken other settings is noted first. -/
def clockMoment (deps : GatewayApplicationDependencies ω σ κ device) (a : GatewayApplication (Watched ω) σ κ device)
    (call : ApplicationCall) : ClockMoment :=
  let a' := call.exec (watched deps) a
  { call, trust := a'.time.trust
    events := settingsMark a.time a'.time ++ a'.world.events.drop a.world.events.length }

/-- The hardware clock is written by a step that has just synchronized the time, or by the call that
    has set it. -/
def SavesNew (m : ClockMoment) : Prop :=
  .saveRtc ∈ m.events →
    m.call = .step ∧ .readBack true ∈ m.events ∧ m.trust = .synced ∨
      ∃ v result, m.call = .systemTimeSet v ∧ .setClock result ∈ m.events ∧ clockWasSet result = true ∧ m.trust = .manual

/-- A call follows the moves. -/
structure CallMoves (deps : GatewayApplicationDependencies ω σ κ device)
    (a : GatewayApplication (Watched ω) σ κ device) (call : ApplicationCall) : Prop where
  moves : ClockMoves (clockState a.time) (clockMoment deps a call).events (clockState (call.exec (watched deps) a).time)
  saves : SavesNew (clockMoment deps a call)

/-- A call that is not about the clock. -/
theorem CallMoves.keep {deps : GatewayApplicationDependencies ω σ κ device}
    {a : GatewayApplication (Watched ω) σ κ device} {call : ApplicationCall}
    (hstate : clockState (call.exec (watched deps) a).time = clockState a.time)
    (hsame : SameSettings a.time (call.exec (watched deps) a).time)
    (hevents : (call.exec (watched deps) a).world.events = a.world.events) : CallMoves deps a call := by
  have hnone : (clockMoment deps a call).events = [] := by
    simp [clockMoment, hevents, hsame.settingsMark_eq]
  refine ⟨?_, ?_⟩
  · rw [hnone, hstate]
    exact .nil
  · intro hmem
    rw [hnone] at hmem
    cases hmem

theorem moves_step (deps : GatewayApplicationDependencies ω σ κ device)
    (a : GatewayApplication (Watched ω) σ κ device) : CallMoves deps a .step := by
  by_cases hrun : a.processState = .stopped
  · have hsame : ApplicationCall.exec (watched deps) a .step = a := by
      simp only [ApplicationCall.exec]
      unfold gatewayApplicationStep
      rw [if_pos hrun]
    exact .keep (by rw [hsame]) (by rw [hsame]; exact ⟨rfl, rfl⟩) (by rw [hsame])
  · obtain ⟨htime, hworld, -⟩ := step_time (watched deps) a hrun
    obtain ⟨more, htimed⟩ := watched_timeSyncStep deps (timeEntry (watched deps) a).stopRequested
      (timeEntry (watched deps) a).coordinator (timeEntry (watched deps) a).network
      (timeEntry (watched deps) a).time ((watched deps).clock a.world).1 (timeEntry (watched deps) a).world
    have hexec : ApplicationCall.exec (watched deps) a .step = gatewayApplicationStep (watched deps) a := rfl
    have hentry := (timeEntry_frame (watched deps) a).1
    have hmoment : (clockMoment deps a .step).events =
        settingsMark a.time (timeOfStep (watched deps) a).1 ++ more := by
      have hevents : (timeOfStep (watched deps) a).2.events = a.world.events ++ more := by
        rw [← events_timeEntry deps a]
        exact htimed.events
      simp only [clockMoment, hexec, htime, hworld, hevents, List.drop_left]
    refine ⟨?_, ?_⟩
    · rw [hmoment, hexec, htime, ← hentry]
      exact htimed.moves
    · intro hmem
      rw [hmoment] at hmem
      have hmore : ClockEvent.saveRtc ∈ more := by
        rcases List.mem_append.mp hmem with hmark | hmore
        · rcases settingsMark_cases a.time (timeOfStep (watched deps) a).1 with hnone | hone
          · rw [hnone] at hmark
            cases hmark
          · rw [hone] at hmark
            cases List.mem_singleton.mp hmark
        · exact hmore
      obtain ⟨hread, htrust⟩ := htimed.saves hmore
      refine Or.inl ⟨rfl, ?_, ?_⟩
      · rw [hmoment]
        exact List.mem_append_right _ hread
      · simp only [clockMoment, hexec, htime]
        exact htrust

/-- A time that was set is trusted, and saved. -/
theorem watched_acceptManualTime (deps : GatewayApplicationDependencies ω σ κ device) (t : ApplicationTime)
    (result : GatewaySystemTimeResult) (w : Watched ω) :
    ∃ saves, (saves = [] ∨ saves = [.saveRtc]) ∧
      (acceptManualTime (watched deps) t result w).2.2.events = w.events ++ saves ∧
      clockState (acceptManualTime (watched deps) t result w).2.1 = { clockState t with trust := .manual } ∧
      SameSettings t (acceptManualTime (watched deps) t result w).2.1 := by
  unfold acceptManualTime
  simp only []
  split
  · obtain ⟨saves, hsaves, hevents, hstate, hsame⟩ := watched_rtcSaveTrusted deps { t with trust := .manual } w
    exact ⟨saves, hsaves, hevents, hstate, hsame.enabled, hsame.server⟩
  · exact ⟨[], Or.inl rfl, by rw [List.append_nil], rfl, rfl, rfl⟩

/-- The time is set by hand when no helper is there. -/
theorem moves_systemTimeSet (deps : GatewayApplicationDependencies ω σ κ device)
    (a : GatewayApplication (Watched ω) σ κ device)
    (v : GatewaySystemTime) : CallMoves deps a (.systemTimeSet v) := by
  have hexec : ApplicationCall.exec (watched deps) a (.systemTimeSet v) =
      (gatewayApplicationSystemTimeSet (watched deps) a v).2 := rfl
  have hset : ((watched deps).systemTimeSet v a.world).2.events =
      a.world.events ++ [.setClock ((watched deps).systemTimeSet v a.world).1] := rfl
  unfold gatewayApplicationSystemTimeSet at hexec
  split at hexec
  · exact .keep (by rw [hexec]) (by rw [hexec]; exact ⟨rfl, rfl⟩) (by rw [hexec])
  split at hexec
  · exact .keep (by rw [hexec]) (by rw [hexec]; exact ⟨rfl, rfl⟩) (by rw [hexec])
  · rename_i hfree
    simp only [not_or] at hfree
    obtain ⟨hnone, hterm, -⟩ := hfree
    have hterm : a.time.ntpTerminating = false := by simpa using hterm
    generalize (watched deps).systemTimeSet v a.world = done at hset hexec
    obtain ⟨result, w⟩ := done
    simp only at hset hexec
    split at hexec
    · rename_i hok
      obtain ⟨saves, hsaves, hevents, hstate, hsame⟩ := watched_acceptManualTime deps a.time result w
      rw [advance_eq] at hexec
      simp only at hexec
      generalize acceptManualTime (watched deps) a.time result w = accepted at hevents hstate hsame hexec
      obtain ⟨said, time, w'⟩ := accepted
      simp only at hevents hstate hsame hexec
      have hmoment : (clockMoment deps a (.systemTimeSet v)).events = [.setClock result] ++ saves := by
        simp only [clockMoment, hexec, hsame.settingsMark_eq, hevents, hset, List.append_assoc, List.drop_left,
          List.nil_append]
      have hmove : ClockMoves (clockState a.time) [.setClock result] { clockState a.time with trust := .manual } :=
        .one (.setByHand (clockState a.time) result hok hnone hterm)
      refine ⟨?_, ?_⟩
      · rw [hmoment, hexec, hstate]
        rcases hsaves with rfl | rfl
        · rw [List.append_nil]
          exact hmove
        · exact hmove.append (.one (.save _)) (by simp)
      · intro _
        refine Or.inr ⟨v, result, rfl, by simp [hmoment], hok, ?_⟩
        simp only [clockMoment, hexec]
        exact congrArg ClockState.trust hstate
    · rename_i hnot
      have hmoment : (clockMoment deps a (.systemTimeSet v)).events = [.setClock result] := by
        have hsame : SameSettings a.time a.time := ⟨rfl, rfl⟩
        simp only [clockMoment, hexec, hsame.settingsMark_eq, hset, List.drop_left, List.nil_append]
      refine ⟨?_, ?_⟩
      · rw [hmoment, hexec]
        exact .one (.notSet (clockState a.time) result (by simpa using hnot) hnone hterm)
      · intro hmem
        rw [hmoment] at hmem
        cases List.mem_singleton.mp hmem

theorem moves_requestConfiguration (deps : GatewayApplicationDependencies ω σ κ device)
    (a : GatewayApplication (Watched ω) σ κ device) (config : GatewayPersistentConfig) :
    (gatewayApplicationRequestConfiguration (watched deps) a config).2.time = a.time ∧
      (gatewayApplicationRequestConfiguration (watched deps) a config).2.world.events = a.world.events := by
  have hevents := quiet_requestConfiguration (quiet_watched deps) a config
  have hsame : gatewayApplicationRequestConfiguration (withoutCalendar (watched deps)) a config =
      gatewayApplicationRequestConfiguration (watched deps) a config := rfl
  rw [hsame] at hevents
  refine ⟨?_, hevents⟩
  have hresult := requestOutcome (watched deps) a config
  generalize gatewayApplicationRequestConfiguration (watched deps) a config = result at hresult
  cases hresult with
  | accepted w =>
    simp only [acceptRequest, GatewayApplication.withTransaction]
    rw [advance_eq]
  | refused | rejected | unchanged | notStaged => rfl

theorem callMoves_exec (deps : GatewayApplicationDependencies ω σ κ device)
    (a : GatewayApplication (Watched ω) σ κ device) (call : ApplicationCall) : CallMoves deps a call := by
  have hkeep : (call.exec (watched deps) a).time = a.time → (call.exec (watched deps) a).world.events = a.world.events →
      CallMoves deps a call := by
    intro htime hevents
    exact .keep (by rw [htime]) (by rw [htime]; exact ⟨rfl, rfl⟩) hevents
  cases call with
  | step => exact moves_step deps a
  | requestConfiguration config =>
    obtain ⟨htime, hevents⟩ := moves_requestConfiguration deps a config
    exact hkeep htime hevents
  | backlightSet on =>
    obtain ⟨htime, hevents⟩ : (gatewayApplicationBacklightSet (watched deps) a on).2.time = a.time ∧
        (gatewayApplicationBacklightSet (watched deps) a on).2.world.events = a.world.events := by
      unfold gatewayApplicationBacklightSet
      split
      · exact ⟨rfl, rfl⟩
      · simp only []
        have hrequest := moves_requestConfiguration deps a
          { a.coordinator.selected with settings := { a.coordinator.selected.settings with backlightOn := on } }
        generalize gatewayApplicationRequestConfiguration (watched deps) a _ = result at hrequest ⊢
        split <;> exact hrequest
    exact hkeep htime hevents
  | networkApply settings =>
    have hevents := quiet_networkApply (quiet_watched deps) a settings
    have hsame : gatewayApplicationNetworkApply (withoutCalendar (watched deps)) a settings =
        gatewayApplicationNetworkApply (watched deps) a settings := rfl
    rw [hsame] at hevents
    refine hkeep ?_ hevents
    have hresult := applyOutcome (watched deps) a settings
    simp only [ApplicationCall.exec]
    generalize gatewayApplicationNetworkApply (watched deps) a settings = result at hresult
    cases hresult with
    | refused | notStarted candidate w => rfl
    | started candidate w =>
      rw [advance_eq]
  | networkKeep =>
    refine hkeep ?_ ?_
    · simp only [ApplicationCall.exec, gatewayApplicationNetworkKeep]
      split <;> rfl
    · simp only [ApplicationCall.exec, gatewayApplicationNetworkKeep]
      split
      · rfl
      · exact quiet_networkRuntimeCommand (quiet_watched deps).network a.network 'K' a.world
  | networkRevert => exact hkeep rfl (quiet_revert (quiet_watched deps) a)
  | systemTimeSet v => exact moves_systemTimeSet deps a v
  | ntpTest enabled =>
    rcases ntpTest_cases (watched deps) a enabled with hsame | ⟨hne, retry, normal, next, heq⟩
    · exact hkeep (congrArg GatewayApplication.time hsame) (congrArg (fun a => a.world.events) hsame)
    · have hexec : ApplicationCall.exec (watched deps) a (.ntpTest enabled) = _ := heq
      rw [advance_eq] at hexec
      refine .keep ?_ ?_ ?_
      · rw [hexec]
        rfl
      · rw [hexec]
        exact ⟨rfl, rfl⟩
      · rw [hexec]
        rfl
  | requestStop =>
    refine hkeep ?_ ?_ <;> simp only [ApplicationCall.exec, gatewayApplicationRequestStop] <;> rw [advance_eq]
  | setEpoch epoch =>
    refine hkeep ?_ ?_ <;> simp only [ApplicationCall.exec, setRevisionEpoch] <;> rw [advance_eq]

/-! ## The selected settings -/

/-- Without a synchronization, and without a helper that could report one, a step ends without one. -/
theorem timeSyncFollow_ne_synced (deps : GatewayApplicationDependencies ω σ κ device) (stopping : Bool)
    (n : NetworkRuntime) (t : ApplicationTime) (now : CoreTick) (w : ω) (hsynced : t.trust ≠ .synced)
    (hsync : t.trust ≠ .syncing) : (timeSyncFollow deps stopping n t now w).1.trust ≠ .synced := by
  have hreap : (reapNtp deps t w).2.1.trust = t.trust := by
    unfold reapNtp
    split
    · split
      split <;> rfl
    · rfl
  unfold timeSyncFollow
  generalize reapNtp deps t w = reaped at hreap
  obtain ⟨gone, t₁, w₁⟩ := reaped
  simp only at hreap
  rw [← hreap] at hsynced hsync
  cases gone with
  | false => exact hsynced
  | true =>
    simp only []
    split
    · exact hsynced
    split
    · simp only []
      split
      · nofun
      · exact hsynced
    split
    · exact hsynced
    · unfold startSync
      simp only []
      split
      · nofun
      · exact trustAfterFailure_ne_synced _

/-- A step that finds the gateway running and leaves its time synchronized has the selected settings in
    force. -/
theorem settingsAgree_timeSyncStep (deps : GatewayApplicationDependencies ω σ κ device) (stop : Bool)
    (c : GatewayCoordinator σ κ device) (n : NetworkRuntime) (t : ApplicationTime) (now : CoreTick) (w : Watched ω)
    (hbefore : t.trustBeforeSync ≠ .syncing) (hgo : timeStops stop c = false) (hrun : runningState c.state = true)
    (hsynced : (timeSyncStep (watched deps) stop c n t now w).1.trust = .synced) :
    SettingsAgree (timeSyncStep (watched deps) stop c n t now w).1 c.selected.settings := by
  have hstops : (stop || decide (c.state = .shuttingDown) || decide (c.state = .stopped) ||
      decide (c.state = .fatalError)) = false := by
    rw [← hgo]
    simp only [timeStops, endingState, Bool.or_assoc]
  have heq : timeSyncStep (watched deps) stop c n t now w =
      timeSyncFollow (watched deps) false n
        (timeSettingsStep (watched deps) c.state c.selected.settings { t with ntpNetworkDeferred := false } w).1 now
        (timeSettingsStep (watched deps) c.state c.selected.settings { t with ntpNetworkDeferred := false } w).2 := by
    unfold timeSyncStep
    simp only [hstops, Bool.false_eq_true, if_false]
  rw [heq] at hsynced ⊢
  generalize hsettled : timeSettingsStep (watched deps) c.state c.selected.settings
    { t with ntpNetworkDeferred := false } w = settled at hsynced ⊢
  obtain ⟨t₁, w₁⟩ := settled
  have hagree : SettingsAgree t₁ c.selected.settings ∨ t₁.trust ≠ .synced ∧ t₁.trust ≠ .syncing := by
    obtain ⟨rtc, checked, hprobed⟩ := probeRtc_eq (watched deps) { t with ntpNetworkDeferred := false } w
    unfold timeSettingsStep at hsettled
    rw [if_pos hrun] at hsettled
    generalize probeRtc (watched deps) { t with ntpNetworkDeferred := false } w = probed at hprobed hsettled
    obtain ⟨t₀, w₀⟩ := probed
    simp only at hprobed hsettled
    have hbefore' : t₀.trustBeforeSync ≠ .syncing := by
      rw [hprobed]
      exact hbefore
    split at hsettled
    · rename_i hsame
      left
      split at hsettled
      · split at hsettled
        · obtain ⟨normal, retry, next, hres⟩ :=
            rescheduleSync_eq (watched deps) { t₀ with ntpIntervalHours := c.selected.settings.ntpIntervalHours } w₀
          rw [hres] at hsettled
          cases hsettled
          exact hsame
        · cases hsettled
          exact hsame
      · cases hsettled
        exact hsame
    · right
      cases hsettled
      by_cases hsync : t₀.trust = .syncing
      · simp only [if_pos hsync]
        exact ⟨heldOver_ne_synced _, fun h => hbefore' (heldOver_eq_syncing.mp h)⟩
      · simp only [if_neg hsync]
        exact ⟨heldOver_ne_synced _, fun h => hsync (heldOver_eq_syncing.mp h)⟩
  rcases hagree with hagree | ⟨hne, hidle⟩
  · obtain ⟨more, hfollow⟩ := watched_timeSyncFollow deps false n t₁ now w₁
    refine ⟨?_, hfollow.same.enabled.trans hagree.2.1, hfollow.same.server.trans hagree.2.2⟩
    rw [applied_timeSyncFollow]
    exact hagree.1
  · exact absurd hsynced (timeSyncFollow_ne_synced (watched deps) false n t₁ now w₁ hne hidle)

/-- Before settings are taken nothing is synchronized. -/
def Unapplied (t : ApplicationTime) : Prop :=
  t.timeSettingsApplied = false → t.trust ≠ .synced ∧ t.trust ≠ .syncing

theorem unapplied_timeSyncFollow (deps : GatewayApplicationDependencies ω σ κ device) (stopping : Bool)
    (n : NetworkRuntime) (t : ApplicationTime) (now : CoreTick) (w : ω) (h : Unapplied t) :
    Unapplied (timeSyncFollow deps stopping n t now w).1 := by
  intro happlied
  rw [applied_timeSyncFollow] at happlied
  have hreap : (reapNtp deps t w).2.1.trust = t.trust ∧
      (reapNtp deps t w).2.1.timeSettingsApplied = t.timeSettingsApplied := by
    unfold reapNtp
    split
    · split
      split <;> exact ⟨rfl, rfl⟩
    · exact ⟨rfl, rfl⟩
  unfold timeSyncFollow
  generalize reapNtp deps t w = reaped at hreap
  obtain ⟨gone, t₁, w₁⟩ := reaped
  obtain ⟨htrust, hsame⟩ := hreap
  simp only at htrust hsame
  have hidle := h happlied
  rw [← htrust] at hidle
  cases gone with
  | false => exact hidle
  | true =>
    have hnot : t₁.timeSettingsApplied = false := hsame.trans happlied
    simp only [hnot]
    simpa using hidle

/-- Settings are taken while the gateway runs. -/
theorem applied_timeSyncStep (deps : GatewayApplicationDependencies ω σ κ device) (stop : Bool)
    (c : GatewayCoordinator σ κ device) (n : NetworkRuntime) (t : ApplicationTime) (now : CoreTick) (w : ω)
    (h : Unapplied t) :
    Unapplied (timeSyncStep deps stop c n t now w).1 ∧
      ((timeSyncStep deps stop c n t now w).1.timeSettingsApplied = true →
        t.timeSettingsApplied = true ∨ runningState c.state = true) := by
  have hbefore : t.trust = .syncing → t.timeSettingsApplied = true := by
    intro hsync
    by_contra hnot
    exact (h (by simpa using hnot)).2 hsync
  unfold timeSyncStep
  simp only []
  split
  · split
    · rename_i hcancel
      refine ⟨unapplied_timeSyncFollow deps true n _ now _ ?_, ?_⟩
      · intro happlied
        exact absurd ((hbefore hcancel.1).symm.trans happlied) (by decide)
      · intro _
        exact Or.inl (hbefore hcancel.1)
    · refine ⟨unapplied_timeSyncFollow deps true n _ now _ h, ?_⟩
      rw [applied_timeSyncFollow]
      exact Or.inl
  by_cases hrun : runningState c.state = true
  · refine ⟨unapplied_timeSyncFollow deps false n _ now _ ?_, fun _ => Or.inr hrun⟩
    intro happlied
    have htaken : (timeSettingsStep deps c.state c.selected.settings { t with ntpNetworkDeferred := false }
        w).1.timeSettingsApplied = true := by
      unfold timeSettingsStep
      rw [if_pos hrun]
      generalize probeRtc deps { t with ntpNetworkDeferred := false } w = probed
      simp only []
      split
      · rename_i hsame
        split
        · split
          · obtain ⟨normal, retry, next, hres⟩ := rescheduleSync_eq deps
              { probed.1 with ntpIntervalHours := c.selected.settings.ntpIntervalHours } probed.2
            rw [hres]
            exact hsame.1
          · exact hsame.1
        · exact hsame.1
      · rfl
    exact absurd (htaken.symm.trans happlied) (by decide)
  · have hsame : timeSettingsStep deps c.state c.selected.settings { t with ntpNetworkDeferred := false } w =
        ({ t with ntpNetworkDeferred := false }, w) := by
      unfold timeSettingsStep
      rw [if_neg hrun]
    rw [hsame]
    refine ⟨unapplied_timeSyncFollow deps false n _ now _ h, ?_⟩
    rw [applied_timeSyncFollow]
    exact Or.inl

/-- Unless the gateway ends, a synchronized time has the selected settings in force. -/
structure SettingsKept (a : GatewayApplication (Watched ω) σ κ device) : Prop where
  begun : a.time.timeSettingsApplied = true → begunState a.coordinator.state = true
  unapplied : Unapplied a.time
  agree : a.time.trust = .synced →
    a.stopRequested = true ∨ endingState a.coordinator.state = true ∨
      SettingsAgree a.time a.coordinator.selected.settings

variable {deps : GatewayApplicationDependencies ω σ κ device} {a a' : GatewayApplication (Watched ω) σ κ device}

theorem settingsKept_step (h : SettingsKept a) (hbefore : a.time.trustBeforeSync ≠ .syncing) :
    SettingsKept (gatewayApplicationStep (watched deps) a) := by
  by_cases hrun : a.processState = .stopped
  · unfold gatewayApplicationStep
    rw [if_pos hrun]
    exact h
  · obtain ⟨htime, -, hstop, hselected, hending, hrunning, -⟩ := step_time (watched deps) a hrun
    obtain ⟨hentry, hstate⟩ := timeEntry_frame (watched deps) a
    have hbegun : a.time.timeSettingsApplied = true → begunState (timeEntry (watched deps) a).coordinator.state = true := by
      intro happlied
      rw [hstate]
      exact begun_beforeNetwork (watched deps) a (h.begun happlied)
    obtain ⟨hunapplied, happlied⟩ := applied_timeSyncStep (watched deps) (timeEntry (watched deps) a).stopRequested
      (timeEntry (watched deps) a).coordinator (timeEntry (watched deps) a).network
      (timeEntry (watched deps) a).time ((watched deps).clock a.world).1 (timeEntry (watched deps) a).world
      (by rw [hentry]; exact h.unapplied)
    have hagree := settingsAgree_timeSyncStep deps (timeEntry (watched deps) a).stopRequested
      (timeEntry (watched deps) a).coordinator (timeEntry (watched deps) a).network
      (timeEntry (watched deps) a).time ((watched deps).clock a.world).1 (timeEntry (watched deps) a).world
      (by rw [hentry]; exact hbefore)
    have htimed : (gatewayApplicationStep (watched deps) a).time = (timeSyncStep (watched deps)
        (timeEntry (watched deps) a).stopRequested (timeEntry (watched deps) a).coordinator
        (timeEntry (watched deps) a).network (timeEntry (watched deps) a).time ((watched deps).clock a.world).1
        (timeEntry (watched deps) a).world).1 := htime
    rw [← htimed] at hunapplied happlied hagree
    have hbegun' : (gatewayApplicationStep (watched deps) a).time.timeSettingsApplied = true →
        begunState (timeEntry (watched deps) a).coordinator.state = true := by
      intro htaken
      rcases happlied htaken with hbefore | hnow
      · exact hbegun (hentry ▸ hbefore)
      · simp [begunState, hnow]
    refine ⟨?_, hunapplied, ?_⟩
    · unfold begunState
      rw [hending, hrunning]
      exact hbegun'
    · intro hsynced
      rw [hstop, hending, hselected]
      cases hstops : timeStops (timeEntry (watched deps) a).stopRequested (timeEntry (watched deps) a).coordinator with
      | true =>
        simp only [timeStops, Bool.or_eq_true] at hstops
        exact hstops.imp_right Or.inl
      | false =>
        have htaken : (gatewayApplicationStep (watched deps) a).time.timeSettingsApplied = true := by
          by_contra hnot
          exact (hunapplied (by simpa using hnot)).1 hsynced
        have hgoes := hbegun' htaken
        simp only [timeStops, Bool.or_eq_false_iff] at hstops
        simp only [begunState, hstops.2, Bool.or_false] at hgoes
        exact Or.inr (Or.inr (hagree (by simp [timeStops, hstops]) hgoes hsynced))

theorem SettingsKept.of_same (h : SettingsKept a) (htime : a'.time = a.time)
    (hcoordinator : a'.coordinator = a.coordinator)
    (hstop : a.stopRequested = true → a'.stopRequested = true) : SettingsKept a' where
  begun := by
    rw [htime, hcoordinator]
    exact h.begun
  unapplied := by
    rw [htime]
    exact h.unapplied
  agree := by
    rw [htime, hcoordinator]
    exact fun hsynced => (h.agree hsynced).imp_left hstop

theorem settingsKept_requestConfiguration (h : SettingsKept a) (config : GatewayPersistentConfig) :
    SettingsKept (gatewayApplicationRequestConfiguration (watched deps) a config).2 := by
  have hresult := requestOutcome (watched deps) a config
  generalize gatewayApplicationRequestConfiguration (watched deps) a config = result at hresult
  cases hresult with
  | accepted w =>
    refine h.of_same ?_ ?_ ?_ <;> simp only [acceptRequest, GatewayApplication.withTransaction] <;> rw [advance_eq]
    exact id
  | refused | rejected | unchanged | notStaged => exact h.of_same rfl rfl id

/-- What was set by hand is not synchronized. -/
theorem settingsKept_systemTimeSet (h : SettingsKept a) (v : GatewaySystemTime) :
    SettingsKept (gatewayApplicationSystemTimeSet (watched deps) a v).2 := by
  unfold gatewayApplicationSystemTimeSet
  split
  · exact h
  split
  · exact h
  · generalize (watched deps).systemTimeSet v a.world = done
    obtain ⟨result, w⟩ := done
    simp only []
    split
    · have happlied : (acceptManualTime (watched deps) a.time result w).2.1.timeSettingsApplied =
          a.time.timeSettingsApplied ∧ (acceptManualTime (watched deps) a.time result w).2.1.trust = .manual := by
        obtain ⟨saves, -, -, hstate, -⟩ := watched_acceptManualTime deps a.time result w
        refine ⟨?_, congrArg ClockState.trust hstate⟩
        unfold acceptManualTime rtcSaveTrusted
        simp only []
        split
        · split
          · rfl
          · split <;> rfl
        · rfl
      rw [advance_eq]
      simp only []
      generalize acceptManualTime (watched deps) a.time result w = accepted at happlied
      obtain ⟨said, time, w'⟩ := accepted
      obtain ⟨hsame, htrust⟩ := happlied
      simp only at hsame htrust
      refine ⟨?_, ?_, ?_⟩
      · intro htaken
        exact h.begun (hsame.symm.trans htaken)
      · intro _
        rw [htrust]
        exact ⟨nofun, nofun⟩
      · intro hsynced
        cases htrust.symm.trans hsynced
    · exact h.of_same rfl rfl id

theorem settingsKept_exec (h : SettingsKept a) (hbefore : a.time.trustBeforeSync ≠ .syncing)
    (call : ApplicationCall) :
    SettingsKept (call.exec (watched deps) a) := by
  cases call with
  | step => exact settingsKept_step h hbefore
  | requestConfiguration config => exact settingsKept_requestConfiguration h config
  | backlightSet on =>
    simp only [ApplicationCall.exec]
    unfold gatewayApplicationBacklightSet
    split
    · exact h
    · simp only []
      have hrequest : ∀ config, SettingsKept (gatewayApplicationRequestConfiguration (watched deps) a config).2 :=
        settingsKept_requestConfiguration h
      specialize hrequest
        { a.coordinator.selected with settings := { a.coordinator.selected.settings with backlightOn := on } }
      generalize gatewayApplicationRequestConfiguration (watched deps) a _ = result at hrequest ⊢
      split
      · exact hrequest.of_same rfl rfl id
      · exact hrequest
  | networkApply settings =>
    have hresult := applyOutcome (watched deps) a settings
    simp only [ApplicationCall.exec]
    generalize gatewayApplicationNetworkApply (watched deps) a settings = result at hresult
    cases hresult with
    | refused => exact h
    | notStarted candidate w => exact h.of_same rfl rfl id
    | started candidate w =>
      rw [advance_eq]
      exact h.of_same rfl rfl id
  | networkKeep =>
    simp only [ApplicationCall.exec, gatewayApplicationNetworkKeep]
    split
    · exact h
    · exact h.of_same rfl rfl id
  | networkRevert => exact h.of_same rfl rfl id
  | systemTimeSet v => exact settingsKept_systemTimeSet h v
  | ntpTest enabled =>
    simp only [ApplicationCall.exec]
    rcases ntpTest_cases (watched deps) a enabled with hsame | ⟨-, retry, normal, next, heq⟩
    · rw [hsame]
      exact h
    · rw [heq, advance_eq]
      exact ⟨h.begun, h.unapplied, h.agree⟩
  | requestStop =>
    simp only [ApplicationCall.exec, gatewayApplicationRequestStop]
    rw [advance_eq]
    exact h.of_same rfl rfl fun _ => rfl
  | setEpoch epoch =>
    simp only [ApplicationCall.exec, setRevisionEpoch]
    rw [advance_eq]
    exact h.of_same rfl rfl id

/-! ## Whole runs -/

/-- A run as what its calls have left. -/
def clockHistory (deps : GatewayApplicationDependencies ω σ κ device) :
    List ApplicationCall → GatewayApplication (Watched ω) σ κ device → List ClockMoment
  | [], _ => []
  | call :: calls, a => clockMoment deps a call :: clockHistory deps calls (call.exec (watched deps) a)

def clockLog (history : List ClockMoment) : List ClockEvent := history.flatMap fun m => .call :: m.events

/-- What holds of the clock between the calls. -/
structure ClockKept (log : List ClockEvent) (a : GatewayApplication (Watched ω) σ κ device) : Prop where
  inv : ClockInv log (clockState a.time)
  settings : SettingsKept a

variable {log : List ClockEvent}

theorem clockKept_exec (h : ClockKept log a) (call : ApplicationCall) :
    ClockKept (log ++ .call :: (clockMoment deps a call).events) (call.exec (watched deps) a) where
  inv := h.inv.moves (callMoves_exec deps a call).moves
  settings := settingsKept_exec h.settings h.inv.before call

/-- **The run lemma.** -/
theorem clockKept_run (deps : GatewayApplicationDependencies ω σ κ device) (calls : List ApplicationCall)
    {a : GatewayApplication (Watched ω) σ κ device} (h : ClockKept log a) :
    ClockKept (log ++ clockLog (clockHistory deps calls a)) (runApplication (watched deps) calls a) ∧
      ∀ m ∈ clockHistory deps calls a, SavesNew m := by
  induction calls generalizing log a with
  | nil =>
    refine ⟨?_, nofun⟩
    simpa [clockHistory, clockLog, runApplication] using h
  | cons call calls ih =>
    obtain ⟨hkept, hsaves⟩ := ih (clockKept_exec h call)
    refine ⟨?_, ?_⟩
    · have hlog : log ++ clockLog (clockHistory deps (call :: calls) a) =
          log ++ .call :: (clockMoment deps a call).events ++
            clockLog (clockHistory deps calls (call.exec (watched deps) a)) := by
        simp [clockHistory, clockLog]
      rw [hlog]
      exact hkept
    · intro m hm
      rcases List.mem_cons.mp hm with rfl | hm
      · exact (callMoves_exec deps a call).saves
      · exact hsaves m hm

/-- What stands behind the trust in the clock. -/
structure ClockTrusted (history : List ClockMoment) (a : GatewayApplication (Watched ω) σ κ device) : Prop where
  /-- A synchronized time has been earned, under the settings in force, and nothing has spoiled it. -/
  synced : a.time.trust = .synced → Earned (clockLog history)
  /-- Unless the gateway ends, the settings in force are those selected. -/
  selected : a.time.trust = .synced →
    a.stopRequested = true ∨ endingState a.coordinator.state = true ∨
      SettingsAgree a.time a.coordinator.selected.settings
  /-- An attempt goes on just while a helper that was started is neither reported finished nor
      cancelled. -/
  syncing : a.time.trust = .syncing ↔ helperAfter (clockLog history) = some .running
  /-- A time set by hand stays, but for attempts, until a helper reports success. -/
  manual : ManualStands (clockLog history) → a.time.trust = .manual ∨ a.time.trust = .syncing
  byHand : a.time.trust = .manual → ManualStands (clockLog history)
  /-- The hardware clock is written only by what has just made the time synchronized or manual. -/
  saved : ∀ m ∈ history, SavesNew m

theorem ClockInv.syncing_iff {s : ClockState} (h : ClockInv log s) :
    s.trust = .syncing ↔ helperAfter log = some .running := by
  constructor
  · exact fun hsync => (h.running hsync).2
  · intro hrunning
    have hhelper := Option.some.inj (h.helper.symm.trans hrunning)
    unfold ClockState.helper at hhelper
    split at hhelper
    · cases hhelper
    · split at hhelper
      · assumption
      · cases hhelper

/-- **The trust in the clock is earned.** In every run, whatever the helper, the clocks and the system
    answer. -/
theorem clockTrusted_of_runApplication (deps : GatewayApplicationDependencies ω σ κ device)
    (environment : Option (NetworkEnvironment × NetworkProfile)) (server : CString)
    (controller : GatewayController σ κ device) (now : CoreTick) (w : ω) (calls : List ApplicationCall) :
    let a := gatewayApplicationInit environment server controller now (Watched.mk w [])
    ClockTrusted (clockHistory deps calls a) (runApplication (watched deps) calls a) := by
  intro a
  have hinit : ClockKept [] a := by
    refine ⟨⟨rfl, nofun, nofun, ?_, ?_⟩, nofun, fun _ => ⟨nofun, nofun⟩, nofun⟩
    · rintro (h | ⟨h, -⟩) <;> cases h
    · constructor
      · rintro ⟨past, result, since, heq, -⟩
        simp at heq
      · rintro (h | ⟨h, -⟩) <;> cases h
  obtain ⟨hkept, hsaves⟩ := clockKept_run deps calls hinit
  rw [List.nil_append] at hkept
  refine ⟨fun h => hkept.inv.synced (Or.inl h), hkept.settings.agree, hkept.inv.syncing_iff, ?_,
    fun h => hkept.inv.manual.mpr (Or.inl h), hsaves⟩
  exact fun h => (hkept.inv.manual.mp h).imp_right And.left

end FourVrs.App
