import FourVrs.App.Coordinator

/-!
# The time of the gateway (`app/gateway_application.c`)

The clock is set by hand, or by a helper process that asks an NTP server; what the
gateway says of its time is how far it can be trusted. A helper that is cancelled is
reaped before the clock may be touched again.
-/

set_option autoImplicit false

namespace FourVrs.App

open FourVrs.Core Config Gateway Network

def gatewayNtpAttemptTimeoutMs : CoreTick := 15000
def gatewayNtpRetryInitialMs : CoreTick := 5000
def gatewayNtpRetrySecondMs : CoreTick := 30000
def gatewayNtpRetryMaxMs : CoreTick := 300000
def ntpTestIntervalMs : CoreTick := 60000

inductive GatewayTimeTrust where
  | unknown | unsynced | syncing | synced | manual | error | holdover
  deriving DecidableEq, Repr, Inhabited

inductive GatewayNtpResult where
  | notConfigured | notAttempted | inProgress | succeeded | failed | timedOut | unsuitable
  deriving DecidableEq, Repr, Inhabited

/-- `gateway_time_health_t` and the other fields of the application that are about time. -/
structure ApplicationTime where
  trust : GatewayTimeTrust
  lastNtpResult : GatewayNtpResult
  ntpEnabled : Nat
  ntpIntervalHours : Nat
  ntpTestActive : Bool
  ntpTestAttempts : Nat
  ntpServer : CString
  ntpAttempts : Nat
  lastNtpAttempt : CoreTick
  lastSync : CoreTick
  nextNtpAttempt : CoreTick
  ntpNetworkDeferred : Bool
  rtc : GatewayRtcState
  lastRtcSave : CoreTick
  rtcSaveFailures : Nat
  ntpFailures : Nat
  trustBeforeSync : GatewayTimeTrust
  ntpTerminating : Bool
  timeSettingsApplied : Bool
  rtcChecked : Bool
  ntpDeadline : CoreDeadline
  ntpRetryDeadline : CoreDeadline
  ntpNormalDeadline : CoreDeadline

/-- A counter that stays at its end. -/
def saturate (n : Nat) : Nat := if n = 0xffffffff then n else n + 1

/-- The fields of `gateway_application_init`. -/
def applicationTimeInit (server : CString) : ApplicationTime where
  trust := .unsynced
  lastNtpResult := if server.bytes = [] then .notConfigured else .notAttempted
  ntpEnabled := 0
  ntpIntervalHours := 1
  ntpTestActive := false
  ntpTestAttempts := 0
  ntpServer := .ofText (server.bytes.take (gatewayNtpServerMax - 1))
  ntpAttempts := 0
  lastNtpAttempt := 0
  lastSync := 0
  nextNtpAttempt := 0
  ntpNetworkDeferred := false
  rtc := .unknown
  lastRtcSave := 0
  rtcSaveFailures := 0
  ntpFailures := 0
  trustBeforeSync := .unknown
  ntpTerminating := false
  timeSettingsApplied := false
  rtcChecked := false
  ntpDeadline := ⟨0, false⟩
  ntpRetryDeadline := ⟨0, false⟩
  ntpNormalDeadline := ⟨0, false⟩

/-! ## The calendar -/

def leapYear (y : Nat) : Bool := (y % 4 = 0 && y % 100 ≠ 0) || y % 400 = 0

def monthDays : List Nat := [31, 28, 31, 30, 31, 30, 31, 31, 30, 31, 30, 31]

/-- `gateway_system_time_validate(v) == 0`. -/
def systemTimeValid (v : GatewaySystemTime) : Bool :=
  decide (2000 ≤ v.year) && decide (v.year ≤ 2037) && decide (1 ≤ v.month) && decide (v.month ≤ 12) &&
    decide (v.hour ≤ 23) && decide (v.minute ≤ 59) && decide (v.second ≤ 59) && decide (1 ≤ v.day) &&
    decide (v.day ≤
      monthDays.getD (v.month - 1) 0 + if v.month = 2 ∧ leapYear v.year then 1 else 0)

variable {ω σ κ : Type} {device : σ → σ → Prop}

/-! ## Setting the time by hand -/

variable (deps : GatewayApplicationDependencies ω σ κ device)

/-- `rtc_save_trusted`. -/
def rtcSaveTrusted (t : ApplicationTime) (w : ω) : ApplicationTime × ω :=
  match deps.rtcSave with
  | none => (t, w)
  | some save =>
      match save w with
      | (.saved, w) =>
          match deps.clock w with
          | (now, w) => ({ t with rtc := .saved, lastRtcSave := now }, w)
      | (rtc, w) => ({ t with rtc := rtc, rtcSaveFailures := saturate t.rtcSaveFailures }, w)

/-- The three results after which the clock has been set. -/
def clockWasSet (result : GatewaySystemTimeResult) : Bool :=
  decide (result = .ok) || decide (result = .rtcSyncFailed) || decide (result = .rtcUnsupported)

/-- What is said of a time that was set, by how its saving went. -/
def savedResult : GatewayRtcState → GatewaySystemTimeResult
  | .saved => .ok
  | .unavailable => .rtcUnsupported
  | _ => .rtcSyncFailed

/-- The end of `gateway_application_system_time_set`, once the clock has been set. -/
def acceptManualTime (t : ApplicationTime) (result : GatewaySystemTimeResult) (w : ω) :
    GatewaySystemTimeResult × ApplicationTime × ω :=
  let t := { t with trust := .manual }
  if deps.rtcSave.isSome then
    match rtcSaveTrusted deps t w with
    | (t, w) => (savedResult t.rtc, t, w)
  else (result, t, w)

/-! ## The settings -/

/-- A saved time does not wait for a synchronization longer than its new interval. -/
def rescheduleSync (t : ApplicationTime) (w : ω) : ApplicationTime × ω :=
  match deps.clock w with
  | (now, w) =>
      let interval : CoreTick := BitVec.ofNat 32 (t.ntpIntervalHours * 3600000)
      let elapsed := coreElapsed t.lastSync now
      let due := coreDeadlineAfter now (if interval ≤ elapsed then 0 else interval - elapsed)
      let t := { t with ntpNormalDeadline := due }
      (if t.ntpTestActive then t
        else { t with ntpRetryDeadline := due, nextNtpAttempt := due.dueAt }, w)

/-- New settings are taken: a helper that runs for the old ones is cancelled. -/
def adoptTimeSettings (s : GatewayProductSettings) (t : ApplicationTime) (w : ω) : ApplicationTime × ω :=
  let cancelled := t.trust = .syncing
  let trust := if cancelled then t.trustBeforeSync else t.trust
  ({ t with
      ntpTerminating := t.ntpTerminating || cancelled
      trust := if trust = .synced then .holdover else trust
      ntpTestActive := false
      ntpEnabled := s.ntpEnabled
      ntpIntervalHours := s.ntpIntervalHours
      ntpServer := .ofText (s.ntpServer.bytes.take (gatewayNtpServerMax - 1))
      ntpFailures := 0
      nextNtpAttempt := 0
      ntpRetryDeadline := { t.ntpRetryDeadline with armed := false }
      ntpNormalDeadline := { t.ntpNormalDeadline with armed := false }
      lastNtpResult := if s.ntpEnabled ≠ 0 then .notAttempted else .notConfigured
      timeSettingsApplied := true },
    if cancelled then (deps.ntpCancel.map fun cancel => cancel w).getD w else w)

def probeRtc (t : ApplicationTime) (w : ω) : ApplicationTime × ω :=
  if t.rtcChecked then (t, w)
  else
    match deps.rtcProbe with
    | none => ({ t with rtcChecked := true }, w)
    | some probe =>
        match probe w with
        | (rtc, w) => ({ t with rtc := rtc, rtcChecked := true }, w)

/-- The gateway has started and not begun to stop. -/
def runningState (state : GatewayApplicationState) : Bool :=
  decide (state = .ready) || decide (state = .degraded) || decide (state = .safeMode)

/-- `time_settings_step`. -/
def timeSettingsStep (state : GatewayApplicationState) (s : GatewayProductSettings) (t : ApplicationTime)
    (w : ω) : ApplicationTime × ω :=
  if runningState state then
    match probeRtc deps t w with
    | (t, w) =>
        if t.timeSettingsApplied ∧ t.ntpEnabled = s.ntpEnabled ∧ t.ntpServer = s.ntpServer then
          if t.ntpIntervalHours ≠ s.ntpIntervalHours then
            let t := { t with ntpIntervalHours := s.ntpIntervalHours }
            -- A synchronization that runs and the pause after a failure stay as they are.
            if t.trust = .synced then rescheduleSync deps t w else (t, w)
          else (t, w)
        else adoptTimeSettings deps s t w
  else (t, w)

/-! ## Synchronization -/

def ntpRetryDelay (attempts : Nat) : CoreTick :=
  if attempts ≤ 1 then gatewayNtpRetryInitialMs
  else if attempts = 2 then gatewayNtpRetrySecondMs
  else gatewayNtpRetryMaxMs

def trustAfterFailure : GatewayTimeTrust → GatewayTimeTrust
  | .manual => .manual
  | .synced | .holdover => .holdover
  | _ => .error

/-- `time_sync_failed`. -/
def timeSyncFailed (t : ApplicationTime) (now : CoreTick) (result : GatewayNtpResult) : ApplicationTime :=
  let failures := saturate t.ntpFailures
  let delay := ntpRetryDelay failures
  let ended := decide (3 ≤ t.ntpTestAttempts)
  let retry := if t.ntpTestActive && !ended then ntpTestIntervalMs else delay
  { t with
    ntpFailures := failures
    ntpNormalDeadline := coreDeadlineAfter now delay
    ntpTestActive := t.ntpTestActive && !ended
    lastNtpResult := if result = .failed ∧ t.lastNtpResult = .unsuitable then .unsuitable else result
    trust := trustAfterFailure t.trustBeforeSync
    ntpRetryDeadline := coreDeadlineAfter now retry
    nextNtpAttempt := now + retry }

/-- The helper is asked; `-1` without a function to ask. -/
def pollNtp (t : ApplicationTime) (w : ω) : Int × ApplicationTime × ω :=
  match deps.ntpPoll with
  | none => (-1, t, w)
  | some poll =>
      match poll w with
      | ((r, unsuitable), w) =>
          (r, if unsuitable then { t with lastNtpResult := .unsuitable } else t, w)

/-- The helper reports success: the calendar is read back. -/
def timeSyncSucceeded (t : ApplicationTime) (now : CoreTick) (w : ω) : ApplicationTime × ω :=
  match deps.systemTimeGet w with
  | ((result, checked), w) =>
      if result ≠ .ok ∨ ¬ systemTimeValid checked then
        -- An invalid calendar is no holdover from an earlier synchronization.
        (timeSyncFailed { t with trustBeforeSync := .unsynced } now .failed, w)
      else
        let normal : CoreTick := BitVec.ofNat 32 (t.ntpIntervalHours * 3600000)
        let active := t.ntpTestActive && decide (t.ntpTestAttempts < 3)
        let interval := if active then ntpTestIntervalMs else normal
        rtcSaveTrusted deps
          { t with
            trust := .synced, lastNtpResult := .succeeded, lastSync := now, ntpFailures := 0
            ntpNormalDeadline := coreDeadlineAfter now normal
            ntpTestActive := active
            ntpRetryDeadline := coreDeadlineAfter now interval
            nextNtpAttempt := now + interval } w

/-- `time_sync_step` with a helper running. -/
def awaitSync (t : ApplicationTime) (now : CoreTick) (w : ω) : ApplicationTime × ω :=
  match pollNtp deps t w with
  | (r, t, w) =>
      if r > 0 then timeSyncSucceeded deps t now w
      else if r < 0 then (timeSyncFailed t now .failed, w)
      else if coreDeadlineExpired t.ntpDeadline now then
        (timeSyncFailed { t with ntpTerminating := true } now .timedOut,
          (deps.ntpCancel.map fun cancel => cancel w).getD w)
      else (t, w)

/-- The network the server would be asked over is not there. -/
def networkDefers (n : NetworkRuntime) (server : CString) : Bool :=
  n.available && n.observedValid &&
    (n.observationError ||
      !(decide (∃ i, (n.observed.lan i).up ≠ 0 ∧ (n.observed.lan i).link ≠ 0 ∧
          (n.observed.lan i).address ≠ [])) ||
      ((ipv4Parse server.bytes).isNone && decide (n.observed.dns 0 = []) &&
        decide (n.observed.dns 1 = [])))

/-- A helper is started. -/
def startSync (t : ApplicationTime) (now : CoreTick) (w : ω) : ApplicationTime × ω :=
  let t :=
    { t with
      trustBeforeSync := t.trust, ntpAttempts := saturate t.ntpAttempts, lastNtpAttempt := now
      ntpTestAttempts := if t.ntpTestActive then t.ntpTestAttempts + 1 else t.ntpTestAttempts }
  match (deps.ntpStart.map fun start => start t.ntpServer w).getD ((-1 : Int), w) with
  | (0, w) =>
      ({ t with
          trust := .syncing, lastNtpResult := .inProgress
          ntpDeadline := coreDeadlineAfter now gatewayNtpAttemptTimeoutMs }, w)
  | (_, w) => (timeSyncFailed t now .failed, w)

/-- A cancelled helper is reaped, whatever became of the settings: whether it has gone. -/
def reapNtp (t : ApplicationTime) (w : ω) : Bool × ApplicationTime × ω :=
  if t.ntpTerminating then
    match pollNtp deps t w with
    | (r, _, w) => if r = 0 then (false, t, w) else (true, { t with ntpTerminating := false }, w)
  else (true, t, w)

/-- `time_sync_step` from the reaping on. -/
def timeSyncFollow (stopping : Bool) (n : NetworkRuntime) (t : ApplicationTime) (now : CoreTick) (w : ω) :
    ApplicationTime × ω :=
  match reapNtp deps t w with
  | (false, t, w) => (t, w)
  | (true, t, w) =>
      if stopping ∨ ¬ t.timeSettingsApplied ∨ t.ntpEnabled = 0 ∨ t.ntpServer.bytes = [] then (t, w)
      else if t.trust = .syncing then awaitSync deps t now w
      else if networkDefers n t.ntpServer then
        ({ t with
            ntpNetworkDeferred := true
            trust :=
              if t.trust = .synced ∧ coreDeadlineExpired t.ntpNormalDeadline now then .holdover
              else t.trust }, w)
      else if t.ntpRetryDeadline.armed ∧ ¬ coreDeadlineExpired t.ntpRetryDeadline now then (t, w)
      else startSync deps t now w

/-- `time_sync_step`. -/
def timeSyncStep (stop : Bool) (c : GatewayCoordinator σ κ device) (n : NetworkRuntime) (t : ApplicationTime)
    (now : CoreTick) (w : ω) : ApplicationTime × ω :=
  let stopping := stop || decide (c.state = .shuttingDown) || decide (c.state = .stopped) ||
    decide (c.state = .fatalError)
  let t := { t with ntpNetworkDeferred := false }
  if stopping then
    let t := { t with ntpTestActive := false }
    if t.trust = .syncing ∧ ¬ t.ntpTerminating then
      timeSyncFollow deps true n
        { t with ntpTerminating := true, trust := t.trustBeforeSync, lastNtpResult := .notAttempted } now
        ((deps.ntpCancel.map fun cancel => cancel w).getD w)
    else timeSyncFollow deps true n t now w
  else
    match timeSettingsStep deps c.state c.selected.settings t w with
    | (t, w) => timeSyncFollow deps false n t now w

end FourVrs.App
