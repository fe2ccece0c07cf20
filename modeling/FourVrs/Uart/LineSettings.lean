import FourVrs.Core.PortDevice
import FourVrs.Uart.Backend

/-!
# The settings on the line

What the device is set to is read off the history of the backend: the settings of the
last `apply_config` that returned 0, unless the device has been closed or a later
`apply_config` has failed on the way. `Wired` is the invariant of a runtime that works
on this backend: in the states that serve, these are the settings the runtime believes
in, and in all others enough is known of the descriptor to get there.

Two notions of "the settings" are of interest, all fields of `core_port_config_t` and
the fields that reach the line, so the invariant compares settings under a `view`.
-/

set_option autoImplicit false

namespace FourVrs.Uart

open FourVrs.Core

variable {η κ α : Type}

/-- What an event leaves of the settings known to be on the line. -/
def UartEvent.settle (line : Option CorePortConfig) : UartEvent → Option CorePortConfig
  | .opened | .closed => none
  | .applied config true _ => some config
  | .applied _ false true => none
  | .applied _ false false | .started _ _ | .wrote _ | .received _ | .drained _ => line

def UartBackend.lineSettings (uart : UartBackend η) : Option CorePortConfig :=
  uart.history.foldl UartEvent.settle none

@[simp] theorem lineSettings_log (uart : UartBackend η) (event : UartEvent) :
    (uart.log event).lineSettings = event.settle uart.lineSettings := by
  simp [UartBackend.lineSettings, UartBackend.log]

/-- The device is open and known to be at `config`. -/
structure Carries (uart : UartBackend η) (config : CorePortConfig) : Prop where
  isOpen : 0 ≤ uart.fd
  line : uart.lineSettings = some config

instance (uart : UartBackend η) (config : CorePortConfig) : Decidable (Carries uart config) :=
  decidable_of_iff (0 ≤ uart.fd ∧ uart.lineSettings = some config)
    ⟨fun h => ⟨h.1, h.2⟩, fun h => ⟨h.isOpen, h.line⟩⟩

/-! ## Calls that leave the settings alone -/

/-- The descriptor, the settings to open with and the line are as they were. -/
structure Untouched (uart uart' : UartBackend η) : Prop where
  fd : uart'.fd = uart.fd
  config : uart'.config = uart.config
  line : uart'.lineSettings = uart.lineSettings

theorem Untouched.refl (uart : UartBackend η) : Untouched uart uart := ⟨rfl, rfl, rfl⟩

theorem Untouched.trans {uart uart' uart'' : UartBackend η} (h : Untouched uart uart')
    (h' : Untouched uart' uart'') : Untouched uart uart'' :=
  ⟨h'.fd.trans h.fd, h'.config.trans h.config, h'.line.trans h.line⟩

theorem Untouched.carries {uart uart' : UartBackend η} (h : Untouched uart uart')
    {config : CorePortConfig} (hc : Carries uart config) : Carries uart' config :=
  ⟨h.fd ▸ hc.isOpen, h.line.trans hc.line⟩

theorem untouched_backendStart (uart : UartBackend η) (transaction : CoreTransaction)
    (now : CoreTick) : Untouched uart (backendStart uart transaction now).2 := by
  unfold backendStart
  split
  · exact .refl uart
  · split
    · exact ⟨rfl, rfl, rfl⟩
    · exact ⟨rfl, rfl, lineSettings_log _ _⟩

theorem untouched_callFailed (uart : UartBackend η) : Untouched uart (callFailed uart).2.2 := by
  unfold callFailed
  split <;> exact .refl uart

theorem untouched_pollWrite (uart : UartBackend η) : Untouched uart (pollWrite uart).2.2 := by
  unfold pollWrite
  simp only
  split
  · exact ⟨rfl, rfl, lineSettings_log _ _⟩
  split
  · refine .trans ?_ (untouched_callFailed _)
    exact ⟨rfl, rfl, rfl⟩
  · exact ⟨rfl, rfl, rfl⟩

theorem untouched_judgeResponse (uart : UartBackend η) :
    Untouched uart (judgeResponse uart).2.2 := by
  unfold judgeResponse
  split
  · split <;> exact .refl uart
  · split
    · exact .refl uart
    · simp only
      split <;> exact .refl uart
  · exact .refl uart

theorem untouched_pollRead (uart : UartBackend η) : Untouched uart (pollRead uart).2.2 := by
  unfold pollRead
  split
  · exact .refl uart
  · simp only
    split
    · refine .trans ?_ (untouched_judgeResponse _)
      exact ⟨rfl, rfl, lineSettings_log _ _⟩
    split
    · refine .trans ?_ (untouched_callFailed _)
      exact ⟨rfl, rfl, rfl⟩
    · exact ⟨rfl, rfl, rfl⟩

theorem untouched_backendPoll (uart : UartBackend η) (now : CoreTick) :
    Untouched uart (backendPoll uart now).2.2 := by
  unfold backendPoll
  split
  · exact .refl uart
  split
  · exact .refl uart
  split
  · exact untouched_pollWrite uart
  split
  · exact ⟨rfl, rfl, rfl⟩
  · split
    · exact .refl uart
    · exact untouched_pollRead uart

theorem untouched_backendCancel (uart : UartBackend η) (generation : BitVec 32) :
    Untouched uart (backendCancel uart generation) := by
  unfold backendCancel
  split <;> exact ⟨rfl, rfl, rfl⟩

theorem untouched_drainLoop (passes total : Nat) (uart : UartBackend η) :
    Untouched uart (drainLoop passes total uart).2.2 := by
  induction passes generalizing total uart with
  | zero => exact .refl uart
  | succ passes ih =>
    unfold drainLoop
    split
    · simp only
      split
      · refine .trans ?_ (ih _ _)
        exact ⟨rfl, rfl, lineSettings_log _ _⟩
      · split <;> exact ⟨rfl, rfl, rfl⟩
    · exact .refl uart

/-- A recovery works on an open device only. -/
theorem backendRecover_spec (uart : UartBackend η) (now : CoreTick) :
    Untouched uart (backendRecover uart now).2 ∧
      ((backendRecover uart now).1 = 0 → 0 ≤ uart.fd) := by
  have hdrain := untouched_drainLoop uartRecoveryDrainLimit 0 uart
  unfold backendRecover
  split
  · exact ⟨.refl uart, fun h => absurd h (by simp)⟩
  · rename_i hopen
    refine ⟨?_, fun _ => not_lt.mp hopen⟩
    split <;> rename_i heq <;> rw [heq] at hdrain
    · exact hdrain
    split
    · exact hdrain
    · split
      · exact hdrain.trans ⟨rfl, rfl, rfl⟩
      · exact hdrain.trans ⟨rfl, rfl, rfl⟩

theorem untouched_deviceCall {uart uart' : UartBackend η}
    (h : DeviceCall uartBackendOps uart uart') : Untouched uart uart' := by
  cases h with
  | start transaction now => exact untouched_backendStart uart transaction now
  | poll now => exact untouched_backendPoll uart now
  | cancel generation => exact untouched_backendCancel uart generation
  | recover now => exact (backendRecover_spec uart now).1

theorem untouched_deviceCalls {uart uart' : UartBackend η}
    (h : DeviceCalls uartBackendOps uart uart') : Untouched uart uart' := by
  induction h with
  | refl => exact .refl _
  | tail _ hcall ih => exact ih.trans (untouched_deviceCall hcall)

/-! ## Calls that set the line -/

/-- What `apply_config` may do: take the settings, or refuse and keep the old ones to
    open with, whatever the device is at by then. -/
inductive Applied (uart : UartBackend η) (config : CorePortConfig) : Int × UartBackend η → Prop where
  | taken (uart' : UartBackend η) (hconfig : uart'.config = config) (h : Carries uart' config) :
      Applied uart config (0, uart')
  | refused (uart' : UartBackend η) (hfd : uart'.fd = uart.fd) (hconfig : uart'.config = uart.config) :
      Applied uart config (-1, uart')

theorem applied_succeeded {uart : UartBackend η} (hopen : 0 ≤ uart.fd) (config : CorePortConfig)
    (before : UartBackend η) : Applied before config (applySucceeded uart config) :=
  .taken _ rfl ⟨hopen, lineSettings_log _ _⟩

theorem applied_failed {uart before : UartBackend η} (hfd : uart.fd = before.fd)
    (hconfig : uart.config = before.config) (config : CorePortConfig) (touched : Bool) :
    Applied before config (applyFailed uart config touched) :=
  .refused _ hfd hconfig

theorem applied_applySpecialBaud {uart before : UartBackend η} (hopen : 0 ≤ uart.fd)
    (hfd : uart.fd = before.fd) (hconfig : uart.config = before.config) (config : CorePortConfig) :
    Applied before config (applySpecialBaud uart config) := by
  unfold applySpecialBaud
  split
  · exact applied_succeeded hopen config before
  split
  · split
    · split
      · exact applied_succeeded (by exact hopen) config before
      · exact applied_failed (by exact hfd) (by exact hconfig) config true
    · exact applied_failed (by exact hfd) (by exact hconfig) config true
  · exact applied_failed (by exact hfd) (by exact hconfig) config true

theorem applied_applyMode {uart before : UartBackend η} (hopen : 0 ≤ uart.fd)
    (hfd : uart.fd = before.fd) (hconfig : uart.config = before.config) (config : CorePortConfig) :
    Applied before config (applyMode uart config) := by
  unfold applyMode
  split
  · split
    · split
      · exact applied_applySpecialBaud (by exact hopen) (by exact hfd) (by exact hconfig) config
      · exact applied_failed (by exact hfd) (by exact hconfig) config true
    · exact applied_failed (by exact hfd) (by exact hconfig) config true
  · exact applied_failed (by exact hfd) (by exact hconfig) config true

theorem applied_applyConfig (uart : UartBackend η) (config : CorePortConfig) :
    Applied uart config (applyConfig uart config) := by
  unfold applyConfig
  split
  · exact applied_failed rfl rfl config false
  · rename_i hguard
    have hopen : 0 ≤ uart.fd := by
      by_contra hneg
      exact hguard (by simp [not_le.mp hneg])
    split
    · split
      · exact applied_applyMode (by exact hopen) (by rfl) (by rfl) config
      · exact applied_failed (by rfl) (by rfl) config true
    · exact applied_failed (by rfl) (by rfl) config false

/-- What `backend_open` may do to a closed device. -/
inductive Opened (uart : UartBackend η) : Int × UartBackend η → Prop where
  | done (uart' : UartBackend η) (hconfig : uart'.config = uart.config)
      (h : Carries uart' uart.config) : Opened uart (0, uart')
  | gaveUp (uart' : UartBackend η) (hconfig : uart'.config = uart.config) (hfd : uart'.fd < 0) :
      Opened uart (-1, uart')

theorem opened_abandonDevice {uart before : UartBackend η} (hconfig : uart.config = before.config) :
    Opened before (-1, abandonDevice uart) :=
  .gaveUp _ hconfig (by simp [abandonDevice, UartBackend.log])

theorem config_saveDevice (uart : UartBackend η) :
    (saveSpecialBaud (saveDevice uart)).config = uart.config := by
  unfold saveSpecialBaud
  split <;> rfl

theorem config_restoreSaved (uart : UartBackend η) : (restoreSaved uart).config = uart.config := by
  cases htermios : uart.savedTermiosValid <;> cases hmode : uart.savedModeValid <;>
    simp [restoreSaved, htermios, hmode]

theorem opened_openConfigured {uart before : UartBackend η} (hconfig : uart.config = before.config) :
    Opened before (openConfigured uart) := by
  unfold openConfigured
  split
  · exact opened_abandonDevice hconfig
  split
  · exact opened_abandonDevice hconfig
  · have happlied := applied_applyConfig uart uart.config
    generalize applyConfig uart uart.config = result at happlied ⊢
    cases happlied with
    | taken uart' hconfig' h =>
      exact .done uart' (hconfig'.trans hconfig) (hconfig ▸ h)
    | refused uart' hfd hconfig' =>
      exact opened_abandonDevice ((config_restoreSaved uart').trans (hconfig'.trans hconfig))

theorem opened_backendOpen {uart : UartBackend η} (hclosed : uart.fd < 0) (now : CoreTick) :
    Opened uart (backendOpen uart now) := by
  unfold backendOpen
  rw [if_neg (not_le.mpr hclosed)]
  simp only
  split
  · rename_i hfd
    exact .gaveUp _ rfl hfd
  · exact opened_openConfigured (config_saveDevice _)

/-- A stop that succeeds leaves the device closed. -/
theorem backendStop_spec (uart : UartBackend η) (now : CoreTick) :
    (backendStop uart now).2.config = uart.config ∧
      ((backendStop uart now).1 = 0 → (backendStop uart now).2.fd < 0) := by
  unfold backendStop
  split
  · rename_i hclosed
    exact ⟨rfl, fun _ => hclosed⟩
  split
  rename_i restored uart' heq
  have hconfig : uart'.config = uart.config := by
    rw [stopRestore, Prod.mk.injEq] at heq
    rw [← heq.2]
  split
  · exact ⟨hconfig, fun _ => by simp [UartBackend.log]⟩
  · exact ⟨hconfig, fun h => absurd h (by simp)⟩

/-! ## The runtime on this backend -/

section Runtime

variable (view : CorePortConfig → α)

/-- The device is known to be at settings that look like `config`. -/
def CarriesAs (uart : UartBackend η) (config : CorePortConfig) : Prop :=
  ∃ applied, Carries uart applied ∧ view applied = view config

def LineHolds (uart : UartBackend η) (config : CorePortConfig) : PortState → Prop
  | .ready | .active | .waiting => CarriesAs view uart config
  | .recovering | .degraded => uart.fd < 0 ∨ CarriesAs view uart config
  | .starting | .disabled => uart.fd < 0
  | .reconfiguring | .stopping | .error => True

structure Wired (c : PortControl (UartBackend η) κ) (uart : UartBackend η) : Prop where
  coherent : c.Coherent
  backend : c.backend = some uartBackendOps
  /-- What the device would be opened with. -/
  config : view uart.config = view c.currentConfig
  line : LineHolds view uart c.currentConfig c.state

end Runtime

variable {view : CorePortConfig → α}

variable {config : CorePortConfig}

theorem carriesAs_iff {uart : UartBackend η} :
    CarriesAs view uart config ↔
      0 ≤ uart.fd ∧ uart.lineSettings.map view = some (view config) := by
  rw [Option.map_eq_some_iff]
  constructor
  · rintro ⟨applied, hcarries, hview⟩
    exact ⟨hcarries.isOpen, applied, hcarries.line, hview⟩
  · rintro ⟨hopen, applied, hline, hview⟩
    exact ⟨applied, ⟨hopen, hline⟩, hview⟩

instance [DecidableEq α] (uart : UartBackend η) (config : CorePortConfig) :
    Decidable (CarriesAs view uart config) :=
  decidable_of_iff _ carriesAs_iff.symm

theorem CarriesAs.carries {uart : UartBackend η} (h : CarriesAs id uart config) : Carries uart config := by
  obtain ⟨_, hcarries, rfl⟩ := h
  exact hcarries

theorem CarriesAs.untouched {uart uart' : UartBackend η} (h : CarriesAs view uart config)
    (hu : Untouched uart uart') : CarriesAs view uart' config := by
  obtain ⟨applied, hcarries, hview⟩ := h
  exact ⟨applied, hu.carries hcarries, hview⟩

variable {state : PortState}

theorem LineHolds.untouched {uart uart' : UartBackend η} (h : LineHolds view uart config state)
    (hu : Untouched uart uart') :
    LineHolds view uart' config state := by
  cases state with
  | ready | active | waiting => exact CarriesAs.untouched h hu
  | recovering | degraded => exact h.imp (hu.fd ▸ ·) (·.untouched hu)
  | starting | disabled => exact (hu.fd ▸ h : uart'.fd < 0)
  | reconfiguring | stopping | error => trivial

/-- Only the look of the settings matters. -/
theorem LineHolds.congr {uart : UartBackend η} {config config' : CorePortConfig}
    (h : LineHolds view uart config state) (hview : view config' = view config) :
    LineHolds view uart config' state := by
  have hcarries : CarriesAs view uart config → CarriesAs view uart config' := by
    rintro ⟨applied, hcarries, happlied⟩
    exact ⟨applied, hcarries, happlied.trans hview.symm⟩
  cases state with
  | ready | active | waiting => exact hcarries h
  | recovering | degraded => exact h.imp_right hcarries
  | starting | disabled => exact h
  | reconfiguring | stopping | error => trivial

variable {c c' : PortControl (UartBackend η) κ} {uart uart' : UartBackend η}

theorem Wired.untouched (h : Wired view c uart) (hu : Untouched uart uart') : Wired view c uart' :=
  ⟨h.coherent, h.backend, by rw [hu.config, h.config], h.line.untouched hu⟩

/-- The states without a transaction. -/
theorem Wired.idles (h : Wired view c uart) (hbusy : state.busy = false)
    (hline : LineHolds view uart c.currentConfig state) :
    Wired view { c with state := state, hasActive := false } uart :=
  ⟨⟨hbusy.symm, h.coherent.knownGood⟩, h.backend, h.config, hline⟩

theorem Wired.carries (h : Wired view c uart)
    (hs : c.state = .ready ∨ c.state = .active ∨ c.state = .waiting) :
    CarriesAs view uart c.currentConfig := by
  have hline := h.line
  rcases hs with hs | hs | hs <;> rw [hs] at hline <;> exact hline

theorem Wired.closed (h : Wired view c uart) (hs : c.state = .starting ∨ c.state = .disabled) :
    uart.fd < 0 := by
  have hline := h.line
  rcases hs with hs | hs <;> rw [hs] at hline <;> exact hline

theorem Wired.recoverable (h : Wired view c uart)
    (hs : c.state = .recovering ∨ c.state = .degraded) :
    uart.fd < 0 ∨ CarriesAs view uart c.currentConfig := by
  have hline := h.line
  rcases hs with hs | hs <;> rw [hs] at hline <;> exact hline

/-! ## The runtime's step -/

/-- A step that only uses the device: the one that needs an argument is out of a
    recovery, which works on an open device only. -/
theorem Wired.uses (h : Wired view c uart) (hstep : ControlStep c c') (hstarting : c.state ≠ .starting)
    (hreconfiguring : c.state ≠ .reconfiguring) (hstopping : c.state ≠ .stopping)
    (hopen : c.state = .recovering → c'.state = .ready → 0 ≤ uart.fd) : Wired view c' uart := by
  have hcoherent := hstep.coherent h.coherent
  cases hstep with
  | stay => exact h
  | opened hs => exact absurd hs hstarting
  | lost hs => exact h.idles rfl (.inr (h.carries (.inr (hs.resolve_left hstarting))))
  | activated hs => exact ⟨hcoherent, h.backend, h.config, h.carries (.inl hs)⟩
  | started hs => exact ⟨hcoherent, h.backend, h.config, h.carries (.inr (.inl hs))⟩
  | completed hs => exact h.idles rfl (h.carries (.inr (.inr hs)))
  | recovered hs =>
    refine ⟨hcoherent, h.backend, h.config, ?_⟩
    exact (h.recoverable (.inl hs)).resolve_left (not_lt.mpr (hopen hs rfl))
  | gaveUp hs => exact ⟨hcoherent, h.backend, h.config, h.recoverable (.inl hs)⟩
  | reconfigured hs | fellBack hs => exact absurd hs hreconfiguring
  | failed hs => exact absurd (hs.resolve_left hreconfiguring) hstopping
  | stopped hs => exact absurd hs hstopping

/-- `Wired` of a port. -/
abbrev WiredPort (view : CorePortConfig → α) (port : PortRuntime (UartBackend η) κ) : Prop :=
  Wired view port.control port.backendContext

variable {port : PortRuntime (UartBackend η) κ}

theorem wired_stepStarting (h : WiredPort view port) (hs : port.state = .starting)
    (now : CoreTick) : WiredPort view (stepStarting uartBackendOps port now) := by
  have hidle : port.hasActive = false := PortRuntime.Coherent.hasActive_of_state h.coherent hs
  have hopened : Opened port.backendContext (uartBackendOps.open port.backendContext now) :=
    opened_backendOpen (h.closed (.inl hs)) now
  have hcases := stepStarting_device h.backend hs now
  unfold WiredPort
  generalize uartBackendOps.open port.backendContext now = result at hopened hcases
  cases hopened with
  | done uart hconfig hcarries =>
    obtain ⟨_, hcontrol, hcontext⟩ | ⟨hne, _⟩ := hcases
    · rw [hcontrol, hcontext]
      exact ⟨⟨hidle, h.coherent.knownGood⟩, h.backend, hconfig ▸ h.config, _, hcarries, h.config⟩
    · exact absurd rfl hne
  | gaveUp uart hconfig hfd =>
    obtain ⟨hzero, _⟩ | ⟨_, hcontrol, hcalls⟩ := hcases
    · exact absurd hzero (by simp)
    · refine Wired.untouched ?_ (untouched_deviceCalls hcalls)
      have hstill : Wired view port.control uart := by
        refine ⟨h.coherent, h.backend, hconfig ▸ h.config, ?_⟩
        rw [show port.control.state = _ from hs]
        exact hfd
      rcases hcontrol with hcontrol | hcontrol <;> rw [hcontrol]
      · exact hstill
      · exact hstill.idles rfl (.inl hfd)

theorem wired_stepReconfiguring (h : WiredPort view port) (hs : port.state = .reconfiguring)
    (now : CoreTick) : WiredPort view (stepReconfiguring uartBackendOps port now) := by
  have hidle : port.hasActive = false := PortRuntime.Coherent.hasActive_of_state h.coherent hs
  have hgood : port.knownGoodConfig = port.currentConfig := h.coherent.knownGood
  have happlied : ∀ (uart : UartBackend η) config, Applied uart config (uartBackendOps.reconfigure uart config now) :=
    applied_applyConfig
  unfold WiredPort
  obtain ⟨hzero, hcontrol, hcontext⟩ | ⟨context, hbefore, hcontrol, hcontext⟩ :=
    stepReconfiguring_device uartBackendOps hs now
  · rw [hcontrol, hcontext]
    have htaken := happlied port.backendContext port.stagedConfig
    generalize uartBackendOps.reconfigure port.backendContext port.stagedConfig now = result
      at hzero htaken
    cases htaken with
    | taken uart hconfig hcarries =>
      exact ⟨⟨hidle, rfl⟩, h.backend, by rw [hconfig], _, hcarries, rfl⟩
    | refused uart hfd hconfig => exact absurd hzero (by simp)
  · have hconfig : context.config = port.backendContext.config := by
      rcases hbefore with rfl | ⟨hne, rfl⟩
      · rfl
      · have hrefused := happlied port.backendContext port.stagedConfig
        generalize uartBackendOps.reconfigure port.backendContext port.stagedConfig now = result
          at hne hrefused
        cases hrefused with
        | taken uart hconfig hcarries => exact absurd rfl hne
        | refused uart hfd hconfig => exact hconfig
    rw [hcontrol, hcontext]
    have happlied := happlied context port.knownGoodConfig
    generalize uartBackendOps.reconfigure context port.knownGoodConfig now = result at happlied
    cases happlied with
    | taken uart hconfig' hcarries =>
      refine ⟨⟨hidle, hgood⟩, h.backend, ?_, _, hcarries, ?_⟩
      · exact congrArg view (hconfig'.trans hgood)
      · exact congrArg view hgood
    | refused uart hfd hconfig' =>
      refine ⟨⟨hidle, hgood⟩, h.backend, ?_, trivial⟩
      exact (congrArg view (hconfig'.trans hconfig)).trans h.config

theorem wired_stepStopping (h : WiredPort view port) (hs : port.state = .stopping)
    (now : CoreTick) : WiredPort view (stepStopping uartBackendOps port now) := by
  have hidle : port.hasActive = false := PortRuntime.Coherent.hasActive_of_state h.coherent hs
  obtain ⟨hconfig, hclosed⟩ := backendStop_spec port.backendContext now
  obtain ⟨hcontext, hcontrol⟩ := stepStopping_device uartBackendOps hs now
  have hview : view (backendStop port.backendContext now).2.config = view port.currentConfig := by
    rw [hconfig]
    exact h.config
  unfold WiredPort
  rw [hcontext]
  rcases hcontrol with ⟨hzero, hcontrol⟩ | hcontrol | hcontrol <;> rw [hcontrol]
  · exact ⟨⟨hidle, h.coherent.knownGood⟩, h.backend, hview, hclosed hzero⟩
  · refine ⟨h.coherent, h.backend, hview, ?_⟩
    rw [show port.control.state = _ from hs]
    trivial
  · exact ⟨⟨hidle, h.coherent.knownGood⟩, h.backend, hview, trivial⟩

/-- **A step keeps the settings on the line.** -/
theorem wired_portRuntimeStep (h : WiredPort view port) (now : CoreTick) :
    WiredPort view (portRuntimeStep port now) := by
  have hbackend : port.backend = some uartBackendOps := h.backend
  have hstep := control_portRuntimeStep h.coherent now
  by_cases hstarting : port.state = .starting
  · have heq : portRuntimeStep port now = stepStarting uartBackendOps port now := by
      simp [portRuntimeStep, hbackend, hstarting]
    rw [heq]
    exact wired_stepStarting h hstarting now
  by_cases hreconfiguring : port.state = .reconfiguring
  · have heq : portRuntimeStep port now = stepReconfiguring uartBackendOps port now := by
      simp [portRuntimeStep, hbackend, hreconfiguring]
    rw [heq]
    exact wired_stepReconfiguring h hreconfiguring now
  by_cases hstopping : port.state = .stopping
  · have heq : portRuntimeStep port now = stepStopping uartBackendOps port now := by
      simp [portRuntimeStep, hbackend, hstopping]
    rw [heq]
    exact wired_stepStopping h hstopping now
  have hcalls := deviceCalls_portRuntimeStep hbackend hstarting hreconfiguring hstopping now
  refine Wired.untouched ?_ (untouched_deviceCalls hcalls)
  refine h.uses hstep hstarting hreconfiguring hstopping fun hrecovering hready => ?_
  have heq : portRuntimeStep port now = stepRecovering uartBackendOps port now := by
    simp [portRuntimeStep, hbackend, show port.state = .recovering from hrecovering]
  obtain ⟨context, hzero, hused, _⟩ :=
    (stepRecovering_device uartBackendOps hrecovering now).2 (heq ▸ hready)
  rw [← (untouched_deviceCalls hused).fd]
  exact (backendRecover_spec context now).2 hzero

/-! ## Requests -/

theorem wired_portRuntimeStart (h : WiredPort view port) (hs : port.state ≠ .error)
    (now startTimeout : CoreTick) :
    WiredPort view (portRuntimeStart port now startTimeout).2 := by
  unfold WiredPort
  rw [context_portRuntimeStart]
  rcases portRuntimeStart_cases port now startTimeout with ⟨_, heq⟩ | ⟨hstate, _, heq⟩ <;> rw [heq]
  · exact h
  · have hdisabled := hstate.resolve_right hs
    have hidle : port.hasActive = false :=
      PortRuntime.Coherent.hasActive_of_state h.coherent hdisabled
    exact ⟨⟨hidle, h.coherent.knownGood⟩, h.backend, h.config, h.closed (.inr hdisabled)⟩

theorem wired_portRuntimeSubmitOperation (h : WiredPort view port) (request : SubmitRequest) :
    WiredPort view (portRuntimeSubmitOperation port request).2.2 := by
  unfold WiredPort
  rw [control_portRuntimeSubmitOperation, context_portRuntimeSubmitOperation]
  exact h

theorem wired_portRuntimeReportIoFailure (h : WiredPort view port) (now : CoreTick)
    (message : String) : WiredPort view (portRuntimeReportIoFailure port now message).2 := by
  refine Wired.untouched ?_
    (untouched_deviceCalls (deviceCalls_portRuntimeReportIoFailure h.backend now message))
  rcases control_portRuntimeReportIoFailure port now message with heq | ⟨hs, heq⟩ <;> rw [heq]
  · exact h
  · exact h.idles rfl (.inr (h.carries (.inl hs)))

theorem wired_portRuntimeDetachListener (h : WiredPort view port) (now : CoreTick) :
    WiredPort view (portRuntimeDetachListener port now).2 := by
  refine Wired.untouched ?_
    (untouched_deviceCalls (deviceCalls_portRuntimeDetachListener h.backend now))
  rcases control_portRuntimeDetachListener h.coherent now with heq | ⟨hs, heq⟩ <;> rw [heq]
  · exact h
  · exact h.idles rfl (.inr (h.carries (.inr hs)))

theorem wired_portRuntimeRequestReconfigure (h : WiredPort view port) (config : CorePortConfig)
    (now timeout : CoreTick) :
    WiredPort view (portRuntimeRequestReconfigure port config now timeout).2 := by
  rcases portRuntimeRequestReconfigure_cases port config now timeout with heq | ⟨_, heq⟩
  · rw [heq]
    exact h
  · refine Wired.untouched ?_
      (untouched_deviceCalls (deviceCalls_portRuntimeRequestReconfigure h.backend config now timeout))
    rw [heq]
    exact ⟨⟨rfl, rfl⟩, h.backend, h.config, trivial⟩

theorem wired_portRuntimeRequestStop (h : WiredPort view port) (now timeout : CoreTick) :
    WiredPort view (portRuntimeRequestStop port now timeout).2 := by
  rcases portRuntimeRequestStop_cases port now timeout with heq | ⟨_, _, heq⟩
  · rw [heq]
    exact h
  · refine Wired.untouched ?_
      (untouched_deviceCalls (deviceCalls_portRuntimeRequestStop h.backend now timeout))
    rw [heq]
    exact h.idles rfl trivial

theorem wired_portRuntimeInit {uart : UartBackend η} (hclosed : uart.fd < 0)
    (hview : view uart.config = view config) (portIndex : Nat) (completionContext : κ)
    (accepted : List CoreTransaction) :
    WiredPort view (portRuntimeInit portIndex config (some uartBackendOps) uart completionContext
      accepted) :=
  ⟨⟨rfl, rfl⟩, rfl, hview, hclosed⟩

end FourVrs.Uart
