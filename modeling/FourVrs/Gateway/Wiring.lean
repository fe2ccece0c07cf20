import FourVrs.Gateway.Controller
import FourVrs.Uart.LineSettings

/-!
# The controller, the runtime and the line

The three together: the controller on runtimes that work on the UART backend. The
settings the runtime believes in are on the line whenever it serves, for every answer
of the system calls, with two exceptions:

* `gateway_controller_reconfigure` enables a disabled port with new settings. It
  initialises the runtime with them, but not the backend, and `backend_open` applies
  the settings the backend holds: the last it has taken, or the adapter's own.
* After a rebind of the listener the controller writes the new revision into
  `runtime.current_config`. The line is as it was; only the revision differs.

A listener may use the device, but not open, close or configure it.
-/

set_option autoImplicit false

namespace FourVrs.Gateway

open FourVrs.Core Config Uart

variable {η κ α : Type} {view : CorePortConfig → α}

/-- A port on the UART backend. -/
abbrev UartPort (η κ : Type) : Type := GatewayPortController (UartBackend η) κ Untouched

abbrev UartController (η κ : Type) : Type := GatewayController (UartBackend η) κ Untouched

variable {port port' : PortRuntime (UartBackend η) κ}

theorem wired_listenerCall (h : WiredPort view port) (hcall : ListenerCall Untouched port port') :
    WiredPort view port' ∧ (port.state = .disabled → port'.state = .disabled) := by
  cases hcall with
  | submit request =>
    have hcontrol := control_portRuntimeSubmitOperation port request
    exact ⟨wired_portRuntimeSubmitOperation h request,
      (congrArg PortControl.state hcontrol).trans⟩
  | reportIoFailure now message =>
    refine ⟨wired_portRuntimeReportIoFailure h now message, fun hs => ?_⟩
    rcases control_portRuntimeReportIoFailure port now message with heq | ⟨hready, _⟩
    · exact (congrArg PortControl.state heq).trans hs
    · exact absurd (hs.symm.trans hready) (by simp)
  | setCompletion completion =>
    exact ⟨⟨⟨h.coherent.busy, h.coherent.knownGood⟩, h.backend, h.config, h.line⟩, id⟩
  | work context => exact ⟨h, id⟩
  | useDevice context hu => exact ⟨h.untouched hu, id⟩

theorem wired_listenerCalls (h : WiredPort view port) (hcalls : ListenerCalls Untouched port port') :
    WiredPort view port' ∧ (port.state = .disabled → port'.state = .disabled) := by
  induction hcalls with
  | refl => exact ⟨h, id⟩
  | tail _ hcall ih =>
    have hnext := wired_listenerCall ih.1 hcall
    exact ⟨hnext.1, hnext.2 ∘ ih.2⟩

variable (view) in
/-- The invariant of a port. -/
structure PortWired (p : UartPort η κ) : Prop where
  runtime : WiredPort view p.runtime
  backendOps : p.binding.backendOps = some uartBackendOps
  /-- The device of a port that can be started or enabled is closed. -/
  down : p.lifecycle = .disabled → p.runtime.state = .disabled

variable {p p' : UartPort η κ}

theorem PortWired.listened (h : PortWired view p) (hp : Listened p p') : PortWired view p' := by
  obtain ⟨runtime, owned, hcalls⟩ := hp
  have hcalls := wired_listenerCalls h.runtime hcalls
  exact ⟨hcalls.1, h.backendOps, fun hl => hcalls.2 (h.down hl)⟩

/-- A port may change its life cycle to any but `DISABLED`. -/
theorem PortWired.running (h : PortWired view p) {runtime : PortRuntime (UartBackend η) κ}
    (hr : WiredPort view runtime) (hp' : p'.runtime = runtime) (hb : p'.binding = p.binding)
    (hl : p'.lifecycle ≠ .disabled) : PortWired view p' := by
  subst hp'
  exact ⟨hr, by rw [hb]; exact h.backendOps, fun he => absurd he hl⟩

/-- It may also keep it, with its runtime. -/
theorem PortWired.keeps (h : PortWired view p) (hp' : p'.runtime = p.runtime)
    (hb : p'.binding = p.binding) (hl : p'.lifecycle = p.lifecycle) : PortWired view p' := by
  refine ⟨?_, by rw [hb]; exact h.backendOps, ?_⟩
  · rw [hp']
    exact h.runtime
  · rw [hl, hp']
    exact h.down

/-! ## The step -/

theorem wired_stopOrElse (h : PortWired view p) (now : CoreTick)
    {refused : UartPort η κ → UartPort η κ} (hrefused : PortWired view (refused p)) :
    PortWired view (stopOrElse p now refused) := by
  have hcases := portRuntimeRequestStop_cases p.runtime now gatewayStopTimeout
  have hstopped := wired_portRuntimeRequestStop h.runtime now gatewayStopTimeout
  unfold stopOrElse
  split
  · rename_i runtime hresult
    rw [hresult] at hstopped
    exact h.running hstopped rfl rfl (by simp)
  · rename_i result runtime hne hresult
    rw [hresult] at hcases
    rcases hcases with heq | ⟨_, hzero, _⟩
    · obtain ⟨_, rfl⟩ := Prod.mk.inj heq
      exact hrefused
    · exact absurd hzero hne

theorem wired_transportStartAt (h : PortWired view p) (config : GatewayPortConfig) :
    PortWired view (transportStartAt p config).2 :=
  h.listened (listened_transportStartAt p config)

theorem wired_startListenerOrFail (h : PortWired view p) (now : CoreTick) :
    PortWired view (startListenerOrFail p now) := by
  have hstarted := wired_transportStartAt h p.current
  unfold startListenerOrFail
  split
  · exact h.running h.runtime rfl rfl (by simp)
  · unfold transportStart
    split <;> rename_i q heq <;> rw [heq] at hstarted
    · exact hstarted.running hstarted.runtime rfl rfl (by simp)
    · refine wired_stopOrElse ?_ now ?_
      · exact hstarted.keeps rfl rfl rfl
      · exact hstarted.running hstarted.runtime rfl rfl (by simp)

/-- What completing a rebind may find: the revision it writes looks like the one in
    force. -/
def rebindMeets (view : CorePortConfig → α) (p : UartPort η κ) : Prop :=
  p.lifecycle = .reconfiguring → p.listenerRebind = true → p.runtime.state = .ready →
    p.networkWait = false →
    (transportStartAt { p with listenerRebind := false } p.staged).1 = 0 →
    view { p.runtime.currentConfig with revision := p.staged.revision } =
      view p.runtime.currentConfig

theorem listenerCalls_currentConfig (hcalls : ListenerCalls Untouched port port') :
    port'.currentConfig = port.currentConfig := by
  induction hcalls with
  | refl => rfl
  | tail _ hcall ih =>
    refine Eq.trans ?_ ih
    cases hcall with
    | submit request =>
      exact congrArg PortControl.currentConfig (control_portRuntimeSubmitOperation _ request)
    | reportIoFailure now message =>
      rcases control_portRuntimeReportIoFailure _ now message with heq | ⟨_, heq⟩ <;>
        exact congrArg PortControl.currentConfig heq
    | setCompletion completion | work context | useDevice context hu => rfl

/-- Writing another revision into the runtime's settings. -/
theorem wired_relabel {port : PortRuntime (UartBackend η) κ} (h : WiredPort view port)
    (revision : Nat) (hview : view { port.currentConfig with revision := revision } =
      view port.currentConfig) :
    WiredPort view
      { port with
        currentConfig := { port.currentConfig with revision := revision }
        knownGoodConfig := { port.knownGoodConfig with revision := revision } } := by
  obtain ⟨⟨hbusy, hgood⟩, hb, hconfig, hline⟩ := h
  refine ⟨⟨hbusy, ?_⟩, hb, hconfig.trans hview.symm, hline.congr hview⟩
  show { port.knownGoodConfig with revision := revision } =
    { port.currentConfig with revision := revision }
  rw [show port.knownGoodConfig = port.currentConfig from hgood]

theorem wired_stepRebind (h : PortWired view p) (hl : p.lifecycle = .reconfiguring)
    (hr : p.listenerRebind = true) (hm : rebindMeets view p) : PortWired view (stepRebind p) := by
  unfold stepRebind
  split
  · rename_i hready
    split
    · exact h.running h.runtime rfl rfl (by simp)
    · rename_i hwait
      have hstart := hm hl hr hready (Bool.eq_false_iff.mpr hwait)
      have hlistened := listened_transportStartAt { p with listenerRebind := false } p.staged
      split <;> rename_i heq <;> rw [heq] at hlistened hstart <;>
        obtain ⟨runtime, owned, hcalls⟩ := hlistened
      · have hruntime := (wired_listenerCalls h.runtime hcalls).1
        have hview := hstart rfl
        rw [← listenerCalls_currentConfig hcalls] at hview
        exact h.running (wired_relabel hruntime p.staged.revision hview) rfl rfl (by simp)
      · have hruntime := (wired_listenerCalls h.runtime hcalls).1
        unfold transportStart
        have hagain := listened_transportStartAt
          { p with
            listenerRebind := false, runtime := runtime, listenerOwned := owned
            listenerFailures := increment p.listenerFailures
            reconfigureFailures := increment p.reconfigureFailures
            lastError := .listenerStart } p.current
        split <;> rename_i heq' <;> rw [heq'] at hagain <;>
          obtain ⟨runtime', owned', hcalls'⟩ := hagain <;>
          exact h.running (wired_listenerCalls hruntime hcalls').1 rfl rfl (by simp)
  · split
    · exact h.running h.runtime rfl rfl (by simp)
    · exact h

theorem wired_beginRollback (h : PortWired view p) (now : CoreTick) :
    PortWired view (beginRollback p now) := by
  have hruntime := wired_portRuntimeRequestReconfigure h.runtime (coreConfig p.knownGood) now
    gatewayReconfigureTimeout
  unfold beginRollback
  split <;> rename_i heq <;> rw [heq] at hruntime <;> exact h.running hruntime rfl rfl (by simp)

theorem wired_stepReconfigure (h : PortWired view p) (now : CoreTick) :
    PortWired view (stepReconfigure p now) := by
  have hstarted := wired_transportStartAt h p.staged
  unfold stepReconfigure
  split
  · split
    · refine wired_startListenerOrFail ?_ now
      exact h.keeps rfl rfl rfl
    split
    · exact h.running h.runtime rfl rfl (by simp)
    split <;> rename_i heq <;> rw [heq] at hstarted
    · exact hstarted.running hstarted.runtime rfl rfl (by simp)
    · refine wired_beginRollback ?_ now
      exact hstarted.keeps rfl rfl rfl
  · split
    · exact h.running h.runtime rfl rfl (by simp)
    · exact h

theorem wired_stepRollback (h : PortWired view p) : PortWired view (stepRollback p) := by
  have hstarted := wired_transportStartAt h p.current
  unfold stepRollback
  split
  · split
    · exact h.running h.runtime rfl rfl (by simp)
    · unfold transportStart
      split <;> rename_i heq <;> rw [heq] at hstarted <;>
        exact hstarted.running hstarted.runtime rfl rfl (by simp)
  · split
    · exact h.running h.runtime rfl rfl (by simp)
    · exact h

theorem wired_stepStop (h : PortWired view p) : PortWired view (stepStop p) := by
  unfold stepStop
  split
  · rename_i hdisabled
    split <;> exact ⟨h.runtime, h.backendOps, fun _ => hdisabled⟩
  · split
    · exact h.running h.runtime rfl rfl (by simp)
    · exact h

theorem wired_stepLifecycle (h : PortWired view p) (hm : rebindMeets view p) (now : CoreTick) :
    PortWired view (stepLifecycle p now) := by
  unfold stepLifecycle
  split
  · split
    · exact wired_startListenerOrFail h now
    · split
      · exact h.running h.runtime rfl rfl (by simp)
      · exact h
  · split
    · exact h.running h.runtime rfl rfl (by simp)
    · exact h
  · rename_i hl
    split
    · rename_i hr
      exact wired_stepRebind h hl hr hm
    · exact wired_stepReconfigure h now
  · exact wired_stepRollback h
  · exact wired_stepStop h
  all_goals exact h

/-- The port as `step_port` finds it once the listener and the runtime have run. -/
def steppedPort (p : UartPort η κ) (now : CoreTick) : UartPort η κ :=
  { listenPort p now with runtime := portRuntimeStep (listenPort p now).runtime now }

theorem wired_stepPort (h : PortWired view p) (now : CoreTick)
    (hm : rebindMeets view (steppedPort p now)) : PortWired view (stepPort p now) := by
  have hkept : PortWired view { p with schedulerSteps := increment p.schedulerSteps } :=
    h.keeps rfl rfl rfl
  have hlistened : PortWired view (listenPort p now) :=
    hkept.listened (listened_transportStep _ now)
  have hstepped : PortWired view (steppedPort p now) := by
    refine ⟨wired_portRuntimeStep hlistened.runtime now, hlistened.backendOps, fun hl => ?_⟩
    have hdisabled : (listenPort p now).runtime.state = .disabled := hlistened.down hl
    have hstill : portRuntimeStep (listenPort p now).runtime now = (listenPort p now).runtime := by
      have hbackend : (listenPort p now).runtime.backend = some uartBackendOps :=
        hlistened.runtime.backend
      simp [portRuntimeStep, hbackend, hdisabled]
    exact (congrArg PortRuntime.state hstill).trans hdisabled
  exact wired_stepLifecycle hstepped hm now

/-! ## The other operations -/

theorem wired_startPort (h : PortWired view p) (now : CoreTick) :
    PortWired view (startPort p now) := by
  unfold startPort
  split
  · exact h
  · rename_i hguard
    rw [not_or, not_not] at hguard
    have hstarted := wired_portRuntimeStart h.runtime (by simp [h.down hguard.1]) now
      gatewayStartTimeout
    split <;> rename_i heq <;> rw [heq] at hstarted <;> exact h.running hstarted rfl rfl (by simp)

variable {config : GatewayPortConfig}

theorem wired_initPort {uart : UartBackend η} (hclosed : uart.fd < 0)
    (hview : view uart.config = view (coreConfig config)) (index : Nat) (error : GatewayError)
    {binding : GatewayPortBinding (UartBackend η) κ Untouched} (hb : binding.backendOps = some uartBackendOps)
    (context : κ) :
    PortWired view (initPort index config error binding (uart, context)) := by
  refine ⟨?_, hb, fun _ => rfl⟩
  unfold initPort
  rw [hb]
  exact wired_portRuntimeInit hclosed hview index context []

theorem wired_transportStop (h : PortWired view p) : PortWired view (transportStop p).2 :=
  h.listened (listened_transportStop p)

theorem wired_reconfigureDisable (h : PortWired view p) (config : GatewayPortConfig)
    (now : CoreTick) : PortWired view (reconfigureDisable p config now).2 := by
  have hstopped := wired_transportStop h
  unfold reconfigureDisable
  split
  · exact h.keeps rfl rfl rfl
  split <;> rename_i q heq <;> rw [heq] at hstopped
  · have hcases := portRuntimeRequestStop_cases q.runtime now gatewayStopTimeout
    have hruntime := wired_portRuntimeRequestStop hstopped.runtime now gatewayStopTimeout
    split <;> rename_i heq' <;> rw [heq'] at hruntime
    · exact hstopped.running hruntime rfl rfl (by simp)
    · rename_i hne
      rw [heq'] at hcases
      rcases hcases with hsame | ⟨_, hzero, _⟩
      · obtain ⟨_, rfl⟩ := Prod.mk.inj hsame
        exact hstopped.keeps rfl rfl rfl
      · exact absurd hzero hne
  · exact hstopped.keeps rfl rfl rfl

/-- What enabling a disabled port may find: the backend holds the new settings. -/
def enableMeets (view : CorePortConfig → α) (p : UartPort η κ) (config : GatewayPortConfig) : Prop :=
  p.lifecycle = .disabled → config.enabled ≠ 0 →
    view p.runtime.backendContext.config = view (coreConfig config)

theorem wired_reconfigureEnable (h : PortWired view p) (hl : p.lifecycle = .disabled)
    (hview : view p.runtime.backendContext.config = view (coreConfig config)) (index : Fin gatewayPortCount)
    (now : CoreTick) :
    PortWired view (reconfigureEnable p index config now).2 := by
  have hinit : WiredPort view (portRuntimeInit index (coreConfig config) p.binding.backendOps
      p.runtime.backendContext p.runtime.completionContext p.runtime.accepted) := by
    rw [h.backendOps]
    exact wired_portRuntimeInit (h.runtime.closed (.inr (h.down hl))) hview index _ _
  have hstarted := wired_portRuntimeStart hinit (by simp [portRuntimeInit]) now gatewayStartTimeout
  have hcases := portRuntimeStart_cases (portRuntimeInit index (coreConfig config)
    p.binding.backendOps p.runtime.backendContext p.runtime.completionContext p.runtime.accepted)
    now gatewayStartTimeout
  unfold reconfigureEnable
  split <;> rename_i heq <;> rw [heq] at hstarted
  · exact h.running hstarted rfl rfl (by simp)
  · rename_i hne
    rw [heq] at hcases
    rcases hcases with ⟨_, hcontrol⟩ | ⟨_, hzero, _⟩
    · exact ⟨hstarted, h.backendOps, fun _ => congrArg PortControl.state hcontrol⟩
    · exact absurd hzero hne

theorem wired_reconfigureRebind (h : PortWired view p) (config : GatewayPortConfig)
    (now : CoreTick) : PortWired view (reconfigureRebind p config now).2 := by
  have hstopped := wired_transportStop h
  unfold reconfigureRebind
  split <;> rename_i q heq <;> rw [heq] at hstopped
  · have hruntime := wired_portRuntimeDetachListener hstopped.runtime now
    split <;> rename_i heq' <;> rw [heq'] at hruntime <;>
      exact hstopped.running hruntime rfl rfl (by simp)
  · exact hstopped.keeps rfl rfl rfl

theorem wired_reconfigureSerial (h : PortWired view p) (config : GatewayPortConfig)
    (now : CoreTick) : PortWired view (reconfigureSerial p config now).2 := by
  have hstopped := wired_transportStop h
  unfold reconfigureSerial
  split <;> rename_i q heq <;> rw [heq] at hstopped
  · have hcases := portRuntimeRequestReconfigure_cases q.runtime (coreConfig config) now
      gatewayReconfigureTimeout
    have hruntime := wired_portRuntimeRequestReconfigure hstopped.runtime (coreConfig config) now
      gatewayReconfigureTimeout
    split <;> rename_i heq' <;> rw [heq'] at hruntime
    · exact hstopped.running hruntime rfl rfl (by simp)
    · rename_i hne
      rw [heq'] at hcases
      rcases hcases with hsame | ⟨hzero, _⟩
      · obtain ⟨_, rfl⟩ := Prod.mk.inj hsame
        refine wired_transportStartAt ?_ _
        exact hstopped.keeps rfl rfl rfl
      · exact absurd hzero hne
  · exact hstopped.keeps rfl rfl rfl

theorem wired_reconfigurePort (h : PortWired view p) (index : Fin gatewayPortCount)
    (hm : enableMeets view p config) (now : CoreTick) :
    PortWired view (reconfigurePort p index config now).2 := by
  unfold reconfigurePort
  split
  · exact h
  split
  · exact wired_reconfigureDisable h config now
  rename_i henabled
  split
  · rename_i hl
    exact wired_reconfigureEnable h hl (hm hl henabled) index now
  · split
    · exact wired_reconfigureRebind h config now
    · exact wired_reconfigureSerial h config now

theorem wired_networkWaitPort (h : PortWired view p) (wait : Bool) (now : CoreTick) :
    PortWired view (networkWaitPort p wait now).2 := by
  have hkept : PortWired view { p with networkWait := wait } := h.keeps rfl rfl rfl
  have hstopped := wired_transportStop hkept
  unfold networkWaitPort
  split
  · rename_i hready
    split <;> rename_i q heq <;> rw [heq] at hstopped
    · have hruntime := wired_portRuntimeDetachListener hstopped.runtime now
      have hl : q.lifecycle = p.lifecycle := by
        have hlistened := listened_transportStop { p with networkWait := wait }
        rw [heq] at hlistened
        obtain ⟨runtime, owned, _⟩ := hlistened
        rfl
      split <;> rename_i heq' <;> rw [heq'] at hruntime
      · exact hstopped.running hruntime rfl rfl (by simp)
      · exact hstopped.running hruntime rfl rfl (by simp [hl, hready.2])
    · exact hstopped
  · exact hkept

theorem wired_shutdownRuntime (h : PortWired view p) (now : CoreTick) :
    PortWired view (shutdownRuntime p now) := by
  unfold shutdownRuntime
  split
  · exact wired_stopOrElse h now (h.running h.runtime rfl rfl (by simp))
  · exact h

theorem wired_shutdownPort (h : PortWired view p) (now : CoreTick) :
    PortWired view (shutdownPort p now) := by
  have hstopped := wired_transportStop h
  unfold shutdownPort
  split <;> rename_i heq <;> rw [heq] at hstopped
  · refine wired_shutdownRuntime ?_ now
    exact hstopped.keeps rfl rfl rfl
  · refine wired_shutdownRuntime ?_ now
    exact hstopped.keeps rfl rfl rfl

/-! ## Runs -/

/-- A port's UART as `gateway_real_adapter_init` leaves it. -/
def adapterUart (config : GatewayPortConfig) (sys : UartSyscalls η) (world : η)
    (probe : Option UartFrameProbe) : UartBackend η :=
  uartBackendInit config.uartIndex (coreConfig config) sys world probe

/-- The controller on eight adapters. -/
def uartControllerInit (ports : GatewayPorts)
    (transport : Fin gatewayPortCount → Option (GatewayTransportOps (UartBackend η) κ Untouched))
    (sys : Fin gatewayPortCount → UartSyscalls η) (world : Fin gatewayPortCount → η)
    (probe : Option UartFrameProbe) (context : Fin gatewayPortCount → κ) : UartController η κ :=
  (gatewayControllerInit ports
    (fun i => { backendOps := some uartBackendOps, transportOps := transport i })
    fun i => (adapterUart (ports i) (sys i) (world i) probe, context i)).2

/-- The port comes to its settings with the backend holding the same, as far as `view`
    can tell: a disabled port that is enabled, and all ports when the controller is
    initialised once more. -/
def ControllerOp.EntersAsHeld (view : CorePortConfig → α) (c : UartController η κ) :
    ControllerOp → Prop
  | .init ports => ∀ i, (c.ports i).runtime.backendContext.fd < 0 ∧
      view (c.ports i).runtime.backendContext.config = view (coreConfig (ports i))
  | .reconfigure index config _ =>
      validateReplacement c index config = true → enableMeets view (c.ports index) config
  | .start _ | .step _ | .networkWait _ _ _ | .shutdown _ => True

/-- No step completes a rebind of the listener to settings of another revision. -/
def ControllerOp.KeepsRevision (c : UartController η κ) : ControllerOp → Prop
  | .step now => ∀ i,
      let p := steppedPort (c.ports i) now
      p.lifecycle = .reconfiguring → p.listenerRebind = true → p.runtime.state = .ready →
        p.networkWait = false →
        (transportStartAt { p with listenerRebind := false } p.staged).1 = 0 →
        p.staged.revision = p.runtime.currentConfig.revision
  | .init _ | .start _ | .reconfigure _ _ _ | .networkWait _ _ _ | .shutdown _ => True

instance [DecidableEq α] (c : UartController η κ) :
    (op : ControllerOp) → Decidable (op.EntersAsHeld view c)
  | .init ports => inferInstanceAs (Decidable (∀ i, (c.ports i).runtime.backendContext.fd < 0 ∧
      view (c.ports i).runtime.backendContext.config = view (coreConfig (ports i))))
  | .reconfigure _ _ _ => inferInstanceAs (Decidable (_ → (_ → _ → _ = _)))
  | .start _ | .step _ | .networkWait _ _ _ | .shutdown _ => inferInstanceAs (Decidable True)

instance (c : UartController η κ) : (op : ControllerOp) → Decidable (op.KeepsRevision c)
  | .step _ => inferInstanceAs (Decidable (∀ _, (_ → _ → _ → _ → _ → _ = _)))
  | .init _ | .start _ | .reconfigure _ _ _ | .networkWait _ _ _ | .shutdown _ =>
      inferInstanceAs (Decidable True)

def AllWired (view : CorePortConfig → α) (c : UartController η κ) : Prop :=
  ∀ i, PortWired view (c.ports i)

theorem allWired_uartControllerInit (ports : GatewayPorts)
    (transport : Fin gatewayPortCount → Option (GatewayTransportOps (UartBackend η) κ Untouched))
    (sys : Fin gatewayPortCount → UartSyscalls η) (world : Fin gatewayPortCount → η)
    (probe : Option UartFrameProbe) (context : Fin gatewayPortCount → κ) :
    AllWired view (uartControllerInit ports transport sys world probe context) :=
  fun i => wired_initPort (by simp [adapterUart, uartBackendInit]) rfl i _ rfl (context i)

theorem AllWired.setPort {c : UartController η κ} (h : AllWired view c)
    (index : Fin gatewayPortCount) (hp : PortWired view p) : AllWired view (c.setPort index p) := by
  intro i
  unfold GatewayController.setPort
  by_cases hi : i = index
  · subst hi
    simpa using hp
  · simpa [hi] using h i

theorem AllWired.exec {c : UartController η κ} (h : AllWired view c) {op : ControllerOp}
    (henter : op.EntersAsHeld view c)
    (hstep : ∀ now, op = .step now → ∀ i, rebindMeets view (steppedPort (c.ports i) now)) :
    AllWired view (op.exec c) := by
  cases op with
  | init ports =>
    intro i
    exact wired_initPort (henter i).1 (henter i).2 i _ (h i).backendOps _
  | start now => exact fun i => wired_startPort (h i) now
  | step now =>
    intro i
    show PortWired view ((gatewayControllerStep c now).ports i)
    rw [ports_gatewayControllerStep]
    exact wired_stepPort (h i) now (hstep now rfl i)
  | reconfigure index config now =>
    show AllWired view (gatewayControllerReconfigure c index config now).2
    unfold gatewayControllerReconfigure
    split
    · exact h
    · rename_i hvalid
      exact h.setPort index (wired_reconfigurePort (h index) index (henter (by simpa using hvalid)) now)
  | networkWait index wait now => exact h.setPort index (wired_networkWaitPort (h index) wait now)
  | shutdown now => exact fun i => wired_shutdownPort (h i) now

/-- The runtime is ready or at work. -/
def Working (p : UartPort η κ) : Prop :=
  p.runtime.state = .ready ∨ p.runtime.state = .active ∨ p.runtime.state = .waiting

instance (p : UartPort η κ) : Decidable (Working p) :=
  inferInstanceAs (Decidable (_ ∨ _))

/-- The settings as they reach the line. -/
def onTheLine (config : CorePortConfig) : CorePortConfig := { config with revision := 0 }

/-- **The line carries what the runtime believes in.** In every state of a run in which
    ports are enabled with the settings their backends hold, the device of a working
    port is open and the last settings it took, with none refused halfway since, are
    those of the runtime: all of them but the revision, and the revision too if no
    rebind of a listener has changed it. -/
theorem lineSettings_of_runAlong (ports : GatewayPorts)
    (transport : Fin gatewayPortCount → Option (GatewayTransportOps (UartBackend η) κ Untouched))
    (sys : Fin gatewayPortCount → UartSyscalls η) (world : Fin gatewayPortCount → η)
    (probe : Option UartFrameProbe) (context : Fin gatewayPortCount → κ) (ops : List ControllerOp)
    (i : Fin gatewayPortCount) :
    let start := uartControllerInit ports transport sys world probe context
    let p := (runController ops start).ports i
    (RunAlong (fun c op => op.EntersAsHeld id c ∧ op.KeepsRevision c) ops start → Working p →
      Carries p.runtime.backendContext p.runtime.currentConfig) ∧
    (RunAlong (fun c op => op.EntersAsHeld onTheLine c) ops start → Working p →
      CarriesAs onTheLine p.runtime.backendContext p.runtime.currentConfig) := by
  intro start p
  constructor
  · intro hrun hworking
    have hstep : ∀ (c : UartController η κ) (op : ControllerOp), AllWired id c →
        op.EntersAsHeld id c ∧ op.KeepsRevision c → AllWired id (op.exec c) := by
      rintro c op h ⟨henter, hkeeps⟩
      refine h.exec henter ?_
      -- a rebind that completes here brings no revision the line was not opened with
      rintro now rfl i hl hr hs hw hstart
      rw [hkeeps i hl hr hs hw hstart]
    have hwired : AllWired id start := allWired_uartControllerInit ports transport sys world probe context
    exact ((hrun.invariant hstep hwired i).runtime.carries hworking).carries
  · intro hrun hworking
    have hstep : ∀ (c : UartController η κ) (op : ControllerOp), AllWired onTheLine c →
        op.EntersAsHeld onTheLine c → AllWired onTheLine (op.exec c) :=
      fun c op h henter => h.exec henter fun _ _ _ _ _ _ _ _ => rfl
    have hwired : AllWired onTheLine start :=
      allWired_uartControllerInit ports transport sys world probe context
    exact (hrun.invariant hstep hwired i).runtime.carries hworking

/-! ## Runs on a device that obeys -/

/-- A device that does all it is asked. The world is the interface mode it is in. -/
def obedientSyscalls : UartSyscalls Nat where
  openFn := fun mode _ => (3, mode)
  closeFn := fun mode _ => (0, mode)
  readFn := fun mode _ _ => (0, [], mode)
  writeFn := fun mode _ buffer => (buffer.length, mode)
  ioctlFn := fun mode _ request argument =>
    match request with
    | .setOpMode => (0, argument, argument)
    | .getOpMode => (0, mode, mode)
    | .setSpecialBaudRate | .getSpecialBaudRate => (0, argument, mode)
  tcgetattrFn := fun mode _ => (0, default, mode)
  tcsetattrFn := fun mode _ _ => (0, mode)
  tcflushFn := fun mode _ => (0, mode)
  lastErrorFn := fun _ => 0
  read_le := fun _ _ _ => Int.natCast_nonneg _
  read_stored := fun _ _ _ h => absurd h (by simp)
  write_le := fun _ _ _ => le_refl _

/-- A listener that always starts and has nothing to do. -/
def quietListener : GatewayTransportOps (UartBackend Nat) Unit Untouched where
  start := some fun _ port => (0, port)
  step := none
  stop := some fun port => (0, port)
  start_calls := by
    intro f hf config port
    cases hf
    exact .refl
  step_calls := fun f hf => absurd hf (by simp)
  stop_calls := by
    intro f hf port
    cases hf
    exact .refl

def obedientStart (ports : GatewayPorts) : UartController Nat Unit :=
  uartControllerInit ports (fun _ => some quietListener) (fun _ => obedientSyscalls) (fun _ => 0)
    none fun _ => ()

/-- The first port at 19200 baud. -/
def fasterPort : GatewayPortConfig :=
  { gatewayConfigurationDefaults 0 with baud := 19200, revision := 2 }

/-- The first port's listener elsewhere. -/
def reboundPort : GatewayPortConfig :=
  { gatewayConfigurationDefaults 0 with bindPolicy := 1, revision := 2 }

def retunedRun (config : GatewayPortConfig) : List ControllerOp :=
  [.start 0, .step 1, .reconfigure 0 config 2, .step 3]

/-- Both conditions are met, for one by a change of the speed and by a rebind. -/
theorem lineSettings_retunedRun :
    let faster := (runController (retunedRun fasterPort)
      (obedientStart gatewayConfigurationDefaults)).ports 0
    let rebound := (runController (retunedRun reboundPort)
      (obedientStart gatewayConfigurationDefaults)).ports 0
    Carries faster.runtime.backendContext faster.runtime.currentConfig ∧
      CarriesAs onTheLine rebound.runtime.backendContext rebound.runtime.currentConfig :=
  ⟨(lineSettings_of_runAlong _ _ _ _ _ _ (retunedRun fasterPort) 0).1
      (by decide +kernel) (by decide +kernel),
    (lineSettings_of_runAlong _ _ _ _ _ _ (retunedRun reboundPort) 0).2
      (by decide +kernel) (by decide +kernel)⟩

/-- **The line that was not set.** The first port is disabled at start-up and then
    enabled at 19200 baud: the runtime is ready and believes in 19200 baud, but the
    device was opened with the 9600 baud the adapter had been made with. -/
theorem lineSettings_fails_after_enable :
    let ports := Function.update gatewayConfigurationDefaults 0
      { gatewayConfigurationDefaults 0 with enabled := 0 }
    let p := (runController [.start 0, .reconfigure 0 fasterPort 1, .step 2]
      (obedientStart ports)).ports 0
    Working p ∧ p.runtime.currentConfig.baud = 19200 ∧
      p.runtime.backendContext.lineSettings.map CorePortConfig.baud = some 9600 ∧
      ¬ CarriesAs onTheLine p.runtime.backendContext p.runtime.currentConfig := by
  decide +kernel

end FourVrs.Gateway
