import FourVrs.Gateway.Controller

/-!
# The controller and the runtime on the port's settings

The controller reports and serves `current`; the runtime holds what it applied to the
UART in `currentConfig`. A served port should have the two agree, and after most
histories it does. It does not after the ones `ControllerOp.Meets` leaves out:

* the runtime reports READY after it could *not* take the old settings back, and the
  controller, rolling back, takes that for success;
* a reconfiguration with the revision of the settings in force fails in the runtime,
  and the controller, which looks at the revision only, takes that for success;
* a rebind of the listener is cut short by a shutdown and its flag is still set when
  the serial settings are changed later;
* a port is shut down in the middle of a rollback and started again.

`Settled` is the invariant behind this: in which phase of a port's life the settings
agree, and what else holds while they do not. Every run whose steps meet the
condition keeps it.
-/

set_option autoImplicit false

namespace FourVrs.Gateway

open FourVrs.Core Config

variable {σ κ : Type} {device : σ → σ → Prop}

/-! ## The runtime's side -/

/-- The calls that leave the settings alone, and the runtime in or out of
    `PORT_RECONFIGURING` as it was. -/
structure KeepsSettings (port port' : PortRuntime σ κ) : Prop where
  coherent : port'.Coherent
  current : port'.currentConfig = port.currentConfig
  staged : port'.stagedConfig = port.stagedConfig
  reconfiguring : port'.state = .reconfiguring ↔ port.state = .reconfiguring

variable {port port' : PortRuntime σ κ}

theorem keepsSettings_of_control (h : port.Coherent) (heq : port'.control = port.control) :
    KeepsSettings port port' where
  coherent := by
    unfold PortRuntime.Coherent
    rw [heq]
    exact h
  current := congrArg PortControl.currentConfig heq
  staged := congrArg PortControl.stagedConfig heq
  reconfiguring := by rw [show port'.state = port.state from congrArg PortControl.state heq]

/-- The same for the calls that put the port in another idle state. -/
theorem keepsSettings_of_state (h : port.Coherent) (state : PortState) (hstate : state ≠ .reconfiguring)
    (hbusy : state.busy = false) (hport : port.state ≠ .reconfiguring)
    (heq : port'.control = { port.control with state := state, hasActive := false }) :
    KeepsSettings port port' where
  coherent := by
    unfold PortRuntime.Coherent
    rw [heq]
    exact ⟨hbusy.symm, h.knownGood⟩
  current := congrArg PortControl.currentConfig heq
  staged := congrArg PortControl.stagedConfig heq
  reconfiguring := by
    rw [show port'.state = state from congrArg PortControl.state heq]
    exact iff_of_false hstate hport

theorem keepsSettings_listenerCall (h : port.Coherent) (hcall : ListenerCall device port port') :
    KeepsSettings port port' := by
  cases hcall with
  | submit request =>
    exact keepsSettings_of_control h (control_portRuntimeSubmitOperation port request)
  | reportIoFailure now message =>
    rcases control_portRuntimeReportIoFailure port now message with heq | ⟨hs, heq⟩
    · exact keepsSettings_of_control h heq
    · exact keepsSettings_of_state h .recovering (by simp) rfl (by simp [hs]) heq
  | setCompletion completion => exact ⟨⟨h.busy, h.knownGood⟩, rfl, rfl, Iff.rfl⟩
  | work context | useDevice context _ => exact ⟨⟨h.busy, h.knownGood⟩, rfl, rfl, Iff.rfl⟩

theorem KeepsSettings.trans {port port' port'' : PortRuntime σ κ} (h : KeepsSettings port port')
    (h' : KeepsSettings port' port'') : KeepsSettings port port'' :=
  ⟨h'.coherent, h'.current.trans h.current, h'.staged.trans h.staged,
    h'.reconfiguring.trans h.reconfiguring⟩

theorem keepsSettings_listenerCalls (h : port.Coherent) (hcalls : ListenerCalls device port port') :
    KeepsSettings port port' := by
  induction hcalls with
  | refl => exact keepsSettings_of_control h rfl
  | tail _ hcall ih => exact ih.trans (keepsSettings_listenerCall ih.coherent hcall)

theorem keepsSettings_portRuntimeDetachListener {port : PortRuntime σ κ} (h : port.Coherent)
    (now : CoreTick) : KeepsSettings port (portRuntimeDetachListener port now).2 := by
  rcases control_portRuntimeDetachListener h now with heq | ⟨hs, heq⟩
  · exact keepsSettings_of_control h heq
  · exact keepsSettings_of_state h .recovering (by simp) rfl
      (by rcases hs with hs | hs <;> simp [hs]) heq

theorem keepsSettings_portRuntimeStart {port : PortRuntime σ κ} (h : port.Coherent)
    (now startTimeout : CoreTick) :
    KeepsSettings port (portRuntimeStart port now startTimeout).2 := by
  rcases portRuntimeStart_cases port now startTimeout with ⟨_, heq⟩ | ⟨hs, _, heq⟩
  · exact keepsSettings_of_control h heq
  · have hidle : port.hasActive = false := by
      rcases hs with hs | hs <;> exact h.hasActive_of_state hs
    refine keepsSettings_of_state h .starting (by simp) rfl
      (by rcases hs with hs | hs <;> simp [hs]) (heq.trans ?_)
    simp [PortRuntime.control, hidle]

/-- Out of `PORT_RECONFIGURING`, a step keeps the settings. -/
theorem keepsSettings_portRuntimeStep {port : PortRuntime σ κ} (h : port.Coherent)
    (hport : port.state ≠ .reconfiguring) (now : CoreTick) :
    KeepsSettings port (portRuntimeStep port now) := by
  have hstep := control_portRuntimeStep h now
  have hother : ∀ c : PortControl σ κ, ControlStep port.control c →
      c.currentConfig = port.currentConfig ∧ c.stagedConfig = port.stagedConfig ∧
        c.state ≠ .reconfiguring := by
    intro c hc
    cases hc with
    | stay => exact ⟨rfl, rfl, hport⟩
    | reconfigured hs | fellBack hs => exact absurd hs hport
    | _ => exact ⟨rfl, rfl, by simp⟩
  obtain ⟨hcurrent, hstaged, hstate⟩ := hother _ hstep
  exact ⟨hstep.coherent h, hcurrent, hstaged, iff_of_false hstate hport⟩

theorem coherent_of_idle (h : port.Coherent) (state : PortState) (hbusy : state.busy = false)
    (heq : port'.control = { port.control with state := state, hasActive := false }) :
    port'.Coherent := by
  unfold PortRuntime.Coherent
  rw [heq]
  exact ⟨hbusy.symm, h.knownGood⟩

/-! ## The phases of a port's life -/

section Phases

variable (runtime : PortRuntime σ κ) (current staged knownGood : GatewayPortConfig)

/-- The runtime holds the settings the controller reports. -/
def Agreed : Prop := runtime.currentConfig = coreConfig current

/-- The settings in force, with nothing under way. -/
structure Serving : Prop where
  agreed : Agreed runtime current
  quiet : runtime.state ≠ .reconfiguring
  good : knownGood = current

/-- The runtime is about to take the settings `target` asks for. -/
structure Retuning (target : GatewayPortConfig) : Prop where
  reconfiguring : runtime.state = .reconfiguring
  target : runtime.stagedConfig = coreConfig target
  good : knownGood = current

inductive Phase (rebind : Bool) (lifecycle : GatewayPortLifecycle) : Prop where
  | serving (hl : lifecycle = .starting ∨ lifecycle = .ready ∨ lifecycle = .networkWait)
      (h : Serving runtime current knownGood)
  | rebinding (hl : lifecycle = .reconfiguring) (hr : rebind = true)
      (h : Serving runtime current knownGood) (same : sameSerial staged current = true)
  | retuning (hl : lifecycle = .reconfiguring) (hr : rebind = false)
      (agreed : Agreed runtime current) (h : Retuning runtime current knownGood staged)
  | undoing (hl : lifecycle = .rollingBack) (h : Retuning runtime current knownGood current)
  | free (hl : lifecycle = .disabled ∨ lifecycle = .stopping ∨ lifecycle = .degraded ∨
      lifecycle = .error)

end Phases

structure Settled (p : GatewayPortController σ κ device) : Prop where
  coherent : p.runtime.Coherent
  /-- A port that could be started has its settings to fall back to. -/
  good : p.current.enabled ≠ 0 → p.knownGood = p.current
  phase : Phase p.runtime p.current p.staged p.knownGood p.listenerRebind p.lifecycle

theorem Serving.keeps {runtime runtime' : PortRuntime σ κ} {current knownGood : GatewayPortConfig}
    (h : Serving runtime current knownGood) (hk : KeepsSettings runtime runtime') :
    Serving runtime' current knownGood :=
  ⟨hk.current.trans h.agreed, fun he => h.quiet (hk.reconfiguring.mp he), h.good⟩

theorem Retuning.keeps {runtime runtime' : PortRuntime σ κ}
    {current knownGood target : GatewayPortConfig}
    (h : Retuning runtime current knownGood target) (hk : KeepsSettings runtime runtime') :
    Retuning runtime' current knownGood target :=
  ⟨hk.reconfiguring.mpr h.reconfiguring, hk.staged.trans h.target, h.good⟩

variable {p : GatewayPortController σ κ device}

theorem Settled.keeps {runtime : PortRuntime σ κ} (h : Settled p) (hk : KeepsSettings p.runtime runtime)
    (owned : Bool) :
    Settled { p with runtime := runtime, listenerOwned := owned } := by
  refine ⟨hk.coherent, h.good, ?_⟩
  cases h.phase with
  | serving hl hs => exact .serving hl (hs.keeps hk)
  | rebinding hl hr hs same => exact .rebinding hl hr (hs.keeps hk) same
  | retuning hl hr agreed ht => exact .retuning hl hr (hk.current.trans agreed) (ht.keeps hk)
  | undoing hl ht => exact .undoing hl (ht.keeps hk)
  | free hl => exact .free hl

theorem Settled.listened {p p' : GatewayPortController σ κ device} (h : Settled p)
    (hp : Listened p p') : Settled p' := by
  obtain ⟨runtime, owned, hcalls⟩ := hp
  exact h.keeps (keepsSettings_listenerCalls h.coherent hcalls) owned

/-- A port that serves may be given any serving life cycle. -/
theorem settled_of_serving (hc : p.runtime.Coherent)
    (hl : p.lifecycle = .starting ∨ p.lifecycle = .ready ∨ p.lifecycle = .networkWait)
    (h : Serving p.runtime p.current p.knownGood) : Settled p :=
  ⟨hc, fun _ => h.good, .serving hl h⟩

theorem settled_of_free (hc : p.runtime.Coherent) (hg : p.current.enabled ≠ 0 → p.knownGood = p.current)
    (hl : p.lifecycle = .disabled ∨ p.lifecycle = .stopping ∨ p.lifecycle = .degraded ∨
      p.lifecycle = .error) : Settled p :=
  ⟨hc, hg, .free hl⟩

/-! ## The step -/

/-- Asking the runtime to stop ends in `STOPPING`, or is refused and changes nothing. -/
theorem settled_stopOrElse (hc : p.runtime.Coherent) (hg : p.current.enabled ≠ 0 → p.knownGood = p.current)
    (now : CoreTick) {refused : GatewayPortController σ κ device → GatewayPortController σ κ device}
    (hrefused : Settled (refused p)) : Settled (stopOrElse p now refused) := by
  have hcases := portRuntimeRequestStop_cases p.runtime now gatewayStopTimeout
  unfold stopOrElse
  split
  · rename_i runtime hresult
    rw [hresult] at hcases
    rcases hcases with heq | ⟨_, _, heq⟩
    · exact absurd (congrArg Prod.fst heq) (by simp)
    · exact settled_of_free (coherent_of_idle hc .stopping rfl heq) hg (.inr (.inl rfl))
  · rename_i result runtime hne hresult
    rw [hresult] at hcases
    rcases hcases with heq | ⟨_, hzero, _⟩
    · obtain ⟨_, rfl⟩ := Prod.mk.inj heq
      exact hrefused
    · exact absurd hzero hne

theorem settled_startListenerOrFail (hc : p.runtime.Coherent) (h : Serving p.runtime p.current p.knownGood)
    (now : CoreTick) :
    Settled (startListenerOrFail p now) := by
  unfold startListenerOrFail
  split
  · exact settled_of_serving hc (.inr (.inr rfl)) h
  · have hlistened := listened_transportStartAt p p.current
    unfold transportStart
    split <;> rename_i heq <;> rw [heq] at hlistened <;> obtain ⟨runtime, owned, hcalls⟩ := hlistened
    · have hk := keepsSettings_listenerCalls hc hcalls
      exact settled_of_serving hk.coherent (.inr (.inl rfl)) (h.keeps hk)
    · have hk := keepsSettings_listenerCalls hc hcalls
      refine settled_stopOrElse ?_ ?_ now ?_
      · exact hk.coherent
      · exact fun _ => h.good
      · exact settled_of_free hk.coherent (fun _ => h.good) (.inr (.inr (.inr rfl)))

/-- Settings that differ in what a rebind touches differ for the runtime in their
    revision only. -/
theorem coreConfig_of_sameSerial {config current : GatewayPortConfig}
    (h : sameSerial config current = true) :
    coreConfig config = { coreConfig current with revision := config.revision } := by
  have hsame : { config with
      bindAddress := current.bindAddress
      bindTail := current.bindTail
      revision := current.revision
      bindPolicy := current.bindPolicy } = current := of_decide_eq_true h
  rw [← hsame]
  rfl

theorem settled_stepRebind (hc : p.runtime.Coherent) (hl : p.lifecycle = .reconfiguring)
    (hr : p.listenerRebind = true) (h : Serving p.runtime p.current p.knownGood)
    (same : sameSerial p.staged p.current = true) :
    Settled (stepRebind p) := by
  unfold stepRebind
  split
  · split
    · exact settled_of_serving hc (.inr (.inr rfl)) h
    · have hlistened := listened_transportStartAt { p with listenerRebind := false } p.staged
      split <;> rename_i heq <;> rw [heq] at hlistened <;>
        obtain ⟨runtime, owned, hcalls⟩ := hlistened
      · have hk := keepsSettings_listenerCalls hc hcalls
        have hs := h.keeps hk
        refine settled_of_serving ⟨hk.coherent.busy, ?_⟩ (.inr (.inl rfl)) ⟨?_, hs.quiet, rfl⟩
        · show { runtime.knownGoodConfig with revision := p.staged.revision } =
            { runtime.currentConfig with revision := p.staged.revision }
          rw [show runtime.knownGoodConfig = _ from hk.coherent.knownGood]
          rfl
        · show { runtime.currentConfig with revision := p.staged.revision } = coreConfig p.staged
          rw [coreConfig_of_sameSerial same, ← show runtime.currentConfig = _ from hs.agreed]
      · have hk := keepsSettings_listenerCalls hc hcalls
        unfold transportStart
        have hagain := listened_transportStartAt
          { p with
            listenerRebind := false, runtime := runtime, listenerOwned := owned
            listenerFailures := increment p.listenerFailures
            reconfigureFailures := increment p.reconfigureFailures
            lastError := .listenerStart } p.current
        split <;> rename_i heq' <;> rw [heq'] at hagain <;>
          obtain ⟨runtime', owned', hcalls'⟩ := hagain
        · have hk' := hk.trans (keepsSettings_listenerCalls hk.coherent hcalls')
          exact settled_of_serving hk'.coherent (.inr (.inl rfl)) (h.keeps hk')
        · have hk' := hk.trans (keepsSettings_listenerCalls hk.coherent hcalls')
          exact settled_of_free hk'.coherent (fun _ => h.good) (.inr (.inr (.inr rfl)))
  · split
    · exact settled_of_free hc (fun _ => h.good) (.inr (.inr (.inr rfl)))
    · exact ⟨hc, fun _ => h.good, .rebinding hl hr h same⟩

theorem settled_beginRollback (hc : p.runtime.Coherent) (hg : p.knownGood = p.current) (now : CoreTick) :
    Settled (beginRollback p now) := by
  have hcases := portRuntimeRequestReconfigure_cases p.runtime (coreConfig p.knownGood) now
    gatewayReconfigureTimeout
  unfold beginRollback
  split
  · rename_i runtime hresult
    rw [hresult] at hcases
    rcases hcases with heq | ⟨_, heq⟩
    · exact absurd (congrArg Prod.fst heq) (by simp)
    · refine ⟨?_, fun _ => hg, .undoing rfl ⟨congrArg PortControl.state heq, ?_, hg⟩⟩
      · show runtime.control.Coherent
        rw [heq]
        exact ⟨rfl, rfl⟩
      · exact (congrArg PortControl.stagedConfig heq).trans (congrArg coreConfig hg)
  · rename_i result runtime hne hresult
    rw [hresult] at hcases
    rcases hcases with heq | ⟨hzero, _⟩
    · obtain ⟨_, rfl⟩ := Prod.mk.inj heq
      exact settled_of_free hc (fun _ => hg) (.inr (.inr (.inr rfl)))
    · exact absurd hzero hne

/-- The runtime has taken the staged settings. -/
theorem settled_stepReconfigure_taken (hc : p.runtime.Coherent) (hs : p.runtime.state = .ready)
    (htaken : p.runtime.currentConfig = coreConfig p.staged) (hg : p.knownGood = p.current) (now : CoreTick) :
    Settled (stepReconfigure p now) := by
  have hquiet : p.runtime.state ≠ .reconfiguring := by simp [hs]
  have hserving : Serving p.runtime p.staged p.staged := ⟨htaken, hquiet, rfl⟩
  unfold stepReconfigure
  rw [if_pos hs, if_neg (by rw [htaken]; exact fun hne => hne rfl)]
  split
  · exact settled_of_serving hc (.inr (.inr rfl)) hserving
  · have hlistened := listened_transportStartAt p p.staged
    split <;> rename_i heq <;> rw [heq] at hlistened <;> obtain ⟨runtime, owned, hcalls⟩ := hlistened
    · have hk := keepsSettings_listenerCalls hc hcalls
      exact settled_of_serving hk.coherent (.inr (.inl rfl)) (hserving.keeps hk)
    · refine settled_beginRollback ?_ ?_ now
      · exact (keepsSettings_listenerCalls hc hcalls).coherent
      · exact hg

theorem settled_stepRollback (hc : p.runtime.Coherent)
    (hready : p.runtime.state = .ready → Serving p.runtime p.current p.knownGood)
    (hg : p.knownGood = p.current) (hother : p.runtime.state ≠ .ready → p.runtime.state ≠ .error → Settled p) :
    Settled (stepRollback p) := by
  unfold stepRollback
  split
  · rename_i hs
    have h := hready hs
    split
    · exact settled_of_serving hc (.inr (.inr rfl)) h
    · have hlistened := listened_transportStartAt p p.current
      unfold transportStart
      split <;> rename_i heq <;> rw [heq] at hlistened <;>
        obtain ⟨runtime, owned, hcalls⟩ := hlistened
      · have hk := keepsSettings_listenerCalls hc hcalls
        exact settled_of_serving hk.coherent (.inr (.inl rfl)) (h.keeps hk)
      · exact settled_of_free (keepsSettings_listenerCalls hc hcalls).coherent (fun _ => hg)
          (.inr (.inr (.inr rfl)))
  rename_i hnready
  split
  · exact settled_of_free hc (fun _ => hg) (.inr (.inr (.inr rfl)))
  · rename_i hnerror
    exact hother hnready hnerror

theorem settled_stepStop (hc : p.runtime.Coherent) (hg : p.current.enabled ≠ 0 → p.knownGood = p.current)
    (hl : p.lifecycle = .stopping) :
    Settled (stepStop p) := by
  unfold stepStop
  split
  · split
    · exact settled_of_free hc (fun _ => rfl) (.inl rfl)
    · refine settled_of_free hc hg ?_
      show (if p.lastError = .none then GatewayPortLifecycle.disabled else .error) = .disabled ∨ _
      split
      · exact .inl rfl
      · exact .inr (.inr (.inr rfl))
  · split
    · exact settled_of_free hc hg (.inr (.inr (.inr rfl)))
    · exact settled_of_free hc hg (.inr (.inl hl))

/-- What a step may find: a runtime falls back to its known-good settings only while
    the controller awaits the outcome of a reconfiguration, and that has a new
    revision. -/
def stepMeets (p : GatewayPortController σ κ device) (now : CoreTick) : Prop :=
  ∀ backend ∈ (listenPort p now).runtime.backend, p.runtime.state = .reconfiguring →
    fallsBack backend (listenPort p now).runtime now = true →
    p.lifecycle = .reconfiguring ∧ p.staged.revision ≠ p.runtime.currentConfig.revision

instance (p : GatewayPortController σ κ device) (now : CoreTick) : Decidable (stepMeets p now) :=
  inferInstanceAs (Decidable (∀ backend ∈ (listenPort p now).runtime.backend, _ → _ → _ ∧ _))

/-- Stepping a runtime in `PORT_RECONFIGURING`: nothing, the staged settings, the
    known-good ones, or the end. -/
theorem portRuntimeStep_reconfiguring {port : PortRuntime σ κ} (h : port.state = .reconfiguring)
    (now : CoreTick) :
    portRuntimeStep port now = port ∨
      (portRuntimeStep port now).control =
        { port.control with
          state := .ready, currentConfig := port.stagedConfig
          knownGoodConfig := port.stagedConfig } ∨
      (∃ backend ∈ port.backend, fallsBack backend port now = true ∧
        (portRuntimeStep port now).control = { port.control with state := .ready }) ∨
      (portRuntimeStep port now).control = { port.control with state := .error } := by
  unfold portRuntimeStep
  cases hb : port.backend with
  | none => exact .inl rfl
  | some backend =>
    simp only [h]
    rcases control_stepReconfiguring backend h now with heq | ⟨hback, heq⟩ | heq
    · exact .inr (.inl heq)
    · exact .inr (.inr (.inl ⟨backend, rfl, hback, heq⟩))
    · exact .inr (.inr (.inr heq))

theorem settled_stepLifecycle_serving (hc : p.runtime.Coherent)
    (hl : p.lifecycle = .starting ∨ p.lifecycle = .ready ∨ p.lifecycle = .networkWait)
    (h : Serving p.runtime p.current p.knownGood) (now : CoreTick) :
    Settled (stepLifecycle p now) := by
  unfold stepLifecycle
  rcases hl with hl | hl | hl
  · rw [hl]
    show Settled (if p.runtime.state = .ready then _ else _)
    split
    · exact settled_startListenerOrFail hc h now
    · split
      · exact settled_of_free hc (fun _ => h.good) (.inr (.inr (.inr rfl)))
      · exact settled_of_serving hc (.inl hl) h
  · rw [hl]
    show Settled (if p.runtime.state = .degraded ∨ _ then _ else _)
    split
    · exact settled_of_free hc (fun _ => h.good) (.inr (.inr (.inl rfl)))
    · exact settled_of_serving hc (.inr (.inl hl)) h
  · rw [hl]
    exact settled_of_serving hc (.inr (.inr hl)) h

theorem settled_stepLifecycle_free (hc : p.runtime.Coherent)
    (hg : p.current.enabled ≠ 0 → p.knownGood = p.current)
    (hl : p.lifecycle = .disabled ∨ p.lifecycle = .stopping ∨ p.lifecycle = .degraded ∨
      p.lifecycle = .error) (now : CoreTick) : Settled (stepLifecycle p now) := by
  unfold stepLifecycle
  rcases hl with hl | hl | hl | hl
  · rw [hl]
    exact settled_of_free hc hg (.inl hl)
  · rw [hl]
    exact settled_stepStop hc hg hl
  · rw [hl]
    exact settled_of_free hc hg (.inr (.inr (.inl hl)))
  · rw [hl]
    exact settled_of_free hc hg (.inr (.inr (.inr hl)))

/-- The outcome of a reconfiguration: `before` is the runtime as the step found it. -/
theorem settled_stepReconfigure {before : PortRuntime σ κ} (hc : before.Coherent)
    (hl : p.lifecycle = .reconfiguring) (hr : p.listenerRebind = false) (agreed : Agreed before p.current)
    (h : Retuning before p.current p.knownGood p.staged) (now : CoreTick)
    (hp : p.runtime = portRuntimeStep before now)
    (hm : ∀ backend ∈ before.backend, fallsBack backend before now = true →
      p.staged.revision ≠ before.currentConfig.revision) : Settled (stepReconfigure p now) := by
  have hstep : p.runtime.Coherent := by
    rw [hp]
    exact (control_portRuntimeStep hc now).coherent hc
  rcases portRuntimeStep_reconfiguring h.reconfiguring now with heq | heq | ⟨b, hb, hback, heq⟩ | heq
  · -- without a usable backend nothing happens
    have hsame : p.runtime = before := hp.trans heq
    unfold stepReconfigure
    rw [hsame, if_neg (by simp [h.reconfiguring]), if_neg (by simp [h.reconfiguring])]
    refine ⟨hstep, fun _ => h.good, .retuning hl hr ?_ ?_⟩
    · rw [hsame]
      exact agreed
    · rw [hsame]
      exact h
  · rw [← hp] at heq
    refine settled_stepReconfigure_taken hstep (congrArg PortControl.state heq) ?_ h.good now
    exact (congrArg PortControl.currentConfig heq).trans h.target
  · rw [← hp] at heq
    have hready : p.runtime.state = .ready := congrArg PortControl.state heq
    have hcurrent : p.runtime.currentConfig = before.currentConfig :=
      congrArg PortControl.currentConfig heq
    unfold stepReconfigure
    rw [if_pos hready, hcurrent, if_pos (hm b hb hback).symm]
    refine settled_startListenerOrFail ?_ ?_ now
    · exact hstep
    · exact ⟨hcurrent.trans agreed, by simp [hready], h.good⟩
  · rw [← hp] at heq
    have herror : p.runtime.state = .error := congrArg PortControl.state heq
    unfold stepReconfigure
    rw [if_neg (by simp [herror]), if_pos herror]
    exact settled_of_free hstep (fun _ => h.good) (.inr (.inr (.inr rfl)))

/-- The outcome of a rollback, if the runtime does not fall back. -/
theorem settled_stepRollback_step {before : PortRuntime σ κ} (hc : before.Coherent)
    (hl : p.lifecycle = .rollingBack) (h : Retuning before p.current p.knownGood p.current) (now : CoreTick)
    (hp : p.runtime = portRuntimeStep before now)
    (hm : ∀ backend ∈ before.backend, fallsBack backend before now = false) :
    Settled (stepRollback p) := by
  have hstep : p.runtime.Coherent := by
    rw [hp]
    exact (control_portRuntimeStep hc now).coherent hc
  rcases portRuntimeStep_reconfiguring h.reconfiguring now with heq | heq | ⟨b, hb, hback, _⟩ | heq
  · have hsame : p.runtime = before := hp.trans heq
    refine settled_stepRollback hstep (fun hs => ?_) h.good fun _ _ => ?_
    · rw [hsame, h.reconfiguring] at hs
      exact absurd hs (by simp)
    · refine ⟨hstep, fun _ => h.good, .undoing hl ?_⟩
      rw [hsame]
      exact h
  · rw [← hp] at heq
    have hready : p.runtime.state = .ready := congrArg PortControl.state heq
    refine settled_stepRollback hstep (fun _ => ⟨?_, by simp [hready], h.good⟩) h.good
      fun hne => absurd hready hne
    exact (congrArg PortControl.currentConfig heq).trans h.target
  · exact absurd hback (by simp [hm b hb])
  · rw [← hp] at heq
    have herror : p.runtime.state = .error := congrArg PortControl.state heq
    exact settled_stepRollback hstep (fun hs => by rw [herror] at hs; exact absurd hs (by simp))
      h.good fun _ hne => absurd herror hne

theorem settled_stepPort (h : Settled p) (now : CoreTick) (hm : stepMeets p now) : Settled (stepPort p now) := by
  have hlistened : Listened { p with schedulerSteps := increment p.schedulerSteps }
      (listenPort p now) := listened_transportStep _ now
  unfold stepMeets at hm
  unfold stepPort
  generalize listenPort p now = q at hm hlistened ⊢
  obtain ⟨runtime, owned, hcalls⟩ := hlistened
  have hk := keepsSettings_listenerCalls h.coherent hcalls
  have hstep := (control_portRuntimeStep hk.coherent now).coherent hk.coherent
  cases h.phase with
  | serving hl hs =>
    refine settled_stepLifecycle_serving ?_ ?_ ?_ now
    · exact hstep
    · exact hl
    · exact hs.keeps (hk.trans
        (keepsSettings_portRuntimeStep hk.coherent (hs.keeps hk).quiet now))
  | rebinding hl hr hs same =>
    unfold stepLifecycle
    simp only [hl, hr]
    refine settled_stepRebind ?_ rfl rfl ?_ ?_
    · exact hstep
    · exact hs.keeps (hk.trans
        (keepsSettings_portRuntimeStep hk.coherent (hs.keeps hk).quiet now))
    · exact same
  | retuning hl hr agreed ht =>
    unfold stepLifecycle
    simp only [hl, hr]
    refine settled_stepReconfigure hk.coherent rfl rfl ?_ ?_ now rfl ?_
    · exact hk.current.trans agreed
    · exact ht.keeps hk
    · intro backend hb hback
      rw [hk.current]
      exact (hm backend hb ht.reconfiguring hback).2
  | undoing hl ht =>
    unfold stepLifecycle
    simp only [hl]
    refine settled_stepRollback_step hk.coherent rfl ?_ now rfl ?_
    · exact ht.keeps hk
    · intro backend hb
      rw [← Bool.not_eq_true]
      intro hback
      have hother := (hm backend hb ht.reconfiguring hback).1
      rw [hl] at hother
      exact absurd hother (by simp)
  | free hl =>
    refine settled_stepLifecycle_free ?_ ?_ ?_ now
    · exact hstep
    · exact h.good
    · exact hl

/-! ## The other operations -/

/-- What a start may find: the ports it takes up hold the settings they report. -/
def startMeets (p : GatewayPortController σ κ device) : Prop :=
  p.lifecycle = .disabled → p.current.enabled ≠ 0 → Agreed p.runtime p.current

instance (p : GatewayPortController σ κ device) : Decidable (startMeets p) :=
  inferInstanceAs (Decidable (_ → _ → p.runtime.currentConfig = coreConfig p.current))

theorem settled_startPort (h : Settled p) (now : CoreTick) (hm : startMeets p) : Settled (startPort p now) := by
  unfold startPort
  split
  · exact h
  · rename_i hguard
    rw [not_or, not_not] at hguard
    obtain ⟨hl, henabled⟩ := hguard
    have hk := keepsSettings_portRuntimeStart h.coherent now gatewayStartTimeout
    have hcases := portRuntimeStart_cases p.runtime now gatewayStartTimeout
    split
    · rename_i runtime heq
      rw [heq] at hk hcases
      rcases hcases with ⟨hfail, _⟩ | ⟨_, _, hcontrol⟩
      · exact absurd hfail (by simp)
      · have hstarting : runtime.state = .starting := congrArg PortControl.state hcontrol
        exact settled_of_serving hk.coherent (.inl rfl)
          ⟨hk.current.trans (hm hl henabled), by simp [hstarting], h.good henabled⟩
    · rename_i heq
      rw [heq] at hk
      exact settled_of_free hk.coherent h.good (.inr (.inr (.inr rfl)))

theorem settled_initPort (index : Nat) (config : GatewayPortConfig) (error : GatewayError)
    (binding : GatewayPortBinding σ κ device) (objects : σ × κ) :
    Settled (initPort index config error binding objects) := by
  refine settled_of_free (coherent_portRuntimeInit _ _ _ _ _ _) (fun _ => rfl) ?_
  unfold initPort
  split
  · exact .inl rfl
  · exact .inr (.inr (.inr rfl))

/-- What a reconfiguration may find: where the phase lets it through and the serial
    settings are to change, no rebind left over from an earlier one. One that the phase
    refuses changes nothing and may find what it will. -/
def reconfigureMeets (p : GatewayPortController σ κ device) (config : GatewayPortConfig) : Prop :=
  (p.lifecycle = .ready ∨ p.lifecycle = .networkWait) → config.enabled ≠ 0 →
    sameSerial config p.current = false → p.listenerRebind = false

instance (p : GatewayPortController σ κ device) (config : GatewayPortConfig) :
    Decidable (reconfigureMeets p config) :=
  inferInstanceAs (Decidable (_ → _ → _ → _))

/-- A phase a reconfiguration is accepted in, the port not disabled. -/
theorem Settled.serving_of_accepting (h : Settled p) (hl : p.lifecycle = .ready ∨ p.lifecycle = .networkWait) :
    Serving p.runtime p.current p.knownGood := by
  cases h.phase with
  | serving _ hs => exact hs
  | rebinding hl' _ _ _ => rcases hl with hl | hl <;> rw [hl] at hl' <;> exact absurd hl' (by simp)
  | retuning hl' _ _ _ => rcases hl with hl | hl <;> rw [hl] at hl' <;> exact absurd hl' (by simp)
  | undoing hl' _ | free hl' => rcases hl with hl | hl <;> rw [hl] at hl' <;> exact absurd hl' (by simp)

variable {config : GatewayPortConfig}

theorem settled_reconfigureDisable (h : Settled p)
    (hl : p.lifecycle = .disabled ∨ p.lifecycle = .ready ∨ p.lifecycle = .networkWait)
    (hconfig : config.enabled = 0) (now : CoreTick) :
    Settled (reconfigureDisable p config now).2 := by
  unfold reconfigureDisable
  split
  · rename_i hdisabled
    exact settled_of_free h.coherent (fun hne => absurd hconfig hne) (.inl hdisabled)
  · rename_i henabled
    have hl := hl.resolve_left henabled
    have hs := h.serving_of_accepting hl
    have hlistened := listened_transportStop p
    split <;> rename_i heq <;> rw [heq] at hlistened <;>
      obtain ⟨runtime, owned, hcalls⟩ := hlistened
    · have hk := keepsSettings_listenerCalls h.coherent hcalls
      have hcases := portRuntimeRequestStop_cases runtime now gatewayStopTimeout
      split <;> rename_i heq'
      · rw [heq'] at hcases
        rcases hcases with hsame | ⟨_, _, hcontrol⟩
        · exact absurd (congrArg Prod.fst hsame) (by simp)
        · exact settled_of_free (coherent_of_idle hk.coherent .stopping rfl hcontrol)
            (fun _ => hs.good) (.inr (.inl rfl))
      · rename_i hne
        rw [heq'] at hcases
        rcases hcases with hsame | ⟨_, hzero, _⟩
        · obtain ⟨_, rfl⟩ := Prod.mk.inj hsame
          exact settled_of_serving hk.coherent (.inr hl) (hs.keeps hk)
        · exact absurd hzero hne
    · have hk := keepsSettings_listenerCalls h.coherent hcalls
      exact settled_of_serving hk.coherent (.inr hl) (hs.keeps hk)

theorem settled_reconfigureEnable (hl : p.lifecycle = .disabled) (index : Fin gatewayPortCount)
    (config : GatewayPortConfig) (now : CoreTick) : Settled (reconfigureEnable p index config now).2 := by
  unfold reconfigureEnable
  have hinit := coherent_portRuntimeInit index (coreConfig config) p.binding.backendOps
    p.runtime.backendContext p.runtime.completionContext p.runtime.accepted
  have hk := keepsSettings_portRuntimeStart hinit now gatewayStartTimeout
  split <;> rename_i heq <;> rw [heq] at hk
  · refine settled_of_serving hk.coherent (.inl rfl) ⟨hk.current, ?_, rfl⟩
    exact fun he => absurd (hk.reconfiguring.mp he) (by simp [portRuntimeInit])
  · exact settled_of_free hk.coherent (fun _ => rfl) (.inl hl)

theorem settled_reconfigureRebind (h : Settled p) (hl : p.lifecycle = .ready ∨ p.lifecycle = .networkWait)
    (same : sameSerial config p.current = true) (now : CoreTick) :
    Settled (reconfigureRebind p config now).2 := by
  have hs := h.serving_of_accepting hl
  have hlistened := listened_transportStop p
  unfold reconfigureRebind
  split <;> rename_i heq <;> rw [heq] at hlistened <;> obtain ⟨runtime, owned, hcalls⟩ := hlistened
  · have hk := keepsSettings_listenerCalls h.coherent hcalls
    have hk' := hk.trans (keepsSettings_portRuntimeDetachListener hk.coherent now)
    split <;> rename_i heq' <;> rw [heq'] at hk'
    · exact ⟨hk'.coherent, fun _ => hs.good, .rebinding rfl rfl (hs.keeps hk') same⟩
    · exact settled_of_free hk'.coherent (fun _ => hs.good) (.inr (.inr (.inr rfl)))
  · have hk := keepsSettings_listenerCalls h.coherent hcalls
    exact settled_of_serving hk.coherent (.inr hl) (hs.keeps hk)

theorem settled_reconfigureSerial (h : Settled p) (hl : p.lifecycle = .ready ∨ p.lifecycle = .networkWait)
    (hr : p.listenerRebind = false) (now : CoreTick) :
    Settled (reconfigureSerial p config now).2 := by
  have hs := h.serving_of_accepting hl
  have hlistened := listened_transportStop p
  unfold reconfigureSerial
  split <;> rename_i heq <;> rw [heq] at hlistened <;> obtain ⟨runtime, owned, hcalls⟩ := hlistened
  · have hk := keepsSettings_listenerCalls h.coherent hcalls
    have hcases := portRuntimeRequestReconfigure_cases runtime (coreConfig config) now
      gatewayReconfigureTimeout
    split <;> rename_i heq'
    · rw [heq'] at hcases
      rcases hcases with hsame | ⟨_, hcontrol⟩
      · exact absurd (congrArg Prod.fst hsame) (by simp)
      · refine ⟨?_, fun _ => hs.good, .retuning rfl hr ?_ ?_⟩
        · unfold PortRuntime.Coherent
          rw [hcontrol]
          exact ⟨rfl, rfl⟩
        · exact (congrArg PortControl.currentConfig hcontrol).trans (hk.current.trans hs.agreed)
        · exact ⟨congrArg PortControl.state hcontrol, congrArg PortControl.stagedConfig hcontrol,
            hs.good⟩
    · rename_i hne
      rw [heq'] at hcases
      rcases hcases with hsame | ⟨hzero, _⟩
      · obtain ⟨_, rfl⟩ := Prod.mk.inj hsame
        refine Settled.listened ?_ (listened_transportStartAt _ _)
        exact settled_of_serving hk.coherent (.inr hl) (hs.keeps hk)
      · exact absurd hzero hne
  · have hk := keepsSettings_listenerCalls h.coherent hcalls
    exact settled_of_serving hk.coherent (.inr hl) (hs.keeps hk)

theorem settled_reconfigurePort (h : Settled p) (index : Fin gatewayPortCount)
    (hm : reconfigureMeets p config) (now : CoreTick) : Settled (reconfigurePort p index config now).2 := by
  unfold reconfigurePort
  split
  · exact h
  · rename_i hguard
    have hl := accepting_of_guard hguard
    split
    · rename_i hconfig
      exact settled_reconfigureDisable h hl hconfig now
    rename_i hconfig
    split
    · rename_i hdisabled
      exact settled_reconfigureEnable hdisabled index config now
    · rename_i henabled
      have hl := hl.resolve_left henabled
      split
      · rename_i same
        exact settled_reconfigureRebind h hl same now
      · rename_i differ
        exact settled_reconfigureSerial h hl
          (hm hl hconfig (Bool.eq_false_iff.mpr differ)) now

theorem settled_networkWaitPort (h : Settled p) (wait : Bool) (now : CoreTick) :
    Settled (networkWaitPort p wait now).2 := by
  unfold networkWaitPort
  split
  · rename_i hguard
    have hl : p.lifecycle = .ready ∨ p.lifecycle = .networkWait := .inl hguard.2
    have hs := h.serving_of_accepting hl
    have hlistened := listened_transportStop { p with networkWait := wait }
    split <;> rename_i heq <;> rw [heq] at hlistened <;>
      obtain ⟨runtime, owned, hcalls⟩ := hlistened
    · have hk := keepsSettings_listenerCalls h.coherent hcalls
      have hk' := hk.trans (keepsSettings_portRuntimeDetachListener hk.coherent now)
      split <;> rename_i heq' <;> rw [heq'] at hk'
      · exact settled_of_serving hk'.coherent (.inr (.inr rfl)) (hs.keeps hk')
      · exact settled_of_serving hk'.coherent (.inr hl) (hs.keeps hk')
    · have hk := keepsSettings_listenerCalls h.coherent hcalls
      exact settled_of_serving hk.coherent (.inr hl) (hs.keeps hk)
  · exact ⟨h.coherent, h.good, h.phase⟩

theorem settled_shutdownRuntime (h : Settled p) (now : CoreTick) : Settled (shutdownRuntime p now) := by
  unfold shutdownRuntime
  split
  · exact settled_stopOrElse h.coherent h.good now
      (settled_of_free h.coherent h.good (.inr (.inr (.inr rfl))))
  · exact h

theorem settled_shutdownPort (h : Settled p) (now : CoreTick) : Settled (shutdownPort p now) := by
  have hlistened := h.listened (listened_transportStop p)
  unfold shutdownPort
  split <;> rename_i heq <;> rw [heq] at hlistened
  · refine settled_shutdownRuntime ?_ now
    exact ⟨hlistened.coherent, hlistened.good, hlistened.phase⟩
  · refine settled_shutdownRuntime ?_ now
    exact ⟨hlistened.coherent, hlistened.good, hlistened.phase⟩

/-! ## Runs -/

/-- The condition on a step of the controller. A reconfiguration that the validation
    of the eight ports together turns away is under none. -/
def ControllerOp.Meets (c : GatewayController σ κ device) : ControllerOp → Prop
  | .start _ => ∀ i, startMeets (c.ports i)
  | .step now => ∀ i, stepMeets (c.ports i) now
  | .reconfigure index config _ => validateReplacement c index config = true →
      reconfigureMeets (c.ports index) config
  | .init _ | .networkWait _ _ _ | .shutdown _ => True

instance (c : GatewayController σ κ device) : (op : ControllerOp) → Decidable (op.Meets c)
  | .start _ => inferInstanceAs (Decidable (∀ i, startMeets (c.ports i)))
  | .step now => inferInstanceAs (Decidable (∀ i, stepMeets (c.ports i) now))
  | .reconfigure _ _ _ => inferInstanceAs (Decidable (_ = true → reconfigureMeets _ _))
  | .init _ | .networkWait _ _ _ | .shutdown _ => inferInstanceAs (Decidable True)

abbrev RunMeets (ops : List ControllerOp) (c : GatewayController σ κ device) : Prop :=
  RunAlong ControllerOp.Meets ops c

def AllSettled (c : GatewayController σ κ device) : Prop := ∀ i, Settled (c.ports i)

theorem AllSettled.setPort {c : GatewayController σ κ device} (h : AllSettled c)
    (index : Fin gatewayPortCount) (hp : Settled p) :
    AllSettled (c.setPort index p) := by
  intro i
  unfold GatewayController.setPort
  by_cases hi : i = index
  · subst hi
    simpa using hp
  · simpa [hi] using h i

theorem allSettled_init (ports : GatewayPorts)
    (bindings : Fin gatewayPortCount → GatewayPortBinding σ κ device)
    (objects : Fin gatewayPortCount → σ × κ) :
    AllSettled (gatewayControllerInit ports bindings objects).2 :=
  fun _ => settled_initPort _ _ _ _ _

theorem AllSettled.exec {c : GatewayController σ κ device} (h : AllSettled c)
    {op : ControllerOp} (hm : op.Meets c) : AllSettled (op.exec c) := by
  cases op with
  | init ports => exact allSettled_init _ _ _
  | start now => exact fun i => settled_startPort (h i) now (hm i)
  | step now =>
    intro i
    show Settled ((gatewayControllerStep c now).ports i)
    rw [ports_gatewayControllerStep]
    exact settled_stepPort (h i) now (hm i)
  | reconfigure index config now =>
    show AllSettled (gatewayControllerReconfigure c index config now).2
    unfold gatewayControllerReconfigure
    split
    · exact h
    · rename_i hvalid
      have hport := hm (by simpa using hvalid)
      exact h.setPort index (settled_reconfigurePort (h index) index hport now)
  | networkWait index wait now =>
    exact h.setPort index (settled_networkWaitPort (h index) wait now)
  | shutdown now => exact fun i => settled_shutdownPort (h i) now

/-- A port that serves, its runtime ready or at work, has the settings it reports. -/
def AgreesWhenServing (p : GatewayPortController σ κ device) : Prop :=
  (p.lifecycle = .ready ∨ p.lifecycle = .networkWait) →
    (p.runtime.state = .ready ∨ p.runtime.state = .active ∨ p.runtime.state = .waiting) →
    p.runtime.currentConfig = coreConfig p.current

instance (p : GatewayPortController σ κ device) : Decidable (AgreesWhenServing p) :=
  inferInstanceAs (Decidable (_ → _ → p.runtime.currentConfig = coreConfig p.current))

theorem Settled.agreesWhenServing (h : Settled p) :
    AgreesWhenServing p :=
  fun hl _ => (h.serving_of_accepting hl).agreed

/-- **Agreement on the settings.** In every state of a run whose steps meet the
    condition, whatever the backends answer and the listeners do, a served port's runtime
    has applied the settings the controller reports. -/
theorem agreement_of_runMeets (ports : GatewayPorts)
    (bindings : Fin gatewayPortCount → GatewayPortBinding σ κ device)
    (objects : Fin gatewayPortCount → σ × κ) (ops : List ControllerOp)
    (h : RunMeets ops (gatewayControllerInit ports bindings objects).2)
    (i : Fin gatewayPortCount) :
    AgreesWhenServing ((runController ops (gatewayControllerInit ports bindings objects).2).ports i) :=
  (h.invariant (fun _ _ h hm => h.exec hm) (allSettled_init ports bindings objects) i).agreesWhenServing

/-! ## Scripted runs -/

/-- A backend that does what is asked, except that its answers to `reconfigure` are
    read off a list. -/
def scriptedBackend : CoreBackendOps (List Int) where
  «open» := fun answers _ => (0, answers)
  start := fun answers _ _ => (0, answers)
  poll := fun answers _ => (0, default, answers)
  cancel := fun answers _ => answers
  recover := fun answers _ => (0, answers)
  reconfigure := fun answers _ _ => (answers.headD 0, answers.tail)
  stop := fun answers _ => (0, answers)

/-- A listener whose answers to `start` are read off a list. -/
def scriptedListener : GatewayTransportOps (List Int) (List Int) fun _ _ => False where
  start := some fun _ port =>
    (port.completionContext.headD 0,
      { port with completionContext := port.completionContext.tail })
  step := none
  stop := some fun port => (0, port)
  start_calls := by
    rintro f hf _ port
    obtain rfl := Option.some.inj (Option.mem_def.mp hf).symm
    exact .single (.work port port.completionContext.tail)
  step_calls := by
    rintro f hf
    exact absurd hf (by simp)
  stop_calls := by
    rintro f hf port
    obtain rfl := Option.some.inj (Option.mem_def.mp hf).symm
    exact .refl

def scriptedStart (backend listener : List Int) :
    GatewayController (List Int) (List Int) fun _ _ => False :=
  (gatewayControllerInit gatewayConfigurationDefaults
    (fun _ => { backendOps := some scriptedBackend, transportOps := some scriptedListener })
    fun _ => (backend, listener)).2

/-- The first port at 19200 baud. -/
def fasterConfig : GatewayPortConfig :=
  { gatewayConfigurationDefaults 0 with baud := 19200, revision := 2 }

/-- Start all ports, change the speed of the first and step twice more. -/
def fasterRun : List ControllerOp :=
  [.start 0, .step 1, .reconfigure 0 fasterConfig 2, .step 3, .step 4]

/-- Rebind the listener of the first port, ask for another speed before that is done,
    which is refused, and once more when the port serves again. -/
def refusedRun : List ControllerOp :=
  [.start 0, .step 1,
    .reconfigure 0 { gatewayConfigurationDefaults 0 with bindPolicy := 1, revision := 2 } 2,
    .reconfigure 0 fasterConfig 3, .step 4,
    .reconfigure 0 { fasterConfig with bindPolicy := 1, revision := 3 } 5, .step 6, .step 7]

/-- The condition is met, for one, when everything succeeds, and a request that comes in
    the middle of a rebind and is refused does not break it. -/
theorem agreement_fasterRun :
    (RunMeets fasterRun (scriptedStart [] []) ∧
      AgreesWhenServing ((runController fasterRun (scriptedStart [] [])).ports 0)) ∧
    RunMeets refusedRun (scriptedStart [] []) ∧
      AgreesWhenServing ((runController refusedRun (scriptedStart [] [])).ports 0) :=
  have h : RunMeets fasterRun (scriptedStart [] []) := by decide +kernel
  have h' : RunMeets refusedRun (scriptedStart [] []) := by decide +kernel
  ⟨⟨h, agreement_of_runMeets _ _ _ _ h 0⟩, h', agreement_of_runMeets _ _ _ _ h' 0⟩

/-- **The rollback that is none.** The UART takes 19200 baud, the listener does not
    start, the UART refuses to go back to 9600 and stays at 19200; the controller
    starts the listener again and reports a port that is ready at 9600 baud. -/
theorem agreement_fails_after_rollback :
    ¬ AgreesWhenServing
      ((runController fasterRun (scriptedStart [0, -1, 0] [0, -1, 0])).ports 0) := by
  decide +kernel

end FourVrs.Gateway
