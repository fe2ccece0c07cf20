import FourVrs.Core.PortDevice
import FourVrs.Gateway.Agreement

/-!
# What a port holds on to while the gateway ends

A port is closed when its runtime is DISABLED: the UART was never opened, or its `stop`
has returned 0 since. `Kept` is what holds of a port at any time: a runtime that stops
belongs to a port that stops, and a disabled runtime has nothing open. `Closing` is what
`gateway_controller_shutdown` makes of it and the steps after it keep, as long as no UART
refuses to stop until its deadline has passed (`StopGivesUp`) and nobody enables the port
again.
-/

set_option autoImplicit false

namespace FourVrs.Gateway

open FourVrs.Core Config

variable {σ κ : Type} {device : σ → σ → Prop}

/-- The UART is as it was handed out, or as its `stop` left it when it returned 0, but for
    what a listener may do to it. -/
inductive Released (backend : Option (CoreBackendOps σ)) (device : σ → σ → Prop) (fresh : σ → Prop) :
    σ → Prop where
  | fresh (context : σ) (h : fresh context) : Released backend device fresh context
  | stopped (ops : CoreBackendOps σ) (hops : backend = some ops) (context : σ) (now : CoreTick)
      (h : (ops.stop context now).1 = 0) :
      Released backend device fresh (ops.stop context now).2
  | used (context context' : σ) (h : Released backend device fresh context)
      (huse : device context context') : Released backend device fresh context'

/-- The UART refuses to stop, and the time it has for it is over. -/
def StopGivesUp (port : PortRuntime σ κ) (now : CoreTick) : Prop :=
  port.state = .stopping ∧ coreDeadlineExpired port.stateDeadline now = true ∧
    ∃ ops ∈ port.backend, (ops.stop port.backendContext now).1 ≠ 0

instance (port : PortRuntime σ κ) (now : CoreTick) : Decidable (StopGivesUp port now) :=
  match h : port.backend with
  | none => .isFalse fun hg => by
      obtain ⟨_, _, ops, hops, _⟩ := hg
      rw [h] at hops
      cases hops
  | some ops =>
      decidable_of_iff
        (port.state = .stopping ∧ coreDeadlineExpired port.stateDeadline now = true ∧
          (ops.stop port.backendContext now).1 ≠ 0) (by
        unfold StopGivesUp
        rw [h]
        simp)

/-! ## The runtime at rest -/

/-- What a call that neither starts nor stops the runtime leaves as it was. -/
structure KeepsRest (device : σ → σ → Prop) (port port' : PortRuntime σ κ) : Prop where
  coherent : port'.Coherent
  backend : port'.backend = port.backend
  stopping : port'.state = .stopping ↔ port.state = .stopping
  disabled : port'.state = .disabled ↔ port.state = .disabled
  /-- Only a listener reaches the UART of a disabled port. -/
  context : port.state = .disabled → Relation.ReflTransGen device port.backendContext port'.backendContext

variable {p : GatewayPortController σ κ device} {port port' : PortRuntime σ κ}

theorem keepsRest_of_control (h : port.Coherent) (heq : port'.control = port.control)
    (hcontext : port.state = .disabled → port'.backendContext = port.backendContext) :
    KeepsRest device port port' := by
  have hstate : port'.state = port.state := congrArg PortControl.state heq
  refine ⟨?_, congrArg PortControl.backend heq, by rw [hstate], by rw [hstate], ?_⟩
  · unfold PortRuntime.Coherent
    rw [heq]
    exact h
  · intro hdisabled
    rw [hcontext hdisabled]

/-- A call that takes a runtime from one state at work to another. -/
theorem keepsRest_of_awake (hcoherent : port'.Coherent) (hbackend : port'.backend = port.backend)
    (hport : port.state ≠ .disabled ∧ port.state ≠ .stopping)
    (hport' : port'.state ≠ .disabled ∧ port'.state ≠ .stopping) : KeepsRest device port port' :=
  ⟨hcoherent, hbackend, iff_of_false hport'.2 hport.2, iff_of_false hport'.1 hport.1,
    fun h => absurd h hport.1⟩

theorem KeepsRest.trans {port port' port'' : PortRuntime σ κ} (h : KeepsRest device port port')
    (h' : KeepsRest device port' port'') : KeepsRest device port port'' :=
  ⟨h'.coherent, h'.backend.trans h.backend, h'.stopping.trans h.stopping,
    h'.disabled.trans h.disabled,
    fun hd => (h.context hd).trans (h'.context (h.disabled.mpr hd))⟩

theorem keepsRest_of_recovering (h : port.Coherent) (hport : port.state ≠ .disabled ∧ port.state ≠ .stopping)
    (heq : port'.control = { port.control with state := .recovering, hasActive := false }) :
    KeepsRest device port port' := by
  have hstate : port'.state = .recovering := congrArg PortControl.state heq
  exact keepsRest_of_awake (coherent_of_idle h .recovering rfl heq)
    (congrArg PortControl.backend heq) hport (by rw [hstate]; exact ⟨nofun, nofun⟩)

theorem keepsRest_listenerCall (h : port.Coherent) (hcall : ListenerCall device port port') :
    KeepsRest device port port' := by
  cases hcall with
  | submit request =>
    exact keepsRest_of_control h (control_portRuntimeSubmitOperation port request)
      fun _ => context_portRuntimeSubmitOperation port request
  | reportIoFailure now message =>
    rcases control_portRuntimeReportIoFailure port now message with heq | ⟨hs, heq⟩
    · refine keepsRest_of_control h heq fun hdisabled => ?_
      unfold portRuntimeReportIoFailure
      rw [if_pos (by simp [hdisabled])]
    · exact keepsRest_of_recovering h (by rw [hs]; exact ⟨nofun, nofun⟩) heq
  | setCompletion completion =>
    exact ⟨⟨h.busy, h.knownGood⟩, rfl, Iff.rfl, Iff.rfl, fun _ => .refl⟩
  | work context => exact ⟨⟨h.busy, h.knownGood⟩, rfl, Iff.rfl, Iff.rfl, fun _ => .refl⟩
  | useDevice context huse =>
    exact ⟨⟨h.busy, h.knownGood⟩, rfl, Iff.rfl, Iff.rfl, fun _ => .single huse⟩

theorem keepsRest_listenerCalls (h : port.Coherent) (hcalls : ListenerCalls device port port') :
    KeepsRest device port port' := by
  induction hcalls with
  | refl => exact keepsRest_of_control h rfl fun _ => rfl
  | tail _ hcall ih => exact ih.trans (keepsRest_listenerCall ih.coherent hcall)

theorem keepsRest_portRuntimeDetachListener {port : PortRuntime σ κ} (h : port.Coherent)
    (now : CoreTick) : KeepsRest device port (portRuntimeDetachListener port now).2 := by
  rcases control_portRuntimeDetachListener h now with heq | ⟨hs, heq⟩
  · refine keepsRest_of_control h heq fun hdisabled => ?_
    have hidle : port.hasActive = false := h.hasActive_of_state hdisabled
    unfold portRuntimeDetachListener
    rw [if_neg (by simp [hidle])]
    exact context_flushQueue port
  · exact keepsRest_of_recovering h
      (by rcases hs with hs | hs <;> rw [hs] <;> exact ⟨nofun, nofun⟩) heq

/-! ## The step and the request to stop -/

/-- What a step makes of a runtime that stops. -/
inductive StopStep (port : PortRuntime σ κ) (now : CoreTick) (port' : PortRuntime σ κ) : Prop where
  | stays (h : port'.control = port.control)
  | stopped (ops : CoreBackendOps σ) (hops : port.backend = some ops)
      (hzero : (ops.stop port.backendContext now).1 = 0)
      (hcontext : port'.backendContext = (ops.stop port.backendContext now).2)
      (h : port'.control = { port.control with state := .disabled })
  | gaveUp (hgave : StopGivesUp port now) (h : port'.control = { port.control with state := .error })

theorem stopStep_portRuntimeStep {port : PortRuntime σ κ} (hs : port.state = .stopping)
    (now : CoreTick) : StopStep port now (portRuntimeStep port now) := by
  cases hb : port.backend with
  | none =>
    refine .stays ?_
    unfold portRuntimeStep
    simp [hb]
  | some ops =>
    have hstep : portRuntimeStep port now = stepStopping ops port now := by
      unfold portRuntimeStep
      simp [hb, hs]
    rw [hstep]
    obtain ⟨hcontext, hcases⟩ := stepStopping_device ops hs now
    rcases hcases with ⟨hzero, heq⟩ | heq | heq
    · exact .stopped ops hb hzero hcontext heq
    · exact .stays heq
    · refine .gaveUp ?_ heq
      have hstate : (stepStopping ops port now).state = .error := congrArg PortControl.state heq
      unfold stepStopping at hstate
      split at hstate
      · rw [portRuntimeTransition_of_allowed (by exact hs) rfl] at hstate
        cases hstate
      rename_i result context hne hresult
      split at hstate
      · rename_i hexpired
        exact ⟨hs, hexpired, ops, hb, by rw [hresult]; exact hne⟩
      · exact absurd (hs.symm.trans hstate) (by simp)

/-- A runtime that does not stop keeps what it is in a step. -/
theorem keepsRest_portRuntimeStep {port : PortRuntime σ κ} (h : port.Coherent)
    (hs : port.state ≠ .stopping) (now : CoreTick) :
    KeepsRest device port (portRuntimeStep port now) := by
  by_cases hdisabled : port.state = .disabled
  · have hstep : portRuntimeStep port now = port := by
      unfold portRuntimeStep
      cases port.backend <;> simp [hdisabled]
    rw [hstep]
    exact keepsRest_of_control h rfl fun _ => rfl
  · have hcontrol := control_portRuntimeStep h now
    have hother : ∀ c : PortControl σ κ, ControlStep port.control c →
        c.backend = port.backend ∧ c.state ≠ .disabled ∧ c.state ≠ .stopping := by
      intro c hc
      cases hc with
      | stay => exact ⟨rfl, hdisabled, hs⟩
      | stopped hstop => exact absurd hstop hs
      | _ => exact ⟨rfl, nofun, nofun⟩
    obtain ⟨hbackend, hawake⟩ := hother _ hcontrol
    exact keepsRest_of_awake (hcontrol.coherent h) hbackend ⟨hdisabled, hs⟩ hawake

/-- A runtime at work is never refused its stop. -/
theorem portRuntimeRequestStop_accepted {port : PortRuntime σ κ} (hdisabled : port.state ≠ .disabled)
    (hstopping : port.state ≠ .stopping) (now : CoreTick) :
    (portRuntimeRequestStop port now gatewayStopTimeout).1 = 0 := by
  have hstate : (cancelAll port).state = port.state :=
    congrArg PortControl.state (control_cancelAll port)
  have hallowed : transitionAllowed port.state .stopping = true := by
    cases hs : port.state <;> simp [hs, transitionAllowed] at hdisabled hstopping ⊢
  unfold portRuntimeRequestStop
  rw [if_neg (by simp [hdisabled, hstopping, gatewayStopTimeout, coreTicksValidInterval, coreTickHalfRange]),
    portRuntimeTransition_of_allowed (by exact hstate) hallowed]

/-! ## A port at any time -/

structure Kept (fresh : σ → Prop) (p : GatewayPortController σ κ device) : Prop where
  coherent : p.runtime.Coherent
  backend : p.runtime.backend = p.binding.backendOps
  stopping : p.runtime.state = .stopping → p.lifecycle = .stopping
  disabled : p.runtime.state = .disabled → p.lifecycle = .disabled ∨ p.lifecycle = .error
  idle : p.lifecycle = .disabled → p.runtime.state = .disabled
  released : p.runtime.state = .disabled →
    Released p.binding.backendOps device fresh p.runtime.backendContext

variable {fresh : σ → Prop}

theorem Released.used_all {backend : Option (CoreBackendOps σ)} {context context' : σ}
    (h : Released backend device fresh context) (huse : Relation.ReflTransGen device context context') :
    Released backend device fresh context' := by
  induction huse with
  | refl => exact h
  | tail _ hone ih => exact .used _ _ ih hone

theorem Kept.keeps {runtime : PortRuntime σ κ} (h : Kept fresh p) (hk : KeepsRest device p.runtime runtime)
    (owned : Bool) :
    Kept fresh { p with runtime := runtime, listenerOwned := owned } where
  coherent := hk.coherent
  backend := hk.backend.trans h.backend
  stopping := fun hs => h.stopping (hk.stopping.mp hs)
  disabled := fun hs => h.disabled (hk.disabled.mp hs)
  idle := fun hl => hk.disabled.mpr (h.idle hl)
  released := fun hs =>
    (h.released (hk.disabled.mp hs)).used_all (hk.context (hk.disabled.mp hs))

theorem Kept.listened {p p' : GatewayPortController σ κ device} (h : Kept fresh p)
    (hp : Listened p p') : Kept fresh p' := by
  obtain ⟨runtime, owned, hcalls⟩ := hp
  exact h.keeps (keepsRest_listenerCalls h.coherent hcalls) owned

/-- A port whose runtime is neither disabled nor about to be. -/
structure Awake (p : GatewayPortController σ κ device) : Prop where
  coherent : p.runtime.Coherent
  backend : p.runtime.backend = p.binding.backendOps
  disabled : p.runtime.state ≠ .disabled
  stopping : p.runtime.state ≠ .stopping

theorem Awake.kept (h : Awake p) (hl : p.lifecycle ≠ .disabled) : Kept fresh p where
  coherent := h.coherent
  backend := h.backend
  stopping := fun hs => absurd hs h.stopping
  disabled := fun hs => absurd hs h.disabled
  idle := fun hs => absurd hs hl
  released := fun hs => absurd hs h.disabled

theorem Awake.keeps {runtime : PortRuntime σ κ} (h : Awake p) (hk : KeepsRest device p.runtime runtime)
    (owned : Bool) :
    Awake { p with runtime := runtime, listenerOwned := owned } where
  coherent := hk.coherent
  backend := hk.backend.trans h.backend
  disabled := fun hs => h.disabled (hk.disabled.mp hs)
  stopping := fun hs => h.stopping (hk.stopping.mp hs)

theorem Awake.listened {p p' : GatewayPortController σ κ device} (h : Awake p)
    (hp : Listened p p') : Awake p' := by
  obtain ⟨runtime, owned, hcalls⟩ := hp
  exact h.keeps (keepsRest_listenerCalls h.coherent hcalls) owned

/-- A port that is asked to stop while it is at work stops. -/
structure StopsNow (p : GatewayPortController σ κ device) : Prop where
  coherent : p.runtime.Coherent
  backend : p.runtime.backend = p.binding.backendOps
  state : p.runtime.state = .stopping
  lifecycle : p.lifecycle = .stopping

theorem StopsNow.kept (h : StopsNow p) : Kept fresh p where
  coherent := h.coherent
  backend := h.backend
  stopping := fun _ => h.lifecycle
  disabled := fun hs => absurd (h.state.symm.trans hs) (by simp)
  idle := fun hs => absurd (h.lifecycle.symm.trans hs) (by simp)
  released := fun hs => absurd (h.state.symm.trans hs) (by simp)

theorem Awake.requestStop (h : Awake p) (now : CoreTick) :
    ∃ runtime, portRuntimeRequestStop p.runtime now gatewayStopTimeout = (0, runtime) ∧
      runtime.control = { p.runtime.control with state := .stopping, hasActive := false } := by
  have haccepted := portRuntimeRequestStop_accepted h.disabled h.stopping now
  rcases portRuntimeRequestStop_cases p.runtime now gatewayStopTimeout with heq | ⟨_, hzero, hcontrol⟩
  · rw [heq] at haccepted
    exact absurd haccepted (by simp)
  · exact ⟨_, Prod.ext hzero rfl, hcontrol⟩

theorem Awake.stopOrElse (h : Awake p) (now : CoreTick)
    (refused : GatewayPortController σ κ device → GatewayPortController σ κ device) :
    StopsNow (stopOrElse p now refused) := by
  obtain ⟨runtime, hresult, hcontrol⟩ := h.requestStop now
  unfold Gateway.stopOrElse
  rw [hresult]
  exact ⟨coherent_of_idle h.coherent .stopping rfl hcontrol,
    (congrArg PortControl.backend hcontrol).trans h.backend, congrArg PortControl.state hcontrol, rfl⟩

/-! ## The life cycle -/

/-- The same runtime under the same binding. -/
theorem Awake.of_same {p p' : GatewayPortController σ κ device} (h : Awake p)
    (hruntime : p'.runtime = p.runtime) (hbinding : p'.binding = p.binding) : Awake p' := by
  refine ⟨?_, ?_, ?_, ?_⟩
  · rw [hruntime]
    exact h.coherent
  · rw [hruntime, hbinding]
    exact h.backend
  · rw [hruntime]
    exact h.disabled
  · rw [hruntime]
    exact h.stopping

theorem Awake.relabel (h : Awake p) : Awake (relabel p) := by
  refine ⟨⟨h.coherent.busy, ?_⟩, h.backend, h.disabled, h.stopping⟩
  show { p.runtime.knownGoodConfig with revision := p.staged.revision } =
    { p.runtime.currentConfig with revision := p.staged.revision }
  rw [show p.runtime.knownGoodConfig = p.runtime.currentConfig from h.coherent.knownGood]

theorem Awake.startListenerOrFail (h : Awake p) (now : CoreTick) : Kept fresh (startListenerOrFail p now) := by
  unfold Gateway.startListenerOrFail
  split
  · exact Awake.kept (h.of_same rfl rfl) nofun
  · have hlistened := h.listened (listened_transportStartAt p p.current)
    unfold transportStart
    split <;> rename_i heq <;> rw [heq] at hlistened
    · exact Awake.kept (hlistened.of_same rfl rfl) nofun
    · refine StopsNow.kept (Awake.stopOrElse ?_ now _)
      exact hlistened.of_same rfl rfl

theorem Awake.stepRebind (h : Awake p) (hl : p.lifecycle = .reconfiguring) : Kept fresh (stepRebind p) := by
  unfold Gateway.stepRebind
  split
  · split
    · exact Awake.kept (h.of_same rfl rfl) nofun
    · have hlistened := Awake.listened (p := { p with listenerRebind := false }) (h.of_same rfl rfl)
        (listened_transportStartAt { p with listenerRebind := false } p.staged)
      split <;> rename_i heq <;> rw [heq] at hlistened
      · exact Awake.kept (Awake.of_same (Awake.relabel (p := adoptStaged _)
          (hlistened.of_same rfl rfl)) rfl rfl) nofun
      · rename_i p' _
        have hagain := Awake.listened
          (p := { p' with
            listenerFailures := increment p'.listenerFailures
            reconfigureFailures := increment p'.reconfigureFailures
            lastError := .listenerStart }) (hlistened.of_same rfl rfl)
          (listened_transportStartAt _ p'.current)
        unfold transportStart
        split <;> rename_i heq' <;> rw [heq'] at hagain
        · exact Awake.kept (hagain.of_same rfl rfl) nofun
        · exact Awake.kept (hagain.of_same rfl rfl) nofun
  · split
    · exact Awake.kept (h.of_same rfl rfl) nofun
    · exact h.kept (by rw [hl]; nofun)

theorem Awake.beginRollback (h : Awake p) (now : CoreTick) : Kept fresh (beginRollback p now) := by
  have hcases := portRuntimeRequestReconfigure_cases p.runtime (coreConfig p.knownGood) now
    gatewayReconfigureTimeout
  unfold Gateway.beginRollback
  split <;> rename_i heq <;> rw [heq] at hcases
  · rcases hcases with hsame | ⟨_, hcontrol⟩
    · exact absurd (congrArg Prod.fst hsame) (by simp)
    · refine Awake.kept ⟨?_, ?_, ?_, ?_⟩ nofun
      · unfold PortRuntime.Coherent
        rw [hcontrol]
        exact ⟨rfl, rfl⟩
      · exact (congrArg PortControl.backend hcontrol).trans h.backend
      · exact fun hs => absurd ((congrArg PortControl.state hcontrol).symm.trans hs) (by simp)
      · exact fun hs => absurd ((congrArg PortControl.state hcontrol).symm.trans hs) (by simp)
  · rename_i hne
    rcases hcases with hsame | ⟨hzero, _⟩
    · obtain ⟨_, rfl⟩ := Prod.mk.inj hsame
      exact Awake.kept (h.of_same rfl rfl) nofun
    · exact absurd hzero hne

theorem Awake.stepReconfigure (h : Awake p) (hl : p.lifecycle = .reconfiguring) (now : CoreTick) :
    Kept fresh (stepReconfigure p now) := by
  unfold Gateway.stepReconfigure
  split
  · split
    · refine Awake.startListenerOrFail ?_ now
      exact h.of_same rfl rfl
    split
    · exact Awake.kept (h.of_same rfl rfl) nofun
    · have hlistened := h.listened (listened_transportStartAt p p.staged)
      split <;> rename_i heq <;> rw [heq] at hlistened
      · exact Awake.kept (hlistened.of_same rfl rfl) nofun
      · refine Awake.beginRollback ?_ now
        exact hlistened.of_same rfl rfl
  · split
    · exact Awake.kept (h.of_same rfl rfl) nofun
    · exact h.kept (by rw [hl]; nofun)

theorem Awake.stepRollback (h : Awake p) (hl : p.lifecycle = .rollingBack) : Kept fresh (stepRollback p) := by
  unfold Gateway.stepRollback
  split
  · split
    · exact Awake.kept (h.of_same rfl rfl) nofun
    · have hlistened := h.listened (listened_transportStartAt p p.current)
      unfold transportStart
      split <;> rename_i heq <;> rw [heq] at hlistened
      · exact Awake.kept (hlistened.of_same rfl rfl) nofun
      · exact Awake.kept (hlistened.of_same rfl rfl) nofun
  · split
    · exact Awake.kept (h.of_same rfl rfl) nofun
    · exact h.kept (by rw [hl]; nofun)

/-- A port between the step of its runtime and that of its life cycle. -/
structure Stepped (fresh : σ → Prop) (p : GatewayPortController σ κ device) : Prop where
  coherent : p.runtime.Coherent
  backend : p.runtime.backend = p.binding.backendOps
  stopping : p.runtime.state = .stopping → p.lifecycle = .stopping
  disabled : p.runtime.state = .disabled →
    p.lifecycle = .disabled ∨ p.lifecycle = .error ∨ p.lifecycle = .stopping
  idle : p.lifecycle = .disabled → p.runtime.state = .disabled
  released : p.runtime.state = .disabled →
    Released p.binding.backendOps device fresh p.runtime.backendContext

/-- A port that does something else than stop is awake. -/
theorem Stepped.awake (h : Stepped fresh p) (hdisabled : p.lifecycle ≠ .disabled)
    (herror : p.lifecycle ≠ .error) (hstopping : p.lifecycle ≠ .stopping) : Awake p where
  coherent := h.coherent
  backend := h.backend
  disabled := fun hs => by
    rcases h.disabled hs with hl | hl | hl
    · exact hdisabled hl
    · exact herror hl
    · exact hstopping hl
  stopping := fun hs => hstopping (h.stopping hs)

/-- A runtime that has come to rest ends the stop of its port. -/
theorem Stepped.stepStop (h : Stepped fresh p) :
    Kept fresh (stepStop p) := by
  unfold Gateway.stepStop
  split
  · rename_i hdisabled
    have hreleased := h.released hdisabled
    split
    · exact ⟨h.coherent, h.backend, fun hs => absurd (hdisabled.symm.trans hs) (by simp),
        fun _ => .inl rfl, fun _ => hdisabled, fun _ => hreleased⟩
    · refine ⟨h.coherent, h.backend, fun hs => absurd (hdisabled.symm.trans hs) (by simp),
        fun _ => ?_, fun _ => hdisabled, fun _ => hreleased⟩
      by_cases hnone : p.lastError = .none
      · exact .inl (if_pos hnone)
      · exact .inr (if_neg hnone)
  rename_i hdisabled
  split
  · rename_i herror
    exact Awake.kept ⟨h.coherent, h.backend, hdisabled,
      fun hs => absurd (herror.symm.trans hs) (by simp)⟩ nofun
  · exact ⟨h.coherent, h.backend, h.stopping, fun hs => absurd hs hdisabled, h.idle, h.released⟩

theorem Stepped.stepLifecycle (h : Stepped fresh p) (now : CoreTick) : Kept fresh (stepLifecycle p now) := by
  have hawake := h.awake
  have hkept : (p.lifecycle = .disabled ∨ p.lifecycle = .degraded ∨ p.lifecycle = .error ∨
      p.lifecycle = .networkWait) → Kept fresh p := by
    intro hl
    refine ⟨h.coherent, h.backend, h.stopping, fun hs => ?_, h.idle, h.released⟩
    rcases h.disabled hs with hd | hd | hd
    · exact .inl hd
    · exact .inr hd
    · rw [hd] at hl
      simp at hl
  unfold Gateway.stepLifecycle
  split <;> rename_i hl
  · rw [hl] at hawake
    have hawake := hawake nofun nofun nofun
    split
    · exact hawake.startListenerOrFail now
    · split
      · exact Awake.kept (hawake.of_same rfl rfl) nofun
      · exact hawake.kept (by rw [hl]; nofun)
  · rw [hl] at hawake
    have hawake := hawake nofun nofun nofun
    split
    · exact Awake.kept (hawake.of_same rfl rfl) nofun
    · exact hawake.kept (by rw [hl]; nofun)
  · rw [hl] at hawake
    have hawake := hawake nofun nofun nofun
    split
    · exact hawake.stepRebind hl
    · exact hawake.stepReconfigure hl now
  · rw [hl] at hawake
    exact (hawake nofun nofun nofun).stepRollback hl
  · exact h.stepStop
  · exact hkept (.inl hl)
  · exact hkept (.inr (.inl hl))
  · exact hkept (.inr (.inr (.inl hl)))
  · exact hkept (.inr (.inr (.inr hl)))

/-- The runtime and the listener of a port have run. -/
def pollPort (p : GatewayPortController σ κ device) (now : CoreTick) : GatewayPortController σ κ device :=
  { listenPort p now with runtime := portRuntimeStep (listenPort p now).runtime now }

theorem Kept.listenPort (h : Kept fresh p) (now : CoreTick) :
    Kept fresh (listenPort p now) := by
  refine Kept.listened ?_ (listened_transportStep _ now)
  exact ⟨h.coherent, h.backend, h.stopping, h.disabled, h.idle, h.released⟩

theorem Kept.pollPort (h : Kept fresh p) (now : CoreTick) :
    Stepped fresh (pollPort p now) := by
  have hl := h.listenPort now
  unfold Gateway.pollPort
  by_cases hs : (Gateway.listenPort p now).runtime.state = .stopping
  · have hlife := hl.stopping hs
    cases stopStep_portRuntimeStep hs now with
    | stays heq =>
      have hstate : (portRuntimeStep (Gateway.listenPort p now).runtime now).state = .stopping :=
        (congrArg PortControl.state heq).trans hs
      refine ⟨?_, (congrArg PortControl.backend heq).trans hl.backend, fun _ => hlife,
        fun hd => absurd (hstate.symm.trans hd) (by simp),
        fun hd => absurd (hlife.symm.trans hd) (by simp),
        fun hd => absurd (hstate.symm.trans hd) (by simp)⟩
      unfold PortRuntime.Coherent
      rw [heq]
      exact hl.coherent
    | stopped ops hops hzero hcontext heq =>
      have hidle : (Gateway.listenPort p now).runtime.hasActive = false :=
        hl.coherent.hasActive_of_state hs
      have hstate : (portRuntimeStep (Gateway.listenPort p now).runtime now).state = .disabled :=
        congrArg PortControl.state heq
      refine ⟨?_, (congrArg PortControl.backend heq).trans hl.backend,
        fun hd => absurd (hstate.symm.trans hd) (by simp), fun _ => .inr (.inr hlife),
        fun _ => hstate, fun _ => ?_⟩
      · unfold PortRuntime.Coherent
        rw [heq]
        exact ⟨hidle, hl.coherent.knownGood⟩
      · show Released _ device fresh (portRuntimeStep (Gateway.listenPort p now).runtime now).backendContext
        rw [hcontext]
        exact .stopped ops (hl.backend.symm.trans hops) _ now hzero
    | gaveUp _ heq =>
      have hidle : (Gateway.listenPort p now).runtime.hasActive = false :=
        hl.coherent.hasActive_of_state hs
      have hstate : (portRuntimeStep (Gateway.listenPort p now).runtime now).state = .error :=
        congrArg PortControl.state heq
      refine ⟨?_, (congrArg PortControl.backend heq).trans hl.backend, fun _ => hlife,
        fun hd => absurd (hstate.symm.trans hd) (by simp),
        fun hd => absurd (hlife.symm.trans hd) (by simp),
        fun hd => absurd (hstate.symm.trans hd) (by simp)⟩
      unfold PortRuntime.Coherent
      rw [heq]
      exact ⟨hidle, hl.coherent.knownGood⟩
  · have hk := hl.keeps (keepsRest_portRuntimeStep hl.coherent hs now)
      (Gateway.listenPort p now).listenerOwned
    refine ⟨hk.coherent, hk.backend, hk.stopping, fun hd => ?_, hk.idle, hk.released⟩
    rcases hk.disabled hd with h | h
    · exact .inl h
    · exact .inr (.inl h)

theorem Kept.stepPort (h : Kept fresh p) (now : CoreTick) :
    Kept fresh (stepPort p now) :=
  (h.pollPort now).stepLifecycle now

/-! ## The calls -/

theorem kept_initPort (index : Nat) (config : GatewayPortConfig) (error : GatewayError)
    (binding : GatewayPortBinding σ κ device) (objects : σ × κ) (hfresh : fresh objects.1) :
    Kept fresh (initPort index config error binding objects) := by
  refine ⟨coherent_portRuntimeInit _ _ _ _ _ _, rfl, nofun, fun _ => ?_, fun _ => rfl,
    fun _ => .fresh _ hfresh⟩
  by_cases herror : error = .none
  · exact .inl (if_pos herror)
  · exact .inr (if_neg herror)

/-- Starting a disabled runtime takes it out of rest, or is refused and changes nothing. -/
theorem start_disabled {port : PortRuntime σ κ} (h : port.Coherent) (hs : port.state = .disabled)
    (now : CoreTick) :
    (portRuntimeStart port now gatewayStartTimeout).1 ≠ 0 ∧
        (portRuntimeStart port now gatewayStartTimeout).2.control = port.control ∧
        (portRuntimeStart port now gatewayStartTimeout).2.backendContext = port.backendContext ∨
      (portRuntimeStart port now gatewayStartTimeout).1 = 0 ∧
        (portRuntimeStart port now gatewayStartTimeout).2.Coherent ∧
        (portRuntimeStart port now gatewayStartTimeout).2.backend = port.backend ∧
        (portRuntimeStart port now gatewayStartTimeout).2.state = .starting := by
  rcases portRuntimeStart_cases port now gatewayStartTimeout with ⟨hresult, heq⟩ | ⟨_, hzero, heq⟩
  · refine .inl ⟨by rw [hresult]; decide, heq, ?_⟩
    exact context_portRuntimeStart port now gatewayStartTimeout
  · have hidle : port.hasActive = false := h.hasActive_of_state hs
    refine .inr ⟨hzero, ?_, congrArg PortControl.backend heq, congrArg PortControl.state heq⟩
    unfold PortRuntime.Coherent
    rw [heq]
    exact ⟨hidle, h.knownGood⟩

theorem Kept.startPort (h : Kept fresh p) (now : CoreTick) :
    Kept fresh (startPort p now) := by
  unfold Gateway.startPort
  split
  · exact h
  · rename_i hguard
    have hl : p.lifecycle = .disabled := by
      by_contra hne
      exact hguard (.inl hne)
    have hs := h.idle hl
    have hcases := start_disabled h.coherent hs now
    split <;> rename_i heq <;> rw [heq] at hcases
    · rcases hcases with ⟨hne, _⟩ | ⟨_, hcoherent, hbackend, hstate⟩
      · exact absurd rfl hne
      · exact Awake.kept ⟨hcoherent, hbackend.trans h.backend,
          fun hd => absurd (hstate.symm.trans hd) (by simp),
          fun hd => absurd (hstate.symm.trans hd) (by simp)⟩ nofun
    · rename_i result runtime hne
      rcases hcases with ⟨_, hcontrol, hcontext⟩ | ⟨hzero, _⟩
      · have hk : KeepsRest device p.runtime runtime :=
          keepsRest_of_control h.coherent hcontrol fun _ => hcontext
        have hkept := h.keeps hk p.listenerOwned
        exact ⟨hkept.coherent, hkept.backend, fun hd => absurd (hl.symm.trans (hkept.stopping hd)) (by simp),
          fun _ => .inr rfl, nofun, hkept.released⟩
      · exact absurd hzero hne

/-- A port that is neither disabled nor in error nor stopping is awake. -/
theorem Kept.awake (h : Kept fresh p) (hl : p.lifecycle = .ready ∨ p.lifecycle = .networkWait) : Awake p where
  coherent := h.coherent
  backend := h.backend
  disabled := fun hs => by
    rcases hl with hl | hl <;> rcases h.disabled hs with hd | hd <;> rw [hl] at hd <;> cases hd
  stopping := fun hs => by
    have hd := h.stopping hs
    rcases hl with hl | hl <;> rw [hl] at hd <;> cases hd

theorem Kept.reconfigureDisable (h : Kept fresh p)
    (hl : p.lifecycle = .disabled ∨ p.lifecycle = .ready ∨ p.lifecycle = .networkWait)
    (config : GatewayPortConfig) (now : CoreTick) :
    Kept fresh (reconfigureDisable p config now).2 := by
  unfold Gateway.reconfigureDisable
  split
  · exact ⟨h.coherent, h.backend, h.stopping, h.disabled, h.idle, h.released⟩
  · rename_i hdisabled
    have hlistened := listened_transportStop p
    have hawake := (h.awake (hl.resolve_left hdisabled)).listened hlistened
    split <;> rename_i p' heq <;> rw [heq] at hlistened hawake
    · obtain ⟨runtime, hresult, hcontrol⟩ := hawake.requestStop now
      rw [hresult]
      refine StopsNow.kept ⟨?_, ?_, congrArg PortControl.state hcontrol, rfl⟩
      · exact coherent_of_idle hawake.coherent .stopping rfl hcontrol
      · exact (congrArg PortControl.backend hcontrol).trans hawake.backend
    · have hkept := h.listened hlistened
      exact ⟨hkept.coherent, hkept.backend, hkept.stopping, hkept.disabled, hkept.idle, hkept.released⟩

theorem Kept.reconfigureEnable (h : Kept fresh p) (hl : p.lifecycle = .disabled)
    (index : Fin gatewayPortCount) (config : GatewayPortConfig) (now : CoreTick) :
    Kept fresh (reconfigureEnable p index config now).2 := by
  have hcases := start_disabled
    (coherent_portRuntimeInit index (coreConfig config) p.binding.backendOps
      p.runtime.backendContext p.runtime.completionContext p.runtime.accepted) rfl now
  unfold Gateway.reconfigureEnable
  split <;> rename_i heq <;> rw [heq] at hcases
  · rcases hcases with ⟨hne, _⟩ | ⟨_, hcoherent, hbackend, hstate⟩
    · exact absurd rfl hne
    · exact Awake.kept ⟨hcoherent, hbackend, fun hd => absurd (hstate.symm.trans hd) (by simp),
        fun hd => absurd (hstate.symm.trans hd) (by simp)⟩ nofun
  · rename_i result runtime hne
    rcases hcases with ⟨_, hcontrol, hcontext⟩ | ⟨hzero, _⟩
    · have hstate : runtime.state = .disabled := congrArg PortControl.state hcontrol
      refine ⟨?_, congrArg PortControl.backend hcontrol,
        fun hd => absurd (hstate.symm.trans hd) (by simp), fun _ => .inl hl, fun _ => hstate, fun _ => ?_⟩
      · unfold PortRuntime.Coherent
        rw [show runtime.control = _ from hcontrol]
        exact ⟨rfl, rfl⟩
      · show Released _ device fresh runtime.backendContext
        rw [show runtime.backendContext = p.runtime.backendContext from hcontext]
        exact h.released (h.idle hl)
    · exact absurd hzero hne

theorem Kept.reconfigureRebind (h : Kept fresh p) (hl : p.lifecycle = .ready ∨ p.lifecycle = .networkWait)
    (config : GatewayPortConfig) (now : CoreTick) : Kept fresh (reconfigureRebind p config now).2 := by
  have hlistened := listened_transportStop p
  have hawake := (h.awake hl).listened hlistened
  unfold Gateway.reconfigureRebind
  split <;> rename_i p' heq <;> rw [heq] at hlistened hawake
  · have hdetached := hawake.keeps (keepsRest_portRuntimeDetachListener hawake.coherent now)
      p'.listenerOwned
    split <;> rename_i heq' <;> rw [heq'] at hdetached
    · exact Awake.kept (hdetached.of_same rfl rfl) nofun
    · exact Awake.kept (hdetached.of_same rfl rfl) nofun
  · have hkept := h.listened hlistened
    exact ⟨hkept.coherent, hkept.backend, hkept.stopping, hkept.disabled, hkept.idle, hkept.released⟩

theorem Kept.reconfigureSerial (h : Kept fresh p) (hl : p.lifecycle = .ready ∨ p.lifecycle = .networkWait)
    (config : GatewayPortConfig) (now : CoreTick) : Kept fresh (reconfigureSerial p config now).2 := by
  have hlistened := listened_transportStop p
  have hawake := (h.awake hl).listened hlistened
  have hkept := h.listened hlistened
  unfold Gateway.reconfigureSerial
  split <;> rename_i p' heq <;> rw [heq] at hkept hawake
  · have hcases := portRuntimeRequestReconfigure_cases p'.runtime (coreConfig config) now
      gatewayReconfigureTimeout
    split <;> rename_i heq' <;> rw [heq'] at hcases
    · rcases hcases with hsame | ⟨_, hcontrol⟩
      · exact absurd (congrArg Prod.fst hsame) (by simp)
      · refine Awake.kept ⟨?_, ?_, ?_, ?_⟩ nofun
        · unfold PortRuntime.Coherent
          rw [hcontrol]
          exact ⟨rfl, rfl⟩
        · exact (congrArg PortControl.backend hcontrol).trans hawake.backend
        · exact fun hs => absurd ((congrArg PortControl.state hcontrol).symm.trans hs) (by simp)
        · exact fun hs => absurd ((congrArg PortControl.state hcontrol).symm.trans hs) (by simp)
    · rename_i hne
      rcases hcases with hsame | ⟨hzero, _⟩
      · obtain ⟨_, rfl⟩ := Prod.mk.inj hsame
        refine Kept.listened ?_ (listened_transportStartAt _ _)
        exact ⟨hkept.coherent, hkept.backend, hkept.stopping, hkept.disabled, hkept.idle, hkept.released⟩
      · exact absurd hzero hne
  · exact ⟨hkept.coherent, hkept.backend, hkept.stopping, hkept.disabled, hkept.idle, hkept.released⟩

theorem Kept.reconfigurePort (h : Kept fresh p) (index : Fin gatewayPortCount) (config : GatewayPortConfig)
    (now : CoreTick) :
    Kept fresh (reconfigurePort p index config now).2 := by
  unfold Gateway.reconfigurePort
  split
  · exact h
  · rename_i hguard
    have hl := accepting_of_guard hguard
    split
    · exact h.reconfigureDisable hl config now
    split
    · rename_i hdisabled
      exact h.reconfigureEnable hdisabled index config now
    rename_i henabled
    split
    · exact h.reconfigureRebind (hl.resolve_left henabled) config now
    · exact h.reconfigureSerial (hl.resolve_left henabled) config now

theorem Kept.networkWaitPort (h : Kept fresh p) (wait : Bool) (now : CoreTick) :
    Kept fresh (networkWaitPort p wait now).2 := by
  have hwait : Kept fresh { p with networkWait := wait } :=
    ⟨h.coherent, h.backend, h.stopping, h.disabled, h.idle, h.released⟩
  unfold Gateway.networkWaitPort
  split
  · rename_i hguard
    have hlistened := listened_transportStop { p with networkWait := wait }
    have hawake := (hwait.awake (.inl hguard.2)).listened hlistened
    have hkept := hwait.listened hlistened
    split <;> rename_i p' heq <;> rw [heq] at hkept hawake
    · have hdetach : KeepsRest device p'.runtime (portRuntimeDetachListener p'.runtime now).2 :=
        keepsRest_portRuntimeDetachListener hawake.coherent now
      split <;> rename_i heq' <;> rw [heq'] at hdetach
      · exact Awake.kept ((hawake.keeps hdetach p'.listenerOwned).of_same rfl rfl) nofun
      · exact hkept.keeps hdetach p'.listenerOwned
    · exact hkept
  · exact hwait

/-! ## After the shutdown -/

/-- A port that stops or has stopped. -/
structure Closing (fresh : σ → Prop) (p : GatewayPortController σ κ device) : Prop where
  kept : Kept fresh p
  resting : p.runtime.state = .stopping ∨ p.runtime.state = .disabled

/-- The test `gateway_coordinator_step` makes passes only what has stopped. -/
theorem Closing.disabled (h : Closing fresh p) (hl : p.lifecycle ≠ .stopping) : p.runtime.state = .disabled :=
  h.resting.resolve_left fun hs => hl (h.kept.stopping hs)

theorem closing_shutdownRuntime (h : Kept fresh p) (now : CoreTick) : Closing fresh (shutdownRuntime p now) := by
  unfold shutdownRuntime
  split
  · rename_i hs
    have hstops := Awake.stopOrElse ⟨h.coherent, h.backend, hs.1, hs.2⟩ now
      fun p => { p with lifecycle := .error, lastError := .stop }
    exact ⟨hstops.kept, .inl hstops.state⟩
  · rename_i hs
    refine ⟨h, ?_⟩
    by_contra hne
    exact hs ⟨fun hd => hne (.inr hd), fun hd => hne (.inl hd)⟩

theorem closing_shutdownPort (h : Kept fresh p) (now : CoreTick) : Closing fresh (shutdownPort p now) := by
  have hkept := h.listened (listened_transportStop p)
  unfold shutdownPort
  split <;> rename_i heq <;> rw [heq] at hkept
  · refine closing_shutdownRuntime ?_ now
    exact ⟨hkept.coherent, hkept.backend, hkept.stopping, hkept.disabled, hkept.idle, hkept.released⟩
  · refine closing_shutdownRuntime ?_ now
    exact ⟨hkept.coherent, hkept.backend, hkept.stopping, hkept.disabled, hkept.idle, hkept.released⟩

/-- The life cycle of a port follows its runtime and does not move it, unless it starts
    something. -/
theorem stepLifecycle_resting (h : Stepped fresh p)
    (hs : p.runtime.state = .stopping ∨ p.runtime.state = .disabled) (now : CoreTick) :
    (stepLifecycle p now).runtime = p.runtime ∧
      (stepLifecycle p now).listenerOwned = p.listenerOwned := by
  have hl : p.lifecycle = .disabled ∨ p.lifecycle = .error ∨ p.lifecycle = .stopping := by
    rcases hs with hs | hs
    · exact .inr (.inr (h.stopping hs))
    · exact h.disabled hs
  unfold stepLifecycle
  rcases hl with hl | hl | hl
  · simp only [hl, and_self]
  · simp only [hl, and_self]
  · simp only [hl]
    unfold stepStop
    split
    · split <;> exact ⟨rfl, rfl⟩
    · split <;> exact ⟨rfl, rfl⟩

/-- A step leaves a closing port closing, unless its UART gives up. -/
theorem Closing.stepPort (h : Closing fresh p) (now : CoreTick)
    (hgives : ¬ StopGivesUp (listenPort p now).runtime now) :
    Closing fresh (stepPort p now) := by
  have hl := h.kept.listenPort now
  have hstepped := h.kept.pollPort now
  have hlistened : (listenPort p now).runtime.state = .stopping ∨
      (listenPort p now).runtime.state = .disabled := by
    have hp := listened_transportStep { p with schedulerSteps := increment p.schedulerSteps } now
    unfold listenPort
    generalize transportStep { p with schedulerSteps := increment p.schedulerSteps } now = p' at hp
    obtain ⟨runtime, owned, hcalls⟩ := hp
    have hk := keepsRest_listenerCalls h.kept.coherent hcalls
    rcases h.resting with hs | hs
    · exact .inl (hk.stopping.mpr hs)
    · exact .inr (hk.disabled.mpr hs)
  have hrests : (pollPort p now).runtime.state = .stopping ∨
      (pollPort p now).runtime.state = .disabled := by
    show (portRuntimeStep (listenPort p now).runtime now).state = _ ∨
      (portRuntimeStep (listenPort p now).runtime now).state = _
    rcases hlistened with hs | hs
    · cases stopStep_portRuntimeStep hs now with
      | stays heq => exact .inl ((congrArg PortControl.state heq).trans hs)
      | stopped _ _ _ _ heq => exact .inr (congrArg PortControl.state heq)
      | gaveUp hgave _ => exact absurd hgave hgives
    · have hk : KeepsRest device (listenPort p now).runtime
          (portRuntimeStep (listenPort p now).runtime now) :=
        keepsRest_portRuntimeStep hl.coherent (by rw [hs]; nofun) now
      exact .inr (hk.disabled.mpr hs)
  refine ⟨hstepped.stepLifecycle now, ?_⟩
  show (Gateway.stepLifecycle (pollPort p now) now).runtime.state = _ ∨
    (Gateway.stepLifecycle (pollPort p now) now).runtime.state = _
  rw [(stepLifecycle_resting hstepped hrests now).1]
  exact hrests

theorem Closing.lifecycle (h : Closing fresh p) :
    p.lifecycle = .disabled ∨ p.lifecycle = .error ∨ p.lifecycle = .stopping := by
  rcases h.resting with hs | hs
  · exact .inr (.inr (h.kept.stopping hs))
  · rcases h.kept.disabled hs with hl | hl
    · exact .inl hl
    · exact .inr (.inl hl)

/-- The call starts a port that is disabled. -/
def Reopens (c : GatewayController σ κ device) (index : Fin gatewayPortCount)
    (config : GatewayPortConfig) : Prop :=
  validateReplacement c index config = true ∧ config.enabled ≠ 0 ∧
    (c.ports index).lifecycle = .disabled ∧ (c.ports index).binding.backendOps.isSome

instance (c : GatewayController σ κ device) (index : Fin gatewayPortCount)
    (config : GatewayPortConfig) : Decidable (Reopens c index config) :=
  inferInstanceAs (Decidable (_ ∧ _ ∧ _ ∧ _))

/-- Without a backend nothing is started. -/
theorem reconfigureEnable_unbound (hb : p.binding.backendOps = none) (index : Fin gatewayPortCount)
    (config : GatewayPortConfig) (now : CoreTick) :
    (reconfigureEnable p index config now).2.runtime.state = .disabled ∧
      (reconfigureEnable p index config now).2.listenerOwned = p.listenerOwned := by
  have hrefused : ∀ port : PortRuntime σ κ, port.backend = none →
      portRuntimeStart port now gatewayStartTimeout = (-1, port) := by
    intro port hport
    unfold portRuntimeStart
    rw [if_pos (by simp [hport])]
  unfold reconfigureEnable
  rw [hrefused _ hb]
  exact ⟨rfl, rfl⟩

/-- A closing port that is not opened again takes no settings that move it. -/
theorem Closing.reconfigure {c : GatewayController σ κ device} {index : Fin gatewayPortCount}
    (h : Closing fresh (c.ports index)) {config : GatewayPortConfig} (now : CoreTick)
    (hvalid : validateReplacement c index config = true) (hopens : ¬ Reopens c index config) :
    (reconfigurePort (c.ports index) index config now).2.runtime.state = (c.ports index).runtime.state ∧
      (reconfigurePort (c.ports index) index config now).2.listenerOwned =
        (c.ports index).listenerOwned := by
  unfold Gateway.reconfigurePort
  split
  · exact ⟨rfl, rfl⟩
  · rename_i hguard
    have hl : (c.ports index).lifecycle = .disabled := by
      rcases h.lifecycle with hl | hl | hl
      · exact hl
      · exact absurd ⟨by rw [hl]; nofun, by rw [hl]; nofun, by rw [hl]; nofun⟩ hguard
      · exact absurd ⟨by rw [hl]; nofun, by rw [hl]; nofun, by rw [hl]; nofun⟩ hguard
    split
    · unfold Gateway.reconfigureDisable
      rw [if_pos hl]
      exact ⟨rfl, rfl⟩
    · rename_i henabled
      have hunbound : (c.ports index).binding.backendOps = none := by
        by_contra hsome
        exact hopens ⟨hvalid, henabled, hl, Option.isSome_iff_ne_none.mpr hsome⟩
      obtain ⟨hstate, howned⟩ := reconfigureEnable_unbound hunbound index config now
      exact ⟨hstate.trans (h.kept.idle hl).symm, howned⟩

/-- It takes the order to wait for the network as a note. -/
theorem Closing.networkWaitPort (h : Closing fresh p) (wait : Bool) (now : CoreTick) :
    (networkWaitPort p wait now).2.runtime = p.runtime ∧
      (networkWaitPort p wait now).2.listenerOwned = p.listenerOwned := by
  unfold Gateway.networkWaitPort
  rw [if_neg]
  · exact ⟨rfl, rfl⟩
  · rintro ⟨_, hready⟩
    have hl := h.lifecycle
    rw [hready] at hl
    simp at hl

end FourVrs.Gateway
