import FourVrs.Core.PortControl

/-!
# What the runtime does to its backend's object

Opening, stopping and reconfiguring a device are steps of their own. In all other
states the runtime does nothing to the backend's object but call `start`, `poll`,
`cancel` and `recover`, in whatever order, and so do the requests. A property of the
object those four calls keep is a property every such operation keeps.
-/

set_option autoImplicit false

namespace FourVrs.Core

variable {σ κ : Type}

/-- A call that works on an open device. -/
inductive DeviceCall (backend : CoreBackendOps σ) : σ → σ → Prop where
  | start (context : σ) (transaction : CoreTransaction) (now : CoreTick) :
      DeviceCall backend context (backend.start context transaction now).2
  | poll (context : σ) (now : CoreTick) :
      DeviceCall backend context (backend.poll context now).2.2
  | cancel (context : σ) (generation : BitVec 32) :
      DeviceCall backend context (backend.cancel context generation)
  | recover (context : σ) (now : CoreTick) :
      DeviceCall backend context (backend.recover context now).2

abbrev DeviceCalls (backend : CoreBackendOps σ) : σ → σ → Prop :=
  Relation.ReflTransGen (DeviceCall backend)

theorem context_transition (port : PortRuntime σ κ) (next : PortState) :
    (portRuntimeTransition port next).2.backendContext = port.backendContext := by
  unfold portRuntimeTransition
  split <;> rfl

theorem context_countStale (port : PortRuntime σ κ) (result : Int) (event : BackendEvent) :
    (countStale port result event).backendContext = port.backendContext := by
  unfold countStale
  split <;> rfl

theorem context_flushLoop (passes : Nat) (port : PortRuntime σ κ) :
    (flushLoop passes port).backendContext = port.backendContext := by
  induction passes generalizing port with
  | zero => rfl
  | succ passes ih =>
    unfold flushLoop
    split
    · rfl
    · exact (ih _).trans rfl

theorem context_flushQueue (port : PortRuntime σ κ) :
    (flushQueue port).backendContext = port.backendContext :=
  context_flushLoop port.queue.count port

theorem context_readyLoop (now : CoreTick) (passes : Nat) (port : PortRuntime σ κ) :
    (readyLoop now passes port).backendContext = port.backendContext := by
  induction passes generalizing port with
  | zero => rfl
  | succ passes ih =>
    unfold readyLoop
    split
    · rfl
    · split
      · exact (ih _).trans rfl
      · exact context_transition _ _

variable {backend : CoreBackendOps σ}

variable {port : PortRuntime σ κ}

theorem deviceCalls_backendCancel {context : σ} (hb : port.backend = some backend)
    (hcontext : port.backendContext = context) (generation : BitVec 32) :
    DeviceCalls backend context (backendCancel port generation).backendContext := by
  subst hcontext
  unfold backendCancel
  rw [hb]
  exact .single (.cancel _ generation)

theorem deviceCalls_beginRecovery {context : σ} (hb : port.backend = some backend)
    (hcontext : port.backendContext = context) (now : CoreTick) (error : String) :
    DeviceCalls backend context (beginRecovery port now error).backendContext := by
  subst hcontext
  unfold beginRecovery
  rw [context_transition]
  show DeviceCalls backend _ (abandonActive port).backendContext
  unfold abandonActive
  split
  · exact deviceCalls_backendCancel (by exact hb) (by rfl) _
  · exact .refl

theorem deviceCalls_abortActive (hb : port.backend = some backend) :
    DeviceCalls backend port.backendContext (abortActive port).backendContext :=
  deviceCalls_backendCancel hb rfl port.active.generation

theorem deviceCalls_cancelAll (hb : port.backend = some backend) :
    DeviceCalls backend port.backendContext (cancelAll port).backendContext := by
  unfold cancelAll
  rw [context_flushQueue]
  split
  · exact deviceCalls_abortActive hb
  · exact .refl

theorem deviceCalls_stepActive (hb : port.backend = some backend) (now : CoreTick) :
    DeviceCalls backend port.backendContext (stepActive backend port now).backendContext := by
  have hstart : DeviceCall backend port.backendContext
      (backend.start port.backendContext port.active now).2 := .start _ _ _
  unfold stepActive
  split <;> rename_i heq <;> rw [heq] at hstart
  · rw [context_transition]
    exact .single hstart
  · exact .trans (.single hstart) (deviceCalls_beginRecovery (by exact hb) (by rfl) now _)

theorem deviceCalls_handleEvent {context : σ} (hb : port.backend = some backend)
    (hcontext : port.backendContext = context) (event : BackendEvent) (now : CoreTick) :
    DeviceCalls backend context (handleEvent port event now).backendContext := by
  subst hcontext
  unfold handleEvent
  split
  · exact .refl
  · rw [context_transition]
    exact .refl
  · exact deviceCalls_beginRecovery (by exact hb) (by rfl) now _
  · exact deviceCalls_beginRecovery (by exact hb) (by rfl) now _

theorem deviceCalls_afterPoll {context : σ} (hb : port.backend = some backend)
    (hcontext : port.backendContext = context) (result : Int) (event : BackendEvent) (now : CoreTick) :
    DeviceCalls backend context (afterPoll port result event now).backendContext := by
  subst hcontext
  unfold afterPoll
  split
  · split
    · exact .refl
    · exact deviceCalls_handleEvent hb rfl event now
  · split
    · exact deviceCalls_beginRecovery (by exact hb) (by rfl) now _
    · exact .refl

theorem deviceCalls_stepWaiting (hb : port.backend = some backend) (now : CoreTick) :
    DeviceCalls backend port.backendContext (stepWaiting backend port now).backendContext := by
  have hpoll : DeviceCall backend port.backendContext
      (backend.poll port.backendContext now).2.2 := .poll _ _
  unfold stepWaiting
  split
  rename_i result event context heq
  rw [heq] at hpoll
  refine .trans (.single hpoll) ?_
  exact deviceCalls_afterPoll (by exact hb) (by rfl) result event now

/-- A recovering port polls and perhaps recovers, and is ready only after that has
    worked. -/
theorem stepRecovering_device (backend : CoreBackendOps σ) (h : port.state = .recovering) (now : CoreTick) :
    DeviceCalls backend port.backendContext (stepRecovering backend port now).backendContext ∧
      ((stepRecovering backend port now).state = .ready →
        ∃ context, (backend.recover context now).1 = 0 ∧
          DeviceCalls backend port.backendContext context ∧
          (stepRecovering backend port now).backendContext = (backend.recover context now).2) := by
  have hpoll : DeviceCall backend port.backendContext
      (backend.poll port.backendContext now).2.2 := .poll _ _
  unfold stepRecovering
  split
  rename_i result event context heq
  rw [heq] at hpoll
  have hcontext := context_countStale { port with backendContext := context } result event
  have hstate : (countStale { port with backendContext := context } result event).state =
      .recovering :=
    (congrArg PortControl.state (control_countStale { port with backendContext := context } result
      event)).trans h
  split
  · unfold recoverNow
    rw [hcontext]
    have hrecover : DeviceCall backend context (backend.recover context now).2 := .recover _ _
    split <;> rename_i heq' <;> rw [heq'] at hrecover
    · rw [context_transition]
      refine ⟨.trans (.single hpoll) (.single hrecover), fun _ => ⟨context, ?_, .single hpoll, ?_⟩⟩
      · rw [heq']
      · rw [heq']
        rfl
    · refine ⟨.trans (.single hpoll) ?_, ?_⟩
      · unfold recoverFailed
        split
        · rw [context_transition]
          exact .single hrecover
        · exact .single hrecover
      · intro hready
        exfalso
        unfold recoverFailed at hready
        split at hready
        · rw [portRuntimeTransition_of_allowed (by exact hstate) rfl] at hready
          exact absurd hready (by simp)
        · exact absurd (hstate.symm.trans hready) (by simp)
  · refine ⟨?_, fun hready => ?_⟩
    · rw [hcontext]
      exact .single hpoll
    · rw [hstate] at hready
      exact absurd hready (by simp)

/-- Out of the states that open, reconfigure or stop the device, a step only uses it. -/
theorem deviceCalls_portRuntimeStep (hb : port.backend = some backend) (hstarting : port.state ≠ .starting)
    (hreconfiguring : port.state ≠ .reconfiguring) (hstopping : port.state ≠ .stopping) (now : CoreTick) :
    DeviceCalls backend port.backendContext (portRuntimeStep port now).backendContext := by
  unfold portRuntimeStep
  simp only [hb]
  split
  · exact absurd ‹_› hstarting
  · rw [context_readyLoop]
  · exact deviceCalls_stepActive hb now
  · exact deviceCalls_stepWaiting hb now
  · exact (stepRecovering_device backend ‹_› now).1
  · exact absurd ‹_› hreconfiguring
  · exact absurd ‹_› hstopping
  · exact .refl
  · exact .refl
  · exact .refl

/-! ## Opening, reconfiguring, stopping -/

/-- Either the device opens, or the port stays or begins to recover. -/
theorem stepStarting_device (hb : port.backend = some backend) (h : port.state = .starting) (now : CoreTick) :
    (backend.open port.backendContext now).1 = 0 ∧
        (stepStarting backend port now).control = { port.control with state := .ready } ∧
        (stepStarting backend port now).backendContext =
          (backend.open port.backendContext now).2 ∨
      (backend.open port.backendContext now).1 ≠ 0 ∧
        ((stepStarting backend port now).control = port.control ∨
          (stepStarting backend port now).control =
            { port.control with state := .recovering, hasActive := false }) ∧
        DeviceCalls backend (backend.open port.backendContext now).2
          (stepStarting backend port now).backendContext := by
  unfold stepStarting
  split <;> rename_i heq
  · rw [context_transition, control_transition (by exact h) rfl]
    exact .inl ⟨by rw [heq], rfl, by rw [heq]⟩
  · rename_i hne
    rw [heq]
    refine .inr ⟨hne, ?_⟩
    split
    · rw [control_beginRecovery (by exact h) rfl]
      exact ⟨.inr rfl, deviceCalls_beginRecovery (by exact hb) (by rfl) now _⟩
    · exact ⟨.inl rfl, .refl⟩

theorem fallBack_device (backend : CoreBackendOps σ) {port before : PortRuntime σ κ}
    (hcontrol : port.control = before.control) (h : before.state = .reconfiguring)
    (now : CoreTick) (success failure : PortRuntime σ κ → PortRuntime σ κ)
    (hsuccess : ∀ p, (success p).control = p.control ∧ (success p).backendContext = p.backendContext)
    (hfailure : ∀ p, (failure p).control = p.control ∧ (failure p).backendContext = p.backendContext) :
    (fallBack backend port now success failure).control =
        { before.control with
          state :=
            if (backend.reconfigure port.backendContext before.knownGoodConfig now).1 = 0 then .ready
            else .error } ∧
      (fallBack backend port now success failure).backendContext =
        (backend.reconfigure port.backendContext before.knownGoodConfig now).2 := by
  have hgood : port.knownGoodConfig = before.knownGoodConfig :=
    congrArg PortControl.knownGoodConfig hcontrol
  have hstate : port.state = .reconfiguring := (congrArg PortControl.state hcontrol).trans h
  rw [← hgood]
  unfold fallBack
  split
  · rename_i context heq
    obtain ⟨hkept, hcontext⟩ := hsuccess { port with backendContext := context }
    rw [context_transition,
      control_transition (by exact (congrArg PortControl.state hkept).trans hstate) rfl, heq,
      if_pos rfl]
    refine ⟨?_, hcontext⟩
    rw [control_tally, hkept, ← hcontrol]
    rfl
  · rename_i context hne heq
    obtain ⟨hkept, hcontext⟩ := hfailure { port with backendContext := context }
    rw [context_transition,
      control_transition (by exact (congrArg PortControl.state hkept).trans hstate) rfl, heq,
      if_neg hne]
    refine ⟨?_, hcontext⟩
    rw [hkept, ← hcontrol]
    rfl

/-- Either the device takes the staged settings, or it is asked to take the known-good
    ones, and whether it does decides the state. -/
theorem stepReconfiguring_device (backend : CoreBackendOps σ) (h : port.state = .reconfiguring)
    (now : CoreTick) :
    (backend.reconfigure port.backendContext port.stagedConfig now).1 = 0 ∧
        (stepReconfiguring backend port now).control =
          { port.control with
            state := .ready, currentConfig := port.stagedConfig
            knownGoodConfig := port.stagedConfig } ∧
        (stepReconfiguring backend port now).backendContext =
          (backend.reconfigure port.backendContext port.stagedConfig now).2 ∨
      ∃ context,
        (context = port.backendContext ∨
          (backend.reconfigure port.backendContext port.stagedConfig now).1 ≠ 0 ∧
            context = (backend.reconfigure port.backendContext port.stagedConfig now).2) ∧
        (stepReconfiguring backend port now).control =
          { port.control with
            state :=
              if (backend.reconfigure context port.knownGoodConfig now).1 = 0 then .ready
              else .error } ∧
        (stepReconfiguring backend port now).backendContext =
          (backend.reconfigure context port.knownGoodConfig now).2 := by
  unfold stepReconfiguring
  split
  · refine .inr ⟨port.backendContext, .inl rfl, ?_⟩
    exact fallBack_device backend (by rfl) h now id id (fun _ => ⟨rfl, rfl⟩) fun _ => ⟨rfl, rfl⟩
  split
  · rename_i context heq
    rw [context_transition, control_transition (by exact h) rfl]
    exact .inl ⟨by rw [heq], rfl, by rw [heq]; rfl⟩
  · rename_i context hne heq
    refine .inr ⟨context, .inr ⟨by rw [heq]; exact hne, by rw [heq]⟩, ?_⟩
    exact fallBack_device backend (by rfl) h now _ _ (fun _ => ⟨rfl, rfl⟩) fun _ => ⟨rfl, rfl⟩

theorem stepStopping_device (backend : CoreBackendOps σ) (h : port.state = .stopping) (now : CoreTick) :
    (stepStopping backend port now).backendContext = (backend.stop port.backendContext now).2 ∧
      ((backend.stop port.backendContext now).1 = 0 ∧
          (stepStopping backend port now).control = { port.control with state := .disabled } ∨
        (stepStopping backend port now).control = port.control ∨
        (stepStopping backend port now).control = { port.control with state := .error }) := by
  unfold stepStopping
  split <;> rename_i heq
  · rw [context_transition, control_transition (by exact h) rfl]
    exact ⟨by rw [heq], .inl ⟨by rw [heq], rfl⟩⟩
  split
  · rw [context_transition, control_transition (by exact h) rfl]
    exact ⟨by rw [heq]; rfl, .inr (.inr rfl)⟩
  · exact ⟨by rw [heq], .inr (.inl rfl)⟩

/-! ## Requests -/

theorem context_portRuntimeStart (port : PortRuntime σ κ) (now startTimeout : CoreTick) :
    (portRuntimeStart port now startTimeout).2.backendContext = port.backendContext := by
  have hkept := context_transition port .starting
  unfold portRuntimeStart
  split
  · rfl
  · split <;> rename_i heq <;> rw [heq] at hkept <;> exact hkept

theorem context_portRuntimeSubmitOperation (port : PortRuntime σ κ) (r : SubmitRequest) :
    (portRuntimeSubmitOperation port r).2.2.backendContext = port.backendContext := by
  unfold portRuntimeSubmitOperation enqueue
  split
  · rfl
  · split <;> first | rfl | (split <;> rfl)

theorem deviceCalls_portRuntimeReportIoFailure (hb : port.backend = some backend) (now : CoreTick)
    (message : String) :
    DeviceCalls backend port.backendContext
      (portRuntimeReportIoFailure port now message).2.backendContext := by
  unfold portRuntimeReportIoFailure
  split
  · exact .refl
  · exact deviceCalls_beginRecovery (by exact hb) (by rfl) now message

theorem deviceCalls_portRuntimeCancelActive (hb : port.backend = some backend) (now : CoreTick) :
    DeviceCalls backend port.backendContext
      (portRuntimeCancelActive port now).2.backendContext := by
  unfold portRuntimeCancelActive
  split
  · exact .refl
  · rw [context_transition]
    exact deviceCalls_backendCancel (by exact hb) (by rfl) _

theorem deviceCalls_portRuntimeDetachListener (hb : port.backend = some backend) (now : CoreTick) :
    DeviceCalls backend port.backendContext
      (portRuntimeDetachListener port now).2.backendContext := by
  have hflushed : (flushQueue port).backend = some backend :=
    (congrArg PortControl.backend (control_flushQueue port)).trans hb
  unfold portRuntimeDetachListener
  split
  · rw [← context_flushQueue port]
    exact deviceCalls_portRuntimeCancelActive hflushed now
  · rw [context_flushQueue]

theorem deviceCalls_portRuntimeRequestReconfigure (hb : port.backend = some backend) (config : CorePortConfig)
    (now timeout : CoreTick) :
    DeviceCalls backend port.backendContext
      (portRuntimeRequestReconfigure port config now timeout).2.backendContext := by
  unfold portRuntimeRequestReconfigure
  split
  · exact .refl
  · split <;> first
      | exact .refl
      | (rw [context_transition]; exact deviceCalls_cancelAll hb)

theorem deviceCalls_portRuntimeRequestStop (hb : port.backend = some backend) (now timeout : CoreTick) :
    DeviceCalls backend port.backendContext
      (portRuntimeRequestStop port now timeout).2.backendContext := by
  unfold portRuntimeRequestStop
  split
  · exact .refl
  · rw [context_transition]
    exact deviceCalls_cancelAll hb

end FourVrs.Core
