import FourVrs.Core.PortRuntime
import Mathlib.Logic.Relation

/-!
# The control part of the port runtime

Most functions of the runtime touch a few fields and leave the rest alone. The
fields a state machine is about — the state, whether a transaction is active, the
three configurations — are gathered in `PortControl`, together with the two
pointers no operation but `port_runtime_set_completion` writes. `ControlStep` is
then the whole of what one call of `port_runtime_step` can do to them, and
`control_portRuntimeStep` proves it once: invariants about the states and the
configurations are read off the relation instead of the code.
-/

set_option autoImplicit false

namespace FourVrs.Core

structure PortControl (σ κ : Type) where
  state : PortState
  hasActive : Bool
  currentConfig : CorePortConfig
  stagedConfig : CorePortConfig
  knownGoodConfig : CorePortConfig
  backend : Option (CoreBackendOps σ)
  completion : Option (CoreCompletionFn κ)

variable {σ κ : Type}

def PortRuntime.control (port : PortRuntime σ κ) : PortControl σ κ where
  state := port.state
  hasActive := port.hasActive
  currentConfig := port.currentConfig
  stagedConfig := port.stagedConfig
  knownGoodConfig := port.knownGoodConfig
  backend := port.backend
  completion := port.completion

/-! ## The helpers -/

@[simp] theorem control_tally (port : PortRuntime σ κ) (f : PortStatistics → PortStatistics) :
    (port.tally f).control = port.control := rfl

@[simp] theorem control_updateDepth (port : PortRuntime σ κ) :
    (updateDepth port).control = port.control := rfl

@[simp] theorem control_abortActive (port : PortRuntime σ κ) :
    (abortActive port).control = { port.control with hasActive := false } := rfl

@[simp] theorem control_expireQueued (port : PortRuntime σ κ) (transaction : CoreTransaction) :
    (expireQueued port transaction).control = { port.control with hasActive := false } := rfl

@[simp] theorem control_flushLoop (passes : Nat) (port : PortRuntime σ κ) :
    (flushLoop passes port).control = port.control := by
  induction passes generalizing port with
  | zero => rfl
  | succ passes ih =>
    unfold flushLoop
    split
    · rfl
    · rw [ih]; rfl

@[simp] theorem control_flushQueue (port : PortRuntime σ κ) :
    (flushQueue port).control = port.control := by
  rw [flushQueue, control_updateDepth, control_flushLoop]

@[simp] theorem control_countStale (port : PortRuntime σ κ) (result : Int)
    (event : BackendEvent) : (countStale port result event).control = port.control := by
  unfold countStale
  split <;> rfl

variable {port : PortRuntime σ κ}

theorem portRuntimeTransition_of_allowed {state next : PortState} (hstate : port.state = state)
    (h : transitionAllowed state next = true) :
    portRuntimeTransition port next = (0, { port with state := next }) :=
  if_pos (by rw [hstate]; exact h)

theorem control_transition {state next : PortState} (hstate : port.state = state)
    (h : transitionAllowed state next = true) :
    (portRuntimeTransition port next).2.control = { port.control with state := next } := by
  rw [portRuntimeTransition_of_allowed hstate h]
  rfl

theorem control_abandonActive (port : PortRuntime σ κ) :
    (abandonActive port).control = { port.control with hasActive := false } := by
  unfold abandonActive
  split
  · rfl
  · rename_i hactive
    simp [PortRuntime.control, hactive]

theorem control_beginRecovery {now : CoreTick} {error : String} {state : PortState}
    (hstate : port.state = state) (h : transitionAllowed state .recovering = true) :
    (beginRecovery port now error).control =
      { port.control with state := .recovering, hasActive := false } := by
  have hkept : (abandonActive port).state = state :=
    (congrArg PortControl.state (control_abandonActive port)).trans hstate
  unfold beginRecovery
  rw [control_transition (by exact hkept) h]
  show { (abandonActive port).control with state := PortState.recovering } = _
  rw [control_abandonActive]

theorem control_activate (h : port.state = .ready) (transaction : CoreTransaction) (now : CoreTick) :
    (activate port transaction now).control =
      { port.control with state := .active, hasActive := true } := by
  unfold activate
  rw [control_transition (by exact h) rfl]
  rfl

theorem control_cancelAll (port : PortRuntime σ κ) :
    (cancelAll port).control = { port.control with hasActive := false } := by
  unfold cancelAll
  rw [control_flushQueue]
  split
  · rfl
  · rename_i hactive
    simp [PortRuntime.control, hactive]

/-! ## One call of `port_runtime_step` -/

/-- What `port_runtime_step` can do to the control part. -/
inductive ControlStep : PortControl σ κ → PortControl σ κ → Prop where
  | stay (c : PortControl σ κ) : ControlStep c c
  | opened (c : PortControl σ κ) (h : c.state = .starting) : ControlStep c { c with state := .ready }
  | lost (c : PortControl σ κ) (h : c.state = .starting ∨ c.state = .active ∨ c.state = .waiting) :
      ControlStep c { c with state := .recovering, hasActive := false }
  | activated (c : PortControl σ κ) (h : c.state = .ready) :
      ControlStep c { c with state := .active, hasActive := true }
  | started (c : PortControl σ κ) (h : c.state = .active) : ControlStep c { c with state := .waiting }
  | completed (c : PortControl σ κ) (h : c.state = .waiting) :
      ControlStep c { c with state := .ready, hasActive := false }
  | recovered (c : PortControl σ κ) (h : c.state = .recovering) :
      ControlStep c { c with state := .ready }
  | gaveUp (c : PortControl σ κ) (h : c.state = .recovering) :
      ControlStep c { c with state := .degraded }
  | reconfigured (c : PortControl σ κ) (h : c.state = .reconfiguring) :
      ControlStep c
        { c with
          state := .ready, currentConfig := c.stagedConfig, knownGoodConfig := c.stagedConfig }
  | fellBack (c : PortControl σ κ) (h : c.state = .reconfiguring) :
      ControlStep c { c with state := .ready }
  | failed (c : PortControl σ κ) (h : c.state = .reconfiguring ∨ c.state = .stopping) :
      ControlStep c { c with state := .error }
  | stopped (c : PortControl σ κ) (h : c.state = .stopping) :
      ControlStep c { c with state := .disabled }

variable (backend : CoreBackendOps σ)

theorem controlStep_stepStarting (h : port.state = .starting) (now : CoreTick) :
    ControlStep port.control (stepStarting backend port now).control := by
  unfold stepStarting
  split
  · rw [control_transition (by exact h) rfl]
    exact .opened _ h
  split
  · rw [control_beginRecovery (by exact h) rfl]
    exact .lost _ (.inl h)
  · exact .stay _

theorem controlStep_readyLoop (h : port.state = .ready) (hidle : port.hasActive = false) (now : CoreTick)
    (passes : Nat) :
    ControlStep port.control (readyLoop now passes port).control := by
  induction passes generalizing port with
  | zero => exact .stay _
  | succ passes ih =>
    unfold readyLoop
    split
    · exact .stay _
    rename_i transaction queue hpop
    split
    · -- an expired entry leaves the control part as it was
      have hsame : (expireQueued (updateDepth { port with queue := queue }) transaction).control =
          port.control := by
        rw [control_expireQueued]
        simp [PortRuntime.control, updateDepth, PortRuntime.tally, hidle]
      rw [← hsame]
      exact ih (by exact h) rfl
    · rw [control_activate (by exact h)]
      exact .activated _ h

theorem controlStep_stepActive (h : port.state = .active) (now : CoreTick) :
    ControlStep port.control (stepActive backend port now).control := by
  unfold stepActive
  split
  · rw [control_transition (by exact h) rfl]
    exact .started _ h
  · rw [control_beginRecovery (by exact h) rfl]
    exact .lost _ (.inr (.inl h))

theorem controlStep_handleEvent (h : port.state = .waiting) (event : BackendEvent) (now : CoreTick) :
    ControlStep port.control (handleEvent port event now).control := by
  unfold handleEvent
  split
  · exact .stay _
  · rw [control_transition (by exact h) rfl]
    exact .completed _ h
  · rw [control_beginRecovery (by exact h) rfl]
    exact .lost _ (.inr (.inr h))
  · rw [control_beginRecovery (by exact h) rfl]
    exact .lost _ (.inr (.inr h))

theorem controlStep_afterPoll (port : PortRuntime σ κ) (h : port.state = .waiting)
    (result : Int) (event : BackendEvent) (now : CoreTick) :
    ControlStep port.control (afterPoll port result event now).control := by
  unfold afterPoll
  split
  · split
    · exact .stay _
    · exact controlStep_handleEvent h _ _
  split
  · rw [control_beginRecovery (by exact h) rfl]
    exact .lost _ (.inr (.inr h))
  · exact .stay _

theorem controlStep_recoverNow (h : port.state = .recovering) (now : CoreTick) :
    ControlStep port.control (recoverNow backend port now).control := by
  unfold recoverNow
  split
  · rw [control_transition (by exact h) rfl]
    exact .recovered _ h
  · unfold recoverFailed
    split
    · rw [control_transition (by exact h) rfl]
      exact .gaveUp _ h
    · exact .stay _

theorem controlStep_stepRecovering (h : port.state = .recovering) (now : CoreTick) :
    ControlStep port.control (stepRecovering backend port now).control := by
  unfold stepRecovering
  split
  rename_i result event context _
  have hcount := control_countStale { port with backendContext := context } result event
  have hrecovering : (countStale { port with backendContext := context } result event).state =
      .recovering := (congrArg PortControl.state hcount).trans h
  rw [show port.control = _ from hcount.symm]
  split
  · exact controlStep_recoverNow backend hrecovering now
  · exact .stay _

theorem control_fallBack (port : PortRuntime σ κ) (h : port.state = .reconfiguring) (now : CoreTick)
    (success failure : PortRuntime σ κ → PortRuntime σ κ) (hsuccess : ∀ p, (success p).control = p.control)
    (hfailure : ∀ p, (failure p).control = p.control) :
    (backend.reconfigure port.backendContext port.knownGoodConfig now).1 = 0 ∧
        (fallBack backend port now success failure).control =
          { port.control with state := .ready } ∨
      (fallBack backend port now success failure).control = { port.control with state := .error } := by
  unfold fallBack
  split
  · rename_i context hresult
    have hkept := hsuccess { port with backendContext := context }
    refine .inl ⟨by rw [hresult], ?_⟩
    rw [control_transition (by exact (congrArg PortControl.state hkept).trans h) rfl,
      control_tally, hkept]
    rfl
  · rename_i context _ _
    have hkept := hfailure { port with backendContext := context }
    refine .inr ?_
    rw [control_transition (by exact (congrArg PortControl.state hkept).trans h) rfl, hkept]
    rfl

/-- The backend's answers make a reconfiguring port fall back to its known-good
    settings: it refuses the staged ones, or the deadline has passed, and takes the
    known-good ones. -/
def fallsBack (backend : CoreBackendOps σ) (port : PortRuntime σ κ) (now : CoreTick) : Bool :=
  if coreDeadlineExpired port.stateDeadline now then
    decide ((backend.reconfigure port.backendContext port.knownGoodConfig now).1 = 0)
  else
    let staged := backend.reconfigure port.backendContext port.stagedConfig now
    decide (staged.1 ≠ 0) &&
      decide ((backend.reconfigure staged.2 port.knownGoodConfig now).1 = 0)

/-- A reconfiguring port takes the staged settings, keeps the known-good ones or
    fails. -/
theorem control_stepReconfiguring (h : port.state = .reconfiguring) (now : CoreTick) :
    (stepReconfiguring backend port now).control =
        { port.control with
          state := .ready, currentConfig := port.stagedConfig
          knownGoodConfig := port.stagedConfig } ∨
      fallsBack backend port now = true ∧
        (stepReconfiguring backend port now).control = { port.control with state := .ready } ∨
      (stepReconfiguring backend port now).control = { port.control with state := .error } := by
  unfold stepReconfiguring fallsBack
  split
  · refine .inr ?_
    rw [decide_eq_true_eq]
    exact control_fallBack backend (setError port "reconfigure timeout") h now id id
      (fun _ => rfl) (fun _ => rfl)
  split
  · rw [control_transition (by exact h) rfl]
    exact .inl rfl
  · rename_i result context hrefused hresult
    refine .inr ?_
    simp only [hresult, Bool.and_eq_true, decide_eq_true_eq]
    rcases control_fallBack backend { port with backendContext := context } h now
      (setError · "reconfigure rolled back") (setError · "rollback failed") (fun _ => rfl)
      (fun _ => rfl) with
      ⟨htaken, heq⟩ | heq
    · exact .inl ⟨⟨hrefused, htaken⟩, heq⟩
    · exact .inr heq

theorem controlStep_stepReconfiguring (h : port.state = .reconfiguring) (now : CoreTick) :
    ControlStep port.control (stepReconfiguring backend port now).control := by
  rcases control_stepReconfiguring backend h now with heq | ⟨_, heq⟩ | heq
  · rw [heq]
    exact .reconfigured _ h
  · rw [heq]
    exact .fellBack _ h
  · rw [heq]
    exact .failed _ (.inl h)

theorem controlStep_stepStopping (h : port.state = .stopping) (now : CoreTick) :
    ControlStep port.control (stepStopping backend port now).control := by
  unfold stepStopping
  split
  · rw [control_transition (by exact h) rfl]
    exact .stopped _ h
  split
  · rw [control_transition (by exact h) rfl]
    exact .failed _ (.inr h)
  · exact .stay _

/-! ## The representation invariant -/

def PortState.busy : PortState → Bool
  | .active | .waiting => true
  | _ => false

/-- What every port satisfies between calls. -/
structure PortControl.Coherent (c : PortControl σ κ) : Prop where
  /-- A transaction is active exactly in the two states that are about one. -/
  busy : c.hasActive = c.state.busy
  /-- The settings to fall back to are the ones in force. -/
  knownGood : c.knownGoodConfig = c.currentConfig

abbrev PortRuntime.Coherent (port : PortRuntime σ κ) : Prop := port.control.Coherent

theorem PortRuntime.Coherent.hasActive_of_state (h : port.Coherent) {state : PortState}
    (hs : port.state = state) : port.hasActive = state.busy := by
  rw [← hs]
  exact h.busy

theorem PortRuntime.Coherent.active_or_waiting (h : port.Coherent) (hactive : port.hasActive = true) :
    port.state = .active ∨ port.state = .waiting := by
  have hbusy : port.state.busy = true := h.busy.symm.trans hactive
  cases hs : port.state <;> simp [hs, PortState.busy] at hbusy ⊢

theorem ControlStep.coherent {c c' : PortControl σ κ} (hstep : ControlStep c c')
    (h : c.Coherent) : c'.Coherent := by
  obtain ⟨hbusy, hknown⟩ := h
  cases hstep with
  | stay => exact ⟨hbusy, hknown⟩
  | opened hs => exact ⟨by rw [hs] at hbusy; exact hbusy, hknown⟩
  | lost hs | activated hs => exact ⟨rfl, hknown⟩
  | started hs => exact ⟨by rw [hs] at hbusy; exact hbusy, hknown⟩
  | completed hs => exact ⟨rfl, hknown⟩
  | recovered hs | gaveUp hs => exact ⟨by rw [hs] at hbusy; exact hbusy, hknown⟩
  | reconfigured hs => exact ⟨by rw [hs] at hbusy; exact hbusy, rfl⟩
  | fellBack hs => exact ⟨by rw [hs] at hbusy; exact hbusy, hknown⟩
  | failed hs => exact ⟨by rcases hs with hs | hs <;> (rw [hs] at hbusy; exact hbusy), hknown⟩
  | stopped hs => exact ⟨by rw [hs] at hbusy; exact hbusy, hknown⟩

theorem ControlStep.completion_eq {c c' : PortControl σ κ} (hstep : ControlStep c c') :
    c'.completion = c.completion := by
  cases hstep <;> rfl

/-- **One step of the runtime is one step of the control automaton.** -/
theorem control_portRuntimeStep (h : port.Coherent) (now : CoreTick) :
    ControlStep port.control (portRuntimeStep port now).control := by
  unfold portRuntimeStep
  split
  · exact .stay _
  rename_i backend _
  split
  · exact controlStep_stepStarting backend ‹_› now
  · exact controlStep_readyLoop ‹_› (h.hasActive_of_state ‹_›) now _
  · exact controlStep_stepActive backend ‹_› now
  · unfold stepWaiting
    split
    rename_i result event context _
    exact controlStep_afterPoll { port with backendContext := context } ‹_› _ _ now
  · exact controlStep_stepRecovering backend ‹_› now
  · exact controlStep_stepReconfiguring backend ‹_› now
  · exact controlStep_stepStopping backend ‹_› now
  · exact .stay _
  · exact .stay _
  · exact .stay _

/-! ## Requests

Each request either is refused and leaves the control part alone, or has one
outcome. -/

theorem portRuntimeStart_cases (port : PortRuntime σ κ) (now startTimeout : CoreTick) :
    (portRuntimeStart port now startTimeout).1 = -1 ∧
        (portRuntimeStart port now startTimeout).2.control = port.control ∨
      (port.state = .disabled ∨ port.state = .error) ∧
        (portRuntimeStart port now startTimeout).1 = 0 ∧
        (portRuntimeStart port now startTimeout).2.control =
          { port.control with state := .starting } := by
  unfold portRuntimeStart
  split
  · exact .inl ⟨rfl, rfl⟩
  · unfold portRuntimeTransition
    by_cases hallowed : transitionAllowed port.state .starting = true
    · rw [if_pos hallowed]
      refine .inr ⟨?_, rfl, rfl⟩
      cases hs : port.state <;> simp [hs, transitionAllowed] at hallowed ⊢
    · rw [if_neg hallowed]
      exact .inl ⟨rfl, rfl⟩

theorem control_enqueue (port : PortRuntime σ κ) (r : SubmitRequest) :
    (enqueue port r).2.2.control = port.control := by
  unfold enqueue
  split <;> rfl

@[simp] theorem control_portRuntimeSubmitOperation (port : PortRuntime σ κ) (r : SubmitRequest) :
    (portRuntimeSubmitOperation port r).2.2.control = port.control := by
  unfold portRuntimeSubmitOperation
  split
  · rfl
  · split <;> first | rfl | exact control_enqueue port r

theorem control_portRuntimeReportIoFailure (port : PortRuntime σ κ) (now : CoreTick)
    (message : String) :
    (portRuntimeReportIoFailure port now message).2.control = port.control ∨
      port.state = .ready ∧
        (portRuntimeReportIoFailure port now message).2.control =
          { port.control with state := .recovering, hasActive := false } := by
  unfold portRuntimeReportIoFailure
  split
  · exact .inl rfl
  · rename_i hguard
    have hready : port.state = .ready := by
      by_contra hne
      exact hguard (by simp [hne])
    exact .inr ⟨hready, control_beginRecovery (by exact hready) rfl⟩

theorem control_abort_recovering {state : PortState} {attempts : Nat} {deadline : CoreDeadline}
    (hstate : port.state = state) (h : transitionAllowed state .recovering = true) :
    (portRuntimeTransition
      { abortActive port with recoveryAttempts := attempts, stateDeadline := deadline }
      .recovering).2.control = { port.control with state := .recovering, hasActive := false } := by
  have hkept : (abortActive port).state = state := hstate
  rw [control_transition (by exact hkept) h]
  show { (abortActive port).control with state := PortState.recovering } = _
  rw [control_abortActive]

theorem control_portRuntimeCancelActive (h : port.Coherent) (now : CoreTick) :
    (portRuntimeCancelActive port now).2.control = port.control ∨
      (port.state = .active ∨ port.state = .waiting) ∧
        (portRuntimeCancelActive port now).2.control =
          { port.control with state := .recovering, hasActive := false } := by
  unfold portRuntimeCancelActive
  split
  · exact .inl rfl
  · rename_i hactive
    have hstate := h.active_or_waiting (by simpa using hactive)
    refine .inr ⟨hstate, ?_⟩
    rcases hstate with hs | hs
    · rw [control_abort_recovering (by exact hs) rfl]
      rfl
    · rw [control_abort_recovering (by exact hs) rfl]
      rfl

theorem control_portRuntimeDetachListener (h : port.Coherent) (now : CoreTick) :
    (portRuntimeDetachListener port now).2.control = port.control ∨
      (port.state = .active ∨ port.state = .waiting) ∧
        (portRuntimeDetachListener port now).2.control =
          { port.control with state := .recovering, hasActive := false } := by
  have hflush := control_flushQueue port
  have hcoherent : (flushQueue port).Coherent := by
    unfold PortRuntime.Coherent
    rw [hflush]
    exact h
  have hstate : (flushQueue port).state = port.state := congrArg PortControl.state hflush
  unfold portRuntimeDetachListener
  split
  · have hcancel := control_portRuntimeCancelActive hcoherent now
    rw [hflush, hstate] at hcancel
    exact hcancel
  · exact .inl hflush

theorem portRuntimeRequestReconfigure_cases (port : PortRuntime σ κ) (config : CorePortConfig)
    (now timeout : CoreTick) :
    portRuntimeRequestReconfigure port config now timeout = (-1, port) ∨
      (portRuntimeRequestReconfigure port config now timeout).1 = 0 ∧
        (portRuntimeRequestReconfigure port config now timeout).2.control =
          { port.control with
            state := .reconfiguring, hasActive := false
            knownGoodConfig := port.currentConfig, stagedConfig := config } := by
  have hcancel := control_cancelAll port
  have hstate : (cancelAll port).state = port.state := congrArg PortControl.state hcancel
  have haccept : transitionAllowed port.state .reconfiguring = true →
      (portRuntimeTransition
        { cancelAll port with
          knownGoodConfig := port.currentConfig
          stagedConfig := config
          stateDeadline := coreDeadlineAfter now timeout } .reconfiguring).1 = 0 ∧
      (portRuntimeTransition
        { cancelAll port with
          knownGoodConfig := port.currentConfig
          stagedConfig := config
          stateDeadline := coreDeadlineAfter now timeout } .reconfiguring).2.control =
        { port.control with
          state := .reconfiguring, hasActive := false
          knownGoodConfig := port.currentConfig, stagedConfig := config } := by
    intro hallowed
    rw [portRuntimeTransition_of_allowed (by exact hstate) hallowed]
    refine ⟨rfl, ?_⟩
    show { (cancelAll port).control with
      state := PortState.reconfiguring
      knownGoodConfig := port.currentConfig
      stagedConfig := config } = _
    rw [hcancel]
  unfold portRuntimeRequestReconfigure
  split
  · exact .inl rfl
  split
  all_goals first
    | exact .inl rfl
    | exact .inr (haccept (by rw [‹port.state = _›]; rfl))

theorem portRuntimeRequestStop_cases (port : PortRuntime σ κ) (now timeout : CoreTick) :
    portRuntimeRequestStop port now timeout = (-1, port) ∨
      (port.state ≠ .disabled ∧ port.state ≠ .stopping) ∧
        (portRuntimeRequestStop port now timeout).1 = 0 ∧
        (portRuntimeRequestStop port now timeout).2.control =
          { port.control with state := .stopping, hasActive := false } := by
  have hcancel := control_cancelAll port
  have hstate : (cancelAll port).state = port.state := congrArg PortControl.state hcancel
  unfold portRuntimeRequestStop
  split
  · exact .inl rfl
  · rename_i hguard
    have hne : port.state ≠ .disabled ∧ port.state ≠ .stopping := by
      refine ⟨fun he => hguard (by simp [he]), fun he => hguard (by simp [he])⟩
    have hallowed : transitionAllowed port.state .stopping = true := by
      cases hs : port.state <;> simp [hs, transitionAllowed] at hne ⊢
    refine .inr ⟨hne, ?_⟩
    rw [portRuntimeTransition_of_allowed (by exact hstate) hallowed]
    refine ⟨rfl, ?_⟩
    show { (cancelAll port).control with state := PortState.stopping } = _
    rw [hcancel]

/-! ## Runs -/

/-- The calls a client makes, `port_runtime_init` and `port_runtime_set_completion`
    apart. -/
inductive PortOp where
  | start (now startTimeout : CoreTick)
  | submit (request : SubmitRequest)
  | submitWithMetadata (request : SubmitRequest)
  | submitOperation (request : SubmitRequest)
  | step (now : CoreTick)
  | cancelActive (now : CoreTick)
  | detachListener (now : CoreTick)
  | reportIoFailure (now : CoreTick) (message : String)
  | requestReconfigure (config : CorePortConfig) (now timeout : CoreTick)
  | requestStop (now timeout : CoreTick)
  deriving DecidableEq, Repr

def PortOp.exec (port : PortRuntime σ κ) : PortOp → PortRuntime σ κ
  | .start now startTimeout => (portRuntimeStart port now startTimeout).2
  | .submit request => (portRuntimeSubmit port request).2.2
  | .submitWithMetadata request => (portRuntimeSubmitWithMetadata port request).2.2
  | .submitOperation request => (portRuntimeSubmitOperation port request).2.2
  | .step now => portRuntimeStep port now
  | .cancelActive now => (portRuntimeCancelActive port now).2
  | .detachListener now => (portRuntimeDetachListener port now).2
  | .reportIoFailure now message => (portRuntimeReportIoFailure port now message).2
  | .requestReconfigure config now timeout =>
      (portRuntimeRequestReconfigure port config now timeout).2
  | .requestStop now timeout => (portRuntimeRequestStop port now timeout).2

def runPort (ops : List PortOp) (port : PortRuntime σ κ) : PortRuntime σ κ :=
  ops.foldl PortOp.exec port

theorem coherent_portRuntimeInit (portIndex : Nat) (config : CorePortConfig)
    (backend : Option (CoreBackendOps σ)) (backendContext : σ) (completionContext : κ)
    (accepted : List CoreTransaction) :
    (portRuntimeInit portIndex config backend backendContext completionContext accepted).Coherent :=
  ⟨rfl, rfl⟩

/-- An operation keeps the table and the callback and moves along the automaton or
    makes one of the requests' own transitions; in any case the port stays coherent. -/
theorem PortRuntime.Coherent.exec (h : port.Coherent) (op : PortOp) :
    (op.exec port).Coherent ∧ (op.exec port).completion = port.completion := by
  have hkeep : ∀ c : PortControl σ κ, c = port.control →
      c.Coherent ∧ c.completion = port.completion := by
    rintro _ rfl
    exact ⟨h, rfl⟩
  have hfree : ∀ (c : PortControl σ κ) (state : PortState), state.busy = false →
      c = { port.control with state := state, hasActive := false } →
      c.Coherent ∧ c.completion = port.completion := by
    rintro _ state hstate rfl
    exact ⟨⟨hstate.symm, h.knownGood⟩, rfl⟩
  cases op with
  | start now startTimeout =>
    rcases portRuntimeStart_cases port now startTimeout with ⟨_, hc⟩ | ⟨hs, _, hc⟩
    · exact hkeep _ hc
    · have hidle : port.hasActive = false := by
        rcases hs with hs | hs <;> exact h.hasActive_of_state hs
      refine hfree _ .starting rfl (hc.trans ?_)
      simp [PortRuntime.control, hidle]
  | submit request => exact hkeep _ (control_portRuntimeSubmitOperation port _)
  | submitWithMetadata request => exact hkeep _ (control_portRuntimeSubmitOperation port _)
  | submitOperation request => exact hkeep _ (control_portRuntimeSubmitOperation port _)
  | step now =>
    have hstep := control_portRuntimeStep h now
    exact ⟨hstep.coherent h, hstep.completion_eq⟩
  | cancelActive now =>
    rcases control_portRuntimeCancelActive h now with hc | ⟨_, hc⟩
    · exact hkeep _ hc
    · exact hfree _ .recovering rfl hc
  | detachListener now =>
    rcases control_portRuntimeDetachListener h now with hc | ⟨_, hc⟩
    · exact hkeep _ hc
    · exact hfree _ .recovering rfl hc
  | reportIoFailure now message =>
    rcases control_portRuntimeReportIoFailure port now message with hc | ⟨_, hc⟩
    · exact hkeep _ hc
    · exact hfree _ .recovering rfl hc
  | requestReconfigure config now timeout =>
    rcases portRuntimeRequestReconfigure_cases port config now timeout with hc | ⟨_, hc⟩
    · exact hkeep _ (congrArg (fun r => r.2.control) hc)
    · show (portRuntimeRequestReconfigure port config now timeout).2.control.Coherent ∧
        (portRuntimeRequestReconfigure port config now timeout).2.control.completion = _
      rw [hc]
      exact ⟨⟨rfl, rfl⟩, rfl⟩
  | requestStop now timeout =>
    rcases portRuntimeRequestStop_cases port now timeout with hc | ⟨_, _, hc⟩
    · exact hkeep _ (congrArg (fun r => r.2.control) hc)
    · exact hfree _ .stopping rfl hc

end FourVrs.Core
