import FourVrs.Core.ExactlyOnce
import FourVrs.Core.PortInvariant
import FourVrs.Lib.Runs

/-!
# What becomes of the queue when recovery gives up

A failure leaves the queue as it is: the port recovers and then serves what waits. Every
other way out of `PORT_RECOVERING` empties the queue — a stop and a reconfiguration
cancel it — but the third failed attempt moves to `PORT_DEGRADED` and does not look at
it. `port_runtime_step` does nothing in that state, so what is queued then waits, its
deadline unread, until somebody stops or reconfigures the port.

`givesUp` says when a step takes that way, and `noneStranded_iff` that a run strands
nothing exactly if no step takes it with a queue.
-/

set_option autoImplicit false

namespace FourVrs.Core

open Lib (Along along_append along_of_forall)

variable {σ κ : Type}

/-- The step makes the last attempt to recover and the backend refuses it. -/
def PortRuntime.givesUp (port : PortRuntime σ κ) (now : CoreTick) : Bool :=
  match port.backend with
  | none => false
  | some backend =>
      decide (port.state = .recovering) && coreDeadlineExpired port.stateDeadline now &&
        decide ((backend.recover (backend.poll port.backendContext now).2.2 now).1 ≠ 0) &&
        decide (port.recoveryAttempts + 1 ≥ coreRecoveryMaxAttempts)

/-- No step gives up while something is queued. -/
def GivesUpIdle (port : PortRuntime σ κ) : PortOp → Prop
  | .step now => port.givesUp now = true → port.queue.count = 0
  | _ => True

instance (port : PortRuntime σ κ) : (op : PortOp) → Decidable (GivesUpIdle port op)
  | .step now => inferInstanceAs (Decidable (port.givesUp now = true → port.queue.count = 0))
  | .start .. | .submit .. | .submitWithMetadata .. | .submitOperation .. | .cancelActive ..
  | .detachListener .. | .reportIoFailure .. | .requestReconfigure .. | .requestStop .. =>
      inferInstanceAs (Decidable True)

/-- The degraded port has answered everything it accepted. -/
def NoneStranded (start : ObservedPort σ κ) (ops : List PortOp) : Prop :=
  (runPort ops start).state = .degraded →
    (runPort ops start).queue.count = 0 ∧ (runPort ops start).hasActive = false ∧
      ∀ t ∈ submissions ops start, timesNotified (runPort ops start) t = 1

/-! ## Giving up -/

theorem countStale_kept (port : PortRuntime σ κ) (result : Int) (event : BackendEvent) :
    (countStale port result event).backendContext = port.backendContext ∧
      (countStale port result event).recoveryAttempts = port.recoveryAttempts ∧
      (countStale port result event).queue = port.queue := by
  unfold countStale
  split <;> exact ⟨rfl, rfl, rfl⟩

variable {port : PortRuntime σ κ}

theorem degraded_recoverNow (backend : CoreBackendOps σ) (h : port.state = .recovering) (now : CoreTick) :
    ((recoverNow backend port now).state = .degraded ↔
      (backend.recover port.backendContext now).1 ≠ 0 ∧
        port.recoveryAttempts + 1 ≥ coreRecoveryMaxAttempts) ∧
      (recoverNow backend port now).queue = port.queue := by
  unfold recoverNow
  split
  · rename_i context hrecover
    rw [portRuntimeTransition_of_allowed (by exact h) rfl, hrecover]
    simp [PortRuntime.tally]
  · rename_i result context hne hrecover
    have hresult : result ≠ 0 := fun hzero => hne hzero
    rw [hrecover]
    unfold recoverFailed
    split
    · rename_i hattempts
      rw [portRuntimeTransition_of_allowed (by exact h) rfl]
      exact ⟨⟨fun _ => ⟨hresult, hattempts⟩, fun _ => rfl⟩, rfl⟩
    · rename_i hattempts
      refine ⟨⟨?_, fun hboth => absurd hboth.2 hattempts⟩, rfl⟩
      intro hdegraded
      exact absurd (h.symm.trans hdegraded) (by decide)

theorem degraded_stepRecovering {backend : CoreBackendOps σ} (hbackend : port.backend = some backend)
    (h : port.state = .recovering) (now : CoreTick) :
    ((stepRecovering backend port now).state = .degraded ↔ port.givesUp now = true) ∧
      (stepRecovering backend port now).queue = port.queue := by
  unfold stepRecovering
  split
  rename_i result event context hpoll
  obtain ⟨hcontext, hattempts, hqueue⟩ :=
    countStale_kept { port with backendContext := context } result event
  have hstate : (countStale { port with backendContext := context } result event).state =
      .recovering := (congrArg PortControl.state (control_countStale _ _ _)).trans h
  have hgivesUp : port.givesUp now = true ↔ coreDeadlineExpired port.stateDeadline now = true ∧
      (backend.recover context now).1 ≠ 0 ∧
        port.recoveryAttempts + 1 ≥ coreRecoveryMaxAttempts := by
    simp [PortRuntime.givesUp, hbackend, h, hpoll, and_assoc]
  rw [hgivesUp]
  split
  · rename_i hexpired
    obtain ⟨hiff, hkept⟩ := degraded_recoverNow backend hstate now
    rw [hcontext, hattempts] at hiff
    exact ⟨by rw [hiff]; simp [hexpired], hkept.trans hqueue⟩
  · rename_i hexpired
    refine ⟨⟨?_, fun hboth => absurd hboth.1 hexpired⟩, hqueue⟩
    intro hdegraded
    exact absurd (hstate.symm.trans hdegraded) (by decide)

/-- A step ends degraded if the port was, or if it gives up. -/
theorem degraded_step (h : port.Coherent) {now : CoreTick}
    (hdegraded : (portRuntimeStep port now).state = .degraded) :
    port.state = .degraded ∨ port.givesUp now = true := by
  have hstep := control_portRuntimeStep h now
  have hs : port.state = .degraded ∨ port.state = .recovering := by
    generalize hc : (portRuntimeStep port now).control = c' at hstep
    have hs' : c'.state = .degraded := by rw [← hc]; exact hdegraded
    cases hstep with
    | stay => exact .inl hs'
    | gaveUp hs => exact .inr hs
    | opened _ => cases hs'
    | lost _ => cases hs'
    | activated _ => cases hs'
    | started _ | completed _ | recovered _ | reconfigured _ | fellBack _ | failed _ | stopped _ => cases hs'
  refine hs.imp_right fun hrecovering => ?_
  unfold portRuntimeStep at hdegraded
  split at hdegraded
  · exact absurd (hrecovering.symm.trans hdegraded) (by decide)
  · rename_i backend hbackend
    rw [hrecovering] at hdegraded
    exact (degraded_stepRecovering hbackend hrecovering now).1.mp hdegraded

/-- **Giving up keeps the queue.** -/
theorem givesUp_step {now : CoreTick} (h : port.givesUp now = true) :
    (portRuntimeStep port now).state = .degraded ∧ (portRuntimeStep port now).queue = port.queue := by
  cases hbackend : port.backend with
  | none => simp [PortRuntime.givesUp, hbackend] at h
  | some backend =>
    have hrecovering : port.state = .recovering := by
      simp [PortRuntime.givesUp, hbackend] at h
      exact h.1.1.1
    obtain ⟨hiff, hqueue⟩ := degraded_stepRecovering hbackend hrecovering now
    have hstep : portRuntimeStep port now = stepRecovering backend port now := by
      unfold portRuntimeStep
      rw [hbackend, hrecovering]
    rw [hstep]
    exact ⟨hiff.mpr h, hqueue⟩

/-- A call that is no step enters no degraded state. -/
theorem degraded_request (h : port.Coherent) {op : PortOp} (hop : ∀ now, op ≠ .step now)
    (hdegraded : (op.exec port).state = .degraded) :
    port.state = .degraded := by
  have hkeep : ∀ {port' : PortRuntime σ κ}, port'.control = port.control →
      port'.state = .degraded → port.state = .degraded := fun hc hs =>
    (congrArg PortControl.state hc).symm.trans hs
  have hleft : ∀ {port' : PortRuntime σ κ} {c : PortControl σ κ}, port'.control = c →
      c.state ≠ .degraded → ¬ port'.state = .degraded := fun hc hne hs =>
    hne ((congrArg PortControl.state hc).symm.trans hs)
  cases op with
  | step now => exact absurd rfl (hop now)
  | start now startTimeout =>
    rcases portRuntimeStart_cases port now startTimeout with ⟨_, hc⟩ | ⟨_, _, hc⟩
    · exact hkeep hc hdegraded
    · exact absurd hdegraded (hleft hc PortState.noConfusion)
  | submit request => exact hkeep (control_portRuntimeSubmitOperation port _) hdegraded
  | submitWithMetadata request => exact hkeep (control_portRuntimeSubmitOperation port _) hdegraded
  | submitOperation request => exact hkeep (control_portRuntimeSubmitOperation port _) hdegraded
  | cancelActive now =>
    rcases control_portRuntimeCancelActive h now with hc | ⟨_, hc⟩
    · exact hkeep hc hdegraded
    · exact absurd hdegraded (hleft hc PortState.noConfusion)
  | detachListener now =>
    rcases control_portRuntimeDetachListener h now with hc | ⟨_, hc⟩
    · exact hkeep hc hdegraded
    · exact absurd hdegraded (hleft hc PortState.noConfusion)
  | reportIoFailure now message =>
    rcases control_portRuntimeReportIoFailure port now message with hc | ⟨_, hc⟩
    · exact hkeep hc hdegraded
    · exact absurd hdegraded (hleft hc PortState.noConfusion)
  | requestReconfigure config now timeout =>
    rcases portRuntimeRequestReconfigure_cases port config now timeout with hc | ⟨_, hc⟩
    · exact hkeep (congrArg (fun r => r.2.control) hc) hdegraded
    · exact absurd hdegraded (hleft hc PortState.noConfusion)
  | requestStop now timeout =>
    rcases portRuntimeRequestStop_cases port now timeout with hc | ⟨_, _, hc⟩
    · exact hkeep (congrArg (fun r => r.2.control) hc) hdegraded
    · exact absurd hdegraded (hleft hc PortState.noConfusion)

/-- What is not queued on a degraded port does not get queued. -/
theorem queue_degraded (h : port.Ordered) (hs : port.state = .degraded) (hempty : port.queue.toList = [])
    (op : PortOp) : (op.exec port).queue.toList = [] := by
  have hdrain : ∀ {port' : PortRuntime σ κ}, Tends port port' → port'.queue.toList = [] :=
    fun htends => htends.queue.empty hempty
  have hsubmit : ∀ r, (portRuntimeSubmitOperation port r).2.2.queue.toList = [] := by
    intro r
    rcases submit_queue port r with heq | ⟨hserves, _⟩
    · rw [heq]
      exact hempty
    · rw [hs] at hserves
      exact absurd hserves (by decide)
  cases op with
  | start now startTimeout =>
    have hview := congrArg PortView.queue (view_portRuntimeStart port now startTimeout)
    exact hview.trans hempty
  | submit request | submitWithMetadata request | submitOperation request => exact hsubmit _
  | step now => exact hdrain (tends_portRuntimeStep port now)
  | cancelActive now => exact hdrain (tends_portRuntimeCancelActive h.coherent now)
  | detachListener now => exact hdrain (tends_portRuntimeDetachListener h.coherent now)
  | reportIoFailure now message => exact hdrain (tends_portRuntimeReportIoFailure port now message)
  | requestReconfigure config now timeout =>
    exact hdrain (tends_portRuntimeRequestReconfigure port config now timeout).1
  | requestStop now timeout => exact hdrain (tends_portRuntimeRequestStop port now timeout).1

/-! ## Runs -/

/-- The record is in order, and a degraded port has no queue. -/
structure PortRuntime.Relieved (port : PortRuntime σ κ) : Prop where
  ordered : port.Ordered
  empty : port.state = .degraded → port.queue.toList = []

theorem PortRuntime.Relieved.exec (h : port.Relieved) (op : PortOp) (hop : GivesUpIdle port op) :
    (op.exec port).Relieved := by
  refine ⟨h.ordered.exec op, ?_⟩
  intro hdegraded
  by_cases hstep : ∃ now, op = .step now
  · obtain ⟨now, rfl⟩ := hstep
    cases degraded_step h.ordered.coherent hdegraded with
    | inl hs => exact queue_degraded h.ordered hs (h.empty hs) (.step now)
    | inr hgives =>
      have hempty : port.queue.toList = [] :=
        List.eq_nil_of_length_eq_zero ((length_queue port.queue).trans (hop hgives))
      exact (tends_portRuntimeStep port now).queue.empty hempty
  · have hs := degraded_request h.ordered.coherent (fun now heq => hstep ⟨now, heq⟩) hdegraded
    exact queue_degraded h.ordered hs (h.empty hs) op

/-- With nothing queued and nothing active, all that was accepted has been answered. -/
theorem answered_of_idle {notify : CoreCompletionFn κ} {start : ObservedPort σ κ}
    (hstart : Observed notify start) (hsound : (custody start).Sound)
    (hnone : start.accepted = []) (ops : List PortOp)
    (hempty : (runPort ops start).queue.toList = [])
    (hidle : (runPort ops start).hasActive = false) :
    ∀ t ∈ submissions ops start, timesNotified (runPort ops start) t = 1 := by
  obtain ⟨hobserved, hevolves, haccepted⟩ := handles_runPort ops hstart
  have hnumbered := numbered_runPort ops hstart (by rw [hnone]; rfl)
  have hlist : (runPort ops start).accepted = submissions ops start := by
    rw [haccepted, hnone, List.nil_append]
  intro t ht
  have hplace := (hsound.evolves hevolves).exactlyOnce hnumbered.nodup
    (show t ∈ (runPort ops start).accepted from hlist ▸ ht)
  have hqueued : (custody (runPort ops start)).queued = [] :=
    congrArg (List.map CoreTransaction.submitted) hempty
  have hcurrent : (custody (runPort ops start)).current = none := by
    unfold custody
    rw [hidle]
    rfl
  rw [hqueued, hcurrent] at hplace
  rw [← count_done]
  rcases hplace with ⟨hmem, _⟩ | ⟨_, hsome, _⟩ | ⟨_, _, hcount⟩
  · exact absurd hmem List.not_mem_nil
  · cases hsome
  · exact hcount

/-- **Who is stranded.** A run answers everything it accepted before it degrades, at each
    of its degraded points, if and only if none of its steps gives up with a queue. -/
theorem noneStranded_iff (portIndex : Nat) (config : CorePortConfig)
    (backend : Option (CoreBackendOps σ)) (backendContext : σ) (notify : CoreCompletionFn κ)
    (context : κ) (ops : List PortOp) :
    let start := observedPort portIndex config backend backendContext notify context
    (∀ before, before <+: ops → NoneStranded start before) ↔
      Along PortOp.exec GivesUpIdle ops start := by
  intro start
  have hstart : Observed notify start :=
    observed_observedPort portIndex config backend backendContext notify context
  have hsound := sound_observedPort portIndex config backend backendContext notify context
  constructor
  · intro hnone
    apply along_of_forall
    intro before op after hops
    cases op with
    | step now =>
      intro hgives
      obtain ⟨hdegraded, hqueue⟩ := givesUp_step hgives
      have hrun : runPort (before ++ [.step now]) start =
          portRuntimeStep (before.foldl PortOp.exec start) now := by
        simp [runPort, PortOp.exec]
      -- the run up to this step is one of those that strand nothing, so its queue is empty
      have hprefix : before ++ [.step now] <+: ops := by
        rw [hops]
        exact ⟨after, by simp⟩
      obtain ⟨hcount, _⟩ := hnone _ hprefix (by rw [hrun]; exact hdegraded)
      rw [hrun, hqueue] at hcount
      exact hcount
    | start | submit | submitWithMetadata | submitOperation | cancelActive | detachListener
    | reportIoFailure | requestReconfigure | requestStop => trivial
  · intro halong before hprefix hdegraded
    obtain ⟨after, rfl⟩ := hprefix
    -- a port that only ever gave up idle has an empty queue whenever it is degraded
    have hrelieved : (runPort before start).Relieved :=
      ((along_append before after start).mp halong).1.invariant
        (fun port op hport hop => hport.exec op hop)
        ⟨⟨⟨rfl, rfl⟩, accounted_emptyQueue, fun h => absurd h (by simp [start, observedPort,
          portRuntimeSetCompletion, portRuntimeInit]), fun _ => toList_emptyQueue⟩,
          fun _ => toList_emptyQueue⟩
    have hempty := hrelieved.empty hdegraded
    have hidle : (runPort before start).hasActive = false :=
      hrelieved.ordered.coherent.hasActive_of_state hdegraded
    refine ⟨?_, hidle, answered_of_idle hstart hsound rfl before hempty hidle⟩
    rw [← length_queue, hempty]
    rfl

/-! ## A stranded transaction -/

/-- A line that is down: nothing can be started and no attempt to recover succeeds. -/
def deadBackend : CoreBackendOps Unit :=
  { idleBackend with
    start := fun _ _ _ => (-1, ())
    recover := fun _ _ => (-1, ()) }

/-- Two requests; the first fails, then recovery three times. -/
def deadRun : List PortOp :=
  [.start 0 100, .step 1, .submit ⟨[1, 3], 0, 0, none, none, 2, 50, 50⟩,
    .submit ⟨[1, 4], 0, 0, none, none, 2, 50, 50⟩, .step 3, .step 4, .step 9, .step 14, .step 19]

/-- **The second request is never answered** on this run. -/
theorem stranded_deadRun :
    ¬ ∀ (backend : Option (CoreBackendOps Unit)) (ops : List PortOp),
      NoneStranded (observedPort 0 default backend () (fun _ _ _ _ => ()) ()) ops := by
  intro hall
  have hcount := (hall (some deadBackend) deadRun (by decide)).1
  exact absurd hcount (by decide)

end FourVrs.Core
