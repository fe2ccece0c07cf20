import FourVrs.Core.PortMoves

/-!
# The representation invariant of the port runtime

`PortControl.Coherent` is about the control part only. Here the rest of the record is
added: which states may hold queued transactions, what `queue.bytes` counts, which
generation the active transaction carries, and that no request asks for a transition the
table forbids.

Every function of the runtime but the submissions and `port_runtime_start` `Tends` a
port: its queue loses entries from the front, the active transaction keeps the
runtime's generation and the counter of illegal transitions stands. What a call may do
to the state is `ControlStep`'s, so the invariant is put together from the two.
-/

set_option autoImplicit false

namespace FourVrs.Core

variable {σ κ : Type}

/-! ## The queue's accounts -/

/-- The payload bytes of the queued transactions. -/
def TransactionQueue.payloadBytes (queue : TransactionQueue) : Nat :=
  (queue.toList.map fun t => t.payload.length).sum

/-- `bytes` counts the queued payloads and stays within its bound. -/
structure TransactionQueue.Accounted (queue : TransactionQueue) : Prop where
  bytes_eq : queue.bytes = queue.payloadBytes
  bytes_le : queue.bytes ≤ coreQueueBytesMax

theorem accounted_emptyQueue : emptyQueue.Accounted :=
  ⟨by simp [TransactionQueue.payloadBytes]; rfl, Nat.zero_le _⟩

variable {port : PortRuntime σ κ} (backend : CoreBackendOps σ) {queue queue' : TransactionQueue}

theorem TransactionQueue.Accounted.push {t : CoreTransaction} (h : queue.Accounted)
    (hpush : queuePush queue t = some queue') : queue'.Accounted := by
  have hlist := queuePush_toList hpush
  unfold queuePush at hpush
  split at hpush
  · split at hpush
    · cases hpush
    · rename_i hroom
      have hbytes : queue'.bytes = queue.bytes + t.payload.length := by
        cases hpush
        rfl
      refine ⟨?_, by rw [hbytes]; exact Nat.le_of_not_gt hroom⟩
      rw [hbytes, h.bytes_eq, TransactionQueue.payloadBytes, TransactionQueue.payloadBytes, hlist]
      simp
  · cases hpush

theorem TransactionQueue.Accounted.pop {t : CoreTransaction} (h : queue.Accounted)
    (hpop : queuePop queue = some (t, queue')) : queue'.Accounted := by
  have hlist := queuePop_toList hpop
  unfold queuePop at hpop
  split at hpop
  · have hbytes : queue'.bytes = queue.bytes - t.payload.length := by
      cases hpop
      rfl
    have hsum : queue.payloadBytes = t.payload.length + queue'.payloadBytes := by
      simp [TransactionQueue.payloadBytes, hlist]
    have heq := h.bytes_eq
    have hle := h.bytes_le
    exact ⟨by omega, by omega⟩
  · cases hpop

/-- Entries leave from the front. -/
abbrev Drains : TransactionQueue → TransactionQueue → Prop :=
  Relation.ReflTransGen fun queue queue' => ∃ t, queuePop queue = some (t, queue')

theorem Drains.accounted (h : Drains queue queue') (hq : queue.Accounted) : queue'.Accounted := by
  induction h with
  | refl => exact hq
  | tail _ hpop ih =>
    obtain ⟨t, hpop⟩ := hpop
    exact ih.pop hpop

theorem Drains.suffix (h : Drains queue queue') :
    queue'.toList <:+ queue.toList := by
  induction h with
  | refl => exact List.suffix_refl _
  | tail _ hpop ih =>
    obtain ⟨t, hpop⟩ := hpop
    rw [queuePop_toList hpop] at ih
    exact (List.suffix_cons _ _).trans ih

theorem Drains.empty (h : Drains queue queue') (hq : queue.toList = []) : queue'.toList = [] := by
  have hsuffix := h.suffix
  rw [hq] at hsuffix
  exact List.suffix_nil.mp hsuffix

/-! ## What the functions keep -/

/-- The active transaction carries the runtime's generation, which is not 0. -/
def PortRuntime.Tagged (port : PortRuntime σ κ) : Prop :=
  port.hasActive = true → port.active.generation = port.generation ∧ port.generation ≠ 0

structure Tends (port port' : PortRuntime σ κ) : Prop where
  queue : Drains port.queue port'.queue
  tagged : port.Tagged → port'.Tagged
  illegal : port'.stats.illegalTransitions = port.stats.illegalTransitions

theorem Tends.refl (port : PortRuntime σ κ) : Tends port port := ⟨.refl, fun h => h, rfl⟩

theorem Tends.trans {port port' port'' : PortRuntime σ κ} (h : Tends port port')
    (h' : Tends port' port'') : Tends port port'' :=
  ⟨h.queue.trans h'.queue, fun ht => h'.tagged (h.tagged ht), h'.illegal.trans h.illegal⟩

/-- A change of other fields. -/
theorem tends_of_same {port port' : PortRuntime σ κ} (hqueue : port'.queue = port.queue)
    (hactive : port'.hasActive = port.hasActive)
    (hheld : port'.active.generation = port.active.generation)
    (hgeneration : port'.generation = port.generation)
    (hillegal : port'.stats.illegalTransitions = port.stats.illegalTransitions) :
    Tends port port' := by
  refine ⟨hqueue ▸ .refl, ?_, hillegal⟩
  intro ht hheld'
  rw [hheld, hgeneration]
  exact ht (hactive.symm.trans hheld')

/-- An allowed transition. `before` is the port whose state is known. -/
theorem tends_transition {port before : PortRuntime σ κ} {state next : PortState}
    (h : Tends before port) (hstate : port.state = state)
    (hallowed : transitionAllowed state next = true) :
    Tends before (portRuntimeTransition port next).2 := by
  rw [portRuntimeTransition_of_allowed hstate hallowed]
  exact h.trans (tends_of_same rfl rfl rfl rfl rfl)

theorem tends_clearActive {port before : PortRuntime σ κ} (h : Tends before port) :
    Tends before (clearActive port) :=
  ⟨h.queue, fun _ hactive => absurd hactive (by simp [clearActive]), h.illegal⟩

theorem tends_abandonActive {port before : PortRuntime σ κ} (h : Tends before port) :
    Tends before (abandonActive port) := by
  unfold abandonActive
  split
  · exact tends_clearActive (h.trans (tends_of_same rfl rfl rfl rfl rfl))
  · exact h

theorem tends_beginRecovery {port before : PortRuntime σ κ} {now : CoreTick} {error : String}
    {state : PortState} (h : Tends before port) (hstate : port.state = state)
    (hallowed : transitionAllowed state .recovering = true) :
    Tends before (beginRecovery port now error) := by
  have hkept : (abandonActive port).state = state :=
    (congrArg PortControl.state (control_abandonActive port)).trans hstate
  unfold beginRecovery
  refine tends_transition ((tends_abandonActive h).trans ?_) (by exact hkept) hallowed
  exact tends_of_same rfl rfl rfl rfl rfl

theorem tends_abortActive (port : PortRuntime σ κ) : Tends port (abortActive port) :=
  tends_clearActive (tends_of_same rfl rfl rfl rfl rfl)

theorem tends_flushLoop (passes : Nat) (port : PortRuntime σ κ) :
    Tends port (flushLoop passes port) := by
  induction passes generalizing port with
  | zero => exact .refl _
  | succ passes ih =>
    unfold flushLoop
    split
    · exact .refl _
    · rename_i transaction queue hpop
      refine .trans ?_ (ih _)
      exact ⟨.single ⟨transaction, hpop⟩, fun ht => ht, rfl⟩

/-- As many passes as there are entries empty the queue. -/
theorem flushLoop_queue (passes : Nat) (port : PortRuntime σ κ)
    (h : port.queue.toList.length ≤ passes) : (flushLoop passes port).queue.toList = [] := by
  induction passes generalizing port with
  | zero => exact List.eq_nil_of_length_eq_zero (Nat.le_zero.mp h)
  | succ passes ih =>
    unfold flushLoop
    split
    · rename_i hpop
      exact queuePop_eq_none.mp hpop
    · rename_i transaction queue hpop
      apply ih
      rw [queuePop_toList hpop] at h
      exact Nat.le_of_succ_le_succ h

theorem tends_flushQueue (port : PortRuntime σ κ) : Tends port (flushQueue port) :=
  (tends_flushLoop _ port).trans (tends_of_same rfl rfl rfl rfl rfl)

theorem flushQueue_queue (port : PortRuntime σ κ) : (flushQueue port).queue.toList = [] :=
  flushLoop_queue _ port (Nat.le_of_eq (length_queue port.queue))

theorem tends_cancelAll (port : PortRuntime σ κ) : Tends port (cancelAll port) := by
  unfold cancelAll
  split
  · exact (tends_abortActive port).trans (tends_flushQueue _)
  · exact tends_flushQueue port

theorem cancelAll_queue (port : PortRuntime σ κ) : (cancelAll port).queue.toList = [] :=
  flushQueue_queue _

/-! ## The step -/

theorem nextGeneration_ne_zero (generation : BitVec 32) : nextGeneration generation ≠ 0 := by
  unfold nextGeneration
  split
  · decide
  · assumption

theorem tends_activate (h : port.state = .ready) (transaction : CoreTransaction) (now : CoreTick) :
    Tends port (activate port transaction now) := by
  unfold activate
  refine tends_transition ⟨.refl, ?_, rfl⟩ (by exact h) rfl
  intro _ _
  exact ⟨rfl, nextGeneration_ne_zero _⟩

theorem tends_readyLoop (h : port.state = .ready) (now : CoreTick) (passes : Nat) :
    Tends port (readyLoop now passes port) := by
  induction passes generalizing port with
  | zero => exact .refl _
  | succ passes ih =>
    unfold readyLoop
    split
    · exact .refl _
    · rename_i transaction queue hpop
      have hpopped : Tends port (updateDepth { port with queue := queue }) :=
        ⟨.single ⟨transaction, hpop⟩, fun ht => ht, rfl⟩
      split
      · -- the expired transaction passes through the active slot, which is empty after it
        have hexpired : Tends port
            (expireQueued (updateDepth { port with queue := queue }) transaction) := by
          refine ⟨hpopped.queue, ?_, rfl⟩
          intro _ hactive
          exact absurd hactive (by simp [expireQueued, clearActive])
        exact hexpired.trans (ih h)
      · exact hpopped.trans (tends_activate (by exact h) transaction now)

theorem tends_handleEvent (h : port.state = .waiting) (event : BackendEvent) (now : CoreTick) :
    Tends port (handleEvent port event now) := by
  unfold handleEvent
  split
  · exact tends_of_same rfl rfl rfl rfl rfl
  · exact tends_transition (tends_clearActive (tends_of_same rfl rfl rfl rfl rfl)) (by exact h) rfl
  · exact tends_beginRecovery (tends_of_same rfl rfl rfl rfl rfl) (by exact h) rfl
  · exact tends_beginRecovery (tends_of_same rfl rfl rfl rfl rfl) (by exact h) rfl

theorem tends_stepWaiting (h : port.state = .waiting) (now : CoreTick) :
    Tends port (stepWaiting backend port now) := by
  unfold stepWaiting
  split
  rename_i result event context _
  have hpolled : Tends port { port with backendContext := context } :=
    tends_of_same rfl rfl rfl rfl rfl
  unfold afterPoll
  split
  · split
    · exact tends_of_same rfl rfl rfl rfl rfl
    · exact hpolled.trans (tends_handleEvent (by exact h) event now)
  · split
    · exact tends_beginRecovery (tends_of_same rfl rfl rfl rfl rfl) (by exact h) rfl
    · exact hpolled

theorem tends_countStale {port before : PortRuntime σ κ} (h : Tends before port) (result : Int)
    (event : BackendEvent) : Tends before (countStale port result event) := by
  unfold countStale
  split
  · exact h.trans (tends_of_same rfl rfl rfl rfl rfl)
  · exact h

theorem tends_recoverNow (h : port.state = .recovering) (now : CoreTick) :
    Tends port (recoverNow backend port now) := by
  unfold recoverNow
  split
  · exact tends_transition (tends_of_same rfl rfl rfl rfl rfl) (by exact h) rfl
  · unfold recoverFailed
    split
    · exact tends_transition (tends_of_same rfl rfl rfl rfl rfl) (by exact h) rfl
    · exact tends_of_same rfl rfl rfl rfl rfl

theorem tends_stepRecovering (h : port.state = .recovering) (now : CoreTick) :
    Tends port (stepRecovering backend port now) := by
  unfold stepRecovering
  split
  rename_i result event context _
  have hcounted : Tends port (countStale { port with backendContext := context } result event) := by
    apply tends_countStale
    exact tends_of_same rfl rfl rfl rfl rfl
  split
  · refine hcounted.trans (tends_recoverNow backend ?_ now)
    exact (congrArg PortControl.state (control_countStale _ result event)).trans h
  · exact hcounted

theorem tends_fallBack (h : port.state = .reconfiguring) (now : CoreTick)
    {success failure : PortRuntime σ κ → PortRuntime σ κ}
    (hsuccess : ∀ p, (success p).control = p.control ∧ Tends p (success p))
    (hfailure : ∀ p, (failure p).control = p.control ∧ Tends p (failure p)) :
    Tends port (fallBack backend port now success failure) := by
  have hanswer : ∀ context, Tends port { port with backendContext := context } := fun _ =>
    tends_of_same rfl rfl rfl rfl rfl
  unfold fallBack
  split
  · rename_i context _
    obtain ⟨hcontrol, htends⟩ := hsuccess { port with backendContext := context }
    refine tends_transition ?_ (by exact (congrArg PortControl.state hcontrol).trans h) rfl
    exact ((hanswer context).trans htends).trans (tends_of_same rfl rfl rfl rfl rfl)
  · rename_i context _ _
    obtain ⟨hcontrol, htends⟩ := hfailure { port with backendContext := context }
    refine tends_transition ?_ (by exact (congrArg PortControl.state hcontrol).trans h) rfl
    exact (hanswer context).trans htends

theorem tends_setError (port : PortRuntime σ κ) (message : String) :
    (setError port message).control = port.control ∧ Tends port (setError port message) :=
  ⟨rfl, tends_of_same rfl rfl rfl rfl rfl⟩

theorem tends_stepReconfiguring (h : port.state = .reconfiguring) (now : CoreTick) :
    Tends port (stepReconfiguring backend port now) := by
  unfold stepReconfiguring
  split
  · refine (tends_setError port "reconfigure timeout").2.trans ?_
    exact tends_fallBack backend (by exact h) now (fun p => ⟨rfl, .refl p⟩)
      (fun p => ⟨rfl, .refl p⟩)
  split
  · exact tends_transition (tends_of_same rfl rfl rfl rfl rfl) (by exact h) rfl
  · rename_i context _ _
    have hrefused : Tends port { port with backendContext := context } :=
      tends_of_same rfl rfl rfl rfl rfl
    exact hrefused.trans (tends_fallBack backend (by exact h) now
      (fun p => tends_setError p _) fun p => tends_setError p _)

theorem tends_stepStarting (h : port.state = .starting) (now : CoreTick) :
    Tends port (stepStarting backend port now) := by
  unfold stepStarting
  split
  · exact tends_transition (tends_of_same rfl rfl rfl rfl rfl) (by exact h) rfl
  · split
    · exact tends_beginRecovery (tends_of_same rfl rfl rfl rfl rfl) (by exact h) rfl
    · exact tends_of_same rfl rfl rfl rfl rfl

theorem tends_stepActive (h : port.state = .active) (now : CoreTick) :
    Tends port (stepActive backend port now) := by
  unfold stepActive
  split
  · exact tends_transition (tends_of_same rfl rfl rfl rfl rfl) (by exact h) rfl
  · exact tends_beginRecovery (tends_of_same rfl rfl rfl rfl rfl) (by exact h) rfl

theorem tends_stepStopping (h : port.state = .stopping) (now : CoreTick) :
    Tends port (stepStopping backend port now) := by
  unfold stepStopping
  split
  · exact tends_transition (tends_of_same rfl rfl rfl rfl rfl) (by exact h) rfl
  · split
    · exact tends_transition (tends_of_same rfl rfl rfl rfl rfl) (by exact h) rfl
    · exact tends_of_same rfl rfl rfl rfl rfl

theorem tends_portRuntimeStep (port : PortRuntime σ κ) (now : CoreTick) :
    Tends port (portRuntimeStep port now) := by
  unfold portRuntimeStep
  split
  · exact .refl _
  rename_i backend _
  split
  · exact tends_stepStarting backend ‹_› now
  · exact tends_readyLoop ‹_› now _
  · exact tends_stepActive backend ‹_› now
  · exact tends_stepWaiting backend ‹_› now
  · exact tends_stepRecovering backend ‹_› now
  · exact tends_stepReconfiguring backend ‹_› now
  · exact tends_stepStopping backend ‹_› now
  · exact .refl _
  · exact .refl _
  · exact .refl _

/-! ## Requests -/

theorem tends_portRuntimeReportIoFailure (port : PortRuntime σ κ) (now : CoreTick)
    (message : String) : Tends port (portRuntimeReportIoFailure port now message).2 := by
  unfold portRuntimeReportIoFailure
  split
  · exact .refl _
  · rename_i hguard
    have hready : port.state = .ready := by
      by_contra hne
      exact hguard (by simp [hne])
    exact tends_beginRecovery (tends_of_same rfl rfl rfl rfl rfl) (by exact hready) rfl

theorem tends_portRuntimeCancelActive (h : port.Coherent) (now : CoreTick) :
    Tends port (portRuntimeCancelActive port now).2 := by
  unfold portRuntimeCancelActive
  split
  · exact .refl _
  · rename_i hactive
    have hallowed : transitionAllowed port.state .recovering = true := by
      rcases h.active_or_waiting (by simpa using hactive) with hs | hs <;> rw [hs] <;> rfl
    refine tends_transition ?_ rfl hallowed
    refine .trans (.trans ?_ (tends_abortActive _)) (tends_of_same rfl rfl rfl rfl rfl)
    exact tends_of_same rfl rfl rfl rfl rfl

theorem tends_portRuntimeDetachListener (h : port.Coherent) (now : CoreTick) :
    Tends port (portRuntimeDetachListener port now).2 := by
  have hcoherent : (flushQueue port).Coherent := by
    unfold PortRuntime.Coherent
    rw [control_flushQueue]
    exact h
  unfold portRuntimeDetachListener
  split
  · exact (tends_flushQueue port).trans (tends_portRuntimeCancelActive hcoherent now)
  · exact tends_flushQueue port

/-- What a request that cancels everything leaves: it is refused and changes nothing, or
    nothing is queued. -/
def Cancels (port port' : PortRuntime σ κ) : Prop :=
  port' = port ∨ port'.queue.toList = []

theorem tends_portRuntimeRequestReconfigure (port : PortRuntime σ κ) (config : CorePortConfig)
    (now timeout : CoreTick) :
    Tends port (portRuntimeRequestReconfigure port config now timeout).2 ∧
      Cancels port (portRuntimeRequestReconfigure port config now timeout).2 := by
  have hstate : (cancelAll port).state = port.state :=
    congrArg PortControl.state (control_cancelAll port)
  have haccepted : transitionAllowed port.state .reconfiguring = true →
      ∀ port', port' =
        { cancelAll port with
          knownGoodConfig := port.currentConfig
          stagedConfig := config
          stateDeadline := coreDeadlineAfter now timeout } →
      Tends port (portRuntimeTransition port' .reconfiguring).2 ∧
        Cancels port (portRuntimeTransition port' .reconfiguring).2 := by
    intro hallowed port' hport'
    have htends : Tends port port' := by
      rw [hport']
      exact (tends_cancelAll port).trans (tends_of_same rfl rfl rfl rfl rfl)
    have hs : port'.state = port.state := by
      rw [hport']
      exact hstate
    refine ⟨tends_transition htends hs hallowed, .inr ?_⟩
    rw [portRuntimeTransition_of_allowed hs hallowed, hport']
    exact cancelAll_queue port
  unfold portRuntimeRequestReconfigure
  split
  · exact ⟨.refl _, .inl rfl⟩
  split
  all_goals first
    | exact ⟨.refl _, .inl rfl⟩
    | exact haccepted (by rw [‹port.state = _›]; rfl) _ rfl

theorem tends_portRuntimeRequestStop (port : PortRuntime σ κ) (now timeout : CoreTick) :
    Tends port (portRuntimeRequestStop port now timeout).2 ∧
      Cancels port (portRuntimeRequestStop port now timeout).2 := by
  have hstate : (cancelAll port).state = port.state :=
    congrArg PortControl.state (control_cancelAll port)
  unfold portRuntimeRequestStop
  split
  · exact ⟨.refl _, .inl rfl⟩
  · rename_i hguard
    have hallowed : transitionAllowed port.state .stopping = true := by
      cases hs : port.state <;> simp [hs, transitionAllowed] at hguard ⊢
    rw [portRuntimeTransition_of_allowed (by exact hstate) hallowed]
    exact ⟨(tends_cancelAll port).trans (tends_of_same rfl rfl rfl rfl rfl),
      .inr (cancelAll_queue port)⟩

/-- A submission is refused or pushes one entry, in a state that serves requests. -/
theorem submit_queue (port : PortRuntime σ κ) (r : SubmitRequest) :
    (portRuntimeSubmitOperation port r).2.2.queue = port.queue ∨
      (port.state = .ready ∨ port.state = .active ∨ port.state = .waiting) ∧
        queuePush port.queue (newTransaction port r) =
          some (portRuntimeSubmitOperation port r).2.2.queue := by
  have henqueue : (enqueue port r).2.2.queue = port.queue ∨
      queuePush port.queue (newTransaction port r) = some (enqueue port r).2.2.queue := by
    unfold enqueue
    split
    · exact .inl rfl
    · rename_i hpush
      exact .inr hpush
  unfold portRuntimeSubmitOperation
  split
  · exact .inl rfl
  split
  · exact .inl rfl
  · exact .inl rfl
  · exact .inl rfl
  · exact .inl rfl
  · exact .inl rfl
  · exact .inl rfl
  · exact .inl rfl
  · rename_i hs
    exact henqueue.imp_right fun hpush => ⟨.inl hs, hpush⟩
  · rename_i hs
    exact henqueue.imp_right fun hpush => ⟨.inr (.inl hs), hpush⟩
  · rename_i hs
    exact henqueue.imp_right fun hpush => ⟨.inr (.inr hs), hpush⟩

/-- The rest of the record a submission leaves alone. -/
theorem submit_rest (port : PortRuntime σ κ) (r : SubmitRequest) :
    ((portRuntimeSubmitOperation port r).2.2.Tagged ↔ port.Tagged) ∧
      (portRuntimeSubmitOperation port r).2.2.stats.illegalTransitions =
        port.stats.illegalTransitions := by
  have henqueue : ((enqueue port r).2.2.Tagged ↔ port.Tagged) ∧
      (enqueue port r).2.2.stats.illegalTransitions = port.stats.illegalTransitions := by
    unfold enqueue
    split <;> exact ⟨Iff.rfl, rfl⟩
  unfold portRuntimeSubmitOperation
  split
  · exact ⟨Iff.rfl, rfl⟩
  · split <;> first
      | exact ⟨Iff.rfl, rfl⟩
      | exact henqueue

/-! ## The invariant -/

/-- The states in which nothing is queued. -/
def PortState.quiet : PortState → Bool
  | .disabled | .starting | .reconfiguring | .stopping | .error => true
  | _ => false

structure PortRuntime.Ordered (port : PortRuntime σ κ) : Prop where
  coherent : port.Coherent
  accounted : port.queue.Accounted
  tagged : port.Tagged
  quiet : port.state.quiet = true → port.queue.toList = []

/-- The step enters a quiet state from a quiet one only. -/
theorem ControlStep.quiet {c c' : PortControl σ κ} (h : ControlStep c c')
    (hq : c'.state.quiet = true) : c.state.quiet = true := by
  cases h with
  | stay => exact hq
  | opened hs => cases hq
  | lost hs => cases hq
  | activated hs => cases hq
  | started hs | completed hs | recovered hs | gaveUp hs | reconfigured hs | fellBack hs => cases hq
  | failed hs => rcases hs with hs | hs <;> rw [hs] <;> rfl
  | stopped hs => rw [hs]; rfl

/-- What `Tends` keeps, if the quiet states are entered rightly. -/
theorem PortRuntime.Ordered.tends {port port' : PortRuntime σ κ} (h : port.Ordered)
    (hcoherent : port'.Coherent) (htends : Tends port port')
    (hquiet : port'.state.quiet = true →
      port.state.quiet = true ∨ port'.queue.toList = []) : port'.Ordered := by
  refine ⟨hcoherent, htends.queue.accounted h.accounted, htends.tagged h.tagged, ?_⟩
  intro hq
  cases hquiet hq with
  | inl hwas => exact htends.queue.empty (h.quiet hwas)
  | inr hempty => exact hempty

theorem PortRuntime.Ordered.submit (h : port.Ordered) (r : SubmitRequest) :
    (portRuntimeSubmitOperation port r).2.2.Ordered := by
  have hcontrol := control_portRuntimeSubmitOperation port r
  have hcoherent : (portRuntimeSubmitOperation port r).2.2.Coherent := by
    unfold PortRuntime.Coherent
    rw [hcontrol]
    exact h.coherent
  have hstate : (portRuntimeSubmitOperation port r).2.2.state = port.state :=
    congrArg PortControl.state hcontrol
  have htagged := (submit_rest port r).1.mpr h.tagged
  rcases submit_queue port r with heq | ⟨hs, hpush⟩
  · refine ⟨hcoherent, by rw [heq]; exact h.accounted, htagged, ?_⟩
    rw [hstate, heq]
    exact h.quiet
  · refine ⟨hcoherent, h.accounted.push hpush, htagged, ?_⟩
    rw [hstate]
    intro hq
    rcases hs with hs | hs | hs <;> rw [hs] at hq <;> cases hq

/-- A request that cancels everything, wherever it leads. -/
theorem PortRuntime.Ordered.cancels {port port' : PortRuntime σ κ} (h : port.Ordered)
    (hcoherent : port'.Coherent) (htends : Tends port port') (hcancels : Cancels port port') :
    port'.Ordered := by
  cases hcancels with
  | inl heq => rw [heq]; exact h
  | inr hempty => exact h.tends hcoherent htends fun _ => .inr hempty

theorem PortRuntime.Ordered.start (h : port.Ordered) (now startTimeout : CoreTick) :
    (portRuntimeStart port now startTimeout).2.Ordered := by
  have hcoherent := (h.coherent.exec (.start now startTimeout)).1
  have hkept : (portRuntimeStart port now startTimeout).2.queue = port.queue ∧
      ((portRuntimeStart port now startTimeout).2.Tagged ↔ port.Tagged) := by
    unfold portRuntimeStart portRuntimeTransition
    split
    · exact ⟨rfl, Iff.rfl⟩
    by_cases hallowed : transitionAllowed port.state .starting = true
    · rw [if_pos hallowed]
      exact ⟨rfl, Iff.rfl⟩
    · rw [if_neg hallowed]
      exact ⟨rfl, Iff.rfl⟩
  refine ⟨hcoherent, by rw [hkept.1]; exact h.accounted, hkept.2.mpr h.tagged, ?_⟩
  rw [hkept.1]
  intro hq
  rcases portRuntimeStart_cases port now startTimeout with ⟨_, hc⟩ | ⟨hs, _, _⟩
  · exact h.quiet ((congrArg (fun c => c.state.quiet) hc).symm.trans hq)
  · rcases hs with hs | hs <;> exact h.quiet (by rw [hs]; rfl)

/-- A request that leads to recovery at most enters no quiet state. -/
theorem quiet_of_recovering {port port' : PortRuntime σ κ} {P : Prop}
    (h : port'.control = port.control ∨
      P ∧ port'.control = { port.control with state := .recovering, hasActive := false })
    (hq : port'.state.quiet = true) : port.state.quiet = true := by
  rcases h with hc | ⟨_, hc⟩
  · exact (congrArg (fun c => c.state.quiet) hc).symm.trans hq
  · have hrecovering : port'.state = .recovering := congrArg PortControl.state hc
    rw [hrecovering] at hq
    cases hq

theorem PortRuntime.Ordered.exec (h : port.Ordered) (op : PortOp) :
    (op.exec port).Ordered := by
  have hcoherent := (h.coherent.exec op).1
  cases op with
  | start now startTimeout => exact h.start now startTimeout
  | submit request | submitWithMetadata request | submitOperation request => exact h.submit _
  | step now =>
    exact h.tends hcoherent (tends_portRuntimeStep port now) fun hq =>
      .inl ((control_portRuntimeStep h.coherent now).quiet hq)
  | cancelActive now =>
    refine h.tends hcoherent (tends_portRuntimeCancelActive h.coherent now) fun hq => .inl ?_
    exact quiet_of_recovering (control_portRuntimeCancelActive h.coherent now) hq
  | detachListener now =>
    refine h.tends hcoherent (tends_portRuntimeDetachListener h.coherent now) fun hq => .inl ?_
    exact quiet_of_recovering (control_portRuntimeDetachListener h.coherent now) hq
  | reportIoFailure now message =>
    refine h.tends hcoherent (tends_portRuntimeReportIoFailure port now message) fun hq => .inl ?_
    exact quiet_of_recovering (control_portRuntimeReportIoFailure port now message) hq
  | requestReconfigure config now timeout =>
    obtain ⟨htends, hcancels⟩ := tends_portRuntimeRequestReconfigure port config now timeout
    exact h.cancels hcoherent htends hcancels
  | requestStop now timeout =>
    obtain ⟨htends, hcancels⟩ := tends_portRuntimeRequestStop port now timeout
    exact h.cancels hcoherent htends hcancels

/-! ## Runs of public calls -/

/-- The public calls that change a port after `port_runtime_init`, except
    `port_runtime_transition` itself. -/
inductive PortCall (κ : Type) where
  | setCompletion (completion : Option (CoreCompletionFn κ))
  | invoke (op : PortOp)

def PortCall.exec (port : PortRuntime σ κ) : PortCall κ → PortRuntime σ κ
  | .setCompletion completion => portRuntimeSetCompletion port completion
  | .invoke op => op.exec port

def runCalls (calls : List (PortCall κ)) (port : PortRuntime σ κ) : PortRuntime σ κ :=
  calls.foldl PortCall.exec port

/-- `port_runtime_start` is called. -/
def PortCall.isStart : PortCall κ → Bool
  | .invoke (.start _ _) => true
  | _ => false

theorem ordered_portRuntimeInit (portIndex : Nat) (config : CorePortConfig)
    (backend : Option (CoreBackendOps σ)) (backendContext : σ) (completionContext : κ)
    (accepted : List CoreTransaction) :
    (portRuntimeInit portIndex config backend backendContext completionContext accepted).Ordered :=
  ⟨⟨rfl, rfl⟩, accounted_emptyQueue, fun h => absurd h (by simp [portRuntimeInit]),
    fun _ => toList_emptyQueue⟩

theorem PortRuntime.Ordered.call (h : port.Ordered) (call : PortCall κ) : (call.exec port).Ordered := by
  cases call with
  | setCompletion completion =>
    exact ⟨⟨h.coherent.busy, h.coherent.knownGood⟩, h.accounted, h.tagged, h.quiet⟩
  | invoke op => exact h.exec op

theorem PortRuntime.Ordered.runCalls (h : port.Ordered) (calls : List (PortCall κ)) :
    (runCalls calls port).Ordered := by
  induction calls generalizing port with
  | nil => exact h
  | cons call calls ih => exact ih (h.call call)

/-- **Only `port_runtime_start` asks for a forbidden transition.** -/
theorem illegal_call (h : port.Coherent) (call : PortCall κ) (hcall : call.isStart = false) :
    (call.exec port).stats.illegalTransitions = port.stats.illegalTransitions := by
  cases call with
  | setCompletion completion => rfl
  | invoke op =>
    cases op with
    | start now startTimeout => cases hcall
    | submit request | submitWithMetadata request | submitOperation request => exact (submit_rest port _).2
    | step now => exact (tends_portRuntimeStep port now).illegal
    | cancelActive now => exact (tends_portRuntimeCancelActive h now).illegal
    | detachListener now => exact (tends_portRuntimeDetachListener h now).illegal
    | reportIoFailure now message =>
      exact (tends_portRuntimeReportIoFailure port now message).illegal
    | requestReconfigure config now timeout =>
      exact (tends_portRuntimeRequestReconfigure port config now timeout).1.illegal
    | requestStop now timeout => exact (tends_portRuntimeRequestStop port now timeout).1.illegal

/-- What holds of a port's record between two calls. -/
structure PortRuntime.Represents (port : PortRuntime σ κ) : Prop where
  active_iff : port.hasActive = true ↔ port.state = .active ∨ port.state = .waiting
  queue_empty : port.state = .disabled ∨ port.state = .starting ∨ port.state = .reconfiguring ∨
    port.state = .stopping ∨ port.state = .error → port.queue.count = 0
  count_le : port.queue.count ≤ coreQueueCapacity
  bytes_eq : port.queue.bytes = port.queue.payloadBytes
  bytes_le : port.queue.bytes ≤ coreQueueBytesMax
  generation : port.hasActive = true →
    port.active.generation = port.generation ∧ port.active.generation ≠ 0
  knownGood : port.knownGoodConfig = port.currentConfig

theorem PortRuntime.Ordered.represents (h : port.Ordered) :
    port.Represents where
  active_iff := by
    refine ⟨h.coherent.active_or_waiting, ?_⟩
    intro hs
    rcases hs with hs | hs <;> exact h.coherent.hasActive_of_state hs
  queue_empty := by
    intro hs
    have hempty := h.quiet (by rcases hs with hs | hs | hs | hs | hs <;> rw [hs] <;> rfl)
    rw [← length_queue, hempty]
    rfl
  count_le := port.queue.ring.count_le
  bytes_eq := h.accounted.bytes_eq
  bytes_le := h.accounted.bytes_le
  generation := by
    intro hactive
    obtain ⟨heq, hne⟩ := h.tagged hactive
    exact ⟨heq, heq ▸ hne⟩
  knownGood := h.coherent.knownGood

/-- **The representation invariant.** After any calls the record is in order, and no call
    but `port_runtime_start` asks for a transition the table forbids: wherever the
    counter of illegal transitions stood, it stands there afterwards. -/
theorem represents_runCalls (portIndex : Nat) (config : CorePortConfig)
    (backend : Option (CoreBackendOps σ)) (backendContext : σ) (completionContext : κ)
    (calls : List (PortCall κ)) :
    let port := runCalls calls
      (portRuntimeInit portIndex config backend backendContext completionContext [])
    port.Represents ∧
      ∀ (call : PortCall κ) (count : BitVec 32), call.isStart = false →
        (call.exec (port.tally fun s => { s with illegalTransitions := count })).stats.illegalTransitions
          = count := by
  intro port
  have hordered : port.Ordered :=
    (ordered_portRuntimeInit portIndex config backend backendContext completionContext []).runCalls
      calls
  refine ⟨hordered.represents, ?_⟩
  intro call count hcall
  exact @illegal_call _ _ (port.tally _) hordered.coherent call hcall

/-- A backend that accepts everything and never has an event. -/
def idleBackend : CoreBackendOps Unit where
  «open» _ _ := (0, ())
  start _ _ _ := (0, ())
  poll _ _ := (0, ⟨.none, 0, []⟩, ())
  cancel _ _ := ()
  recover _ _ := (0, ())
  reconfigure _ _ _ := (0, ())
  stop _ _ := (0, ())

/-- Two requests on an opened port, the first of them started. -/
def startedCalls : List (PortCall Unit) :=
  [.invoke (.start 0 10), .invoke (.step 1),
    .invoke (.submit ⟨[1, 3], 0, 0, none, none, 2, 50, 50⟩),
    .invoke (.submit ⟨[1, 4, 7], 0, 0, none, none, 2, 50, 50⟩), .invoke (.step 3)]

theorem represents_startedCalls :
    let port := runCalls startedCalls (portRuntimeInit 0 default (some idleBackend) () () [])
    port.state = .active ∧ port.queue.bytes = 3 ∧ port.Represents ∧
      (portRuntimeRequestStop (port.tally fun s => { s with illegalTransitions := 7 }) 4
        50).2.stats.illegalTransitions = 7 := by
  refine ⟨by decide, by decide, ?_⟩
  have hrun := represents_runCalls 0 default (some idleBackend) () () startedCalls
  exact ⟨hrun.1, hrun.2 (.invoke (.requestStop 4 50)) 7 rfl⟩

end FourVrs.Core
