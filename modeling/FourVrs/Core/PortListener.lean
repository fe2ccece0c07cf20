import FourVrs.Core.PortControl

/-!
# What the runtime does to its listener's object

The runtime holds the object of its completion callback and calls nothing of it but the
callback. So a property of the object that the callback keeps is one that every step and
every request keeps.
-/

set_option autoImplicit false

namespace FourVrs.Core

variable {σ κ : Type}

/-- Some calls of the callback, if there is one. -/
abbrev Notifies (completion : Option (CoreCompletionFn κ)) : κ → κ → Prop :=
  Relation.ReflTransGen fun context context' =>
    ∃ notify ∈ completion, ∃ transaction status response,
      context' = notify context transaction status response

/-- The callback stays the same, and nothing else has happened to its object. -/
structure Tells (port port' : PortRuntime σ κ) : Prop where
  completion : port'.completion = port.completion
  context : Notifies port.completion port.completionContext port'.completionContext

theorem Tells.refl (port : PortRuntime σ κ) : Tells port port := ⟨rfl, .refl⟩

theorem Tells.trans {port port' port'' : PortRuntime σ κ} (h : Tells port port') (h' : Tells port' port'') :
    Tells port port'' :=
  ⟨h'.completion.trans h.completion, h.context.trans (h.completion ▸ h'.context)⟩

/-- An update of the other fields before the calls changes nothing about them. -/
theorem Tells.after {port port' port'' : PortRuntime σ κ} (h : Tells port' port'')
    (hcompletion : port'.completion = port.completion)
    (hcontext : port'.completionContext = port.completionContext) : Tells port port'' :=
  ⟨h.completion.trans hcompletion, hcompletion ▸ hcontext ▸ h.context⟩

/-- Nor does one after them. -/
theorem Tells.before {port port' port'' : PortRuntime σ κ} (h : Tells port port')
    (hcompletion : port''.completion = port'.completion)
    (hcontext : port''.completionContext = port'.completionContext) : Tells port port'' :=
  ⟨hcompletion.trans h.completion, hcontext ▸ h.context⟩

theorem tells_of_same {port port' : PortRuntime σ κ} (hcompletion : port'.completion = port.completion)
    (hcontext : port'.completionContext = port.completionContext) : Tells port port' :=
  ⟨hcompletion, hcontext ▸ .refl⟩

/-- The rule: what the callback keeps of the object is kept. -/
theorem Tells.keeps {α : Type} {obs : κ → α} {port port' : PortRuntime σ κ} (h : Tells port port')
    (hkeeps : ∀ notify ∈ port.completion, ∀ context transaction status response,
      obs (notify context transaction status response) = obs context) :
    obs port'.completionContext = obs port.completionContext := by
  have hcontext := h.context
  generalize port'.completionContext = context' at hcontext
  induction hcontext with
  | refl => rfl
  | tail _ hone ih =>
    obtain ⟨notify, hnotify, transaction, status, response, rfl⟩ := hone
    exact (hkeeps notify hnotify _ transaction status response).trans ih

/-! ## The helpers -/

variable (port : PortRuntime σ κ)

theorem tells_transition (next : PortState) : Tells port (portRuntimeTransition port next).2 := by
  unfold portRuntimeTransition
  split
  · exact tells_of_same rfl rfl
  · exact tells_of_same rfl rfl

theorem tells_notifyCompletion (transaction : CoreTransaction) (status : CoreTransactionStatus)
    (response : List UInt8) : Tells port (notifyCompletion port transaction status response) := by
  refine ⟨rfl, ?_⟩
  unfold notifyCompletion
  cases hcompletion : port.completion with
  | none => exact .refl
  | some notify => exact .single ⟨notify, by simp, transaction, status, response, rfl⟩

theorem tells_finishActive (status : CoreTransactionStatus) (response : List UInt8) :
    Tells port (finishActive port status response) :=
  Tells.after (tells_notifyCompletion _ _ status response) rfl rfl

theorem tells_abandonActive : Tells port (abandonActive port) := by
  unfold abandonActive
  split
  · exact tells_of_same rfl rfl
  · exact .refl port

variable (backend : CoreBackendOps σ) (now : CoreTick)

theorem tells_beginRecovery (error : String) :
    Tells port (beginRecovery port now error) := by
  have hset : Tells (abandonActive port)
      { setError (abandonActive port) error with
        recoveryAttempts := 0
        stateDeadline := coreDeadlineAfter now port.recoveryDelay } := tells_of_same rfl rfl
  exact (tells_abandonActive port).trans (hset.trans (tells_transition _ _))

theorem tells_countStale (result : Int) (event : BackendEvent) :
    Tells port (countStale port result event) := by
  unfold countStale
  split
  · exact tells_of_same rfl rfl
  · exact .refl port

theorem tells_flushLoop (passes : Nat) : Tells port (flushLoop passes port) := by
  induction passes generalizing port with
  | zero => exact .refl port
  | succ passes ih =>
    unfold flushLoop
    split
    · exact .refl port
    · refine Tells.trans ?_ (ih _)
      exact ((tells_notifyCompletion _ _ .cancelled []).after rfl rfl).before rfl rfl

theorem tells_flushQueue : Tells port (flushQueue port) :=
  (tells_flushLoop port port.queue.count).trans (tells_of_same rfl rfl)

theorem tells_abortActive : Tells port (abortActive port) := by
  have hcancel : Tells port ((backendCancel port port.active.generation).tally fun s =>
      { s with cancelled := increment s.cancelled }) := tells_of_same rfl rfl
  exact hcancel.trans ((tells_finishActive _ .cancelled []).trans (tells_of_same rfl rfl))

theorem tells_cancelAll : Tells port (cancelAll port) := by
  unfold cancelAll
  split
  · exact (tells_abortActive port).trans (tells_flushQueue _)
  · exact tells_flushQueue port

/-! ## The step -/

theorem tells_readyLoop (passes : Nat) : Tells port (readyLoop now passes port) := by
  induction passes generalizing port with
  | zero => exact .refl port
  | succ passes ih =>
    unfold readyLoop
    split
    · exact .refl port
    split
    · refine Tells.trans ?_ (ih _)
      exact Tells.after
        ((tells_finishActive _ .timedOut []).trans (tells_of_same rfl rfl)) rfl rfl
    · exact Tells.after (tells_transition _ _) rfl rfl

theorem tells_stepStarting :
    Tells port (stepStarting backend port now) := by
  unfold stepStarting
  split
  · exact Tells.after (tells_transition _ _) rfl rfl
  · split
    · exact Tells.after (tells_beginRecovery _ _ _) rfl rfl
    · exact tells_of_same rfl rfl

theorem tells_stepActive :
    Tells port (stepActive backend port now) := by
  unfold stepActive
  split
  · exact Tells.after (tells_transition _ _) rfl rfl
  · exact Tells.after
      ((tells_finishActive _ .failed []).trans (tells_beginRecovery _ _ _)) rfl rfl

theorem tells_handleEvent (event : BackendEvent) (now : CoreTick) :
    Tells port (handleEvent port event now) := by
  unfold handleEvent
  split
  · exact tells_of_same rfl rfl
  · exact Tells.after
      ((tells_finishActive _ .completed event.data).trans
        (Tells.after (tells_transition _ _) rfl rfl)) rfl rfl
  · exact Tells.after
      ((tells_finishActive _ .malformed event.data).trans (tells_beginRecovery _ _ _)) rfl rfl
  · exact Tells.after
      ((tells_finishActive _ .failed []).trans (tells_beginRecovery _ _ _)) rfl rfl

theorem tells_afterPoll (result : Int) (event : BackendEvent) (now : CoreTick) :
    Tells port (afterPoll port result event now) := by
  unfold afterPoll
  split
  · split
    · exact tells_of_same rfl rfl
    · exact tells_handleEvent port event now
  split
  · exact Tells.after
      ((tells_finishActive _ .timedOut []).trans (tells_beginRecovery _ _ _)) rfl rfl
  · exact .refl port

theorem tells_recoverNow :
    Tells port (recoverNow backend port now) := by
  unfold recoverNow
  split
  · exact Tells.after (tells_transition _ _) rfl rfl
  · unfold recoverFailed
    split
    · exact Tells.after (tells_transition _ _) rfl rfl
    · exact tells_of_same rfl rfl

theorem tells_stepRecovering :
    Tells port (stepRecovering backend port now) := by
  unfold stepRecovering
  split
  rename_i result event context _
  have hstale : Tells port (countStale { port with backendContext := context } result event) :=
    Tells.after (tells_countStale _ result event) rfl rfl
  split
  · exact hstale.trans (tells_recoverNow _ backend now)
  · exact hstale

theorem tells_fallBack {success failure : PortRuntime σ κ → PortRuntime σ κ}
    (hsuccess : ∀ p, Tells p (success p)) (hfailure : ∀ p, Tells p (failure p)) :
    Tells port (fallBack backend port now success failure) := by
  unfold fallBack
  split
  · exact Tells.after
      ((hsuccess _).trans (Tells.after (tells_transition _ _) rfl rfl)) rfl rfl
  · exact Tells.after ((hfailure _).trans (tells_transition _ _)) rfl rfl

theorem tells_stepReconfiguring :
    Tells port (stepReconfiguring backend port now) := by
  have herror : ∀ (message : String) (p : PortRuntime σ κ), Tells p (setError p message) :=
    fun _ _ => tells_of_same rfl rfl
  unfold stepReconfiguring
  split
  · exact (herror _ port).trans (tells_fallBack _ backend now (fun p => .refl p) fun p => .refl p)
  · split
    · exact Tells.after (tells_transition _ _) rfl rfl
    · exact Tells.after (tells_fallBack _ backend now (herror _) (herror _)) rfl rfl

theorem tells_stepStopping :
    Tells port (stepStopping backend port now) := by
  unfold stepStopping
  split
  · exact Tells.after (tells_transition _ _) rfl rfl
  · split
    · exact Tells.after (tells_transition _ _) rfl rfl
    · exact tells_of_same rfl rfl

theorem tells_portRuntimeStep : Tells port (portRuntimeStep port now) := by
  unfold portRuntimeStep
  split
  · exact .refl port
  rename_i backend _
  split
  · exact tells_stepStarting port backend now
  · exact tells_readyLoop port now _
  · exact tells_stepActive port backend now
  · unfold stepWaiting
    split
    exact Tells.after (tells_afterPoll _ _ _ now) rfl rfl
  · exact tells_stepRecovering port backend now
  · exact tells_stepReconfiguring port backend now
  · exact tells_stepStopping port backend now
  · exact .refl port
  · exact .refl port
  · exact .refl port

/-! ## Requests -/

theorem tells_portRuntimeStart (now startTimeout : CoreTick) :
    Tells port (portRuntimeStart port now startTimeout).2 := by
  have hkept := tells_transition port .starting
  unfold portRuntimeStart
  split
  · exact .refl port
  · split <;> rename_i heq <;> rw [heq] at hkept
    · exact hkept.trans (tells_of_same rfl rfl)
    · exact hkept

theorem tells_portRuntimeSubmitOperation (r : SubmitRequest) :
    Tells port (portRuntimeSubmitOperation port r).2.2 := by
  unfold portRuntimeSubmitOperation enqueue
  split
  · exact tells_of_same rfl rfl
  · split <;> first
      | exact tells_of_same rfl rfl
      | (split <;> exact tells_of_same rfl rfl)

theorem tells_portRuntimeReportIoFailure (message : String) :
    Tells port (portRuntimeReportIoFailure port now message).2 := by
  unfold portRuntimeReportIoFailure
  split
  · exact .refl port
  · exact Tells.after (tells_beginRecovery _ now message) rfl rfl

theorem tells_portRuntimeCancelActive :
    Tells port (portRuntimeCancelActive port now).2 := by
  unfold portRuntimeCancelActive
  split
  · exact .refl _
  · refine Tells.trans ?_ (tells_transition _ _)
    have habort : Tells port (abortActive { port with
        active := { port.active with cancelled := true, status := .cancelled }
        responseBarrierGeneration := port.active.generation }) :=
      (tells_abortActive _).after rfl rfl
    exact habort.before rfl rfl

theorem tells_portRuntimeDetachListener :
    Tells port (portRuntimeDetachListener port now).2 := by
  unfold portRuntimeDetachListener
  split
  · exact (tells_flushQueue port).trans (tells_portRuntimeCancelActive _ now)
  · exact tells_flushQueue port

theorem tells_portRuntimeRequestReconfigure (config : CorePortConfig) (now timeout : CoreTick) :
    Tells port (portRuntimeRequestReconfigure port config now timeout).2 := by
  unfold portRuntimeRequestReconfigure
  split
  · exact .refl port
  · split <;> first
      | exact .refl port
      | exact (tells_cancelAll port).trans (Tells.after (tells_transition _ _) rfl rfl)

theorem tells_portRuntimeRequestStop (now timeout : CoreTick) :
    Tells port (portRuntimeRequestStop port now timeout).2 := by
  unfold portRuntimeRequestStop
  split
  · exact .refl port
  · exact (tells_cancelAll port).trans (Tells.after (tells_transition _ _) rfl rfl)

/-- Whatever the runtime is asked to do, it calls nothing but the callback. -/
theorem tells_exec (op : PortOp) : Tells port (op.exec port) := by
  cases op with
  | start now startTimeout => exact tells_portRuntimeStart port now startTimeout
  | submit request | submitWithMetadata request => exact tells_portRuntimeSubmitOperation port _
  | submitOperation request => exact tells_portRuntimeSubmitOperation port request
  | step now => exact tells_portRuntimeStep port now
  | cancelActive now => exact tells_portRuntimeCancelActive port now
  | detachListener now => exact tells_portRuntimeDetachListener port now
  | reportIoFailure now message => exact tells_portRuntimeReportIoFailure port now message
  | requestReconfigure config now timeout =>
    exact tells_portRuntimeRequestReconfigure port config now timeout
  | requestStop now timeout => exact tells_portRuntimeRequestStop port now timeout

end FourVrs.Core
