import FourVrs.Core.PortControl

/-!
# What the runtime does with its transactions

A client of the port runtime sees the transactions in the queue, the active one, the
runtime's generation and the context of the completion callback. `PortRuntime.view`
gathers these, and three relations are all that a call can do to them: `Settle` marks
the active transaction as transmitted or finishes it with a callback, `Drop` drops the
front of the queue with a callback, `Take` makes the front of the queue the active
transaction. A call takes at most once, and last, so the generation never changes
before a callback. `served_exec` proves it for every operation that is not a
submission; what the moves keep is then kept by every call.
-/

set_option autoImplicit false

namespace FourVrs.Core

variable {σ κ : Type}

structure PortView (κ : Type) where
  context : κ
  generation : BitVec 32
  active : Option CoreTransaction
  queue : List CoreTransaction
  accepted : List CoreTransaction

def PortRuntime.view (port : PortRuntime σ κ) : PortView κ where
  context := port.completionContext
  generation := port.generation
  active := if port.hasActive then some port.active else none
  queue := port.queue.toList
  accepted := port.accepted

/-- The view without its active transaction. -/
def PortView.release (v : PortView κ) : PortView κ := { v with active := none }

/-- The transactions the runtime has to answer for. -/
def PortView.outstanding (v : PortView κ) : List CoreTransaction := v.active.toList ++ v.queue

/-- `t'` is `t` with another status: the record a callback sees. -/
structure CoreTransaction.Reports (t' t : CoreTransaction) : Prop where
  submitted : t'.submitted = t.submitted
  generation : t'.generation = t.generation
  requestTransmitted : t'.requestTransmitted = t.requestTransmitted

inductive Settle (notify : CoreCompletionFn κ) : PortView κ → PortView κ → Prop where
  | mark (v : PortView κ) (t : CoreTransaction) (held : v.active = some t) :
      Settle notify v { v with active := some { t with requestTransmitted := true } }
  | finish (v : PortView κ) (t t' : CoreTransaction) (status : CoreTransactionStatus)
      (response : List UInt8) (held : v.active = some t) (same : t'.Reports t) :
      Settle notify v { v with context := notify v.context t' status response }.release

inductive Drop (notify : CoreCompletionFn κ) : PortView κ → PortView κ → Prop where
  | mk (v : PortView κ) (t t' : CoreTransaction) (rest : List CoreTransaction)
      (status : CoreTransactionStatus) (line : v.queue = t :: rest)
      (unserved : status = .timedOut ∨ status = .cancelled) (same : t'.Reports t) :
      Drop notify v { v with context := notify v.context t' status [], queue := rest }

inductive Take : PortView κ → PortView κ → Prop where
  | mk (v : PortView κ) (t t' : CoreTransaction) (rest : List CoreTransaction)
      (line : v.queue = t :: rest) (free : v.active = none) (same : t'.submitted = t.submitted)
      (unsent : t'.requestTransmitted = t.requestTransmitted)
      (fresh : t'.generation = nextGeneration v.generation) :
      Take v
        { v with generation := nextGeneration v.generation, active := some t', queue := rest }

abbrev Settles (notify : CoreCompletionFn κ) : PortView κ → PortView κ → Prop :=
  Relation.ReflTransGen (Settle notify)

/-- Transactions leave with their callbacks. -/
abbrev Sheds (notify : CoreCompletionFn κ) : PortView κ → PortView κ → Prop :=
  Relation.ReflTransGen fun v v' => Settle notify v v' ∨ Drop notify v v'

variable {notify : CoreCompletionFn κ} {port : PortRuntime σ κ} (backend : CoreBackendOps σ)
  {v v' : PortView κ}

theorem Settles.sheds (h : Settles notify v v') : Sheds notify v v' := by
  induction h with
  | refl => exact .refl
  | tail _ hmove ih => exact ih.tail (.inl hmove)

theorem Settles.queue_eq (h : Settles notify v v') : v'.queue = v.queue := by
  induction h with
  | refl => rfl
  | tail _ hmove ih =>
    rw [← ih]
    cases hmove <;> rfl

/-- One call of the runtime. -/
inductive Served (notify : CoreCompletionFn κ) (v v' : PortView κ) : Prop where
  | shed (h : Sheds notify v v')
  | taken (w : PortView κ) (h : Sheds notify v w) (ht : Take w v')

theorem Served.of_eq (h : v' = v) :
    Served notify v v' := .shed (h ▸ .refl)

theorem Settles.served (h : Settles notify v v') : Served notify v v' := .shed h.sheds

theorem Served.head {v v' v'' : PortView κ} (h : Sheds notify v v') (hs : Served notify v' v'') :
    Served notify v v'' := by
  cases hs with
  | shed hs => exact .shed (h.trans hs)
  | taken w hs ht => exact .taken w (h.trans hs) ht

/-- **What the moves keep is kept by a call.** `Post` may be less than `Inv`: it need not
    survive another callback. -/
theorem Served.keeps (hs : Served notify v v') (Inv Post : PortView κ → Prop)
    (hsettle : ∀ w w', Inv w → Settle notify w w' → Inv w')
    (hdrop : ∀ w w', Inv w → Drop notify w w' → Inv w') (hpost : ∀ w, Inv w → Post w)
    (htake : ∀ w w', Inv w → Take w w' → Post w') (h : Inv v) : Post v' := by
  have hsheds : ∀ w, Sheds notify v w → Inv w := by
    intro w hw
    induction hw with
    | refl => exact h
    | tail _ hmove ih =>
      cases hmove with
      | inl hmove => exact hsettle _ _ ih hmove
      | inr hmove => exact hdrop _ _ ih hmove
  cases hs with
  | shed hs => exact hpost _ (hsheds _ hs)
  | taken w hs ht => exact htake _ _ (hsheds w hs) ht

/-! ## Generations -/

/-- The active transaction carries the runtime's generation, the queued ones none. -/
structure PortView.Fresh (v : PortView κ) : Prop where
  active : ∀ t, v.active = some t → t.generation = v.generation
  queue : ∀ t ∈ v.queue, t.generation = 0

theorem PortView.Fresh.settle (h : v.Fresh) (hmove : Settle notify v v') : v'.Fresh := by
  cases hmove with
  | mark t held =>
    refine ⟨?_, h.queue⟩
    intro t' ht'
    cases ht'
    exact h.active t held
  | finish t t' status response held same =>
    refine ⟨?_, h.queue⟩
    intro t' ht'
    cases ht'

theorem PortView.Fresh.drop (h : v.Fresh) (hmove : Drop notify v v') : v'.Fresh := by
  obtain ⟨t, t', rest, status, line, -, -⟩ := hmove
  exact ⟨h.active, fun t ht => h.queue t (line ▸ List.mem_cons_of_mem _ ht)⟩

theorem PortView.Fresh.take (h : v.Fresh) (hmove : Take v v') : v'.Fresh := by
  obtain ⟨t, t', rest, line, -, -, -, fresh⟩ := hmove
  refine ⟨?_, fun t ht => h.queue t (line ▸ List.mem_cons_of_mem _ ht)⟩
  intro t'' ht''
  cases ht''
  exact fresh

/-! ## The helpers -/

@[simp] theorem view_tally (port : PortRuntime σ κ) (f : PortStatistics → PortStatistics) :
    (port.tally f).view = port.view := rfl

@[simp] theorem view_transition (port : PortRuntime σ κ) (next : PortState) :
    (portRuntimeTransition port next).2.view = port.view := by
  unfold portRuntimeTransition
  split <;> rfl

@[simp] theorem view_countStale (port : PortRuntime σ κ) (result : Int) (event : BackendEvent) :
    (countStale port result event).view = port.view := by
  unfold countStale
  split <;> rfl

@[simp] theorem view_clearActive (port : PortRuntime σ κ) :
    (clearActive port).view = port.view.release := rfl

theorem view_active (h : port.hasActive = true) :
    port.view.active = some port.active := if_pos h

theorem view_active_idle (h : port.hasActive = false) :
    port.view.active = none := by
  simp [PortRuntime.view, h]

@[simp] theorem view_abandonActive (port : PortRuntime σ κ) :
    (abandonActive port).view = port.view.release := by
  unfold abandonActive
  split
  · rfl
  · rename_i hidle
    unfold PortView.release
    rw [← view_active_idle (Bool.eq_false_iff.mpr hidle)]

@[simp] theorem view_beginRecovery (port : PortRuntime σ κ) (now : CoreTick) (error : String) :
    (beginRecovery port now error).view = port.view.release := by
  unfold beginRecovery
  rw [view_transition]
  exact view_abandonActive port

theorem CoreTransaction.Reports.refl (t : CoreTransaction) : t.Reports t := ⟨rfl, rfl, rfl⟩

/-- Reporting the active transaction and letting go of it is `finish`. The port that
    reports may differ from `before` in what the view leaves out and in the status of
    its active record. -/
theorem settles_finish {port before : PortRuntime σ κ} (hc : port.completion = some notify)
    (hactive : before.hasActive = true) (hsame : port.view.release = before.view.release)
    (hrecord : port.active.Reports before.active) (status : CoreTransactionStatus) (response : List UInt8) :
    Settles notify before.view (finishActive port status response).view.release := by
  have hreport : (finishActive port status response).view.release =
      { port.view.release with
        context :=
          notify port.view.release.context { port.active with status := status } status
            response } := by
    simp [PortView.release, PortRuntime.view, finishActive, notifyCompletion, hc]
  rw [hreport, hsame]
  exact .single (.finish before.view before.active _ status response (view_active hactive)
    ⟨hrecord.submitted, hrecord.generation, hrecord.requestTransmitted⟩)

theorem settles_abortActive {port before : PortRuntime σ κ} (hc : port.completion = some notify)
    (hactive : before.hasActive = true) (hsame : port.view.release = before.view.release)
    (hrecord : port.active.Reports before.active) :
    Settles notify before.view (abortActive port).view := by
  unfold abortActive
  rw [view_clearActive]
  exact settles_finish (by exact hc) hactive hsame hrecord _ _

/-! ## Draining the queue -/

theorem view_pop {transaction : CoreTransaction} {queue : TransactionQueue}
    (h : queuePop port.queue = some (transaction, queue)) :
    port.view.queue = transaction :: queue.toList := queuePop_toList h

theorem sheds_flushLoop (passes : Nat) (hc : port.completion = some notify) :
    Sheds notify port.view (flushLoop passes port).view := by
  induction passes generalizing port with
  | zero => exact .refl
  | succ passes ih =>
    unfold flushLoop
    split
    · exact .refl
    · rename_i transaction queue hpop
      refine .head ?_ (ih (by exact hc))
      have hview : (cancelQueued { port with queue := queue } transaction).view =
          { port.view with
            context :=
              notify port.view.context
                { transaction with status := .cancelled, cancelled := true } .cancelled []
            queue := queue.toList } := by
        simp [PortRuntime.view, cancelQueued, notifyCompletion, hc, PortRuntime.tally]
      rw [hview]
      exact .inr (.mk port.view transaction _ queue.toList .cancelled (view_pop hpop) (.inr rfl)
        ⟨rfl, rfl, rfl⟩)

theorem sheds_flushQueue (hc : port.completion = some notify) :
    Sheds notify port.view (flushQueue port).view :=
  sheds_flushLoop port.queue.count hc

theorem sheds_cancelAll (hc : port.completion = some notify) : Sheds notify port.view (cancelAll port).view := by
  unfold cancelAll
  split
  · rename_i hactive
    exact (settles_abortActive hc hactive rfl (.refl _)).sheds.trans
      (sheds_flushQueue (by exact hc))
  · exact sheds_flushQueue hc

/-! ## The step -/

theorem take_activate {transaction : CoreTransaction} {queue : TransactionQueue}
    (hpop : queuePop port.queue = some (transaction, queue)) (hidle : port.hasActive = false) (now : CoreTick) :
    Take port.view (activate (updateDepth { port with queue := queue }) transaction now).view := by
  unfold activate
  rw [view_transition]
  exact Take.mk port.view transaction _ queue.toList (view_pop hpop) (view_active_idle hidle)
    rfl rfl rfl

theorem served_readyLoop (now : CoreTick) (passes : Nat) (hc : port.completion = some notify)
    (hidle : port.hasActive = false) :
    Served notify port.view (readyLoop now passes port).view := by
  induction passes generalizing port with
  | zero => exact .of_eq rfl
  | succ passes ih =>
    unfold readyLoop
    split
    · exact .of_eq rfl
    rename_i transaction queue hpop
    split
    · refine .head ?_ (ih (by exact hc) rfl)
      have hview : (expireQueued (updateDepth { port with queue := queue }) transaction).view =
          { port.view with
            context :=
              notify port.view.context { transaction with status := .timedOut } .timedOut []
            queue := queue.toList } := by
        simp [PortRuntime.view, expireQueued, finishActive, clearActive, notifyCompletion, hc,
          PortRuntime.tally, updateDepth, hidle]
      rw [hview]
      exact .single (.inr (.mk port.view transaction _ queue.toList .timedOut (view_pop hpop)
        (.inl rfl) ⟨rfl, rfl, rfl⟩))
    · exact .taken _ .refl (take_activate hpop hidle now)

theorem settles_markTransmitted (hactive : port.hasActive = true) :
    Settles notify port.view (markTransmitted port).view := by
  have hview : (markTransmitted port).view =
      { port.view with active := some { port.active with requestTransmitted := true } } := by
    simp [PortRuntime.view, markTransmitted, hactive]
  rw [hview]
  exact .single (.mark port.view port.active (view_active hactive))

theorem settles_handleEvent (hc : port.completion = some notify) (hactive : port.hasActive = true)
    (event : BackendEvent) (now : CoreTick) :
    Settles notify port.view (handleEvent port event now).view := by
  have hmark : Settles notify port.view (markTransmitted port).view :=
    settles_markTransmitted hactive
  unfold handleEvent
  split
  · exact hmark
  · rw [view_transition, view_clearActive]
    exact hmark.trans (settles_finish (by exact hc) (by exact hactive) rfl (.refl _) _ _)
  · rw [view_beginRecovery]
    exact hmark.trans (settles_finish (by exact hc) (by exact hactive) rfl (.refl _) _ _)
  · rw [view_beginRecovery]
    exact settles_finish (by exact hc) hactive rfl (.refl _) _ _

theorem settles_afterPoll (port : PortRuntime σ κ) (hc : port.completion = some notify) (result : Int)
    (event : BackendEvent) (now : CoreTick) :
    Settles notify port.view (afterPoll port result event now).view := by
  unfold afterPoll
  split
  · split
    · exact .refl
    · rename_i hguard
      have hactive : port.hasActive = true := by
        simp only [Bool.or_eq_true, Bool.not_eq_true', not_or, Bool.not_eq_false] at hguard
        exact hguard.1
      exact settles_handleEvent hc hactive event now
  split
  · rename_i hguard
    have hactive : port.hasActive = true := (Bool.and_eq_true_iff.mp hguard).1
    rw [view_beginRecovery]
    exact settles_finish (by exact hc) hactive rfl (.refl _) _ _
  · exact .refl

theorem view_recoverNow (port : PortRuntime σ κ) (now : CoreTick) :
    (recoverNow backend port now).view = port.view := by
  unfold recoverNow recoverFailed
  split
  · rw [view_transition]; rfl
  · split
    · rw [view_transition]; rfl
    · rfl

theorem view_stepRecovering (port : PortRuntime σ κ) (now : CoreTick) :
    (stepRecovering backend port now).view = port.view := by
  unfold stepRecovering
  split
  split
  · rw [view_recoverNow, view_countStale]; rfl
  · rw [view_countStale]; rfl

theorem view_fallBack (port : PortRuntime σ κ) (now : CoreTick)
    {success failure : PortRuntime σ κ → PortRuntime σ κ} (hsuccess : ∀ p, (success p).view = p.view)
    (hfailure : ∀ p, (failure p).view = p.view) :
    (fallBack backend port now success failure).view = port.view := by
  unfold fallBack
  split
  · rw [view_transition, view_tally, hsuccess]; rfl
  · rw [view_transition, hfailure]; rfl

theorem view_stepReconfiguring (port : PortRuntime σ κ) (now : CoreTick) :
    (stepReconfiguring backend port now).view = port.view := by
  unfold stepReconfiguring
  split
  · exact view_fallBack backend (setError port _) now (fun _ => rfl) (fun _ => rfl)
  split
  · rw [view_transition]; rfl
  · rename_i context _ _
    exact view_fallBack backend { port with backendContext := context } now
      (fun _ => rfl) (fun _ => rfl)

theorem view_stepStopping (port : PortRuntime σ κ) (now : CoreTick) :
    (stepStopping backend port now).view = port.view := by
  unfold stepStopping
  split
  · rw [view_transition]; rfl
  · split
    · rw [view_transition]; rfl
    · rfl

theorem PortView.release_of_idle {v : PortView κ} (h : v.active = none) : v.release = v := by
  unfold PortView.release
  rw [← h]

theorem view_stepStarting (hidle : port.hasActive = false) (now : CoreTick) :
    (stepStarting backend port now).view = port.view := by
  unfold stepStarting
  split
  · rw [view_transition]; rfl
  split
  · rw [view_beginRecovery]
    exact PortView.release_of_idle (view_active_idle hidle)
  · rfl

theorem settles_stepActive (hc : port.completion = some notify) (hactive : port.hasActive = true)
    (now : CoreTick) :
    Settles notify port.view (stepActive backend port now).view := by
  unfold stepActive
  split
  · rw [view_transition]
    exact .refl
  · rw [view_beginRecovery]
    exact settles_finish (by exact hc) hactive rfl (.refl _) _ _

/-- Only a ready port touches its queue in a step. -/
theorem settles_portRuntimeStep (hcoherent : port.Coherent) (hc : port.completion = some notify)
    (hready : port.state ≠ .ready) (now : CoreTick) :
    Settles notify port.view (portRuntimeStep port now).view := by
  have hkeep : ∀ {port' : PortRuntime σ κ}, port'.view = port.view →
      Settles notify port.view port'.view := fun h => h ▸ .refl
  unfold portRuntimeStep
  split
  · exact .refl
  rename_i backend _
  split
  · rename_i hstate
    exact hkeep (view_stepStarting backend (hcoherent.hasActive_of_state hstate) now)
  · exact absurd ‹_› hready
  · rename_i hstate
    exact settles_stepActive backend hc (hcoherent.hasActive_of_state hstate) now
  · unfold stepWaiting
    split
    rename_i context _
    exact settles_afterPoll { port with backendContext := context } hc _ _ now
  · exact hkeep (view_stepRecovering backend port now)
  · exact hkeep (view_stepReconfiguring backend port now)
  · exact hkeep (view_stepStopping backend port now)
  · exact .refl
  · exact .refl
  · exact .refl

theorem served_portRuntimeStep (hcoherent : port.Coherent) (hc : port.completion = some notify)
    (now : CoreTick) :
    Served notify port.view (portRuntimeStep port now).view := by
  by_cases hready : port.state = .ready
  · unfold portRuntimeStep
    split
    · exact .of_eq rfl
    · rw [hready]
      exact served_readyLoop now _ hc (hcoherent.hasActive_of_state hready)
  · exact (settles_portRuntimeStep hcoherent hc hready now).served

/-! ## Submissions and requests -/

theorem view_enqueue (port : PortRuntime σ κ) (r : SubmitRequest) :
    (enqueue port r).1 = .accepted ∧ (enqueue port r).2.1 = (newTransaction port r).id ∧
        (enqueue port r).2.2.view =
          { port.view with
            queue := port.view.queue ++ [newTransaction port r]
            accepted := port.view.accepted ++ [newTransaction port r] } ∨
      (enqueue port r).1 ≠ .accepted ∧ (enqueue port r).2.2.view = port.view := by
  unfold enqueue
  split
  · exact .inr ⟨by simp, rfl⟩
  · rename_i queue hpush
    refine .inl ⟨rfl, rfl, ?_⟩
    show { port.view with
      queue := queue.toList, accepted := port.accepted ++ [newTransaction port r] } = _
    rw [queuePush_toList hpush]
    rfl

/-- A submission is refused, or it puts its transaction at the end of the queue. -/
theorem view_submit (port : PortRuntime σ κ) (r : SubmitRequest) :
    (portRuntimeSubmitOperation port r).1 = .accepted ∧
        (portRuntimeSubmitOperation port r).2.1 = (newTransaction port r).id ∧
        (portRuntimeSubmitOperation port r).2.2.view =
          { port.view with
            queue := port.view.queue ++ [newTransaction port r]
            accepted := port.view.accepted ++ [newTransaction port r] } ∨
      (portRuntimeSubmitOperation port r).1 ≠ .accepted ∧
        (portRuntimeSubmitOperation port r).2.2.view = port.view := by
  unfold portRuntimeSubmitOperation
  split
  · exact .inr ⟨by simp, rfl⟩
  · split <;> first
      | exact .inr ⟨by simp, rfl⟩
      | exact view_enqueue port r

theorem view_portRuntimeStart (port : PortRuntime σ κ) (now startTimeout : CoreTick) :
    (portRuntimeStart port now startTimeout).2.view = port.view := by
  unfold portRuntimeStart
  split
  · rfl
  · have hkept := view_transition port .starting
    split
    · rename_i hstart
      rw [hstart] at hkept
      exact hkept
    · rename_i hstart
      rw [hstart] at hkept
      exact hkept

theorem settles_portRuntimeCancelActive (hc : port.completion = some notify) (now : CoreTick) :
    Settles notify port.view (portRuntimeCancelActive port now).2.view := by
  unfold portRuntimeCancelActive
  split
  · exact .refl
  · rename_i hguard
    rw [view_transition]
    exact settles_abortActive (by exact hc) (by simpa using hguard) rfl ⟨rfl, rfl, rfl⟩

theorem sheds_portRuntimeDetachListener (hc : port.completion = some notify) (now : CoreTick) :
    Sheds notify port.view (portRuntimeDetachListener port now).2.view := by
  have hflushed : (flushQueue port).completion = some notify :=
    (congrArg PortControl.completion (control_flushQueue port)).trans hc
  unfold portRuntimeDetachListener
  split
  · exact (sheds_flushQueue hc).trans (settles_portRuntimeCancelActive hflushed now).sheds
  · exact sheds_flushQueue hc

theorem view_portRuntimeReportIoFailure (port : PortRuntime σ κ) (now : CoreTick)
    (message : String) :
    (portRuntimeReportIoFailure port now message).2.view = port.view := by
  unfold portRuntimeReportIoFailure
  split
  · rfl
  · rename_i hguard
    have hidle : port.hasActive = false := by
      by_cases hactive : port.hasActive = true
      · exact absurd (by simp [hactive]) hguard
      · simpa using hactive
    rw [view_beginRecovery]
    exact PortView.release_of_idle (view_active_idle hidle)

theorem sheds_portRuntimeRequestReconfigure (hc : port.completion = some notify) (config : CorePortConfig)
    (now timeout : CoreTick) :
    Sheds notify port.view (portRuntimeRequestReconfigure port config now timeout).2.view := by
  unfold portRuntimeRequestReconfigure
  split
  · exact .refl
  · split <;> first
      | exact .refl
      | (rw [view_transition]; exact sheds_cancelAll hc)

theorem sheds_portRuntimeRequestStop (hc : port.completion = some notify) (now timeout : CoreTick) :
    Sheds notify port.view (portRuntimeRequestStop port now timeout).2.view := by
  unfold portRuntimeRequestStop
  split
  · exact .refl
  · rw [view_transition]
    exact sheds_cancelAll hc

/-- The request an operation hands to `port_runtime_submit_operation`. -/
def PortOp.request : PortOp → Option SubmitRequest
  | .submit request =>
      some
        { request with
          metadata := none
          operation := some
            { direction := .txThenRx, responsePolicy := .backendFramed
              expectedResponseLength := 0 } }
  | .submitWithMetadata request =>
      some
        { request with
          operation := some
            { direction := .txThenRx, responsePolicy := .backendFramed
              expectedResponseLength := 0 } }
  | .submitOperation request => some request
  | _ => none

/-- **What an operation does to the view**, if it submits nothing. -/
theorem served_exec (hcoherent : port.Coherent) (hc : port.completion = some notify) {op : PortOp}
    (hop : op.request = none) : Served notify port.view (op.exec port).view := by
  cases op with
  | start now startTimeout => exact .of_eq (view_portRuntimeStart port now startTimeout)
  | submit request | submitWithMetadata request | submitOperation request => cases hop
  | step now => exact served_portRuntimeStep hcoherent hc now
  | cancelActive now => exact (settles_portRuntimeCancelActive hc now).served
  | detachListener now => exact .shed (sheds_portRuntimeDetachListener hc now)
  | reportIoFailure now message => exact .of_eq (view_portRuntimeReportIoFailure port now message)
  | requestReconfigure config now timeout =>
    exact .shed (sheds_portRuntimeRequestReconfigure hc config now timeout)
  | requestStop now timeout => exact .shed (sheds_portRuntimeRequestStop hc now timeout)

end FourVrs.Core
