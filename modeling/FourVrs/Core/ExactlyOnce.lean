import FourVrs.Core.PortMoves
import FourVrs.Lib.Custody

/-!
# Exactly-once completion of the port runtime

Whatever order its callers and its backend act in, the runtime answers each
accepted transaction with one completion, takes them in acceptance order and
completes nothing else. The argument is a refinement: `custody` reads a port as a
`Custody` — the queue is the line, the active transaction the item in hand, the
completions seen so far the reports — and every entry point is shown to accept at
the back of the line or to make a sequence of the three moves. The rest is
`Lib.Custody`'s.

The completions are observed from outside: `recording` wraps an arbitrary callback
so that it also writes down what it is called with.
-/

set_option autoImplicit false

namespace FourVrs.Core

variable {σ κ : Type}

/-- One call of the completion callback. -/
structure CompletionRecord where
  transaction : CoreTransaction
  status : CoreTransactionStatus
  response : List UInt8
  deriving DecidableEq, Repr

/-- The callback `notify`, keeping the list of its calls. -/
def recording (notify : CoreCompletionFn κ) : CoreCompletionFn (List CompletionRecord × κ) :=
  fun context transaction status response =>
    (context.1 ++ [⟨transaction, status, response⟩],
      notify context.2 transaction status response)

/-- A port whose callback is observed. -/
abbrev ObservedPort (σ κ : Type) := PortRuntime σ (List CompletionRecord × κ)

def completions (port : ObservedPort σ κ) : List CompletionRecord := port.completionContext.1

/-- The queued transactions, each as it was submitted. -/
def waiting (port : ObservedPort σ κ) : List CoreTransaction :=
  port.queue.toList.map CoreTransaction.submitted

/-- The port as a custody of transactions. -/
def custody (port : ObservedPort σ κ) : Custody CoreTransaction where
  accepted := port.accepted
  queued := waiting port
  current := if port.hasActive then some port.active.submitted else none
  done := (completions port).map fun r => r.transaction.submitted

/-- The assumptions of a run: the port is coherent and its callback is `notify`. -/
structure Observed (notify : CoreCompletionFn κ) (port : ObservedPort σ κ) : Prop where
  coherent : port.Coherent
  completion : port.completion = some (recording notify)

/-! ## Moves are custody's -/

/-- What a custody reads off a view. -/
def PortView.custody (v : PortView (List CompletionRecord × κ)) : Custody CoreTransaction where
  accepted := v.accepted
  queued := v.queue.map CoreTransaction.submitted
  current := v.active.map CoreTransaction.submitted
  done := v.context.1.map fun r => r.transaction.submitted

theorem custody_view (port : ObservedPort σ κ) : custody port = port.view.custody := by
  unfold custody PortView.custody PortRuntime.view
  split <;> rfl

variable {notify : CoreCompletionFn κ} {port : ObservedPort σ κ} {v v' : PortView (List CompletionRecord × κ)}

theorem serves_settle (h : Settle (recording notify) v v') : Custody.Serves v.custody v'.custody := by
  cases h with
  | mark t held =>
    refine .of_eq ?_
    simp [PortView.custody, held, CoreTransaction.submitted]
  | finish t t' status response held same =>
    have hfinish := Custody.Serve.finish v.custody t.submitted (by simp [PortView.custody, held])
    have hdone : ({ v with context := recording notify v.context t' status response } :
        PortView _).release.custody =
        { v.custody with current := none, done := v.custody.done ++ [t.submitted] } := by
      simp [PortView.custody, PortView.release, recording, same.submitted]
    rw [hdone]
    exact .single hfinish

theorem serves_drop (h : Drop (recording notify) v v') : Custody.Serves v.custody v'.custody := by
  obtain ⟨t, t', rest, status, line, -, same⟩ := h
  have hdrop := Custody.Serve.drop v.custody t.submitted (rest.map CoreTransaction.submitted)
    (by simp [PortView.custody, line])
  have hdone : ({ v with context := recording notify v.context t' status [], queue := rest } :
      PortView _).custody =
      { v.custody with
        queued := rest.map CoreTransaction.submitted
        done := v.custody.done ++ [t.submitted] } := by
    simp [PortView.custody, recording, same.submitted]
  rw [hdone]
  exact .single hdrop

theorem serves_take (h : Take v v') :
    Custody.Serves v.custody v'.custody := by
  obtain ⟨t, t', rest, line, free, same, -, -⟩ := h
  have htake := Custody.Serve.take v.custody t.submitted (rest.map CoreTransaction.submitted)
    (by simp [PortView.custody, line]) (by simp [PortView.custody, free])
  rw [← same] at htake
  exact .single htake

/-- **A call serves.** -/
theorem serves_served (h : Served (recording notify) v v') : Custody.Serves v.custody v'.custody :=
  h.keeps (fun w => Custody.Serves v.custody w.custody)
    (fun w => Custody.Serves v.custody w.custody)
    (fun _ _ hw hmove => hw.trans (serves_settle hmove))
    (fun _ _ hw hmove => hw.trans (serves_drop hmove)) (fun _ hw => hw)
    (fun _ _ hw hmove => hw.trans (serves_take hmove)) .refl

theorem custody_pop {transaction : CoreTransaction} {queue : TransactionQueue}
    (h : queuePop port.queue = some (transaction, queue)) :
    (custody port).queued =
      transaction.submitted :: queue.toList.map CoreTransaction.submitted := by
  show port.queue.toList.map _ = _
  rw [queuePop_toList h, List.map_cons]

/-! ## Submissions -/

/-- The transaction an operation submits, if the answer is `CORE_ACCEPTED`. -/
def PortOp.accepts (port : PortRuntime σ κ) (op : PortOp) : List CoreTransaction :=
  match op.request with
  | some request =>
      if (portRuntimeSubmitOperation port request).1 = .accepted then
        [newTransaction port request]
      else []
  | none => []

/-- The accepted submissions of a run. -/
def submissions : List PortOp → PortRuntime σ κ → List CoreTransaction
  | [], _ => []
  | op :: ops, port => op.accepts port ++ submissions ops (op.exec port)

theorem custody_submit (port : ObservedPort σ κ) (r : SubmitRequest) :
    (portRuntimeSubmitOperation port r).1 = .accepted ∧
        custody (portRuntimeSubmitOperation port r).2.2 =
          (custody port).accept (newTransaction port r) ∨
      (portRuntimeSubmitOperation port r).1 ≠ .accepted ∧
        custody (portRuntimeSubmitOperation port r).2.2 = custody port := by
  rw [custody_view, custody_view]
  rcases view_submit port r with ⟨hresult, -, hview⟩ | ⟨hresult, hview⟩
  · refine .inl ⟨hresult, ?_⟩
    rw [hview]
    simp [PortView.custody, Custody.accept, newTransaction, CoreTransaction.submitted,
      zeroTransaction]
  · exact .inr ⟨hresult, congrArg PortView.custody hview⟩

/-- What an operation does: it accepts the transaction it submits, if it submits one
    and the answer is yes, or it serves. -/
structure Handles (port port' : ObservedPort σ κ) (accepted : List CoreTransaction) : Prop where
  evolves : Custody.Evolves (custody port) (custody port')
  accepted : port'.accepted = port.accepted ++ accepted

theorem handles_of_serves {port port' : ObservedPort σ κ}
    (h : Custody.Serves (custody port) (custody port')) : Handles port port' [] :=
  ⟨.serve (.refl _) h, (Custody.Serves.accepted_eq h).trans (List.append_nil _).symm⟩

theorem handles_submit (port : ObservedPort σ κ) (r : SubmitRequest) :
    Handles port (portRuntimeSubmitOperation port r).2.2
      (if (portRuntimeSubmitOperation port r).1 = .accepted then [newTransaction port r]
      else []) := by
  rcases custody_submit port r with ⟨hresult, hcustody⟩ | ⟨hresult, hcustody⟩
  · rw [if_pos hresult]
    exact ⟨hcustody ▸ .accept _ (.refl _), congrArg Custody.accepted hcustody⟩
  · rw [if_neg hresult]
    exact handles_of_serves (.of_eq hcustody)

theorem handles_exec (h : Observed notify port) (op : PortOp) :
    Handles port (op.exec port) (op.accepts port) := by
  cases hrequest : op.request with
  | some request =>
    have hexec : op.exec port = (portRuntimeSubmitOperation port request).2.2 := by
      cases op <;> cases hrequest <;> rfl
    have haccepts : op.accepts port =
        if (portRuntimeSubmitOperation port request).1 = .accepted then
          [newTransaction port request]
        else [] := by
      simp [PortOp.accepts, hrequest]
    rw [hexec, haccepts]
    exact handles_submit port request
  | none =>
    have haccepts : op.accepts port = [] := by simp [PortOp.accepts, hrequest]
    rw [haccepts]
    apply handles_of_serves
    rw [custody_view, custody_view]
    exact serves_served (served_exec h.coherent h.completion hrequest)

/-! ## Runs -/

theorem Observed.exec (h : Observed notify port) (op : PortOp) : Observed notify (op.exec port) := by
  obtain ⟨hcoherent, hcompletion⟩ := h.coherent.exec op
  exact ⟨hcoherent, hcompletion.trans h.completion⟩

/-- **Every run is an evolution of its custody.** -/
theorem handles_runPort (ops : List PortOp) (h : Observed notify port) :
    Observed notify (runPort ops port) ∧
      Handles port (runPort ops port) (submissions ops port) := by
  induction ops generalizing port with
  | nil => exact ⟨h, .refl _, (List.append_nil _).symm⟩
  | cons op ops ih =>
    obtain ⟨hobserved, hevolves, haccepted⟩ := ih (h.exec op)
    obtain ⟨hevolves₁, haccepted₁⟩ := handles_exec h op
    refine ⟨hobserved, hevolves₁.trans hevolves, ?_⟩
    show (runPort ops (op.exec port)).accepted = _
    rw [haccepted, haccepted₁, List.append_assoc]
    rfl

/-- Serial numbers count acceptances. -/
def Numbered (accepted : List CoreTransaction) : Prop :=
  accepted.map CoreTransaction.serial = List.range accepted.length

variable {accepted : List CoreTransaction}

theorem Numbered.submissions (h : Numbered accepted) (op : PortOp) (hport : port.accepted = accepted) :
    Numbered (accepted ++ op.accepts port) := by
  unfold PortOp.accepts
  split
  · split
    · unfold Numbered at *
      rw [List.map_append, h, List.length_append, List.length_singleton, List.range_succ]
      subst hport
      rfl
    · rw [List.append_nil]
      exact h
  · rw [List.append_nil]
    exact h

theorem numbered_runPort (ops : List PortOp) (h : Observed notify port) (hn : Numbered port.accepted) :
    Numbered (runPort ops port).accepted := by
  induction ops generalizing port with
  | nil => exact hn
  | cons op ops ih =>
    refine ih (h.exec op) ?_
    rw [(handles_exec h op).accepted]
    exact hn.submissions op rfl

theorem Numbered.pairwise (h : Numbered accepted) :
    accepted.Pairwise (fun a b => a.serial < b.serial) := by
  have hlt : (accepted.map CoreTransaction.serial).Pairwise (· < ·) := by
    rw [h]
    exact List.pairwise_lt_range
  exact List.pairwise_map.mp hlt

theorem Numbered.nodup (h : Numbered accepted) :
    accepted.Nodup :=
  h.pairwise.imp fun hlt he => absurd hlt (by rw [he]; exact Nat.lt_irrefl _)

/-! ## Expired transactions -/

/-- Waiting, or reported as timed out. -/
def PendingOrTimedOut (port : ObservedPort σ κ) (t : CoreTransaction) : Prop :=
  t ∈ waiting port ∨ ∃ r ∈ completions port, r.transaction.submitted = t ∧ r.status = .timedOut

/-- The loop pops an expired transaction only to report it. -/
theorem PendingOrTimedOut.readyLoop {now : CoreTick} {t : CoreTransaction}
    (hexpired : coreDeadlineExpired t.queueDeadline now = true) (passes : Nat)
    (hc : port.completion = some (recording notify)) (h : PendingOrTimedOut port t) :
    PendingOrTimedOut (readyLoop now passes port) t := by
  induction passes generalizing port with
  | zero => exact h
  | succ passes ih =>
    unfold FourVrs.Core.readyLoop
    split
    · exact h
    · rename_i transaction queue hpop
      have hwaiting : waiting port =
          transaction.submitted :: queue.toList.map CoreTransaction.submitted := custody_pop hpop
      split
      · refine ih (by exact hc) ?_
        have hdone : completions
              (expireQueued (updateDepth { port with queue := queue }) transaction) =
            completions port ++
              [⟨{ transaction with status := .timedOut }, .timedOut, []⟩] := by
          simp [completions, expireQueued, finishActive, clearActive, notifyCompletion, hc,
            recording, PortRuntime.tally, updateDepth]
        unfold PendingOrTimedOut
        rw [hdone]
        rcases h with hq | ⟨r, hr, hrt⟩
        · rw [hwaiting] at hq
          rcases List.mem_cons.mp hq with rfl | hq
          · exact .inr ⟨_, List.mem_append_right _ (List.mem_singleton.mpr rfl), rfl, rfl⟩
          · exact .inl hq
        · exact .inr ⟨r, List.mem_append_left _ hr, hrt⟩
      · rename_i hlive
        have hkept : waiting (activate (updateDepth { port with queue := queue }) transaction now) =
              queue.toList.map CoreTransaction.submitted ∧
            completions (activate (updateDepth { port with queue := queue }) transaction now) =
              completions port := by
          unfold activate portRuntimeTransition
          split <;> exact ⟨rfl, rfl⟩
        unfold PendingOrTimedOut
        rw [hkept.1, hkept.2]
        rcases h with hq | hr
        · rw [hwaiting] at hq
          rcases List.mem_cons.mp hq with rfl | hq
          · exact absurd hexpired hlive
          · exact .inl hq
        · exact .inr hr

/-- A step that pops an expired transaction reports it as timed out. -/
theorem timedOut_of_popped (h : Observed notify port) {now : CoreTick} {t : CoreTransaction}
    (hw : t ∈ waiting port) (hexpired : coreDeadlineExpired t.queueDeadline now = true)
    (hpopped : t ∉ waiting (portRuntimeStep port now)) :
    ∃ r ∈ completions (portRuntimeStep port now),
      r.transaction.submitted = t ∧ r.status = .timedOut := by
  by_cases hready : port.state = .ready
  · have hloop : PendingOrTimedOut (portRuntimeStep port now) t := by
      unfold portRuntimeStep
      split
      · exact .inl hw
      · rw [hready]
        exact PendingOrTimedOut.readyLoop hexpired _ h.completion (.inl hw)
    exact hloop.resolve_left hpopped
  · have hqueued : waiting (portRuntimeStep port now) = waiting port :=
      congrArg (List.map CoreTransaction.submitted)
        (settles_portRuntimeStep h.coherent h.completion hready now).queue_eq
    exact absurd (by rw [hqueued]; exact hw) hpopped

/-! ## Exactly once -/

/-- The transaction is the active one. -/
def IsActive (port : ObservedPort σ κ) (t : CoreTransaction) : Prop :=
  port.hasActive = true ∧ port.active.submitted = t

/-- How often the callback was called for the transaction. -/
def timesNotified (port : ObservedPort σ κ) (t : CoreTransaction) : Nat :=
  (completions port).countP fun r => decide (r.transaction.submitted = t)

/-- Waiting and never notified, or active and never notified, or notified once: one of
    the three, and not another. -/
def InOnePlace (port : ObservedPort σ κ) (t : CoreTransaction) : Prop :=
  (t ∈ waiting port ∧ ¬ IsActive port t ∧ timesNotified port t = 0) ∨
    (t ∉ waiting port ∧ IsActive port t ∧ timesNotified port t = 0) ∨
    (t ∉ waiting port ∧ ¬ IsActive port t ∧ timesNotified port t = 1)

theorem custody_current_iff (port : ObservedPort σ κ) (t : CoreTransaction) :
    (custody port).current = some t ↔ IsActive port t := by
  unfold custody IsActive
  cases port.hasActive <;> simp

theorem count_done (port : ObservedPort σ κ) (t : CoreTransaction) :
    (custody port).done.count t = timesNotified port t := by
  unfold custody timesNotified
  rw [List.count_eq_countP, List.countP_map]
  exact List.countP_congr fun r _ => by simp

/-- A port as `port_runtime_init` and `port_runtime_set_completion` leave it. -/
def observedPort (portIndex : Nat) (config : CorePortConfig) (backend : Option (CoreBackendOps σ))
    (backendContext : σ) (notify : CoreCompletionFn κ) (context : κ) : ObservedPort σ κ :=
  portRuntimeSetCompletion (portRuntimeInit portIndex config backend backendContext ([], context) [])
    (some (recording notify))

theorem observed_observedPort (portIndex : Nat) (config : CorePortConfig)
    (backend : Option (CoreBackendOps σ)) (backendContext : σ) (notify : CoreCompletionFn κ)
    (context : κ) :
    Observed notify (observedPort portIndex config backend backendContext notify context) :=
  ⟨⟨rfl, rfl⟩, rfl⟩

theorem sound_observedPort (portIndex : Nat) (config : CorePortConfig)
    (backend : Option (CoreBackendOps σ)) (backendContext : σ) (notify : CoreCompletionFn κ)
    (context : κ) :
    (custody (observedPort portIndex config backend backendContext notify context)).Sound :=
  ⟨List.Perm.refl _, List.Sublist.refl _⟩

/-- **Exactly-once completion.** However a port is called and whatever its backend
    does, each accepted transaction waits, is active or has been completed once; only
    accepted transactions are completed; they become active in the order of their
    acceptance; and one that is popped expired is timed out and never active. -/
theorem exactlyOnce_runPort (portIndex : Nat) (config : CorePortConfig)
    (backend : Option (CoreBackendOps σ)) (backendContext : σ) (notify : CoreCompletionFn κ)
    (context : κ) (ops : List PortOp) :
    let start := observedPort portIndex config backend backendContext notify context
    let port := runPort ops start
    Numbered (submissions ops start) ∧
    (∀ t ∈ submissions ops start, InOnePlace port t) ∧
    (∀ r ∈ completions port, r.transaction.submitted ∈ submissions ops start) ∧
    (∀ more t t', IsActive port t → IsActive (runPort more port) t' →
      t' = t ∨ t.serial < t'.serial) ∧
    (∀ now t, t ∈ waiting port → coreDeadlineExpired t.queueDeadline now = true →
      t ∉ waiting (portRuntimeStep port now) →
      (∃ r ∈ completions (portRuntimeStep port now),
        r.transaction.submitted = t ∧ r.status = .timedOut) ∧
      ∀ more, ¬ IsActive (runPort more (portRuntimeStep port now)) t) := by
  intro start port
  have hstart := observed_observedPort portIndex config backend backendContext notify context
  obtain ⟨hobserved, hevolves, haccepted⟩ := handles_runPort ops hstart
  -- the port is a custody that evolves as its calls serve; the rest is read off that
  have hsound : (custody port).Sound :=
    (sound_observedPort portIndex config backend backendContext notify context).evolves hevolves
  have hlist : port.accepted = submissions ops start := haccepted
  have hnumbered : Numbered port.accepted := numbered_runPort ops hstart rfl
  refine ⟨hlist ▸ hnumbered, fun t ht => ?_, fun r hr => ?_, ?_, ?_⟩
  · unfold InOnePlace
    simp only [← custody_current_iff, ← count_done]
    exact hsound.exactlyOnce hnumbered.nodup (show t ∈ port.accepted from hlist ▸ ht)
  · rw [← hlist]
    exact hsound.mem_iff.mpr (.inl (List.mem_map_of_mem hr))
  · intro more t t' ht ht'
    obtain ⟨_, hlater, _⟩ := handles_runPort more hobserved
    have hnumbered' := numbered_runPort more hobserved hnumbered
    refine (eq_or_ne t' t).imp_right fun hne => ?_
    -- transactions become active in the order they were accepted in
    have hsub := hsound.taken_in_order (hsound.evolves hlater) hlater hnumbered'.nodup
      ((custody_current_iff _ _).mpr ht) ((custody_current_iff _ _).mpr ht') hne.symm
    exact List.rel_of_pairwise_cons (hnumbered'.pairwise.sublist hsub) (List.mem_singleton.mpr rfl)
  · intro now t hw hexpired hpopped
    have hreport := timedOut_of_popped hobserved hw hexpired hpopped
    refine ⟨hreport, fun more hactive => ?_⟩
    obtain ⟨r, hr, rfl, _⟩ := hreport
    have hnext := hobserved.exec (.step now)
    have hsound' := hsound.evolves (handles_exec hobserved (.step now)).evolves
    have hnumbered' := numbered_runPort [.step now] hobserved hnumbered
    obtain ⟨_, hlater, _⟩ := handles_runPort more hnext
    have hdone := hlater.done_prefix.subset (List.mem_map_of_mem hr)
    exact (hsound'.evolves hlater).current_ne_of_done
      (numbered_runPort more hnext hnumbered').nodup hdone ((custody_current_iff _ _).mpr hactive)

end FourVrs.Core
