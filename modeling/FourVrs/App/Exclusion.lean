import FourVrs.App.Revisions

/-!
# One transaction at a time

A configuration transaction works on the ports and on the file; a network transaction
moves the ports to other addresses and writes them into the selected configuration. Each
is refused while the other goes on, and what is left of a network transaction after its
end is done by the next step (`HandedOn`).
-/

set_option autoImplicit false

namespace FourVrs.App

open FourVrs.Core Config Gateway Network Lib

variable {ω σ κ : Type} {device : σ → σ → Prop}

/-! ## The configuration transaction -/

theorem active_eq_false_iff (s : ConfigTxState) :
    s.active = false ↔ s ≠ .activating ∧ s ≠ .promoting ∧ s ≠ .rollingBack := by
  cases s <;> decide

theorem configurationBusy_of_active {a : GatewayApplication ω σ κ device}
    (h : a.transaction.state.active = true) : configurationBusy a = true := by
  simp [configurationBusy, h]

/-- What the transaction may do to the selected configuration: leave it while it goes on,
    and take the candidate or go back to the previous one when it ends. -/
structure TransactionMove (a a' : GatewayApplication ω σ κ device) : Prop where
  ongoing : a'.transaction.state.active = true →
    a'.coordinator.selected = a.coordinator.selected ∧ a'.transaction.previous = a.transaction.previous
  outcome : a'.coordinator.selected = a.coordinator.selected ∨
    a'.transaction.state.active = false ∧
      (a'.coordinator.selected = a.transaction.candidate ∨ a'.coordinator.selected = a.transaction.previous)

theorem TransactionMove.of_same {a a' : GatewayApplication ω σ κ device}
    (hselected : a'.coordinator.selected = a.coordinator.selected)
    (hprevious : a'.transaction.previous = a.transaction.previous) : TransactionMove a a' :=
  ⟨fun _ => ⟨hselected, hprevious⟩, .inl hselected⟩

variable (deps : GatewayApplicationDependencies ω σ κ device) (a : GatewayApplication ω σ κ device)

theorem portFailed_kept :
    (portFailed deps a).coordinator.selected = a.coordinator.selected ∧
      (portFailed deps a).transaction.previous = a.transaction.previous := by
  unfold portFailed
  split <;> exact ⟨rfl, rfl⟩

theorem transactionMove_switchPort (index : Fin gatewayPortCount) (now : CoreTick) :
    TransactionMove a (switchPort deps a index now) := by
  unfold switchPort
  simp only []
  split
  · split
    · exact .of_same rfl rfl
    · split
      · exact .of_same rfl rfl
      · exact .of_same (portFailed_kept deps _).1 (portFailed_kept deps _).2
  split
  · exact .of_same rfl rfl
  · split
    · exact .of_same rfl rfl
    · exact .of_same (portFailed_kept deps _).1 (portFailed_kept deps _).2

theorem transactionMove_switchDone :
    TransactionMove a (switchDone a) := by
  unfold switchDone
  split
  · exact ⟨nofun, .inr ⟨rfl, .inr rfl⟩⟩
  · exact .of_same rfl rfl

/-- A commit ends the transaction. -/
theorem transactionMove_commitCandidate (state : ConfigTxState) (source : GatewayConfigSource)
    (hend : state.active = false) :
    TransactionMove a (commitCandidate a state source) :=
  ⟨fun h => absurd (h.symm.trans hend) (by decide), .inr ⟨hend, .inl rfl⟩⟩

theorem transactionMove_promoteStaged : TransactionMove a (promoteStaged deps a) := by
  have hpass : ∀ {a₁ a₂ : GatewayApplication ω σ κ device}, TransactionMove a₁ a₂ →
      a₁.coordinator.selected = a.coordinator.selected →
      a₁.transaction.previous = a.transaction.previous →
      a₁.transaction.candidate = a.transaction.candidate → TransactionMove a a₂ := by
    intro a₁ a₂ h hselected hprevious hcandidate
    refine ⟨fun hactive => ?_, ?_⟩
    · rw [← hselected, ← hprevious]
      exact h.ongoing hactive
    · rw [← hselected, ← hprevious, ← hcandidate]
      exact h.outcome
  unfold promoteStaged
  simp only []
  split
  · exact hpass (transactionMove_commitCandidate _ .succeeded .active rfl) rfl rfl rfl
  split
  · unfold reloadPromoted
    simp only []
    split
    · exact hpass (transactionMove_commitCandidate _ .durabilityUncertain _ rfl) rfl rfl rfl
    · exact .of_same rfl rfl
  · exact .of_same rfl rfl

variable (c : GatewayCoordinator σ κ device) (now : CoreTick)

theorem transactionMove_configTransactionStep :
    TransactionMove a (configTransactionStep deps a now) := by
  unfold configTransactionStep
  simp only []
  split
  · exact .of_same rfl rfl
  split
  · split
    · exact transactionMove_switchPort deps a _ now
    · exact transactionMove_switchDone a
  · split
    · exact transactionMove_promoteStaged deps a
    · exact .of_same rfl rfl

/-- A transaction that goes on has been going on, and the gateway is not ending. -/
theorem active_of_configTransactionStep
    (h : (configTransactionStep deps a now).transaction.state.active = true) :
    a.transaction.state.active = true ∧ endingState a.coordinator.state = false := by
  have hactive : a.transaction.state.active = true := by
    by_contra hnot
    have hnot : a.transaction.state.active = false := by simpa using hnot
    obtain ⟨h₁, h₂, h₃⟩ := (active_eq_false_iff _).mp hnot
    unfold configTransactionStep at h
    simp only [hnot, h₁, h₂, h₃] at h
    simp [hnot] at h
  refine ⟨hactive, ?_⟩
  by_contra hend
  have hend : endingState a.coordinator.state = true := by simpa using hend
  unfold configTransactionStep at h
  rw [if_pos ⟨hend, hactive⟩] at h
  cases h

/-! ## The affinities -/

/-- A network that is kept has handed on its addresses. -/
def HandedOn (n : NetworkRuntime) : Prop :=
  n.status.state = .kept → ∀ i, n.bindingAffinity i = 0

instance (n : NetworkRuntime) : Decidable (HandedOn n) :=
  inferInstanceAs (Decidable (_ = _ → ∀ _, _ = _))

theorem bindingAffinity_stepBindings :
    (stepBindings deps a now).network.bindingAffinity = a.network.bindingAffinity := by
  have hwithout : ∀ index, (bindWithoutAddress a index now).network.bindingAffinity =
      a.network.bindingAffinity := by
    intro index
    unfold bindWithoutAddress
    split
    · split <;> rfl
    · rfl
  have hto : ∀ index address, (bindToAddress deps a index address now).network.bindingAffinity =
      a.network.bindingAffinity := by
    intro index address
    unfold bindToAddress
    simp only []
    split
    · rfl
    · split
      · split <;> rfl
      · split <;> rfl
  have hfinish : (finishBindings deps a).network.bindingAffinity = a.network.bindingAffinity := by
    unfold finishBindings
    simp only []
    split
    · rfl
    · split
      · rfl
      · split <;> rfl
  unfold stepBindings
  simp only []
  split
  · rfl
  split
  · split
    · rfl
    · split
      · exact hwithout _
      · exact hto _ _
  · exact hfinish

/-- The step of the network keeps the affinities or forgets them. -/
theorem bindingAffinity_networkFollow :
    (networkFollow deps a now).network.bindingAffinity = a.network.bindingAffinity ∨
      ∀ i, (networkFollow deps a now).network.bindingAffinity i = 0 := by
  have hleases : (followLeases (deliverSignal deps a) now).network.bindingAffinity =
      a.network.bindingAffinity := by
    unfold followLeases
    split
    · unfold dynamicBindings
      simp only []
      split
      · rfl
      · rw [network_dynamicRebind]
        rfl
    · rfl
  rw [networkFollow_eq]
  split
  · exact .inl rfl
  · rw [bindingAffinity_stepBindings, (guardConfirm_kept deps _).2.1]
    unfold keepBindings
    simp only []
    split
    · exact .inr fun _ => rfl
    · exact .inl hleases

/-! ## The invariant -/

/-- What holds between the calls. -/
structure Apart (a : GatewayApplication ω σ κ device) : Prop where
  running : a.processState = .running → runningState a.coordinator.state = true
  started : a.transaction.state.active = true → a.processState = .running
  idle : a.transaction.state.active = true →
    a.network.pid = false ∧ a.network.recovering = false ∧
      (a.network.stopping = true → a.network.observerPid = false)
  handedOn : a.transaction.state.active = true → HandedOn a.network
  selected : a.transaction.state.active = true → a.coordinator.selected = a.transaction.previous

/-- The application as a step begins, at the time the step reads. -/
def stepEntry (deps : GatewayApplicationDependencies ω σ κ device) (a : GatewayApplication ω σ κ device) :
    GatewayApplication ω σ κ device :=
  { a with world := (deps.clock a.world).2 }

/-- A stop is asked for in a step after the coordinator has looked and before the network does,
    while a configuration transaction goes on and an observer is out. -/
def StopCrosses (deps : GatewayApplicationDependencies ω σ κ device)
    (a : GatewayApplication ω σ κ device) : Prop :=
  a.transaction.state.active = true ∧
    (deliverSignal deps (stepEntry deps a)).stopRequested = false ∧
      (beforeNetwork deps a).stopRequested = true ∧ (polledNetwork deps a).network.observerPid = true

instance (deps : GatewayApplicationDependencies ω σ κ device) (a : GatewayApplication ω σ κ device) :
    Decidable (StopCrosses deps a) :=
  inferInstanceAs (Decidable (_ = _ ∧ _ = _ ∧ _ = _ ∧ _ = _))

instance (deps : GatewayApplicationDependencies ω σ κ device) (a : GatewayApplication ω σ κ device) :
    (call : ApplicationCall) → Decidable (Accepts deps a call)
  | .requestConfiguration _ | .backlightSet _ => inferInstanceAs (Decidable (_ ∧ _))
  | .networkApply _ | .systemTimeSet _ => inferInstanceAs (Decidable (_ = _))
  | .step | .networkKeep | .networkRevert | .ntpTest _ | .requestStop | .setEpoch _ =>
      inferInstanceAs (Decidable False)

/-- The call keeps the two transactions apart: none for a configuration begins while the network
    has addresses to hand on, and no stop crosses it. -/
def KeepsApart (deps : GatewayApplicationDependencies ω σ κ device)
    (a : GatewayApplication ω σ κ device) : ApplicationCall → Prop
  | .step => ¬ StopCrosses deps a
  | .requestConfiguration config => Accepts deps a (.requestConfiguration config) → HandedOn a.network
  | .backlightSet on => Accepts deps a (.backlightSet on) → HandedOn a.network
  | _ => True

instance (deps : GatewayApplicationDependencies ω σ κ device) (a : GatewayApplication ω σ κ device) :
    (call : ApplicationCall) → Decidable (KeepsApart deps a call)
  | .step => inferInstanceAs (Decidable (¬ StopCrosses deps a))
  | .requestConfiguration config =>
      inferInstanceAs (Decidable (Accepts deps a (.requestConfiguration config) → HandedOn a.network))
  | .backlightSet on => inferInstanceAs (Decidable (Accepts deps a (.backlightSet on) → HandedOn a.network))
  | .networkApply _ | .networkKeep | .networkRevert | .systemTimeSet _ | .ntpTest _ | .requestStop
  | .setEpoch _ => inferInstanceAs (Decidable True)

theorem apart_init (environment : Option (NetworkEnvironment × NetworkProfile)) (server : CString)
    (controller : GatewayController σ κ device) (now : CoreTick) (w : ω) :
    Apart (gatewayApplicationInit environment server controller now w) where
  running := fun h => by cases h
  started := fun h => by cases h
  idle := fun h => by cases h
  handedOn := fun h => by cases h
  selected := fun h => by cases h

/-! ## The step -/

/-- A shutdown selects nothing, and it ends in one state. -/
theorem beginShutdown_kept :
    (beginShutdown c now).selected = c.selected ∧
      ((beginShutdown c now).state = .shuttingDown ∨ (beginShutdown c now).state = .stopped) := by
  unfold beginShutdown
  split
  · rename_i h
    exact ⟨rfl, h.symm⟩
  · simp only []
    split
    · exact ⟨rfl, .inl rfl⟩
    · exact ⟨rfl, .inr rfl⟩

theorem stepShutdown_kept :
    (stepShutdown c now).selected = c.selected ∧
      ((stepShutdown c now).state = c.state ∨ (stepShutdown c now).state = .stopped) := by
  unfold stepShutdown
  by_cases h : c.controllerInitialized = true
  · simp only [if_pos h]
    split
    · exact ⟨rfl, .inr rfl⟩
    · split
      · exact ⟨rfl, .inr rfl⟩
      · exact ⟨rfl, .inl rfl⟩
  · simp only [if_neg h]
    split
    · exact ⟨rfl, .inr rfl⟩
    · split
      · exact ⟨rfl, .inr rfl⟩
      · exact ⟨rfl, .inl rfl⟩

/-- A coordinator that is told to stop ends, and selects nothing. -/
theorem gatewayCoordinatorStep_stop (w : ω) :
    (gatewayCoordinatorStep deps true c now w).1.selected = c.selected ∧
      endingState (gatewayCoordinatorStep deps true c now w).1.state = true := by
  obtain ⟨hselected, hstate⟩ := beginShutdown_kept c now
  unfold gatewayCoordinatorStep
  simp only [if_true]
  rcases hstate with h | h
  · simp only [h]
    obtain ⟨hselected', hstate'⟩ := stepShutdown_kept (beginShutdown c now) now
    refine ⟨hselected'.trans hselected, ?_⟩
    rcases hstate' with h' | h'
    · rw [h', h]
      rfl
    · rw [h']
      rfl
  · simp only [h]
    exact ⟨hselected, rfl⟩

/-- A coordinator that runs the gateway goes on with it. -/
theorem gatewayCoordinatorStep_running (w : ω) (hrun : runningState c.state = true) :
    (gatewayCoordinatorStep deps false c now w).1.selected = c.selected ∧
      (gatewayCoordinatorStep deps false c now w).1.state = c.state := by
  have hcases : c.state = .ready ∨ c.state = .degraded ∨ c.state = .safeMode := by
    simpa [runningState, or_assoc] using hrun
  unfold gatewayCoordinatorStep
  simp only [Bool.false_eq_true, if_false]
  rcases hcases with h | h | h
  · simp only [h, and_self]
  · simp only [h, and_self]
  · simp only [h, and_self]

theorem coordinatorPhase_coordinator
    (h : (gatewayCoordinatorStep deps (deliverSignal deps a).stopRequested a.coordinator now
      (deliverSignal deps a).world).1.state ≠ .selectingConfiguration) :
    (coordinatorPhase deps a now).coordinator =
      (gatewayCoordinatorStep deps (deliverSignal deps a).stopRequested a.coordinator now
        (deliverSignal deps a).world).1 := by
  unfold coordinatorPhase
  exact if_neg h

/-- The coordinator as a step comes to the network, in a gateway that runs. -/
theorem beforeNetwork_coordinator (hrun : runningState a.coordinator.state = true) :
    (beforeNetwork deps a).coordinator.selected = a.coordinator.selected ∧
      ((deliverSignal deps (stepEntry deps a)).stopRequested = true ∧
          endingState (beforeNetwork deps a).coordinator.state = true ∨
        (deliverSignal deps (stepEntry deps a)).stopRequested = false ∧
          (beforeNetwork deps a).coordinator.state = a.coordinator.state) := by
  have hphase : (beforeNetwork deps a).coordinator =
      (coordinatorPhase deps (stepEntry deps a) (deps.clock a.world).1).coordinator := rfl
  have hcoordinator := coordinatorPhase_coordinator deps (stepEntry deps a) (deps.clock a.world).1
  cases hstop : (deliverSignal deps (stepEntry deps a)).stopRequested with
  | true =>
    rw [hstop] at hcoordinator
    obtain ⟨hselected, hend⟩ := gatewayCoordinatorStep_stop deps (stepEntry deps a).coordinator
      (deps.clock a.world).1 (deliverSignal deps (stepEntry deps a)).world
    rw [hphase, hcoordinator fun h => by simp [h, endingState] at hend]
    exact ⟨hselected, .inl ⟨rfl, hend⟩⟩
  | false =>
    rw [hstop] at hcoordinator
    obtain ⟨hselected, hstate⟩ := gatewayCoordinatorStep_running deps (stepEntry deps a).coordinator
      (deps.clock a.world).1 (deliverSignal deps (stepEntry deps a)).world hrun
    have hnot : (stepEntry deps a).coordinator.state ≠ .selectingConfiguration := by
      intro h
      have hrun : runningState (stepEntry deps a).coordinator.state = true := hrun
      simp [h, runningState] at hrun
    rw [hphase, hcoordinator (hstate ▸ hnot)]
    exact ⟨hselected, .inr ⟨rfl, hstate⟩⟩

/-- The poll of a network without a supervisor and a recovery. -/
theorem idle_networkPoll (hpid : a.network.pid = false) (hrec : a.network.recovering = false) :
    ObservedOnly (pollEntry deps a).1 (networkPoll deps a).network ∧
      (pollEntry deps a).1.pid = false ∧ (pollEntry deps a).1.recovering = false ∧
      (pollEntry deps a).1.bindingAffinity = a.network.bindingAffinity ∧
      (pollEntry deps a).1.observerPid = a.network.observerPid ∧
      (a.stopRequested = false → (pollEntry deps a).1 = a.network) := by
  have hstopped : ∀ r : NetworkRuntime, r.pid = false →
      (networkRuntimeStop deps.network r a.world).1 = { r with stopping := true, recovering := false } := by
    intro r hr
    unfold networkRuntimeStop
    simp only []
    rw [if_pos (Or.inl (by simp [hr]))]
  have hentry : (pollEntry deps a).1.pid = false ∧ (pollEntry deps a).1.recovering = false ∧
      (pollEntry deps a).1.bindingAffinity = a.network.bindingAffinity ∧
      (pollEntry deps a).1.observerPid = a.network.observerPid := by
    unfold pollEntry
    split
    · rw [hstopped _ hpid]
      exact ⟨hpid, rfl, rfl, rfl⟩
    · exact ⟨hpid, hrec, rfl, rfl⟩
  obtain ⟨hpid', hrec', haffinity, hobserver⟩ := hentry
  refine ⟨?_, hpid', hrec', haffinity, hobserver, fun hrun => ?_⟩
  · rw [network_networkPoll, observedOnly_networkRuntimePoll _ _ _ hpid' hrec']
    exact observedOnly_pollObserver _ _ _
  · unfold pollEntry
    rw [if_neg (by simp [hrun])]

/-- A network that is to stop, with no observer out, sends none. -/
theorem observerPid_networkPoll (hpid : a.network.pid = false) (hrec : a.network.recovering = false)
    (hstop : (pollEntry deps a).1.stopping = true) (hobserver : a.network.observerPid = false) :
    (networkPoll deps a).network.observerPid = false := by
  obtain ⟨_, hpid', hrec', _, hobserver', _⟩ := idle_networkPoll deps a hpid hrec
  rw [network_networkPoll, observedOnly_networkRuntimePoll _ _ _ hpid' hrec']
  exact observerPid_pollObserver _ _ _ hstop (hobserver'.trans hobserver)

/-- What a step has done when it comes to a transaction that goes on. -/
structure Untouched (deps : GatewayApplicationDependencies ω σ κ device)
    (a : GatewayApplication ω σ κ device) : Prop where
  transaction : (beforeTransaction deps a).transaction = a.transaction
  selected : (beforeTransaction deps a).coordinator.selected = a.coordinator.selected
  pid : (beforeTransaction deps a).network.pid = false
  recovering : (beforeTransaction deps a).network.recovering = false
  handedOn : HandedOn (beforeTransaction deps a).network
  observer : endingState (beforeTransaction deps a).coordinator.state = true ∨ StopCrosses deps a ∨
    ((beforeTransaction deps a).network.stopping = true →
      (beforeTransaction deps a).network.observerPid = false)
  state : endingState (beforeTransaction deps a).coordinator.state = true ∨
    (beforeTransaction deps a).coordinator.state = a.coordinator.state

theorem untouched_of_active (h : Apart a) (hactive : a.transaction.state.active = true) :
    Untouched deps a := by
  obtain ⟨hpid, hrec, hobs⟩ := h.idle hactive
  have hrun := h.running (h.started hactive)
  obtain ⟨hselected, hstate⟩ := beforeNetwork_coordinator deps a hrun
  obtain ⟨hpoll, hpid', hrec', haffinity, hobserver, hentry⟩ :=
    idle_networkPoll deps (beforeNetwork deps a) hpid hrec
  obtain ⟨hnetwork, _, _, _, htransaction, _⟩ :=
    recordNetworkState_frame (networkPoll deps (beforeNetwork deps a))
  have hcoordinator : (polledNetwork deps a).coordinator = (beforeNetwork deps a).coordinator := by
    unfold polledNetwork recordNetworkState
    split
    · rw [advance_eq]
      rfl
    · rfl
  have hfollow := followed_networkFollow deps (polledNetwork deps a) (deps.clock a.world).1
  have hpolled : (polledNetwork deps a).network = (networkPoll deps (beforeNetwork deps a)).network := hnetwork
  have hhanded : HandedOn (polledNetwork deps a).network := by
    intro hkept
    rw [hpolled, hpoll.status, pollEntry_status] at hkept
    rw [hpolled, hpoll.bindingAffinity, haffinity]
    exact h.handedOn hactive hkept
  have hnotRecovering : (polledNetwork deps a).network.recovering = false := by
    rw [hpolled, hpoll.recovering, hrec']
  have hcourse : CourseKept (polledNetwork deps a).network (beforeTransaction deps a).network := by
    rw [beforeTransaction_eq]
    rcases hfollow.course with hends | hkept
    · exact absurd (hends.1.1.symm.trans hnotRecovering) (by decide)
    · exact hkept
  have hbusy : configurationBusy (polledNetwork deps a) = true :=
    configurationBusy_of_active ((congrArg (·.state.active) htransaction).trans hactive)
  have hstate' : (beforeTransaction deps a).coordinator.state = (beforeNetwork deps a).coordinator.state :=
    hfollow.side.coordinatorState.trans (congrArg (·.state) hcoordinator)
  refine ⟨hfollow.side.transaction.trans htransaction, ?_, ?_, ?_, ?_, ?_, ?_⟩
  · rw [beforeTransaction_eq, selected_networkFollow deps _ _ hbusy hhanded, hcoordinator, hselected]
  · rw [hcourse.pid, hpolled, hpoll.pid, hpid']
  · rw [hcourse.recovering, hnotRecovering]
  · intro hkept
    rw [hcourse.status] at hkept
    rw [beforeTransaction_eq]
    rcases bindingAffinity_networkFollow deps (polledNetwork deps a) (deps.clock a.world).1 with hsame | hzero
    · rw [hsame]
      exact hhanded hkept
    · exact hzero
  · -- A stop that the coordinator has not seen reaches the observer of this poll.
    rcases hstate with ⟨_, hend⟩ | ⟨hgo, _⟩
    · exact .inl (hstate' ▸ hend)
    · right
      cases hstop : (beforeNetwork deps a).stopRequested with
      | true =>
        cases hout : (polledNetwork deps a).network.observerPid with
        | true => exact .inl ⟨hactive, hgo, hstop, hout⟩
        | false => exact .inr fun _ => hcourse.observerPid.trans hout
      | false =>
        right
        intro hstopping
        have hstopping' : (pollEntry deps (beforeNetwork deps a)).1.stopping = true := by
          rw [← hpoll.stopping, ← hpolled, ← hcourse.stopping]
          exact hstopping
        have hbefore : a.network.stopping = true := by
          rw [hentry hstop] at hstopping'
          exact hstopping'
        rw [hcourse.observerPid, hpolled]
        exact observerPid_networkPoll deps (beforeNetwork deps a) hpid hrec hstopping' (hobs hbefore)
  · rcases hstate with ⟨_, hend⟩ | ⟨_, hsame⟩
    · exact .inl (hstate' ▸ hend)
    · exact .inr (hstate'.trans hsame)

theorem observeRevision_transaction :
    (observeRevision a).transaction.state = a.transaction.state ∧
      (observeRevision a).transaction.previous = a.transaction.previous ∧
      (observeRevision a).processState = a.processState := by
  unfold observeRevision
  simp only []
  split
  · split
    · rw [advance_eq]
      exact ⟨rfl, rfl, rfl⟩
    · exact ⟨rfl, rfl, rfl⟩
  split
  · rw [advance_eq]
    exact ⟨rfl, rfl, rfl⟩
  · exact ⟨rfl, rfl, rfl⟩

/-- What the end of a step makes of the transaction: nothing. -/
theorem step_ends (deps : GatewayApplicationDependencies ω σ κ device)
    (a : GatewayApplication ω σ κ device) (hrun : a.processState ≠ .stopped) :
    let d := configTransactionStep deps (beforeTransaction deps a) (deps.clock a.world).1
    (gatewayApplicationStep deps a).coordinator.selected = d.coordinator.selected ∧
      (gatewayApplicationStep deps a).transaction.state = d.transaction.state ∧
      (gatewayApplicationStep deps a).transaction.previous = d.transaction.previous ∧
      (gatewayApplicationStep deps a).network = d.network := by
  simp only []
  rw [gatewayApplicationStep_eq deps a hrun]
  generalize configTransactionStep deps (beforeTransaction deps a) (deps.clock a.world).1 = d
  generalize (deps.clock a.world).1 = now
  obtain ⟨w, stop, backlight, time, hside⟩ := sideSteps_eq deps d now
  obtain ⟨hcoordinator, hnetwork, _⟩ := observeRevision_frame (sideSteps deps d now)
  obtain ⟨hstate, hprevious, _⟩ := observeRevision_transaction (sideSteps deps d now)
  obtain ⟨hselected, hnet, _, _, _, _, htransaction⟩ :=
    processStep_frame (observeRevision (sideSteps deps d now)) now
  rw [hselected, hnet, htransaction, hcoordinator, hnetwork, hstate, hprevious, hside]
  exact ⟨rfl, rfl, rfl, rfl⟩

/-- The process runs exactly when the coordinator runs the gateway. -/
theorem processState_step (hrun : a.processState ≠ .stopped)
    (h : runningState (beforeTransaction deps a).coordinator.state = true) :
    (gatewayApplicationStep deps a).processState = .running ∧
      (gatewayApplicationStep deps a).coordinator.state = (beforeTransaction deps a).coordinator.state := by
  have hkept := transactionSide_configTransactionStep deps (beforeTransaction deps a) (deps.clock a.world).1
  rw [gatewayApplicationStep_eq deps a hrun]
  generalize configTransactionStep deps (beforeTransaction deps a) (deps.clock a.world).1 = d at hkept
  generalize (deps.clock a.world).1 = now at *
  have hstate : (observeRevision (sideSteps deps d now)).coordinator.state =
      (beforeTransaction deps a).coordinator.state := by
    obtain ⟨w, stop, backlight, time, hside⟩ := sideSteps_eq deps d now
    rw [(observeRevision_frame _).1, hside]
    exact hkept.coordinatorState
  have hcases : (beforeTransaction deps a).coordinator.state = .ready ∨
      (beforeTransaction deps a).coordinator.state = .degraded ∨
        (beforeTransaction deps a).coordinator.state = .safeMode := by
    simpa [runningState, or_assoc] using h
  unfold processStep
  rw [hstate]
  rcases hcases with hc | hc | hc
  · simp only [hc]
    exact ⟨trivial, hstate.trans hc⟩
  · simp only [hc]
    exact ⟨trivial, hstate.trans hc⟩
  · simp only [hc]
    exact ⟨trivial, hstate.trans hc⟩

/-- The coordinator's state is the one it has left the network in. -/
theorem beforeTransaction_state :
    (beforeTransaction deps a).coordinator.state = (beforeNetwork deps a).coordinator.state ∧
      (beforeTransaction deps a).processState = a.processState := by
  have hrecord : (polledNetwork deps a).coordinator = (beforeNetwork deps a).coordinator ∧
      (polledNetwork deps a).processState = a.processState := by
    unfold polledNetwork recordNetworkState
    split
    · rw [advance_eq]
      exact ⟨rfl, rfl⟩
    · exact ⟨rfl, rfl⟩
  have hfollow := (followed_networkFollow deps (polledNetwork deps a) (deps.clock a.world).1).side
  exact ⟨hfollow.coordinatorState.trans (congrArg (·.state) hrecord.1),
    hfollow.processState.trans hrecord.2⟩

theorem running_step (h : a.processState = .running → runningState a.coordinator.state = true)
    (hrun : (gatewayApplicationStep deps a).processState = .running) :
    runningState (gatewayApplicationStep deps a).coordinator.state = true := by
  by_cases hstopped : a.processState = .stopped
  · have hsame : gatewayApplicationStep deps a = a := by
      unfold gatewayApplicationStep
      rw [if_pos hstopped]
    rw [hsame] at hrun ⊢
    exact h hrun
  · obtain ⟨hstate, hprocess⟩ := beforeTransaction_state deps a
    have hbefore : a.processState = .running → runningState (beforeTransaction deps a).coordinator.state = true ∨
        endingState (beforeTransaction deps a).coordinator.state = true := by
      intro hr
      rw [hstate]
      rcases (beforeNetwork_coordinator deps a (h hr)).2 with ⟨_, hend⟩ | ⟨_, hsame⟩
      · exact .inr hend
      · exact .inl (hsame ▸ h hr)
    by_cases hrunning : runningState (beforeTransaction deps a).coordinator.state = true
    · rw [(processState_step deps a hstopped hrunning).2]
      exact hrunning
    · -- No other state of the coordinator makes the process run.
      exfalso
      have hkept := transactionSide_configTransactionStep deps (beforeTransaction deps a) (deps.clock a.world).1
      rw [gatewayApplicationStep_eq deps a hstopped] at hrun
      generalize configTransactionStep deps (beforeTransaction deps a) (deps.clock a.world).1 = d at hkept hrun
      generalize (deps.clock a.world).1 = now at *
      obtain ⟨w, stop, backlight, time, hside⟩ := sideSteps_eq deps d now
      have hcoordinator : (observeRevision (sideSteps deps d now)).coordinator.state =
          (beforeTransaction deps a).coordinator.state := by
        rw [(observeRevision_frame _).1, hside]
        exact hkept.coordinatorState
      have hprocess' : (observeRevision (sideSteps deps d now)).processState = a.processState := by
        rw [(observeRevision_transaction _).2.2, hside]
        exact hkept.processState.trans hprocess
      unfold processStep at hrun
      rw [hcoordinator] at hrun
      revert hrun hrunning hbefore
      rw [← hprocess']
      cases (beforeTransaction deps a).coordinator.state <;> simp [runningState, endingState]
      split <;> simp

theorem apart_step (h : Apart a) (hmeets : ¬ StopCrosses deps a) :
    Apart (gatewayApplicationStep deps a) := by
  by_cases hstopped : a.processState = .stopped
  · unfold gatewayApplicationStep
    rw [if_pos hstopped]
    exact h
  · obtain ⟨hselected, hstate, hprevious, hnetwork⟩ := step_ends deps a hstopped
    have hmove := transactionMove_configTransactionStep deps (beforeTransaction deps a) (deps.clock a.world).1
    have hside := transactionSide_configTransactionStep deps (beforeTransaction deps a) (deps.clock a.world).1
    have hactive : (gatewayApplicationStep deps a).transaction.state.active = true →
        a.transaction.state.active = true ∧ endingState (beforeTransaction deps a).coordinator.state = false := by
      intro hact
      obtain ⟨hbefore, hgoes⟩ := active_of_configTransactionStep deps (beforeTransaction deps a)
        (deps.clock a.world).1 (hstate ▸ hact)
      have htransaction : (beforeTransaction deps a).transaction = a.transaction :=
        (followed_networkFollow deps (polledNetwork deps a) (deps.clock a.world).1).side.transaction.trans
          (recordNetworkState_frame (networkPoll deps (beforeNetwork deps a))).2.2.2.2.1
      exact ⟨htransaction ▸ hbefore, hgoes⟩
    have hnet : (gatewayApplicationStep deps a).network = (beforeTransaction deps a).network :=
      hnetwork.trans hside.network
    refine ⟨running_step deps a h.running, ?_, ?_, ?_, ?_⟩
    · intro hact
      obtain ⟨hact', hgoes⟩ := hactive hact
      have huntouched := untouched_of_active deps a h hact'
      refine (processState_step deps a hstopped ?_).1
      rcases huntouched.state with hend | hsame
      · exact absurd (hend.symm.trans hgoes) (by decide)
      · rw [hsame]
        exact h.running (h.started hact')
    · intro hact
      obtain ⟨hact', hgoes⟩ := hactive hact
      have huntouched := untouched_of_active deps a h hact'
      rw [hnet]
      refine ⟨huntouched.pid, huntouched.recovering, ?_⟩
      rcases huntouched.observer with hend | hcross | hout
      · exact absurd (hend.symm.trans hgoes) (by decide)
      · exact absurd hcross hmeets
      · exact hout
    · intro hact
      rw [hnet]
      exact (untouched_of_active deps a h (hactive hact).1).handedOn
    · intro hact
      obtain ⟨hongoing, hprev⟩ := hmove.ongoing (hstate ▸ hact)
      have huntouched := untouched_of_active deps a h (hactive hact).1
      rw [hselected, hprevious, hongoing, hprev, huntouched.selected, huntouched.transaction]
      exact h.selected (hactive hact).1

/-! ## The requests -/

/-- A call that leaves what the invariant is about. -/
theorem Apart.of_same {a a' : GatewayApplication ω σ κ device} (h : Apart a)
    (hcoordinator : a'.coordinator = a.coordinator) (htransaction : a'.transaction = a.transaction)
    (hprocess : a'.processState = a.processState) (hnetwork : a'.network = a.network) : Apart a' := by
  refine ⟨?_, ?_, ?_, ?_, ?_⟩
  · rw [hprocess, hcoordinator]
    exact h.running
  · rw [htransaction, hprocess]
    exact h.started
  · rw [htransaction, hnetwork]
    exact h.idle
  · rw [htransaction, hnetwork]
    exact h.handedOn
  · rw [htransaction, hcoordinator]
    exact h.selected

/-- A call after which there is no transaction. -/
theorem Apart.of_inactive {a a' : GatewayApplication ω σ κ device} (h : Apart a)
    (hcoordinator : a'.coordinator = a.coordinator) (hprocess : a'.processState = a.processState)
    (hend : a'.transaction.state.active = false) : Apart a' := by
  have hnot : ∀ {p : Prop}, a'.transaction.state.active = true → p :=
    fun hact => absurd (hact.symm.trans hend) (by decide)
  refine ⟨?_, hnot, hnot, hnot, hnot⟩
  rw [hprocess, hcoordinator]
  exact h.running

theorem apart_request (config : GatewayPersistentConfig) (h : Apart a)
    (hmeets : (gatewayApplicationRequestConfiguration deps a config).1 = 0 →
      (gatewayApplicationRequestConfiguration deps a config).2.transaction.state ≠ .unchanged →
        HandedOn a.network) : Apart (gatewayApplicationRequestConfiguration deps a config).2 := by
  have hresult := requestOutcome deps a config
  generalize gatewayApplicationRequestConfiguration deps a config = result at hresult hmeets
  cases hresult with
  | refused => exact h
  | rejected error | unchanged | notStaged w result => exact h.of_inactive rfl rfl rfl
  | accepted w hpossible =>
    simp only [requestPossible, networkRuntimeBusy, Bool.and_eq_true, Bool.not_eq_true',
      Bool.or_eq_false_iff, decide_eq_true_eq] at hpossible
    obtain ⟨⟨⟨⟨⟨⟨⟨hpid, hrec⟩, hout⟩, _⟩, _⟩, _⟩, hrunning⟩, _⟩ := hpossible
    have hstate : ∀ a' : GatewayApplication ω σ κ device,
        (acceptRequest a' (stagedTransaction a config .ok)).transaction.state ≠ .unchanged := by
      intro a'
      simp only [acceptRequest, GatewayApplication.withTransaction]
      split <;> decide
    have hhanded := hmeets rfl (hstate { a with world := w })
    simp only [acceptRequest] at hhanded ⊢
    rw [advance_eq]
    have hout' : a.network.stopping = true → a.network.observerPid = false := by simpa using hout
    exact ⟨h.running, fun _ => hrunning, fun _ => ⟨hpid, hrec, hout'⟩, fun _ => hhanded, fun _ => rfl⟩

theorem apart_exec (call : ApplicationCall) (h : Apart a) (hmeets : KeepsApart deps a call) :
    Apart (call.exec deps a) := by
  cases call with
  | step => exact apart_step deps a h hmeets
  | requestConfiguration config =>
    exact apart_request deps a config h fun hzero hstate => hmeets ⟨hzero, hstate⟩
  | backlightSet on =>
    simp only [KeepsApart, Accepts] at hmeets
    simp only [ApplicationCall.exec]
    unfold gatewayApplicationBacklightSet at hmeets ⊢
    split
    · exact h
    · rename_i hon
      simp only [if_neg hon] at hmeets ⊢
      have hrequest := apart_request deps a
        { a.coordinator.selected with settings := { a.coordinator.selected.settings with backlightOn := on } } h
      generalize gatewayApplicationRequestConfiguration deps a _ = result at hmeets hrequest ⊢
      have hafter : Apart result.2 := hrequest fun hzero hstate => hmeets ⟨hzero, by
        rw [if_neg fun hand => hstate hand.2]
        exact hstate⟩
      split
      · exact hafter.of_same rfl rfl rfl rfl
      · exact hafter
  | networkApply settings =>
    simp only [ApplicationCall.exec]
    have hresult := applyOutcome deps a settings
    generalize gatewayApplicationNetworkApply deps a settings = result at hresult
    have hidle : configurationBusy a = false → a.transaction.state.active = false := by
      intro hfree
      simp only [configurationBusy, Bool.or_eq_false_iff] at hfree
      exact hfree.1
    cases hresult with
    | refused => exact h
    | notStarted candidate w hfree => exact h.of_inactive rfl rfl (hidle hfree)
    | started candidate w hfree =>
      rw [advance_eq]
      exact h.of_inactive rfl rfl (hidle hfree)
  | networkKeep =>
    simp only [ApplicationCall.exec, gatewayApplicationNetworkKeep]
    split <;> exact h.of_same rfl rfl rfl rfl
  | networkRevert => exact h.of_same rfl rfl rfl rfl
  | systemTimeSet v =>
    simp only [ApplicationCall.exec, gatewayApplicationSystemTimeSet]
    repeat' split
    · exact h
    · exact h
    · rw [advance_eq]
      exact h.of_same rfl rfl rfl rfl
    · exact h.of_same rfl rfl rfl rfl
  | ntpTest enabled =>
    simp only [ApplicationCall.exec, gatewayApplicationNtpTest]
    split
    · exact h
    split
    · exact h
    split
    · exact h
    · rw [advance_eq]
      exact h.of_same rfl rfl rfl rfl
  | requestStop =>
    simp only [ApplicationCall.exec, gatewayApplicationRequestStop]
    rw [advance_eq]
    exact h.of_same rfl rfl rfl rfl
  | setEpoch epoch =>
    simp only [ApplicationCall.exec, setRevisionEpoch]
    rw [advance_eq]
    exact h.of_same rfl rfl rfl rfl

/-! ## Whole runs -/

theorem apart_runApplication (calls : List ApplicationCall) {a : GatewayApplication ω σ κ device}
    (h : Apart a) (hmeets : Along (ApplicationCall.exec deps) (KeepsApart deps) calls a) :
    Apart (runApplication deps calls a) :=
  hmeets.invariant (fun a call h hcall => apart_exec deps a call h hcall) h

/-- No request selects another configuration. -/
theorem selected_of_request (call : ApplicationCall) (hstep : call ≠ .step) :
    (call.exec deps a).coordinator.selected = a.coordinator.selected :=
  (requested_of_ne_step deps a call hstep).same.selected

/-- What holds while a configuration transaction goes on: the network does not, and nothing
    but the transaction selects another configuration, and it only by its end. -/
structure Alone (deps : GatewayApplicationDependencies ω σ κ device)
    (a : GatewayApplication ω σ κ device) : Prop where
  idle : networkRuntimeBusy a.network = false
  previous : a.coordinator.selected = a.transaction.previous
  /-- Up to the transaction's own part of a step. -/
  before : (beforeTransaction deps a).coordinator.selected = a.coordinator.selected ∧
    (beforeTransaction deps a).transaction = a.transaction
  /-- And after it. -/
  after : (gatewayApplicationStep deps a).coordinator.selected =
    (configTransactionStep deps (beforeTransaction deps a) (deps.clock a.world).1).coordinator.selected
  outcome : ∀ call : ApplicationCall,
    (call.exec deps a).coordinator.selected = a.coordinator.selected ∨
      call = .step ∧ (call.exec deps a).transaction.state.active = false ∧
        ((call.exec deps a).coordinator.selected = a.transaction.candidate ∨
          (call.exec deps a).coordinator.selected = a.transaction.previous)

theorem Apart.alone {deps : GatewayApplicationDependencies ω σ κ device}
    {a : GatewayApplication ω σ κ device} (h : Apart a) (hactive : a.transaction.state.active = true) :
    Alone deps a := by
  have huntouched := untouched_of_active deps a h hactive
  have hrun : a.processState ≠ .stopped := by
    rw [h.started hactive]
    decide
  obtain ⟨hselected, hstate, _, _⟩ := step_ends deps a hrun
  obtain ⟨hpid, hrec, hout⟩ := h.idle hactive
  refine ⟨?_, h.selected hactive, ⟨huntouched.selected, huntouched.transaction⟩, hselected, ?_⟩
  · simpa [networkRuntimeBusy, hpid, hrec] using hout
  · intro call
    by_cases hstep : call = .step
    · subst hstep
      have hmove := transactionMove_configTransactionStep deps (beforeTransaction deps a) (deps.clock a.world).1
      rcases hmove.outcome with hsame | ⟨hend, hchosen⟩
      · exact .inl (hselected.trans (hsame.trans huntouched.selected))
      · rw [huntouched.transaction, ← hselected] at hchosen
        exact .inr ⟨rfl, (congrArg ConfigTxState.active hstate).trans hend, hchosen⟩
    · exact .inl (selected_of_request deps a call hstep)

/-- **Configuration and network transactions exclude each other, and no update is lost.** In every
    state of a run whose calls keep them apart, while a configuration transaction goes on no
    network transaction does, and nothing but the transaction selects another configuration. -/
theorem alone_of_keepsApart (deps : GatewayApplicationDependencies ω σ κ device)
    (environment : Option (NetworkEnvironment × NetworkProfile)) (server : CString)
    (controller : GatewayController σ κ device) (now : CoreTick) (w : ω) (calls : List ApplicationCall)
    (a₀ a : GatewayApplication ω σ κ device)
    (h₀ : a₀ = gatewayApplicationInit environment server controller now w)
    (ha : a = runApplication deps calls a₀)
    (hmeets : Along (ApplicationCall.exec deps) (KeepsApart deps) calls a₀)
    (hactive : a.transaction.state.active = true) : Alone deps a := by
  have happart : Apart a := by
    rw [ha]
    refine apart_runApplication deps calls ?_ hmeets
    rw [h₀]
    exact apart_init environment server controller now w
  exact happart.alone hactive

/-! ## A recovery that ends late -/

/-- All ports disabled, and the first bound to the first interface. -/
def boundConfig : GatewayPersistentConfig :=
  { gatewayPersistentSafeMode with
    ports := fun i =>
      if i = 0 then
        { (gatewayPersistentSafeMode.ports 0).bindTo (.ofText (text "10.0.0.1")) with bindPolicy := 2 }
      else gatewayPersistentSafeMode.ports i }

def boundDependencies : GatewayApplicationDependencies Script (List Int) (List Int) fun _ _ => False :=
  scriptedDependencies boundConfig

/-- The first interface at another address. -/
def movedNetworks : NetworkSettings :=
  { twoNetworks with
    lan := fun i => if i = 0 then { twoNetworks.lan 0 with address := text "10.0.0.2" } else twoNetworks.lan i }

/-- The supervisor of the transaction dies without a result, and the observer finds the
    candidate in the store. -/
def recoveringApplication : GatewayApplication Script (List Int) (List Int) fun _ _ => False :=
  scriptedApplication { service := true, readNetwork := true }
    { observer :=
        [.frame { settled := true, policy := twoNetworks },
          .frame { settled := true, policy := movedNetworks, recoveryGeneration := 2 }]
      supervisors := [[]] }

/-- The recovery ends in the last step, and the backlight is switched off. -/
def recoveredRun : List ApplicationCall :=
  List.replicate 7 .step ++ .networkApply movedNetworks :: List.replicate 12 .step ++ [.backlightSet 0]

def recoveredApplication : GatewayApplication Script (List Int) (List Int) fun _ _ => False :=
  runApplication boundDependencies recoveredRun recoveringApplication

/-- **The address that is lost.** The recovery has ended, the next step takes the new address of
    the interface into the selected configuration, and the commit of a transaction that was
    accepted in between takes it out again. -/
theorem address_lost_after_recovery :
    recoveredApplication.transaction.state.active = true ∧
      ((beforeTransaction boundDependencies recoveredApplication).coordinator.selected.ports
        0).bindAddress.bytes = text "10.0.0.2" ∧
      ((gatewayApplicationStep boundDependencies recoveredApplication).coordinator.selected.ports
        0).bindAddress.bytes = text "10.0.0.1" := by
  decide +kernel

/-- The gateway starts, and the backlight is switched off. -/
def darkRun : List ApplicationCall := List.replicate 7 .step ++ [.backlightSet 0]

theorem alone_darkRun :
    Alone idleDependencies (runApplication idleDependencies darkRun failingApplication) := by
  have hmeets : Along (ApplicationCall.exec idleDependencies) (KeepsApart idleDependencies) darkRun
      failingApplication := by decide +kernel
  have hactive : (runApplication idleDependencies darkRun failingApplication).transaction.state.active =
      true := by decide +kernel
  exact alone_of_keepsApart idleDependencies _ _ _ _ _ darkRun failingApplication _ rfl rfl hmeets hactive

end FourVrs.App
