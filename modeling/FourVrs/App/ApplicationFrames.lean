import FourVrs.App.Application
import FourVrs.Network.RuntimePoll

/-!
# What a step of the application leaves alone

The network's functions change the network, the controller and the selected
configuration (`NetworkSide`), and of the network they leave its course alone
(`CourseKept`) but for the end of a recovery.
-/

set_option autoImplicit false

namespace FourVrs.App

open FourVrs.Core Config Gateway Network

variable {ω σ κ : Type} {device : σ → σ → Prop}

/-- The applications agree in all but the network, the controller, the selected
    configuration, the world, and whether a stop has been asked for. -/
structure NetworkSide (a a' : GatewayApplication ω σ κ device) : Prop where
  coordinatorState : a'.coordinator.state = a.coordinator.state
  controllerInitialized : a'.coordinator.controllerInitialized = a.coordinator.controllerInitialized
  processState : a'.processState = a.processState
  transaction : a'.transaction = a.transaction
  time : a'.time = a.time
  epoch : a'.epoch = a.epoch
  revision : a'.revision = a.revision
  revisionNetworkState : a'.revisionNetworkState = a.revisionNetworkState
  revisionConfiguration : a'.revisionConfiguration = a.revisionConfiguration
  revisionAddresses : a'.revisionAddresses = a.revisionAddresses

variable (deps : GatewayApplicationDependencies ω σ κ device) (a : GatewayApplication ω σ κ device)

theorem NetworkSide.refl : NetworkSide a a := by
  constructor <;> rfl

theorem NetworkSide.trans {a₁ a₂ a₃ : GatewayApplication ω σ κ device} (h : NetworkSide a₁ a₂)
    (h' : NetworkSide a₂ a₃) : NetworkSide a₁ a₃ where
  coordinatorState := h'.coordinatorState.trans h.coordinatorState
  controllerInitialized := h'.controllerInitialized.trans h.controllerInitialized
  processState := h'.processState.trans h.processState
  transaction := h'.transaction.trans h.transaction
  time := h'.time.trans h.time
  epoch := h'.epoch.trans h.epoch
  revision := h'.revision.trans h.revision
  revisionNetworkState := h'.revisionNetworkState.trans h.revisionNetworkState
  revisionConfiguration := h'.revisionConfiguration.trans h.revisionConfiguration
  revisionAddresses := h'.revisionAddresses.trans h.revisionAddresses

/-- The runtimes agree in the course of the transaction and in what was observed. -/
structure CourseKept (n n' : NetworkRuntime) : Prop where
  status : n'.status = n.status
  pid : n'.pid = n.pid
  recovering : n'.recovering = n.recovering
  stopping : n'.stopping = n.stopping
  observerPid : n'.observerPid = n.observerPid
  observed : n'.observed = n.observed
  observedValid : n'.observedValid = n.observedValid

theorem CourseKept.refl (n : NetworkRuntime) : CourseKept n n := by
  constructor <;> rfl

theorem CourseKept.trans {n₁ n₂ n₃ : NetworkRuntime} (h : CourseKept n₁ n₂) (h' : CourseKept n₂ n₃) :
    CourseKept n₁ n₃ where
  status := h'.status.trans h.status
  pid := h'.pid.trans h.pid
  recovering := h'.recovering.trans h.recovering
  stopping := h'.stopping.trans h.stopping
  observerPid := h'.observerPid.trans h.observerPid
  observed := h'.observed.trans h.observed
  observedValid := h'.observedValid.trans h.observedValid

/-! ## The pieces of the network's step -/

theorem networkSide_deliverSignal : NetworkSide a (deliverSignal deps a) := by
  constructor <;> rfl

theorem networkSide_revert :
    NetworkSide a (gatewayApplicationNetworkRevert deps a).2 := by
  constructor <;> rfl

variable (now : CoreTick) (index : Fin gatewayPortCount)

theorem networkSide_dynamicRebind (address : CText) (now : CoreTick) :
    NetworkSide a (dynamicRebind a index address now) := by
  unfold dynamicRebind
  simp only []
  repeat' split
  all_goals constructor <;> rfl

theorem network_dynamicRebind (address : CText) (now : CoreTick) :
    (dynamicRebind a index address now).network = a.network := by
  unfold dynamicRebind
  simp only []
  repeat' split
  all_goals rfl

theorem networkSide_dynamicBindings :
    NetworkSide a (dynamicBindings a now) := by
  unfold dynamicBindings
  simp only []
  split
  · constructor <;> rfl
  · refine NetworkSide.trans ?_ (networkSide_dynamicRebind _ _ _ now)
    constructor <;> rfl

theorem courseKept_dynamicBindings :
    CourseKept a.network (dynamicBindings a now).network := by
  unfold dynamicBindings
  simp only []
  split
  · constructor <;> rfl
  · rw [network_dynamicRebind]
    constructor <;> rfl

theorem networkSide_keepBindings :
    NetworkSide a (keepBindings a) := by
  unfold keepBindings
  simp only []
  split <;> constructor <;> rfl

theorem courseKept_keepBindings :
    CourseKept a.network (keepBindings a).network := by
  unfold keepBindings
  simp only []
  split <;> constructor <;> rfl

/-- With no port to take to a new address nothing is selected anew. -/
theorem selected_keepBindings (h : a.network.status.state = .kept → ∀ i, a.network.bindingAffinity i = 0) :
    (keepBindings a).coordinator.selected = a.coordinator.selected := by
  unfold keepBindings
  simp only []
  split
  · rename_i hkept
    simp [h hkept]
  · rfl

/-- Asking for a rollback any number of times. -/
theorem revert_foldl (deps : GatewayApplicationDependencies ω σ κ device)
    (ports : List (Fin gatewayPortCount)) (a : GatewayApplication ω σ κ device) :
    let a' := ports.foldl (fun a _ => (gatewayApplicationNetworkRevert deps a).2) a
    NetworkSide a a' ∧ a'.network = a.network ∧ a'.coordinator = a.coordinator := by
  induction ports generalizing a with
  | nil => exact ⟨.refl a, rfl, rfl⟩
  | cons _ ports ih =>
    obtain ⟨hside, hnetwork, hcoordinator⟩ := ih (gatewayApplicationNetworkRevert deps a).2
    exact ⟨(networkSide_revert deps a).trans hside, hnetwork, hcoordinator⟩

theorem guardConfirm_kept :
    NetworkSide a (guardConfirm deps a) ∧ (guardConfirm deps a).network = a.network ∧
      (guardConfirm deps a).coordinator = a.coordinator := by
  unfold guardConfirm
  split
  · exact revert_foldl deps _ a
  · exact ⟨.refl a, rfl, rfl⟩

/-! ## The bindings -/

/-- The step finds every port at its address and a recovery to end. -/
def RecoveryEnds (a : GatewayApplication ω σ κ device) : Prop :=
  a.network.recovering = true ∧ gatewayPortCount ≤ a.network.bindingIndex ∧
    a.network.bindingAck = false ∧ (a.network.serviced = true → a.network.observedValid = true) ∧
    bindingState a.network.status.state = true

instance (a : GatewayApplication ω σ κ device) : Decidable (RecoveryEnds a) :=
  inferInstanceAs (Decidable (_ = _ ∧ _ ≤ _ ∧ _ = _ ∧ (_ = _ → _ = _) ∧ _ = _))

/-- What a step on the bindings leaves alone. -/
structure Bound (a a' : GatewayApplication ω σ κ device) : Prop where
  side : NetworkSide a a'
  selected : a'.coordinator.selected = a.coordinator.selected
  course : RecoveryEnds a ∨ CourseKept a.network a'.network
  pid : a'.network.pid = a.network.pid
  stopping : a'.network.stopping = a.network.stopping
  observerPid : a'.network.observerPid = a.network.observerPid
  observed : a'.network.observed = a.network.observed
  observedValid : a'.network.observedValid = a.network.observedValid

theorem Bound.of_course {a a' : GatewayApplication ω σ κ device} (side : NetworkSide a a')
    (selected : a'.coordinator.selected = a.coordinator.selected)
    (course : CourseKept a.network a'.network) : Bound a a' :=
  ⟨side, selected, .inr course, course.pid, course.stopping, course.observerPid, course.observed,
    course.observedValid⟩

theorem bound_bindWithoutAddress (now : CoreTick) : Bound a (bindWithoutAddress a index now) := by
  unfold bindWithoutAddress
  split
  · split <;> exact .of_course (by constructor <;> rfl) rfl (by constructor <;> rfl)
  · exact .of_course (.refl a) rfl (.refl a.network)

theorem bound_bindToAddress (address : CText) (now : CoreTick) :
    Bound a (bindToAddress deps a index address now) := by
  unfold bindToAddress
  simp only []
  split
  · exact .of_course (by constructor <;> rfl) rfl (by constructor <;> rfl)
  · split
    · split <;> exact .of_course (by constructor <;> rfl) rfl (by constructor <;> rfl)
    · split <;> exact .of_course (by constructor <;> rfl) rfl (by constructor <;> rfl)

theorem bound_finishBindings (hall : gatewayPortCount ≤ a.network.bindingIndex)
    (hack : a.network.bindingAck = false)
    (hvalid : a.network.serviced = true → a.network.observedValid = true)
    (hstate : bindingState a.network.status.state = true) : Bound a (finishBindings deps a) := by
  unfold finishBindings
  simp only []
  split
  · exact .of_course (networkSide_revert deps a) rfl (.refl a.network)
  split
  · rename_i hrec
    refine ⟨by constructor <;> rfl, rfl, .inl ⟨hrec, hall, hack, hvalid, hstate⟩, rfl, rfl, rfl, rfl, rfl⟩
  · split <;> exact .of_course (by constructor <;> rfl) rfl (by constructor <;> rfl)

theorem bound_stepBindings : Bound a (stepBindings deps a now) := by
  unfold stepBindings
  simp only []
  split
  · exact .of_course (.refl a) rfl (.refl a.network)
  · rename_i hgo
    obtain ⟨hstate, hack, hvalid⟩ : bindingState a.network.status.state = true ∧
        a.network.bindingAck = false ∧
          (a.network.serviced = true → a.network.observedValid = true) := by
      simpa [not_or] using hgo
    split
    · split
      · exact .of_course (by constructor <;> rfl) rfl (by constructor <;> rfl)
      · split
        · exact bound_bindWithoutAddress a _ now
        · exact bound_bindToAddress deps a _ _ now
    · rename_i hall
      exact bound_finishBindings deps a (Nat.le_of_not_lt hall) hack hvalid hstate

theorem recoveryEnds_dynamicBindings :
    RecoveryEnds (dynamicBindings a now) ↔ RecoveryEnds a := by
  unfold dynamicBindings
  simp only []
  split
  · exact Iff.rfl
  · unfold RecoveryEnds
    rw [network_dynamicRebind]
    exact Iff.rfl

theorem recoveryEnds_keepBindings :
    RecoveryEnds (keepBindings a) ↔ RecoveryEnds a := by
  unfold keepBindings
  simp only []
  split <;> exact Iff.rfl

/-- What a step of the network leaves alone once the runtime has been polled. -/
structure Followed (deps : GatewayApplicationDependencies ω σ κ device)
    (a a' : GatewayApplication ω σ κ device) : Prop where
  side : NetworkSide a a'
  course : RecoveryEnds a ∧ (deliverSignal deps a).stopRequested = false ∨
    CourseKept a.network a'.network
  pid : a'.network.pid = a.network.pid
  stopping : a'.network.stopping = a.network.stopping
  observerPid : a'.network.observerPid = a.network.observerPid
  observed : a'.network.observed = a.network.observed
  observedValid : a'.network.observedValid = a.network.observedValid

/-- The bindings up to the step at one port. -/
theorem followed_bindings (a d : GatewayApplication ω σ κ device) (hside : NetworkSide a d)
    (hcourse : CourseKept a.network d.network) :
    NetworkSide a (guardConfirm deps (keepBindings d)) ∧
      CourseKept a.network (guardConfirm deps (keepBindings d)).network := by
  obtain ⟨hguard, hnetwork, _⟩ := guardConfirm_kept deps (keepBindings d)
  rw [hnetwork]
  exact ⟨(hside.trans (networkSide_keepBindings d)).trans hguard,
    hcourse.trans (courseKept_keepBindings d)⟩

/-- `dynamic_bindings` under its guard. -/
def followLeases (a : GatewayApplication ω σ κ device) (now : CoreTick) : GatewayApplication ω σ κ device :=
  if a.network.available ∧ ¬ networkRuntimeBusy a.network ∧ ¬ configurationBusy a then
    dynamicBindings a now
  else a

theorem followLeases_kept :
    NetworkSide a (followLeases a now) ∧ CourseKept a.network (followLeases a now).network ∧
      (RecoveryEnds (followLeases a now) ↔ RecoveryEnds a) := by
  unfold followLeases
  split
  · exact ⟨networkSide_dynamicBindings a now, courseKept_dynamicBindings a now,
      recoveryEnds_dynamicBindings a now⟩
  · exact ⟨.refl a, .refl a.network, Iff.rfl⟩

theorem networkFollow_eq :
    networkFollow deps a now =
      if (deliverSignal deps a).stopRequested ∨ ¬ (deliverSignal deps a).coordinator.controllerInitialized then
        deliverSignal deps a
      else
        stepBindings deps (guardConfirm deps (keepBindings (followLeases (deliverSignal deps a) now))) now :=
  rfl

theorem followed_networkFollow :
    Followed deps a (networkFollow deps a now) := by
  have hsignal : NetworkSide a (deliverSignal deps a) := networkSide_deliverSignal deps a
  rw [networkFollow_eq]
  split
  · exact ⟨hsignal, .inr (.refl a.network), rfl, rfl, rfl, rfl, rfl⟩
  · rename_i hgo
    have hrun : (deliverSignal deps a).stopRequested = false := by
      simpa using (not_or.mp hgo).1
    obtain ⟨hlease, hleaseCourse, hends⟩ := followLeases_kept (deliverSignal deps a) now
    obtain ⟨hside, hcourse⟩ := followed_bindings deps a (followLeases (deliverSignal deps a) now)
      (hsignal.trans hlease) hleaseCourse
    have hbound := bound_stepBindings deps
      (guardConfirm deps (keepBindings (followLeases (deliverSignal deps a) now))) now
    refine ⟨hside.trans hbound.side, ?_, hbound.pid.trans hcourse.pid,
      hbound.stopping.trans hcourse.stopping, hbound.observerPid.trans hcourse.observerPid,
      hbound.observed.trans hcourse.observed, hbound.observedValid.trans hcourse.observedValid⟩
    cases hbound.course with
    | inl hrecovery =>
      have hkept := (guardConfirm_kept deps
        (keepBindings (followLeases (deliverSignal deps a) now))).2.1
      unfold RecoveryEnds at hrecovery
      rw [hkept] at hrecovery
      exact .inl ⟨hends.mp ((recoveryEnds_keepBindings _).mp hrecovery), hrun⟩
    | inr hstep => exact .inr (hcourse.trans hstep)

/-- While a configuration is being taken into force the network selects nothing anew,
    provided it has no address to hand on. -/
theorem selected_networkFollow (hbusy : configurationBusy a = true)
    (hkept : a.network.status.state = .kept → ∀ i, a.network.bindingAffinity i = 0) :
    (networkFollow deps a now).coordinator.selected = a.coordinator.selected := by
  have hleases : followLeases (deliverSignal deps a) now = deliverSignal deps a := by
    refine if_neg fun hall => hall.2.2 ?_
    exact hbusy
  rw [networkFollow_eq]
  split
  · rfl
  · rw [hleases, (bound_stepBindings deps _ now).selected, (guardConfirm_kept deps _).2.2]
    exact selected_keepBindings (deliverSignal deps a) hkept

/-! ## The rest of the step -/

/-- The applications agree in all that the configuration transaction is not about. -/
structure TransactionSide (a a' : GatewayApplication ω σ κ device) : Prop where
  coordinatorState : a'.coordinator.state = a.coordinator.state
  controllerInitialized : a'.coordinator.controllerInitialized = a.coordinator.controllerInitialized
  network : a'.network = a.network
  stopRequested : a'.stopRequested = a.stopRequested
  processState : a'.processState = a.processState
  time : a'.time = a.time
  epoch : a'.epoch = a.epoch
  revision : a'.revision = a.revision
  revisionNetworkState : a'.revisionNetworkState = a.revisionNetworkState
  revisionConfiguration : a'.revisionConfiguration = a.revisionConfiguration
  revisionAddresses : a'.revisionAddresses = a.revisionAddresses

theorem TransactionSide.refl : TransactionSide a a := by
  constructor <;> rfl

theorem TransactionSide.trans {a₁ a₂ a₃ : GatewayApplication ω σ κ device}
    (h : TransactionSide a₁ a₂) (h' : TransactionSide a₂ a₃) : TransactionSide a₁ a₃ where
  coordinatorState := h'.coordinatorState.trans h.coordinatorState
  controllerInitialized := h'.controllerInitialized.trans h.controllerInitialized
  network := h'.network.trans h.network
  stopRequested := h'.stopRequested.trans h.stopRequested
  processState := h'.processState.trans h.processState
  time := h'.time.trans h.time
  epoch := h'.epoch.trans h.epoch
  revision := h'.revision.trans h.revision
  revisionNetworkState := h'.revisionNetworkState.trans h.revisionNetworkState
  revisionConfiguration := h'.revisionConfiguration.trans h.revisionConfiguration
  revisionAddresses := h'.revisionAddresses.trans h.revisionAddresses

theorem transactionSide_portFailed : TransactionSide a (portFailed deps a) := by
  unfold portFailed
  split <;> constructor <;> rfl

theorem transactionSide_switchPort (now : CoreTick) :
    TransactionSide a (switchPort deps a index now) := by
  unfold switchPort
  simp only []
  split
  · split
    · constructor <;> rfl
    split
    · constructor <;> rfl
    · refine TransactionSide.trans ?_ (transactionSide_portFailed deps _)
      constructor <;> rfl
  split
  · exact .refl a
  split
  · constructor <;> rfl
  · refine TransactionSide.trans ?_ (transactionSide_portFailed deps _)
    constructor <;> rfl

theorem transactionSide_reloadPromoted : TransactionSide a (reloadPromoted deps a) := by
  unfold reloadPromoted
  simp only []
  split <;> constructor <;> rfl

theorem transactionSide_promoteStaged : TransactionSide a (promoteStaged deps a) := by
  unfold promoteStaged
  simp only []
  split
  · constructor <;> rfl
  split
  · refine TransactionSide.trans ?_ (transactionSide_reloadPromoted deps _)
    constructor <;> rfl
  · constructor <;> rfl

theorem transactionSide_configTransactionStep :
    TransactionSide a (configTransactionStep deps a now) := by
  unfold configTransactionStep
  simp only []
  split
  · constructor <;> rfl
  split
  · split
    · exact transactionSide_switchPort deps a _ now
    · unfold switchDone
      split <;> constructor <;> rfl
  · split
    · exact transactionSide_promoteStaged deps a
    · exact .refl a

/-- The application between the configuration transaction and the look at the revision. -/
def sideSteps (deps : GatewayApplicationDependencies ω σ κ device) (a : GatewayApplication ω σ κ device)
    (now : CoreTick) : GatewayApplication ω σ κ device :=
  applicationTimeStep deps (backlightStep deps (deliverSignal deps a)) now

theorem backlightStep_eq :
    ∃ w backlight, backlightStep deps a = { a with world := w, backlight := backlight } := by
  unfold backlightStep
  simp only []
  split
  · exact ⟨a.world, a.backlight, rfl⟩
  · split
    · exact ⟨a.world, a.backlight, rfl⟩
    · exact ⟨_, _, rfl⟩

/-- The backlight and the time have nothing to do with the rest. -/
theorem sideSteps_eq :
    ∃ w stop backlight time, sideSteps deps a now =
      { a with world := w, stopRequested := stop, backlight := backlight, time := time } := by
  obtain ⟨w, backlight, h⟩ := backlightStep_eq deps (deliverSignal deps a)
  refine ⟨(sideSteps deps a now).world, (sideSteps deps a now).stopRequested,
    (sideSteps deps a now).backlight, (sideSteps deps a now).time, ?_⟩
  unfold sideSteps
  rw [h]
  rfl

/-- The application as a step comes to the network. -/
def beforeNetwork (deps : GatewayApplicationDependencies ω σ κ device)
    (a : GatewayApplication ω σ κ device) : GatewayApplication ω σ κ device :=
  deliverSignal deps
    (coordinatorPhase deps { a with world := (deps.clock a.world).2 } (deps.clock a.world).1)

/-- The application as a step comes to the configuration transaction. -/
def beforeTransaction (deps : GatewayApplicationDependencies ω σ κ device)
    (a : GatewayApplication ω σ κ device) : GatewayApplication ω σ κ device :=
  gatewayApplicationNetworkStep deps (beforeNetwork deps a) (deps.clock a.world).1

theorem gatewayApplicationStep_eq (hrun : a.processState ≠ .stopped) :
    gatewayApplicationStep deps a =
      processStep (observeRevision (sideSteps deps
        (configTransactionStep deps (beforeTransaction deps a) (deps.clock a.world).1)
        (deps.clock a.world).1)) (deps.clock a.world).1 := by
  unfold gatewayApplicationStep
  rw [if_neg hrun]
  rfl

/-! ## A request for a configuration -/

/-- The transaction a request stages. -/
def stagedTransaction (a : GatewayApplication ω σ κ device) (config : GatewayPersistentConfig)
    (result : GatewayConfigResult) : ConfigurationTransaction :=
  { clearTransaction .failed with
    candidate := requestedCandidate a.network config a.coordinator.selected
    previous := a.coordinator.selected, persistenceResult := result }

/-- How a request for a configuration may end. -/
inductive RequestOutcome (a : GatewayApplication ω σ κ device) (config : GatewayPersistentConfig) :
    Int × GatewayApplication ω σ κ device → Prop where
  | refused (h : requestPossible a = false) : RequestOutcome a config (-1, a)
  | rejected (error : GatewayError) (h : requestPossible a = true) :
      RequestOutcome a config (rejectRequest a error)
  | unchanged (h : requestPossible a = true) (heq : config = a.coordinator.selected) :
      RequestOutcome a config
        (0, a.withTransaction { clearTransaction .unchanged with persistenceResult := .unchanged })
  | accepted (w : ω) (h : requestPossible a = true)
      (hsettings : schemaSupported config.schemaVersion = true ∧ productSettingsValid config.settings = true)
      (hvalid : (gatewayConfigurationValidate config.ports).1 = 0)
      (huart : ∀ i, (config.ports i).uartIndex = (a.coordinator.selected.ports i).uartIndex)
      (hne : config ≠ a.coordinator.selected) :
      RequestOutcome a config (0, acceptRequest { a with world := w } (stagedTransaction a config .ok))
  | notStaged (w : ω) (result : GatewayConfigResult) (h : requestPossible a = true) :
      RequestOutcome a config
        (-1, { a with world := w, transaction := stagedTransaction a config result })

theorem requestOutcome (config : GatewayPersistentConfig) :
    RequestOutcome a config (gatewayApplicationRequestConfiguration deps a config) := by
  unfold gatewayApplicationRequestConfiguration
  simp only []
  split
  · rename_i hpossible
    exact .refused (by simpa using hpossible)
  · rename_i hpossible
    have hpossible : requestPossible a = true := by simpa using hpossible
    split
    · exact .rejected _ hpossible
    rename_i hsettings
    split
    · exact .rejected _ hpossible
    rename_i hvalid
    split
    · exact .rejected _ hpossible
    rename_i huart
    split
    · rename_i heq
      exact .unchanged hpossible heq
    rename_i hne
    split
    · rename_i hok
      have hstaged := @RequestOutcome.accepted _ _ _ _ a config
        (deps.stageConfiguration (networkMap a.network
          (requestedCandidate a.network config a.coordinator.selected) true) a.world).2
        hpossible (by simpa using hsettings) (by simpa using hvalid) (by simpa using huart) hne
      rw [hok]
      exact hstaged
    · exact .notStaged _ _ hpossible

/-! ## A request for a network -/

/-- The network of a request that has recorded which interface each port follows. -/
def affinityRecorded (a : GatewayApplication ω σ κ device) : NetworkRuntime :=
  { a.network with
    bindingAffinity := fun i => bindAffinity a.network.confirmed (a.coordinator.selected.ports i) i }

/-- The network of a transaction that has begun. -/
def networkStarted (n : NetworkRuntime) (candidate : NetworkProfile) : NetworkRuntime :=
  { n with
    candidate := candidate, fd := true, pid := true, status := { state := .applying }
    bindingIndex := 0, bindingWait := false, bindingAck := false, stopSent := false }

/-- How the start of a network transaction may end. -/
inductive StartOutcome (n : NetworkRuntime) : Int × NetworkRuntime × ω → Prop where
  | notStarted (candidate : NetworkProfile) (w : ω) :
      StartOutcome n (-1, { n with candidate := candidate }, w)
  | started (candidate : NetworkProfile) (w : ω) (h : n.startable = true) :
      StartOutcome n (0, networkStarted n candidate, w)

theorem startOutcome (docs : ProfileDocuments) (sys : NetworkSystem ω) (n : NetworkRuntime)
    (settings : NetworkSettings) (w : ω) :
    StartOutcome n (networkRuntimeStart docs sys n settings w) := by
  unfold networkRuntimeStart
  split
  · rename_i hstart
    split
    · exact .notStarted n.candidate w
    · rename_i candidate _
      generalize sys.startSupervisor settings w = started
      obtain ⟨ok, w⟩ := started
      cases ok with
      | false => exact .notStarted candidate w
      | true => exact .started candidate w hstart
  · exact .notStarted n.candidate w

/-- How a request for a network may end. -/
inductive ApplyOutcome (a : GatewayApplication ω σ κ device) :
    Int × GatewayApplication ω σ κ device → Prop where
  | refused : ApplyOutcome a (-1, a)
  | notStarted (candidate : NetworkProfile) (w : ω) (hfree : configurationBusy a = false)
      (hidle : networkRuntimeBusy a.network = false) :
      ApplyOutcome a (-1, { a with world := w, network := { affinityRecorded a with candidate := candidate } })
  | started (candidate : NetworkProfile) (w : ω) (hfree : configurationBusy a = false)
      (hstart : a.network.startable = true) :
      ApplyOutcome a (0,
        { gatewayApplicationRevisionAdvance a with
          world := w, network := networkStarted (affinityRecorded a) candidate
          networkOperation := (gatewayApplicationRevisionAdvance a).revision })

theorem applyOutcome (settings : NetworkSettings) :
    ApplyOutcome a (gatewayApplicationNetworkApply deps a settings) := by
  unfold gatewayApplicationNetworkApply
  split
  · exact .refused
  · rename_i hguard
    simp only [not_or] at hguard
    obtain ⟨_, _, hfree, hidle, _, _⟩ := hguard
    have hfree : configurationBusy a = false := by simpa using hfree
    have hidle : networkRuntimeBusy a.network = false := by simpa using hidle
    split
    · exact .refused
    · simp only []
      split
      · exact .notStarted a.network.candidate a.world hfree hidle
      · have hstart : StartOutcome (affinityRecorded a)
            (networkRuntimeStart deps.documents deps.network
              { a.network with
                bindingAffinity := fun i =>
                  bindAffinity a.network.confirmed (a.coordinator.selected.ports i) i }
              settings a.world) := startOutcome _ _ (affinityRecorded a) settings a.world
        generalize networkRuntimeStart deps.documents deps.network
          { a.network with
            bindingAffinity := fun i =>
              bindAffinity a.network.confirmed (a.coordinator.selected.ports i) i }
          settings a.world = result at hstart ⊢
        cases hstart with
        | notStarted candidate w => exact .notStarted candidate w hfree hidle
        | started candidate w h =>
          have hstarted := ApplyOutcome.started candidate w hfree h
          by_cases hmax : a.revision = revisionMax
          · simp only [gatewayApplicationRevisionAdvance, if_pos hmax] at hstarted ⊢
            exact hstarted
          · simp only [gatewayApplicationRevisionAdvance, if_neg hmax] at hstarted ⊢
            exact hstarted

end FourVrs.App
