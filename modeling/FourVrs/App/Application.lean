import FourVrs.App.ApplicationNetwork

/-!
# The application (`app/gateway_application.c`)

One step of the application steps the coordinator, the network, the configuration
transaction, the backlight and the time, one after the other, and then looks what of
the protected state has changed. Between the steps the console, the panel and the web
server make their requests.
-/

set_option autoImplicit false

namespace FourVrs.App

open FourVrs.Core Config Gateway Network

variable {ω σ κ : Type} {device : σ → σ → Prop}

/-! ## The configuration transaction -/

/-- `config_terminal`. -/
def configTerminal (p : GatewayPortController σ κ device) (config : GatewayPortConfig) : Bool :=
  decide (p.lifecycle = restingLifecycle config)

/-- The port has the settings and has come to rest with them. -/
def configSettled (p : GatewayPortController σ κ device) (config : GatewayPortConfig) : Bool :=
  decide (p.current = config) && configTerminal p config

variable (deps : GatewayApplicationDependencies ω σ κ device) (a : GatewayApplication ω σ κ device)

/-- Replace the transaction. -/
def GatewayApplication.withTransaction (t : ConfigurationTransaction) : GatewayApplication ω σ κ device :=
  { a with transaction := t }

/-- `discard_configuration`. -/
def discardConfiguration (deps : GatewayApplicationDependencies ω σ κ device)
    (a : GatewayApplication ω σ κ device) : GatewayApplication ω σ κ device :=
  { a with world := deps.discardConfiguration a.world }

/-- `config_rollback_begin`. -/
def configRollbackBegin : GatewayApplication ω σ κ device :=
  let t := a.transaction
  (discardConfiguration deps a).withTransaction
    { t with
      state := .rollingBack
      portIndex := if t.candidate.ports = t.previous.ports then gatewayPortCount else 0
      waiting := false }

/-- `++t->port_index`. -/
def nextPort : GatewayApplication ω σ κ device :=
  a.withTransaction { a.transaction with portIndex := a.transaction.portIndex + 1 }

/-- A port could not be taken where the transaction wants it. -/
def portFailed : GatewayApplication ω σ κ device :=
  if a.transaction.state = .rollingBack then
    nextPort (a.withTransaction { a.transaction with rollbackFailed := true })
  else configRollbackBegin deps a

/-- The settings the transaction takes a port to. -/
def ConfigurationTransaction.desired (t : ConfigurationTransaction) (index : Fin gatewayPortCount) :
    GatewayPortConfig :=
  if t.state = .activating then t.candidate.ports index else t.previous.ports index

/-- A life cycle that ends by itself. -/
def transientLifecycle (lifecycle : GatewayPortLifecycle) : Bool :=
  decide (lifecycle = .starting) || decide (lifecycle = .reconfiguring) ||
    decide (lifecycle = .rollingBack) || decide (lifecycle = .stopping)

/-- `config_transaction_step` at one port. -/
def switchPort (index : Fin gatewayPortCount) (now : CoreTick) : GatewayApplication ω σ κ device :=
  let t := a.transaction
  let desired := t.desired index
  let p := a.coordinator.controller.ports index
  if ¬ t.waiting then
    if configSettled p desired then nextPort a
    else
      match gatewayControllerReconfigure a.coordinator.controller index desired now with
      | (0, c) => (a.withController c).withTransaction { t with waiting := true }
      | (_, c) => portFailed deps (a.withController c)
  else if transientLifecycle p.lifecycle then a
  else
    let a := a.withTransaction { t with waiting := false }
    if configSettled p desired then nextPort a else portFailed deps a

/-- `config_transaction_step` past the last port. -/
def switchDone : GatewayApplication ω σ κ device :=
  if a.transaction.state = .rollingBack then
    { a with
      coordinator := { a.coordinator with selected := a.transaction.previous }
      transaction := { a.transaction with state := .failed } }
  else a.withTransaction { a.transaction with state := .promoting }

/-- The candidate is the configuration in force. -/
def commitCandidate (state : ConfigTxState) (source : GatewayConfigSource) :
    GatewayApplication ω σ κ device :=
  { a with
    coordinator :=
      { a.coordinator with selected := a.transaction.candidate, configSource := source }
    transaction := { a.transaction with state := state } }

/-- The promotion may or may not have lasted: what would be loaded decides. -/
def reloadPromoted : GatewayApplication ω σ κ device :=
  match deps.selectConfiguration a.world with
  | ((result, loaded, source), w) =>
      let a := { a with world := w }
      if (result = .ok ∨ result = .absent) ∧ networkMap a.network loaded false = a.transaction.candidate then
        commitCandidate a .durabilityUncertain source
      else configRollbackBegin deps a

/-- `GATEWAY_CONFIG_TX_PROMOTING`. -/
def promoteStaged : GatewayApplication ω σ κ device :=
  match deps.promoteConfiguration a.world with
  | (result, w) =>
      let a := { a with
        world := w, transaction := { a.transaction with persistenceResult := result } }
      if result = .ok ∨ result = .unchanged then commitCandidate a .succeeded .active
      else if result = .durabilityUncertain then reloadPromoted deps a
      else configRollbackBegin deps a

/-- The gateway is ending. -/
def endingState (state : GatewayApplicationState) : Bool :=
  decide (state = .shuttingDown) || decide (state = .stopped) || decide (state = .fatalError)

/-- `config_transaction_step`. -/
def configTransactionStep (now : CoreTick) : GatewayApplication ω σ κ device :=
  let t := a.transaction
  if endingState a.coordinator.state ∧ t.state.active then
    (discardConfiguration deps a).withTransaction { t with state := .failed }
  else if t.state = .activating ∨ t.state = .rollingBack then
    if h : t.portIndex < gatewayPortCount then switchPort deps a ⟨t.portIndex, h⟩ now
    else switchDone a
  else if t.state = .promoting then promoteStaged deps a
  else a

/-! ## Requests -/

/-- The bind policy of an address that the request changes: literal, or following the
    interface that has it. -/
def requestedPolicy (n : NetworkRuntime) (address : CString) : Nat :=
  if n.available ∧ address ≠ anyAddress then
    (List.finRange 2).foldl
      (fun (policy : Nat) (lan : Lan) =>
        let settings := n.confirmed.settings.lan lan
        let own :=
          if settings.mode = .dhcpClient then
            if n.observedValid ∧ ¬ n.observationError ∧ n.leaseValid lan then
              (n.observed.lan lan).address
            else []
          else settings.address
        if address.bytes = own then lan.val + 2 else policy) 1
  else 1

/-- The candidate of a request, with the policies of the addresses it changes. -/
def requestedCandidate (n : NetworkRuntime) (config previous : GatewayPersistentConfig) :
    GatewayPersistentConfig :=
  { config with
    ports := fun i =>
      if (config.ports i).bindAddress ≠ (previous.ports i).bindAddress then
        { config.ports i with bindPolicy := requestedPolicy n (config.ports i).bindAddress }
      else config.ports i }

/-- The first error the check of the ports found. -/
def firstError (errors : PortErrors) : GatewayError :=
  (((List.finRange gatewayPortCount).map errors).find? (· ≠ .none)).getD .none

/-- The guard of `gateway_application_request_configuration`. -/
def requestPossible : Bool :=
  !networkRuntimeBusy a.network && decide (a.network.status.state ≠ .durabilityUncertain) &&
    decide (a.network.status.state ≠ .rollbackFailed) && a.coordinator.controllerInitialized &&
    decide (a.processState = .running) && !a.transaction.state.active

/-- A request that is turned down for what it asks. -/
def rejectRequest (error : GatewayError) : Int × GatewayApplication ω σ κ device :=
  (-1, a.withTransaction
    { clearTransaction .failed with validationError := error, persistenceResult := .invalid })

/-- The transaction of an accepted request. -/
def acceptRequest (t : ConfigurationTransaction) : GatewayApplication ω σ κ device :=
  let a := gatewayApplicationRevisionAdvance a
  let token := gatewayApplicationRevision a
  a.withTransaction
    { t with
      acceptedToken := token, resultToken := token
      state := if t.candidate.ports = t.previous.ports then .promoting else .activating }

/-- `gateway_application_request_configuration`. -/
def gatewayApplicationRequestConfiguration (config : GatewayPersistentConfig) :
    Int × GatewayApplication ω σ κ device :=
  let selected := a.coordinator.selected
  if !requestPossible a then (-1, a)
  else if !schemaSupported config.schemaVersion || !productSettingsValid config.settings then
    rejectRequest a .none
  else if (gatewayConfigurationValidate config.ports).1 ≠ 0 then
    rejectRequest a (firstError (gatewayConfigurationValidate config.ports).2)
  else if ∃ i, (config.ports i).uartIndex ≠ (selected.ports i).uartIndex then
    rejectRequest a .invalidConfig
  else if config = selected then
    (0, a.withTransaction { clearTransaction .unchanged with persistenceResult := .unchanged })
  else
    let candidate := requestedCandidate a.network config selected
    match deps.stageConfiguration (networkMap a.network candidate true) a.world with
    | (result, w) =>
        let t :=
          { clearTransaction .failed with
            candidate := candidate, previous := selected, persistenceResult := result }
        let a := { a with world := w }
        if result = .ok then (0, acceptRequest a t)
        else (-1, (discardConfiguration deps a).withTransaction t)

/-- `gateway_application_backlight_set`. -/
def gatewayApplicationBacklightSet (on : Nat) : Int × GatewayApplication ω σ κ device :=
  if on > 1 then (-1, a)
  else
    let config :=
      { a.coordinator.selected with
        settings := { a.coordinator.selected.settings with backlightOn := on } }
    match gatewayApplicationRequestConfiguration deps a config with
    | (r, a) =>
        (r, if r = 0 ∧ a.transaction.state = .unchanged then
            { a with backlight := { a.backlight with attempted := false } }
          else a)

/-- `gateway_application_system_time_set`. -/
def gatewayApplicationSystemTimeSet (v : GatewaySystemTime) :
    GatewaySystemTimeResult × GatewayApplication ω σ κ device :=
  if ¬ systemTimeValid v then (.invalid, a)
  -- Never race a helper that can still change the clock.
  else if a.time.trust = .syncing ∨ a.time.ntpTerminating ∨ a.stopRequested ∨
      a.processState = .stopped then (.setFailed, a)
  else
    match deps.systemTimeSet v a.world with
    | (result, w) =>
        let a := { a with world := w }
        if clockWasSet result then
          let a := gatewayApplicationRevisionAdvance a
          match acceptManualTime deps a.time result a.world with
          | (result, time, w) => (result, { a with time := time, world := w })
        else (result, a)

/-- `gateway_application_ntp_test`. -/
def gatewayApplicationNtpTest (enabled : Bool) : Int × GatewayApplication ω σ κ device :=
  if a.processState ≠ .running ∨ a.stopRequested then (-1, a)
  else if enabled ∧ (a.time.ntpEnabled = 0 ∨ a.time.ntpServer.bytes = [] ∨ a.time.ntpTerminating) then
    (-1, a)
  else if enabled = a.time.ntpTestActive then (0, a)
  else
    let a := gatewayApplicationRevisionAdvance a
    let t := { a.time with ntpTestActive := enabled }
    let t := if enabled then { t with ntpTestAttempts := 0, ntpNormalDeadline := t.ntpRetryDeadline } else t
    match deps.clock a.world with
    | (now, w) =>
        let due := if enabled then coreDeadlineAfter now ntpTestIntervalMs else t.ntpNormalDeadline
        (0, { a with
            world := w
            time :=
              if t.trust = .syncing then t
              else { t with ntpRetryDeadline := due, nextNtpAttempt := due.dueAt } })

/-- `gateway_application_request_stop`. -/
def gatewayApplicationRequestStop : GatewayApplication ω σ κ device :=
  { gatewayApplicationRevisionAdvance a with
    shutdownRequests := saturate a.shutdownRequests, stopRequested := true }

/-! ## The step -/

/-- `ENOSYS`. -/
def enosys : Int := 38

/-- `backlight_step`. -/
def backlightStep : GatewayApplication ω σ κ device :=
  let on := a.coordinator.selected.settings.backlightOn
  if ¬ a.coordinator.controllerInitialized ∨ a.stopRequested then a
  else if a.backlight.attempted ∧ a.backlight.desiredOn = on then a
  else
    match (deps.backlightSet.map fun set => set on a.world).getD (enosys, a.world) with
    | (error, w) =>
        { a with
          world := w
          backlight :=
            { desiredOn := on, attempted := true, lastError := error, commandKnown := decide (error = 0)
              commandOn := if error = 0 then on else a.backlight.commandOn } }

/-- `time_sync_step`. -/
def applicationTimeStep (now : CoreTick) : GatewayApplication ω σ κ device :=
  match timeSyncStep deps a.stopRequested a.coordinator a.network a.time now a.world with
  | (time, w) => { a with time := time, world := w }

/-- The selected configuration changed by the commit of the transaction alone. -/
def ownChange : Bool :=
  let t := a.transaction
  decide (a.revisionConfiguration ≠ a.coordinator.selected) && decide (t.acceptedToken ≠ []) &&
    decide (gatewayApplicationRevisionCheck a t.resultToken = 0) &&
    (decide (t.state = .succeeded) || decide (t.state = .durabilityUncertain)) &&
    decide (a.revisionConfiguration = t.previous) && decide (a.coordinator.selected = t.candidate)

/-- A valid observation shows other addresses than the last one did. -/
def addressChanged : Bool :=
  a.network.observedValid && decide (∃ i, a.revisionAddresses i ≠ (a.network.observed.lan i).address)

/-- `observe_revision`. -/
def observeRevision : GatewayApplication ω σ κ device :=
  let observed :=
    { a with
      revisionConfiguration := a.coordinator.selected
      revisionAddresses :=
        if a.network.observedValid then fun i => (a.network.observed.lan i).address
        else a.revisionAddresses }
  let advanced :=
    if a.revisionConfiguration ≠ a.coordinator.selected ∨ addressChanged a then
      gatewayApplicationRevisionAdvance observed
    else observed
  -- Only this request's commit may renew its receipt.
  if ownChange a ∧ ¬ addressChanged a then
    advanced.withTransaction
      { advanced.transaction with resultToken := gatewayApplicationRevision advanced }
  else advanced

/-- What the process says of itself once the coordinator has stopped. -/
def finalExit : GatewayProcessExit :=
  if a.network.status.state = .rollbackFailed ∨ a.network.status.state = .durabilityUncertain ∨
      ¬ a.coordinator.cleanupComplete ∨ a.coordinator.error = .shutdownIncomplete then .cleanupFailure
  else if a.fatalSeen then .fatalStartup
  else if a.safeModeSeen then .safeMode
  else .clean

/-- The end of `gateway_application_step`. -/
def processStep (now : CoreTick) : GatewayApplication ω σ κ device :=
  match a.coordinator.state with
  | .fatalError =>
      { a with
        fatalSeen := true, processState := .stopping
        cleanupAttempts := if a.cleanupAttempts = 0 then 1 else a.cleanupAttempts
        coordinator := gatewayCoordinatorRequestShutdown a.coordinator now }
  | .ready | .degraded => { a with processState := .running }
  | .safeMode => { a with safeModeSeen := true, processState := .running }
  | .shuttingDown => { a with processState := .stopping }
  | .stopped =>
      { a with
        processState :=
          if a.time.ntpTerminating ∨ networkRuntimeBusy a.network then .stopping else .stopped
        exitStatus := finalExit a }
  | _ => a

/-- The first part of `gateway_application_step`: the coordinator, and the addresses of a
    configuration that was just selected. -/
def coordinatorPhase (now : CoreTick) : GatewayApplication ω σ κ device :=
  let a := deliverSignal deps a
  match gatewayCoordinatorStep deps a.stopRequested a.coordinator now a.world with
  | (c, w) =>
      let c :=
        if c.state = .selectingConfiguration then
          { c with selected := networkMap a.network c.selected false }
        else c
      { a with
        coordinator := c, world := w
        cleanupAttempts := if a.stopRequested ∧ a.cleanupAttempts = 0 then 1 else a.cleanupAttempts }

/-- `gateway_application_step` up to the configuration transaction. -/
def networkPhase (now : CoreTick) : GatewayApplication ω σ κ device :=
  gatewayApplicationNetworkStep deps (deliverSignal deps (coordinatorPhase deps a now)) now

/-- `gateway_application_step`. -/
def gatewayApplicationStep : GatewayApplication ω σ κ device :=
  if a.processState = .stopped then a
  else
    match deps.clock a.world with
    | (now, w) =>
        let a := networkPhase deps { a with world := w } now
        let a := deliverSignal deps (configTransactionStep deps a now)
        processStep (observeRevision (applicationTimeStep deps (backlightStep deps a) now)) now

/-! ## Runs -/

/-- What the process does with the application between two waits. -/
inductive ApplicationCall where
  | step
  | requestConfiguration (config : GatewayPersistentConfig)
  | backlightSet (on : Nat)
  | networkApply (settings : NetworkSettings)
  | networkKeep
  | networkRevert
  | systemTimeSet (v : GatewaySystemTime)
  | ntpTest (enabled : Bool)
  | requestStop
  | setEpoch (epoch : CText)

def ApplicationCall.exec : ApplicationCall → GatewayApplication ω σ κ device
  | .step => gatewayApplicationStep deps a
  | .requestConfiguration config => (gatewayApplicationRequestConfiguration deps a config).2
  | .backlightSet on => (gatewayApplicationBacklightSet deps a on).2
  | .networkApply settings => (gatewayApplicationNetworkApply deps a settings).2
  | .networkKeep => (gatewayApplicationNetworkKeep deps a).2
  | .networkRevert => (gatewayApplicationNetworkRevert deps a).2
  | .systemTimeSet v => (gatewayApplicationSystemTimeSet deps a v).2
  | .ntpTest enabled => (gatewayApplicationNtpTest deps a enabled).2
  | .requestStop => gatewayApplicationRequestStop a
  | .setEpoch epoch => setRevisionEpoch a epoch

def runApplication (calls : List ApplicationCall) (a : GatewayApplication ω σ κ device) :
    GatewayApplication ω σ κ device :=
  calls.foldl (ApplicationCall.exec deps) a

end FourVrs.App
