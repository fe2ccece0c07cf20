import FourVrs.App.Time

/-!
# The application and the network (`app/gateway_application_network.c`)

The state of the application, the revision tokens its clients compare, and what it does
about the network: it starts a transaction, has the ports follow the addresses of the
interfaces, and takes the new addresses into the selected configuration once the network
is kept.

A stop signal may come at any moment; where the code reads the flag, the handler may
have run since the last read.
-/

set_option autoImplicit false

namespace FourVrs.App

open FourVrs.Core Config Gateway Network

inductive GatewayProcessState where
  | starting | running | stopping | stopped
  deriving DecidableEq, Repr, Inhabited

inductive GatewayProcessExit where
  | clean | safeMode | fatalStartup | cleanupFailure
  deriving DecidableEq, Repr, Inhabited

inductive ConfigTxState where
  | idle | activating | promoting | rollingBack | succeeded | unchanged | failed
  | durabilityUncertain
  deriving DecidableEq, Repr, Inhabited

/-- `gateway_configuration_transaction_t`. -/
structure ConfigurationTransaction where
  acceptedToken : CText
  resultToken : CText
  candidate : GatewayPersistentConfig
  previous : GatewayPersistentConfig
  state : ConfigTxState
  persistenceResult : GatewayConfigResult
  validationError : GatewayError
  portIndex : Nat
  waiting : Bool
  rollbackFailed : Bool

/-- `memset(t, 0, sizeof(*t))`, in a state. -/
def clearTransaction (state : ConfigTxState) : ConfigurationTransaction where
  acceptedToken := []
  resultToken := []
  candidate := zeroPersistentConfig
  previous := zeroPersistentConfig
  state := state
  persistenceResult := .ok
  validationError := .none
  portIndex := 0
  waiting := false
  rollbackFailed := false

/-- `gateway_backlight_health_t`. -/
structure BacklightHealth where
  desiredOn : Nat
  commandOn : Nat
  commandKnown : Bool
  attempted : Bool
  lastError : Int

/-- `gateway_application_t`, and the world its dependencies act on. -/
structure GatewayApplication (ω σ κ : Type) (device : σ → σ → Prop) where
  world : ω
  coordinator : GatewayCoordinator σ κ device
  network : NetworkRuntime
  /-- `run_control.stop_requested`. -/
  stopRequested : Bool
  processState : GatewayProcessState
  exitStatus : GatewayProcessExit
  shutdownRequests : Nat
  cleanupAttempts : Nat
  fatalSeen : Bool
  safeModeSeen : Bool
  transaction : ConfigurationTransaction
  time : ApplicationTime
  backlight : BacklightHealth
  epoch : CText
  revision : Nat
  networkOperation : Nat
  revisionNetworkState : NetworkState
  revisionConfiguration : GatewayPersistentConfig
  revisionAddresses : Lan → CText

variable {ω σ κ : Type} {device : σ → σ → Prop}

/-- `gateway_application_init`; `environment` is the network and its stored profile, if the
    gateway has one. -/
def gatewayApplicationInit (environment : Option (NetworkEnvironment × NetworkProfile))
    (server : CString) (controller : GatewayController σ κ device) (now : CoreTick) (w : ω) :
    GatewayApplication ω σ κ device where
  world := w
  coordinator := gatewayCoordinatorInit controller
  network := networkRuntimeInit environment now
  stopRequested := false
  processState := .starting
  exitStatus := .clean
  shutdownRequests := 0
  cleanupAttempts := 0
  fatalSeen := false
  safeModeSeen := false
  transaction := clearTransaction .idle
  time := applicationTimeInit server
  backlight := { desiredOn := 0, commandOn := 0, commandKnown := false, attempted := false, lastError := 0 }
  epoch := []
  revision := 0
  networkOperation := 0
  revisionNetworkState := .unavailable
  revisionConfiguration := zeroPersistentConfig
  revisionAddresses := fun _ => []

/-! ## Revisions -/

def revisionMax : Nat := 0xffffffff

variable (a : GatewayApplication ω σ κ device) (deps : GatewayApplicationDependencies ω σ κ device)
  (n : NetworkRuntime)

/-- `gateway_application_revision`. -/
def gatewayApplicationRevision : CText :=
  (if a.epoch = [] then text "local" else a.epoch) ++ ascii '.' :: decimalText a.revision

/-- `gateway_application_revision_check`: 0 for the token of the state as it is. -/
def gatewayApplicationRevisionCheck (expected : CText) : Int :=
  if a.revision = revisionMax then -1
  else if gatewayApplicationRevision a = expected then 0
  else -1

/-- `gateway_application_revision_advance`. -/
def gatewayApplicationRevisionAdvance : GatewayApplication ω σ κ device :=
  if a.revision = revisionMax then a else { a with revision := a.revision + 1 }

/-- The web server gives the tokens an epoch once it has random numbers. -/
def setRevisionEpoch (epoch : CText) : GatewayApplication ω σ κ device :=
  gatewayApplicationRevisionAdvance { a with epoch := epoch }

/-- The handler of a stop signal may have run. -/
def deliverSignal (a : GatewayApplication ω σ κ device) : GatewayApplication ω σ κ device :=
  match deps.stopSignal a.world with
  | (stop, w) => { a with stopRequested := a.stopRequested || stop, world := w }

/-! ## The addresses of the ports (`app/gateway_application_network.c`) -/

/-- `affinity`: the number of the interface a port's address follows, 0 for none. -/
def bindAffinity (p : NetworkProfile) (port : GatewayPortConfig) (index : Fin gatewayPortCount) : Nat :=
  if port.bindPolicy ≠ 0 then port.bindPolicy - 1
  else if port.bindAddress = anyAddress then 0
  else
    -- The first profiles knew of the second interface only: an address bound to the first
    -- one gains its affinity here.
    let lan :=
      if p.affinity index = 0 ∧ p.originalBind index = (p.settings.lan 0).address then 1
      else p.affinity index
    if lan ≠ 0 ∧ ((p.settings.lan (lanOfNumber lan)).mode = .dhcpClient ∨
        port.bindAddress.bytes = p.originalBind index ∨
        port.bindAddress.bytes = (p.settings.lan (lanOfNumber lan)).address) then lan
    else 0

/-- `binding_address`. -/
def bindingAddress (p : NetworkProfile) (lan : Nat) : Option CText :=
  let i := lanOfNumber lan
  if (p.settings.lan i).mode = .static then some (p.settings.lan i).address
  else if n.observedValid ∧ ¬ n.observationError ∧ n.leaseValid i ∧ (n.observed.lan i).address ≠ [] then
    some (n.observed.lan i).address
  else none

/-- `strcpy(port.bind_address, address)`. -/
def bindPort (port : GatewayPortConfig) (address : CText) : GatewayPortConfig :=
  port.bindTo (.ofText address)

/-- One pass of the loop of `gateway_application_network_map`. -/
def mapPort (reverse : Bool) (port : GatewayPortConfig) (index : Fin gatewayPortCount) : GatewayPortConfig :=
  let lan := bindAffinity n.confirmed port index
  if lan = 0 then port
  else
    match bindingAddress n n.confirmed lan with
    | none => port
    | some address =>
        if port.bindPolicy ≠ 0 then if reverse then port else bindPort port address
        else
          let original := n.confirmed.originalBind index
          let source := if reverse then address else original
          if port.bindAddress.bytes = source then
            bindPort port (if reverse then original else address)
          else port

/-- `gateway_application_network_map`. -/
def networkMap (config : GatewayPersistentConfig) (reverse : Bool) : GatewayPersistentConfig :=
  if n.available then { config with ports := fun i => mapPort n reverse (config.ports i) i }
  else config

/-- The transaction works on the ports or the file. -/
def ConfigTxState.active (s : ConfigTxState) : Bool :=
  decide (s = .activating) || decide (s = .promoting) || decide (s = .rollingBack)

/-- `configuration_busy`. -/
def configurationBusy : Bool :=
  a.transaction.state.active || decide (a.transaction.state = .durabilityUncertain)

/-- Replace the controller. -/
def GatewayApplication.withController (controller : GatewayController σ κ device) :
    GatewayApplication ω σ κ device :=
  { a with coordinator := { a.coordinator with controller := controller } }

/-- Replace the settings of one selected port. -/
def GatewayApplication.selectPort (index : Fin gatewayPortCount) (port : GatewayPortConfig) :
    GatewayApplication ω σ κ device :=
  { a with
    coordinator :=
      { a.coordinator with
        selected :=
          { a.coordinator.selected with
            ports := Function.update a.coordinator.selected.ports index port } } }

/-- The selected ports with the addresses of a candidate network. -/
def mappedPorts (settings : NetworkSettings) : GatewayPorts :=
  fun i =>
    let port := a.coordinator.selected.ports i
    let lan := bindAffinity a.network.confirmed port i
    if lan ≠ 0 ∧ (settings.lan (lanOfNumber lan)).mode = .static then
      bindPort port (settings.lan (lanOfNumber lan)).address
    else port

/-- A port that a network transaction may not come to. -/
def portBlocksNetwork (i : Fin gatewayPortCount) : Bool :=
  decide ((a.coordinator.selected.ports i).enabled ≠ 0) &&
    decide ((a.coordinator.controller.ports i).lifecycle ≠ .ready) &&
    decide ((a.coordinator.controller.ports i).lifecycle ≠ .networkWait)

/-- `gateway_application_network_apply`. -/
def gatewayApplicationNetworkApply (a : GatewayApplication ω σ κ device) (settings : NetworkSettings) :
    Int × GatewayApplication ω σ κ device :=
  if a.processState ≠ .running ∨ a.stopRequested ∨ configurationBusy a ∨
      networkRuntimeBusy a.network ∨ ¬ a.network.available ∨ settingsValidate settings ≠ .ok then (-1, a)
  else if ∃ i, portBlocksNetwork a i then (-1, a)
  else
    -- The affinities are recorded before it is known that there will be a transaction.
    let n :=
      { a.network with
        bindingAffinity := fun i =>
          bindAffinity a.network.confirmed (a.coordinator.selected.ports i) i }
    if (gatewayConfigurationValidate (mappedPorts a settings)).1 ≠ 0 then (-1, { a with network := n })
    else
      match networkRuntimeStart deps.documents deps.network n settings a.world with
      | (0, n, w) =>
          let a := gatewayApplicationRevisionAdvance { a with network := n, world := w }
          (0, { a with networkOperation := a.revision })
      | (r, n, w) => (r, { a with network := n, world := w })

/-- A lease that has run out is none. -/
def expireLeases (now : CoreTick) : NetworkRuntime :=
  { n with leaseValid := fun i => n.leaseValid i && !due now (n.leaseExpiry i) }

/-- The interface of a port that follows a lease. -/
def dynamicLan (port : GatewayPortConfig) (index : Fin gatewayPortCount) : Option Nat :=
  let lan := bindAffinity n.confirmed port index
  if lan ≠ 0 ∧ (n.confirmed.settings.lan (lanOfNumber lan)).mode = .dhcpClient then some lan else none

/-- One pass of the loop of `dynamic_bindings`: a port without a lease waits for the network. -/
def dynamicWait (selected : GatewayPorts) (now : CoreTick) (c : GatewayController σ κ device)
    (i : Fin gatewayPortCount) : GatewayController σ κ device :=
  match dynamicLan n (selected i) i with
  | none => c
  | some lan => (gatewayControllerNetworkWait c i (bindingAddress n n.confirmed lan).isNone now).2

/-- The end of `dynamic_bindings`: one port a tick follows its lease. -/
def dynamicRebind (index : Fin gatewayPortCount) (address : CText) (now : CoreTick) :
    GatewayApplication ω σ κ device :=
  let selected := a.coordinator.selected.ports index
  let desired := bindPort selected address
  let port := a.coordinator.controller.ports index
  if desired.enabled = 0 then a.selectPort index desired
  else if port.lifecycle = .ready ∧ port.current.bindAddress.bytes = address then
    a.selectPort index desired
  else if port.lifecycle = .ready ∨ port.lifecycle = .networkWait then
    a.withController (gatewayControllerReconfigure a.coordinator.controller index desired now).2
  else a

/-- `dynamic_bindings`. -/
def dynamicBindings (now : CoreTick) : GatewayApplication ω σ κ device :=
  let n := expireLeases a.network now
  let index := n.dynamicIndex
  let a := { a with network := { n with dynamicIndex := index + 1 } }
  let a := a.withController ((List.finRange gatewayPortCount).foldl
    (dynamicWait n a.coordinator.selected.ports now) a.coordinator.controller)
  match (dynamicLan n (a.coordinator.selected.ports index) index).bind
      (bindingAddress n n.confirmed) with
  | none => a
  | some address => dynamicRebind a index address now

/-- `gateway_application_network_keep`. -/
def gatewayApplicationNetworkKeep (a : GatewayApplication ω σ κ device) :
    Int × GatewayApplication ω σ κ device :=
  if a.network.status.state ≠ .waitConfirm ∨ ¬ a.network.bindingAck then (-1, a)
  else
    match networkRuntimeCommand deps.network a.network 'K' a.world with
    | (r, w) => (r, { a with world := w })

/-- `gateway_application_network_revert`. -/
def gatewayApplicationNetworkRevert (a : GatewayApplication ω σ κ device) :
    Int × GatewayApplication ω σ κ device :=
  match networkRuntimeCommand deps.network a.network 'R' a.world with
  | (r, w) => (r, { a with world := w })

/-! ## The network's step -/

/-- An enabled port that is not served. -/
def portNotReady (i : Fin gatewayPortCount) : Bool :=
  decide ((a.coordinator.selected.ports i).enabled ≠ 0) &&
    decide ((a.coordinator.controller.ports i).lifecycle ≠ .ready)

/-- The network was kept: the selected configuration takes the new addresses. -/
def keepBindings : GatewayApplication ω σ κ device :=
  let n := a.network
  if n.status.state = .kept then
    { a with
      network := { n with bindingAffinity := fun _ => 0 }
      coordinator :=
        { a.coordinator with
          selected :=
            { a.coordinator.selected with
              ports := fun i =>
                let port := a.coordinator.selected.ports i
                if n.bindingAffinity i = 0 then port
                else ((bindingAddress n n.confirmed (n.bindingAffinity i)).map (bindPort port)).getD port } } }
  else a

/-- Nothing is confirmed while an enabled port is not served. -/
def guardConfirm (a : GatewayApplication ω σ κ device) : GatewayApplication ω σ κ device :=
  if a.network.status.state = .waitConfirm then
    ((List.finRange gatewayPortCount).filter (portNotReady a)).foldl
      (fun a _ => (gatewayApplicationNetworkRevert deps a).2) a
  else a

/-- Every port has its address: the supervisor is told, or the recovery is over. -/
def finishBindings (a : GatewayApplication ω σ κ device) : GatewayApplication ω σ κ device :=
  let n := a.network
  if n.status.state = .waitBindings ∧ ∃ i, portNotReady a i then
    (gatewayApplicationNetworkRevert deps a).2
  else if n.recovering then
    { a with
      network :=
        { n with
          recovering := false, bindingAck := true
          status := { n.status with state := if n.recoveryKept then .kept else .reverted } } }
  else
    match networkRuntimeCommand deps.network n 'B' a.world with
    | (0, w) => { a with network := { n with bindingAck := true }, world := w }
    | (_, w) => { a with world := w }

/-- `++n->binding_index; n->binding_wait = 0`. -/
def nextBinding : GatewayApplication ω σ κ device :=
  { a with
    network := { a.network with bindingIndex := a.network.bindingIndex + 1, bindingWait := false } }

/-- A port whose interface has no address: a rollback leaves it waiting for the network. -/
def bindWithoutAddress (index : Fin gatewayPortCount) (now : CoreTick) : GatewayApplication ω σ κ device :=
  if a.network.status.state = .rollbackBindings then
    match gatewayControllerNetworkWait a.coordinator.controller index true now with
    | (0, c) => nextBinding (a.withController c)
    | (_, c) => a.withController c
  else a

/-- Where a port with these settings comes to rest. -/
def restingLifecycle (config : GatewayPortConfig) : GatewayPortLifecycle :=
  if config.enabled ≠ 0 then .ready else .disabled

/-- The listener of a port is taken to its address. -/
def bindToAddress (a : GatewayApplication ω σ κ device) (index : Fin gatewayPortCount) (address : CText)
    (now : CoreTick) : GatewayApplication ω σ κ device :=
  let desired := bindPort (a.coordinator.selected.ports index) address
  let a := a.withController (gatewayControllerNetworkWait a.coordinator.controller index false now).2
  let port := a.coordinator.controller.ports index
  if port.current = desired ∧ port.lifecycle = restingLifecycle desired then
    nextBinding a
  else if ¬ a.network.bindingWait then
    match gatewayControllerReconfigure a.coordinator.controller index desired now with
    | (0, c) =>
        let a := a.withController c
        { a with network := { a.network with bindingWait := true } }
    | (_, c) => (gatewayApplicationNetworkRevert deps (a.withController c)).2
  else if port.lifecycle = .error ∨ port.lifecycle = .degraded ∨ port.lifecycle = .ready ∨
      port.lifecycle = .disabled then
    (gatewayApplicationNetworkRevert deps a).2
  else a

/-- The end of `gateway_application_network_step`: one port a tick. -/
def stepBindings (a : GatewayApplication ω σ κ device) (now : CoreTick) : GatewayApplication ω σ κ device :=
  let n := a.network
  if ¬ bindingState n.status.state ∨ n.bindingAck ∨ n.serviced ∧ ¬ n.observedValid then a
  else if h : n.bindingIndex < gatewayPortCount then
    let index : Fin gatewayPortCount := ⟨n.bindingIndex, h⟩
    let profile := if n.status.state = .waitBindings then n.candidate else n.confirmed
    if n.bindingAffinity index = 0 then
      { a with network := { n with bindingIndex := n.bindingIndex + 1 } }
    else
      match bindingAddress n profile (n.bindingAffinity index) with
      | none => bindWithoutAddress a index now
      | some address => bindToAddress deps a index address now
  else finishBindings deps a

/-- `gateway_application_network_step` once the runtime has been polled. -/
def networkFollow (a : GatewayApplication ω σ κ device) (now : CoreTick) : GatewayApplication ω σ κ device :=
  let a := deliverSignal deps a
  if a.stopRequested ∨ ¬ a.coordinator.controllerInitialized then a
  else
    let a :=
      if a.network.available ∧ ¬ networkRuntimeBusy a.network ∧ ¬ configurationBusy a then
        dynamicBindings a now
      else a
    stepBindings deps (guardConfirm deps (keepBindings a)) now

/-- The runtime is told to stop, if the gateway is, and polled. -/
def networkPoll (a : GatewayApplication ω σ κ device) : GatewayApplication ω σ κ device :=
  match if a.stopRequested then networkRuntimeStop deps.network a.network a.world
      else (a.network, a.world) with
  | (n, w) =>
      match networkRuntimePoll deps.network n w with
      | (n, w) => { a with network := n, world := w }

/-- A change of the network's state advances the revision. -/
def recordNetworkState : GatewayApplication ω σ κ device :=
  if a.revisionNetworkState ≠ a.network.status.state then
    gatewayApplicationRevisionAdvance { a with revisionNetworkState := a.network.status.state }
  else a

/-- `gateway_application_network_step`. -/
def gatewayApplicationNetworkStep (a : GatewayApplication ω σ κ device) (now : CoreTick) :
    GatewayApplication ω σ κ device :=
  networkFollow deps (recordNetworkState (networkPoll deps a)) now

end FourVrs.App
