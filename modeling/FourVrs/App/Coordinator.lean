import FourVrs.Gateway.Controller
import FourVrs.Network.Runtime

/-!
# The coordinator (`gateway/gateway_coordinator.c`)

The coordinator takes the gateway through its start: it selects a configuration,
checks it, binds and starts the ports, and then steps the controller until it is told
to stop. It uses the controller's own functions, the default driver. The ring of
start-up events and the progress shown to the operator are left out.

What the application is given to work with (`gateway_application_dependencies_t`) is a
table of functions over one world; each returns what it likes and leaves the world as
it likes.
-/

set_option autoImplicit false

namespace FourVrs.App

open FourVrs.Core Config Gateway Network

def gatewayCoordinatorShutdownTimeout : CoreTick := 2000

inductive GatewayApplicationState where
  | bootstrap | loadingConfiguration | selectingConfiguration | validatingConfiguration
  | initializingController | startingPorts | checkingHealth | ready | degraded | safeMode
  | shuttingDown | stopped | fatalError
  deriving DecidableEq, Repr, Inhabited

inductive GatewayApplicationError where
  | none | configInvalid | configUnsupported | storageIo | bindingInit | controllerInit | portStart
  | shutdownIncomplete
  deriving DecidableEq, Repr, Inhabited

inductive GatewaySystemTimeResult where
  | ok | invalid | readFailed | setFailed | rtcSyncFailed | rtcUnsupported
  deriving DecidableEq, Repr, Inhabited

inductive GatewayRtcState where
  | unknown | unavailable | invalid | readFailed | unverified | saved | writeFailed
  deriving DecidableEq, Repr, Inhabited

structure GatewaySystemTime where
  year : Nat
  month : Nat
  day : Nat
  hour : Nat
  minute : Nat
  second : Nat
  deriving DecidableEq, Repr

variable {ω σ κ : Type}

/-- The bindings of the ports and the objects behind them. -/
structure GatewayBindings (σ κ : Type) (device : σ → σ → Prop) where
  binding : Fin gatewayPortCount → GatewayPortBinding σ κ device
  objects : Fin gatewayPortCount → σ × κ

/-- `gateway_application_dependencies_t`; a missing function is `none`. -/
structure GatewayApplicationDependencies (ω σ κ : Type) (device : σ → σ → Prop) where
  clock : ω → CoreTick × ω
  /-- Whether the handler of a stop signal has run. -/
  stopSignal : ω → Bool × ω
  selectConfiguration : ω → (GatewayConfigResult × GatewayPersistentConfig × GatewayConfigSource) × ω
  provideBindings : GatewayPorts → ω → Option (GatewayBindings σ κ device) × ω
  /-- 0 for success. -/
  attachBindings : Option (ω → Int × ω)
  stageConfiguration : GatewayPersistentConfig → ω → GatewayConfigResult × ω
  promoteConfiguration : ω → GatewayConfigResult × ω
  discardConfiguration : ω → ω
  backlightSet : Option (Nat → ω → Int × ω)
  systemTimeGet : ω → (GatewaySystemTimeResult × GatewaySystemTime) × ω
  systemTimeSet : GatewaySystemTime → ω → GatewaySystemTimeResult × ω
  ntpStart : Option (CString → ω → Int × ω)
  /-- The result, and whether the helper's output says that no server is suitable. -/
  ntpPoll : Option (ω → (Int × Bool) × ω)
  ntpCancel : Option (ω → ω)
  rtcProbe : Option (ω → GatewayRtcState × ω)
  rtcSave : Option (ω → GatewayRtcState × ω)
  network : NetworkSystem ω
  documents : ProfileDocuments

structure GatewayCoordinator (σ κ : Type) (device : σ → σ → Prop) where
  controller : GatewayController σ κ device
  selected : GatewayPersistentConfig
  state : GatewayApplicationState
  error : GatewayApplicationError
  configSource : GatewayConfigSource
  persistenceResult : GatewayConfigResult
  startupPortsComplete : Fin gatewayPortCount → Bool
  controllerInitialized : Bool
  controllerShutdownCalled : Bool
  cleanupComplete : Bool
  shutdownDeadline : CoreTick

variable {device : σ → σ → Prop}

/-- `gateway_coordinator_init`; `controller` is the cleared memory it will be made in. -/
def gatewayCoordinatorInit (controller : GatewayController σ κ device) :
    GatewayCoordinator σ κ device where
  controller := controller
  selected := zeroPersistentConfig
  state := .bootstrap
  error := .none
  configSource := .safeMode
  persistenceResult := .invalid
  startupPortsComplete := fun _ => false
  controllerInitialized := false
  controllerShutdownCalled := false
  cleanupComplete := false
  shutdownDeadline := 0

/-- A port has come to the end of its start. -/
def terminalPort (lifecycle : GatewayPortLifecycle) : Bool :=
  decide (lifecycle = .ready) || decide (lifecycle = .networkWait) ||
    decide (lifecycle = .disabled) || decide (lifecycle = .degraded) || decide (lifecycle = .error)

def configError : GatewayConfigResult → GatewayApplicationError
  | .ioError => .storageIo
  | .unsupportedVersion => .configUnsupported
  | _ => .configInvalid

variable (c : GatewayCoordinator σ κ device) (deps : GatewayApplicationDependencies ω σ κ device)

def beginShutdown (now : CoreTick) : GatewayCoordinator σ κ device :=
  if c.state = .stopped ∨ c.state = .shuttingDown then c
  else
    let c := { c with shutdownDeadline := now + gatewayCoordinatorShutdownTimeout }
    if c.controllerInitialized then
      { c with
        state := .shuttingDown, controllerShutdownCalled := true
        controller :=
          if c.controllerShutdownCalled then c.controller
          else gatewayControllerShutdown c.controller now }
    else { c with state := .stopped, cleanupComplete := true }

/-- `GATEWAY_APP_LOADING_CONFIGURATION`. -/
def loadConfiguration (c : GatewayCoordinator σ κ device) (w : ω) : GatewayCoordinator σ κ device × ω :=
  match deps.selectConfiguration w with
  | ((result, selected, source), w) =>
      if result = .ok ∨ result = .absent then
        ({ c with
            persistenceResult := result, selected := selected, configSource := source
            state := .selectingConfiguration }, w)
      else
        ({ c with
            persistenceResult := result, error := configError result
            selected := gatewayPersistentSafeMode, configSource := .safeMode
            state := .selectingConfiguration }, w)

/-- `GATEWAY_APP_VALIDATING_CONFIGURATION`. -/
def validateConfiguration : GatewayCoordinator σ κ device :=
  if (gatewayConfigurationValidate c.selected.ports).1 ≠ 0 then
    { c with
      error := .configInvalid, configSource := .safeMode, selected := gatewayPersistentSafeMode
      state := .initializingController }
  else { c with state := .initializingController }

/-- `GATEWAY_APP_INITIALIZING_CONTROLLER`, once the bindings are made. -/
def initializeController (c : GatewayCoordinator σ κ device) (bindings : GatewayBindings σ κ device)
    (now : CoreTick) (w : ω) : GatewayCoordinator σ κ device × ω :=
  match gatewayControllerInit c.selected.ports bindings.binding bindings.objects with
  | (0, controller) =>
      match (deps.attachBindings.map fun attach => attach w).getD ((0 : Int), w) with
      | (0, w) =>
          ({ c with
              controller := gatewayControllerStart controller now, controllerInitialized := true
              state := .startingPorts }, w)
      | (_, w) =>
          ({ c with
              controller := controller, controllerInitialized := true
              error := .bindingInit, state := .fatalError }, w)
  | (_, controller) =>
      ({ c with controller := controller, error := .controllerInit, state := .fatalError }, w)

/-- `startup_ports`. -/
def startupPorts (now : CoreTick) : GatewayCoordinator σ κ device :=
  let controller := gatewayControllerStep c.controller now
  let complete := fun i => c.startupPortsComplete i || terminalPort (controller.ports i).lifecycle
  { c with
    controller := controller, startupPortsComplete := complete
    state := if ∀ i, complete i then .checkingHealth else c.state }

/-- `GATEWAY_APP_CHECKING_HEALTH`, with the two counts of `gateway_controller_health`. -/
def checkHealth : GatewayCoordinator σ κ device :=
  let enabled := (List.finRange gatewayPortCount).countP fun i => (c.controller.ports i).current.enabled ≠ 0
  let ready := (List.finRange gatewayPortCount).countP fun i => (c.controller.ports i).lifecycle = .ready
  if c.configSource = .safeMode then { c with state := .safeMode }
  else if enabled = ready then { c with state := .ready }
  else { c with state := .degraded, error := .portStart }

/-- `GATEWAY_APP_SHUTTING_DOWN`. -/
def stepShutdown (now : CoreTick) : GatewayCoordinator σ κ device :=
  let c := if c.controllerInitialized then
      { c with controller := gatewayControllerStep c.controller now }
    else c
  if ∀ i, (c.controller.ports i).lifecycle ≠ .stopping ∧ (c.controller.ports i).listenerOwned = false then
    { c with cleanupComplete := true, state := .stopped }
  else if due now c.shutdownDeadline then
    { c with error := .shutdownIncomplete, state := .stopped }
  else c

/-- `gateway_coordinator_step`. -/
def gatewayCoordinatorStep (stop : Bool) (c : GatewayCoordinator σ κ device) (now : CoreTick) (w : ω) :
    GatewayCoordinator σ κ device × ω :=
  let c := if stop then beginShutdown c now else c
  match c.state with
  | .bootstrap => ({ c with state := .loadingConfiguration }, w)
  | .loadingConfiguration => loadConfiguration deps c w
  | .selectingConfiguration => ({ c with state := .validatingConfiguration }, w)
  | .validatingConfiguration => (validateConfiguration c, w)
  | .initializingController =>
      match deps.provideBindings c.selected.ports w with
      | (none, w) => ({ c with error := .bindingInit, state := .fatalError }, w)
      | (some bindings, w) => initializeController deps c bindings now w
  | .startingPorts => (startupPorts c now, w)
  | .checkingHealth => (checkHealth c, w)
  | .ready | .degraded | .safeMode =>
      ({ c with controller := gatewayControllerStep c.controller now }, w)
  | .shuttingDown => (stepShutdown c now, w)
  | .stopped | .fatalError => (c, w)

/-- `gateway_coordinator_request_shutdown`. -/
def gatewayCoordinatorRequestShutdown (now : CoreTick) : GatewayCoordinator σ κ device :=
  beginShutdown c now

end FourVrs.App
