import FourVrs.Config.Persistent
import FourVrs.Network.Manager
import FourVrs.Network.Owner

/-!
# The application's side of the network (`network/gateway_network_runtime.c`)

A network transaction runs in a process of its own, the supervisor; the application
starts it, sends it one-byte commands and takes one status frame from it a tick. A
second child reads the state of the interfaces for it, the observer. When the supervisor
dies without a result the application recovers: it waits for an observation that
matches the profile in the store.

What the system does is a table of functions over the world they act on: clocks, reads,
exits and forks return what they like.
-/

set_option autoImplicit false

namespace FourVrs.Network

open FourVrs.Core Config

deriving instance DecidableEq for NetworkSettings

/-! ## Profiles (`network/gateway_network_profile.c`) -/

/-- `gateway_network_profile_t`. -/
structure NetworkProfile where
  settings : NetworkSettings := {}
  /-- 0 for none, else the number of the interface a port's address follows. -/
  affinity : Fin gatewayPortCount → Nat := fun _ => 0
  originalBind : Fin gatewayPortCount → CText := fun _ => []
  interfaces : CText := []
  resolver : CText := []

/-- The two writers of the vendor's documents. -/
structure ProfileDocuments where
  /-- `gateway_network_render`. -/
  render : CText → NetworkSettings → Option CText
  /-- `gateway_network_resolver`. -/
  resolver : CText → (Fin 2 → CText) → Option CText

/-- `gateway_network_profile_candidate`. -/
def profileCandidate (docs : ProfileDocuments) (p : NetworkProfile) (s : NetworkSettings) :
    Option NetworkProfile :=
  if settingsValidate s ≠ .ok then none
  else
    (docs.render p.interfaces s).bind fun interfaces =>
      if s.automaticDns = 0 ∧ p.settings.automaticDns = 0 ∧ s.dns = p.settings.dns then
        some { p with settings := s, interfaces := interfaces }
      else
        (docs.resolver p.resolver (if s.automaticDns ≠ 0 then fun _ => [] else s.dns)).map
          fun resolver => { p with settings := s, interfaces := interfaces, resolver := resolver }

/-! ## The runtime -/

/-- `gateway_network_supervisor_status_t`. -/
structure SupervisorStatus where
  state : NetworkState
  deadline : CoreTick := 0
  rollbackReason : RollbackReason := .none
  errorCode : Int := 0
  deriving DecidableEq

/-- What the application uses of `gateway_network_service_status_t`. -/
structure ServiceStatus where
  settled : Bool := false
  error : Bool := false
  policy : NetworkSettings := {}
  /-- The profile the observer found in the store: 1 the confirmed, 2 the candidate. -/
  recoveryGeneration : Nat := 0
  observed : NetworkObservation := {}
  dhcpState : Lan → Nat := fun _ => 0
  leaseValid : Lan → Bool := fun _ => false
  leaseExpiry : Lan → CoreTick := fun _ => 0

/-- What the application uses of `gateway_network_environment_t`. -/
structure NetworkEnvironment where
  service : Bool
  readNetwork : Bool

/-- `gateway_network_runtime_t`. A descriptor or process number is whether there is one. -/
structure NetworkRuntime where
  environment : Option NetworkEnvironment
  confirmed : NetworkProfile
  candidate : NetworkProfile
  status : SupervisorStatus
  fd : Bool
  pid : Bool
  available : Bool
  bindingIndex : Nat
  bindingWait : Bool
  bindingAck : Bool
  stopSent : Bool
  bindingAffinity : Fin gatewayPortCount → Nat
  observed : NetworkObservation
  observedValid : Bool
  observationError : Bool
  stopping : Bool
  observerPid : Bool
  observerReceived : Bool
  observerFailed : Bool
  observeAt : CoreTick
  observerDeadline : CoreTick
  leaseValid : Lan → Bool
  dhcpState : Lan → Nat
  leaseExpiry : Lan → CoreTick
  observationEpoch : BitVec 32
  observerEpoch : BitVec 32
  dynamicIndex : Fin gatewayPortCount
  recovering : Bool
  recoveryKept : Bool
  recoveryDeadline : CoreTick

/-- One read of the observer's pipe. -/
inductive ObserverRead where
  | frame (snapshot : ServiceStatus)
  /-- Nothing yet. -/
  | again
  /-- The end of the pipe, a part of a frame, an error. -/
  | broken

/-- `waitpid` of the observer. -/
inductive ObserverExit where
  | running
  | exited (ok : Bool)

/-- How the start of an observer ends. -/
inductive ObserverStart where
  | noPipe | noDescriptor | noFlags | noChild | started

/-- One `recv` of the supervisor's status. -/
inductive StatusRead where
  | frame (status : SupervisorStatus)
  | fragment
  | none

/-- The system calls of the runtime. -/
structure NetworkSystem (ω : Type) where
  clock : ω → CoreTick × ω
  readObserver : ω → ObserverRead × ω
  reapObserver : ω → ObserverExit × ω
  killObserver : ω → ω
  startObserver : NetworkRuntime → ω → ObserverStart × ω
  recvStatus : ω → StatusRead × ω
  /-- `waitpid(r->pid) == r->pid`. -/
  reapSupervisor : ω → Bool × ω
  /-- The channel and the child were made. -/
  startSupervisor : NetworkSettings → ω → Bool × ω
  /-- `send` of one byte returned 1. -/
  send : Char → ω → Bool × ω

variable {ω : Type}

/-- `gateway_network_runtime_init`, once the profile is loaded: `none` for a network that is
    not configured. -/
def networkRuntimeInit (environment : Option (NetworkEnvironment × NetworkProfile)) (now : CoreTick) :
    NetworkRuntime where
  environment := environment.map (·.1)
  confirmed := (environment.map (·.2)).getD {}
  candidate := {}
  status := { state := if environment.isSome then .idle else .unavailable }
  fd := false
  pid := false
  available := environment.isSome
  bindingIndex := 0
  bindingWait := false
  bindingAck := false
  stopSent := false
  bindingAffinity := fun _ => 0
  observed := {}
  observedValid := false
  observationError := false
  stopping := false
  observerPid := false
  observerReceived := false
  observerFailed := false
  observeAt := if environment.isSome then now else 0
  observerDeadline := 0
  leaseValid := fun _ => false
  dhcpState := fun _ => 0
  leaseExpiry := fun _ => 0
  observationEpoch := 0
  observerEpoch := 0
  dynamicIndex := 0
  recovering := false
  recoveryKept := false
  recoveryDeadline := 0

/-- `environment && environment->service`. -/
def NetworkRuntime.serviced (r : NetworkRuntime) : Bool :=
  r.environment.any NetworkEnvironment.service

/-- `gateway_network_runtime_busy`. -/
def networkRuntimeBusy (r : NetworkRuntime) : Bool :=
  r.pid || r.recovering || (r.stopping && r.observerPid)

/-- The guard of `gateway_network_runtime_start`. -/
def NetworkRuntime.startable (r : NetworkRuntime) : Bool :=
  r.available && !r.pid && !r.recovering && !r.stopping &&
    decide (r.status.state ≠ .rollbackFailed) && decide (r.status.state ≠ .durabilityUncertain)

/-- `gateway_network_runtime_start`. -/
def networkRuntimeStart (docs : ProfileDocuments) (sys : NetworkSystem ω) (r : NetworkRuntime)
    (settings : NetworkSettings) (w : ω) : Int × NetworkRuntime × ω :=
  if r.startable then
    match profileCandidate docs r.confirmed settings with
    | none => (-1, r, w)
    | some candidate =>
        match sys.startSupervisor settings w with
        | (false, w) => (-1, { r with candidate := candidate }, w)
        | (true, w) =>
            (0, { r with
                candidate := candidate, fd := true, pid := true
                status := { state := .applying }
                bindingIndex := 0, bindingWait := false, bindingAck := false, stopSent := false }, w)
  else (-1, r, w)

variable (sys : NetworkSystem ω)

/-- `gateway_network_runtime_command`: 0 when the byte was sent. -/
def networkRuntimeCommand (r : NetworkRuntime) (command : Char) (w : ω) : Int × ω :=
  if r.fd then
    match sys.send command w with
    | (true, w) => (0, w)
    | (false, w) => (-1, w)
  else (-1, w)

/-- `gateway_network_runtime_disconnect`. -/
def networkRuntimeDisconnect (r : NetworkRuntime) : NetworkRuntime := { r with fd := false }

/-- `gateway_network_runtime_stop`. -/
def networkRuntimeStop (r : NetworkRuntime) (w : ω) : NetworkRuntime × ω :=
  let stopped := { r with stopping := true, recovering := false }
  let w := if r.observerPid then sys.killObserver w else w
  if ¬ r.pid ∨ r.stopSent then (stopped, w)
  else
    match networkRuntimeCommand sys r 'D' w with
    | (0, w) => ({ stopped with stopSent := true }, w)
    | (_, w) => ({ networkRuntimeDisconnect stopped with stopSent := true }, w)

/-! ## The observer -/

/-- The observation failed, or shows what the gateway does not support. -/
def ServiceStatus.failed (s : ServiceStatus) : Bool := s.error || decide (s.observed.unsupported ≠ 0)

/-- The service has settled on the profile that the observer found in the store. -/
def snapshotSettled (r : NetworkRuntime) (s : ServiceStatus) : Bool :=
  let p := if s.recoveryGeneration = 2 then r.candidate else r.confirmed
  decide (s.recoveryGeneration ≠ 0) && s.settled && !s.failed && decide (s.policy = p.settings)

/-- `accept_observation`. While it recovers, the application takes an observation for valid
    only when the service has settled. -/
def acceptObservation (r : NetworkRuntime) (s : ServiceStatus) : NetworkRuntime :=
  let seen :=
    { r with
      observed := s.observed, observedValid := true, observationError := s.failed
      leaseValid := s.leaseValid, dhcpState := s.dhcpState, leaseExpiry := s.leaseExpiry }
  if r.recovering then
    if snapshotSettled r s ∧ s.recoveryGeneration = 2 then
      { seen with confirmed := r.candidate, recoveryKept := true }
    else { seen with observedValid := snapshotSettled r s }
  else seen

/-- `read_observer`. -/
def readObserver (sys : NetworkSystem ω) (r : NetworkRuntime) (w : ω) : NetworkRuntime × ω :=
  if r.observerReceived ∨ r.observerFailed then (r, w)
  else
    match sys.readObserver w with
    | (.frame snapshot, w) =>
        let r := { r with observerReceived := true }
        -- A frame of an epoch that has passed is consumed all the same.
        (if r.observerEpoch = r.observationEpoch then acceptObservation r snapshot else r, w)
    | (.again, w) => (r, w)
    | (.broken, w) => ({ r with observerFailed := true }, w)

/-- The observer has ended. -/
def observerExited (r : NetworkRuntime) (ok : Bool) (now : CoreTick) : NetworkRuntime :=
  let failed := r.observerFailed || !ok || !r.observerReceived
  let error := r.observationError || (failed && decide (r.observerEpoch = r.observationEpoch))
  { r with
    observerFailed := failed, observationError := error, observerPid := false
    observeAt :=
      if r.observerEpoch ≠ r.observationEpoch then now else now + (if r.pid then 250 else 1000)
    leaseValid := if error then fun _ => false else r.leaseValid }

/-- The observer has not ended in its time. -/
def observerLate (r : NetworkRuntime) : NetworkRuntime :=
  if r.observerEpoch = r.observationEpoch then
    { r with observerFailed := true, observationError := true, leaseValid := fun _ => false }
  else { r with observerFailed := true }

/-- The end of `poll_observer`. -/
def startObserver (sys : NetworkSystem ω) (r : NetworkRuntime) (now : CoreTick) (w : ω) :
    NetworkRuntime × ω :=
  match sys.startObserver r w with
  | (.noPipe, w) | (.noChild, w) => ({ r with observationError := true, observeAt := now + 1000 }, w)
  | (.noDescriptor, w) => ({ r with observationError := true }, w)
  | (.noFlags, w) => (r, w)
  | (.started, w) =>
      ({ r with
          observerPid := true, observerDeadline := now + 200, observerEpoch := r.observationEpoch
          observerReceived := false, observerFailed := false }, w)

/-- `poll_observer` with an observer running. -/
def watchObserver (r : NetworkRuntime) (now : CoreTick) (w : ω) : NetworkRuntime × ω :=
  match sys.reapObserver w with
  | (.running, w) =>
      if due now r.observerDeadline then (observerLate r, sys.killObserver w) else (r, w)
  | (.exited true, w) =>
      match readObserver sys r w with
      | (r, w) => (observerExited r true now, w)
  | (.exited false, w) => (observerExited r false now, w)

/-- `poll_observer`. -/
def pollObserver (r : NetworkRuntime) (w : ω) : NetworkRuntime × ω :=
  if r.environment.any NetworkEnvironment.readNetwork then
    match sys.clock w with
    | (now, w) =>
        if r.observerPid then
          match readObserver sys r w with
          | (r, w) => watchObserver sys r now w
        else if r.stopping ∨ ¬ r.available ∨ ¬ due now r.observeAt then (r, w)
        else startObserver sys r now w
  else (r, w)

/-! ## Poll -/

/-- The observations made so far are no longer of this network. -/
def NetworkRuntime.renewEpoch (r : NetworkRuntime) (now : CoreTick) : NetworkRuntime :=
  { r with
    observedValid := false, observationEpoch := r.observationEpoch + 1, observeAt := now }

def NetworkRuntime.restartBindings (r : NetworkRuntime) : NetworkRuntime :=
  { r with bindingIndex := 0, bindingWait := false, bindingAck := false }

/-- The status is a state in which the ports follow the addresses. -/
def bindingState (state : NetworkState) : Bool :=
  decide (state = .waitBindings) || decide (state = .rollbackBindings)

/-- A status frame is taken. -/
def takeStatus (r : NetworkRuntime) (s : SupervisorStatus) (w : ω) : NetworkRuntime × ω :=
  let adopt (r : NetworkRuntime) : NetworkRuntime :=
    { r with status := s, confirmed := if s.state = .kept then r.candidate else r.confirmed }
  if s.state ≠ r.status.state ∧ bindingState s.state then
    if r.serviced then
      match sys.clock w with
      | (now, w) => (adopt (r.restartBindings.renewEpoch now), w)
    else (adopt r.restartBindings, w)
  else (adopt r, w)

/-- The supervisor leaves one of these as its last state. -/
def settledState (state : NetworkState) : Bool :=
  decide (state = .kept) || decide (state = .reverted) || decide (state = .failed) ||
    decide (state = .rollbackFailed) || decide (state = .durabilityUncertain)

/-- The supervisor has exited: without a result, the application recovers. -/
def supervisorGone (r : NetworkRuntime) (w : ω) : NetworkRuntime × ω :=
  let r := networkRuntimeDisconnect { r with pid := false }
  if settledState r.status.state then (r, w)
  else if r.serviced ∧ ¬ r.stopping then
    match sys.clock w with
    | (now, w) =>
        let r := { r.restartBindings.renewEpoch now with
          recovering := true, recoveryKept := false, recoveryDeadline := now + networkRollbackMs }
        ({ r with status := { r.status with state := .rollbackBindings } }, w)
  else ({ r with status := { r.status with state := .rollbackFailed } }, w)

/-- The recovery has not ended in its time. -/
def pollRecovery (r : NetworkRuntime) (w : ω) : NetworkRuntime × ω :=
  if r.recovering then
    match sys.clock w with
    | (now, w) =>
        if due now r.recoveryDeadline then
          ({ r with recovering := false, status := { r.status with state := .rollbackFailed } }, w)
        else (r, w)
  else (r, w)

/-- One status frame, or the exit of the supervisor once there is none. -/
def pollSupervisor (r : NetworkRuntime) (w : ω) : NetworkRuntime × ω :=
  if r.pid then
    match if r.fd then sys.recvStatus w else (.none, w) with
    | (.frame s, w) => takeStatus sys r s w
    | (.fragment, w) => (r, w)
    | (.none, w) =>
        match sys.reapSupervisor w with
        | (true, w) => supervisorGone sys r w
        | (false, w) => (r, w)
  else (r, w)

/-- `gateway_network_runtime_poll`. -/
def networkRuntimePoll (r : NetworkRuntime) (w : ω) : NetworkRuntime × ω :=
  match pollObserver sys r w with
  | (r, w) =>
      match pollRecovery sys r w with
      | (r, w) => pollSupervisor sys r w

end FourVrs.Network
