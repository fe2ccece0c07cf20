import FourVrs.Core.Transaction

/-!
# The port runtime (`core/port_runtime.c`)

One serial port's state machine: a queue of accepted transactions, at most one
active transaction, and a backend that is opened, started, polled, recovered,
reconfigured and stopped through a table of functions. The backend's context `σ`
and the completion callback's context `κ` are pointers in the source; the runtime
here holds the objects themselves, so that calling either returns its new value.

`backend = none` stands for a table `backend_valid` refuses: absent, or with a
missing function. `accepted` is ghost state, the transactions whose submission
was accepted, in order: what `stats.accepted` would count if it did not saturate.
-/

set_option autoImplicit false

namespace FourVrs.Core

def coreErrorLength : Nat := 32
def coreRecoveryMaxAttempts : Nat := 3

inductive PortState where
  | disabled | starting | ready | active | waiting | recovering | degraded | reconfiguring
  | stopping | error
  deriving DecidableEq, Repr, Inhabited

inductive CoreSubmitResult where
  | accepted | queueFull | portDisabled | portRecovering | invalidRequest | reconfiguring
  deriving DecidableEq, Repr, Inhabited

inductive BackendEventType where
  | none | response | malformed | failure | transmitted
  deriving DecidableEq, Repr, Inhabited

/-- `data` is the first `length` bytes of the source's array. -/
structure BackendEvent where
  type : BackendEventType
  generation : BitVec 32
  data : List UInt8
  deriving DecidableEq, Repr, Inhabited

structure CorePortConfig where
  revision : Nat
  mode : Nat
  baud : Nat
  dataBits : Nat
  parity : Nat
  stopBits : Nat
  specialBaudEnabled : Nat
  specialBaud : Nat
  transport : Nat
  endpointPort : Nat
  deriving DecidableEq, Repr, Inhabited

structure CoreBackendOps (σ : Type) where
  «open» : σ → CoreTick → Int × σ
  start : σ → CoreTransaction → CoreTick → Int × σ
  poll : σ → CoreTick → Int × BackendEvent × σ
  cancel : σ → BitVec 32 → σ
  recover : σ → CoreTick → Int × σ
  reconfigure : σ → CorePortConfig → CoreTick → Int × σ
  stop : σ → CoreTick → Int × σ

/-- `core_completion_fn`: context, transaction, status, response bytes. -/
abbrev CoreCompletionFn (κ : Type) :=
  κ → CoreTransaction → CoreTransactionStatus → List UInt8 → κ

structure PortStatistics where
  accepted : BitVec 32 := 0
  completed : BitVec 32 := 0
  timeouts : BitVec 32 := 0
  cancelled : BitVec 32 := 0
  queueFull : BitVec 32 := 0
  invalid : BitVec 32 := 0
  recoveries : BitVec 32 := 0
  recoveryFailures : BitVec 32 := 0
  staleResponses : BitVec 32 := 0
  backendFailures : BitVec 32 := 0
  reconfigurations : BitVec 32 := 0
  rollbacks : BitVec 32 := 0
  illegalTransitions : BitVec 32 := 0
  queueDepth : Nat := 0
  queueHighWater : Nat := 0
  lastSuccessAt : CoreTick := 0
  deriving DecidableEq, Repr, Inhabited

structure PortRuntime (σ κ : Type) where
  portIndex : Nat
  state : PortState
  currentConfig : CorePortConfig
  stagedConfig : CorePortConfig
  knownGoodConfig : CorePortConfig
  queue : TransactionQueue
  active : CoreTransaction
  hasActive : Bool
  nextTransactionId : BitVec 32
  generation : BitVec 32
  responseBarrierGeneration : BitVec 32
  stateDeadline : CoreDeadline
  recoveryDelay : CoreTick
  recoveryAttempts : Nat
  lastError : String
  stats : PortStatistics
  backend : Option (CoreBackendOps σ)
  backendContext : σ
  completion : Option (CoreCompletionFn κ)
  completionContext : κ
  /-- Ghost: the accepted transactions in acceptance order. -/
  accepted : List CoreTransaction

variable {σ κ : Type}

/-- `increment` saturates. -/
def increment (value : BitVec 32) : BitVec 32 :=
  if value ≠ 0xffffffff#32 then value + 1 else value

variable (port : PortRuntime σ κ) (backend : CoreBackendOps σ)

def setError (message : String) : PortRuntime σ κ :=
  { port with lastError := String.ofList (message.toList.take (coreErrorLength - 1)) }

/-- Update the statistics and nothing else. -/
def PortRuntime.tally (f : PortStatistics → PortStatistics) : PortRuntime σ κ :=
  { port with stats := f port.stats }

def configValid (config : CorePortConfig) : Bool :=
  decide (config.mode ≤ 3) && decide (config.baud > 0) &&
    decide (config.dataBits ≥ 5) && decide (config.dataBits ≤ 8) && decide (config.parity ≤ 2) &&
    (decide (config.stopBits = 1) || decide (config.stopBits = 2)) &&
    decide (config.endpointPort ≥ 1) && decide (config.endpointPort ≤ 65535)

def transitionAllowed : PortState → PortState → Bool
  | .disabled, .starting => true
  | .starting, .ready | .starting, .recovering | .starting, .stopping | .starting, .error => true
  | .ready, .active | .ready, .recovering | .ready, .reconfiguring | .ready, .stopping => true
  | .active, .waiting | .active, .recovering | .active, .reconfiguring | .active, .stopping => true
  | .waiting, .ready | .waiting, .recovering | .waiting, .reconfiguring
  | .waiting, .stopping => true
  | .recovering, .ready | .recovering, .degraded | .recovering, .reconfiguring
  | .recovering, .stopping | .recovering, .error => true
  | .degraded, .recovering | .degraded, .reconfiguring | .degraded, .stopping
  | .degraded, .error => true
  | .reconfiguring, .ready | .reconfiguring, .stopping | .reconfiguring, .error => true
  | .stopping, .disabled | .stopping, .error => true
  | .error, .starting | .error, .stopping | .error, .disabled => true
  | _, _ => false

def portRuntimeTransition (next : PortState) : Int × PortRuntime σ κ :=
  if transitionAllowed port.state next then (0, { port with state := next })
  else (-1, setError (port.tally fun s =>
    { s with illegalTransitions := increment s.illegalTransitions }) "illegal transition")

/-- `port_runtime_init`. The two contexts and the ghost log live outside the record
    the source clears, so they are handed in. -/
def portRuntimeInit (portIndex : Nat) (config : CorePortConfig)
    (backend : Option (CoreBackendOps σ)) (backendContext : σ) (completionContext : κ)
    (accepted : List CoreTransaction) : PortRuntime σ κ where
  portIndex := portIndex
  state := .disabled
  currentConfig := config
  stagedConfig := default
  knownGoodConfig := config
  queue := emptyQueue
  active := zeroTransaction
  hasActive := false
  nextTransactionId := 1
  generation := 0
  responseBarrierGeneration := 0
  stateDeadline := { dueAt := 0, armed := false }
  recoveryDelay := 5
  recoveryAttempts := 0
  lastError := ""
  stats := {}
  backend := backend
  backendContext := backendContext
  completion := none
  completionContext := completionContext
  accepted := accepted

def portRuntimeSetCompletion (completion : Option (CoreCompletionFn κ)) : PortRuntime σ κ :=
  { port with completion := completion }

def notifyCompletion (transaction : CoreTransaction) (status : CoreTransactionStatus) (response : List UInt8) :
    PortRuntime σ κ :=
  { port with
    completionContext :=
      match port.completion with
      | some completion => completion port.completionContext transaction status response
      | none => port.completionContext }

/-- `port->backend->cancel(…)`; the callers hold an active transaction, so a backend. -/
def backendCancel (generation : BitVec 32) : PortRuntime σ κ :=
  { port with
    backendContext :=
      match port.backend with
      | some backend => backend.cancel port.backendContext generation
      | none => port.backendContext }

def portRuntimeStart (now startTimeout : CoreTick) : Int × PortRuntime σ κ :=
  if port.backend.isNone || !coreTicksValidInterval startTimeout then (-1, port)
  else
    match portRuntimeTransition port .starting with
    | (0, started) => (0, { started with stateDeadline := coreDeadlineAfter now startTimeout })
    | (_, refused) => (-1, refused)

def updateDepth : PortRuntime σ κ :=
  port.tally fun s =>
    { s with
      queueDepth := port.queue.count
      queueHighWater := max s.queueHighWater port.queue.count }

/-! ## Submission -/

def operationValid (operation : CoreOperation) : Bool :=
  match operation.direction with
  | .txOnly =>
      decide (operation.responsePolicy = .none) && decide (operation.expectedResponseLength = 0)
  | .rxOnly | .txThenRx =>
      if operation.responsePolicy = .fixedLength then
        decide (operation.expectedResponseLength > 0) &&
          decide (operation.expectedResponseLength ≤ coreTransactionPayloadMax)
      else
        decide (operation.responsePolicy = .backendFramed) &&
          decide (operation.expectedResponseLength = 0)

/-- What a caller of `port_runtime_submit_operation` passes. -/
structure SubmitRequest where
  payload : List UInt8
  ownerKind : BitVec 32
  ownerId : BitVec 32
  metadata : Option (List (BitVec 32))
  operation : Option CoreOperation
  now : CoreTick
  queueTimeout : CoreTick
  responseTimeout : CoreTick
  deriving DecidableEq, Repr

def SubmitRequest.valid (r : SubmitRequest) : Bool :=
  decide (r.payload.length ≠ 0) && decide (r.payload.length ≤ coreTransactionPayloadMax) &&
    coreTicksValidInterval r.queueTimeout && decide (r.queueTimeout ≠ 0) &&
    coreTicksValidInterval r.responseTimeout && decide (r.responseTimeout ≠ 0) &&
    r.operation.any operationValid

/-- The record `port_runtime_submit_operation` fills in. -/
def newTransaction (r : SubmitRequest) : CoreTransaction :=
  { zeroTransaction with
    id := port.nextTransactionId
    ownerKind := r.ownerKind
    ownerId := r.ownerId
    transportMetadata := r.metadata.getD zeroTransaction.transportMetadata
    operation := r.operation.getD zeroTransaction.operation
    enqueuedAt := r.now
    queueDeadline := coreDeadlineAfter r.now r.queueTimeout
    responseTimeout := r.responseTimeout
    payload := r.payload
    serial := port.accepted.length }

/-- `port->next_transaction_id++`, skipping 0. -/
def takeTransactionId : PortRuntime σ κ :=
  { port with
    nextTransactionId :=
      if port.nextTransactionId + 1 = 0 then 1 else port.nextTransactionId + 1 }

/-- `port_runtime_submit_operation` past its checks. -/
def enqueue (r : SubmitRequest) : CoreSubmitResult × BitVec 32 × PortRuntime σ κ :=
  match queuePush port.queue (newTransaction port r) with
  | none =>
      (.queueFull, 0, (takeTransactionId port).tally fun s =>
        { s with queueFull := increment s.queueFull })
  | some queue =>
      (.accepted, port.nextTransactionId,
        updateDepth (({ takeTransactionId port with
            queue := queue
            accepted := port.accepted ++ [newTransaction port r] }).tally fun s =>
          { s with accepted := increment s.accepted }))

def portRuntimeSubmitOperation (r : SubmitRequest) : CoreSubmitResult × BitVec 32 × PortRuntime σ κ :=
  if !r.valid then
    (.invalidRequest, 0, port.tally fun s => { s with invalid := increment s.invalid })
  else
    match port.state with
    | .disabled | .stopping | .error => (.portDisabled, 0, port)
    | .recovering | .degraded | .starting => (.portRecovering, 0, port)
    | .reconfiguring => (.reconfiguring, 0, port)
    | .ready | .active | .waiting => enqueue port r

def portRuntimeSubmitWithMetadata (r : SubmitRequest) : CoreSubmitResult × BitVec 32 × PortRuntime σ κ :=
  portRuntimeSubmitOperation port
    { r with
      operation := some
        { direction := .txThenRx, responsePolicy := .backendFramed, expectedResponseLength := 0 } }

def portRuntimeSubmit (r : SubmitRequest) : CoreSubmitResult × BitVec 32 × PortRuntime σ κ :=
  portRuntimeSubmitWithMetadata port { r with metadata := none }

/-! ## Leaving a transaction -/

def clearActive : PortRuntime σ κ :=
  { port with active := zeroTransaction, hasActive := false }

/-- The block `if (port->has_active)` of `begin_recovery`. -/
def abandonActive : PortRuntime σ κ :=
  if port.hasActive then
    clearActive (backendCancel
      { port with responseBarrierGeneration := port.active.generation } port.active.generation)
  else port

def beginRecovery (now : CoreTick) (error : String) : PortRuntime σ κ :=
  (portRuntimeTransition
    { setError (abandonActive port) error with
      recoveryAttempts := 0
      stateDeadline := coreDeadlineAfter now port.recoveryDelay } .recovering).2

def portRuntimeReportIoFailure (now : CoreTick) (message : String) : Int × PortRuntime σ κ :=
  if port.state ≠ .ready || port.hasActive || decide (port.queue.count ≠ 0) then (-1, port)
  else
    (0, beginRecovery
      (port.tally fun s => { s with backendFailures := increment s.backendFailures }) now message)

/-- One pass of `flush_queue`'s loop for the popped transaction. -/
def cancelQueued (transaction : CoreTransaction) : PortRuntime σ κ :=
  (notifyCompletion port
    { transaction with status := .cancelled, cancelled := true } .cancelled []).tally fun s =>
      { s with cancelled := increment s.cancelled }

/-- The loop of `flush_queue`. Every pass pops one entry, so `queue.count` passes
    empty the queue. -/
def flushLoop : Nat → PortRuntime σ κ → PortRuntime σ κ
  | 0, port => port
  | passes + 1, port =>
      match queuePop port.queue with
      | none => port
      | some (transaction, queue) =>
          flushLoop passes (cancelQueued { port with queue := queue } transaction)

def flushQueue : PortRuntime σ κ :=
  updateDepth (flushLoop port.queue.count port)

/-- Mark the active transaction and report it: the assignment to `active.status`
    and the `notify_completion(port, &port->active, …)` that follows it. -/
def finishActive (status : CoreTransactionStatus) (response : List UInt8) : PortRuntime σ κ :=
  notifyCompletion { port with active := { port.active with status := status } }
    { port.active with status := status } status response

/-! ## `port_runtime_step` -/

/-- `port->active.request_transmitted = 1`. -/
def markTransmitted : PortRuntime σ κ :=
  { port with active := { port.active with requestTransmitted := true } }

/-- `step_waiting` past its first guard: an event of the active generation. -/
def handleEvent (event : BackendEvent) (now : CoreTick) : PortRuntime σ κ :=
  match event.type with
  | .transmitted => markTransmitted port
  | .response =>
      (portRuntimeTransition (clearActive (finishActive
        ((markTransmitted port).tally fun s =>
          { s with completed := increment s.completed, lastSuccessAt := now })
        .completed event.data)) .ready).2
  | .malformed =>
      beginRecovery (finishActive
        ((markTransmitted port).tally fun s =>
          { s with invalid := increment s.invalid })
        .malformed event.data) now "malformed response"
  | _ =>
      beginRecovery (finishActive (port.tally fun s =>
        { s with backendFailures := increment s.backendFailures }) .failed [])
        now "backend failure"

/-- What `step_waiting` does once `poll` has returned. -/
def afterPoll (result : Int) (event : BackendEvent) (now : CoreTick) : PortRuntime σ κ :=
  if result > 0 ∧ event.type ≠ .none then
    if !port.hasActive || event.generation ≠ port.active.generation then
      port.tally fun s => { s with staleResponses := increment s.staleResponses }
    else handleEvent port event now
  else if port.hasActive && coreDeadlineExpired port.active.responseDeadline now then
    beginRecovery (finishActive (port.tally fun s =>
      { s with timeouts := increment s.timeouts }) .timedOut []) now "response timeout"
  else port

def stepWaiting (port : PortRuntime σ κ) (now : CoreTick) : PortRuntime σ κ :=
  match backend.poll port.backendContext now with
  | (result, event, context) => afterPoll { port with backendContext := context } result event now

/-- `++port->generation`, skipping 0. -/
def nextGeneration (generation : BitVec 32) : BitVec 32 :=
  if generation + 1 = 0 then 1 else generation + 1

/-- The part of the loop of `PORT_READY` that starts the popped transaction. -/
def activate (transaction : CoreTransaction) (now : CoreTick) : PortRuntime σ κ :=
  (portRuntimeTransition
    { port with
      hasActive := true
      generation := nextGeneration port.generation
      active :=
        { transaction with
          generation := nextGeneration port.generation
          startedAt := now
          responseDeadline := coreDeadlineAfter now transaction.responseTimeout
          status := .active } } .active).2

/-- The part of the loop of `PORT_READY` that drops an expired transaction. -/
def expireQueued (transaction : CoreTransaction) : PortRuntime σ κ :=
  clearActive (finishActive (({ port with active := transaction }).tally fun s =>
    { s with timeouts := increment s.timeouts }) .timedOut [])

/-- The loop of `PORT_READY`, bounded like `flushLoop`. -/
def readyLoop (now : CoreTick) : Nat → PortRuntime σ κ → PortRuntime σ κ
  | 0, port => port
  | passes + 1, port =>
      match queuePop port.queue with
      | none => port
      | some (transaction, queue) =>
          if coreDeadlineExpired transaction.queueDeadline now then
            readyLoop now passes
              (expireQueued (updateDepth { port with queue := queue }) transaction)
          else activate (updateDepth { port with queue := queue }) transaction now

/-- Fall back to `known_good_config`: what `last_error` says depends on the way
    there, so `success` and `failure` set it. -/
def fallBack (port : PortRuntime σ κ) (now : CoreTick) (success failure : PortRuntime σ κ → PortRuntime σ κ) :
    PortRuntime σ κ :=
  match backend.reconfigure port.backendContext port.knownGoodConfig now with
  | (0, context) =>
      (portRuntimeTransition ((success { port with backendContext := context }).tally fun s =>
        { s with rollbacks := increment s.rollbacks }) .ready).2
  | (_, context) => (portRuntimeTransition (failure { port with backendContext := context }) .error).2

def stepReconfiguring (port : PortRuntime σ κ) (now : CoreTick) : PortRuntime σ κ :=
  if coreDeadlineExpired port.stateDeadline now then
    fallBack backend (setError port "reconfigure timeout") now id id
  else
    match backend.reconfigure port.backendContext port.stagedConfig now with
    | (0, context) =>
        (portRuntimeTransition (({ port with
            backendContext := context
            currentConfig := port.stagedConfig
            knownGoodConfig := port.stagedConfig }).tally fun s =>
          { s with reconfigurations := increment s.reconfigurations }) .ready).2
    | (_, context) =>
        fallBack backend { port with backendContext := context } now
          (setError · "reconfigure rolled back") (setError · "rollback failed")

/-- An event that arrives while the port recovers is counted and dropped. -/
def countStale (result : Int) (event : BackendEvent) : PortRuntime σ κ :=
  if result > 0 ∧ event.type ≠ .none then
    port.tally fun s => { s with staleResponses := increment s.staleResponses }
  else port

/-- `PORT_RECOVERING` after `recover` has failed and the failure is counted. -/
def recoverFailed (now : CoreTick) : PortRuntime σ κ :=
  if port.recoveryAttempts ≥ coreRecoveryMaxAttempts then
    (portRuntimeTransition port .degraded).2
  else { port with stateDeadline := coreDeadlineAfter now port.recoveryDelay }

/-- The part of `PORT_RECOVERING` behind the recovery delay. -/
def recoverNow (port : PortRuntime σ κ) (now : CoreTick) : PortRuntime σ κ :=
  match backend.recover port.backendContext now with
  | (0, context) =>
      (portRuntimeTransition (({ port with
          backendContext := context, recoveryAttempts := 0 }).tally fun s =>
        { s with recoveries := increment s.recoveries }) .ready).2
  | (_, context) =>
      recoverFailed ({ port with
          backendContext := context
          recoveryAttempts := port.recoveryAttempts + 1 }.tally fun s =>
        { s with recoveryFailures := increment s.recoveryFailures }) now

def stepRecovering (port : PortRuntime σ κ) (now : CoreTick) : PortRuntime σ κ :=
  match backend.poll port.backendContext now with
  | (result, event, context) =>
      if coreDeadlineExpired port.stateDeadline now then
        recoverNow backend (countStale { port with backendContext := context } result event) now
      else countStale { port with backendContext := context } result event

def stepStarting (port : PortRuntime σ κ) (now : CoreTick) : PortRuntime σ κ :=
  match backend.open port.backendContext now with
  | (0, context) =>
      (portRuntimeTransition
        { port with backendContext := context, recoveryAttempts := 0 } .ready).2
  | (_, context) =>
      if coreDeadlineExpired port.stateDeadline now then
        beginRecovery { port with backendContext := context } now "backend open failed"
      else { port with backendContext := context }

def stepActive (port : PortRuntime σ κ) (now : CoreTick) : PortRuntime σ κ :=
  match backend.start port.backendContext port.active now with
  | (0, context) => (portRuntimeTransition { port with backendContext := context } .waiting).2
  | (_, context) =>
      beginRecovery (finishActive (({ port with backendContext := context }).tally fun s =>
        { s with backendFailures := increment s.backendFailures }) .failed [])
        now "backend start failed"

def stepStopping (port : PortRuntime σ κ) (now : CoreTick) : PortRuntime σ κ :=
  match backend.stop port.backendContext now with
  | (0, context) => (portRuntimeTransition { port with backendContext := context } .disabled).2
  | (_, context) =>
      if coreDeadlineExpired port.stateDeadline now then
        (portRuntimeTransition
          (setError { port with backendContext := context } "stop timeout") .error).2
      else { port with backendContext := context }

def portRuntimeStep (now : CoreTick) : PortRuntime σ κ :=
  match port.backend with
  | none => port
  | some backend =>
      match port.state with
      | .starting => stepStarting backend port now
      | .ready => readyLoop now port.queue.count port
      | .active => stepActive backend port now
      | .waiting => stepWaiting backend port now
      | .recovering => stepRecovering backend port now
      | .reconfiguring => stepReconfiguring backend port now
      | .stopping => stepStopping backend port now
      | .disabled | .degraded | .error => port

/-! ## Requests -/

/-- Cancel the active transaction at the backend and report it: the block three
    requests share. -/
def abortActive : PortRuntime σ κ :=
  clearActive (finishActive ((backendCancel port port.active.generation).tally fun s =>
    { s with cancelled := increment s.cancelled }) .cancelled [])

def portRuntimeCancelActive (now : CoreTick) : Int × PortRuntime σ κ :=
  if !port.hasActive then (-1, port)
  else
    portRuntimeTransition
      { abortActive
          { port with
            active := { port.active with cancelled := true, status := .cancelled }
            responseBarrierGeneration := port.active.generation } with
        recoveryAttempts := 0
        stateDeadline := coreDeadlineAfter now port.recoveryDelay } .recovering

def portRuntimeDetachListener (now : CoreTick) : Int × PortRuntime σ κ :=
  if port.hasActive then portRuntimeCancelActive (flushQueue port) now else (0, flushQueue port)

/-- Cancel the active transaction, then the queued ones. -/
def cancelAll : PortRuntime σ κ :=
  flushQueue (if port.hasActive then abortActive port else port)

def portRuntimeRequestReconfigure (config : CorePortConfig) (now timeout : CoreTick) :
    Int × PortRuntime σ κ :=
  if !configValid config || decide (timeout = 0) || !coreTicksValidInterval timeout then (-1, port)
  else
    match port.state with
    | .ready | .active | .waiting | .recovering | .degraded =>
        portRuntimeTransition
          { cancelAll port with
            knownGoodConfig := port.currentConfig
            stagedConfig := config
            stateDeadline := coreDeadlineAfter now timeout } .reconfiguring
    | _ => (-1, port)

def portRuntimeRequestStop (now timeout : CoreTick) : Int × PortRuntime σ κ :=
  if decide (timeout = 0) || !coreTicksValidInterval timeout ||
      decide (port.state = .disabled) || decide (port.state = .stopping) then (-1, port)
  else
    portRuntimeTransition
      { cancelAll port with stateDeadline := coreDeadlineAfter now timeout } .stopping

end FourVrs.Core
