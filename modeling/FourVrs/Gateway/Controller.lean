import FourVrs.Config.PortConfig
import FourVrs.Core.PortControl
import Mathlib.Algebra.Group.Fin.Basic
import Mathlib.Data.List.FinRange

/-!
# The gateway controller (`gateway/gateway_controller.c`)

Each of the eight ports owns a runtime, a UART backend and a network listener, and
the controller takes it through a life cycle of its own: starting, ready, being
reconfigured, rolled back, stopped, waiting for the network.

The listener is a table of functions over an object that submits to the runtime and
is called back by it. Here that object *is* the completion context of the runtime,
and a listener's function takes the runtime it works on. What a listener may do to
a runtime is `ListenerCall`: submit, report an I/O failure, install its callback,
change its own state and use the device. The table carries the proof that its
functions do nothing else, so a listener that, say, steps the runtime cannot be
bound.
-/

set_option autoImplicit false

namespace FourVrs.Gateway

open FourVrs.Core Config

def gatewayStartTimeout : CoreTick := 1000
def gatewayReconfigureTimeout : CoreTick := 1000
def gatewayStopTimeout : CoreTick := 1000

inductive GatewayPortLifecycle where
  | disabled | starting | ready | reconfiguring | rollingBack | stopping | degraded | error
  | networkWait
  deriving DecidableEq, Repr, Inhabited

variable {σ κ : Type}

/-- One thing a listener does to the runtime it was opened on. `device` says which
    changes of the backend's object its own input and output can make. -/
inductive ListenerCall (device : σ → σ → Prop) : PortRuntime σ κ → PortRuntime σ κ → Prop where
  | submit (port : PortRuntime σ κ) (request : SubmitRequest) :
      ListenerCall device port (portRuntimeSubmitOperation port request).2.2
  | reportIoFailure (port : PortRuntime σ κ) (now : CoreTick) (message : String) :
      ListenerCall device port (portRuntimeReportIoFailure port now message).2
  | setCompletion (port : PortRuntime σ κ) (completion : Option (CoreCompletionFn κ)) :
      ListenerCall device port (portRuntimeSetCompletion port completion)
  | work (port : PortRuntime σ κ) (context : κ) :
      ListenerCall device port { port with completionContext := context }
  | useDevice (port : PortRuntime σ κ) (context : σ) (h : device port.backendContext context) :
      ListenerCall device port { port with backendContext := context }

abbrev ListenerCalls (device : σ → σ → Prop) : PortRuntime σ κ → PortRuntime σ κ → Prop :=
  Relation.ReflTransGen (ListenerCall device)

/-- `gateway_transport_ops_t`; a missing function is `none`. -/
structure GatewayTransportOps (σ κ : Type) (device : σ → σ → Prop) where
  start : Option (GatewayPortConfig → PortRuntime σ κ → Int × PortRuntime σ κ)
  step : Option (CoreTick → PortRuntime σ κ → PortRuntime σ κ)
  stop : Option (PortRuntime σ κ → Int × PortRuntime σ κ)
  start_calls : ∀ f ∈ start, ∀ config port, ListenerCalls device port (f config port).2
  step_calls : ∀ f ∈ step, ∀ now port, ListenerCalls device port (f now port)
  stop_calls : ∀ f ∈ stop, ∀ port, ListenerCalls device port (f port).2

/-- The two tables; the objects they work on are the contexts of the runtime. -/
structure GatewayPortBinding (σ κ : Type) (device : σ → σ → Prop) where
  backendOps : Option (CoreBackendOps σ)
  transportOps : Option (GatewayTransportOps σ κ device)

structure GatewayPortController (σ κ : Type) (device : σ → σ → Prop) where
  current : GatewayPortConfig
  staged : GatewayPortConfig
  knownGood : GatewayPortConfig
  runtime : PortRuntime σ κ
  binding : GatewayPortBinding σ κ device
  lifecycle : GatewayPortLifecycle
  lastError : GatewayError
  configGeneration : BitVec 32
  listenerOwned : Bool
  pendingDisable : Bool
  listenerRebind : Bool
  networkWait : Bool
  startupFailures : BitVec 32
  listenerFailures : BitVec 32
  reconfigureFailures : BitVec 32
  rollbackFailures : BitVec 32
  stopFailures : BitVec 32
  schedulerSteps : BitVec 32

structure GatewayController (σ κ : Type) (device : σ → σ → Prop) where
  ports : Fin gatewayPortCount → GatewayPortController σ κ device
  schedulerSteps : BitVec 32
  nextPort : Fin gatewayPortCount

variable {device : σ → σ → Prop}

/-! ## The listener -/

variable (p : GatewayPortController σ κ device) (c : GatewayController σ κ device)

def transportStartAt (config : GatewayPortConfig) : Int × GatewayPortController σ κ device :=
  match p.binding.transportOps.bind GatewayTransportOps.start with
  | none => (-1, p)
  | some start =>
      match start config p.runtime with
      | (0, runtime) => (0, { p with runtime := runtime, listenerOwned := true })
      | (_, runtime) => (-1, { p with runtime := runtime })

def transportStart : Int × GatewayPortController σ κ device :=
  transportStartAt p p.current

def transportStop : Int × GatewayPortController σ κ device :=
  if p.listenerOwned then
    match p.binding.transportOps.bind GatewayTransportOps.stop with
    | none => (0, { p with listenerOwned := false })
    | some stop =>
        match stop p.runtime with
        | (0, runtime) => (0, { p with runtime := runtime, listenerOwned := false })
        | (result, runtime) => (result, { p with runtime := runtime })
  else (0, { p with listenerOwned := false })

def transportStep (now : CoreTick) : GatewayPortController σ κ device :=
  if p.listenerOwned then
    match p.binding.transportOps.bind GatewayTransportOps.step with
    | none => p
    | some step => { p with runtime := step now p.runtime }
  else p

/-! ## Start -/

/-- One pass of the loop of `gateway_controller_init`. The objects behind the binding
    are those the runtime `objects` holds. -/
def initPort (index : Nat) (config : GatewayPortConfig) (error : GatewayError)
    (binding : GatewayPortBinding σ κ device) (objects : σ × κ) :
    GatewayPortController σ κ device where
  current := config
  staged := zeroPortConfig
  knownGood := config
  runtime := portRuntimeInit index (coreConfig config) binding.backendOps objects.1 objects.2 []
  binding := binding
  lifecycle := if error = .none then .disabled else .error
  lastError := error
  configGeneration := BitVec.ofNat 32 config.revision
  listenerOwned := false
  pendingDisable := false
  listenerRebind := false
  networkWait := false
  startupFailures := 0
  listenerFailures := 0
  reconfigureFailures := 0
  rollbackFailures := 0
  stopFailures := 0
  schedulerSteps := 0

def gatewayControllerInit (ports : GatewayPorts)
    (bindings : Fin gatewayPortCount → GatewayPortBinding σ κ device)
    (objects : Fin gatewayPortCount → σ × κ) : Nat × GatewayController σ κ device :=
  ((gatewayConfigurationValidate ports).1,
    { ports := fun i =>
        initPort i (ports i) ((gatewayConfigurationValidate ports).2 i) (bindings i) (objects i)
      schedulerSteps := 0
      nextPort := 0 })

/-- One pass of the loop of `gateway_controller_start`. -/
def startPort (now : CoreTick) : GatewayPortController σ κ device :=
  if p.lifecycle ≠ .disabled ∨ p.current.enabled = 0 then p
  else
    match portRuntimeStart p.runtime now gatewayStartTimeout with
    | (0, runtime) => { p with runtime := runtime, lifecycle := .starting }
    | (_, runtime) =>
        { p with
          runtime := runtime, lifecycle := .error, lastError := .backendStart
          startupFailures := increment p.startupFailures }

def gatewayControllerStart (now : CoreTick) : GatewayController σ κ device :=
  { c with ports := fun i => startPort (c.ports i) now }

/-! ## Step -/

/-- `port_runtime_request_stop`, and the life cycle of its two outcomes. -/
def stopOrElse (now : CoreTick)
    (refused : GatewayPortController σ κ device → GatewayPortController σ κ device) :
    GatewayPortController σ κ device :=
  match portRuntimeRequestStop p.runtime now gatewayStopTimeout with
  | (0, runtime) => { p with runtime := runtime, lifecycle := .stopping }
  | (_, runtime) => refused { p with runtime := runtime }

def startListenerOrFail (now : CoreTick) : GatewayPortController σ κ device :=
  if p.networkWait then { p with lifecycle := .networkWait }
  else
    match transportStart p with
    | (0, p) => { p with lifecycle := .ready, lastError := .none }
    | (_, p) =>
        stopOrElse
          { p with
            listenerFailures := increment p.listenerFailures, lastError := .listenerStart } now
          fun p => { p with lifecycle := .error }

/-- `p->current = p->known_good = p->staged; increment(&p->config_generation)`. -/
def adoptStaged : GatewayPortController σ κ device :=
  { p with
    current := p.staged, knownGood := p.staged
    configGeneration := increment p.configGeneration }

/-- The two assignments to `runtime.*.revision` after a listener was bound elsewhere. -/
def relabel : GatewayPortController σ κ device :=
  { p with
    runtime :=
      { p.runtime with
        currentConfig := { p.runtime.currentConfig with revision := p.staged.revision }
        knownGoodConfig := { p.runtime.knownGoodConfig with revision := p.staged.revision } } }

/-- `GATEWAY_PORT_RECONFIGURING` with `listener_rebind` set. -/
def stepRebind : GatewayPortController σ κ device :=
  if p.runtime.state = .ready then
    if p.networkWait then { p with listenerRebind := false, lifecycle := .networkWait }
    else
      match transportStartAt { p with listenerRebind := false } p.staged with
      | (0, p) => { relabel (adoptStaged p) with lifecycle := .ready, lastError := .none }
      | (_, p) =>
          match transportStart
              { p with
                listenerFailures := increment p.listenerFailures
                reconfigureFailures := increment p.reconfigureFailures
                lastError := .listenerStart } with
          | (0, p) => { p with lifecycle := .ready }
          | (_, p) =>
              { p with lifecycle := .error, rollbackFailures := increment p.rollbackFailures }
  else if p.runtime.state = .error ∨ p.runtime.state = .degraded then
    { p with
      listenerRebind := false, lifecycle := .error, lastError := .reconfigure
      reconfigureFailures := increment p.reconfigureFailures }
  else p

/-- The listener could not be started with the new settings: take the runtime back to
    the old ones. -/
def beginRollback (now : CoreTick) : GatewayPortController σ κ device :=
  match portRuntimeRequestReconfigure p.runtime (coreConfig p.knownGood) now
      gatewayReconfigureTimeout with
  | (0, runtime) => { p with runtime := runtime, lifecycle := .rollingBack }
  | (_, runtime) => { p with runtime := runtime, lifecycle := .error }

/-- `GATEWAY_PORT_RECONFIGURING` with `listener_rebind` clear. -/
def stepReconfigure (now : CoreTick) : GatewayPortController σ κ device :=
  if p.runtime.state = .ready then
    if p.runtime.currentConfig.revision ≠ p.staged.revision then
      startListenerOrFail
        { p with
          lastError := .reconfigure, reconfigureFailures := increment p.reconfigureFailures } now
    else if p.networkWait then
      { adoptStaged p with lifecycle := .networkWait, lastError := .none }
    else
      match transportStartAt p p.staged with
      | (0, p) => { adoptStaged p with lifecycle := .ready, lastError := .none }
      | (_, p) =>
          beginRollback
            { p with
              listenerFailures := increment p.listenerFailures, lastError := .listenerStart } now
  else if p.runtime.state = .error then
    { p with
      lifecycle := .error, lastError := .rollback
      rollbackFailures := increment p.rollbackFailures }
  else p

/-- `GATEWAY_PORT_ROLLING_BACK`. -/
def stepRollback : GatewayPortController σ κ device :=
  if p.runtime.state = .ready then
    if p.networkWait then
      { p with lifecycle := .networkWait, reconfigureFailures := increment p.reconfigureFailures }
    else
      match transportStart p with
      | (0, p) =>
          { p with lifecycle := .ready, reconfigureFailures := increment p.reconfigureFailures }
      | (_, p) => { p with lifecycle := .error, rollbackFailures := increment p.rollbackFailures }
  else if p.runtime.state = .error then
    { p with lifecycle := .error, rollbackFailures := increment p.rollbackFailures }
  else p

/-- `GATEWAY_PORT_STOPPING`. -/
def stepStop : GatewayPortController σ κ device :=
  if p.runtime.state = .disabled then
    if p.pendingDisable then
      { adoptStaged p with lifecycle := .disabled, pendingDisable := false }
    else
      { p with
        lifecycle := if p.lastError = .none then .disabled else .error, pendingDisable := false }
  else if p.runtime.state = .error then
    { p with lifecycle := .error, lastError := .stop, stopFailures := increment p.stopFailures }
  else p

/-- `step_port` once the listener and the runtime have been stepped. -/
def stepLifecycle (now : CoreTick) : GatewayPortController σ κ device :=
  match p.lifecycle with
  | .starting =>
      if p.runtime.state = .ready then startListenerOrFail p now
      else if p.runtime.state = .degraded ∨ p.runtime.state = .error then
        { p with
          lifecycle := .error, lastError := .backendStart
          startupFailures := increment p.startupFailures }
      else p
  | .ready =>
      if p.runtime.state = .degraded ∨ p.runtime.state = .error then
        { p with lifecycle := .degraded }
      else p
  | .reconfiguring => if p.listenerRebind then stepRebind p else stepReconfigure p now
  | .rollingBack => stepRollback p
  | .stopping => stepStop p
  | .disabled | .degraded | .error | .networkWait => p

/-- The first half of `step_port`: the listener runs, then the runtime. -/
def listenPort (now : CoreTick) : GatewayPortController σ κ device :=
  transportStep { p with schedulerSteps := increment p.schedulerSteps } now

def stepPort (now : CoreTick) : GatewayPortController σ κ device :=
  stepLifecycle
    { listenPort p now with runtime := portRuntimeStep (listenPort p now).runtime now } now

/-- The ports are stepped one after the other, each on its own objects, beginning at
    `next_port`. -/
def gatewayControllerStep (now : CoreTick) : GatewayController σ κ device :=
  { ports := (List.finRange gatewayPortCount).foldl
      (fun ports n =>
        Function.update ports (c.nextPort + n) (stepPort (ports (c.nextPort + n)) now)) c.ports
    schedulerSteps := increment c.schedulerSteps
    nextPort := c.nextPort + 1 }

/-- Updating the entries of a list of distinct indices one after the other. -/
theorem foldl_update_apply {α : Type} {n : Nat} (f : α → α) (indices : List (Fin n))
    (hnd : indices.Nodup) (g : Fin n → α) (i : Fin n) :
    indices.foldl (fun g j => Function.update g j (f (g j))) g i =
      if i ∈ indices then f (g i) else g i := by
  induction indices generalizing g with
  | nil => rfl
  | cons j indices ih =>
    obtain ⟨hj, hnd⟩ := List.nodup_cons.mp hnd
    rw [List.foldl_cons, ih hnd]
    by_cases hij : i = j
    · subst hij
      simp [hj]
    · simp [hij]

/-- A step of the controller steps every port once. -/
theorem ports_gatewayControllerStep (c : GatewayController σ κ device) (now : CoreTick)
    (i : Fin gatewayPortCount) :
    (gatewayControllerStep c now).ports i = stepPort (c.ports i) now := by
  have hfold := foldl_update_apply (fun p : GatewayPortController σ κ device => stepPort p now)
    ((List.finRange gatewayPortCount).map (c.nextPort + ·))
    ((List.nodup_finRange _).map (add_right_injective c.nextPort)) c.ports i
  rw [List.foldl_map] at hfold
  refine hfold.trans (if_pos ?_)
  exact List.mem_map.mpr ⟨i - c.nextPort, List.mem_finRange _, add_sub_cancel _ _⟩

/-! ## Reconfiguration, network wait, shutdown -/

/-- Replace one port. -/
def GatewayController.setPort (index : Fin gatewayPortCount) (p : GatewayPortController σ κ device) :
    GatewayController σ κ device :=
  { c with ports := Function.update c.ports index p }

def validateReplacement (index : Fin gatewayPortCount) (config : GatewayPortConfig) : Bool :=
  decide ((gatewayConfigurationValidate
    (Function.update (fun i => (c.ports i).current) index config)).2 index = .none)

/-- The settings agree in all a rebind of the listener does not touch. -/
def sameSerial (config current : GatewayPortConfig) : Bool :=
  decide ({ config with
    bindAddress := current.bindAddress
    bindTail := current.bindTail
    revision := current.revision
    bindPolicy := current.bindPolicy } = current)

/-- `transport_stop(p) != 0`: record the failure. -/
def stopFailed : GatewayPortController σ κ device :=
  { p with lastError := .stop, stopFailures := increment p.stopFailures }

/-- `gateway_controller_reconfigure` with `enabled` clear. -/
def reconfigureDisable (config : GatewayPortConfig) (now : CoreTick) :
    Int × GatewayPortController σ κ device :=
  if p.lifecycle = .disabled then
    (0, { p with current := config, configGeneration := increment p.configGeneration })
  else
    match transportStop p with
    | (0, p) =>
        match portRuntimeRequestStop p.runtime now gatewayStopTimeout with
        | (0, runtime) =>
            (0, { p with
                staged := config, pendingDisable := true, lastError := .none
                runtime := runtime, lifecycle := .stopping })
        | (_, runtime) =>
            (-1, { p with
                staged := config, pendingDisable := true, lastError := .none
                runtime := runtime })
    | (_, p) => (-1, stopFailed p)

/-- `gateway_controller_reconfigure` of a disabled port. -/
def reconfigureEnable (index : Fin gatewayPortCount) (config : GatewayPortConfig) (now : CoreTick) :
    Int × GatewayPortController σ κ device :=
  match portRuntimeStart
      (portRuntimeInit index (coreConfig config) p.binding.backendOps p.runtime.backendContext
        p.runtime.completionContext p.runtime.accepted)
      now gatewayStartTimeout with
  | (0, runtime) =>
      (0, { p with
          current := config, knownGood := config, runtime := runtime
          configGeneration := increment p.configGeneration, lifecycle := .starting })
  | (_, runtime) =>
      (-1, { p with
          current := config, knownGood := config, runtime := runtime
          configGeneration := increment p.configGeneration })

/-- `gateway_controller_reconfigure` when only the listener has to move. -/
def reconfigureRebind (config : GatewayPortConfig) (now : CoreTick) :
    Int × GatewayPortController σ κ device :=
  match transportStop p with
  | (0, p) =>
      match portRuntimeDetachListener p.runtime now with
      | (0, runtime) =>
          (0, { p with
              runtime := runtime, staged := config, listenerRebind := true
              lifecycle := .reconfiguring })
      | (_, runtime) => (-1, { p with runtime := runtime, lifecycle := .error })
  | (_, p) => (-1, stopFailed p)

/-- `gateway_controller_reconfigure` when the serial settings change. -/
def reconfigureSerial (config : GatewayPortConfig) (now : CoreTick) :
    Int × GatewayPortController σ κ device :=
  match transportStop p with
  | (0, p) =>
      match portRuntimeRequestReconfigure p.runtime (coreConfig config) now
          gatewayReconfigureTimeout with
      | (0, runtime) =>
          (0, { p with
              runtime := runtime, staged := config, lastError := .none
              lifecycle := .reconfiguring })
      | (_, runtime) =>
          (-1, (transportStart
            { p with runtime := runtime, staged := config, lastError := .none }).2)
  | (_, p) => (-1, stopFailed p)

def reconfigurePort (index : Fin gatewayPortCount) (config : GatewayPortConfig) (now : CoreTick) :
    Int × GatewayPortController σ κ device :=
  if p.lifecycle ≠ .ready ∧ p.lifecycle ≠ .disabled ∧ p.lifecycle ≠ .networkWait then (-1, p)
  else if config.enabled = 0 then reconfigureDisable p config now
  else if p.lifecycle = .disabled then reconfigureEnable p index config now
  else if sameSerial config p.current then reconfigureRebind p config now
  else reconfigureSerial p config now

/-- The states in which a port takes a request on. -/
theorem accepting_of_guard {l : GatewayPortLifecycle}
    (h : ¬ (l ≠ .ready ∧ l ≠ .disabled ∧ l ≠ .networkWait)) :
    l = .disabled ∨ l = .ready ∨ l = .networkWait := by
  by_contra hne
  simp only [not_or] at hne
  exact h ⟨hne.2.1, hne.1, hne.2.2⟩

def gatewayControllerReconfigure (index : Fin gatewayPortCount) (config : GatewayPortConfig) (now : CoreTick) :
    Int × GatewayController σ κ device :=
  if !validateReplacement c index config then (-1, c)
  else
    ((reconfigurePort (c.ports index) index config now).1,
      c.setPort index (reconfigurePort (c.ports index) index config now).2)

def networkWaitPort (wait : Bool) (now : CoreTick) : Int × GatewayPortController σ κ device :=
  if wait ∧ p.lifecycle = .ready then
    match transportStop { p with networkWait := wait } with
    | (0, p) =>
        match portRuntimeDetachListener p.runtime now with
        | (0, runtime) => (0, { p with runtime := runtime, lifecycle := .networkWait })
        | (_, runtime) => (-1, { p with runtime := runtime })
    | (_, p) => (-1, p)
  else (0, { p with networkWait := wait })

def gatewayControllerNetworkWait (index : Fin gatewayPortCount) (wait : Bool) (now : CoreTick) :
    Int × GatewayController σ κ device :=
  ((networkWaitPort (c.ports index) wait now).1,
    c.setPort index (networkWaitPort (c.ports index) wait now).2)

/-- The end of a pass of the loop of `gateway_controller_shutdown`. -/
def shutdownRuntime (now : CoreTick) : GatewayPortController σ κ device :=
  if p.runtime.state ≠ .disabled ∧ p.runtime.state ≠ .stopping then
    stopOrElse p now fun p => { p with lifecycle := .error, lastError := .stop }
  else p

def shutdownPort (now : CoreTick) : GatewayPortController σ κ device :=
  match transportStop p with
  | (0, p) => shutdownRuntime { p with lastError := .none } now
  | (_, p) => shutdownRuntime (stopFailed p) now

def gatewayControllerShutdown (now : CoreTick) : GatewayController σ κ device :=
  { c with ports := fun i => shutdownPort (c.ports i) now }

/-! ## Runs -/

/-- The calls of the controller's client. `init` is `gateway_controller_init` on the
    same bindings. -/
inductive ControllerOp where
  | init (ports : GatewayPorts)
  | start (now : CoreTick)
  | step (now : CoreTick)
  | reconfigure (index : Fin gatewayPortCount) (config : GatewayPortConfig) (now : CoreTick)
  | networkWait (index : Fin gatewayPortCount) (wait : Bool) (now : CoreTick)
  | shutdown (now : CoreTick)

def ControllerOp.exec : ControllerOp → GatewayController σ κ device
  | .init ports =>
      (gatewayControllerInit ports (fun i => (c.ports i).binding) fun i =>
        ((c.ports i).runtime.backendContext, (c.ports i).runtime.completionContext)).2
  | .start now => gatewayControllerStart c now
  | .step now => gatewayControllerStep c now
  | .reconfigure index config now => (gatewayControllerReconfigure c index config now).2
  | .networkWait index wait now => (gatewayControllerNetworkWait c index wait now).2
  | .shutdown now => gatewayControllerShutdown c now

def runController (ops : List ControllerOp) (c : GatewayController σ κ device) :
    GatewayController σ κ device :=
  ops.foldl ControllerOp.exec c

/-- Every step of the run meets a condition in the state it is taken in. -/
def RunAlong (meets : GatewayController σ κ device → ControllerOp → Prop) :
    List ControllerOp → GatewayController σ κ device → Prop
  | [], _ => True
  | op :: ops, c => meets c op ∧ RunAlong meets ops (op.exec c)

instance (meets : GatewayController σ κ device → ControllerOp → Prop)
    [∀ c op, Decidable (meets c op)] :
    (ops : List ControllerOp) → (c : GatewayController σ κ device) →
      Decidable (RunAlong meets ops c)
  | [], _ => inferInstanceAs (Decidable True)
  | op :: ops, c =>
      have := instDecidableRunAlong meets ops (op.exec c)
      inferInstanceAs (Decidable (meets c op ∧ RunAlong meets ops (op.exec c)))

/-- What every step that meets the condition keeps, a run along it keeps. -/
theorem RunAlong.invariant {meets : GatewayController σ κ device → ControllerOp → Prop}
    {inv : GatewayController σ κ device → Prop}
    (hstep : ∀ c op, inv c → meets c op → inv (op.exec c)) {ops : List ControllerOp}
    {c : GatewayController σ κ device} (hm : RunAlong meets ops c) (h : inv c) :
    inv (runController ops c) := by
  induction ops generalizing c with
  | nil => exact h
  | cons op ops ih => exact ih hm.2 (hstep c op h hm.1)

/-! ## What the listener may have changed -/

/-- The same port after a function of its listener has run. -/
inductive Listened (p : GatewayPortController σ κ device) :
    GatewayPortController σ κ device → Prop where
  | mk (runtime : PortRuntime σ κ) (owned : Bool) (calls : ListenerCalls device p.runtime runtime) :
      Listened p { p with runtime := runtime, listenerOwned := owned }

theorem listened_transportStartAt (p : GatewayPortController σ κ device)
    (config : GatewayPortConfig) : Listened p (transportStartAt p config).2 := by
  unfold transportStartAt
  split
  · exact .mk p.runtime p.listenerOwned .refl
  · rename_i start hstart
    obtain ⟨ops, _, hops⟩ := Option.bind_eq_some_iff.mp hstart
    have hcalls := ops.start_calls start hops config p.runtime
    split
    · rename_i runtime hresult
      rw [hresult] at hcalls
      exact .mk runtime true hcalls
    · rename_i runtime _ hresult
      rw [hresult] at hcalls
      exact .mk runtime p.listenerOwned hcalls

theorem listened_transportStop (p : GatewayPortController σ κ device) :
    Listened p (transportStop p).2 := by
  unfold transportStop
  split
  · split
    · exact .mk p.runtime false .refl
    · rename_i stop hstop
      obtain ⟨ops, _, hops⟩ := Option.bind_eq_some_iff.mp hstop
      have hcalls := ops.stop_calls stop hops p.runtime
      split
      · rename_i runtime hresult
        rw [hresult] at hcalls
        exact .mk runtime false hcalls
      · rename_i runtime _ hresult
        rw [hresult] at hcalls
        exact .mk runtime p.listenerOwned hcalls
  · exact .mk p.runtime false .refl

theorem listened_transportStep (p : GatewayPortController σ κ device) (now : CoreTick) :
    Listened p (transportStep p now) := by
  unfold transportStep
  split
  · split
    · exact .mk p.runtime p.listenerOwned .refl
    · rename_i step hstep
      obtain ⟨ops, _, hops⟩ := Option.bind_eq_some_iff.mp hstep
      exact .mk _ p.listenerOwned (ops.step_calls step hops now p.runtime)
  · exact .mk p.runtime p.listenerOwned .refl

end FourVrs.Gateway
