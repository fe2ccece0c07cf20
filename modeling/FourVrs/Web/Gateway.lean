import FourVrs.App.Time
import FourVrs.Web.Security

/-!
# The web service (`web/web_gateway.c`)

The gateway starts a web process, takes its connection and answers the requests that come
over it, one at a time. When another protocol is selected, the sessions end, the process is
stopped and one for the new protocol is started; what was selected before is asked for again
where that fails, unless the new process connects.

A step reads the world once (`WebWorld`); the calls of the credentials are those of
`Security.lean`. The texts of requests and responses, descriptors, and what is only shown (the
error, the code, the addresses of the pages) are left out; of a request it is read what it
asks for. `log` is not the source's: it keeps what has happened to the service, with the
times.
-/

set_option autoImplicit false

namespace FourVrs.Web

open FourVrs.Core Config App Lib

inductive WebEvent where
  /-- A step observes that another protocol is selected, and whether a web process is connected. -/
  | changed (before : Nat) (connected : Bool)
  /-- A configuration is asked for to undo a switch; with the selected one. -/
  | restore (selected config : GatewayPersistentConfig) (accepted : Bool)
  /-- A web process is found to have exited: the protocol it was launched for, and the selected one. -/
  | exited (launched selected : Nat)
  /-- There is no trusted clock to launch one. -/
  | denied
  | connected (launched selected : Nat)
  /-- A web request asks for a configuration. -/
  | asked (config : GatewayPersistentConfig) (selected : Nat)
  | session (token : Text)
  /-- A request shows this session and is let through. -/
  | authorized (token : Text)
  deriving DecidableEq

structure WebGateway where
  initialized : Bool := false
  security : WebSecurity := {}
  protocolSeen : Nat := 0
  launchProtocol : Nat := 0
  switchFrom : Nat := 0
  switchPending : Bool := false
  switchFailed : Bool := false
  switchAt : CoreTick := 0
  /-- There is a web process. -/
  pid : Bool := false
  peer : Bool := false
  listener : Bool := false
  stopping : Bool := false
  authPending : Bool := false
  rngPid : Bool := false
  rngStopping : Bool := false
  rngAttaching : Bool := false
  rngFault : Bool := false
  rngEpochSet : Bool := false
  rngRetry : CoreTick := 0
  autoCodeIssued : Bool := false
  failures : Nat := 0
  retryAt : CoreTick := 0
  startedAt : CoreTick := 0
  lastLaunchAt : CoreTick := 0
  peerAt : CoreTick := 0
  recoveryAt : CoreTick := 0
  recoveryRateAt : CoreTick := 0
  addresses : List Text := []
  /-- A response waits to be sent. -/
  outgoing : Bool := false
  /-- A request has come in part. -/
  incoming : Bool := false
  /-- `web.state` and `web.recovery_prompt` of the application. -/
  webState : Nat := 0
  recoveryPrompt : Bool := false
  log : List (Nat × WebEvent) := []
  deriving Inhabited

/-- What a request that shows a session asks for. -/
inductive WebOp where
  | read | logout
  /-- What changes no configuration. -/
  | control
  | password (current password again : Text)
  | port (id : Fin gatewayPortCount) (port : GatewayPortConfig)
  /-- `enabled`, `interface` and `protocol`, where they are well formed. -/
  | web (fields : Option (Nat × Nat × Option Nat))
  | backlight (on : Nat)
  | ntp (enabled interval : Nat) (server : CString)

inductive WebRequest where
  /-- Ill formed, or one that needs no session. -/
  | plain
  | recover
  | begin (enroll : Bool) (code password : Text)
  /-- `stale`: of a revision that is not the present one. -/
  | shown (token csrf : Text) (stale : Bool) (op : WebOp)

inductive WebSent where
  | all | some | again | failed
  deriving DecidableEq

inductive WebReceived where
  | closed | again | failed
  | fragment | bad
  | request (request : WebRequest)

/-- What a step reads. -/
structure WebWorld where
  at' : Nat
  selected : GatewayPersistentConfig
  stopRequested : Bool
  /-- The state of the process. -/
  running : Bool
  /-- A configuration with the web enabled is being promoted. -/
  promotesWeb : Bool
  trust : GatewayTimeTrust
  recoveryAvailable : Bool
  /-- The request for the protocol before the switch returns 0. -/
  restoreAccepted : Bool
  /-- The path of the record, where `web_gateway_init` comes to it. -/
  prepared : Option Text
  rngExit : Option WorkerEnd
  rngLaunched : Bool
  rngStepFailed : Bool
  rngReady : Bool
  /-- At the second look. -/
  rngStillReady : Bool
  epochDrawn : Bool
  /-- The first `waitpid` of the step, for a process that is being stopped, finds it gone. -/
  stoppedGone : Bool
  /-- What the second one finds. -/
  exit : Option WorkerEnd
  networkError : Nat
  addresses : List Text
  ipcOpened : Bool
  channelOpened : Bool
  rngAttached : Bool
  forked : Bool
  /-- Who connects: the web process, if there is one, or somebody else. -/
  connecting : Option Bool
  sent : WebSent
  received : WebReceived

variable (world : WebWorld) (w : WebGateway)

def WebWorld.now : CoreTick := tick world.at'

def WebWorld.enabled : Bool :=
  decide (world.selected.settings.webEnabled ≠ 0) && !world.stopRequested

def WebGateway.note (event : WebEvent) : WebGateway :=
  { w with log := w.log ++ [(world.at', event)] }

/-! ## `stop_service` -/

def closePeer : SecurityProg WebGateway :=
  let closed := { w with peer := false, incoming := false, outgoing := false }
  if w.authPending then do
    let security ← webSecurityCancelPending w.security
    pure { closed with security, authPending := false }
  else pure closed

def stopService : SecurityProg WebGateway := do
  let w ← closePeer
    (if w.pid ∧ !w.stopping then { w with stopping := true, startedAt := world.now } else w)
  pure { w with listener := false }

def rngStop : SecurityProg WebGateway := do
  let security ← webSecurityCancel w.security
  pure
    { w with
      security, rngStopping := w.rngStopping || w.rngPid, rngAttaching := false, rngEpochSet := false }

/-! ## The switch -/

/-- The first step that observes a switch ends the sessions. -/
def observeSwitch : SecurityProg WebGateway :=
  let selected := world.selected.settings.webProtocol
  if w.initialized ∧ w.protocolSeen ≠ selected then do
    let security ← webSecurityCancel w.security
    let connected := w.peer && !w.stopping
    let begun :=
      if !w.switchPending ∧ connected then
        { w with switchPending := true, switchFrom := w.protocolSeen, switchAt := world.now }
      else w
    pure
      ({ begun with protocolSeen := selected, security, authPending := false }.note world
        (.changed w.protocolSeen connected))
  else pure w

/-- The selected configuration, but for the protocol. -/
def restored (selected : GatewayPersistentConfig) (protocol : Nat) : GatewayPersistentConfig :=
  { selected with schemaVersion := 3, settings := { selected.settings with webProtocol := protocol } }

def undoSwitch : WebGateway :=
  if w.switchPending ∧ (w.switchFailed ∨ 65000 ≤ coreElapsed w.switchAt world.now) then
    let asked :=
      w.note world (.restore world.selected (restored world.selected w.switchFrom) world.restoreAccepted)
    if world.restoreAccepted then { asked with switchPending := false, switchFailed := false, retryAt := 0 }
    else asked
  else w

/-- A process for another protocol is stopped, once its response is sent. -/
def stopMismatched : SecurityProg WebGateway :=
  if w.pid ∧ !w.stopping ∧ w.launchProtocol ≠ w.protocolSeen ∧ !w.outgoing then do
    let w ← stopService world w
    pure { w with retryAt := world.now }
  else pure w

/-! ## `web_gateway_init` -/

/-- What was there is gone, but for what the application has. -/
def webGatewayInit : SecurityProg (Bool × WebGateway) :=
  let fresh : WebGateway :=
    { protocolSeen := world.selected.settings.webProtocol
      webState := w.webState, recoveryPrompt := w.recoveryPrompt, log := w.log }
  match world.prepared with
  | none => pure (false, fresh)
  | some path => do
      let (_, security) ← webSecurityInit path
      pure (true, { fresh with security, initialized := true })

def retryInit : SecurityProg WebGateway :=
  if w.retryAt = 0 ∨ due world.now w.retryAt then do
    let (done, w) ← webGatewayInit world w
    pure (if done then w else { w with retryAt := world.now + 60000, webState := 3 })
  else pure { w with webState := 3 }

/-- `web_gateway_local`. -/
def webGatewayLocal (action : Nat) (w : WebGateway) : SecurityProg WebGateway := do
  let (done, w) ← if w.initialized then pure (true, w) else webGatewayInit world w
  if done then do
    let (_, security) ← webSecurityLocal w.security action world.now
    pure { w with security, recoveryPrompt := false }
  else pure w

/-! ## The random numbers -/

def rngReap : SecurityProg WebGateway :=
  if w.rngPid then
    match world.rngExit with
    | none => pure w
    | some how => do
        let w ← rngStop { w with rngPid := false }
        let w ← stopService world w
        pure
          { w with
            rngRetry := world.now + 60000, rngStopping := false
            rngFault := w.rngFault || !(w.rngStopping && decide (how = .exited 0)) }
  else pure w

def rngLaunch : WebGateway :=
  if !w.rngFault ∧ !w.rngPid ∧ world.enabled ∧ (w.rngRetry = 0 ∨ due world.now w.rngRetry) then
    if world.rngLaunched then { w with rngPid := true } else { w with rngRetry := world.now + 60000 }
  else w

def rngCheck : SecurityProg WebGateway :=
  if !w.rngFault ∧ w.rngPid ∧ !w.rngStopping ∧ world.rngStepFailed then do
    let w ← rngStop w
    stopService world { w with rngStopping := false, rngFault := true }
  else pure w

/-! ## The web process -/

/-- A process that was stopped is gone. -/
def reapStopped : WebGateway :=
  if w.stopping ∧ w.pid ∧ world.stoppedGone then { w with pid := false, stopping := false } else w

/-- When a process that has exited is followed by another. -/
def retryAfterExit (how : WorkerEnd) : WebGateway :=
  if w.stopping then
    { w with stopping := false, retryAt := if due w.retryAt world.now then w.retryAt else world.now }
  else if how = .exited 28 then
    { w with
      retryAt := if coreElapsed w.startedAt world.now < 60000 then w.startedAt + 60000 else world.now }
  else
    let failures := if w.failures < 6 then w.failures + 1 else w.failures
    { w with failures, retryAt := world.now + 1000#32 <<< failures }

def reapExited : SecurityProg WebGateway :=
  if w.pid then
    match world.exit with
    | none => pure w
    | some how => do
        let w ← closePeer { w with pid := false }
        let w :=
          { w with switchFailed := w.switchFailed || w.switchPending, webState := 3 }.note world
            (.exited w.launchProtocol w.protocolSeen)
        pure (retryAfterExit world w how)
  else pure w

def followAddresses : SecurityProg WebGateway :=
  if (w.pid ∨ w.listener) ∧ world.addresses ≠ w.addresses then do
    let w ← stopService world w
    pure { w with failures := 0, retryAt := world.now + 2000 }
  else pure w

/-- HTTPS needs a clock that can be trusted. -/
def clockMissing : Bool :=
  decide (w.protocolSeen ≠ 0) &&
    !decide (world.trust = .synced ∨ world.trust = .manual ∨ world.trust = .holdover)

/-- The channel to the random numbers is attached, and the process is started by the next step. -/
def attachRng : SecurityProg WebGateway :=
  if !world.channelOpened then pure w
  else if !world.rngAttached then rngStop w
  else pure { w with rngAttaching := true }

/-- The process is launched, if it can be forked. -/
def forkService : Bool × WebGateway :=
  let launched :=
    { w with
      rngAttaching := false, addresses := world.addresses, launchProtocol := w.protocolSeen
      lastLaunchAt := world.now }
  if world.forked then (true, { launched with pid := true, webState := 1, startedAt := world.now })
  else (false, { launched with retryAt := world.now + 60000, webState := 3 })

/-- `false` where the step ends. -/
def launchService : SecurityProg (Bool × WebGateway) :=
  if !w.pid ∧ (w.retryAt = 0 ∨ due world.now w.retryAt) then
    if w.lastLaunchAt ≠ 0 ∧ coreElapsed w.lastLaunchAt world.now < 10000 then pure (false, w)
    else if clockMissing world w then
      pure (false,
        ({ w with webState := 3, switchFailed := w.switchFailed || w.switchPending }.note world .denied))
    else if !w.listener ∧ !world.ipcOpened then
      pure (false, { w with webState := 3, retryAt := world.now + 60000 })
    else
      let w := { w with listener := true }
      if !w.rngAttaching then do
        let w ← attachRng world w
        pure (false, w)
      else pure (forkService world w)
  else pure (true, w)

def confirmSwitch : WebGateway :=
  if w.launchProtocol = w.protocolSeen then { w with switchPending := false, switchFailed := false } else w

/-- The process that was launched connects: a switch is confirmed. -/
def takePeer : SecurityProg WebGateway :=
  let taken := confirmSwitch
    ({ w with peer := true, peerAt := world.now, webState := 2 }.note world
      (.connected w.launchProtocol w.protocolSeen))
  if !w.autoCodeIssued ∧ !w.security.administrator ∧ !w.security.saveFailed then
    webGatewayLocal world 1 { taken with autoCodeIssued := true }
  else pure taken

def acceptPeer : SecurityProg WebGateway :=
  if w.listener ∧ world.connecting = some true ∧ !w.peer ∧ w.pid then takePeer world w else pure w

/-- One that does not connect within a minute is stopped. -/
def stopSilent : SecurityProg WebGateway :=
  if w.pid ∧ w.webState = 1 ∧ 60000 < coreElapsed w.startedAt world.now then stopService world w else pure w

/-! ## `web_gateway_request` -/

/-- The configuration a request asks for. -/
def webCandidate (c : GatewayPersistentConfig) : WebOp → Option GatewayPersistentConfig
  | .port id port => some { c with ports := fun i => if i = id then port else c.ports i }
  | .web (some (enabled, interface, protocol)) =>
      some
        { c with
          schemaVersion := 3
          settings :=
            { c.settings with
              webEnabled := enabled, webInterface := interface
              webProtocol := protocol.getD c.settings.webProtocol } }
  | .backlight on => some { c with settings := { c.settings with backlightOn := on } }
  | .ntp enabled interval server =>
      some
        { c with
          settings := { c.settings with ntpEnabled := enabled, ntpIntervalHours := interval, ntpServer := server } }
  | _ => none

/-- Until a switch is confirmed, the settings of the web are not changed. -/
def WebOp.locked : WebOp → Bool
  | .web _ => w.switchPending
  | _ => false

/-- A status other than 0 is answered. -/
def answered : WebGateway := { w with outgoing := true }

/-- The worker has the password to check, or the request is refused. -/
def authBegun (r : Nat) (security : WebSecurity) : WebGateway :=
  if r = 0 then { w with security, authPending := true } else answered { w with security }

def askConfiguration (op : WebOp) : WebGateway :=
  if op.locked w then w
  else
    match webCandidate world.selected op with
    | none => w
    | some config => w.note world (.asked config world.selected.settings.webProtocol)

/-- An operation of a session, with a revision that is the present one. -/
def webOperation : WebOp → SecurityProg WebGateway
  | .password current password again => do
      let (r, security) ← webSecurityChange w.security current password again world.now
      pure (authBegun w r security)
  | op => pure (answered (askConfiguration world w op))

/-- What asks for nothing that a revision could be about. -/
def WebOp.unversioned : WebOp → Bool
  | .read | .logout | .control => true
  | _ => false

def WebOp.writes : WebOp → Bool
  | .read => false
  | _ => true

def requestRecovery : WebGateway :=
  if w.recoveryPrompt ∨ w.security.code ≠ [] then w
  else if !w.security.administrator ∨ w.security.saveFailed ∨ !world.recoveryAvailable ∨ w.security.worker then w
  else if w.recoveryRateAt ≠ 0 ∧ coreElapsed w.recoveryRateAt world.now < 60000 then w
  else { w with recoveryRateAt := world.now, recoveryAt := world.now, recoveryPrompt := true }

def webGatewayRequest : WebRequest → SecurityProg WebGateway
  | .plain => pure (answered w)
  | .recover => pure (answered (requestRecovery world w))
  | .begin enroll code password => do
      let (r, security) ← webSecurityBegin w.security enroll code password world.now
      pure (authBegun w r security)
  | .shown token csrf stale op => do
      let (shown, security) ← webSecurityAuthorized w.security token csrf op.writes world.now
      let w := { w with security }
      if !shown then pure (answered w)
      else
        let w := w.note world (.authorized token)
        match op with
        | .logout => pure (answered { w with security := clearSession w.security })
        | op => if stale && !op.unversioned then pure (answered w) else webOperation world w op

/-! ## The exchange -/

def sendReply : SecurityProg WebGateway :=
  match world.sent with
  | .failed => closePeer w
  | .all => pure { w with outgoing := false, incoming := false }
  | .some | .again => if 60000 < coreElapsed w.peerAt world.now then closePeer w else pure w

def receiveRequest : SecurityProg WebGateway :=
  let begun := if w.incoming then w else { w with peerAt := world.now }
  match world.received with
  | .closed | .failed => closePeer w
  | .again => if w.incoming ∧ 3000 < coreElapsed w.peerAt world.now then closePeer w else pure w
  | .fragment => pure { begun with incoming := true }
  | .bad => closePeer begun
  | .request request => do
      let w ← webGatewayRequest world begun request
      pure { w with incoming := false }

def noteSession (r : Nat) (w : WebGateway) : WebGateway :=
  if r = 200 then w.note world (.session w.security.token) else w

/-- The worker has checked the password. -/
def finishAuth : SecurityProg WebGateway := do
  let (r, security) ← webSecurityPoll w.security world.now
  let w := noteSession world r { w with security }
  if r = 0 then pure w else sendReply world (answered { w with authPending := false })

def exchange : SecurityProg WebGateway :=
  if !w.peer then pure w
  else if w.authPending then finishAuth world w
  else if w.outgoing then sendReply world w
  else receiveRequest world w

/-! ## `web_gateway_step` -/

def disableService : SecurityProg WebGateway := do
  let w ← rngStop w
  if !world.stopRequested ∧ world.promotesWeb then pure { w with webState := 1 }
  else do
    let w ← stopService world { w with recoveryPrompt := false }
    pure { w with webState := if w.pid then 1 else 0, failures := 0 }

def launchAndServe : SecurityProg WebGateway := do
  let w ← followAddresses world w
  let (goesOn, w) ← launchService world w
  if goesOn then do
    let w ← acceptPeer world w
    let w ← stopSilent world w
    exchange world w
  else pure w

def showServing : WebGateway := if w.peer ∧ !w.stopping then { w with webState := 2 } else w

def stopOffline : SecurityProg WebGateway :=
  if w.pid ∨ w.peer then stopService world w else pure w

def serveStep : SecurityProg WebGateway :=
  if !w.rngEpochSet ∧ !world.epochDrawn then pure w
  else do
    let security ← webSecurityTick w.security world.now
    let w ← reapExited world
      { w with
        rngEpochSet := true, security
        recoveryPrompt := w.recoveryPrompt && decide (coreElapsed w.recoveryAt world.now < 60000) }
    if !world.rngStillReady ∨ !world.running then pure w
    else if world.networkError ≠ 0 then do
      let w ← stopOffline world w
      pure { w with webState := 3 }
    else launchAndServe world w

def serviceStep : SecurityProg WebGateway := do
  let w ← stopMismatched world w
  if !w.initialized then retryInit world w
  else do
    let w ← rngReap world w
    let w ← rngCheck world (rngLaunch world w)
    let w := reapStopped world w
    if !world.enabled then disableService world w
    else if !world.rngReady then pure { w with webState := 3 }
    else serveStep world (showServing w)

def webGatewayStep : SecurityProg WebGateway := do
  let w ← observeSwitch world w
  serviceStep world (undoSwitch world w)

end FourVrs.Web
