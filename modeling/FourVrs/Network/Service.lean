import FourVrs.Lib.Lawful
import FourVrs.Network.Owner

/-!
# The owner process and its guardian (`network/gateway_network_service.c`)

The owner runs in a process of its own and answers clients; its guardian forks it, forks
the jobs that write the network for it, and reaps them. They talk over one pair of
sockets: the owner sends heartbeats, applies and cancels, the guardian sends results.
Each is a loop, and a turn of a loop is a program. A failing clock ends a process, as
anything else may at any call: that is in the system of both, not here.
-/

set_option autoImplicit false

namespace FourVrs.Network

open FourVrs.Core Config Lib

/-- A loop goes on with another turn, or its process exits. -/
inductive LoopTurn (α : Type) where
  | again (a : α)
  | exit (status : Nat)

/-! ## The owner process -/

/-- What a client has sent. A lost client and one that sends no command end alike. -/
inductive ClientEvent where
  | quiet | lost
  | command (code : Char) (request : BitVec 32)

/-- What a new peer has sent. -/
inductive PeerEvent where
  | none | query | refused
  | begin (request : BitVec 32)

/-- What the owner process calls; `owner` are the calls of the owner it runs. -/
inductive ServiceCall where
  | owner (call : OwnerCall)
  | stopping
  | wall
  | clock (wall : CoreTick)
  | heartbeat
  | foreignClient
  | profile (candidate : Bool)
  | listener
  | wait
  | client
  | accept

/-- Calls that may fail return whether they did not. -/
abbrev ServiceCall.Result : ServiceCall → Type
  | .owner call => call.Result
  | .stopping | .heartbeat | .foreignClient | .listener | .wait => Bool
  | .wall | .clock _ => CoreTick
  | .profile _ => Option NetworkPolicy
  | .client => ClientEvent
  | .accept => PeerEvent

abbrev ServiceProg (α : Type) : Type := Prog ServiceCall ServiceCall.Result α

def serviceCall (call : ServiceCall) : ServiceProg call.Result := .lift call

def ownerProg {α : Type} (p : OwnerProg α) : ServiceProg α := p.embed .owner

/-- What `run_owner` keeps between turns, but for the status it sends. -/
structure OwnerProcess where
  owner : NetworkOwner
  client : Bool := false
  request : BitVec 32 := 0
  requestError : Nat := 0
  heartbeat : CoreTick
  ownershipAt : CoreTick := 0

/-- A profile becomes the policy, the candidate or the one to boot with. -/
def adoptProfile (o : NetworkOwner) (candidate : Bool) (now : CoreTick) : ServiceProg (Bool × NetworkOwner) := do
  match ← serviceCall (.profile candidate) with
  | none => pure (false, o)
  | some p =>
      let (r, o) ← ownerProg (ownerPolicy o p now)
      pure (decide (r = 0), o)

/-- The client is closed, and the policy is the one to boot with. -/
def dropClient (s : OwnerProcess) (now : CoreTick) : ServiceProg (LoopTurn OwnerProcess) := do
  match ← adoptProfile s.owner false now with
  | (true, o) => pure (.again { s with owner := o, client := false })
  | (false, _) => pure (.exit 6)

def serveClient (s : OwnerProcess) (now : CoreTick) : ServiceProg (LoopTurn OwnerProcess) := do
  if !s.client then pure (.again s)
  else
    match ← serviceCall .client with
    | .quiet => pure (.again s)
    | .lost => dropClient s now
    | .command code request =>
        let s := { s with request := request }
        if code = 'A' ∨ code = 'R' ∨ code = 'K' then
          let (adopted, o) ← adoptProfile s.owner (decide (code = 'A')) now
          pure (.again { s with owner := o, requestError := if adopted then 0 else 10 })
        else if code ≠ 'B' then dropClient s now
        else pure (.again s)

def acceptPeer (s : OwnerProcess) : ServiceProg OwnerProcess := do
  match ← serviceCall .accept with
  | .begin request => pure (if s.client then s else { s with client := true, request := request })
  | .none | .query | .refused => pure s

/-- The interfaces are given up when another program configures them. -/
def checkOwnership (clientOps : Bool) (s : OwnerProcess) (wall : CoreTick) : ServiceProg OwnerProcess := do
  if !clientOps && due wall s.ownershipAt then
    let s := { s with ownershipAt := wall + 1000 }
    if ← serviceCall .foreignClient then
      let o ← ownerProg (ownerStop s.owner)
      pure { s with owner := { o with error := 11 } }
    else pure s
  else pure s

/-- The owner's step and its peers. -/
def runOwnerStep (docs : OwnerDocuments) (s : OwnerProcess) (now : CoreTick) :
    ServiceProg (LoopTurn OwnerProcess) := do
  let o ← ownerProg (ownerStep docs s.owner now)
  if ← serviceCall .wait then
    match ← serveClient { s with owner := o } now with
    | .exit status => pure (.exit status)
    | .again s =>
        let s ← acceptPeer s
        pure (.again s)
  else pure (.exit 5)

/-- A turn of the loop of `run_owner`. -/
def ownerTurn (docs : OwnerDocuments) (clientOps : Bool) (s : OwnerProcess) :
    ServiceProg (LoopTurn OwnerProcess) := do
  let wall ← serviceCall .wall
  let now ← serviceCall (.clock wall)
  if ← serviceCall .stopping then pure (.exit 0)
  else if due wall s.heartbeat then
    if ← serviceCall .heartbeat then
      let s ← checkOwnership clientOps { s with heartbeat := wall + 250 } wall
      runOwnerStep docs s now
    else pure (.exit 4)
  else
    let s ← checkOwnership clientOps s wall
    runOwnerStep docs s now

/-- `run_owner` before its loop. -/
def startProcess (seed : BitVec 32) (bootstrap : Bool) : ServiceProg (LoopTurn OwnerProcess) := do
  let listen (o : NetworkOwner) : ServiceProg (LoopTurn OwnerProcess) := do
    if ← serviceCall .listener then
      let wall ← serviceCall .wall
      pure (.again { owner := o, heartbeat := wall })
    else pure (.exit 3)
  if bootstrap then
    let wall ← serviceCall .wall
    let now ← serviceCall (.clock wall)
    match ← adoptProfile (ownerInit seed) false now with
    | (true, o) => listen o
    | (false, _) => pure (.exit 2)
  else listen (ownerInit seed)

/-! ## The guardian -/

/-- What a job is forked to write. -/
inductive Writer where
  | apply (target : NetworkObservation) (resolver : CText)
  | recoverConfirmed

inductive ExitStatus where
  | exited (code : Nat)
  | signalled
  deriving DecidableEq

/-- Every kill is `SIGKILL`; this is what the guardian sends it for. -/
inductive KillReason where
  | owner | ownerStopped | cancel | deadline

/-- What the owner asks for. -/
inductive Order where
  | heartbeat | cancel
  | apply (target : NetworkObservation) (resolver : CText)

structure PollEvents where
  failed : Bool
  hangup : Bool
  readable : Bool

inductive GuardianCall where
  | now
  | stopping
  | openPair
  | forkOwner (bootstrap : Bool)
  | poll
  | receive
  | forkWriter (writer : Writer)
  | kill (child : Nat) (reason : KillReason)
  | wait (child : Nat)
  | answer (result : Int)
  | close

/-- A fork returns the child, if there is one, and a wait the status of one that has ended. -/
abbrev GuardianCall.Result : GuardianCall → Type
  | .now => CoreTick
  | .stopping | .openPair | .answer _ => Bool
  | .forkOwner _ | .forkWriter _ => Option Nat
  | .poll => PollEvents
  | .receive => Option Order
  | .wait _ => Option ExitStatus
  | .kill _ _ | .close => Unit

abbrev GuardianProg (α : Type) : Type := Prog GuardianCall GuardianCall.Result α

def guardianCall (call : GuardianCall) : GuardianProg call.Result := .lift call

/-- What the guardian keeps: the children it has not reaped, and how far it is. -/
structure Guardian where
  fd : Bool := false
  stopped : Bool := false
  recovering : Bool := false
  stopping : Bool := false
  bootstrap : Bool := false
  owner : Option Nat := none
  job : Option Nat := none
  heartbeat : CoreTick := 0
  deadline : CoreTick := 0

variable (g : Guardian)

/-- No child is left, and no recovery to wait for. -/
def Guardian.alone : Bool := g.owner.isNone && g.job.isNone && !g.recovering

/-- `stopping`, which a signal may set between any two turns and calls. -/
def readStopping : GuardianProg Guardian := do
  let signalled ← guardianCall .stopping
  pure { g with stopping := g.stopping || signalled }

def startOwner (now : CoreTick) : GuardianProg (LoopTurn Guardian) := do
  if g.alone then
    let g ← readStopping g
    if g.stopping then pure (.again g)
    else if ← guardianCall .openPair then
      match ← guardianCall (.forkOwner g.bootstrap) with
      | none => pure (.exit 13)
      | some child => pure (.again { g with owner := some child, fd := true, heartbeat := now })
    else pure (.exit 12)
  else pure (.again g)

/-- A stopped owner's channel is not polled. -/
def pollOwner : GuardianProg (Guardian × PollEvents) := do
  let events ← guardianCall .poll
  let watched := g.fd && !g.stopped
  pure ({ g with stopping := g.stopping || events.failed },
    { events with hangup := watched && events.hangup, readable := watched && events.readable })

def killJob (reason : KillReason) : GuardianProg Unit :=
  match g.job with
  | none => pure ()
  | some child => guardianCall (.kill child reason)

/-- An owner that is to stop, is gone, or has sent no heartbeat for two seconds. -/
def stopOwner (now : CoreTick) (hangup : Bool) : GuardianProg Guardian := do
  match g.owner with
  | none => pure g
  | some child =>
      if g.stopped then pure g
      else
        let g ← readStopping g
        if g.stopping || hangup || decide (2000 ≤ (now - g.heartbeat).toInt) then
          guardianCall (.kill child .owner)
          killJob g .ownerStopped
          pure { g with stopped := true }
        else pure g

/-- One message of the owner. -/
def takeOrder (now : CoreTick) (readable : Bool) : GuardianProg (LoopTurn Guardian) := do
  if g.fd && readable && !g.stopped then
    match ← guardianCall .receive with
    | none => pure (.again g)
    | some .heartbeat => pure (.again { g with heartbeat := now })
    | some .cancel => do
        killJob g .cancel
        pure (.again g)
    | some (.apply target resolver) =>
        if g.job.isSome then pure (.again g)
        else
          match ← guardianCall (.forkWriter (.apply target resolver)) with
          | none => pure (.exit 16)
          | some child => pure (.again { g with job := some child, deadline := now + 1000 })
  else pure (.again g)

/-- What the owner is told of its job. -/
def jobResult (status : ExitStatus) : Int := if status = .exited 0 then 1 else -1

/-- The job has been reaped. -/
def jobEnded (status : ExitStatus) : GuardianProg (LoopTurn Guardian) := do
  let g := { g with job := none }
  if g.recovering then
    if status = .exited 0 then pure (.again { g with recovering := false, bootstrap := true })
    else pure (.exit 18)
  else if g.fd && !g.stopped then
    let sent ← guardianCall (.answer (jobResult status))
    pure (.again (if sent then g else { g with stopped := true }))
  else pure (.again g)

def watchChild (now : CoreTick) : GuardianProg (LoopTurn Guardian) := do
  match g.job with
  | none => pure (.again g)
  | some child =>
      if due now g.deadline then guardianCall (.kill child .deadline)
      match ← guardianCall (.wait child) with
      | none => pure (.again g)
      | some status => jobEnded g status

def killStopped : GuardianProg Unit :=
  match g.owner with
  | none => pure ()
  | some child =>
      if g.stopped then do
        guardianCall (.kill child .owner)
        killJob g .ownerStopped
      else pure ()

def reapOwner : GuardianProg Guardian := do
  match g.owner with
  | none => pure g
  | some child =>
      match ← guardianCall (.wait child) with
      | none => pure g
      | some _ => do
          if g.fd then guardianCall .close
          let g := { g with owner := none, stopped := true, fd := false }
          killJob g .ownerStopped
          pure g

/-- The interfaces are put back when all that could write them is gone. -/
def startRecovery (now : CoreTick) : GuardianProg (LoopTurn Guardian) := do
  if g.stopped && g.alone then
    match ← guardianCall (.forkWriter .recoverConfirmed) with
    | none => pure (.exit 19)
    | some child =>
        pure (.again { g with job := some child, recovering := true, stopped := false,
                              deadline := now + 30000 })
  else pure (.again g)

def finishTurn : GuardianProg (LoopTurn Guardian) := do
  let g ← readStopping g
  pure (if g.stopping && g.alone then .exit 0 else .again g)

/-- What follows if the turn has not ended here. -/
def LoopTurn.andThen {Call : Type} {Res : Call → Type} {α : Type} (first : Prog Call Res (LoopTurn α))
    (next : α → Prog Call Res (LoopTurn α)) : Prog Call Res (LoopTurn α) := do
  match ← first with
  | .exit status => pure (.exit status)
  | .again a => next a

/-- The end of a turn of `guardian`, the channel read. -/
def watchChildren (now : CoreTick) : GuardianProg (LoopTurn Guardian) :=
  LoopTurn.andThen (watchChild g now) fun g => do
    killStopped g
    let g ← reapOwner g
    LoopTurn.andThen (startRecovery g now) finishTurn

/-- A turn of the loop of `guardian`. -/
def guardianTurn : GuardianProg (LoopTurn Guardian) := do
  let now ← guardianCall .now
  LoopTurn.andThen (startOwner g now) fun g => do
    let (g, events) ← pollOwner g
    let g ← stopOwner g now events.hangup
    LoopTurn.andThen (takeOrder g now events.readable) fun g => watchChildren g now

end FourVrs.Network
