import FourVrs.Lib.History
import FourVrs.Web.Gateway

/-!
# A switch of the protocol

A switch that a step observes while a web process is connected is settled by a process for the
protocol then selected, when it connects, or by the configuration that undoes it, when it is
accepted. `SwitchConfirmed` says over the log of a run what may happen until then.

A step that finds a process gone takes the switch for failed. With its second look
(`reapExited`) it may find there the process from before the switch: it may have crashed while
its last response was sent. `Attributed` leaves these steps out.
-/

set_option autoImplicit false

namespace FourVrs.Web

open FourVrs.Core Config App Lib

abbrev WebLog : Type := List (Nat × WebEvent)

def WebEvent.Changes (event : WebEvent) : Prop := ∃ before connected, event = .changed before connected

/-- A connected process sees a switch. -/
def WebEvent.Begins (event : WebEvent) : Prop := ∃ before, event = .changed before true

/-- A process for the selected protocol connects, or the switch is undone. -/
def WebEvent.Settles : WebEvent → Prop
  | .connected launched selected => launched = selected
  | .restore _ _ accepted => accepted = true
  | _ => False

/-- A process for the selected protocol exits, or cannot be launched. -/
def WebEvent.Fails : WebEvent → Prop
  | .exited launched selected => launched = selected
  | .denied => True
  | _ => False

/-- No switch is left to settle. -/
def Settled (log : WebLog) : Prop := ¬ Since (fun e => e.2.Begins) (fun e => e.2.Settles) log

/-- A switch from `before`, observed at `since` when none was left to settle; `later` settles nothing. -/
def Pending (log : WebLog) (since before : Nat) (later : WebLog) : Prop :=
  ∃ past, log = past ++ (since, .changed before true) :: later ∧ Settled past ∧ ∀ e ∈ later, ¬ e.2.Settles

/-- The session is opened, and no switch observed after. -/
def SessionSince (log : WebLog) (token : Text) : Prop :=
  Since (fun e => e.2 = .session token) (fun e => e.2.Changes) log

/-- The last process to connect was launched for this protocol. -/
def LastConnected (log : WebLog) (protocol : Nat) : Prop :=
  Since (fun e => ∃ selected, e.2 = .connected protocol selected)
    (fun e => ∃ launched selected, e.2 = .connected launched selected) log

/-! ## What may follow what -/

/-- A session that lets a request through is younger than the last switch. -/
def Authorizes (past : WebLog)
    (e : Nat × WebEvent) : Prop := ∀ token, e.2 = .authorized token → SessionSince past token

/-- A web request that changes the protocol finds no switch to settle, and comes from a process
    for the selected protocol. -/
def AsksSettled (past : WebLog) (e : Nat × WebEvent) : Prop :=
  ∀ config selected, e.2 = .asked config selected → config.settings.webProtocol ≠ selected →
    Settled past ∧ LastConnected past selected

/-- A switch to settle is undone: for a failure since, or after 65 s. -/
def Undoes (past : WebLog) (e : Nat × WebEvent) : Prop :=
  ∀ selected config accepted, e.2 = .restore selected config accepted →
    ∃ since before later, Pending past since before later ∧ config = restored selected before ∧
      ((∃ f ∈ later, f.2.Fails) ∨ since + 65000 ≤ e.1)

/-! ## Runs -/

/-- The states in runs of these steps. -/
inductive WebRun (steps : WebWorld → WebGateway → Prop) : WebGateway → Prop where
  | init {world : WebWorld} {done : Bool} {w : WebGateway} {calls : List ((call : SecurityCall) × call.Result)}
      (state : Nat) (prompt : Bool)
      (h : (webGatewayInit world { webState := state, recoveryPrompt := prompt }).Answers calls (done, w)) :
      WebRun steps w
  | step {world : WebWorld} {w w' : WebGateway} {calls : List ((call : SecurityCall) × call.Result)}
      (hrun : WebRun steps w) (hlater : ∀ e ∈ w.log, e.1 ≤ world.at') (hsteps : steps world w)
      (h : (webGatewayStep world w).Answers calls w') : WebRun steps w'
  /-- The panel has asked for something. -/
  | panel {world : WebWorld} {w w' : WebGateway} {calls : List ((call : SecurityCall) × call.Result)}
      (hrun : WebRun steps w) (action : Nat) (h : (webGatewayLocal world action w).Answers calls w') :
      WebRun steps w'

/-- What a run says of the switches, and what the next of its steps will do. -/
structure SwitchConfirmed (steps : WebWorld → WebGateway → Prop) (w : WebGateway) : Prop where
  authorized : Each Authorizes w.log
  asked : Each AsksSettled w.log
  undone : Each Undoes w.log
  /-- A switch that has failed, or takes too long, is asked to be undone by every step until it is settled. -/
  again : ∀ world since before later, steps world w → (∀ e ∈ w.log, e.1 ≤ world.at') →
    Pending w.log since before later → (∃ f ∈ later, f.2.Fails) ∨ since + 65000 ≤ world.at' →
      (webGatewayStep world w).Always fun w' => ∃ new, w'.log = w.log ++ new ∧
        (world.at', .restore world.selected (restored world.selected before) world.restoreAccepted) ∈ new

/-- A step that does not find the exit of a process from before a switch, nor a switch that has been
    pending for the whole range of the clock. -/
structure Attributed (world : WebWorld) (w : WebGateway) : Prop where
  own : world.exit.isSome = true → w.pid = true →
    w.switchPending = true ∨ w.peer = true ∧ w.protocolSeen ≠ world.selected.settings.webProtocol →
      w.launchProtocol = world.selected.settings.webProtocol
  prompt : ∀ since before later, Pending w.log since before later → world.at' < since + 2 ^ 32

end FourVrs.Web
