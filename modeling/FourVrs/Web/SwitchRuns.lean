import FourVrs.Web.SwitchKept

/-!
# A switch is confirmed or undone

In runs whose steps find, while a switch is pending, only exits of processes for the selected
protocol. A run in which the process from before the switch crashes while its last response
is sent undoes a switch that was never tried.

What the log of a run says of a switch (`SwitchTold`) is kept function by function in the module
on a switch; here it is read at the end of a run.
-/

set_option autoImplicit false

namespace FourVrs.Web

open FourVrs.Core Config App Lib

theorem switchConfirmed_of_webRun {w : WebGateway} (hrun : WebRun Attributed w) : SwitchConfirmed Attributed w := by
  have hinv := hrun.inv
  exact
    { authorized := Each.mono hinv.allowed fun _ _ h => h.authorizes
      asked := Each.mono hinv.allowed fun _ _ h => h.asks
      undone := Each.mono hinv.allowed fun _ _ h => h.undoes
      again := fun _ _ _ _ hsteps htimed hpending hdue => asks_again hinv hsteps htimed hpending hdue }

/-! ## Runs with a switch -/

/-- Calls that find no record and no worker. -/
def plainAnswer : (call : SecurityCall) → call.Result
  | .readRecord => .missing
  | .random n => (true, List.replicate n 7)
  | .spawn _ => .refused
  | .kill => ()
  | .waitpid => none
  | .readReply => []

def playWeb {α : Type} (p : SecurityProg α) : α := (p.eval (fun call _ => (plainAnswer call, ())) ()).1

/-- The network is up, and the process connects as soon as there is one. -/
def quietWorld (at' protocol : Nat) : WebWorld where
  at' := at'
  selected :=
    { gatewayPersistentDefaults with
      schemaVersion := 3
      settings := { gatewayPersistentDefaults.settings with webEnabled := 1, webProtocol := protocol } }
  stopRequested := false
  running := true
  promotesWeb := false
  trust := .synced
  recoveryAvailable := true
  restoreAccepted := true
  prepared := some []
  rngExit := none
  rngLaunched := true
  rngStepFailed := false
  rngReady := true
  rngStillReady := true
  epochDrawn := true
  stoppedGone := true
  exit := none
  networkError := 0
  addresses := [text "10.0.0.1", []]
  ipcOpened := true
  channelOpened := true
  rngAttached := true
  forked := true
  connecting := some true
  sent := .again
  received := .request .plain

def stepWeb (world : WebWorld) (w : WebGateway) : WebGateway := playWeb (webGatewayStep world w)

def startedWeb : WebGateway := (playWeb (webGatewayInit (quietWorld 20000 0) {})).2

/-- The second step finds other addresses than none, and the service is to start 2 s later.
    Then a web process for HTTP is connected, and its response waits. -/
def connectedWeb : WebGateway :=
  stepWeb (quietWorld 22002 0) (stepWeb (quietWorld 20002 0) (stepWeb (quietWorld 20001 0) startedWeb))

theorem webRun_started (steps : WebWorld → WebGateway → Prop) : WebRun steps startedWeb := by
  obtain ⟨calls, h⟩ := Prog.answers_eval (fun call (_ : Unit) => (plainAnswer call, ()))
    (webGatewayInit (quietWorld 20000 0) {}) ()
  exact .init 0 false h

theorem WebRun.stepWeb {steps : WebWorld → WebGateway → Prop} {world : WebWorld} {w : WebGateway}
    (hrun : WebRun steps w) (hlater : ∀ e ∈ w.log, e.1 ≤ world.at') (hsteps : steps world w) :
    WebRun steps (stepWeb world w) := by
  obtain ⟨calls, h⟩ := Prog.answers_eval (fun call (_ : Unit) => (plainAnswer call, ())) (webGatewayStep world w) ()
  exact .step hrun hlater hsteps h

theorem webRun_connected {steps : WebWorld → WebGateway → Prop}
    (hsteps : ∀ at' w, at' < 2 ^ 32 → steps (quietWorld at' 0) w) : WebRun steps connectedWeb := by
  refine WebRun.stepWeb (.stepWeb (.stepWeb (webRun_started steps) (by decide +kernel) ?_) (by decide +kernel) ?_)
    (by decide +kernel) ?_
  all_goals exact hsteps _ _ (by decide)

/-- Nothing exits. -/
theorem attributed_quietWorld (at' protocol : Nat) (w : WebGateway) (h : at' < 2 ^ 32) :
    Attributed (quietWorld at' protocol) w :=
  ⟨nofun, fun since _ _ _ => Nat.lt_of_lt_of_le h (Nat.le_add_left _ since)⟩

/-- HTTPS is selected: the response is sent, the process stopped, and one for HTTPS connects. -/
def confirmedWeb : WebGateway :=
  let sent := stepWeb { quietWorld 40000 1 with sent := .all } connectedWeb
  stepWeb (quietWorld 40003 1) (stepWeb (quietWorld 40002 1) sent)

example : confirmedWeb.log =
    [(22002, .connected 0 0), (40000, .changed 0 true), (40003, .connected 1 1)] := by
  decide +kernel

theorem switchConfirmed_of_webRun_https : SwitchConfirmed Attributed confirmedWeb := by
  refine switchConfirmed_of_webRun (.stepWeb (.stepWeb (.stepWeb (webRun_connected fun at' w h => ?_) ?_ ?_) ?_ ?_) ?_ ?_)
  · exact attributed_quietWorld at' 0 w h
  · decide +kernel
  · exact ⟨nofun, (attributed_quietWorld 40000 1 connectedWeb (by decide)).prompt⟩
  · decide +kernel
  · exact attributed_quietWorld _ _ _ (by decide)
  · decide +kernel
  · exact attributed_quietWorld _ _ _ (by decide)

/-- HTTPS is selected, and the process for HTTP crashes while its response is sent. -/
def crashedWeb : WebGateway :=
  stepWeb (quietWorld 40001 1) (stepWeb { quietWorld 40000 1 with exit := some (.exited 1) } connectedWeb)

/-- The switch to HTTPS is undone before a process for HTTPS was launched. -/
theorem not_switchConfirmed_of_crash :
    ¬ ∀ w, WebRun (fun _ _ => True) w → SwitchConfirmed (fun _ _ => True) w := by
  intro hall
  have hrun : WebRun (fun _ _ => True) crashedWeb :=
    .stepWeb (.stepWeb (webRun_connected fun _ _ _ => trivial) (by decide +kernel) trivial) (by decide +kernel) trivial
  have hlog : crashedWeb.log =
      [(22002, .connected 0 0), (40000, .changed 0 true), (40000, .exited 0 1)] ++
        [(40001, .restore (quietWorld 40001 1).selected (restored (quietWorld 40001 1).selected 0) true)] := by
    decide +kernel
  obtain ⟨since, before, later, hpending, _, hdue⟩ := (hall crashedWeb hrun).undone _ _ [] hlog _ _ _ rfl
  obtain ⟨past, heq, _, _⟩ := hpending
  have hmem : ∀ e ∈ (since, WebEvent.changed before true) :: later,
      e ∈ [(22002, WebEvent.connected 0 0), (40000, .changed 0 true), (40000, .exited 0 1)] := by
    intro e he
    rw [heq]
    exact List.mem_append_right _ he
  -- it is no failure of the new protocol, and no minute has gone by
  rcases hdue with ⟨f, hf, hfails⟩ | hdue
  · have hin := hmem f (List.mem_cons_of_mem _ hf)
    simp only [List.mem_cons, List.not_mem_nil, or_false] at hin
    rcases hin with rfl | rfl | rfl
    · exact hfails
    · exact hfails
    · cases hfails
  · have hin := hmem _ List.mem_cons_self
    simp at hin
    omega

end FourVrs.Web
