import FourVrs.Panel.Panel

/-!
# The runs of the panel

Steps at any times that read anything of the application; the main program shows the end of
a stop in between. The history keeps what each step read, and the panel before it.
-/

set_option autoImplicit false

namespace FourVrs.Panel

open FourVrs.Core Config

/-- A step: when it was, what it read, and the panel before it. -/
structure PanelMoment where
  at' : Nat
  world : PanelWorld
  before : GatewayPanel

/-- The panel the keypad finds. -/
def PanelMoment.ready (m : PanelMoment) : GatewayPanel := panelReady m.world m.before

/-- Steps at any times, until the main program shows how the stop has ended. -/
inductive PanelRun : List PanelMoment → GatewayPanel → Prop where
  | init (display keypad hasKeyState : Bool) : PanelRun [] (gatewayPanelInit display keypad hasKeyState)
  | step {history : List PanelMoment} {p : GatewayPanel} (w : PanelWorld) (next : Nat)
      (hrun : PanelRun history p) (hlater : ∀ m ∈ history, m.at' ≤ next) (hclock : w.uptime = tick next) :
      PanelRun (history ++ [{ at' := next, world := w, before := p }]) (gatewayPanelStep w p).1
  | stopResult {history : List PanelMoment} {p : GatewayPanel} (error : Nat) (hrun : PanelRun history p) :
      PanelRun history (gatewayPanelStopResult p error)

/-- A poll changes what belongs to the held key, and nothing else. -/
theorem panelPoll_panel (w : PanelWorld) (p : GatewayPanel) :
    ∃ held armed count, (panelPoll w p).panel = { p with «repeat» := held, repeatArmed := armed, repeatCount := count } := by
  unfold panelPoll
  dsimp only
  split
  · exact ⟨_, _, _, rfl⟩
  split
  · exact ⟨_, _, _, rfl⟩
  · unfold pollSampled
    dsimp only
    split
    · exact ⟨_, _, _, rfl⟩
    · split <;> exact ⟨_, _, _, rfl⟩

/-! ## Keys one after the other -/

/-- The application is up, and a key is pressed. -/
def pressing (raw : Nat) : PanelWorld where
  uptime := tick 0
  startupOver := true
  stopRequested := false
  finished := false
  selected := gatewayPersistentDefaults
  lifecycle := fun _ => 0
  lastError := fun _ => false
  startupEvents := 0
  revisionStale := false
  requestRefused := false
  acceptedToken := false
  transactionOurs := false
  transactionRunning := false
  transactionGood := false
  transactionDoubtful := false
  networkApplying := false
  networkAvailable := false
  networkBusy := false
  networkApplyRefused := false
  backlightRefused := false
  timeRead := true
  timeValid := true
  ntpValid := true
  networkValid := true
  configurationError := 0
  recoveryPrompt := 0
  showCode := false
  webLocal := none
  codeShown := false
  promptDrained := true
  drawDrained := true
  event := 1
  raw := raw
  sample := some 0
  dirty := true
  drawFails := false

def pressedAll (raws : List Nat) : List PanelMoment × GatewayPanel :=
  raws.foldl (fun run raw => (run.1 ++ [{ at' := 0, world := pressing raw, before := run.2 }],
    (gatewayPanelStep (pressing raw) run.2).1)) ([], gatewayPanelInit true true true)

theorem panelRun_pressedAll (raws : List Nat) :
    PanelRun (pressedAll raws).1 (pressedAll raws).2 ∧ ∀ m ∈ (pressedAll raws).1, m.at' = 0 := by
  induction raws using List.reverseRecOn with
  | nil =>
    refine ⟨.init true true true, ?_⟩
    intro m hm
    cases hm
  | append_singleton raws raw ih =>
    have hstep : pressedAll (raws ++ [raw]) =
        ((pressedAll raws).1 ++ [{ at' := 0, world := pressing raw, before := (pressedAll raws).2 }],
          (gatewayPanelStep (pressing raw) (pressedAll raws).2).1) := by
      simp [pressedAll]
    rw [hstep]
    refine ⟨.step (pressing raw) 0 ih.1 (fun m hm => Nat.le_of_eq (ih.2 m hm)) rfl, ?_⟩
    intro m hm
    rcases List.mem_append.mp hm with hm | hm
    · exact ih.2 m hm
    · rw [List.mem_singleton.mp hm]

end FourVrs.Panel
