import FourVrs.Panel.Screen
import FourVrs.Panel.Runs

/-!
# The selection

One selection serves lists of seven, eight and five rows, and most ways back to a list leave
it as it is. `Selects` bounds it by the shortest list a view can lead back to; the ways back
that this does not cover are `slips`. Every key that takes none of them keeps the bound.
-/

set_option autoImplicit false

namespace FourVrs.Panel

open FourVrs.Core Config

/-! ## What is to hold -/

/-- The selection is on the list, its row and no other has the mark, and F3 acts on its item. -/
def Highlights {Item : Type} (p : GatewayPanel) (count : Nat) (rows : PanelWorld → List (Item × List Char))
    (act : PanelWorld → Item → Pressed) : Prop :=
  p.selected < count ∧ ∃ item, ∀ w, marked (rows w) = [item] ∧ pressKey w p .f3 = act w item

/-- A finished application refuses three items of the menu. -/
def menuAct (p : GatewayPanel) (w : PanelWorld) (item : MenuItem) : Pressed :=
  if w.finished ∧ p.shutdownError ≠ 0 ∧ (item = .configuration ∨ item = .system ∨ item = .shutdown) then
    ({ p with view := .stopFailed }, [])
  else (openMenuItem p item, [])

/-- Nothing acts on the Web page after a request to stop, or behind a prompt that is not drawn yet. -/
def webAct (p : GatewayPanel) (w : PanelWorld) (item : WebItem) : Pressed :=
  if w.stopRequested ∨ (p.webRemote ∧ !p.webPromptReady) then (p, []) else webItemKey w p item

def Highlighted (p : GatewayPanel) : Prop :=
  match p.view with
  | .menu => Highlights p 7 (fun _ => menuRows (makeScreen p)) (menuAct p)
  | .ports => Highlights p 8 (fun w => portRows w (makeScreen p)) fun _ port => (openPort p port, [])
  | .configPorts => Highlights p 8 (fun _ => configPortRows (makeScreen p)) fun _ port => (openConfig p port, [])
  | .web => Highlights p 5 (fun w => webRows w (makeScreen p)) (webAct p)
  | _ => True

/-- What a view indexes is there. -/
def InRange (p : GatewayPanel) : Prop := ∀ w, ∀ use ∈ indexed w p, use.1 < use.2

/-! ## The ways back -/

/-- The rows of a list; a view that is none has room for every selection. -/
def PanelView.rows : PanelView → Nat
  | .menu => 7
  | .web => 5
  | _ => 8

/-- F1 leads to the menu, with the selection as it is. -/
def backToMenu (stopRequested : Bool) : PanelView → Bool
  | .status | .ports | .configPorts | .applyResult | .diagnostics | .system | .shutdownConfirm | .about => true
  | .network | .networkEdit | .networkConfirm | .networkResult | .display | .backlight | .ntpSettings | .ntpEdit
  | .ntpConfirm | .ntpResult | .web | .webRecover | .webCode | .webUrl | .webCert => stopRequested
  | _ => false

/-- F1 in the views of the Web server. -/
def webTarget (p : GatewayPanel) : PanelView :=
  if p.webRemote then p.webReturn else if p.view = .web then .system else .web

/-- F1 leads to a list that is too short for the selection. -/
def slipsBack (w : PanelWorld) (p : GatewayPanel) : Bool :=
  backToMenu w.stopRequested p.view && decide (PanelView.menu.rows ≤ p.selected) ||
    !w.stopRequested && p.view.isWeb && !(p.webRemote && !p.webPromptReady) &&
      decide ((webTarget p).rows ≤ p.selected)

/-- The end of a remote prompt does. -/
def slipsPrompt (w : PanelWorld) (p : GatewayPanel) : Bool :=
  !w.stopRequested && p.webRemote && decide (w.recoveryPrompt = 0 ∧ p.webReturn.rows ≤ p.selected)

/-- The step goes back to a list that is too short for the selection. -/
def slips (w : PanelWorld) (p : GatewayPanel) : Bool :=
  slipsPrompt w p ||
    (panelReady w p).keypadAvailable && decide (0 < w.event ∧ w.raw = 0) && slipsBack w (panelReady w p)

/-! ## The invariant -/

/-- The shortest list a view is or can lead back to unnoticed. -/
def room (p : GatewayPanel) : Nat :=
  match p.view with
  | .menu => 7
  | .web | .webUrl | .webCert => 5
  | .webRecover => if p.webRemote then 8 else 5
  | _ => 8

structure Selects (p : GatewayPanel) : Prop where
  selected : p.selected < room p
  portIndex : p.portIndex < 8
  fieldIndex : p.fieldIndex < fieldCount
  editOctet : p.editOctet < 4
  ntpCursor : p.ntpCursor + 1 < gatewayNtpServerMax
  webReturn : p.webReturn ≠ .webUrl ∧ p.webReturn ≠ .webCert ∧ p.webReturn ≠ .webRecover

variable {p p' : GatewayPanel} {w : PanelWorld}

theorem room_le (p : GatewayPanel) : room p ≤ 8 := by
  unfold room
  split
  · simp
  · simp
  · simp
  · simp
  · split <;> simp
  · simp

theorem Selects.lt_eight (h : Selects p) : p.selected < 8 := Nat.lt_of_lt_of_le h.selected (room_le p)

/-- The counters are left alone, and there is room for the selection. -/
structure Moves (p p' : GatewayPanel) : Prop where
  portIndex : p'.portIndex = p.portIndex
  fieldIndex : p'.fieldIndex = p.fieldIndex
  editOctet : p'.editOctet = p.editOctet
  ntpCursor : p'.ntpCursor = p.ntpCursor
  webReturn : p'.webReturn = p.webReturn

theorem Selects.moves (h : Selects p) (hmoves : Moves p p') (hroom : p'.selected < room p') : Selects p' where
  selected := hroom
  portIndex := hmoves.portIndex ▸ h.portIndex
  fieldIndex := hmoves.fieldIndex ▸ h.fieldIndex
  editOctet := hmoves.editOctet ▸ h.editOctet
  ntpCursor := hmoves.ntpCursor ▸ h.ntpCursor
  webReturn := hmoves.webReturn ▸ h.webReturn

/-- A view that leads back to no short list. -/
theorem Selects.leaves (h : Selects p) (hmoves : Moves p p') (hselected : p'.selected = p.selected)
    (hroom : room p' = 8) : Selects p' :=
  h.moves hmoves (by rw [hroom, hselected]; exact h.lt_eight)

theorem Selects.stays (h : Selects p) (hmoves : Moves p p') (hselected : p'.selected = p.selected)
    (hview : p'.view = p.view) (hremote : p'.webRemote = p.webRemote) : Selects p' := by
  refine h.moves hmoves ?_
  have hroom : room p' = room p := by
    unfold room
    rw [hview, hremote]
  rw [hroom, hselected]
  exact h.selected

/-! ## The keys -/

theorem selects_homeKey (h : Selects p) (k : PanelKey) : Selects (homeKey p k) := by
  cases k with
  | f1 => exact h.leaves ⟨rfl, rfl, rfl, rfl, rfl⟩ rfl rfl
  | f3 => exact h.moves ⟨rfl, rfl, rfl, rfl, rfl⟩ (by simp [homeKey, room])
  | f2 | f4 | f5 => exact h

theorem selects_helpKey (h : Selects p) (k : PanelKey) : Selects (helpKey p k) := by
  cases k with
  | f1 => exact h.leaves ⟨rfl, rfl, rfl, rfl, rfl⟩ rfl rfl
  | f2 => exact h.stays ⟨rfl, rfl, rfl, rfl, rfl⟩ rfl rfl rfl
  | f3 => exact h
  | f4 => exact h.stays ⟨rfl, rfl, rfl, rfl, rfl⟩ rfl rfl rfl
  | f5 => exact h

/-- Back to the menu. -/
theorem Selects.toMenu (h : Selects p) (hmoves : Moves p p') (hselected : p'.selected = p.selected)
    (hview : p'.view = .menu) (hshort : p.selected < 7) : Selects p' := by
  refine h.moves hmoves ?_
  rw [hselected, room, hview]
  exact hshort

theorem selects_systemTimeKey (h : Selects p) (k : PanelKey) (hback : k = .f1 → p.selected < 7) :
    Selects (systemTimeKey w p k) := by
  cases k with
  | f1 => exact h.toMenu ⟨rfl, rfl, rfl, rfl, rfl⟩ rfl rfl (hback rfl)
  | f2 => exact h.stays ⟨rfl, rfl, rfl, rfl, rfl⟩ rfl rfl rfl
  | f3 => exact h
  | f4 => exact h.stays ⟨rfl, rfl, rfl, rfl, rfl⟩ rfl rfl rfl
  | f5 =>
    unfold systemTimeKey
    dsimp only
    split
    · exact h.leaves ⟨rfl, rfl, rfl, rfl, rfl⟩ rfl rfl
    · exact h

theorem selects_timeEditKey (h : Selects p) (k : PanelKey) : Selects (timeEditKey w p k) := by
  cases k with
  | f1 => exact h.leaves ⟨rfl, rfl, rfl, rfl, rfl⟩ rfl rfl
  | f3 =>
    unfold timeEditKey
    dsimp only
    split
    · exact h.stays ⟨rfl, rfl, rfl, rfl, rfl⟩ rfl rfl rfl
    · cases w.timeValid with
      | true | false => exact h.leaves ⟨rfl, rfl, rfl, rfl, rfl⟩ rfl rfl
  | f2 | f4 | f5 => exact h

theorem selects_timeConfirmKey (h : Selects p) (k : PanelKey) : Selects (timeConfirmKey p k) := by
  cases k with
  | f1 | f3 => exact h.leaves ⟨rfl, rfl, rfl, rfl, rfl⟩ rfl rfl
  | f2 | f4 | f5 => exact h

theorem selects_openMenuItem (h : Selects p) (item : MenuItem) : Selects (openMenuItem p item) := by
  cases item with
  | ports => exact h.moves ⟨rfl, rfl, rfl, rfl, rfl⟩ (by simp [openMenuItem, room])
  | configuration => exact h.moves ⟨rfl, rfl, rfl, rfl, rfl⟩ (by simp [openMenuItem, loadCandidate, room])
  | status | diagnostics | system | shutdown | about => exact h.leaves ⟨rfl, rfl, rfl, rfl, rfl⟩ rfl rfl

/-- The selection moves on a list of `count` rows. -/
theorem Selects.steps {selected count : Nat} (h : Selects p) (hroom : room p = count) (hselected : selected < count) :
    Selects { p with selected } :=
  h.moves ⟨rfl, rfl, rfl, rfl, rfl⟩ (hroom ▸ hselected)

theorem selects_menuKey (h : Selects p) (hview : p.view = .menu) (k : PanelKey) : Selects (menuKey p k) := by
  have hroom : room p = 7 := by rw [room, hview]
  have hselected := hroom ▸ h.selected
  cases k with
  | f1 => exact h.leaves ⟨rfl, rfl, rfl, rfl, rfl⟩ rfl rfl
  | f2 => exact h.steps hroom (by split <;> omega)
  | f3 => exact selects_openMenuItem h _
  | f4 => exact h.steps hroom (Nat.mod_lt _ (by simp))
  | f5 => exact h

theorem selects_portsKey (h : Selects p) (hview : p.view = .ports) (k : PanelKey) : Selects (portsKey p k) := by
  have hroom : room p = 8 := by rw [room, hview]
  have hselected := h.lt_eight
  cases k with
  | f2 => exact h.steps hroom (by split <;> omega)
  | f3 => exact { h with selected := hselected, portIndex := hselected }
  | f4 => exact h.steps hroom (Nat.mod_lt _ (by simp))
  | f1 | f5 => exact h

theorem selects_configPortsKey (h : Selects p) (hview : p.view = .configPorts) (k : PanelKey) :
    Selects (configPortsKey p k) := by
  have hroom : room p = 8 := by rw [room, hview]
  have hselected := h.lt_eight
  cases k with
  | f2 => exact h.steps hroom (by split <;> omega)
  | f3 =>
    have hfirst : 0 < fieldCount := by decide
    exact { h with selected := hselected, portIndex := hselected, fieldIndex := hfirst }
  | f4 => exact h.steps hroom (Nat.mod_lt _ (by simp))
  | f1 | f5 => exact h

theorem selects_portDetailKey (h : Selects p) (k : PanelKey) : Selects (portDetailKey p k) := by
  cases k with
  | f2 | f4 => exact h.stays ⟨rfl, rfl, rfl, rfl, rfl⟩ rfl rfl rfl
  | f1 | f3 | f5 => exact h

theorem selects_configFieldsKey (h : Selects p) (k : PanelKey) : Selects (configFieldsKey w p k) := by
  have hfield := h.fieldIndex
  cases k with
  | f1 => exact h
  | f2 =>
    refine { h with selected := ?_, fieldIndex := ?_ }
    · exact h.selected
    · show (if p.fieldIndex ≠ 0 then p.fieldIndex - 1 else fieldCount - 1) < fieldCount
      split
      · omega
      · simp [fieldCount]
  | f3 =>
    unfold configFieldsKey
    dsimp only
    split
    · split
      · exact h.leaves ⟨rfl, rfl, rfl, rfl, rfl⟩ rfl rfl
      · exact h.leaves ⟨rfl, rfl, rfl, rfl, rfl⟩ rfl rfl
    · split
      · exact h.leaves ⟨rfl, rfl, rfl, rfl, rfl⟩ rfl rfl
      · exact h
  | f4 =>
    refine { h with selected := ?_, fieldIndex := ?_ }
    · exact h.selected
    · exact Nat.mod_lt _ (by simp [fieldCount])
  | f5 =>
    unfold configFieldsKey
    dsimp only
    split
    · exact { h with selected := h.lt_eight, editOctet := by simp }
    · exact h

theorem selects_editFieldKey (h : Selects p) (k : PanelKey) : Selects (editFieldKey p k) := by
  cases k with
  | f3 => exact h.leaves ⟨rfl, rfl, rfl, rfl, rfl⟩ rfl rfl
  | f5 =>
    unfold editFieldKey
    dsimp only
    split
    · exact { h with selected := h.selected, editOctet := Nat.mod_lt _ (by simp) }
    · exact h
  | f1 | f2 | f4 => exact h

theorem selects_stopResult (h : Selects p) (error : Nat) : Selects (gatewayPanelStopResult p error) := by
  refine h.leaves ⟨rfl, rfl, rfl, rfl, rfl⟩ rfl ?_
  by_cases herror : error = 0 <;> simp [gatewayPanelStopResult, room, herror]

theorem selects_startupEventsKey (h : Selects p) (k : PanelKey) : Selects (startupEventsKey w p k) := by
  cases k with
  | f2 => exact h.stays ⟨rfl, rfl, rfl, rfl, rfl⟩ rfl rfl rfl
  | f4 =>
    unfold startupEventsKey
    dsimp only
    split
    · exact h.stays ⟨rfl, rfl, rfl, rfl, rfl⟩ rfl rfl rfl
    · exact h
  | f1 | f3 | f5 => exact h

theorem selects_shutdownConfirmKey (h : Selects p) (k : PanelKey) : Selects (shutdownConfirmKey w p k) := by
  unfold shutdownConfirmKey
  split
  · split
    · exact selects_stopResult h 1
    · exact h.leaves ⟨rfl, rfl, rfl, rfl, rfl⟩ rfl rfl
  · exact h

theorem selects_viewKey (h : Selects p) (k : PanelKey) : Selects (viewKey w p k) := by
  unfold viewKey
  split
  · rename_i hview
    exact selects_portsKey h hview k
  · exact selects_portDetailKey h k
  · rename_i hview
    exact selects_configPortsKey h hview k
  · exact selects_configFieldsKey h k
  · exact selects_editFieldKey h k
  · split
    · exact h.leaves ⟨rfl, rfl, rfl, rfl, rfl⟩ rfl rfl
    · exact h
  · split
    · exact h.leaves ⟨rfl, rfl, rfl, rfl, rfl⟩ rfl rfl
    · exact h
  · exact selects_startupEventsKey h k
  · exact selects_shutdownConfirmKey h k
  · exact h

/-- The views that `backKey` leaves for the menu. -/
theorem selects_backKey (h : Selects p)
    (hback : (backKey p).view = .menu → p.selected < 7) : Selects (backKey p) := by
  by_cases hmenu : (backKey p).view = .menu
  · exact h.toMenu ⟨rfl, rfl, rfl, rfl, rfl⟩ rfl hmenu (hback hmenu)
  · refine h.leaves ⟨rfl, rfl, rfl, rfl, rfl⟩ rfl ?_
    unfold backKey at hmenu ⊢
    unfold room
    dsimp only at hmenu ⊢
    split at hmenu
    · rfl
    · rfl
    · rfl
    · rfl
    · rfl
    · exact absurd rfl hmenu

variable {k : PanelKey} {q : GatewayPanel}

theorem selects_networkKey (h : Selects p) (hq : networkKey w p k = some q) :
    Selects q := by
  unfold networkKey at hq
  split at hq
  · split at hq
    · cases hq
      exact h.leaves ⟨rfl, rfl, rfl, rfl, rfl⟩ rfl rfl
    · cases hq
  · cases hq
    cases k with
    | f1 => exact h.leaves ⟨rfl, rfl, rfl, rfl, rfl⟩ rfl rfl
    | f2 => exact h.stays ⟨rfl, rfl, rfl, rfl, rfl⟩ rfl rfl rfl
    | f3 => exact h
    | f4 => exact h.stays ⟨rfl, rfl, rfl, rfl, rfl⟩ rfl rfl rfl
    | f5 =>
      unfold networkPageKey
      dsimp only
      split
      · exact h.leaves ⟨rfl, rfl, rfl, rfl, rfl⟩ rfl rfl
      · exact h
  · cases hq
    cases k with
    | f1 => exact h.leaves ⟨rfl, rfl, rfl, rfl, rfl⟩ rfl rfl
    | f2 => exact h
    | f3 => exact h.stays ⟨rfl, rfl, rfl, rfl, rfl⟩ rfl rfl rfl
    | f4 => exact h
    | f5 =>
      unfold networkEditKey
      dsimp only
      split
      · exact h.leaves ⟨rfl, rfl, rfl, rfl, rfl⟩ rfl rfl
      · exact h.leaves ⟨rfl, rfl, rfl, rfl, rfl⟩ rfl rfl
  · cases hq
    cases k with
    | f1 | f3 => exact h.leaves ⟨rfl, rfl, rfl, rfl, rfl⟩ rfl rfl
    | f2 | f4 | f5 => exact h
  · cases hq
    split
    · exact h.leaves ⟨rfl, rfl, rfl, rfl, rfl⟩ rfl rfl
    · exact h
  · cases hq

theorem selects_ntpNext (h : Selects p) : Selects (ntpNext p) := by
  unfold ntpNext
  split
  · exact h.stays ⟨rfl, rfl, rfl, rfl, rfl⟩ rfl rfl rfl
  split
  · exact h.stays ⟨rfl, rfl, rfl, rfl, rfl⟩ rfl rfl rfl
  split
  · rename_i hcursor
    refine { h with selected := h.selected, ntpCursor := ?_ }
    show p.ntpCursor + 1 + 1 < gatewayNtpServerMax
    omega
  · exact h

theorem selects_ntpEditKey (h : Selects p) (k : PanelKey) : Selects (ntpEditKey w p k) := by
  cases k with
  | f1 => exact h.leaves ⟨rfl, rfl, rfl, rfl, rfl⟩ rfl rfl
  | f2 => exact h
  | f3 => exact selects_ntpNext h
  | f4 => exact h
  | f5 =>
    unfold ntpEditKey
    dsimp only
    split
    · exact h.stays ⟨rfl, rfl, rfl, rfl, rfl⟩ rfl rfl rfl
    · split
      · exact h.leaves ⟨rfl, rfl, rfl, rfl, rfl⟩ rfl rfl
      · exact h.leaves ⟨rfl, rfl, rfl, rfl, rfl⟩ rfl rfl

theorem selects_ntpKey (h : Selects p) (hq : ntpKey w p k = some q) :
    Selects q := by
  unfold ntpKey at hq
  split at hq
  · cases hq
    cases k with
    | f1 => exact h.leaves ⟨rfl, rfl, rfl, rfl, rfl⟩ rfl rfl
    | f5 =>
      have hfirst : 0 + 1 < gatewayNtpServerMax := by decide
      exact { h with selected := h.lt_eight, ntpCursor := hfirst }
    | f2 | f3 | f4 => exact h
  · cases hq
    exact selects_ntpEditKey h k
  · cases hq
    cases k with
    | f1 | f3 => exact h.leaves ⟨rfl, rfl, rfl, rfl, rfl⟩ rfl rfl
    | f2 | f4 | f5 => exact h
  · cases hq
    split
    · exact h.leaves ⟨rfl, rfl, rfl, rfl, rfl⟩ rfl rfl
    · exact h
  · cases hq

theorem selects_systemKey (h : Selects p) (hback : k = .f1 → p.selected < 7) (hq : systemKey p k = some q) :
    Selects q := by
  cases k with
  | f1 =>
    cases hq
    exact h.toMenu ⟨rfl, rfl, rfl, rfl, rfl⟩ rfl rfl (hback rfl)
  | f2 =>
    cases hq
    exact h.stays ⟨rfl, rfl, rfl, rfl, rfl⟩ rfl rfl rfl
  | f3 =>
    unfold systemKey at hq
    dsimp only at hq
    split at hq
    · cases hq
      exact h.moves ⟨rfl, rfl, rfl, rfl, rfl⟩ (by simp [room])
    split at hq
    · cases hq
      exact h.leaves ⟨rfl, rfl, rfl, rfl, rfl⟩ rfl rfl
    · cases hq
  | f4 =>
    cases hq
    exact h.stays ⟨rfl, rfl, rfl, rfl, rfl⟩ rfl rfl rfl
  | f5 =>
    unfold systemKey at hq
    dsimp only at hq
    split at hq
    · cases hq
      exact h.leaves ⟨rfl, rfl, rfl, rfl, rfl⟩ rfl rfl
    · cases hq

theorem selects_specialKey (h : Selects p) (hback : p.view = .system → k = .f1 → p.selected < 7)
    (hq : specialKey w p k = some q) : Selects q := by
  unfold specialKey at hq
  split at hq
  · cases hq
    cases k with
    | f1 | f3 => exact h.leaves ⟨rfl, rfl, rfl, rfl, rfl⟩ rfl rfl
    | f2 | f4 | f5 => exact h
  · cases hq
    cases k with
    | f1 => exact h.leaves ⟨rfl, rfl, rfl, rfl, rfl⟩ rfl rfl
    | f2 | f3 | f4 => exact h.stays ⟨rfl, rfl, rfl, rfl, rfl⟩ rfl rfl rfl
    | f5 => exact h
  · rename_i hview
    exact selects_systemKey h (hback hview) hq
  · exact selects_ntpKey h hq

theorem selects_key (h : Selects p) (k : PanelKey)
    (hback : k = .f1 → backToMenu true p.view = true → p.selected < 7) : Selects (key w p k) := by
  unfold key
  split
  · split
    · exact h.moves ⟨rfl, rfl, rfl, rfl, rfl⟩ (by simp [room])
    · exact h
  · exact h
  · exact h
  · exact h
  · exact selects_homeKey h k
  · exact selects_helpKey h k
  · rename_i hview
    exact selects_systemTimeKey h k fun hk => hback hk (by rw [hview]; rfl)
  · exact selects_timeEditKey h k
  · exact selects_timeConfirmKey h k
  · split
    · exact h.leaves ⟨rfl, rfl, rfl, rfl, rfl⟩ rfl rfl
    · exact h
  · rename_i hview
    split
    · exact h.leaves ⟨rfl, rfl, rfl, rfl, rfl⟩ rfl rfl
    · exact selects_menuKey h hview k
  split
  · rename_i hk
    refine selects_backKey h fun hmenu => hback hk ?_
    unfold backKey at hmenu
    cases hview : p.view <;> simp_all [backToMenu]
  · exact selects_viewKey h k

theorem selects_webSave (h : Selects p) (item : WebItem) : Selects (webSave w p item).1 := by
  unfold webSave
  split
  · exact h.stays ⟨rfl, rfl, rfl, rfl, rfl⟩ rfl rfl rfl
  split
  · exact h.stays ⟨rfl, rfl, rfl, rfl, rfl⟩ rfl rfl rfl
  · unfold webSaved
    dsimp only
    split
    · dsimp only
      split
      · exact h.leaves ⟨rfl, rfl, rfl, rfl, rfl⟩ rfl rfl
      · exact h.stays ⟨rfl, rfl, rfl, rfl, rfl⟩ rfl rfl rfl
    · exact h.stays ⟨rfl, rfl, rfl, rfl, rfl⟩ rfl rfl rfl

theorem selects_webItemKey (h : Selects p) (hview : p.view = .web) (item : WebItem) :
    Selects (webItemKey w p item).1 := by
  have hroom : room p = 5 := by rw [room, hview]
  have hsave : ∀ item, Selects (if p.webPending then (p, []) else webSave w p item).1 := by
    intro item
    split
    · exact h
    · exact selects_webSave h item
  cases item with
  | recover =>
    refine h.moves ⟨rfl, rfl, rfl, rfl, rfl⟩ ?_
    have hselected := hroom ▸ h.selected
    show p.selected < if p.webRemote then 8 else 5
    split <;> omega
  | newCode =>
    unfold webItemKey
    dsimp only
    split
    · dsimp only
      split
      · exact h.leaves ⟨rfl, rfl, rfl, rfl, rfl⟩ rfl rfl
      · exact h
    · exact h
  | enabled => exact hsave .enabled
  | interface => exact hsave .interface
  | protocol => exact hsave .protocol

theorem selects_webPageKey (h : Selects p) (hview : p.view = .web) (k : PanelKey) : Selects (webPageKey w p k).1 := by
  have hroom : room p = 5 := by rw [room, hview]
  cases k with
  | f1 => exact h
  | f2 => exact h.steps hroom (Nat.mod_lt _ (by simp))
  | f3 => exact selects_webItemKey h hview _
  | f4 => exact h.steps hroom (Nat.mod_lt _ (by simp))
  | f5 =>
    refine h.moves ⟨rfl, rfl, rfl, rfl, rfl⟩ ?_
    show p.selected < 5
    exact hroom ▸ h.selected

/-- A list that is long enough has room. -/
theorem Selects.backTo (h : Selects p) (hmoves : Moves p p') (hselected : p'.selected = p.selected)
    (hlong : p.selected < p'.view.rows) (hpage : p'.view ≠ .webUrl ∧ p'.view ≠ .webCert ∧ p'.view ≠ .webRecover) :
    Selects p' := by
  refine h.moves hmoves ?_
  rw [hselected]
  have hrows : room p' = p'.view.rows := by
    unfold room PanelView.rows
    split <;> simp_all
  exact hrows ▸ hlong

theorem selects_webKey {q : Pressed} (h : Selects p) (hq : webKey w p k = some q)
    (hstop : w.stopRequested = false) (hback : k = .f1 → slipsBack w p = false) : Selects q.1 := by
  unfold webKey at hq
  split at hq
  · cases hq
  · rename_i hweb
    have hweb : p.view.isWeb = true := by simpa using hweb
    split at hq
    · rename_i hurl
      cases hq
      refine h.moves ⟨rfl, rfl, rfl, rfl, rfl⟩ ?_
      have hselected := h.selected
      rw [room, hurl.1] at hselected
      exact hselected
    split at hq
    · cases hq
      exact h
    · rename_i hready
      have hready : (p.webRemote && !p.webPromptReady) = false := by simpa using hready
      -- the ways back that F1 takes from here
      have htarget : k = .f1 → p.selected < (webTarget p).rows := by
        intro hk
        have hslips := hback hk
        simp only [slipsBack, hstop, hweb, hready, Bool.not_false, Bool.true_and, Bool.or_eq_false_iff,
          decide_eq_false_iff_not, Nat.not_le] at hslips
        exact hslips.2
      split at hq
      · rename_i hremote
        cases hq
        refine h.backTo ⟨rfl, rfl, rfl, rfl, rfl⟩ rfl ?_ h.webReturn
        have hlong := htarget hremote.2
        rw [webTarget, if_pos hremote.1] at hlong
        exact hlong
      rename_i hremote
      split at hq
      · rename_i hk
        cases hq
        have hlong := htarget hk
        have hlocal : ¬p.webRemote = true := fun hr => hremote ⟨hr, hk⟩
        rw [webTarget, if_neg hlocal] at hlong
        refine h.backTo ⟨rfl, rfl, rfl, rfl, rfl⟩ rfl hlong ?_
        unfold webBack
        dsimp only
        split <;> simp
      split at hq
      · cases hq
        unfold webRecoverKey
        split
        · dsimp only
          split
          · exact h.leaves ⟨rfl, rfl, rfl, rfl, rfl⟩ rfl rfl
          · exact h
        · exact h
      split at hq
      · cases hq
        exact h
      · rename_i hview
        cases hq
        exact selects_webPageKey h (by simpa using hview) k

/-- A key that only `key` is left for. -/
theorem backToMenu_of_left (hweb : webKey w p k = none) (hnetwork : networkKey w p k = none)
    (hspecial : specialKey w p k = none) (hk : k = .f1) (hback : backToMenu true p.view = true) :
    backToMenu false p.view = true := by
  subst hk
  have hnotWeb : p.view.isWeb = false := by
    unfold webKey at hweb
    split at hweb
    · rename_i hnot
      simpa using hnot
    · split_ifs at hweb
  cases hview : p.view <;>
    simp_all [backToMenu, PanelView.isWeb, networkKey, specialKey, ntpKey, systemKey]

/-- **The step lemma of a key.** -/
theorem selects_pressKey (h : Selects p) (k : PanelKey) (hback : k = .f1 → slipsBack w p = false) :
    Selects (pressKey w p k).1 := by
  have hmenu : ∀ {stop}, w.stopRequested = stop → k = .f1 → backToMenu stop p.view = true → p.selected < 7 := by
    intro stop hstop hk hview
    have hslips := hback hk
    simp only [slipsBack, hstop, hview, Bool.true_and, Bool.or_eq_false_iff, decide_eq_false_iff_not] at hslips
    exact Nat.not_le.mp hslips.1
  unfold pressKey
  split
  · rename_i hstop
    exact selects_key h k (hmenu hstop)
  · rename_i hstop
    have hstop : w.stopRequested = false := by simpa using hstop
    split
    · rename_i pressed hweb
      exact selects_webKey h hweb hstop hback
    · rename_i hweb
      cases hnetwork : networkKey w p k with
      | some q => exact selects_networkKey h hnetwork
      | none =>
        cases hspecial : specialKey w p k with
        | some q =>
          refine selects_specialKey h ?_ hspecial
          intro hview hk
          exact hmenu hstop hk (by rw [hview]; rfl)
        | none =>
          refine selects_key h k fun hk hview => hmenu hstop hk ?_
          exact backToMenu_of_left hweb hnetwork hspecial hk hview

end FourVrs.Panel
