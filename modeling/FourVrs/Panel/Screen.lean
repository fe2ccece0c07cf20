import FourVrs.Panel.Panel

/-!
# The lists on the screen (`panel/gateway_panel.c`)

The rows of the main menu, of the two lists of ports and of the Web page that stand for an
item, each with its item. The mark is the first character of a row.
-/

set_option autoImplicit false

namespace FourVrs.Panel

open Config

/-! ## Rows -/

def columns : Nat := 16

/-- `row`: cut or filled up with blanks. -/
def rowText (text : List Char) : List Char := text.take columns ++ List.replicate (columns - text.length) ' '

def markOf (selected r : Nat) : Char := if r = selected then '>' else ' '

/-- The items of the rows with the mark. -/
def marked {Item : Type} (rows : List (Item × List Char)) : List Item :=
  (rows.filter fun row => decide (row.2.head? = some '>')).map (·.1)

/-- The row of item `i`, whose text follows the mark. -/
def itemRow {Item : Type} (selected : Nat) (item : Nat → Item) (text : Nat → List Char) (i : Nat) :
    Item × List Char :=
  (item i, rowText (markOf selected i :: text i))

theorem head_itemRow {Item : Type} (selected : Nat) (item : Nat → Item) (text : Nat → List Char) (i : Nat) :
    (itemRow selected item text i).2.head? = some '>' ↔ i = selected := by
  have hhead : (itemRow selected item text i).2.head? = some (markOf selected i) := rfl
  rw [hhead, markOf]
  split <;> simp_all

/-- Of rows for different items only the selected one has the mark. -/
theorem marked_itemRow {Item : Type} {selected : Nat} {shown : List Nat} (item : Nat → Item)
    (text : Nat → List Char) (hnodup : shown.Nodup) (hshown : selected ∈ shown) :
    marked (shown.map (itemRow selected item text)) = [item selected] := by
  have hfilter : (shown.map (itemRow selected item text)).filter
        (fun row => decide (row.2.head? = some '>')) =
      (shown.filter fun i => decide (i = selected)).map (itemRow selected item text) := by
    rw [List.filter_map]
    congr 1
    refine List.filter_congr ?_
    intro i _
    simp [head_itemRow]
  have honly : shown.filter (fun i => decide (i = selected)) = [selected] := by
    have hcount := List.count_eq_one_of_mem hnodup hshown
    have hall : shown.filter (fun i => decide (i = selected)) = shown.filter (· == selected) := by
      refine List.filter_congr ?_
      intro i _
      simp [beq_eq_decide]
    rw [hall, List.filter_beq, hcount]
    rfl
  simp [marked, hfilter, honly, itemRow]

/-! ## The lists -/

def menuLabels : List String :=
  ["Status", "Ports", "Configuration", "Diagnostics", "System", "Shutdown", "About"]

def menuText (i : Nat) : List Char := ' ' :: (menuLabels.getD i "").toList.take 13

/-- `render_menu`. -/
def menuRows (p : GatewayPanel) : List (MenuItem × List Char) :=
  (List.range 7).map (itemRow p.selected menuItem menuText)

/-- What of `count` items a list shows. -/
def visible (scroll count : Nat) : List Nat :=
  ((List.range menuVisible).map (scroll + ·)).filter (· < count)

def lifeNames : List String :=
  ["DISABLED", "STARTING", "READY", "RECONFIG", "ROLLBACK", "STOPPING", "DEGRADED", "ERROR", "WAIT NETWORK"]

/-- `%-8s`. -/
def padded (text : List Char) : List Char := text ++ List.replicate (8 - text.length) ' '

def portText (w : PanelWorld) (i : Nat) : List Char :=
  'P' :: (toString (i + 1)).toList ++ ' ' :: padded (lifeNames.getD (w.lifecycle i) "UNKNOWN").toList ++
    [' ', if w.lastError i then '!' else ' ']

/-- `render_ports`. -/
def portRows (w : PanelWorld) (p : GatewayPanel) : List (Nat × List Char) :=
  (visible p.scroll 8).map (itemRow p.selected id (portText w))

def configText (i : Nat) : List Char := ' ' :: 'P' :: (toString (i + 1)).toList

/-- `render_config_ports`. -/
def configPortRows (p : GatewayPanel) : List (Nat × List Char) :=
  (visible p.scroll 8).map (itemRow p.selected id configText)

def interfaceName (n : Nat) : String := if n = 0 then "LAN1" else if n = 1 then "LAN2" else "Both"

def webText (settings : GatewayProductSettings) (i : Nat) : List Char :=
  match webItem i with
  | .enabled => (if settings.webEnabled ≠ 0 then " Disable" else " Enable").toList
  | .interface => (" Iface " ++ interfaceName settings.webInterface).toList
  | .newCode => " New code".toList
  | .recover => " Recover access".toList
  | .protocol => (if settings.webProtocol ≠ 0 then " HTTPS not rec." else " HTTP cleartext").toList

/-- `render_web`, of the page itself. -/
def webRows (w : PanelWorld) (p : GatewayPanel) : List (WebItem × List Char) :=
  (List.range 5).map (itemRow p.selected webItem (webText w.selected.settings))

/-! ## What a list shows -/

theorem nodup_visible (scroll count : Nat) : (visible scroll count).Nodup := by
  refine List.Nodup.filter _ ?_
  refine List.Nodup.map ?_ List.nodup_range
  intro i j h
  exact Nat.add_left_cancel h

/-- A list is scrolled to where the selection is. -/
theorem mem_visible_scrolled {selected scroll count : Nat} (h : selected < count) :
    selected ∈ visible (scrolled selected scroll) count := by
  have hwindow : scrolled selected scroll ≤ selected ∧ selected < scrolled selected scroll + menuVisible := by
    unfold scrolled menuVisible
    dsimp only
    split <;> split <;> omega
  simp only [visible, List.mem_filter, List.mem_map, List.mem_range, decide_eq_true_eq]
  exact ⟨⟨selected - scrolled selected scroll, by omega, by omega⟩, h⟩

/-! ## What a view indexes -/

/-- What the functions of a view index, with how much of it there is. -/
def indexed (w : PanelWorld) (p : GatewayPanel) : List (Nat × Nat) :=
  match p.view with
  | .portDetail => [(p.portIndex, 8)]
  | .configFields => [(p.portIndex, 8), (p.fieldIndex, fieldCount)]
  | .editField =>
      [(p.portIndex, 8), (p.fieldIndex, fieldCount)] ++ (if p.fieldIndex = 9 then [(p.editOctet, 4)] else [])
  | .startupEvents =>
      -- a page behind the last event shows none
      if p.startupEventPage < w.startupEventCount then [(p.startupEventPage, startupEventCapacity)] else []
  | .ntpEdit => if p.ntpField = 1 then [(p.ntpCursor, gatewayNtpServerMax)] else []
  | _ => []

end FourVrs.Panel
