import FourVrs.Config.Persistent
import FourVrs.Panel.KeyRepeat

/-!
# The panel (`panel/gateway_panel.c`)

Five keys, eight rows and one view at a time. The model keeps what decides where a key leads:
the view, the selection and scroll the lists share, the pages and cursors, the prompt for a
remote recovery, and the key that is held. What is only shown (the rest of the screen, the
time that is displayed) and what is edited (the drafts of a configuration, of a time and of
an address plan) is left out: of a draft it is read whether it passes its check. A step reads
the application once (`PanelWorld`), and what a call into it answers is read there too.
-/

set_option autoImplicit false

namespace FourVrs.Panel

open FourVrs.Core Config

inductive PanelView where
  | startup | home | help | menu | status | ports | portDetail | configPorts | configFields | editField
  | applyConfirm | applyResult | diagnostics | startupEvents | system | timeEdit | timeConfirm | timeResult
  | ntpSettings | ntpEdit | ntpConfirm | ntpResult | shutdownConfirm | stopping | stopFailed | stopped | about
  | network | networkEdit | networkConfirm | networkResult | display | backlight
  | web | webRecover | webCode | webUrl | webCert
  deriving DecidableEq, Repr, Inhabited

inductive PanelKey where
  | f1 | f2 | f3 | f4 | f5
  deriving DecidableEq, Repr, Inhabited

/-- The keypad's code of a key; others are no key. -/
def panelKey : Nat → Option PanelKey
  | 0 => some .f1
  | 1 => some .f2
  | 2 => some .f3
  | 3 => some .f4
  | 4 => some .f5
  | _ => none

def fieldCount : Nat := 13
def menuVisible : Nat := 5

structure GatewayPanel where
  view : PanelView := .startup
  selected : Nat := 0
  scroll : Nat := 0
  portIndex : Nat := 0
  detailPage : Nat := 0
  helpPage : Nat := 0
  systemPage : Nat := 0
  fieldIndex : Nat := 0
  editOctet : Nat := 0
  startupEventPage : Nat := 0
  timeField : Nat := 0
  ntpField : Nat := 0
  ntpCursor : Nat := 0
  networkPage : Nat := 0
  lan2Cursor : Nat := 0
  backlightChoice : Bool := false
  shutdownError : Nat := 0
  localValidationFailed : Nat := 0
  webPending : Bool := false
  webSaveFailed : Bool := false
  webRemote : Bool := false
  webPromptReady : Bool := false
  webReturn : PanelView := .startup
  «repeat» : KeyRepeat := {}
  repeatArmed : Bool := false
  repeatCount : Nat := 0
  /-- There is a `key_state` to sample. -/
  hasKeyState : Bool := false
  keypadAvailable : Bool := false
  displayAvailable : Bool := false
  deriving DecidableEq, Repr, Inhabited

/-- What a step reads. -/
structure PanelWorld where
  uptime : CoreTick
  /-- The state is terminal, or a fatal error was seen. -/
  startupOver : Bool
  stopRequested : Bool
  finished : Bool
  /-- `coordinator.selected`. -/
  selected : GatewayPersistentConfig
  /-- Of each port: the value of its lifecycle, and whether it has an error. -/
  lifecycle : Nat → Nat
  lastError : Nat → Bool
  /-- `gateway_coordinator_event_count`. -/
  startupEvents : Nat
  revisionStale : Bool
  requestRefused : Bool
  /-- After a request. -/
  acceptedToken : Bool
  /-- Of the transaction the panel waits for. -/
  transactionOurs : Bool
  transactionRunning : Bool
  transactionGood : Bool
  transactionDoubtful : Bool
  networkApplying : Bool
  networkAvailable : Bool
  networkBusy : Bool
  networkApplyRefused : Bool
  backlightRefused : Bool
  timeRead : Bool
  /-- Of the drafts; the configuration's is its first error. -/
  timeValid : Bool
  ntpValid : Bool
  networkValid : Bool
  configurationError : Nat
  recoveryPrompt : Nat
  showCode : Bool
  /-- `web.local`, if it is set: whether it returns 0. -/
  webLocal : Option (Nat → Bool)
  /-- After it was called. -/
  codeShown : Bool
  /-- The queue of the keypad was emptied, before a prompt and after it was drawn. -/
  promptDrained : Bool
  drawDrained : Bool
  event : Int
  raw : Nat
  /-- The keys that are down, where that is known. -/
  sample : Option Nat
  /-- The screen has changed. -/
  dirty : Bool
  drawFails : Bool

def startupEventCapacity : Nat := 16

variable (w : PanelWorld) (p : GatewayPanel)

/-- `gateway_diagnostics_capture` copies what fits. -/
def PanelWorld.startupEventCount : Nat := min w.startupEvents startupEventCapacity

/-- What a key makes the application do, of what the lists lead to. -/
inductive PanelRequest where
  | webLocal (action : Nat)
  | configuration (config : GatewayPersistentConfig)
  deriving DecidableEq

abbrev Pressed := GatewayPanel × List PanelRequest

def gatewayPanelStopResult (error : Nat) : GatewayPanel :=
  { p with
    shutdownError := error, view := if error ≠ 0 then .stopFailed else .stopped
    «repeat» := keyRepeatInit, repeatArmed := false }

/-! ## `web_key` -/

def PanelView.isWeb (view : PanelView) : Bool :=
  decide (view = .web ∨ view = .webCode ∨ view = .webRecover ∨ view = .webUrl ∨ view = .webCert)

inductive WebItem where
  | enabled | interface | newCode | recover | protocol
  deriving DecidableEq, Repr, Inhabited

/-- What the row number stands for in `web_key`. -/
def webItem : Nat → WebItem
  | 0 => .enabled
  | 1 => .interface
  | 2 => .newCode
  | 3 => .recover
  | _ => .protocol

def PanelWorld.callLocal (action : Nat) : Bool × List PanelRequest :=
  match w.webLocal with
  | none => (false, [])
  | some answers => (answers action, [.webLocal action])

/-- The C operator `!`. -/
def toggled (n : Nat) : Nat := if n = 0 then 1 else 0

def webSetting (config : GatewayPersistentConfig) (item : WebItem) : GatewayPersistentConfig :=
  let settings := config.settings
  { config with
    schemaVersion := 3
    settings := match item with
      | .enabled => { settings with webEnabled := toggled settings.webEnabled }
      | .interface => { settings with webInterface := (settings.webInterface + 1) % 3 }
      | _ => { settings with webProtocol := toggled settings.webProtocol } }

/-- The request was made, or there was no need to. -/
def webSaved (c : GatewayPersistentConfig) (item : WebItem) : Pressed :=
  let p := { p with webSaveFailed := false, webPending := w.acceptedToken || p.webPending }
  if item = .enabled ∧ c.settings.webEnabled ≠ 0 then
    let (done, requests) := w.callLocal 1
    (if done && w.codeShown then { p with view := .webCode } else p, .configuration c :: requests)
  else (p, [.configuration c])

def webSave (item : WebItem) : Pressed :=
  let c := webSetting w.selected item
  if w.revisionStale then ({ p with localValidationFailed := 1 }, [])
  else
    let p := { p with localValidationFailed := 0 }
    if w.requestRefused then ({ p with webSaveFailed := true }, [.configuration c]) else webSaved w p c item

/-- F3 on an item of the Web page. -/
def webItemKey : WebItem → Pressed
  | .recover => ({ p with view := .webRecover }, [])
  | .newCode =>
      if w.selected.settings.webEnabled ≠ 0 then
        let (done, requests) := w.callLocal 1
        (if done then { p with view := .webCode } else p, requests)
      else (p, [])
  | item => if p.webPending then (p, []) else webSave w p item

def webPageKey : PanelKey → Pressed
  | .f1 => (p, [])
  | .f2 => ({ p with selected := (p.selected + 4) % 5 }, [])
  | .f3 => webItemKey w p (webItem p.selected)
  | .f4 => ({ p with selected := (p.selected + 1) % 5 }, [])
  | .f5 => ({ p with view := .webUrl }, [])

/-- F1 where no remote prompt is shown. -/
def webBack : Pressed :=
  ({ p with view := if p.view = .web then .system else .web },
    if p.view = .webCode && w.codeShown then (w.callLocal 0).2 else [])

def webRecoverKey (k : PanelKey) : Pressed :=
  if k = .f3 then
    let (done, requests) := w.callLocal 2
    (if done then { p with view := .webCode, webRemote := false } else p, requests)
  else (p, [])

/-- `none` where the key is left to the next function. -/
def webKey (k : PanelKey) : Option Pressed :=
  if !p.view.isWeb then none
  else if p.view = .webUrl ∧ k = .f5 ∧ w.selected.settings.webProtocol ≠ 0 then
    some ({ p with view := .webCert }, [])
  else if p.webRemote && !p.webPromptReady then some (p, [])
  else if p.webRemote ∧ k = .f1 then
    some ({ p with view := p.webReturn, webRemote := false }, (w.callLocal 0).2)
  else if k = .f1 then some (webBack w p)
  else if p.view = .webRecover then some (webRecoverKey w p k)
  else if p.view ≠ .web then some (p, [])
  else some (webPageKey w p k)

/-! ## `network_key` -/

/-- Of the plan it is left out which octet F2 and F4 change. -/
def networkEditKey : PanelKey → GatewayPanel
  | .f1 => { p with view := .network }
  | .f3 => { p with lan2Cursor := (p.lan2Cursor + 1) % (if p.networkPage = 2 then 5 else 9) }
  | .f2 | .f4 => p
  | .f5 =>
      if w.networkValid then { p with localValidationFailed := 0, view := .networkConfirm }
      else { p with localValidationFailed := 1, view := .networkResult }

def networkPageKey : PanelKey → GatewayPanel
  | .f1 => { p with view := .configPorts }
  | .f2 => { p with networkPage := (p.networkPage + 5) % 6 }
  | .f3 => p
  | .f4 => { p with networkPage := (p.networkPage + 1) % 6 }
  | .f5 =>
      if p.networkPage < 4 ∧ w.networkAvailable ∧ !w.networkBusy then
        { p with lan2Cursor := 0, view := .networkEdit }
      else p

def networkConfirmKey : PanelKey → GatewayPanel
  | .f1 => { p with view := .networkEdit }
  | .f3 =>
      { p with
        localValidationFailed := if w.revisionStale || w.networkApplyRefused then 1 else 0
        view := .networkResult }
  | _ => p

def networkKey (k : PanelKey) : Option GatewayPanel :=
  match p.view with
  | .configPorts => if k = .f5 then some { p with networkPage := 0, view := .network } else none
  | .network => some (networkPageKey w p k)
  | .networkEdit => some (networkEditKey w p k)
  | .networkConfirm => some (networkConfirmKey w p k)
  | .networkResult => some (if k = .f1 ∧ !w.networkBusy then { p with view := .network } else p)
  | _ => none

/-! ## `special_key` -/

/-- `load_candidate`. -/
def loadCandidate : GatewayPanel := { p with localValidationFailed := 0 }

def ntpSettingsKey : PanelKey → GatewayPanel
  | .f1 => { p with systemPage := 1, view := .system }
  | .f5 => { loadCandidate p with ntpField := 0, ntpCursor := 0, view := .ntpEdit }
  | _ => p

/-- The last character stays free for the terminator. -/
def ntpNext : GatewayPanel :=
  if p.ntpField = 2 then { p with ntpField := 0 }
  else if p.ntpField = 0 then { p with ntpField := 1 }
  else if p.ntpCursor + 1 < gatewayNtpServerMax - 1 then { p with ntpCursor := p.ntpCursor + 1 }
  else p

def ntpEditKey : PanelKey → GatewayPanel
  | .f1 => { p with view := .ntpSettings }
  | .f2 | .f4 => p
  | .f3 => ntpNext p
  | .f5 =>
      if p.ntpField ≠ 2 then { p with ntpField := 2 }
      else if w.ntpValid then { p with localValidationFailed := 0, view := .ntpConfirm }
      else { p with localValidationFailed := 1, view := .ntpResult }

def ntpConfirmKey : PanelKey → GatewayPanel
  | .f1 => { p with view := .ntpEdit }
  | .f3 =>
      { p with
        localValidationFailed := if w.revisionStale then 1 else p.localValidationFailed, view := .ntpResult }
  | _ => p

def ntpKey (k : PanelKey) : Option GatewayPanel :=
  match p.view with
  | .ntpSettings => some (ntpSettingsKey p k)
  | .ntpEdit => some (ntpEditKey w p k)
  | .ntpConfirm => some (ntpConfirmKey w p k)
  | .ntpResult => some (if k = .f1 then { p with view := .ntpSettings } else p)
  | _ => none

def displayKey : PanelKey → GatewayPanel
  | .f1 => { p with view := .system }
  | .f3 =>
      { p with
        backlightChoice := decide (w.selected.settings.backlightOn = 0), localValidationFailed := 0
        view := .backlight }
  | _ => p

def backlightKey : PanelKey → GatewayPanel
  | .f1 => { p with view := .display }
  | .f2 | .f4 => { p with backlightChoice := !p.backlightChoice }
  | .f3 => { p with localValidationFailed := if w.revisionStale || w.backlightRefused then 1 else 0 }
  | .f5 => p

/-- What is left of the view is with `key`. -/
def systemKey : PanelKey → Option GatewayPanel
  | .f1 => some { p with view := .menu }
  | .f2 => some { p with systemPage := if p.systemPage ≠ 0 then p.systemPage - 1 else 3 }
  | .f3 =>
      if p.systemPage = 3 then some { p with view := .web, selected := 0 }
      else if p.systemPage = 2 then some { p with view := .display }
      else none
  | .f4 => some { p with systemPage := (p.systemPage + 1) % 4 }
  | .f5 => if p.systemPage = 1 then some { p with view := .ntpSettings } else none

def specialKey (k : PanelKey) : Option GatewayPanel :=
  match p.view with
  | .display => some (displayKey w p k)
  | .backlight => some (backlightKey w p k)
  | .system => systemKey p k
  | _ => ntpKey w p k

/-! ## `key` -/

inductive MenuItem where
  | status | ports | configuration | diagnostics | system | shutdown | about
  deriving DecidableEq, Repr, Inhabited

/-- What the row number stands for in `select_menu`. -/
def menuItem : Nat → MenuItem
  | 0 => .status
  | 1 => .ports
  | 2 => .configuration
  | 3 => .diagnostics
  | 4 => .system
  | 5 => .shutdown
  | _ => .about

def openMenuItem : MenuItem → GatewayPanel
  | .status => { p with view := .status }
  | .ports => { p with view := .ports, selected := 0, scroll := 0 }
  | .configuration => loadCandidate { p with view := .configPorts, selected := 0, scroll := 0 }
  | .diagnostics => { p with view := .diagnostics }
  | .system => { p with systemPage := 0, view := .system }
  | .shutdown => { p with view := .shutdownConfirm }
  | .about => { p with view := .about }

def selectMenu : GatewayPanel := openMenuItem p (menuItem p.selected)

def homeKey : PanelKey → GatewayPanel
  | .f1 => { p with view := .help, helpPage := 0 }
  | .f3 => { p with view := .menu, selected := 0, scroll := 0 }
  | _ => p

def helpKey : PanelKey → GatewayPanel
  | .f1 => { p with view := .home }
  | .f2 => { p with helpPage := 0 }
  | .f4 => { p with helpPage := 1 }
  | _ => p

def systemTimeKey : PanelKey → GatewayPanel
  | .f1 => { p with view := .menu }
  | .f2 => { p with systemPage := 0 }
  | .f3 => p
  | .f4 => { p with systemPage := 1 }
  | .f5 => if p.systemPage = 0 ∧ w.timeRead then { p with timeField := 0, view := .timeEdit } else p

def timeEditKey : PanelKey → GatewayPanel
  | .f1 => { p with view := .system }
  | .f3 =>
      if p.timeField < 5 then { p with timeField := p.timeField + 1 }
      else { p with view := if w.timeValid then .timeConfirm else .timeResult }
  | _ => p

def timeConfirmKey : PanelKey → GatewayPanel
  | .f1 => { p with view := .timeEdit }
  | .f3 => { p with view := .timeResult }
  | _ => p

def menuKey : PanelKey → GatewayPanel
  | .f1 => { p with view := .home }
  | .f2 => { p with selected := if p.selected ≠ 0 then p.selected - 1 else 6 }
  | .f3 => selectMenu p
  | .f4 => { p with selected := (p.selected + 1) % 7 }
  | .f5 => p

/-- F1 in the views that have no key of their own for it. -/
def backKey : GatewayPanel :=
  { p with
    view := match p.view with
      | .editField => .configFields
      | .portDetail => .ports
      | .configFields => .configPorts
      | .applyConfirm => .configFields
      | .startupEvents => .diagnostics
      | _ => .menu }

/-- A port from the list. -/
def openPort (port : Nat) : GatewayPanel := { p with portIndex := port, detailPage := 0, view := .portDetail }

def openConfig (port : Nat) :
    GatewayPanel := { p with portIndex := port, fieldIndex := 0, view := .configFields }

def portsKey : PanelKey → GatewayPanel
  | .f2 => { p with selected := if p.selected ≠ 0 then p.selected - 1 else 7 }
  | .f3 => openPort p p.selected
  | .f4 => { p with selected := (p.selected + 1) % 8 }
  | _ => p

def portDetailKey : PanelKey → GatewayPanel
  | .f2 => { p with detailPage := if p.detailPage ≠ 0 then p.detailPage - 1 else 3 }
  | .f4 => { p with detailPage := (p.detailPage + 1) % 4 }
  | _ => p

def configPortsKey : PanelKey → GatewayPanel
  | .f2 => { p with selected := if p.selected ≠ 0 then p.selected - 1 else 7 }
  | .f3 => openConfig p p.selected
  | .f4 => { p with selected := (p.selected + 1) % 8 }
  | _ => p

def configFieldsKey : PanelKey → GatewayPanel
  | .f1 => p
  | .f2 => { p with fieldIndex := if p.fieldIndex ≠ 0 then p.fieldIndex - 1 else fieldCount - 1 }
  | .f3 =>
      if p.fieldIndex = 11 then
        if w.configurationError ≠ 0 then
          { p with localValidationFailed := w.configurationError, view := .applyResult }
        else { p with localValidationFailed := 0, view := .applyConfirm }
      else if p.fieldIndex = 12 then { loadCandidate p with view := .configPorts }
      else p
  | .f4 => { p with fieldIndex := (p.fieldIndex + 1) % fieldCount }
  | .f5 => if p.fieldIndex < 11 ∧ p.fieldIndex ≠ 1 then { p with editOctet := 0, view := .editField } else p

def editFieldKey : PanelKey → GatewayPanel
  | .f3 => { p with view := .configFields }
  | .f5 => if p.fieldIndex = 9 then { p with editOctet := (p.editOctet + 1) % 4 } else p
  | _ => p

def startupEventsKey : PanelKey → GatewayPanel
  | .f2 =>
      { p with
        startupEventPage := if p.startupEventPage ≠ 0 then p.startupEventPage - 1 else w.startupEventCount - 1 }
  | .f4 =>
      if w.startupEventCount ≠ 0 then
        { p with startupEventPage := (p.startupEventPage + 1) % w.startupEventCount }
      else p
  | _ => p

def shutdownConfirmKey (k : PanelKey) : GatewayPanel :=
  if k = .f3 then
    if w.revisionStale then gatewayPanelStopResult p 1 else { p with shutdownError := 0, view := .stopping }
  else p

/-- The views F1 leaves by `backKey`. -/
def viewKey (k : PanelKey) : GatewayPanel :=
  match p.view with
  | .ports => portsKey p k
  | .portDetail => portDetailKey p k
  | .configPorts => configPortsKey p k
  | .configFields => configFieldsKey w p k
  | .editField => editFieldKey p k
  | .applyConfirm =>
      if k = .f3 then
        { p with
          localValidationFailed := if w.revisionStale then 1 else p.localValidationFailed, view := .applyResult }
      else p
  | .diagnostics => if k = .f3 then { p with startupEventPage := 0, view := .startupEvents } else p
  | .startupEvents => startupEventsKey w p k
  | .shutdownConfirm => shutdownConfirmKey w p k
  | _ => p

/-- A finished application has no configuration, system or shutdown page. -/
def refusedItem (k : PanelKey) : Bool :=
  w.finished && decide (p.shutdownError ≠ 0 ∧ p.view = .menu ∧ k = .f3 ∧
    (p.selected = 2 ∨ p.selected = 4 ∨ p.selected = 5))

def key (k : PanelKey) : GatewayPanel :=
  match p.view with
  | .stopFailed => if k = .f1 then { p with view := .menu, selected := 0 } else p
  | .stopping | .stopped | .startup => p
  | .home => homeKey p k
  | .help => helpKey p k
  | .system => systemTimeKey w p k
  | .timeEdit => timeEditKey w p k
  | .timeConfirm => timeConfirmKey p k
  | .timeResult => if k = .f1 then { p with systemPage := 0, view := .system } else p
  | .menu => if refusedItem w p k then { p with view := .stopFailed } else menuKey p k
  | _ => if k = .f1 then backKey p else viewKey w p k

/-- After a request to stop only `key` gets a key. -/
def pressKey (k : PanelKey) : Pressed :=
  if w.stopRequested then (key w p k, [])
  else
    match webKey w p k with
    | some pressed => pressed
    | none => (((networkKey w p k).orElse fun _ => specialKey w p k).getD (key w p k), [])

/-- A report may stand for several steps; the first that changes the view is the last. -/
def pressRepeated (w : PanelWorld) (k : PanelKey) : Nat → GatewayPanel → Pressed
  | 0, p => (p, [])
  | count + 1, p =>
      let pressed := pressKey w p k
      if pressed.1.view ≠ p.view then pressed
      else
        let rest := pressRepeated w k count pressed.1
        (rest.1, pressed.2 ++ rest.2)

/-! ## The prompts -/

/-- `web_transaction_result`. -/
def webTransactionResult : GatewayPanel :=
  if !p.webPending then p
  else if !p.view.isWeb then { p with webPending := false }
  else if !w.transactionOurs then { p with webPending := false, localValidationFailed := 1 }
  else if w.transactionRunning then p
  else
    { p with
      webPending := false, webSaveFailed := !w.transactionGood
      localValidationFailed := if w.transactionDoubtful then 1 else p.localValidationFailed }

/-- A prompt may come up in four views, while nothing is being changed. -/
def promptSafe : Bool :=
  decide (p.view = .home ∨ p.view = .menu ∨ p.view = .system ∨ p.view = .web) && p.keypadAvailable &&
    p.displayAvailable && !w.networkApplying && !w.transactionRunning

/-- A remote prompt that is over. -/
def endPrompt : GatewayPanel :=
  if p.webRemote ∧ w.recoveryPrompt = 0 then { p with view := p.webReturn, webRemote := false } else p

def webPrompt : GatewayPanel :=
  let safe := promptSafe w p
  let p := endPrompt w p
  if w.recoveryPrompt = 1 ∧ (!safe ∨ !w.promptDrained) then p
  else
    let p :=
      if w.recoveryPrompt = 1 then
        { p with webReturn := p.view, view := .webRecover, webRemote := true, webPromptReady := false }
      else p
    if w.showCode && safe then { p with view := .webCode } else p

/-- The panel as the keypad finds it. -/
def panelReady : GatewayPanel :=
  let p := if p.view = .startup ∧ w.startupOver then { p with view := .home } else p
  if w.stopRequested then p else webPrompt w (webTransactionResult w p)

/-! ## The keypad -/

/-- The value of the enumerator. -/
def PanelView.number (view : PanelView) : Nat := view.ctorIdx

def repeatField : BitVec 32 :=
  match p.view with
  | .editField => BitVec.ofNat 32 p.fieldIndex <<< 8 ||| BitVec.ofNat 32 p.editOctet
  | .timeEdit => BitVec.ofNat 32 p.timeField
  | .ntpEdit => BitVec.ofNat 32 p.ntpField <<< 8 ||| BitVec.ofNat 32 p.ntpCursor
  | .networkEdit => BitVec.ofNat 32 p.networkPage <<< 8 ||| BitVec.ofNat 32 p.lan2Cursor
  | _ => 0

def repeatContext : BitVec 32 := BitVec.ofNat 32 p.view.number <<< 24 ||| repeatField p

def repeatAllowed : Bool :=
  match p.view with
  | .help | .system | .menu | .ports | .portDetail | .configPorts | .configFields | .editField | .startupEvents
  | .timeEdit | .ntpEdit | .network | .networkEdit | .web | .backlight => true
  | _ => false

def repeatNumeric : Bool :=
  match p.view with
  | .editField => decide (p.fieldIndex = 4 ∨ p.fieldIndex = 9 ∨ p.fieldIndex = 10)
  | .timeEdit => true
  | .ntpEdit => decide (p.ntpField = 2)
  | .networkEdit => if p.networkPage = 2 then decide (0 < p.lan2Cursor) else decide (p.lan2Cursor < 8)
  | _ => false

/-- Bit 1 is F2 and bit 3 is F4; any other key counts as both. -/
def heldKeys (mask : Nat) : Nat :=
  if mask &&& (0xffffffff ^^^ 10) ≠ 0 then 3
  else (if mask &&& 2 ≠ 0 then 1 else 0) ||| (if mask &&& 8 ≠ 0 then 2 else 0)

/-- The key that was pressed is the one that is down. -/
def pressMatches (raw held : Nat) : Bool := decide (raw = 1 ∧ held = 1 ∨ raw = 3 ∧ held = 2)

/-- What the keypad reports: whether there is a key, its code, and the panel. -/
structure PanelPoll where
  event : Int
  raw : Nat
  panel : GatewayPanel

/-- The sample is known. -/
def pollSampled (held : Nat) : PanelPoll :=
  let stepped := keyRepeatScaled p.repeat w.uptime held (repeatContext p) (repeatAllowed p) (repeatNumeric p)
  let armed := p.repeatArmed && !(decide (held = 0 ∨ held ≠ p.repeat.mask) || stepped.2.blocked)
  if 0 < w.event then
    let arms := !stepped.2.blocked && repeatAllowed p && pressMatches w.raw held
    { event := w.event, raw := w.raw, panel := { p with «repeat» := stepped.2, repeatArmed := armed || arms } }
  else if stepped.1 ≠ 0 ∧ armed then
    { event := 1, raw := if held = 1 then 1 else 3
      panel := { p with «repeat» := stepped.2, repeatArmed := armed, repeatCount := stepped.1.natAbs } }
  else { event := 0, raw := w.raw, panel := { p with «repeat» := stepped.2, repeatArmed := armed } }

def panelPoll : PanelPoll :=
  let p := { p with repeatCount := 1 }
  if w.event < 0 ∨ !p.hasKeyState then { event := w.event, raw := w.raw, panel := p }
  else
    match w.sample with
    | none =>
        { event := w.event, raw := w.raw, panel := { p with «repeat» := keyRepeatInit, repeatArmed := false } }
    | some mask => pollSampled w p (heldKeys mask)

/-- A keypad that fails is closed for good. -/
def panelKeys : Pressed :=
  if p.keypadAvailable then
    let poll := panelPoll w p
    if poll.event < 0 then ({ poll.panel with keypadAvailable := false }, [])
    else if 0 < poll.event then
      match panelKey poll.raw with
      | some k => pressRepeated w k poll.panel.repeatCount poll.panel
      | none => (poll.panel, [])
    else (poll.panel, [])
  else (p, [])

/-! ## `gateway_panel_step` -/

/-- A list shows the part the selection is in. -/
def scrolled (selected scroll : Nat) : Nat :=
  let scroll := if selected < scroll then selected else scroll
  if scroll + menuVisible ≤ selected then selected - menuVisible + 1 else scroll

/-- What `make_screen` does to the panel. -/
def makeScreen : GatewayPanel :=
  match p.view with
  | .ports | .configPorts => { p with scroll := scrolled p.selected p.scroll }
  | _ => p

def stoppingView : GatewayPanel :=
  if w.stopRequested ∧ p.shutdownError = 0 ∧ p.view ≠ .stopped then { p with view := .stopping } else p

/-- A remote prompt is ready once it was drawn and the queue was emptied after that. -/
def drawScreen : GatewayPanel :=
  if !w.dirty ∨ !p.displayAvailable then p
  else if w.drawFails then { p with displayAvailable := false }
  else if p.webRemote ∧ !p.webPromptReady ∧ w.drawDrained then { p with webPromptReady := true }
  else p

def gatewayPanelStep : Pressed :=
  let pressed := panelKeys w (panelReady w p)
  (drawScreen w (makeScreen (stoppingView w pressed.1)), pressed.2)

/-- `display_open` and `keypad_open` may fail. -/
def gatewayPanelInit (display keypad hasKeyState : Bool) : GatewayPanel :=
  { displayAvailable := display, keypadAvailable := keypad, hasKeyState }

end FourVrs.Panel
