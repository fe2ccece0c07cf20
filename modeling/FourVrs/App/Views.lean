import FourVrs.App.ApplicationFrames

/-!
# A view of the world

Most of what the application is given to work with has nothing to do with the helper that
sets the clock. `Quiet` says so of a view of the world: only the functions of the helper
and the setting of the clock may change what is seen. Whatever a function of the
application does with the others, it leaves the view as it is.
-/

set_option autoImplicit false

namespace FourVrs.App

open FourVrs.Core Config Gateway Network

variable {ω σ κ β : Type} {device : σ → σ → Prop}

/-- No system call of the network changes the view. -/
structure QuietNetwork (sys : NetworkSystem ω) (view : ω → β) : Prop where
  clock : ∀ w, view (sys.clock w).2 = view w
  readObserver : ∀ w, view (sys.readObserver w).2 = view w
  reapObserver : ∀ w, view (sys.reapObserver w).2 = view w
  killObserver : ∀ w, view (sys.killObserver w) = view w
  startObserver : ∀ r w, view (sys.startObserver r w).2 = view w
  recvStatus : ∀ w, view (sys.recvStatus w).2 = view w
  reapSupervisor : ∀ w, view (sys.reapSupervisor w).2 = view w
  startSupervisor : ∀ s w, view (sys.startSupervisor s w).2 = view w
  send : ∀ c w, view (sys.send c w).2 = view w

/-- Only the helper and the setting of the clock change the view. -/
structure Quiet (deps : GatewayApplicationDependencies ω σ κ device) (view : ω → β) : Prop where
  clock : ∀ w, view (deps.clock w).2 = view w
  stopSignal : ∀ w, view (deps.stopSignal w).2 = view w
  selectConfiguration : ∀ w, view (deps.selectConfiguration w).2 = view w
  provideBindings : ∀ ports w, view (deps.provideBindings ports w).2 = view w
  attachBindings : ∀ f ∈ deps.attachBindings, ∀ w, view (f w).2 = view w
  stageConfiguration : ∀ config w, view (deps.stageConfiguration config w).2 = view w
  promoteConfiguration : ∀ w, view (deps.promoteConfiguration w).2 = view w
  discardConfiguration : ∀ w, view (deps.discardConfiguration w) = view w
  backlightSet : ∀ f ∈ deps.backlightSet, ∀ on w, view (f on w).2 = view w
  systemTimeGet : ∀ w, view (deps.systemTimeGet w).2 = view w
  rtcProbe : ∀ f ∈ deps.rtcProbe, ∀ w, view (f w).2 = view w
  rtcSave : ∀ f ∈ deps.rtcSave, ∀ w, view (f w).2 = view w
  network : QuietNetwork deps.network view

/-! ## The network's runtime -/

section Runtime

variable {sys : NetworkSystem ω} {view : ω → β} (h : QuietNetwork sys view)

include h

variable (r : NetworkRuntime)

theorem quiet_networkRuntimeCommand (command : Char) (w : ω) :
    view (networkRuntimeCommand sys r command w).2 = view w := by
  have hsend := h.send command w
  unfold networkRuntimeCommand
  split
  · generalize sys.send command w = sent at hsend
    obtain ⟨ok, w'⟩ := sent
    cases ok <;> exact hsend
  · rfl

theorem quiet_networkRuntimeStop (w : ω) :
    view (networkRuntimeStop sys r w).2 = view w := by
  have hkill : view (if r.observerPid then sys.killObserver w else w) = view w := by
    split
    · exact h.killObserver w
    · rfl
  unfold networkRuntimeStop
  simp only []
  split
  · exact hkill
  · have hsent := quiet_networkRuntimeCommand h r 'D' (if r.observerPid then sys.killObserver w else w)
    split
    · rename_i heq
      rw [heq] at hsent
      exact hsent.trans hkill
    · rename_i heq
      rw [heq] at hsent
      exact hsent.trans hkill

theorem quiet_readObserver (w : ω) : view (readObserver sys r w).2 = view w := by
  have hread := h.readObserver w
  unfold readObserver
  split
  · rfl
  · generalize sys.readObserver w = seen at hread
    obtain ⟨frame, w'⟩ := seen
    cases frame <;> exact hread

theorem quiet_watchObserver (now : CoreTick) (w : ω) :
    view (watchObserver sys r now w).2 = view w := by
  have hreap := h.reapObserver w
  unfold watchObserver
  generalize sys.reapObserver w = ended at hreap
  obtain ⟨result, w'⟩ := ended
  cases result with
  | running =>
    simp only []
    split
    · exact (h.killObserver w').trans hreap
    · exact hreap
  | exited ok =>
    cases ok with
    | true => exact (quiet_readObserver h r w').trans hreap
    | false => exact hreap

theorem quiet_startObserver (now : CoreTick) (w : ω) :
    view (startObserver sys r now w).2 = view w := by
  have hstart := h.startObserver r w
  unfold startObserver
  generalize sys.startObserver r w = started at hstart
  obtain ⟨result, w'⟩ := started
  cases result <;> exact hstart

theorem quiet_pollObserver (w : ω) :
    view (pollObserver sys r w).2 = view w := by
  have hclock := h.clock w
  unfold pollObserver
  split
  · simp only []
    split
    · exact ((quiet_watchObserver h _ _ _).trans (quiet_readObserver h r _)).trans hclock
    · split
      · exact hclock
      · exact (quiet_startObserver h r _ _).trans hclock
  · rfl

theorem quiet_pollRecovery (w : ω) :
    view (pollRecovery sys r w).2 = view w := by
  have hclock := h.clock w
  unfold pollRecovery
  split
  · simp only []
    split <;> exact hclock
  · rfl

theorem quiet_takeStatus (s : SupervisorStatus) (w : ω) :
    view (takeStatus sys r s w).2 = view w := by
  have hclock := h.clock w
  unfold takeStatus
  simp only []
  split
  · split
    · exact hclock
    · rfl
  · rfl

theorem quiet_supervisorGone (w : ω) :
    view (supervisorGone sys r w).2 = view w := by
  have hclock := h.clock w
  unfold supervisorGone
  simp only []
  split
  · rfl
  · split
    · exact hclock
    · rfl

theorem quiet_pollSupervisor (w : ω) :
    view (pollSupervisor sys r w).2 = view w := by
  have hrecv : view (if r.fd then sys.recvStatus w else (.none, w)).2 = view w := by
    split
    · exact h.recvStatus w
    · rfl
  unfold pollSupervisor
  split
  · generalize (if r.fd then sys.recvStatus w else (.none, w)) = received at hrecv
    obtain ⟨frame, w'⟩ := received
    cases frame with
    | frame s => exact (quiet_takeStatus h r s w').trans hrecv
    | fragment => exact hrecv
    | none =>
      have hreap := h.reapSupervisor w'
      simp only []
      generalize sys.reapSupervisor w' = reaped at hreap
      obtain ⟨gone, w''⟩ := reaped
      cases gone with
      | true => exact ((quiet_supervisorGone h r w'').trans hreap).trans hrecv
      | false => exact hreap.trans hrecv
  · rfl

theorem quiet_networkRuntimePoll (w : ω) :
    view (networkRuntimePoll sys r w).2 = view w := by
  unfold networkRuntimePoll
  exact ((quiet_pollSupervisor h _ _).trans (quiet_pollRecovery h _ _)).trans (quiet_pollObserver h r w)

end Runtime

/-! ## The application -/

section Application

variable {deps : GatewayApplicationDependencies ω σ κ device} {view : ω → β} (h : Quiet deps view)

include h

variable (a : GatewayApplication ω σ κ device)

theorem quiet_deliverSignal :
    view (deliverSignal deps a).world = view a.world :=
  h.stopSignal a.world

theorem quiet_revert :
    view (gatewayApplicationNetworkRevert deps a).2.world = view a.world :=
  quiet_networkRuntimeCommand h.network a.network 'R' a.world

theorem quiet_guardConfirm :
    view (guardConfirm deps a).world = view a.world := by
  have hfold : ∀ ports : List (Fin gatewayPortCount), ∀ a : GatewayApplication ω σ κ device,
      view (ports.foldl (fun a _ => (gatewayApplicationNetworkRevert deps a).2) a).world = view a.world := by
    intro ports
    induction ports with
    | nil => intro a; rfl
    | cons _ ports ih => intro a; exact (ih _).trans (quiet_revert h a)
  unfold guardConfirm
  split
  · exact hfold _ a
  · rfl

theorem quiet_finishBindings :
    view (finishBindings deps a).world = view a.world := by
  have hsent := quiet_networkRuntimeCommand h.network a.network 'B' a.world
  unfold finishBindings
  simp only []
  split
  · exact quiet_revert h a
  split
  · rfl
  · generalize networkRuntimeCommand deps.network a.network 'B' a.world = sent at hsent
    obtain ⟨r, w⟩ := sent
    split <;> (rename_i heq; cases heq; exact hsent)

theorem quiet_bindToAddress (index : Fin gatewayPortCount) (address : CText) (now : CoreTick) :
    view (bindToAddress deps a index address now).world = view a.world := by
  unfold bindToAddress
  simp only []
  split
  · rfl
  split
  · split
    · rfl
    · exact quiet_revert h _
  · split
    · exact quiet_revert h _
    · rfl

variable (now : CoreTick)

theorem quiet_stepBindings :
    view (stepBindings deps a now).world = view a.world := by
  unfold stepBindings
  simp only []
  split
  · rfl
  split
  · split
    · rfl
    split
    · unfold bindWithoutAddress
      split
      · split <;> rfl
      · rfl
    · exact quiet_bindToAddress h a _ _ now
  · exact quiet_finishBindings h a

theorem quiet_networkFollow :
    view (networkFollow deps a now).world = view a.world := by
  have hleases : (followLeases (deliverSignal deps a) now).world = (deliverSignal deps a).world := by
    unfold followLeases
    split
    · unfold dynamicBindings dynamicRebind
      simp only []
      repeat' split
      all_goals rfl
    · rfl
  have hkeep : ∀ a : GatewayApplication ω σ κ device, (keepBindings a).world = a.world := by
    intro a
    unfold keepBindings
    simp only []
    split <;> rfl
  rw [networkFollow_eq]
  split
  · exact quiet_deliverSignal h a
  · rw [quiet_stepBindings h, quiet_guardConfirm h, hkeep, hleases]
    exact quiet_deliverSignal h a

theorem quiet_networkPoll :
    view (networkPoll deps a).world = view a.world := by
  unfold networkPoll
  simp only []
  refine (quiet_networkRuntimePoll h.network _ _).trans ?_
  split
  · exact quiet_networkRuntimeStop h.network a.network a.world
  · rfl

theorem quiet_gatewayApplicationNetworkStep :
    view (gatewayApplicationNetworkStep deps a now).world = view a.world := by
  have hrecord : ∀ a : GatewayApplication ω σ κ device, (recordNetworkState a).world = a.world := by
    intro a
    unfold recordNetworkState gatewayApplicationRevisionAdvance
    split
    · split <;> rfl
    · rfl
  unfold gatewayApplicationNetworkStep
  rw [quiet_networkFollow h, hrecord]
  exact quiet_networkPoll h a

theorem quiet_gatewayCoordinatorStep (stop : Bool) (c : GatewayCoordinator σ κ device) (now : CoreTick)
    (w : ω) : view (gatewayCoordinatorStep deps stop c now w).2 = view w := by
  unfold gatewayCoordinatorStep
  simp only []
  generalize (if stop then beginShutdown c now else c) = c'
  split
  · rfl
  · have hselect := h.selectConfiguration w
    unfold loadConfiguration
    split
    rename_i heq
    rw [heq] at hselect
    split <;> exact hselect
  · rfl
  · rfl
  · have hprovide := h.provideBindings c'.selected.ports w
    split
    · rename_i heq
      rw [heq] at hprovide
      exact hprovide
    · rename_i bindings w' heq
      rw [heq] at hprovide
      refine Eq.trans ?_ hprovide
      have hattach : view ((deps.attachBindings.map fun attach => attach w').getD ((0 : Int), w')).2 =
          view w' := by
        cases hdep : deps.attachBindings with
        | none => rfl
        | some attach => exact h.attachBindings attach (by simp [hdep]) w'
      unfold initializeController
      split
      · split
        · rename_i heq'
          rw [heq'] at hattach
          exact hattach
        · rename_i heq'
          rw [heq'] at hattach
          exact hattach
      · rfl
  all_goals rfl

theorem quiet_coordinatorPhase :
    view (coordinatorPhase deps a now).world = view a.world := by
  unfold coordinatorPhase
  exact (quiet_gatewayCoordinatorStep h _ _ now _).trans (quiet_deliverSignal h a)

theorem quiet_portFailed :
    view (portFailed deps a).world = view a.world := by
  unfold portFailed
  split
  · rfl
  · exact h.discardConfiguration a.world

theorem quiet_promoteStaged :
    view (promoteStaged deps a).world = view a.world := by
  have hpromote := h.promoteConfiguration a.world
  unfold promoteStaged
  simp only []
  split
  · exact hpromote
  split
  · refine Eq.trans ?_ hpromote
    have hselect := h.selectConfiguration (deps.promoteConfiguration a.world).2
    unfold reloadPromoted
    simp only []
    split
    · exact hselect
    · exact (h.discardConfiguration _).trans hselect
  · exact (h.discardConfiguration _).trans hpromote

theorem quiet_configTransactionStep :
    view (configTransactionStep deps a now).world = view a.world := by
  unfold configTransactionStep
  simp only []
  split
  · exact h.discardConfiguration a.world
  split
  · split
    · unfold switchPort
      simp only []
      split
      · split
        · rfl
        · split
          · rfl
          · exact quiet_portFailed h _
      split
      · rfl
      · split
        · rfl
        · exact quiet_portFailed h _
    · unfold switchDone
      split <;> rfl
  · split
    · exact quiet_promoteStaged h a
    · rfl

theorem quiet_backlightStep :
    view (backlightStep deps a).world = view a.world := by
  unfold backlightStep
  simp only []
  split
  · rfl
  split
  · rfl
  · cases hdep : deps.backlightSet with
    | none => rfl
    | some set => exact h.backlightSet set (by simp [hdep]) _ a.world

/-- A step up to the time. -/
theorem quiet_beforeTime :
    view (backlightStep deps (deliverSignal deps
      (configTransactionStep deps (beforeTransaction deps a) (deps.clock a.world).1))).world = view a.world := by
  rw [quiet_backlightStep h, quiet_deliverSignal h, quiet_configTransactionStep h]
  unfold beforeTransaction
  rw [quiet_gatewayApplicationNetworkStep h]
  unfold beforeNetwork
  rw [quiet_deliverSignal h, quiet_coordinatorPhase h]
  exact h.clock a.world

/-! ## The requests -/

theorem quiet_requestConfiguration (config : GatewayPersistentConfig) :
    view (gatewayApplicationRequestConfiguration deps a config).2.world = view a.world := by
  have hadvance : ∀ a : GatewayApplication ω σ κ device, (gatewayApplicationRevisionAdvance a).world = a.world := by
    intro a
    unfold gatewayApplicationRevisionAdvance
    split <;> rfl
  unfold gatewayApplicationRequestConfiguration
  simp only []
  repeat' split
  all_goals try rfl
  · simp only [acceptRequest, GatewayApplication.withTransaction]
    rw [hadvance]
    exact h.stageConfiguration _ a.world
  · exact (h.discardConfiguration _).trans (h.stageConfiguration _ a.world)

theorem quiet_networkApply (settings : NetworkSettings) :
    view (gatewayApplicationNetworkApply deps a settings).2.world = view a.world := by
  have hstart : ∀ n : NetworkRuntime,
      view (networkRuntimeStart deps.documents deps.network n settings a.world).2.2 = view a.world := by
    intro n
    have hstarted := h.network.startSupervisor settings a.world
    unfold networkRuntimeStart
    split
    · split
      · rfl
      · generalize deps.network.startSupervisor settings a.world = started at hstarted
        obtain ⟨ok, w⟩ := started
        cases ok <;> exact hstarted
    · rfl
  unfold gatewayApplicationNetworkApply
  split
  · rfl
  split
  · rfl
  · simp only []
    split
    · rfl
    · have hstarted := hstart
        { a.network with
          bindingAffinity := fun i => bindAffinity a.network.confirmed (a.coordinator.selected.ports i) i }
      split
      · rename_i heq
        rw [heq] at hstarted
        unfold gatewayApplicationRevisionAdvance
        split <;> exact hstarted
      · rename_i heq
        rw [heq] at hstarted
        exact hstarted

end Application

end FourVrs.App
