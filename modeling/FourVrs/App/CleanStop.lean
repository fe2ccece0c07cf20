import FourVrs.App.Revisions
import FourVrs.Gateway.Closing

/-!
# A clean stop

When the coordinator has stopped and says that the cleanup is complete, every runtime is
disabled and no listener is left. Its test looks at the life cycle of the ports, and a
port that stops leaves STOPPING also when its UART refuses to stop and its time is over:
that stop is called clean. Apart from that, and from ports that are enabled again while
the gateway ends, the answer is right.
-/

set_option autoImplicit false

namespace FourVrs.App

open FourVrs.Core Config Gateway Network Lib

variable {ω σ κ : Type} {device : σ → σ → Prop}

/-! ## Runs of the coordinator -/

/-- A port in the memory `gateway_coordinator_init` clears. -/
def clearedPort (objects : σ × κ) : GatewayPortController σ κ device where
  current := zeroPortConfig
  staged := zeroPortConfig
  knownGood := zeroPortConfig
  runtime :=
    { portRuntimeInit 0 default none objects.1 objects.2 [] with
      nextTransactionId := 0, recoveryDelay := 0 }
  binding := { backendOps := none, transportOps := none }
  lifecycle := .disabled
  lastError := .none
  configGeneration := 0
  listenerOwned := false
  pendingDisable := false
  listenerRebind := false
  networkWait := false
  startupFailures := 0
  listenerFailures := 0
  reconfigureFailures := 0
  rollbackFailures := 0
  stopFailures := 0
  schedulerSteps := 0

def clearedController (objects : Fin gatewayPortCount → σ × κ) : GatewayController σ κ device where
  ports := fun i => clearedPort (objects i)
  schedulerSteps := 0
  nextPort := 0

/-- What happens to the coordinator and its controller. `elapse` is the rest of the
    application between two calls: it may select another configuration and changes the
    world. -/
inductive CoordinatorCall (ω : Type) where
  | step (stop : Bool) (now : CoreTick)
  | requestShutdown (now : CoreTick)
  | reconfigure (index : Fin gatewayPortCount) (config : GatewayPortConfig) (now : CoreTick)
  | networkWait (index : Fin gatewayPortCount) (wait : Bool) (now : CoreTick)
  | elapse (selected : GatewayPersistentConfig) (source : GatewayConfigSource) (w : ω)

def CoordinatorCall.exec (deps : GatewayApplicationDependencies ω σ κ device)
    (s : GatewayCoordinator σ κ device × ω) :
    CoordinatorCall ω → GatewayCoordinator σ κ device × ω
  | .step stop now => gatewayCoordinatorStep deps stop s.1 now s.2
  | .requestShutdown now => (gatewayCoordinatorRequestShutdown s.1 now, s.2)
  | .reconfigure index config now =>
      ({ s.1 with controller := (gatewayControllerReconfigure s.1.controller index config now).2 }, s.2)
  | .networkWait index wait now =>
      ({ s.1 with controller := (gatewayControllerNetworkWait s.1.controller index wait now).2 }, s.2)
  | .elapse selected source w => ({ s.1 with selected := selected, configSource := source }, w)

def runCoordinator (deps : GatewayApplicationDependencies ω σ κ device) (calls : List (CoordinatorCall ω))
    (s : GatewayCoordinator σ κ device × ω) : GatewayCoordinator σ κ device × ω :=
  calls.foldl (CoordinatorCall.exec deps) s

/-- The coordinator a step begins with. -/
def enterStep (stop : Bool) (c : GatewayCoordinator σ κ device) (now : CoreTick) :
    GatewayCoordinator σ κ device :=
  if stop then beginShutdown c now else c

/-- The controller is not made yet, or the gateway ends. -/
def atRest (c : GatewayCoordinator σ κ device) : Bool :=
  !c.controllerInitialized || decide (c.state = .shuttingDown) || decide (c.state = .stopped)

/-- No UART gives up on its stop, and no port is enabled again at rest. -/
def KeepsClosed (s : GatewayCoordinator σ κ device × ω) : CoordinatorCall ω → Prop
  | .step stop now =>
      (enterStep stop s.1 now).state = .shuttingDown →
        ∀ i, ¬ StopGivesUp (listenPort ((enterStep stop s.1 now).controller.ports i) now).runtime now
  | .reconfigure index config _ =>
      atRest s.1 = true → ¬ Reopens s.1.controller index config
  | .requestShutdown _ | .networkWait _ _ _ | .elapse _ _ _ => True

instance (s : GatewayCoordinator σ κ device × ω) :
    (call : CoordinatorCall ω) → Decidable (KeepsClosed s call)
  | .step stop now => inferInstanceAs (Decidable
      ((enterStep stop s.1 now).state = .shuttingDown →
        ∀ i, ¬ StopGivesUp (listenPort ((enterStep stop s.1 now).controller.ports i) now).runtime now))
  | .reconfigure index config _ =>
      inferInstanceAs (Decidable (atRest s.1 = true → ¬ Reopens s.1.controller index config))
  | .requestShutdown _ | .networkWait _ _ _ | .elapse _ _ _ => inferInstanceAs (Decidable True)

/-- A UART the coordinator's ports begin with. -/
def HandedOut (deps : GatewayApplicationDependencies ω σ κ device)
    (objects : Fin gatewayPortCount → σ × κ) (context : σ) : Prop :=
  (∃ i, (objects i).1 = context) ∨
    ∃ ports w bindings w' i, deps.provideBindings ports w = (some bindings, w') ∧
      (bindings.objects i).1 = context

/-- A port that holds on to nothing. -/
structure Free (fresh : σ → Prop) (p : GatewayPortController σ κ device) : Prop where
  disabled : p.runtime.state = .disabled
  listener : p.listenerOwned = false
  released : Released p.binding.backendOps device fresh p.runtime.backendContext

/-- What a stopped coordinator says is so, and it stops in time. -/
structure CleanStop (deps : GatewayApplicationDependencies ω σ κ device)
    (objects : Fin gatewayPortCount → σ × κ) (c : GatewayCoordinator σ κ device) : Prop where
  clean : c.state = .stopped → c.cleanupComplete = true →
    ∀ i, Free (HandedOut deps objects) (c.controller.ports i)
  otherwise : c.state = .stopped → c.cleanupComplete = false →
    c.error = .shutdownIncomplete ∧
      ∀ a : GatewayApplication ω σ κ device, a.coordinator = c → finalExit a ≠ .clean
  ends : c.state = .shuttingDown → ∀ stop now w, due now c.shutdownDeadline = true →
    (gatewayCoordinatorStep deps stop c now w).1.state = .stopped

/-! ## The invariant -/

structure Tidy (fresh : σ → Prop) (c : GatewayCoordinator σ κ device) : Prop where
  kept : ∀ i, Kept fresh (c.controller.ports i)
  unmade : c.controllerInitialized = false →
    ∀ i, (c.controller.ports i).runtime.state = .disabled ∧ (c.controller.ports i).listenerOwned = false
  made : c.state = .startingPorts ∨ c.state = .checkingHealth ∨ c.state = .ready ∨
    c.state = .degraded ∨ c.state = .safeMode ∨ c.state = .shuttingDown →
      c.controllerInitialized = true
  closing : c.state = .shuttingDown ∨ c.state = .stopped → ∀ i, Closing fresh (c.controller.ports i)
  called : c.controllerShutdownCalled = true → c.state = .shuttingDown ∨ c.state = .stopped
  clean : c.cleanupComplete = true → c.state = .stopped ∧
    ∀ i, (c.controller.ports i).runtime.state = .disabled ∧ (c.controller.ports i).listenerOwned = false
  otherwise : c.state = .stopped → c.cleanupComplete = false → c.error = .shutdownIncomplete

variable {fresh : σ → Prop}

/-- The controller alone decides of a coordinator that goes on as it was. -/
theorem Tidy.of_same {c c' : GatewayCoordinator σ κ device} (h : Tidy fresh c)
    (hcontroller : c'.controller = c.controller)
    (hinitialized : c'.controllerInitialized = c.controllerInitialized)
    (hcalled : c'.controllerShutdownCalled = c.controllerShutdownCalled)
    (hcleanup : c'.cleanupComplete = c.cleanupComplete) (herror : c'.error = c.error)
    (hstate : c'.state = c.state) : Tidy fresh c' := by
  refine ⟨?_, ?_, ?_, ?_, ?_, ?_, ?_⟩
  · rw [hcontroller]
    exact h.kept
  · rw [hcontroller, hinitialized]
    exact h.unmade
  · rw [hstate, hinitialized]
    exact h.made
  · rw [hstate, hcontroller]
    exact h.closing
  · rw [hcalled, hstate]
    exact h.called
  · rw [hcleanup, hstate, hcontroller]
    exact h.clean
  · rw [hstate, hcleanup, herror]
    exact h.otherwise

/-- The states of a coordinator that neither starts ports, nor runs, nor ends. -/
def preparing (state : GatewayApplicationState) : Bool :=
  decide (state = .bootstrap) || decide (state = .loadingConfiguration) ||
    decide (state = .selectingConfiguration) || decide (state = .validatingConfiguration) ||
    decide (state = .initializingController) || decide (state = .fatalError)

/-- A coordinator that does not end. -/
theorem Tidy.of_open {c c' : GatewayCoordinator σ κ device} (h : Tidy fresh c)
    (hopen : c.state ≠ .shuttingDown ∧ c.state ≠ .stopped)
    (hopen' : c'.state ≠ .shuttingDown ∧ c'.state ≠ .stopped)
    (hkept : ∀ i, Kept fresh (c'.controller.ports i))
    (hunmade : c'.controllerInitialized = false →
      ∀ i, (c'.controller.ports i).runtime.state = .disabled ∧
        (c'.controller.ports i).listenerOwned = false)
    (hmade : preparing c'.state = false → c'.controllerInitialized = true)
    (hcalled : c'.controllerShutdownCalled = c.controllerShutdownCalled)
    (hcleanup : c'.cleanupComplete = c.cleanupComplete) : Tidy fresh c' where
  kept := hkept
  unmade := hunmade
  made := fun hs => hmade (by rcases hs with hs | hs | hs | hs | hs | hs <;> rw [hs] <;> rfl)
  closing := fun hs => by
    rcases hs with hs | hs
    · exact absurd hs hopen'.1
    · exact absurd hs hopen'.2
  called := fun hc => by
    rcases h.called (hcalled.symm.trans hc) with hs | hs
    · exact absurd hs hopen.1
    · exact absurd hs hopen.2
  clean := fun hc => absurd (h.clean (hcleanup.symm.trans hc)).1 hopen.2
  otherwise := fun hs => absurd hs hopen'.2

theorem tidy_init (objects : Fin gatewayPortCount → σ × κ) (hfresh : ∀ i, fresh (objects i).1) :
    Tidy fresh
      (gatewayCoordinatorInit (clearedController objects) : GatewayCoordinator σ κ device) where
  kept := fun i =>
    ⟨⟨rfl, rfl⟩, rfl, nofun, fun _ => .inl rfl, fun _ => rfl, fun _ => .fresh _ (hfresh i)⟩
  unmade := fun _ _ => ⟨rfl, rfl⟩
  made := by rintro (h | h | h | h | h | h) <;> cases h
  closing := by rintro (h | h) <;> cases h
  called := nofun
  clean := nofun
  otherwise := nofun

variable {c : GatewayCoordinator σ κ device}

/-- Beginning to end: the controller is shut down, or there is none. -/
theorem tidy_beginShutdown (h : Tidy fresh c) (now : CoreTick) :
    Tidy fresh (beginShutdown c now) := by
  unfold beginShutdown
  split
  · exact h
  · rename_i hopen
    have hnot : c.controllerShutdownCalled = false := by
      by_contra hcalled
      rcases h.called (by simpa using hcalled) with hs | hs
      · exact hopen (.inr hs)
      · exact hopen (.inl hs)
    have hdirty : c.cleanupComplete = false := by
      by_contra hclean
      exact hopen (.inl (h.clean (by simpa using hclean)).1)
    simp only []
    split
    · rename_i hmade
      rw [if_neg (by simp [hnot])]
      have hclosing : ∀ i, Closing fresh (shutdownPort (c.controller.ports i) now) :=
        fun i => closing_shutdownPort (h.kept i) now
      exact {
        kept := fun i => (hclosing i).kept
        unmade := fun hu => absurd (hmade.symm.trans hu) (by simp)
        made := fun _ => hmade
        closing := fun _ => hclosing
        called := fun _ => .inl rfl
        clean := fun hc => absurd (hdirty.symm.trans hc) (by simp)
        otherwise := nofun }
    · rename_i hunmade
      have hunmade : c.controllerInitialized = false := by simpa using hunmade
      have hrest := h.unmade hunmade
      exact {
        kept := h.kept
        unmade := fun _ => hrest
        made := by rintro (h | h | h | h | h | h) <;> cases h
        closing := fun _ i => ⟨h.kept i, .inr (hrest i).1⟩
        called := fun _ => .inr rfl
        clean := fun _ => ⟨rfl, hrest⟩
        otherwise := nofun }

theorem kept_controllerStep {c : GatewayController σ κ device} (h : ∀ i, Kept fresh (c.ports i))
    (now : CoreTick) (i : Fin gatewayPortCount) : Kept fresh ((gatewayControllerStep c now).ports i) := by
  rw [ports_gatewayControllerStep]
  exact (h i).stepPort now

/-- A step of the controller of a coordinator that runs. -/
theorem Tidy.controllerStep {c c' : GatewayCoordinator σ κ device} (h : Tidy fresh c)
    (hruns : preparing c.state = false) (hopen : c.state ≠ .shuttingDown ∧ c.state ≠ .stopped)
    (now : CoreTick) (hcontroller : c'.controller = gatewayControllerStep c.controller now)
    (hstate : c'.state ≠ .shuttingDown ∧ c'.state ≠ .stopped)
    (hinitialized : c'.controllerInitialized = c.controllerInitialized)
    (hcalled : c'.controllerShutdownCalled = c.controllerShutdownCalled)
    (hcleanup : c'.cleanupComplete = c.cleanupComplete) : Tidy fresh c' := by
  have hmade : c'.controllerInitialized = true := by
    rw [hinitialized]
    refine h.made ?_
    cases hs : c.state <;> simp [hs, preparing] at hruns hopen ⊢
  refine h.of_open hopen hstate (fun i => ?_) (fun hu => absurd (hmade.symm.trans hu) (by simp))
    (fun _ => hmade) hcalled hcleanup
  rw [hcontroller]
  exact kept_controllerStep h.kept now i

/-- The step of a coordinator that ends. -/
theorem tidy_stepShutdown (h : Tidy fresh c) (hs : c.state = .shuttingDown) (now : CoreTick)
    (hgives : ∀ i, ¬ StopGivesUp (listenPort (c.controller.ports i) now).runtime now) :
    Tidy fresh (stepShutdown c now) := by
  have hmade := h.made (.inr (.inr (.inr (.inr (.inr hs)))))
  have hclosing : ∀ i, Closing fresh ((gatewayControllerStep c.controller now).ports i) := by
    intro i
    rw [ports_gatewayControllerStep]
    exact (h.closing (.inl hs) i).stepPort now (hgives i)
  have hdirty : c.cleanupComplete = false := by
    by_contra hclean
    have hstopped := (h.clean (by simpa using hclean)).1
    rw [hs] at hstopped
    cases hstopped
  unfold stepShutdown
  rw [if_pos hmade]
  simp only []
  split
  · rename_i hdone
    have hrest : ∀ i, ((gatewayControllerStep c.controller now).ports i).runtime.state = .disabled ∧
        ((gatewayControllerStep c.controller now).ports i).listenerOwned = false :=
      fun i => ⟨(hclosing i).disabled (hdone i).1, (hdone i).2⟩
    exact {
      kept := fun i => (hclosing i).kept
      unmade := fun _ => hrest
      made := by rintro (h | h | h | h | h | h) <;> cases h
      closing := fun _ => hclosing
      called := fun _ => .inr rfl
      clean := fun _ => ⟨rfl, hrest⟩
      otherwise := nofun }
  split
  · exact {
      kept := fun i => (hclosing i).kept
      unmade := fun hu => absurd (hmade.symm.trans hu) (by simp)
      made := by rintro (h | h | h | h | h | h) <;> cases h
      closing := fun _ => hclosing
      called := fun _ => .inr rfl
      clean := fun hc => absurd (hdirty.symm.trans hc) (by simp)
      otherwise := fun _ _ => rfl }
  · exact {
      kept := fun i => (hclosing i).kept
      unmade := fun hu => absurd (hmade.symm.trans hu) (by simp)
      made := fun _ => hmade
      closing := fun _ => hclosing
      called := fun _ => .inl hs
      clean := fun hc => absurd (hdirty.symm.trans hc) (by simp)
      otherwise := fun hstop => absurd (hs.symm.trans hstop) (by simp) }

/-- A coordinator that prepares, and has not got as far as its controller. -/
theorem Tidy.prepares {c c' : GatewayCoordinator σ κ device} (h : Tidy fresh c)
    (hopen : c.state ≠ .shuttingDown ∧ c.state ≠ .stopped)
    (hprepares : preparing c'.state = true) (hcontroller : c'.controller = c.controller)
    (hinitialized : c'.controllerInitialized = c.controllerInitialized)
    (hcalled : c'.controllerShutdownCalled = c.controllerShutdownCalled)
    (hcleanup : c'.cleanupComplete = c.cleanupComplete) : Tidy fresh c' := by
  refine h.of_open hopen ?_ (fun i => ?_) ?_ ?_ hcalled hcleanup
  · constructor <;> intro hs <;> rw [hs] at hprepares <;> cases hprepares
  · rw [hcontroller]
    exact h.kept i
  · rw [hcontroller, hinitialized]
    exact h.unmade
  · intro hs
    rw [hprepares] at hs
    cases hs

variable (deps : GatewayApplicationDependencies ω σ κ device)

theorem tidy_initializeController (h : Tidy fresh c) (hopen : c.state ≠ .shuttingDown ∧ c.state ≠ .stopped)
    (bindings : GatewayBindings σ κ device) (hfresh : ∀ i, fresh (bindings.objects i).1) (now : CoreTick)
    (w : ω) : Tidy fresh (initializeController deps c bindings now w).1 := by
  have hkept : ∀ i, Kept fresh
      ((gatewayControllerInit c.selected.ports bindings.binding bindings.objects).2.ports i) :=
    fun i => kept_initPort _ _ _ _ _ (hfresh i)
  have hrest : ∀ i,
      ((gatewayControllerInit c.selected.ports bindings.binding bindings.objects).2.ports i).runtime.state =
          .disabled ∧
        ((gatewayControllerInit c.selected.ports bindings.binding bindings.objects).2.ports i).listenerOwned =
          false := fun _ => ⟨rfl, rfl⟩
  unfold initializeController
  split <;> rename_i heq <;> rw [heq] at hkept hrest
  · split
    · exact h.of_open hopen ⟨nofun, nofun⟩ (fun i => (hkept i).startPort now) nofun
        (fun _ => rfl) rfl rfl
    · exact h.of_open hopen ⟨nofun, nofun⟩ hkept (fun _ => hrest) (fun _ => rfl) rfl rfl
  · refine h.of_open hopen ⟨nofun, nofun⟩ hkept (fun _ => hrest) (fun hs => ?_) rfl rfl
    cases hs

/-- A stop is taken note of first. -/
theorem gatewayCoordinatorStep_enter (stop : Bool) (c : GatewayCoordinator σ κ device) (now : CoreTick)
    (w : ω) :
    gatewayCoordinatorStep deps stop c now w =
      gatewayCoordinatorStep deps false (enterStep stop c now) now w := rfl

theorem tidy_gatewayCoordinatorStep
    (hprovided : ∀ ports w bindings w', deps.provideBindings ports w = (some bindings, w') →
      ∀ i, fresh (bindings.objects i).1) (h : Tidy fresh c) (stop : Bool) (now : CoreTick) (w : ω)
    (hgives : (enterStep stop c now).state = .shuttingDown →
      ∀ i, ¬ StopGivesUp (listenPort ((enterStep stop c now).controller.ports i) now).runtime now) :
    Tidy fresh (gatewayCoordinatorStep deps stop c now w).1 := by
  have hentered : Tidy fresh (enterStep stop c now) := by
    unfold enterStep
    split
    · exact tidy_beginShutdown h now
    · exact h
  rw [gatewayCoordinatorStep_enter]
  generalize enterStep stop c now = c at hentered hgives
  unfold gatewayCoordinatorStep
  simp only [Bool.false_eq_true, if_false]
  -- one goal for each state of the coordinator, in the order of the source
  split <;> rename_i hs
  · exact hentered.prepares (by rw [hs]; exact ⟨nofun, nofun⟩) rfl rfl rfl rfl rfl
  · have hopen : c.state ≠ .shuttingDown ∧ c.state ≠ .stopped := by rw [hs]; exact ⟨nofun, nofun⟩
    unfold loadConfiguration
    split
    split
    · exact hentered.prepares hopen rfl rfl rfl rfl rfl
    · exact hentered.prepares hopen rfl rfl rfl rfl rfl
  · exact hentered.prepares (by rw [hs]; exact ⟨nofun, nofun⟩) rfl rfl rfl rfl rfl
  · have hopen : c.state ≠ .shuttingDown ∧ c.state ≠ .stopped := by rw [hs]; exact ⟨nofun, nofun⟩
    unfold validateConfiguration
    split
    · exact hentered.prepares hopen rfl rfl rfl rfl rfl
    · exact hentered.prepares hopen rfl rfl rfl rfl rfl
  · have hopen : c.state ≠ .shuttingDown ∧ c.state ≠ .stopped := by rw [hs]; exact ⟨nofun, nofun⟩
    split
    · exact hentered.prepares hopen rfl rfl rfl rfl rfl
    · rename_i bindings w' hprovide
      exact tidy_initializeController deps hentered hopen bindings
        (hprovided _ _ _ _ hprovide) now w'
  · refine hentered.controllerStep (by rw [hs]; rfl) (by rw [hs]; exact ⟨nofun, nofun⟩) now rfl ?_ rfl
      rfl rfl
    unfold startupPorts
    simp only []
    split
    · exact ⟨nofun, nofun⟩
    · rw [hs]
      exact ⟨nofun, nofun⟩
  · have hopen : c.state ≠ .shuttingDown ∧ c.state ≠ .stopped := by rw [hs]; exact ⟨nofun, nofun⟩
    have hmade := hentered.made (.inr (.inl hs))
    have hunmade : c.controllerInitialized = false →
        ∀ i, (c.controller.ports i).runtime.state = .disabled ∧
          (c.controller.ports i).listenerOwned = false := hentered.unmade
    unfold checkHealth
    simp only []
    split
    · exact hentered.of_open hopen ⟨nofun, nofun⟩ hentered.kept hunmade (fun _ => hmade) rfl rfl
    · split
      · exact hentered.of_open hopen ⟨nofun, nofun⟩ hentered.kept hunmade (fun _ => hmade) rfl rfl
      · exact hentered.of_open hopen ⟨nofun, nofun⟩ hentered.kept hunmade (fun _ => hmade) rfl rfl
  · exact hentered.controllerStep (by rw [hs]; rfl) (by rw [hs]; exact ⟨nofun, nofun⟩) now rfl
      (by show c.state ≠ _ ∧ c.state ≠ _; rw [hs]; exact ⟨nofun, nofun⟩) rfl rfl rfl
  · exact hentered.controllerStep (by rw [hs]; rfl) (by rw [hs]; exact ⟨nofun, nofun⟩) now rfl
      (by show c.state ≠ _ ∧ c.state ≠ _; rw [hs]; exact ⟨nofun, nofun⟩) rfl rfl rfl
  · exact hentered.controllerStep (by rw [hs]; rfl) (by rw [hs]; exact ⟨nofun, nofun⟩) now rfl
      (by show c.state ≠ _ ∧ c.state ≠ _; rw [hs]; exact ⟨nofun, nofun⟩) rfl rfl rfl
  · exact tidy_stepShutdown hentered hs now (hgives hs)
  · exact hentered
  · exact hentered

/-! ## Runs -/

/-- Settings for a port at rest, or an order to wait, leave it there. -/
theorem Tidy.replacePort (h : Tidy fresh c) (index : Fin gatewayPortCount)
    {p : GatewayPortController σ κ device} (hkept : Kept fresh p)
    (hrest : atRest c = true → p.runtime.state = (c.controller.ports index).runtime.state ∧
      p.listenerOwned = (c.controller.ports index).listenerOwned) :
    Tidy fresh { c with controller := c.controller.setPort index p } := by
  have hports : ∀ i, (c.controller.setPort index p).ports i =
      if i = index then p else c.controller.ports i := by
    intro i
    unfold GatewayController.setPort
    by_cases hi : i = index
    · subst hi
      simp
    · simp [hi]
  have hall : ∀ i, Kept fresh ((c.controller.setPort index p).ports i) := by
    intro i
    rw [hports]
    split
    · exact hkept
    · exact h.kept i
  have hsame : atRest c = true → ∀ i,
      ((c.controller.setPort index p).ports i).runtime.state = (c.controller.ports i).runtime.state ∧
        ((c.controller.setPort index p).ports i).listenerOwned = (c.controller.ports i).listenerOwned := by
    intro hatRest i
    rw [hports]
    split
    · rename_i hi
      rw [hi]
      exact hrest hatRest
    · exact ⟨rfl, rfl⟩
  refine ⟨hall, fun hu i => ?_, h.made, fun hs i => ⟨hall i, ?_⟩, h.called, fun hc => ?_, h.otherwise⟩
  · have hsame := hsame (by simp [atRest, show c.controllerInitialized = false from hu]) i
    rw [hsame.1, hsame.2]
    exact h.unmade hu i
  · have hatRest : atRest c = true := by
      rcases hs with hs | hs
      · simp [atRest, show c.state = .shuttingDown from hs]
      · simp [atRest, show c.state = .stopped from hs]
    rw [(hsame hatRest i).1]
    exact (h.closing hs i).resting
  · obtain ⟨hstopped, hclean⟩ := h.clean hc
    refine ⟨hstopped, fun i => ?_⟩
    have hsame := hsame (by simp [atRest, hstopped]) i
    rw [hsame.1, hsame.2]
    exact hclean i

/-- A port of a coordinator at rest is closing. -/
theorem Tidy.closing_of_atRest (h : Tidy fresh c) (hrest : atRest c = true) (i : Fin gatewayPortCount) :
    Closing fresh (c.controller.ports i) := by
  cases hmade : c.controllerInitialized with
  | false => exact ⟨h.kept i, .inr (h.unmade hmade i).1⟩
  | true =>
    refine h.closing ?_ i
    simpa [atRest, hmade] using hrest

theorem tidy_exec (hprovided : ∀ ports w bindings w', deps.provideBindings ports w = (some bindings, w') →
      ∀ i, fresh (bindings.objects i).1) {s : GatewayCoordinator σ κ device × ω} (h : Tidy fresh s.1)
    (call : CoordinatorCall ω) (hmeets : KeepsClosed s call) : Tidy fresh (call.exec deps s).1 := by
  cases call with
  | step stop now => exact tidy_gatewayCoordinatorStep deps hprovided h stop now s.2 hmeets
  | requestShutdown now => exact tidy_beginShutdown h now
  | reconfigure index config now =>
    show Tidy fresh
      { s.1 with controller := (gatewayControllerReconfigure s.1.controller index config now).2 }
    unfold gatewayControllerReconfigure
    split
    · exact h
    · rename_i hvalid
      have hvalid : validateReplacement s.1.controller index config = true := by simpa using hvalid
      refine h.replacePort index ((h.kept index).reconfigurePort index config now) fun hrest => ?_
      exact (h.closing_of_atRest hrest index).reconfigure now hvalid (hmeets hrest)
  | networkWait index wait now =>
    refine h.replacePort index ((h.kept index).networkWaitPort wait now) fun hrest => ?_
    obtain ⟨hruntime, howned⟩ := (h.closing_of_atRest hrest index).networkWaitPort wait now
    exact ⟨congrArg PortRuntime.state hruntime, howned⟩
  | elapse selected source w => exact h.of_same rfl rfl rfl rfl rfl rfl

/-- A shutdown past its deadline is over after its next step. -/
theorem gatewayCoordinatorStep_deadline (hs : c.state = .shuttingDown) (stop : Bool) (now : CoreTick) (w : ω)
    (hdue : due now c.shutdownDeadline = true) :
    (gatewayCoordinatorStep deps stop c now w).1.state = .stopped := by
  have henter : enterStep stop c now = c := by
    unfold enterStep beginShutdown
    simp [hs]
  rw [gatewayCoordinatorStep_enter, henter]
  unfold gatewayCoordinatorStep
  simp only [Bool.false_eq_true, if_false, hs]
  unfold stepShutdown
  split
  · simp only []
    split
    · rfl
    · rfl
  · simp only []
    split
    · rfl
    · rfl

theorem Tidy.cleanStop {deps : GatewayApplicationDependencies ω σ κ device}
    {objects : Fin gatewayPortCount → σ × κ} (h : Tidy (HandedOut deps objects) c) :
    CleanStop deps objects c where
  clean := fun _ hc i => by
    obtain ⟨hdisabled, hlistener⟩ := (h.clean hc).2 i
    exact ⟨hdisabled, hlistener, (h.kept i).released hdisabled⟩
  otherwise := fun hs hc => by
    refine ⟨h.otherwise hs hc, fun a ha hclean => ?_⟩
    unfold finalExit at hclean
    rw [if_pos (.inr (.inr (.inl (by rw [ha, hc]; simp))))] at hclean
    cases hclean
  ends := fun hs stop now w hdue => gatewayCoordinatorStep_deadline deps hs stop now w hdue

/-- **A clean stop.** In a run in which no UART gives up on its stop and no port is enabled
    again at rest, whatever the UARTs and listeners answer: a coordinator that has stopped
    with its cleanup complete has left every runtime disabled, its UART stopped, and no
    listener owned; one that has stopped otherwise reports it, and the process does too. -/
theorem cleanStop_of_keepsClosed (deps : GatewayApplicationDependencies ω σ κ device)
    (objects : Fin gatewayPortCount → σ × κ) (w : ω) (calls : List (CoordinatorCall ω))
    (h : Along (CoordinatorCall.exec deps) KeepsClosed calls
      (gatewayCoordinatorInit (clearedController objects), w)) :
    CleanStop deps objects
      (runCoordinator deps calls (gatewayCoordinatorInit (clearedController objects), w)).1 := by
  have hprovided : ∀ ports w bindings w', deps.provideBindings ports w = (some bindings, w') →
      ∀ i, HandedOut deps objects (bindings.objects i).1 :=
    fun ports w bindings w' hprovide i => .inr ⟨ports, w, bindings, w', i, hprovide, rfl⟩
  have htidy : Tidy (HandedOut deps objects)
      (runCoordinator deps calls (gatewayCoordinatorInit (clearedController objects), w)).1 :=
    @Along.invariant _ _ _ _ (fun s => Tidy (HandedOut deps objects) s.1)
      (fun s call htidy hmeets => tidy_exec deps hprovided htidy call hmeets) _ _ h
      (tidy_init objects fun i => .inl ⟨i, rfl⟩)
  exact htidy.cleanStop

/-! ## A UART that does not stop -/

/-- The gateway with the UARTs of `backend`, started and told to stop at 100; the last step is
    at 1100, when the time of the UARTs is over. -/
def stoppedRun : List (CoordinatorCall Script) :=
  List.replicate 7 (.step false 0) ++ [.step false 1, .step true 100, .step true 1100]

def stoppedGateway (backend : CoreBackendOps (List Int)) :
    GatewayApplicationDependencies Script (List Int) (List Int) fun _ _ => False :=
  { scriptedDependencies gatewayPersistentDefaults with
    provideBindings := fun _ w =>
      (some
        { binding := fun _ => { backendOps := some backend, transportOps := some scriptedListener }
          objects := fun _ => ([], []) }, w) }

def stoppedCoordinator : GatewayCoordinator (List Int) (List Int) fun _ _ => False :=
  (runCoordinator (stoppedGateway scriptedBackend) stoppedRun
    (gatewayCoordinatorInit (clearedController fun _ => ([], [])), {})).1

/-- UARTs that stop when they are told to leave nothing behind. -/
theorem cleanStop_stoppedRun :
    stoppedCoordinator.state = .stopped ∧
      ∀ i, Free (HandedOut (stoppedGateway scriptedBackend) fun _ => ([], []))
        (stoppedCoordinator.controller.ports i) :=
  have hstopped : stoppedCoordinator.state = .stopped := by decide +kernel
  ⟨hstopped, (cleanStop_of_keepsClosed (stoppedGateway scriptedBackend) _ {} stoppedRun
    (by decide +kernel)).clean hstopped (by decide +kernel)⟩

/-- A UART that refuses to stop. -/
def stuckBackend : CoreBackendOps (List Int) :=
  { scriptedBackend with stop := fun answers _ => (-1, answers) }

def stuckCoordinator : GatewayCoordinator (List Int) (List Int) fun _ _ => False :=
  (runCoordinator (stoppedGateway stuckBackend) stoppedRun
    (gatewayCoordinatorInit (clearedController fun _ => ([], [])), {})).1

/-- **The stop that is not clean.** The UARTs refuse to stop, their runtimes end in ERROR with
    the devices open, and the coordinator has stopped with its cleanup complete and without an
    error. -/
theorem stop_reported_clean :
    (stuckCoordinator.state = .stopped ∧ stuckCoordinator.cleanupComplete = true ∧
        stuckCoordinator.error = .none ∧
        ∀ i, (stuckCoordinator.controller.ports i).runtime.state = .error) ∧
      ¬ CleanStop (stoppedGateway stuckBackend) (fun _ => ([], [])) stuckCoordinator := by
  have hends : stuckCoordinator.state = .stopped ∧ stuckCoordinator.cleanupComplete = true ∧
      stuckCoordinator.error = .none ∧
      ∀ i, (stuckCoordinator.controller.ports i).runtime.state = .error := by
    decide +kernel
  refine ⟨hends, fun hclean => ?_⟩
  have hfree := (hclean.clean hends.1 hends.2.1 0).disabled
  rw [hends.2.2.2 0] at hfree
  cases hfree

end FourVrs.App
