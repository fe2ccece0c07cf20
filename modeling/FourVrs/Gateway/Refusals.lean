import FourVrs.Gateway.Listening

/-!
# A refused reconfiguration

`gateway_controller_reconfigure` answers -1 from eight places, and five of them come after
something was done: the listener was stopped or closed its socket, the settings were
adopted, the runtime was asked. What the refusal changed is decided by what the listener and
the runtime answered (`stopAnswer`, `startAnswer`), so the exact condition under which it
changed nothing is a condition on these (`LeavesAlone`). Of the gateway's own listeners it
is that the raw line can be flushed (`leavesAlone_iff`).
-/

set_option autoImplicit false

namespace FourVrs.Gateway

open FourVrs.Core Config Uart Network

variable {σ κ : Type} {device : σ → σ → Prop}

/-! ## What a refusal must keep -/

/-- A listener in working order is at this port. -/
def ServedBy (working : κ → Prop) (p : GatewayPortController σ κ device) : Prop :=
  p.listenerOwned = true ∧ working p.runtime.completionContext

/-- The runtime is in its state, with its work. -/
structure SameWork (port port' : PortRuntime σ κ) : Prop where
  state : port'.state = port.state
  outstanding : port'.view.outstanding = port.view.outstanding

structure Unchanged (working : κ → Prop) (p p' : GatewayPortController σ κ device) : Prop where
  lifecycle : p'.lifecycle = p.lifecycle
  current : p'.current = p.current
  knownGood : p'.knownGood = p.knownGood
  work : SameWork p.runtime p'.runtime
  serving : ServedBy working p' ↔ ServedBy working p

variable {working : κ → Prop}

theorem Unchanged.refl (p : GatewayPortController σ κ device) : Unchanged working p p where
  lifecycle := rfl
  current := rfl
  knownGood := rfl
  work := ⟨rfl, rfl⟩
  serving := Iff.rfl

/-! ## What the listener answers -/

/-- The answer of the listener's `stop`, and the runtime as it leaves it. -/
def stopAnswer (p : GatewayPortController σ κ device) : Int × PortRuntime σ κ :=
  if p.listenerOwned then
    match p.binding.transportOps.bind GatewayTransportOps.stop with
    | none => (0, p.runtime)
    | some stop => stop p.runtime
  else (0, p.runtime)

/-- The answer of its `start`. -/
def startAnswer (p : GatewayPortController σ κ device) (runtime : PortRuntime σ κ) :
    Int × PortRuntime σ κ :=
  match p.binding.transportOps.bind GatewayTransportOps.start with
  | none => (-1, runtime)
  | some start => start p.current runtime

theorem transportStop_eq (p : GatewayPortController σ κ device) :
    transportStop p =
      match stopAnswer p with
      | (0, runtime) => (0, { p with runtime := runtime, listenerOwned := false })
      | (result, runtime) => (result, { p with runtime := runtime }) := by
  unfold transportStop stopAnswer
  cases howned : p.listenerOwned with
  | false => rfl
  | true =>
    cases p.binding.transportOps.bind GatewayTransportOps.stop with
    | none | some stop => rfl

variable {runtime : PortRuntime σ κ}

theorem transportStop_stopped {p : GatewayPortController σ κ device} (h : stopAnswer p = (0, runtime)) :
    transportStop p = (0, { p with runtime := runtime, listenerOwned := false }) := by
  rw [transportStop_eq, h]
  rfl

theorem transportStop_kept {p : GatewayPortController σ κ device} {result : Int}
    (h : stopAnswer p = (result, runtime)) (hne : result ≠ 0) :
    transportStop p = (result, { p with runtime := runtime }) := by
  rw [transportStop_eq, h]
  split
  · rename_i heq
    exact absurd (congrArg Prod.fst heq) hne
  · rename_i heq
    obtain ⟨rfl, rfl⟩ := Prod.mk.inj heq
    rfl

/-- A port without a listener is not asked. -/
theorem stopAnswer_owned {p : GatewayPortController σ κ device} (h : (stopAnswer p).1 ≠ 0) :
    p.listenerOwned = true := by
  by_contra howned
  exact h (congrArg Prod.fst (if_neg howned))

/-- A listener that is started again is owned if it says so. -/
theorem transportStart_answer (p : GatewayPortController σ κ device) (howned : p.listenerOwned = false) :
    (transportStart p).2 =
      { p with
        runtime := (startAnswer p p.runtime).2
        listenerOwned := decide ((startAnswer p p.runtime).1 = 0) } := by
  unfold transportStart transportStartAt startAnswer
  cases p.binding.transportOps.bind GatewayTransportOps.start with
  | none => simp [← howned]
  | some start =>
    simp only []
    split
    · rename_i runtime heq
      simp [heq]
    · rename_i result runtime hne heq
      have hzero : result ≠ 0 := fun he => hne he
      simp [heq, hzero, howned]

/-! ## What the runtime answers -/

/-- The states `port_runtime_request_stop` refuses. -/
def RefusesStop (state : PortState) : Prop :=
  state = .disabled ∨ state = .stopping

/-- The states `port_runtime_request_reconfigure` accepts. -/
def TakesSettings (state : PortState) : Prop :=
  Live state ∨ state = .degraded

variable (port : PortRuntime σ κ)

theorem portRuntimeRequestStop_answer (now : CoreTick) :
    (RefusesStop port.state → portRuntimeRequestStop port now gatewayStopTimeout = (-1, port)) ∧
      (¬ RefusesStop port.state → (portRuntimeRequestStop port now gatewayStopTimeout).1 = 0) := by
  refine ⟨fun h => ?_, fun h => ?_⟩
  · rcases portRuntimeRequestStop_cases port now gatewayStopTimeout with hsame | ⟨hne, _⟩
    · exact hsame
    · exact absurd h (not_or.mpr hne)
  · obtain ⟨hdisabled, hstopping⟩ := not_or.mp h
    exact portRuntimeRequestStop_accepted hdisabled hstopping now

theorem portRuntimeRequestReconfigure_answer {config : CorePortConfig} (hvalid : configValid config = true)
    (now : CoreTick) :
    (TakesSettings port.state →
      (portRuntimeRequestReconfigure port config now gatewayReconfigureTimeout).1 = 0) ∧
    (¬ TakesSettings port.state →
      portRuntimeRequestReconfigure port config now gatewayReconfigureTimeout = (-1, port)) := by
  refine ⟨fun h => ?_, fun h => ?_⟩
  · rcases h with hlive | hdegraded
    · exact portRuntimeRequestReconfigure_accepted hlive hvalid now
    · have hstate : (cancelAll port).state = .degraded :=
        (congrArg PortControl.state (control_cancelAll port)).trans hdegraded
      unfold portRuntimeRequestReconfigure
      rw [if_neg (by simp [hvalid, gatewayReconfigureTimeout, coreTicksValidInterval, coreTickHalfRange])]
      simp only [hdegraded]
      rw [portRuntimeTransition_of_allowed (by exact hstate) rfl]
  · obtain ⟨hlive, hdegraded⟩ := not_or.mp h
    unfold portRuntimeRequestReconfigure
    split
    · rfl
    · unfold Live at hlive
      cases hs : port.state <;> simp [hs] at hlive hdegraded ⊢

/-- What `port_runtime_detach_listener` needs of the runtime: a transaction on the line can
    be broken off. -/
def Detaches (port : PortRuntime σ κ) : Prop :=
  port.hasActive = true → transitionAllowed port.state .recovering = true

theorem portRuntimeCancelActive_answer {port : PortRuntime σ κ} (h : port.hasActive = true)
    (now : CoreTick) :
    (portRuntimeCancelActive port now).1 =
      if transitionAllowed port.state .recovering then 0 else -1 := by
  have hkept : (abortActive
      { port with
        active := { port.active with cancelled := true, status := .cancelled }
        responseBarrierGeneration := port.active.generation }).state = port.state := rfl
  unfold portRuntimeCancelActive portRuntimeTransition
  rw [if_neg (by simp [h])]
  dsimp only
  rw [hkept]
  split <;> rfl

theorem portRuntimeDetachListener_answer (now : CoreTick) :
    (portRuntimeDetachListener port now).1 = 0 ∧ Detaches port ∨
      (portRuntimeDetachListener port now).1 = -1 ∧ ¬ Detaches port := by
  have hflush := control_flushQueue port
  have hstate : (flushQueue port).state = port.state := congrArg PortControl.state hflush
  have hactive : (flushQueue port).hasActive = port.hasActive := congrArg PortControl.hasActive hflush
  unfold Detaches portRuntimeDetachListener
  split
  · rename_i hbusy
    rw [portRuntimeCancelActive_answer (hactive.trans hbusy), hstate]
    cases transitionAllowed port.state .recovering <;> simp [hbusy]
  · rename_i hidle
    exact .inl ⟨rfl, fun hbusy => absurd hbusy hidle⟩

/-! ## When a refusal changes nothing -/

/-- A listener that did not stop has left all as it was. -/
def StopUndone (working : κ → Prop) (p : GatewayPortController σ κ device)
    (runtime : PortRuntime σ κ) : Prop :=
  SameWork p.runtime runtime ∧ (working runtime.completionContext ↔ working p.runtime.completionContext)

/-- A listener that did stop was of no use. -/
def StopUnnoticed (working : κ → Prop) (p : GatewayPortController σ κ device)
    (runtime : PortRuntime σ κ) : Prop :=
  SameWork p.runtime runtime ∧ ¬ ServedBy working p

/-- A listener that did stop has started again. -/
def StopRepaired (working : κ → Prop) (p : GatewayPortController σ κ device)
    (runtime : PortRuntime σ κ) : Prop :=
  SameWork p.runtime (startAnswer p runtime).2 ∧
    ((startAnswer p runtime).1 = 0 ∧ working (startAnswer p runtime).2.completionContext ↔
      ServedBy working p)

/-- A listener was stopped with `answer`, and `next` says what must hold of the runtime it
    left for a refusal after it to change nothing. -/
def AfterStop (working : κ → Prop) (p : GatewayPortController σ κ device)
    (next : PortRuntime σ κ → Prop) : Prop :=
  ((stopAnswer p).1 ≠ 0 → StopUndone working p (stopAnswer p).2) ∧
    ((stopAnswer p).1 = 0 → next (stopAnswer p).2)

/-- The condition on a port that takes the request on, for each of the four ways. -/
def LeavesAlone (working : κ → Prop) (p : GatewayPortController σ κ device)
    (config : GatewayPortConfig) : Prop :=
  if config.enabled = 0 then
    p.lifecycle ≠ .disabled →
      AfterStop working p fun runtime => RefusesStop runtime.state → StopUnnoticed working p runtime
  else if p.lifecycle = .disabled then
    p.binding.backendOps = none →
      p.current = config ∧ p.knownGood = config ∧ p.runtime.state = .disabled ∧
        p.runtime.view.outstanding = []
  else if sameSerial config p.current then AfterStop working p Detaches
  else
    AfterStop working p fun runtime =>
      ¬ TakesSettings runtime.state → StopRepaired working p runtime

/-- The request passes its checks. -/
def TakesOn (c : GatewayController σ κ device) (index : Fin gatewayPortCount)
    (config : GatewayPortConfig) : Prop :=
  validateReplacement c index config = true ∧
    ((c.ports index).lifecycle = .ready ∨ (c.ports index).lifecycle = .disabled ∨
      (c.ports index).lifecycle = .networkWait)

/-! ## The four ways -/

variable {p : GatewayPortController σ κ device}

theorem unchanged_stopFailed (howned : p.listenerOwned = true) :
    Unchanged working p (stopFailed { p with runtime := runtime }) ↔ StopUndone working p runtime := by
  constructor
  · intro h
    refine ⟨⟨h.work.state, h.work.outstanding⟩, ?_⟩
    have hserving := h.serving
    unfold ServedBy stopFailed at hserving
    simpa [howned] using hserving
  · rintro ⟨hwork, hworking⟩
    refine ⟨rfl, rfl, rfl, hwork, ?_⟩
    unfold ServedBy stopFailed
    simp [howned, hworking]

/-- The three ways that stop the listener first go on in the same manner. -/
def whenStopped (next : GatewayPortController σ κ device → Int × GatewayPortController σ κ device) :
    Int × GatewayPortController σ κ device → Int × GatewayPortController σ κ device
  | (0, p) => next p
  | (_, p) => (-1, stopFailed p)

theorem refusal_whenStopped
    {next : GatewayPortController σ κ device → Int × GatewayPortController σ κ device}
    {meets : PortRuntime σ κ → Prop}
    (h : ∀ runtime,
      ((next { p with runtime := runtime, listenerOwned := false }).1 = -1 →
        Unchanged working p (next { p with runtime := runtime, listenerOwned := false }).2) ↔
      meets runtime) :
    ((whenStopped next (transportStop p)).1 = -1 →
      Unchanged working p (whenStopped next (transportStop p)).2) ↔ AfterStop working p meets := by
  unfold AfterStop
  rcases hstop : stopAnswer p with ⟨result, runtime⟩
  by_cases hzero : result = 0
  · subst hzero
    rw [transportStop_stopped hstop]
    simpa [whenStopped] using h runtime
  · rw [transportStop_kept hstop hzero]
    have howned : p.listenerOwned = true := stopAnswer_owned (by rw [hstop]; exact hzero)
    have hanswer : whenStopped next (result, { p with runtime := runtime }) =
        (-1, stopFailed { p with runtime := runtime }) := by
      unfold whenStopped
      split
      · rename_i heq
        exact absurd (congrArg Prod.fst heq) hzero
      · rename_i heq
        obtain ⟨rfl, rfl⟩ := Prod.mk.inj heq
        rfl
    rw [hanswer]
    simp [hzero, unchanged_stopFailed howned]

theorem refusal_disable (hl : p.lifecycle ≠ .disabled) (config : GatewayPortConfig) (now : CoreTick) :
    ((reconfigureDisable p config now).1 = -1 →
      Unchanged working p (reconfigureDisable p config now).2) ↔
    AfterStop working p fun runtime =>
      RefusesStop runtime.state → StopUnnoticed working p runtime := by
  have hway : reconfigureDisable p config now = whenStopped (fun p =>
      match portRuntimeRequestStop p.runtime now gatewayStopTimeout with
      | (0, runtime) =>
          (0, { p with
              staged := config, pendingDisable := true, lastError := .none
              runtime := runtime, lifecycle := .stopping })
      | (_, runtime) =>
          (-1, { p with
              staged := config, pendingDisable := true, lastError := .none
              runtime := runtime })) (transportStop p) := if_neg hl
  rw [hway]
  refine refusal_whenStopped fun runtime => ?_
  obtain ⟨hrefused, haccepted⟩ := portRuntimeRequestStop_answer runtime now
  dsimp only
  by_cases hs : RefusesStop runtime.state
  · rw [hrefused hs]
    simp only [hs, forall_const]
    constructor
    · intro h
      refine ⟨⟨h.work.state, h.work.outstanding⟩, fun hserved => ?_⟩
      exact absurd (h.serving.mpr hserved).1 (by simp)
    · rintro ⟨hwork, hidle⟩
      refine ⟨rfl, rfl, rfl, hwork, ?_⟩
      exact ⟨fun h => absurd h.1 (by simp), fun h => absurd h hidle⟩
  · have hanswer := haccepted hs
    split
    · simp [hs]
    · rename_i hne heq
      rw [heq] at hanswer
      exact absurd hanswer hne

theorem refusal_enable (index : Fin gatewayPortCount)
    (config : GatewayPortConfig) (now : CoreTick) :
    ((reconfigureEnable p index config now).1 = -1 →
      Unchanged working p (reconfigureEnable p index config now).2) ↔
    (p.binding.backendOps = none →
      p.current = config ∧ p.knownGood = config ∧ p.runtime.state = .disabled ∧
        p.runtime.view.outstanding = []) := by
  unfold reconfigureEnable portRuntimeStart
  cases hbackend : p.binding.backendOps with
  | some backend =>
    rw [if_neg (by simp [portRuntimeInit, gatewayStartTimeout, coreTicksValidInterval, coreTickHalfRange]),
      portRuntimeTransition_of_allowed rfl rfl]
    simp
  | none =>
    rw [if_pos (by simp [portRuntimeInit])]
    simp only [forall_const]
    constructor
    · intro h
      exact ⟨h.current.symm, h.knownGood.symm, h.work.state.symm, h.work.outstanding.symm⟩
    · rintro ⟨hcurrent, hgood, hstate, hout⟩
      exact ⟨rfl, hcurrent.symm, hgood.symm, ⟨hstate.symm, hout.symm⟩, Iff.rfl⟩

theorem refusal_rebind (hl : p.lifecycle = .ready ∨ p.lifecycle = .networkWait)
    (config : GatewayPortConfig) (now : CoreTick) :
    ((reconfigureRebind p config now).1 = -1 →
      Unchanged working p (reconfigureRebind p config now).2) ↔
    AfterStop working p Detaches := by
  have hway : reconfigureRebind p config now = whenStopped (fun p =>
      match portRuntimeDetachListener p.runtime now with
      | (0, runtime) =>
          (0, { p with
              runtime := runtime, staged := config, listenerRebind := true
              lifecycle := .reconfiguring })
      | (_, runtime) => (-1, { p with runtime := runtime, lifecycle := .error }))
      (transportStop p) := rfl
  rw [hway]
  refine refusal_whenStopped fun runtime => ?_
  have hanswer := portRuntimeDetachListener_answer runtime now
  dsimp only
  split
  · rename_i heq
    rw [heq] at hanswer
    simpa using hanswer
  · rename_i hne heq
    rw [heq] at hanswer
    rcases hanswer with ⟨hzero, _⟩ | ⟨_, hcannot⟩
    · exact absurd hzero hne
    · -- the port was in service, and now it is in error
      simp only [hcannot, iff_false, forall_const]
      intro h
      rcases hl with hready | hwait
      · exact absurd (h.lifecycle.trans hready) (by simp)
      · exact absurd (h.lifecycle.trans hwait) (by simp)

theorem refusal_serial {config : GatewayPortConfig} (hvalid : configValid (coreConfig config) = true)
    (now : CoreTick) :
    ((reconfigureSerial p config now).1 = -1 →
      Unchanged working p (reconfigureSerial p config now).2) ↔
    AfterStop working p fun runtime =>
      ¬ TakesSettings runtime.state → StopRepaired working p runtime := by
  have hway : reconfigureSerial p config now = whenStopped (fun p =>
      match portRuntimeRequestReconfigure p.runtime (coreConfig config) now
          gatewayReconfigureTimeout with
      | (0, runtime) =>
          (0, { p with
              runtime := runtime, staged := config, lastError := .none
              lifecycle := .reconfiguring })
      | (_, runtime) =>
          (-1, (transportStart
            { p with runtime := runtime, staged := config, lastError := .none }).2))
      (transportStop p) := rfl
  rw [hway]
  refine refusal_whenStopped fun runtime => ?_
  obtain ⟨haccepted, hrefused⟩ := portRuntimeRequestReconfigure_answer runtime hvalid now
  dsimp only
  by_cases hs : TakesSettings runtime.state
  · have hanswer := haccepted hs
    split
    · simp [hs]
    · rename_i hne heq
      rw [heq] at hanswer
      exact absurd hanswer hne
  · rw [hrefused hs]
    show ((-1 : Int) = -1 → Unchanged working p (transportStart
      { p with
        runtime := runtime, listenerOwned := false, staged := config, lastError := .none }).2) ↔ _
    have hanswer : startAnswer
        { p with
          runtime := runtime, listenerOwned := false, staged := config, lastError := .none }
        runtime = startAnswer p runtime := rfl
    rw [transportStart_answer _ rfl, hanswer]
    simp only [hs, not_false_eq_true, forall_const]
    constructor
    · intro h
      refine ⟨⟨h.work.state, h.work.outstanding⟩, ?_⟩
      have hserving := h.serving
      unfold ServedBy at hserving ⊢
      simpa using hserving
    · rintro ⟨hwork, hserving⟩
      refine ⟨rfl, rfl, rfl, hwork, ?_⟩
      unfold ServedBy at hserving ⊢
      simpa using hserving

/-- **When a refusal changes nothing.** Whatever the listener and the runtime answer, a
    reconfiguration that is refused leaves the port's life cycle, its settings, its runtime's
    state and work and its service as they were exactly when the request did not pass the
    checks, or was accepted, or what it had already done is as if it had not been. -/
theorem refusal_unchanged_iff (working : κ → Prop) (c : GatewayController σ κ device)
    (index : Fin gatewayPortCount) (config : GatewayPortConfig) (now : CoreTick) :
    ((gatewayControllerReconfigure c index config now).1 = -1 →
      Unchanged working (c.ports index)
        ((gatewayControllerReconfigure c index config now).2.ports index)) ↔
    (TakesOn c index config → LeavesAlone working (c.ports index) config) := by
  unfold gatewayControllerReconfigure TakesOn
  -- a request that fails its checks changes nothing and meets no condition
  cases hvalid : validateReplacement c index config with
  | false => simp [Unchanged.refl]
  | true =>
    have hone : validateOne config = .none := by
      have hnone := validateOne_of_valid (by simpa [validateReplacement] using hvalid)
      simpa using hnone
    simp only [Bool.not_true, Bool.false_eq_true, if_false, GatewayController.setPort,
      Function.update_self, true_and]
    unfold reconfigurePort LeavesAlone
    split
    · rename_i hl
      have hnot : ¬ ((c.ports index).lifecycle = .ready ∨ (c.ports index).lifecycle = .disabled ∨
          (c.ports index).lifecycle = .networkWait) := by
        simpa using hl
      simp [Unchanged.refl, hnot]
    · rename_i hl
      have hin : (c.ports index).lifecycle = .ready ∨ (c.ports index).lifecycle = .disabled ∨
          (c.ports index).lifecycle = .networkWait := by
        by_contra hne
        exact hl (by simpa using hne)
      simp only [hin, forall_const]
      split
      · by_cases hdisabled : (c.ports index).lifecycle = .disabled
        · simp [reconfigureDisable, hdisabled]
        · rw [refusal_disable hdisabled]
          simp [hdisabled]
      rename_i henabled
      split
      · exact refusal_enable index config now
      rename_i hdisabled
      split
      · exact refusal_rebind (by simpa [hdisabled] using hin) config now
      · exact refusal_serial (configValid_of_validateOne hone henabled).2 now

/-! ## A listener that closed its socket and was not stopped

The stop of a built-in listener fails in one way, on a raw line that cannot be flushed, and
its socket is closed by then. -/

/-- The socket the adapter listens on is open. -/
def Listens {ω : Type} (a : RealAdapter ω) : Prop :=
  a.socketOpen a.listenerDriver.kind = true

instance {ω : Type} (a : RealAdapter ω) : Decidable (Listens a) :=
  inferInstanceAs (Decidable (_ = true))

variable {η ω : Type} {calls : SocketCalls ω} {q : RealPort η ω}

/-- The stop of a raw listener whose line is not flushed: refused, and the socket closed. -/
theorem adapterStop_failed {port : AdapterPort η ω} (hstarted : port.completionContext.listenerStarted = true)
    (hflush : FlushFails port) : adapterStop calls port = (-1, (listenerClose calls port).2) := by
  have hresult : (listenerClose calls port).1 = -1 := by
    have hraw := rawClose_result calls port hflush.1
    unfold listenerClose
    split <;> rename_i hdriver
    · exact absurd hflush.1 (by simp [hdriver, ListenerDriver.kind])
    · exact absurd hflush.1 (by simp [hdriver, ListenerDriver.kind])
    · exact absurd hflush.1 (by simp [hdriver, ListenerDriver.kind])
    · exact hraw.trans (if_pos hflush)
    · exact hraw.trans (if_pos hflush)
  unfold adapterStop
  rw [if_pos hstarted]
  rcases heq : listenerClose calls port with ⟨result, closed⟩
  rw [heq] at hresult
  obtain rfl : result = -1 := hresult
  rfl

theorem stopAnswer_real (h : Moored calls q) (howned : q.listenerOwned = true) :
    stopAnswer q = adapterStop calls q.runtime := by
  unfold stopAnswer
  rw [if_pos howned, h.transport]
  rfl

/-- The stop of a listener in working order fails exactly if the line cannot be flushed, and
    what it leaves then is not undone. -/
theorem stopUndone_iff (h : Moored calls q) (hlistens : Listens q.runtime.completionContext) :
    ((stopAnswer q).1 ≠ 0 → StopUndone Listens q (stopAnswer q).2) ↔ ¬ FlushFails q.runtime := by
  have hstarted : q.runtime.completionContext.listenerStarted = true := (h.tidy _ hlistens).1
  rw [stopAnswer_real h (h.owned.trans hstarted)]
  constructor
  · intro hundone hflush
    rw [adapterStop_failed hstarted hflush] at hundone
    have hclosed : (listenerClose calls q.runtime).2.completionContext.marks =
        q.runtime.completionContext.marks.setOpen q.runtime.completionContext.listenerDriver.kind false :=
      (listenerClose_works calls q.runtime).2
    have hopen : (listenerClose calls q.runtime).2.completionContext.marks.isOpen
        (listenerClose calls q.runtime).2.completionContext.marks.driver.kind = true :=
      (hundone (by simp)).2.mpr hlistens
    rw [hclosed, isOpen_setOpen] at hopen
    exact absurd hopen (by simp [ListenerMarks.setOpen, RealAdapter.marks])
  · intro hflush hfailed
    exact absurd ((adapterStop_works calls q.runtime).2.flushed hflush) hfailed

/-- **The refusals of a ready port.** Of a port on a built-in listener that is in service, a
    refused request leaves all as it was exactly if the listener's line can be flushed: its
    runtime takes off the listener, takes new settings and takes the stop. -/
theorem leavesAlone_iff (h : Housed calls q) (hk : Kept (fun _ => True) q)
    (hready : q.lifecycle = .ready) (config : GatewayPortConfig) :
    LeavesAlone Listens q config ↔ ¬ FlushFails q.runtime := by
  obtain ⟨hlive, hlistens⟩ := h.ready hready
  have hcalls : ListenerCalls Untouched q.runtime (stopAnswer q).2 := by
    rw [stopAnswer_real h.moored (h.moored.owned.trans hlistens.started)]
    exact (adapterStop_works calls q.runtime).1.calls
  have hlive' : Live (stopAnswer q).2.state := live_listenerCalls hlive hcalls
  have hafter : ∀ next : PortRuntime (UartBackend η) (RealAdapter ω) → Prop, next (stopAnswer q).2 →
      (AfterStop Listens q next ↔ ¬ FlushFails q.runtime) := fun next hnext =>
    ⟨fun hstop => (stopUndone_iff h.moored hlistens.isOpen).mp hstop.1,
      fun hflush => ⟨(stopUndone_iff h.moored hlistens.isOpen).mpr hflush, fun _ => hnext⟩⟩
  unfold LeavesAlone
  split
  · refine (forall_prop_of_true (by simp [hready])).trans (hafter _ fun hrefuses => ?_)
    rcases hrefuses with hs | hs <;> rw [hs] at hlive' <;> simp [Live] at hlive'
  · rw [if_neg (by simp [hready])]
    split
    · refine hafter _ ?_
      have hcoherent := (keepsRest_listenerCalls hk.coherent hcalls).coherent
      rcases portRuntimeDetachListener_answer (stopAnswer q).2 0 with ⟨_, hdetaches⟩ | ⟨hrefused, _⟩
      · exact hdetaches
      · exact absurd (hrefused.symm.trans (portRuntimeDetachListener_accepted hcoherent 0)) (by simp)
    · exact hafter _ fun hrefuses => absurd (.inl hlive') hrefuses

/-- So it is in every run in which ready ports release their listeners. -/
theorem leavesAlone_of_releases (calls : Fin gatewayPortCount → SocketCalls ω) (ports : GatewayPorts)
    (sys : Fin gatewayPortCount → UartSyscalls η) (device : Fin gatewayPortCount → η)
    (probe : Option UartFrameProbe) (world : Fin gatewayPortCount → ω) (ops : List ControllerOp)
    (hrun : RunAlong (fun c op => op.Releases c) ops
      (realControllerInit calls ports sys device probe world)) (i : Fin gatewayPortCount)
    (hready : ((runController ops (realControllerInit calls ports sys device probe world)).ports i).lifecycle =
      .ready) (config : GatewayPortConfig) :
    LeavesAlone Listens
      ((runController ops (realControllerInit calls ports sys device probe world)).ports i) config ↔
    ¬ FlushFails
      ((runController ops (realControllerInit calls ports sys device probe world)).ports i).runtime :=
  have hhoused := allHoused_of_releases calls ports sys device probe world ops hrun i
  leavesAlone_iff hhoused.1 hhoused.2 hready config

/-- A raw client is on the first port. -/
def servedRaw : RealController Nat Nat :=
  runController [.start 0, .step 1, .step 2] (rawStart stuckSyscalls)

/-- **The refusal that takes the port off the network.** The line of the client cannot be
    flushed: the move is refused, and the socket is closed. -/
theorem refusal_unserved :
    (gatewayControllerReconfigure servedRaw 0 movedRawPort 3).1 = -1 ∧
      ServedBy Listens (servedRaw.ports 0) ∧
      ¬ Unchanged Listens (servedRaw.ports 0)
        ((gatewayControllerReconfigure servedRaw 0 movedRawPort 3).2.ports 0) := by
  have hserved : ServedBy Listens (servedRaw.ports 0) := by
    unfold ServedBy
    decide +kernel
  refine ⟨by decide +kernel, hserved, fun h => ?_⟩
  have hclosed : ¬ Listens ((gatewayControllerReconfigure servedRaw 0 movedRawPort 3).2.ports
      0).runtime.completionContext := by
    decide +kernel
  exact hclosed (h.serving.mpr hserved).2

end FourVrs.Gateway
