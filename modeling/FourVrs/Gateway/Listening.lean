import FourVrs.Gateway.Closing
import FourVrs.Gateway.RealListeners

/-!
# A ready port is served

The controller, the adapter and the listener each note whether a port is listened on. In
every state of a run the three agree, and a ready port's listener has its socket open where
the settings in force say, with one exception: a raw listener closes its socket and then
reports that the line was not flushed, the controller takes that for a listener that did not
stop and leaves the port ready. So no request to move or stop a listener may meet a raw line
whose flush fails (`StopsListener`, `FlushFails`).
-/

set_option autoImplicit false

namespace FourVrs.Gateway

open FourVrs.Core Config Uart Network

/-! ## Settings that pass the validation -/

/-- The settings are for a port that is to run, and have a port number. -/
def Fitted (config : GatewayPortConfig) : Prop :=
  config.enabled ≠ 0 ∧ config.endpointPort < 65536

theorem standardBaud_positive {baud : Nat} (h : standardBaud baud = true) : toUnsigned baud > 0 := by
  have hall : ∀ value ∈ baudValues, toUnsigned value > 0 := by decide
  exact hall baud (by simpa [standardBaud] using h)

variable {config : GatewayPortConfig}

/-- What the runtime checks of new settings, the validation has checked. -/
theorem configValid_of_validateOne (h : validateOne config = .none) (henabled : config.enabled ≠ 0) :
    Fitted config ∧ configValid (coreConfig config) = true := by
  unfold validateOne at h
  split at h
  · cases h
  rename_i hfields
  split at h
  · cases h
  rename_i hbaud
  split at h
  · cases h
  split at h
  · cases h
  split at h
  · cases h
  · rename_i hport
    simp only [not_or, not_and, not_lt, ge_iff_le, not_le] at hfields hport hbaud
    refine ⟨⟨henabled, by omega⟩, ?_⟩
    have hpositive : (coreConfig config).baud > 0 := by
      show toUnsigned (if _ then _ else _) > 0
      split
      · rename_i hspecial
        have hvalue := hbaud.2 hspecial
        unfold toUnsigned
        omega
      · rename_i hspecial
        exact standardBaud_positive (by simpa using hbaud.1 (by simpa using hspecial))
    have hstop : config.stopBits = 1 ∨ config.stopBits = 2 := by
      by_contra hne
      exact hfields.2.2.2.2.2.1 (fun he => hne (.inl he)) (fun he => hne (.inr he))
    unfold configValid
    simp only [hpositive, Bool.and_eq_true, decide_eq_true_eq, Bool.or_eq_true]
    simp only [coreConfig, serialModeCount, parityCount] at hfields ⊢
    refine ⟨⟨⟨⟨⟨⟨⟨?_, trivial⟩, ?_⟩, ?_⟩, ?_⟩, hstop⟩, ?_⟩, ?_⟩ <;> omega

theorem endpointOf_fitted (h : Fitted config) :
    endpointOf config = { address := config.bindAddress, port := config.endpointPort } := by
  unfold endpointOf
  rw [Nat.mod_eq_of_lt h.2]

/-! ## A runtime that can be moved -/

variable {σ κ : Type} {device : σ → σ → Prop}

/-- The runtime serves, or is on its way back to it. -/
def Live (state : PortState) : Prop :=
  state = .ready ∨ state = .active ∨ state = .waiting ∨ state = .recovering

theorem live_listenerCall {port port' : PortRuntime σ κ} (h : Live port.state)
    (hcall : ListenerCall device port port') : Live port'.state := by
  cases hcall with
  | submit request =>
    have hstate := congrArg PortControl.state (control_portRuntimeSubmitOperation port request)
    exact Eq.mpr (congrArg Live hstate) h
  | reportIoFailure now message =>
    rcases control_portRuntimeReportIoFailure port now message with heq | ⟨_, heq⟩
    · exact Eq.mpr (congrArg Live (congrArg PortControl.state heq)) h
    · exact .inr (.inr (.inr (congrArg PortControl.state heq)))
  | setCompletion completion | work context | useDevice context _ => exact h

theorem live_listenerCalls {port port' : PortRuntime σ κ} (h : Live port.state)
    (hcalls : ListenerCalls device port port') : Live port'.state := by
  induction hcalls with
  | refl => exact h
  | tail _ hcall ih => exact live_listenerCall ih hcall

variable {port : PortRuntime σ κ}

/-- A step takes it to DEGRADED at worst. -/
theorem live_portRuntimeStep (hc : port.Coherent) (h : Live port.state) (now : CoreTick) :
    Live (portRuntimeStep port now).state ∨ (portRuntimeStep port now).state = .degraded := by
  have hother : port.state ≠ .reconfiguring ∧ port.state ≠ .stopping := by
    rcases h with hs | hs | hs | hs <;> simp [hs]
  have hcontrol : ∀ c : PortControl σ κ, ControlStep port.control c → Live c.state ∨ c.state = .degraded := by
    intro c hstep
    cases hstep with
    | stay => exact .inl h
    | opened _ => exact .inl (.inl rfl)
    | lost _ => exact .inl (.inr (.inr (.inr rfl)))
    | activated _ => exact .inl (.inr (.inl rfl))
    | started _ => exact .inl (.inr (.inr (.inl rfl)))
    | completed _ | recovered _ => exact .inl (.inl rfl)
    | gaveUp _ => exact .inr rfl
    | reconfigured _ | fellBack _ => exact .inl (.inl rfl)
    | failed hs => exact (hs.elim hother.1 hother.2).elim
    | stopped hs => exact (hother.2 hs).elim
  exact hcontrol _ (control_portRuntimeStep hc now)

/-- It takes new settings. -/
theorem portRuntimeRequestReconfigure_accepted (h : Live port.state) {config : CorePortConfig}
    (hvalid : configValid config = true) (now : CoreTick) :
    (portRuntimeRequestReconfigure port config now gatewayReconfigureTimeout).1 = 0 := by
  have hstate : (cancelAll port).state = port.state := congrArg PortControl.state (control_cancelAll port)
  have hallowed : ∀ state, Live state → transitionAllowed state .reconfiguring = true := by
    rintro state (rfl | rfl | rfl | rfl) <;> rfl
  have htransition : ∀ port' : PortRuntime σ κ, port'.state = port.state →
      (portRuntimeTransition port' .reconfiguring).1 = 0 := by
    intro port' hport'
    rw [portRuntimeTransition_of_allowed hport' (hallowed _ h)]
  unfold portRuntimeRequestReconfigure
  rw [if_neg (by simp [hvalid, gatewayReconfigureTimeout, coreTicksValidInterval, coreTickHalfRange])]
  rcases h with hs | hs | hs | hs <;> simp only [hs] <;> exact htransition _ hstate

theorem abort_recovering_accepted {attempts : Nat} {deadline : CoreDeadline}
    (h : port.state = .active ∨ port.state = .waiting) :
    (portRuntimeTransition
      { abortActive port with recoveryAttempts := attempts, stateDeadline := deadline }
      .recovering).1 = 0 := by
  have hkept : (abortActive port).state = port.state := rfl
  rcases h with hs | hs
  · rw [portRuntimeTransition_of_allowed (by exact hkept.trans hs) rfl]
  · rw [portRuntimeTransition_of_allowed (by exact hkept.trans hs) rfl]

/-- Its listener can always be taken off. -/
theorem portRuntimeDetachListener_accepted (h : port.Coherent) (now : CoreTick) :
    (portRuntimeDetachListener port now).1 = 0 := by
  have hflush := control_flushQueue port
  have hstate : (flushQueue port).state = port.state := congrArg PortControl.state hflush
  unfold portRuntimeDetachListener
  split
  · rename_i hactive
    have hbusy : (flushQueue port).hasActive = true :=
      (congrArg PortControl.hasActive hflush).trans hactive
    have hs : (flushQueue port).state = .active ∨ (flushQueue port).state = .waiting := by
      rw [hstate]
      exact h.active_or_waiting hactive
    unfold portRuntimeCancelActive
    rw [if_neg (by simp [hbusy])]
    exact abort_recovering_accepted (by exact hs)
  · rfl

/-! ## The three notes agree -/

variable {η ω : Type} {calls : SocketCalls ω}

/-- A port of the controller on a real adapter. -/
abbrev RealPort (η ω : Type) : Type := UartPort η (RealAdapter ω)

abbrev RealController (η ω : Type) : Type := UartController η (RealAdapter ω)

def marksOf (p : RealPort η ω) : ListenerMarks := p.runtime.completionContext.marks

/-- The controller owns the listener the adapter has started, and no other socket is open. -/
structure Moored (calls : SocketCalls ω) (p : RealPort η ω) : Prop where
  transport : p.binding.transportOps = some (realTransportOps calls)
  own : OwnCompletion p.runtime.completion
  owned : p.listenerOwned = (marksOf p).started
  tidy : (marksOf p).Tidy

theorem Moored.of_same {p p' : RealPort η ω} (h : Moored calls p)
    (hruntime : p'.runtime = p.runtime) (hbinding : p'.binding = p.binding)
    (howned : p'.listenerOwned = p.listenerOwned) : Moored calls p' := by
  have hmarks : marksOf p' = marksOf p := by
    unfold marksOf
    rw [hruntime]
  refine ⟨by rw [hbinding, h.transport], ?_, ?_, ?_⟩
  · rw [hruntime]
    exact h.own
  · rw [hmarks, howned]
    exact h.owned
  · rw [hmarks]
    exact h.tidy

/-- The runtime has called back at most. -/
theorem Moored.tells {p : RealPort η ω} (h : Moored calls p) {runtime : AdapterPort η ω}
    (ht : Tells p.runtime runtime) :
    Moored calls { p with runtime := runtime } ∧ marksOf { p with runtime := runtime } = marksOf p := by
  have hkeeps := keepsMarks_of_tells ht h.own
  have hmarks : marksOf { p with runtime := runtime } = marksOf p := hkeeps.marks
  refine ⟨⟨h.transport, hkeeps.completion, ?_, ?_⟩, hmarks⟩
  · rw [hmarks]
    exact h.owned
  · rw [hmarks]
    exact h.tidy

/-- What `transport_start_at` makes of a port. -/
inductive StartsAt (calls : SocketCalls ω) (p : RealPort η ω) (config : GatewayPortConfig) :
    Int → RealPort η ω → Prop where
  | mk (result : Int) (runtime : AdapterPort η ω) (owned : Bool)
      (hcalls : ListenerCalls Untouched p.runtime runtime)
      (hmoored : Moored calls { p with runtime := runtime, listenerOwned := owned })
      (hlistens : result = 0 → runtime.completionContext.marks.ListensAt (endpointOf config)) :
      StartsAt calls p config result { p with runtime := runtime, listenerOwned := owned }

theorem Moored.startsAt {p q : RealPort η ω} (h : Moored calls p) {result : Int}
    (hstart : transportStartAt p config = (result, q)) :
    StartsAt calls p config result q := by
  have hworks := adapterStart_works calls config p.runtime
  have hbound : (p.binding.transportOps.bind GatewayTransportOps.start) = some (adapterStart calls) := by
    rw [h.transport]
    rfl
  unfold transportStartAt at hstart
  rw [hbound] at hstart
  dsimp only at hstart
  split at hstart <;> rename_i heq <;> rw [heq] at hworks <;> cases hstart
  · rcases hworks.2.outcome with ⟨_, hlistens⟩ | ⟨hresult, _⟩
    · exact .mk 0 _ true hworks.1.calls
        ⟨h.transport, hworks.1.completion h.own, hlistens.started.symm, hworks.2.tidy h.tidy⟩
        fun _ => hlistens
    · cases hresult
  · rename_i hne
    rcases hworks.2.outcome with ⟨hresult, _⟩ | ⟨_, hsame⟩
    · exact absurd hresult hne
    · exact .mk (-1) _ p.listenerOwned hworks.1.calls
        ⟨h.transport, hworks.1.completion h.own, h.owned.trans hsame.symm, hworks.2.tidy h.tidy⟩
        (by simp)

/-- What `transport_stop` makes of it. -/
inductive Stops (calls : SocketCalls ω) (p : RealPort η ω) : Int → RealPort η ω → Prop where
  | mk (result : Int) (runtime : AdapterPort η ω) (owned : Bool)
      (hcalls : ListenerCalls Untouched p.runtime runtime)
      (hmoored : Moored calls { p with runtime := runtime, listenerOwned := owned })
      (hfails : result ≠ 0 → FlushFails p.runtime) :
      Stops calls p result { p with runtime := runtime, listenerOwned := owned }

theorem listened_of_stop {p q : RealPort η ω} {result : Int} (hstop : transportStop p = (result, q)) :
    Listened p q := by
  have h := listened_transportStop p
  rw [hstop] at h
  exact h

theorem Moored.stops {p q : RealPort η ω} (h : Moored calls p) {result : Int}
    (hstop : transportStop p = (result, q)) : Stops calls p result q := by
  have hworks := adapterStop_works calls p.runtime
  have hbound : (p.binding.transportOps.bind GatewayTransportOps.stop) = some (adapterStop calls) := by
    rw [h.transport]
    rfl
  unfold transportStop at hstop
  split at hstop
  · rename_i howned
    rw [hbound] at hstop
    dsimp only at hstop
    split at hstop <;> rename_i heq <;> rw [heq] at hworks <;> cases hstop
    · exact .mk 0 _ false hworks.1.calls
        ⟨h.transport, hworks.1.completion h.own, (hworks.2.stopped rfl).symm, hworks.2.tidy h.tidy⟩
        fun hne => absurd rfl hne
    · rename_i hne
      have hne' : result ≠ 0 := hne
      refine .mk result _ p.listenerOwned hworks.1.calls
        ⟨h.transport, hworks.1.completion h.own, h.owned.trans (hworks.2.refused hne').symm,
          hworks.2.tidy h.tidy⟩ fun _ => ?_
      by_contra hflush
      exact hne' (hworks.2.flushed hflush)
  · rename_i howned
    cases hstop
    have hfree : p.listenerOwned = false := Bool.eq_false_iff.mpr howned
    exact .mk 0 p.runtime false .refl (h.of_same rfl rfl hfree.symm) fun hne => absurd rfl hne

theorem Moored.transportStep {p : RealPort η ω} (h : Moored calls p) (now : CoreTick) :
    Moored calls (transportStep p now) ∧ marksOf (transportStep p now) = marksOf p := by
  have hworks := adapterStep_works calls now p.runtime
  have hbound : (p.binding.transportOps.bind GatewayTransportOps.step) = some (adapterStep calls) := by
    rw [h.transport]
    rfl
  unfold Gateway.transportStep
  split
  · rw [hbound]
    have hmarks : marksOf { p with runtime := adapterStep calls now p.runtime } = marksOf p := hworks.2
    refine ⟨⟨h.transport, hworks.1.completion h.own, ?_, ?_⟩, hmarks⟩
    · show p.listenerOwned = (adapterStep calls now p.runtime).completionContext.marks.started
      rw [hworks.2]
      exact h.owned
    · show (adapterStep calls now p.runtime).completionContext.marks.Tidy
      rw [hworks.2]
      exact h.tidy
  · exact ⟨h, rfl⟩

/-! ## A port at any time -/

/-- The port is to be served. -/
def Running (lifecycle : GatewayPortLifecycle) : Prop :=
  lifecycle = .starting ∨ lifecycle = .ready ∨ lifecycle = .reconfiguring ∨
    lifecycle = .rollingBack ∨ lifecycle = .networkWait

/-- The settings a listener may be started with have a port number. -/
structure Fits (p : RealPort η ω) : Prop where
  running : Running p.lifecycle → Fitted p.current
  /-- A port that failed its validation stays ERROR with a runtime that was never started. -/
  rest : (p.lifecycle = .error → p.runtime.state ≠ .disabled) → p.current.enabled ≠ 0 →
    p.current.endpointPort < 65536
  staged : p.lifecycle = .reconfiguring → Fitted p.staged
  pending : p.pendingDisable = true →
    p.staged.enabled = 0 ∧ (p.lifecycle = .stopping ∨ p.lifecycle = .error)

/-- The invariant of a port. -/
structure Housed (calls : SocketCalls ω) (p : RealPort η ω) : Prop where
  moored : Moored calls p
  ready : p.lifecycle = .ready → Live p.runtime.state ∧ (marksOf p).ListensAt
    { address := p.current.bindAddress, port := p.current.endpointPort }
  fits : Fits p

variable {p p' : RealPort η ω}

theorem Fits.not_pending (h : Fits p) (hrunning : Running p.lifecycle) : p.pendingDisable = false := by
  cases hpending : p.pendingDisable with
  | false => rfl
  | true =>
    rcases (h.pending hpending).2 with hl | hl <;> rw [hl] at hrunning <;>
      simp [Running] at hrunning

theorem fits_of_fitted (hcurrent : Fitted p.current) (hstaged : p.lifecycle = .reconfiguring → Fitted p.staged)
    (hpending : p.pendingDisable = false) : Fits p where
  running _ := hcurrent
  rest _ _ := hcurrent.2
  staged := hstaged
  pending h := absurd (hpending.symm.trans h) (by simp)

/-- A port with settings to serve that is not READY. -/
theorem housed_of_unready (hm : Moored calls p) (hl : p.lifecycle ≠ .ready) (hcurrent : Fitted p.current)
    (hstaged : p.lifecycle = .reconfiguring → Fitted p.staged) (hpending : p.pendingDisable = false) :
    Housed calls p :=
  ⟨hm, fun h => absurd h hl, fits_of_fitted hcurrent hstaged hpending⟩

/-- A port whose listener has just been started. -/
theorem housed_of_listening (hm : Moored calls p) (hlive : Live p.runtime.state)
    (hlistens : (marksOf p).ListensAt (endpointOf p.current)) (hcurrent : Fitted p.current)
    (hl : p.lifecycle = .ready) (hpending : p.pendingDisable = false) : Housed calls p := by
  refine ⟨hm, fun _ => ⟨hlive, ?_⟩, fits_of_fitted hcurrent (fun h => ?_) hpending⟩
  · rw [← endpointOf_fitted hcurrent]
    exact hlistens
  · exact absurd (hl.symm.trans h) (by simp)

/-- A port that ends. -/
theorem housed_of_halting (hm : Moored calls p) (hl : p.lifecycle = .stopping ∨ p.lifecycle = .error)
    (hrest : p.current.enabled ≠ 0 → p.current.endpointPort < 65536)
    (hpending : p.pendingDisable = true → p.staged.enabled = 0) : Housed calls p := by
  refine ⟨hm, fun h => ?_, fun h => ?_, fun _ => hrest, fun h => ?_, fun h => ⟨hpending h, hl⟩⟩
  · rcases hl with hl | hl <;> rw [hl] at h <;> cases h
  · rcases hl with hl | hl <;> rw [hl] at h <;> simp [Running] at h
  · rcases hl with hl | hl <;> rw [hl] at h <;> cases h

/-! ## The life cycle -/

theorem housed_stopOrElse (hm : Moored calls p) (now : CoreTick)
    (hrest : p.current.enabled ≠ 0 → p.current.endpointPort < 65536)
    (hpending : p.pendingDisable = true → p.staged.enabled = 0)
    {refused : RealPort η ω → RealPort η ω}
    (hrefused : ∀ runtime, Moored calls { p with runtime := runtime } →
      Housed calls (refused { p with runtime := runtime })) :
    Housed calls (stopOrElse p now refused) := by
  have htells := tells_portRuntimeRequestStop p.runtime now gatewayStopTimeout
  unfold stopOrElse
  split <;> rename_i heq <;> rw [heq] at htells
  · exact housed_of_halting ((hm.tells htells).1.of_same rfl rfl rfl) (.inl rfl) hrest hpending
  · exact hrefused _ (hm.tells htells).1

theorem housed_startListenerOrFail (hm : Moored calls p) (hs : p.runtime.state = .ready)
    (hcurrent : Fitted p.current) (hpending : p.pendingDisable = false) (now : CoreTick) :
    Housed calls (startListenerOrFail p now) := by
  have hfree : p.pendingDisable = true → p.staged.enabled = 0 :=
    fun h => absurd (hpending.symm.trans h) (by simp)
  unfold startListenerOrFail
  split
  · exact housed_of_unready (hm.of_same rfl rfl rfl) (by simp) hcurrent (by simp) hpending
  split
  · rename_i q heq
    cases hm.startsAt heq with
    | mk runtime owned hcalls hmoored hlistens =>
      exact housed_of_listening (hmoored.of_same rfl rfl rfl) (live_listenerCalls (.inl hs) hcalls)
        (hlistens rfl) hcurrent rfl hpending
  · rename_i result q _ heq
    cases hm.startsAt heq with
    | mk runtime owned hcalls hmoored _ =>
      refine housed_stopOrElse ?_ now ?_ ?_ ?_
      · exact hmoored.of_same rfl rfl rfl
      · exact fun _ => hcurrent.2
      · exact hfree
      · intro _ hm'
        exact housed_of_halting (hm'.of_same rfl rfl rfl) (.inr rfl) (fun _ => hcurrent.2) hfree

theorem housed_stepRebind (hm : Moored calls p) (hfits : Fits p) (hl : p.lifecycle = .reconfiguring) :
    Housed calls (stepRebind p) := by
  have hrunning : Running p.lifecycle := .inr (.inr (.inl hl))
  have hcurrent := hfits.running hrunning
  have hstaged := hfits.staged hl
  have hpending := hfits.not_pending hrunning
  have hunbound : Moored calls { p with listenerRebind := false } := hm.of_same rfl rfl rfl
  unfold stepRebind
  split
  · rename_i hs
    split
    · exact housed_of_unready (hm.of_same rfl rfl rfl) (by simp) hcurrent (by simp) hpending
    split
    · rename_i q heq
      cases hunbound.startsAt heq with
      | mk runtime owned hcalls hmoored hlistens =>
        have htells : Tells runtime { runtime with
            currentConfig := { runtime.currentConfig with revision := p.staged.revision }
            knownGoodConfig := { runtime.knownGoodConfig with revision := p.staged.revision } } :=
          tells_of_same rfl rfl
        have hrelabelled := (hmoored.tells htells).1
        have hlive : Live runtime.state := live_listenerCalls (.inl hs) hcalls
        exact housed_of_listening (hrelabelled.of_same rfl rfl rfl) hlive (hlistens rfl) hstaged rfl
          hpending
    · rename_i result q _ heq
      cases hunbound.startsAt heq with
      | mk runtime owned hcalls hmoored _ =>
        have hlive : Live runtime.state := live_listenerCalls (.inl hs) hcalls
        have hback : Moored calls
            { p with
              runtime := runtime, listenerOwned := owned, listenerRebind := false
              listenerFailures := increment p.listenerFailures
              reconfigureFailures := increment p.reconfigureFailures
              lastError := .listenerStart } := hmoored.of_same rfl rfl rfl
        split
        · rename_i q' heq'
          cases hback.startsAt heq' with
          | mk runtime' owned' hcalls' hmoored' hlistens' =>
            exact housed_of_listening (hmoored'.of_same rfl rfl rfl)
              (live_listenerCalls hlive hcalls') (hlistens' rfl) hcurrent rfl hpending
        · rename_i q' _ heq'
          cases hback.startsAt heq' with
          | mk runtime' owned' hcalls' hmoored' _ =>
            exact housed_of_unready (hmoored'.of_same rfl rfl rfl) (by simp) hcurrent (by simp) hpending
  · split
    · exact housed_of_unready (hm.of_same rfl rfl rfl) (by simp) hcurrent (by simp) hpending
    · exact housed_of_unready hm (by simp [hl]) hcurrent (fun _ => hstaged) hpending

theorem housed_beginRollback (hm : Moored calls p) (hcurrent : Fitted p.current)
    (hpending : p.pendingDisable = false) (now : CoreTick) : Housed calls (beginRollback p now) := by
  have htells := tells_portRuntimeRequestReconfigure p.runtime (coreConfig p.knownGood) now
    gatewayReconfigureTimeout
  unfold beginRollback
  split <;> rename_i heq <;> rw [heq] at htells
  · exact housed_of_unready ((hm.tells htells).1.of_same rfl rfl rfl) (by simp) hcurrent (by simp) hpending
  · exact housed_of_unready ((hm.tells htells).1.of_same rfl rfl rfl) (by simp) hcurrent (by simp) hpending

theorem housed_stepReconfigure (hm : Moored calls p) (hfits : Fits p) (hl : p.lifecycle = .reconfiguring)
    (now : CoreTick) : Housed calls (stepReconfigure p now) := by
  have hrunning : Running p.lifecycle := .inr (.inr (.inl hl))
  have hcurrent := hfits.running hrunning
  have hstaged := hfits.staged hl
  have hpending := hfits.not_pending hrunning
  unfold stepReconfigure
  split
  · rename_i hs
    split
    · exact housed_startListenerOrFail
        (p := { p with
          lastError := .reconfigure, reconfigureFailures := increment p.reconfigureFailures })
        (hm.of_same rfl rfl rfl) hs hcurrent hpending now
    split
    · exact housed_of_unready (hm.of_same rfl rfl rfl) (by simp) hstaged (by simp) hpending
    split
    · rename_i q heq
      cases hm.startsAt heq with
      | mk runtime owned hcalls hmoored hlistens =>
        exact housed_of_listening (hmoored.of_same rfl rfl rfl)
          (live_listenerCalls (.inl hs) hcalls) (hlistens rfl) hstaged rfl hpending
    · rename_i result q _ heq
      cases hm.startsAt heq with
      | mk runtime owned hcalls hmoored _ =>
        refine housed_beginRollback ?_ ?_ ?_ now
        · exact hmoored.of_same rfl rfl rfl
        · exact hcurrent
        · exact hpending
  · split
    · exact housed_of_unready (hm.of_same rfl rfl rfl) (by simp) hcurrent (by simp) hpending
    · exact housed_of_unready hm (by simp [hl]) hcurrent (fun _ => hstaged) hpending

theorem housed_stepRollback (hm : Moored calls p) (hfits : Fits p) (hl : p.lifecycle = .rollingBack) :
    Housed calls (stepRollback p) := by
  have hrunning : Running p.lifecycle := .inr (.inr (.inr (.inl hl)))
  have hcurrent := hfits.running hrunning
  have hpending := hfits.not_pending hrunning
  unfold stepRollback
  split
  · rename_i hs
    split
    · exact housed_of_unready (hm.of_same rfl rfl rfl) (by simp) hcurrent (by simp) hpending
    split
    · rename_i q heq
      cases hm.startsAt heq with
      | mk runtime owned hcalls hmoored hlistens =>
        exact housed_of_listening (hmoored.of_same rfl rfl rfl)
          (live_listenerCalls (.inl hs) hcalls) (hlistens rfl) hcurrent rfl hpending
    · rename_i result q _ heq
      cases hm.startsAt heq with
      | mk runtime owned hcalls hmoored _ =>
        exact housed_of_unready (hmoored.of_same rfl rfl rfl) (by simp) hcurrent (by simp) hpending
  · split
    · exact housed_of_unready (hm.of_same rfl rfl rfl) (by simp) hcurrent (by simp) hpending
    · exact housed_of_unready hm (by simp [hl]) hcurrent (by simp [hl]) hpending

/-- A port that was stopped and is DISABLED now. -/
theorem housed_of_disabled (hm : Moored calls p) (hl : p.lifecycle = .disabled)
    (hrest : p.current.enabled ≠ 0 → p.current.endpointPort < 65536)
    (hpending : p.pendingDisable = false) : Housed calls p := by
  refine ⟨hm, fun h => ?_, fun h => ?_, fun _ => hrest, fun h => ?_, fun h => ?_⟩
  · exact absurd (hl.symm.trans h) (by simp)
  · rw [hl] at h
    simp [Running] at h
  · exact absurd (hl.symm.trans h) (by simp)
  · exact absurd (hpending.symm.trans h) (by simp)

theorem housed_stepStop (hm : Moored calls p) (hfits : Fits p) (hl : p.lifecycle = .stopping) :
    Housed calls (stepStop p) := by
  have hrest := hfits.rest (by simp [hl])
  have hstaged : p.pendingDisable = true → p.staged.enabled = 0 := fun h => (hfits.pending h).1
  unfold stepStop
  split
  · split
    · rename_i hpending
      exact housed_of_disabled (hm.of_same rfl rfl rfl) rfl
        (fun h => absurd (hstaged hpending) h) rfl
    by_cases herror : p.lastError = .none
    · refine housed_of_disabled (hm.of_same rfl rfl rfl) ?_ hrest rfl
      exact if_pos herror
    · refine housed_of_halting (hm.of_same rfl rfl rfl) (.inr ?_) hrest (by simp)
      exact if_neg herror
  · split
    · exact housed_of_halting (hm.of_same rfl rfl rfl) (.inr rfl) hrest hstaged
    · exact housed_of_halting hm (.inl hl) hrest hstaged

/-- A port between the step of its runtime and that of its life cycle. -/
structure Polled (calls : SocketCalls ω) (p : RealPort η ω) : Prop where
  moored : Moored calls p
  ready : p.lifecycle = .ready → (Live p.runtime.state ∨ p.runtime.state = .degraded) ∧
    (marksOf p).ListensAt { address := p.current.bindAddress, port := p.current.endpointPort }
  fits : Fits p

theorem Polled.housed (h : Polled calls p) (hl : p.lifecycle ≠ .ready) : Housed calls p :=
  ⟨h.moored, fun hready => absurd hready hl, h.fits⟩

theorem Polled.stepLifecycle (h : Polled calls p) (now : CoreTick) :
    Housed calls (stepLifecycle p now) := by
  have hm := h.moored
  unfold Gateway.stepLifecycle
  split <;> rename_i hl
  · have hrunning : Running p.lifecycle := .inl hl
    have hcurrent := h.fits.running hrunning
    have hpending := h.fits.not_pending hrunning
    split
    · rename_i hs
      exact housed_startListenerOrFail hm hs hcurrent hpending now
    · split
      · exact housed_of_unready (hm.of_same rfl rfl rfl) (by simp) hcurrent (by simp) hpending
      · exact h.housed (by simp [hl])
  · have hrunning : Running p.lifecycle := .inr (.inl hl)
    have hcurrent := h.fits.running hrunning
    have hpending := h.fits.not_pending hrunning
    split
    · exact housed_of_unready (hm.of_same rfl rfl rfl) (by simp) hcurrent (by simp) hpending
    · rename_i hserves
      obtain ⟨hlive, hlistens⟩ := h.ready hl
      exact ⟨hm, fun _ => ⟨hlive.resolve_right fun hd => hserves (.inl hd), hlistens⟩, h.fits⟩
  · split
    · exact housed_stepRebind hm h.fits hl
    · exact housed_stepReconfigure hm h.fits hl now
  · exact housed_stepRollback hm h.fits hl
  · exact housed_stepStop hm h.fits hl
  · exact h.housed (by simp [hl])
  · exact h.housed (by simp [hl])
  · exact h.housed (by simp [hl])
  · exact h.housed (by simp [hl])

variable {fresh : UartBackend η → Prop}

/-- A runtime at rest is left at rest by its listener and by its step. -/
theorem pollPort_resting (hk : Kept fresh p) (now : CoreTick) (hs : p.runtime.state = .disabled) :
    (pollPort p now).runtime.state = .disabled := by
  have hlistened : (listenPort p now).runtime.state = .disabled := by
    have hp := listened_transportStep { p with schedulerSteps := increment p.schedulerSteps } now
    unfold listenPort
    generalize transportStep { p with schedulerSteps := increment p.schedulerSteps } now = p' at hp
    obtain ⟨runtime, owned, hcalls⟩ := hp
    exact (keepsRest_listenerCalls hk.coherent hcalls).disabled.mpr hs
  have hrest : KeepsRest Untouched (listenPort p now).runtime
      (portRuntimeStep (listenPort p now).runtime now) :=
    keepsRest_portRuntimeStep (hk.listenPort now).coherent (by rw [hlistened]; nofun) now
  exact hrest.disabled.mpr hlistened

theorem Housed.pollPort (h : Housed calls p) (hk : Kept fresh p) (now : CoreTick) :
    Polled calls (pollPort p now) := by
  have hcounted : Moored calls { p with schedulerSteps := increment p.schedulerSteps } :=
    h.moored.of_same rfl rfl rfl
  have hlistened : Moored calls (listenPort p now) ∧ marksOf (listenPort p now) = marksOf p :=
    hcounted.transportStep now
  have hpolled := hlistened.1.tells (tells_portRuntimeStep (listenPort p now).runtime now)
  have hmarks : marksOf (Gateway.pollPort p now) = marksOf p := hpolled.2.trans hlistened.2
  have hfields := listened_transportStep { p with schedulerSteps := increment p.schedulerSteps } now
  have hcoherent := (hk.listenPort now).coherent
  have hresting := pollPort_resting hk now
  unfold Gateway.pollPort at hmarks hresting ⊢
  unfold Gateway.listenPort at hpolled hmarks hcoherent hresting ⊢
  generalize transportStep { p with schedulerSteps := increment p.schedulerSteps } now = p'
    at hfields hpolled hmarks hcoherent hresting ⊢
  obtain ⟨runtime, owned, hcalls⟩ := hfields
  refine ⟨hpolled.1, fun hl => ?_, ?_⟩
  · obtain ⟨hlive, hlistens⟩ := h.ready hl
    refine ⟨live_portRuntimeStep hcoherent (live_listenerCalls hlive hcalls) now, ?_⟩
    rw [hmarks]
    exact hlistens
  · refine ⟨h.fits.running, fun hne => h.fits.rest fun herror hs => ?_, h.fits.staged, h.fits.pending⟩
    exact hne herror (hresting hs)

theorem Housed.stepPort (h : Housed calls p) (hk : Kept fresh p) (now : CoreTick) :
    Housed calls (stepPort p now) :=
  (h.pollPort hk now).stepLifecycle now

/-! ## The calls -/

theorem housed_initPort (index : Nat) {error : GatewayError}
    (hvalid : error = .none → validateOne config = .none)
    {binding : GatewayPortBinding (UartBackend η) (RealAdapter ω) Untouched}
    (hbinding : binding.transportOps = some (realTransportOps calls)) (uart : UartBackend η)
    {a : RealAdapter ω} (hstarted : a.listenerStarted = false) (htidy : a.marks.Tidy) :
    Housed calls (initPort index config error binding (uart, a)) := by
  have hm : Moored calls (initPort index config error binding (uart, a)) :=
    ⟨hbinding, .inl rfl, hstarted.symm, htidy⟩
  by_cases herror : error = .none
  · refine housed_of_disabled hm (if_pos herror) (fun henabled => ?_) rfl
    exact (configValid_of_validateOne (hvalid herror) henabled).1.2
  · have hl : (initPort index config error binding (uart, a)).lifecycle = .error := if_neg herror
    refine ⟨hm, fun h => ?_, fun h => ?_, fun h => absurd rfl (h hl), fun h => ?_, nofun⟩
    · exact absurd (hl.symm.trans h) (by simp)
    · rw [hl] at h
      simp [Running] at h
    · exact absurd (hl.symm.trans h) (by simp)

theorem Housed.startPort (h : Housed calls p) (now : CoreTick) : Housed calls (startPort p now) := by
  have htells := tells_portRuntimeStart p.runtime now gatewayStartTimeout
  unfold Gateway.startPort
  split
  · exact h
  · rename_i hguard
    simp only [ne_eq, not_or, Decidable.not_not] at hguard
    have hport := h.fits.rest (by simp [hguard.1]) hguard.2
    have hpending : p.pendingDisable = false := by
      cases hpending : p.pendingDisable with
      | false => rfl
      | true =>
        have hl := (h.fits.pending hpending).2
        rw [hguard.1] at hl
        simp at hl
    split <;> rename_i heq <;> rw [heq] at htells
    · exact housed_of_unready ((h.moored.tells htells).1.of_same rfl rfl rfl) (by simp)
        ⟨hguard.2, hport⟩ (by simp) hpending
    · exact housed_of_unready ((h.moored.tells htells).1.of_same rfl rfl rfl) (by simp)
        ⟨hguard.2, hport⟩ (by simp) hpending

theorem Housed.not_pending_disabled (h : Housed calls p) (hl : p.lifecycle = .disabled) :
    p.pendingDisable = false := by
  cases hpending : p.pendingDisable with
  | false => rfl
  | true =>
    have hl' := (h.fits.pending hpending).2
    rw [hl] at hl'
    simp at hl'

theorem running_of_accepting {l : GatewayPortLifecycle} (hl : l = .ready ∨ l = .networkWait) : Running l := by
  rcases hl with rfl | rfl <;> simp [Running]

/-- A stop that failed leaves the port as it was: it was waiting for the network. -/
theorem Housed.stopFailed (h : Housed calls p) (hl : p.lifecycle = .ready ∨ p.lifecycle = .networkWait)
    (hflush : p.lifecycle = .ready → ¬ FlushFails p.runtime) {result : Int}
    (hstop : transportStop p = (result, p')) (hne : result ≠ 0) : Housed calls (stopFailed p') := by
  have hrunning := running_of_accepting hl
  cases h.moored.stops hstop with
  | mk runtime owned hcalls hmoored hfails =>
    have hwaits := hl.resolve_left fun hready => hflush hready (hfails hne)
    exact housed_of_unready (hmoored.of_same rfl rfl rfl) (by simp [Gateway.stopFailed, hwaits])
      (h.fits.running hrunning) (by simp [Gateway.stopFailed, hwaits]) (h.fits.not_pending hrunning)

theorem Housed.reconfigureDisable (h : Housed calls p) (hk : Kept fresh p)
    (hl : p.lifecycle = .disabled ∨ p.lifecycle = .ready ∨ p.lifecycle = .networkWait)
    (hflush : p.lifecycle = .ready → ¬ FlushFails p.runtime) (hdisable : config.enabled = 0) (now : CoreTick) :
    Housed calls (reconfigureDisable p config now).2 := by
  unfold Gateway.reconfigureDisable
  split
  · rename_i hdisabled
    exact housed_of_disabled (h.moored.of_same rfl rfl rfl) hdisabled
      (fun henabled => absurd hdisable henabled) (h.not_pending_disabled hdisabled)
  · rename_i hdisabled
    have hl := hl.resolve_left hdisabled
    have hrunning := running_of_accepting hl
    have hcurrent := h.fits.running hrunning
    have hpending := h.fits.not_pending hrunning
    split
    · rename_i q heq
      have hawake := (hk.awake hl).listened (listened_of_stop heq)
      obtain ⟨runtime', hresult, hcontrol⟩ := hawake.requestStop now
      have htells := tells_portRuntimeRequestStop q.runtime now gatewayStopTimeout
      rw [hresult] at htells ⊢
      cases h.moored.stops heq with
      | mk runtime owned hcalls hmoored _ =>
        exact housed_of_halting ((hmoored.tells htells).1.of_same rfl rfl rfl) (.inl rfl)
          (fun _ => hcurrent.2) fun _ => hdisable
    · rename_i result q hne heq
      exact h.stopFailed hl hflush heq hne

theorem Housed.reconfigureEnable (h : Housed calls p) (hl : p.lifecycle = .disabled)
    (index : Fin gatewayPortCount) (hfitted : Fitted config) (now : CoreTick) :
    Housed calls (reconfigureEnable p index config now).2 := by
  have hpending := h.not_pending_disabled hl
  have hinit : Moored calls
      { p with
        runtime := portRuntimeInit index (coreConfig config) p.binding.backendOps
          p.runtime.backendContext p.runtime.completionContext p.runtime.accepted } :=
    ⟨h.moored.transport, .inl rfl, h.moored.owned, h.moored.tidy⟩
  have htells := tells_portRuntimeStart (portRuntimeInit index (coreConfig config) p.binding.backendOps
    p.runtime.backendContext p.runtime.completionContext p.runtime.accepted) now gatewayStartTimeout
  unfold Gateway.reconfigureEnable
  split <;> rename_i heq <;> rw [heq] at htells
  · exact housed_of_unready ((hinit.tells htells).1.of_same rfl rfl rfl) (by simp) hfitted (by simp)
      hpending
  · exact housed_of_disabled ((hinit.tells htells).1.of_same rfl rfl rfl) hl (fun _ => hfitted.2) hpending

theorem Housed.reconfigureRebind (h : Housed calls p) (hl : p.lifecycle = .ready ∨ p.lifecycle = .networkWait)
    (hflush : p.lifecycle = .ready → ¬ FlushFails p.runtime) (hfitted : Fitted config) (now : CoreTick) :
    Housed calls (reconfigureRebind p config now).2 := by
  have hrunning := running_of_accepting hl
  have hcurrent := h.fits.running hrunning
  have hpending := h.fits.not_pending hrunning
  unfold Gateway.reconfigureRebind
  split
  · rename_i q heq
    have htells := tells_portRuntimeDetachListener q.runtime now
    cases h.moored.stops heq with
    | mk runtime owned hcalls hmoored _ =>
      split <;> rename_i heq' <;> rw [heq'] at htells
      · exact housed_of_unready ((hmoored.tells htells).1.of_same rfl rfl rfl) (by simp) hcurrent
          (fun _ => hfitted) hpending
      · exact housed_of_unready ((hmoored.tells htells).1.of_same rfl rfl rfl) (by simp) hcurrent
          (by simp) hpending
  · rename_i result q hne heq
    exact h.stopFailed hl hflush heq hne

theorem Housed.reconfigureSerial (h : Housed calls p) (hl : p.lifecycle = .ready ∨ p.lifecycle = .networkWait)
    (hflush : p.lifecycle = .ready → ¬ FlushFails p.runtime) (hfitted : Fitted config)
    (hvalid : configValid (coreConfig config) = true) (now : CoreTick) :
    Housed calls (reconfigureSerial p config now).2 := by
  have hrunning := running_of_accepting hl
  have hcurrent := h.fits.running hrunning
  have hpending := h.fits.not_pending hrunning
  unfold Gateway.reconfigureSerial
  split
  · rename_i q heq
    have htells := tells_portRuntimeRequestReconfigure q.runtime (coreConfig config) now
      gatewayReconfigureTimeout
    cases h.moored.stops heq with
    | mk runtime owned hcalls hmoored _ =>
      split <;> rename_i heq' <;> rw [heq'] at htells
      · exact housed_of_unready ((hmoored.tells htells).1.of_same rfl rfl rfl) (by simp) hcurrent
          (fun _ => hfitted) hpending
      · rename_i result runtime' hne
        -- a ready port's runtime takes the settings; only a port that waits gets here
        have hwaits : p.lifecycle = .networkWait := by
          refine hl.resolve_left fun hready => hne ?_
          have haccepted := portRuntimeRequestReconfigure_accepted
            (live_listenerCalls (h.ready hready).1 hcalls) hvalid now
          exact (congrArg Prod.fst heq').symm.trans haccepted
        have hback : Moored calls
            { p with runtime := runtime', listenerOwned := owned, staged := config, lastError := .none } :=
          (hmoored.tells htells).1.of_same rfl rfl rfl
        show Housed calls (transportStart { p with
          runtime := runtime', listenerOwned := owned, staged := config, lastError := .none }).2
        generalize hstart : transportStart { p with
          runtime := runtime', listenerOwned := owned, staged := config, lastError := .none } = started
        obtain ⟨result', q'⟩ := started
        cases hback.startsAt hstart with
        | mk runtime'' owned' _ hmoored' _ =>
          exact housed_of_unready hmoored' (by simp [hwaits]) hcurrent (by simp [hwaits]) hpending
  · rename_i result q hne heq
    exact h.stopFailed hl hflush heq hne

theorem Housed.reconfigurePort (h : Housed calls p) (hk : Kept fresh p) (index : Fin gatewayPortCount)
    (hvalid : validateOne config = .none) (hflush : p.lifecycle = .ready → ¬ FlushFails p.runtime)
    (now : CoreTick) :
    Housed calls (reconfigurePort p index config now).2 := by
  unfold Gateway.reconfigurePort
  split
  · exact h
  · rename_i hguard
    have hl := accepting_of_guard hguard
    split
    · rename_i hdisable
      exact h.reconfigureDisable hk hl hflush hdisable now
    · rename_i henabled
      obtain ⟨hfitted, hcore⟩ := configValid_of_validateOne hvalid henabled
      split
      · rename_i hdisabled
        exact h.reconfigureEnable hdisabled index hfitted now
      rename_i hrunning
      split
      · exact h.reconfigureRebind (hl.resolve_left hrunning) hflush hfitted now
      · exact h.reconfigureSerial (hl.resolve_left hrunning) hflush hfitted hcore now

theorem Housed.networkWaitPort (h : Housed calls p) (hk : Kept fresh p) (wait : Bool)
    (hflush : wait = true → p.lifecycle = .ready → ¬ FlushFails p.runtime) (now : CoreTick) :
    Housed calls (networkWaitPort p wait now).2 := by
  have hwaiting : Moored calls { p with networkWait := wait } := h.moored.of_same rfl rfl rfl
  unfold Gateway.networkWaitPort
  split
  · rename_i hguard
    have hrunning : Running p.lifecycle := .inr (.inl hguard.2)
    have hcurrent := h.fits.running hrunning
    have hpending := h.fits.not_pending hrunning
    split
    · rename_i q heq
      have hcoherent : q.runtime.Coherent := by
        have hawake : Awake { p with networkWait := wait } :=
          (hk.awake (.inl hguard.2)).of_same rfl rfl
        exact (hawake.listened (listened_of_stop heq)).coherent
      have haccepted := portRuntimeDetachListener_accepted hcoherent now
      have htells := tells_portRuntimeDetachListener q.runtime now
      cases hwaiting.stops heq with
      | mk runtime owned hcalls hmoored _ =>
        split <;> rename_i heq' <;> rw [heq'] at htells haccepted
        · exact housed_of_unready ((hmoored.tells htells).1.of_same rfl rfl rfl) (by simp) hcurrent
            (by simp) hpending
        · rename_i hne
          exact absurd haccepted hne
    · rename_i result q hne heq
      cases hwaiting.stops heq with
      | mk runtime owned hcalls hmoored hfails =>
        exact absurd (hfails hne) (hflush hguard.1 hguard.2)
  · exact ⟨hwaiting, h.ready, ⟨h.fits.running, h.fits.rest, h.fits.staged, h.fits.pending⟩⟩

theorem housed_shutdownRuntime (hm : Moored calls p) (hfits : Fits p)
    (hready : p.lifecycle = .ready → p.runtime.state ≠ .disabled ∧ p.runtime.state ≠ .stopping)
    (now : CoreTick) : Housed calls (shutdownRuntime p now) := by
  have hstaged : p.pendingDisable = true → p.staged.enabled = 0 := fun h => (hfits.pending h).1
  unfold shutdownRuntime
  split
  · rename_i hs
    have hrest := hfits.rest fun _ => hs.1
    refine housed_stopOrElse hm now hrest hstaged fun _ hm' => ?_
    exact housed_of_halting (hm'.of_same rfl rfl rfl) (.inr rfl) hrest hstaged
  · rename_i hs
    exact ⟨hm, fun hl => absurd (hready hl) hs, hfits⟩

theorem Housed.shutdownPort (h : Housed calls p) (hk : Kept fresh p) (now : CoreTick) :
    Housed calls (shutdownPort p now) := by
  have hawake : ∀ {result : Int} {q : RealPort η ω}, transportStop p = (result, q) →
      q.lifecycle = .ready → q.runtime.state ≠ .disabled ∧ q.runtime.state ≠ .stopping := by
    intro result q heq hl
    have hlistened := listened_of_stop heq
    have hready : p.lifecycle = .ready := by
      obtain ⟨runtime, owned, _⟩ := hlistened
      exact hl
    have hq := (hk.awake (.inl hready)).listened hlistened
    exact ⟨hq.disabled, hq.stopping⟩
  have hfits : ∀ {result : Int} {q : RealPort η ω}, transportStop p = (result, q) → Fits q := by
    intro result q heq
    have hlistened := listened_of_stop heq
    obtain ⟨runtime, owned, hcalls⟩ := hlistened
    have hrests := (keepsRest_listenerCalls hk.coherent hcalls).disabled
    exact ⟨h.fits.running, fun hne => h.fits.rest fun herror hs => hne herror (hrests.mpr hs),
      h.fits.staged, h.fits.pending⟩
  unfold Gateway.shutdownPort
  split
  · rename_i q heq
    have hq := hfits heq
    have hstate := hawake heq
    refine housed_shutdownRuntime ?_ ?_ ?_ now
    · cases h.moored.stops heq with
      | mk runtime owned hcalls hmoored _ => exact hmoored.of_same rfl rfl rfl
    · exact ⟨hq.running, hq.rest, hq.staged, hq.pending⟩
    · exact hstate
  · rename_i q _ heq
    have hq := hfits heq
    have hstate := hawake heq
    refine housed_shutdownRuntime ?_ ?_ ?_ now
    · cases h.moored.stops heq with
      | mk runtime owned hcalls hmoored _ => exact hmoored.of_same rfl rfl rfl
    · exact ⟨hq.running, hq.rest, hq.staged, hq.pending⟩
    · exact hstate

/-! ## Runs -/

/-- An adapter as `gateway_real_adapter_init` leaves it. -/
def realAdapterInit (config : GatewayPortConfig) (world : ω) : RealAdapter ω where
  bindAddress := config.bindAddress
  listenerDriver := .real
  listenerStarted := false
  listener :=
    { listening := false, nextEpoch := 0, clients := fun _ => Tcp.resetClient
      dispatcher := Modbus.modbusDispatcherInit, now := 0, accepts := 0
      history := fun _ => Tcp.emptyHistory }
  udpListener :=
    { opened := false, rtuMode := false, nextEpoch := 0, nextPeer := 0, portGeneration := 0
      now := 0, peers := fun _ => zeroPeer, requests := [], clock := 0, log := [] }
  rawListener := {}
  world := world
  endpoints := fun _ => { address := config.bindAddress, port := 0 }

/-- The controller on eight real adapters. -/
def realControllerInit (calls : Fin gatewayPortCount → SocketCalls ω) (ports : GatewayPorts)
    (sys : Fin gatewayPortCount → UartSyscalls η) (device : Fin gatewayPortCount → η)
    (probe : Option UartFrameProbe) (world : Fin gatewayPortCount → ω) : RealController η ω :=
  uartControllerInit ports (fun i => some (realTransportOps (calls i))) sys device probe
    fun i => realAdapterInit (ports i) (world i)

/-- Nothing takes a ready port's listener off while the raw line cannot be flushed, and the
    controller is not initialised anew over listeners that are started. -/
def ControllerOp.Releases (c : RealController η ω) : ControllerOp → Prop
  | .init _ => ∀ i, (c.ports i).runtime.completionContext.listenerStarted = false
  | .reconfigure index config _ => validateReplacement c index config = true →
      (c.ports index).lifecycle = .ready → ¬ FlushFails (c.ports index).runtime
  | .networkWait index wait _ => wait = true →
      (c.ports index).lifecycle = .ready → ¬ FlushFails (c.ports index).runtime
  | .start _ | .step _ | .shutdown _ => True

instance (c : RealController η ω) : (op : ControllerOp) → Decidable (op.Releases c)
  | .init _ => inferInstanceAs (Decidable (∀ _, _ = _))
  | .reconfigure _ _ _ => inferInstanceAs (Decidable (_ → _ → ¬ _))
  | .networkWait _ _ _ => inferInstanceAs (Decidable (_ → _ → ¬ _))
  | .start _ | .step _ | .shutdown _ => inferInstanceAs (Decidable True)

/-- A ready port is listened on where its settings say, and only a port that owns its
    listener has a socket open. -/
structure Served (p : RealPort η ω) : Prop where
  owned : p.lifecycle = .ready → p.listenerOwned = true
  started : p.lifecycle = .ready → p.runtime.completionContext.listenerStarted = true
  isOpen : p.lifecycle = .ready → p.runtime.completionContext.socketOpen
    p.runtime.completionContext.listenerDriver.kind = true
  endpoint : p.lifecycle = .ready → p.runtime.completionContext.endpoints
    p.runtime.completionContext.listenerDriver.kind =
      { address := p.current.bindAddress, port := p.current.endpointPort }
  unowned : p.listenerOwned = false → ∀ kind, p.runtime.completionContext.socketOpen kind = false

theorem Housed.served (h : Housed calls p) : Served p where
  owned hl := h.moored.owned.trans (h.ready hl).2.started
  started hl := (h.ready hl).2.started
  isOpen hl := (h.ready hl).2.isOpen
  endpoint hl := (h.ready hl).2.endpoint
  unowned howned kind := h.moored.tidy.closed (h.moored.owned.symm.trans howned) kind

/-- The invariant of the controller. -/
def AllHoused (calls : Fin gatewayPortCount → SocketCalls ω) (c : RealController η ω) : Prop :=
  ∀ i, Housed (calls i) (c.ports i) ∧ Kept (fun _ => True) (c.ports i)

variable {sockets : Fin gatewayPortCount → SocketCalls ω}

theorem allHoused_init {ports : GatewayPorts}
    {bindings : Fin gatewayPortCount → GatewayPortBinding (UartBackend η) (RealAdapter ω) Untouched}
    (hbindings : ∀ i, (bindings i).transportOps = some (realTransportOps (sockets i)))
    {objects : Fin gatewayPortCount → UartBackend η × RealAdapter ω}
    (hstarted : ∀ i, (objects i).2.listenerStarted = false) (htidy : ∀ i, (objects i).2.marks.Tidy) :
    AllHoused sockets (gatewayControllerInit ports bindings objects).2 := by
  intro i
  refine ⟨?_, kept_initPort i (ports i) _ (bindings i) (objects i) trivial⟩
  exact housed_initPort i (fun hvalid => validateOne_of_valid hvalid) (hbindings i) (objects i).1
    (hstarted i) (htidy i)

theorem AllHoused.setPort {c : RealController η ω} (h : AllHoused sockets c)
    (index : Fin gatewayPortCount) (hp : Housed (sockets index) p) (hk : Kept (fun _ => True) p) :
    AllHoused sockets (c.setPort index p) := by
  intro i
  unfold GatewayController.setPort
  by_cases hi : i = index
  · subst hi
    simpa using ⟨hp, hk⟩
  · simpa [hi] using h i

theorem AllHoused.exec {c : RealController η ω} (h : AllHoused sockets c) {op : ControllerOp}
    (hop : op.Releases c) : AllHoused sockets (op.exec c) := by
  cases op with
  | init ports =>
    refine allHoused_init (fun i => (h i).1.moored.transport) hop fun i => ?_
    exact (h i).1.moored.tidy
  | start now => exact fun i => ⟨(h i).1.startPort now, (h i).2.startPort now⟩
  | step now =>
    intro i
    show Housed (sockets i) ((gatewayControllerStep c now).ports i) ∧
      Kept _ ((gatewayControllerStep c now).ports i)
    rw [ports_gatewayControllerStep]
    exact ⟨(h i).1.stepPort (h i).2 now, (h i).2.stepPort now⟩
  | reconfigure index config now =>
    show AllHoused sockets (gatewayControllerReconfigure c index config now).2
    unfold gatewayControllerReconfigure
    split
    · exact h
    · rename_i hvalid
      have hvalid : validateReplacement c index config = true := by simpa using hvalid
      have hone : validateOne config = .none := by
        have hnone := validateOne_of_valid (by simpa [validateReplacement] using hvalid)
        simpa using hnone
      exact h.setPort index ((h index).1.reconfigurePort (h index).2 index hone (hop hvalid) now)
        ((h index).2.reconfigurePort index config now)
  | networkWait index wait now =>
    exact h.setPort index ((h index).1.networkWaitPort (h index).2 wait hop now)
      ((h index).2.networkWaitPort wait now)
  | shutdown now =>
    exact fun i => ⟨(h i).1.shutdownPort (h i).2 now, (closing_shutdownPort (h i).2 now).kept⟩

variable (calls : Fin gatewayPortCount → SocketCalls ω) (ports : GatewayPorts)
  (sys : Fin gatewayPortCount → UartSyscalls η) (device : Fin gatewayPortCount → η)
  (probe : Option UartFrameProbe) (world : Fin gatewayPortCount → ω) (ops : List ControllerOp)

/-- The invariant holds at the end of every run that releases its listeners. -/
theorem allHoused_of_releases
    (hrun : RunAlong (fun c op => op.Releases c) ops
      (realControllerInit calls ports sys device probe world)) :
    AllHoused calls (runController ops (realControllerInit calls ports sys device probe world)) := by
  have hstart : AllHoused calls (realControllerInit calls ports sys device probe world) := by
    refine allHoused_init (fun _ => rfl) (fun _ => rfl) fun i kind hkind => ?_
    cases kind <;> cases hkind
  have hstep : ∀ (c : RealController η ω) (op : ControllerOp), AllHoused calls c → op.Releases c →
      AllHoused calls (op.exec c) := fun _ _ h hop => h.exec hop
  exact hrun.invariant hstep hstart

/-- **A ready port is served.** In every state of a run in which no listener of a ready port
    is taken off while a raw line cannot be flushed, a ready port owns its listener, the
    adapter has it started and its socket is open where the settings in force say; and a port
    that owns no listener has no listening socket open. -/
theorem served_of_releases
    (hrun : RunAlong (fun c op => op.Releases c) ops
      (realControllerInit calls ports sys device probe world)) (i : Fin gatewayPortCount) :
    Served ((runController ops (realControllerInit calls ports sys device probe world)).ports i) :=
  (allHoused_of_releases calls ports sys device probe world ops hrun i).1.served

/-! ## Runs on a device that obeys -/

/-- A network on which every socket is bound and the clients are waiting. -/
def openSockets : SocketCalls Nat where
  bind := fun waiting _ _ => (true, waiting)
  sockets := fun waiting =>
    ({ accepted := false, recv := fun _ => .again, send := fun _ => .again }, waiting)
  datagrams := fun waiting => ([], waiting)
  accept := fun waiting => if waiting = 0 then (none, 0) else (some waiting, waiting - 1)
  nonblock := fun waiting _ => (true, waiting)
  close := fun waiting _ => waiting
  recv := fun waiting _ _ => (.transient, waiting)
  recvfrom := fun waiting => (none, waiting)
  send := fun waiting _ _ => (.transient, waiting)
  sendto := fun waiting _ _ => (.transient, waiting)

/-- The first port for a raw TCP client. -/
def rawPorts : GatewayPorts :=
  Function.update gatewayConfigurationDefaults 0
    { gatewayConfigurationDefaults 0 with transport := transportRawTcp }

/-- Its listener elsewhere. -/
def movedRawPort : GatewayPortConfig :=
  { gatewayConfigurationDefaults 0 with transport := transportRawTcp, bindPolicy := 1, revision := 2 }

def rawStart (sys : UartSyscalls Nat) : RealController Nat Nat :=
  realControllerInit (fun _ => openSockets) rawPorts (fun _ => sys) (fun _ => 0) none fun _ => 1

/-- A client comes and the listener is moved. -/
def movedRun : List ControllerOp := [.start 0, .step 1, .step 2, .reconfigure 0 movedRawPort 3, .step 4]

/-- The line is flushed, and the port is served where it has moved to. -/
theorem served_movedRun :
    ((runController movedRun (rawStart obedientSyscalls)).ports 0).lifecycle = .ready ∧
      ((runController movedRun (rawStart obedientSyscalls)).ports 0).current = movedRawPort ∧
      Served ((runController movedRun (rawStart obedientSyscalls)).ports 0) :=
  ⟨by decide +kernel, by decide +kernel, served_of_releases _ _ _ _ _ _ movedRun (by decide +kernel) 0⟩

/-- A device that does all but flush its queues. -/
def stuckSyscalls : UartSyscalls Nat :=
  { obedientSyscalls with tcflushFn := fun mode _ => (-1, mode) }

/-- **The port that is ready and not served.** The line of the client that is there cannot be
    flushed: the socket is closed, the stop of the listener fails and the port stays ready. -/
theorem ready_unserved :
    ((runController movedRun (rawStart stuckSyscalls)).ports 0).lifecycle = .ready ∧
      ¬ Served ((runController movedRun (rawStart stuckSyscalls)).ports 0) := by
  have hready : ((runController movedRun (rawStart stuckSyscalls)).ports 0).lifecycle = .ready := by
    decide +kernel
  have hclosed : ((runController movedRun (rawStart stuckSyscalls)).ports
      0).runtime.completionContext.socketOpen ((runController movedRun (rawStart stuckSyscalls)).ports
        0).runtime.completionContext.listenerDriver.kind = false := by
    decide +kernel
  exact ⟨hready, fun h => absurd (hclosed.symm.trans (h.isOpen hready)) (by simp)⟩

end FourVrs.Gateway
