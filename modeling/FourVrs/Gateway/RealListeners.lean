import FourVrs.Gateway.RealAdapter
import FourVrs.Network.ListenerSockets

/-!
# What the real adapter does to its port

Its functions are sequences of listener calls, so the controller may be bound to them, and
they move the adapter's own marks (started, which driver, which sockets are open and where)
only as `transport_start` and `transport_stop` say. The marks survive every callback.
-/

set_option autoImplicit false

namespace FourVrs.Gateway

open FourVrs.Core Config Uart Lib Network Modbus

variable {η ω σ κ κ' : Type} {device : σ → σ → Prop}

/-! ## A listener in its own view -/

/-- A submission does not look at the object. -/
theorem portRuntimeSubmitOperation_aroundObject (port : PortRuntime σ κ)
    (completion : Option (CoreCompletionFn κ')) (context : κ') (r : SubmitRequest) :
    (portRuntimeSubmitOperation (aroundObject port completion context) r).2.2 =
      aroundObject (portRuntimeSubmitOperation port r).2.2 completion context := by
  unfold portRuntimeSubmitOperation
  cases r.valid with
  | false => rfl
  | true =>
    simp only [Bool.not_true, Bool.false_eq_true, if_false]
    have hstate : (aroundObject port completion context).state = port.state := rfl
    have henqueue : (enqueue (aroundObject port completion context) r).2.2 =
        aroundObject (enqueue port r).2.2 completion context := by
      have hpush : queuePush (aroundObject port completion context).queue
          (newTransaction (aroundObject port completion context) r) =
            queuePush port.queue (newTransaction port r) := rfl
      unfold enqueue
      rw [hpush]
      cases queuePush port.queue (newTransaction port r) <;> rfl
    rw [hstate]
    cases port.state <;> first | rfl | exact henqueue

theorem completion_submit (port : PortRuntime σ κ) (r : SubmitRequest) :
    (portRuntimeSubmitOperation port r).2.2.completion = port.completion :=
  (tells_portRuntimeSubmitOperation port r).completion

theorem completionContext_submit (port : PortRuntime σ κ) (r : SubmitRequest) :
    (portRuntimeSubmitOperation port r).2.2.completionContext = port.completionContext := by
  unfold portRuntimeSubmitOperation enqueue
  split
  · rfl
  · split <;> first
      | rfl
      | (split <;> rfl)

/-- The port a listener has made `inner` of, in its own view. -/
structure Views (device : σ → σ → Prop) (port : PortRuntime σ κ) (inner : PortRuntime σ κ') : Prop where
  intro ::
  calls : ∃ port', ListenerCalls device port port' ∧ port'.completion = port.completion ∧
    inner = aroundObject port' inner.completion inner.completionContext

theorem views_aroundObject (port : PortRuntime σ κ) (completion : Option (CoreCompletionFn κ'))
    (context : κ') : Views device port (aroundObject port completion context) :=
  ⟨port, .refl, rfl, rfl⟩

variable (calls : SocketCalls ω) {port : PortRuntime σ κ}

theorem Views.work {inner : PortRuntime σ κ'} (h : Views device port inner) (context : κ') :
    Views device port { inner with completionContext := context } := by
  obtain ⟨port', hcalls, hcompletion, heq⟩ := h.calls
  refine ⟨port', hcalls, hcompletion, ?_⟩
  rw [heq]
  rfl

theorem Views.submit {inner : PortRuntime σ κ'} (h : Views device port inner) (r : SubmitRequest) :
    Views device port (portRuntimeSubmitOperation inner r).2.2 := by
  obtain ⟨port', hcalls, hcompletion, heq⟩ := h.calls
  refine ⟨_, hcalls.tail (.submit port' r), (completion_submit port' r).trans hcompletion, ?_⟩
  rw [completion_submit, completionContext_submit]
  conv_lhs => rw [heq]
  exact portRuntimeSubmitOperation_aroundObject port' _ _ r

/-- Back in the adapter's view. -/
theorem Views.calls_back {inner : PortRuntime σ κ'} (h : Views device port inner) (context : κ) :
    ListenerCalls device port (aroundObject inner port.completion context) := by
  obtain ⟨port', hcalls, hcompletion, heq⟩ := h.calls
  rw [heq]
  show ListenerCalls device port (aroundObject port' port.completion context)
  rw [← hcompletion]
  exact hcalls.tail (.work port' context)

theorem views_tcpStepIo {inner : PortRuntime σ Tcp.TcpListener} (h : Views device port inner)
    (io : Tcp.SocketIo) (now : CoreTick) :
    Views device port (Tcp.modbusTcpListenerStepIo inner io now) := by
  unfold Tcp.modbusTcpListenerStepIo Tcp.modbusDispatcherStep
  have hstepped : Views device port (Tcp.withListener inner
      (Tcp.stepClients inner.view.outstanding io now inner.completionContext)) := h.work _
  generalize Tcp.withListener inner
    (Tcp.stepClients inner.view.outstanding io now inner.completionContext) = stepped at hstepped
  split
  · exact hstepped
  · rename_i j request _
    have hsubmitted : Views device port (modbusTcpSubmit stepped request now 1000 1000).2 := by
      unfold modbusTcpSubmit
      split
      · exact hstepped
      · split
        · exact hstepped
        · exact hstepped.submit _
    exact hsubmitted.work _

theorem listening_stepIo (port : PortRuntime σ Tcp.TcpListener) (io : Tcp.SocketIo) (now : CoreTick) :
    (Tcp.modbusTcpListenerStepIo port io now).completionContext.listening =
      port.completionContext.listening := by
  unfold Tcp.modbusTcpListenerStepIo Tcp.modbusDispatcherStep
  have hclients := Tcp.listening_stepClients port.view.outstanding io now port.completionContext
  split
  · exact hclients
  · rename_i j request _
    have hsubmitted : (modbusTcpSubmit (Tcp.withListener port
        (Tcp.stepClients port.view.outstanding io now port.completionContext)) request now 1000
          1000).2.completionContext =
        Tcp.stepClients port.view.outstanding io now port.completionContext := by
      unfold modbusTcpSubmit
      split
      · rfl
      · split
        · rfl
        · exact completionContext_submit _ _
    exact (Tcp.listening_noteSubmission _ _ _ _ _).trans
      ((congrArg Tcp.TcpListener.listening hsubmitted).trans hclients)

theorem views_udpStepIo {inner : PortRuntime σ UdpListener} (h : Views device port inner)
    (arrivals : List (UdpAddress × List UInt8)) (now : CoreTick) :
    Views device port (modbusUdpListenerStepIo inner arrivals now) := by
  have hdispatch : ∀ (order : List PeerIndex) (inner' : PortRuntime σ UdpListener),
      Views device port inner' → Views device port (dispatchFrom now order inner') := by
    intro order
    induction order with
    | nil => exact fun inner' h' => h'
    | cons i rest ih =>
      intro inner' h'
      unfold dispatchFrom
      split
      · exact ih inner' h'
      · split
        · exact ih _ (h'.work _)
        · exact (h'.submit _).work _
  unfold modbusUdpListenerStepIo
  split
  · exact h
  · exact Views.work (hdispatch _ _ (h.work _)) _

theorem opened_stepIo (port : PortRuntime σ UdpListener) (arrivals : List (UdpAddress × List UInt8))
    (now : CoreTick) :
    (modbusUdpListenerStepIo port arrivals now).completionContext.opened =
      port.completionContext.opened := by
  have hdispatch : ∀ (order : List PeerIndex) (port' : PortRuntime σ UdpListener),
      (dispatchFrom now order port').completionContext.opened = port'.completionContext.opened := by
    intro order
    induction order with
    | nil => exact fun port' => rfl
    | cons i rest ih =>
      intro port'
      unfold dispatchFrom
      split
      · exact ih port'
      split
      · exact (ih _).trans (opened_finish _ i)
      · exact (opened_noteSubmission _ _ _ _).trans
          (congrArg UdpListener.opened (completionContext_submit port' _))
  unfold modbusUdpListenerStepIo
  split
  · rfl
  · exact (hdispatch _ _).trans (opened_receiveAll _ arrivals now)

/-! ## The marks -/

/-- What the controller's rules about a listener speak of. -/
structure ListenerMarks where
  started : Bool
  driver : ListenerDriver
  endpoints : ListenerKind → ListenEndpoint
  isOpen : ListenerKind → Bool

def RealAdapter.marks (a : RealAdapter ω) : ListenerMarks where
  started := a.listenerStarted
  driver := a.listenerDriver
  endpoints := a.endpoints
  isOpen := a.socketOpen

theorem marks_of_sockets {a a' : RealAdapter ω} (hstarted : a'.listenerStarted = a.listenerStarted)
    (hdriver : a'.listenerDriver = a.listenerDriver) (hendpoints : a'.endpoints = a.endpoints)
    (htcp : a'.listener.listening = a.listener.listening)
    (hudp : a'.udpListener.opened = a.udpListener.opened)
    (hraw : a'.rawListener.opened = a.rawListener.opened) : a'.marks = a.marks := by
  have hopen : a'.socketOpen = a.socketOpen := by
    funext kind
    cases kind with
    | tcp => exact htcp
    | udp => exact hudp
    | raw => exact hraw
  unfold RealAdapter.marks
  rw [hstarted, hdriver, hendpoints, hopen]

/-- The callbacks the listeners install. -/
def OwnCompletion (completion : Option (CoreCompletionFn (RealAdapter ω))) : Prop :=
  completion = none ∨ completion = some notifyTcp ∨ completion = some notifyUdp

theorem OwnCompletion.marks {completion : Option (CoreCompletionFn (RealAdapter ω))}
    (h : OwnCompletion completion) {notify : CoreCompletionFn (RealAdapter ω)}
    (hnotify : notify ∈ completion) (a : RealAdapter ω) (transaction : CoreTransaction)
    (status : CoreTransactionStatus) (response : List UInt8) :
    (notify a transaction status response).marks = a.marks := by
  rcases h with rfl | rfl | rfl
  · cases hnotify
  · cases hnotify
    exact marks_of_sockets rfl rfl rfl
      (Tcp.listening_completion a.listener transaction status response) rfl rfl
  · cases hnotify
    exact marks_of_sockets rfl rfl rfl rfl
      (opened_completion a.udpListener transaction status response) rfl

/-- The listener's marks and a callback of its own are left. -/
structure KeepsMarks (port port' : PortRuntime σ (RealAdapter ω)) : Prop where
  completion : OwnCompletion port'.completion
  marks : port'.completionContext.marks = port.completionContext.marks

theorem keepsMarks_of_tells {port port' : PortRuntime σ (RealAdapter ω)} (h : Tells port port')
    (hown : OwnCompletion port.completion) : KeepsMarks port port' where
  completion := h.completion ▸ hown
  marks := by
    apply @Tells.keeps _ _ _ RealAdapter.marks _ _ h
    intro notify hnotify a t s r
    exact hown.marks hnotify a t s r

/-! ## The raw listener on the adapter's port -/

theorem context_abandonActive (h : port.hasActive = false) :
    (abandonActive port).backendContext = port.backendContext := by
  unfold abandonActive
  rw [if_neg (by simp [h])]

theorem context_portRuntimeReportIoFailure (port : PortRuntime σ κ) (now : CoreTick) (message : String) :
    (portRuntimeReportIoFailure port now message).2.backendContext = port.backendContext := by
  unfold portRuntimeReportIoFailure
  split
  · rfl
  · rename_i hguard
    have hidle : port.hasActive = false := by
      simp only [Bool.or_eq_true, not_or] at hguard
      simpa using hguard.1.2
    unfold beginRecovery
    rw [context_transition]
    exact @context_abandonActive _ _ (port.tally _) hidle

/-- The programs leave the UART's descriptor and settings alone. -/
theorem untouched_rawHandle (call : RawCall) (objects : UartBackend η × ω) :
    Untouched objects.1 (rawHandle calls call objects).2.1 := by
  cases call <;> exact ⟨rfl, rfl, rfl⟩

/-- The adapter's port after a program that only reports failures. -/
theorem calls_fromRaw {port : AdapterPort η ω} (a : RealAdapter ω)
    {l l' : RawListener (UartBackend η) (RealAdapter ω)} (hport : l.port = port) (h : RawWorked l l')
    {objects : UartBackend η × ω} (huntouched : Untouched port.backendContext objects.1) :
    ListenerCalls Untouched port (fromRaw a l' objects) ∧
      (fromRaw a l' objects).completion = port.completion := by
  have hreports : ListenerCalls Untouched port l'.port ∧ l'.port.backendContext = port.backendContext ∧
      l'.port.completion = port.completion := by
    have hrun := h.port
    rw [hport] at hrun
    generalize l'.port = reported at hrun
    induction hrun with
    | refl => exact ⟨.refl, rfl, rfl⟩
    | tail _ hone ih =>
      obtain ⟨now, message, rfl⟩ := hone
      obtain ⟨hcalls, hcontext, hcompletion⟩ := ih
      exact ⟨hcalls.tail (.reportIoFailure _ now message),
        (context_portRuntimeReportIoFailure _ now message).trans hcontext,
        (tells_portRuntimeReportIoFailure _ now message).completion.trans hcompletion⟩
  obtain ⟨hcalls, hcontext, hcompletion⟩ := hreports
  have hdevice : Untouched l'.port.backendContext objects.1 := hcontext ▸ huntouched
  exact ⟨(hcalls.tail (.useDevice l'.port objects.1 hdevice)).tail (.work _ _), hcompletion⟩

theorem untouched_eval {α : Type} (prog : RawProg α) (objects : UartBackend η × ω) :
    Untouched objects.1 (prog.eval (rawHandle calls) objects).2.1 :=
  @Prog.eval_keeps _ _ _ _ _ (fun s : UartBackend η × ω => Untouched objects.1 s.1) _
    (fun call s h => h.trans (untouched_rawHandle calls call s)) prog (Untouched.refl _)

/-! ## The drivers -/

/-- The marks with one socket opened or closed. -/
def ListenerMarks.setOpen (m : ListenerMarks) (kind : ListenerKind) (isOpen : Bool) : ListenerMarks :=
  { m with isOpen := Function.update m.isOpen kind isOpen }

/-- A function of the adapter calls the runtime as a listener may and leaves a callback of its own. -/
structure AdapterWorks (port port' : AdapterPort η ω) : Prop where
  calls : ListenerCalls Untouched port port'
  completion : OwnCompletion port.completion → OwnCompletion port'.completion

theorem AdapterWorks.refl (port : AdapterPort η ω) : AdapterWorks port port := ⟨.refl, id⟩

theorem AdapterWorks.trans {port port' port'' : AdapterPort η ω} (h : AdapterWorks port port')
    (h' : AdapterWorks port' port'') : AdapterWorks port port'' :=
  ⟨h.calls.trans h'.calls, h'.completion ∘ h.completion⟩

theorem works_withAdapter (port : AdapterPort η ω) (a : RealAdapter ω) :
    AdapterWorks port (withAdapter port a) :=
  ⟨.single (.work port a), id⟩

theorem marks_setOpen {a a' : RealAdapter ω} (kind : ListenerKind)
    (hstarted : a'.listenerStarted = a.listenerStarted) (hdriver : a'.listenerDriver = a.listenerDriver)
    (hendpoints : a'.endpoints = a.endpoints)
    (hothers : ∀ other, other ≠ kind → a'.socketOpen other = a.socketOpen other) :
    a'.marks = a.marks.setOpen kind (a'.socketOpen kind) := by
  have hopen : a'.socketOpen = Function.update a.socketOpen kind (a'.socketOpen kind) := by
    funext other
    by_cases heq : other = kind
    · subst heq
      simp
    · rw [Function.update_of_ne heq, hothers other heq]
  unfold RealAdapter.marks ListenerMarks.setOpen
  rw [hstarted, hdriver, hendpoints, ← hopen]

variable (driver : ListenerDriver)

theorem works_listenerInit (port : AdapterPort η ω) :
    AdapterWorks port (listenerInit driver port) := by
  have hmodbus : ∀ (a : RealAdapter ω) (notify : CoreCompletionFn (RealAdapter ω)),
      notify = notifyTcp ∨ notify = notifyUdp →
      AdapterWorks port (portRuntimeSetCompletion (withAdapter port a) (some notify)) := by
    intro a notify hnotify
    refine ⟨Relation.ReflTransGen.tail (.single (.work port a)) (.setCompletion _ _), fun _ => ?_⟩
    rcases hnotify with rfl | rfl
    · exact .inr (.inl rfl)
    · exact .inr (.inr rfl)
  have hraw : ∀ (udp : Bool), AdapterWorks port
      (fromRaw port.completionContext (rawInit port (decide (0 ≤ port.backendContext.fd)) udp)
        (port.backendContext, port.completionContext.world)) := by
    intro udp
    have hcleared : ListenerCalls Untouched port (portRuntimeSetCompletion port none) :=
      .single (.setCompletion port none)
    exact ⟨(hcleared.tail (.useDevice _ port.backendContext (Untouched.refl _))).tail (.work _ _),
      fun _ => .inl rfl⟩
  cases driver with
  | real => exact hmodbus _ _ (.inl rfl)
  | udpMbap | udpRtu => exact hmodbus _ _ (.inr rfl)
  | rawTcp => exact hraw false
  | rawUdp => exact hraw true

theorem marks_listenerInit (port : AdapterPort η ω) :
    (listenerInit driver port).completionContext.marks =
      port.completionContext.marks.setOpen driver.kind false := by
  cases driver <;>
    exact marks_setOpen _ rfl rfl rfl fun other hne => by cases other <;> first | rfl | exact absurd rfl hne

theorem works_openListener (bound : Bool) (port : AdapterPort η ω) :
    AdapterWorks port (openListener driver bound port).2 := by
  have hraw : ∀ l : RawListener (UartBackend η) (RealAdapter ω), l.port = port →
      AdapterWorks port (fromRaw port.completionContext l (port.backendContext, port.completionContext.world)) := by
    intro l hl
    have huntouched : Untouched port.backendContext
        (port.backendContext, port.completionContext.world).1 := .refl _
    have hcalls := calls_fromRaw port.completionContext hl (.refl l) huntouched
    exact ⟨hcalls.1, fun h => hcalls.2 ▸ h⟩
  have hopened : (rawOpen (port.completionContext.rawListener.attach port) bound).2.port = port := by
    unfold rawOpen
    split
    · rfl
    · split <;> rfl
  cases driver with
  | real | udpMbap | udpRtu => exact works_withAdapter port _
  | rawTcp | rawUdp => exact hraw _ hopened

/-- What `open` of a listener comes to. -/
theorem marks_openListener (bound : Bool) (port : AdapterPort η ω) :
    (openListener driver bound port).1 = 0 ∧
        (openListener driver bound port).2.completionContext.marks =
          port.completionContext.marks.setOpen driver.kind true ∨
      (openListener driver bound port).1 = -1 ∧
        (openListener driver bound port).2.completionContext.marks = port.completionContext.marks := by
  cases driver <;> unfold openListener <;>
    simp only [Tcp.modbusTcpListenerOpen, modbusUdpListenerOpen, rawOpen]
  all_goals
    split
    · exact .inr ⟨rfl, marks_of_sockets rfl rfl rfl rfl rfl rfl⟩
    split
    · refine .inl ⟨rfl, ?_⟩
      exact marks_setOpen _ rfl rfl rfl fun other hne => by
        cases other <;> first | rfl | exact absurd rfl hne
    · exact .inr ⟨rfl, marks_of_sockets rfl rfl rfl rfl rfl rfl⟩

theorem works_listenerOpen (endpoint : ListenEndpoint) (port : AdapterPort η ω) :
    AdapterWorks port (listenerOpen calls driver endpoint port).2 := by
  unfold listenerOpen
  split
  rename_i bound world _
  have hopened := (works_withAdapter port { port.completionContext with world := world }).trans
    (works_openListener driver bound (withWorld port world))
  split <;> rename_i heq <;> rw [heq] at hopened
  · exact hopened.trans (works_withAdapter _ _)
  · exact hopened

/-- A listener that opens is at its endpoint. -/
def ListenerMarks.listenAt (m : ListenerMarks) (kind : ListenerKind) (endpoint : ListenEndpoint) :
    ListenerMarks :=
  { m.setOpen kind true with endpoints := Function.update m.endpoints kind endpoint }

theorem marks_listenerOpen (endpoint : ListenEndpoint) (port : AdapterPort η ω) :
    (listenerOpen calls driver endpoint port).1 = 0 ∧
        (listenerOpen calls driver endpoint port).2.completionContext.marks =
          port.completionContext.marks.listenAt driver.kind endpoint ∨
      (listenerOpen calls driver endpoint port).1 = -1 ∧
        (listenerOpen calls driver endpoint port).2.completionContext.marks =
          port.completionContext.marks := by
  unfold listenerOpen
  split
  rename_i bound world _
  have hopened := marks_openListener driver bound (withWorld port world)
  have hworld : (withWorld port world).completionContext.marks = port.completionContext.marks :=
    marks_of_sockets rfl rfl rfl rfl rfl rfl
  rw [hworld] at hopened
  split
  · rename_i opened heq
    rw [heq] at hopened
    rcases hopened with ⟨_, hmarks⟩ | ⟨hresult, _⟩
    · have hmarks' : opened.completionContext.marks = port.completionContext.marks.setOpen driver.kind true :=
        hmarks
      have hends : opened.completionContext.endpoints = port.completionContext.endpoints :=
        congrArg ListenerMarks.endpoints hmarks'
      refine .inl ⟨rfl, ?_⟩
      show { opened.completionContext.marks with
        endpoints := Function.update opened.completionContext.endpoints driver.kind endpoint } = _
      rw [hmarks', hends]
      rfl
    · cases hresult
  · rename_i hne heq
    rw [heq] at hopened
    rcases hopened with ⟨hresult, _⟩ | ⟨_, hmarks⟩
    · exact absurd hresult hne
    · exact .inr ⟨rfl, hmarks⟩

/-- A program of the raw listener that keeps its socket, or closes it. -/
theorem works_runRaw (port : AdapterPort η ω) {α : Type} {prog : RawListener (UartBackend η) (RealAdapter ω) →
      RawProg (α × RawListener (UartBackend η) (RealAdapter ω))}
    {l : RawListener (UartBackend η) (RealAdapter ω)} (hport : l.port = port)
    (h : Prog.Always (fun r => RawWorked l r.2) (prog (port.completionContext.rawListener.attach port))) :
    AdapterWorks port (runRaw calls port prog).2 ∧
      (runRaw calls port prog).2.completionContext.marks =
        port.completionContext.marks.setOpen .raw l.opened := by
  have hworked := h.eval (rawHandle calls) (port.backendContext, port.completionContext.world)
  have huntouched := untouched_eval calls (prog (port.completionContext.rawListener.attach port))
    (port.backendContext, port.completionContext.world)
  unfold runRaw
  generalize Prog.eval (rawHandle calls) (prog (port.completionContext.rawListener.attach port))
    (port.backendContext, port.completionContext.world) = result at hworked huntouched ⊢
  obtain ⟨⟨a, l'⟩, objects⟩ := result
  have hcalls := calls_fromRaw port.completionContext hport hworked huntouched
  refine ⟨⟨hcalls.1, fun hown => hcalls.2 ▸ hown⟩, ?_⟩
  rw [← hworked.opened]
  exact marks_setOpen .raw rfl rfl rfl fun other hne => by
    cases other <;> first | rfl | exact absurd rfl hne

theorem setOpen_self (m : ListenerMarks) (kind : ListenerKind) : m.setOpen kind (m.isOpen kind) = m := by
  unfold ListenerMarks.setOpen
  rw [Function.update_eq_self]

/-- A step leaves the marks alone. -/
theorem listenerStep_works (now : CoreTick) (port : AdapterPort η ω) :
    AdapterWorks port (listenerStep calls now port) ∧
      (listenerStep calls now port).completionContext.marks = port.completionContext.marks := by
  have htcp : ∀ io world, AdapterWorks port (stepTcp (withWorld port world) io now) ∧
      (stepTcp (withWorld port world) io now).completionContext.marks = port.completionContext.marks := by
    intro io world
    have hviews : Views Untouched (withWorld port world) (tcpPort (withWorld port world)) :=
      views_aroundObject _ _ _
    exact ⟨(works_withAdapter port { port.completionContext with world := world }).trans
        ⟨(views_tcpStepIo hviews io now).calls_back _, id⟩,
      marks_of_sockets rfl rfl rfl (listening_stepIo (tcpPort (withWorld port world)) io now) rfl rfl⟩
  have hudp : ∀ arrivals world, AdapterWorks port (stepUdp (withWorld port world) arrivals now) ∧
      (stepUdp (withWorld port world) arrivals now).completionContext.marks =
        port.completionContext.marks := by
    intro arrivals world
    have hviews : Views Untouched (withWorld port world) (udpPort (withWorld port world)) :=
      views_aroundObject _ _ _
    exact ⟨(works_withAdapter port { port.completionContext with world := world }).trans
        ⟨(views_udpStepIo hviews arrivals now).calls_back _, id⟩,
      marks_of_sockets rfl rfl rfl rfl (opened_stepIo (udpPort (withWorld port world)) arrivals now) rfl⟩
  have hraw : AdapterWorks port (runRaw calls port (stepRaw now)).2 ∧
      (runRaw calls port (stepRaw now)).2.completionContext.marks = port.completionContext.marks := by
    have hrun := @works_runRaw _ _ calls port _ (stepRaw now)
      (port.completionContext.rawListener.attach port) rfl
      (Prog.Always.bind ((always_rawStep _ now).mono fun _ h => h))
    exact ⟨hrun.1, hrun.2.trans (setOpen_self port.completionContext.marks .raw)⟩
  unfold listenerStep
  split
  · exact htcp _ _
  · exact hudp _ _
  · exact hudp _ _
  · exact hraw
  · exact hraw

/-- `close` closes the socket, whatever it returns. -/
theorem listenerClose_works (port : AdapterPort η ω) :
    AdapterWorks port (listenerClose calls port).2 ∧
      (listenerClose calls port).2.completionContext.marks =
        port.completionContext.marks.setOpen port.completionContext.listenerDriver.kind false := by
  have hraw : AdapterWorks port (runRaw calls port rawClose).2 ∧
      (runRaw calls port rawClose).2.completionContext.marks =
        port.completionContext.marks.setOpen .raw false :=
    works_runRaw calls port
      (l := { port.completionContext.rawListener.attach port with opened := false }) rfl
      ((always_rawClose _).mono fun _ h => h.2)
  unfold listenerClose
  split <;> rename_i hdriver <;> rw [hdriver]
  · refine ⟨works_withAdapter port _, marks_setOpen .tcp rfl rfl rfl fun other hne => ?_⟩
    cases other <;> first | rfl | exact absurd rfl hne
  · refine ⟨works_withAdapter port _, marks_setOpen .udp rfl rfl rfl fun other hne => ?_⟩
    cases other <;> first | rfl | exact absurd rfl hne
  · refine ⟨works_withAdapter port _, marks_setOpen .udp rfl rfl rfl fun other hne => ?_⟩
    cases other <;> first | rfl | exact absurd rfl hne
  · exact hraw
  · exact hraw

/-! ## The line that cannot be fenced off -/

/-- Closing the raw listener has a flush to make, and the UART does not make it. -/
def FlushFails (port : AdapterPort η ω) : Prop :=
  port.completionContext.listenerDriver.kind = .raw ∧
    (port.completionContext.rawListener.owned = true ∨
      port.completionContext.rawListener.flushPending = true) ∧
    (port.backendContext.fd < 0 ∨
      (port.backendContext.sys.tcflushFn port.backendContext.sysContext port.backendContext.fd).1 ≠ 0)

instance (port : AdapterPort η ω) : Decidable (FlushFails port) :=
  inferInstanceAs (Decidable (_ ∧ _ ∧ _))

theorem rawClose_result (port : AdapterPort η ω) (hraw : port.completionContext.listenerDriver.kind = .raw) :
    (runRaw calls port rawClose).1 = if FlushFails port then -1 else 0 := by
  have hfails : FlushFails port ↔ (port.completionContext.rawListener.owned = true ∨
      port.completionContext.rawListener.flushPending = true) ∧
      (port.backendContext.fd < 0 ∨ (port.backendContext.sys.tcflushFn port.backendContext.sysContext
        port.backendContext.fd).1 ≠ 0) := by
    unfold FlushFails
    simp [hraw]
  rw [if_congr hfails rfl rfl]
  unfold runRaw rawClose release closeClient endOwnership flushBoundary RawSerialState.attach
  cases hclient : port.completionContext.rawListener.clientFd <;>
    cases howned : port.completionContext.rawListener.owned <;>
    cases hpending : port.completionContext.rawListener.flushPending <;>
    by_cases hfd : 0 ≤ port.backendContext.fd <;>
    by_cases hflush : (port.backendContext.sys.tcflushFn port.backendContext.sysContext
      port.backendContext.fd).1 = 0 <;>
    simp [rawCall, Prog.eval_bind, rawHandle, hfd, hflush]

/-! ## The transport table -/

/-- Only the listener that is started has its socket open. -/
def ListenerMarks.Tidy (m : ListenerMarks) : Prop :=
  ∀ kind, m.isOpen kind = true → m.started = true ∧ kind = m.driver.kind

/-- The listener is started and its socket is open there. -/
structure ListenerMarks.ListensAt (m : ListenerMarks) (endpoint : ListenEndpoint) : Prop where
  started : m.started = true
  isOpen : m.isOpen m.driver.kind = true
  endpoint : m.endpoints m.driver.kind = endpoint

theorem ListenerMarks.Tidy.closed {m : ListenerMarks} (h : m.Tidy) (hstarted : m.started = false)
    (kind : ListenerKind) : m.isOpen kind = false := by
  cases hopen : m.isOpen kind with
  | false => rfl
  | true => exact absurd ((h kind hopen).1.symm.trans hstarted) (by simp)

theorem isOpen_setOpen (m : ListenerMarks) (kind other : ListenerKind) (b : Bool) :
    (m.setOpen kind b).isOpen other = if other = kind then b else m.isOpen other := by
  exact Function.update_apply ..

theorem tidy_close {m : ListenerMarks} (h : m.Tidy) : (m.setOpen m.driver.kind false).Tidy := by
  intro kind hopen
  rw [isOpen_setOpen] at hopen
  split at hopen
  · cases hopen
  · exact h kind hopen

/-- Where a listener is bound for the settings. -/
def endpointOf (config : GatewayPortConfig) : ListenEndpoint where
  address := config.bindAddress
  port := config.endpointPort % 65536

/-- `transport_start` comes to a listener at the settings' endpoint, or leaves things as they were. -/
structure AdapterStarts (config : GatewayPortConfig) (m m' : ListenerMarks) (result : Int) : Prop where
  tidy : m.Tidy → m'.Tidy
  outcome : result = 0 ∧ m'.ListensAt (endpointOf config) ∨ result = -1 ∧ m'.started = m.started

theorem adapterStart_works (config : GatewayPortConfig) (port : AdapterPort η ω) :
    AdapterWorks port (adapterStart calls config port).2 ∧
      AdapterStarts config port.completionContext.marks
        (adapterStart calls config port).2.completionContext.marks (adapterStart calls config port).1 := by
  unfold adapterStart
  split
  · exact ⟨.refl port, id, .inr ⟨rfl, rfl⟩⟩
  · rename_i hstarted
    have hstopped : port.completionContext.marks.started = false := Bool.eq_false_iff.mpr hstarted
    split
    · exact ⟨.refl port, id, .inr ⟨rfl, rfl⟩⟩
    split
    · exact ⟨works_withAdapter port _, id, .inr ⟨rfl, rfl⟩⟩
    · rename_i driver _
      have hchosen := works_withAdapter port
        { port.completionContext with bindAddress := config.bindAddress, listenerDriver := driver }
      have hinit := works_listenerInit driver (chooseDriver port config.bindAddress driver)
      have hmarks := marks_listenerInit driver (chooseDriver port config.bindAddress driver)
      generalize listenerInit driver (chooseDriver port config.bindAddress driver) = chosen
        at hinit hmarks
      have hopened := marks_listenerOpen calls driver (endpointOf config) chosen
      have hworks := (hchosen.trans hinit).trans (works_listenerOpen calls driver (endpointOf config) chosen)
      rw [hmarks] at hopened
      -- nothing is open while the adapter is stopped, so one socket at most is afterwards
      have hclosed : port.completionContext.marks.Tidy → ∀ kind,
          ((chooseDriver port config.bindAddress driver).completionContext.marks.setOpen driver.kind
            false).isOpen kind = false := by
        intro htidy kind
        rw [isOpen_setOpen]
        split
        · rfl
        · exact htidy.closed hstopped kind
      split <;> rename_i heq <;> rw [show ListenEndpoint.mk config.bindAddress
        (config.endpointPort % 65536) = endpointOf config from rfl] at heq <;>
        rw [heq] at hopened hworks
      · rename_i opened
        rcases hopened with ⟨_, hopen⟩ | ⟨hresult, _⟩
        · have hfinal : (markStarted opened true).completionContext.marks =
              { opened.completionContext.marks with started := true } := rfl
          refine ⟨hworks.trans (works_withAdapter _ _), ?_, .inl ⟨rfl, ?_⟩⟩
          · intro htidy kind hkind
            rw [hfinal, hopen] at hkind ⊢
            refine ⟨rfl, ?_⟩
            have hkind' : ((_ : ListenerMarks).setOpen driver.kind true).isOpen kind = true := hkind
            rw [isOpen_setOpen] at hkind'
            split at hkind'
            · assumption
            · rw [hclosed htidy kind] at hkind'
              cases hkind'
          · rw [hfinal, hopen]
            refine ⟨rfl, ?_, ?_⟩
            · exact Function.update_self ..
            · exact Function.update_self ..
        · cases hresult
      · rename_i result opened hne
        rcases hopened with ⟨hresult, _⟩ | ⟨_, hsame⟩
        · exact absurd hresult hne
        · refine ⟨hworks, ?_, .inr ⟨rfl, ?_⟩⟩
          · intro htidy kind hkind
            rw [hsame, hclosed htidy kind] at hkind
            cases hkind
          · rw [hsame]
            rfl

/-- `transport_step` leaves the marks alone. -/
theorem adapterStep_works (now : CoreTick) (port : AdapterPort η ω) :
    AdapterWorks port (adapterStep calls now port) ∧
      (adapterStep calls now port).completionContext.marks = port.completionContext.marks := by
  unfold adapterStep
  split
  · exact listenerStep_works calls now port
  · exact ⟨.refl port, rfl⟩

/-- `transport_stop` stops the listener if it returns 0, and returns 0 unless a flush fails. -/
structure AdapterStops (port : AdapterPort η ω) (m' : ListenerMarks) (result : Int) : Prop where
  tidy : port.completionContext.marks.Tidy → m'.Tidy
  stopped : result = 0 → m'.started = false
  refused : result ≠ 0 → m'.started = port.completionContext.marks.started
  flushed : ¬ FlushFails port → result = 0

theorem adapterStop_works (port : AdapterPort η ω) :
    AdapterWorks port (adapterStop calls port).2 ∧
      AdapterStops port (adapterStop calls port).2.completionContext.marks (adapterStop calls port).1 := by
  unfold adapterStop
  split
  · rename_i hstarted
    have hclose := listenerClose_works calls port
    have hresult : ¬ FlushFails port → (listenerClose calls port).1 = 0 := by
      intro hflush
      unfold listenerClose
      split <;> rename_i hdriver
      · rfl
      · rfl
      · rfl
      · rw [rawClose_result calls port (by rw [hdriver]; rfl), if_neg hflush]
      · rw [rawClose_result calls port (by rw [hdriver]; rfl), if_neg hflush]
    have hclosed : ∀ m : ListenerMarks,
        m = port.completionContext.marks.setOpen port.completionContext.listenerDriver.kind false →
        port.completionContext.marks.Tidy → m.Tidy := by
      intro m hm htidy
      rw [hm]
      exact tidy_close htidy
    split
    · rename_i closed heq
      rw [heq] at hclose
      refine ⟨hclose.1.trans (works_withAdapter _ _), ?_, fun _ => rfl, fun h => absurd rfl h, fun _ => rfl⟩
      intro htidy kind hkind
      have hall : closed.completionContext.marks.isOpen kind = false := by
        have hmarks : closed.completionContext.marks = _ := hclose.2
        rw [hmarks, isOpen_setOpen]
        split
        · rfl
        · rename_i hne
          cases hopen : port.completionContext.marks.isOpen kind with
          | false => rfl
          | true => exact absurd (htidy kind hopen).2 hne
      exact absurd (hall.symm.trans hkind) (by simp)
    · rename_i result closed hne heq
      rw [heq] at hclose hresult
      refine ⟨hclose.1, hclosed _ hclose.2, fun h => absurd h hne, fun _ => ?_,
        fun hflush => absurd (hresult hflush) hne⟩
      have hmarks : closed.completionContext.marks = _ := hclose.2
      show closed.completionContext.marks.started = _
      rw [hmarks]
      rfl
  · rename_i hstopped
    exact ⟨.refl port, id, fun _ => Bool.eq_false_iff.mpr hstopped, fun h => absurd rfl h, fun _ => rfl⟩

/-- `transport_ops` on an adapter. -/
def realTransportOps (calls : SocketCalls ω) :
    GatewayTransportOps (UartBackend η) (RealAdapter ω) Untouched where
  start := some (adapterStart calls)
  step := some (adapterStep calls)
  stop := some (adapterStop calls)
  start_calls := by
    intro f hf config port
    cases hf
    exact (adapterStart_works calls config port).1.calls
  step_calls := by
    intro f hf now port
    cases hf
    exact (adapterStep_works calls now port).1.calls
  stop_calls := by
    intro f hf port
    cases hf
    exact (adapterStop_works calls port).1.calls

end FourVrs.Gateway
