import FourVrs.Network.TcpListener

/-!
# The TCP listener and the runtime as moves

Whatever the sockets and the backend do, the listener, its dispatcher and the port
runtime do one of a few things: note something down, accept or close a connection,
receive bytes, take a frame off the front of them, submit the request in front of a
slot, answer or discard a transaction, send some bytes. `TcpMove` lists them on a table
that keeps of the runtime only the transactions it holds and those it ever accepted,
each as it was submitted. `tcpMoves_tcpRun` proves that every run is made of moves, so
the rest of the reasoning is about moves.
-/

set_option autoImplicit false

namespace FourVrs.Network.Tcp

open FourVrs.Core Modbus

variable {σ : Type}

/-! ## Runs -/

inductive TcpStep : PortRuntime σ TcpListener → PortRuntime σ TcpListener → Prop where
  | stepIo (port : PortRuntime σ TcpListener) (io : SocketIo) (now : CoreTick) :
      TcpStep port (modbusTcpListenerStepIo port io now)
  | call (port : PortRuntime σ TcpListener) (op : PortOp) (served : op.request = none) :
      TcpStep port (op.exec port)
  | «open» (port : PortRuntime σ TcpListener) (bound : Bool) :
      TcpStep port (withListener port (modbusTcpListenerOpen port.completionContext bound).2)
  | close (port : PortRuntime σ TcpListener) :
      TcpStep port (withListener port (modbusTcpListenerClose port.completionContext))

/-- A listener is initialised on a port without outstanding transactions; from then on it
    is opened, stepped and closed, and the runtime is called, in any order. -/
inductive TcpRun : PortRuntime σ TcpListener → Prop where
  | init (port : PortRuntime σ TcpListener) (coherent : port.Coherent)
      (idle : port.view.outstanding = []) : TcpRun (modbusTcpListenerInit port)
  | step {port port' : PortRuntime σ TcpListener} (run : TcpRun port) (next : TcpStep port port') :
      TcpRun port'

/-! ## The table and its moves -/

structure TcpTable where
  listener : TcpListener
  carried : List CoreTransaction
  accepted : List CoreTransaction

def tableOf (v : PortView TcpListener) : TcpTable where
  listener := v.context
  carried := v.outstanding.map CoreTransaction.submitted
  accepted := v.accepted

def tcpTable (port : PortRuntime σ TcpListener) : TcpTable := tableOf port.view

def TcpTable.withListener (w : TcpTable) (l : TcpListener) : TcpTable := { w with listener := l }

/-- `client'` differs from `client` in its times, its flags and nothing else. -/
structure SameConnection (client' client : TcpClient) : Prop where
  opened : client'.opened = client.opened
  id : client'.id = client.id
  epoch : client'.epoch = client.epoch
  conn : client'.conn = client.conn
  bytes : client'.rx.bytes = client.rx.bytes
  tx : client'.tx = client.tx
  txOffset : client'.txOffset = client.txOffset

/-- The parser of client `i` holds `bytes`. -/
def withRx (l : TcpListener) (i : ClientIndex) (bytes : List UInt8) : TcpListener :=
  l.setClient i { l.clients i with rx := { (l.clients i).rx with bytes := bytes } }

/-- `data` has come in on the connection of client `i`. -/
def appendRx (l : TcpListener) (i : ClientIndex) (data : List UInt8) : TcpListener :=
  withRx (l.record (l.clients i).conn fun h => { h with received := h.received ++ data }) i
    ((l.clients i).rx.bytes ++ data)

/-- `t` is the transaction of `request`. -/
structure Made (request : ModbusTcpRequest) (t : CoreTransaction) : Prop where
  payload : t.payload = requestRtu request.adu
  ownerId : t.ownerId = request.clientId
  metadata : t.transportMetadata =
    requestMetadata request.adu.transactionId request.adu.unitId (byteAt request.adu.pdu 0)
      request.clientEpoch

/-- `data` is a frame `completion` queues for `t`. -/
def AnswerOf (t : CoreTransaction) (data : List UInt8) : Prop :=
  (∃ response, modbusTcpBuildResponse t response mbapAduMax = .ok data) ∨
    data = modbusTcpBuildGatewayException t modbusExceptionGatewayTargetNoResponse

inductive TcpMove : TcpTable → TcpTable → Prop where
  | now (w : TcpTable) (now : CoreTick) :
      TcpMove w (w.withListener { w.listener with now := now })
  | listen (w : TcpTable) (listening : Bool) :
      TcpMove w (w.withListener { w.listener with listening := listening })
  | note (w : TcpTable) (i : ClientIndex) (client : TcpClient)
      (same : SameConnection client (w.listener.clients i)) :
      TcpMove w (w.withListener (w.listener.setClient i client))
  | pass (w : TcpTable) (j : ClientIndex) :
      TcpMove w
        (w.withListener
          { w.listener with dispatcher := { w.listener.dispatcher with nextClient := j } })
  | accept (w : TcpTable) (now : CoreTick) :
      TcpMove w (w.withListener (acceptOne w.listener now true))
  | close (w : TcpTable) (i : ClientIndex) : TcpMove w (w.withListener (closeClient w.listener i))
  | receive (w : TcpTable) (i : ClientIndex) (data : List UInt8)
      (opened : (w.listener.clients i).opened = true) :
      TcpMove w (w.withListener (appendRx w.listener i data))
  | admitted (w : TcpTable) (i : ClientIndex) (adu : MbapAdu) (rest : List UInt8)
      (opened : (w.listener.clients i).opened = true)
      (front : (w.listener.clients i).rx.bytes = encodeAdu adu ++ rest) (pdu : adu.pdu ≠ [])
      (taken : (admitAdu i w.listener adu).1 = 0) :
      TcpMove w (w.withListener (withRx (admitAdu i w.listener adu).2 i rest))
  | send (w : TcpTable) (i : ClientIndex) (slot : List UInt8) (rest : List (List UInt8))
      (amount : Nat) (now : CoreTick) (opened : (w.listener.clients i).opened = true)
      (line : (w.listener.clients i).tx = slot :: rest)
      (fits : amount ≤ slot.length - (w.listener.clients i).txOffset) :
      TcpMove w (w.withListener (sendBytes w.listener i slot amount now))
  | submit (w : TcpTable) (j : ClientIndex) (request : ModbusTcpRequest) (t : CoreTransaction)
      (picked : dispatcherPick w.listener.dispatcher = some (j, request)) (made : Made request t)
      (serial : t.serial = w.accepted.length) :
      TcpMove w
        { listener := noteSubmission w.listener j request .accepted w.accepted.length
          carried := w.carried ++ [t], accepted := w.accepted ++ [t] }
  | answer (w : TcpTable) (i : ClientIndex) (t : CoreTransaction) (rest : List CoreTransaction)
      (data : List UInt8) (held : w.carried = t :: rest)
      (opened : (w.listener.clients i).opened = true)
      (epoch : (w.listener.clients i).epoch = metaClientEpoch t) (answers : AnswerOf t data) :
      TcpMove w
        { w.withListener (appendResponse w.listener i t.serial data) with carried := rest }
  | discard (w : TcpTable) (rest : List CoreTransaction) (fewer : rest.Sublist w.carried) :
      TcpMove w { w with carried := rest }

abbrev TcpMoves : TcpTable → TcpTable → Prop := Relation.ReflTransGen TcpMove

/-! ## The listener alone -/

/-- The listener of `w` becomes `l'` by moves that leave the transactions alone. -/
def Leads (w : TcpTable) (l' : TcpListener) : Prop := TcpMoves w (w.withListener l')

theorem Leads.refl (w : TcpTable) : Leads w w.listener := Relation.ReflTransGen.refl

variable {l : TcpListener} {w : TcpTable}

theorem Leads.move {l l' : TcpListener} (h : Leads w l)
    (hmove : TcpMove (w.withListener l) (w.withListener l')) : Leads w l' := h.tail hmove

@[simp] theorem setClient_self (l : TcpListener) (i : ClientIndex) (client : TcpClient) :
    (l.setClient i client).clients i = client := Function.update_self ..

theorem setClient_ne {i j : ClientIndex} (h : j ≠ i) (client : TcpClient) :
    (l.setClient i client).clients j = l.clients j := Function.update_of_ne h ..

@[simp] theorem setClient_setClient (l : TcpListener) (i : ClientIndex) (a b : TcpClient) :
    (l.setClient i a).setClient i b = l.setClient i b := by
  simp [TcpListener.setClient]

@[simp] theorem setClient_dispatcher (l : TcpListener) (i : ClientIndex) (client : TcpClient) :
    (l.setClient i client).dispatcher = l.dispatcher := rfl

@[simp] theorem record_clients (l : TcpListener) (conn : Nat)
    (f : ConnectionHistory → ConnectionHistory) : (l.record conn f).clients = l.clients := rfl

@[simp] theorem record_dispatcher (l : TcpListener) (conn : Nat)
    (f : ConnectionHistory → ConnectionHistory) : (l.record conn f).dispatcher = l.dispatcher := rfl

@[simp] theorem withListener_listener (w : TcpTable) (l : TcpListener) :
    (w.withListener l).listener = l := rfl

@[simp] theorem withListener_withListener (w : TcpTable) (l l' : TcpListener) :
    (w.withListener l).withListener l' = w.withListener l' := rfl

@[simp] theorem withRx_self (l : TcpListener) (i : ClientIndex) (bytes : List UInt8) :
    (withRx l i bytes).clients i =
      { l.clients i with rx := { (l.clients i).rx with bytes := bytes } } := setClient_self ..

@[simp] theorem withRx_setClient (l : TcpListener) (i : ClientIndex) (bytes : List UInt8)
    (client : TcpClient) : (withRx l i bytes).setClient i client = l.setClient i client :=
  setClient_setClient ..

/-- Closing reads the identity of the client and forgets the rest. -/
theorem closeClient_setClient (l : TcpListener) (i : ClientIndex) {client : TcpClient}
    (hopened : client.opened = (l.clients i).opened) (hid : client.id = (l.clients i).id)
    (hepoch : client.epoch = (l.clients i).epoch) :
    closeClient (l.setClient i client) i = closeClient l i := by
  unfold closeClient
  rw [setClient_setClient, setClient_self, hopened, hid, hepoch, setClient_dispatcher]

theorem closeClient_withRx (l : TcpListener) (i : ClientIndex) (bytes : List UInt8) :
    closeClient (withRx l i bytes) i = closeClient l i := closeClient_setClient l i rfl rfl rfl

/-! ## Feeding the parser -/

theorem modbusDispatcherEnqueue_refused {d : ModbusDispatcher} (request : ModbusTcpRequest)
    (h : (modbusDispatcherEnqueue d request).1 ≠ 0) :
    (modbusDispatcherEnqueue d request).2 = d := by
  revert h
  unfold modbusDispatcherEnqueue
  split
  · split
    · simp
    · split <;> simp
  · simp

/-- The dispatcher's verdict on a frame of client `i`. -/
def enqueued (l : TcpListener) (i : ClientIndex) (adu : MbapAdu) : Int × ModbusDispatcher :=
  modbusDispatcherEnqueue l.dispatcher (clientRequest (l.clients i) adu)

theorem admitAdu_cases (l : TcpListener) (i : ClientIndex) (adu : MbapAdu) :
    (enqueued l i adu).1 = 0 ∧
        admitAdu i l adu = (0, ({ l with dispatcher := (enqueued l i adu).2 }).record
          (l.clients i).conn fun h => { h with requests := h.requests ++ [adu] }) ∨
      (enqueued l i adu).1 ≠ 0 ∧ admitAdu i l adu = (1, l) := by
  have hrefused := modbusDispatcherEnqueue_refused (d := l.dispatcher)
    (clientRequest (l.clients i) adu)
  unfold admitAdu enqueued
  generalize modbusDispatcherEnqueue l.dispatcher (clientRequest (l.clients i) adu) = verdict
    at hrefused ⊢
  obtain ⟨result, dispatcher⟩ := verdict
  by_cases hresult : result = 0
  · subst hresult
    exact .inl ⟨rfl, rfl⟩
  · refine .inr ⟨hresult, ?_⟩
    have hsame : dispatcher = l.dispatcher := hrefused hresult
    subst hsame
    split
    · rename_i heq
      exact absurd (congrArg Prod.fst heq) hresult
    · rename_i heq
      cases heq
      rfl

variable {i : ClientIndex}

theorem admitAdu_refused {adu : MbapAdu} (h : (admitAdu i l adu).1 ≠ 0) : (admitAdu i l adu).2 = l := by
  rcases admitAdu_cases l i adu with ⟨-, hadmitted⟩ | ⟨-, hadmitted⟩
  · simp [hadmitted] at h
  · rw [hadmitted]

@[simp] theorem admitAdu_clients (l : TcpListener) (i : ClientIndex) (adu : MbapAdu) :
    (admitAdu i l adu).2.clients = l.clients := by
  rcases admitAdu_cases l i adu with ⟨-, hadmitted⟩ | ⟨-, hadmitted⟩
  · rw [hadmitted]
    rfl
  · rw [hadmitted]

/-- `admitAdu` does not look at the parser. -/
theorem admitAdu_withRx (l : TcpListener) (i : ClientIndex) (adu : MbapAdu) (bytes : List UInt8) :
    admitAdu i (withRx l i bytes) adu = ((admitAdu i l adu).1, withRx (admitAdu i l adu).2 i bytes) := by
  have hsame : enqueued (withRx l i bytes) i adu = enqueued l i adu := by
    simp [enqueued, withRx, clientRequest]
  have hconn : ((withRx l i bytes).clients i).conn = (l.clients i).conn := by
    simp [withRx]
  rcases admitAdu_cases l i adu with ⟨htaken, hadmitted⟩ | ⟨hrefused, hadmitted⟩
  · rcases admitAdu_cases (withRx l i bytes) i adu with ⟨-, hadmitted'⟩ | ⟨hrefused, -⟩
    · rw [hadmitted, hadmitted', hsame, hconn]
      rfl
    · exact absurd htaken (hsame ▸ hrefused)
  · rcases admitAdu_cases (withRx l i bytes) i adu with ⟨htaken, -⟩ | ⟨-, hadmitted'⟩
    · exact absurd htaken (hsame ▸ hrefused)
    · rw [hadmitted, hadmitted']

theorem withRx_withRx (l : TcpListener) (i : ClientIndex) (bytes bytes' : List UInt8) :
    withRx (withRx l i bytes) i bytes' = withRx l i bytes' := by
  simp [withRx]

/-- What is left of a piece of input once some of its frames are taken. -/
structure Fed (w : TcpTable) (i : ClientIndex) (bytes : List UInt8) (l : TcpListener) : Prop where
  opened : (l.clients i).opened = true
  leads : Leads w (withRx l i bytes)

theorem keepsFrames_fed (w : TcpTable) (i : ClientIndex) :
    KeepsFrames (admitAdu i) (Fed w i) where
  taken := by
    intro adu rest l hpdu htaken h
    refine ⟨by simpa using h.opened, h.leads.move ?_⟩
    have hmove := TcpMove.admitted (w.withListener (withRx l i (encodeAdu adu ++ rest))) i adu rest
      (by simpa using h.opened) (by simp) hpdu (by simpa [admitAdu_withRx] using htaken)
    simpa [admitAdu_withRx, withRx_withRx] using hmove
  refused := by
    intro adu bytes l hrefused h
    rw [admitAdu_refused hrefused]
    exact h

/-- Feeding a parser is a sequence of moves, or the client is about to be closed. -/
theorem leads_feedClient (data : List UInt8) (h : Fed w i ((l.clients i).rx.bytes ++ data) l) :
    (feedClient l i data).1 ≠ .overflow ∧ Leads w (feedClient l i data).2 ∨
      ((feedClient l i data).1 = .overflow ∨ (feedClient l i data).1 = .malformed) ∧
        closeClient (feedClient l i data).2 i = closeClient l i := by
  have hrule := mbapStreamFeed_rule (keepsFrames_fed w i) (l.clients i).rx data h
  unfold feedClient
  generalize mbapStreamFeed (l.clients i).rx data (admitAdu i) l = fed at hrule ⊢
  obtain ⟨result, rx, l'⟩ := fed
  rcases hrule with ⟨hresult, -, hfed⟩ | ⟨hresult, hcontext⟩
  · refine .inl ⟨hresult, hfed.leads.move ?_⟩
    have hmove := TcpMove.note (w.withListener (withRx l' i rx.bytes)) i
      { l'.clients i with rx := rx }
      ⟨by simp, by simp, by simp, by simp, by simp, by simp, by simp⟩
    simpa using hmove
  · refine .inr ⟨hresult, ?_⟩
    have hcontext' : l' = l := hcontext
    subst hcontext'
    exact closeClient_setClient l' i rfl rfl rfl

/-! ## The loop over the clients -/

theorem leads_closeClient (h : Leads w l) (i : ClientIndex) :
    Leads w (closeClient l i) := h.move (.close (w.withListener l) i)

theorem leads_note (h : Leads w l) {client : TcpClient} (same : SameConnection client (l.clients i)) :
    Leads w (l.setClient i client) := h.move (.note (w.withListener l) i client same)

theorem leads_receiveBytes (h : Leads w l) (hopened : (l.clients i).opened = true) (now : CoreTick)
    (data : List UInt8) :
    Leads w (receiveBytes l i now data) := by
  unfold receiveBytes
  generalize hnoted : l.setClient i
    { l.clients i with
      frameStartedAt := if (l.clients i).rx.bytes = [] then now else (l.clients i).frameStartedAt
      lastProgress := now } = noted
  have hself : noted.clients i =
      { l.clients i with
        frameStartedAt := if (l.clients i).rx.bytes = [] then now else (l.clients i).frameStartedAt
        lastProgress := now } := by
    rw [← hnoted, setClient_self]
  have hnote : Leads w noted := by
    rw [← hnoted]
    exact leads_note h ⟨rfl, rfl, rfl, rfl, rfl, rfl, rfl⟩
  have hconn : (noted.clients i).conn = (l.clients i).conn := by rw [hself]
  have hnotedOpen : (noted.clients i).opened = true := by
    rw [hself]
    exact hopened
  rw [← hconn]
  have hreceive := hnote.move (.receive (w.withListener noted) i data hnotedOpen)
  have hfed := leads_feedClient (w := w) (i := i)
    (l := noted.record (noted.clients i).conn fun h => { h with received := h.received ++ data }) data
    ⟨hnotedOpen, hreceive⟩
  have hclosed : Leads w (closeClient (feedClient
      (noted.record (noted.clients i).conn fun h => { h with received := h.received ++ data }) i
      data).2 i) := by
    rcases hfed with ⟨-, hleads⟩ | ⟨-, hclose⟩
    · exact leads_closeClient hleads i
    · -- the bytes that did not fit are forgotten with the client
      rw [hclose]
      have hforget := leads_closeClient hreceive i
      rwa [withListener_listener, appendRx, closeClient_withRx] at hforget
  split
  · rename_i l' hfeed
    rwa [hfeed] at hclosed
  · rename_i l' hfeed
    rwa [hfeed] at hclosed
  · rename_i result l' hmalformed hoverflow hfeed
    rw [hfeed] at hfed
    rcases hfed with ⟨-, hleads⟩ | ⟨hresult | hresult, -⟩
    · exact hleads
    · exact (hoverflow hresult).elim
    · exact (hmalformed hresult).elim

theorem leads_readClient (h : Leads w l) (hopened : (l.clients i).opened = true) (now : CoreTick)
    (recv : RecvResult) :
    Leads w (readClient l i now recv) := by
  unfold readClient
  split
  · exact h
  · cases recv with
    | got data =>
      by_cases hdata : data = []
      · simp only [hdata, if_true]
        exact leads_note h ⟨rfl, rfl, rfl, rfl, rfl, rfl, rfl⟩
      · simp only [hdata, if_false]
        exact leads_receiveBytes h hopened now _
    | again => exact h
    | error => exact leads_closeClient h i

/-- A feed without data cannot overflow. -/
theorem feedClient_nil (l : TcpListener) (i : ClientIndex) :
    (feedClient l i []).1 ≠ .overflow := by
  show (mbapStreamFeed (l.clients i).rx [] (admitAdu i) l).1 ≠ .overflow
  unfold mbapStreamFeed
  split
  · simp
  split
  · rename_i hlength
    simp at hlength
  split
  split
  · simp
  · split <;> simp

theorem leads_drainParser (h : Leads w l) (hopened : (l.clients i).opened = true) : Leads w (drainParser l i) := by
  have hsame : withRx l i ((l.clients i).rx.bytes ++ []) = l := by
    simp [withRx, TcpListener.setClient]
  have hfed := leads_feedClient (w := w) (l := l) (i := i) [] ⟨hopened, by
    rw [hsame]
    exact h⟩
  have hoverflow := feedClient_nil l i
  unfold drainParser
  split
  · rename_i l' hfeed
    rw [hfeed] at hfed
    rcases hfed with ⟨-, hleads⟩ | ⟨-, hclose⟩
    · exact leads_closeClient hleads i
    · rw [hclose]
      exact leads_closeClient h i
  · rename_i result l' hmalformed hfeed
    rw [hfeed] at hfed hoverflow
    rcases hfed with ⟨-, hleads⟩ | ⟨hresult | hresult, -⟩
    · exact hleads
    · exact absurd hresult hoverflow
    · exact (hmalformed hresult).elim

theorem leads_writeClient (h : Leads w l) (hopened : (l.clients i).opened = true) (now : CoreTick)
    (send : SendResult) :
    Leads w (writeClient l i now send) := by
  unfold writeClient
  split
  · exact h
  · rename_i slot rest hline
    cases send with
    | sent amount =>
      by_cases hamount : amount = 0
      · simpa [hamount] using h
      · simp only [hamount, if_false]
        refine h.move (.send (w.withListener l) i slot rest _ now hopened hline ?_)
        rw [withListener_listener]
        omega
    | again => exact h
    | error => exact leads_closeClient h i

theorem leads_retireClient (h : Leads w l) (held : List CoreTransaction) (i : ClientIndex) (now : CoreTick) :
    Leads w (retireClient held l i now) := by
  unfold retireClient
  split
  · exact leads_closeClient h i
  split
  · exact leads_closeClient h i
  · split
    · exact leads_closeClient h i
    · exact h

theorem leads_whenOpen (h : Leads w l) {f : TcpListener → TcpListener}
    (hf : (l.clients i).opened = true → Leads w (f l)) : Leads w (whenOpen l i f) := by
  unfold whenOpen
  split
  · exact hf ‹_›
  · exact h

theorem leads_stepClient (h : Leads w l) (held : List CoreTransaction) (io : SocketIo) (now : CoreTick)
    (i : ClientIndex) :
    Leads w (stepClient held io now l i) := by
  unfold stepClient
  apply leads_whenOpen h
  intro hopened
  have hdrained := leads_drainParser h hopened
  apply leads_whenOpen hdrained
  intro hopened'
  have hread := leads_readClient hdrained hopened' now (io.recv i)
  apply leads_whenOpen hread
  intro hopened''
  split
  · exact leads_closeClient hread i
  · have hwritten := leads_writeClient hread hopened'' now (io.send i)
    apply leads_whenOpen hwritten
    intro _
    exact leads_retireClient hwritten held i now

theorem leads_acceptOne (h : Leads w l) (now : CoreTick) (accepted : Bool) :
    Leads w (acceptOne l now accepted) := by
  cases accepted with
  | false => exact h
  | true => exact h.move (.accept (w.withListener l) now)

theorem leads_stepClients (h : Leads w l) (held : List CoreTransaction) (io : SocketIo) (now : CoreTick) :
    Leads w (stepClients held io now l) := by
  have hnow : Leads w { l with now := now } := h.move (.now (w.withListener l) now)
  have hloop : ∀ (order : List ClientIndex) {l' : TcpListener}, Leads w l' →
      Leads w (order.foldl (stepClient held io now) l') := by
    intro order
    induction order with
    | nil =>
      intro l' h'
      exact h'
    | cons i rest ih =>
      intro l' h'
      exact ih (leads_stepClient h' held io now i)
  unfold stepClients
  apply hloop
  split
  · exact leads_acceptOne hnow now io.accepted
  · exact hnow

theorem leads_close (h : Leads w l) :
    Leads w (modbusTcpListenerClose l) := by
  have hloop : ∀ (order : List ClientIndex) {l' : TcpListener}, Leads w l' →
      Leads w (order.foldl closeClient l') := by
    intro order
    induction order with
    | nil =>
      intro l' h'
      exact h'
    | cons i rest ih =>
      intro l' h'
      exact ih (leads_closeClient h' i)
  have hclosed := hloop (List.finRange modbusClientMax) h
  exact hclosed.move (.listen (w.withListener _) false)

theorem leads_open (h : Leads w l) (bound : Bool) :
    Leads w (modbusTcpListenerOpen l bound).2 := by
  unfold modbusTcpListenerOpen
  split
  · exact h
  · split
    · exact h.move (.listen (w.withListener l) true)
    · exact h

/-! ## Submission -/

/-- The transaction `modbus_tcp_submit` makes of a request. -/
def tcpTransaction (port : PortRuntime σ TcpListener) (request : ModbusTcpRequest)
    (now queueTimeout responseTimeout : CoreTick) : CoreTransaction :=
  newTransaction port (tcpSubmitRequest request now queueTimeout responseTimeout)

variable (port : PortRuntime σ TcpListener)

@[simp] theorem submitted_tcpTransaction (request : ModbusTcpRequest)
    (now queueTimeout responseTimeout : CoreTick) :
    (tcpTransaction port request now queueTimeout responseTimeout).submitted =
      tcpTransaction port request now queueTimeout responseTimeout := rfl

theorem view_tcpSubmit (request : ModbusTcpRequest) (now queueTimeout responseTimeout : CoreTick) :
    (modbusTcpSubmit port request now queueTimeout responseTimeout).1 = .accepted ∧
        (modbusTcpSubmit port request now queueTimeout responseTimeout).2.view =
          { port.view with
            queue := port.view.queue ++
              [tcpTransaction port request now queueTimeout responseTimeout]
            accepted := port.view.accepted ++
              [tcpTransaction port request now queueTimeout responseTimeout] } ∨
      (modbusTcpSubmit port request now queueTimeout responseTimeout).1 ≠ .accepted ∧
        (modbusTcpSubmit port request now queueTimeout responseTimeout).2.view = port.view := by
  unfold modbusTcpSubmit
  split
  · exact .inr ⟨by simp, rfl⟩
  split
  · exact .inr ⟨by simp, rfl⟩
  · rcases view_submit port (tcpSubmitRequest request now queueTimeout responseTimeout) with
      ⟨hresult, -, hview⟩ | hrefused
    · exact .inl ⟨hresult, hview⟩
    · exact .inr hrefused

variable (now queueTimeout responseTimeout : CoreTick)

theorem tcpMoves_dispatcherStep :
    TcpMoves (tcpTable port)
      (tcpTable (modbusDispatcherStep port now queueTimeout responseTimeout).2) := by
  unfold modbusDispatcherStep
  split
  · exact .refl
  · rename_i j request hpick
    have hview := view_tcpSubmit port request now queueTimeout responseTimeout
    generalize modbusTcpSubmit port request now queueTimeout responseTimeout = answer at hview ⊢
    obtain ⟨result, port'⟩ := answer
    show TcpMoves (tcpTable port) (tableOf
      { port'.view with
        context := noteSubmission port'.view.context j request result port.view.accepted.length })
    rcases hview with ⟨hresult, hview⟩ | ⟨hresult, hview⟩
    · have hresult' : result = .accepted := hresult
      have hview' : port'.view = _ := hview
      rw [hview', hresult']
      have hmove := TcpMove.submit (tcpTable port) j request
        (tcpTransaction port request now queueTimeout responseTimeout) hpick ⟨rfl, rfl, rfl⟩ rfl
      refine .single ?_
      simpa [tcpTable, tableOf, PortView.outstanding] using hmove
    · have hresult' : result ≠ .accepted := hresult
      have hview' : port'.view = port.view := hview
      rw [hview']
      refine .single ?_
      simp only [noteSubmission, dispatcherAdvance, hresult', if_false]
      exact TcpMove.pass (tcpTable port) (j + 1)

theorem tcpMoves_stepIo (io : SocketIo) (now : CoreTick) :
    TcpMoves (tcpTable port) (tcpTable (modbusTcpListenerStepIo port io now)) :=
  Relation.ReflTransGen.trans
    (leads_stepClients (.refl (tcpTable port)) port.view.outstanding io now)
    (tcpMoves_dispatcherStep (withListener port _) now 1000 1000)

/-! ## Calls of the runtime -/

variable {t : CoreTransaction}

/-- A transaction that was not transmitted and is not completed goes without an answer. -/
theorem completion_unserved (l : TcpListener) {status : CoreTransactionStatus}
    (unsent : t.requestTransmitted = false) (unserved : status = .timedOut ∨ status = .cancelled)
    (response : List UInt8) :
    completion l t status response = l := by
  unfold completion
  rcases unserved with rfl | rfl <;> simp [unsent]

theorem currentClient_some {id epoch : BitVec 32} (h : currentClient l id epoch = some i) :
    (l.clients i).opened = true ∧ (l.clients i).id = id ∧ (l.clients i).epoch = epoch := by
  have hfound := List.find?_some h
  simpa [and_assoc] using hfound

theorem currentClient_epoch {id epoch : BitVec 32} (h : currentClient l id epoch = some i) :
    (l.clients i).epoch = epoch :=
  (currentClient_some h).2.2

variable {rest : List CoreTransaction}

/-- An answer is queued, or it is not and the transaction is gone. -/
theorem tcpMoves_queueResponse (held : w.carried = t :: rest) (id : BitVec 32) {data : List UInt8}
    (answers : AnswerOf t data) :
    TcpMoves w
      { w.withListener
          (modbusTcpListenerQueueResponse w.listener id (metaClientEpoch t) t.serial data).2 with
        carried := rest } := by
  have hdiscard : TcpMove w { w with carried := rest } :=
    .discard w rest (held ▸ List.sublist_cons_self t rest)
  unfold modbusTcpListenerQueueResponse
  split
  · exact .single hdiscard
  split
  · exact .single hdiscard
  · rename_i i hcurrent
    obtain ⟨hopened, -, hepoch⟩ := currentClient_some hcurrent
    split
    · exact .head hdiscard (.single (.close { w with carried := rest } i))
    · exact .single (.answer w i t rest data held hopened hepoch answers)

/-- **A callback for the transaction in front.** -/
theorem tcpMoves_completion (held : w.carried = t.submitted :: rest) (status : CoreTransactionStatus)
    (response : List UInt8) :
    TcpMoves w { w.withListener (completion w.listener t status response) with carried := rest } := by
  have hdiscard : TcpMove w { w with carried := rest } :=
    .discard w rest (held ▸ List.sublist_cons_self _ rest)
  unfold completion
  split
  · split
    · exact .single hdiscard
    · rename_i i hcurrent
      obtain ⟨-, hid, hepoch⟩ := currentClient_some hcurrent
      rw [hepoch]
      exact tcpMoves_queueResponse held _ (.inr rfl)
  split
  · exact .single hdiscard
  split
  · exact .single hdiscard
  · rename_i i hcurrent
    rw [currentClient_epoch hcurrent]
    split
    · exact .single hdiscard
    · rename_i output hbuild
      exact tcpMoves_queueResponse held _ (.inl ⟨response, hbuild⟩)

/-- The state of a call in the middle: what has become of the table so far. -/
structure Under (w : TcpTable) (v : PortView TcpListener) : Prop where
  moves : TcpMoves w (tableOf v)
  unsent : ∀ t ∈ v.queue, t.requestTransmitted = false

variable {v v' : PortView TcpListener}

theorem Under.settle (h : Under w v) (hmove : Settle completion v v') : Under w v' := by
  cases hmove with
  | mark t held =>
    have htable : tableOf { v with active := some { t with requestTransmitted := true } } =
        tableOf v := by
      simp [tableOf, PortView.outstanding, held, CoreTransaction.submitted]
    exact ⟨htable ▸ h.moves, h.unsent⟩
  | finish t t' status response held same =>
    refine ⟨h.moves.trans ?_, h.unsent⟩
    have hcarried : (tableOf v).carried =
        t'.submitted :: v.queue.map CoreTransaction.submitted := by
      simp [tableOf, PortView.outstanding, held, same.submitted]
    exact tcpMoves_completion hcarried status response

theorem Under.drop (h : Under w v) (hmove : Drop completion v v') : Under w v' := by
  obtain ⟨t, t', rest, status, line, unserved, same⟩ := hmove
  have hsilent : completion v.context t' status [] = v.context := by
    refine completion_unserved _ ?_ unserved []
    rw [same.requestTransmitted]
    exact h.unsent t (by simp [line])
  rw [hsilent]
  refine ⟨h.moves.tail (.discard (tableOf v) _ ?_), ?_⟩
  · simp only [tableOf, PortView.outstanding, line, List.map_append, List.map_cons]
    exact (List.sublist_cons_self _ _).append_left _
  · intro t'' ht''
    exact h.unsent t'' (by simp [line, show t'' ∈ rest from ht''])

theorem Under.take (h : Under w v) (hmove : Take v v') : Under w v' := by
  obtain ⟨t, t', rest, line, free, same, -, -⟩ := hmove
  have htable : tableOf
      { v with generation := nextGeneration v.generation, active := some t', queue := rest } =
        tableOf v := by
    simp [tableOf, PortView.outstanding, line, free, same]
  refine ⟨htable ▸ h.moves, ?_⟩
  intro t'' ht''
  exact h.unsent t'' (by simp [line, show t'' ∈ rest from ht''])

theorem under_served (h : Under w v) (hs : Served completion v v') : Under w v' :=
  hs.keeps (Under w) (Under w) (fun _ _ hv hmove => hv.settle hmove)
    (fun _ _ hv hmove => hv.drop hmove) (fun _ hv => hv) (fun _ _ hv hmove => hv.take hmove) h

/-! ## Runs are moves -/

def initialListener : TcpListener where
  listening := false
  nextEpoch := 1
  clients := fun _ => resetClient
  dispatcher := modbusDispatcherInit
  now := 0
  accepts := 0
  history := fun _ => emptyHistory

/-- A listener just initialised; the port may have served others before. -/
def startTable (accepted : List CoreTransaction) : TcpTable where
  listener := initialListener
  carried := []
  accepted := accepted

/-- Where a run stands. -/
structure RunsTo (accepted : List CoreTransaction) (port : PortRuntime σ TcpListener) : Prop where
  coherent : port.Coherent
  completion : port.completion = some completion
  under : Under (startTable accepted) port.view

/-- A step of the listener leaves the state machine of the port alone, and what it puts
    in the queue is not transmitted. -/
theorem dispatcherStep_port :
    (modbusDispatcherStep port now queueTimeout responseTimeout).2.control = port.control ∧
      ((∀ t ∈ port.view.queue, t.requestTransmitted = false) →
        ∀ t ∈ (modbusDispatcherStep port now queueTimeout responseTimeout).2.view.queue,
          t.requestTransmitted = false) := by
  unfold modbusDispatcherStep
  split
  · exact ⟨rfl, fun h => h⟩
  · rename_i j request hpick
    have hview := view_tcpSubmit port request now queueTimeout responseTimeout
    have hcontrol : (modbusTcpSubmit port request now queueTimeout responseTimeout).2.control =
        port.control := by
      unfold modbusTcpSubmit
      split
      · rfl
      · split
        · rfl
        · exact control_portRuntimeSubmitOperation port _
    refine ⟨hcontrol, ?_⟩
    intro hunsent t ht
    have ht' : t ∈ (modbusTcpSubmit port request now queueTimeout
      responseTimeout).2.view.queue := ht
    rcases hview with ⟨-, hview⟩ | ⟨-, hview⟩
    · rw [hview] at ht'
      rcases List.mem_append.mp ht' with ht' | ht'
      · exact hunsent t ht'
      · rw [List.mem_singleton.mp ht']
        rfl
    · rw [hview] at ht'
      exact hunsent t ht'

theorem coherent_of_control {port port' : PortRuntime σ TcpListener} (h : port.Coherent)
    (hcontrol : port'.control = port.control) : port'.Coherent := by
  show port'.control.Coherent
  rw [hcontrol]
  exact h

theorem runsTo_step {accepted : List CoreTransaction} {port port' : PortRuntime σ TcpListener}
    (h : RunsTo accepted port) (hstep : TcpStep port port') : RunsTo accepted port' := by
  cases hstep with
  | stepIo io now =>
    obtain ⟨hcontrol, hunsent⟩ := dispatcherStep_port
      (withListener port (stepClients port.view.outstanding io now port.completionContext))
      now 1000 1000
    exact ⟨coherent_of_control h.coherent hcontrol,
      (congrArg PortControl.completion hcontrol).trans h.completion,
      h.under.moves.trans (tcpMoves_stepIo port io now), hunsent h.under.unsent⟩
  | call op served =>
    obtain ⟨hcoherent, hcompletion⟩ := h.coherent.exec op
    exact ⟨hcoherent, hcompletion.trans h.completion,
      under_served h.under (served_exec h.coherent h.completion served)⟩
  | «open» bound =>
    exact ⟨h.coherent, h.completion,
      h.under.moves.trans (leads_open (.refl (tcpTable port)) bound), h.under.unsent⟩
  | close =>
    exact ⟨h.coherent, h.completion, h.under.moves.trans (leads_close (.refl (tcpTable port))),
      h.under.unsent⟩

/-- **Every run is a sequence of moves.** -/
theorem runsTo_tcpRun {port : PortRuntime σ TcpListener} (h : TcpRun port) :
    ∃ accepted, RunsTo accepted port := by
  induction h with
  | init port coherent idle =>
    have hnil := List.append_eq_nil_iff.mp idle
    refine ⟨port.accepted, ⟨coherent.1, coherent.2⟩, rfl, ?_, ?_⟩
    · show TcpMoves _ (TcpTable.mk _ (port.view.outstanding.map CoreTransaction.submitted) _)
      rw [idle]
      exact .refl
    · intro t ht
      have hmem : t ∈ port.view.queue := ht
      simp [hnil.2] at hmem
  | step run next ih =>
    obtain ⟨accepted, h⟩ := ih
    exact ⟨accepted, runsTo_step h next⟩

end FourVrs.Network.Tcp
