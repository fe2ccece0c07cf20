import FourVrs.Modbus.Dispatcher

/-!
# The Modbus/TCP listener (`network/modbus_tcp_listener.c`)

Eight client slots, each with the parser of its connection and a queue of four answers.
A connection is known to the dispatcher and the port runtime by the id of its slot and an
epoch, a counter taken at `accept_one`: the slot is given to a later connection while
requests of the earlier one are still under way.

As with UDP the listener is the context of its port's completion callback. Ghost state
is the number of connections accepted, the number of its connection in each client, and
the history of every connection, also after it is closed. Statistics, tracing and
`connected_at` are left out; nothing reads them back.
-/

set_option autoImplicit false

namespace FourVrs.Network.Tcp

open FourVrs.Core Modbus

def modbusTxQueueMax : Nat := 4
def modbusSocketIoStepMax : Nat := 256
def modbusInputTimeout : CoreTick := 5000
def modbusWriteTimeout : CoreTick := 5000
def modbusIdleTimeout : CoreTick := 30000

/-- Ghost: what has come and gone on a connection. -/
structure ConnectionHistory where
  received : List UInt8
  /-- The frames the parser took and the dispatcher queued. -/
  requests : List MbapAdu
  /-- The serials of the transactions made of them. -/
  submitted : List Nat
  /-- The frames queued as answers, each with the serial of its transaction. -/
  answers : List (Nat × List UInt8)
  sent : List UInt8
  deriving DecidableEq, Repr

def emptyHistory : ConnectionHistory where
  received := []
  requests := []
  submitted := []
  answers := []
  sent := []

/-- `opened` is `fd >= 0`; `tx` is what the source's ring of answers holds, the oldest
    first. -/
structure TcpClient where
  opened : Bool
  id : BitVec 32
  epoch : BitVec 32
  peerEof : Bool
  rx : MbapStream
  tx : List (List UInt8)
  txOffset : Nat
  lastProgress : CoreTick
  frameStartedAt : CoreTick
  writeStartedAt : CoreTick
  /-- Ghost: the connection. -/
  conn : Nat
  deriving DecidableEq, Repr

/-- What `client_reset` leaves. -/
def resetClient : TcpClient where
  opened := false
  id := 0
  epoch := 0
  peerEof := false
  rx := { bytes := [], poisoned := false }
  tx := []
  txOffset := 0
  lastProgress := 0
  frameStartedAt := 0
  writeStartedAt := 0
  conn := 0

structure TcpListener where
  listening : Bool
  nextEpoch : BitVec 32
  clients : ClientIndex → TcpClient
  dispatcher : ModbusDispatcher
  now : CoreTick
  /-- Ghost: the connections that were given a client. -/
  accepts : Nat
  /-- Ghost: one history a connection. -/
  history : Nat → ConnectionHistory

variable {σ : Type}

variable (l : TcpListener) (port : PortRuntime σ TcpListener)

def TcpListener.setClient (i : ClientIndex) (client : TcpClient) : TcpListener :=
  { l with clients := Function.update l.clients i client }

def TcpListener.record (conn : Nat) (f : ConnectionHistory → ConnectionHistory) : TcpListener :=
  { l with history := Function.update l.history conn (f (l.history conn)) }

def closeClient (i : ClientIndex) : TcpListener :=
  { l.setClient i resetClient with
    dispatcher :=
      if (l.clients i).opened then
        modbusDispatcherDisconnect l.dispatcher (l.clients i).id (l.clients i).epoch
      else l.dispatcher }

def currentClient (id epoch : BitVec 32) : Option ClientIndex :=
  (List.finRange modbusClientMax).find? fun i =>
    (l.clients i).opened && decide ((l.clients i).id = id) && decide ((l.clients i).epoch = epoch)

/-! ## Answers -/

/-- The request client `i` makes of a frame. -/
def clientRequest (client : TcpClient) (adu : MbapAdu) : ModbusTcpRequest where
  clientId := client.id
  clientEpoch := client.epoch
  adu := adu
  conn := client.conn

def admitAdu (i : ClientIndex) : MbapAduFn TcpListener := fun l adu =>
  match modbusDispatcherEnqueue l.dispatcher (clientRequest (l.clients i) adu) with
  | (0, dispatcher) =>
      (0, ({ l with dispatcher := dispatcher }).record (l.clients i).conn fun h =>
        { h with requests := h.requests ++ [adu] })
  | (_, dispatcher) => (1, { l with dispatcher := dispatcher })

/-- The answer at the end of client `i`'s queue. -/
def appendResponse (i : ClientIndex) (serial : Nat) (data : List UInt8) : TcpListener :=
  (l.setClient i
    { l.clients i with
      tx := (l.clients i).tx ++ [data]
      writeStartedAt :=
        if (l.clients i).tx = [] then l.now else (l.clients i).writeStartedAt }).record
    (l.clients i).conn fun h => { h with answers := h.answers ++ [(serial, data)] }

/-- `serial` is ghost: the transaction answered. -/
def modbusTcpListenerQueueResponse (clientId epoch : BitVec 32) (serial : Nat) (data : List UInt8) :
    Int × TcpListener :=
  if data.length = 0 ∨ data.length > mbapAduMax then (-1, l)
  else
    match currentClient l clientId epoch with
    | none => (-2, l)
    | some i =>
        if (l.clients i).tx.length ≥ modbusTxQueueMax then (-3, closeClient l i)
        else (0, appendResponse l i serial data)

def completion (t : CoreTransaction) (status : CoreTransactionStatus) (response : List UInt8) : TcpListener :=
  if status = .timedOut ∧ t.requestTransmitted = true then
    match currentClient l t.ownerId (metaClientEpoch t) with
    | none => l
    | some i =>
        (modbusTcpListenerQueueResponse l (l.clients i).id (l.clients i).epoch t.serial
          (modbusTcpBuildGatewayException t modbusExceptionGatewayTargetNoResponse)).2
  else if status ≠ .completed then l
  else
    match currentClient l t.ownerId (metaClientEpoch t) with
    | none => l
    | some i =>
        match modbusTcpBuildResponse t response mbapAduMax with
        | .error _ => l
        | .ok output =>
            (modbusTcpListenerQueueResponse l (l.clients i).id (l.clients i).epoch t.serial
              output).2

/-! ## Sockets -/

/-- What `recv` comes to; `got []` is the end of the stream. -/
inductive RecvResult where
  | got (data : List UInt8)
  | again
  | error
  deriving DecidableEq, Repr

/-- What `send` comes to. -/
inductive SendResult where
  | sent (amount : Nat)
  | again
  | error
  deriving DecidableEq, Repr

/-- The sockets in one step: whether a connection is accepted, and what each client's
    calls return. -/
structure SocketIo where
  accepted : Bool
  recv : ClientIndex → RecvResult
  send : ClientIndex → SendResult

def clientId (i : ClientIndex) : BitVec 32 := BitVec.ofNat 32 (i + 1)

def freeClient : Option ClientIndex :=
  (List.finRange modbusClientMax).find? fun i => !(l.clients i).opened

/-- Client `i` is given to the next connection. -/
def enterClient (i : ClientIndex) (now : CoreTick) : TcpListener :=
  { l.setClient i
      { resetClient with
        opened := true, id := clientId i, epoch := l.nextEpoch, lastProgress := now
        rx := mbapStreamInit, conn := l.accepts } with
    nextEpoch := if l.nextEpoch + 1 = 0 then 1 else l.nextEpoch + 1
    accepts := l.accepts + 1 }

def acceptOne (now : CoreTick) (accepted : Bool) : TcpListener :=
  if accepted = false then l
  else
    match freeClient l with
    | none => l
    | some i =>
        match modbusDispatcherConnect l.dispatcher (clientId i) l.nextEpoch with
        | (0, dispatcher) => { enterClient l i now with dispatcher := dispatcher }
        | (_, dispatcher) =>
            closeClient { enterClient l i now with dispatcher := dispatcher } i

/-- A part of a client's parser being fed, with `admitAdu` as the callback. -/
def feedClient (i : ClientIndex) (data : List UInt8) : MbapResult × TcpListener :=
  match mbapStreamFeed (l.clients i).rx data (admitAdu i) l with
  | (result, rx, l) => (result, l.setClient i { l.clients i with rx := rx })

/-- `read_client` once `recv` has returned some bytes. -/
def receiveBytes (i : ClientIndex) (now : CoreTick) (data : List UInt8) : TcpListener :=
  match feedClient
      ((l.setClient i
        { l.clients i with
          frameStartedAt := if (l.clients i).rx.bytes = [] then now else (l.clients i).frameStartedAt
          lastProgress := now }).record (l.clients i).conn fun h =>
        { h with received := h.received ++ data }) i data with
  | (.malformed, l) => closeClient l i
  | (.overflow, l) => closeClient l i
  | (_, l) => l

def readClient (i : ClientIndex) (now : CoreTick) (recv : RecvResult) : TcpListener :=
  if (l.clients i).peerEof then l
  else
    match recv with
    | .got data =>
        if data = [] then l.setClient i { l.clients i with peerEof := true }
        else receiveBytes l i now (data.take modbusSocketIoStepMax)
    | .again => l
    | .error => closeClient l i

def drainParser (i : ClientIndex) : TcpListener :=
  match feedClient l i [] with
  | (.malformed, l) => closeClient l i
  | (_, l) => l

/-- `amount` more bytes of the answer in front have gone out. -/
def advanceTx (client : TcpClient) (slot : List UInt8) (amount : Nat) (now : CoreTick) :
    TcpClient :=
  if client.txOffset + amount = slot.length then
    { client with
      tx := client.tx.tail, txOffset := 0, lastProgress := now
      writeStartedAt := if client.tx.tail = [] then client.writeStartedAt else now }
  else { client with txOffset := client.txOffset + amount, lastProgress := now }

/-- `slot->data + tx_offset`, `amount` bytes of it. -/
def sendBytes (i : ClientIndex) (slot : List UInt8) (amount : Nat) (now : CoreTick) : TcpListener :=
  (l.setClient i (advanceTx (l.clients i) slot amount now)).record (l.clients i).conn fun h =>
    { h with sent := h.sent ++ (slot.drop (l.clients i).txOffset).take amount }

def writeClient (i : ClientIndex) (now : CoreTick) (send : SendResult) : TcpListener :=
  match (l.clients i).tx with
  | [] => l
  | slot :: _ =>
      match send with
      | .sent amount =>
          if amount = 0 then l
          else
            sendBytes l i slot
              (min amount (min modbusSocketIoStepMax (slot.length - (l.clients i).txOffset))) now
      | .again => l
      | .error => closeClient l i

/-! ## The step -/

/-- `held` are the transactions of the port: the active one and those in its queue. -/
def clientHasCoreWork (held : List CoreTransaction) (l : TcpListener) (i : ClientIndex) : Bool :=
  (List.finRange modbusClientMax).any (fun j =>
    (l.dispatcher.clients j).connected && decide ((l.dispatcher.clients j).id = (l.clients i).id) &&
      decide ((l.dispatcher.clients j).epoch = (l.clients i).epoch) &&
      !(l.dispatcher.clients j).requests.isEmpty) ||
  held.any fun t =>
    decide (t.ownerId = (l.clients i).id) && decide (metaClientEpoch t = (l.clients i).epoch)

/-- The end of the loop body of `modbus_tcp_listener_step_io`: an idle or finished client
    is closed. -/
def retireClient (held : List CoreTransaction) (l : TcpListener) (i : ClientIndex)
    (now : CoreTick) : TcpListener :=
  if (l.clients i).tx ≠ [] ∧
      modbusWriteTimeout ≤ coreElapsed (l.clients i).writeStartedAt now then closeClient l i
  else if (l.clients i).peerEof ∧ (l.clients i).tx = [] ∧
      clientHasCoreWork held l i = false then closeClient l i
  else if (l.clients i).rx.bytes = [] ∧ (l.clients i).tx = [] ∧
      clientHasCoreWork held l i = false ∧
      modbusIdleTimeout ≤ coreElapsed (l.clients i).lastProgress now then closeClient l i
  else l

/-- `f`, unless the client has been closed: the `continue`s of the loop. -/
def whenOpen (i : ClientIndex) (f : TcpListener → TcpListener) : TcpListener :=
  if (l.clients i).opened then f l else l

/-- The loop body of `modbus_tcp_listener_step_io`. -/
def stepClient (held : List CoreTransaction) (io : SocketIo) (now : CoreTick) (l : TcpListener)
    (i : ClientIndex) : TcpListener :=
  whenOpen l i fun l =>
  whenOpen (drainParser l i) i fun l =>
  whenOpen (readClient l i now (io.recv i)) i fun l =>
  if (l.clients i).rx.bytes ≠ [] ∧
      modbusInputTimeout ≤ coreElapsed (l.clients i).frameStartedAt now then closeClient l i
  else
    whenOpen (writeClient l i now (io.send i)) i fun l => retireClient held l i now

/-- The port with its listener changed. -/
def withListener (l : TcpListener) : PortRuntime σ TcpListener :=
  { port with completionContext := l }

/-- What the dispatcher's step writes for slot `j`; ghost: the transaction's serial. -/
def noteSubmission (j : ClientIndex) (request : ModbusTcpRequest) (result : CoreSubmitResult) (serial : Nat) :
    TcpListener :=
  if result = .accepted then
    ({ l with dispatcher := dispatcherAdvance l.dispatcher j result }).record request.conn fun h =>
      { h with submitted := h.submitted ++ [serial] }
  else { l with dispatcher := dispatcherAdvance l.dispatcher j result }

def modbusDispatcherStep (now queueTimeout responseTimeout : CoreTick) :
    CoreSubmitResult × PortRuntime σ TcpListener :=
  match dispatcherPick port.completionContext.dispatcher with
  | none => (.invalidRequest, port)
  | some (j, request) =>
      match modbusTcpSubmit port request now queueTimeout responseTimeout with
      | (result, port') =>
          (result,
            withListener port'
              (noteSubmission port'.completionContext j request result port.accepted.length))

/-- The listener after the loop over its clients. -/
def stepClients (held : List CoreTransaction) (io : SocketIo) (now : CoreTick) (l : TcpListener) :
    TcpListener :=
  (List.finRange modbusClientMax).foldl (stepClient held io now)
    (if l.listening then acceptOne { l with now := now } now io.accepted else { l with now := now })

def modbusTcpListenerStepIo (io : SocketIo) (now : CoreTick) : PortRuntime σ TcpListener :=
  (modbusDispatcherStep
    (withListener port (stepClients port.view.outstanding io now port.completionContext))
    now 1000 1000).2

/-! ## Opening and closing -/

/-- `modbus_tcp_listener_init` on a port. -/
def modbusTcpListenerInit : PortRuntime σ TcpListener :=
  portRuntimeSetCompletion
    (withListener port
      { listening := false, nextEpoch := 1, clients := fun _ => resetClient
        dispatcher := modbusDispatcherInit, now := 0, accepts := 0, history := fun _ => emptyHistory })
    (some completion)

/-- `modbus_tcp_listener_open`; `bound` is what the socket calls come to. -/
def modbusTcpListenerOpen (bound : Bool) : Int × TcpListener :=
  if l.listening then (-1, l)
  else if bound then (0, { l with listening := true })
  else (-1, l)

def modbusTcpListenerClose : TcpListener :=
  { (List.finRange modbusClientMax).foldl closeClient l with listening := false }

end FourVrs.Network.Tcp
