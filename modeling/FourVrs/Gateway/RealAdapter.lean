import FourVrs.Core.PortListener
import FourVrs.Gateway.Wiring
import FourVrs.Network.RawSerial
import FourVrs.Network.TcpListener
import FourVrs.Network.UdpListener

/-!
# The real adapter (`gateway/gateway_real_adapter.c`)

An adapter holds the three built-in listeners of a port and starts the one the transport
of the settings asks for. It is the object the controller's transport table works on, and
so the context of the runtime's completion callback; each listener sees of the runtime
what it would see if that context were its own.

The sockets are parameters: what `bind` comes to, what arrives, what a `send` takes. Each
call may change the network's state, so that a later call may come to something else.
Ghost state is where each listener's socket was last bound.
-/

set_option autoImplicit false

namespace FourVrs.Gateway

open FourVrs.Core Config Uart Lib Network

variable {η ω σ κ κ' : Type}

/-- The driver tables of the adapter. -/
inductive ListenerDriver where
  | real | udpMbap | udpRtu | rawTcp | rawUdp
  deriving DecidableEq, Repr

/-- The three listeners. -/
inductive ListenerKind where
  | tcp | udp | raw
  deriving DecidableEq, Repr

/-- The listener a driver's functions work on. -/
def ListenerDriver.kind : ListenerDriver → ListenerKind
  | .real => .tcp
  | .udpMbap | .udpRtu => .udp
  | .rawTcp | .rawUdp => .raw

/-- The choice `transport_start` makes. -/
def transportDriver (transport : Nat) : Option ListenerDriver :=
  if transport = transportModbusTcp then some .real
  else if transport = transportModbusUdp then some .udpMbap
  else if transport = transportRtuUdp then some .udpRtu
  else if transport = transportRawTcp then some .rawTcp
  else if transport = transportRawUdp then some .rawUdp
  else none

structure ListenEndpoint where
  address : CString
  port : Nat
  deriving DecidableEq

/-- What the sockets come to. -/
structure SocketCalls (ω : Type) where
  /-- `socket`, `bind` and what else a listener's `open` calls. -/
  bind : ω → ListenerDriver → ListenEndpoint → Bool × ω
  /-- The sockets of Modbus/TCP in one step. -/
  sockets : ω → Tcp.SocketIo × ω
  /-- The datagrams of Modbus/UDP in one step. -/
  datagrams : ω → List (UdpAddress × List UInt8) × ω
  accept : ω → Option Nat × ω
  nonblock : ω → Nat → Bool × ω
  close : ω → Nat → ω
  recv : ω → Nat → Nat → RawReceive × ω
  recvfrom : ω → Option (List UInt8 × Option Peer) × ω
  send : ω → Nat → List UInt8 → RawWrite × ω
  sendto : ω → Peer → List UInt8 → RawWrite × ω

/-- `raw_serial_listener_t` without its two pointers. -/
structure RawSerialState where
  opened : Bool := false
  clientFd : Option Nat := none
  udp : Bool := false
  owned : Bool := false
  eof : Bool := false
  guard : Bool := false
  flushPending : Bool := false
  peer : Peer := default
  tx : List UInt8 := []
  rx : List UInt8 := []
  now : CoreTick := 0
  activityAt : CoreTick := 0
  txProgressAt : CoreTick := 0
  rxProgressAt : CoreTick := 0
  serialAt : CoreTick := 0
  quietAt : CoreTick := 0

structure RealAdapter (ω : Type) where
  bindAddress : CString
  listenerDriver : ListenerDriver
  listenerStarted : Bool
  listener : Tcp.TcpListener
  udpListener : UdpListener
  rawListener : RawSerialState
  /-- The network. -/
  world : ω
  /-- Ghost: where the sockets were last bound. -/
  endpoints : ListenerKind → ListenEndpoint

/-- A runtime with the UART and the adapter behind it. -/
abbrev AdapterPort (η ω : Type) : Type := PortRuntime (UartBackend η) (RealAdapter ω)

def RealAdapter.socketOpen (a : RealAdapter ω) : ListenerKind → Bool
  | .tcp => a.listener.listening
  | .udp => a.udpListener.opened
  | .raw => a.rawListener.opened

/-! ## What a listener sees -/

/-- The same runtime around another object. -/
def aroundObject (port : PortRuntime σ κ) (completion : Option (CoreCompletionFn κ')) (context : κ') :
    PortRuntime σ κ' where
  portIndex := port.portIndex
  state := port.state
  currentConfig := port.currentConfig
  stagedConfig := port.stagedConfig
  knownGoodConfig := port.knownGoodConfig
  queue := port.queue
  active := port.active
  hasActive := port.hasActive
  nextTransactionId := port.nextTransactionId
  generation := port.generation
  responseBarrierGeneration := port.responseBarrierGeneration
  stateDeadline := port.stateDeadline
  recoveryDelay := port.recoveryDelay
  recoveryAttempts := port.recoveryAttempts
  lastError := port.lastError
  stats := port.stats
  backend := port.backend
  backendContext := port.backendContext
  completion := completion
  completionContext := context
  accepted := port.accepted

variable (port : PortRuntime σ (RealAdapter ω)) (calls : SocketCalls ω)

/-- The runtime with its adapter changed. -/
def withAdapter (a : RealAdapter ω) : PortRuntime σ (RealAdapter ω) :=
  { port with completionContext := a }

/-- The runtime of the Modbus/TCP listener, and back. -/
def tcpPort : PortRuntime σ Tcp.TcpListener :=
  aroundObject port (some Tcp.completion) port.completionContext.listener

def fromTcp (inner : PortRuntime σ Tcp.TcpListener) : PortRuntime σ (RealAdapter ω) :=
  aroundObject inner port.completion
    { port.completionContext with listener := inner.completionContext }

/-- The runtime of the Modbus/UDP listener, and back. The listener reads the runtime's
    generation in its callbacks; no call of the runtime changes it before its last one. -/
def udpPort : PortRuntime σ UdpListener :=
  aroundObject port (some Network.completion)
    { port.completionContext.udpListener with portGeneration := port.generation }

def fromUdp (inner : PortRuntime σ UdpListener) : PortRuntime σ (RealAdapter ω) :=
  aroundObject inner port.completion
    { port.completionContext with
      udpListener := { inner.completionContext with portGeneration := inner.generation } }

/-- The callbacks the two Modbus listeners install. -/
def notifyTcp : CoreCompletionFn (RealAdapter ω) := fun a transaction status response =>
  { a with listener := Tcp.completion a.listener transaction status response }

def notifyUdp : CoreCompletionFn (RealAdapter ω) := fun a transaction status response =>
  { a with udpListener := Network.completion a.udpListener transaction status response }

/-! ## The raw listener's programs -/

def RawSerialState.attach (s : RawSerialState) (port : AdapterPort η ω) :
    RawListener (UartBackend η) (RealAdapter ω) where
  opened := s.opened
  clientFd := s.clientFd
  udp := s.udp
  owned := s.owned
  eof := s.eof
  guard := s.guard
  flushPending := s.flushPending
  peer := s.peer
  uartOpen := decide (0 ≤ port.backendContext.fd)
  port := port
  tx := s.tx
  rx := s.rx
  now := s.now
  activityAt := s.activityAt
  txProgressAt := s.txProgressAt
  rxProgressAt := s.rxProgressAt
  serialAt := s.serialAt
  quietAt := s.quietAt

def rawState (l : RawListener σ κ) : RawSerialState where
  opened := l.opened
  clientFd := l.clientFd
  udp := l.udp
  owned := l.owned
  eof := l.eof
  guard := l.guard
  flushPending := l.flushPending
  peer := l.peer
  tx := l.tx
  rx := l.rx
  now := l.now
  activityAt := l.activityAt
  txProgressAt := l.txProgressAt
  rxProgressAt := l.rxProgressAt
  serialAt := l.serialAt
  quietAt := l.quietAt

def rawReadResult (result : Int) (bytes : List UInt8) (error : Int) : RawRead :=
  if result > 0 then .bytes bytes
  else if result < 0 ∧ temporaryError error = false then .failed
  else if result < 0 ∧ error = eINTR then .interrupted
  else .empty

def rawWriteResult (result error : Int) : RawWrite :=
  if result ≥ 0 then .count result.toNat
  else if temporaryError error then .transient
  else .failed

/-- The calls of a raw listener's program, on the UART and on the network. -/
def rawHandle : (call : RawCall) → UartBackend η × ω → call.Result × (UartBackend η × ω)
  | .flush, (uart, world) =>
      match uart.sys.tcflushFn uart.sysContext uart.fd with
      | (result, device) => (decide (result = 0), { uart with sysContext := device }, world)
  | .read capacity, (uart, world) =>
      match uart.sys.readFn uart.sysContext uart.fd capacity with
      | (result, bytes, device) =>
          (rawReadResult result bytes (uart.sys.lastErrorFn device),
            { uart with sysContext := device }, world)
  | .write data, (uart, world) =>
      match uart.sys.writeFn uart.sysContext uart.fd data with
      | (result, device) =>
          (rawWriteResult result (uart.sys.lastErrorFn device), { uart with sysContext := device }, world)
  | .accept, (uart, world) => ((calls.accept world).1, uart, (calls.accept world).2)
  | .nonblock fd, (uart, world) => ((calls.nonblock world fd).1, uart, (calls.nonblock world fd).2)
  | .close fd, (uart, world) => ((), uart, calls.close world fd)
  | .recv fd capacity, (uart, world) =>
      ((calls.recv world fd capacity).1, uart, (calls.recv world fd capacity).2)
  | .recvfrom, (uart, world) => ((calls.recvfrom world).1, uart, (calls.recvfrom world).2)
  | .send fd data, (uart, world) => ((calls.send world fd data).1, uart, (calls.send world fd data).2)
  | .sendto peer data, (uart, world) =>
      ((calls.sendto world peer data).1, uart, (calls.sendto world peer data).2)
  | .acquired _, (uart, world) => ((), uart, world)
  | .released, (uart, world) => ((), uart, world)

/-- The adapter's port once a program of its raw listener has run. -/
def fromRaw (a : RealAdapter ω) (l : RawListener (UartBackend η) (RealAdapter ω))
    (objects : UartBackend η × ω) : AdapterPort η ω :=
  withAdapter { l.port with backendContext := objects.1 }
    { a with rawListener := rawState l, world := objects.2 }

/-- Run a program of the raw listener on the adapter's port. -/
def runRaw {α : Type} (calls : SocketCalls ω) (port : AdapterPort η ω)
    (prog : RawListener (UartBackend η) (RealAdapter ω) →
      RawProg (α × RawListener (UartBackend η) (RealAdapter ω))) : α × AdapterPort η ω :=
  match (prog (port.completionContext.rawListener.attach port)).eval (rawHandle calls)
      (port.backendContext, port.completionContext.world) with
  | ((result, l), objects) => (result, fromRaw port.completionContext l objects)

/-! ## The drivers -/

/-- `listener_driver->init`. -/
def listenerInit (driver : ListenerDriver) (port : AdapterPort η ω) : AdapterPort η ω :=
  match driver with
  | .real =>
      portRuntimeSetCompletion
        (withAdapter port
          { port.completionContext with
            listener := (Tcp.modbusTcpListenerInit (tcpPort port)).completionContext })
        (some notifyTcp)
  | .udpMbap | .udpRtu =>
      portRuntimeSetCompletion
        (withAdapter port
          { port.completionContext with
            udpListener :=
              (modbusUdpListenerInit (udpPort port) (decide (driver = .udpRtu))).completionContext })
        (some notifyUdp)
  | .rawTcp | .rawUdp =>
      fromRaw port.completionContext
        (rawInit port (decide (0 ≤ port.backendContext.fd)) (decide (driver = .rawUdp)))
        (port.backendContext, port.completionContext.world)

/-- A listener's `open`, once the sockets have been tried. -/
def openListener (driver : ListenerDriver) (bound : Bool) (port : AdapterPort η ω) :
    Int × AdapterPort η ω :=
  match driver with
  | .real =>
      match Tcp.modbusTcpListenerOpen port.completionContext.listener bound with
      | (result, listener) =>
          (result, withAdapter port { port.completionContext with listener := listener })
  | .udpMbap | .udpRtu =>
      match modbusUdpListenerOpen port.completionContext.udpListener bound with
      | (result, listener) =>
          (result, withAdapter port { port.completionContext with udpListener := listener })
  | .rawTcp | .rawUdp =>
      match rawOpen (port.completionContext.rawListener.attach port) bound with
      | (result, l) =>
          (result, fromRaw port.completionContext l (port.backendContext, port.completionContext.world))

/-- The network after a call. -/
def withWorld (port : AdapterPort η ω) (world : ω) : AdapterPort η ω :=
  withAdapter port { port.completionContext with world := world }

def noteEndpoint (port : AdapterPort η ω) (kind : ListenerKind) (endpoint : ListenEndpoint) :
    AdapterPort η ω :=
  withAdapter port
    { port.completionContext with
      endpoints := Function.update port.completionContext.endpoints kind endpoint }

/-- `listener_driver->open`. -/
def listenerOpen (driver : ListenerDriver) (endpoint : ListenEndpoint) (port : AdapterPort η ω) :
    Int × AdapterPort η ω :=
  match calls.bind port.completionContext.world driver endpoint with
  | (bound, world) =>
      match openListener driver bound (withWorld port world) with
      | (0, port) => (0, noteEndpoint port driver.kind endpoint)
      | (_, port) => (-1, port)

def stepTcp (port : AdapterPort η ω) (io : Tcp.SocketIo) (now : CoreTick) : AdapterPort η ω :=
  fromTcp port (Tcp.modbusTcpListenerStepIo (tcpPort port) io now)

def stepUdp (port : AdapterPort η ω) (arrivals : List (UdpAddress × List UInt8)) (now : CoreTick) :
    AdapterPort η ω :=
  fromUdp port (modbusUdpListenerStepIo (udpPort port) arrivals now)

def stepRaw (now : CoreTick) (l : RawListener (UartBackend η) (RealAdapter ω)) :
    RawProg (Unit × RawListener (UartBackend η) (RealAdapter ω)) := do
  let l ← rawStep l now
  pure ((), l)

/-- `listener_driver->step`. -/
def listenerStep (now : CoreTick) (port : AdapterPort η ω) : AdapterPort η ω :=
  match port.completionContext.listenerDriver with
  | .real =>
      match calls.sockets port.completionContext.world with
      | (io, world) => stepTcp (withWorld port world) io now
  | .udpMbap | .udpRtu =>
      match calls.datagrams port.completionContext.world with
      | (arrivals, world) => stepUdp (withWorld port world) arrivals now
  | .rawTcp | .rawUdp => (runRaw calls port (stepRaw now)).2

/-- `listener_driver->close`. -/
def listenerClose (port : AdapterPort η ω) : Int × AdapterPort η ω :=
  match port.completionContext.listenerDriver with
  | .real =>
      (0, withAdapter port
        { port.completionContext with
          listener := Tcp.modbusTcpListenerClose port.completionContext.listener })
  | .udpMbap | .udpRtu =>
      (0, withAdapter port
        { port.completionContext with
          udpListener := modbusUdpListenerClose port.completionContext.udpListener })
  | .rawTcp | .rawUdp => runRaw calls port rawClose

/-! ## The transport table -/

/-- `a->listener_started = started`. -/
def markStarted (port : AdapterPort η ω) (started : Bool) : AdapterPort η ω :=
  withAdapter port { port.completionContext with listenerStarted := started }

/-- `memcpy` into `a->bind_address`, and the driver, if the transport has one. -/
def chooseDriver (port : AdapterPort η ω) (address : CString) (driver : ListenerDriver) :
    AdapterPort η ω :=
  withAdapter port { port.completionContext with bindAddress := address, listenerDriver := driver }

/-- `transport_start`. `listener_driver->open` takes the port as an `unsigned short`. -/
def adapterStart (config : GatewayPortConfig) (port : AdapterPort η ω) : Int × AdapterPort η ω :=
  if port.completionContext.listenerStarted then (-1, port)
  else if config.bindAddress.length = 0 ∨ config.bindAddress.length ≥ gatewayBindAddressLength then
    (-1, port)
  else
    match transportDriver config.transport with
    | none =>
        (-1, chooseDriver port config.bindAddress port.completionContext.listenerDriver)
    | some driver =>
        match listenerOpen calls driver
            { address := config.bindAddress, port := config.endpointPort % 65536 }
            (listenerInit driver (chooseDriver port config.bindAddress driver)) with
        | (0, port) => (0, markStarted port true)
        | (_, port) => (-1, port)

/-- `transport_step`. -/
def adapterStep (now : CoreTick) (port : AdapterPort η ω) : AdapterPort η ω :=
  if port.completionContext.listenerStarted then listenerStep calls now port else port

/-- `transport_stop`. -/
def adapterStop (port : AdapterPort η ω) : Int × AdapterPort η ω :=
  if port.completionContext.listenerStarted then
    match listenerClose calls port with
    | (0, port) => (0, markStarted port false)
    | (result, port) => (result, port)
  else (0, port)

end FourVrs.Gateway
