import FourVrs.Core.PortRuntime
import FourVrs.Lib.Prog

/-!
# The raw serial listener (`network/raw_serial_listener.c`)

One network peer at a time owns the serial line: a TCP connection, or the sender of the
first datagram. What the owner sends waits in `tx` for the UART, what the UART delivers
waits in `rx` for the owner. A step is a program: its calls are the system calls of the
source on the sockets and on the UART, and the two points where an ownership begins and
ends. The counters in `stats` steer nothing and are left out.
-/

set_option autoImplicit false

namespace FourVrs.Network

open FourVrs.Core Lib

def rawBufferSize : Nat := 1024
def rawNetworkBudget : Nat := 4
def rawUdpIdleMs : CoreTick := 30000
def rawStallMs : CoreTick := 5000
def rawPacketGapMs : CoreTick := 10
def rawOwnerGuardMs : CoreTick := 100
def rawEofIdleMs : CoreTick := 1000
def uartIoBudget : Nat := 64

/-- An IPv4 socket address. -/
structure Peer where
  address : BitVec 32
  port : BitVec 16
  deriving DecidableEq, Repr, Inhabited

inductive RawOwner where
  | connection (fd : Nat)
  | peer (peer : Peer)
  deriving DecidableEq, Repr

/-- What `read` on the UART comes to; `empty` is no byte, or an error that says so. -/
inductive RawRead where
  | bytes (data : List UInt8)
  | empty | interrupted | failed

/-- What a write, `send` or `sendto` comes to; `transient` is an error to try again after. -/
inductive RawWrite where
  | count (n : Nat)
  | transient | failed

/-- What `recv` comes to. -/
inductive RawReceive where
  | bytes (data : List UInt8)
  | eof | transient | failed

inductive RawCall where
  /-- `tcflush` of both queues of the UART. -/
  | flush
  | read (capacity : Nat)
  | write (data : List UInt8)
  | accept
  | nonblock (fd : Nat)
  | close (fd : Nat)
  | recv (fd capacity : Nat)
  | recvfrom
  | send (fd : Nat) (data : List UInt8)
  | sendto (peer : Peer) (data : List UInt8)
  /-- Ghost: an ownership begins. -/
  | acquired (owner : RawOwner)
  /-- Ghost: an ownership ends. -/
  | released

/-- `recvfrom` also says where a datagram is from, when that is an IPv4 address. -/
abbrev RawCall.Result : RawCall → Type
  | .flush | .nonblock _ => Bool
  | .read _ => RawRead
  | .write _ | .send _ _ | .sendto _ _ => RawWrite
  | .accept => Option Nat
  | .recv _ _ => RawReceive
  | .recvfrom => Option (List UInt8 × Option Peer)
  | .close _ | .acquired _ | .released => Unit

abbrev RawProg (α : Type) : Type := Prog RawCall RawCall.Result α

def rawCall (call : RawCall) : RawProg call.Result := Prog.lift call

structure RawListener (σ κ : Type) where
  /-- `fd >= 0`: the socket is open. -/
  opened : Bool := false
  clientFd : Option Nat := none
  udp : Bool
  owned : Bool := false
  eof : Bool := false
  guard : Bool := false
  flushPending : Bool := false
  peer : Peer := default
  /-- `uart->fd >= 0`. -/
  uartOpen : Bool
  port : PortRuntime σ κ
  tx : List UInt8 := []
  rx : List UInt8 := []
  now : CoreTick := 0
  activityAt : CoreTick := 0
  txProgressAt : CoreTick := 0
  rxProgressAt : CoreTick := 0
  serialAt : CoreTick := 0
  quietAt : CoreTick := 0

variable {σ κ : Type}

def rawInit (port : PortRuntime σ κ) (uartOpen udp : Bool) : RawListener σ κ :=
  { udp, uartOpen, port := portRuntimeSetCompletion port none }

variable (l : RawListener σ κ)

/-- Whom the buffers are for. -/
def RawListener.owner : RawOwner :=
  match l.clientFd with
  | some fd => .connection fd
  | none => .peer l.peer

/-! ## The boundary of an ownership -/

def serialFault : RawListener σ κ :=
  { l with port := (portRuntimeReportIoFailure l.port l.now "raw serial I/O failed").2 }

def flushBoundary : RawProg (Bool × RawListener σ κ) :=
  if !l.flushPending then pure (true, l)
  else if !l.uartOpen then pure (false, l)
  else do
    let flushed ← rawCall .flush
    if flushed then pure (true, { l with flushPending := false, guard := true, quietAt := l.now })
    else pure (false, serialFault l)

def closeClient : RawProg (RawListener σ κ) :=
  match l.clientFd with
  | some fd => do
      rawCall (.close fd)
      pure l
  | none => pure l

def endOwnership : RawProg (RawListener σ κ) :=
  if l.owned then do
    rawCall .released
    pure { l with clientFd := none, flushPending := true }
  else pure { l with clientFd := none }

/-- `release`: whether the boundary is flushed. -/
def release : RawProg (Bool × RawListener σ κ) := do
  let l ← closeClient l
  let l ← endOwnership l
  let (flushed, l) ← flushBoundary l
  pure (flushed,
    { l with owned := false, eof := false, tx := [], rx := [], guard := true, quietAt := l.now })

/-- `release` where its result is not looked at. -/
def releaseOnly : RawProg (RawListener σ κ) := do
  let (_, l) ← release l
  pure l

def acquire : RawProg (RawListener σ κ) := do
  rawCall (.acquired l.owner)
  pure { l with owned := true, eof := false,
                activityAt := l.now, txProgressAt := l.now, rxProgressAt := l.now }

/-! ## The network's side -/

/-- Bytes from the owner join `tx`. -/
def keepReceived (data : List UInt8) : RawListener σ κ :=
  { l with
    txProgressAt := if l.tx = [] then l.now else l.txProgressAt
    tx := l.tx ++ data
    activityAt := l.now }

def takeDatagram (data : List UInt8) (sender : Option Peer) : RawProg (RawListener σ κ) :=
  match sender with
  | none => pure l
  | some sender =>
      if data.length = 0 ∨ data.length > rawBufferSize then pure l
      else if l.guard ∨ (l.owned ∧ sender ≠ l.peer) then pure l
      else if data.length > rawBufferSize - l.tx.length then pure l
      else if l.owned then pure (keepReceived l data)
      else do
        let l ← acquire { l with peer := sender }
        pure (keepReceived l data)

def receiveDatagrams : Nat → RawListener σ κ → RawProg (RawListener σ κ)
  | 0, l => pure l
  | budget + 1, l => do
      match ← rawCall .recvfrom with
      | none => pure l
      | some (data, sender) => do
          let l ← takeDatagram l data sender
          receiveDatagrams budget l

def takeClient (fd : Nat) : RawProg (RawListener σ κ) :=
  if l.owned ∨ l.guard then do
    rawCall (.close fd)
    pure l
  else do
    let ready ← rawCall (.nonblock fd)
    if ready then acquire { l with clientFd := some fd }
    else do
      rawCall (.close fd)
      pure l

def acceptClients : Nat → RawListener σ κ → RawProg (RawListener σ κ)
  | 0, l => pure l
  | budget + 1, l => do
      match ← rawCall .accept with
      | none => pure l
      | some fd => do
          let l ← takeClient l fd
          acceptClients budget l

/-- The end of the branch for TCP; an owner there has a connection. -/
def receiveStream : RawProg (RawListener σ κ) :=
  if !l.owned || l.eof || decide (l.tx.length = rawBufferSize) then pure l
  else
    match l.clientFd with
    | none => pure l
    | some fd => do
        match ← rawCall (.recv fd (rawBufferSize - l.tx.length)) with
        | .bytes data => pure (keepReceived l data)
        | .eof => pure { l with eof := true, activityAt := l.now }
        | .transient => pure l
        | .failed => releaseOnly l

def networkReceive : RawProg (RawListener σ κ) :=
  if l.udp then receiveDatagrams rawNetworkBudget l
  else do
    let l ← acceptClients rawNetworkBudget l
    receiveStream l

/-- What a `send` or `sendto` took is gone from `rx`. -/
def afterSend : RawWrite → RawProg (RawListener σ κ)
  | .count n =>
      if n > 0 then pure { l with rx := l.rx.drop n, rxProgressAt := l.now, activityAt := l.now }
      else pure l
  | .transient => pure l
  | .failed => releaseOnly l

/-- A datagram that went out in part ends the ownership. -/
def sendDatagram : RawProg (RawListener σ κ) := do
  match ← rawCall (.sendto l.peer l.rx) with
  | .count n => if n ≠ l.rx.length then releaseOnly l else afterSend l (.count n)
  | .transient => afterSend l .transient
  | .failed => afterSend l .failed

def networkSend : RawProg (RawListener σ κ) :=
  if !l.owned || l.rx.isEmpty then pure l
  else if l.udp then
    if l.rx.length < rawBufferSize ∧ coreElapsed l.serialAt l.now < rawPacketGapMs then pure l
    else sendDatagram l
  else
    match l.clientFd with
    | none => pure l
    | some fd => do
        let sent ← rawCall (.send fd l.rx)
        afterSend l sent

/-! ## The UART's side -/

/-- Bytes from the UART are the owner's, or nobody's. -/
def takeSerial (data : List UInt8) : RawListener σ κ :=
  if !l.owned then { l with guard := true, quietAt := l.now }
  else
    { l with
      rxProgressAt := if l.rx = [] then l.now else l.rxProgressAt
      rx := l.rx ++ data
      activityAt := l.now
      serialAt := l.now }

def afterSerialRead : RawRead → RawProg (RawListener σ κ)
  | .bytes data => pure (takeSerial l data)
  | .failed => do
      let l ← releaseOnly l
      pure (serialFault l)
  | .interrupted => pure (if !l.owned then { l with guard := true, quietAt := l.now } else l)
  | .empty =>
      pure (if !l.owned && l.guard && decide (coreElapsed l.quietAt l.now ≥ rawOwnerGuardMs) then
        { l with guard := false }
      else l)

def RawListener.readCapacity : Nat :=
  min uartIoBudget (if l.owned then rawBufferSize - l.rx.length else uartIoBudget)

def serialRead : RawProg (RawListener σ κ) :=
  if l.readCapacity = 0 then pure l
  else do
    let result ← rawCall (.read l.readCapacity)
    afterSerialRead l result

def serialWrite : RawProg (RawListener σ κ) :=
  if l.tx.isEmpty then pure l
  else do
    match ← rawCall (.write (l.tx.take uartIoBudget)) with
    | .count n =>
        if n > 0 then pure { l with tx := l.tx.drop n, txProgressAt := l.now, activityAt := l.now }
        else pure l
    | .transient => pure l
    | .failed => do
        let l ← releaseOnly l
        pure (serialFault l)

/-! ## The step -/

/-- A UDP owner that is silent, or a connection at its end with nothing left. -/
def RawListener.idle (now : CoreTick) : Bool :=
  l.owned && ((l.udp && decide (coreElapsed l.activityAt now ≥ rawUdpIdleMs)) ||
    (l.eof && l.tx.isEmpty && l.rx.isEmpty && decide (coreElapsed l.activityAt now ≥ rawEofIdleMs)))

def RawListener.stalled (now : CoreTick) : Bool :=
  l.owned && ((!l.tx.isEmpty && decide (coreElapsed l.txProgressAt now ≥ rawStallMs)) ||
    (!l.rx.isEmpty && decide (coreElapsed l.rxProgressAt now ≥ rawStallMs)))

def releaseIdle (now : CoreTick) : RawProg (RawListener σ κ) :=
  if l.idle now then releaseOnly l else pure l

def releaseStalled (now : CoreTick) : RawProg (RawListener σ κ) :=
  if l.stalled now then releaseOnly l else pure l

/-- `if (l->port->state != PORT_READY) return;`. -/
def whenReady (next : RawListener σ κ → RawProg (RawListener σ κ)) (l : RawListener σ κ) :
    RawProg (RawListener σ κ) :=
  if l.port.state = .ready then next l else pure l

/-- The end of the step, from the read of the UART on. -/
def transfer : RawProg (RawListener σ κ) := do
  let l ← serialRead l
  whenReady (fun l => do
    let l ← networkReceive l
    whenReady (fun l => do
      let l ← serialWrite l
      whenReady networkSend l) l) l

def serve (now : CoreTick) : RawProg (RawListener σ κ) := do
  let l ← releaseIdle l now
  let l ← releaseStalled l now
  whenReady transfer l

def rawStep (now : CoreTick) : RawProg (RawListener σ κ) :=
  if !l.opened || !l.uartOpen || decide (l.port.state ≠ .ready) || l.port.hasActive ||
      decide (l.port.queue.count ≠ 0) then pure l
  else do
    let (bounded, l) ← flushBoundary { l with now }
    if bounded then serve l now else pure l

/-! ## Opening and closing -/

/-- `raw_serial_listener_open`; `bound` is what the socket calls come to. -/
def rawOpen (bound : Bool) : Int × RawListener σ κ :=
  if l.opened then (-1, l)
  else if bound then (0, { l with opened := true })
  else (-1, l)

def rawClose : RawProg (Int × RawListener σ κ) := do
  let (flushed, l) ← release l
  pure (if flushed then 0 else -1, { l with opened := false })

end FourVrs.Network
