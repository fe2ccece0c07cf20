import FourVrs.Core.PortMoves
import FourVrs.Modbus.Adapter

/-!
# The Modbus/UDP listener (`network/modbus_udp_listener.c`)

UDP has no connections, so the listener keeps a table of eight peers, keyed by source
address and port. A peer holds at most one request: it is admitted from a datagram,
submitted to the port runtime by a later part of the step, completed by the runtime's
callback and, in MBAP mode, kept with its response for a while, so that a repeated
datagram is answered from the table.

The listener is the context of its port's completion callback, so a port carries its
listener and what acts on both acts on the port. The callback also reads
`l->port->generation`; `portGeneration` is that value, brought up to date before every
call of the runtime (`PortOp.call`), which changes it only after its last callback.

Three fields are ghost state: the accepted datagrams in order (and in each peer the
number of the one it holds), the time of the last call of the listener as a number
that does not wrap, and the list of what happened. Statistics are left out; nothing
reads them back.
-/

set_option autoImplicit false

namespace FourVrs.Network

open FourVrs.Core Modbus Uart

abbrev modbusUdpPeers : Nat := 8
def modbusUdpStepMax : Nat := 8
def modbusUdpQueueTimeout : CoreTick := 1000
def modbusUdpResponseTimeout : CoreTick := 1000
def modbusUdpCacheTimeout : CoreTick := 5000
def modbusUdpIdleTimeout : CoreTick := 30000

/-- The fields of `struct sockaddr_in` the listener compares; the family is `AF_INET`. -/
structure UdpAddress where
  address : BitVec 32
  port : BitVec 16
  deriving DecidableEq, Repr

/-- A datagram `modbus_udp_listener_receive` took for a request: `rtu` is the RTU frame
    it stands for. -/
structure UdpRequest where
  source : UdpAddress
  tid : BitVec 16
  rtu : List UInt8
  deriving DecidableEq, Repr

inductive UdpEvent where
  /-- The port runtime has accepted the request with this number. -/
  | submitted (number : Nat) (rtu : List UInt8)
  /-- `finish`, with the listener's time and the response it leaves in the table. -/
  | finished (number : Nat) (time : Nat) (response : List UInt8)
  /-- `sendto`; what comes of it only shows in the statistics. -/
  | sent (destination : UdpAddress) (response : List UInt8)
  /-- A callback that did not find its peer. -/
  | stale
  deriving DecidableEq, Repr

/-- `rtu` and `response` are the first `rtu_length` and `response_length` bytes of the
    source's arrays. -/
structure UdpPeer where
  address : UdpAddress
  used : Bool
  epoch : BitVec 32
  pending : Bool
  submitted : Bool
  transactionId : BitVec 32
  cached : Bool
  tid : BitVec 16
  rtu : List UInt8
  response : List UInt8
  admittedAt : CoreTick
  lastSeen : CoreTick
  completedAt : CoreTick
  /-- Ghost: which accepted datagram the peer holds. -/
  number : Nat
  deriving DecidableEq, Repr

/-- `memset(peer, 0, sizeof(*peer))`. -/
def zeroPeer : UdpPeer where
  address := { address := 0, port := 0 }
  used := false
  epoch := 0
  pending := false
  submitted := false
  transactionId := 0
  cached := false
  tid := 0
  rtu := []
  response := []
  admittedAt := 0
  lastSeen := 0
  completedAt := 0
  number := 0

abbrev PeerIndex := Fin modbusUdpPeers

structure UdpListener where
  opened : Bool
  rtuMode : Bool
  nextEpoch : BitVec 32
  nextPeer : PeerIndex
  portGeneration : BitVec 32
  now : CoreTick
  peers : PeerIndex → UdpPeer
  /-- Ghost: the accepted datagrams. -/
  requests : List UdpRequest
  /-- Ghost: `now`, counted without end. -/
  clock : Nat
  /-- Ghost: what happened, oldest first. -/
  log : List UdpEvent

variable {σ : Type}

variable (l : UdpListener) (port : PortRuntime σ UdpListener)

def UdpListener.setPeer (i : PeerIndex) (peer : UdpPeer) : UdpListener :=
  { l with peers := Function.update l.peers i peer }

def UdpListener.record (event : UdpEvent) : UdpListener :=
  { l with log := l.log ++ [event] }

/-! ## Datagrams -/

/-- The request shapes that may reach a UART. -/
def requestValid (r : List UInt8) : Bool :=
  let function := (byteAt r 1).toNat
  let address := be16 r 2
  let count := be16 r 4
  if r.length < 8 ∨ byteAt r 0 = 0 ∨ (byteAt r 0).toNat > 247 then false
  else if 1 ≤ function ∧ function ≤ 4 then
    decide (r.length = 8) && decide (count > 0) &&
      decide (count ≤ if function ≤ 2 then 2000 else 125) && decide (address + count ≤ 65536)
  else if function = 5 then decide (r.length = 8) && (decide (count = 0) || decide (count = 0xff00))
  else if function = 6 then decide (r.length = 8)
  else if function ≠ 15 ∧ function ≠ 16 then false
  else if r.length < 10 ∨ count = 0 ∨ count > (if function = 15 then 1968 else 123) ∨
      address + count > 65536 then false
  else
    let bytes := if function = 15 then (count + 7) / 8 else count * 2
    decide ((byteAt r 6).toNat = bytes) && decide (r.length = bytes + 9)

/-- The transaction id and the RTU frame of a datagram; `none` for a malformed one. -/
def decodeDatagram (rtuMode : Bool) (data : List UInt8) : Option (BitVec 16 × List UInt8) :=
  if rtuMode then
    if data.length < 4 ∨ data.length > modbusRtuAduMax then none
    else if !crcMatches data then none
    else if !requestValid data then none
    else some (0, data)
  else if data.length < 8 ∨ data.length > mbapAduMax ∨ byteAt data 2 ≠ 0 ∨ byteAt data 3 ≠ 0 ∨
      be16 data 4 ≠ data.length - 6 then none
  else if !requestValid (crcAppend (data.drop 6)) then none
  else some (BitVec.ofNat 16 (be16 data 0), crcAppend (data.drop 6))

/-! ## Completion -/

def sendResponse (i : PeerIndex) : UdpListener :=
  if (l.peers i).response = [] ∨ l.opened = false then l
  else l.record (.sent (l.peers i).address (l.peers i).response)

def finish (i : PeerIndex) : UdpListener :=
  sendResponse
    ((l.setPeer i
      { l.peers i with
        pending := false, submitted := false, cached := !l.rtuMode
        completedAt := l.now, lastSeen := l.now }).record
      (.finished (l.peers i).number l.clock (l.peers i).response)) i

/-- The checks of `completion` on a response `modbus_tcp_build_response` took: the frame
    is complete and of the length or the content the request asks for. -/
def responseFits (t : CoreTransaction) (response : List UInt8) : Bool :=
  if (modbusRtuFrameProbe t.payload response).1 ≠ .complete then false
  else if (byteAt response 1).toNat ≥ 0x80 then true
  else
    let function := (byteAt t.payload 1).toNat
    let count := be16 t.payload 4
    if function ≤ 4 then
      decide ((byteAt response 2).toNat = if function ≤ 2 then (count + 7) / 8 else count * 2)
    else decide ((response.drop 2).take 4 = (t.payload.drop 2).take 4)

/-- What `completion` leaves in `p->response`. -/
def completionResponse (rtuMode : Bool) (t : CoreTransaction) (status : CoreTransactionStatus)
    (response : List UInt8) : List UInt8 :=
  match status with
  | .completed =>
      match modbusTcpBuildResponse t response mbapAduMax with
      | .ok mbap =>
          if responseFits t response then if rtuMode then response else mbap else []
      | .error _ => []
  | .cancelled => []
  | _ =>
      if rtuMode then []
      else
        modbusTcpBuildGatewayException t
          (if t.requestTransmitted then modbusExceptionGatewayTargetNoResponse
          else modbusExceptionGatewayPathUnavailable)

/-- The request of peer `i` is the one transaction `t` was submitted for. -/
def peerMatches (i : PeerIndex) (t : CoreTransaction) : Bool :=
  (l.peers i).used && (l.peers i).submitted &&
    decide ((l.peers i).epoch = metaClientEpoch t) &&
    decide ((l.peers i).transactionId = t.id) &&
    (decide (t.generation = 0) || decide (t.generation = l.portGeneration))

def completion (t : CoreTransaction) (status : CoreTransactionStatus) (response : List UInt8) : UdpListener :=
  if l.opened = false ∨ t.ownerKind ≠ modbusOwnerUdp then l
  else if h : t.ownerId.toNat < modbusUdpPeers then
    if peerMatches l ⟨t.ownerId.toNat, h⟩ t then
      finish
        (l.setPeer ⟨t.ownerId.toNat, h⟩
          { l.peers ⟨t.ownerId.toNat, h⟩ with
            response := completionResponse l.rtuMode t status response })
        ⟨t.ownerId.toNat, h⟩
    else l.record .stale
  else l

/-! ## Admission -/

/-- The used peers that are idle for too long are cleared, the others kept. -/
def evictIdle (now : CoreTick) : UdpListener :=
  { l with
    peers := fun i =>
      if (l.peers i).used && !(l.peers i).pending &&
          decide (modbusUdpIdleTimeout ≤ coreElapsed (l.peers i).lastSeen now) then zeroPeer
      else l.peers i }

/-- The loop of `modbus_udp_listener_receive` keeps the last match … -/
def findPeer (source : UdpAddress) : Option PeerIndex :=
  (List.finRange modbusUdpPeers).reverse.find? fun i =>
    (l.peers i).used && decide ((l.peers i).address = source)

/-- … and the first free slot. -/
def freeSlot : Option PeerIndex :=
  (List.finRange modbusUdpPeers).find? fun i => !(l.peers i).used

def newPeer (i : PeerIndex) (source : UdpAddress) : UdpListener :=
  { l.setPeer i { zeroPeer with used := true, address := source, epoch := l.nextEpoch } with
    nextEpoch := if l.nextEpoch + 1 = 0 then 1 else l.nextEpoch + 1 }

/-- The peer is busy with a request, or still remembers one with this transaction id. -/
def holdsRequest (i : PeerIndex) (tid : BitVec 16) (now : CoreTick) : Bool :=
  (l.peers i).pending ||
    (!l.rtuMode && (l.peers i).cached && decide ((l.peers i).tid = tid) &&
      decide (coreElapsed (l.peers i).completedAt now < modbusUdpCacheTimeout))

def admitRequest (i : PeerIndex) (request : UdpRequest) (now : CoreTick) : Int × UdpListener :=
  if holdsRequest l i request.tid now then
    if (l.peers i).tid = request.tid ∧ (l.peers i).rtu = request.rtu then
      (1, if (l.peers i).pending then l else sendResponse l i)
    else (1, l)
  else
    (0,
      { l.setPeer i
          { l.peers i with
            tid := request.tid, rtu := request.rtu, pending := true, submitted := false
            cached := false, response := [], admittedAt := now, lastSeen := now
            number := l.requests.length } with
        requests := l.requests ++ [request] })

/-- `modbus_udp_listener_receive` for a well-formed request. -/
def admitFrom (request : UdpRequest) (now : CoreTick) : Int × UdpListener :=
  match findPeer l request.source with
  | some i => admitRequest l i request now
  | none =>
      match freeSlot l with
      | some i => admitRequest (newPeer l i request.source) i request now
      | none => (-2, l)

def modbusUdpListenerReceive (source : UdpAddress) (data : List UInt8) (now : CoreTick) : Int × UdpListener :=
  if l.opened = false then (-1, l)
  else
    match decodeDatagram l.rtuMode data with
    | none => (-1, { l with now := now })
    | some (tid, rtu) =>
        admitFrom (evictIdle { l with now := now } now) { source := source, tid := tid, rtu := rtu }
          now

/-! ## The step -/

/-- The port with its listener changed. -/
def withListener (l : UdpListener) : PortRuntime σ UdpListener :=
  { port with completionContext := l }

/-- The answer to a request that waited too long for the port runtime. -/
def queueTimeoutResponse (rtuMode : Bool) (peer : UdpPeer) : List UInt8 :=
  if rtuMode then []
  else
    [highByte peer.tid.toNat, UInt8.ofNat peer.tid.toNat, 0, 0, 0, 3, byteAt peer.rtu 0,
      byteAt peer.rtu 1 ||| 0x80, modbusExceptionGatewayPathUnavailable]

def expirePeer (i : PeerIndex) : UdpListener :=
  finish
    (l.setPeer i { l.peers i with response := queueTimeoutResponse l.rtuMode (l.peers i) }) i

/-- What `dispatch_one` submits for peer `i`. -/
def peerRequest (i : PeerIndex) (now : CoreTick) : SubmitRequest where
  payload := (l.peers i).rtu
  ownerKind := modbusOwnerUdp
  ownerId := BitVec.ofNat 32 i
  metadata := some
    (requestMetadata (l.peers i).tid (byteAt (l.peers i).rtu 0) (byteAt (l.peers i).rtu 1)
      (l.peers i).epoch)
  operation := some modbusOperation
  now := now
  queueTimeout := modbusUdpQueueTimeout - coreElapsed (l.peers i).admittedAt now
  responseTimeout := modbusUdpResponseTimeout

/-- `dispatch_one` after the submission for peer `i`. -/
def noteSubmission (i : PeerIndex) (result : CoreSubmitResult) (transactionId : BitVec 32) : UdpListener :=
  if result = .accepted then
    { (l.setPeer i
        { l.peers i with transactionId := transactionId, submitted := true }).record
        (.submitted (l.peers i).number (l.peers i).rtu) with
      nextPeer := i + 1 }
  else { l with nextPeer := i + 1 }

def submitPeer (i : PeerIndex) (now : CoreTick) : PortRuntime σ UdpListener :=
  match portRuntimeSubmitOperation port (peerRequest port.completionContext i now) with
  | (result, transactionId, port) =>
      withListener port (noteSubmission port.completionContext i result transactionId)

/-- The loop of `dispatch_one` over the peers still to be looked at. -/
def dispatchFrom (now : CoreTick) :
    List PeerIndex → PortRuntime σ UdpListener → PortRuntime σ UdpListener
  | [], port => port
  | i :: rest, port =>
      if (port.completionContext.peers i).pending = false ∨
          (port.completionContext.peers i).submitted = true then dispatchFrom now rest port
      else if modbusUdpQueueTimeout ≤
          coreElapsed (port.completionContext.peers i).admittedAt now then
        dispatchFrom now rest (withListener port (expirePeer port.completionContext i))
      else submitPeer port i now

/-- The peers in the order `dispatch_one` looks at them. -/
def dispatchOrder (nextPeer : PeerIndex) : List PeerIndex :=
  (List.finRange modbusUdpPeers).map fun i => nextPeer + i

def dispatchOne (now : CoreTick) : PortRuntime σ UdpListener :=
  dispatchFrom now (dispatchOrder port.completionContext.nextPeer) port

/-- The loop over `recvfrom`. The buffer is one byte longer than the longest frame. -/
def receiveAll (arrivals : List (UdpAddress × List UInt8)) (now : CoreTick) : UdpListener :=
  (arrivals.take modbusUdpStepMax).foldl
    (fun l d => (modbusUdpListenerReceive l d.1 (d.2.take (mbapAduMax + 1)) now).2) l

/-- `arrivals` is what `recvfrom` returns in this step until it has no more. -/
def modbusUdpListenerStepIo (arrivals : List (UdpAddress × List UInt8)) (now : CoreTick) :
    PortRuntime σ UdpListener :=
  if port.completionContext.opened = false then port
  else
    let received := receiveAll { port.completionContext with now := now } arrivals now
    let dispatched := dispatchOne (withListener port received) now
    withListener dispatched (evictIdle dispatched.completionContext now)

/-! ## Opening and closing -/

/-- `modbus_udp_listener_init` on a port. -/
def modbusUdpListenerInit (rtuMode : Bool) : PortRuntime σ UdpListener :=
  portRuntimeSetCompletion
    (withListener port
      { opened := false, rtuMode := rtuMode, nextEpoch := 1, nextPeer := 0, portGeneration := 0
        now := 0, peers := fun _ => zeroPeer, requests := [], clock := 0, log := [] })
    (some completion)

/-- `modbus_udp_listener_open`; `bound` is what the socket calls come to. -/
def modbusUdpListenerOpen (bound : Bool) : Int × UdpListener :=
  if l.opened then (-1, l)
  else if bound then (0, { l with opened := true })
  else (-1, l)

def modbusUdpListenerClose : UdpListener :=
  { l with opened := false, peers := fun _ => zeroPeer }

end FourVrs.Network
