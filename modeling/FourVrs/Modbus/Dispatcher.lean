import FourVrs.Core.PortMoves
import FourVrs.Modbus.MbapStream

/-!
# The Modbus/TCP dispatcher (`modbus/modbus_dispatcher.c`, `modbus_tcp_submit`)

Between the connections and the port runtime stand eight client slots, each with a
queue of two requests; a slot belongs to a client id in one epoch. The dispatcher offers
the runtime one request a step, turn by turn. Its counters are left out; nothing reads
them back.

`conn` of a request is ghost state: the number of the connection it was parsed from.
-/

set_option autoImplicit false

namespace FourVrs.Modbus

open FourVrs.Core

variable {σ κ : Type}

abbrev modbusClientMax : Nat := 8
def modbusClientQueueMax : Nat := 2

abbrev ClientIndex := Fin modbusClientMax

structure ModbusTcpRequest where
  clientId : BitVec 32
  clientEpoch : BitVec 32
  adu : MbapAdu
  /-- Ghost: the connection. -/
  conn : Nat
  deriving DecidableEq, Repr

/-- `requests` is what the source's ring holds, the oldest first. -/
structure ModbusClientSlot where
  id : BitVec 32
  epoch : BitVec 32
  connected : Bool
  requests : List ModbusTcpRequest
  deriving DecidableEq, Repr

/-- `memset(slot, 0, sizeof(*slot))`. -/
def zeroSlot : ModbusClientSlot where
  id := 0
  epoch := 0
  connected := false
  requests := []

structure ModbusDispatcher where
  clients : ClientIndex → ModbusClientSlot
  nextClient : ClientIndex

def modbusDispatcherInit : ModbusDispatcher where
  clients := fun _ => zeroSlot
  nextClient := 0

def ModbusDispatcher.setSlot (d : ModbusDispatcher) (j : ClientIndex) (slot : ModbusClientSlot) :
    ModbusDispatcher :=
  { d with clients := Function.update d.clients j slot }

def findSlot (d : ModbusDispatcher) (id : BitVec 32) : Option ClientIndex :=
  (List.finRange modbusClientMax).find? fun j =>
    (d.clients j).connected && decide ((d.clients j).id = id)

def freeClientSlot (d : ModbusDispatcher) : Option ClientIndex :=
  (List.finRange modbusClientMax).find? fun j => !(d.clients j).connected

def modbusDispatcherConnect (d : ModbusDispatcher) (clientId epoch : BitVec 32) :
    Int × ModbusDispatcher :=
  if epoch = 0 ∨ (findSlot d clientId).isSome then (-1, d)
  else
    match freeClientSlot d with
    | some j =>
        (0, d.setSlot j { zeroSlot with connected := true, id := clientId, epoch := epoch })
    | none => (-1, d)

def modbusDispatcherDisconnect (d : ModbusDispatcher) (clientId epoch : BitVec 32) :
    ModbusDispatcher :=
  match findSlot d clientId with
  | some j => if (d.clients j).epoch = epoch then d.setSlot j zeroSlot else d
  | none => d

def modbusDispatcherEnqueue (d : ModbusDispatcher) (request : ModbusTcpRequest) :
    Int × ModbusDispatcher :=
  match findSlot d request.clientId with
  | some j =>
      if (d.clients j).epoch ≠ request.clientEpoch then (-1, d)
      else if (d.clients j).requests.length = modbusClientQueueMax then (-2, d)
      else
        (0, d.setSlot j { d.clients j with requests := (d.clients j).requests ++ [request] })
  | none => (-1, d)

/-! ## Submission -/

/-- The RTU frame of a request. -/
def requestRtu (adu : MbapAdu) : List UInt8 := crcAppend (adu.unitId :: adu.pdu)

/-- What `modbus_tcp_submit` hands to the port runtime. -/
def tcpSubmitRequest (request : ModbusTcpRequest) (now queueTimeout responseTimeout : CoreTick) :
    SubmitRequest where
  payload := requestRtu request.adu
  ownerKind := modbusOwnerTcp
  ownerId := request.clientId
  metadata := some
    (requestMetadata request.adu.transactionId request.adu.unitId (byteAt request.adu.pdu 0)
      request.clientEpoch)
  operation := some modbusOperation
  now := now
  queueTimeout := queueTimeout
  responseTimeout := responseTimeout

def modbusTcpSubmit (port : PortRuntime σ κ) (request : ModbusTcpRequest)
    (now queueTimeout responseTimeout : CoreTick) : CoreSubmitResult × PortRuntime σ κ :=
  if request.adu.pdu.length = 0 ∨ request.adu.pdu.length > mbapPduMax then (.invalidRequest, port)
  else if 1 + request.adu.pdu.length + 2 > modbusRtuAduMax then (.invalidRequest, port)
  else
    match portRuntimeSubmitOperation port
        (tcpSubmitRequest request now queueTimeout responseTimeout) with
    | (result, _, port) => (result, port)

/-- The slot whose turn it is, and the request in front of it. -/
def dispatcherPick (d : ModbusDispatcher) : Option (ClientIndex × ModbusTcpRequest) :=
  ((List.finRange modbusClientMax).map fun n => d.nextClient + n).findSome? fun j =>
    if (d.clients j).connected then (d.clients j).requests.head?.map fun request => (j, request)
    else none

/-- What `modbus_dispatcher_step` writes once slot `j` has had its turn. -/
def dispatcherAdvance (d : ModbusDispatcher) (j : ClientIndex) (result : CoreSubmitResult) :
    ModbusDispatcher :=
  if result = .accepted then
    { d.setSlot j { d.clients j with requests := (d.clients j).requests.tail } with
      nextClient := j + 1 }
  else { d with nextClient := j + 1 }

end FourVrs.Modbus
