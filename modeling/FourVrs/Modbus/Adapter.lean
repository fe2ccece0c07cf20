import FourVrs.Uart.Backend

/-!
# Modbus frames (`modbus/modbus_crc.c`, `modbus/modbus_tcp_adapter.c`)

The serial line speaks RTU frames, closed by a CRC-16; the TCP and UDP clients speak
MBAP frames, opened by a seven-byte header. The adapter turns one into the other on
the way to the port runtime and back, and carries what it needs for the way back in
the four metadata words of the transaction.
-/

set_option autoImplicit false

namespace FourVrs.Modbus

open FourVrs.Core Uart

def mbapHeaderSize : Nat := 7
def mbapPduMax : Nat := 253
def mbapAduMax : Nat := mbapHeaderSize + mbapPduMax
def modbusRtuAduMax : Nat := 256
def modbusOwnerTcp : BitVec 32 := 1
def modbusOwnerUdp : BitVec 32 := 2
def modbusExceptionGatewayPathUnavailable : UInt8 := 0x0a
def modbusExceptionGatewayTargetNoResponse : UInt8 := 0x0b

/-! ## Bytes -/

def byteAt (data : List UInt8) (index : Nat) : UInt8 := data.getD index 0

/-- The word two bytes spell, the high one first. -/
def be16 (data : List UInt8) (index : Nat) : Nat :=
  (byteAt data index).toNat * 256 + (byteAt data (index + 1)).toNat

/-- `(unsigned char)(word >> 8)`. -/
def highByte (word : Nat) : UInt8 := UInt8.ofNat (word / 256)

def crc16Bit (crc : BitVec 16) : BitVec 16 :=
  if crc &&& 1 = 1 then (crc >>> 1) ^^^ 0xa001 else crc >>> 1

def crc16Byte (crc : BitVec 16) (byte : UInt8) : BitVec 16 :=
  crc16Bit^[8] (crc ^^^ byte.toBitVec.setWidth 16)

def modbusCrc16 (data : List UInt8) : BitVec 16 := data.foldl crc16Byte 0xffff

/-- The frame closed by its CRC, the low byte first. -/
def crcAppend (data : List UInt8) : List UInt8 :=
  data ++ [UInt8.ofNat (modbusCrc16 data).toNat, highByte (modbusCrc16 data).toNat]

/-- The last two bytes are the CRC of those before. -/
def crcMatches (data : List UInt8) : Bool :=
  decide ((modbusCrc16 (data.take (data.length - 2))).toNat =
    (byteAt data (data.length - 2)).toNat + (byteAt data (data.length - 1)).toNat * 256)

/-! ## The transaction's metadata -/

def metaTransactionId (t : CoreTransaction) : Nat :=
  (t.transportMetadata.getD 0 0).toNat

def metaUnitFunction (t : CoreTransaction) : Nat :=
  (t.transportMetadata.getD 1 0).toNat

def metaClientEpoch (t : CoreTransaction) : BitVec 32 :=
  t.transportMetadata.getD 2 0

/-- The four words of a request: transaction id, unit and function, epoch, and one
    that stays zero. -/
def requestMetadata (transactionId : BitVec 16) (unit function : UInt8) (epoch : BitVec 32) :
    List (BitVec 32) :=
  [transactionId.setWidth 32, BitVec.ofNat 32 (unit.toNat * 256 + function.toNat), epoch, 0]

/-- The operation both listeners submit. -/
def modbusOperation : CoreOperation where
  direction := .txThenRx
  responsePolicy := .backendFramed
  expectedResponseLength := 0

/-! ## RTU responses -/

/-- How long the response will be, as far as its first bytes tell; otherwise the
    verdict on them. -/
def modbusRtuExpectedLength (request response : List UInt8) : Except UartFrameResult Nat :=
  let function := byteAt request 1
  if byteAt response 1 = function ||| 0x80 then .ok 5
  else if byteAt response 1 ≠ function then .error .malformed
  else if 1 ≤ function ∧ function ≤ 4 then
    if response.length < 3 then .error .incomplete
    else if 5 + (byteAt response 2).toNat > modbusRtuAduMax then .error .malformed
    else .ok (5 + (byteAt response 2).toNat)
  else if function = 5 ∨ function = 6 ∨ function = 15 ∨ function = 16 then .ok 8
  else .error .malformed

def modbusRtuFrameProbe : UartFrameProbe := fun request response =>
  if request.length < 4 ∨ request.length > modbusRtuAduMax ∨
      response.length > modbusRtuAduMax then (.malformed, 0)
  else if response.length < 2 then (.incomplete, 0)
  else if byteAt response 0 ≠ byteAt request 0 then (.malformed, 0)
  else
    match modbusRtuExpectedLength request response with
    | .error result => (result, 0)
    | .ok expected =>
        if response.length < expected then (.incomplete, expected)
        else if response.length ≠ expected then (.malformed, expected)
        else if !crcMatches response then (.malformed, expected)
        else (.complete, expected)

/-! ## MBAP answers -/

/-- The MBAP frame of an RTU response, or the source's error code. -/
def modbusTcpBuildResponse (t : CoreTransaction) (rtu : List UInt8) (capacity : Nat) :
    Except Int (List UInt8) :=
  let unit := highByte (metaUnitFunction t)
  let function := UInt8.ofNat (metaUnitFunction t)
  if rtu.length < 4 ∨ rtu.length > modbusRtuAduMax then .error (-1)
  else if !crcMatches rtu then .error (-2)
  else if byteAt rtu 0 ≠ unit then .error (-3)
  else if byteAt rtu 1 ≠ function ∧ byteAt rtu 1 ≠ function ||| 0x80 then .error (-4)
  else if mbapHeaderSize + (rtu.length - 3) > capacity then .error (-5)
  else
    .ok ([highByte (metaTransactionId t), UInt8.ofNat (metaTransactionId t), 0, 0,
        highByte (1 + (rtu.length - 3)), UInt8.ofNat (1 + (rtu.length - 3)), byteAt rtu 0] ++
      (rtu.drop 1).take (rtu.length - 3))

/-- The nine-byte exception frame; the callers pass one of the two gateway codes and
    room for a whole frame. -/
def modbusTcpBuildGatewayException (t : CoreTransaction) (exceptionCode : UInt8) : List UInt8 :=
  [highByte (metaTransactionId t), UInt8.ofNat (metaTransactionId t), 0, 0, 0, 3,
    highByte (metaUnitFunction t), UInt8.ofNat (metaUnitFunction t) ||| 0x80, exceptionCode]

end FourVrs.Modbus
