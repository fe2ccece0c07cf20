import FourVrs.Core.PortRuntime

/-!
# The UART backend (`uart/uart_backend.c`)

The backend of a port: it opens the device, applies the line settings, writes a
transaction's payload in pieces and collects the response in pieces, all without
blocking. The system calls are a table over the state `η` of the world behind them,
and may do anything their documentation allows: `read` and `write` transfer at most
what they are asked to and `read` says how much it stored.

`history` is ghost state: what happened at the device, oldest first. Statistics, read
tracing and the debug output are left out; nothing reads them back.
-/

set_option autoImplicit false

namespace FourVrs.Uart

open FourVrs.Core

def uartIoBudget : Nat := 64
def uartRxCapacity : Nat := coreTransactionPayloadMax
def uartRecoveryDrainLimit : Nat := 512

/-- The fields of `struct termios` the backend writes, and the two speeds. -/
structure Termios where
  iflag : Nat
  oflag : Nat
  lflag : Nat
  cflag : Nat
  vmin : Nat
  vtime : Nat
  ispeed : Nat
  ospeed : Nat
  deriving DecidableEq, Repr, Inhabited

def cCREAD : Nat := 0o200
def cCLOCAL : Nat := 0o4000
def cCSTOPB : Nat := 0o100
def cPARENB : Nat := 0o400
def cPARODD : Nat := 0o1000
def cINPCK : Nat := 0o20

/-- `CS5` … `CS8`. -/
def cCharacterSize (dataBits : Nat) : Nat :=
  if dataBits = 5 then 0 else if dataBits = 6 then 0o20 else if dataBits = 7 then 0o40 else 0o60

inductive UartRequest where
  | setOpMode | getOpMode | setSpecialBaudRate | getSpecialBaudRate
  deriving DecidableEq, Repr

structure UartSyscalls (η : Type) where
  openFn : η → Nat → Int × η
  closeFn : η → Int → Int × η
  readFn : η → Int → Nat → Int × List UInt8 × η
  writeFn : η → Int → List UInt8 → Int × η
  ioctlFn : η → Int → UartRequest → Nat → Int × Nat × η
  tcgetattrFn : η → Int → Int × Termios × η
  tcsetattrFn : η → Int → Termios → Int × η
  tcflushFn : η → Int → Int × η
  lastErrorFn : η → Int
  read_le : ∀ world fd length, (readFn world fd length).1 ≤ length
  read_stored : ∀ world fd length, 0 < (readFn world fd length).1 →
    ((readFn world fd length).2.1.length : Int) = (readFn world fd length).1
  write_le : ∀ world fd buffer, (writeFn world fd buffer).1 ≤ buffer.length

inductive UartFrameResult where
  | incomplete | complete | malformed
  deriving DecidableEq, Repr

/-- `uart_frame_probe_fn`: request and response so far give a verdict and a length. -/
abbrev UartFrameProbe := List UInt8 → List UInt8 → UartFrameResult × Nat

/-- Ghost: what happened at the device. -/
inductive UartEvent where
  | opened
  | closed
  /-- `apply_config` returned; it may have changed the device from `touched` on. -/
  | applied (config : CorePortConfig) (succeeded touched : Bool)
  | started (generation : BitVec 32) (payload : List UInt8)
  | wrote (bytes : List UInt8)
  | received (bytes : List UInt8)
  | drained (bytes : List UInt8)
  deriving DecidableEq, Repr

structure UartBackend (η : Type) where
  portIndex : Nat
  fd : Int
  configured : Bool
  config : CorePortConfig
  savedTermios : Termios
  savedTermiosValid : Bool
  savedMode : Nat
  savedModeValid : Bool
  savedSpecialBaud : Nat
  savedSpecialBaudValid : Bool
  tx : List UInt8
  txLength : Nat
  txOffset : Nat
  /-- The first `rx_length` bytes of the source's array. -/
  rx : List UInt8
  expectedResponseLength : Nat
  activeGeneration : BitVec 32
  activeTransactionId : BitVec 32
  transmitReported : Bool
  operation : CoreOperation
  frameProbe : Option UartFrameProbe
  sys : UartSyscalls η
  sysContext : η
  history : List UartEvent

variable {η : Type}

variable (uart : UartBackend η)

def UartBackend.log (event : UartEvent) : UartBackend η :=
  { uart with history := uart.history ++ [event] }

def zeroOperation : CoreOperation :=
  { direction := .txOnly, responsePolicy := .none, expectedResponseLength := 0 }

/-- `uart_backend_init`, when it accepts. -/
def uartBackendInit (portIndex : Nat) (config : CorePortConfig) (sys : UartSyscalls η)
    (sysContext : η) (frameProbe : Option UartFrameProbe) : UartBackend η where
  portIndex := portIndex
  fd := -1
  configured := false
  config := config
  savedTermios := default
  savedTermiosValid := false
  savedMode := 0
  savedModeValid := false
  savedSpecialBaud := 0
  savedSpecialBaudValid := false
  tx := []
  txLength := 0
  txOffset := 0
  rx := []
  expectedResponseLength := 0
  activeGeneration := 0
  activeTransactionId := 0
  transmitReported := false
  operation := zeroOperation
  frameProbe := frameProbe
  sys := sys
  sysContext := sysContext
  history := []

/-! ## Settings -/

def standardSpeeds : List Nat :=
  [50, 75, 110, 134, 150, 200, 300, 600, 1200, 1800, 2400, 4800, 9600, 19200, 38400, 57600, 115200,
    230400, 460800, 500000, 576000, 921600]

/-- The speeds stand for their `Bxxx` codes; 0 is no speed. -/
def standardSpeed (baud : Nat) : Nat := if standardSpeeds.contains baud then baud else 0

def specialSpeed : Nat := 4000000

/-- `uart_config_validate(config) == 0`. -/
def uartConfigValidate (config : CorePortConfig) : Bool :=
  decide (config.mode ≤ 3) && decide (config.dataBits ≥ 5) && decide (config.dataBits ≤ 8) &&
    decide (config.parity ≤ 2) && (decide (config.stopBits = 1) || decide (config.stopBits = 2)) &&
    if config.specialBaudEnabled ≠ 0 then decide (config.specialBaud > 0)
    else decide (standardSpeed config.baud ≠ 0)

/-- The attributes `apply_config` builds. -/
def lineAttributes (config : CorePortConfig) : Termios :=
  let speed :=
    if config.specialBaudEnabled ≠ 0 then specialSpeed else standardSpeed config.baud
  { iflag := if config.parity ≠ 0 then cINPCK else 0
    oflag := 0
    lflag := 0
    cflag := cCREAD + cCLOCAL + cCharacterSize config.dataBits +
      (if config.parity ≠ 0 then cPARENB else 0) + (if config.parity = 2 then cPARODD else 0) +
      (if config.stopBits = 2 then cCSTOPB else 0)
    vmin := 0
    vtime := 0
    ispeed := speed
    ospeed := speed }

/-- A failure return of `apply_config`. -/
def applyFailed (config : CorePortConfig) (touched : Bool) : Int × UartBackend η :=
  (-1, uart.log (.applied config false touched))

def applySucceeded (config : CorePortConfig) : Int × UartBackend η :=
  (0, { uart with config := config, configured := true }.log (.applied config true true))

/-- The end of `apply_config`: the special rate, set and read back. -/
def applySpecialBaud (config : CorePortConfig) : Int × UartBackend η :=
  if config.specialBaudEnabled = 0 then applySucceeded uart config
  else
    match uart.sys.ioctlFn uart.sysContext uart.fd .setSpecialBaudRate config.specialBaud with
    | (0, _, world) =>
        match uart.sys.ioctlFn world uart.fd .getSpecialBaudRate 0 with
        | (0, readback, world) =>
            if readback = config.specialBaud then
              applySucceeded { uart with sysContext := world } config
            else applyFailed { uart with sysContext := world } config true
        | (_, _, world) => applyFailed { uart with sysContext := world } config true
    | (_, _, world) => applyFailed { uart with sysContext := world } config true

/-- The middle of `apply_config`: the interface mode, set and read back. -/
def applyMode (config : CorePortConfig) : Int × UartBackend η :=
  match uart.sys.ioctlFn uart.sysContext uart.fd .setOpMode config.mode with
  | (0, _, world) =>
      match uart.sys.ioctlFn world uart.fd .getOpMode 0xffffffff with
      | (0, readback, world) =>
          if readback = config.mode then applySpecialBaud { uart with sysContext := world } config
          else applyFailed { uart with sysContext := world } config true
      | (_, _, world) => applyFailed { uart with sysContext := world } config true
  | (_, _, world) => applyFailed { uart with sysContext := world } config true

def applyConfig (config : CorePortConfig) : Int × UartBackend η :=
  if !uartConfigValidate config || decide (uart.fd < 0) then applyFailed uart config false
  else
    match uart.sys.tcgetattrFn uart.sysContext uart.fd with
    | (0, _, world) =>
        match uart.sys.tcsetattrFn world uart.fd (lineAttributes config) with
        | (0, world) => applyMode { uart with sysContext := world } config
        | (_, world) => applyFailed { uart with sysContext := world } config true
    | (_, _, world) => applyFailed { uart with sysContext := world } config false

/-! ## Open and stop -/

/-- `close_fn`, its result ignored, and `fd = -1`: how `backend_open` gives up. -/
def abandonDevice : UartBackend η :=
  { uart with sysContext := (uart.sys.closeFn uart.sysContext uart.fd).2, fd := -1 }.log .closed

/-- What `backend_open` does before it gives up on settings the device refused. -/
def restoreSaved : UartBackend η :=
  let uart :=
    if uart.savedTermiosValid then
      { uart with
        sysContext := (uart.sys.tcsetattrFn uart.sysContext uart.fd uart.savedTermios).2 }
    else uart
  if uart.savedModeValid then
    { uart with
      sysContext := (uart.sys.ioctlFn uart.sysContext uart.fd .setOpMode uart.savedMode).2.2 }
  else uart

/-- `backend_open` up to the special rate: read what the device has now. -/
def saveDevice : UartBackend η :=
  let attributes := uart.sys.tcgetattrFn uart.sysContext uart.fd
  let mode := uart.sys.ioctlFn attributes.2.2 uart.fd .getOpMode uart.savedMode
  { uart with
    savedTermiosValid := decide (attributes.1 = 0)
    savedTermios := attributes.2.1
    savedModeValid := decide (mode.1 = 0)
    savedMode := mode.2.1
    sysContext := mode.2.2 }

/-- The special rate, if the device was at one. -/
def saveSpecialBaud : UartBackend η :=
  if uart.savedTermiosValid && decide (uart.savedTermios.ispeed = specialSpeed) then
    let baud := uart.sys.ioctlFn uart.sysContext uart.fd .getSpecialBaudRate uart.savedSpecialBaud
    { uart with
      savedSpecialBaudValid := decide (baud.1 = 0)
      savedSpecialBaud := baud.2.1
      sysContext := baud.2.2 }
  else uart

/-- `backend_open` once the old settings are known. -/
def openConfigured : Int × UartBackend η :=
  if !uart.savedTermiosValid || !uart.savedModeValid then (-1, abandonDevice uart)
  else if decide (uart.savedTermios.ispeed = specialSpeed) && !uart.savedSpecialBaudValid then
    (-1, abandonDevice uart)
  else
    match applyConfig uart uart.config with
    | (0, uart) => (0, uart)
    | (_, uart) => (-1, abandonDevice (restoreSaved uart))

def backendOpen (_now : CoreTick) : Int × UartBackend η :=
  if uart.fd ≥ 0 then (0, uart)
  else
    match uart.sys.openFn uart.sysContext uart.portIndex with
    | (fd, world) =>
        if fd < 0 then (-1, { uart with sysContext := world, fd := fd })
        else openConfigured (saveSpecialBaud (saveDevice
          ({ uart with sysContext := world, fd := fd }.log .opened)))

/-- Write back what was saved; whether all of it went well. -/
def stopRestore : Bool × UartBackend η :=
  let attributes :=
    if uart.savedTermiosValid then
      uart.sys.tcsetattrFn uart.sysContext uart.fd uart.savedTermios
    else (0, uart.sysContext)
  let mode :=
    if uart.savedModeValid then
      uart.sys.ioctlFn attributes.2 uart.fd .setOpMode uart.savedMode
    else (0, 0, attributes.2)
  let baud :=
    if uart.savedSpecialBaudValid then
      uart.sys.ioctlFn mode.2.2 uart.fd .setSpecialBaudRate uart.savedSpecialBaud
    else (0, 0, mode.2.2)
  (decide (attributes.1 = 0) && decide (mode.1 = 0) && decide (baud.1 = 0),
    { uart with sysContext := baud.2.2 })

def backendStop (_now : CoreTick) : Int × UartBackend η :=
  if uart.fd < 0 then (0, uart)
  else
    match stopRestore uart with
    | (restored, uart) =>
        match uart.sys.closeFn uart.sysContext uart.fd with
        | (0, world) =>
            (if restored then 0 else -1,
              { uart with sysContext := world, fd := -1, configured := false }.log .closed)
        | (_, world) => (-1, { uart with sysContext := world })

def backendReconfigure (config : CorePortConfig) (_now : CoreTick) : Int × UartBackend η :=
  applyConfig uart config

/-! ## Transactions -/

def eAGAIN : Int := 11
def eINTR : Int := 4

/-- `EWOULDBLOCK` is `EAGAIN`. -/
def temporaryError (error : Int) : Bool := decide (error = eAGAIN) || decide (error = eINTR)

def backendStart (transaction : CoreTransaction) (_now : CoreTick) : Int × UartBackend η :=
  if uart.fd < 0 ∨ transaction.payload.length = 0 ∨
      transaction.operation.expectedResponseLength > uartRxCapacity then (-1, uart)
  else if transaction.operation.responsePolicy = .backendFramed ∧ uart.frameProbe.isNone then
    (-1, { uart with operation := transaction.operation })
  else
    (0, { uart with
        operation := transaction.operation
        tx := transaction.payload
        txLength :=
          if transaction.operation.direction = CoreOperationDirection.rxOnly then 0
          else transaction.payload.length
        txOffset := 0
        rx := []
        expectedResponseLength := transaction.operation.expectedResponseLength
        activeGeneration := transaction.generation
        activeTransactionId := transaction.id
        transmitReported := false }.log (.started transaction.generation transaction.payload))

def noEvent : BackendEvent := { type := .none, generation := 0, data := [] }

/-- The event of a poll, for the generation the backend works for. -/
def UartBackend.event (type : BackendEventType) (data : List UInt8) : BackendEvent :=
  { type := type, generation := uart.activeGeneration, data := data }

/-- Both system call errors: a temporary one is nothing, any other one an event. -/
def callFailed : Int × BackendEvent × UartBackend η :=
  if temporaryError (uart.sys.lastErrorFn uart.sysContext) then (0, noEvent, uart)
  else (1, uart.event .failure [], uart)

/-- The part of `backend_poll` that writes. -/
def pollWrite : Int × BackendEvent × UartBackend η :=
  let chunk := ((uart.tx.take uart.txLength).drop uart.txOffset).take uartIoBudget
  match uart.sys.writeFn uart.sysContext uart.fd chunk with
  | (result, world) =>
      if result > 0 then
        (0, noEvent,
          { uart with sysContext := world, txOffset := uart.txOffset + result.toNat }.log
            (.wrote (chunk.take result.toNat)))
      else if result < 0 then callFailed { uart with sysContext := world }
      else (0, noEvent, { uart with sysContext := world })

/-- What a poll makes of the bytes received so far. -/
def judgeResponse : Int × BackendEvent × UartBackend η :=
  match uart.operation.responsePolicy with
  | .fixedLength =>
      if uart.rx.length ≥ uart.expectedResponseLength then
        (1, uart.event
          (if uart.rx.length = uart.expectedResponseLength then .response else .malformed) uart.rx,
          uart)
      else (0, noEvent, uart)
  | .backendFramed =>
      match uart.frameProbe with
      | none => (0, noEvent, uart)
      | some probe =>
          let (framed, frameLength) := probe (uart.tx.take uart.txLength) uart.rx
          if framed ≠ .incomplete then
            (1, uart.event
              (if framed = .complete ∧ frameLength = uart.rx.length then .response else .malformed)
              uart.rx, uart)
          else (0, noEvent, uart)
  | .none => (0, noEvent, uart)

/-- The part of `backend_poll` that reads. -/
def pollRead : Int × BackendEvent × UartBackend η :=
  if uartRxCapacity - uart.rx.length = 0 then (1, uart.event .malformed [], uart)
  else
    match uart.sys.readFn uart.sysContext uart.fd
        (min (uartRxCapacity - uart.rx.length) uartIoBudget) with
    | (result, bytes, world) =>
        if result > 0 then
          judgeResponse ({ uart with sysContext := world, rx := uart.rx ++ bytes }.log
            (.received bytes))
        else if result < 0 then callFailed { uart with sysContext := world }
        else (0, noEvent, { uart with sysContext := world })

def backendPoll (_now : CoreTick) : Int × BackendEvent × UartBackend η :=
  if uart.fd < 0 then (-1, noEvent, uart)
  else if uart.activeGeneration = 0 then (0, noEvent, uart)
  else if uart.txOffset < uart.txLength then pollWrite uart
  else if uart.operation.direction = .txThenRx ∧ uart.transmitReported = false then
    (1, uart.event .transmitted [], { uart with transmitReported := true })
  else if uart.operation.direction = .txOnly then (1, uart.event .response [], uart)
  else pollRead uart

/-- Forget the transaction: the block `backend_cancel` and `backend_recover` share. -/
def forgetTransaction : UartBackend η :=
  { uart with
    txLength := 0, txOffset := 0, rx := [], expectedResponseLength := 0, activeGeneration := 0
    activeTransactionId := 0, transmitReported := false, operation := zeroOperation }

def backendCancel (generation : BitVec 32) : UartBackend η :=
  if uart.activeGeneration = generation then forgetTransaction uart else uart

/-- The loop of `backend_recover`: the bytes discarded and whether it ended without a
    hard error. Every pass that goes on discards a byte, so `uartRecoveryDrainLimit`
    passes reach the limit. -/
def drainLoop : Nat → Nat → UartBackend η → Bool × Nat × UartBackend η
  | 0, total, uart => (true, total, uart)
  | passes + 1, total, uart =>
      if total < uartRecoveryDrainLimit then
        match uart.sys.readFn uart.sysContext uart.fd uartIoBudget with
        | (result, bytes, world) =>
            if result > 0 then
              drainLoop passes (total + result.toNat)
                ({ uart with sysContext := world }.log (.drained bytes))
            else if result < 0 then
              (temporaryError (uart.sys.lastErrorFn world), total, { uart with sysContext := world })
            else (true, total, { uart with sysContext := world })
      else (true, total, uart)

def backendRecover (_now : CoreTick) : Int × UartBackend η :=
  if uart.fd < 0 then (-1, uart)
  else
    match drainLoop uartRecoveryDrainLimit 0 uart with
    | (false, _, uart) => (-1, uart)
    | (true, total, uart) =>
        if total ≥ uartRecoveryDrainLimit then (-1, uart)
        else
          match uart.sys.tcflushFn uart.sysContext uart.fd with
          | (0, world) => (0, forgetTransaction { uart with sysContext := world })
          | (_, world) => (-1, { uart with sysContext := world })

def uartBackendOps : CoreBackendOps (UartBackend η) where
  «open» := backendOpen
  start := backendStart
  poll := backendPoll
  cancel := backendCancel
  recover := backendRecover
  reconfigure := backendReconfigure
  stop := backendStop

end FourVrs.Uart
