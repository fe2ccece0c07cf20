import FourVrs.Config.CText
import FourVrs.Core.PortRuntime

/-!
# Port configurations (`gateway/gateway_controller.{h,c}`, `config/config_model.c`)

The settings of the eight serial ports and the validation every configuration
passes before it is used. The enumerations keep their numbers here: the decoder
stores what it reads into them and only the validation bounds it.
-/

set_option autoImplicit false

namespace FourVrs.Config

open FourVrs.Core

abbrev gatewayPortCount : Nat := 8
def gatewayBindAddressLength : Nat := 40

def serialModeCount : Nat := 4
def parityCount : Nat := 3

def transportModbusTcp : Nat := 0
def transportModbusUdp : Nat := 1
def transportRtuUdp : Nat := 2
def transportRawTcp : Nat := 3
def transportRawUdp : Nat := 4

def baudValues : List Nat :=
  [50, 75, 110, 134, 150, 200, 300, 600, 1200, 1800, 2400, 4800, 9600, 19200, 38400, 57600, 115200,
    230400, 460800, 921600]

inductive GatewayError where
  | none | invalidConfig | duplicateUart | duplicateEndpoint | unsupportedTransport | backendStart
  | listenerStart | reconfigure | rollback | stop
  deriving DecidableEq, Repr, Inhabited

/-- `enabled` and `specialBaudEnabled` are `int` in the source; a negative value reads
    as the unsigned one of the same bits. `bindTail` is what stands behind the terminator
    of `bind_address`: no function reads it, but `memcmp` of two records sees it. -/
structure GatewayPortConfig where
  enabled : Nat
  uartIndex : Nat
  mode : Nat
  baud : Nat
  dataBits : Nat
  parity : Nat
  stopBits : Nat
  transport : Nat
  bindAddress : CString
  bindTail : List UInt8
  bindPolicy : Nat
  endpointPort : Nat
  specialBaudEnabled : Nat
  specialBaud : Nat
  revision : Nat
  deriving DecidableEq

/-- `memset(&config, 0, sizeof(config))`. -/
def zeroPortConfig : GatewayPortConfig where
  enabled := 0
  uartIndex := 0
  mode := 0
  baud := 0
  dataBits := 0
  parity := 0
  stopBits := 0
  transport := 0
  bindAddress := ⟨[], nil_nonzero⟩
  bindTail := List.replicate 39 0
  bindPolicy := 0
  endpointPort := 0
  specialBaudEnabled := 0
  specialBaud := 0
  revision := 0

/-- `strcpy(config.bind_address, address)`: the tail keeps the bytes the copy does not reach. -/
def GatewayPortConfig.bindTo (config : GatewayPortConfig) (address : CString) : GatewayPortConfig :=
  { config with
    bindAddress := address
    bindTail := (config.bindAddress.bytes ++ 0 :: config.bindTail).drop (address.length + 1) }

/-- One settings record for each port. -/
abbrev GatewayPorts := Fin gatewayPortCount → GatewayPortConfig

def anyAddress : CString := ⟨text "0.0.0.0", by decide⟩

/-! ## Validation -/

def standardBaud (value : Nat) : Bool := baudValues.contains value

/-- One `%u` of `sscanf` with the value at most 255, and the bytes behind it. C leaves a
    `%u` that overflows undefined; an `unsigned long` of 32 bits is followed, which saturates. -/
def scanOctet (input : List UInt8) : Option (List UInt8) :=
  match strtoul input with
  | some number => if number.value ≤ 255 then some number.rest else none
  | none => none

/-- The literal `.` of the format. -/
def scanDot : List UInt8 → Option (List UInt8)
  | 46 :: rest => some rest
  | _ => none

/-- `sscanf(s, "%u.%u.%u.%u%c", …) == 4` with four values up to 255: the trailing `%c`
    must find nothing to read. -/
def dottedQuad (input : List UInt8) : Bool :=
  (do
    let a ← scanOctet input
    let b ← scanOctet (← scanDot a)
    let c ← scanOctet (← scanDot b)
    scanOctet (← scanDot c)) == some []

def bindAddressValid (address : CString) : Bool :=
  decide (address.length ≠ 0) && decide (address.length < gatewayBindAddressLength) &&
    dottedQuad address.bytes

def supportedTransport (transport : Nat) : Bool :=
  decide (transport = transportModbusTcp) || decide (transport = transportModbusUdp) ||
    decide (transport = transportRtuUdp) || decide (transport = transportRawTcp) ||
    decide (transport = transportRawUdp)

def validateOne (config : GatewayPortConfig) : GatewayError :=
  if config.uartIndex ≥ gatewayPortCount ∨ config.mode ≥ serialModeCount ∨
      config.dataBits < 5 ∨ config.dataBits > 8 ∨ config.parity ≥ parityCount ∨
      (config.stopBits ≠ 1 ∧ config.stopBits ≠ 2) ∨ config.revision = 0 ∨
      (config.enabled ≠ 0 ∧ config.enabled ≠ 1) ∨
      (config.specialBaudEnabled ≠ 0 ∧ config.specialBaudEnabled ≠ 1) ∨
      bindAddressValid config.bindAddress = false then .invalidConfig
  else if (config.specialBaudEnabled = 0 ∧ standardBaud config.baud = false) ∨
      (config.specialBaudEnabled ≠ 0 ∧
        (config.specialBaud = 0 ∨ config.specialBaud > 0xffffffff)) then .invalidConfig
  else if config.bindPolicy > 3 then .invalidConfig
  else if config.enabled = 0 then .none
  else if supportedTransport config.transport = false then .unsupportedTransport
  else if config.endpointPort = 0 ∨ config.endpointPort > 65535 then .invalidConfig
  else .none

def tcpFamily (transport : Nat) : Bool :=
  decide (transport = transportModbusTcp) || decide (transport = transportRawTcp)

def udpFamily (transport : Nat) : Bool :=
  decide (transport = transportModbusUdp) || decide (transport = transportRtuUdp) ||
    decide (transport = transportRawUdp)

def endpointsClash (a b : GatewayPortConfig) : Bool :=
  ((tcpFamily a.transport && tcpFamily b.transport) ||
      (udpFamily a.transport && udpFamily b.transport)) &&
    decide (a.endpointPort = b.endpointPort) &&
    (decide (a.bindAddress = b.bindAddress) || decide (a.bindAddress = anyAddress) ||
      decide (b.bindAddress = anyAddress))

abbrev PortErrors := Fin gatewayPortCount → GatewayError

/-- `errors[i] = errors[j] = error`. -/
def markPair (errors : PortErrors) (i j : Fin gatewayPortCount) (error : GatewayError) :
    PortErrors :=
  Function.update (Function.update errors j error) i error

/-- The body of the inner loop, for two enabled ports. -/
def checkPair (ports : GatewayPorts) (errors : PortErrors) (i j : Fin gatewayPortCount) :
    PortErrors :=
  let errors :=
    if (ports i).uartIndex = (ports j).uartIndex then markPair errors i j .duplicateUart
    else errors
  if endpointsClash (ports i) (ports j) then markPair errors i j .duplicateEndpoint else errors

/-- The pairs `i < j` of enabled ports, in the order of the two loops. -/
def enabledPairs (ports : GatewayPorts) : List (Fin gatewayPortCount × Fin gatewayPortCount) :=
  ((List.finRange gatewayPortCount).filter fun i => (ports i).enabled ≠ 0).flatMap fun i =>
    ((List.finRange gatewayPortCount).filter fun j => i < j ∧ (ports j).enabled ≠ 0).map (i, ·)

def validationErrors (ports : GatewayPorts) : PortErrors :=
  (enabledPairs ports).foldl (fun errors pair => checkPair ports errors pair.1 pair.2)
    fun i => validateOne (ports i)

/-- `gateway_configuration_validate`: the number of ports with an error, and the errors. -/
def gatewayConfigurationValidate (ports : GatewayPorts) : Nat × PortErrors :=
  (((List.finRange gatewayPortCount).filter fun i => validationErrors ports i ≠ .none).length,
    validationErrors ports)

/-! ### What the validation promises -/

variable {ports : GatewayPorts} {errors : PortErrors}

theorem markPair_none {i j k : Fin gatewayPortCount} {error : GatewayError} (herror : error ≠ .none)
    (h : markPair errors i j error k = .none) : errors k = .none := by
  unfold markPair at h
  rw [Function.update_apply] at h
  split at h
  · exact absurd h herror
  · rw [Function.update_apply] at h
    split at h
    · exact absurd h herror
    · exact h

theorem checkPair_none {i j k : Fin gatewayPortCount} (h : checkPair ports errors i j k = .none) :
    errors k = .none := by
  have huart : ∀ errors' : PortErrors, (if (ports i).uartIndex = (ports j).uartIndex then
      markPair errors i j .duplicateUart else errors) = errors' → errors' k = .none →
        errors k = .none := by
    rintro errors' rfl hk
    split at hk
    · exact markPair_none (by simp) hk
    · exact hk
  refine huart _ rfl ?_
  have hclash : (if endpointsClash (ports i) (ports j) then
      markPair (if (ports i).uartIndex = (ports j).uartIndex then
        markPair errors i j .duplicateUart else errors) i j .duplicateEndpoint
      else if (ports i).uartIndex = (ports j).uartIndex then
        markPair errors i j .duplicateUart else errors) k = .none := h
  split at hclash
  · exact markPair_none (by simp) hclash
  · exact hclash

variable {pairs : List (Fin gatewayPortCount × Fin gatewayPortCount)}

theorem foldl_checkPair_none {k : Fin gatewayPortCount}
    (h : pairs.foldl (fun errors pair => checkPair ports errors pair.1 pair.2) errors k = .none) :
    errors k = .none := by
  induction pairs generalizing errors with
  | nil => exact h
  | cons pair pairs ih => exact checkPair_none (ih h)

/-- The checks of pairs take no error back. -/
theorem validateOne_of_valid {i : Fin gatewayPortCount} (h : (gatewayConfigurationValidate ports).2 i = .none) :
    validateOne (ports i) = .none := by
  have hfold : validationErrors ports i = .none := h
  exact foldl_checkPair_none hfold

variable {i j : Fin gatewayPortCount}

theorem checkPair_of_clash (errors : PortErrors) (h : endpointsClash (ports i) (ports j) = true) :
    checkPair ports errors i j i = .duplicateEndpoint := by
  simp [checkPair, h, markPair]

theorem not_clash_of_pair (hmem : (i, j) ∈ pairs)
    (h : pairs.foldl (fun errors pair => checkPair ports errors pair.1 pair.2) errors i = .none) :
    endpointsClash (ports i) (ports j) = false := by
  induction pairs generalizing errors with
  | nil => simp at hmem
  | cons pair pairs ih =>
    rcases List.mem_cons.mp hmem with rfl | hlater
    · by_contra hclash
      have hmarked := @checkPair_of_clash ports _ _ errors (Bool.eq_true_of_not_eq_false hclash)
      exact absurd (hmarked.symm.trans (foldl_checkPair_none h)) (by simp)
    · exact ih hlater h

theorem endpointsClash_comm (a b : GatewayPortConfig) : endpointsClash a b = endpointsClash b a := by
  have hport : a.endpointPort = b.endpointPort ↔ b.endpointPort = a.endpointPort := eq_comm
  have haddress : a.bindAddress = b.bindAddress ↔ b.bindAddress = a.bindAddress := eq_comm
  unfold endpointsClash
  simp only [hport, haddress, Bool.and_comm, Bool.or_assoc, Bool.or_comm (decide (a.bindAddress = anyAddress))]

theorem valid_errors (h : (gatewayConfigurationValidate ports).1 = 0) (i : Fin gatewayPortCount) :
    (gatewayConfigurationValidate ports).2 i = .none := by
  have hnone := List.filter_eq_nil_iff.mp (List.length_eq_zero_iff.mp h) i (List.mem_finRange i)
  show validationErrors ports i = .none
  simpa using hnone

/-- Of two enabled ports of a valid configuration neither is in the other's way, as the
    validation sees it. -/
theorem not_clash_of_valid (h : (gatewayConfigurationValidate ports).1 = 0) (hne : i ≠ j)
    (hi : (ports i).enabled ≠ 0) (hj : (ports j).enabled ≠ 0) :
    endpointsClash (ports i) (ports j) = false := by
  have hpair : ∀ {i j : Fin gatewayPortCount}, i < j → (ports i).enabled ≠ 0 →
      (ports j).enabled ≠ 0 → endpointsClash (ports i) (ports j) = false := by
    intro i j hlt hi hj
    have hmem : (i, j) ∈ enabledPairs ports := by
      simp [enabledPairs, hlt, hi, hj]
    exact not_clash_of_pair hmem (valid_errors h i)
  rcases Nat.lt_or_gt_of_ne (Fin.val_ne_of_ne hne) with hlt | hgt
  · exact hpair hlt hi hj
  · rw [endpointsClash_comm]
    exact hpair hgt hj hi

def gatewayConfigurationDefaults : GatewayPorts := fun i =>
  { enabled := 1, uartIndex := i, mode := 0, baud := 9600, dataBits := 8, parity := 0, stopBits := 1
    transport := transportModbusTcp, bindAddress := anyAddress, bindTail := List.replicate 32 0
    bindPolicy := 0, endpointPort := 502 + i, specialBaudEnabled := 0, specialBaud := 0, revision := 1 }

example : (gatewayConfigurationValidate gatewayConfigurationDefaults).1 = 0 := by decide +kernel

/-- A cast to `unsigned int`. -/
def toUnsigned (value : Nat) : Nat := value % 2 ^ 32

/-- What of a port's settings the runtime and the UART are given. -/
def coreConfig (config : GatewayPortConfig) : CorePortConfig where
  revision := config.revision
  mode := config.mode
  baud :=
    toUnsigned (if config.specialBaudEnabled ≠ 0 then config.specialBaud else config.baud)
  dataBits := config.dataBits
  parity := config.parity
  stopBits := config.stopBits
  specialBaudEnabled := config.specialBaudEnabled
  specialBaud := toUnsigned config.specialBaud
  transport := config.transport
  endpointPort := config.endpointPort

end FourVrs.Config
