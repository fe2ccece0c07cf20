import FourVrs.Config.PortConfig
import Mathlib.Data.Fintype.Basic
import Mathlib.Data.Fintype.Pi

/-!
# The persistent configuration (`config/gateway_persistence.{h,c}`)

What a configuration file holds: a schema version, the settings of the product and
those of the eight ports. The codec and the files are left to the functions the
application is given; the records, their defaults and the check of the settings are
here. Two records are the same to `memcmp` when all their bytes are, so the bytes
behind a terminator belong to them.
-/

set_option autoImplicit false

namespace FourVrs.Config

def gatewayConfigSchemaVersion : Nat := 1
def gatewayConfigWebSchemaVersion : Nat := 2
def gatewayConfigProtocolSchemaVersion : Nat := 3
def gatewayNtpServerMax : Nat := 64

/-- `ntpEnabled` is an `int` in the source; a negative value reads as the unsigned one of
    the same bits. `ntpServerTail` stands behind the terminator of `ntp_server`. -/
structure GatewayProductSettings where
  webProtocol : Nat
  webEnabled : Nat
  webInterface : Nat
  backlightOn : Nat
  ntpEnabled : Nat
  ntpIntervalHours : Nat
  ntpServer : CString
  ntpServerTail : List UInt8
  deriving DecidableEq

structure GatewayPersistentConfig where
  schemaVersion : Nat
  settings : GatewayProductSettings
  ports : GatewayPorts
  deriving DecidableEq

inductive GatewayConfigResult where
  | ok | absent | invalid | unsupportedVersion | ioError | unchanged | durabilityUncertain
  deriving DecidableEq, Repr, Inhabited

inductive GatewayConfigSource where
  | active | backup | defaults | safeMode
  deriving DecidableEq, Repr, Inhabited

def emptyString : CString := ⟨[], nil_nonzero⟩

/-- What `strcpy` and `strcmp` read of an array: the bytes up to the first zero. -/
def CString.ofText (bytes : List UInt8) : CString :=
  ⟨bytes.takeWhile (· ≠ 0), fun _ hb => by simpa using List.mem_takeWhile_imp hb⟩

/-- `memset(&config, 0, sizeof(config))`. -/
def zeroPersistentConfig : GatewayPersistentConfig where
  schemaVersion := 0
  settings :=
    { webProtocol := 0, webEnabled := 0, webInterface := 0, backlightOn := 0, ntpEnabled := 0
      ntpIntervalHours := 0, ntpServer := emptyString, ntpServerTail := List.replicate 63 0 }
  ports := fun _ => zeroPortConfig

def gatewayPersistentDefaults : GatewayPersistentConfig where
  schemaVersion := gatewayConfigSchemaVersion
  settings :=
    { zeroPersistentConfig.settings with
      ntpIntervalHours := 1, backlightOn := 1, webProtocol := 1 }
  ports := gatewayConfigurationDefaults

def gatewayPersistentSafeMode : GatewayPersistentConfig :=
  { gatewayPersistentDefaults with
    ports := fun i => { gatewayPersistentDefaults.ports i with enabled := 0 } }

/-- `isalnum` of the C locale, the dot and the dash. -/
def hostnameByte (b : UInt8) : Bool :=
  isDigit b || (decide (65 ≤ b) && decide (b ≤ 90)) || (decide (97 ≤ b) && decide (b ≤ 122)) ||
    decide (b = ascii '.') || decide (b = ascii '-')

/-- `gateway_product_settings_validate(s) == 0`. -/
def productSettingsValid (s : GatewayProductSettings) : Bool :=
  decide (s.webProtocol ≤ 1) && decide (s.webEnabled ≤ 1) && decide (s.webInterface ≤ 2) &&
    decide (s.backlightOn ≤ 1) &&
    (decide (s.ntpIntervalHours = 1) || decide (s.ntpIntervalHours = 6) ||
      decide (s.ntpIntervalHours = 24)) &&
    (decide (s.ntpEnabled = 0) || decide (s.ntpEnabled = 1)) &&
    decide (s.ntpServer.length < gatewayNtpServerMax) &&
    !(decide (s.ntpEnabled ≠ 0) && decide (s.ntpServer.length = 0)) &&
    s.ntpServer.bytes.all hostnameByte

/-- One of the three versions a file may have. -/
def schemaSupported (version : Nat) : Bool :=
  decide (version = gatewayConfigSchemaVersion) ||
    decide (version = gatewayConfigWebSchemaVersion) ||
    decide (version = gatewayConfigProtocolSchemaVersion)

/-- The defaults pass the checks every configuration passes. -/
theorem productSettingsValid_defaults : productSettingsValid gatewayPersistentDefaults.settings = true := by
  decide

/-- Copying a text over itself leaves the whole array as it is. -/
theorem bindTo_self (config : GatewayPortConfig) : config.bindTo config.bindAddress = config := by
  have htail : (config.bindAddress.bytes ++ 0 :: config.bindTail).drop
      (config.bindAddress.bytes.length + 1) = config.bindTail := by
    simp [List.drop_append]
  simp [GatewayPortConfig.bindTo, CString.length, htail]

end FourVrs.Config
