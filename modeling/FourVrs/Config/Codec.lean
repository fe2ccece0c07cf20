import FourVrs.Config.Endpoints
import FourVrs.Config.Persistent
import FourVrs.Lib.Bytes
import FourVrs.Lib.Text
import FourVrs.Network.Settings

/-!
# The configuration file (`config/gateway_persistence.c`)

A file is a header line, one line for each setting in a fixed order, and a checksum of what
stands before it. Some lines may be missing: those of the time settings in the oldest files,
that of the backlight when it is on, those of the web server before schema 2 and 3, a bind
policy of 0.

`unsigned long` is as wide as the build makes it: `longMax` is its `ULONG_MAX`.
-/

set_option autoImplicit false

namespace FourVrs.Config

open Lib Network

def gatewayConfigMaxBytes : Nat := 4096

/-! ## Encoding -/

def headerLine : List UInt8 := text "4VRS_GATEWAY_CONFIG"

/-- `key=value` and the end of the line. -/
def entry (key : String) (value : List UInt8) : List UInt8 := text key ++ value ++ [10]

def portKey (i : Nat) (name : String) : List UInt8 :=
  text "port." ++ decimalText (i + 1) ++ text "." ++ text name ++ text "="

/-- `FIELD`. -/
def fieldPiece (i : Nat) (name : String) (value : Nat) : List UInt8 :=
  portKey i name ++ decimalText value ++ [10]

variable (c : GatewayPersistentConfig) (longMax : Nat)

/-- What the first `snprintf` writes. -/
def timePiece : List UInt8 :=
  headerLine ++ [10] ++ entry "schema=" (decimalText c.schemaVersion) ++
    entry "time.ntp_enabled=" (decimalText c.settings.ntpEnabled) ++
    entry "time.ntp_server=" c.settings.ntpServer.bytes ++
    entry "time.ntp_interval_hours=" (decimalText c.settings.ntpIntervalHours)

/-- The texts of the loop over the ports, one for each `snprintf`. -/
def portPieces (i : Nat) (p : GatewayPortConfig) : List (List UInt8) :=
  [ fieldPiece i "enabled" p.enabled
  , fieldPiece i "uart" p.uartIndex
  , fieldPiece i "mode" p.mode
  , fieldPiece i "baud" p.baud
  , fieldPiece i "data_bits" p.dataBits
  , fieldPiece i "parity" p.parity
  , fieldPiece i "stop_bits" p.stopBits
  , fieldPiece i "transport" p.transport
  , portKey i "bind_address" ++ p.bindAddress.bytes ++ [10] ] ++
  (if p.bindPolicy ≠ 0 then [fieldPiece i "bind_policy" p.bindPolicy] else []) ++
  [ fieldPiece i "endpoint_port" p.endpointPort
  , fieldPiece i "special_baud_enabled" p.specialBaudEnabled
  , fieldPiece i "special_baud" p.specialBaud
  , fieldPiece i "revision" p.revision ]

def backlightPieces : List (List UInt8) :=
  if c.settings.backlightOn = 0 then [entry "display.backlight_on=" (text "0")] else []

def webPieces : List (List UInt8) :=
  if c.schemaVersion ≥ 2 then
    [entry "web.enabled=" (decimalText c.settings.webEnabled) ++
      entry "web.interface=" (decimalText c.settings.webInterface)]
  else []

def protocolPieces : List (List UInt8) :=
  if c.schemaVersion = 3 then [entry "web.protocol=" (decimalText c.settings.webProtocol)] else []

/-- All that is written before the checksum. -/
def configPieces : List (List UInt8) :=
  timePiece c :: backlightPieces c ++ webPieces c ++ protocolPieces c ++
    (List.finRange gatewayPortCount).flatMap fun i => portPieces i.val (c.ports i)

/-- One `snprintf` after the other, each into what is left of the buffer. -/
def appendPieces (cap : Nat) : List UInt8 → List (List UInt8) → Option (List UInt8)
  | out, [] => some out
  | out, piece :: rest =>
      if piece.length ≥ cap - out.length then none else appendPieces cap (out ++ piece) rest

def upperHexDigit (n : Nat) : UInt8 := if n < 10 then UInt8.ofNat (48 + n) else UInt8.ofNat (55 + n)

/-- `%08lX` of a word. -/
def hexText8 (n : Nat) : List UInt8 := (List.range 8).map fun k => upperHexDigit (n / 16 ^ (7 - k) % 16)

def crcPiece (body : List UInt8) : List UInt8 := text "crc32=" ++ hexText8 (crc32 body).toNat ++ [10]

def encodable : Bool :=
  !(decide (c.schemaVersion < 3) && decide (c.settings.webProtocol ≠ 1)) &&
    !(decide (c.schemaVersion = 1) &&
      (decide (c.settings.webEnabled ≠ 0) || decide (c.settings.webInterface ≠ 0))) &&
    productSettingsValid c.settings && decide ((gatewayConfigurationValidate c.ports).1 = 0)

/-- `gateway_config_encode`: the bytes written, the terminator apart. -/
def gatewayConfigEncode (cap : Nat) : Except GatewayConfigResult (List UInt8) :=
  if cap > gatewayConfigMaxBytes ∨ cap < 64 then .error .invalid
  else if !schemaSupported c.schemaVersion then .error .unsupportedVersion
  else if !encodable c then .error .invalid
  else
    match appendPieces cap [] (configPieces c) with
    | none => .error .invalid
    | some body =>
        match appendPieces cap body [crcPiece body] with
        | none => .error .invalid
        | some out => .ok out

/-! ## Decoding -/

/-- `strtoul` where `ULONG_MAX` is `longMax`. -/
def strtoulIn (input : List UInt8) : Option ScannedNumber :=
  let (negative, unsigned) := takeSign (input.dropWhile isSpace)
  let digits := unsigned.takeWhile isDigit
  if digits = [] then none
  else
    let rest := unsigned.dropWhile isDigit
    let value := digitsValue digits
    if value > longMax then some { value := longMax, rest := rest, inRange := false }
    else some
      { value := if negative then (longMax + 1 - value) % (longMax + 1) else value
        rest := rest
        inRange := true }

/-- `*next++ = '\0'` at the next end of a line. -/
def nextLine (next : List UInt8) : Option (List UInt8 × List UInt8) := cutAt 10 next

def lineValue (line expected : List UInt8) : Option Nat :=
  if expected <+: line then
    match strtoulIn longMax (line.drop expected.length) with
    | some number =>
        if number.inRange ∧ number.value ≤ 0xffffffff ∧ number.rest = [] then some number.value
        else none
    | none => none
  else none

/-- A configuration and the text still to be read into it. -/
abbrev Reading : Type := GatewayPersistentConfig × List UInt8

/-- `line[k]-'0'` of a line that is a key and one digit up to `last`. -/
def lineDigit (line key : List UInt8) (last : UInt8) : Option Nat :=
  if key <+: line ∧ line.length = key.length + 1 then
    match line.drop key.length with
    | [b] => if 48 ≤ b ∧ b ≤ last then some (digitValue b) else none
    | _ => none
  else none

/-- The record before the first line: no time service, the backlight on, HTTPS. -/
def legacyConfig : GatewayPersistentConfig :=
  { zeroPersistentConfig with
    settings :=
      { zeroPersistentConfig.settings with ntpIntervalHours := 1, backlightOn := 1, webProtocol := 1 } }

def readHeader (body : List UInt8) : Option (List UInt8) := do
  let (line, next) ← nextLine body
  if line = headerLine then some next else none

def readSchema (r : Reading) : Option Reading := do
  let (line, next) ← nextLine r.2
  let v ← lineValue longMax line (text "schema=")
  some ({ r.1 with schemaVersion := v }, next)

/-- `strcpy(c.settings.ntp_server, …)` over zeros. -/
def GatewayProductSettings.askServer (s : GatewayProductSettings) (server : CString) :
    GatewayProductSettings :=
  { s with ntpServer := server, ntpServerTail := List.replicate (63 - server.length) 0 }

def readNtp (r : Reading) : Option Reading :=
  if text "time.ntp_enabled=" <+: r.2 then do
    let (line, next) ← nextLine r.2
    let v ← lineValue longMax line (text "time.ntp_enabled=")
    let (line, next) ← nextLine next
    if text "time.ntp_server=" <+: line ∧ (line.drop 16).length < gatewayNtpServerMax then
      some ({ r.1 with
        settings := { r.1.settings with ntpEnabled := v }.askServer (CString.ofText (line.drop 16)) },
        next)
    else none
  else some r

def readInterval (r : Reading) : Option Reading :=
  if text "time.ntp_interval_hours=" <+: r.2 then do
    let (line, next) ← nextLine r.2
    let v ← lineValue longMax line (text "time.ntp_interval_hours=")
    if (line.drop 24).head?.map isDigit = some true ∧ (v = 1 ∨ v = 6 ∨ v = 24) then
      some ({ r.1 with settings := { r.1.settings with ntpIntervalHours := v } }, next)
    else none
  else some r

def readBacklight (r : Reading) : Option Reading :=
  if text "display.backlight_on=" <+: r.2 then do
    let (line, next) ← nextLine r.2
    let v ← lineDigit line (text "display.backlight_on=") 49
    some ({ r.1 with settings := { r.1.settings with backlightOn := v } }, next)
  else some r

def readWeb (r : Reading) : Option Reading :=
  if r.1.schemaVersion ≥ 2 then do
    let (line, next) ← nextLine r.2
    let enabled ← lineDigit line (text "web.enabled=") 49
    let (line, next) ← nextLine next
    let interface ← lineDigit line (text "web.interface=") 50
    some ({ r.1 with
      settings := { r.1.settings with webEnabled := enabled, webInterface := interface } }, next)
  else some r

def readProtocol (r : Reading) : Option Reading :=
  if r.1.schemaVersion = 3 then do
    let (line, next) ← nextLine r.2
    let v ← lineDigit line (text "web.protocol=") 49
    some ({ r.1 with settings := { r.1.settings with webProtocol := v } }, next)
  else some r

/-- The names of the fields of a port, in the order of the file; the ninth is the address. -/
def fieldNames : List String :=
  ["enabled", "uart", "mode", "baud", "data_bits", "parity", "stop_bits", "transport", "",
    "endpoint_port", "special_baud_enabled", "special_baud", "revision"]

/-- The `switch` on the field. -/
def setField (p : GatewayPortConfig) (f v : Nat) : GatewayPortConfig :=
  match f with
  | 0 => { p with enabled := v }
  | 1 => { p with uartIndex := v }
  | 2 => { p with mode := v }
  | 3 => { p with baud := v }
  | 4 => { p with dataBits := v }
  | 5 => { p with parity := v }
  | 6 => { p with stopBits := v }
  | 7 => { p with transport := v }
  | 9 => { p with endpointPort := v }
  | 10 => { p with specialBaudEnabled := v }
  | 11 => { p with specialBaud := v }
  | _ => { p with revision := v }

/-- One port and the text still to be read into it. -/
abbrev PortReading : Type := GatewayPortConfig × List UInt8

def readPolicy (i : Nat) (r : PortReading) : Option PortReading :=
  if portKey i "bind_policy" <+: r.2 then do
    let (line, next) ← nextLine r.2
    let v ← lineDigit line (portKey i "bind_policy") 51
    some ({ r.1 with bindPolicy := v }, next)
  else some r

def readAddress (i : Nat) (r : PortReading) : Option PortReading := do
  let (line, next) ← nextLine r.2
  if portKey i "bind_address" <+: line ∧
      (line.drop (portKey i "bind_address").length).length < gatewayBindAddressLength then
    readPolicy i (r.1.bindTo (CString.ofText (line.drop (portKey i "bind_address").length)), next)
  else none

def readField (longMax i f : Nat) (r : PortReading) : Option PortReading :=
  if f = 8 then readAddress i r
  else do
    let (line, next) ← nextLine r.2
    let v ← lineValue longMax line (portKey i (fieldNames.getD f ""))
    some (setField r.1 f v, next)

/-- The loop over the fields of a port. -/
def readPort (longMax i : Nat) (next : List UInt8) : Option PortReading :=
  (List.range 13).foldlM (fun r f => readField longMax i f r) (zeroPortConfig, next)

/-- The loop over the ports. -/
def readPorts (r : Reading) : Option Reading :=
  (List.finRange gatewayPortCount).foldlM (fun r i => do
    let (p, next) ← readPort longMax i.val r.2
    some ({ r.1 with ports := Function.update r.1.ports i p }, next)) r

/-- The text before the checksum, line by line. -/
def readBody (body : List UInt8) : Option GatewayPersistentConfig := do
  let next ← readHeader body
  let r ← readSchema longMax (legacyConfig, next)
  let r ← readNtp longMax r
  let r ← readInterval longMax r
  let r ← readBacklight r
  let r ← readWeb r
  let r ← readProtocol r
  let r ← readPorts longMax r
  if r.2 = [] ∧ productSettingsValid r.1.settings = true ∧
      (gatewayConfigurationValidate r.1.ports).1 = 0 then some r.1
  else none

/-- The look at the version before anything else is read. -/
def foreignSchema (b : List UInt8) : Bool :=
  match findText (text "\nschema=") b with
  | none => false
  | some (_, found) =>
      match strtoulIn longMax (found.drop 8) with
      | none => false
      | some number =>
          number.inRange && decide (number.rest.head? = some 10) && !schemaSupported number.value

/-- `%8lX`: eight characters at most, a sign and `0x` among them. -/
def scanHex8 (field : List UInt8) : Option Nat :=
  let (negative, unsigned) := takeSign ((field.dropWhile isSpace).take 8)
  let digits := ((hexDigits unsigned).getD unsigned).takeWhile isHexDigit
  if digits = [] then none
  else if negative then some ((longMax + 1 - numeral 16 hexValue digits) % (longMax + 1))
  else some (numeral 16 hexValue digits)

/-- The checksum line ends the input, and its number is that of the bytes before it. -/
def crcAgrees (input before crcLine : List UInt8) : Bool :=
  decide (before ≠ []) && decide (10 ∈ crcLine) && decide (before.length + 15 = input.length) &&
    decide (scanHex8 longMax (crcLine.drop 6) = some (crc32 before).toNat)

/-- `gateway_config_decode`. The text functions stop at the first zero byte. -/
def gatewayConfigDecode (input : List UInt8) : Except GatewayConfigResult GatewayPersistentConfig :=
  if input.length = 0 ∨ input.length > gatewayConfigMaxBytes then .error .invalid
  else if foreignSchema longMax (input.takeWhile (· ≠ 0)) then .error .unsupportedVersion
  else
    match findText (text "crc32=") (input.takeWhile (· ≠ 0)) with
    | none => .error .invalid
    | some (before, crcLine) =>
        if crcAgrees longMax input before crcLine then
          match readBody longMax before with
          | none => .error .invalid
          | some c => .ok c
        else .error .invalid

end FourVrs.Config
