import FourVrs.Config.Codec
import FourVrs.Network.Addresses

/-!
# The configuration file read back

What `gateway_config_encode` writes, `gateway_config_decode` reads back, line by line: each
reader takes the line written for it and leaves the rest (`readField_written`, …). The file
loses a setting in two ways: an address with an end of line in it, which the validation lets
through with the other spaces, is cut in two lines, and a number of more than 32 bits is not
read. What was decoded once has neither, and comes back.
-/

set_option autoImplicit false

namespace FourVrs.Config

open Lib Network

/-! ## Numbers -/

variable {pieces : List (List UInt8)} {i : Nat} {b : UInt8}

theorem not_space_of_digit (h : isDigit b = true) : isSpace b = false := by
  by_contra hspace
  have hleads : leads b = true := by simp [leads, Bool.eq_true_of_not_eq_false hspace]
  exact absurd h (by simp [(leads_spec hleads).1])

theorem takeSign_cons (b : UInt8) (rest : List UInt8) :
    takeSign (b :: rest) =
      if b = 45 then (true, rest) else if b = 43 then (false, rest) else (false, b :: rest) := by
  by_cases hminus : b = 45
  · subst hminus
    rfl
  by_cases hplus : b = 43
  · subst hplus
    rfl
  · rw [if_neg hminus, if_neg hplus]
    unfold takeSign
    split
    · rename_i heq
      exact absurd (List.cons.inj heq).1 hminus
    · rename_i heq
      exact absurd (List.cons.inj heq).1 hplus
    · rfl

variable {p : GatewayPortConfig} {v : Nat} {r r' : Reading} {c' : GatewayPersistentConfig} {rest : List UInt8}

theorem takeSign_digit (h : isDigit b = true) :
    takeSign (b :: rest) = (false, b :: rest) := by
  rw [takeSign_cons, if_neg (by rintro rfl; exact absurd h (by decide)),
    if_neg (by rintro rfl; exact absurd h (by decide))]

variable {name : String} {n : Nat} {out : List UInt8} {cap : Nat} {l : List UInt8}

theorem takeSign_append (h : l ≠ []) (rest : List UInt8) :
    takeSign (l ++ rest) = ((takeSign l).1, (takeSign l).2 ++ rest) := by
  obtain ⟨b, tail, rfl⟩ := List.exists_cons_of_ne_nil h
  rw [List.cons_append, takeSign_cons, takeSign_cons]
  split
  · rfl
  · split <;> rfl

variable {longMax : Nat}

/-- A number is read up to the first byte that is no digit. -/
theorem strtoulIn_decimalText (hn : n ≤ longMax) (hrest : ∀ b ∈ rest.head?, isDigit b = false) :
    strtoulIn longMax (decimalText n ++ rest) = some { value := n, rest := rest, inRange := true } := by
  have htake : (decimalText n ++ rest).takeWhile isDigit = decimalText n ∧
      (decimalText n ++ rest).dropWhile isDigit = rest := by
    rw [List.takeWhile_append_of_pos decimalText_digits, List.dropWhile_append_of_pos decimalText_digits]
    cases rest with
    | nil => simp
    | cons b rest => simp [hrest b (by simp)]
  obtain ⟨b, digits, hdigits⟩ := List.exists_cons_of_ne_nil (decimalText_ne_nil n)
  have hb : isDigit b = true := decimalText_digits b (by rw [hdigits]; simp)
  have hscan : takeSign ((decimalText n ++ rest).dropWhile isSpace) = (false, decimalText n ++ rest) := by
    rw [hdigits, List.cons_append, List.dropWhile_cons_of_neg (by simp [not_space_of_digit hb]),
      takeSign_digit hb]
  unfold strtoulIn
  rw [hscan]
  simp only [htake, decimalText_ne_nil, digitsValue_decimalText, if_false]
  rw [if_neg (by omega)]
  rfl

theorem lineValue_written (hlong : 0xffffffff ≤ longMax) (hv : v ≤ 0xffffffff) (key : List UInt8) :
    lineValue longMax (key ++ decimalText v) key = some v := by
  have hscan : strtoulIn longMax (decimalText v ++ []) = _ :=
    strtoulIn_decimalText (hv.trans hlong) (by simp)
  rw [List.append_nil] at hscan
  unfold lineValue
  rw [if_pos (List.prefix_append key _), List.drop_left, hscan]
  simp [hv]

/-- A line with one digit. -/
theorem lineDigit_written {d : Nat} {last : UInt8} (h : d < 10) (hlast : UInt8.ofNat (48 + d) ≤ last)
    (key : List UInt8) : lineDigit (key ++ decimalText d) key last = some d := by
  have hlow : 48 ≤ UInt8.ofNat (48 + d) := by
    interval_cases d <;> decide
  have hvalue : digitValue (UInt8.ofNat (48 + d)) = d := by
    interval_cases d <;> rfl
  unfold lineDigit
  rw [decimalText_digit h, if_pos ⟨List.prefix_append key _, by simp⟩, List.drop_left]
  show (if 48 ≤ UInt8.ofNat (48 + d) ∧ UInt8.ofNat (48 + d) ≤ last then
    some (digitValue (UInt8.ofNat (48 + d))) else none) = some d
  rw [if_pos ⟨hlow, hlast⟩, hvalue]

/-! ## Lines -/

theorem nextLine_written {key value : List UInt8} (hkey : 10 ∉ key) (hvalue : 10 ∉ value)
    (rest : List UInt8) : nextLine (key ++ value ++ [10] ++ rest) = some (key ++ value, rest) := by
  have hline : 10 ∉ key ++ value := by
    simp [hkey, hvalue]
  rw [List.append_assoc (key ++ value)]
  exact cutAt_append hline rest

theorem ten_not_decimal (n : Nat) : 10 ∉ decimalText n := not_mem_decimalText rfl

/-- A text that begins with another letter has not the key in front. -/
theorem not_key {key next : List UInt8} (hkey : key.head? = some b) (hnext : next.head? ≠ some b) :
    ¬ key <+: next := by
  rintro ⟨rest, rfl⟩
  exact hnext (by simp [List.head?_append, hkey])

/-! ## The settings -/

variable {c : GatewayPersistentConfig}

theorem readHeader_written (rest : List UInt8) : readHeader (headerLine ++ [10] ++ rest) = some rest := by
  have hline : nextLine (headerLine ++ [10] ++ rest) = some (headerLine, rest) := by
    rw [List.append_assoc]
    exact cutAt_append (by decide) rest
  unfold readHeader
  rw [hline]
  rfl

theorem readSchema_written (hlong : 0xffffffff ≤ longMax) (hv : v ≤ 0xffffffff) (rest : List UInt8) :
    readSchema longMax (c, entry "schema=" (decimalText v) ++ rest) =
      some ({ c with schemaVersion := v }, rest) := by
  unfold readSchema entry
  rw [nextLine_written (by decide) (ten_not_decimal v)]
  simp only [Option.bind_eq_bind, Option.bind_some, lineValue_written hlong hv]

theorem ofText_bytes (s : CString) : CString.ofText s.bytes = s := by
  have htake : s.bytes.takeWhile (· ≠ 0) = s.bytes := by
    rw [List.takeWhile_eq_self_iff]
    intro b hb
    simpa using s.nonzero b hb
  unfold CString.ofText
  obtain ⟨bytes, _⟩ := s
  simpa using htake

theorem readNtp_written (hlong : 0xffffffff ≤ longMax) (hv : v ≤ 0xffffffff) {server : CString}
    (hserver : 10 ∉ server.bytes) (hlength : server.length < gatewayNtpServerMax) (rest : List UInt8) :
    readNtp longMax
        (c, entry "time.ntp_enabled=" (decimalText v) ++
          (entry "time.ntp_server=" server.bytes ++ rest)) =
      some ({ c with settings := { c.settings with ntpEnabled := v }.askServer server }, rest) := by
  have hkey : text "time.ntp_enabled=" <+:
      entry "time.ntp_enabled=" (decimalText v) ++ (entry "time.ntp_server=" server.bytes ++ rest) := by
    unfold entry
    simp only [List.append_assoc]
    exact List.prefix_append _ _
  have hdrop : (text "time.ntp_server=" ++ server.bytes).drop 16 = server.bytes := rfl
  unfold readNtp
  rw [if_pos hkey]
  unfold entry
  rw [nextLine_written (by decide) (ten_not_decimal v)]
  simp only [Option.bind_eq_bind, Option.bind_some, lineValue_written hlong hv]
  rw [nextLine_written (by decide) hserver]
  simp only [Option.bind_some, hdrop, ofText_bytes]
  rw [if_pos ⟨List.prefix_append _ _, hlength⟩]

theorem readInterval_written (hlong : 0xffffffff ≤ longMax) (hv : v = 1 ∨ v = 6 ∨ v = 24) (rest : List UInt8) :
    readInterval longMax (c, entry "time.ntp_interval_hours=" (decimalText v) ++ rest) =
      some ({ c with settings := { c.settings with ntpIntervalHours := v } }, rest) := by
  have hkey : text "time.ntp_interval_hours=" <+:
      entry "time.ntp_interval_hours=" (decimalText v) ++ rest := by
    unfold entry
    simp only [List.append_assoc]
    exact List.prefix_append _ _
  have hdrop : (text "time.ntp_interval_hours=" ++ decimalText v).drop 24 = decimalText v := rfl
  have hdigit : (decimalText v).head?.map isDigit = some true := by
    obtain ⟨b, digits, hdigits⟩ := List.exists_cons_of_ne_nil (decimalText_ne_nil v)
    have hb : isDigit b = true := decimalText_digits b (by rw [hdigits]; simp)
    simp [hdigits, hb]
  unfold readInterval
  rw [if_pos hkey]
  unfold entry
  rw [nextLine_written (by decide) (ten_not_decimal v)]
  simp only [Option.bind_eq_bind, Option.bind_some, lineValue_written hlong (show v ≤ 0xffffffff by omega),
    hdrop]
  rw [if_pos ⟨hdigit, hv⟩]

/-- The line of the backlight, if there is one. -/
theorem readBacklight_written (hbit : c.settings.backlightOn ≤ 1) (hon : c'.settings.backlightOn = 1)
    (hrest : rest.head? ≠ some 100) :
    readBacklight (c', (backlightPieces c).flatten ++ rest) =
      some ({ c' with settings := { c'.settings with backlightOn := c.settings.backlightOn } }, rest) := by
  unfold backlightPieces readBacklight
  split
  · rename_i hoff
    have hline : [entry "display.backlight_on=" (text "0")].flatten ++ rest =
        text "display.backlight_on=" ++ decimalText 0 ++ [10] ++ rest := by
      simp [entry]
      rfl
    rw [hline, if_pos (by simp only [List.append_assoc]; exact List.prefix_append _ _),
      nextLine_written (by decide) (ten_not_decimal 0)]
    simp only [Option.bind_eq_bind, Option.bind_some]
    rw [lineDigit_written (by decide) (by decide)]
    simp [hoff]
  · rename_i hne
    have hone : c.settings.backlightOn = 1 := by omega
    rw [if_neg (not_key (b := 100) rfl (by exact hrest))]
    simp only [List.flatten_nil, List.nil_append, hone, ← hon]

theorem readWeb_written (hversion : c'.schemaVersion = c.schemaVersion) (henabled : c.settings.webEnabled ≤ 1)
    (hinterface : c.settings.webInterface ≤ 2)
    (hold : c.schemaVersion < 2 → c.settings.webEnabled = c'.settings.webEnabled ∧
      c.settings.webInterface = c'.settings.webInterface) (rest : List UInt8) :
    readWeb (c', (webPieces c).flatten ++ rest) =
      some ({ c' with
        settings :=
          { c'.settings with
            webEnabled := c.settings.webEnabled, webInterface := c.settings.webInterface } }, rest) := by
  unfold readWeb webPieces
  simp only [hversion]
  split
  · have hlines : [entry "web.enabled=" (decimalText c.settings.webEnabled) ++
        entry "web.interface=" (decimalText c.settings.webInterface)].flatten ++ rest =
        text "web.enabled=" ++ decimalText c.settings.webEnabled ++ [10] ++
          (text "web.interface=" ++ decimalText c.settings.webInterface ++ [10] ++ rest) := by
      simp [entry]
    have hbit : UInt8.ofNat (48 + c.settings.webEnabled) ≤ 49 := by
      interval_cases c.settings.webEnabled <;> decide
    have hlan : UInt8.ofNat (48 + c.settings.webInterface) ≤ 50 := by
      interval_cases c.settings.webInterface <;> decide
    rw [hlines, nextLine_written (by decide) (ten_not_decimal _)]
    simp only [Option.bind_eq_bind, Option.bind_some]
    rw [lineDigit_written (by omega) hbit, Option.bind_some,
      nextLine_written (by decide) (ten_not_decimal _)]
    simp only [Option.bind_some]
    rw [lineDigit_written (by omega) hlan]
    rfl
  · rename_i hnew
    obtain ⟨hsame, hlan⟩ := hold (by omega)
    simp only [List.flatten_nil, List.nil_append, hsame, hlan, ← hversion]

theorem readProtocol_written (hversion : c'.schemaVersion = c.schemaVersion)
    (hprotocol : c.settings.webProtocol ≤ 1)
    (hold : c.schemaVersion ≠ 3 → c.settings.webProtocol = c'.settings.webProtocol) (rest : List UInt8) :
    readProtocol (c', (protocolPieces c).flatten ++ rest) =
      some ({ c' with settings := { c'.settings with webProtocol := c.settings.webProtocol } }, rest) := by
  unfold readProtocol protocolPieces
  simp only [hversion]
  split
  · have hline : [entry "web.protocol=" (decimalText c.settings.webProtocol)].flatten ++ rest =
        text "web.protocol=" ++ decimalText c.settings.webProtocol ++ [10] ++ rest := by
      simp [entry]
    have hbit : UInt8.ofNat (48 + c.settings.webProtocol) ≤ 49 := by
      interval_cases c.settings.webProtocol <;> decide
    rw [hline, nextLine_written (by decide) (ten_not_decimal _)]
    simp only [Option.bind_eq_bind, Option.bind_some]
    rw [lineDigit_written (by omega) hbit]
    rfl
  · rename_i hnew
    simp only [List.flatten_nil, List.nil_append, hold hnew, ← hversion]

/-! ## The ports -/

theorem ten_not_portKey (hname : 10 ∉ text name) : 10 ∉ portKey i name := by
  have hport : (10 : UInt8) ∉ text "port." := by decide
  have hdot : (10 : UInt8) ∉ text "." := by decide
  have hequals : (10 : UInt8) ∉ text "=" := by decide
  unfold portKey
  simp only [List.mem_append, not_or]
  exact ⟨⟨⟨⟨hport, ten_not_decimal _⟩, hdot⟩, hname⟩, hequals⟩

theorem readField_written (hlong : 0xffffffff ≤ longMax) (i f : Nat) (name : String)
    (hname : fieldNames.getD f "" = name) (hf : f ≠ 8) (htext : 10 ∉ text name) (hv : v ≤ 0xffffffff)
    (p : GatewayPortConfig) (rest : List UInt8) :
    readField longMax i f (p, fieldPiece i name v ++ rest) = some (setField p f v, rest) := by
  unfold readField fieldPiece
  rw [if_neg hf, nextLine_written (ten_not_portKey htext) (ten_not_decimal v)]
  simp only [Option.bind_eq_bind, Option.bind_some, hname, lineValue_written hlong hv]

/-- Two keys of one port are told apart by the letter their names begin with. -/
theorem not_portKey {name name' : String} (hname : (text name ++ text "=").head? = some b)
    (hother : (text name' ++ text "=").head? ≠ some b)
    : ¬ portKey i name <+: portKey i name' ++ rest := by
  unfold portKey
  simp only [List.append_assoc]
  rw [List.prefix_append_right_inj, List.prefix_append_right_inj, List.prefix_append_right_inj]
  refine not_key hname ?_
  rw [← List.append_assoc]
  obtain ⟨d, tail, htail⟩ : ∃ d tail, text name' ++ text "=" = d :: tail :=
    List.exists_cons_of_ne_nil (by simp [text])
  rw [htail] at hother ⊢
  simpa using hother

theorem readAddress_written (i : Nat) {p target : GatewayPortConfig}
    (haddress : 10 ∉ target.bindAddress.bytes)
    (hlength : target.bindAddress.length < gatewayBindAddressLength) (hpolicy : target.bindPolicy ≤ 3)
    (hnone : p.bindPolicy = 0) (rest : List UInt8) :
    readAddress i (p, portKey i "bind_address" ++ target.bindAddress.bytes ++ [10] ++
        ((if target.bindPolicy ≠ 0 then [fieldPiece i "bind_policy" target.bindPolicy] else []).flatten ++
          (portKey i "endpoint_port" ++ rest))) =
      some ({ p.bindTo target.bindAddress with bindPolicy := target.bindPolicy },
        portKey i "endpoint_port" ++ rest) := by
  unfold readAddress
  rw [nextLine_written (ten_not_portKey (by decide)) haddress]
  simp only [Option.bind_eq_bind, Option.bind_some]
  rw [if_pos ⟨List.prefix_append _ _, by rw [List.drop_left]; exact hlength⟩, List.drop_left,
    ofText_bytes]
  unfold readPolicy
  by_cases hset : target.bindPolicy ≠ 0
  · have hdigit : UInt8.ofNat (48 + target.bindPolicy) ≤ 51 := by
      interval_cases target.bindPolicy <;> decide
    have hline : (if target.bindPolicy ≠ 0 then [fieldPiece i "bind_policy" target.bindPolicy]
        else []).flatten ++ (portKey i "endpoint_port" ++ rest) =
        portKey i "bind_policy" ++ decimalText target.bindPolicy ++ [10] ++
          (portKey i "endpoint_port" ++ rest) := by
      simp [hset, fieldPiece]
    simp only [hline]
    rw [if_pos (by simp only [List.append_assoc]; exact List.prefix_append _ _),
      nextLine_written (ten_not_portKey (by decide)) (ten_not_decimal _)]
    simp only [Option.bind_eq_bind, Option.bind_some]
    rw [lineDigit_written (by omega) hdigit]
    rfl
  · have hzero : target.bindPolicy = 0 := by simpa using hset
    have hsame : (p.bindTo target.bindAddress).bindPolicy = 0 := hnone
    rw [if_neg hset]
    simp only [List.flatten_nil, List.nil_append]
    rw [if_neg (not_portKey (b := 98) rfl (by decide)), hzero, ← hsame]

/-- The settings of a port with nothing but zeros behind the address. -/
def GatewayPortConfig.tidy (p : GatewayPortConfig) : GatewayPortConfig :=
  { p with bindTail := List.replicate (39 - p.bindAddress.length) 0 }

/-- What the file can hold of a port. -/
structure PortWritable (p : GatewayPortConfig) : Prop where
  address : 10 ∉ p.bindAddress.bytes
  baud : p.baud ≤ 0xffffffff
  transport : p.transport ≤ 0xffffffff
  endpointPort : p.endpointPort ≤ 0xffffffff
  specialBaud : p.specialBaud ≤ 0xffffffff
  revision : p.revision ≤ 0xffffffff

instance (p : GatewayPortConfig) : Decidable (PortWritable p) :=
  decidable_of_iff (10 ∉ p.bindAddress.bytes ∧ p.baud ≤ 0xffffffff ∧ p.transport ≤ 0xffffffff ∧
      p.endpointPort ≤ 0xffffffff ∧ p.specialBaud ≤ 0xffffffff ∧ p.revision ≤ 0xffffffff)
    ⟨fun ⟨ha, hb, ht, he, hs, hr⟩ => ⟨ha, hb, ht, he, hs, hr⟩,
      fun h => ⟨h.address, h.baud, h.transport, h.endpointPort, h.specialBaud, h.revision⟩⟩

/-- What the validation has bounded. -/
structure PortBounded (p : GatewayPortConfig) : Prop where
  enabled : p.enabled ≤ 1
  uartIndex : p.uartIndex < 8
  mode : p.mode < 4
  dataBits : p.dataBits ≤ 8
  parity : p.parity < 3
  stopBits : p.stopBits ≤ 2
  specialBaudEnabled : p.specialBaudEnabled ≤ 1
  bindPolicy : p.bindPolicy ≤ 3
  length : p.bindAddress.length < gatewayBindAddressLength

theorem portBounded_of_validateOne (h : validateOne p = .none) :
    PortBounded p := by
  have haddress := bindAddressValid_of_validateOne h
  unfold validateOne at h
  split at h
  · cases h
  rename_i hfields
  split at h
  · cases h
  split at h
  · cases h
  · rename_i hpolicy
    unfold bindAddressValid at haddress
    simp only [Bool.and_eq_true, decide_eq_true_eq] at haddress
    simp only [gatewayPortCount, serialModeCount, parityCount, not_or, not_and, not_lt,
      ge_iff_le, not_le] at hfields hpolicy
    obtain ⟨huart, hmode, _, hdata, hparity, hstop, _, henabled, hspecial, _⟩ := hfields
    exact ⟨by omega, huart, hmode, hdata, hparity, by omega, by omega, hpolicy, haddress.1.2⟩

theorem zero_tail (n : Nat) : (zeroPortConfig.bindAddress.bytes ++ 0 :: zeroPortConfig.bindTail).drop
    (n + 1) = List.replicate (39 - n) 0 := by
  have hzeros : zeroPortConfig.bindAddress.bytes ++ 0 :: zeroPortConfig.bindTail =
      0 :: List.replicate 39 0 := rfl
  rw [hzeros, List.drop_succ_cons, List.drop_replicate]

/-- One port comes back. -/
theorem readPort_written (hlong : 0xffffffff ≤ longMax) (i : Nat) (hb : PortBounded p) (hw : PortWritable p)
    (rest : List UInt8) :
    readPort longMax i ((portPieces i p).flatten ++ rest) = some (p.tidy, rest) := by
  have henabled := hb.enabled
  have huart := hb.uartIndex
  have hmode := hb.mode
  have hdata := hb.dataBits
  have hparity := hb.parity
  have hstop := hb.stopBits
  have hspecial := hb.specialBaudEnabled
  have hfields : portPieces i p =
      [fieldPiece i "enabled" p.enabled, fieldPiece i "uart" p.uartIndex, fieldPiece i "mode" p.mode,
        fieldPiece i "baud" p.baud, fieldPiece i "data_bits" p.dataBits,
        fieldPiece i "parity" p.parity, fieldPiece i "stop_bits" p.stopBits,
        fieldPiece i "transport" p.transport, portKey i "bind_address" ++ p.bindAddress.bytes ++ [10]] ++
      (if p.bindPolicy ≠ 0 then [fieldPiece i "bind_policy" p.bindPolicy] else []) ++
      [fieldPiece i "endpoint_port" p.endpointPort,
        fieldPiece i "special_baud_enabled" p.specialBaudEnabled,
        fieldPiece i "special_baud" p.specialBaud, fieldPiece i "revision" p.revision] := rfl
  rw [hfields]
  simp only [List.flatten_append, List.flatten_cons, List.flatten_nil, List.append_nil,
    List.append_assoc]
  unfold readPort
  rw [show List.range 13 = [0, 1, 2, 3, 4, 5, 6, 7, 8, 9, 10, 11, 12] from rfl]
  simp only [List.foldlM_cons, List.foldlM_nil, Option.bind_eq_bind]
  rw [readField_written hlong i 0 "enabled" rfl (by decide) (by decide) (by omega), Option.bind_some,
    readField_written hlong i 1 "uart" rfl (by decide) (by decide) (by omega), Option.bind_some,
    readField_written hlong i 2 "mode" rfl (by decide) (by decide) (by omega), Option.bind_some,
    readField_written hlong i 3 "baud" rfl (by decide) (by decide) hw.baud, Option.bind_some,
    readField_written hlong i 4 "data_bits" rfl (by decide) (by decide) (by omega), Option.bind_some,
    readField_written hlong i 5 "parity" rfl (by decide) (by decide) (by omega), Option.bind_some,
    readField_written hlong i 6 "stop_bits" rfl (by decide) (by decide) (by omega), Option.bind_some,
    readField_written hlong i 7 "transport" rfl (by decide) (by decide) hw.transport, Option.bind_some]
  -- the ninth field is the address, which is read to the end of its line
  have haddress : ∀ q rest', readField longMax i 8
      (q, portKey i "bind_address" ++ (p.bindAddress.bytes ++ ([10] ++ rest'))) =
      readAddress i (q, portKey i "bind_address" ++ p.bindAddress.bytes ++ [10] ++ rest') := by
    intro q rest'
    simp only [List.append_assoc]
    rfl
  have hnext : ∀ rest', fieldPiece i "endpoint_port" p.endpointPort ++ rest' =
      portKey i "endpoint_port" ++ (decimalText p.endpointPort ++ [10] ++ rest') := by
    intro rest'
    simp [fieldPiece]
  rw [haddress, hnext, readAddress_written i hw.address hb.length hb.bindPolicy rfl, Option.bind_some,
    ← hnext]
  rw [readField_written hlong i 9 "endpoint_port" rfl (by decide) (by decide) hw.endpointPort,
    Option.bind_some,
    readField_written hlong i 10 "special_baud_enabled" rfl (by decide) (by decide) (by omega),
    Option.bind_some,
    readField_written hlong i 11 "special_baud" rfl (by decide) (by decide) hw.specialBaud,
    Option.bind_some,
    readField_written hlong i 12 "revision" rfl (by decide) (by decide) hw.revision,
    Option.bind_some]
  simp only [setField, GatewayPortConfig.bindTo, GatewayPortConfig.tidy, zero_tail]
  rfl

/-- All the ports come back. -/
theorem readPorts_written (hlong : 0xffffffff ≤ longMax) {target : GatewayPorts}
    (hb : ∀ i, PortBounded (target i)) (hw : ∀ i, PortWritable (target i))
    (indices : List (Fin gatewayPortCount)) (c : GatewayPersistentConfig) (rest : List UInt8) :
    indices.foldlM (fun (r : Reading) i => do
        let (p, next) ← readPort longMax i.val r.2
        some ({ r.1 with ports := Function.update r.1.ports i p }, next))
        (c, (indices.flatMap fun i => portPieces i.val (target i)).flatten ++ rest) =
      some ({ c with ports := fun i => if i ∈ indices then (target i).tidy else c.ports i }, rest) := by
  induction indices generalizing c with
  | nil => simp
  | cons i indices ih =>
    rw [List.foldlM_cons]
    dsimp only
    rw [List.flatMap_cons, List.flatten_append, List.append_assoc,
      readPort_written hlong i.val (hb i) (hw i)]
    refine (ih { c with ports := Function.update c.ports i (target i).tidy }).trans ?_
    refine congrArg some (Prod.ext ?_ rfl)
    refine congrArg (fun ports => { c with ports := ports }) (funext fun j => ?_)
    by_cases hj : j ∈ indices
    · simp [hj]
    · by_cases hij : j = i
      · simp [hij]
      · simp [hj, hij]

/-! ## The whole text -/

/-- The record with nothing but zeros behind the texts. -/
def GatewayPersistentConfig.tidy (c : GatewayPersistentConfig) : GatewayPersistentConfig :=
  { c with
    settings := { c.settings with ntpServerTail := List.replicate (63 - c.settings.ntpServer.length) 0 }
    ports := fun i => (c.ports i).tidy }

/-- What the file can hold. -/
def Writable (c : GatewayPersistentConfig) : Prop := ∀ i, PortWritable (c.ports i)

/-- What an encoder asks of the settings. -/
structure SettingsFit (c : GatewayPersistentConfig) : Prop where
  version : schemaSupported c.schemaVersion = true
  valid : productSettingsValid c.settings = true
  protocol : c.schemaVersion < 3 → c.settings.webProtocol = 1
  web : c.schemaVersion = 1 → c.settings.webEnabled = 0 ∧ c.settings.webInterface = 0

theorem version_cases (h : schemaSupported v = true) : v = 1 ∨ v = 2 ∨ v = 3 := by
  unfold schemaSupported at h
  simp only [Bool.or_eq_true, decide_eq_true_eq] at h
  rcases h with (rfl | rfl) | rfl
  · exact .inl rfl
  · exact .inr (.inl rfl)
  · exact .inr (.inr rfl)

theorem ten_not_server {s : GatewayProductSettings} (h : productSettingsValid s = true) :
    10 ∉ s.ntpServer.bytes := by
  unfold productSettingsValid at h
  simp only [Bool.and_eq_true] at h
  intro hten
  exact absurd (List.all_eq_true.mp h.2 10 hten) (by decide)

theorem head_portPieces (target : GatewayPorts) {d : UInt8} (hd : d ≠ 112) :
    ((List.finRange gatewayPortCount).flatMap fun i => portPieces i.val (target i)).flatten.head? ≠
      some d := by
  intro h
  have hfirst : ((List.finRange gatewayPortCount).flatMap fun i =>
      portPieces i.val (target i)).flatten.head? = some 112 := rfl
  exact hd (Option.some.inj (h.symm.trans hfirst))

/-- Behind the line of the backlight a line of the web server or of a port begins. -/
theorem head_after_backlight (c : GatewayPersistentConfig) :
    ((webPieces c).flatten ++ ((protocolPieces c).flatten ++
      ((List.finRange gatewayPortCount).flatMap fun i =>
        portPieces i.val (c.ports i)).flatten)).head? ≠ some 100 := by
  unfold webPieces protocolPieces
  split
  · intro h
    have hfirst : some (119 : UInt8) = some 100 := h
    exact absurd hfirst (by decide)
  · rename_i hold
    rw [if_neg (by omega)]
    exact head_portPieces c.ports (by decide)

/-- What was written before the checksum is read back. -/
theorem readBody_written (hlong : 0xffffffff ≤ longMax) {c : GatewayPersistentConfig}
    (hfit : SettingsFit c) (hvalid : (gatewayConfigurationValidate c.ports).1 = 0) (hw : Writable c) :
    readBody longMax (configPieces c).flatten = some c.tidy := by
  have hb : ∀ i, PortBounded (c.ports i) := fun i =>
    portBounded_of_validateOne (validateOne_of_valid (valid_errors hvalid i))
  have hversion := version_cases hfit.version
  have hserver := ten_not_server hfit.valid
  have hsettings := hfit.valid
  unfold productSettingsValid at hsettings
  simp only [Bool.and_eq_true, Bool.or_eq_true, decide_eq_true_eq] at hsettings
  obtain ⟨⟨⟨⟨⟨⟨⟨⟨hprotocol, henabled⟩, hinterface⟩, hlight⟩, hhours⟩, hntp⟩, hlength⟩, _⟩, _⟩ := hsettings
  have htext : (configPieces c).flatten =
      headerLine ++ [10] ++ (entry "schema=" (decimalText c.schemaVersion) ++
        (entry "time.ntp_enabled=" (decimalText c.settings.ntpEnabled) ++
          (entry "time.ntp_server=" c.settings.ntpServer.bytes ++
            (entry "time.ntp_interval_hours=" (decimalText c.settings.ntpIntervalHours) ++
              ((backlightPieces c).flatten ++ ((webPieces c).flatten ++ ((protocolPieces c).flatten ++
                ((List.finRange gatewayPortCount).flatMap fun i =>
                  portPieces i.val (c.ports i)).flatten))))))) := by
    unfold configPieces timePiece
    simp only [List.flatten_cons, List.flatten_append, List.cons_append, List.append_assoc]
  rw [htext]
  unfold readBody
  rw [readHeader_written]
  simp only [Option.bind_eq_bind, Option.bind_some]
  rw [readSchema_written hlong (by omega), Option.bind_some,
    readNtp_written hlong (by omega) hserver hlength, Option.bind_some,
    readInterval_written hlong (by omega), Option.bind_some,
    readBacklight_written hlight rfl (head_after_backlight c), Option.bind_some,
    readWeb_written (c := c) (by rfl) henabled hinterface (by exact fun hold => hfit.web (by omega)),
    Option.bind_some,
    readProtocol_written (c := c) (by rfl) hprotocol
      (by exact fun hold => hfit.protocol (by omega)),
    Option.bind_some]
  have hports := fun c' : GatewayPersistentConfig =>
    readPorts_written hlong hb hw (List.finRange gatewayPortCount) c' []
  simp only [List.append_nil] at hports
  unfold readPorts
  rw [hports, Option.bind_some]
  simp only [List.mem_finRange, if_true]
  have hchecks : productSettingsValid c.tidy.settings = true ∧
      (gatewayConfigurationValidate c.tidy.ports).1 = 0 := ⟨hfit.valid, hvalid⟩
  exact if_pos ⟨trivial, hchecks⟩

/-! ## The checksum line -/

theorem isHexDigit_upperHexDigit (h : n < 16) :
    isHexDigit (upperHexDigit n) = true ∧ hexValue (upperHexDigit n) = n := by
  interval_cases n <;> decide

theorem hexText8_digits (n : Nat) : ∀ b ∈ hexText8 n, isHexDigit b = true := by
  intro b hb
  obtain ⟨k, _, rfl⟩ := List.mem_map.mp hb
  exact (isHexDigit_upperHexDigit (Nat.mod_lt _ (by decide))).1

theorem numeral_hexText8 (h : n < 2 ^ 32) : numeral 16 hexValue (hexText8 n) = n := by
  have hvalue : ∀ k, hexValue (upperHexDigit (n / 16 ^ k % 16)) = n / 16 ^ k % 16 := fun k =>
    (isHexDigit_upperHexDigit (Nat.mod_lt _ (by decide))).2
  unfold numeral hexText8
  rw [show List.range 8 = [0, 1, 2, 3, 4, 5, 6, 7] from rfl]
  simp only [List.map_cons, List.map_nil, List.foldl_cons, List.foldl_nil, hvalue]
  omega

/-- A hexadecimal digit is no space, no sign and no `x`. -/
theorem hexDigit_plain (h : isHexDigit b = true) :
    isSpace b = false ∧ b ≠ 45 ∧ b ≠ 43 ∧ b ≠ 120 ∧ b ≠ 88 ∧ b ≠ 10 ∧ b ≠ 0 := by
  refine ⟨?_, ?_, ?_, ?_, ?_, ?_, ?_⟩
  · by_contra hspace
    have hs := Bool.eq_true_of_not_eq_false hspace
    unfold isSpace at hs
    simp only [Bool.or_eq_true, Bool.and_eq_true, decide_eq_true_eq] at hs
    rcases hs with rfl | ⟨_, hle⟩
    · exact absurd h (by decide)
    · have h48 : ¬ 48 ≤ b := fun hlow => absurd (UInt8.le_trans hlow hle) (by decide)
      have h65 : ¬ 65 ≤ b := fun hlow => absurd (UInt8.le_trans hlow hle) (by decide)
      have h97 : ¬ 97 ≤ b := fun hlow => absurd (UInt8.le_trans hlow hle) (by decide)
      simp [isHexDigit, isDigit, h48, h65, h97] at h
  all_goals
    rintro rfl
    exact absurd h (by decide)

theorem scanHex8_written (h : n < 2 ^ 32) :
    scanHex8 longMax (hexText8 n ++ [10]) = some n := by
  have hlength : (hexText8 n).length = 8 := by simp [hexText8]
  obtain ⟨a, digits, htext⟩ := List.exists_cons_of_ne_nil (show hexText8 n ≠ [] by simp [hexText8])
  have hall := hexText8_digits n
  have ha := hexDigit_plain (hall a (by rw [htext]; simp))
  have hwindow : ((hexText8 n ++ [10]).dropWhile isSpace).take 8 = hexText8 n := by
    rw [htext, List.cons_append, List.dropWhile_cons_of_neg (by simp [ha.1]), ← List.cons_append,
      ← htext, List.take_left' hlength]
  have hsign : takeSign (hexText8 n) = (false, hexText8 n) := by
    rw [htext, takeSign_cons, if_neg ha.2.1, if_neg ha.2.2.1]
  have hplain : hexDigits (hexText8 n) = none := by
    unfold hexDigits
    split
    · rename_i x digit rest heq
      have hx := hexDigit_plain (hall x (by rw [heq]; simp))
      rw [if_neg (by simp [hx.2.2.2.1, hx.2.2.2.2.1])]
    · rfl
  have htake : (hexText8 n).takeWhile isHexDigit = hexText8 n :=
    List.takeWhile_eq_self_iff.mpr hall
  unfold scanHex8
  rw [hwindow, hsign]
  simp only [hplain, Option.getD_none, htake]
  rw [if_neg (by rw [htext]; simp), numeral_hexText8 h]
  rfl

/-! ## Where the checksum line is found -/

/-- The last two letters of `crc32=` do not meet here. -/
def NoMark (l : List UInt8) : Prop := l.IsChain fun x y => ¬ (x = 50 ∧ y = 61)

/-- A text of whole lines without the mark of the checksum and without a terminator. -/
structure Lines (l : List UInt8) : Prop where
  zero : 0 ∉ l
  mark : NoMark l
  last : l.getLast? = some 10

theorem noMark_of_not_mem (h : 61 ∉ l) : NoMark l := by
  induction l with
  | nil => exact .nil
  | cons b l ih =>
    simp only [List.mem_cons, not_or] at h
    refine List.isChain_cons.mpr ⟨fun y hy hmark => ?_, ih h.2⟩
    exact h.2 (hmark.2 ▸ List.mem_of_mem_head? hy)

theorem noMark_append {l l' : List UInt8} (h : NoMark l) (h' : NoMark l')
    (hjoin : l.getLast? ≠ some 50 ∨ l'.head? ≠ some 61) : NoMark (l ++ l') := by
  refine List.isChain_append.mpr ⟨h, h', ?_⟩
  rintro x hx y hy ⟨rfl, rfl⟩
  exact hjoin.elim (fun hno => hno hx) fun hno => hno hy

theorem lines_written {key value : List UInt8} (hkey : 0 ∉ key) (hmark : NoMark key)
    (hvalue : 0 ∉ value) (hequals : 61 ∉ value) : Lines (key ++ value ++ [10]) where
  zero := by simp [hkey, hvalue]
  mark := by
    have htail : NoMark (value ++ [10]) := noMark_of_not_mem (by simp [hequals])
    rw [List.append_assoc]
    refine noMark_append hmark htail (.inr fun hhead => ?_)
    have hmem : 61 ∈ value ++ [10] := List.mem_of_mem_head? hhead
    simp [hequals] at hmem
  last := by simp

theorem lines_append {l l' : List UInt8} (h : Lines l) (h' : Lines l') : Lines (l ++ l') where
  zero := by simp [h.zero, h'.zero]
  mark := noMark_append h.mark h'.mark (.inl (by rw [h.last]; decide))
  last := by simp [List.getLast?_append, h'.last]

theorem lines_flatten (h : ∀ piece ∈ pieces, Lines piece) (hl : Lines l) : Lines (l ++ pieces.flatten) := by
  induction pieces generalizing l with
  | nil => simpa using hl
  | cons piece pieces ih =>
    rw [List.flatten_cons, ← List.append_assoc]
    exact ih (fun p hp => h p (List.mem_cons_of_mem _ hp)) (lines_append hl (h piece (by simp)))

theorem lines_decimal {key : List UInt8} (hkey : 0 ∉ key) (hmark : NoMark key) (v : Nat) :
    Lines (key ++ decimalText v ++ [10]) :=
  lines_written hkey hmark (not_mem_decimalText rfl) (not_mem_decimalText rfl)

theorem zero_not_portKey (hname : 0 ∉ text name) : 0 ∉ portKey i name := by
  have hport : (0 : UInt8) ∉ text "port." := by decide
  have hdot : (0 : UInt8) ∉ text "." := by decide
  have hequals : (0 : UInt8) ∉ text "=" := by decide
  unfold portKey
  simp only [List.mem_append, not_or]
  exact ⟨⟨⟨⟨hport, not_mem_decimalText rfl⟩, hdot⟩, hname⟩, hequals⟩

theorem noMark_portKey (i : Nat) (hname : 61 ∉ text name) (hlast : (text "." ++ text name).getLast? ≠ some 50) :
    NoMark (portKey i name) := by
  have hport : (61 : UInt8) ∉ text "port." := by decide
  have hdot : (61 : UInt8) ∉ text "." := by decide
  have hfront : 61 ∉ text "port." ++ decimalText (i + 1) ++ text "." ++ text name := by
    simp only [List.mem_append, not_or]
    exact ⟨⟨⟨hport, not_mem_decimalText rfl⟩, hdot⟩, hname⟩
  unfold portKey
  refine noMark_append (noMark_of_not_mem hfront) (.singleton _) (.inl ?_)
  rw [List.append_assoc (text "port." ++ decimalText (i + 1)),
    List.getLast?_append_of_ne_nil _ (by simp [text])]
  exact hlast

theorem lines_field (i : Nat) (hzero : 0 ∉ text name) (hname : 61 ∉ text name)
    (hlast : (text "." ++ text name).getLast? ≠ some 50) (v : Nat) : Lines (fieldPiece i name v) :=
  lines_decimal (zero_not_portKey hzero) (noMark_portKey i hname hlast) v

/-- No number of an address and no dot is an equals sign. -/
theorem no_equals_dotted {parts : List (List UInt8)} {octets : List Nat} (h : SpellsAll parts octets) :
    61 ∉ dotted parts := by
  induction h with
  | nil => simp [dotted, List.intercalate]
  | @cons part value parts octets hone htail ih =>
    cases htail with
    | nil => simpa [dotted, List.intercalate] using (spells_clean hone).2
    | cons hnext htail =>
      rw [dotted_cons part (by simp)]
      simp [(spells_clean hone).2, ih]

theorem validAddress_bytes (h : validateOne p = .none) :
    61 ∉ p.bindAddress.bytes := by
  have hvalid := bindAddressValid_of_validateOne h
  unfold bindAddressValid at hvalid
  rw [dottedQuad_eq] at hvalid
  simp only [Bool.and_eq_true] at hvalid
  obtain ⟨octets, hoctets⟩ := Option.isSome_iff_exists.mp hvalid.2
  obtain ⟨parts, htext, hspells, _⟩ := writtenOctets_spells hoctets
  rw [htext]
  exact no_equals_dotted hspells

theorem lines_portPieces (i : Nat) (h : validateOne p = .none) :
    ∀ piece ∈ portPieces i p, Lines piece := by
  have haddress : Lines (portKey i "bind_address" ++ p.bindAddress.bytes ++ [10]) :=
    lines_written (zero_not_portKey (by decide)) (noMark_portKey i (by decide) (by decide))
      (fun hzero => p.bindAddress.nonzero 0 hzero rfl) (validAddress_bytes h)
  have hfield : ∀ name ∈ fieldNames ++ ["bind_policy"], ∀ v, Lines (fieldPiece i name v) := by
    intro name hname v
    have hclean : ∀ name ∈ fieldNames ++ ["bind_policy"], 0 ∉ text name ∧ 61 ∉ text name ∧
        (text "." ++ text name).getLast? ≠ some 50 := by decide
    obtain ⟨hzero, hequals, hlast⟩ := hclean name hname
    exact lines_field i hzero hequals hlast v
  unfold portPieces
  intro piece hpiece
  simp only [List.mem_append, List.mem_cons, List.not_mem_nil, or_false] at hpiece
  rcases hpiece with ((rfl | rfl | rfl | rfl | rfl | rfl | rfl | rfl | rfl) | hpolicy) | hlater
  · exact hfield _ (by decide) _
  · exact hfield _ (by decide) _
  · exact hfield _ (by decide) _
  · exact hfield _ (by decide) _
  · exact hfield _ (by decide) _
  · exact hfield _ (by decide) _
  · exact hfield _ (by decide) _
  · exact hfield _ (by decide) _
  · exact haddress
  · split at hpolicy
    · obtain rfl := List.mem_singleton.mp hpolicy
      exact hfield _ (by decide) _
    · simp at hpolicy
  · rcases hlater with rfl | rfl | rfl | rfl
    · exact hfield _ (by decide) _
    · exact hfield _ (by decide) _
    · exact hfield _ (by decide) _
    · exact hfield _ (by decide) _

theorem lines_entry {key : String} {value : List UInt8} (hkey : 0 ∉ text key) (hmark : NoMark (text key))
    (hvalue : 0 ∉ value) (hequals : 61 ∉ value) : Lines (entry key value) :=
  lines_written hkey hmark hvalue hequals

instance (l : List UInt8) : Decidable (NoMark l) :=
  inferInstanceAs (Decidable (l.IsChain fun x y => ¬ (x = 50 ∧ y = 61)))

theorem lines_timePiece {c : GatewayPersistentConfig} (h : productSettingsValid c.settings = true) :
    Lines (timePiece c) := by
  have hserver : ∀ b, hostnameByte b = false → b ∉ c.settings.ntpServer.bytes := by
    unfold productSettingsValid at h
    simp only [Bool.and_eq_true] at h
    intro b hb hmem
    exact absurd (List.all_eq_true.mp h.2 b hmem) (by simp [hb])
  have hheader : Lines (headerLine ++ [10]) := ⟨by decide, by decide, by decide⟩
  have hschema : Lines (entry "schema=" (decimalText c.schemaVersion)) :=
    lines_decimal (by decide) (by decide) _
  have henabled : Lines (entry "time.ntp_enabled=" (decimalText c.settings.ntpEnabled)) :=
    lines_decimal (by decide) (by decide) _
  have hname : Lines (entry "time.ntp_server=" c.settings.ntpServer.bytes) :=
    lines_entry (by decide) (by decide) (hserver 0 rfl) (hserver 61 rfl)
  have hhours : Lines (entry "time.ntp_interval_hours=" (decimalText c.settings.ntpIntervalHours)) :=
    lines_decimal (by decide) (by decide) _
  exact lines_append (lines_append (lines_append (lines_append hheader hschema) henabled) hname) hhours

/-- What stands before the checksum is lines, and none of them has its mark. -/
theorem lines_configPieces {c : GatewayPersistentConfig} (hsettings : productSettingsValid c.settings = true)
    (hvalid : (gatewayConfigurationValidate c.ports).1 = 0) : Lines (configPieces c).flatten := by
  have hpieces : ∀ piece ∈ backlightPieces c ++ webPieces c ++ protocolPieces c ++
      (List.finRange gatewayPortCount).flatMap (fun i => portPieces i.val (c.ports i)), Lines piece := by
    intro piece hpiece
    simp only [List.mem_append, List.mem_flatMap] at hpiece
    rcases hpiece with ((hlight | hweb) | hprotocol) | ⟨i, _, hport⟩
    · unfold backlightPieces at hlight
      split at hlight
      · obtain rfl := List.mem_singleton.mp hlight
        exact lines_entry (by decide) (by decide) (by decide) (by decide)
      · simp at hlight
    · unfold webPieces at hweb
      split at hweb
      · obtain rfl := List.mem_singleton.mp hweb
        exact lines_append (lines_decimal (by decide) (by decide) _)
          (lines_decimal (by decide) (by decide) _)
      · simp at hweb
    · unfold protocolPieces at hprotocol
      split at hprotocol
      · obtain rfl := List.mem_singleton.mp hprotocol
        exact lines_decimal (by decide) (by decide) _
      · simp at hprotocol
    · exact lines_portPieces i.val (validateOne_of_valid (valid_errors hvalid i)) piece hport
  have hall := lines_flatten hpieces (lines_timePiece hsettings)
  simpa [configPieces] using hall

/-! ## Encoding, then decoding -/

theorem appendPieces_eq {out r : List UInt8} (h : appendPieces cap out pieces = some r) :
    r = out ++ pieces.flatten ∧ (pieces ≠ [] → r.length < cap) := by
  induction pieces generalizing out with
  | nil =>
    obtain rfl : out = r := Option.some.inj h
    simp
  | cons piece pieces ih =>
    unfold appendPieces at h
    split at h
    · cases h
    · rename_i hfits
      obtain ⟨hr, hlength⟩ := ih h
      refine ⟨by rw [hr, List.flatten_cons, List.append_assoc], fun _ => ?_⟩
      by_cases hlast : pieces = []
      · subst hlast
        rw [hr]
        simp only [List.flatten_nil, List.append_nil, List.length_append]
        omega
      · exact hlength hlast

theorem appendPieces_fits (h : (out ++ pieces.flatten).length < cap) :
    appendPieces cap out pieces = some (out ++ pieces.flatten) := by
  induction pieces generalizing out with
  | nil => simp [appendPieces]
  | cons piece pieces ih =>
    rw [List.flatten_cons, ← List.append_assoc] at h ⊢
    have hroom : ¬ piece.length ≥ cap - out.length := by
      simp only [List.length_append] at h
      omega
    unfold appendPieces
    rw [if_neg hroom]
    exact ih h

/-- What a configuration must be for the encoder to write it. -/
structure Encodes (c : GatewayPersistentConfig) : Prop where
  settings : SettingsFit c
  valid : (gatewayConfigurationValidate c.ports).1 = 0

theorem encodable_iff (c : GatewayPersistentConfig) :
    schemaSupported c.schemaVersion = true ∧ encodable c = true ↔ Encodes c := by
  unfold encodable
  simp only [Bool.and_eq_true, Bool.not_eq_true', Bool.and_eq_false_iff, decide_eq_false_iff_not,
    Bool.or_eq_false_iff, decide_eq_true_eq, not_not]
  constructor
  · rintro ⟨hversion, ⟨⟨hprotocol, hweb⟩, hsettings⟩, hvalid⟩
    exact ⟨⟨hversion, hsettings, fun hold => hprotocol.resolve_left (not_not_intro hold),
      fun hold => hweb.resolve_left (not_not_intro hold)⟩, hvalid⟩
  · rintro ⟨⟨hversion, hsettings, hprotocol, hweb⟩, hvalid⟩
    exact ⟨hversion, ⟨⟨not_or_of_imp hprotocol, not_or_of_imp hweb⟩, hsettings⟩, hvalid⟩

theorem encode_ok {c : GatewayPersistentConfig} (h : gatewayConfigEncode c cap = .ok out) :
    Encodes c ∧ out = (configPieces c).flatten ++ crcPiece (configPieces c).flatten ∧
      out.length < gatewayConfigMaxBytes := by
  unfold gatewayConfigEncode at h
  split at h
  · cases h
  rename_i hcap
  split at h
  · cases h
  rename_i hversion
  split at h
  · cases h
  · rename_i hencodable
    have hencodes := (encodable_iff c).mp ⟨by simpa using hversion, by simpa using hencodable⟩
    split at h
    · cases h
    rename_i body hbody
    split at h
    · cases h
    · rename_i out' hout
      obtain rfl : out' = out := Except.ok.inj h
      obtain ⟨hbody, _⟩ := appendPieces_eq hbody
      obtain ⟨hout, hlength⟩ := appendPieces_eq hout
      have hless := hlength (by simp)
      rw [List.nil_append] at hbody
      subst hbody
      refine ⟨hencodes, by simpa using hout, ?_⟩
      omega

theorem length_crcPiece (body : List UInt8) : (crcPiece body).length = 15 := by
  simp [crcPiece, hexText8, text]

/-- The version is looked for where it stands: the header has no end of line. -/
theorem findText_schema (rest : List UInt8) :
    findText (text "\nschema=") (headerLine ++ (text "\nschema=" ++ rest)) =
      some (headerLine, text "\nschema=" ++ rest) := by
  refine findText_append (List.prefix_append _ _) fun front back hsplit hne hmatch => ?_
  obtain ⟨b, back, rfl⟩ := List.exists_cons_of_ne_nil hne
  have hb : b ∈ headerLine := by
    rw [hsplit]
    simp
  obtain ⟨tail, heq⟩ := hmatch
  have hten : (10 : UInt8) = b := (List.cons.inj heq).1
  exact absurd (hten ▸ hb) (by decide)

/-- The number of the version line decides. -/
theorem foreignSchema_eq {digits rest : List UInt8} (h : strtoulIn longMax (digits ++ 10 :: rest) =
      some { value := v, rest := 10 :: rest, inRange := true }) :
    foreignSchema longMax (headerLine ++ (text "\nschema=" ++ (digits ++ 10 :: rest))) =
      !schemaSupported v := by
  have hdrop : (text "\nschema=" ++ (digits ++ 10 :: rest)).drop 8 = digits ++ 10 :: rest := rfl
  unfold foreignSchema
  simp only [findText_schema, hdrop, h]
  simp

/-- The text begins with the header and the version. -/
theorem configPieces_head (c : GatewayPersistentConfig) : ∃ rest, (configPieces c).flatten =
    headerLine ++ (text "\nschema=" ++ (decimalText c.schemaVersion ++ 10 :: rest)) := by
  have hkey : text "\nschema=" = 10 :: text "schema=" := rfl
  rw [hkey]
  unfold configPieces timePiece entry
  simp only [List.cons_append, List.flatten_cons, List.append_assoc, List.nil_append]
  exact ⟨_, rfl⟩

/-- **A configuration comes back**, if the file can hold it. -/
theorem decode_encode (hlong : 0xffffffff ≤ longMax) {c : GatewayPersistentConfig}
    (h : gatewayConfigEncode c cap = .ok out) (hw : Writable c) :
    gatewayConfigDecode longMax out = .ok c.tidy := by
  obtain ⟨hencodes, rfl, hlength⟩ := encode_ok h
  have hlines := lines_configPieces hencodes.settings.valid hencodes.valid
  generalize hbody : (configPieces c).flatten = body at *
  have hcrc : ∀ b ∈ crcPiece body, b ≠ 0 := by
    intro b hb
    unfold crcPiece at hb
    simp only [List.mem_append, List.mem_singleton] at hb
    rcases hb with (hmark | hdigit) | rfl
    · have hclean : ∀ b ∈ text "crc32=", b ≠ 0 := by decide
      exact hclean b hmark
    · exact (hexDigit_plain (hexText8_digits _ b hdigit)).2.2.2.2.2.2
    · decide
  have hcut : (body ++ crcPiece body).takeWhile (· ≠ 0) = body ++ crcPiece body := by
    rw [List.takeWhile_eq_self_iff]
    intro b hb
    rcases List.mem_append.mp hb with hbefore | hafter
    · have hne : b ≠ 0 := fun hzero => hlines.zero (hzero ▸ hbefore)
      simpa using hne
    · simpa using hcrc b hafter
  -- the mark stands at the start of a line, and no line of the body starts with it
  have hfind : findText (text "crc32=") (body ++ crcPiece body) = some (body, crcPiece body) := by
    have hmark : text "crc32=" = text "crc3" ++ 50 :: 61 :: [] := rfl
    have hfound : text "crc3" ++ 50 :: 61 :: [] <+: crcPiece body := by
      rw [← hmark]
      unfold crcPiece
      rw [List.append_assoc]
      exact List.prefix_append _ _
    rw [hmark]
    refine findText_lines (show 10 ∉ text "crc3" ++ 50 :: 61 :: [] by decide) hfound hlines.mark
      fun x hx => ?_
    rw [hlines.last] at hx
    exact (Option.some.inj hx).symm
  have hagrees : crcAgrees longMax (body ++ crcPiece body) body (crcPiece body) = true := by
    have hne : body ≠ [] := by
      rintro rfl
      exact absurd hlines.last (by simp)
    have hten : 10 ∈ crcPiece body := by simp [crcPiece]
    have hdrop : (crcPiece body).drop 6 = hexText8 (crc32 body).toNat ++ [10] := by
      unfold crcPiece
      rw [List.append_assoc]
      rfl
    have hscan : scanHex8 longMax (hexText8 (crc32 body).toNat ++ [10]) = _ :=
      scanHex8_written (crc32 body).isLt
    unfold crcAgrees
    simp [hne, hten, hdrop, hscan, length_crcPiece]
  have hread := readBody_written hlong hencodes.settings hencodes.valid hw
  rw [hbody] at hread
  have hforeign : foreignSchema longMax (body ++ crcPiece body) = false := by
    obtain ⟨rest, hhead⟩ := configPieces_head c
    rw [hbody] at hhead
    rw [hhead]
    simp only [List.append_assoc, List.cons_append]
    have hversion := version_cases hencodes.settings.version
    rw [foreignSchema_eq (strtoulIn_decimalText (by omega) (by simp [isDigit]))]
    simp [hencodes.settings.version]
  unfold gatewayConfigDecode
  rw [if_neg (by rw [List.length_append, length_crcPiece] at hlength ⊢; omega), hcut]
  rw [if_neg (by simp [hforeign]), hfind]
  simp only [hagrees, if_true, hread]

/-! ## Decoding, then encoding -/

/-- What every step keeps, a fold keeps. -/
theorem foldlM_keeps {α β : Type} {P : β → Prop} {f : β → α → Option β}
    (hstep : ∀ b a b', P b → f b a = some b' → P b') (l : List α) {b b' : β} (hb : P b)
    (h : l.foldlM f b = some b') : P b' := by
  induction l generalizing b with
  | nil =>
    obtain rfl : b = b' := Option.some.inj h
    exact hb
  | cons a l ih =>
    rw [List.foldlM_cons] at h
    obtain ⟨b₁, hone, hrest⟩ := Option.bind_eq_some_iff.mp h
    exact ih (hstep b a b₁ hb hone) hrest

theorem lineValue_le {line key : List UInt8} (h : lineValue longMax line key = some v) :
    v ≤ 0xffffffff := by
  unfold lineValue at h
  split at h
  · split at h
    · split at h
      · rename_i hfound
        obtain rfl := Option.some.inj h
        exact hfound.2.1
      · cases h
    · cases h
  · cases h

theorem portWritable_zero : PortWritable zeroPortConfig where
  address := by decide
  baud := by decide
  transport := by decide
  endpointPort := by decide
  specialBaud := by decide
  revision := by decide

theorem portWritable_setField (h : PortWritable p) (f : Nat) (hv : v ≤ 0xffffffff) :
    PortWritable (setField p f v) := by
  obtain ⟨haddress, hbaud, htransport, hport, hspecial, hrevision⟩ := h
  unfold setField
  split <;> exact ⟨by assumption, by assumption, by assumption, by assumption, by assumption, by assumption⟩

theorem portWritable_readPolicy {r r' : PortReading} (h : PortWritable r.1) (hread : readPolicy i r = some r') :
    PortWritable r'.1 := by
  unfold readPolicy at hread
  split at hread
  · simp only [Option.bind_eq_bind, Option.bind_eq_some_iff] at hread
    obtain ⟨_, _, v, _, hread⟩ := hread
    obtain rfl := Option.some.inj hread
    exact ⟨h.address, h.baud, h.transport, h.endpointPort, h.specialBaud, h.revision⟩
  · obtain rfl := Option.some.inj hread
    exact h

theorem portWritable_readField {i f : Nat} {r r' : PortReading} (h : PortWritable r.1)
    (hread : readField longMax i f r = some r') : PortWritable r'.1 := by
  unfold readField at hread
  split at hread
  · unfold readAddress at hread
    simp only [Option.bind_eq_bind, Option.bind_eq_some_iff] at hread
    obtain ⟨⟨line, next⟩, hline, hread⟩ := hread
    split at hread
    · refine portWritable_readPolicy ?_ hread
      refine ⟨fun hten => ?_, h.baud, h.transport, h.endpointPort, h.specialBaud, h.revision⟩
      -- the line the address was cut from has no end of line in it
      have hmem := (List.takeWhile_prefix _).subset hten
      exact (cutAt_eq_some hline).2 (List.mem_of_mem_drop hmem)
    · cases hread
  · simp only [Option.bind_eq_bind, Option.bind_eq_some_iff] at hread
    obtain ⟨_, _, v, hv, hread⟩ := hread
    obtain rfl := Option.some.inj hread
    exact portWritable_setField h f (lineValue_le hv)

/-- What the loop over the ports does: every port it sets can be written, and nothing else changes. -/
theorem readPorts_keeps (h : Writable r.1) (hread : readPorts longMax r = some r') :
    Writable r'.1 ∧ r'.1.schemaVersion = r.1.schemaVersion ∧ r'.1.settings = r.1.settings := by
  unfold readPorts at hread
  refine foldlM_keeps (P := fun r' : Reading => Writable r'.1 ∧
    r'.1.schemaVersion = r.1.schemaVersion ∧ r'.1.settings = r.1.settings) ?_ _ ⟨h, rfl, rfl⟩ hread
  rintro r₁ i r₂ ⟨hw, hversion, hsettings⟩ hone
  obtain ⟨⟨p, next⟩, hport, hone⟩ := Option.bind_eq_some_iff.mp hone
  obtain rfl := Option.some.inj hone
  refine ⟨fun j => ?_, hversion, hsettings⟩
  have hp : PortWritable p := by
    unfold readPort at hport
    exact foldlM_keeps (P := fun r : PortReading => PortWritable r.1)
      (fun _ _ _ hb hstep => portWritable_readField hb hstep) _ portWritable_zero hport
  show PortWritable (Function.update r₁.1.ports i p j)
  rw [Function.update_apply]
  split
  · exact hp
  · exact hw j

/-- The web server's settings are those the oldest files stand for. -/
structure WebSame (c c' : GatewayPersistentConfig) : Prop where
  version : c'.schemaVersion = c.schemaVersion
  enabled : c'.settings.webEnabled = c.settings.webEnabled
  interface : c'.settings.webInterface = c.settings.webInterface
  protocol : c'.settings.webProtocol = c.settings.webProtocol
  ports : c'.ports = c.ports

theorem webSame_readNtp (h : readNtp longMax r = some r') : WebSame r.1 r'.1 := by
  unfold readNtp at h
  split at h
  · simp only [Option.bind_eq_bind, Option.bind_eq_some_iff] at h
    obtain ⟨_, _, v, _, _, _, h⟩ := h
    split at h
    · obtain rfl := Option.some.inj h
      exact ⟨rfl, rfl, rfl, rfl, rfl⟩
    · cases h
  · obtain rfl := Option.some.inj h
    exact ⟨rfl, rfl, rfl, rfl, rfl⟩

theorem webSame_readInterval (h : readInterval longMax r = some r') :
    WebSame r.1 r'.1 := by
  unfold readInterval at h
  split at h
  · simp only [Option.bind_eq_bind, Option.bind_eq_some_iff] at h
    obtain ⟨_, _, v, _, h⟩ := h
    split at h
    · obtain rfl := Option.some.inj h
      exact ⟨rfl, rfl, rfl, rfl, rfl⟩
    · cases h
  · obtain rfl := Option.some.inj h
    exact ⟨rfl, rfl, rfl, rfl, rfl⟩

theorem webSame_readBacklight (h : readBacklight r = some r') : WebSame r.1 r'.1 := by
  unfold readBacklight at h
  split at h
  · simp only [Option.bind_eq_bind, Option.bind_eq_some_iff] at h
    obtain ⟨_, _, v, _, h⟩ := h
    obtain rfl := Option.some.inj h
    exact ⟨rfl, rfl, rfl, rfl, rfl⟩
  · obtain rfl := Option.some.inj h
    exact ⟨rfl, rfl, rfl, rfl, rfl⟩

theorem readWeb_keeps (h : readWeb r = some r') :
    r'.1.schemaVersion = r.1.schemaVersion ∧ r'.1.settings.webProtocol = r.1.settings.webProtocol ∧
      r'.1.ports = r.1.ports ∧ (r.1.schemaVersion < 2 → r' = r) := by
  unfold readWeb at h
  split at h
  · rename_i hnew
    simp only [Option.bind_eq_bind, Option.bind_eq_some_iff] at h
    obtain ⟨_, _, v, _, _, _, w, _, h⟩ := h
    obtain rfl := Option.some.inj h
    exact ⟨rfl, rfl, rfl, fun hold => absurd hnew (by omega)⟩
  · obtain rfl := Option.some.inj h
    exact ⟨rfl, rfl, rfl, fun _ => rfl⟩

theorem readProtocol_keeps (h : readProtocol r = some r') :
    r'.1.schemaVersion = r.1.schemaVersion ∧ r'.1.settings.webEnabled = r.1.settings.webEnabled ∧
      r'.1.settings.webInterface = r.1.settings.webInterface ∧ r'.1.ports = r.1.ports ∧
      (r.1.schemaVersion ≠ 3 → r' = r) := by
  unfold readProtocol at h
  split at h
  · rename_i hnew
    simp only [Option.bind_eq_bind, Option.bind_eq_some_iff] at h
    obtain ⟨_, _, v, _, h⟩ := h
    obtain rfl := Option.some.inj h
    exact ⟨rfl, rfl, rfl, rfl, fun hold => absurd hnew hold⟩
  · obtain rfl := Option.some.inj h
    exact ⟨rfl, rfl, rfl, rfl, fun _ => rfl⟩

/-- A number at the end of its line is the same number before the end of the line. -/
theorem strtoulIn_line {digits : List UInt8} {number : ScannedNumber} (rest : List UInt8)
    (h : strtoulIn longMax digits = some number) (hend : number.rest = []) :
    strtoulIn longMax (digits ++ 10 :: rest) = some { number with rest := 10 :: rest } := by
  unfold strtoulIn at h ⊢
  rcases hscan : takeSign (digits.dropWhile isSpace) with ⟨negative, unsigned⟩
  rw [hscan] at h
  dsimp only at h
  split at h
  · cases h
  · rename_i hne
    have hrest : unsigned.dropWhile isDigit = [] := by
      split at h <;> (obtain rfl := Option.some.inj h; exact hend)
    have hunsigned : unsigned ≠ [] := by
      rintro rfl
      exact hne rfl
    have htext : digits.dropWhile isSpace ≠ [] := by
      intro hnil
      rw [hnil] at hscan
      exact hunsigned (congrArg Prod.snd hscan).symm
    have hspaces : (digits ++ 10 :: rest).dropWhile isSpace = digits.dropWhile isSpace ++ 10 :: rest := by
      rw [List.dropWhile_append, if_neg (by simpa using htext)]
    have hsign : takeSign (digits.dropWhile isSpace ++ 10 :: rest) = (negative, unsigned ++ 10 :: rest) := by
      rw [takeSign_append htext, hscan]
    have hall : ∀ b ∈ unsigned, isDigit b = true := List.dropWhile_eq_nil_iff.mp hrest
    have htake : (unsigned ++ 10 :: rest).takeWhile isDigit = unsigned.takeWhile isDigit ∧
        (unsigned ++ 10 :: rest).dropWhile isDigit = 10 :: rest := by
      rw [List.takeWhile_append_of_pos hall, List.dropWhile_append_of_pos hall,
        List.takeWhile_eq_self_iff.mpr hall]
      simp [isDigit]
    rw [hspaces, hsign]
    dsimp only
    rw [htake.1, htake.2, if_neg hne]
    split at h
    · rename_i hlarge
      obtain rfl := Option.some.inj h
      rw [if_pos hlarge]
    · rename_i hsmall
      obtain rfl := Option.some.inj h
      rw [if_neg hsmall]

theorem lineValue_cases {line key : List UInt8} (h : lineValue longMax line key = some v) :
    ∃ digits, line = key ++ digits ∧
      strtoulIn longMax digits = some { value := v, rest := [], inRange := true } := by
  unfold lineValue at h
  split at h
  · rename_i hkey
    obtain ⟨digits, rfl⟩ := hkey
    rw [List.drop_left] at h
    split at h
    · rename_i number hnumber
      split at h
      · rename_i hfound
        obtain rfl := Option.some.inj h
        refine ⟨digits, rfl, hnumber.trans ?_⟩
        rw [← hfound.2.2, ← hfound.1]
      · cases h
    · cases h
  · cases h

/-- A text that was read is one that can be written. -/
theorem readBody_cases {body : List UInt8} {c : GatewayPersistentConfig}
    (h : readBody longMax body = some c) :
    (∃ digits rest, body = headerLine ++ (text "\nschema=" ++ (digits ++ 10 :: rest)) ∧
      strtoulIn longMax digits = some { value := c.schemaVersion, rest := [], inRange := true }) ∧
    productSettingsValid c.settings = true ∧ (gatewayConfigurationValidate c.ports).1 = 0 ∧
    Writable c ∧ (c.schemaVersion < 3 → c.settings.webProtocol = 1) ∧
    (c.schemaVersion < 2 → c.settings.webEnabled = 0 ∧ c.settings.webInterface = 0) := by
  unfold readBody at h
  simp only [Option.bind_eq_bind, Option.bind_eq_some_iff] at h
  obtain ⟨next, hheader, r₁, hschema, r₂, hntp, r₃, hinterval, r₄, hlight, r₅, hweb, r₆, hprotocol,
    r₇, hports, h⟩ := h
  split at h
  · rename_i hchecks
    obtain rfl := Option.some.inj h
    obtain ⟨_, hsettings, hvalid⟩ := hchecks
    -- the first two lines
    unfold readHeader at hheader
    simp only [Option.bind_eq_bind, Option.bind_eq_some_iff] at hheader
    obtain ⟨⟨line, next'⟩, hline, hheader⟩ := hheader
    split at hheader
    · rename_i hname
      obtain rfl := Option.some.inj hheader
      unfold readSchema at hschema
      simp only [Option.bind_eq_bind, Option.bind_eq_some_iff] at hschema
      obtain ⟨⟨line', next''⟩, hline', v, hv, hschema⟩ := hschema
      obtain rfl := Option.some.inj hschema
      obtain ⟨digits, hdigits, hnumber⟩ := lineValue_cases hv
      have hbody := (cutAt_eq_some hline).1
      have hnext := (cutAt_eq_some hline').1
      dsimp only at hname hdigits hbody hnext
      -- the other readers keep what the first ones set
      have hntp := webSame_readNtp hntp
      have hinterval := webSame_readInterval hinterval
      have hlight := webSame_readBacklight hlight
      obtain ⟨hv₅, hp₅, hports₅, hold₅⟩ := readWeb_keeps hweb
      obtain ⟨hv₆, he₆, hi₆, hports₆, hold₆⟩ := readProtocol_keeps hprotocol
      have hports₄ : r₄.1.ports = legacyConfig.ports := by
        rw [hlight.ports, hinterval.ports, hntp.ports]
      have hv₄ : r₄.1.schemaVersion = v := by
        rw [hlight.version, hinterval.version, hntp.version]
      have hzero : Writable r₆.1 := by
        intro i
        rw [hports₆, hports₅, hports₄]
        exact portWritable_zero
      obtain ⟨hwritable, hv₇, hs₇⟩ := readPorts_keeps hzero hports
      have hversion : r₇.1.schemaVersion = v := by
        rw [hv₇, hv₆, hv₅, hv₄]
      refine ⟨⟨digits, next'', ?_, by rw [hversion]; exact hnumber⟩, hsettings, hvalid, hwritable,
        fun hlow => ?_, fun hlow => ?_⟩
      · rw [hbody, hname, hnext, hdigits]
        show headerLine ++ 10 :: (text "schema=" ++ digits ++ 10 :: next'') =
          headerLine ++ 10 :: (text "schema=" ++ (digits ++ 10 :: next''))
        rw [List.append_assoc]
      · have hsame := hold₆ (by omega)
        rw [hs₇, hsame, hp₅, hlight.protocol, hinterval.protocol, hntp.protocol]
        rfl
      · have hsame := hold₅ (by omega)
        rw [hs₇, he₆, hi₆, hsame, hlight.enabled, hinterval.enabled, hntp.enabled, hlight.interface,
          hinterval.interface, hntp.interface]
        exact ⟨rfl, rfl⟩
    · cases hheader
  · cases h

/-- What was decoded can be encoded, and the file can hold it. -/
theorem decode_ok {input : List UInt8} {c : GatewayPersistentConfig}
    (h : gatewayConfigDecode longMax input = .ok c) : Encodes c ∧ Writable c := by
  unfold gatewayConfigDecode at h
  split at h
  · cases h
  split at h
  · cases h
  rename_i hforeign
  split at h
  · cases h
  rename_i before crcLine hfind
  split at h
  · split at h
    · cases h
    · rename_i c' hread
      obtain rfl := Except.ok.inj h
      obtain ⟨⟨digits, rest, hbody, hnumber⟩, hsettings, hvalid, hw, hprotocol, hweb⟩ :=
        readBody_cases hread
      rw [(findText_eq_some hfind).1, hbody] at hforeign
      simp only [List.append_assoc, List.cons_append] at hforeign
      rw [foreignSchema_eq (strtoulIn_line _ hnumber rfl)] at hforeign
      refine ⟨⟨⟨by simpa using hforeign, hsettings, hprotocol, fun hone => hweb (by omega)⟩,
        hvalid⟩, hw⟩
  · cases h

/-! ## The file is never too long -/

theorem length_field_le (hi : i < 8) (name : String) (hv : v ≤ 0xffffffff) :
    (fieldPiece i name v).length ≤ 19 + (text name).length := by
  have hport : (decimalText (i + 1)).length ≤ 1 := length_decimalText_le (by decide) (by omega)
  have hvalue : (decimalText v).length ≤ 10 := length_decimalText_le (by decide) (by omega)
  have hdot : (text "port.").length = 5 ∧ (text ".").length = 1 ∧ (text "=").length = 1 := by decide
  unfold fieldPiece portKey
  simp only [List.length_append, List.length_singleton]
  omega

theorem length_portPieces_le (hi : i < 8) (hb : PortBounded p) (hw : PortWritable p) :
    (portPieces i p).flatten.length ≤ 430 := by
  have henabled := hb.enabled
  have huart := hb.uartIndex
  have hmode := hb.mode
  have hdata := hb.dataBits
  have hparity := hb.parity
  have hstop := hb.stopBits
  have hspecial := hb.specialBaudEnabled
  have hpolicy := hb.bindPolicy
  have haddress : (portKey i "bind_address" ++ p.bindAddress.bytes ++ [10]).length ≤ 60 := by
    have hport : (decimalText (i + 1)).length ≤ 1 := length_decimalText_le (by decide) (by omega)
    have hlength : p.bindAddress.bytes.length < 40 := hb.length
    have htexts : (text "port.").length = 5 ∧ (text ".").length = 1 ∧ (text "=").length = 1 ∧
        (text "bind_address").length = 12 := by decide
    unfold portKey
    simp only [List.length_append, List.length_singleton]
    omega
  have h0 : _ ≤ 26 := length_field_le hi "enabled" (show p.enabled ≤ 0xffffffff by omega)
  have h1 : _ ≤ 23 := length_field_le hi "uart" (show p.uartIndex ≤ 0xffffffff by omega)
  have h2 : _ ≤ 23 := length_field_le hi "mode" (show p.mode ≤ 0xffffffff by omega)
  have h3 : _ ≤ 23 := length_field_le hi "baud" hw.baud
  have h4 : _ ≤ 28 := length_field_le hi "data_bits" (show p.dataBits ≤ 0xffffffff by omega)
  have h5 : _ ≤ 25 := length_field_le hi "parity" (show p.parity ≤ 0xffffffff by omega)
  have h6 : _ ≤ 28 := length_field_le hi "stop_bits" (show p.stopBits ≤ 0xffffffff by omega)
  have h7 : _ ≤ 28 := length_field_le hi "transport" hw.transport
  have h8 : _ ≤ 30 := length_field_le hi "bind_policy" (show p.bindPolicy ≤ 0xffffffff by omega)
  have h9 : _ ≤ 32 := length_field_le hi "endpoint_port" hw.endpointPort
  have h10 : _ ≤ 39 := length_field_le hi "special_baud_enabled"
    (show p.specialBaudEnabled ≤ 0xffffffff by omega)
  have h11 : _ ≤ 31 := length_field_le hi "special_baud" hw.specialBaud
  have h12 : _ ≤ 27 := length_field_le hi "revision" hw.revision
  unfold portPieces
  split <;> simp only [List.flatten_append, List.flatten_cons, List.flatten_nil, List.append_nil,
    List.length_append] at haddress ⊢ <;> omega

theorem length_flatMap_le {α : Type} {f : α → List (List UInt8)} (l : List α)
    (h : ∀ a ∈ l, (f a).flatten.length ≤ n) : (l.flatMap f).flatten.length ≤ l.length * n := by
  induction l with
  | nil => simp
  | cons a l ih =>
    have hone := h a (by simp)
    have hrest := ih fun a ha => h a (List.mem_cons_of_mem _ ha)
    rw [List.flatMap_cons, List.flatten_append, List.length_append, List.length_cons, Nat.succ_mul]
    omega

theorem length_entry (key : String) (value : List UInt8) :
    (entry key value).length = (text key).length + value.length + 1 := by
  simp [entry, Nat.add_assoc]

theorem length_small (h : v ≤ 99) : (decimalText v).length ≤ 2 :=
  length_decimalText_le (by decide) (by omega)

theorem length_timePiece_le {c : GatewayPersistentConfig} (hversion : c.schemaVersion ≤ 99)
    (hntp : c.settings.ntpEnabled ≤ 99) (hserver : c.settings.ntpServer.length < 64)
    (hhours : c.settings.ntpIntervalHours ≤ 99) : (timePiece c).length ≤ 170 := by
  have hserver : c.settings.ntpServer.bytes.length < 64 := hserver
  have h1 := length_small hversion
  have h2 := length_small hntp
  have h3 := length_small hhours
  have htexts : headerLine.length = 19 ∧ (text "schema=").length = 7 ∧
      (text "time.ntp_enabled=").length = 17 ∧ (text "time.ntp_server=").length = 16 ∧
      (text "time.ntp_interval_hours=").length = 24 := by decide
  unfold timePiece
  simp only [List.length_append, length_entry, List.length_singleton]
  omega

theorem length_webPieces_le {c : GatewayPersistentConfig} (henabled : c.settings.webEnabled ≤ 99)
    (hinterface : c.settings.webInterface ≤ 99) (hprotocol : c.settings.webProtocol ≤ 99) :
    (backlightPieces c ++ webPieces c ++ protocolPieces c).flatten.length ≤ 80 := by
  have hlight : (backlightPieces c).flatten.length ≤ 23 := by
    unfold backlightPieces
    split <;> decide
  have hweb : (webPieces c).flatten.length ≤ 32 := by
    have h1 := length_small henabled
    have h2 := length_small hinterface
    have htexts : (text "web.enabled=").length = 12 ∧ (text "web.interface=").length = 14 := by decide
    unfold webPieces
    split
    · simp only [List.flatten_cons, List.flatten_nil, List.append_nil, List.length_append, length_entry]
      omega
    · simp
  have hprot : (protocolPieces c).flatten.length ≤ 16 := by
    have h1 := length_small hprotocol
    have htexts : (text "web.protocol=").length = 13 := by decide
    unfold protocolPieces
    split
    · simp only [List.flatten_cons, List.flatten_nil, List.append_nil, length_entry]
      omega
    · simp
  simp only [List.flatten_append, List.length_append]
  omega

theorem length_ports_le {ports : GatewayPorts} (hb : ∀ i, PortBounded (ports i))
    (hw : ∀ i, PortWritable (ports i)) :
    ((List.finRange gatewayPortCount).flatMap fun i =>
      portPieces i.val (ports i)).flatten.length ≤ 3440 := by
  have hports := length_flatMap_le (List.finRange gatewayPortCount) fun i _ =>
    length_portPieces_le i.isLt (hb i) (hw i)
  rwa [List.length_finRange] at hports

theorem length_file_le {c : GatewayPersistentConfig} (h : Encodes c) (hw : Writable c) :
    ((configPieces c).flatten ++ crcPiece (configPieces c).flatten).length < gatewayConfigMaxBytes := by
  have hversion := version_cases h.settings.version
  have hsettings := h.settings.valid
  unfold productSettingsValid at hsettings
  simp only [Bool.and_eq_true, Bool.or_eq_true, decide_eq_true_eq] at hsettings
  obtain ⟨⟨⟨⟨⟨⟨⟨⟨hprotocol, henabled⟩, hinterface⟩, _⟩, hhours⟩, hntp⟩, hlength⟩, _⟩, _⟩ := hsettings
  have htime := length_timePiece_le (c := c) (by omega) (by omega) hlength (by omega)
  have hweb := length_webPieces_le (c := c) (by omega) (by omega) (by omega)
  have hports := length_ports_le
    (fun i => portBounded_of_validateOne (validateOne_of_valid (valid_errors h.valid i))) hw
  have hpieces : (configPieces c).flatten.length = (timePiece c).length +
      ((backlightPieces c ++ webPieces c ++ protocolPieces c).flatten.length +
        ((List.finRange gatewayPortCount).flatMap fun i =>
          portPieces i.val (c.ports i)).flatten.length) := by
    unfold configPieces
    simp only [List.cons_append, List.flatten_cons, List.flatten_append, List.length_append]
  rw [List.length_append, length_crcPiece, hpieces]
  unfold gatewayConfigMaxBytes
  omega

theorem encode_of_length {c : GatewayPersistentConfig} (h : Encodes c)
    (hlength : ((configPieces c).flatten ++ crcPiece (configPieces c).flatten).length <
      gatewayConfigMaxBytes) :
    ∃ out, gatewayConfigEncode c gatewayConfigMaxBytes = .ok out := by
  have hbody : appendPieces gatewayConfigMaxBytes [] (configPieces c) = some (configPieces c).flatten := by
    refine appendPieces_fits ?_
    rw [List.length_append] at hlength
    simp only [List.nil_append]
    omega
  have hcrc : appendPieces gatewayConfigMaxBytes (configPieces c).flatten
      [crcPiece (configPieces c).flatten] =
      some ((configPieces c).flatten ++ crcPiece (configPieces c).flatten) := by
    have htogether : (configPieces c).flatten ++ crcPiece (configPieces c).flatten =
        (configPieces c).flatten ++ [crcPiece (configPieces c).flatten].flatten := by simp
    rw [htogether] at hlength ⊢
    exact appendPieces_fits hlength
  obtain ⟨hversion, hencodable⟩ := (encodable_iff c).mpr h
  unfold gatewayConfigEncode
  rw [if_neg (by decide), if_neg (by simp [hversion]), if_neg (by simp [hencodable]), hbody]
  simp only [hcrc]
  exact ⟨_, rfl⟩

theorem encode_fits {c : GatewayPersistentConfig} (h : Encodes c) (hw : Writable c) :
    ∃ out, gatewayConfigEncode c gatewayConfigMaxBytes = .ok out :=
  encode_of_length h (length_file_le h hw)

/-! ## The round trip -/

/-- The record without what stands behind the terminators: what a comparison of the fields and,
    for the texts, of the strings looks at. -/
def GatewayPersistentConfig.contents (c : GatewayPersistentConfig) : GatewayPersistentConfig :=
  { c with
    settings := { c.settings with ntpServerTail := [] }
    ports := fun i => { c.ports i with bindTail := [] } }

/-- The file of a configuration gives it back. -/
def ReadsBack (longMax : Nat) (c : GatewayPersistentConfig) (out : List UInt8) : Prop :=
  ∃ c', gatewayConfigDecode longMax out = .ok c' ∧ c'.contents = c.contents

/-- **The configuration file.** Where `unsigned long` has at least 32 bits, every file a
    configuration is encoded to gives it back exactly when no address has an end of line and
    no number more than 32 bits; and what was decoded is encoded again and gives itself back. -/
theorem config_round_trip (longMax : Nat) (hlong : 0xffffffff ≤ longMax) :
    (∀ c, (∀ out, gatewayConfigEncode c gatewayConfigMaxBytes = .ok out → ReadsBack longMax c out) ↔
      ((∃ out, gatewayConfigEncode c gatewayConfigMaxBytes = .ok out) → Writable c)) ∧
    (∀ input c, gatewayConfigDecode longMax input = .ok c →
      ∃ out, gatewayConfigEncode c gatewayConfigMaxBytes = .ok out ∧ ReadsBack longMax c out) := by
  constructor
  · intro c
    constructor
    · rintro hback ⟨out, hout⟩
      obtain ⟨c', hdecoded, hsame⟩ := hback out hout
      -- the decoder checks these six fields, and they are the same in both
      intro i
      have hport := congrArg (fun c => c.ports i) hsame
      obtain ⟨haddress, hbaud, htransport, hendpoint, hspecial, hrevision⟩ := (decode_ok hdecoded).2 i
      have field : ∀ {α : Type} (get : GatewayPortConfig → α),
          get { c'.ports i with bindTail := [] } = get { c.ports i with bindTail := [] } :=
        fun get => congrArg get hport
      exact ⟨field (·.bindAddress) ▸ haddress, field (·.baud) ▸ hbaud, field (·.transport) ▸ htransport,
        field (·.endpointPort) ▸ hendpoint, field (·.specialBaud) ▸ hspecial,
        field (·.revision) ▸ hrevision⟩
    · intro hw out hout
      exact ⟨c.tidy, decode_encode hlong hout (hw ⟨out, hout⟩), rfl⟩
  -- what was decoded fits the buffer and is writable, whatever its text was
  · intro input c hdecoded
    obtain ⟨hencodes, hw⟩ := decode_ok hdecoded
    obtain ⟨out, hout⟩ := encode_fits hencodes hw
    exact ⟨out, hout, c.tidy, decode_encode hlong hout hw, rfl⟩

/-- The first file a gateway writes. -/
theorem config_round_trip_defaults :
    ∃ out, gatewayConfigEncode gatewayPersistentDefaults gatewayConfigMaxBytes = .ok out ∧
      ReadsBack ulongMax gatewayPersistentDefaults out := by
  have hw : Writable gatewayPersistentDefaults := by
    unfold Writable
    decide
  have hencodes : Encodes gatewayPersistentDefaults := (encodable_iff _).mp (by decide +kernel)
  obtain ⟨out, hout⟩ := encode_fits hencodes hw
  exact ⟨out, hout, ((config_round_trip ulongMax le_rfl).1 _).mpr (fun _ => hw) out hout⟩

/-- An end of line where `sscanf` skips spaces. -/
def brokenAddress : GatewayPersistentConfig :=
  { gatewayPersistentDefaults with
    ports := Function.update gatewayConfigurationDefaults 0
      ((gatewayConfigurationDefaults 0).bindTo ⟨text "\n10.0.0.1", by decide⟩) }

/-- **The address that cuts the file.** The configuration passes the validation and is
    encoded, and its file is not accepted. -/
theorem brokenAddress_lost :
    ∃ out, gatewayConfigEncode brokenAddress gatewayConfigMaxBytes = .ok out ∧
      ¬ ReadsBack ulongMax brokenAddress out := by
  have hencodes : Encodes brokenAddress := (encodable_iff _).mp (by decide +kernel)
  have hlength : ((configPieces brokenAddress).flatten ++
      crcPiece (configPieces brokenAddress).flatten).length < gatewayConfigMaxBytes := by
    rw [List.length_append, length_crcPiece]
    decide +kernel
  obtain ⟨out, hout⟩ := encode_of_length hencodes hlength
  refine ⟨out, hout, ?_⟩
  rintro ⟨c', hdecoded, hsame⟩
  have haddress : (c'.ports 0).bindAddress = (brokenAddress.ports 0).bindAddress :=
    congrArg (fun c => (c.ports 0).bindAddress) hsame
  have hten : 10 ∈ (c'.ports 0).bindAddress.bytes := by
    rw [haddress]
    decide
  exact ((decode_ok hdecoded).2 0).address hten

end FourVrs.Config
