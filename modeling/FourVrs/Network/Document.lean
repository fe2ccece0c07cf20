import FourVrs.Lib.Lines
import FourVrs.Lib.Text
import FourVrs.Network.Settings
import Mathlib.Data.Fintype.Pi
import Mathlib.Data.List.DropRight
import Mathlib.Logic.Function.Basic

/-!
# The vendor's documents (`network/gateway_network_document.c`)

The network settings are read from the vendor's `interfaces` and `resolv.conf`, and written
back into them line by line: what the gateway does not own stays as it is. A document is read
in lines, each of them bounded; `splitLines` cuts it, and `nextLine` is what the reader makes of
one line.
-/

set_option autoImplicit false

namespace FourVrs.Network

open Config Lib

def networkFileMax : Nat := 16384
def lineMaxBytes : Nat := 512

/-- `FOURVRS_LINUX24`, or the other of the two models. -/
inductive Platform where
  | uc7420 | uc7420Plus
  deriving DecidableEq, Repr, Inhabited

/-- `FOURVRS_LAN_PREFIX`. -/
def Platform.lanPrefix : Platform → CText
  | .uc7420 => text "ixp"
  | .uc7420Plus => text "eth"

variable (p : Platform) (s imported : NetworkSettings)

def lanName (lan : Lan) : CText := p.lanPrefix ++ decimalText lan.val

/-! ## Lines -/

/-- `line_t`. -/
structure Line where
  raw : CText
  key : CText
  value : CText
  deriving DecidableEq

/-- What ends the first word of a line. -/
def isBreak (b : UInt8) : Bool := isBlank b || decide (b = 13)

def lineKey (words : CText) : CText := (words.dropWhile isBlank).takeWhile fun b => !isBreak b

def lineValue (words : CText) : CText :=
  let behind := (words.dropWhile isBlank).dropWhile fun b => !isBreak b
  ((behind.drop 1).dropWhile isBlank).rdropWhile isBreak

/-- A line without its end. -/
def lineText (raw : CText) : CText := raw.takeWhile (· ≠ 10)

/-- `next_line` on one line of a document. -/
def nextLine (raw : CText) : Option Line :=
  let words := lineText raw
  if words.length ≥ lineMaxBytes ∨ 0 ∈ words then none
  else some { raw := raw, key := lineKey words, value := lineValue words }

def documentLines (input : CText) : List CText := splitLines 10 input

/-- One `%<width>s` of `sscanf`, and the bytes behind it. -/
def scanWord (width : Nat) (input : CText) : Option (CText × CText) :=
  let rest := input.dropWhile isSpace
  let word := (rest.takeWhile fun b => !isSpace b).take width
  if word = [] then none else some (word, rest.drop word.length)

/-- What `sscanf` reads with a format of such words: it ends at the first that it does not find. -/
def scanWords : List Nat → CText → List CText
  | [], _ => []
  | width :: widths, input =>
      match scanWord width input with
      | none => []
      | some (word, rest) => word :: scanWords widths rest

/-- What `iface` returns: 0, or 1 with the interface in `owned`, or 1 with none. -/
inductive IfaceLine where
  | absent
  | other
  | owned (lan : Lan) (mode : LanMode)
  deriving DecidableEq

def ifaceMode (method : CText) : Option LanMode :=
  if method = text "static" then some .static
  else if method = text "dhcp" then some .dhcpClient
  else none

/-- `iface`. -/
def iface (p : Platform) (l : Line) : Option IfaceLine :=
  if l.key ≠ text "iface" then some .absent
  else
    match scanWords [31, 31, 31, 1] l.value with
    | [name, family, method] =>
        let owned (lan : Lan) : Option IfaceLine :=
          if family = text "inet" then (ifaceMode method).map (.owned lan) else none
        if name = lanName p 0 then owned 0
        else if name = lanName p 1 then owned 1
        else some .other
    | _ => none

/-- A name server of a line of the vendor's. -/
def dnsServer (server : CText) : Bool :=
  match ipv4Parse server with
  | some ip => decide (ip ≠ 0) && decide (ip.toNat / 2 ^ 24 ≠ 127) && decide (ip.toNat / 2 ^ 24 < 224)
  | none => false

/-- Two servers, the second perhaps empty. -/
def serverPair (first second : CText) : Fin 2 → CText := fun i => if i = 0 then first else second

/-- `dns_line`. -/
def dnsLine (value : CText) : Option (Fin 2 → CText) :=
  match scanWords [15, 15, 1] value with
  | [first] => if dnsServer first then some (serverPair first []) else none
  | [first, second] =>
      if dnsServer first ∧ dnsServer second ∧ first ≠ second then some (serverPair first second) else none
  | _ => none

/-- `dns_key`. -/
def dnsKey (key : CText) : Bool := key = text "dns-nameserver" || key = text "dns-nameservers"

/-! ## Reading -/

/-- The fields of a stanza that the gateway takes, each at most once. -/
inductive LanField where
  | address | netmask | gateway | network
  deriving DecidableEq

def LanField.ofKey (key : CText) : Option LanField :=
  if key = text "address" then some .address
  else if key = text "netmask" then some .netmask
  else if key = text "gateway" then some .gateway
  else if key = text "network" then some .network
  else none

/-- What was read of one interface. A field's text is there when its bit in `fields` is set. -/
@[ext]
structure ImportedLan where
  seen : Bool := false
  mode : LanMode := .static
  fields : LanField → Option CText := fun _ => none
  dns : Option (Fin 2 → CText) := none

/-- The local variables of `import_document`. -/
@[ext]
structure Import where
  owned : Option Lan := none
  lans : Lan → ImportedLan := fun _ => {}
  defaultLan : Nat := 0

variable (st : Import)

def Import.withLan (lan : Lan) (x : ImportedLan) : Import :=
  { st with lans := Function.update st.lans lan x }

def ImportedLan.settings (x : ImportedLan) : LanSettings where
  mode := x.mode
  address := (x.fields .address).getD []
  netmask := (x.fields .netmask).getD []
  gateway := (x.fields .gateway).getD []

def Import.settings (st : Import) : NetworkSettings :=
  { lan := fun i => (st.lans i).settings, defaultLan := st.defaultLan }

/-- An `iface` line of an owned interface: the second one is an error. -/
def importIface (lan : Lan) (mode : LanMode) : Option Import :=
  if (st.lans lan).seen then none
  else some { st.withLan lan { st.lans lan with seen := true, mode := mode } with owned := some lan }

def importField (lan : Lan) (field : LanField) (value : CText) : Option Import :=
  if ((st.lans lan).fields field).isSome ∨ (ipv4Parse value).isNone then none
  else
    let st := st.withLan lan
      { st.lans lan with fields := Function.update (st.lans lan).fields field (some value) }
    if field = .gateway then
      if st.defaultLan ≠ 0 then none else some { st with defaultLan := lan.val + 1 }
    else some st

def importDns (lan : Lan) (value : CText) : Option Import :=
  if (st.lans lan).dns.isSome then none
  else (dnsLine value).map fun dns => st.withLan lan { st.lans lan with dns := some dns }

/-- What else may stand in an owned stanza. -/
def vendorKeys : List CText :=
  [text "network", text "broadcast", text "dns-nameserver", text "dns-nameservers", text "pre-up",
    text "up", text "down", text "post-down"]

def stanzaEnd (key : CText) : Bool := key = text "auto" || key = text "allow-hotplug"

/-- What the gateway does not follow. -/
def unfollowed (l : Line) : Bool :=
  decide (92 ∈ l.value) || l.key = text "mapping" || l.key = text "source" ||
    l.key = text "source-directory"

def skipped (l : Line) : Bool := decide (l.key = []) || decide (l.key.head? = some (ascii '#'))

/-- A line in the stanza of an owned interface. -/
def importOwned (lan : Lan) (l : Line) : Option Import :=
  match LanField.ofKey l.key with
  | some field => importField st lan field l.value
  | none =>
      if dnsKey l.key then importDns st lan l.value
      -- VLANs, metrics and options of the vendor's are not ordinary settings.
      else if l.key ∈ vendorKeys then some st
      else none

/-- One pass of the loop of `import_document`. -/
def importLine (raw : CText) : Option Import := do
  let l ← nextLine raw
  if skipped l then some st
  else if unfollowed l then none
  else
    match ← iface p l with
    | .owned lan mode => importIface st lan mode
    | .other => some { st with owned := none }
    | .absent =>
        if stanzaEnd l.key then some { st with owned := none }
        else
          match st.owned with
          | none => some st
          | some lan => importOwned st lan l

/-- A network line states the network of the address. -/
def networkAgrees (x : ImportedLan) : Bool :=
  match x.fields .network with
  | none => true
  | some network =>
      match ipv4Parse x.settings.address, ipv4Parse x.settings.netmask, ipv4Parse network with
      | some ip, some mask, some network => decide (x.mode = .static) && decide (network = ip &&& mask)
      | _, _, _ => false

/-- One line of the resolver's document. -/
def importNameserver (dns : List CText) (raw : CText) : Option (List CText) := do
  let l ← nextLine raw
  if l.key ≠ text "nameserver" then some dns
  else if dns.length = 2 ∨ (ipv4Parse l.value).isNone then none
  else some (dns ++ [l.value])

/-- The stanzas of a document. -/
def importStanzas (input : CText) : Option Import :=
  (documentLines input).foldlM (importLine p) {}

/-- `import_document`. -/
def importDocument (input resolver : CText) (compareDns : Bool) : Option NetworkSettings :=
  if input = [] ∨ input.length > networkFileMax ∨ resolver.length > networkFileMax then none
  else do
    let st ← importStanzas p input
    if ∃ i, ¬ (st.lans i).seen ∨ ¬ networkAgrees (st.lans i) then none
    else
      let dns ← (documentLines resolver).foldlM importNameserver []
      let s := { st.settings with dns := fun i => dns.getD i.val [] }
      if settingsValidate s ≠ .ok then none
      else if compareDns ∧ ∃ i, (st.lans i).dns.any fun dns => decide (dns ≠ s.dns) then none
      else some s

/-- `gateway_network_import`. -/
def gatewayNetworkImport (input resolver : CText) : Option NetworkSettings :=
  importDocument p input resolver true

/-! ## Writing -/

/-- `append`. -/
def appendTo (cap : Nat) (out piece : CText) : Option CText :=
  if out.length < cap ∧ piece.length < cap - out.length then some (out ++ piece) else none

/-- `snprintf` into a buffer of `limit` bytes, and `append`. -/
def appendPrinted (limit cap : Nat) (out piece : CText) : Option CText :=
  if piece.length < limit then appendTo cap out piece else none

/-- `append` of a newline, behind a line that has none. -/
def endLine (cap : Nat) (out : CText) : Option CText :=
  if out ≠ [] ∧ out.getLast? ≠ some 10 then appendTo cap out (text "\n") else some out

def ifaceText (lan : Lan) (mode : LanMode) : CText :=
  text "iface " ++ lanName p lan ++ text " inet " ++
    (if mode = .static then text "static" else text "dhcp") ++ text "\n"

/-- A line of an owned stanza. -/
def fieldText (key value : CText) : CText := text "\t" ++ key ++ text " " ++ value ++ text "\n"

def addressLines (lan : LanSettings) (ip mask : BitVec 32) : CText :=
  fieldText (text "address") lan.address ++ fieldText (text "network") (ipv4Format (ip &&& mask)) ++
    fieldText (text "netmask") lan.netmask ++ fieldText (text "broadcast") (ipv4Format (ip ||| ~~~mask))

/-- `render_lan`. -/
def renderLan (s : NetworkSettings) (lan : Lan) (cap : Nat) (out : CText) : Option CText := do
  let out ← appendPrinted 256 cap out (ifaceText p lan (s.lan lan).mode)
  if (s.lan lan).mode = .dhcpClient then some out
  else
    match ipv4Parse (s.lan lan).address, ipv4Parse (s.lan lan).netmask with
    | some ip, some mask =>
        let out ← appendPrinted 256 cap out (addressLines (s.lan lan) ip mask)
        if s.defaultLan = lan.val + 1 then
          appendPrinted 256 cap out (fieldText (text "gateway") (s.lan lan).gateway)
        else some out
    | _, _ => none

/-- `changed[lan]`. -/
def addressesChanged (lan : Lan) : Bool :=
  decide ((s.lan lan).mode ≠ (imported.lan lan).mode) ||
    decide ((s.lan lan).address ≠ (imported.lan lan).address) ||
    decide ((s.lan lan).netmask ≠ (imported.lan lan).netmask)

/-- `route_changed[lan]`. -/
def routeChanged (lan : Lan) : Bool :=
  (decide (s.defaultLan = lan.val + 1) != decide (imported.defaultLan = lan.val + 1)) ||
    (decide (s.defaultLan = lan.val + 1) && decide ((s.lan lan).gateway ≠ (imported.lan lan).gateway))

/-- The line of an interface whose route alone changes, and the new route behind it. -/
def renderRoute (s : NetworkSettings) (lan : Lan) (cap : Nat) (out raw : CText) : Option CText := do
  let out ← appendTo cap out raw
  if s.defaultLan = lan.val + 1 ∧ (s.lan lan).mode = .static then
    let out ← endLine cap out
    appendPrinted 48 cap out (fieldText (text "gateway") (s.lan lan).gateway)
  else some out

/-- A line with the name servers. -/
def serversText (key : CText) (dns : Fin 2 → CText) : CText :=
  fieldText key (dns 0 ++ (if dns 1 = [] then [] else text " ") ++ dns 1)

/-- A line of name servers in an owned stanza. -/
def renderDns (s : NetworkSettings) (cap : Nat) (out : CText) (l : Line) : Option CText := do
  let old ← dnsLine l.value
  if s.automaticDns ≠ 0 then some out
  else if old ≠ s.dns then
    if s.dns 0 = [] then some out else appendPrinted 80 cap out (serversText l.key s.dns)
  else appendTo cap out l.raw

/-- The lines that `render_lan` writes again. -/
def addressKey (key : CText) : Bool :=
  key = text "address" || key = text "netmask" || key = text "network" || key = text "broadcast" ||
    key = text "gateway"

/-- A line of an owned stanza that is no `iface`. -/
def renderOwned (lan : Lan) (cap : Nat) (out : CText) (l : Line) : Option CText :=
  if dnsKey l.key then renderDns s cap out l
  else if routeChanged s imported lan ∧ l.key = text "gateway" then some out
  else if addressesChanged s imported lan ∧ addressKey l.key then some out
  else appendTo cap out l.raw

/-- One pass of the loop of `gateway_network_render`. -/
def renderLine (cap : Nat) (st : Option Lan × CText) (raw : CText) : Option (Option Lan × CText) := do
  let l ← nextLine raw
  match ← iface p l with
  | .owned lan _ =>
      let out ←
        if addressesChanged s imported lan then renderLan p s lan cap st.2
        else if routeChanged s imported lan then renderRoute s lan cap st.2 raw
        else appendTo cap st.2 raw
      some (some lan, out)
  | .other => (appendTo cap st.2 raw).map (none, ·)
  | .absent =>
      match if stanzaEnd l.key then none else st.1 with
      | none => (appendTo cap st.2 raw).map (none, ·)
      | some lan => (renderOwned s imported lan cap st.2 l).map (some lan, ·)

/-- `gateway_network_render`, into a buffer of `cap` bytes. -/
def gatewayNetworkRender (input : CText) (s : NetworkSettings) (cap : Nat) : Option CText :=
  if cap = 0 ∨ settingsValidate s ≠ .ok then none
  else do
    let imported ← importDocument p input [] false
    let (_, out) ← (documentLines input).foldlM (renderLine p s imported cap) (none, [])
    some out

/-- A line of the resolver's document that stays. -/
def resolverLine (cap : Nat) (out raw : CText) : Option CText := do
  let l ← nextLine raw
  if l.key = text "nameserver" then some out else appendTo cap out raw

def nameserverText (server : CText) : CText := text "nameserver " ++ server ++ text "\n"

def resolverServer (cap : Nat) (out server : CText) : Option CText :=
  if server = [] then some out
  else if dnsServer server then appendPrinted 40 cap out (nameserverText server)
  else none

/-- `gateway_network_resolver`, into a buffer of `cap` bytes. -/
def gatewayNetworkResolver (input : CText) (dns : Fin 2 → CText) (cap : Nat) : Option CText :=
  if input.length > networkFileMax ∨ cap = 0 then none
  else do
    let out ← (documentLines input).foldlM (resolverLine cap) []
    let out ← endLine cap out
    let out ← resolverServer cap out (dns 0)
    resolverServer cap out (dns 1)

end FourVrs.Network
