import FourVrs.Config.CText
import FourVrs.Installer.Digest
import FourVrs.Installer.Files
import FourVrs.Lib.Bytes
import FourVrs.Lib.Reads

/-!
# The installer's journal (`installer/install_transaction.c`)

Before the installer changes a file it writes down what every file is and what it is to be. A
journal is a head, one record for each member, and the digest of both. The decoder reads offsets
of a file that may be anything; a read beyond its end is `Reading.beyond` here.
-/

set_option autoImplicit false

namespace FourVrs.Installer

open Config Lib

def journalLimit : Nat := installFileLimit
def installMembers : Nat := 32

structure InstallMember where
  path : CString
  /-- `INSTALL_ON_CF | INSTALL_BOOT_GATE`. -/
  compactFlash : Nat
  before : InstallFile
  after : InstallFile
  deriving DecidableEq

/-- The count is that of the members. -/
structure InstallPlan where
  wasRunning : Nat
  members : List InstallMember
  deriving DecidableEq

/-- `install_digest_hex`. -/
def digestText (data : List UInt8) : List UInt8 := ((installDigestHex data).getD []).map ascii

def journalMagic : List UInt8 := Config.text "4VIJ0001"

/-! ## The paths of the installer (`installer/install_orchestrator.c`) -/

def installOnCf : Nat := 1
def installBootGate : Nat := 2

/-- `apacheGate`: where the platform keeps the start link of its web server. -/
def commonPaths (apacheGate : List UInt8) : List (List UInt8) := [
  Config.text "etc/network/interfaces", Config.text "etc/resolv.conf",
  Config.text "var/hda/4vrs/config/gateway.conf", Config.text "etc/4vrs-network/confirmed",
  Config.text "etc/4vrs-network/good", Config.text "etc/4vrs-network/gateway-network-recovery",
  Config.text "etc/4vrs-network/vendor-networking",
  Config.text "etc/4vrs-network/vendor-networking-managed", Config.text "etc/4vrs-network/enabled",
  Config.text "etc/4vrs-clock-managed", Config.text "var/hda/4vrs/bin/4vrs-gateway",
  Config.text "etc/4vrs-installer/networking", Config.text "etc/4vrs-installer/application",
  Config.text "etc/rc.d/rcS.d/S40networking", Config.text "etc/rc.d/rc3.d/S90fourvrs-gateway",
  Config.text "etc/rc.d/rc0.d/K10fourvrs-gateway", Config.text "etc/rc.d/rc6.d/K10fourvrs-gateway",
  Config.text "var/hda/4vrs/bin/4vrs-web", apacheGate, Config.text "var/hda/4vrs/bin/4vrs-rng",
  Config.text "var/hda/4vrs/bin/4vrs-kdf"]

/-- The flags of a common path, by its place in the list. -/
def commonFlags (i : Nat) (path : List UInt8) : Nat :=
  if 13 ≤ i ∧ i ≤ 16 then installBootGate
  else if path.take 8 = Config.text "var/hda/" then installOnCf
  else 0

def initNames : List String := ["4vrs-gateway", "ntpdate", "ntpdate.d", "halt"]

/-- `install_allow_path`, true where the source returns 0. -/
def installAllowPath (apacheGate initDirectory : List UInt8) (path : CString) (flags : Nat) : Bool :=
  match (commonPaths apacheGate).findIdx? fun p => decide (path.bytes = p) with
  | some i => decide (flags = commonFlags i path.bytes)
  | none =>
      match initNames.findIdx? fun name =>
          decide (path.bytes = (initDirectory ++ Config.text "/" ++ Config.text name).take 127) with
      | some i => decide (flags = if i = 0 then installBootGate else 0)
      | none => false

theorem installAllowPath_flags {apacheGate initDirectory : List UInt8} {path : CString} {flags : Nat}
    (h : installAllowPath apacheGate initDirectory path flags = true) : flags ≤ 3 := by
  unfold installAllowPath at h
  split at h
  next i _ =>
    have hflags : commonFlags i path.bytes ≤ 2 := by
      simp only [commonFlags, installBootGate, installOnCf]
      split
      · decide
      · split <;> decide
    rw [of_decide_eq_true h]
    omega
  next =>
    split at h
    next i _ =>
      rw [of_decide_eq_true h]
      split <;> decide
    next => cases h

/-! ## Encoding -/

def encodeImage (f : InstallFile) : List UInt8 :=
  put32 f.kind ++ put32 f.mode ++ put32 f.data.length ++ f.data

def encodeMember (m : InstallMember) : List UInt8 :=
  put32 m.path.length ++ put32 m.compactFlash ++ m.path.bytes ++ encodeImage m.before ++
    encodeImage m.after

/-- What stands before the digest. -/
def encodeBody (p : InstallPlan) : List UInt8 :=
  journalMagic ++ put32 p.members.length ++ put32 p.wasRunning ++ p.members.flatMap encodeMember

/-- The first loop of `encode`: the size so far, as long as it fits. -/
def encodeSize (n : Nat) (m : InstallMember) : Option Nat :=
  let z := m.path.length
  if z = 0 ∨ z > installPathLimit ∨ validFile m.before = false ∨ validFile m.after = false then none
  else
    let n := n + (8 + z + 24 + m.before.data.length + m.after.data.length)
    if n > journalLimit - 64 then none else some n

/-- `memory`: whether a block of the size can be had. -/
def encode (memory : Nat → Bool) (p : InstallPlan) : Option InstallFile :=
  if p.members = [] ∨ p.members.length > installMembers ∨ p.wasRunning > 3 then none
  else
    match p.members.foldlM encodeSize 16 with
    | none => none
    | some n =>
        if !memory (n + 65) then none
        else
          some { kind := 1, mode := 0o600, data := encodeBody p ++ digestText (encodeBody p) }

/-! ## Decoding -/

/-- `end - at`, in a `size_t`. -/
def sizeLeft (end' at' : Nat) : Nat := (end' + 2 ^ 32 - at') % 2 ^ 32

/-- `get`. -/
def getWord (data : List UInt8) (at' : Nat) : Reading Nat := do
  let word ← Reading.bytes data at' 4
  pure (get32 word)

/-- One pass over an image: the file, and where the next one begins. -/
def decodeImage (memory : Nat → Bool) (data : List UInt8) (end' at' : Nat) :
    Reading (InstallFile × Nat) := do
  Reading.check (decide (12 ≤ sizeLeft end' at'))
  let kind ← getWord data at'
  let mode ← getWord data (at' + 4)
  let size ← getWord data (at' + 8)
  Reading.check (decide (size ≤ sizeLeft end' (at' + 12)) && decide (size ≤ installFileLimit))
  Reading.check (decide (size = 0) || memory (size + 1))
  let bytes ← Reading.bytes data (at' + 12) size
  Reading.check (validFile { kind, mode, data := bytes })
  pure ({ kind, mode, data := bytes }, at' + 12 + size)

variable (allow : CString → Nat → Bool) (memory : Nat → Bool)

/-- The path of a member, unless there is a NUL in it. -/
def decodePath (data : List UInt8) (at' z : Nat) : Reading CString := do
  let path ← Reading.bytes data at' z
  if hpath : ∀ b ∈ path, b ≠ 0 then pure { bytes := path, nonzero := hpath } else .fail

/-- One pass over a member, when those in `seen` are read. -/
def decodeMember (data : List UInt8) (end' : Nat) (seen : List InstallMember) (at' : Nat) :
    Reading (InstallMember × Nat) := do
  Reading.check (decide (8 ≤ sizeLeft end' at'))
  let z ← getWord data at'
  let compactFlash ← getWord data (at' + 4)
  Reading.check (decide (z ≠ 0) && decide (z ≤ installPathLimit) &&
    decide (z ≤ sizeLeft end' (at' + 8)) && decide (compactFlash ≤ 3))
  let path ← decodePath data (at' + 8) z
  Reading.check (allow path compactFlash)
  Reading.check (seen.all fun m => decide (path ≠ m.path))
  let (before, at') ← decodeImage memory data end' (at' + 8 + z)
  let (after, at') ← decodeImage memory data end' at'
  pure ({ path, compactFlash, before, after }, at')

def decodeMembers (data : List UInt8) (end' : Nat) :
    Nat → List InstallMember → Nat → Reading (List InstallMember × Nat)
  | 0, seen, at' => pure (seen, at')
  | n + 1, seen, at' => do
      let (m, at') ← decodeMember allow memory data end' seen at'
      decodeMembers data end' n (seen ++ [m]) at'

/-- `decode` from the head on; the plan it leaves when the checks of the head fail has no members,
    but what the head says of the service. -/
def decodeBody (data : List UInt8) (end' : Nat) : Reading (Int × InstallPlan) := do
  let count ← getWord data 8
  let wasRunning ← getWord data 12
  if count = 0 ∨ count > installMembers ∨ wasRunning > 3 then
    pure (-1, { wasRunning, members := [] })
  else do
    let (members, at') ← decodeMembers allow memory data end' count [] 16
    Reading.check (decide (at' = end'))
    pure (0, { wasRunning, members })

/-- The result and the plan; none when a read leaves the file. -/
def decode (f : InstallFile) : Option (Int × InstallPlan) :=
  let empty : InstallPlan := { wasRunning := 0, members := [] }
  if f.kind ≠ 1 ∨ f.data.length < 80 ∨ f.data.length > journalLimit ∨
      f.data.take 8 ≠ journalMagic then some (-1, empty)
  else
    let end' := f.data.length - 64
    if digestText (f.data.take end') ≠ f.data.drop end' then some (-1, empty)
    else
      match decodeBody allow memory f.data end' with
      | .beyond => none
      | .fail => some (-1, empty)
      | .done result => some result

end FourVrs.Installer
