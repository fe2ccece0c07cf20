import FourVrs.Config.CText
import FourVrs.Lib.Bytes
import FourVrs.Lib.Directory
import FourVrs.Lib.Prog

/-!
# The network store (`network/gateway_network_store.c`)

The network profile in force, the one before it and the candidate are files of one
directory, each a length, a checksum and a payload. The functions of the store are
programs over the system calls that matter to the directory; a run of calls that
changes no name is one call here. `StoreStep` says what the calls may do. Every one
of them may fail.

The directory's path is short enough for `path`, and the caller holds the lock.
-/

set_option autoImplicit false

namespace FourVrs.Network

open Lib Config

inductive StoreFile where
  | confirmed | good | candidate | commitGuard | writeTmp
  deriving DecidableEq, Repr

/-- `gateway_network_store_result_t`. -/
inductive StoreResult where
  | ok | absent | invalid | io | uncertain
  deriving DecidableEq, Repr

def snapshotMax : Nat := 32768
def headerSize : Nat := 16

def snapshotMagic : List UInt8 := text "4VRSNET1"

/-! ## The file format -/

def encodeRecord (data : List UInt8) : List UInt8 :=
  snapshotMagic ++ (put32 data.length ++ (put32 (crc32 data).toNat ++ data))

/-- The payload, if the file passes all checks of `gateway_network_store_read`. -/
def decodeRecord (capacity : Nat) (file : List UInt8) : Option (List UInt8) :=
  let n := get32 (file.drop 8)
  let data := (file.drop headerSize).take n
  if file.length < headerSize ∨ file.take 8 ≠ snapshotMagic then none
  else if n = 0 ∨ n > snapshotMax ∨ n > capacity then none
  else if file.length ≠ headerSize + n ∨ get32 (file.drop 12) ≠ (crc32 data).toNat then none
  else some data

theorem decodeRecord_encodeRecord {data : List UInt8} (hne : data.length ≠ 0)
    (hmax : data.length ≤ snapshotMax) {capacity : Nat} (hcapacity : data.length ≤ capacity) :
    decodeRecord capacity (encodeRecord data) = some data := by
  have hword : data.length < 2 ^ 32 := lt_of_le_of_lt hmax (by decide)
  have hmagic : snapshotMagic.length = 8 := rfl
  have hn : get32 ((encodeRecord data).drop 8) = data.length := by
    rw [encodeRecord, List.drop_left' hmagic]
    exact get32_append hword _
  have hcrc : get32 ((encodeRecord data).drop 12) = (crc32 data).toNat := by
    rw [encodeRecord, ← List.append_assoc, List.drop_left' (by simp [hmagic])]
    exact get32_append (crc32 data).isLt _
  have hdata : (encodeRecord data).drop headerSize = data := by
    rw [encodeRecord, ← List.append_assoc, ← List.append_assoc,
      List.drop_left' (by simp [hmagic, headerSize])]
  have hlength : (encodeRecord data).length = headerSize + data.length := by
    simp [encodeRecord, hmagic, headerSize]
    omega
  unfold decodeRecord
  simp only [hn, hcrc, hdata, hlength, List.take_length]
  rw [if_neg (by simp [encodeRecord, List.take_left' hmagic]), if_neg (by omega), if_neg (by simp)]

theorem length_of_decodeRecord {capacity : Nat} {file data : List UInt8}
    (h : decodeRecord capacity file = some data) :
    data.length ≠ 0 ∧ data.length ≤ snapshotMax ∧ data.length ≤ capacity := by
  simp only [decodeRecord] at h
  split at h
  · exact absurd h (by simp)
  split at h
  · exact absurd h (by simp)
  split at h
  · exact absurd h (by simp)
  · rename_i hsize hbody
    rw [not_or, not_not] at hbody
    have hlength : data.length = get32 (file.drop 8) := by
      rw [← Option.some.inj h, List.length_take, List.length_drop, hbody.1]
      omega
    omega

/-! ## The system calls -/

inductive Presence where
  | present | absent | failed
  deriving DecidableEq, Repr

/-- What `unlink` returns; `absent` is `ENOENT`. -/
inductive UnlinkResult where
  | ok | absent | failed
  deriving DecidableEq, Repr

inductive StoreCall where
  | lstat (name : StoreFile)
  /-- `regular_open` for reading. -/
  | openRead (name : StoreFile)
  /-- All that is read from an open file. -/
  | transferIn (name : StoreFile)
  | close (name : StoreFile)
  /-- `write.tmp` opened, written, synchronised and closed. -/
  | fill (file : List UInt8)
  /-- `write.tmp` renamed. -/
  | rename (name : StoreFile)
  | unlink (name : StoreFile)
  | syncDirectory
  deriving DecidableEq, Repr

abbrev StoreCall.Result : StoreCall → Type
  | .lstat _ => Presence
  | .transferIn _ => Option (List UInt8)
  | .unlink _ => UnlinkResult
  | .openRead _ | .close _ | .fill _ | .rename _ | .syncDirectory => Bool

abbrev StoreProg (α : Type) : Type := Prog StoreCall StoreCall.Result α

abbrev StoreDirectory : Type := Directory StoreFile (List UInt8)

def lstat (name : StoreFile) : StoreProg Presence := .lift (StoreCall.lstat name)
def openRead (name : StoreFile) : StoreProg Bool := .lift (StoreCall.openRead name)
def transferIn (name : StoreFile) : StoreProg (Option (List UInt8)) := .lift (StoreCall.transferIn name)
def close (name : StoreFile) : StoreProg Bool := .lift (StoreCall.close name)
def fill (file : List UInt8) : StoreProg Bool := .lift (StoreCall.fill file)
def rename (name : StoreFile) : StoreProg Bool := .lift (StoreCall.rename name)
def unlink (name : StoreFile) : StoreProg UnlinkResult := .lift (StoreCall.unlink name)
def syncDirectory : StoreProg Bool := .lift StoreCall.syncDirectory

/-- The change a successful rename makes. -/
def publish (name : StoreFile) (file : List UInt8) : Change StoreFile (List UInt8) :=
  [(name, some file), (.writeTmp, none)]

/-- What a call may return and do to the directory. A failed write leaves anything in
    `write.tmp`; what a failed synchronisation has written, a crash may still keep. -/
def StoreStep : (call : StoreCall) → StoreDirectory → call.Result → StoreDirectory → Prop
  | .lstat name, d, r, d' =>
      d' = d ∧ (r = .failed ∨ r = if d.view name = none then .absent else .present)
  | .openRead name, d, r, d' => d' = d ∧ (r = true → d.view name ≠ none)
  | .transferIn name, d, r, d' => d' = d ∧ (r = none ∨ r = d.view name)
  | .close _, d, _, d' => d' = d
  | .fill file, d, r, d' =>
      r = true ∧ d' = d.change [(.writeTmp, some file)] ∨
        r = false ∧ (d' = d ∨ ∃ junk, d' = d.change [(.writeTmp, some junk)])
  | .rename name, d, r, d' =>
      (∃ file, d.view .writeTmp = some file ∧ r = true ∧ d' = d.change (publish name file)) ∨
        r = false ∧ d' = d
  | .unlink name, d, r, d' =>
      r = .ok ∧ d.view name ≠ none ∧ d' = d.change [(name, none)] ∨
        r = .absent ∧ d.view name = none ∧ d' = d ∨ r = .failed ∧ d' = d
  | .syncDirectory, d, r, d' => r = true ∧ d' = d.sync ∨ r = false ∧ d' = d

/-- The result says that the call has failed. -/
def StoreCall.failed : (call : StoreCall) → call.Result → Bool
  | .lstat _, r => decide (r = .failed)
  | .transferIn _, r => decide (r = none)
  | .unlink _, r => decide (r = .failed)
  | .openRead _, r | .close _, r | .fill _, r | .rename _, r | .syncDirectory, r => !r

/-- The file a call reads. -/
def StoreCall.reads : StoreCall → Option StoreFile
  | .lstat name | .openRead name | .transferIn name | .close name => some name
  | .fill _ | .rename _ | .unlink _ | .syncDirectory => none

/-- Which of the results `StoreStep` leaves open are allowed. -/
abbrev StoreFaults : Type := (call : StoreCall) → StoreDirectory → call.Result → Prop

def storeWorld (allowed : StoreFaults) : Prog.World StoreCall StoreCall.Result StoreDirectory :=
  fun call d r d' => StoreStep call d r d' ∧ allowed call d r

/-! ## The functions of the store -/

/-- `gateway_network_store_read`; the data is empty unless the result is `ok`. -/
def storeRead (name : StoreFile) (capacity : Nat) : StoreProg (StoreResult × List UInt8) := do
  match ← lstat name with
  | .absent => pure (.absent, [])
  | .failed => pure (.io, [])
  | .present =>
    if !(← openRead name) then pure (.io, [])
    else
      match (← transferIn name).bind (decodeRecord capacity) with
      | none => pure (.invalid, [])
      | some data => if !(← close name) then pure (.io, []) else pure (.ok, data)

/-- `gateway_network_store_write`. -/
def storeWrite (name : StoreFile) (data : List UInt8) : StoreProg StoreResult := do
  if data.length = 0 ∨ data.length > snapshotMax ∨ name = .writeTmp then pure .invalid
  else if !(← fill (encodeRecord data)) then pure .io
  else if !(← rename name) then pure .io
  else if !(← syncDirectory) then pure .uncertain
  else pure .ok

/-- `gateway_network_store_boot`. -/
def storeBoot (capacity : Nat) : StoreProg (StoreResult × List UInt8) := do
  let guarded ← storeRead .commitGuard capacity
  if guarded.1 ≠ .absent then pure guarded
  else
    let confirmed ← storeRead .confirmed capacity
    if confirmed.1 = .ok then pure confirmed
    else storeRead .good capacity

/-- `gateway_network_store_discard`. -/
def storeDiscard : StoreProg StoreResult := do
  if (← unlink .candidate) = .failed then pure .io
  else if !(← syncDirectory) then pure .uncertain
  else pure .ok

/-- The end of `gateway_network_store_confirm`: remove the guard, or put it back. -/
def releaseGuard (current : List UInt8) : StoreProg StoreResult := do
  if (← unlink .commitGuard) ≠ .ok then pure .io
  else if !(← syncDirectory) then do
    let _ ← storeWrite .commitGuard current
    pure .uncertain
  else pure .ok

/-- The calls of `gateway_network_store_confirm` under the guard. -/
def replaceConfirmed (current candidate : List UInt8) : StoreProg StoreResult := do
  let confirmed ← storeWrite .confirmed candidate
  if confirmed ≠ .ok then pure confirmed
  else
    let discarded ← storeDiscard
    if discarded ≠ .ok then pure discarded
    else releaseGuard current

/-- The calls of `gateway_network_store_confirm` once both profiles are known. -/
def publishCandidate (current candidate : List UInt8) : StoreProg StoreResult := do
  let guarded ← storeWrite .commitGuard current
  if guarded ≠ .ok then pure guarded
  else
    let good ← storeWrite .good current
    if good ≠ .ok then pure good
    else replaceConfirmed current candidate

/-- `gateway_network_store_confirm`. -/
def storeConfirm : StoreProg StoreResult := do
  let current ← storeBoot snapshotMax
  if current.1 ≠ .ok then pure current.1
  else
    let candidate ← storeRead .candidate snapshotMax
    if candidate.1 ≠ .ok then pure candidate.1
    else publishCandidate current.2 candidate.2

/-- `gateway_network_store_abort_commit`. -/
def storeAbortCommit : StoreProg StoreResult := do
  let old ← storeRead .commitGuard snapshotMax
  if old.1 = .absent then pure .ok
  else if old.1 ≠ .ok then pure old.1
  else
    let confirmed ← storeWrite .confirmed old.2
    if confirmed ≠ .ok then pure confirmed
    else if (← unlink .commitGuard) ≠ .ok then pure .io
    else if !(← syncDirectory) then pure .uncertain
    else pure .ok

end FourVrs.Network
