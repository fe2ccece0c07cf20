import FourVrs.Config.Codec
import FourVrs.Lib.Directory
import FourVrs.Lib.Prog

/-!
# The files of the configuration (`config/gateway_persistence.c`)

The configuration in force, the one before it and the one that is being saved are files of one
directory. A new one is staged; promoting it renames the old one to the backup and the new one to
the name in force. A start takes the one in force, or else the backup. Opening, transferring and closing a
file are one call here, as they change no other name. Every call may fail.

The directory's path is short enough for `path_join`.
-/

set_option autoImplicit false

namespace FourVrs.Config

open Lib

/-- `gateway.conf`, `gateway.conf.good` and `gateway.conf.tmp`. -/
inductive ConfigFile where
  | active | backup | staged
  deriving DecidableEq, Repr

/-- What `fopen` and `fread` make of a file. -/
inductive FileRead where
  | absent
  | failed
  | read (bytes : List UInt8)

inductive ConfigCall where
  | load (name : ConfigFile)
  /-- The staged file opened, written, flushed, synchronised and closed. -/
  | fill (bytes : List UInt8)
  | rename (old new : ConfigFile)
  | unlink (name : ConfigFile)
  | syncDirectory

@[reducible] def ConfigCall.Result : ConfigCall → Type
  | .load _ => FileRead
  | .fill _ | .rename _ _ | .unlink _ | .syncDirectory => Bool

abbrev ConfigProg (α : Type) : Type := Prog ConfigCall ConfigCall.Result α

def configCall (call : ConfigCall) : ConfigProg call.Result := Prog.lift call

/-! ## The functions -/

/-- `gateway_config_load_file`, from what is read. -/
def loaded (longMax : Nat) : FileRead → Except GatewayConfigResult GatewayPersistentConfig
  | .absent => .error .absent
  | .failed => .error .ioError
  | .read bytes =>
      if bytes.length > gatewayConfigMaxBytes then .error .invalid else gatewayConfigDecode longMax bytes

/-- `gateway_config_startup_select`. -/
def gatewayConfigStartupSelect (longMax : Nat) :
    ConfigProg (GatewayConfigResult × GatewayPersistentConfig × GatewayConfigSource) := do
  match loaded longMax (← configCall (.load .active)) with
  | .ok c => pure (.ok, c, .active)
  | .error ar =>
    match loaded longMax (← configCall (.load .backup)) with
    | .ok c => pure (.ok, c, .backup)
    | .error br =>
      if ar = .absent ∧ br = .absent then pure (.absent, gatewayPersistentDefaults, .defaults)
      else if ar = .ioError ∨ br = .ioError then pure (.ioError, gatewayPersistentSafeMode, .safeMode)
      else if ar = .unsupportedVersion then pure (ar, gatewayPersistentSafeMode, .safeMode)
      else pure (.invalid, gatewayPersistentSafeMode, .safeMode)

/-- `gateway_config_stage`. -/
def gatewayConfigStage (c : GatewayPersistentConfig) : ConfigProg GatewayConfigResult :=
  match gatewayConfigEncode c gatewayConfigMaxBytes with
  | .error r => pure r
  | .ok bytes => do
    if ← configCall (.fill bytes) then pure .ok else pure .ioError

/-- The end of `gateway_config_promote`. -/
def publishStaged : ConfigProg GatewayConfigResult := do
  if !(← configCall (.rename .staged .active)) then pure .ioError
  else if !(← configCall .syncDirectory) then pure .durabilityUncertain
  else pure .ok

/-- `gateway_config_promote`. -/
def gatewayConfigPromote (longMax : Nat) : ConfigProg GatewayConfigResult := do
  match loaded longMax (← configCall (.load .staged)) with
  | .error _ => pure .invalid
  | .ok staged =>
    match loaded longMax (← configCall (.load .active)) with
    | .error _ => publishStaged
    | .ok active =>
      if active = staged then do
        let _ ← configCall (.unlink .staged)
        pure .unchanged
      else if !(← configCall (.rename .active .backup)) then pure .ioError
      else publishStaged

/-- `gateway_config_discard_staged`. -/
def gatewayConfigDiscardStaged : ConfigProg Unit := do
  let _ ← configCall (.unlink .staged)
  pure ()

/-! ## The directory -/

abbrev ConfigDirectory : Type := Directory ConfigFile (List UInt8)

abbrev ConfigNames : Type := ConfigFile → Option (List UInt8)

def onDisk : Option (List UInt8) → FileRead
  | none => .absent
  | some bytes => .read bytes

/-- What a call may return and do. A failed write leaves anything in the staged file. -/
def configWorld : Prog.World ConfigCall ConfigCall.Result ConfigDirectory
  | .load name, d, r, d' => d' = d ∧ (r = .failed ∨ r = onDisk (d.view name))
  | .fill bytes, d, r, d' =>
      r = true ∧ d' = d.change [(.staged, some bytes)] ∨
        r = false ∧ (d' = d ∨ ∃ junk, d' = d.change [(.staged, some junk)])
  | .rename old new, d, r, d' =>
      (∃ bytes, d.view old = some bytes ∧ r = true ∧ d' = d.change [(new, some bytes), (old, none)]) ∨
        r = false ∧ d' = d
  | .unlink name, d, r, d' => r = true ∧ d' = d.change [(name, none)] ∨ r = false ∧ d' = d
  | .syncDirectory, d, r, d' => r = true ∧ d' = d.sync ∨ r = false ∧ d' = d

/-- A start in which no read fails. -/
def selected (longMax : Nat) (m : ConfigNames) :
    GatewayConfigResult × GatewayPersistentConfig × GatewayConfigSource :=
  ((gatewayConfigStartupSelect longMax).eval
    (fun call m => match call with
      | .load name => (onDisk (m name), m)
      | .fill _ | .rename _ _ | .unlink _ | .syncDirectory => (false, m)) m).1

end FourVrs.Config
