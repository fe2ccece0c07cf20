import Mathlib.Tactic.Common

/-!
# Files as the installer holds them (`installer/install_files.h`)

A file, a symbolic link or the absence of either, read whole.
-/

set_option autoImplicit false

namespace FourVrs.Installer

def installFileLimit : Nat := 8 * 1024 * 1024
def installPathLimit : Nat := 240

/-- `install_file_t`: kind 0 is absent, 1 a regular file, 2 a symbolic link; the size is that of
    the data. -/
structure InstallFile where
  kind : Nat
  mode : Nat
  data : List UInt8
  deriving DecidableEq, Repr

/-- `valid_file` of `installer/install_transaction.c`. -/
def validFile (f : InstallFile) : Bool :=
  decide (f.kind ≤ 2) && decide (f.data.length ≤ installFileLimit) && decide (f.mode ≤ 0o777) &&
    (decide (f.kind ≠ 0) || decide (f.data = []) && decide (f.mode = 0)) &&
    (decide (f.kind ≠ 1) || decide (f.mode &&& 0o22 = 0)) &&
    (decide (f.kind ≠ 2) || decide (f.data ≠ []) && decide (f.data.length ≤ installPathLimit) &&
      decide (0 ∉ f.data))

end FourVrs.Installer
