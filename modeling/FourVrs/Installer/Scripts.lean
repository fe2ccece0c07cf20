import FourVrs.Config.CText
import FourVrs.Installer.Files
import FourVrs.Lib.Lines
import FourVrs.Lib.Text
import Mathlib.Data.List.DropRight

/-!
# Vendor scripts (`installer/install_scripts.c`)

The installer rewrites scripts it finds on the gateway: the commands that bring the network up and
down in the vendor's start script. The output is written to a buffer of 32769 bytes that no write
checks; here a write that would leave it has no result.
-/

set_option autoImplicit false

namespace FourVrs.Installer

open Lib

/-- The checks of `text`. -/
def text (f : InstallFile) : Bool :=
  decide (f.kind = 1) && decide (10 ≤ f.data.length) && decide (f.data.length ≤ 16384) &&
    (decide (f.data.take 10 = Config.text "#!/bin/sh\n") ||
      decide (11 ≤ f.data.length) && decide (f.data.take 11 = Config.text "#! /bin/sh\n")) &&
    decide (f.data.getLast? = some 10) &&
    f.data.all fun b => decide (b ≠ 0) && decide (b ≠ 13) && decide (b ≤ 127)

/-- `memory`: whether `calloc` returns a buffer. -/
def allocate (memory : Bool) (f : InstallFile) : Bool := text f && memory

def bufferSize : Nat := 32769

/-- Bytes copied behind those written, unless they would leave the buffer. -/
def copy (out bytes : List UInt8) : Option (List UInt8) :=
  if out.length + bytes.length ≤ bufferSize then some (out ++ bytes) else none

/-! ## The start script -/

def downCommand : List UInt8 := Config.text "/sbin/ifdown -a"
def upCommand : List UInt8 := Config.text "/sbin/ifup -a"

def downReplacement : List UInt8 :=
  Config.text "/etc/4vrs-network/gateway-network-recovery --network-vendor-down || exit $?"

def upReplacement : List UInt8 :=
  Config.text "/etc/4vrs-network/gateway-network-recovery --network-vendor-up || exit $?"

/-- A line without its newline, `[first, end)`. -/
def lineText (line : List UInt8) : List UInt8 := line.takeWhile fun b => decide (b ≠ 10)

/-- `[first, start)`. -/
def lineIndent (line : List UInt8) : List UInt8 := (lineText line).takeWhile isBlank

/-- `[start, end)` when both have moved. -/
def lineBody (line : List UInt8) : List UInt8 :=
  ((lineText line).dropWhile isBlank).rdropWhile isBlank

/-- What the loop has written and counted. -/
structure VendorCopy where
  out : List UInt8
  up : Nat
  down : Nat
  deriving DecidableEq, Repr

/-- One pass of the loop, over a line with its newline. -/
def vendorPass (s : VendorCopy) (line : List UInt8) : Option VendorCopy := do
  let body := lineBody line
  let isDown := decide (body = downCommand)
  let isUp := decide (body = upCommand)
  let replace := if isUp then some upReplacement else if isDown then some downReplacement else none
  let up := if isUp then s.up + 1 else s.up
  let down := if isDown then s.down + 1 else s.down
  match replace with
  | some replace =>
      let out ← copy s.out (lineIndent line)
      let out ← copy out replace
      let out ← copy out (line.drop ((lineIndent line).length + body.length))
      pure { out, up, down }
  | none =>
      let out ← copy s.out line
      pure { out, up, down }

/-- `install_vendor_script`; no result when a write leaves the buffer. -/
def installVendorScript (memory : Bool) (f : InstallFile) : Option (Except Int InstallFile) :=
  if !allocate memory f then some (.error (-1))
  else
    match (splitLines 10 f.data).foldlM vendorPass { out := [], up := 0, down := 0 } with
    | none => none
    | some s =>
        if s.up ≠ 2 ∨ s.down ≠ 2 then some (.error (-1))
        else some (.ok { kind := 1, mode := f.mode, data := s.out })

end FourVrs.Installer
