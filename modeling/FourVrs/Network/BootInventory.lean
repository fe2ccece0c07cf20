import FourVrs.Lib.Prog
import FourVrs.Lib.Words
import FourVrs.Network.Document

/-!
# The vendor's interfaces at boot (`network/gateway_network_boot.c`)

The vendor's `interfaces` file names what is brought up and taken down at boot. The gateway brings
up what it does not own itself, one interface at a time: it reads the whole file, asks for each
name whether there is such an interface, and only then acts. What it asks and does are callbacks.
-/

set_option autoImplicit false

namespace FourVrs.Network

open Config Lib

/-! ## The callbacks -/

/-- Which callbacks there are. -/
structure BootOps where
  present : Bool
  action : Bool
  diagnostic : Bool
  loopback : Bool
  deriving DecidableEq, Repr

inductive BootCall where
  | present (name : CText)
  | action (name : CText) (up : Nat)
  | loopback (up : Nat)
  | diagnostic (name : CText) (what : String) (result : Int)
  deriving DecidableEq, Repr

/-- What a callback returns; nothing looks at what a diagnostic does. -/
abbrev BootProg (α : Type) : Type := Prog BootCall (fun _ => Int) α

/-! ## The names -/

def optionalVendorInterface : Platform → CText
  | .uc7420 => text "eth0"
  | .uc7420Plus => text "eth2"

def lan0Name (p : Platform) : CText := p.lanPrefix ++ text "0"
def lan1Name (p : Platform) : CText := p.lanPrefix ++ text "1"

/-- `isalnum` of the C locale. -/
def isAlnum (b : UInt8) : Bool :=
  isDigit b || (decide (65 ≤ b) && decide (b ≤ 90)) || (decide (97 ≤ b) && decide (b ≤ 122))

def nameByte (b : UInt8) : Bool :=
  isAlnum b || decide (b = ascii '_') || decide (b = ascii '.') || decide (b = ascii ':') ||
    decide (b = ascii '-')

def nameValid (word : CText) : Bool :=
  decide (word.length < 16) && (word.head?.any isAlnum) && word.all nameByte

/-! ## Reading the file -/

/-- The names so far, how many stanzas the optional interface has, and whether the last of them
    is a static one. -/
structure BootScan where
  names : List CText := []
  optionalStanzas : Nat := 0
  optionalStatic : Bool := false
  deriving DecidableEq, Repr

/-- One name of a line. -/
def takeName (p : Platform) (names : List CText) (word : CText) : Option (List CText) :=
  if !nameValid word then none
  else if word = lan0Name p ∨ word = lan1Name p then some names
  else if word ∈ names then some names
  else if names.length = 32 then none
  else some (names ++ [word])

/-- The loop over the words of a line; on an `iface` line it ends after the first. -/
def takeNames (p : Platform) (ifaceLine : Bool) : List CText → List CText → Option (List CText)
  | names, [] => some names
  | names, word :: rest =>
      if word.head? = some (ascii '#') then some names
      else
        match takeName p names word with
        | none => none
        | some names => if ifaceLine then some names else takeNames p ifaceLine names rest

/-- What an `iface` line says of the optional interface. -/
def takeStanza (p : Platform) (s : BootScan) (save : CText) : Option BootScan :=
  let fields := scanWords [31, 31, 31, 1] save
  match fields with
  | [] => none
  | name :: rest =>
      if name = optionalVendorInterface p then
        some { s with
          optionalStanzas := s.optionalStanzas + 1
          optionalStatic := decide (rest = [text "inet", text "static"]) }
      else some s

def refusedWords : List CText := [text "source", text "source-directory", text "mapping"]

/-- One line, without its end. -/
def scanLine (p : Platform) (up : Nat) (s : BootScan) (line : CText) : Option BootScan :=
  if line.length ≥ 513 then none
  else
    match strtok isBreak line with
    | none => some s
    | some (word, save) =>
        if word.head? = some (ascii '#') then some s
        else if word ∈ refusedWords then none
        else
          match if word = text "iface" then takeStanza p s save else some s with
          | none => none
          | some s =>
              if (if up = 1 then word ≠ text "auto" else word ≠ text "iface") then some s
              else
                (takeNames p (decide (word = text "iface")) s.names
                  (strtokFor isBreak save.length save)).map fun names => { s with names }

def bootLines (input : CText) : List CText := (splitLines 10 input).map lineText

def scanInventory (p : Platform) (up : Nat) (input : CText) : Option BootScan :=
  (bootLines input).foldlM (scanLine p up) {}

/-! ## Asking and acting -/

/-- Whether each interface is there; none when an answer is neither yes nor no. -/
def askPresent (ops : BootOps) : List CText → BootProg (Option (List (CText × Int)))
  | [] => pure (some [])
  | name :: rest => do
      let r ← if ops.present then Prog.lift (.present name) else pure 1
      if r < 0 ∨ r > 1 then do
        if ops.diagnostic then
          let _ ← Prog.lift (.diagnostic name "inventory" r)
          pure none
        else pure none
      else do
        let asked ← askPresent ops rest
        pure (asked.map fun asked => (name, r) :: asked)

def bootStaticOnce (s : BootScan) : Bool := decide (s.optionalStanzas = 1) && s.optionalStatic

/-- One pass of the last loop: what it adds to the result. -/
def actOn (p : Platform) (ops : BootOps) (up : Nat) (s : BootScan) (name : CText) (present : Int) :
    BootProg Int :=
  if present = 0 then do
    let r : Int := if name = optionalVendorInterface p ∧ bootStaticOnce s = true then 0 else -1
    if ops.diagnostic then
      let _ ← Prog.lift (.diagnostic name (if r ≠ 0 then "missing-required" else "deferred-absent") r)
      pure r
    else pure r
  else do
    let r ← if ops.loopback ∧ name = text "lo" then Prog.lift (.loopback up)
      else Prog.lift (.action name up)
    if ops.diagnostic then
      let _ ← Prog.lift (.diagnostic name (if up = 1 then "ifup" else "ifdown") r)
      pure r
    else pure r

def actAll (p : Platform) (ops : BootOps) (up : Nat) (s : BootScan) :
    List (CText × Int) → Int → BootProg Int
  | [], result => pure result
  | (name, present) :: rest, result => do
      let r ← actOn p ops up s name present
      actAll p ops up s rest (if r ≠ 0 then -1 else result)

/-- `gateway_network_unowned_checked`, with a text and callbacks that are not null. -/
def gatewayNetworkUnownedChecked (p : Platform) (ops : BootOps) (input : CText) (up : Nat) :
    BootProg Int :=
  if ops.action = false ∨ up > 1 ∨ input.length > networkFileMax ∨ 0 ∈ input then pure (-1)
  else
    match scanInventory p up input with
    | none => pure (-1)
    | some s => do
        match ← askPresent ops s.names with
        | none => pure (-1)
        | some asked => actAll p ops up s asked 0

end FourVrs.Network
