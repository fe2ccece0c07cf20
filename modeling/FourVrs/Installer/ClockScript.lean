import FourVrs.Installer.Scripts
import FourVrs.Lib.Text

/-!
# The scripts that set the clock (`installer/install_scripts.c`)

Two vendor scripts write the clock: one sets it from a server when the system starts, one saves it
when the system halts. The installer puts a guard into each, or accepts a script that has one. A
pointer into the text is an offset, and the script is read line by line from there. The output
buffer holds any text the checks let pass and one replacement.
-/

set_option autoImplicit false

namespace FourVrs.Installer

open Lib

/-! ## The texts -/

def clockMarker : List UInt8 := Config.text "/etc/4vrs-clock-managed"

/-- What is replaced. -/
def clockNeedle (halt : Bool) : List UInt8 :=
  if halt then Config.text "hwclock --systohc\n" else Config.text "start)\n"

def clockReplacement (halt : Bool) : List UInt8 :=
  if halt then
    Config.text "if test ! -e /etc/4vrs-clock-managed; then\n  hwclock --systohc\nfi\n"
  else Config.text "start)\n  test ! -e /etc/4vrs-clock-managed || exit 0\n"

def clockGuard (halt : Bool) : List UInt8 :=
  if halt then
    Config.text "if test ! -e /etc/4vrs-clock-managed; then\n  hwclock --systohc\nfi\n"
  else Config.text "test ! -e /etc/4vrs-clock-managed || exit 0\n"

def historicalGuard (halt : Bool) : List UInt8 :=
  if halt then
    Config.text "if ! test -f /etc/4vrs-clock-managed; then\n    hwclock --systohc\nfi\n"
  else Config.text "test -f /etc/4vrs-clock-managed && exit 0\n"

def saveCommand : List UInt8 := Config.text "hwclock --systohc"

def clockWriter (halt : Bool) : List UInt8 :=
  if halt then Config.text "hwclock" else Config.text "ntpdate"

def ntpdateTest : List UInt8 := Config.text "test -f /usr/sbin/ntpdate || exit 0"
def haltPath : List UInt8 := Config.text "PATH=/sbin:/bin:/usr/sbin:/usr/bin"

/-- `strstr` from an offset. -/
def strstr (s : List UInt8) (start : Nat) (needle : List UInt8) : Option Nat :=
  (findText needle (s.drop start)).map fun found => start + found.1.length

/-! ## Where a guard stands -/

/-- `[q, e)` of a line. -/
def lineRest (line : List UInt8) : List UInt8 := (lineText line).dropWhile isBlank

def isComment (rest : List UInt8) : Bool := decide (rest.head? = some 35)

def isEnded (line : List UInt8) : Bool := decide (line.getLast? = some 10)

def preambleLine (halt : Bool) (line : List UInt8) : Bool :=
  decide (lineRest line = []) || isComment (lineRest line) || halt && decide (lineRest line = haltPath)

/-- The loop of `preamble`, from the line at `p`. -/
def preambleFrom (halt : Bool) (stop : Nat) : Nat → List (List UInt8) → Bool
  | p, [] => decide (p = stop)
  | p, line :: rest =>
      if p < stop then
        isEnded line && decide (p + (lineText line).length < stop) && preambleLine halt line &&
          preambleFrom halt stop (p + line.length) rest
      else decide (p = stop)

def preamble (s : List UInt8) (stop : Nat) (halt : Bool) : Bool :=
  match splitLines 10 s with
  | [] => false
  | first :: rest => isEnded first && preambleFrom halt stop first.length rest

def pathByte (b : UInt8) : Bool :=
  (decide (97 ≤ b) && decide (b ≤ 122)) || (decide (65 ≤ b) && decide (b ≤ 90)) ||
    (decide (48 ≤ b) && decide (b ≤ 57)) || decide (b ∈ Config.text "/_:-.")

def caseLines : List (List UInt8) := [Config.text "case $1 in", Config.text "case \"$1\" in"]
def startLabel : List UInt8 := Config.text "start)"

/-- One line before the guard of `start_guard`: 0 before the `case`, 1 behind it, 2 in its first
    branch. -/
def startStep (state : Nat) (body : List UInt8) : Option Nat :=
  if body = [] ∨ isComment body = true then some state
  else if state = 0 then
    if body ∈ caseLines then some 1
    else if body = ntpdateTest then some 0
    else if 5 < body.length ∧ Config.text "PATH=" <+: body then
      if (body.drop 5).all pathByte then some 0 else none
    else none
  else if state = 1 ∧ body = startLabel then some 2
  else none

/-- The loop of `start_guard`, from the line at `p`. -/
def startGuardFrom (guard : Nat) : Nat → Nat → List (List UInt8) → Bool
  | _, _, [] => false
  | state, p, line :: rest =>
      if p < guard then
        if isEnded line = false then false
        else if p + (lineIndent line).length = guard then decide (state = 2)
        else if p + (lineText line).length ≥ guard then false
        else
          match startStep state (lineBody line) with
          | none => false
          | some state => startGuardFrom guard state (p + line.length) rest
      else false

def startGuard (s : List UInt8) (guard : Nat) : Bool :=
  match splitLines 10 s with
  | [] => false
  | first :: rest => isEnded first && startGuardFrom guard 0 first.length rest

/-! ## What writes the clock -/

/-- The option of `echo` that `literal_echo` knows. -/
def skipOption (words : List UInt8) : List UInt8 :=
  if 3 < words.length ∧ Config.text "-n " <+: words then (words.drop 3).dropWhile isBlank else words

/-- `literal_echo`: a quoted message, and nothing that the shell would expand in it. -/
def literalEcho (rest : List UInt8) : Bool :=
  if rest.length < 7 ∨ ¬ Config.text "echo " <+: rest then false
  else
    match skipOption ((rest.drop 5).dropWhile isBlank) with
    | [] => false
    | quote :: behind =>
        if quote ≠ 34 ∧ quote ≠ 39 then false
        else if (behind.takeWhile fun b => decide (b ≠ quote)).any
            (fun b => decide (b = 36) || decide (b = 96) || decide (b = 92)) then false
        else
          match behind.dropWhile fun b => decide (b ≠ quote) with
          | [] => false
          | _ :: behind => decide (behind.dropWhile isBlank = [])

/-- One line of `writers`, at `p`; `limit` is where the branch ends. -/
def writersLine (s : List UInt8) (guard length : Nat) (halt top : Bool) (limit : Option Nat)
    (p : Nat) (line : List UInt8) : Bool :=
  if lineRest line = [] ∨ isComment (lineRest line) = true ∨ literalEcho (lineRest line) = true then true
  else
    match strstr s (p + (lineIndent line).length) (clockWriter halt) with
    | none => true
    | some w =>
        if w < p + (lineText line).length ∧ ¬ (halt = false ∧ lineRest line = ntpdateTest) then
          if halt then decide (guard ≤ w ∧ w < guard + length)
          else decide (guard + length ≤ w) && (top || limit.any fun limit => decide (w < limit))
        else true

def writersFrom (s : List UInt8) (guard length : Nat) (halt top : Bool) (limit : Option Nat) :
    Nat → List (List UInt8) → Bool
  | _, [] => true
  | p, line :: rest =>
      isEnded line && writersLine s guard length halt top limit p line &&
        writersFrom s guard length halt top limit (p + line.length) rest

def writers (s : List UInt8) (guard length : Nat) (halt top : Bool) : Bool :=
  writersFrom s guard length halt top
    (if top then none else strstr s (guard + length) (Config.text ";;")) 0 (splitLines 10 s)

/-! ## The guard -/

/-- The guard and where it stands, in the spelling that is looked for first. -/
def findGuard (s : List UInt8) (halt : Bool) : Option (Nat × List UInt8) :=
  match strstr s 0 (clockGuard halt) with
  | some found => some (found, clockGuard halt)
  | none => (strstr s 0 (historicalGuard halt)).map fun found => (found, historicalGuard halt)

/-- A text that stands in the guard stands nowhere else. -/
def onlyIn (s : List UInt8) (found length : Nat) (needle : List UInt8) : Bool :=
  (strstr s (found + length) needle).isNone && decide (strstr s 0 needle = strstr s found needle)

/-- The checks of a script that has the marker, with the error of the first that fails. -/
def acceptClock (s : List UInt8) (halt : Bool) : Except Int Unit :=
  match findGuard s halt with
  | none => .error (-2)
  | some (found, guard) =>
      if onlyIn s found guard.length clockMarker = false then .error (-2)
      else if halt = true ∧ onlyIn s found guard.length saveCommand = false then .error (-2)
      else if preamble s found halt = false ∧ (halt = true ∨ startGuard s found = false) then .error (-3)
      else if writers s found guard.length halt (preamble s found halt) = false then .error (-4)
      else .ok ()

/-- `install_clock_script` in as many calls; `memory` says whether `calloc` returns a buffer. -/
def installClockScriptIn (memory : Nat → Bool) (halt : Bool) :
    Nat → InstallFile → Option (Except Int InstallFile)
  | 0, _ => none
  | calls + 1, f =>
      if allocate (memory calls) f = false then some (.error (-1))
      else if (strstr f.data 0 clockMarker).isSome then
        some ((acceptClock f.data halt).map fun _ => { kind := 1, mode := f.mode, data := f.data })
      else
        match strstr f.data 0 (clockNeedle halt) with
        | none => some (.error (-2))
        | some found =>
            let behind := found + (clockNeedle halt).length
            if (strstr f.data behind (clockNeedle halt)).isSome then some (.error (-2))
            else
              let out : InstallFile :=
                { kind := 1
                  mode := f.mode
                  data := f.data.take found ++ clockReplacement halt ++ f.data.drop behind }
              (installClockScriptIn memory halt calls out).map fun checked => checked.map fun _ => out

/-- `install_clock_script`: it calls itself on what it has written, and that call is the last. -/
def installClockScript (memory : Nat → Bool) (halt : Bool) (f : InstallFile) :
    Option (Except Int InstallFile) :=
  installClockScriptIn memory halt 2 f

end FourVrs.Installer
