import FourVrs.Network.RawSerial

/-!
# Watching a raw serial line

`RawMonitor` stands outside the listener, between its system calls and the world. It has
the input queue of the UART, in which every byte carries its place in the order of
arrival, and one record for each ownership: what came from the owner, what went to the
UART, what the UART delivered and what was passed on. `Isolated` is what a record has to
satisfy, at every call of every step.

A datagram that does not fit into what is free of the transmit buffer is dropped whole:
`kept` lists the ones that do.
-/

set_option autoImplicit false

namespace FourVrs.Network

open FourVrs.Core Lib

/-! ## The observer -/

/-- A byte the UART has received, after `index` others. -/
structure UartByte where
  index : Nat
  value : UInt8
  deriving DecidableEq, Repr

structure Ownership where
  owner : RawOwner
  /-- Nobody owned the line before. -/
  first : Bool
  acquiredAt : Nat
  /-- The last flush since the last ownership. -/
  flushedAt : Option Nat
  /-- The last time the UART delivered a byte before. -/
  readBefore : Option Nat
  /-- How many bytes had arrived when the step last found the UART's input empty. -/
  drained : Option Nat
  /-- How many bytes had arrived when the owner was acquired. -/
  arrivedBefore : Nat
  received : List (List UInt8) := []
  kept : List (List UInt8) := []
  written : List UInt8 := []
  read : List UartByte := []
  sent : List UInt8 := []

/-- A stream is flow controlled; a datagram has to fit. -/
def Ownership.fits (w : Ownership) (data : List UInt8) : Bool :=
  match w.owner with
  | .connection _ => true
  | .peer _ => decide (data.length ≤ rawBufferSize - (w.kept.flatten.length - w.written.length))

def Ownership.receive (w : Ownership) (data : List UInt8) : Ownership :=
  { w with
    received := w.received ++ [data]
    kept := if w.fits data then w.kept ++ [data] else w.kept }

structure RawMonitor where
  arrived : Nat := 0
  input : List UartByte := []
  drained : Option Nat := none
  flushedAt : Option Nat := none
  readAt : Option Nat := none
  /-- The last datagram. -/
  datagram : Option (Peer × List UInt8) := none
  current : Option Ownership := none
  past : List Ownership := []
  /-- Bytes were exchanged with somebody who is not the owner. -/
  misrouted : Bool := false

/-- Bytes arrive at the UART. -/
def RawMonitor.arrive (m : RawMonitor) (bytes : List UInt8) : RawMonitor :=
  { m with
    arrived := m.arrived + bytes.length
    input := m.input ++ bytes.mapIdx fun i value => { index := m.arrived + i, value } }

/-- Bytes are exchanged with the owner, who is `who` if that is known. -/
def RawMonitor.note (m : RawMonitor) (who : Option RawOwner) (f : Ownership → Ownership) : RawMonitor :=
  match m.current with
  | none => { m with misrouted := true }
  | some w =>
      if who = none ∨ who = some w.owner then { m with current := some (f w) }
      else { m with misrouted := true }

def RawMonitor.blank (m : RawMonitor) (now : Nat) (owner : RawOwner) : Ownership :=
  { owner, first := m.past.isEmpty, acquiredAt := now, flushedAt := m.flushedAt, readBefore := m.readAt,
    drained := m.drained, arrivedBefore := m.arrived }

/-- A new ownership; the one a datagram begins has received it. -/
def RawMonitor.begins (m : RawMonitor) (now : Nat) (owner : RawOwner) : Ownership :=
  match m.datagram with
  | some (sender, data) =>
      if owner = .peer sender then (m.blank now owner).receive data else m.blank now owner
  | none => m.blank now owner

def RawMonitor.see (now : Nat) (m : RawMonitor) : (call : RawCall) → call.Result → RawMonitor
  | .flush, flushed => if flushed then { m with input := [], flushedAt := some now } else m
  | .read _, .bytes data =>
      { m with
        input := m.input.drop data.length
        readAt := some now
        current := m.current.map fun w => { w with read := w.read ++ m.input.take data.length } }
  | .read _, .empty => { m with drained := some m.arrived }
  | .write data, .count n => m.note none fun w => { w with written := w.written ++ data.take n }
  | .send fd data, .count n =>
      m.note (some (.connection fd)) fun w => { w with sent := w.sent ++ data.take n }
  | .sendto peer data, .count n =>
      m.note (some (.peer peer)) fun w => { w with sent := w.sent ++ data.take n }
  | .recv fd _, .bytes data => m.note (some (.connection fd)) fun w => w.receive data
  | .recvfrom, some (data, some sender) =>
      { m with
        datagram := some (sender, data)
        current := m.current.map fun w => if w.owner = .peer sender then w.receive data else w }
  | .acquired owner, _ =>
      { m with past := m.past ++ m.current.toList, current := some (m.begins now owner) }
  | .released, _ => { m with past := m.past ++ m.current.toList, current := none, flushedAt := none }
  | _, _ => m

/-- What the calls may return. -/
def RawMonitor.Allows (m : RawMonitor) : (call : RawCall) → call.Result → Prop
  | .read capacity, .bytes data =>
      data ≠ [] ∧ data.length ≤ capacity ∧ data = (m.input.take data.length).map (·.value)
  | .read _, .empty => m.input = []
  | .recv _ capacity, .bytes data => data ≠ [] ∧ data.length ≤ capacity
  | .write data, .count n | .send _ data, .count n | .sendto _ data, .count n => n ≤ data.length
  | _, _ => True

/-- Before any call, bytes may have arrived at the UART. -/
def rawWorld (now : Nat) : Prog.World RawCall RawCall.Result RawMonitor :=
  fun call m r m' => ∃ bytes, (m.arrive bytes).Allows call r ∧ m' = (m.arrive bytes).see now call r

/-- The listener from its start, after a step or, without a state, at a call of one. Between
    the steps the port and the UART do as they please, and input may be lost. -/
inductive RawRun {σ κ : Type} (udp : Bool) : Option (RawListener σ κ) → RawMonitor → Nat → Prop where
  | init (port : PortRuntime σ κ) (uartOpen : Bool) (now : Nat) :
      RawRun udp (some { rawInit port uartOpen udp with opened := true }) {} now
  | step {l : RawListener σ κ} {o : Option (RawListener σ κ)} {m m' : RawMonitor} {t : Nat} (now : Nat)
      (port : PortRuntime σ κ) (uartOpen : Bool) (input : List UartByte)
      (hrun : RawRun udp (some l) m t) (hnow : t ≤ now) (hinput : input.Sublist m.input)
      (h : Prog.Runs (rawWorld now) (rawStep { l with port, uartOpen } (tick now))
        { m with input, drained := none } o m') :
      RawRun udp o m' now

/-! ## What isolation means -/

/-- What an ownership is from its beginning on. -/
structure Ownership.Lawful (w : Ownership) : Prop where
  kept : w.kept.Sublist w.received
  stream : ∀ fd, w.owner = .connection fd → w.kept = w.received
  /-- No byte from before the input was found empty, in the step that acquired the owner. -/
  fresh : ∃ drained, w.drained = some drained ∧ ∀ b ∈ w.read, drained ≤ b.index
  /-- Since the last ownership there was a flush, and since then a silence. -/
  fenced : w.first = true ∨ ∃ flushed, w.flushedAt = some flushed ∧
    flushed + rawOwnerGuardMs.toNat ≤ w.acquiredAt ∧
    ∀ read, w.readBefore = some read → read + rawOwnerGuardMs.toNat ≤ w.acquiredAt

structure Ownership.Isolated (w : Ownership) : Prop extends w.Lawful where
  written : w.written <+: w.kept.flatten
  sent : w.sent <+: w.read.map (·.value)
  txBound : w.kept.flatten.length ≤ w.written.length + rawBufferSize
  rxBound : w.read.length ≤ w.sent.length + rawBufferSize

structure RawMonitor.Isolated (m : RawMonitor) : Prop where
  routed : m.misrouted = false
  past : ∀ w ∈ m.past, w.Isolated
  current : ∀ w, m.current = some w → w.Isolated

end FourVrs.Network
