import FourVrs.Core.Deadline
import FourVrs.Lib.Bytes
import FourVrs.Lib.Prog
import FourVrs.Network.Settings

/-!
# The channel of random bytes (`web/rng_client.c`, `web/rng_main.c`)

A process of its own generates random bytes and answers requests on two channels, one of the
gateway and one of the web service. A client asks for a number of bytes, keeps what it is sent in a
pool and hands the bytes out from there. An array with a fill count is the list of the bytes that
count: `used` is the length of `rx`, `count` that of `pool`, the broker's `total` that of `tx`. A
channel is named by a number, and so is the end of it that is passed on as a descriptor.
-/

set_option autoImplicit false

namespace FourVrs.Web

open Config FourVrs.Core Lib

/-! ## Frames -/

def rngMax : Nat := 1024
def rngCommitWaitMs : CoreTick := 30000
def rngFrameWaitMs : CoreTick := 3000
def sequenceMax : Nat := 0xffffffff

def rngMagic : List UInt8 := Config.text "RNG1"
def attachMagic : List UInt8 := Config.text "RGA1"

/-- The 16 bytes of a request, and those an answer begins with. -/
def rngHeader (magic : List UInt8) (sequence length epoch : Nat) : List UInt8 :=
  magic ++ put32 sequence ++ put32 length ++ put32 epoch

/-- An answer. -/
structure RngFrame where
  sequence : Nat
  epoch : Nat
  payload : List UInt8
  deriving DecidableEq

def RngFrame.wire (f : RngFrame) : List UInt8 :=
  rngHeader rngMagic f.sequence f.payload.length f.epoch ++ f.payload

/-- The frame that bytes spell. -/
def RngFrame.ofWire (bytes : List UInt8) : RngFrame where
  sequence := get32 (bytes.drop 4)
  epoch := get32 (bytes.drop 12)
  payload := bytes.drop 16

/-! ## The client -/

/-- An answer the client has taken, and what it had asked for then. -/
structure RngTaken where
  sequence : Nat
  length : Nat
  frame : RngFrame

structure RngClient where
  fd : Int
  sync : Bool
  failed : Bool
  sequence : Nat
  epoch : Nat
  sent : Nat
  total : Nat
  since : CoreTick
  tx : List UInt8
  rx : List UInt8
  pool : List UInt8
  /-- Ghost: the answers taken since the channel was set. -/
  taken : List RngTaken

/-- What a transfer returns: how much or what, `EINTR` or `EAGAIN`, another error. -/
inductive Transfer (α : Type) where
  | done (a : α)
  | again
  | failed

inductive RngOp where
  /-- `send`, or `sendmsg` with the end of a channel. -/
  | send (bytes : List UInt8) (fd : Option Nat)
  | recv (room : Nat)
  | now
  | select (writes : Bool)

/-- `select` fails or does not, an interruption counted as none. -/
@[reducible] def RngOp.Result : RngOp → Type
  | .send _ _ => Transfer Nat
  | .recv _ => Transfer (List UInt8)
  | .now => CoreTick
  | .select _ => Bool

abbrev RngProg (α : Type) : Type := Prog RngOp RngOp.Result α

def rngCall (op : RngOp) : RngProg op.Result := Prog.lift op

variable (c : RngClient)

/-- `rng_client_close`. -/
def rngClientClose : RngClient where
  fd := -1
  sync := false
  failed := true
  sequence := 0
  epoch := 0
  sent := 0
  total := 0
  since := 0
  tx := []
  rx := []
  pool := []
  taken := c.taken

/-- `rng_client_set`; `blocking` says that `web_nonblock` fails. -/
def rngClientSet (fd : Int) (sync blocking : Bool) : RngClient :=
  let c : RngClient :=
    { fd := fd, sync := sync, failed := false, sequence := 0, epoch := 0, sent := 0, total := 0, since := 0,
      tx := [], rx := [], pool := [], taken := [] }
  if fd < 0 ∨ blocking = true then rngClientClose c else c

/-- `request`. -/
def rngRequest (n : Nat) (now : CoreTick) : Option RngClient :=
  if c.total ≠ 0 ∨ n = 0 ∨ n > rngMax ∨ c.sequence = sequenceMax then none
  else
    some { c with
      sequence := c.sequence + 1
      tx := rngHeader rngMagic (c.sequence + 1) n 0
      sent := 0
      rx := []
      total := n + 16
      since := now }

/-- `rng_client_attach`. -/
def rngClientAttach (fd : Nat) : RngProg (Int × RngClient) :=
  if c.failed = true ∨ c.total ≠ 0 ∨ c.sync = true ∨ c.sequence = sequenceMax then pure (-1, c)
  else do
    let now ← rngCall .now
    let c := { c with
      sequence := c.sequence + 1
      tx := rngHeader attachMagic (c.sequence + 1) 0 0
      sent := 0
      rx := []
      total := 16
      since := now }
    match ← rngCall (.send c.tx (some fd)) with
    | .done 0 | .again | .failed => pure (-1, rngClientClose c)
    | .done n => pure (0, { c with sent := n })

/-- The checks of a frame that is complete. -/
def answersRequest : Bool :=
  decide (c.rx.take 4 = rngMagic) && decide (get32 (c.rx.drop 4) = c.sequence) &&
    decide (get32 (c.rx.drop 8) = c.total - 16) && decide (get32 (c.rx.drop 12) ≠ 0) &&
    (decide (c.epoch = 0) || decide (c.epoch = get32 (c.rx.drop 12))) &&
    decide (c.pool.length + c.total - 16 ≤ 1024)

/-- The end of `rng_client_step`: the frame, if it is complete. -/
def rngAccept : Int × RngClient :=
  if c.rx.length ≠ c.total then (0, c)
  else if answersRequest c then
    (1, { c with
      epoch := get32 (c.rx.drop 12)
      pool := c.pool ++ c.rx.drop 16
      rx := []
      tx := []
      sent := 0
      total := 0
      taken := c.taken ++ [{ sequence := c.sequence, length := c.total - 16, frame := .ofWire c.rx }] })
  else (-1, rngClientClose c)

/-- The part of `rng_client_step` that receives. -/
def rngReceive (now : CoreTick) : RngProg (Int × RngClient) :=
  if c.sent < 16 then pure (0, c)
  else do
    match ← rngCall (.recv (c.total - c.rx.length)) with
    | .done [] | .failed => pure (-1, rngClientClose c)
    | .again => pure (rngAccept c)
    | .done bytes =>
        pure (rngAccept { c with since := if c.rx = [] then now else c.since, rx := c.rx ++ bytes })

/-- `rng_client_step` with a request outstanding. -/
def rngExchange (now : CoreTick) : RngProg (Int × RngClient) :=
  let wait := if c.sent = 16 ∧ c.total > 16 ∧ c.rx = [] then rngCommitWaitMs else rngFrameWaitMs
  if now - c.since ≥ wait then pure (-1, rngClientClose c)
  else if c.sent < 16 then do
    match ← rngCall (.send (c.tx.drop c.sent) none) with
    | .done 0 | .failed => pure (-1, rngClientClose c)
    | .again => rngReceive c now
    | .done n => rngReceive { c with sent := c.sent + n } now
  else rngReceive c now

/-- `rng_client_step`. -/
def rngClientStep (now : CoreTick) : RngProg (Int × RngClient) :=
  if c.failed then pure (-1, c)
  else if c.total ≠ 0 then rngExchange c now
  else if c.sync = true ∨ 128 ≤ c.pool.length then pure (0, c)
  else
    match rngRequest c (1024 - c.pool.length) now with
    | none => pure (-1, rngClientClose c)
    | some c => rngExchange c now

/-- The loop of `rng_client_random`, as many passes of it; `false` fails. -/
def rngWait : Nat → RngClient → RngProg (Option (Bool × RngClient))
  | 0, _ => pure none
  | passes + 1, c =>
      if c.total = 0 then pure (some (true, c))
      else do
        let now ← rngCall .now
        let r ← rngClientStep c now
        if r.1 < 0 then pure (some (false, r.2))
        else if r.2.total = 0 then pure (some (true, r.2))
        -- `FD_SETSIZE`
        else if r.2.fd < 0 ∨ 1024 ≤ r.2.fd then pure (some (false, r.2))
        else do
          let selected ← rngCall (.select (decide (r.2.sent < 16)))
          if selected then rngWait passes r.2 else pure (some (false, r.2))

/-- The end of `rng_client_random`: the bytes, or `none` for what fails. -/
def rngHandOut (n : Nat) : Option (List UInt8) × RngClient :=
  if c.pool.length < n then (none, c)
  else (some (c.pool.take n), { c with pool := c.pool.drop n })

/-- `rng_client_random`; `none` if it has not returned after that many passes of its loop. -/
def rngClientRandom (passes : Nat) (c : RngClient) (n : Nat) :
    RngProg (Option (Option (List UInt8) × RngClient)) :=
  if c.failed = true ∨ n = 0 ∨ n > 1024 then pure (some (none, c))
  else if c.sync = true ∧ c.pool.length < n then do
    let start ← rngCall .now
    match rngRequest c (n - c.pool.length) start with
    | none => pure (some (none, c))
    | some c => do
        match ← rngWait passes c with
        | none => pure none
        | some (false, c) => pure (some (none, c))
        | some (true, c) => pure (some (rngHandOut c n))
  else pure (some (rngHandOut c n))

/-! ## The broker -/

structure RngChannel where
  rx : List UInt8
  tx : List UInt8
  sent : Nat
  seq : Nat
  attached : Option Nat
  since : BitVec 32

def zeroChannel : RngChannel := { rx := [], tx := [], sent := 0, seq := 0, attached := none, since := 0 }

/-- An answer, and the channel it is sent on. -/
structure RngAnswer where
  channel : Nat
  frame : RngFrame

structure RngBroker where
  /-- What the descriptors 3 and 4 are ends of. -/
  ends : Fin 2 → Nat
  c : Fin 2 → RngChannel
  epoch : Nat
  requests : Nat
  rotations : Nat
  rotated : BitVec 32
  interval : BitVec 32
  /-- Ghost: what has been answered. -/
  answers : List RngAnswer

/-- What the calls of one pass over a channel return. A descriptor passed along is the end of a
    channel or something else. -/
structure BrokerIo where
  now : BitVec 32
  sent : Transfer Nat
  received : Transfer (List UInt8)
  truncated : Bool
  passed : List (Option Nat)
  /-- The passed descriptor is a stream socket and takes the place of descriptor 4. -/
  usable : Bool
  production : Bool
  checkedAt : BitVec 32
  checkedAgainAt : BitVec 32
  rotates : Bool
  rotatedAt : BitVec 32
  stopping : Bool
  random : (length : Nat) → Option { payload : List UInt8 // payload.length = length }

variable (io : BrokerIo)

/-- What `broker` looks at before it waits; the code it returns with, if it does. -/
def brokerLook (p : RngChannel) (queued : Option Nat) (now : BitVec 32) : Option Nat :=
  if queued.all (fun n => decide (n > 8 * 16)) then some 26
  else if (p.rx ≠ [] ∨ p.tx ≠ []) ∧ (now - p.since).toNat > 3 then some 21
  else none

/-- Sends what is left of an answer; `none` returns. -/
def brokerSend (p : RngChannel) : Option RngChannel :=
  match io.sent with
  | .done 0 | .failed => none
  | .again => some p
  | .done n =>
      if p.sent + n = p.tx.length then some { p with tx := [], sent := 0, rx := [] }
      else some { p with sent := p.sent + n }

/-- The descriptors that come with a message: one, and on the first channel. -/
def brokerPassed (i : Fin 2) (p : RngChannel) : List (Option Nat) → Option RngChannel
  | [] => some p
  | end' :: rest =>
      match end' with
      | none => none
      | some e =>
          if i ≠ 0 ∨ p.attached ≠ none then none else brokerPassed i { p with attached := some e } rest

/-- Receives more of a request. -/
def brokerReceive (i : Fin 2) (p : RngChannel) : Option RngChannel :=
  let p := if p.rx = [] then { p with since := io.now } else p
  match io.received with
  | .done [] | .failed => none
  | .again => some p
  | .done bytes =>
      if io.truncated then none
      else (brokerPassed i p io.passed).map fun p => { p with rx := p.rx ++ bytes }

/-- The policy on rotations: at most four unless in production, at least an interval apart. -/
def brokerRotate (b : RngBroker) : Option RngBroker :=
  if b.requests ≠ 1024 then some b
  else if (io.production = false ∧ b.rotations = 4) ∨ io.checkedAt < b.rotated ∨
      io.checkedAgainAt - b.rotated < b.interval then none
  else if io.rotates then
    some { b with requests := 0, rotations := b.rotations + 1, rotated := io.rotatedAt }
  else none

/-- The channel with an answer to send. -/
def RngChannel.answer (p : RngChannel) (seq : Nat) (tx : List UInt8) : RngChannel :=
  { p with tx := tx, seq := seq, sent := 0, rx := List.replicate 16 0 }

/-- A passed end takes the place of the second channel. -/
def brokerAttach (b : RngBroker) (p : RngChannel) (e seq : Nat) : Option RngBroker :=
  if io.usable then
    some { b with
      ends := Function.update b.ends 1 e
      c := Function.update (Function.update b.c 1 zeroChannel) 0
        ({ p with attached := none }.answer seq (rngHeader rngMagic seq 0 b.epoch))
      answers := b.answers ++ [⟨b.ends 0, ⟨seq, b.epoch, []⟩⟩] }
  else none

/-- Random bytes for a request. -/
def brokerAllocate (b : RngBroker) (i : Fin 2) (p : RngChannel) (seq length : Nat) : Option RngBroker := do
  let b ← brokerRotate io b
  if io.stopping then none
  else
    let payload ← io.random length
    some { b with
      requests := b.requests + 1
      c := Function.update b.c i (p.answer seq (p.rx.take 12 ++ put32 b.epoch ++ payload.val))
      answers := b.answers ++ [⟨b.ends i, ⟨seq, b.epoch, payload.val⟩⟩] }

/-- A request that is complete. -/
def brokerAnswer (b : RngBroker) (i : Fin 2) (p : RngChannel) : Option RngBroker :=
  let length := get32 (p.rx.drop 8)
  let seq := get32 (p.rx.drop 4)
  if seq = 0 ∨ seq ≠ (p.seq + 1) % 2 ^ 32 ∨ get32 (p.rx.drop 12) ≠ 0 then none
  else
    match if p.rx.take 4 = attachMagic ∧ i = 0 ∧ length = 0 then p.attached else none with
    | some e => brokerAttach io b p e seq
    | none =>
        if p.rx.take 4 ≠ rngMagic ∨ length = 0 ∨ length > 1024 ∨ p.attached ≠ none then none
        else brokerAllocate io b i p seq length

/-- The body of the loop of `broker` over the channels; `none` returns. -/
def brokerChannel (i : Fin 2) (b : RngBroker) : Option RngBroker :=
  if (b.c i).tx ≠ [] then (brokerSend io (b.c i)).map fun p => { b with c := Function.update b.c i p }
  else
    (brokerReceive io i (b.c i)).bind fun p =>
      if p.rx.length = 16 then brokerAnswer io b i p else some { b with c := Function.update b.c i p }

end FourVrs.Web
