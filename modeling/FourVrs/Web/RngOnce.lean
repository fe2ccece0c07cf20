import FourVrs.Web.Rng
import Mathlib.Data.List.ReduceOption

/-!
# Random bytes are handed out once

A client and the broker work on one channel, over a stream of bytes in each direction that may take
and give any part of what it is asked for; between any two calls of the client the broker goes on,
and so does everybody else on the other channels. `RngLink` is the channel as its client sees it and
`LinkStep` all that others do to it. A request, its answer and what is still under way always add up
to one frame, so what the client takes is what was answered, in order and once.
-/

set_option autoImplicit false

namespace FourVrs.Web

open Config FourVrs.Core Lib
open Function (update update_of_ne update_self)

/-! ## The world -/

structure RngWorld where
  broker : RngBroker
  running : Bool
  up : Nat → List UInt8
  down : Nat → List UInt8
  /-- The ends that have been the broker's. An end that is passed on is never one of them. -/
  begun : List Nat

/-- The broker goes on, or has returned. -/
def RngWorld.settle (w : RngWorld) (b : Option RngBroker) : RngWorld :=
  match b with
  | none => { w with running := false }
  | some b => { w with broker := b }

/-- What the broker does between two waits. -/
inductive BrokerStep : RngWorld → RngWorld → Prop where
  | looks {w : RngWorld} {i : Fin 2} {queued : Option Nat} {now : BitVec 32} {code : Nat}
      (hrunning : w.running = true) (hcode : brokerLook (w.broker.c i) queued now = some code) :
      BrokerStep w { w with running := false }
  /-- It is to stop, or cannot wait. -/
  | stops {w : RngWorld} : BrokerStep w { w with running := false }
  | sends {w : RngWorld} {i : Fin 2} {io : BrokerIo} {n : Nat} (hrunning : w.running = true)
      (htx : (w.broker.c i).tx ≠ []) (hsent : io.sent = .done n)
      (hn : n ≤ ((w.broker.c i).tx.drop (w.broker.c i).sent).length) :
      BrokerStep w (RngWorld.settle
        { w with
          down := update w.down (w.broker.ends i)
            (w.down (w.broker.ends i) ++ ((w.broker.c i).tx.drop (w.broker.c i).sent).take n) }
        (brokerChannel io i w.broker))
  | receives {w : RngWorld} {i : Fin 2} {io : BrokerIo} {bytes rest : List UInt8}
      (hrunning : w.running = true) (htx : (w.broker.c i).tx = []) (hreceived : io.received = .done bytes)
      (hup : w.up (w.broker.ends i) = bytes ++ rest)
      (hroom : bytes.length ≤ 16 - (w.broker.c i).rx.length) (hpassed : ∀ e, some e ∈ io.passed → e ∉ w.begun) :
      BrokerStep w (RngWorld.settle
        { w with up := update w.up (w.broker.ends i) rest, begun := w.begun ++ io.passed.reduceOption }
        (brokerChannel io i w.broker))
  | idles {w : RngWorld} {i : Fin 2} {io : BrokerIo} (hrunning : w.running = true)
      (hsent : ∀ n, io.sent ≠ .done n) (hreceived : ∀ bytes, io.received ≠ .done bytes) :
      BrokerStep w (w.settle (brokerChannel io i w.broker))

/-- What others do: the broker, and whoever is at the other channels. -/
inductive OtherStep (ch : Nat) : RngWorld → RngWorld → Prop where
  | broker {w w' : RngWorld} (h : BrokerStep w w') : OtherStep ch w w'
  | writes {w : RngWorld} {j : Nat} (bytes : List UInt8) (hj : j ≠ ch) :
      OtherStep ch w { w with up := update w.up j (w.up j ++ bytes) }
  | reads {w : RngWorld} {j : Nat} (n : Nat) (hj : j ≠ ch) :
      OtherStep ch w { w with down := update w.down j ((w.down j).drop n) }

/-- What a call does itself. A stream may also end or fail at any time. -/
inductive RngCalled (ch : Nat) : (op : RngOp) → RngWorld → op.Result → RngWorld → Prop where
  | sent {w : RngWorld} {bytes : List UInt8} {fd : Option Nat} {n : Nat} (hn : n ≤ bytes.length) :
      RngCalled ch (.send bytes fd) w (.done n) { w with up := update w.up ch (w.up ch ++ bytes.take n) }
  | received {w : RngWorld} {room : Nat} {bytes rest : List UInt8} (hdown : w.down ch = bytes ++ rest)
      (hroom : bytes.length ≤ room) :
      RngCalled ch (.recv room) w (.done bytes) { w with down := update w.down ch rest }
  | sendAgain {w : RngWorld} {bytes : List UInt8} {fd : Option Nat} : RngCalled ch (.send bytes fd) w .again w
  | sendFailed {w : RngWorld} {bytes : List UInt8} {fd : Option Nat} : RngCalled ch (.send bytes fd) w .failed w
  | recvAgain {w : RngWorld} {room : Nat} : RngCalled ch (.recv room) w .again w
  | recvEnded {w : RngWorld} {room : Nat} : RngCalled ch (.recv room) w (.done []) w
  | recvFailed {w : RngWorld} {room : Nat} : RngCalled ch (.recv room) w .failed w
  | now {w : RngWorld} (tick : CoreTick) : RngCalled ch .now w tick w
  | select {w : RngWorld} {writes : Bool} (selected : Bool) : RngCalled ch (.select writes) w selected w

/-- Before a call others may do anything. -/
def rngWorld (ch : Nat) : Prog.World RngOp RngOp.Result RngWorld := fun op w r w' =>
  ∃ w₁, Relation.ReflTransGen (OtherStep ch) w w₁ ∧ RngCalled ch op w₁ r w'

/-! ## Runs -/

structure RngState where
  client : RngClient
  world : RngWorld
  /-- What has been handed out. -/
  handed : List UInt8

inductive RngApi where
  | step (now : CoreTick)
  | random (passes n : Nat)
  | attach (fd : Nat)
  | close

/-- What a call returns, what it hands out, and the client then. -/
abbrev RngReturned : Type := Int × List UInt8 × RngClient

def randomReturned : Option (List UInt8) × RngClient → RngReturned
  | (none, c) => (-1, [], c)
  | (some out, c) => (0, out, c)

/-- `none` if the call has not returned. -/
def RngApi.exec (c : RngClient) : RngApi → RngProg (Option RngReturned)
  | .step now => do
      let r ← rngClientStep c now
      pure (some (r.1, [], r.2))
  | .random passes n => do
      let r ← rngClientRandom passes c n
      pure (r.map randomReturned)
  | .attach fd => do
      let r ← rngClientAttach c fd
      pure (some (r.1, [], r.2))
  | .close => pure (some (0, [], rngClientClose c))

/-- A call that returns `result`. -/
def RngCalls (ch : Nat) (s : RngState) (api : RngApi) (result : Int) (s' : RngState) : Prop :=
  ∃ out, s'.handed = s.handed ++ out ∧
    Prog.Runs (rngWorld ch) (api.exec s.client) s.world (some (some (result, out, s'.client))) s'.world

inductive RngMove (ch : Nat) : RngState → RngState → Prop where
  | others {s : RngState} {w : RngWorld} (h : OtherStep ch s.world w) : RngMove ch s { s with world := w }
  | call {s s' : RngState} {api : RngApi} {result : Int} (h : RngCalls ch s api result s') : RngMove ch s s'
  /-- The client comes to its end in the middle of a call. -/
  | cut {s : RngState} {api : RngApi} {w : RngWorld}
      (h : Prog.Runs (rngWorld ch) (api.exec s.client) s.world none w) :
      RngMove ch s ⟨rngClientClose s.client, w, s.handed⟩

/-- The broker as it starts. -/
def rngBrokerStart (epoch : Nat) (rotated interval : BitVec 32) : RngBroker where
  ends i := i.val
  c _ := zeroChannel
  epoch := epoch
  requests := 0
  rotations := 0
  rotated := rotated
  interval := interval
  answers := []

def rngWorldStart (broker : RngBroker) : RngWorld where
  broker := broker
  running := true
  up _ := []
  down _ := []
  begun := [0, 1]

/-- The states of all runs of a client and the broker. -/
inductive RngRun (ch : Nat) : RngState → Prop where
  | start (fd : Int) (sync blocking : Bool) {epoch : Nat} (hepoch : epoch < 2 ^ 32)
      (rotated interval : BitVec 32) :
      RngRun ch ⟨rngClientSet fd sync blocking, rngWorldStart (rngBrokerStart epoch rotated interval), []⟩
  | move {s s' : RngState} (h : RngRun ch s) (hmove : RngMove ch s s') : RngRun ch s'

/-! ## Bytes handed out once -/

def framesOf (ch : Nat) (answers : List RngAnswer) : List RngFrame :=
  (answers.filter fun a => decide (a.channel = ch)).map RngAnswer.frame

/-- Channel and sequence number: the request that is answered. -/
def RngAnswer.request (a : RngAnswer) : Nat × Nat := (a.channel, a.frame.sequence)

/-- The frames answer what was asked for, all in one epoch. -/
structure Matching (taken : List RngTaken) : Prop where
  asked : ∀ t ∈ taken, t.frame.sequence = t.sequence ∧ t.frame.payload.length = t.length
  epoch : ∀ t ∈ taken, ∀ t' ∈ taken, t.frame.epoch = t'.frame.epoch

structure HandedOnce (ch : Nat) (s : RngState) : Prop where
  handed : s.handed <+: (framesOf ch s.world.broker.answers).flatMap RngFrame.payload
  once : (s.world.broker.answers.map RngAnswer.request).Nodup
  taken : s.client.taken.map RngTaken.frame <+: framesOf ch s.world.broker.answers
  matching : Matching s.client.taken
  count : s.client.pool.length ≤ 1024

/-- A failure of the channel is for good: a step that fails, an attach whose message cannot be
    sent and a close end it. A call for bytes that fails hands none out itself; it may leave
    the channel as it is, or with a request on its way when the wait for the answer fails. -/
structure FailsForGood (ch : Nat) (s : RngState) : Prop where
  step : ∀ now result s', RngCalls ch s (.step now) result s' → result < 0 → s'.client.failed = true
  random : ∀ passes n result s', RngCalls ch s (.random passes n) result s' → result < 0 → s'.handed = s.handed
  attach : ∀ fd result s', RngCalls ch s (.attach fd) result s' → result < 0 →
    s'.client = s.client ∨ s'.client.failed = true
  close : ∀ result s', RngCalls ch s .close result s' → s'.client.failed = true
  last : s.client.failed = true → ∀ s', Relation.ReflTransGen (RngMove ch) s s' → s'.handed = s.handed

/-! ## The channel as its client sees it -/

/-- What the broker has of a request and still has to send of an answer. -/
structure RngSide where
  rx : List UInt8
  tx : List UInt8
  sent : Nat
  seq : Nat

def RngChannel.side (p : RngChannel) : RngSide := ⟨p.rx, p.tx, p.sent, p.seq⟩

structure RngLink where
  up : List UInt8
  down : List UInt8
  frames : List RngFrame
  side : Option RngSide

/-- The broker's record of a channel; a channel it will know of begins with zeros. -/
def RngWorld.facing (w : RngWorld) (ch : Nat) : Option RngChannel :=
  if w.running = false then none
  else if w.broker.ends 0 = ch then some (w.broker.c 0)
  else if w.broker.ends 1 = ch then some (w.broker.c 1)
  else if ch ∉ w.begun ∨ (w.broker.c 0).attached = some ch then some zeroChannel
  else none

def RngWorld.link (w : RngWorld) (ch : Nat) : RngLink :=
  ⟨w.up ch, w.down ch, framesOf ch w.broker.answers, (w.facing ch).map RngChannel.side⟩

def RngSide.afterSend (p : RngSide) (n : Nat) : RngSide :=
  if p.sent + n = p.tx.length then { p with tx := [], sent := 0, rx := [] } else { p with sent := p.sent + n }

/-- All that others do to a channel. -/
inductive LinkStep : RngLink → RngLink → Prop where
  | same (l : RngLink) : LinkStep l l
  | gone (l : RngLink) (up : List UInt8) : LinkStep l { l with up := up, side := none }
  | sends {l : RngLink} {p : RngSide} {n : Nat} (hside : l.side = some p) (htx : p.tx ≠ [])
      (hn : n ≤ (p.tx.drop p.sent).length) :
      LinkStep l { l with down := l.down ++ (p.tx.drop p.sent).take n, side := some (p.afterSend n) }
  | receives {l : RngLink} {p : RngSide} {bytes rest : List UInt8} (hside : l.side = some p) (htx : p.tx = [])
      (hup : l.up = bytes ++ rest) : LinkStep l { l with up := rest, side := some { p with rx := p.rx ++ bytes } }
  | answers {l : RngLink} {p : RngSide} {f : RngFrame} (hside : l.side = some p) (htx : p.tx = [])
      (hlength : p.rx.length = 16) (hsequence : get32 (p.rx.drop 4) = f.sequence)
      (hpayload : get32 (p.rx.drop 8) = f.payload.length) (hepoch : f.epoch < 2 ^ 32) :
      LinkStep l
        { l with frames := l.frames ++ [f], side := some ⟨List.replicate 16 0, f.wire, 0, f.sequence⟩ }

/-! ## What the broker keeps -/

structure BrokerSound (w : RngWorld) : Prop where
  apart : w.broker.ends 0 ≠ w.broker.ends 1
  begun : ∀ i, w.broker.ends i ∈ w.begun
  attached : ∀ e, (w.broker.c 0).attached = some e → e ∈ w.begun ∧ (∀ i, w.broker.ends i ≠ e) ∧
    ∀ a ∈ w.broker.answers, a.channel ≠ e
  answered : ∀ a ∈ w.broker.answers, a.channel ∈ w.begun
  sequence : ∀ i, (w.broker.c i).seq < 2 ^ 32 ∧
    ∀ a ∈ w.broker.answers, a.channel = w.broker.ends i → a.frame.sequence ≤ (w.broker.c i).seq
  once : (w.broker.answers.map RngAnswer.request).Nodup
  epoch : w.broker.epoch < 2 ^ 32

theorem framesOf_append (ch : Nat) (answers : List RngAnswer) (a : RngAnswer) :
    framesOf ch (answers ++ [a]) = framesOf ch answers ++ if a.channel = ch then [a.frame] else [] := by
  rw [framesOf, List.filter_append, List.map_append, ← framesOf]
  congr 1
  by_cases h : a.channel = ch <;> simp [h]

/-- At most one end is passed along, and on the first channel. -/
theorem brokerPassed_some {i : Fin 2} {p p' : RngChannel} {passed : List (Option Nat)}
    (h : brokerPassed i p passed = some p') :
    passed = [] ∧ p' = p ∨
      ∃ e, passed = [some e] ∧ i = 0 ∧ p.attached = none ∧ p' = { p with attached := some e } := by
  cases passed with
  | nil => exact .inl ⟨rfl, (Option.some.inj h).symm⟩
  | cons end' rest =>
    cases end' with
    | none => cases h
    | some e =>
      simp only [brokerPassed] at h
      split at h
      · cases h
      · rename_i hfirst
        simp only [not_or, not_not] at hfirst
        cases rest with
        | nil => exact .inr ⟨e, rfl, hfirst.1, hfirst.2, (Option.some.inj h).symm⟩
        | cons end'' rest => cases end'' <;> simp [brokerPassed] at h

theorem brokerSend_some {io : BrokerIo} {p p' : RngChannel} {n : Nat} (hsent : io.sent = .done n)
    (h : brokerSend io p = some p') : p'.side = p.side.afterSend n ∧ p'.attached = p.attached := by
  unfold brokerSend at h
  rw [hsent] at h
  cases n with
  | zero => simp at h
  | succ n =>
    simp only [] at h
    unfold RngSide.afterSend
    split at h
    · rename_i hall
      obtain rfl := Option.some.inj h
      exact ⟨(if_pos hall).symm, rfl⟩
    · rename_i hsome
      obtain rfl := Option.some.inj h
      exact ⟨(if_neg hsome).symm, rfl⟩

theorem afterSend_seq (p : RngSide) (n : Nat) : (p.afterSend n).seq = p.seq := by
  unfold RngSide.afterSend
  split <;> rfl

theorem brokerReceive_some {io : BrokerIo} {i : Fin 2} {p p' : RngChannel} {bytes : List UInt8}
    (hreceived : io.received = .done bytes) (h : brokerReceive io i p = some p') :
    p'.side = { p.side with rx := p.rx ++ bytes } ∧
      (io.passed = [] ∧ p'.attached = p.attached ∨
        ∃ e, io.passed = [some e] ∧ i = 0 ∧ p.attached = none ∧ p'.attached = some e) := by
  obtain ⟨q, hq, hside, hattached⟩ : ∃ q : RngChannel,
      (if p.rx = [] then { p with since := io.now } else p) = q ∧ q.side = p.side ∧ q.attached = p.attached :=
    ⟨_, rfl, by split <;> rfl, by split <;> rfl⟩
  have hrx : q.rx = p.rx := congrArg RngSide.rx hside
  have hq' : ({ q.side with rx := q.rx ++ bytes } : RngSide) = { p.side with rx := p.rx ++ bytes } := by
    rw [hside, hrx]
  unfold brokerReceive at h
  simp only [hreceived, hq] at h
  cases bytes with
  | nil => simp at h
  | cons b bytes =>
    simp only [] at h
    split at h
    · cases h
    · obtain ⟨r, hr, rfl⟩ := Option.map_eq_some_iff.mp h
      rcases brokerPassed_some hr with ⟨hpassed, rfl⟩ | ⟨e, hpassed, hi, hnone, rfl⟩
      · exact ⟨hq', .inl ⟨hpassed, hattached⟩⟩
      · exact ⟨hq', .inr ⟨e, hpassed, hi, hattached ▸ hnone, rfl⟩⟩

/-- The answer's header is that of the request, with the epoch in it. -/
theorem wire_of_request {rx payload : List UInt8} {epoch : Nat} (hrx : rx.length = 16)
    (hmagic : rx.take 4 = rngMagic) (hlength : get32 (rx.drop 8) = payload.length) :
    rx.take 12 ++ put32 epoch ++ payload = RngFrame.wire ⟨get32 (rx.drop 4), epoch, payload⟩ := by
  have hsequence : put32 (get32 (rx.drop 4)) = (rx.drop 4).take 4 := put32_get32 (by simp [hrx])
  have hcount : put32 (get32 (rx.drop 8)) = (rx.drop 8).take 4 := put32_get32 (by simp [hrx])
  rw [RngFrame.wire, rngHeader, ← hlength, hsequence, hcount, ← hmagic, ← List.take_add, ← List.take_add]

theorem first_or_second (i : Fin 2) : i = 0 ∨ i = 1 := by omega

/-- An answer is begun on a channel. What is counted may change. -/
structure AnsweredOn (b b' : RngBroker) (i : Fin 2) (f : RngFrame) : Prop where
  ends : b'.ends = b.ends
  c : b'.c = update b.c i ((b.c i).answer f.sequence f.wire)
  epoch : b'.epoch = b.epoch
  answers : b'.answers = b.answers ++ [⟨b.ends i, f⟩]

/-- The end that has come takes the place of the second channel. -/
def RngBroker.replaced (b : RngBroker) (e : Nat) : RngBroker :=
  { b with
    ends := update b.ends 1 e
    c := update (update b.c 1 zeroChannel) 0 { b.c 0 with attached := none } }

theorem brokerRotate_some {io : BrokerIo} {b b' : RngBroker} (h : brokerRotate io b = some b') :
    b'.ends = b.ends ∧ b'.c = b.c ∧ b'.epoch = b.epoch ∧ b'.answers = b.answers := by
  unfold brokerRotate at h
  split at h
  · cases h
    exact ⟨rfl, rfl, rfl, rfl⟩
  split at h
  · cases h
  split at h
  · cases h
    exact ⟨rfl, rfl, rfl, rfl⟩
  · cases h

/-- The broker with one record changed. -/
def RngBroker.recorded (b : RngBroker) (i : Fin 2) (p : RngChannel) : RngBroker :=
  { b with c := update b.c i p }

section

variable (b : RngBroker) (i : Fin 2) (p : RngChannel)

@[simp] theorem recorded_c : (b.recorded i p).c = update b.c i p := rfl
@[simp] theorem recorded_ends : (b.recorded i p).ends = b.ends := rfl
@[simp] theorem recorded_answers : (b.recorded i p).answers = b.answers := rfl
@[simp] theorem recorded_epoch : (b.recorded i p).epoch = b.epoch := rfl

end

/-- The two ways to answer. -/
theorem brokerAnswer_some {io : BrokerIo} {b b' : RngBroker} {i : Fin 2} {p : RngChannel}
    (hseq : p.seq < 2 ^ 32) (hrx : p.rx.length = 16) (h : brokerAnswer io b i p = some b') :
    ∃ f : RngFrame, f.sequence = p.seq + 1 ∧ f.sequence < 2 ^ 32 ∧ get32 (p.rx.drop 4) = f.sequence ∧
      get32 (p.rx.drop 8) = f.payload.length ∧ f.epoch = b.epoch ∧
        (AnsweredOn (b.recorded i p) b' i f ∨
          ∃ e, i = 0 ∧ p.attached = some e ∧ AnsweredOn ((b.recorded i p).replaced e) b' 0 f) := by
  unfold brokerAnswer at h
  simp only [] at h
  split at h
  · cases h
  · rename_i hgood
    simp only [not_or, not_not] at hgood
    obtain ⟨hpos, hnext, -⟩ := hgood
    have hlt : get32 (p.rx.drop 4) < 2 ^ 32 := hnext ▸ Nat.mod_lt _ (by decide)
    have hsucc : get32 (p.rx.drop 4) = p.seq + 1 := by omega
    split at h
    · rename_i e he
      split at he
      · rename_i hattach
        obtain ⟨-, rfl, hlength⟩ := hattach
        unfold brokerAttach at h
        split at h
        · obtain rfl := Option.some.inj h
          refine ⟨⟨get32 (p.rx.drop 4), b.epoch, []⟩, hsucc, hlt, rfl, hlength, rfl, .inr ⟨e, rfl, he, ?_⟩⟩
          refine ⟨rfl, funext fun j => ?_, rfl, by simp [RngBroker.replaced, RngBroker.recorded]⟩
          rcases first_or_second j with rfl | rfl <;>
            simp [RngBroker.replaced, RngBroker.recorded, RngFrame.wire]
        · cases h
      · cases he
    split at h
    · cases h
    · rename_i hplain
      simp only [not_or, not_not] at hplain
      obtain ⟨hmagic, -, -, -⟩ := hplain
      simp only [brokerAllocate, Option.bind_eq_bind, Option.bind_eq_some_iff] at h
      obtain ⟨b₁, hrotate, h⟩ := h
      obtain ⟨hends, hc, hepoch, hanswers⟩ := brokerRotate_some hrotate
      split at h
      · cases h
      · rw [Option.bind_eq_some_iff] at h
        obtain ⟨payload, -, h⟩ := h
        obtain rfl := Option.some.inj h
        refine ⟨⟨get32 (p.rx.drop 4), b.epoch, payload.val⟩, hsucc, hlt, rfl, payload.2.symm, rfl, .inl ?_⟩
        refine ⟨hends, ?_, hepoch, by rw [hends, hanswers, hepoch]; rfl⟩
        rw [hc, hepoch, wire_of_request hrx hmagic payload.2.symm]
        simp [RngBroker.recorded]

/-! ## Steps of the broker -/

/-- The record of one channel changes, its number apart. An end may have come with it. -/
structure Recorded (w w' : RngWorld) (i : Fin 2) (p : RngChannel) : Prop where
  running : w.running = true
  running' : w'.running = true
  broker : w'.broker = w.broker.recorded i p
  seq : p.seq = (w.broker.c i).seq
  attached : p.attached = (w.broker.c i).attached ∧ w'.begun = w.begun ∨
    ∃ e, e ∉ w.begun ∧ i = 0 ∧ (w.broker.c i).attached = none ∧ p.attached = some e ∧ w'.begun = w.begun ++ [e]

section

variable {w w' : RngWorld} {ch : Nat}

theorem facing_self (h : BrokerSound w) (hrunning : w.running = true) (i : Fin 2) :
    w.facing (w.broker.ends i) = some (w.broker.c i) := by
  have hapart := h.apart
  rcases first_or_second i with rfl | rfl <;> simp [RngWorld.facing, hrunning, hapart]

/-- A world in which only the record of one channel differs. -/
theorem facing_of_record {i : Fin 2} {p : RngChannel} (h : BrokerSound w) (hrunning : w.running = true)
    (hrunning' : w'.running = true) (hends : w'.broker.ends = w.broker.ends)
    (hc : w'.broker.c = update w.broker.c i p)
    (hpending : ch ∉ w'.begun ∨ (w'.broker.c 0).attached = some ch ↔
      ch ∉ w.begun ∨ (w.broker.c 0).attached = some ch) :
    w'.facing ch = if w.broker.ends i = ch then some p else w.facing ch := by
  have hapart := h.apart
  simp only [RngWorld.facing, hrunning, hrunning', Bool.true_eq_false, if_false, hends, hpending]
  rw [hc]
  rcases first_or_second i with rfl | rfl
  · by_cases hfirst : w.broker.ends 0 = ch <;> simp [hfirst]
  · by_cases hfirst : w.broker.ends 0 = ch
    · have hsecond : w.broker.ends 1 ≠ ch := fun heq => hapart (hfirst.trans heq.symm)
      simp [hfirst, hsecond]
    · by_cases hsecond : w.broker.ends 1 = ch <;> simp [hfirst, hsecond]

/-! ### It returns -/

theorem BrokerSound.congr (h : BrokerSound w) (hbroker : w'.broker = w.broker)
    (hbegun : ∀ e ∈ w.begun, e ∈ w'.begun) : BrokerSound w' where
  apart := hbroker ▸ h.apart
  begun i := hbegun _ (hbroker ▸ h.begun i)
  attached e he := by
    rw [hbroker] at he ⊢
    obtain ⟨hin, hrest⟩ := h.attached e he
    exact ⟨hbegun e hin, hrest⟩
  answered a ha := hbegun _ (h.answered a (hbroker ▸ ha))
  sequence := hbroker ▸ h.sequence
  once := hbroker ▸ h.once
  epoch := hbroker ▸ h.epoch

/-- Nobody answers any more. -/
theorem link_of_returned (hrunning : w'.running = false) (hdown : w'.down ch = w.down ch)
    (hbroker : w'.broker = w.broker) : LinkStep (w.link ch) (w'.link ch) := by
  have hfacing : w'.facing ch = none := by simp [RngWorld.facing, hrunning]
  have hlink : w'.link ch = { w.link ch with up := w'.up ch, side := none } := by
    simp [RngWorld.link, hfacing, hdown, hbroker]
  rw [hlink]
  exact .gone _ _

/-! ### It sends or receives -/

theorem Recorded.pending {i : Fin 2} {p : RngChannel} (h : Recorded w w' i p) (ch : Nat) :
    ch ∉ w'.begun ∨ (w'.broker.c 0).attached = some ch ↔ ch ∉ w.begun ∨ (w.broker.c 0).attached = some ch := by
  rw [h.broker]
  rcases h.attached with ⟨hattached, hbegun⟩ | ⟨e, hfresh, rfl, hnone, hsome, hbegun⟩
  · have hsame : ((w.broker.recorded i p).c 0).attached = (w.broker.c 0).attached := by
      rcases first_or_second i with rfl | rfl <;> simp [hattached]
    simp only [hsame, hbegun]
  · simp only [recorded_c, update_self, hsome, hnone, hbegun, List.mem_append, List.mem_singleton, not_or,
      Option.some.injEq, reduceCtorEq, or_false]
    constructor
    · rintro (⟨hout, -⟩ | rfl)
      · exact hout
      · exact hfresh
    · intro hout
      by_cases heq : e = ch
      · exact .inr heq
      · exact .inl ⟨hout, fun h => heq h.symm⟩

theorem Recorded.facing {i : Fin 2} {p : RngChannel} (h : Recorded w w' i p) (hw : BrokerSound w) (ch : Nat) :
    w'.facing ch = if w.broker.ends i = ch then some p else w.facing ch :=
  facing_of_record hw h.running h.running' (by simp [h.broker]) (by simp [h.broker]) (h.pending ch)

theorem Recorded.sound {i : Fin 2} {p : RngChannel} (h : Recorded w w' i p) (hw : BrokerSound w) :
    BrokerSound w' := by
  have hbegun : ∀ e ∈ w.begun, e ∈ w'.begun := by
    intro e he
    rcases h.attached with ⟨-, hbegun⟩ | ⟨_, -, -, -, -, hbegun⟩
    · exact hbegun ▸ he
    · exact hbegun ▸ List.mem_append_left _ he
  have hends : w'.broker.ends = w.broker.ends := by simp [h.broker]
  have hanswers : w'.broker.answers = w.broker.answers := by simp [h.broker]
  have hseq : ∀ j, (w'.broker.c j).seq = (w.broker.c j).seq := by
    intro j
    rw [h.broker]
    by_cases hj : j = i
    · subst hj
      simp [h.seq]
    · simp [hj]
  refine ⟨hends ▸ hw.apart, fun j => hbegun _ (hends ▸ hw.begun j), ?_, ?_, ?_, hanswers ▸ hw.once, ?_⟩
  · intro e he
    rw [hends, hanswers]
    rcases (h.pending e).1 (.inr he) with hout | hold
    · rcases h.attached with ⟨hattached, -⟩ | ⟨e', hfresh, rfl, -, hsome, hbegun'⟩
      · refine absurd ?_ hout
        have hsame : (w'.broker.c 0).attached = (w.broker.c 0).attached := by
          rw [h.broker]
          rcases first_or_second i with rfl | rfl <;> simp [hattached]
        exact (hw.attached e (hsame ▸ he)).1
      · obtain rfl : e' = e := by simpa [h.broker, hsome] using he
        refine ⟨by simp [hbegun'], fun j heq => ?_, fun a ha heq => ?_⟩
        · exact hout (heq ▸ hw.begun j)
        · exact hout (heq ▸ hw.answered a ha)
    · obtain ⟨hin, hrest⟩ := hw.attached e hold
      exact ⟨hbegun e hin, hrest⟩
  · intro a ha
    exact hbegun _ (hw.answered a (hanswers ▸ ha))
  · intro j
    rw [hseq, hends, hanswers]
    exact hw.sequence j
  · rw [h.broker]
    exact hw.epoch

/-- Where the record that changes is another channel's, and the stream is too. -/
theorem Recorded.link_of_ne {i : Fin 2} {p : RngChannel} (h : Recorded w w' i p) (hw : BrokerSound w)
    (hch : w.broker.ends i ≠ ch) (hup : w'.up ch = w.up ch) (hdown : w'.down ch = w.down ch) :
    w'.link ch = w.link ch := by
  simp [RngWorld.link, h.facing hw, hch, hup, hdown, h.broker]

theorem Recorded.link_self {i : Fin 2} {p : RngChannel} (h : Recorded w w' i p) (hw : BrokerSound w) :
    w'.link (w.broker.ends i) =
      ⟨w'.up (w.broker.ends i), w'.down (w.broker.ends i), (w.link (w.broker.ends i)).frames, some p.side⟩ := by
  simp [RngWorld.link, h.facing hw, h.broker]

/-! ### It goes over to another end -/

/-- The second channel is now the end that has come. -/
def RngWorld.replaced (w : RngWorld) (e : Nat) : RngWorld := { w with broker := w.broker.replaced e }

theorem BrokerSound.replaced {e : Nat} (h : BrokerSound w) (he : (w.broker.c 0).attached = some e) :
    BrokerSound (w.replaced e) := by
  obtain ⟨hin, hends, hanswers⟩ := h.attached e he
  refine ⟨?_, ?_, ?_, h.answered, ?_, h.once, h.epoch⟩
  · simpa [RngWorld.replaced, RngBroker.replaced] using hends 0
  · intro i
    rcases first_or_second i with rfl | rfl
    · exact h.begun 0
    · exact hin
  · intro e' he'
    simp [RngWorld.replaced, RngBroker.replaced] at he'
  · intro i
    rcases first_or_second i with rfl | rfl
    · exact h.sequence 0
    · refine ⟨Nat.two_pow_pos 32, fun a ha heq => absurd ?_ (hanswers a ha)⟩
      simpa [RngWorld.replaced, RngBroker.replaced] using heq

theorem link_replaced {e : Nat} (h : BrokerSound w) (he : (w.broker.c 0).attached = some e) (ch : Nat) :
    LinkStep (w.link ch) ((w.replaced e).link ch) := by
  obtain ⟨hin, hends, -⟩ := h.attached e he
  have hsame : ((w.replaced e).facing ch).map RngChannel.side = (w.facing ch).map RngChannel.side →
      LinkStep (w.link ch) ((w.replaced e).link ch) := by
    intro hside
    have hlink : (w.replaced e).link ch = w.link ch := by
      simp only [RngWorld.link, hside]
      rfl
    rw [hlink]
    exact .same _
  cases hrunning : w.running with
  | false => exact hsame (by simp [RngWorld.facing, RngWorld.replaced, hrunning])
  | true =>
    by_cases hfirst : w.broker.ends 0 = ch
    · exact hsame (by
        simp [RngWorld.facing, RngWorld.replaced, RngBroker.replaced, hrunning, hfirst, RngChannel.side])
    by_cases hnew : e = ch
    · subst hnew
      have h0 := hends 0
      have h1 := hends 1
      exact hsame (by simp [RngWorld.facing, RngWorld.replaced, RngBroker.replaced, hrunning, h0, h1, he])
    by_cases hsecond : w.broker.ends 1 = ch
    · have hgone : (w.replaced e).facing ch = none := by
        have hbegun : ch ∈ w.begun := hsecond ▸ h.begun 1
        simp [RngWorld.facing, RngWorld.replaced, RngBroker.replaced, hrunning, hfirst, hnew, hbegun]
      have hlink : (w.replaced e).link ch = { w.link ch with up := w.up ch, side := none } := by
        simp only [RngWorld.link, hgone]
        rfl
      rw [hlink]
      exact .gone _ _
    · exact hsame (by
        simp [RngWorld.facing, RngWorld.replaced, RngBroker.replaced, hrunning, hfirst, hnew, hsecond, he])

/-! ### It answers -/

variable {io : BrokerIo} {f : RngFrame}

theorem AnsweredOn.sound {i : Fin 2} (h : AnsweredOn w.broker w'.broker i f) (hw : BrokerSound w)
    (hbegun : w'.begun = w.begun) (hnext : f.sequence = (w.broker.c i).seq + 1) (hlt : f.sequence < 2 ^ 32) :
    BrokerSound w' := by
  have hattached : (w'.broker.c 0).attached = (w.broker.c 0).attached := by
    rw [h.c]
    rcases first_or_second i with rfl | rfl <;> simp [RngChannel.answer]
  have hmem : ∀ a, a ∈ w'.broker.answers ↔ a ∈ w.broker.answers ∨ a = ⟨w.broker.ends i, f⟩ := by
    simp [h.answers]
  refine ⟨h.ends ▸ hw.apart, fun j => hbegun ▸ h.ends ▸ hw.begun j, ?_, ?_, ?_, ?_, h.epoch ▸ hw.epoch⟩
  · intro e he
    obtain ⟨hin, hends, hanswers⟩ := hw.attached e (hattached ▸ he)
    refine ⟨hbegun ▸ hin, h.ends ▸ hends, fun a ha => ?_⟩
    rcases (hmem a).1 ha with hold | rfl
    · exact hanswers a hold
    · exact hends i
  · intro a ha
    rcases (hmem a).1 ha with hold | rfl
    · exact hbegun ▸ hw.answered a hold
    · exact hbegun ▸ hw.begun i
  · intro j
    rw [h.ends, h.c]
    by_cases hj : j = i
    · subst hj
      rw [update_self]
      refine ⟨hlt, fun a ha hon => ?_⟩
      rcases (hmem a).1 ha with hold | rfl
      · have hle := (hw.sequence j).2 a hold hon
        exact hle.trans (hnext ▸ Nat.le_succ _)
      · exact Nat.le_refl _
    · rw [update_of_ne hj]
      refine ⟨(hw.sequence j).1, fun a ha hon => ?_⟩
      rcases (hmem a).1 ha with hold | rfl
      · exact (hw.sequence j).2 a hold hon
      · have hboth : i = j := by
          have hapart := hw.apart
          rcases first_or_second i with rfl | rfl <;> rcases first_or_second j with rfl | rfl
          · rfl
          · exact absurd hon hapart
          · exact absurd hon.symm hapart
          · rfl
        exact absurd hboth.symm hj
  · -- the number is one that no earlier answer on the channel has
    rw [h.answers, List.map_append, List.nodup_append]
    refine ⟨hw.once, by simp, fun r hr r' hr' heq => ?_⟩
    obtain ⟨a, ha, rfl⟩ := List.mem_map.mp hr
    obtain rfl := List.mem_singleton.mp hr'
    obtain ⟨hon, hsequence⟩ := Prod.mk.inj heq
    have hle : a.frame.sequence ≤ (w.broker.c i).seq := (hw.sequence i).2 a ha hon
    have hsame : a.frame.sequence = f.sequence := hsequence
    omega

theorem AnsweredOn.link {i : Fin 2} (h : AnsweredOn w.broker w'.broker i f) (hw : BrokerSound w)
    (hrunning : w.running = true) (hrunning' : w'.running = true) (hbegun : w'.begun = w.begun)
    (hup : w'.up = w.up) (hdown : w'.down = w.down) (htx : (w.broker.c i).tx = [])
    (hlength : (w.broker.c i).rx.length = 16) (hsequence : get32 ((w.broker.c i).rx.drop 4) = f.sequence)
    (hpayload : get32 ((w.broker.c i).rx.drop 8) = f.payload.length) (hepoch : f.epoch < 2 ^ 32) (ch : Nat) :
    LinkStep (w.link ch) (w'.link ch) := by
  have hattached : (w'.broker.c 0).attached = (w.broker.c 0).attached := by
    rw [h.c]
    rcases first_or_second i with rfl | rfl <;> simp [RngChannel.answer]
  have hfacing := @facing_of_record w w' ch _ _ hw hrunning hrunning' h.ends h.c (by rw [hbegun, hattached])
  have hframes := framesOf_append ch w.broker.answers ⟨w.broker.ends i, f⟩
  rw [← h.answers] at hframes
  by_cases hch : w.broker.ends i = ch
  · subst hch
    have hside : (w.link (w.broker.ends i)).side = some (w.broker.c i).side := by
      simp [RngWorld.link, facing_self hw hrunning]
    have hstep := LinkStep.answers hside htx hlength hsequence hpayload hepoch
    have hlink : w'.link (w.broker.ends i) =
        { w.link (w.broker.ends i) with
          frames := (w.link (w.broker.ends i)).frames ++ [f]
          side := some ⟨List.replicate 16 0, f.wire, 0, f.sequence⟩ } := by
      simp [RngWorld.link, hfacing, hframes, hup, hdown, RngChannel.answer, RngChannel.side]
    rwa [hlink]
  · have hlink : w'.link ch = w.link ch := by
      simp [RngWorld.link, hfacing, hframes, hup, hdown, hch]
    rw [hlink]
    exact .same _

/-! ### All it does -/

/-- What others do keeps the broker sound, and a channel sees no more of it than `LinkStep`. -/
structure LinkKept (ch : Nat) (w w' : RngWorld) : Prop where
  sound : BrokerSound w'
  link : Relation.ReflTransGen LinkStep (w.link ch) (w'.link ch)

theorem LinkKept.trans {w₁ : RngWorld} (h : LinkKept ch w w₁) (h' : LinkKept ch w₁ w') : LinkKept ch w w' :=
  ⟨h'.sound, h.link.trans h'.link⟩

theorem kept_returned (hw : BrokerSound w) (hrunning : w'.running = false) (hdown : w'.down = w.down)
    (hbroker : w'.broker = w.broker) (hbegun : ∀ e ∈ w.begun, e ∈ w'.begun) : LinkKept ch w w' :=
  ⟨hw.congr hbroker hbegun, .single (link_of_returned hrunning (congrFun hdown ch) hbroker)⟩

theorem kept_recorded {i : Fin 2} {p : RngChannel} (hw : BrokerSound w) (h : Recorded w w' i p)
    (hup : ∀ j, w.broker.ends i ≠ j → w'.up j = w.up j) (hdown : ∀ j, w.broker.ends i ≠ j → w'.down j = w.down j)
    (hlink : LinkStep (w.link (w.broker.ends i)) (w'.link (w.broker.ends i))) : LinkKept ch w w' := by
  refine ⟨h.sound hw, ?_⟩
  by_cases hch : w.broker.ends i = ch
  · exact .single (hch ▸ hlink)
  · rw [h.link_of_ne hw hch (hup ch hch) (hdown ch hch)]

theorem kept_answered {i : Fin 2} (hw : BrokerSound w) (h : AnsweredOn w.broker w'.broker i f)
    (hrunning : w.running = true) (hrunning' : w'.running = true) (hbegun : w'.begun = w.begun)
    (hup : w'.up = w.up) (hdown : w'.down = w.down) (htx : (w.broker.c i).tx = [])
    (hlength : (w.broker.c i).rx.length = 16) (hsequence : get32 ((w.broker.c i).rx.drop 4) = f.sequence)
    (hpayload : get32 ((w.broker.c i).rx.drop 8) = f.payload.length) (hepoch : f.epoch = w.broker.epoch)
    (hnext : f.sequence = (w.broker.c i).seq + 1) (hlt : f.sequence < 2 ^ 32) : LinkKept ch w w' :=
  ⟨h.sound hw hbegun hnext hlt, .single (h.link hw hrunning hrunning' hbegun hup hdown htx hlength hsequence
    hpayload (hepoch ▸ hw.epoch) ch)⟩

/-- What follows when a channel has received: the answer, if the request is complete. -/
theorem kept_complete {w₁ : RngWorld} {i : Fin 2} {p : RngChannel} (hw : BrokerSound w)
    (h : Recorded w w₁ i p) (hkept : LinkKept ch w w₁) (htx : p.tx = []) (hdown : w₁.down = w.down) :
    LinkKept ch w (RngWorld.settle { w₁ with broker := w.broker }
      (if p.rx.length = 16 then brokerAnswer io w.broker i p else some (w.broker.recorded i p))) := by
  have hbegun : ∀ e ∈ w.begun, e ∈ w₁.begun := by
    intro e he
    rcases h.attached with ⟨-, hbegun⟩ | ⟨_, -, -, -, -, hbegun⟩
    · exact hbegun ▸ he
    · exact hbegun ▸ List.mem_append_left _ he
  have hc : w₁.broker.c i = p := by simp [h.broker]
  split
  · rename_i hlength
    cases hanswer : brokerAnswer io w.broker i p with
    | none => exact kept_returned hw rfl hdown rfl hbegun
    | some b' =>
      obtain ⟨f, hnext, hlt, hsequence, hpayload, hepoch, hcase⟩ :=
        brokerAnswer_some (h.seq ▸ (hw.sequence i).1) hlength hanswer
      have hepoch₁ : f.epoch = w₁.broker.epoch := by simp [h.broker, hepoch]
      rw [← h.broker] at hcase
      rcases hcase with hplain | ⟨e, rfl, hattached, hattach⟩
      · refine hkept.trans
          (kept_answered hkept.sound hplain h.running' h.running' rfl rfl rfl ?_ ?_ ?_ ?_ hepoch₁ ?_ hlt)
        all_goals rw [hc]; assumption
      · have he : (w₁.broker.c 0).attached = some e := by rw [hc, hattached]
        refine (hkept.trans ⟨hkept.sound.replaced he, .single (link_replaced hkept.sound he ch)⟩).trans
          (kept_answered (w := w₁.replaced e) (hkept.sound.replaced he) hattach h.running' h.running' rfl rfl rfl
            ?_ ?_ ?_ ?_ hepoch₁ ?_ hlt)
        all_goals
          simp only [RngWorld.replaced, RngBroker.replaced, update_self, hc]
          assumption
  · rw [← h.broker]
    exact hkept

theorem brokerChannel_of_tx {i : Fin 2} {b : RngBroker} (htx : (b.c i).tx ≠ []) :
    brokerChannel io i b = (brokerSend io (b.c i)).map (b.recorded i) :=
  if_pos htx

theorem brokerChannel_of_none {i : Fin 2} {b : RngBroker} (htx : (b.c i).tx = []) :
    brokerChannel io i b = (brokerReceive io i (b.c i)).bind fun p =>
      if p.rx.length = 16 then brokerAnswer io b i p else some (b.recorded i p) :=
  if_neg (not_not.2 htx)

theorem side_self (hw : BrokerSound w) (hrunning : w.running = true) (i : Fin 2) :
    (w.link (w.broker.ends i)).side = some (w.broker.c i).side := by
  simp [RngWorld.link, facing_self hw hrunning]

theorem kept_sends {i : Fin 2} {n : Nat} (hw : BrokerSound w) (hrunning : w.running = true)
    (htx : (w.broker.c i).tx ≠ []) (hsent : io.sent = .done n)
    (hn : n ≤ ((w.broker.c i).tx.drop (w.broker.c i).sent).length) :
    LinkKept ch w (RngWorld.settle
      { w with
        down := update w.down (w.broker.ends i)
          (w.down (w.broker.ends i) ++ ((w.broker.c i).tx.drop (w.broker.c i).sent).take n) }
      (brokerChannel io i w.broker)) := by
  rw [brokerChannel_of_tx htx]
  cases hsend : brokerSend io (w.broker.c i) with
  | none =>
    have hnothing : n = 0 := by
      unfold brokerSend at hsend
      rw [hsent] at hsend
      cases n with
      | zero => rfl
      | succ n =>
        simp only [] at hsend
        split at hsend <;> cases hsend
    subst hnothing
    refine kept_returned hw rfl ?_ rfl fun _ he => he
    simp [RngWorld.settle]
  | some p =>
    obtain ⟨hp, hattached⟩ := brokerSend_some hsent hsend
    have hseq : p.seq = (w.broker.c i).seq := (congrArg RngSide.seq hp).trans (afterSend_seq _ n)
    have hrec : Recorded w
        { w with
          down := update w.down (w.broker.ends i)
            (w.down (w.broker.ends i) ++ ((w.broker.c i).tx.drop (w.broker.c i).sent).take n)
          broker := w.broker.recorded i p } i p := ⟨hrunning, hrunning, rfl, hseq, .inl ⟨hattached, rfl⟩⟩
    refine kept_recorded hw hrec (fun _ _ => rfl) (fun j hj => update_of_ne (Ne.symm hj) _ _) ?_
    have hlink := hrec.link_self hw
    rw [hp] at hlink
    have hstep := LinkStep.sends (side_self hw hrunning i) htx hn
    simp only [RngWorld.settle, Option.map_some]
    rw [hlink]
    simpa [RngWorld.link, RngChannel.side] using hstep

theorem kept_receives {i : Fin 2} {bytes rest : List UInt8} (hw : BrokerSound w) (hrunning : w.running = true)
    (htx : (w.broker.c i).tx = []) (hreceived : io.received = .done bytes)
    (hup : w.up (w.broker.ends i) = bytes ++ rest) (hpassed : ∀ e, some e ∈ io.passed → e ∉ w.begun) :
    LinkKept ch w (RngWorld.settle
      { w with up := update w.up (w.broker.ends i) rest, begun := w.begun ++ io.passed.reduceOption }
      (brokerChannel io i w.broker)) := by
  rw [brokerChannel_of_none htx]
  cases hreceive : brokerReceive io i (w.broker.c i) with
  | none => exact kept_returned hw rfl rfl rfl fun e he => List.mem_append_left _ he
  | some p =>
    obtain ⟨hp, hattached⟩ := brokerReceive_some hreceived hreceive
    have hrec : Recorded w
        { w with
          up := update w.up (w.broker.ends i) rest
          begun := w.begun ++ io.passed.reduceOption
          broker := w.broker.recorded i p } i p := by
      refine ⟨hrunning, hrunning, rfl, congrArg RngSide.seq hp, ?_⟩
      rcases hattached with ⟨hnone, hattached⟩ | ⟨e, hsome, hi, hnone, hattached⟩
      · exact .inl ⟨hattached, by simp [hnone]⟩
      · exact .inr ⟨e, hpassed e (by simp [hsome]), hi, hnone, hattached, by simp [hsome]⟩
    refine kept_complete hw hrec ?_ ((congrArg RngSide.tx hp).trans htx) rfl
    refine kept_recorded hw hrec (fun j hj => update_of_ne (Ne.symm hj) _ _) (fun _ _ => rfl) ?_
    have hlink := hrec.link_self hw
    rw [hp] at hlink
    have hstep := LinkStep.receives (side_self hw hrunning i) htx hup
    rw [hlink]
    simpa [RngWorld.link, RngChannel.side] using hstep

/-- A pass in which nothing is sent or received, or a transfer fails. -/
theorem kept_idles {i : Fin 2} (hw : BrokerSound w) (hrunning : w.running = true)
    (hsent : ∀ n, io.sent ≠ .done n) (hreceived : ∀ bytes, io.received ≠ .done bytes) :
    LinkKept ch w (w.settle (brokerChannel io i w.broker)) := by
  have hsame : ∀ p : RngChannel, p.side = (w.broker.c i).side → p.attached = (w.broker.c i).attached →
      Recorded w { w with broker := w.broker.recorded i p } i p ∧
        LinkKept ch w { w with broker := w.broker.recorded i p } := by
    intro p hp hattached
    have hrec : Recorded w { w with broker := w.broker.recorded i p } i p :=
      ⟨hrunning, hrunning, rfl, congrArg RngSide.seq hp, .inl ⟨hattached, rfl⟩⟩
    refine ⟨hrec, kept_recorded hw hrec (fun _ _ => rfl) (fun _ _ => rfl) ?_⟩
    have hlink : ({ w with broker := w.broker.recorded i p } : RngWorld).link (w.broker.ends i) =
        w.link (w.broker.ends i) := by
      rw [hrec.link_self hw, hp, ← side_self hw hrunning i]
      rfl
    rw [hlink]
    exact .same _
  by_cases htx : (w.broker.c i).tx = []
  · rw [brokerChannel_of_none htx]
    cases hreceive : brokerReceive io i (w.broker.c i) with
    | none => exact kept_returned hw rfl rfl rfl fun _ he => he
    | some p =>
      have hp : p.side = (w.broker.c i).side ∧ p.attached = (w.broker.c i).attached := by
        unfold brokerReceive at hreceive
        simp only [] at hreceive
        split at hreceive
        · cases hreceive
        · cases hreceive
        · obtain rfl := Option.some.inj hreceive
          split <;> exact ⟨rfl, rfl⟩
        · rename_i bytes _ heq
          exact absurd heq (hreceived bytes)
      obtain ⟨hrec, hkept⟩ := hsame p hp.1 hp.2
      have hcomplete := @kept_complete w ch io _ i p hw hrec hkept ((congrArg RngSide.tx hp.1).trans htx) rfl
      exact hcomplete
  · rw [brokerChannel_of_tx htx]
    cases hsend : brokerSend io (w.broker.c i) with
    | none => exact kept_returned hw rfl rfl rfl fun _ he => he
    | some p =>
      have hp : p = w.broker.c i := by
        unfold brokerSend at hsend
        split at hsend
        · cases hsend
        · cases hsend
        · exact (Option.some.inj hsend).symm
        · rename_i n _ heq
          exact absurd heq (hsent n)
      exact (hsame p (hp ▸ rfl) (hp ▸ rfl)).2

theorem kept_brokerStep (hw : BrokerSound w) (h : BrokerStep w w') : LinkKept ch w w' := by
  cases h with
  | looks _ _ | stops => exact kept_returned hw rfl rfl rfl fun _ he => he
  | sends hrunning htx hsent hn => exact kept_sends hw hrunning htx hsent hn
  | receives hrunning htx hreceived hup _ hpassed => exact kept_receives hw hrunning htx hreceived hup hpassed
  | idles hrunning hsent hreceived => exact kept_idles hw hrunning hsent hreceived

theorem kept_otherStep (hw : BrokerSound w) (h : OtherStep ch w w') : LinkKept ch w w' := by
  cases h with
  | broker h => exact kept_brokerStep hw h
  | @writes j bytes hj =>
    refine ⟨hw.congr rfl fun _ he => he, ?_⟩
    have hlink : ({ w with up := update w.up j (w.up j ++ bytes) } : RngWorld).link ch =
        w.link ch := by
      simp [RngWorld.link, update_of_ne (Ne.symm hj), RngWorld.facing]
    rw [hlink]
  | @reads j n hj =>
    refine ⟨hw.congr rfl fun _ he => he, ?_⟩
    have hlink : ({ w with down := update w.down j ((w.down j).drop n) } : RngWorld).link ch =
        w.link ch := by
      simp [RngWorld.link, update_of_ne (Ne.symm hj), RngWorld.facing]
    rw [hlink]

/-- However often. -/
theorem kept_others (hw : BrokerSound w) (h : Relation.ReflTransGen (OtherStep ch) w w') : LinkKept ch w w' := by
  induction h with
  | refl => exact ⟨hw, .refl⟩
  | tail _ hstep ih => exact ih.trans (kept_otherStep ih.sound hstep)

end

end FourVrs.Web
