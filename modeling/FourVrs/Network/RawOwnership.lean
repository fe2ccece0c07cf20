import FourVrs.Network.RawMonitor

/-!
# The owners of a raw serial line are kept apart

`Holds` is the invariant between the steps and `During` within one: the buffers are what
the owner is still owed, and a line nobody owns is fenced off from its last owner. Each
function of the listener has one lemma, in the order of the source.
-/

set_option autoImplicit false

namespace FourVrs.Network

open FourVrs.Core Lib

/-! ## The invariant -/

/-- The bytes of an ownership are those passed on and those in the buffer. -/
structure Ownership.Buffered (w : Ownership) (tx rx : List UInt8) : Prop where
  transmit : w.written ++ tx = w.kept.flatten
  deliver : w.sent ++ rx = w.read.map (·.value)
  txBound : tx.length ≤ rawBufferSize
  rxBound : rx.length ≤ rawBufferSize

/-- All that is in the input, and all that will be, came after `k` bytes. -/
def RawMonitor.Beyond (m : RawMonitor) (k : Nat) : Prop :=
  k ≤ m.arrived ∧ ∀ b ∈ m.input, k ≤ b.index

variable {σ κ : Type} {l : RawListener σ κ} {m : RawMonitor} {w : Ownership} {now : Nat}

/-- An owner is there. -/
structure Carrying (l : RawListener σ κ) (m : RawMonitor) (w : Ownership) : Prop where
  current : m.current = some w
  owner : w.owner = l.owner
  lawful : w.Lawful
  buffered : w.Buffered l.tx l.rx
  beyond : ∃ k, w.drained = some k ∧ m.Beyond k
  unguarded : l.guard = false
  flushed : l.flushPending = false

/-- The line is fenced off from the last owner, or the flush is still to be made. -/
def Fence (l : RawListener σ κ) (m : RawMonitor) (now : Nat) : Prop :=
  l.flushPending = true ∨
    ∃ flushed quiet, m.flushedAt = some flushed ∧ flushed ≤ quiet ∧ quiet ≤ now ∧
      (∀ read, m.readAt = some read → read ≤ quiet) ∧ (l.guard = true → l.quietAt = tick quiet) ∧
      (l.guard = false → quiet + rawOwnerGuardMs.toNat ≤ now)

/-- Nobody is there. -/
structure Free (l : RawListener σ κ) (m : RawMonitor) (now : Nat) : Prop where
  current : m.current = none
  tx : l.tx = []
  rx : l.rx = []
  pending : l.flushPending = true → l.guard = true
  fence : m.past ≠ [] → Fence l m now

/-- **The invariant**, between the steps. -/
structure Holds (l : RawListener σ κ) (m : RawMonitor) (now : Nat) : Prop where
  datagrams : l.udp = true → l.clientFd = none
  routed : m.misrouted = false
  past : ∀ w ∈ m.past, w.Isolated
  readAt : ∀ read, m.readAt = some read → read ≤ now
  owned : l.owned = true → ∃ w, Carrying l m w
  free : l.owned = false → Free l m now

/-- The invariant within a step, `drained` once the UART has been read. -/
structure During (drained : Prop) (l : RawListener σ κ) (m : RawMonitor) (now : Nat) : Prop
    extends Holds l m now where
  clock : l.now = tick now
  pending : l.flushPending = true → l.quietAt = tick now
  fresh : drained → l.owned = false → l.guard = false → ∃ k, m.drained = some k ∧ m.Beyond k

/-- What does not depend on the owner. -/
structure Around (l : RawListener σ κ) (m : RawMonitor) (now : Nat) : Prop where
  datagrams : l.udp = true → l.clientFd = none
  routed : m.misrouted = false
  past : ∀ w ∈ m.past, w.Isolated
  readAt : ∀ read, m.readAt = some read → read ≤ now
  clock : l.now = tick now

variable {d : Prop}

theorem Carrying.during (hw : Carrying l m w) (howned : l.owned = true) (h : Around l m now) :
    During d l m now where
  datagrams := h.datagrams
  routed := h.routed
  past := h.past
  readAt := h.readAt
  owned _ := ⟨w, hw⟩
  free hfree := absurd (howned.symm.trans hfree) (by simp)
  clock := h.clock
  pending hpending := absurd (hw.flushed.symm.trans hpending) (by simp)
  fresh _ hfree := absurd (howned.symm.trans hfree) (by simp)

theorem Free.during (hfree : Free l m now) (howned : l.owned = false) (h : Around l m now)
    (hpending : l.flushPending = true → l.quietAt = tick now)
    (hfresh : d → l.guard = false → ∃ k, m.drained = some k ∧ m.Beyond k) : During d l m now where
  datagrams := h.datagrams
  routed := h.routed
  past := h.past
  readAt := h.readAt
  owned howned' := absurd (howned.symm.trans howned') (by simp)
  free _ := hfree
  clock := h.clock
  pending := hpending
  fresh hd _ := hfresh hd

variable {l' : RawListener σ κ} {tx rx : List UInt8}

theorem Ownership.Lawful.isolated (h : w.Lawful) (hbuf : w.Buffered tx rx) :
    w.Isolated where
  toLawful := h
  written := ⟨tx, hbuf.transmit⟩
  sent := ⟨rx, hbuf.deliver⟩
  txBound := by
    have hlen := congrArg List.length hbuf.transmit
    have hbound := hbuf.txBound
    rw [List.length_append] at hlen
    omega
  rxBound := by
    have hlen := congrArg List.length hbuf.deliver
    have hbound := hbuf.rxBound
    rw [List.length_append, List.length_map] at hlen
    omega

theorem Holds.isolated (h : Holds l m now) : m.Isolated where
  routed := h.routed
  past := h.past
  current w hcur := by
    cases howned : l.owned with
    | true =>
      obtain ⟨w', hw'⟩ := h.owned howned
      obtain rfl : w' = w := Option.some.inj (hw'.current.symm.trans hcur)
      exact hw'.lawful.isolated hw'.buffered
    | false =>
      rw [(h.free howned).current] at hcur
      cases hcur

theorem Holds.bounded (h : Holds l m now) :
    l.tx.length ≤ rawBufferSize ∧ l.rx.length ≤ rawBufferSize := by
  cases howned : l.owned with
  | true =>
    obtain ⟨w, hw⟩ := h.owned howned
    exact ⟨hw.buffered.txBound, hw.buffered.rxBound⟩
  | false =>
    have hfree := h.free howned
    simp [hfree.tx, hfree.rx]

/-! ## Time and arrivals -/

theorem Fence.mono {now' : Nat} (h : Fence l m now) (hnow : now ≤ now') : Fence l m now' := by
  rcases h with h | ⟨flushed, quiet, hflushed, hle, hquiet, hread, hguard, hopen⟩
  · exact Or.inl h
  · refine Or.inr ⟨flushed, quiet, hflushed, hle, by omega, hread, hguard, fun h => ?_⟩
    have := hopen h
    omega

theorem RawMonitor.Beyond.arrive {k : Nat} (h : m.Beyond k) (bytes : List UInt8) :
    (m.arrive bytes).Beyond k := by
  refine ⟨Nat.le_trans h.1 (Nat.le_add_right _ _), ?_⟩
  intro b hb
  rcases List.mem_append.mp hb with hold | hnew
  · exact h.2 b hold
  · obtain ⟨i, hi, rfl⟩ := List.mem_mapIdx.mp hnew
    exact Nat.le_trans h.1 (Nat.le_add_right _ _)

theorem Carrying.arrive (h : Carrying l m w) (bytes : List UInt8) : Carrying l (m.arrive bytes) w := by
  obtain ⟨k, hk, hbeyond⟩ := h.beyond
  exact ⟨h.current, h.owner, h.lawful, h.buffered, ⟨k, hk, hbeyond.arrive bytes⟩, h.unguarded, h.flushed⟩

theorem Holds.arrive (h : Holds l m now) (bytes : List UInt8) : Holds l (m.arrive bytes) now where
  datagrams := h.datagrams
  routed := h.routed
  past := h.past
  readAt := h.readAt
  owned howned := (h.owned howned).imp fun _ hw => hw.arrive bytes
  free howned :=
    have hfree := h.free howned
    ⟨hfree.current, hfree.tx, hfree.rx, hfree.pending, hfree.fence⟩

theorem During.arrive (h : During d l m now) (bytes : List UInt8) : During d l (m.arrive bytes) now where
  toHolds := h.toHolds.arrive bytes
  clock := h.clock
  pending := h.pending
  fresh hd howned hguard := by
    obtain ⟨k, hk, hbeyond⟩ := h.fresh hd howned hguard
    exact ⟨k, hk, hbeyond.arrive bytes⟩

theorem During.weaken (h : During d l m now) : During False l m now :=
  ⟨h.toHolds, h.clock, h.pending, fun hd => hd.elim⟩

abbrev RawSafe {α : Type} (now : Nat) (post : α → RawMonitor → Prop) (p : RawProg α) (m : RawMonitor) : Prop :=
  Prog.Safe (rawWorld now) RawMonitor.Isolated post p m

/-- A call: bytes arrive, it returns something it may return, the monitor sees it. -/
theorem safe_rawCall {α : Type} {post : α → RawMonitor → Prop} {call : RawCall}
    {f : call.Result → RawProg α} (hm : m.Isolated)
    (h : ∀ bytes r, (m.arrive bytes).Allows call r →
      RawSafe now post (f r) ((m.arrive bytes).see now call r)) :
    RawSafe now post (rawCall call >>= f) m := by
  refine ⟨hm, ?_⟩
  rintro r m' ⟨bytes, hallows, rfl⟩
  exact h bytes r hallows

theorem During.call {α : Type} {post : α → RawMonitor → Prop} {call : RawCall}
    {f : call.Result → RawProg α} (h : During d l m now)
    (hnext : ∀ m, During d l m now → ∀ r, m.Allows call r → RawSafe now post (f r) (m.see now call r)) :
    RawSafe now post (rawCall call >>= f) m :=
  safe_rawCall h.isolated fun bytes r hallows => hnext _ (h.arrive bytes) r hallows

/-- What the functions of a step keep. -/
abbrev KeepsDuring (d : Prop) (now : Nat) (p : RawProg (RawListener σ κ)) (m : RawMonitor) : Prop :=
  RawSafe now (fun l' m' => During d l' m' now) p m

theorem During.done (h : During d l m now) : KeepsDuring d now (pure l) m :=
  ⟨h.isolated, h⟩

/-! ## The boundary -/

/-- All that a release relies on: the buffers are thrown away. -/
structure Leaving (l : RawListener σ κ) (m : RawMonitor) (now : Nat) : Prop where
  isolated : m.Isolated
  readAt : ∀ read, m.readAt = some read → read ≤ now
  clock : l.now = tick now
  free : l.owned = false → m.current = none ∧
    (l.flushPending = false → m.past ≠ [] → ∃ flushed, m.flushedAt = some flushed ∧ flushed ≤ now)

theorem During.leaving (h : During d l m now) : Leaving l m now where
  isolated := h.isolated
  readAt := h.readAt
  clock := h.clock
  free howned := by
    have hfree := h.free howned
    refine ⟨hfree.current, ?_⟩
    intro hpending hpast
    rcases hfree.fence hpast with hpending' | ⟨flushed, quiet, hflushed, hle, hquiet, _⟩
    · rw [hpending] at hpending'
      cases hpending'
    · exact ⟨flushed, hflushed, Nat.le_trans hle hquiet⟩

theorem Leaving.arrive (h : Leaving l m now) (bytes : List UInt8) : Leaving l (m.arrive bytes) now :=
  ⟨⟨h.isolated.routed, h.isolated.past, h.isolated.current⟩, h.readAt, h.clock, h.free⟩

/-- The owner is gone, the buffers are not cleared yet. -/
structure Ended (l : RawListener σ κ) (m : RawMonitor) (now : Nat) : Prop where
  isolated : m.Isolated
  current : m.current = none
  readAt : ∀ read, m.readAt = some read → read ≤ now
  clock : l.now = tick now
  clientFd : l.clientFd = none
  flushed : l.flushPending = false → m.past ≠ [] → ∃ flushed, m.flushedAt = some flushed ∧ flushed ≤ now

theorem Ended.arrive (h : Ended l m now) (bytes : List UInt8) : Ended l (m.arrive bytes) now :=
  ⟨⟨h.isolated.routed, h.isolated.past, h.isolated.current⟩, h.current, h.readAt, h.clock, h.clientFd,
    h.flushed⟩

/-- The last lines of `release`. -/
theorem Ended.during (h : Ended l m now) :
    During d { l with owned := false, eof := false, tx := [], rx := [], guard := true, quietAt := l.now }
      m now where
  datagrams _ := h.clientFd
  routed := h.isolated.routed
  past := h.isolated.past
  readAt := h.readAt
  owned howned := by cases howned
  free _ := by
    refine ⟨h.current, rfl, rfl, fun _ => rfl, ?_⟩
    intro hpast
    by_cases hpending : l.flushPending = true
    · exact Or.inl hpending
    · obtain ⟨flushed, hflushed, hle⟩ := h.flushed (by simpa using hpending) hpast
      refine Or.inr ⟨flushed, now, hflushed, hle, Nat.le_refl _, h.readAt, fun _ => h.clock, ?_⟩
      intro hguard
      cases hguard
  clock := h.clock
  pending _ := h.clock
  fresh _ _ hguard := by cases hguard

theorem safe_closeClient (h : Leaving l m now) :
    RawSafe now (fun l' m' => Leaving l' m' now) (closeClient l) m := by
  unfold closeClient
  split
  · refine safe_rawCall h.isolated fun bytes r _ => ?_
    have h := h.arrive bytes
    exact ⟨h.isolated, h⟩
  · exact ⟨h.isolated, h⟩

theorem safe_endOwnership (h : Leaving l m now) :
    RawSafe now (fun l' m' => Ended l' m' now) (endOwnership l) m := by
  unfold endOwnership
  split
  · refine safe_rawCall h.isolated fun bytes r _ => ?_
    have h := h.arrive bytes
    -- the record of the ownership joins the past ones
    have hisolated : ((m.arrive bytes).see now .released r).Isolated := by
      refine ⟨h.isolated.routed, ?_, ?_⟩
      · intro w hw
        rcases List.mem_append.mp hw with hw | hw
        · exact h.isolated.past w hw
        · exact h.isolated.current w (Option.mem_toList.mp hw)
      · intro w hw
        cases hw
    refine ⟨hisolated, hisolated, rfl, h.readAt, h.clock, rfl, ?_⟩
    intro hpending
    cases hpending
  · rename_i howned
    obtain ⟨hcurrent, hflushed⟩ := h.free (by simpa using howned)
    exact ⟨h.isolated, h.isolated, hcurrent, h.readAt, h.clock, rfl, hflushed⟩

theorem safe_flushBoundary_ended (h : Ended l m now) :
    RawSafe now (fun r m' => Ended r.2 m' now) (flushBoundary l) m := by
  unfold flushBoundary
  split
  · exact ⟨h.isolated, h⟩
  split
  · exact ⟨h.isolated, h⟩
  · refine safe_rawCall h.isolated fun bytes flushed _ => ?_
    have h := h.arrive bytes
    cases flushed with
    | false => exact ⟨h.isolated, h.isolated, h.current, h.readAt, h.clock, h.clientFd, h.flushed⟩
    | true =>
      have hisolated : ((m.arrive bytes).see now .flush true).Isolated :=
        ⟨h.isolated.routed, h.isolated.past, h.isolated.current⟩
      exact ⟨hisolated, hisolated, h.current, h.readAt, h.clock, h.clientFd,
        fun _ _ => ⟨now, rfl, Nat.le_refl _⟩⟩

/-- **Every exit fences.** -/
theorem safe_release {d' : Prop} (h : Leaving l m now) : KeepsDuring d' now (releaseOnly l) m := by
  refine Prog.Safe.bind (Prog.Safe.bind (Prog.Safe.mono (safe_closeClient h) fun l m _ h => ?_))
  refine Prog.Safe.bind (Prog.Safe.mono (safe_endOwnership h) fun l m _ h => ?_)
  refine Prog.Safe.bind (Prog.Safe.mono (safe_flushBoundary_ended h) fun r m _ h => ?_)
  exact ⟨h.isolated, h.isolated, h.during⟩

theorem During.serialFault (h : During d l m now) : During d (serialFault l) m now :=
  ⟨⟨h.datagrams, h.routed, h.past, h.readAt, fun howned =>
      (h.owned howned).imp fun _ hw =>
        ⟨hw.current, hw.owner, hw.lawful, hw.buffered, hw.beyond, hw.unguarded, hw.flushed⟩,
      fun howned =>
        have hfree := h.free howned
        ⟨hfree.current, hfree.tx, hfree.rx, hfree.pending, hfree.fence⟩⟩, h.clock, h.pending, h.fresh⟩

/-- The release of an owner whose line has failed. -/
theorem safe_releaseFaulted {d' : Prop} (h : During d l m now) :
    KeepsDuring d' now (do let l ← releaseOnly l; pure (serialFault l)) m :=
  Prog.Safe.bind (Prog.Safe.mono (safe_release h.leaving) fun _ _ _ h => h.serialFault.done)

/-! ## The UART's side -/

/-- A byte of nobody's, or a read that was interrupted, starts the silence anew. -/
theorem Fence.restart {m' : RawMonitor} (h : Fence l m now) (hclock : l.now = tick now)
    (hflushed : m'.flushedAt = m.flushedAt) (hread : ∀ read, m'.readAt = some read → read ≤ now) :
    Fence { l with guard := true, quietAt := l.now } m' now := by
  rcases h with hpending | ⟨flushed, quiet, hflushedAt, hle, hquiet, _⟩
  · exact Or.inl hpending
  · refine Or.inr ⟨flushed, now, hflushed.trans hflushedAt, Nat.le_trans hle hquiet, Nat.le_refl _, hread,
      fun _ => hclock, ?_⟩
    intro hguard
    cases hguard

/-- After a silence of `RAW_OWNER_GUARD_MS` the guard falls. -/
theorem Fence.lift (h : Fence l m now) (hflush : l.flushPending = false)
    (hguard : l.guard = true) (hquiet : rawOwnerGuardMs ≤ coreElapsed l.quietAt (tick now)) :
    Fence { l with guard := false } m now := by
  rcases h with hpending | ⟨flushed, quiet, hflushedAt, hle, hquietNow, hread, hquietAt, _⟩
  · rw [hflush] at hpending
    cases hpending
  · rw [hquietAt hguard] at hquiet
    refine Or.inr ⟨flushed, quiet, hflushedAt, hle, hquietNow, hread, ?_, ?_⟩
    · intro h
      cases h
    · exact fun _ => le_of_coreElapsed hquietNow hquiet

theorem Ownership.Lawful.read {bytes : List UartByte} (h : w.Lawful)
    (hbytes : ∀ k, w.drained = some k → ∀ b ∈ bytes, k ≤ b.index) :
    { w with read := w.read ++ bytes }.Lawful where
  kept := h.kept
  stream := h.stream
  fresh := by
    obtain ⟨k, hk, hread⟩ := h.fresh
    refine ⟨k, hk, ?_⟩
    intro b hb
    rcases List.mem_append.mp hb with hb | hb
    · exact hread b hb
    · exact hbytes k hk b hb
  fenced := h.fenced

theorem takeSerial_free (howned : l.owned = false) (data : List UInt8) :
    takeSerial l data = { l with guard := true, quietAt := l.now } := by
  simp [takeSerial, howned]

theorem takeSerial_owned (howned : l.owned = true) (data : List UInt8) :
    takeSerial l data =
      { l with
        rxProgressAt := if l.rx = [] then l.now else l.rxProgressAt
        rx := l.rx ++ data
        activityAt := l.now
        serialAt := l.now } := by
  simp [takeSerial, howned]

/-- The UART has delivered bytes. -/
theorem During.serialTaken {data : List UInt8} (h : During d l m now)
    (hallows : m.Allows (.read l.readCapacity) (.bytes data)) :
    During True (takeSerial l data) (m.see now (.read l.readCapacity) (.bytes data)) now := by
  obtain ⟨_, hlen, hdata⟩ := hallows
  have hread : ∀ read, some now = some read → read ≤ now := by
    rintro read ⟨⟩
    exact Nat.le_refl _
  cases howned : l.owned with
  | false =>
    have hfree := h.free howned
    rw [takeSerial_free howned]
    refine Free.during ?_ howned ⟨h.datagrams, h.routed, h.past, hread, h.clock⟩ (fun _ => h.clock) ?_
    · refine ⟨by simp [RawMonitor.see, hfree.current], hfree.tx, hfree.rx, fun _ => rfl, ?_⟩
      exact fun hpast => Fence.restart (hfree.fence hpast) h.clock rfl hread
    · intro _ hguard
      cases hguard
  | true =>
    obtain ⟨w, hw⟩ := h.owned howned
    obtain ⟨k, hk, hbeyond⟩ := hw.beyond
    have hroom : l.rx.length + data.length ≤ rawBufferSize := by
      have hbound := hw.buffered.rxBound
      simp only [RawListener.readCapacity, howned, if_true] at hlen
      omega
    rw [takeSerial_owned howned]
    refine Carrying.during (w := { w with read := w.read ++ m.input.take data.length }) ?_ howned
      ⟨h.datagrams, h.routed, h.past, hread, h.clock⟩
    refine ⟨by simp [RawMonitor.see, hw.current], hw.owner, hw.lawful.read ?_,
      ⟨hw.buffered.transmit, ?_, hw.buffered.txBound, by simpa using hroom⟩,
      ⟨k, hk, hbeyond.1, fun b hb => hbeyond.2 b (List.mem_of_mem_drop hb)⟩, hw.unguarded, hw.flushed⟩
    · intro k' hk' b hb
      obtain rfl := Option.some.inj (hk.symm.trans hk')
      exact hbeyond.2 b (List.mem_of_mem_take hb)
    · rw [List.map_append, ← hdata, ← hw.buffered.deliver, List.append_assoc]

/-- An empty input: all that comes now came after it. -/
theorem During.serialEmpty (h : During d l m now)
    (hbeyond : (m.see now (.read l.readCapacity) .empty).Beyond m.arrived) :
    During True l (m.see now (.read l.readCapacity) .empty) now where
  datagrams := h.datagrams
  routed := h.routed
  past := h.past
  readAt := h.readAt
  owned howned := (h.owned howned).imp fun _ hw =>
    ⟨hw.current, hw.owner, hw.lawful, hw.buffered, hw.beyond, hw.unguarded, hw.flushed⟩
  free howned :=
    have hfree := h.free howned
    ⟨hfree.current, hfree.tx, hfree.rx, hfree.pending, hfree.fence⟩
  clock := h.clock
  pending := h.pending
  fresh _ _ _ := ⟨m.arrived, rfl, hbeyond⟩

/-- The guard falls. -/
theorem During.unguard (h : During d l m now) (howned : l.owned = false) (hguard : l.guard = true)
    (hquiet : rawOwnerGuardMs ≤ coreElapsed l.quietAt l.now)
    (hfresh : ∃ k, m.drained = some k ∧ m.Beyond k) : During True { l with guard := false } m now := by
  have hfree := h.free howned
  rw [h.clock] at hquiet
  have hflush : l.flushPending = false := by
    -- a flush that has just failed is no silence
    by_contra hpending
    rw [h.pending (by simpa using hpending)] at hquiet
    simp [coreElapsed, rawOwnerGuardMs] at hquiet
  refine Free.during ⟨hfree.current, hfree.tx, hfree.rx, ?_, ?_⟩ howned
    ⟨h.datagrams, h.routed, h.past, h.readAt, h.clock⟩ h.pending fun _ _ => hfresh
  · intro hpending
    exact absurd (hflush.symm.trans hpending) (by simp)
  · exact fun hpast => (hfree.fence hpast).lift hflush hguard hquiet

theorem safe_serialRead (h : During d l m now) : KeepsDuring True now (serialRead l) m := by
  unfold serialRead
  split
  · -- only the buffer of an owner is ever full
    rename_i hfull
    refine During.done ⟨h.toHolds, h.clock, h.pending, ?_⟩
    intro _ howned
    simp [RawListener.readCapacity, howned, uartIoBudget] at hfull
  · refine h.call fun m h r hallows => ?_
    cases r with
    | bytes data => exact (h.serialTaken hallows).done
    | failed => exact safe_releaseFaulted h
    | interrupted =>
      refine During.done ?_
      split
      · rename_i hfree
        have howned : l.owned = false := by simpa using hfree
        have hfree := h.free howned
        refine Free.during ⟨hfree.current, hfree.tx, hfree.rx, fun _ => rfl, ?_⟩ howned
          ⟨h.datagrams, h.routed, h.past, h.readAt, h.clock⟩ (fun _ => h.clock) ?_
        · exact fun hpast => Fence.restart (hfree.fence hpast) h.clock rfl h.readAt
        · intro _ hguard
          cases hguard
      · rename_i howned
        refine ⟨h.toHolds, h.clock, h.pending, ?_⟩
        intro _ hfree
        simp [hfree] at howned
    | empty =>
      have hbeyond : (m.see now (.read l.readCapacity) .empty).Beyond m.arrived := by
        refine ⟨Nat.le_refl _, ?_⟩
        intro b hb
        rw [show (m.see now (.read l.readCapacity) .empty).input = [] from hallows] at hb
        cases hb
      have h := h.serialEmpty hbeyond
      refine During.done ?_
      split
      · rename_i hlift
        simp only [Bool.and_eq_true, Bool.not_eq_true', decide_eq_true_eq] at hlift
        obtain ⟨⟨howned, hguard⟩, hquiet⟩ := hlift
        exact h.unguard howned hguard hquiet ⟨_, rfl, hbeyond⟩
      · exact h

theorem Ownership.Buffered.write (h : w.Buffered tx rx) (n : Nat) :
    { w with written := w.written ++ tx.take n }.Buffered (tx.drop n) rx where
  transmit := by rw [List.append_assoc, List.take_append_drop, h.transmit]
  deliver := h.deliver
  txBound := by
    rw [List.length_drop]
    exact Nat.le_trans (Nat.sub_le _ _) h.txBound
  rxBound := h.rxBound

theorem Ownership.Buffered.send (h : w.Buffered tx rx) (n : Nat) :
    { w with sent := w.sent ++ rx.take n }.Buffered tx (rx.drop n) where
  transmit := h.transmit
  deliver := by rw [List.append_assoc, List.take_append_drop, h.deliver]
  txBound := h.txBound
  rxBound := by
    rw [List.length_drop]
    exact Nat.le_trans (Nat.sub_le _ _) h.rxBound

theorem note_of_current {who : Option RawOwner} {f : Ownership → Ownership}
    (hcur : m.current = some w) (hwho : who = none ∨ who = some w.owner) :
    m.note who f = { m with current := some (f w) } := by
  simp [RawMonitor.note, hcur, hwho]

/-- Buffers and times apart, the listener is the same. -/
structure SameOwner (l l' : RawListener σ κ) : Prop where
  owned : l'.owned = l.owned
  owner : l'.owner = l.owner
  guard : l'.guard = l.guard
  flushPending : l'.flushPending = l.flushPending
  udp : l'.udp = l.udp
  clientFd : l'.clientFd = l.clientFd
  now : l'.now = l.now

theorem SameOwner.refl (l : RawListener σ κ) : SameOwner l l := ⟨rfl, rfl, rfl, rfl, rfl, rfl, rfl⟩

/-- Something is exchanged with the owner. -/
theorem Carrying.note {who : Option RawOwner} {f : Ownership → Ownership} (h : During d l m now)
    (hw : Carrying l m w) (howned : l.owned = true) (hwho : who = none ∨ who = some w.owner)
    (hl : SameOwner l l') (hf : (f w).owner = w.owner ∧ (f w).drained = w.drained) (hlawful : (f w).Lawful)
    (hbuf : (f w).Buffered l'.tx l'.rx) : During d l' (m.note who f) now := by
  rw [note_of_current hw.current hwho]
  obtain ⟨k, hk, hbeyond⟩ := hw.beyond
  refine Carrying.during (w := f w) ?_ (hl.owned.trans howned) ⟨?_, h.routed, h.past, h.readAt, ?_⟩
  · exact ⟨rfl, hf.1.trans (hw.owner.trans hl.owner.symm), hlawful, hbuf, ⟨k, hf.2.trans hk, hbeyond⟩,
      hl.guard.trans hw.unguarded, hl.flushPending.trans hw.flushed⟩
  · rw [hl.udp, hl.clientFd]
    exact h.datagrams
  · exact hl.now.trans h.clock

/-- Only the buffers of an owner hold anything. -/
theorem Holds.owned_of_tx (h : Holds l m now) (htx : l.tx ≠ []) : l.owned = true := by
  cases howned : l.owned with
  | true => rfl
  | false => exact absurd (h.free howned).tx htx

/-- The UART has taken `n` bytes. -/
theorem During.written {n : Nat} (h : During d l m now) (htx : l.tx ≠ [])
    (hn : n ≤ (l.tx.take uartIoBudget).length) (hl : SameOwner l l') (htx' : l'.tx = l.tx.drop n)
    (hrx : l'.rx = l.rx) :
    During d l' (m.see now (.write (l.tx.take uartIoBudget)) (.count n)) now := by
  have howned := h.owned_of_tx htx
  obtain ⟨w, hw⟩ := h.owned howned
  have htake : (l.tx.take uartIoBudget).take n = l.tx.take n := by
    rw [List.length_take] at hn
    rw [List.take_take, Nat.min_eq_left (by omega)]
  refine Carrying.note h hw howned (Or.inl rfl) hl ⟨rfl, rfl⟩ ?_ ?_
  · exact ⟨hw.lawful.kept, hw.lawful.stream, hw.lawful.fresh, hw.lawful.fenced⟩
  · rw [htake, htx', hrx]
    exact hw.buffered.write n

theorem safe_serialWrite (h : During d l m now) : KeepsDuring d now (serialWrite l) m := by
  unfold serialWrite
  split
  · exact h.done
  · rename_i htx
    have htx : l.tx ≠ [] := by simpa using htx
    refine h.call fun m h r hallows => ?_
    cases r with
    | count n =>
      dsimp only
      split
      · exact During.done (h.written htx hallows ⟨rfl, rfl, rfl, rfl, rfl, rfl, rfl⟩ rfl rfl)
      · rename_i hn
        obtain rfl : n = 0 := by omega
        exact (h.written htx hallows (.refl l) (by simp) rfl).done
    | transient => exact h.done
    | failed => exact safe_releaseFaulted h

/-! ## The network's side -/

/-- The owner has taken `n` bytes. -/
theorem During.sent {n : Nat} (h : During d l m now) (howned : l.owned = true) (hl : SameOwner l l')
    (htx : l'.tx = l.tx) (hrx : l'.rx = l.rx.drop n) :
    During d l' (m.note (some l.owner) fun w => { w with sent := w.sent ++ l.rx.take n }) now := by
  obtain ⟨w, hw⟩ := h.owned howned
  refine Carrying.note h hw howned (Or.inr (congrArg some hw.owner.symm)) hl ⟨rfl, rfl⟩ ?_ ?_
  · exact ⟨hw.lawful.kept, hw.lawful.stream, hw.lawful.fresh, hw.lawful.fenced⟩
  · rw [htx, hrx]
    exact hw.buffered.send n

/-- What is sent is sent to the owner, whatever comes of it. -/
theorem safe_afterSend {r : RawWrite} {m' : RawMonitor} (h : During d l m now) (howned : l.owned = true)
    (hm' : m' = match r with
      | .count n => m.note (some l.owner) fun w => { w with sent := w.sent ++ l.rx.take n }
      | .transient | .failed => m) : KeepsDuring d now (afterSend l r) m' := by
  rw [hm']
  cases r with
  | count n =>
    by_cases hn : n > 0
    · rw [afterSend, if_pos hn]
      exact During.done (h.sent howned ⟨rfl, rfl, rfl, rfl, rfl, rfl, rfl⟩ rfl rfl)
    · obtain rfl : n = 0 := by omega
      exact (h.sent howned (.refl l) rfl (by simp)).done
  | transient => exact h.done
  | failed => exact safe_release h.leaving

theorem safe_sendDatagram (h : During d l m now) (howned : l.owned = true) (hudp : l.udp = true) :
    KeepsDuring d now (sendDatagram l) m := by
  have howner : l.owner = .peer l.peer := by simp [RawListener.owner, h.datagrams hudp]
  refine h.call fun m h r _ => ?_
  cases r with
  | count n =>
    dsimp only
    split
    · -- the bytes that went out are the owner's, and it is released
      have hsent : During d { l with rx := l.rx.drop n } (m.see now (.sendto l.peer l.rx) (.count n)) now := by
        simp only [RawMonitor.see]
        rw [← howner]
        exact h.sent howned ⟨rfl, rfl, rfl, rfl, rfl, rfl, rfl⟩ rfl rfl
      refine safe_release ⟨hsent.isolated, hsent.readAt, hsent.clock, ?_⟩
      intro hfree
      rw [howned] at hfree
      cases hfree
    · exact safe_afterSend h howned (by simp only [RawMonitor.see, howner])
  | transient | failed => exact safe_afterSend h howned rfl

theorem safe_networkSend (h : During d l m now) : KeepsDuring d now (networkSend l) m := by
  unfold networkSend
  split
  · exact h.done
  · rename_i hsend
    simp only [Bool.or_eq_true, Bool.not_eq_true', not_or, Bool.not_eq_false] at hsend
    obtain ⟨howned, _⟩ := hsend
    split
    · rename_i hudp
      split
      · exact h.done
      · exact safe_sendDatagram h howned hudp
    · cases hclient : l.clientFd with
      | none => exact h.done
      | some fd =>
        have howner : l.owner = .connection fd := by simp [RawListener.owner, hclient]
        refine h.call fun m h r _ => ?_
        refine safe_afterSend h howned ?_
        cases r with
        | count n => simp only [RawMonitor.see, howner]
        | transient | failed => rfl

theorem Ownership.Lawful.receive (h : w.Lawful) (data : List UInt8) : (w.receive data).Lawful where
  kept := by
    unfold Ownership.receive
    dsimp only
    split
    · exact h.kept.append (List.Sublist.refl _)
    · exact h.kept.trans (List.sublist_append_left _ _)
  stream fd hfd := by
    have howner : w.owner = .connection fd := hfd
    have hkept := h.stream fd howner
    simp [Ownership.receive, Ownership.fits, howner, hkept]
  fresh := h.fresh
  fenced := h.fenced

/-- What is received joins the transmit buffer when it fits. -/
theorem Ownership.Buffered.receive (h : w.Buffered tx rx) (data : List UInt8)
    (hroom : w.fits data = true → data.length ≤ rawBufferSize - tx.length) :
    (w.receive data).Buffered (if w.fits data then tx ++ data else tx) rx := by
  have hbound := h.txBound
  cases hfits : w.fits data with
  | true =>
    have hroom := hroom hfits
    refine ⟨?_, h.deliver, ?_, h.rxBound⟩
    · simp [Ownership.receive, hfits, ← h.transmit]
    · simp only [if_true, List.length_append]
      omega
  | false => exact ⟨by simp [Ownership.receive, hfits, h.transmit], h.deliver, by simpa using hbound, h.rxBound⟩

/-- For a datagram to fit is to be no longer than what is free. -/
theorem Ownership.Buffered.fits_iff (h : w.Buffered tx rx) {peer : Peer} (howner : w.owner = .peer peer)
    (data : List UInt8) :
    w.fits data = true ↔ data.length ≤ rawBufferSize - tx.length := by
  have hlen := congrArg List.length h.transmit
  rw [List.length_append] at hlen
  have hfree : w.kept.flatten.length - w.written.length = tx.length := by omega
  unfold Ownership.fits
  rw [howner]
  dsimp only
  rw [hfree, decide_eq_true_eq]

/-- **An owner is admitted** to a line that is fenced and drained. -/
theorem During.admits (h : During True l m now) (howned : l.owned = false) (hguard : l.guard = false)
    (owner : RawOwner) : (m.blank now owner).Lawful ∧ l.flushPending = false := by
  have hfree := h.free howned
  have hflush : l.flushPending = false := by
    by_contra hpending
    have := hfree.pending (by simpa using hpending)
    exact absurd (hguard.symm.trans this) (by simp)
  obtain ⟨k, hk, _⟩ := h.fresh trivial howned hguard
  refine ⟨⟨List.Sublist.refl _, fun _ _ => rfl, ⟨k, hk, ?_⟩, ?_⟩, hflush⟩
  · intro b hb
    cases hb
  · cases hpast : m.past with
    | nil => exact Or.inl (by simp [RawMonitor.blank, hpast])
    | cons w past =>
      rcases hfree.fence (by simp [hpast]) with hpending |
        ⟨flushed, quiet, hflushed, hle, hquiet, hread, _, hopen⟩
      · exact absurd (hflush.symm.trans hpending) (by simp)
      · have hsilence := hopen hguard
        refine Or.inr ⟨flushed, hflushed, Nat.le_trans (Nat.add_le_add_right hle _) hsilence, ?_⟩
        intro read hread'
        exact Nat.le_trans (Nat.add_le_add_right (hread read hread') _) hsilence

theorem buffered_blank (m : RawMonitor) (now : Nat) (owner : RawOwner) :
    (m.blank now owner).Buffered [] [] :=
  ⟨rfl, rfl, Nat.zero_le _, Nat.zero_le _⟩

theorem Lawful.begins {owner : RawOwner} (h : (m.blank now owner).Lawful) : (m.begins now owner).Lawful := by
  unfold RawMonitor.begins
  split
  · split
    · exact h.receive _
    · exact h
  · exact h

@[simp] theorem begins_owner (owner : RawOwner) : (m.begins now owner).owner = owner := by
  unfold RawMonitor.begins
  split
  · split <;> rfl
  · rfl

@[simp] theorem begins_drained (owner : RawOwner) : (m.begins now owner).drained = m.drained := by
  unfold RawMonitor.begins
  split
  · split <;> rfl
  · rfl

/-- The ownership begins: `tx` is what the monitor has the new owner's bytes. -/
theorem During.acquired {owner : RawOwner} (h : During True l m now) (howned : l.owned = false)
    (hguard : l.guard = false) (howner : l'.owner = owner) (hudp : l'.udp = true → l'.clientFd = none)
    (hl : l'.owned = true ∧ l'.guard = l.guard ∧ l'.flushPending = l.flushPending ∧ l'.now = l.now)
    (hbuf : (m.begins now owner).Buffered l'.tx l'.rx) (r : Unit) :
    During True l' (m.see now (.acquired owner) r) now := by
  obtain ⟨howned', hguard', hflush', hnow⟩ := hl
  obtain ⟨hlawful, hflush⟩ := h.admits howned hguard owner
  obtain ⟨k, hk, hbeyond⟩ := h.fresh trivial howned hguard
  have hpast : m.past ++ m.current.toList = m.past := by simp [(h.free howned).current]
  refine Carrying.during (w := m.begins now owner) ?_ howned' ⟨hudp, h.routed, ?_, h.readAt, ?_⟩
  · exact ⟨rfl, (begins_owner _).trans howner.symm, Lawful.begins hlawful, hbuf,
      ⟨k, (begins_drained _).trans hk, hbeyond⟩, hguard'.trans hguard, hflush'.trans hflush⟩
  · intro w hw
    refine h.past w ?_
    simpa only [RawMonitor.see, hpast] using hw
  · exact hnow.trans h.clock

/-- The loops over the network budget keep the invariant and the socket's kind. -/
abbrev KeepsKind (now : Nat) (udp : Bool) (p : RawProg (RawListener σ κ)) (m : RawMonitor) : Prop :=
  RawSafe now (fun l' m' => During True l' m' now ∧ l'.udp = udp) p m

variable {udp : Bool}

theorem During.doneKind (h : During True l m now) (hudp : l.udp = udp) : KeepsKind now udp (pure l) m :=
  ⟨h.isolated, h, hudp⟩

/-- A datagram from the owner: it joins `tx` if it fits. -/
theorem During.fromOwner {sender : Peer} {data : List UInt8} (h : During True l m now)
    (howned : l.owned = true) (howner : l.owner = .peer sender) (hl : SameOwner l l') (hrx : l'.rx = l.rx)
    (htx : l'.tx = if data.length ≤ rawBufferSize - l.tx.length then l.tx ++ data else l.tx) :
    During True l' (m.see now .recvfrom (some (data, some sender))) now := by
  obtain ⟨w, hw⟩ := h.owned howned
  have howner' : w.owner = .peer sender := hw.owner.trans howner
  have hfits := hw.buffered.fits_iff howner' data
  have hnote : m.see now .recvfrom (some (data, some sender)) =
      { m.note none (fun w => w.receive data) with datagram := some (sender, data) } := by
    simp [RawMonitor.see, RawMonitor.note, hw.current, howner']
  have hbuf : (w.receive data).Buffered l'.tx l'.rx := by
    rw [htx, hrx]
    simpa only [hfits] using hw.buffered.receive _ hfits.1
  have hkept : During True l' (m.note none fun w => w.receive data) now :=
    Carrying.note h hw howned (Or.inl rfl) hl ⟨rfl, rfl⟩ (hw.lawful.receive data) hbuf
  rw [hnote]
  exact ⟨⟨hkept.datagrams, hkept.routed, hkept.past, hkept.readAt,
    fun howned => (hkept.owned howned).imp fun _ hw => ⟨hw.current, hw.owner, hw.lawful, hw.buffered,
      hw.beyond, hw.unguarded, hw.flushed⟩,
    fun howned =>
      have hfree := hkept.free howned
      ⟨hfree.current, hfree.tx, hfree.rx, hfree.pending, hfree.fence⟩⟩,
    hkept.clock, hkept.pending, hkept.fresh⟩

/-- A datagram from anybody else is not the owner's. -/
theorem During.fromOther (h : During True l m now) (sender : Peer) (data : List UInt8)
    (hother : l.owned = true → l.owner ≠ .peer sender) :
    During True l (m.see now .recvfrom (some (data, some sender))) now := by
  cases howned : l.owned with
  | true =>
    obtain ⟨w, hw⟩ := h.owned howned
    have howner : w.owner ≠ .peer sender := hw.owner ▸ hother howned
    refine Carrying.during (w := w) ⟨?_, hw.owner, hw.lawful, hw.buffered, hw.beyond, hw.unguarded,
      hw.flushed⟩ howned ⟨h.datagrams, h.routed, h.past, h.readAt, h.clock⟩
    simp [RawMonitor.see, hw.current, howner]
  | false =>
    have hfree := h.free howned
    exact Free.during ⟨by simp [RawMonitor.see, hfree.current], hfree.tx, hfree.rx, hfree.pending, hfree.fence⟩
      howned ⟨h.datagrams, h.routed, h.past, h.readAt, h.clock⟩ h.pending fun _ => h.fresh trivial howned

/-- The first datagram of an owner begins its ownership. -/
theorem safe_firstDatagram {sender : Peer} {data : List UInt8} (h : During True l m now)
    (hudp : l.udp = true) (howned : l.owned = false) (hguard : l.guard = false)
    (hdatagram : m.datagram = some (sender, data)) (hlen : data.length ≤ rawBufferSize) :
    KeepsKind now true
      (do let l ← acquire { l with peer := sender }
          pure (keepReceived l data)) m := by
  have hclient := h.datagrams hudp
  have hfree := h.free howned
  refine Prog.Safe.bind (safe_rawCall h.isolated fun bytes r _ => ?_)
  have h := h.arrive bytes
  have hbegins : (m.arrive bytes).begins now (.peer sender) =
      ((m.arrive bytes).blank now (.peer sender)).receive data := by
    simp [RawMonitor.begins, show (m.arrive bytes).datagram = some (sender, data) from hdatagram]
  have hacquired : During True
      (keepReceived { l with
        peer := sender, owned := true, eof := false
        activityAt := l.now, txProgressAt := l.now, rxProgressAt := l.now } data)
      ((m.arrive bytes).see now (.acquired { l with peer := sender }.owner) r) now := by
    have howner : { l with peer := sender }.owner = .peer sender := by simp [RawListener.owner, hclient]
    rw [howner]
    refine During.acquired h howned hguard ?_ ?_ ?_ ?_ r
    · exact howner
    · exact fun _ => hclient
    · exact ⟨rfl, rfl, rfl, rfl⟩
    have hbuf := (buffered_blank (m.arrive bytes) now (.peer sender)).receive data fun _ => hlen
    have hfits : ((m.arrive bytes).blank now (.peer sender)).fits data = true := by
      simpa [Ownership.fits, RawMonitor.blank] using hlen
    rw [hfits, if_pos rfl] at hbuf
    rw [hbegins]
    simpa [keepReceived, hfree.tx, hfree.rx] using hbuf
  exact ⟨hacquired.isolated, hacquired.isolated, hacquired, hudp⟩

theorem safe_takeDatagram (h : During True l m now) (hudp : l.udp = true) (data : List UInt8)
    (sender : Option Peer) :
    KeepsKind now true (takeDatagram l data sender) (m.see now .recvfrom (some (data, sender))) := by
  unfold takeDatagram
  cases sender with
  | none => exact h.doneKind hudp
  | some sender =>
    have howner : l.owner = .peer l.peer := by simp [RawListener.owner, h.datagrams hudp]
    by_cases hsame : l.owned = true ∧ sender = l.peer
    · -- from the owner
      obtain ⟨howned, rfl⟩ := hsame
      obtain ⟨w, hw⟩ := h.owned howned
      have hroom := hw.buffered.txBound
      simp only [howned, hw.unguarded, ne_eq, not_true_eq_false, and_false, or_self, if_false, if_true,
        Bool.false_eq_true]
      split
      · rename_i hlen
        refine During.doneKind (h.fromOwner howned howner (.refl l) rfl ?_) hudp
        rcases hlen with hempty | hlong
        · simp [List.length_eq_zero_iff.mp hempty]
        · rw [if_neg (by omega)]
      split
      · refine During.doneKind (h.fromOwner howned howner (.refl l) rfl ?_) hudp
        rw [if_neg (by omega)]
      · refine During.doneKind (h.fromOwner howned howner ⟨rfl, rfl, rfl, rfl, rfl, rfl, rfl⟩ rfl ?_) hudp
        rw [if_pos (by omega)]
        rfl
    · have hother := h.fromOther sender data (by
        intro howned heq
        rw [howner] at heq
        exact hsame ⟨howned, (RawOwner.peer.inj heq).symm⟩)
      dsimp only
      split
      · exact hother.doneKind hudp
      split
      · exact hother.doneKind hudp
      split
      · exact hother.doneKind hudp
      · rename_i hlen hguard _
        push Not at hlen hguard
        split
        · rename_i howned
          exact absurd ⟨howned, hguard.2 howned⟩ hsame
        · rename_i howned
          exact safe_firstDatagram hother hudp (by simpa using howned) (by simpa using hguard.1) rfl hlen.2

theorem safe_receiveDatagrams (budget : Nat) (h : During True l m now) (hudp : l.udp = true) :
    KeepsKind now true (receiveDatagrams budget l) m := by
  induction budget generalizing l m with
  | zero => exact h.doneKind hudp
  | succ budget ih =>
    refine h.call fun m h r _ => ?_
    cases r with
    | none => exact h.doneKind hudp
    | some datagram =>
      refine Prog.Safe.bind (Prog.Safe.mono (safe_takeDatagram h hudp datagram.1 datagram.2) ?_)
      intro l' m' _ h
      exact ih h.1 h.2

theorem safe_takeClient (h : During True l m now) (hudp : l.udp = false) (fd : Nat) :
    KeepsKind now false (takeClient l fd) m := by
  unfold takeClient
  split
  · exact h.call fun m h _ _ => h.doneKind hudp
  · rename_i hfree
    push Not at hfree
    have howned : l.owned = false := by simpa using hfree.1
    have hguard : l.guard = false := by simpa using hfree.2
    refine h.call fun m h ready _ => ?_
    cases ready with
    | false => exact During.call h fun m h _ _ => h.doneKind hudp
    | true =>
      refine During.call h fun m h r _ => ?_
      have hfree := h.free howned
      refine During.doneKind ?_ hudp
      refine During.acquired h howned hguard ?_ ?_ ?_ ?_ r
      · rfl
      · intro hudp'
        exact absurd (hudp.symm.trans hudp') (by simp)
      · exact ⟨rfl, rfl, rfl, rfl⟩
      · have hbegins : m.begins now (.connection fd) = m.blank now (.connection fd) := by
          unfold RawMonitor.begins
          split <;> simp
        have hbuf := buffered_blank m now (.connection fd)
        simpa [RawListener.owner, hbegins, hfree.tx, hfree.rx] using hbuf

theorem safe_acceptClients (budget : Nat) (h : During True l m now) (hudp : l.udp = false) :
    KeepsKind now false (acceptClients budget l) m := by
  induction budget generalizing l m with
  | zero => exact h.doneKind hudp
  | succ budget ih =>
    refine h.call fun m h r _ => ?_
    cases r with
    | none => exact h.doneKind hudp
    | some fd =>
      refine Prog.Safe.bind (Prog.Safe.mono (safe_takeClient h hudp fd) ?_)
      intro l' m' _ h
      exact ih h.1 h.2

theorem safe_receiveStream (h : During d l m now) : KeepsDuring d now (receiveStream l) m := by
  unfold receiveStream
  split
  · exact h.done
  · rename_i hreceive
    simp only [Bool.or_eq_true, Bool.not_eq_true', not_or, Bool.not_eq_false, decide_eq_true_eq] at hreceive
    obtain ⟨⟨howned, _⟩, _⟩ := hreceive
    cases hclient : l.clientFd with
    | none => exact h.done
    | some fd =>
      refine h.call fun m h r hallows => ?_
      obtain ⟨w, hw⟩ := h.owned howned
      have howner : w.owner = .connection fd := hw.owner.trans (by simp [RawListener.owner, hclient])
      cases r with
      | bytes data =>
        have hfits : w.fits data = true := by simp [Ownership.fits, howner]
        have hbuf := hw.buffered.receive data fun _ => hallows.2
        rw [hfits, if_pos rfl] at hbuf
        exact During.done (Carrying.note h hw howned (Or.inr (by rw [howner]))
          ⟨rfl, rfl, rfl, rfl, rfl, rfl, rfl⟩ ⟨rfl, rfl⟩ (hw.lawful.receive data) hbuf)
      | eof =>
        refine During.done (Carrying.during (w := w) ?_ howned ⟨?_, h.routed, h.past, h.readAt, h.clock⟩)
        · exact ⟨hw.current, howner, hw.lawful, hw.buffered, hw.beyond, hw.unguarded, hw.flushed⟩
        · rw [← hclient]
          exact h.datagrams
      | transient => exact h.done
      | failed => exact safe_release h.leaving

theorem safe_networkReceive (h : During True l m now) : KeepsDuring True now (networkReceive l) m := by
  unfold networkReceive
  split
  · rename_i hudp
    exact Prog.Safe.mono (safe_receiveDatagrams rawNetworkBudget h hudp) fun _ _ _ h => h.1
  · rename_i hudp
    refine Prog.Safe.bind (Prog.Safe.mono (safe_acceptClients rawNetworkBudget h (by simpa using hudp)) ?_)
    intro l' m' _ h
    exact safe_receiveStream h.1

/-! ## The step -/

theorem KeepsDuring.bind {p : RawProg (RawListener σ κ)} {f : RawListener σ κ → RawProg (RawListener σ κ)}
    {d' : Prop} (h : KeepsDuring d now p m)
    (hf : ∀ (l' : RawListener σ κ) m', During d l' m' now → KeepsDuring d' now (f l') m') :
    KeepsDuring d' now (p >>= f) m :=
  Prog.Safe.bind (Prog.Safe.mono h fun l' m' _ h => hf l' m' h)

theorem safe_whenReady {next : RawListener σ κ → RawProg (RawListener σ κ)} (h : During d l m now)
    (hnext : KeepsDuring d now (next l) m) : KeepsDuring d now (whenReady next l) m := by
  unfold whenReady
  split
  · exact hnext
  · exact h.done

theorem safe_transfer (h : During d l m now) : KeepsDuring True now (transfer l) m := by
  refine KeepsDuring.bind (safe_serialRead h) fun l m h => safe_whenReady h ?_
  refine KeepsDuring.bind (safe_networkReceive h) fun l m h => safe_whenReady h ?_
  refine KeepsDuring.bind (safe_serialWrite h) fun l m h => safe_whenReady h ?_
  exact safe_networkSend h

theorem safe_serve (h : During False l m now) (at' : CoreTick) :
    KeepsDuring False now (serve l at') m := by
  have hrelease : ∀ (l : RawListener σ κ) m, During False l m now → ∀ leaves : Bool,
      KeepsDuring False now (if leaves then releaseOnly l else pure l) m := by
    intro l m h leaves
    cases leaves with
    | true => exact safe_release h.leaving
    | false => exact h.done
  refine KeepsDuring.bind (hrelease l m h _) fun l m h => ?_
  refine KeepsDuring.bind (hrelease l m h _) fun l m h => ?_
  exact safe_whenReady h (Prog.Safe.mono (safe_transfer h) fun _ _ _ h => h.weaken)

/-- A flush that has succeeded fences the line from now on. -/
theorem Holds.afterFlush (h : Holds l m now) (hclock : l.now = tick now) (hpending : l.flushPending = true) :
    During False { l with flushPending := false, guard := true, quietAt := l.now } (m.see now .flush true)
      now := by
  cases howned : l.owned with
  | true =>
    obtain ⟨w, hw⟩ := h.owned howned
    exact absurd (hw.flushed.symm.trans hpending) (by simp)
  | false =>
    have hfree := h.free howned
    refine Free.during ⟨hfree.current, hfree.tx, hfree.rx, fun _ => rfl, ?_⟩ rfl
      ⟨h.datagrams, h.routed, h.past, h.readAt, hclock⟩ (fun _ => hclock) (fun hd => hd.elim)
    intro _
    refine Or.inr ⟨now, now, rfl, Nat.le_refl _, Nat.le_refl _, h.readAt, fun _ => hclock, ?_⟩
    intro hguard
    cases hguard

theorem Holds.withPort (h : Holds l m now) (port : PortRuntime σ κ) (uartOpen : Bool) (at' : CoreTick) :
    Holds { l with port, uartOpen, now := at' } m now where
  datagrams := h.datagrams
  routed := h.routed
  past := h.past
  readAt := h.readAt
  owned howned := (h.owned howned).imp fun _ hw =>
    ⟨hw.current, hw.owner, hw.lawful, hw.buffered, hw.beyond, hw.unguarded, hw.flushed⟩
  free howned :=
    have hfree := h.free howned
    ⟨hfree.current, hfree.tx, hfree.rx, hfree.pending, hfree.fence⟩

theorem safe_flushBoundary (h : Holds l m now) (hclock : l.now = tick now) :
    RawSafe now (fun r m' => Holds r.2 m' now ∧ (r.1 = true → During False r.2 m' now))
      (flushBoundary l) m := by
  unfold flushBoundary
  split
  · rename_i hpending
    have hduring : During False l m now :=
      ⟨h, hclock, fun hpending' => absurd hpending' (by simpa using hpending), fun hd => hd.elim⟩
    exact ⟨h.isolated, h, fun _ => hduring⟩
  rename_i hpending
  split
  · exact ⟨h.isolated, h, by simp⟩
  · refine safe_rawCall h.isolated fun bytes flushed _ => ?_
    have h := h.arrive bytes
    cases flushed with
    | false =>
      have hfault := h.withPort (serialFault l).port l.uartOpen l.now
      exact ⟨hfault.isolated, hfault, by simp⟩
    | true =>
      have hduring := h.afterFlush hclock (by simpa using hpending)
      exact ⟨hduring.isolated, hduring.toHolds, fun _ => hduring⟩

/-- **A step keeps the invariant.** -/
theorem safe_rawStep (h : Holds l m now) :
    RawSafe now (fun l' m' => Holds l' m' now) (rawStep l (tick now)) m := by
  unfold rawStep
  split
  · exact ⟨h.isolated, h⟩
  · have h := h.withPort l.port l.uartOpen (tick now)
    refine Prog.Safe.bind (Prog.Safe.mono (safe_flushBoundary h rfl) ?_)
    rintro ⟨bounded, l'⟩ m' _ ⟨h, hduring⟩
    cases bounded with
    | false => exact ⟨h.isolated, h⟩
    | true => exact Prog.Safe.mono (safe_serve (hduring rfl) (tick now)) fun _ _ _ h => h.toHolds

/-- Between the steps time goes by and input may be lost. -/
theorem Holds.later {now' : Nat} {input : List UartByte} (h : Holds l m now) (hnow : now ≤ now')
    (hinput : input.Sublist m.input) : Holds l { m with input, drained := none } now' where
  datagrams := h.datagrams
  routed := h.routed
  past := h.past
  readAt read hread := Nat.le_trans (h.readAt read hread) hnow
  owned howned := by
    obtain ⟨w, hw⟩ := h.owned howned
    obtain ⟨k, hk, hbeyond⟩ := hw.beyond
    exact ⟨w, hw.current, hw.owner, hw.lawful, hw.buffered,
      ⟨k, hk, hbeyond.1, fun b hb => hbeyond.2 b (hinput.subset hb)⟩, hw.unguarded, hw.flushed⟩
  free howned :=
    have hfree := h.free howned
    ⟨hfree.current, hfree.tx, hfree.rx, hfree.pending, fun hpast => (hfree.fence hpast).mono hnow⟩

theorem holds_init (port : PortRuntime σ κ) (uartOpen udp : Bool) (now : Nat) :
    Holds { rawInit port uartOpen udp with opened := true } {} now where
  datagrams _ := rfl
  routed := rfl
  past w hw := by cases hw
  readAt read hread := by cases hread
  owned howned := by cases howned
  free _ := ⟨rfl, rfl, rfl, fun hpending => hpending, fun hpast => absurd rfl hpast⟩

theorem RawRun.holds {o : Option (RawListener σ κ)} (hrun : RawRun udp o m now) :
    m.Isolated ∧ ∀ l, o = some l → Holds l m now := by
  induction hrun with
  | init port uartOpen now =>
    have h := holds_init port uartOpen udp now
    refine ⟨h.isolated, ?_⟩
    rintro l ⟨⟩
    exact h
  | @step l _ _ _ _ now port uartOpen input _ hnow hinput h ih =>
    have hbefore := ((ih.2 l rfl).later hnow hinput).withPort port uartOpen l.now
    exact (safe_rawStep hbefore).runs h

/-- **The owners are kept apart**, at every call of every step: what is written to the UART is
    what the owner sent that fits, what is sent to the owner is what the UART delivered after it
    was drained for this owner, and every new owner finds the line flushed and silent. Between
    the steps neither buffer is over its size. -/
theorem isolated_of_rawRun {o : Option (RawListener σ κ)} (hrun : RawRun udp o m now) :
    m.Isolated ∧ ∀ l, o = some l → l.tx.length ≤ rawBufferSize ∧ l.rx.length ≤ rawBufferSize := by
  refine ⟨hrun.holds.1, ?_⟩
  intro l hl
  exact (hrun.holds.2 l hl).bounded

/-! ## A run -/

/-- A peer sends three datagrams, the second too long; a byte arrives at the UART before the
    first. All calls succeed. -/
def RawMonitor.answer (m : RawMonitor) : (call : RawCall) → List UInt8 × call.Result
  | .flush => ([], true)
  | .read capacity =>
      ([], if m.input = [] then .empty
        else if capacity = 0 then .interrupted
        else .bytes ((m.input.take capacity).map (·.value)))
  | .write data | .send _ data | .sendto _ data => ([], .count data.length)
  | .accept => ([], none)
  | .nonblock _ => ([], true)
  | .close _ | .acquired _ | .released => ([], ())
  | .recv _ _ => ([], .transient)
  | .recvfrom =>
      match m.current.map fun w => w.received.length with
      | none => ([7], some ([1], some default))
      | some 1 => ([], some (List.replicate 1025 2, some default))
      | some 2 => ([], some ([3], some default))
      | some _ => ([], none)

def RawMonitor.play (now : Nat) (call : RawCall) (m : RawMonitor) : call.Result × RawMonitor :=
  ((m.answer call).2, (m.arrive (m.answer call).1).see now call (m.answer call).2)

theorem rawWorld_play (now : Nat) (call : RawCall) (m : RawMonitor) :
    rawWorld now call m (m.play now call).1 (m.play now call).2 := by
  refine ⟨(m.answer call).1, ?_, rfl⟩
  cases call with
  | read capacity =>
    have hinput : (m.arrive []).input = m.input := by simp [RawMonitor.arrive]
    simp only [RawMonitor.play, RawMonitor.answer]
    split
    · rename_i hempty
      exact hinput.trans hempty
    rename_i hsome
    split
    · trivial
    · rename_i hcapacity
      refine ⟨?_, ?_, ?_⟩
      · simp [hcapacity, hsome]
      · simp
      · rw [hinput]
        simp
  | write data | send fd data | sendto peer data => exact Nat.le_refl _
  | recv fd capacity => trivial
  | recvfrom | flush | accept | nonblock fd | close fd | acquired owner | released => trivial

def readyPort : PortRuntime Unit Unit :=
  { portRuntimeInit 0 default none () () [] with state := .ready }

def playStep (now : Nat) (s : RawListener Unit Unit × RawMonitor) : RawListener Unit Unit × RawMonitor :=
  Prog.eval (fun call m => m.play now call) (rawStep { s.1 with port := readyPort, uartOpen := true } (tick now))
    { s.2 with drained := none }

theorem rawRun_playStep {s : RawListener Unit Unit × RawMonitor} {t now : Nat}
    (hrun : RawRun udp (some s.1) s.2 t) (hnow : t ≤ now) :
    RawRun udp (some (playStep now s).1) (playStep now s).2 now :=
  .step now readyPort true s.2.input hrun hnow (List.Sublist.refl _)
    (Prog.runs_eval (rawWorld_play now) _ _)

/-- Three steps: the owner is acquired, the byte is read, the byte is sent. -/
def playRun : RawListener Unit Unit × RawMonitor :=
  playStep 10 (playStep 0 (playStep 0 ({ rawInit readyPort true true with opened := true }, {})))

theorem rawRun_playRun : RawRun true (some playRun.1) playRun.2 10 := by
  refine rawRun_playStep (rawRun_playStep (rawRun_playStep ?_ (Nat.le_refl 0)) (Nat.le_refl 0)) (by omega)
  exact .init readyPort true 0

theorem isolated_playRun :
    playRun.2.Isolated ∧ ∀ l, some playRun.1 = some l →
      l.tx.length ≤ rawBufferSize ∧ l.rx.length ≤ rawBufferSize :=
  isolated_of_rawRun rawRun_playRun

/-- A datagram that does not fit is missing from what is written, and a byte that arrives
    between the read that finds the input empty and the first datagram goes to the new owner,
    though it was waiting when the owner was acquired. -/
theorem isolation_fails_early_byte : ∃ (l : RawListener Unit Unit) (m : RawMonitor) (now : Nat) (w : Ownership),
    RawRun true (some l) m now ∧ m.current = some w ∧ ¬ w.written <+: w.received.flatten ∧
      ∃ b ∈ w.read.take w.sent.length, b.index < w.arrivedBefore := by
  have hrun : (playRun.2.current.any fun w => !w.written.isPrefixOf w.received.flatten &&
      (w.read.take w.sent.length).any fun b => decide (b.index < w.arrivedBefore)) = true := by
    decide +kernel
  obtain ⟨w, hw, hfails⟩ := (Option.any_eq_true _ _).mp hrun
  simp only [Bool.and_eq_true, Bool.not_eq_true', List.any_eq_true, decide_eq_true_eq] at hfails
  obtain ⟨hwritten, hearly⟩ := hfails
  refine ⟨playRun.1, playRun.2, 10, w, rawRun_playRun, hw, ?_, hearly⟩
  intro hprefix
  rw [List.isPrefixOf_iff_prefix.mpr hprefix] at hwritten
  cases hwritten

end FourVrs.Network
