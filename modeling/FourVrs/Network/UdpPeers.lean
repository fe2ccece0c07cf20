import FourVrs.Network.UdpMoves

/-!
# Peers and transactions correspond

In every state of an open listener a source has one peer at most, a peer is submitted
exactly when the runtime holds one transaction for it, the two agree on the
transaction's id and epoch, and the callback of every transaction held would find its
peer. So the stale branch of the callback is never taken, and a pending peer stays what
it is until its request is finished.
-/

set_option autoImplicit false

namespace FourVrs.Network

open FourVrs.Core Modbus Uart

variable {σ : Type}

/-- The transactions the runtime holds for peer `i`. -/
def heldFor (port : PortRuntime σ UdpListener) (i : PeerIndex) : List CoreTransaction :=
  port.view.outstanding.filter fun t => decide (t.ownerId = BitVec.ofNat 32 i)

/-- The listener as a callback of the next call finds it. -/
def syncedListener (port : PortRuntime σ UdpListener) : UdpListener :=
  { port.completionContext with portGeneration := port.generation }

structure Corresponds (port : PortRuntime σ UdpListener) : Prop where
  distinct : ∀ i j, (port.completionContext.peers i).used = true →
    (port.completionContext.peers j).used = true →
    (port.completionContext.peers i).address = (port.completionContext.peers j).address → i = j
  submitted_iff : ∀ i, ((port.completionContext.peers i).pending = true ∧
    (port.completionContext.peers i).submitted = true) ↔ ∃ t, heldFor port i = [t]
  matching : ∀ i, ∀ t ∈ heldFor port i, t.id = (port.completionContext.peers i).transactionId ∧
    metaClientEpoch t = (port.completionContext.peers i).epoch
  found : ∀ t ∈ port.view.outstanding, t.ownerKind = modbusOwnerUdp ∧
    ∃ i : PeerIndex, t.ownerId = BitVec.ofNat 32 i ∧ peerMatches (syncedListener port) i t = true

/-- The peer still holds the request it held. -/
structure StillHolds (peer peer' : UdpPeer) : Prop where
  used : peer'.used = true
  pending : peer'.pending = true
  address : peer'.address = peer.address
  epoch : peer'.epoch = peer.epoch
  tid : peer'.tid = peer.tid
  rtu : peer'.rtu = peer.rtu
  number : peer'.number = peer.number

/-! ## What a move adds to the log -/

variable {w w' : UdpTable}

theorem opened_move (h : UdpMove w w') :
    w'.listener.opened = w.listener.opened := by
  cases h with
  | resend i free => exact (sameButLog_sendResponse _ _).opened
  | expire i response pending waiting => exact (sameButLog_completePeer _ _ _).opened
  | complete i t rest response owned held => exact (sameButLog_completePeer _ _ _).opened
  | tick | sync | skip | evict | enter | admitted | submit => rfl

theorem opened_moves (h : UdpMoves w w') :
    w'.listener.opened = w.listener.opened := by
  induction h with
  | refl => rfl
  | tail _ hmove ih => exact (opened_move hmove).trans ih

/-- Responses and results are logged, never a stale callback. -/
theorem log_move (hopened : w.listener.opened = true) (h : UdpMove w w') :
    ∃ new, w'.listener.log = w.listener.log ++ new ∧ UdpEvent.stale ∉ new := by
  cases h with
  | resend i free =>
    refine ⟨_, sendResponse_log hopened i, ?_⟩
    split <;> simp
  | expire i response pending waiting =>
    refine ⟨_, (completePeer_log hopened i response).trans (List.append_assoc _ _ _), ?_⟩
    split <;> simp
  | complete i t rest response owned held =>
    refine ⟨_, (completePeer_log hopened i response).trans (List.append_assoc _ _ _), ?_⟩
    split <;> simp
  | submit i t pending waiting kind owner epoch => exact ⟨[_], rfl, by simp⟩
  | tick | sync | skip | evict | enter | admitted => exact ⟨[], (List.append_nil _).symm, by simp⟩

theorem log_moves (hopened : w.listener.opened = true) (h : UdpMoves w w') :
    ∃ new, w'.listener.log = w.listener.log ++ new ∧ UdpEvent.stale ∉ new := by
  induction h with
  | refl => exact ⟨[], (List.append_nil _).symm, by simp⟩
  | tail hmoves hmove ih =>
    obtain ⟨new, hlog, hnew⟩ := ih
    obtain ⟨more, hlog', hmore⟩ := log_move ((opened_moves hmoves).trans hopened) hmove
    refine ⟨new ++ more, ?_, ?_⟩
    · rw [hlog', hlog, List.append_assoc]
    · simp [hnew, hmore]

/-! ## Pending peers are kept -/

variable {i : PeerIndex}

theorem StillHolds.refl {w : UdpTable} (h : Tracks w) (hpending : (w.listener.peers i).pending = true) :
    StillHolds (w.listener.peers i) (w.listener.peers i) :=
  ⟨h.used_of_pending i hpending, hpending, rfl, rfl, rfl, rfl, rfl⟩

theorem StillHolds.trans {p p' p'' : UdpPeer} (h : StillHolds p p') (h' : StillHolds p' p'') :
    StillHolds p p'' :=
  ⟨h'.used, h'.pending, h'.address.trans h.address, h'.epoch.trans h.epoch, h'.tid.trans h.tid,
    h'.rtu.trans h.rtu, h'.number.trans h.number⟩

/-- A move keeps a pending peer, unless it finishes its request. -/
theorem stillHolds_move (htracks : Tracks w) (hopened : w.listener.opened = true) (h : UdpMove w w')
    (hpending : (w.listener.peers i).pending = true) :
    StillHolds (w.listener.peers i) (w'.listener.peers i) ∨
      ∃ new time response, w'.listener.log = w.listener.log ++ new ∧
        .finished (w.listener.peers i).number time response ∈ new := by
  have hrefl := StillHolds.refl htracks hpending
  have hfinish : ∀ j response,
      StillHolds (w.listener.peers i) ((completePeer w.listener j response).peers i) ∨
        ∃ new time response', (completePeer w.listener j response).log = w.listener.log ++ new ∧
          .finished (w.listener.peers i).number time response' ∈ new := by
    intro j response
    by_cases hij : i = j
    · subst hij
      refine .inr ⟨_, w.listener.clock, response,
        (completePeer_log hopened i response).trans (List.append_assoc _ _ _), ?_⟩
      simp
    · rw [completePeer_ne hij]
      exact .inl hrefl
  cases h with
  | tick | sync | skip => exact .inl hrefl
  | resend j free =>
    refine .inl ?_
    rw [sendResponse_peers]
    exact hrefl
  | evict =>
    refine .inl ?_
    rcases evictIdle_cases w.listener w.listener.now i with hpeer | ⟨-, -, hidle, -⟩
    · rw [hpeer]
      exact hrefl
    · exact absurd hpending (by simp [hidle])
  | enter j source free new =>
    have hij : i ≠ j := by
      intro he
      subst he
      exact absurd (htracks.used_of_pending i hpending) (by simp [free])
    refine .inl ?_
    simp only [newPeer, setPeer_ne hij]
    exact hrefl
  | admitted j request used address free =>
    have hij : i ≠ j := by
      intro he
      subst he
      exact absurd hpending (by simp [free])
    refine .inl ?_
    simp only [admitPeer, setPeer_ne hij]
    exact hrefl
  | submit j t pending waiting kind owner epoch =>
    refine .inl ?_
    by_cases hij : i = j
    · subst hij
      have hself : (noteSubmission w.listener i .accepted t.id).peers i =
          { w.listener.peers i with transactionId := t.id, submitted := true } := by
        simp [noteSubmission, UdpListener.record]
      rw [hself]
      exact ⟨hrefl.used, hpending, rfl, rfl, rfl, rfl, rfl⟩
    · have hne : (noteSubmission w.listener j .accepted t.id).peers i = w.listener.peers i := by
        simp [noteSubmission, UdpListener.record, setPeer_ne hij]
      rw [hne]
      exact hrefl
  | expire j response pending waiting | complete j t rest response owned held => exact hfinish j response

/-- … and so does any number of them. -/
theorem stillHolds_moves (htracks : Tracks w) (hopened : w.listener.opened = true) (h : UdpMoves w w')
    (hpending : (w.listener.peers i).pending = true) :
    ∃ new, w'.listener.log = w.listener.log ++ new ∧
      (StillHolds (w.listener.peers i) (w'.listener.peers i) ∨
        ∃ time response, .finished (w.listener.peers i).number time response ∈ new) := by
  induction h with
  | refl => exact ⟨[], (List.append_nil _).symm, .inl (.refl htracks hpending)⟩
  | tail hmoves hmove ih =>
    obtain ⟨new, hlog, hholds⟩ := ih
    have hopened' := (opened_moves hmoves).trans hopened
    obtain ⟨more, hlog', -⟩ := log_move hopened' hmove
    refine ⟨new ++ more, by rw [hlog', hlog, List.append_assoc], ?_⟩
    rcases hholds with hholds | ⟨time, response, hmem⟩
    · rcases stillHolds_move (htracks.moves hmoves) hopened' hmove hholds.pending with
        hnext | ⟨more', time, response, hlog'', hmem⟩
      · exact .inl (hholds.trans hnext)
      · rw [hlog'] at hlog''
        rw [← List.append_cancel_left hlog'', hholds.number] at hmem
        exact .inr ⟨time, response, List.mem_append_right _ hmem⟩
    · exact .inr ⟨time, response, List.mem_append_left _ hmem⟩

/-! ## The correspondence, read off the table -/

theorem corresponds_of_tracks {port : PortRuntime σ UdpListener} (h : Tracks (udpTable port))
    (hfresh : port.view.Fresh) : Corresponds port := by
  have howned : ∀ t ∈ port.view.outstanding, ∃ i, Owns port.completionContext i t.submitted :=
    fun t ht => h.owned _ (List.mem_map_of_mem ht)
  have hnodup : (port.view.outstanding.map CoreTransaction.ownerId).Nodup := by
    have hmap := h.nodup
    simp only [udpTable, tableOf, List.map_map] at hmap
    exact hmap
  have hof : ∀ i, ∀ t ∈ heldFor port i, Owns port.completionContext i t.submitted := by
    intro i t ht
    obtain ⟨hmem, hid⟩ := List.mem_filter.mp ht
    obtain ⟨j, ho⟩ := howned t hmem
    have hij : j = i := ownerId_inj (ho.ownerId.symm.trans (of_decide_eq_true hid))
    exact hij ▸ ho
  refine ⟨h.distinct, ?_, ?_, ?_⟩
  · intro i
    constructor
    · rintro ⟨-, hsubmitted⟩
      obtain ⟨s, hs, ho⟩ := h.held i hsubmitted
      obtain ⟨t, ht, rfl⟩ := List.mem_map.mp hs
      have hmem : t ∈ heldFor port i := List.mem_filter.mpr ⟨ht, decide_eq_true ho.ownerId⟩
      refine ⟨t, ?_⟩
      -- two of them would carry the same owner id
      cases hheld : heldFor port i with
      | nil => simp [hheld] at hmem
      | cons a rest =>
        cases rest with
        | nil =>
          rw [hheld] at hmem
          rw [List.mem_singleton.mp hmem]
        | cons b rest =>
          have hsub : (heldFor port i).map CoreTransaction.ownerId |>.Nodup :=
            hnodup.sublist (List.filter_sublist.map _)
          have ha := (hof i a (by simp [hheld])).ownerId
          have hb := (hof i b (by simp [hheld])).ownerId
          rw [hheld] at hsub
          have hab : a.ownerId = b.ownerId := ha.trans hb.symm
          simp [hab] at hsub
    · rintro ⟨t, ht⟩
      have ho := hof i t (by simp [ht])
      exact ⟨h.pending_of_submitted i ho.submitted, ho.submitted⟩
  · intro i t ht
    have ho := hof i t ht
    exact ⟨ho.id.symm, ho.epoch.symm⟩
  · intro t ht
    obtain ⟨i, ho⟩ := howned t ht
    refine ⟨ho.ownerKind, i, ho.ownerId, ?_⟩
    have hused := h.used_of_pending i (h.pending_of_submitted i ho.submitted)
    refine peerMatches_of_owns (l := syncedListener port) (ho.of_peer rfl) hused rfl ?_
    rcases List.mem_append.mp ht with ht | ht
    · exact .inr (hfresh.active t (by simpa using ht))
    · exact .inl (hfresh.queue t ht)

/-- **No leaked or mismatched peer.** In every run no callback is stale, an open
    listener's peers correspond to the runtime's transactions, and a pending peer holds
    its request until it is finished. -/
theorem corresponds_of_udpRun {port : PortRuntime σ UdpListener} (h : UdpRun port) :
    UdpEvent.stale ∉ port.completionContext.log ∧
    (port.completionContext.opened = true → Corresponds port) ∧
    ∀ port', Relation.ReflTransGen UdpStep port port' → port'.completionContext.opened = true →
      ∀ i, (port.completionContext.peers i).pending = true →
        ∃ new, port'.completionContext.log = port.completionContext.log ++ new ∧
          (StillHolds (port.completionContext.peers i) (port'.completionContext.peers i) ∨
            ∃ time response,
              .finished (port.completionContext.peers i).number time response ∈ new) := by
  obtain ⟨rtuMode, w, hruns⟩ := runsTo_udpRun h
  have hopened : w.listener.opened = true := opened_moves hruns.moves
  refine ⟨?_, ?_, ?_⟩
  · obtain ⟨new, hlog, hnew⟩ := log_moves rfl hruns.moves
    rw [hruns.log, hlog]
    simpa [startTable] using hnew
  · intro ho
    have htracks := hruns.tracks
    rw [← hruns.table ho] at htracks
    exact corresponds_of_tracks htracks hruns.fresh
  · intro port' hsteps ho' i hpending
    -- the later run continues the table of the first
    obtain ⟨w', hruns', hmoves, hopen⟩ := runsTo_steps hruns hsteps
    have htable : udpTable port = w := hruns.table (hopen ho')
    have htable' : udpTable port' = w' := hruns'.table ho'
    have hholds := stillHolds_moves (i := i) hruns.tracks hopened hmoves (by
      rw [← htable]
      exact hpending)
    rw [← htable, ← htable'] at hholds
    exact hholds

/-! ## A run -/

/-- A backend that takes every request and never answers. -/
def silentOps : CoreBackendOps Unit where
  «open» := fun _ _ => (0, ())
  start := fun _ _ _ => (0, ())
  poll := fun _ _ => (0, default, ())
  cancel := fun _ _ => ()
  recover := fun _ _ => (0, ())
  reconfigure := fun _ _ _ => (0, ())
  stop := fun _ _ => (0, ())

/-- A port that is ready. -/
def silentPort : PortRuntime Unit UdpListener :=
  runPort [.start 0 100, .step 0]
    (portRuntimeInit 0 default (some silentOps) () (startTable false).listener [])

theorem coherent_silentPort : silentPort.Coherent :=
  (((coherent_portRuntimeInit 0 default (some silentOps) () (startTable false).listener []).exec
    (.start 0 100)).1.exec (.step 0)).1

def playSource : UdpAddress := { address := 0x7f000001, port := 4000 }

/-- Write register 12 of unit 1. -/
def playDatagram : List UInt8 := [0, 1, 0, 0, 0, 6, 1, 6, 0, 12, 0, 37]

/-- The datagram is admitted and submitted. -/
def submittedPort : PortRuntime Unit UdpListener :=
  modbusUdpListenerStepIo
    (withListener (openedPort silentPort false)
      ((openedPort silentPort false).completionContext.atTime 1))
    [(playSource, playDatagram)] (tick 1)

theorem udpRun_submittedPort : UdpRun submittedPort :=
  .step (.opened silentPort false coherent_silentPort (by decide +kernel))
    (.stepIo _ 1 [(playSource, playDatagram)] (by decide +kernel))

theorem corresponds_submittedPort :
    (submittedPort.completionContext.peers 0).submitted = true ∧ Corresponds submittedPort :=
  ⟨by decide +kernel, (corresponds_of_udpRun udpRun_submittedPort).2.1 (by decide +kernel)⟩

end FourVrs.Network
