import FourVrs.Network.DhcpLease
import FourVrs.Network.OwnerLans

/-!
# Back-off after a conflict

A client whose address another host uses backs off for ten seconds and declines the
lease. The detector knows of the address until the client starts over: an ARP packet of
the other host that comes meanwhile is taken for one more conflict. `BackoffRun` is the
owner, step after step, for as long as the client backs off; what the packets are is a
parameter.
-/

set_option autoImplicit false

namespace FourVrs.Network

open FourVrs.Core Config Lib

/-! ## Runs -/

/-- What the calls of a step return while the link of an interface is up: it is seen so,
    and its socket does not fail. A step that `reaches` the interface has observed, and no
    interface before this one fails to open. -/
def LanAnswers (i : Lan) (reaches : Prop) (packets : List UInt8 → Prop) :
    (call : OwnerCall) → call.Result → Prop
  | .observe, (r, observed) => (reaches → r = 0 ∧ observed.unsupported = 0) ∧ (observed.lan i).link ≠ 0
  | .open j, r => reaches → j < i → r = 0
  | .receive j, received =>
      j = i →
        match received with
        | .nothing => True
        | .failed => False
        | .packet p => packets p
  | .close _, _ | .send _, _ | .probe _ _, _ | .apply _ _, _ | .poll, _ | .cancel, _ => True

/-- The messages an interface sends. -/
def sentBy (i : Lan) : (call : OwnerCall) → call.Result → Nat
  | .send j, made => if j = i ∧ made = true then 1 else 0
  | .observe, _ | .open _, _ | .close _, _ | .receive _, _ | .probe _ _, _ | .apply _ _, _ | .poll, _
  | .cancel, _ => 0

/-- The calls of a step; the state is how many messages the interface has sent. -/
def lanWorld (i : Lan) (reaches : Prop) (packets : List UInt8 → Prop) :
    Prog.World OwnerCall OwnerCall.Result Nat :=
  fun call sent r sent' => LanAnswers i reaches packets call r ∧ sent' = sent + sentBy i call r

/-- The client backs off since a conflict at `t`, with its link up. -/
structure ConflictAt (o : NetworkOwner) (i : Lan) (t : Nat) : Prop where
  mode : (o.policy.settings.lan i).mode = .dhcpClient
  link : (o.observed.lan i).link ≠ 0
  state : (o.dhcp i).state = .backoff
  error : (o.dhcp i).error = 2
  nextSend : (o.dhcp i).nextSend = tick (t + 10000)

/-- Steps of the owner from then on, each less than half the range of the ticks after the
    one before it, as long as the client backs off. `packets` are those that may come. The
    first step from `t + 10000` on reaches the interface. -/
inductive BackoffRun (docs : OwnerDocuments) (i : Lan) (packets : Nat → DhcpClient → List UInt8 → Prop)
    (start : NetworkOwner) (t : Nat) : NetworkOwner → Nat → Nat → Prop where
  | start : BackoffRun docs i packets start t start t 0
  | step {o o' : NetworkOwner} {now now' sent sent' : Nat}
      (hrun : BackoffRun docs i packets start t o now sent) (hnow : now ≤ now') (hsoon : now' < now + 2 ^ 31)
      (hwaits : (o.dhcp i).state = .backoff ∧ (o.dhcp i).xid = (start.dhcp i).xid)
      (h : Prog.Runs (lanWorld i (t + 10000 ≤ now') (packets now' (o.dhcp i))) (ownerStep docs o (tick now'))
        sent (some o') sent') :
      BackoffRun docs i packets start t o' now' sent'

/-- A DECLINE is queued. -/
def declining (d : DhcpClient) : Nat := if d.sendType = 4 then 1 else 0

/-- What is said of a back-off: until ten seconds after the conflict the client waits for
    that moment, and declines once; a step from then on makes it select, and it has left. -/
structure BackoffBounded (start o : NetworkOwner) (i : Lan) (t now sent : Nat) : Prop where
  waits : now < t + 10000 → (o.dhcp i).state = .backoff ∧ (o.dhcp i).xid = (start.dhcp i).xid ∧
    (o.dhcp i).nextSend = tick (t + 10000) ∧ sent + declining (o.dhcp i) ≤ declining (start.dhcp i)
  selects : now < t + 10000 → ∀ time, t + 10000 ≤ time → time < now + 2 ^ 31 →
    (dhcpStep (o.dhcp i) (tick time) true).state = .selecting
  leaves : t + 10000 ≤ now → (o.dhcp i).xid ≠ (start.dhcp i).xid

/-- The client waits on, and no message has been queued since. -/
structure StillWaits (d₀ : DhcpClient) (n₀ : Nat) (d : DhcpClient) (n : Nat) : Prop where
  state : d.state = .backoff
  valid : d.valid = false
  xid : d.xid = d₀.xid
  nextSend : d.nextSend = d₀.nextSend
  declines : n + declining d ≤ n₀ + declining d₀

/-! ## The client -/

section Client

variable {d : DhcpClient} {now : CoreTick}

theorem invalid_of_backoff (hsteady : Steady d) (hstate : d.state = .backoff) : d.valid = false :=
  (show d.valid = d.state.leased from hsteady).trans (by rw [hstate]; rfl)

theorem dhcpStep_waits (hsteady : Steady d) (hstate : d.state = .backoff) (hnot : due now d.nextSend = false) :
    dhcpStep d now true = d := by
  have hvalid := invalid_of_backoff hsteady hstate
  have hexpire : dhcpExpire d now = d := by simp [dhcpExpire, hvalid, hstate]
  unfold dhcpStep
  simp [hstate, hexpire, hnot]

theorem dhcpStep_leaves (hsteady : Steady d) (hstate : d.state = .backoff) (hdue : due now d.nextSend = true) :
    (dhcpStep d now true).state = .selecting ∧ (dhcpStep d now true).valid = false ∧
      (dhcpStep d now true).xid = d.xid + 1 := by
  have hmove := dhcpStep_moves hsteady now true
  generalize dhcpStep d now true = d' at hmove
  cases hmove with
  | restarts => exact ⟨rfl, rfl, rfl⟩
  | rests hcase =>
    rcases hcase with hs | ⟨-, hnot⟩ | ⟨hs | hs, -⟩
    · rw [hstate] at hs
      cases hs
    · rw [hdue] at hnot
      cases hnot
    · rw [hstate] at hs
      cases hs
    · rw [hstate] at hs
      cases hs
  | unlinked hon hlink => cases hlink
  | gaveUp hs => rcases hs with hs | hs <;> rw [hstate] at hs <;> cases hs
  | prolongs _ _ _ hs | rebinds _ _ hs | waits _ _ _ hs => rw [hstate] at hs; cases hs

theorem dhcpReceive_waits (hstate : d.state = .backoff) (p : List UInt8) : dhcpReceive d p now = (-1, d) := by
  unfold dhcpReceive
  rw [if_pos (.inr (by simp [hstate, DhcpState.listens]))]

/-- A client without a lease keeps its transaction when it is given a message. -/
theorem dhcpReceive_xid (hvalid : d.valid = false) (p : List UInt8) (now : CoreTick) :
    (dhcpReceive d p now).2.xid = d.xid ∧ (dhcpReceive d p now).2.valid = false := by
  have htakes := dhcpReceive_takes d p now
  generalize dhcpReceive d p now = r at htakes
  cases htakes with
  | refused => exact ⟨rfl, hvalid⟩
  | expired hvalid' => exact absurd (hvalid.symm.trans hvalid') (by simp)
  | refusal => exact ⟨rfl, rfl⟩
  | offer => exact ⟨rfl, hvalid⟩
  | acknowledged o g => simp [dhcpAcknowledge, hvalid]

theorem xid_of_move {d' : DhcpClient} {link : Bool} (h : DhcpMove d now link d') :
    d'.xid = d.xid ∨ d'.xid = d.xid + 1 := by
  cases h with
  | restarts | prolongs => exact .inr rfl
  | rests | unlinked | gaveUp | rebinds | waits => exact .inl rfl

theorem dhcpProbed_xid (hsteady : Steady d) (now : CoreTick) :
    (dhcpProbed d now).2.xid = d.xid ∨ (dhcpProbed d now).2.xid = d.xid + 1 := by
  unfold dhcpProbed
  split
  · exact .inl rfl
  · split
    · exact xid_of_move (dhcpStep_moves hsteady now true)
    · exact .inl rfl

theorem dhcpPacketMade_same (d : DhcpClient) (now : CoreTick) :
    (dhcpPacketMade d now).state = d.state ∧ (dhcpPacketMade d now).xid = d.xid ∧
      (dhcpPacketMade d now).valid = d.valid ∧ (dhcpPacketMade d now).nextSend = d.nextSend ∧
      (dhcpPacketMade d now).sendType = 0 := by
  unfold dhcpPacketMade
  simp only
  split <;> simp

end Client

/-! ## One interface -/

section Interface

variable {docs : OwnerDocuments} {i : Lan} {reaches : Prop} {packets : List UInt8 → Prop} {n : Nat}
  {o : NetworkOwner} {now : CoreTick}

/-- The calls of the other interface send nothing of this one, nor do those of a job. -/
theorem keptBy_sent {j : Lan} (hj : j ≠ i) (reaches : Prop) (packets : List UInt8 → Prop) (n : Nat) :
    KeptBy (lanWorld i reaches packets) (fun n' => n' = n) (OwnerCall.OfLan j) := by
  rintro call r s s' hcall rfl ⟨-, rfl⟩
  cases call with
  | send k =>
    obtain rfl : k = j := hcall
    simp [sentBy, hj]
  | _ => rfl

theorem keptBy_sent_job (i : Lan) (reaches : Prop) (packets : List UInt8 → Prop) (n : Nat) :
    KeptBy (lanWorld i reaches packets) (fun n' => n' = n) OwnerCall.OfJob := by
  rintro call r s s' hcall rfl ⟨-, rfl⟩
  cases call with
  | send k => exact hcall.elim
  | _ => rfl

theorem safe_lanCall {α : Type} {post : α → Nat → Prop} {call : OwnerCall} {f : call.Result → OwnerProg α}
    (h : ∀ r, LanAnswers i reaches packets call r →
      Prog.Safe (lanWorld i reaches packets) (fun _ => True) post (f r) (n + sentBy i call r)) :
    Prog.Safe (lanWorld i reaches packets) (fun _ => True) post (ownerCall call >>= f) n := by
  refine ⟨trivial, ?_⟩
  rintro r n' ⟨hanswers, rfl⟩
  exact h r hanswers

@[simp] theorem withDhcp_self (o : NetworkOwner) (i : Lan) : withDhcp o i (o.dhcp i) = o := by
  simp [withDhcp]

/-- Packets that are no conflict leave a client that backs off as it is. -/
theorem takePackets_waits (hstate : (o.dhcp i).state = .backoff)
    (hquiet : ∀ p, packets p → docs.arpConflict (o.dhcp i) p = false) (k : Nat) :
    Prog.Safe (lanWorld i reaches packets) (fun _ => True) (fun o' n' => o = o' ∧ n = n')
      (takePackets docs now i k o) n := by
  induction k with
  | zero => exact ⟨trivial, rfl, rfl⟩
  | succ k ih =>
    refine safe_lanCall fun r hanswers => ?_
    cases r with
    | nothing => exact ⟨trivial, rfl, rfl⟩
    | failed => exact (hanswers rfl).elim
    | packet p =>
      have hpacket : takePacket docs o now i p = o := by
        unfold takePacket
        simp only [hquiet p (hanswers rfl), Bool.false_eq_true, if_false]
        split
        · rfl
        · simp [dhcpReceive_waits hstate]
      show Prog.Safe _ _ _ (takePackets docs now i k (takePacket docs o now i p)) n
      rw [hpacket]
      exact ih

/-- A step that is too early: the client waits on, and sends its DECLINE if it has one. -/
theorem runClient_waits (docs : OwnerDocuments) (reaches : Prop) (packets : List UInt8 → Prop) (now : CoreTick)
    (n : Nat)
    (hmanned : LanManned o i) (hlink : (o.observed.lan i).link ≠ 0)
    (hstate : (o.dhcp i).state = .backoff) (hnot : due now (o.dhcp i).nextSend = false)
    (hquiet : ∀ p, packets p → docs.arpConflict (o.dhcp i) p = false) :
    Prog.Safe (lanWorld i reaches packets) (fun _ => True)
      (fun o' n' => StillWaits (o.dhcp i) n (o'.dhcp i) n') (runClient docs o now i) n := by
  have hvalid := invalid_of_backoff hmanned.client.steady hstate
  have hstep : withDhcp o i (dhcpStep (o.dhcp i) now ((o.observed.lan i).link ≠ 0)) = o := by
    rw [decide_eq_true hlink, dhcpStep_waits hmanned.client.steady hstate hnot, withDhcp_self]
  unfold runClient
  simp only [hstep]
  refine Prog.Safe.bind (Prog.Safe.mono (takePackets_waits hstate hquiet 4) ?_)
  rintro o' n' - ⟨rfl, rfl⟩
  have hrest : ∀ (o' : NetworkOwner) (n' : Nat), StillWaits (o.dhcp i) n (o'.dhcp i) n' →
      Prog.Safe (lanWorld i reaches packets) (fun _ => True) (fun o' n' => StillWaits (o.dhcp i) n (o'.dhcp i) n')
        (probeAddress o' now i >>= fun o => pure (withDhcp o i { o.dhcp i with changed := false })) n' := by
    intro o' n' hwaits
    have hprobe : probeAddress o' now i = pure o' := by simp [probeAddress, hwaits.state]
    rw [hprobe]
    refine ⟨trivial, ?_⟩
    simp only [withDhcp_dhcp]
    exact ⟨hwaits.state, hwaits.valid, hwaits.xid, hwaits.nextSend, hwaits.declines⟩
  unfold sendMessage
  split
  · rename_i hsend
    have hfour : (o.dhcp i).sendType = 4 := (hmanned.client.declines hstate).resolve_left hsend
    obtain ⟨hstate', hxid, hvalid', hnext, hsent⟩ := dhcpPacketMade_same (o.dhcp i) now
    refine safe_lanCall fun made _ => ?_
    cases made with
    | false => exact hrest o _ ⟨hstate, hvalid, rfl, rfl, by simp [sentBy]⟩
    | true =>
      refine hrest (withDhcp o i (dhcpPacketMade (o.dhcp i) now)) _ ?_
      rw [withDhcp_dhcp]
      refine ⟨hstate'.trans hstate, hvalid'.trans hvalid, hxid, hnext, ?_⟩
      simp [declining, hsent, hfour, sentBy]
  · exact hrest o _ ⟨hstate, hvalid, rfl, rfl, le_rfl⟩

/-- What a message leaves of a client without a lease. -/
theorem takePackets_leaves (xid : BitVec 32) (k : Nat)
    (h : (o.dhcp i).xid = xid ∧ (o.dhcp i).valid = false ∧ LanManned o i) (hopened : o.opened i = true) :
    Prog.Safe (lanWorld i reaches packets) (fun _ => True)
      (fun o' _ => (o'.dhcp i).xid = xid ∧ LanManned o' i) (takePackets docs now i k o) n := by
  induction k generalizing o n with
  | zero => exact ⟨trivial, h.1, h.2.2⟩
  | succ k ih =>
    refine safe_lanCall fun r hanswers => ?_
    cases r with
    | nothing => exact ⟨trivial, h.1, h.2.2⟩
    | failed => exact (hanswers rfl).elim
    | packet p =>
      obtain ⟨hworked, hsame⟩ := lanManned_takePacket docs (clientKept_composed now) h.2.2 hopened p
      refine ih ⟨?_, ?_, hworked.manned⟩ (hsame ▸ hopened)
      · unfold takePacket
        simp only
        split
        · rw [withDhcp_dhcp]
          exact h.1
        split
        · exact h.1
        · rename_i payload _
          have hxid := (dhcpReceive_xid h.2.1 payload now).1.trans h.1
          split <;> simpa [withDhcp] using hxid
      · unfold takePacket
        simp only
        split
        · rw [withDhcp_dhcp]
          rfl
        split
        · exact h.2.1
        · rename_i payload _
          have hvalid := (dhcpReceive_xid h.2.1 payload now).2
          split <;> simpa [withDhcp] using hvalid

/-- A step that is not: the client starts over. -/
theorem runClient_leaves (docs : OwnerDocuments) (reaches : Prop) (packets : List UInt8 → Prop) (now : CoreTick)
    (n : Nat)
    (hmanned : LanManned o i) (hopened : o.opened i = true)
    (hlink : (o.observed.lan i).link ≠ 0) (hstate : (o.dhcp i).state = .backoff)
    (hdue : due now (o.dhcp i).nextSend = true) :
    Prog.Safe (lanWorld i reaches packets) (fun _ => True) (fun o' _ => (o'.dhcp i).xid ≠ (o.dhcp i).xid)
      (runClient docs o now i) n := by
  obtain ⟨-, hvalid, hxid⟩ := dhcpStep_leaves hmanned.client.steady hstate hdue
  have hstep : (withDhcp o i (dhcpStep (o.dhcp i) now ((o.observed.lan i).link ≠ 0))).dhcp i =
      dhcpStep (o.dhcp i) now true := by
    rw [withDhcp_dhcp, decide_eq_true hlink]
  have hnext : ∀ xid : BitVec 32, xid + 1 ≠ xid ∧ xid + 1 + 1 ≠ xid := by
    intro xid
    constructor
    · bv_omega
    · bv_omega
  unfold runClient
  simp only
  refine Prog.Safe.bind (Prog.Safe.mono (takePackets_leaves ((o.dhcp i).xid + 1) 4
    ⟨?_, ?_, ?_⟩ hopened) ?_)
  · rw [hstep, hxid]
  · rw [hstep, hvalid]
  · exact ⟨by rw [hstep]; exact composed_step hmanned.client now true, fun _ => hopened⟩
  rintro o₁ n₁ - ⟨hxid₁, hmanned₁⟩
  have hsent : Prog.Safe (lanWorld i reaches packets) (fun _ => True)
      (fun o' _ => (o'.dhcp i).xid = (o.dhcp i).xid + 1 ∧ Steady (o'.dhcp i)) (sendMessage o₁ now i) n₁ := by
    unfold sendMessage
    split
    · refine safe_lanCall fun made _ => ?_
      cases made with
      | false => exact ⟨trivial, hxid₁, hmanned₁.client.steady⟩
      | true =>
        have hmade := (composed_packetMade hmanned₁.client now).steady
        refine ⟨trivial, ?_⟩
        simpa [withDhcp] using And.intro ((dhcpPacketMade_same (o₁.dhcp i) now).2.1.trans hxid₁) hmade
    · exact ⟨trivial, hxid₁, hmanned₁.client.steady⟩
  refine Prog.Safe.bind (Prog.Safe.mono hsent ?_)
  rintro o₂ n₂ - ⟨hxid₂, hsteady₂⟩
  have hprobed : Prog.Safe (lanWorld i reaches packets) (fun _ => True)
      (fun o' _ => (o'.dhcp i).xid ≠ (o.dhcp i).xid) (probeAddress o₂ now i) n₂ := by
    have hone : (o.dhcp i).xid + 1 ≠ (o.dhcp i).xid := (hnext _).1
    have hends : (dhcpProbed (o₂.dhcp i) now).2.xid ≠ (o.dhcp i).xid := by
      rcases dhcpProbed_xid hsteady₂ now with h | h <;> rw [h, hxid₂]
      · exact hone
      · exact (hnext _).2
    unfold probeAddress
    simp only
    split
    · split
      · refine safe_lanCall fun r _ => ?_
        split
        · refine ⟨trivial, ?_⟩
          simp [withDhcp, dhcpConflict, hxid₂]
        · refine ⟨trivial, ?_⟩
          simp [withDhcp, hxid₂]
      split
      · rename_i d heq
        rw [heq] at hends
        refine safe_lanCall fun r _ => ⟨trivial, ?_⟩
        simpa [withDhcp] using hends
      · rename_i d _ heq
        rw [heq] at hends
        refine ⟨trivial, ?_⟩
        simpa [withDhcp] using hends
    · refine ⟨trivial, ?_⟩
      simp [hxid₂]
  refine Prog.Safe.bind (Prog.Safe.mono hprobed ?_)
  intro o₃ n₃ _ hxid₃
  refine ⟨trivial, ?_⟩
  simpa [withDhcp] using hxid₃

end Interface

/-! ## Steps -/

/-- The interface is as it was when the step began. -/
structure SameLan (i : Lan) (o o' : NetworkOwner) : Prop where
  dhcp : o'.dhcp i = o.dhcp i
  opened : o'.opened i = o.opened i
  policy : o'.policy = o.policy
  observed : o'.observed = o.observed
  active : o'.active = o.active
  stopping : o'.stopping = o.stopping
  manned : Manned o'

section Steps

variable {docs : OwnerDocuments} {i : Lan} {reaches : Prop} {packets : List UInt8 → Prop} {n : Nat}
  {o : NetworkOwner} {now : CoreTick} {good : DhcpClient → Nat → Prop}

/-- The work on the interface that waits makes it `good`. -/
def LanGood (docs : OwnerDocuments) (i : Lan) (reaches : Prop) (packets : List UInt8 → Prop) (now : CoreTick)
    (good : DhcpClient → Nat → Prop) (o : NetworkOwner) (n : Nat) : Prop :=
  ∀ o', SameLan i o o' → Prog.Safe (lanWorld i reaches packets) (fun _ => True)
    (fun r n' => good (r.1.dhcp i) n') (stepLan docs o' now i) n

theorem LanWorked.sameLan {j : Lan} {o' : NetworkOwner} (h : LanWorked Composed j o o') (hmanned : Manned o)
    (hactive : o.active = true) (hij : i ≠ j) : SameLan i o o' := by
  obtain ⟨hpolicy, hobserved, hsame, hstopping⟩ := h.frame.same
  exact ⟨h.frame.others i hij, h.opened i hij, hpolicy, hobserved, hsame, hstopping,
    h.owner hmanned hactive⟩

/-- The interface before it does not end a step that reaches it. -/
theorem stepLan_goesOn {j : Lan} (hj : j < i) :
    Prog.Safe (lanWorld i reaches packets) (fun _ => True) (fun r _ => reaches → r.2.isSome = true)
      (stepLan docs o now j) n := by
  have hrun : ∀ (o' : NetworkOwner) (n' : Nat),
      Prog.Safe (lanWorld i reaches packets) (fun _ => True) (fun r _ => reaches → r.2.isSome = true)
        (do let o ← runClient docs o' now j
            pure (o, some (o.dhcp j).valid)) n' := by
    intro o' n'
    refine Prog.Safe.bind (Prog.Safe.mono (Prog.safe_true _ _) ?_)
    exact fun _ _ _ _ => ⟨trivial, fun _ => rfl⟩
  unfold stepLan
  split
  · exact ⟨trivial, fun _ => rfl⟩
  split
  · split
    · exact ⟨trivial, fun _ => rfl⟩
    · refine safe_lanCall fun r hanswers => ?_
      split
      · rename_i hfails
        exact ⟨trivial, fun hreaches => absurd (hanswers hreaches hj) hfails⟩
      · exact hrun _ _
  · exact hrun o n

/-- What the interface is made, it is at the end of the step; one that is not reached must
    be `good` already. -/
theorem good_ownerObserved (hearly : ¬reaches → good (o.dhcp i) n)
    (hconflict : ∀ d n, good d n → d.valid = true ∨ d.state = .probing →
      good (dhcpConflict d now) n) (hmanned : Manned o) (hactive : o.active = true)
    (h : LanGood docs i reaches packets now good o n) :
    Prog.Safe (lanWorld i reaches packets) (fun _ => True)
      (fun o' n' => good (o'.dhcp i) n' ∧ o'.policy = o.policy ∧ o'.observed = o.observed)
      (ownerObserved docs o now) n := by
  have hself : SameLan i o o := ⟨rfl, rfl, rfl, rfl, rfl, rfl, hmanned⟩
  have hworked : ∀ {o' : NetworkOwner} {n' : Nat}, Manned o' → Prog.Safe (lanWorld i reaches packets) (fun _ => True)
      (fun r _ => LanWorked Composed i o' r.1) (stepLan docs o' now i) n' := by
    intro o' n' h'
    refine Prog.Safe.mono (lanKeeps_stepLan (clientKept_composed now) (keptBy_true _ _) (h'.lans i) trivial) ?_
    exact fun _ _ _ hpost => hpost.1
  -- the end of the step, once both interfaces have been worked on
  have hend : ∀ (o₂ : NetworkOwner) (n₂ : Nat) (rest : OwnerProg NetworkOwner), good (o₂.dhcp i) n₂ →
      o₂.policy = o.policy → o₂.observed = o.observed →
      (∀ o₃, chooseTarget docs o₂ now = (o₃, none) → rest = pure o₃) →
      (∀ o₃ suits, chooseTarget docs o₂ now = (o₃, some suits) → ∃ suits', rest = settle o₃ now suits') →
      Prog.Safe (lanWorld i reaches packets) (fun _ => True)
        (fun o' n' => good (o'.dhcp i) n' ∧ o'.policy = o.policy ∧ o'.observed = o.observed) rest n₂ := by
    intro o₂ n₂ rest hgood hpolicy hobserved hstops hsettles
    have hgive : ∀ (o' : NetworkOwner) (j : Lan), good (o'.dhcp i) n₂ →
        good ((giveUpLease o' now j).dhcp i) n₂ := by
      intro o' j hgood'
      rcases giveUpLease_client o' now j i with hsame | ⟨hlease, hsame⟩
      · rw [hsame]
        exact hgood'
      · rw [hsame]
        exact hconflict _ _ hgood' hlease
    have hchosen : good ((chooseTarget docs o₂ now).1.dhcp i) n₂ ∧
        (chooseTarget docs o₂ now).1.policy = o₂.policy ∧
        (chooseTarget docs o₂ now).1.observed = o₂.observed := by
      rcases chooseTarget_clients docs o₂ now with hsame | hsame
      · exact ⟨hsame.dhcp ▸ hgood, hsame.policy, hsame.observed⟩
      · obtain ⟨-, hpolicy₀, hobserved₀, -, -⟩ := giveUpLease_same { o₂ with error := 5 } now 0
        obtain ⟨-, hpolicy₁, hobserved₁, -, -⟩ :=
          giveUpLease_same (giveUpLease { o₂ with error := 5 } now 0) now 1
        refine ⟨?_, hsame.policy.trans (hpolicy₁.trans hpolicy₀),
          hsame.observed.trans (hobserved₁.trans hobserved₀)⟩
        rw [hsame.dhcp]
        exact hgive _ 1 (hgive { o₂ with error := 5 } 0 hgood)
    obtain ⟨hgood₃, hpolicy₃, hobserved₃⟩ := hchosen
    rcases heq : chooseTarget docs o₂ now with ⟨o₃, _ | suits⟩
    · rw [heq] at hgood₃ hpolicy₃ hobserved₃
      rw [hstops o₃ heq]
      exact ⟨trivial, hgood₃, hpolicy₃.trans hpolicy, hobserved₃.trans hobserved⟩
    · rw [heq] at hgood₃ hpolicy₃ hobserved₃
      obtain ⟨suits', hsettle⟩ := hsettles o₃ suits heq
      rw [hsettle]
      refine Prog.Safe.mono (keepsClients_settle (keptBy_sent_job i reaches packets n₂) o₃ now _ rfl) ?_
      rintro o₄ n₄ - ⟨hsame, rfl⟩
      exact ⟨hsame.dhcp ▸ hgood₃, hsame.policy.trans (hpolicy₃.trans hpolicy),
        hsame.observed.trans (hobserved₃.trans hobserved)⟩
  unfold ownerObserved
  rcases lan_cases i with hi | hi
  · obtain rfl := hi
    refine Prog.Safe.bind (Prog.Safe.mono ((h o hself).and (hworked hmanned)) ?_)
    rintro ⟨o₁, first⟩ n₁ - ⟨hgood₁, hworked₁⟩
    obtain ⟨hpolicy₁, hobserved₁, -, -⟩ := hworked₁.frame.same
    cases first with
    | none => exact ⟨trivial, hgood₁, hpolicy₁, hobserved₁⟩
    | some first =>
      refine Prog.Safe.bind (Prog.Safe.mono (lanKeeps_stepLan (clientKept_composed now)
        (keptBy_sent (show (1 : Lan) ≠ 0 by decide) reaches packets n₁) ((hworked₁.owner hmanned hactive).lans 1) rfl) ?_)
      rintro ⟨o₂, second⟩ n₂ - ⟨hworked₂, rfl⟩
      obtain ⟨hpolicy₂, hobserved₂, -, -⟩ := hworked₂.frame.same
      have hgood₂ : good (o₂.dhcp 0) n₂ := hworked₂.frame.others 0 (by decide) ▸ hgood₁
      cases second with
      | none => exact ⟨trivial, hgood₂, hpolicy₂.trans hpolicy₁, hobserved₂.trans hobserved₁⟩
      | some second =>
        exact hend o₂ n₂ _ hgood₂ (hpolicy₂.trans hpolicy₁) (hobserved₂.trans hobserved₁)
          (fun o₃ heq => by simp only [heq]) (fun o₃ suits heq => ⟨_, by simp only [heq]; rfl⟩)
  · obtain rfl := hi
    refine Prog.Safe.bind (Prog.Safe.mono ((lanKeeps_stepLan (clientKept_composed now)
      (keptBy_sent (show (0 : Lan) ≠ 1 by decide) reaches packets n) (hmanned.lans 0) rfl).and (stepLan_goesOn (by decide))) ?_)
    rintro ⟨o₁, first⟩ n₁ - ⟨⟨hworked₁, rfl⟩, hgoes⟩
    obtain ⟨hpolicy₁, hobserved₁, hactive₁, -⟩ := hworked₁.frame.same
    cases first with
    | none =>
      -- the open of the first interface has failed, and the client is as it was
      have hshort : ¬reaches := fun hreaches => absurd (hgoes hreaches) (by simp)
      exact ⟨trivial, hworked₁.frame.others 1 (by decide) ▸ hearly hshort, hpolicy₁, hobserved₁⟩
    | some first =>
      have hsame₁ := hworked₁.sameLan hmanned hactive (i := 1) (by decide)
      refine Prog.Safe.bind (Prog.Safe.mono ((h o₁ hsame₁).and (hworked hsame₁.manned)) ?_)
      rintro ⟨o₂, second⟩ n₂ - ⟨hgood₂, hworked₂⟩
      obtain ⟨hpolicy₂, hobserved₂, -, -⟩ := hworked₂.frame.same
      cases second with
      | none => exact ⟨trivial, hgood₂, hpolicy₂.trans hpolicy₁, hobserved₂.trans hobserved₁⟩
      | some second =>
        exact hend o₂ n₂ _ hgood₂ (hpolicy₂.trans hpolicy₁) (hobserved₂.trans hobserved₁)
          (fun o₃ heq => by simp only [heq]) (fun o₃ suits heq => ⟨_, by simp only [heq]; rfl⟩)

theorem expireLease_client (o : NetworkOwner) (now : CoreTick) (j : Lan) (h : (o.dhcp i).valid = false) :
    (expireLease o now j).dhcp i = o.dhcp i := by
  unfold expireLease
  split
  · rename_i hexpired
    simp only [Bool.and_eq_true] at hexpired
    have hij : i ≠ j := by
      rintro rfl
      exact absurd (h.symm.trans hexpired.1) (by simp)
    simp [withDhcp, Function.update_of_ne hij]
  · rfl

/-- The same of a whole step. -/
theorem good_ownerStep (good : DhcpClient → Nat → Prop) (hearly : ¬reaches → good (o.dhcp i) n)
    (hconflict : ∀ d n, good d n → d.valid = true ∨ d.state = .probing → good (dhcpConflict d now) n)
    (hmanned : Manned o) (hon : (o.dhcp i).state ≠ .off)
    (hvalid : (o.dhcp i).valid = false) (hlink : (o.observed.lan i).link ≠ 0)
    (h : ∀ o', o'.dhcp i = o.dhcp i → o'.opened i = o.opened i → o'.policy = o.policy →
      o'.stopping = o.stopping → (o'.observed.lan i).link ≠ 0 → Manned o' → LanGood docs i reaches packets now good o' n) :
    Prog.Safe (lanWorld i reaches packets) (fun _ => True)
      (fun o' n' => good (o'.dhcp i) n' ∧ o'.policy = o.policy ∧ (o'.observed.lan i).link ≠ 0)
      (ownerStep docs o now) n := by
  have hactive := hmanned.active i hon
  have hquiet : Manned { o with ready := false, settled := false } :=
    ⟨fun j => ⟨(hmanned.lans j).client, (hmanned.lans j).opened⟩, hmanned.active⟩
  have hfirst := expireLease_client (i := i) { o with ready := false, settled := false } now 0 hvalid
  have hsecond := expireLease_client (i := i)
    (expireLease { o with ready := false, settled := false } now 0) now 1 (hfirst ▸ hvalid)
  obtain ⟨hpolicy₀, hobserved₀, hactive₀, hopened₀, hstopping₀⟩ :=
    expireLease_same { o with ready := false, settled := false } now 0
  obtain ⟨hpolicy₁, hobserved₁, hactive₁, hopened₁, hstopping₁⟩ :=
    expireLease_same (expireLease { o with ready := false, settled := false } now 0) now 1
  have hexpired := manned_expireLease (manned_expireLease hquiet now 0) now 1
  -- whether or not it looks, the step goes on with the same client and link
  have hobserves : ∀ (o' : NetworkOwner), Manned o' → o'.active = true → o'.dhcp i = o.dhcp i →
      o'.opened = o.opened → o'.policy = o.policy → o'.stopping = o.stopping →
      (o'.observed.lan i).link ≠ 0 →
      Prog.Safe (lanWorld i reaches packets) (fun _ => True)
        (fun o' n' => good (o'.dhcp i) n' ∧ o'.policy = o.policy ∧ (o'.observed.lan i).link ≠ 0)
        (ownerObserved docs o' now) n := by
    intro o' hmanned' hactive' hclient hopened hpolicy hstopping hup
    refine Prog.Safe.mono (good_ownerObserved (hclient ▸ hearly) hconflict hmanned' hactive'
      (h o' hclient (by rw [hopened]) hpolicy hstopping hup hmanned')) ?_
    rintro o'' n'' - ⟨hgood, hpolicy', hobserved'⟩
    exact ⟨hgood, hpolicy'.trans hpolicy, hobserved' ▸ hup⟩
  unfold ownerStep
  rw [if_neg (by simp [hactive])]
  simp only
  split
  · refine safe_lanCall ?_
    rintro ⟨r, observed⟩ hanswers
    obtain ⟨hobserved, hup⟩ := hanswers
    simp only
    split
    · -- nothing is done that is seen on the interface
      rename_i hblind
      have hshort : ¬reaches := by
        intro hreaches
        obtain ⟨hr, hsupported⟩ := hobserved hreaches
        simp [hr, hsupported] at hblind
      refine Prog.Safe.mono (keepsClients_ownerBlind (keptBy_sent_job i reaches packets n) _ rfl) ?_
      rintro o' n' - ⟨hsame, rfl⟩
      refine ⟨?_, hsame.policy.trans (hpolicy₁.trans hpolicy₀), ?_⟩
      · rw [hsame.dhcp]
        exact (hsecond.trans hfirst) ▸ hearly hshort
      · rw [hsame.observed]
        exact hup
    · refine hobserves _ ?_ (hactive₁.trans (hactive₀.trans hactive)) (hsecond.trans hfirst)
        (hopened₁.trans hopened₀) (hpolicy₁.trans hpolicy₀) (hstopping₁.trans hstopping₀) hup
      exact ⟨fun j => ⟨(hexpired.lans j).client, (hexpired.lans j).opened⟩, hexpired.active⟩
  · refine hobserves _ hexpired (hactive₁.trans (hactive₀.trans hactive)) (hsecond.trans hfirst)
      (hopened₁.trans hopened₀) (hpolicy₁.trans hpolicy₀) (hstopping₁.trans hstopping₀) ?_
    rw [hobserved₁, hobserved₀]
    exact hlink

/-- The work on an interface that runs its client. -/
theorem stepLan_runs (post : NetworkOwner → Nat → Prop) (hmode : (o.policy.settings.lan i).mode = .dhcpClient)
    (hrunning : o.stopping = false) (hopened : o.opened i = true)
    (h : Prog.Safe (lanWorld i reaches packets) (fun _ => True) post (runClient docs o now i) n) :
    Prog.Safe (lanWorld i reaches packets) (fun _ => True) (fun r n' => post r.1 n') (stepLan docs o now i) n := by
  unfold stepLan
  rw [if_neg (by simp [hmode, hrunning]), if_neg (by simp [hopened])]
  refine Prog.Safe.bind (Prog.Safe.mono h ?_)
  intro o' n' _ hpost
  exact ⟨trivial, hpost⟩

/-- **A step that comes too early** leaves the client waiting for the same moment. -/
theorem ownerStep_waits (hmanned : Manned o) (hrunning : o.stopping = false)
    (hmode : (o.policy.settings.lan i).mode = .dhcpClient)
    (hlink : (o.observed.lan i).link ≠ 0) (hstate : (o.dhcp i).state = .backoff)
    (hnot : due now (o.dhcp i).nextSend = false)
    (hquiet : ∀ p, packets p → docs.arpConflict (o.dhcp i) p = false) :
    Prog.Safe (lanWorld i reaches packets) (fun _ => True)
      (fun o' n' => StillWaits (o.dhcp i) n (o'.dhcp i) n' ∧ o'.policy = o.policy ∧
        (o'.observed.lan i).link ≠ 0)
      (ownerStep docs o now) n := by
  have hon : (o.dhcp i).state ≠ .off := by simp [hstate]
  have hvalid := invalid_of_backoff (hmanned.lans i).client.steady hstate
  refine good_ownerStep (fun d n' => StillWaits (o.dhcp i) n d n')
    (fun _ => ⟨hstate, hvalid, rfl, rfl, le_rfl⟩) ?_ hmanned hon hvalid hlink ?_
  · rintro d n' hwaits (hleased | hprobing)
    · exact absurd (hwaits.valid.symm.trans hleased) (by simp)
    · rw [hwaits.state] at hprobing
      cases hprobing
  · intro o₁ hclient hopened hpolicy hstopping hup hmanned₁ o₂ hsame
    have hclient₂ : o₂.dhcp i = o.dhcp i := hsame.dhcp.trans hclient
    have hopened₂ : o₂.opened i = true :=
      (hsame.opened.trans hopened).trans ((hmanned.lans i).opened hon)
    have hruns := runClient_waits docs reaches packets now n (hsame.manned.lans i)
      (by rw [hsame.observed]; exact hup) (by rw [hclient₂]; exact hstate) (by rw [hclient₂]; exact hnot)
      (by rw [hclient₂]; exact hquiet)
    rw [hclient₂] at hruns
    exact stepLan_runs (fun o' n' => StillWaits (o.dhcp i) n (o'.dhcp i) n')
      (by rw [hsame.policy, hpolicy]; exact hmode) (hsame.stopping.trans (hstopping.trans hrunning)) hopened₂ hruns

/-- **A step from that moment on** makes it leave. -/
theorem ownerStep_leaves (docs : OwnerDocuments) (packets : List UInt8 → Prop) (n : Nat) (hreaches : reaches)
    (hmanned : Manned o) (hrunning : o.stopping = false)
    (hmode : (o.policy.settings.lan i).mode = .dhcpClient)
    (hlink : (o.observed.lan i).link ≠ 0) (hstate : (o.dhcp i).state = .backoff)
    (hdue : due now (o.dhcp i).nextSend = true) :
    Prog.Safe (lanWorld i reaches packets) (fun _ => True) (fun o' _ => (o'.dhcp i).xid ≠ (o.dhcp i).xid)
      (ownerStep docs o now) n := by
  have hon : (o.dhcp i).state ≠ .off := by simp [hstate]
  refine Prog.Safe.mono (good_ownerStep (fun d _ => d.xid ≠ (o.dhcp i).xid) (absurd hreaches) (fun _ _ h _ => h)
    hmanned hon (invalid_of_backoff (hmanned.lans i).client.steady hstate) hlink ?_) ?_
  · intro o₁ hclient hopened hpolicy hstopping hup hmanned₁ o₂ hsame
    have hclient₂ : o₂.dhcp i = o.dhcp i := hsame.dhcp.trans hclient
    have hopened₂ : o₂.opened i = true :=
      (hsame.opened.trans hopened).trans ((hmanned.lans i).opened hon)
    have hruns := runClient_leaves docs reaches packets now n (hsame.manned.lans i) hopened₂
      (by rw [hsame.observed]; exact hup) (by rw [hclient₂]; exact hstate) (by rw [hclient₂]; exact hdue)
    rw [hclient₂] at hruns
    exact stepLan_runs (fun o' _ => (o'.dhcp i).xid ≠ (o.dhcp i).xid)
      (by rw [hsame.policy, hpolicy]; exact hmode) (hsame.stopping.trans (hstopping.trans hrunning)) hopened₂ hruns
  · exact fun _ _ _ hpost => hpost.1

end Steps

/-! ## The back-off -/

/-- No packet that comes while the client waits is taken for a conflict. -/
def quietPackets (docs : OwnerDocuments) (t now : Nat) (d : DhcpClient) (p : List UInt8) : Prop :=
  now < t + 10000 → docs.arpConflict d p = false

/-- Any packets. -/
def anyPackets (_ : Nat) (_ : DhcpClient) (_ : List UInt8) : Prop := True

/-- What a run of quiet steps keeps. -/
structure BackoffKept (start o : NetworkOwner) (i : Lan) (t now sent : Nat) : Prop where
  after : t ≤ now
  manned : Manned o
  running : o.stopping = false
  mode : (o.policy.settings.lan i).mode = .dhcpClient
  bounded : BackoffBounded start o i t now sent
  link : now < t + 10000 → (o.observed.lan i).link ≠ 0

/-- A client that waits for that moment selects at a step from then on. -/
theorem selects_of_waits {d : DhcpClient} {t now : Nat} (hsteady : Steady d) (hstate : d.state = .backoff)
    (hnext : d.nextSend = tick (t + 10000)) (hearly : now < t + 10000) (time : Nat) (hfrom : t + 10000 ≤ time)
    (hsoon : time < now + 2 ^ 31) : (dhcpStep d (tick time) true).state = .selecting := by
  refine (dhcpStep_leaves hsteady hstate ?_).1
  rw [hnext]
  exact (due_tick_iff (by omega) (by omega)).mpr hfrom

theorem backoffKept_start {o : NetworkOwner} {i : Lan} {t : Nat} (hmanned : Manned o) (hrunning : o.stopping = false)
    (h : ConflictAt o i t) : BackoffKept o o i t t 0 where
  after := le_refl t
  manned := hmanned
  running := hrunning
  mode := h.mode
  bounded :=
    { waits := fun _ => ⟨h.state, rfl, h.nextSend, by simp⟩
      selects := selects_of_waits (hmanned.lans i).client.steady h.state h.nextSend
      leaves := fun hpast => by omega }
  link := fun _ => h.link

/-- **A quiet step** from where the client waits. -/
theorem backoffKept_step {docs : OwnerDocuments} {start o o' : NetworkOwner} {i : Lan}
    {t now now' sent sent' : Nat} (h : BackoffKept start o i t now sent) (hnow : now ≤ now')
    (hsoon : now' < now + 2 ^ 31)
    (hwaits : (o.dhcp i).state = .backoff ∧ (o.dhcp i).xid = (start.dhcp i).xid)
    (hstep : Prog.Runs (lanWorld i (t + 10000 ≤ now') (quietPackets docs t now' (o.dhcp i)))
      (ownerStep docs o (tick now')) sent (some o') sent') : BackoffKept start o' i t now' sent' := by
  have hafter := h.after
  have hearly : now < t + 10000 := by
    by_contra hlate
    exact h.bounded.leaves (Nat.not_lt.mp hlate) hwaits.2
  obtain ⟨-, -, hnext, hcount⟩ := h.bounded.waits hearly
  have hsteady := (h.manned.lans i).client.steady
  obtain ⟨hmanned', hstopping⟩ := ((manned_ownerStep docs h.manned (tick now') sent).runs hstep).2 _ rfl
  have hrunning := hstopping.trans h.running
  have hon : (o.dhcp i).state ≠ .off := by simp [hwaits.1]
  have hpolicy : o'.policy = o.policy := by
    refine (((good_ownerStep (fun _ _ => True) (fun _ => trivial) (fun _ _ _ _ => trivial) h.manned hon
      (invalid_of_backoff hsteady hwaits.1) (h.link hearly) ?_).runs hstep).2 _ rfl).2.1
    exact fun _ _ _ _ _ _ _ _ _ => Prog.Safe.mono (Prog.safe_true _ _) fun _ _ _ _ => trivial
  by_cases hpast : t + 10000 ≤ now'
  · have hdue : due (tick now') (o.dhcp i).nextSend = true := by
      rw [hnext]
      exact (due_tick_iff (by omega) (by omega)).mpr hpast
    have hleft := ((ownerStep_leaves docs (quietPackets docs t now' (o.dhcp i)) sent hpast h.manned h.running
      h.mode (h.link hearly) hwaits.1 hdue).runs hstep).2 _ rfl
    rw [hwaits.2] at hleft
    exact ⟨by omega, hmanned', hrunning, by rw [hpolicy]; exact h.mode,
      ⟨fun hnot => by omega, fun hnot => by omega, fun _ => hleft⟩, fun hnot => by omega⟩
  · have hnot : due (tick now') (o.dhcp i).nextSend = false := by
      rw [hnext, Bool.eq_false_iff]
      intro hdue
      exact hpast ((due_tick_iff (by omega) (by omega)).mp hdue)
    obtain ⟨hstill, -, hlink⟩ := ((ownerStep_waits h.manned h.running h.mode (h.link hearly) hwaits.1 hnot
      (fun p hp => hp (by omega))).runs hstep).2 _ rfl
    have hnext' : (o'.dhcp i).nextSend = tick (t + 10000) := hstill.nextSend.trans hnext
    exact ⟨by omega, hmanned', hrunning, by rw [hpolicy]; exact h.mode,
      ⟨fun _ => ⟨hstill.state, hstill.xid.trans hwaits.2, hnext', hstill.declines.trans hcount⟩,
        selects_of_waits (hmanned'.lans i).client.steady hstill.state hnext',
        fun hpast' => by omega⟩, fun _ => hlink⟩

/-- **Back-off is bounded** where no packet that comes meanwhile is taken for a conflict:
    the client of an owner that has come to back off for a conflict waits for ten seconds
    after it, declines once at most, and selects at the first step from then on. -/
theorem backoff_bounded {docs : OwnerDocuments} {allowed : OwnerMonitor → Nat → Prop} {o o' : NetworkOwner}
    {m : OwnerMonitor} {i : Lan} {t now sent : Nat} (hreached : OwnerRun docs allowed o m t)
    (hconflict : ConflictAt o i t) (hrun : BackoffRun docs i (quietPackets docs t) o t o' now sent) :
    BackoffBounded o o' i t now sent := by
  suffices hkept : BackoffKept o o' i t now sent from hkept.bounded
  induction hrun with
  | start => exact backoffKept_start (manned_of_run hreached).1 (manned_of_run hreached).2 hconflict
  | step hrun hnow hsoon hwaits h ih => exact backoffKept_step ih hnow hsoon hwaits h

/-! ## Two runs -/

/-- The documents of the owner, with packets as they are. -/
def lanDocuments : OwnerDocuments where
  broadcast _ _ := none
  resolver text _ := some text
  payload := framePayload
  arpConflict := arpConflict

/-- The first interface has its link up, the second has none. -/
def lanSeen : NetworkObservation where
  lan i := { present := 1, up := 1, link := if i = 0 then 1 else 0, mac := [2, 0, 0, 0, 0, 1] }

/-- A datagram of a server, in its packet and its frame. -/
def frameOf (mac payload : List UInt8) : List UInt8 :=
  let word (n : Nat) : List UInt8 := [UInt8.ofNat (n / 256), UInt8.ofNat n]
  let header (sum : Nat) : List UInt8 :=
    [0x45, 0] ++ word (payload.length + 28) ++ [0, 0, 0, 0, 64, 17] ++ word sum ++ [192, 168, 1, 1] ++
      [255, 255, 255, 255]
  mac ++ [2, 0, 0, 0, 0, 9] ++ [8, 0] ++ header (checksum (wordSum (header 0) 0)) ++
    [0, 67, 0, 68] ++ word (payload.length + 8) ++ [0, 0] ++ payload

/-- An ARP request of another host with the address 192.168.1.100. -/
def arpOfOther : List UInt8 :=
  broadcastMac ++ [2, 0, 0, 0, 0, 7] ++ [8, 6, 0, 1, 8, 0, 6, 4, 0, 1] ++ [2, 0, 0, 0, 0, 7] ++
    [192, 168, 1, 100] ++ [0, 0, 0, 0, 0, 0] ++ [192, 168, 1, 1]

/-- 192.168.1.100 is offered to the client of the first interface. -/
def offerFrame : List UInt8 :=
  frameOf [2, 0, 0, 0, 0, 1] (dhcpReply 2 2 [2, 0, 0, 0, 0, 1] 0xC0A80164 0xC0A80101 (leaseOptions 3600))

/-- Every call succeeds, and the first interface is given the same packet again and again. -/
def lanAnswer (received : OwnerReceived) : (call : OwnerCall) → call.Result
  | .observe => (0, lanSeen)
  | .receive i => if i = 0 then received else .nothing
  | .send _ => true
  | .close _ => ()
  | .poll => 1
  | .open _ | .probe _ _ | .apply _ _ | .cancel => 0

def lanHandle (received : OwnerReceived) (now : Nat) (call : OwnerCall) (m : OwnerMonitor) :
    call.Result × OwnerMonitor :=
  (lanAnswer received call, m.see now call (lanAnswer received call))

theorem lanRuns {α : Type} (received : OwnerReceived) (now : Nat) (p : OwnerProg α) (m : OwnerMonitor) :
    Prog.Runs (ownerWorld now) p m (some (p.eval (lanHandle received now) m).1)
      (p.eval (lanHandle received now) m).2 :=
  Prog.runs_eval (fun _ _ => rfl) p m

def lanStep (received : OwnerReceived) (now : Nat) (s : NetworkOwner × OwnerMonitor) :
    NetworkOwner × OwnerMonitor :=
  (ownerStep lanDocuments s.1 (tick now)).eval (lanHandle received now) s.2

def lanPolicy : NetworkPolicy where
  settings := { lan := fun _ => { mode := .dhcpClient } }

def lanAdopted : NetworkOwner × OwnerMonitor :=
  let adopted := (ownerPolicy (ownerInit 1) lanPolicy (tick 0)).eval (lanHandle .nothing 0) {}
  (adopted.1.2, if adopted.1.1 = 0 then { adopted.2 with started := false, dueAt := 0 } else adopted.2)

/-- The offer is taken at 0, the conflict comes at 10. -/
def lanConflicted : NetworkOwner × OwnerMonitor :=
  lanStep (.packet arpOfOther) 10 (lanStep (.packet offerFrame) 0 lanAdopted)

theorem run_lanConflicted :
    OwnerRun lanDocuments (fun _ _ => True) lanConflicted.1 lanConflicted.2 10 := by
  have hadopted : OwnerRun lanDocuments (fun _ _ => True) lanAdopted.1 lanAdopted.2 0 :=
    .policy lanPolicy 0 (.init 1 0) (le_refl 0) (lanRuns .nothing 0 _ _)
  have hstep : ∀ (received : OwnerReceived) {t : Nat} (now : Nat) {s : NetworkOwner × OwnerMonitor},
      OwnerRun lanDocuments (fun _ _ => True) s.1 s.2 t → t ≤ now →
      OwnerRun lanDocuments (fun _ _ => True) (lanStep received now s).1 (lanStep received now s).2 now :=
    fun received t now s h hnow => .step now h hnow trivial (lanRuns received now _ _)
  exact hstep _ 10 (hstep _ 0 hadopted (le_refl 0)) (by decide)

theorem conflictAt_lanConflicted : ConflictAt lanConflicted.1 0 10 := by
  refine ⟨?_, ?_, ?_, ?_, ?_⟩
  all_goals decide +kernel

/-- One step more, and the messages it has sent. -/
def lanStepCount (received : OwnerReceived) (now : Nat) (o : NetworkOwner) (sent : Nat) : NetworkOwner × Nat :=
  (ownerStep lanDocuments o (tick now)).eval
    (fun call sent => (lanAnswer received call, sent + sentBy 0 call (lanAnswer received call))) sent

theorem runs_lanStepCount {reaches : Prop} {packets : List UInt8 → Prop} {received : OwnerReceived}
    (h : LanAnswers 0 reaches packets (.receive 0) received) (now : Nat) (o : NetworkOwner) (sent : Nat) :
    Prog.Runs (lanWorld 0 reaches packets) (ownerStep lanDocuments o (tick now)) sent
      (some (lanStepCount received now o sent).1) (lanStepCount received now o sent).2 := by
  refine Prog.runs_eval (fun call sent => ⟨?_, rfl⟩) _ _
  cases call with
  | receive j =>
    intro hj
    obtain rfl := hj
    exact h rfl
  | observe => exact ⟨fun _ => ⟨rfl, rfl⟩, by decide⟩
  | «open» j => exact fun _ _ => rfl
  | _ => trivial

/-- No packet comes while the client waits: at 10010 it has left. -/
theorem backoff_bounded_quiet :
    ((lanStepCount .nothing 10010 (lanStepCount .nothing 5010 lanConflicted.1 0).1
      (lanStepCount .nothing 5010 lanConflicted.1 0).2).1.dhcp 0).xid ≠ (lanConflicted.1.dhcp 0).xid := by
  have hfirst : BackoffRun lanDocuments 0 (quietPackets lanDocuments 10) lanConflicted.1 10
      (lanStepCount .nothing 5010 lanConflicted.1 0).1 5010 (lanStepCount .nothing 5010 lanConflicted.1 0).2 :=
    .step .start (by omega) (by omega) (by decide +kernel)
      (runs_lanStepCount (fun _ => trivial) 5010 lanConflicted.1 0)
  have hsecond : BackoffRun lanDocuments 0 (quietPackets lanDocuments 10) lanConflicted.1 10
      (lanStepCount .nothing 10010 (lanStepCount .nothing 5010 lanConflicted.1 0).1
        (lanStepCount .nothing 5010 lanConflicted.1 0).2).1 10010
      (lanStepCount .nothing 10010 (lanStepCount .nothing 5010 lanConflicted.1 0).1
        (lanStepCount .nothing 5010 lanConflicted.1 0).2).2 :=
    .step hfirst (by omega) (by omega) (by decide +kernel)
      (runs_lanStepCount (fun _ => trivial) 10010 _ _)
  exact (backoff_bounded run_lanConflicted conflictAt_lanConflicted hsecond).leaves (le_refl _)

/-- The other host asks again at 5010: the client waits until 15010, and declines again. -/
theorem backoff_unbounded :
    ¬ ∀ (docs : OwnerDocuments) (o o' : NetworkOwner) (m : OwnerMonitor) (i : Lan) (t now sent : Nat),
      docs.arpConflict = arpConflict → docs.payload = framePayload →
      OwnerRun docs (fun _ _ => True) o m t → ConflictAt o i t →
      BackoffRun docs i anyPackets o t o' now sent → BackoffBounded o o' i t now sent := by
  intro h
  have hrun : BackoffRun lanDocuments 0 anyPackets lanConflicted.1 10
      (lanStepCount (.packet arpOfOther) 5010 lanConflicted.1 0).1 5010
      (lanStepCount (.packet arpOfOther) 5010 lanConflicted.1 0).2 :=
    .step .start (by omega) (by omega) (by decide +kernel)
      (runs_lanStepCount (fun _ => trivial) 5010 lanConflicted.1 0)
  have hwaits := (h lanDocuments _ _ _ 0 10 5010 _ rfl rfl run_lanConflicted conflictAt_lanConflicted
    hrun).waits (by omega)
  revert hwaits
  decide +kernel

end FourVrs.Network
