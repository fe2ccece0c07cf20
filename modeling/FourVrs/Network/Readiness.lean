import FourVrs.Network.Owner

/-!
# The owner is ready when it says so

`OwnerMonitor` watches the calls of the owner and remembers what its readiness is about:
the last observation that succeeded, whether a write job has ended since, whether one
was started for the policy, and when the next observation is due. `Honest` is the
invariant between the steps. A tick is a 32-bit counter, and an observation that is due
is taken for one that is not when half its range has gone by: time counts without end
here, and `Timely` says that no step comes that late.
-/

set_option autoImplicit false

namespace FourVrs.Network

open FourVrs.Core Lib

structure OwnerMonitor where
  /-- The last observation that succeeded. -/
  seen : Option NetworkObservation := none
  /-- No write job has ended since. -/
  fresh : Bool := false
  /-- A write job was started since the last policy. -/
  started : Bool := false
  /-- The next observation is due. -/
  dueAt : Nat := 0

def OwnerMonitor.see (now : Nat) (m : OwnerMonitor) : (call : OwnerCall) → call.Result → OwnerMonitor
  | .observe, (r, observed) =>
      if r = 0 ∧ observed.unsupported = 0 then
        { m with seen := some observed, fresh := true, dueAt := now + 250 }
      else m
  | .poll, r => if r ≠ 0 then { m with fresh := false, dueAt := min m.dueAt now } else m
  | .apply _ _, r => if r = 0 then { m with started := true } else m
  | .open _, _ | .close _, _ | .receive _, _ | .send _, _ | .probe _ _, _ | .cancel, _ => m

/-- The operations return anything. -/
def ownerWorld (now : Nat) : Prog.World OwnerCall OwnerCall.Result OwnerMonitor :=
  fun call m r m' => m' = m.see now call r

/-- The owner from its start, at the time of its last step; `allowed` restricts when the
    steps come. -/
inductive OwnerRun (docs : OwnerDocuments) (allowed : OwnerMonitor → Nat → Prop) :
    NetworkOwner → OwnerMonitor → Nat → Prop where
  | init (seed : BitVec 32) (now : Nat) : OwnerRun docs allowed (ownerInit seed) {} now
  | policy {o o' : NetworkOwner} {m m' : OwnerMonitor} {t : Nat} {r : Int} (p : NetworkPolicy) (now : Nat)
      (hrun : OwnerRun docs allowed o m t) (hnow : t ≤ now)
      (h : Prog.Runs (ownerWorld now) (ownerPolicy o p (tick now)) m (some (r, o')) m') :
      OwnerRun docs allowed o' (if r = 0 then { m' with started := false, dueAt := now } else m') now
  | step {o o' : NetworkOwner} {m m' : OwnerMonitor} {t : Nat} (now : Nat)
      (hrun : OwnerRun docs allowed o m t) (hnow : t ≤ now) (hallowed : allowed m now)
      (h : Prog.Runs (ownerWorld now) (ownerStep docs o (tick now)) m (some o') m') :
      OwnerRun docs allowed o' m' now

/-- Less than half the range of the ticks has gone by since an observation was due. -/
def Timely (m : OwnerMonitor) (now : Nat) : Prop := now < m.dueAt + 2 ^ 31

/-! ## What readiness means -/

/-- What a settled owner has done and seen. -/
structure Settled (docs : OwnerDocuments) (o : NetworkOwner) (m : OwnerMonitor) : Prop where
  idle : o.job = false
  fresh : m.fresh = true
  /-- The target is the one of the policy and the leases in force. -/
  target : computeTarget docs o.policy o.observed o.dhcp = some (o.target, o.resolver)
  /-- What was seen last is the target, whatever number of routes made it. -/
  seen : ∃ seen, m.seen = some seen ∧ { seen with defaultRoutes := o.target.defaultRoutes } = o.target
  started : m.started = true

/-- What a ready owner has besides. -/
structure Provided (o : NetworkOwner) (now : CoreTick) : Prop where
  leased : ∀ i, (o.policy.settings.lan i).mode = .dhcpClient →
    (o.dhcp i).valid = true ∧ due now (o.dhcp i).expiresAt = false
  routed : o.policy.settings.defaultLan ≠ 0 → o.target.defaultLan = o.policy.settings.defaultLan
  named : o.policy.settings.automaticDns ≠ 0 → o.target.dns 0 ≠ []

def Truthful (docs : OwnerDocuments) (o : NetworkOwner) (m : OwnerMonitor) (now : CoreTick) : Prop :=
  (o.ready = true ∨ o.settled = true → Settled docs o m) ∧ (o.ready = true → Provided o now)

/-- **The invariant**, between the steps. -/
structure Honest (o : NetworkOwner) (m : OwnerMonitor) (now : Nat) : Prop where
  running : o.stopping = false
  asleep : o.active = false → o.ready = false ∧ o.settled = false
  leases : ∀ i, OffWithout (o.dhcp i)
  due : o.active = true → o.nextObserve = tick m.dueAt ∧ m.dueAt ≤ now + 250
  observed : o.active = true → now < m.dueAt →
    m.fresh = true ∧ m.seen = some o.observed ∧ o.observed.unsupported = 0
  written : o.active = true → o.dirty = false → m.started = true
  writing : o.active = true → o.job = true → o.canceling = false → m.started = true

/-- The invariant within a step, once the interfaces are observed. -/
structure Observing (o : NetworkOwner) (m : OwnerMonitor) (now : Nat) : Prop where
  running : o.stopping = false
  active : o.active = true
  leases : ∀ i, OffWithout (o.dhcp i)
  due : o.nextObserve = tick m.dueAt ∧ now < m.dueAt ∧ m.dueAt ≤ now + 250
  observed : m.fresh = true ∧ m.seen = some o.observed ∧ o.observed.unsupported = 0
  written : o.dirty = false → m.started = true
  writing : o.job = true → o.canceling = false → m.started = true
  quiet : o.ready = false ∧ o.settled = false

/-! ## The interfaces -/

/-- All that the loop over the interfaces leaves alone. -/
def NetworkOwner.core (o : NetworkOwner) : NetworkOwner :=
  { o with dhcp := fun _ => {}, probeAt := fun _ => 0, opened := fun _ => false, error := 0, retryAt := 0,
           nextXid := 0 }

/-- One interface has been worked on. -/
structure LanFrame (i : Lan) (o o' : NetworkOwner) : Prop where
  core : o'.core = o.core
  others : ∀ j, j ≠ i → o'.dhcp j = o.dhcp j

theorem LanFrame.refl (i : Lan) (o : NetworkOwner) : LanFrame i o o := ⟨rfl, fun _ _ => rfl⟩

theorem LanFrame.trans {i : Lan} {o o' o'' : NetworkOwner} (h : LanFrame i o o')
    (h' : LanFrame i o' o'') : LanFrame i o o'' :=
  ⟨h'.core.trans h.core, fun j hj => (h'.others j hj).trans (h.others j hj)⟩

theorem lanFrame_withDhcp (i : Lan) (o : NetworkOwner) (d : DhcpClient) : LanFrame i o (withDhcp o i d) where
  core := rfl
  others j hj := by simp [withDhcp, Function.update_of_ne hj]

@[simp] theorem withDhcp_dhcp (o : NetworkOwner) (i : Lan) (d : DhcpClient) :
    (withDhcp o i d).dhcp i = d := by
  simp [withDhcp]

/-- The interface is worked on, its client has no expired lease, the monitor sees nothing. -/
def LanDone (i : Lan) (o : NetworkOwner) (m : OwnerMonitor) (now : CoreTick) (o' : NetworkOwner)
    (m' : OwnerMonitor) : Prop :=
  m' = m ∧ LanFrame i o o' ∧ Unexpired (o'.dhcp i) now

/-- A program that works on the interface. -/
abbrev LanSafe (t : Nat) (i : Lan) (o : NetworkOwner) (m : OwnerMonitor) (p : OwnerProg NetworkOwner) : Prop :=
  Prog.Safe (ownerWorld t) (fun _ => True) (LanDone i o m (tick t)) p m

variable {t : Nat} {i : Lan} {o : NetworkOwner} {m : OwnerMonitor}

/-- A call returns anything, and the monitor sees it. -/
theorem safe_ownerCall {α : Type} {post : α → OwnerMonitor → Prop} {call : OwnerCall}
    {f : call.Result → OwnerProg α}
    (h : ∀ r, Prog.Safe (ownerWorld t) (fun _ => True) post (f r) (m.see t call r)) :
    Prog.Safe (ownerWorld t) (fun _ => True) post (ownerCall call >>= f) m := by
  refine ⟨trivial, ?_⟩
  intro r m' hsee
  rw [hsee]
  exact h r

variable (docs : OwnerDocuments) {o' : NetworkOwner}

theorem lanSafe_pure (hframe : LanFrame i o o') (h : Unexpired (o'.dhcp i) (tick t)) :
    LanSafe t i o m (pure o') :=
  ⟨trivial, rfl, hframe, h⟩

theorem LanSafe.after {p : OwnerProg NetworkOwner} (hframe : LanFrame i o o') (h : LanSafe t i o' m p) :
    LanSafe t i o m p := by
  refine Prog.Safe.mono h ?_
  rintro o'' m' - ⟨rfl, hframe', hlease⟩
  exact ⟨rfl, hframe.trans hframe', hlease⟩

theorem LanSafe.bind {p : OwnerProg NetworkOwner} {f : NetworkOwner → OwnerProg NetworkOwner}
    (h : LanSafe t i o m p)
    (hf : ∀ o', LanFrame i o o' → Unexpired (o'.dhcp i) (tick t) → LanSafe t i o' m (f o')) :
    LanSafe t i o m (p >>= f) := by
  refine Prog.Safe.bind (Prog.Safe.mono h ?_)
  rintro o' m' - ⟨rfl, hframe, hlease⟩
  exact (hf o' hframe hlease).after hframe

theorem lanSafe_close (o : NetworkOwner) : LanSafe t i o m (closeLan o i) := by
  have hstop : LanFrame i o (withDhcp o i (dhcpStop (o.dhcp i))) := lanFrame_withDhcp i o _
  have hlease : Unexpired ((withDhcp o i (dhcpStop (o.dhcp i))).dhcp i) (tick t) := by
    rw [withDhcp_dhcp]
    exact unexpired_stop _ _
  unfold closeLan
  dsimp only
  split
  · exact safe_ownerCall fun _ => ⟨trivial, rfl, ⟨rfl, hstop.others⟩, hlease⟩
  · exact ⟨trivial, rfl, ⟨rfl, hstop.others⟩, hlease⟩

theorem takePacket_done (h : Unexpired (o.dhcp i) (tick t)) (bytes : List UInt8) :
    LanFrame i o (takePacket docs o (tick t) i bytes) ∧
      Unexpired ((takePacket docs o (tick t) i bytes).dhcp i) (tick t) := by
  unfold takePacket
  dsimp only
  split
  · refine ⟨lanFrame_withDhcp i o _, ?_⟩
    rw [withDhcp_dhcp]
    exact unexpired_conflict _ _
  split
  · exact ⟨.refl i o, h⟩
  · rename_i payload _
    have hreceived := unexpired_receive h payload
    have hframe := lanFrame_withDhcp i o (dhcpReceive (o.dhcp i) payload (tick t)).2
    split
    · refine ⟨⟨rfl, hframe.others⟩, ?_⟩
      simpa [withDhcp] using hreceived
    · refine ⟨hframe, ?_⟩
      rw [withDhcp_dhcp]
      exact hreceived

theorem lanSafe_takePackets (packets : Nat) (h : Unexpired (o.dhcp i) (tick t)) :
    LanSafe t i o m (takePackets docs (tick t) i packets o) := by
  induction packets generalizing o with
  | zero => exact lanSafe_pure (.refl i o) h
  | succ packets ih =>
    refine safe_ownerCall fun r => ?_
    cases r with
    | nothing => exact lanSafe_pure (.refl i o) h
    | failed =>
      have hframe : LanFrame i o { o with error := 3 } := ⟨rfl, fun _ _ => rfl⟩
      exact (lanSafe_close _).after hframe
    | packet bytes =>
      obtain ⟨hframe, hlease⟩ := takePacket_done docs h bytes
      exact (ih hlease).after hframe

theorem lanSafe_sendMessage (h : Unexpired (o.dhcp i) (tick t)) :
    LanSafe t i o m (sendMessage o (tick t) i) := by
  unfold sendMessage
  split
  · refine safe_ownerCall fun made => ?_
    cases made with
    | false => exact lanSafe_pure (.refl i o) h
    | true =>
      refine lanSafe_pure (lanFrame_withDhcp i o _) ?_
      rw [if_pos rfl, withDhcp_dhcp]
      exact unexpired_packetMade h _
  · exact lanSafe_pure (.refl i o) h

theorem lanSafe_probeAddress (h : Unexpired (o.dhcp i) (tick t)) :
    LanSafe t i o m (probeAddress o (tick t) i) := by
  have hset : ∀ (o' : NetworkOwner) (d : DhcpClient), LanFrame i o o' → Unexpired d (tick t) →
      LanSafe t i o m (pure (withDhcp o' i d)) := by
    intro o' d hframe hd
    refine lanSafe_pure (hframe.trans (lanFrame_withDhcp i o' d)) ?_
    rw [withDhcp_dhcp]
    exact hd
  unfold probeAddress
  dsimp only
  split
  · split
    · refine safe_ownerCall fun r => ?_
      split
      · exact hset _ _ ⟨rfl, fun _ _ => rfl⟩ (unexpired_conflict _ _)
      · exact hset _ _ ⟨rfl, fun _ _ => rfl⟩ ⟨h.ahead, h.off⟩
    · have hprobed := unexpired_probed h
      split
      · rename_i d heq
        rw [heq] at hprobed
        exact safe_ownerCall fun _ => hset _ _ (.refl i o) hprobed
      · rename_i d _ heq
        rw [heq] at hprobed
        exact hset _ _ (.refl i o) hprobed
  · exact lanSafe_pure (.refl i o) h

theorem lanSafe_runClient (h : OffWithout (o.dhcp i)) :
    LanSafe t i o m (runClient docs o (tick t) i) := by
  have hstep : LanFrame i o (withDhcp o i (dhcpStep (o.dhcp i) (tick t) ((o.observed.lan i).link ≠ 0))) :=
    lanFrame_withDhcp i o _
  unfold runClient
  refine LanSafe.after hstep ?_
  refine LanSafe.bind (lanSafe_takePackets docs 4 ?_) ?_
  · rw [withDhcp_dhcp]
    exact unexpired_step h _ _
  intro o' _ h'
  refine LanSafe.bind (lanSafe_sendMessage h') ?_
  intro o' _ h'
  refine LanSafe.bind (lanSafe_probeAddress h') ?_
  intro o' _ h'
  refine lanSafe_pure (lanFrame_withDhcp i o' _) ?_
  rw [withDhcp_dhcp]
  exact ⟨h'.ahead, h'.off⟩

/-- What the loop says of an interface. -/
def LanSays (i : Lan) (now : CoreTick) (o : NetworkOwner) (eligible : Bool) : Prop :=
  eligible = true → (o.policy.settings.lan i).mode = .dhcpClient →
    (o.dhcp i).valid = true ∧ due now (o.dhcp i).expiresAt = false

/-- One interface: the monitor sees nothing, and an eligible one has a lease. -/
theorem safe_stepLan (hstopping : o.stopping = false) (h : OffWithout (o.dhcp i)) :
    Prog.Safe (ownerWorld t) (fun _ => True)
      (fun r m' => m' = m ∧ LanFrame i o r.1 ∧ OffWithout (r.1.dhcp i) ∧
        ∀ eligible, r.2 = some eligible → LanSays i (tick t) r.1 eligible)
      (stepLan docs o (tick t) i) m := by
  have hrun : ∀ o', LanFrame i o o' → OffWithout (o'.dhcp i) →
      Prog.Safe (ownerWorld t) (fun _ => True)
        (fun r m' => m' = m ∧ LanFrame i o r.1 ∧ OffWithout (r.1.dhcp i) ∧
          ∀ eligible, r.2 = some eligible → LanSays i (tick t) r.1 eligible)
        (do let o ← runClient docs o' (tick t) i
            pure (o, some (o.dhcp i).valid)) m := by
    intro o' hframe hoff
    refine Prog.Safe.bind (Prog.Safe.mono (lanSafe_runClient docs hoff) ?_)
    rintro o'' m' - ⟨rfl, hframe', hlease⟩
    refine ⟨trivial, rfl, hframe.trans hframe', hlease.off, ?_⟩
    intro eligible heq helig _
    obtain rfl := Option.some.inj heq
    exact ⟨helig, hlease.ahead helig⟩
  unfold stepLan
  split
  · rename_i hskip
    refine ⟨trivial, rfl, .refl i o, h, ?_⟩
    intro eligible _ _ hmode
    rcases hskip with hmode' | hstop
    · exact absurd hmode hmode'
    · simp [hstopping] at hstop
  split
  · split
    · refine ⟨trivial, rfl, .refl i o, h, ?_⟩
      intro eligible heq helig
      obtain rfl := Option.some.inj heq
      simp at helig
    · refine safe_ownerCall fun r => ?_
      split
      · refine ⟨trivial, rfl, ⟨by simp only [NetworkOwner.core], fun _ _ => rfl⟩, h, ?_⟩
        intro eligible heq
        simp at heq
      · have hopen : LanFrame i o
            { o with opened := Function.update o.opened i true, nextXid := o.nextXid + 1 } :=
          ⟨by simp only [NetworkOwner.core], fun _ _ => rfl⟩
        refine hrun _ (hopen.trans (lanFrame_withDhcp i _ _)) ?_
        rw [withDhcp_dhcp]
        intro hoff
        simp [dhcpStart] at hoff
  · exact hrun o (.refl i o) h

/-! ## The target -/

theorem Observing.of_core (h : Observing o m t) (hcore : o'.core = o.core)
    (hleases : ∀ i, OffWithout (o'.dhcp i)) : Observing o' m t := by
  have same : ∀ {α : Type} (f : NetworkOwner → α), f o'.core = f o.core := fun f => congrArg f hcore
  have hrunning : o'.stopping = o.stopping := same NetworkOwner.stopping
  have hactive : o'.active = o.active := same NetworkOwner.active
  have hnext : o'.nextObserve = o.nextObserve := same NetworkOwner.nextObserve
  have hobserved : o'.observed = o.observed := same NetworkOwner.observed
  have hdirty : o'.dirty = o.dirty := same NetworkOwner.dirty
  have hjob : o'.job = o.job := same NetworkOwner.job
  have hcanceling : o'.canceling = o.canceling := same NetworkOwner.canceling
  have hready : o'.ready = o.ready := same NetworkOwner.ready
  have hsettled : o'.settled = o.settled := same NetworkOwner.settled
  constructor
  · rw [hrunning]
    exact h.running
  · rw [hactive]
    exact h.active
  · exact hleases
  · rw [hnext]
    exact h.due
  · rw [hobserved]
    exact h.observed
  · rw [hdirty]
    exact h.written
  · rw [hjob, hcanceling]
    exact h.writing
  · rw [hready, hsettled]
    exact h.quiet

theorem LanFrame.leases (hframe : LanFrame i o o') (h : ∀ i, OffWithout (o.dhcp i))
    (hi : OffWithout (o'.dhcp i)) : ∀ i, OffWithout (o'.dhcp i) := by
  intro j
  by_cases hj : j = i
  · rw [hj]
    exact hi
  · rw [hframe.others j hj]
    exact h j

/-- A step may end here: nothing is said to be ready. -/
theorem Observing.done (h : Observing o m t) :
    Honest o m t ∧ Truthful docs o m (tick t) := by
  refine ⟨⟨h.running, fun _ => h.quiet, h.leases, fun _ => ⟨h.due.1, h.due.2.2⟩, fun _ _ => h.observed,
    fun _ => h.written, fun _ => h.writing⟩, ?_, ?_⟩
  · intro hsays
    simp [h.quiet.1, h.quiet.2] at hsays
  · intro hready
    simp [h.quiet.1] at hready

theorem giveUpLease_frame (now : CoreTick) (i : Lan) (o : NetworkOwner) (h : ∀ i, OffWithout (o.dhcp i)) :
    (giveUpLease o now i).core = o.core ∧ ∀ j, OffWithout ((giveUpLease o now i).dhcp j) := by
  unfold giveUpLease
  split
  · have hframe := lanFrame_withDhcp i o (dhcpConflict (o.dhcp i) now)
    refine ⟨hframe.core, hframe.leases h ?_⟩
    intro _
    simp [dhcpConflict]
  · exact ⟨rfl, h⟩

theorem chooseTarget_none {docs : OwnerDocuments} {now : CoreTick} (h : Observing o m t)
    (hchoose : chooseTarget docs o now = (o', none)) : Observing o' m t := by
  unfold chooseTarget at hchoose
  split at hchoose
  · simp at hchoose
  · have hfirst := giveUpLease_frame now 0 { o with error := 5 } h.leases
    have hsecond := giveUpLease_frame now 1 _ hfirst.2
    dsimp only at hchoose
    split at hchoose
    · simp at hchoose
    · obtain ⟨rfl, -⟩ := Prod.mk.inj hchoose
      refine h.of_core ?_ hsecond.2
      exact hsecond.1.trans (hfirst.1.trans (by simp only [NetworkOwner.core]))

/-- The target chosen is that of the policy and the leases the owner goes on with. -/
theorem chooseTarget_some {docs : OwnerDocuments} {now : CoreTick} {suits : Bool} (h : Observing o m t)
    (hchoose : chooseTarget docs o now = (o', some suits)) :
    Observing o' m t ∧ o'.policy = o.policy ∧ (suits = true → o'.dhcp = o.dhcp) ∧
      computeTarget docs o'.policy o'.observed o'.dhcp = some (o'.target, o'.resolver) := by
  unfold chooseTarget at hchoose
  split at hchoose
  · rename_i target resolver htarget
    obtain ⟨rfl, -⟩ := Prod.mk.inj hchoose
    refine ⟨?_, rfl, fun _ => rfl, htarget⟩
    exact ⟨h.running, h.active, h.leases, h.due, h.observed, h.written, h.writing, h.quiet⟩
  · have hfirst := giveUpLease_frame now 0 { o with error := 5 } h.leases
    have hsecond := giveUpLease_frame now 1 _ hfirst.2
    dsimp only at hchoose
    split at hchoose
    · rename_i target resolver htarget
      obtain ⟨rfl, hsuits⟩ := Prod.mk.inj hchoose
      obtain rfl := Option.some.inj hsuits
      have hcore := hsecond.1.trans (hfirst.1.trans
        (show NetworkOwner.core { o with error := 5 } = o.core by simp only [NetworkOwner.core]))
      have hgone := h.of_core hcore hsecond.2
      have hpolicy := congrArg NetworkOwner.policy hcore
      refine ⟨?_, hpolicy, by simp, htarget⟩
      exact ⟨hgone.running, hgone.active, hgone.leases, hgone.due, hgone.observed, by simp, hgone.writing,
        hgone.quiet⟩
    · simp at hchoose

/-- What a target takes from the observation, and what from the policy. -/
theorem computeTarget_some {docs : OwnerDocuments} {policy : NetworkPolicy} {seen target : NetworkObservation}
    {dhcp : Lan → DhcpClient} {resolver : CText}
    (h : computeTarget docs policy seen dhcp = some (target, resolver)) :
    target.unsupported = 0 ∧
      (∀ i, (target.lan i).present = (seen.lan i).present ∧ (target.lan i).link = (seen.lan i).link ∧
        (target.lan i).mac = (seen.lan i).mac) ∧
      (target.defaultLan ≠ 0 → target.defaultLan = policy.settings.defaultLan) := by
  have hlan : ∀ {d : DhcpClient} {i : Lan} {a b : LanObservation},
      targetLan docs policy d i a = some b → b.present = a.present ∧ b.link = a.link ∧ b.mac = a.mac := by
    intro d i a b hb
    unfold targetLan at hb
    split at hb
    · simp at hb
    split at hb
    · obtain ⟨broadcast, -, rfl⟩ := Option.map_eq_some_iff.1 hb
      exact ⟨rfl, rfl, rfl⟩
    split at hb
    · obtain rfl := Option.some.inj hb
      exact ⟨rfl, rfl, rfl⟩
    · obtain rfl := Option.some.inj hb
      exact ⟨rfl, rfl, rfl⟩
  unfold computeTarget at h
  simp only [Option.bind_eq_bind, Option.bind_eq_some_iff] at h
  obtain ⟨lan0, h0, lan1, h1, text, -, h⟩ := h
  obtain ⟨-, h⟩ := Option.ite_none_left_eq_some.1 h
  obtain ⟨rfl, -⟩ := Prod.mk.inj (Option.some.inj h)
  refine ⟨rfl, ?_, ?_⟩
  · intro i
    rcases lan_cases i with rfl | rfl
    · exact hlan h0
    · exact hlan h1
  · intro hroute
    dsimp only at hroute ⊢
    split
    · rfl
    · rename_i hnone
      rw [if_neg hnone] at hroute
      exact absurd rfl hroute

/-! ## The end of a step -/

theorem seen_of_equal {docs : OwnerDocuments} (h : Observing o m t)
    (htarget : computeTarget docs o.policy o.observed o.dhcp = some (o.target, o.resolver))
    (hequal : observationEqual o.observed o.target = true) :
    { o.observed with defaultRoutes := o.target.defaultRoutes } = o.target := by
  obtain ⟨hunsupported, hlan, -⟩ := computeTarget_some htarget
  simp only [observationEqual, Bool.and_eq_true, decide_eq_true_eq] at hequal
  obtain ⟨⟨hlan0, hlan1⟩, hroute, hgateway, hdns0, hdns1⟩ := hequal
  have hlans : o.observed.lan = o.target.lan := by
    funext i
    have hcopied := hlan i
    have hcompared : (o.observed.lan i).up = (o.target.lan i).up ∧
        (o.observed.lan i).address = (o.target.lan i).address ∧
        (o.observed.lan i).netmask = (o.target.lan i).netmask ∧
        (o.observed.lan i).broadcast = (o.target.lan i).broadcast := by
      rcases lan_cases i with rfl | rfl
      · exact hlan0
      · exact hlan1
    cases hseen : o.observed.lan i
    cases hwanted : o.target.lan i
    simp_all
  have hdns : o.observed.dns = o.target.dns := by
    funext i
    rcases lan_cases i with rfl | rfl
    · exact hdns0
    · exact hdns1
  have hsupported := h.observed.2.2
  cases hseen : o.observed
  cases hwanted : o.target
  simp_all

/-- Between steps, and truthful. -/
def StepEnds (docs : OwnerDocuments) (t : Nat) (o : NetworkOwner) (m : OwnerMonitor) : Prop :=
  Honest o m t ∧ Truthful docs o m (tick t)

/-- A program that ends a step. -/
abbrev EndSafe (docs : OwnerDocuments) (t : Nat) (p : OwnerProg NetworkOwner) (m : OwnerMonitor) : Prop :=
  Prog.Safe (ownerWorld t) (fun _ => True) (StepEnds docs t) p m

theorem safe_reapJob (h : Observing o m t) (hjob : o.job = true) :
    EndSafe docs t (reapJob o (tick t)) m := by
  refine safe_ownerCall fun r => ?_
  by_cases hr : r = 0
  · -- still pending
    subst hr
    exact ⟨trivial, h.done docs⟩
  · rw [if_neg hr]
    have hsee : m.see t .poll r = { m with fresh := false, dueAt := t } := by
      have hmin : min m.dueAt t = t := min_eq_right h.due.2.1.le
      simp [OwnerMonitor.see, hr, hmin]
    rw [hsee]
    have hends : ∀ (canceling : Bool) (error : Nat) (retryAt : CoreTick),
        StepEnds docs t { o with job := false, dirty := o.canceling || staleJob o, nextObserve := tick t,
                                 canceling := canceling, error := error, retryAt := retryAt }
          { m with fresh := false, dueAt := t } := by
      intro canceling error retryAt
      refine ⟨⟨h.running, fun _ => h.quiet, h.leases, fun _ => ⟨rfl, by simp⟩, ?_, ?_, ?_⟩, ?_, ?_⟩
      · intro _ hdue
        simp at hdue
      · intro _ hclean
        have hcanceling : o.canceling = false := (Bool.or_eq_false_iff.1 hclean).1
        exact h.writing hjob hcanceling
      · intro _ hnew
        simp at hnew
      · intro hsays
        simp [h.quiet.1, h.quiet.2] at hsays
      · intro hready
        simp [h.quiet.1] at hready
    dsimp only
    split
    · exact ⟨trivial, hends _ _ _⟩
    · exact ⟨trivial, hends _ _ _⟩

theorem safe_watchJob (h : Observing o m t) (hjob : o.job = true) :
    EndSafe docs t (watchJob o (tick t)) m := by
  unfold watchJob
  split
  · refine safe_ownerCall fun r => ?_
    split
    · refine ⟨trivial, Observing.done docs (h.of_core ?_ h.leases)⟩
      simp only [NetworkOwner.core]
    · refine safe_reapJob docs ?_ hjob
      exact ⟨h.running, h.active, h.leases, h.due, h.observed, h.written, by simp, h.quiet⟩
  · exact safe_reapJob docs h hjob

/-- What the end of a step does, once it has a target. -/
theorem safe_settle {docs : OwnerDocuments} {eligible : Bool} (h : Observing o m t)
    (htarget : computeTarget docs o.policy o.observed o.dhcp = some (o.target, o.resolver))
    (hprovided : eligible = true → Provided o (tick t)) :
    EndSafe docs t (settle o (tick t) eligible) m := by
  unfold settle
  split
  · rename_i hjob
    exact safe_watchJob docs h hjob
  rename_i hidle
  split
  · refine safe_ownerCall fun r => ?_
    by_cases hr : r = 0
    · -- the write job starts
      subst hr
      refine ⟨trivial, Observing.done docs ?_⟩
      exact ⟨h.running, h.active, h.leases, h.due, h.observed, fun _ => rfl, fun _ _ => rfl, h.quiet⟩
    · have hsee : m.see t (.apply o.target o.resolver) r = m := by simp [OwnerMonitor.see, hr]
      rw [if_pos hr, hsee]
      refine ⟨trivial, Observing.done docs (h.of_core ?_ h.leases)⟩
      simp only [NetworkOwner.core]
  split
  · rename_i hsettled
    rw [Bool.and_eq_true, Bool.not_eq_true'] at hsettled
    obtain ⟨hequal, hclean⟩ := hsettled
    have hjob : o.job = false := by simpa using hidle
    have hseen := seen_of_equal h htarget hequal
    have hawake : o.active = false → eligible = false ∧ true = false := by simp [h.active]
    refine ⟨trivial, ⟨h.running, hawake, h.leases, fun _ => ⟨h.due.1, h.due.2.2⟩,
      fun _ _ => h.observed, fun _ => h.written, fun _ => h.writing⟩, ?_, ?_⟩
    · intro _
      exact ⟨hjob, h.observed.1, htarget, ⟨_, h.observed.2.1, hseen⟩, h.written hclean⟩
    · intro hready
      have := hprovided hready
      exact ⟨this.leased, this.routed, this.named⟩
  · exact ⟨trivial, h.done docs⟩

theorem safe_ownerObserved {docs : OwnerDocuments} (h : Observing o m t) :
    EndSafe docs t (ownerObserved docs o (tick t)) m := by
  unfold ownerObserved
  refine Prog.Safe.bind (Prog.Safe.mono (safe_stepLan docs h.running (h.leases 0)) ?_)
  rintro ⟨o₁, r₁⟩ m₁ - ⟨rfl, hframe₁, hoff₁, hsays₁⟩
  have h₁ : Observing o₁ m₁ t := h.of_core hframe₁.core (hframe₁.leases h.leases hoff₁)
  cases r₁ with
  | none => exact ⟨trivial, h₁.done docs⟩
  | some first =>
    refine Prog.Safe.bind (Prog.Safe.mono (safe_stepLan docs h₁.running (h₁.leases 1)) ?_)
    rintro ⟨o₂, r₂⟩ m₂ - ⟨rfl, hframe₂, hoff₂, hsays₂⟩
    have h₂ : Observing o₂ m₂ t := h₁.of_core hframe₂.core (hframe₂.leases h₁.leases hoff₂)
    cases r₂ with
    | none => exact ⟨trivial, h₂.done docs⟩
    | some second =>
      dsimp only
      split
      · rename_i o₃ hchoose
        exact ⟨trivial, (chooseTarget_none h₂ hchoose).done docs⟩
      · rename_i o₃ suits hchoose
        obtain ⟨h₃, hpolicy, hclients, htarget⟩ := chooseTarget_some h₂ hchoose
        refine safe_settle h₃ htarget ?_
        intro heligible
        simp only [Bool.and_eq_true, Bool.or_eq_true, decide_eq_true_eq] at heligible
        obtain ⟨⟨⟨⟨hfirst, hsecond⟩, hsuits⟩, hrouted⟩, hnamed⟩ := heligible
        constructor
        · -- both interfaces were eligible, and their clients are still the same
          intro i hmode
          rw [hpolicy] at hmode
          rw [hclients hsuits]
          rcases lan_cases i with rfl | rfl
          · have hpolicy₂ : o₂.core.policy = o₁.core.policy := congrArg NetworkOwner.policy hframe₂.core
            have hmode₁ : (o₁.policy.settings.lan 0).mode = .dhcpClient := hpolicy₂ ▸ hmode
            rw [hframe₂.others 0 (by simp)]
            exact hsays₁ first rfl hfirst hmode₁
          · exact hsays₂ second rfl hsecond hmode
        · intro hroute
          have hpresent : o₃.target.defaultLan ≠ 0 := hrouted.resolve_left hroute
          exact (computeTarget_some htarget).2.2 hpresent
        · intro hdns
          exact hnamed.resolve_left hdns

/-! ## Steps -/

/-- A step that has not observed anything: what was owed is still owed. -/
structure Waking (o : NetworkOwner) (m : OwnerMonitor) (now : Nat) : Prop where
  honest : Honest o m now
  active : o.active = true
  quiet : o.ready = false ∧ o.settled = false

theorem Waking.expire {t₀ : Nat} (h : Waking o m t₀) (now : CoreTick) (i : Lan) :
    Waking (expireLease o now i) m t₀ := by
  unfold expireLease
  split
  · have hframe := lanFrame_withDhcp i o (dhcpStep (o.dhcp i) now true)
    have hleases := hframe.leases h.honest.leases (by
      rw [withDhcp_dhcp]
      exact (unexpired_step (h.honest.leases i) now true).off)
    exact ⟨⟨h.honest.running, h.honest.asleep, hleases, h.honest.due, h.honest.observed, by simp,
      h.honest.writing⟩, h.active, h.quiet⟩
  · exact h

/-- Nothing is said to be ready. -/
theorem Waking.ends (h : Waking o m t) : StepEnds docs t o m := by
  refine ⟨h.honest, ?_, ?_⟩
  · intro hsays
    simp [h.quiet.1, h.quiet.2] at hsays
  · intro hready
    simp [h.quiet.1] at hready

theorem safe_reapBlind (h : Waking o m t) (howed : m.dueAt ≤ t) :
    EndSafe docs t (reapBlind o) m := by
  refine safe_ownerCall fun r => ?_
  by_cases hr : r = 0
  · subst hr
    exact ⟨trivial, h.ends docs⟩
  · have hsee : m.see t .poll r = { m with fresh := false } := by
      have hmin : min m.dueAt t = m.dueAt := min_eq_left howed
      simp [OwnerMonitor.see, hr, hmin]
    rw [if_pos hr, hsee]
    refine ⟨trivial, Waking.ends docs ⟨⟨h.honest.running, h.honest.asleep, h.honest.leases, h.honest.due, ?_,
      by simp, by simp⟩, h.active, h.quiet⟩⟩
    intro _ hdue
    exact absurd hdue (not_lt.2 howed)

theorem safe_ownerBlind (h : Waking o m t) (howed : m.dueAt ≤ t) :
    EndSafe docs t (ownerBlind o) m := by
  have hflagged : ∀ canceling, canceling = true ∨ canceling = o.canceling →
      Waking { o with error := 1, canceling := canceling } m t := by
    intro canceling hcanceling
    refine ⟨⟨h.honest.running, h.honest.asleep, h.honest.leases, h.honest.due, h.honest.observed,
      h.honest.written, ?_⟩, h.active, h.quiet⟩
    intro hactive hjob hnot
    rcases hcanceling with rfl | rfl
    · simp at hnot
    · exact h.honest.writing hactive hjob hnot
  unfold ownerBlind
  dsimp only
  split
  · exact ⟨trivial, (hflagged _ (Or.inr rfl)).ends docs⟩
  split
  · refine safe_ownerCall fun r => ?_
    split
    · exact safe_reapBlind docs (hflagged true (Or.inl rfl)) howed
    · exact safe_reapBlind docs (hflagged _ (Or.inr rfl)) howed
  · exact safe_reapBlind docs (hflagged _ (Or.inr rfl)) howed

/-- **The step lemma.** -/
theorem safe_ownerStep {t₀ : Nat} (h : Honest o m t₀) (hnow : t₀ ≤ t) (htimely : Timely m t) :
    EndSafe docs t (ownerStep docs o (tick t)) m := by
  unfold ownerStep
  split
  · rename_i hasleep
    have hactive : o.active = false := by simpa using hasleep
    have hquiet := h.asleep hactive
    refine ⟨trivial, ⟨h.running, h.asleep, h.leases, ?_, ?_, ?_, ?_⟩, ?_, ?_⟩
    all_goals simp [hactive, hquiet.1, hquiet.2]
  · rename_i hawake
    have hactive : o.active = true := by simpa using hawake
    have hwaking : Waking { o with ready := false, settled := false } m t₀ :=
      ⟨⟨h.running, fun _ => ⟨rfl, rfl⟩, h.leases, h.due, h.observed, h.written, h.writing⟩, hactive, rfl, rfl⟩
    have hexpired := (hwaking.expire (tick t) 0).expire (tick t) 1
    dsimp only
    generalize expireLease (expireLease _ (tick t) 0) (tick t) 1 = o at hexpired
    obtain ⟨hnext, hsoon⟩ := hexpired.honest.due hexpired.active
    -- the ticks wrap; a step in time makes the test on them one on the times
    have hdue : due (tick t) o.nextObserve = decide (m.dueAt ≤ t) := by
      rw [hnext, Bool.eq_iff_iff, decide_eq_true_iff]
      exact due_tick_iff htimely (by omega)
    rw [hdue]
    by_cases howed : m.dueAt ≤ t
    · rw [if_pos (by simpa using howed)]
      refine safe_ownerCall fun r => ?_
      obtain ⟨r, observed⟩ := r
      dsimp only
      by_cases hseen : r = 0 ∧ observed.unsupported = 0
      · have hsee : m.see t .observe (r, observed) =
            { m with seen := some observed, fresh := true, dueAt := t + 250 } := by
          simp [OwnerMonitor.see, hseen]
        rw [if_neg (by simpa [not_or] using hseen), hsee]
        refine safe_ownerObserved ?_
        refine ⟨hexpired.honest.running, hexpired.active, hexpired.honest.leases, ⟨?_, by simp, le_rfl⟩,
          ⟨rfl, rfl, hseen.2⟩, hexpired.honest.written hexpired.active,
          hexpired.honest.writing hexpired.active, hexpired.quiet⟩
        exact tick_add t 250
      · have hsee : m.see t .observe (r, observed) = m := by
          simp only [OwnerMonitor.see]
          rw [if_neg hseen]
        rw [if_pos (not_and_or.1 hseen), hsee]
        refine safe_ownerBlind docs ?_ howed
        refine ⟨⟨hexpired.honest.running, hexpired.honest.asleep, hexpired.honest.leases, ?_, ?_,
          hexpired.honest.written, hexpired.honest.writing⟩, hexpired.active, hexpired.quiet⟩
        · intro _
          exact ⟨hnext, by omega⟩
        · intro _ hlater
          exact absurd hlater (not_lt.2 howed)
    · -- not due: what was seen last still stands
      rw [if_neg (by simpa using howed)]
      have hahead : t < m.dueAt := not_le.1 howed
      refine safe_ownerObserved ?_
      exact ⟨hexpired.honest.running, hexpired.active, hexpired.honest.leases, ⟨hnext, hahead, by omega⟩,
        hexpired.honest.observed hexpired.active (by omega), hexpired.honest.written hexpired.active,
        hexpired.honest.writing hexpired.active, hexpired.quiet⟩

/-! ## Policies -/

theorem safe_leaveMode (h : OffWithout (o.dhcp i)) (p : NetworkPolicy) :
    Prog.Safe (ownerWorld t) (fun _ => True)
      (fun o' m' => m' = m ∧ LanFrame i o o' ∧ OffWithout (o'.dhcp i)) (leaveMode o p i) m := by
  unfold leaveMode
  split
  · refine Prog.Safe.mono (lanSafe_close o) ?_
    rintro o' m' - ⟨rfl, hframe, hlease⟩
    exact ⟨rfl, hframe, hlease.off⟩
  · exact ⟨trivial, rfl, .refl i o, h⟩

theorem safe_adoptPolicy {t₀ : Nat} (h : Honest o m t₀) (hjob : o.job = true → o.canceling = true)
    (p : NetworkPolicy) :
    Prog.Safe (ownerWorld t) (fun _ => True)
      (fun r m' => r.1 = 0 ∧ Honest r.2 { m' with started := false, dueAt := t } t)
      (adoptPolicy o p (tick t)) m := by
  unfold adoptPolicy
  refine Prog.Safe.bind (Prog.Safe.mono (safe_leaveMode (h.leases 0) p) ?_)
  rintro o₁ m₁ - ⟨rfl, hframe₁, hoff₁⟩
  have hleases₁ := hframe₁.leases h.leases hoff₁
  refine Prog.Safe.bind (Prog.Safe.mono (safe_leaveMode (hleases₁ 1) p) ?_)
  rintro o₂ m₂ - ⟨rfl, hframe₂, hoff₂⟩
  have hleases₂ := hframe₂.leases hleases₁ hoff₂
  have hcore : o₂.core = o.core := hframe₂.core.trans hframe₁.core
  have hjob₂ : o₂.core.job = o.core.job := congrArg NetworkOwner.job hcore
  have hcanceling₂ : o₂.core.canceling = o.core.canceling := congrArg NetworkOwner.canceling hcore
  refine ⟨trivial, rfl, rfl, by simp, hleases₂, fun _ => ⟨rfl, by simp⟩, by simp, by simp, ?_⟩
  intro _ hpending hnot
  have hstill : o.canceling = true := hjob (hjob₂ ▸ hpending)
  have hgone : o.canceling = false := hcanceling₂ ▸ hnot
  simp [hstill] at hgone

/-- A policy refused changes nothing, one adopted is to be written. -/
theorem safe_ownerPolicy {t₀ : Nat} (h : Honest o m t₀) (hnow : t₀ ≤ t) (p : NetworkPolicy) :
    Prog.Safe (ownerWorld t) (fun _ => True)
      (fun r m' => Honest r.2 (if r.1 = 0 then { m' with started := false, dueAt := t } else m') t)
      (ownerPolicy o p (tick t)) m := by
  have hlater : Honest o m t := by
    refine ⟨h.running, h.asleep, h.leases, ?_, ?_, h.written, h.writing⟩
    · intro hactive
      exact ⟨(h.due hactive).1, by have := (h.due hactive).2; omega⟩
    · intro hactive hahead
      exact h.observed hactive (by omega)
  have hadopt : ∀ o', Honest o' m t₀ → (o'.job = true → o'.canceling = true) →
      Prog.Safe (ownerWorld t) (fun _ => True)
        (fun r m' => Honest r.2 (if r.1 = 0 then { m' with started := false, dueAt := t } else m') t)
        (adoptPolicy o' p (tick t)) m := by
    intro o' h' hjob
    refine Prog.Safe.mono (safe_adoptPolicy h' hjob p) ?_
    rintro r m' - ⟨hzero, hhonest⟩
    rw [if_pos hzero]
    exact hhonest
  unfold ownerPolicy
  split
  · exact ⟨trivial, hlater⟩
  split
  · refine safe_ownerCall fun r => ?_
    split
    · exact ⟨trivial, hlater⟩
    · refine hadopt _ ?_ (fun _ => rfl)
      exact ⟨h.running, h.asleep, h.leases, h.due, h.observed, h.written, by simp⟩
  · rename_i hnot
    refine hadopt o h ?_
    intro hjob
    simpa [hjob] using hnot

/-! ## Runs -/

theorem honest_of_run {docs : OwnerDocuments} {o : NetworkOwner} {m : OwnerMonitor} {t : Nat}
    (hrun : OwnerRun docs Timely o m t) : Honest o m t := by
  induction hrun with
  | init seed now =>
    refine ⟨rfl, fun _ => ⟨rfl, rfl⟩, fun _ _ => rfl, ?_, ?_, ?_, ?_⟩
    all_goals simp [ownerInit]
  | policy p now hrun hnow h ih => exact ((safe_ownerPolicy ih hnow p).runs h).2 _ rfl
  | step now hrun hnow htimely h ih => exact (((safe_ownerStep docs ih hnow htimely).runs h).2 _ rfl).1

/-- **Readiness is truthful.** Whatever the observations, the packets and the results of
    the operations, as long as no step comes half the range of the ticks after an
    observation was due: an owner that says it is settled has seen, since its last write
    job ended, the target its policy and its leases ask for, and has started such a job
    for the policy; one that says it is ready has a lease in force for every DHCP
    interface, the route and the name server its policy asks for. -/
theorem readiness_of_timely {docs : OwnerDocuments} {o o' : NetworkOwner} {m m' : OwnerMonitor}
    {t now : Nat} (hrun : OwnerRun docs Timely o m t) (hnow : t ≤ now) (htimely : Timely m now)
    (hstep : Prog.Runs (ownerWorld now) (ownerStep docs o (tick now)) m (some o') m') :
    Truthful docs o' m' (tick now) :=
  (((safe_ownerStep docs (honest_of_run hrun) hnow htimely).runs hstep).2 _ rfl).2

/-! ## A network that is as it should be -/

/-- Documents that ask for nothing, and packets of no client. -/
def plainDocuments : OwnerDocuments where
  broadcast _ _ := some (Config.text "10.0.0.255")
  resolver _ _ := some []
  payload _ _ := none
  arpConflict _ _ := false

/-- Two static interfaces. -/
def staticPolicy : NetworkPolicy where
  settings :=
    { lan := fun i =>
        { address := if i = 0 then Config.text "10.0.0.2" else Config.text "10.0.1.2"
          netmask := Config.text "255.255.255.0" } }

/-- They are up and as they should be, with so many default routes of no interface. -/
def staticSeen (routes : Nat) : NetworkObservation where
  lan i :=
    { present := 1, up := 1, link := 1, broadcast := Config.text "10.0.0.255"
      address := (staticPolicy.settings.lan i).address, netmask := (staticPolicy.settings.lan i).netmask }
  defaultRoutes := routes

/-- Every call succeeds. -/
def plainAnswer (routes : Nat) : (call : OwnerCall) → call.Result
  | .observe => (0, staticSeen routes)
  | .receive _ => .nothing
  | .send _ => true
  | .close _ => ()
  | .poll => 1
  | .open _ | .probe _ _ | .apply _ _ | .cancel => 0

def plainHandle (routes now : Nat) (call : OwnerCall) (m : OwnerMonitor) : call.Result × OwnerMonitor :=
  (plainAnswer routes call, m.see now call (plainAnswer routes call))

theorem plainRuns {α : Type} (routes now : Nat) (p : OwnerProg α) (m : OwnerMonitor) :
    Prog.Runs (ownerWorld now) p m (some (p.eval (plainHandle routes now) m).1)
      (p.eval (plainHandle routes now) m).2 :=
  Prog.runs_eval (fun _ _ => rfl) p m

def plainPolicy (routes now : Nat) (p : NetworkPolicy) (s : NetworkOwner × OwnerMonitor) :
    NetworkOwner × OwnerMonitor :=
  let adopted := (ownerPolicy s.1 p (tick now)).eval (plainHandle routes now) s.2
  (adopted.1.2, if adopted.1.1 = 0 then { adopted.2 with started := false, dueAt := now } else adopted.2)

def plainStep (routes now : Nat) (s : NetworkOwner × OwnerMonitor) : NetworkOwner × OwnerMonitor :=
  (ownerStep plainDocuments s.1 (tick now)).eval (plainHandle routes now) s.2

section

variable {allowed : OwnerMonitor → Nat → Prop} {s : NetworkOwner × OwnerMonitor} {t : Nat}

theorem run_plainPolicy (routes : Nat) {now : Nat} (p : NetworkPolicy) (s : NetworkOwner × OwnerMonitor)
    (h : OwnerRun plainDocuments allowed s.1 s.2 t) (hnow : t ≤ now) :
    OwnerRun plainDocuments allowed (plainPolicy routes now p s).1 (plainPolicy routes now p s).2 now :=
  .policy p now h hnow (plainRuns routes now (ownerPolicy s.1 p (tick now)) s.2)

theorem run_plainStep (routes : Nat) {now : Nat} (h : OwnerRun plainDocuments allowed s.1 s.2 t)
    (hnow : t ≤ now) (hallowed : allowed s.2 now) :
    OwnerRun plainDocuments allowed (plainStep routes now s).1 (plainStep routes now s).2 now :=
  .step now h hnow hallowed (plainRuns routes now (ownerStep plainDocuments s.1 (tick now)) s.2)

end

/-- The policy adopted, the target written and the writer reaped, at 0 and 1. -/
def plainWritten (routes : Nat) : NetworkOwner × OwnerMonitor :=
  plainStep routes 1 (plainStep routes 0 (plainPolicy routes 0 staticPolicy (ownerInit 1, {})))

theorem run_plainWritten (routes : Nat) (allowed : OwnerMonitor → Nat → Prop)
    (hallowed : ∀ m now, now ≤ 1 → allowed m now) :
    OwnerRun plainDocuments allowed (plainWritten routes).1 (plainWritten routes).2 1 := by
  have hinit : OwnerRun plainDocuments allowed (ownerInit 1) {} 0 := .init 1 0
  have hadopted := run_plainPolicy routes staticPolicy (ownerInit 1, {}) hinit (Nat.le_refl 0)
  have hstarted := run_plainStep routes hadopted (Nat.le_refl 0) (hallowed _ 0 (by omega))
  exact run_plainStep routes hstarted (by omega) (hallowed _ 1 (by omega))

/-- Then the owner is ready, and has seen its target. -/
theorem readiness_plainWritten :
    (plainStep 0 2 (plainWritten 0)).1.ready = true ∧
      Settled plainDocuments (plainStep 0 2 (plainWritten 0)).1 (plainStep 0 2 (plainWritten 0)).2 := by
  have hready : (plainStep 0 2 (plainWritten 0)).1.ready = true := by decide +kernel
  have hrun := run_plainWritten 0 Timely fun m now hnow => by
    unfold Timely
    omega
  have htimely : Timely (plainWritten 0).2 2 := by
    unfold Timely
    omega
  have htruthful := readiness_of_timely hrun (by omega) htimely (plainRuns 0 2 _ _)
  exact ⟨hready, htruthful.1 (Or.inl hready)⟩

/-- **A tick that comes too late** is taken for one that comes too early: the owner is
    ready without having looked since its writer ended. And the number of default routes
    is no part of the comparison. -/
theorem readiness_fails_late :
    (∃ o m o' m', OwnerRun plainDocuments (fun _ _ => True) o m 1 ∧
      Prog.Runs (ownerWorld (2 ^ 31 + 1)) (ownerStep plainDocuments o (tick (2 ^ 31 + 1))) m (some o') m' ∧
      o'.ready = true ∧ m'.fresh = false) ∧
    ∃ o m o' m', OwnerRun plainDocuments Timely o m 1 ∧ Timely m 2 ∧
      Prog.Runs (ownerWorld 2) (ownerStep plainDocuments o (tick 2)) m (some o') m' ∧
      o'.ready = true ∧ m'.seen ≠ some o'.target := by
  constructor
  · have hrun := run_plainWritten 0 (fun _ _ => True) fun _ _ _ => trivial
    refine ⟨_, _, _, _, hrun, plainRuns 0 (2 ^ 31 + 1) _ _, ?_, ?_⟩
    · decide +kernel
    · decide +kernel
  · have hrun := run_plainWritten 2 Timely fun m now hnow => by
      unfold Timely
      omega
    refine ⟨_, _, _, _, hrun, ?_, plainRuns 2 2 _ _, ?_, ?_⟩
    · unfold Timely
      omega
    · decide +kernel
    · intro hseen
      have hroutes : ((plainStep 2 2 (plainWritten 2)).2.seen.map NetworkObservation.defaultRoutes) =
          some (plainStep 2 2 (plainWritten 2)).1.target.defaultRoutes := by
        unfold plainStep
        rw [hseen]
        rfl
      revert hroutes
      decide +kernel

end FourVrs.Network
