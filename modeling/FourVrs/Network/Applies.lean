import FourVrs.Network.DhcpConflict

/-!
# What the owner writes

The owner hands a target to `apply`, one job at a time. `WriteMonitor` watches the jobs:
whether one is outstanding, whether one was cancelled with nothing written since, and what
was handed over in the last call of the owner. A job that is obsolete is cancelled, where
the operation does it, and a cancelled one leaves the owner dirty until a new one is
started.
-/

set_option autoImplicit false

namespace FourVrs.Network

open FourVrs.Core Lib Config

/-! ## Targets -/

/-- What may be written: hosts on networks that have no address in common, and a default
    route through a router on the network of its interface. -/
structure Admissible (t : NetworkObservation) : Prop where
  hosts : ∀ i, (t.lan i).address ≠ [] → ∃ a m, ipv4Parse (t.lan i).address = some a ∧
    ipv4Parse (t.lan i).netmask = some m ∧ a &&& ~~~m ≠ 0 ∧ a &&& ~~~m ≠ ~~~m
  apart : ∀ a₀ m₀ a₁ m₁ : BitVec 32,
    ipv4Parse (t.lan 0).address = some a₀ → ipv4Parse (t.lan 0).netmask = some m₀ →
    ipv4Parse (t.lan 1).address = some a₁ → ipv4Parse (t.lan 1).netmask = some m₁ →
    ∀ x, ¬ (x &&& m₀ = a₀ &&& m₀ ∧ x &&& m₁ = a₁ &&& m₁)
  routed : t.gateway ≠ [] → t.defaultLan ≠ 0 ∧ ∃ a m g,
    ipv4Parse (t.lan (lanOfNumber t.defaultLan)).address = some a ∧
    ipv4Parse (t.lan (lanOfNumber t.defaultLan)).netmask = some m ∧
    ipv4Parse t.gateway = some g ∧ g &&& m = a &&& m
  unrouted : t.gateway = [] → t.defaultLan = 0

/-- The parts of a target. -/
theorem computeTarget_parts {docs : OwnerDocuments} {policy : NetworkPolicy} {observed : NetworkObservation}
    {dhcp : Lan → DhcpClient} {t : NetworkObservation} {resolver : CText}
    (h : computeTarget docs policy observed dhcp = some (t, resolver)) :
    (∀ i, targetLan docs policy (dhcp i) i (observed.lan i) = some (t.lan i)) ∧
      t.gateway = targetGateway policy dhcp ∧
      t.defaultLan = (if t.gateway ≠ [] then policy.settings.defaultLan else 0) ∧
      settingsValidate (targetSettings t) = .ok := by
  unfold computeTarget at h
  simp only [Option.bind_eq_bind, Option.bind_eq_some_iff] at h
  obtain ⟨lan₀, hfirst, lan₁, hsecond, text, -, h⟩ := h
  obtain ⟨hvalid, h⟩ := Option.ite_none_left_eq_some.1 h
  obtain ⟨rfl, rfl⟩ := Prod.mk.inj (Option.some.inj h)
  refine ⟨fun i => ?_, rfl, rfl, not_not.1 hvalid⟩
  rcases lan_cases i with rfl | rfl
  · simpa using hfirst
  · simpa using hsecond

theorem ipv4Parse_nil : ipv4Parse [] = none := rfl

section Targets

variable {docs : OwnerDocuments} {policy : NetworkPolicy} {observed : NetworkObservation}
  {dhcp : Lan → DhcpClient} {t : NetworkObservation} {resolver : CText}

/-- The interface of the default route has an address. -/
theorem routed_address (hpolicy : settingsValidate policy.settings = .ok)
    (hleases : ∀ i, (dhcp i).valid = true → (dhcp i).lease.address ≠ [])
    (hlans : ∀ i, targetLan docs policy (dhcp i) i (observed.lan i) = some (t.lan i))
    (hgateway : targetGateway policy dhcp ≠ []) :
    policy.settings.defaultLan ≠ 0 ∧ (t.lan (lanOfNumber policy.settings.defaultLan)).address ≠ [] := by
  unfold targetGateway at hgateway
  simp only at hgateway
  split at hgateway
  · exact absurd rfl hgateway
  · rename_i hroute
    refine ⟨hroute, ?_⟩
    have hlan := hlans (lanOfNumber policy.settings.defaultLan)
    unfold targetLan at hlan
    split at hlan
    · cases hlan
    split at hgateway
    · rename_i hmode
      obtain ⟨a, m, hhost⟩ := staticHost_of_validate hpolicy hmode
      simp only [hmode, Option.map_eq_some_iff] at hlan
      obtain ⟨broadcast, -, hlan⟩ := hlan
      rw [← hlan]
      intro hnone
      have hparse := hhost.address
      simp only at hnone
      rw [hnone, ipv4Parse_nil] at hparse
      cases hparse
    · rename_i hmode
      simp only [hmode] at hlan
      split at hgateway
      · rename_i hvalid
        simp only [hvalid, if_true, Option.some.injEq] at hlan
        rw [← hlan]
        exact hleases _ hvalid
      · exact absurd rfl hgateway

/-- **Every target is admissible.** -/
theorem admissible_of_target (hpolicy : settingsValidate policy.settings = .ok)
    (hleases : ∀ i, (dhcp i).valid = true → (dhcp i).lease.address ≠ [])
    (h : computeTarget docs policy observed dhcp = some (t, resolver)) : Admissible t := by
  obtain ⟨hlans, hgateway, hdefault, hvalid⟩ := computeTarget_parts h
  have hset : ∀ i, (t.lan i).address ≠ [] → (targetSettings t).lan i =
      { address := (t.lan i).address, netmask := (t.lan i).netmask
        gateway := if t.defaultLan ≠ 0 ∧ lanOfNumber t.defaultLan = i then t.gateway else [] } := by
    intro i haddress
    simp [targetSettings, haddress]
  have hgiven : ∀ {i : Lan} {a : BitVec 32}, ipv4Parse (t.lan i).address = some a → (t.lan i).address ≠ [] := by
    intro i a hparse hnone
    rw [hnone, ipv4Parse_nil] at hparse
    cases hparse
  have hhost : ∀ i, (t.lan i).address ≠ [] → ∃ a m, StaticHost ((targetSettings t).lan i) a m := by
    intro i haddress
    exact staticHost_of_validate hvalid (by rw [hset i haddress])
  constructor
  · intro i haddress
    obtain ⟨a, m, hstatic⟩ := hhost i haddress
    rw [hset i haddress] at hstatic
    exact ⟨a, m, hstatic.address, hstatic.netmask, hstatic.host⟩
  · intro a₀ m₀ a₁ m₁ ha₀ hm₀ ha₁ hm₁
    obtain ⟨b₀, n₀, hstatic₀⟩ := hhost 0 (hgiven ha₀)
    obtain ⟨b₁, n₁, hstatic₁⟩ := hhost 1 (hgiven ha₁)
    have happart := disjoint_of_validate hvalid (by rw [hset 0 (hgiven ha₀)]) (by rw [hset 1 (hgiven ha₁)])
      hstatic₀ hstatic₁
    rw [hset 0 (hgiven ha₀)] at hstatic₀
    rw [hset 1 (hgiven ha₁)] at hstatic₁
    obtain rfl : a₀ = b₀ := Option.some.inj (ha₀.symm.trans hstatic₀.address)
    obtain rfl : m₀ = n₀ := Option.some.inj (hm₀.symm.trans hstatic₀.netmask)
    obtain rfl : a₁ = b₁ := Option.some.inj (ha₁.symm.trans hstatic₁.address)
    obtain rfl : m₁ = n₁ := Option.some.inj (hm₁.symm.trans hstatic₁.netmask)
    exact happart
  · intro hrouter
    rw [if_pos hrouter] at hdefault
    obtain ⟨hroute, haddress⟩ := routed_address hpolicy hleases hlans (hgateway ▸ hrouter)
    rw [← hdefault] at hroute haddress
    obtain ⟨a, m, hstatic⟩ := hhost _ haddress
    rw [hset _ haddress] at hstatic
    simp only [hroute, ne_eq, not_false_eq_true, and_self, if_true] at hstatic
    obtain ⟨g, hparse, hinside⟩ := hstatic.gateway (by simpa using hrouter)
    exact ⟨hroute, a, m, g, hstatic.address, hstatic.netmask, by simpa using hparse, hinside⟩
  · intro hnone
    rw [if_neg (by simp [hnone])] at hdefault
    exact hdefault

/-- The address of a DHCP interface is that of its lease. -/
theorem leased_of_target (h : computeTarget docs policy observed dhcp = some (t, resolver)) {i : Lan}
    (hmode : (policy.settings.lan i).mode = .dhcpClient) (haddress : (t.lan i).address ≠ []) :
    (dhcp i).valid = true ∧ (t.lan i).address = (dhcp i).lease.address := by
  have hlan := (computeTarget_parts h).1 i
  unfold targetLan at hlan
  split at hlan
  · cases hlan
  · simp only [hmode] at hlan
    split at hlan
    · rename_i hvalid
      rw [← Option.some.inj hlan]
      exact ⟨hvalid, rfl⟩
    · have hempty := Option.some.inj hlan
      rw [← hempty] at haddress
      exact absurd rfl haddress

end Targets

/-! ## Runs -/

/-- The jobs of an owner, as its calls show them. -/
structure WriteMonitor where
  /-- A job has been started and not been reported finished. -/
  outstanding : Bool := false
  /-- A target was handed over while a job was outstanding. -/
  overlapped : Bool := false
  /-- A job was cancelled, or ended obsolete, and none has been started since. -/
  owed : Bool := false
  /-- The job was obsolete at the end of a call, and none has been started since. -/
  obsolete : Bool := false
  /-- The last attempt to cancel the job failed. -/
  refused : Bool := false
  /-- What was handed over in this call of the owner. -/
  applied : List (NetworkObservation × CText) := []

def WriteMonitor.see (m : WriteMonitor) : (call : OwnerCall) → call.Result → WriteMonitor
  | .apply target resolver, r =>
      let m := { m with overlapped := m.overlapped || m.outstanding, applied := (target, resolver) :: m.applied }
      if r = 0 then { m with outstanding := true, owed := false, obsolete := false, refused := false } else m
  | .poll, r => if r = 0 then m else { m with outstanding := false }
  | .cancel, r => if r = 0 then { m with owed := true, refused := false } else { m with refused := true }
  | .observe, _ | .open _, _ | .close _, _ | .receive _, _ | .send _, _ | .probe _ _, _ => m

/-- A call of the owner begins. -/
def WriteMonitor.begin (m : WriteMonitor) : WriteMonitor := { m with applied := [] }

/-- A call of the owner has ended; a job was outstanding at its start, or not. -/
def WriteMonitor.judge (m : WriteMonitor) (outstanding : Bool) (o : NetworkOwner) : WriteMonitor :=
  { m with
    owed := m.owed || outstanding && !o.job && staleJob o
    obsolete := m.obsolete || o.job && staleJob o }

/-- The operations return anything. -/
def writeWorld : Prog.World OwnerCall OwnerCall.Result WriteMonitor := fun call m r m' => m' = m.see call r

/-- The owner from its start, with policies, steps and stops at any ticks. -/
inductive WriteRun (docs : OwnerDocuments) : NetworkOwner → WriteMonitor → CoreTick → Prop where
  | init (seed : BitVec 32) (now : CoreTick) : WriteRun docs (ownerInit seed) {} now
  | policy {o o' : NetworkOwner} {m m' : WriteMonitor} {t : CoreTick} {r : Int} (p : NetworkPolicy)
      (now : CoreTick) (hrun : WriteRun docs o m t)
      (h : Prog.Runs writeWorld (ownerPolicy o p now) m.begin (some (r, o')) m') :
      WriteRun docs o' (m'.judge m.outstanding o') now
  | step {o o' : NetworkOwner} {m m' : WriteMonitor} {t : CoreTick} (now : CoreTick)
      (hrun : WriteRun docs o m t) (h : Prog.Runs writeWorld (ownerStep docs o now) m.begin (some o') m') :
      WriteRun docs o' (m'.judge m.outstanding o') now
  | stop {o o' : NetworkOwner} {m m' : WriteMonitor} {t : CoreTick} (hrun : WriteRun docs o m t)
      (h : Prog.Runs writeWorld (ownerStop o) m.begin (some o') m') :
      WriteRun docs o' (m'.judge m.outstanding o') t

/-- A target as it may be handed over: that of the policy and the leases, admissible, and
    without an expired lease. -/
structure HandedOver (docs : OwnerDocuments) (o : NetworkOwner) (now : CoreTick) (t : NetworkObservation)
    (resolver : CText) : Prop where
  computed : computeTarget docs o.policy o.observed o.dhcp = some (t, resolver)
  admissible : Admissible t
  leased : ∀ i, (o.policy.settings.lan i).mode = .dhcpClient → (t.lan i).address ≠ [] →
    (o.dhcp i).valid = true ∧ due now (o.dhcp i).expiresAt = false ∧ (t.lan i).address = (o.dhcp i).lease.address
  /-- A job that was started writes it, for this policy. -/
  writes : o.job = true → o.writing = t ∧ o.jobGeneration = o.generation

/-- What is said of the writes of an owner after a call of it. -/
structure WritesInOrder (docs : OwnerDocuments) (o : NetworkOwner) (m : WriteMonitor) (now : CoreTick) : Prop where
  serial : m.overlapped = false
  handedOver : ∀ t resolver, (t, resolver) ∈ m.applied → HandedOver docs o now t resolver
  cancelled : m.obsolete = true → m.owed = true ∨ m.refused = true
  followed : m.owed = true → o.ready = false ∧ o.settled = false

/-! ## The job in a call of the owner -/

/-- The monitor and the owner agree about the job, and an owner that owes a write knows so. -/
structure JobTold (o : NetworkOwner) (m : WriteMonitor) : Prop where
  outstanding : m.outstanding = o.job
  serial : m.overlapped = false
  idle : o.job = false → o.canceling = false
  cancelled : o.job = true → o.canceling = true → m.owed = true
  owed : m.owed = true → (o.job = true ∧ o.canceling = true) ∨ (o.job = false ∧ o.dirty = true)
  obsolete : m.obsolete = true → m.owed = true ∨ m.refused = true

/-- An obsolete job has been cancelled, or could not be. -/
def StaleTold (o : NetworkOwner) (m : WriteMonitor) : Prop :=
  o.job = true → staleJob o = true → m.owed = true ∨ m.refused = true

/-- Between the parts of a step. -/
structure JobWorking (o : NetworkOwner) (m : WriteMonitor) : Prop extends JobTold o m where
  quiet : o.ready = false ∧ o.settled = false

/-- At the end of a call; `started` is for a job that was outstanding at its start. -/
structure JobClosed (started : Bool) (o : NetworkOwner) (m : WriteMonitor) : Prop extends JobTold o m where
  quiet : o.ready = true ∨ o.settled = true → o.job = false ∧ o.dirty = false
  stale : StaleTold o m
  ended : started = true → o.job = false → staleJob o = true → o.dirty = true

section Jobs

variable {docs : OwnerDocuments} {o o' : NetworkOwner} {m : WriteMonitor} {now : CoreTick}

theorem safe_writeCall {α : Type} {post : α → WriteMonitor → Prop} {call : OwnerCall}
    {f : call.Result → OwnerProg α}
    (h : ∀ r, Prog.Safe writeWorld (fun _ => True) post (f r) (m.see call r)) :
    Prog.Safe writeWorld (fun _ => True) post (ownerCall call >>= f) m := by
  refine ⟨trivial, ?_⟩
  intro r m' hsee
  rw [hsee]
  exact h r

theorem keptBy_write (m : WriteMonitor) (j : Lan) : KeptBy writeWorld (fun m' => m' = m) (OwnerCall.OfLan j) := by
  rintro call r s s' hcall rfl hsee
  cases call with
  | observe | apply | poll | cancel => exact hcall.elim
  | «open» | close | receive | send | probe => exact hsee

theorem JobWorking.closed {started : Bool} (h : JobWorking o m) (hstarted : started = true → o.job = true)
    (hstale : StaleTold o m) : JobClosed started o m where
  toJobTold := h.toJobTold
  quiet hsaid := by
    rcases hsaid with hready | hsettled
    · exact absurd (h.quiet.1.symm.trans hready) (by simp)
    · exact absurd (h.quiet.2.symm.trans hsettled) (by simp)
  stale := hstale
  ended hthen hdone := absurd (hdone.symm.trans (hstarted hthen)) (by simp)

/-- The work on the interfaces does not touch the job. -/
theorem JobTold.of_core (h : JobTold o m) (hcore : o'.core = o.core) : JobTold o' m := by
  have same : ∀ {α : Type} (f : NetworkOwner → α), f o'.core = f o.core := fun f => congrArg f hcore
  have hjob : o'.job = o.job := same NetworkOwner.job
  have hcanceling : o'.canceling = o.canceling := same NetworkOwner.canceling
  have hdirty : o'.dirty = o.dirty := same NetworkOwner.dirty
  refine ⟨?_, h.serial, ?_, ?_, ?_, h.obsolete⟩
  · rw [hjob]
    exact h.outstanding
  · rw [hjob, hcanceling]
    exact h.idle
  · rw [hjob, hcanceling]
    exact h.cancelled
  · rw [hjob, hcanceling, hdirty]
    exact h.owed

theorem JobWorking.of_core (h : JobWorking o m) (hcore : o'.core = o.core) : JobWorking o' m := by
  have same : ∀ {α : Type} (f : NetworkOwner → α), f o'.core = f o.core := fun f => congrArg f hcore
  exact ⟨h.toJobTold.of_core hcore, (same NetworkOwner.ready).trans h.quiet.1,
    (same NetworkOwner.settled).trans h.quiet.2⟩

theorem LanFrame.job {i : Lan} (h : LanFrame i o o') : o'.job = o.job := by
  have same : o'.core.job = o.core.job := congrArg NetworkOwner.job h.core
  exact same

theorem StaleTold.of_core (h : StaleTold o m) (hcore : o'.core = o.core) : StaleTold o' m := by
  have same : ∀ {α : Type} (f : NetworkOwner → α), f o'.core = f o.core := fun f => congrArg f hcore
  intro hjob hjudged
  exact h ((same NetworkOwner.job).symm.trans hjob) ((same staleJob).symm.trans hjudged)

/-- The owner is dirty from now on. -/
theorem JobTold.dirtied (h : JobTold o m) (hjob : o'.job = o.job) (hcanceling : o'.canceling = o.canceling)
    (hdirty : o'.dirty = true) (hquiet : o'.ready = false ∧ o'.settled = false) : JobWorking o' m where
  outstanding := h.outstanding.trans hjob.symm
  serial := h.serial
  idle hidle := hcanceling.trans (h.idle (hjob.symm.trans hidle))
  cancelled hout hcancel := h.cancelled (hjob.symm.trans hout) (hcanceling.symm.trans hcancel)
  owed howed := by
    rw [hjob, hcanceling]
    exact (h.owed howed).imp id fun hdone => ⟨hdone.1, hdirty⟩
  obsolete := h.obsolete
  quiet := hquiet

/-- **A job is reaped**: one that has been cancelled or is obsolete leaves a dirty owner. -/
theorem closed_reapJob (h : JobWorking o m) (hjob : o.job = true)
    (hstale : staleJob o = true → m.owed = true ∨ m.refused = true) (now : CoreTick) :
    Prog.Safe writeWorld (fun _ => True)
      (fun o' m' => JobClosed true o' m' ∧ m'.applied = m.applied) (reapJob o now) m := by
  refine safe_writeCall fun r => ?_
  split
  · rename_i hzero
    have hsame : m.see .poll r = m := if_pos hzero
    rw [hsame]
    exact ⟨trivial, h.closed (fun _ => hjob) (fun _ => hstale), rfl⟩
  · rename_i hended
    have hreported : m.see .poll r = { m with outstanding := false } := if_neg hended
    rw [hreported]
    -- what the owner is left with, with its cancellation cleared or not
    have hreaped : ∀ (error : Nat) (retryAt : CoreTick) (canceling : Bool), canceling = false →
        JobClosed true { o with job := false, dirty := o.canceling || staleJob o, nextObserve := now,
                                error := error, retryAt := retryAt, canceling := canceling }
          { m with outstanding := false } := by
      intro error retryAt canceling hcanceling
      refine ⟨⟨rfl, h.serial, fun _ => hcanceling, (fun hout => by cases hout), fun howed => ?_, h.obsolete⟩,
        fun hsaid => ?_, (fun hout => by cases hout), fun _ _ hjudged => ?_⟩
      · rcases h.owed howed with ⟨-, hcancelled⟩ | ⟨hidle, -⟩
        · exact .inr ⟨rfl, by simp [hcancelled]⟩
        · exact absurd (hidle.symm.trans hjob) (by simp)
      · rcases hsaid with hready | hsettled
        · exact absurd (h.quiet.1.symm.trans hready) (by simp)
        · exact absurd (h.quiet.2.symm.trans hsettled) (by simp)
      · have hthen : staleJob o = true := hjudged
        simp [hthen]
    simp only
    split
    · rename_i hfailed
      simp only [Bool.and_eq_true, Bool.not_eq_true'] at hfailed
      exact ⟨trivial, hreaped 7 (now + 1000) o.canceling hfailed.1, rfl⟩
    · exact ⟨trivial, hreaped o.error o.retryAt false rfl, rfl⟩

theorem closed_watchJob (h : JobWorking o m) (hjob : o.job = true) (now : CoreTick) :
    Prog.Safe writeWorld (fun _ => True)
      (fun o' m' => JobClosed true o' m' ∧ m'.applied = m.applied) (watchJob o now) m := by
  unfold watchJob
  split
  · refine safe_writeCall fun r => ?_
    split
    · rename_i hrefused
      have hseen : m.see .cancel r = { m with refused := true } := if_neg hrefused
      rw [hseen]
      have hworking : JobWorking { o with error := 6 } { m with refused := true } :=
        ⟨⟨h.outstanding, h.serial, h.idle, h.cancelled, h.owed, fun _ => .inr rfl⟩, h.quiet⟩
      exact ⟨trivial, hworking.closed (fun _ => hjob) (fun _ _ => .inr rfl), rfl⟩
    · rename_i hdone
      have hseen : m.see .cancel r = { m with owed := true, refused := false } := if_pos (not_not.1 hdone)
      rw [hseen]
      refine closed_reapJob (o := { o with canceling := true }) (m := { m with owed := true, refused := false })
        ⟨⟨h.outstanding, h.serial, fun hidle => ?_, fun _ _ => rfl, fun _ => .inl ⟨hjob, rfl⟩,
          fun _ => .inl rfl⟩, h.quiet⟩ hjob (fun _ => .inl rfl) now
      exact absurd (hidle.symm.trans hjob) (by simp)
  · rename_i hkept
    refine closed_reapJob h hjob (fun hjudged => ?_) now
    -- an obsolete job that is not cancelled now has been before
    have hcanceling : o.canceling = true := by
      by_contra hnot
      simp [hjudged, hnot] at hkept
    exact .inl (h.cancelled hjob hcanceling)

@[simp] theorem observationEqual_self (t : NetworkObservation) : observationEqual t t = true := by
  simp [observationEqual]

/-- **The end of a step**: what is handed over is the target, and no job is outstanding. -/
theorem closed_settle (h : JobWorking o m) (hnone : m.applied = []) (now : CoreTick) (eligible : Bool) :
    Prog.Safe writeWorld (fun _ => True)
      (fun o' m' => JobClosed o.job o' m' ∧ ∀ a ∈ m'.applied, a = (o.target, o.resolver) ∧
        (o'.job = true → o'.writing = o.target ∧ o'.jobGeneration = o'.generation)) (settle o now eligible) m := by
  unfold settle
  split
  · rename_i hjob
    rw [hjob]
    refine Prog.Safe.mono (closed_watchJob h hjob now) ?_
    rintro o' m' - ⟨hclosed, hsame⟩
    refine ⟨hclosed, fun a ha => ?_⟩
    rw [hsame, hnone] at ha
    cases ha
  · rename_i hidle
    simp only [Bool.not_eq_true] at hidle
    -- no job is out, so this one cannot overlap another
    have hfree : m.outstanding = false := h.outstanding.trans hidle
    have hclosed : JobClosed o.job o m := h.closed id fun hout => absurd (hidle.symm.trans hout) (by simp)
    split
    · refine safe_writeCall fun r => ?_
      split
      · rename_i hfailed
        have hseen : m.see (.apply o.target o.resolver) r =
            { m with overlapped := false, applied := [(o.target, o.resolver)] } := by
          simp [WriteMonitor.see, hfailed, h.serial, hfree, hnone]
        rw [hseen]
        have hworking : JobWorking { o with error := 8, retryAt := now + 1000 }
            { m with overlapped := false, applied := [(o.target, o.resolver)] } :=
          ⟨⟨h.outstanding, rfl, h.idle, h.cancelled, h.owed, h.obsolete⟩, h.quiet⟩
        refine ⟨trivial, hworking.closed id fun hout => absurd (hidle.symm.trans hout) (by simp), fun a ha => ?_⟩
        exact ⟨List.mem_singleton.1 ha, fun hout => absurd (hidle.symm.trans hout) (by simp)⟩
      · rename_i hstarted
        have hseen : m.see (.apply o.target o.resolver) r =
            { outstanding := true, applied := [(o.target, o.resolver)] } := by
          simp [WriteMonitor.see, not_not.1 hstarted, h.serial, hfree, hnone]
        rw [hseen]
        have hworking : JobWorking
            { o with writing := o.target, jobGeneration := o.generation, job := true, dirty := false,
                     jobDeadline := now + 1000 }
            { outstanding := true, applied := [(o.target, o.resolver)] } := by
          refine ⟨⟨rfl, rfl, (fun hout => by cases hout), fun _ hcancel => ?_, (fun howed => by cases howed),
            (fun hobsolete => by cases hobsolete)⟩, h.quiet⟩
          exact absurd ((h.idle hidle).symm.trans hcancel) (by simp)
        refine ⟨trivial, hworking.closed (fun _ => rfl) fun _ hjudged => ?_, fun a ha => ?_⟩
        · simp [staleJob] at hjudged
        · exact ⟨List.mem_singleton.1 ha, fun _ => ⟨rfl, rfl⟩⟩
    split
    · rename_i hequal
      simp only [Bool.and_eq_true, Bool.not_eq_true'] at hequal
      refine ⟨trivial, ⟨⟨h.outstanding, h.serial, h.idle, h.cancelled, h.owed, h.obsolete⟩,
        fun _ => ⟨hidle, hequal.2⟩, hclosed.stale, hclosed.ended⟩, fun a ha => ?_⟩
      rw [hnone] at ha
      cases ha
    · refine ⟨trivial, hclosed, fun a ha => ?_⟩
      rw [hnone] at ha
      cases ha

/-- **A step that could not observe.** -/
theorem closed_ownerBlind (h : JobWorking o m) (hstale : StaleTold o m) :
    Prog.Safe writeWorld (fun _ => True)
      (fun o' m' => JobClosed o.job o' m' ∧ m'.applied = m.applied) (ownerBlind o) m := by
  have hreap : ∀ (o' : NetworkOwner) (m' : WriteMonitor), o'.job = true → m'.applied = m.applied →
      JobWorking o' m' → StaleTold o' m' →
      Prog.Safe writeWorld (fun _ => True)
        (fun o'' m'' => JobClosed o.job o'' m'' ∧ m''.applied = m.applied) (reapBlind o') m' := by
    intro o' m' hjob hsame h' hstale'
    refine safe_writeCall fun r => ?_
    split
    · rename_i hended
      have hreported : m'.see .poll r = { m' with outstanding := false } := if_neg hended
      rw [hreported]
      refine ⟨trivial, ⟨⟨rfl, h'.serial, fun _ => rfl, (fun hout => by cases hout), fun _ => .inr ⟨rfl, rfl⟩,
        h'.obsolete⟩, fun hsaid => ?_, (fun hout => by cases hout), fun _ _ _ => rfl⟩, hsame⟩
      rcases hsaid with hready | hsettled
      · exact absurd (h'.quiet.1.symm.trans hready) (by simp)
      · exact absurd (h'.quiet.2.symm.trans hsettled) (by simp)
    · rename_i hzero
      have hseen : m'.see .poll r = m' := if_pos (not_not.1 hzero)
      rw [hseen]
      exact ⟨trivial, h'.closed (fun _ => hjob) hstale', hsame⟩
  have herror : JobWorking { o with error := 1 } m :=
    ⟨⟨h.outstanding, h.serial, h.idle, h.cancelled, h.owed, h.obsolete⟩, h.quiet⟩
  unfold ownerBlind
  simp only
  split
  · exact ⟨trivial, herror.closed id hstale, rfl⟩
  · rename_i hjob
    have hjob : o.job = true := by simpa using hjob
    split
    · refine safe_writeCall fun r => ?_
      split
      · rename_i hzero
        have hseen : m.see .cancel r = { m with owed := true, refused := false } := if_pos hzero
        rw [hseen]
        refine hreap _ _ hjob rfl ⟨⟨h.outstanding, h.serial, fun hidle => ?_, fun _ _ => rfl,
          fun _ => .inl ⟨hjob, rfl⟩, fun _ => .inl rfl⟩, h.quiet⟩ fun _ _ => .inl rfl
        exact absurd (hidle.symm.trans hjob) (by simp)
      · rename_i hrefused
        have hseen : m.see .cancel r = { m with refused := true } := if_neg hrefused
        rw [hseen]
        exact hreap _ _ hjob rfl ⟨⟨h.outstanding, h.serial, h.idle, h.cancelled, h.owed, fun _ => .inr rfl⟩,
          h.quiet⟩ fun _ _ => .inr rfl
    · exact hreap _ m hjob rfl herror hstale

/-! ## A step -/

/-- A client whose lease, if it has one in force, has not run out. -/
def InForce (now : CoreTick) (d : DhcpClient) : Prop := Composed d ∧ Unexpired d now

theorem clientKept_inForce (now : CoreTick) : ClientKept (InForce now) now where
  start mac xid := ⟨(clientKept_composed now).start mac xid, unexpired_of_invalid rfl now⟩
  stop d := ⟨(clientKept_composed now).stop d, unexpired_stop d now⟩
  step _ link h := ⟨composed_step h.1 now link, unexpired_step h.2.off now link⟩
  receive _ p h := ⟨composed_receive h.1 p now, unexpired_receive h.2 p⟩
  conflict d h := ⟨(clientKept_composed now).conflict d h.1, unexpired_conflict d now⟩
  made _ h := ⟨composed_packetMade h.1 now, unexpired_packetMade h.2 now⟩
  probed _ h := ⟨composed_probed h.1 now, unexpired_probed h.2⟩
  marks d changed probes h := ⟨(clientKept_composed now).marks d changed probes h.1, h.2.ahead, h.2.off⟩

/-- What a step says of what it hands over, and what it leaves of the policy. -/
def StepWrites (docs : OwnerDocuments) (now : CoreTick) (o o' : NetworkOwner) (m' : WriteMonitor) : Prop :=
  JobClosed o.job o' m' ∧ o'.policy = o.policy ∧ o'.active = o.active ∧
    ∀ t resolver, (t, resolver) ∈ m'.applied → HandedOver docs o' now t resolver

/-- A step that hands nothing over. -/
theorem stepWrites_quiet (h : JobClosed o.job o' m) (hnone : m.applied = []) (hpolicy : o'.policy = o.policy)
    (hactive : o'.active = o.active) : StepWrites docs now o o' m := by
  refine ⟨h, hpolicy, hactive, fun t resolver hmem => ?_⟩
  rw [hnone] at hmem
  cases hmem

/-- The choice of the target, with the job as it is. -/
theorem working_chosen (h : JobWorking o m) (docs : OwnerDocuments) (now : CoreTick) :
    JobWorking (chooseTarget docs o now).1 m ∧ (chooseTarget docs o now).1.job = o.job ∧
      ((chooseTarget docs o now).2 = none → (chooseTarget docs o now).1.core = o.core) := by
  unfold chooseTarget
  split
  · exact ⟨⟨⟨h.outstanding, h.serial, h.idle, h.cancelled, h.owed, h.obsolete⟩, h.quiet⟩, rfl,
      fun hnone => by cases hnone⟩
  · have hcore : (giveUpLease (giveUpLease { o with error := 5 } now 0) now 1).core = o.core :=
      (giveUpLease_core _ now 1).trans (giveUpLease_core _ now 0)
    have same : ∀ {α : Type} (f : NetworkOwner → α),
        f (giveUpLease (giveUpLease { o with error := 5 } now 0) now 1).core = f o.core := fun f => congrArg f hcore
    have hjob := same NetworkOwner.job
    simp only
    split
    · refine ⟨h.toJobTold.dirtied hjob (same NetworkOwner.canceling) rfl ?_, hjob, fun hnone => by cases hnone⟩
      exact ⟨(same NetworkOwner.ready).trans h.quiet.1, (same NetworkOwner.settled).trans h.quiet.2⟩
    · exact ⟨h.of_core hcore, hjob, fun _ => hcore⟩

/-- **A step that could observe.** -/
theorem stepWrites_ownerObserved (docs : OwnerDocuments) (now : CoreTick) (h : JobWorking o m)
    (hstale : StaleTold o m) (hnone : m.applied = []) (hlans : ∀ j, LanHolds (InForce now) o j)
    (hpolicy : settingsValidate o.policy.settings = .ok) :
    Prog.Safe writeWorld (fun _ => True) (StepWrites docs now o) (ownerObserved docs o now) m := by
  have hkept := clientKept_inForce now
  refine Prog.Safe.bind (Prog.Safe.mono (lanKeeps_stepLan hkept (keptBy_write m 0) (hlans 0) rfl) ?_)
  rintro ⟨o₁, first⟩ m₁ - ⟨hworked₁, hm₁⟩
  obtain ⟨hpolicy₁, -, hactive₁, -⟩ := hworked₁.frame.same
  have hjob₁ := hworked₁.frame.job
  have h₁ := h.of_core hworked₁.frame.core
  have hstale₁ := hstale.of_core hworked₁.frame.core
  have hlans₁ := hworked₁.lans hlans
  rw [hm₁]
  -- a LAN whose packets cannot be sent ends the step before anything is written
  cases first with
  | none =>
    exact ⟨trivial, stepWrites_quiet (h₁.closed hjob₁.trans hstale₁) hnone hpolicy₁ hactive₁⟩
  | some first =>
    refine Prog.Safe.bind (Prog.Safe.mono (lanKeeps_stepLan hkept (keptBy_write m 1) (hlans₁ 1) rfl) ?_)
    rintro ⟨o₂, second⟩ m₂ - ⟨hworked₂, hm₂⟩
    obtain ⟨hpolicy₂, -, hactive₂, -⟩ := hworked₂.frame.same
    replace hpolicy₂ := hpolicy₂.trans hpolicy₁
    replace hactive₂ := hactive₂.trans hactive₁
    have hjob₂ := hworked₂.frame.job.trans hjob₁
    have h₂ := h₁.of_core hworked₂.frame.core
    have hstale₂ := hstale₁.of_core hworked₂.frame.core
    have hlans₂ := hworked₂.lans hlans₁
    rw [hm₂]
    cases second with
    | none =>
      exact ⟨trivial, stepWrites_quiet (h₂.closed hjob₂.trans hstale₂) hnone hpolicy₂ hactive₂⟩
    | some second =>
      obtain ⟨h₃, hjob₃, hcore₃⟩ := working_chosen h₂ docs now
      obtain ⟨hpolicy₃, hactive₃, -⟩ := chooseTarget_same docs o₂ now
      have hheld₃ := chooseTarget_holds hkept docs fun j => (hlans₂ j).client
      have hcomputed₃ := chooseTarget_computed docs o₂ now
      replace hjob₃ := hjob₃.trans hjob₂
      replace hpolicy₃ := hpolicy₃.trans hpolicy₂
      replace hactive₃ := hactive₃.trans hactive₂
      simp only
      split
      · rename_i o₃ heq
        rw [heq] at h₃ hjob₃ hpolicy₃ hactive₃ hcore₃
        exact ⟨trivial, stepWrites_quiet (h₃.closed hjob₃.trans (hstale₂.of_core (hcore₃ rfl))) hnone hpolicy₃
          hactive₃⟩
      · rename_i o₃ suits heq
        rw [heq] at h₃ hjob₃ hpolicy₃ hactive₃ hheld₃ hcomputed₃
        simp only at h₃ hjob₃ hpolicy₃ hactive₃ hheld₃ hcomputed₃
        refine Prog.Safe.mono (Prog.Safe.and (closed_settle h₃ hnone now _)
          (keepsClients_settle (keptBy_true writeWorld _) o₃ now _ trivial)) ?_
        rintro o₄ m₄ - ⟨⟨hclosed, happlied⟩, hsame, -⟩
        refine ⟨hjob₃ ▸ hclosed, hsame.policy.trans hpolicy₃, hsame.active.trans hactive₃, fun t resolver hmem => ?_⟩
        obtain ⟨heq₄, hwrites⟩ := happlied _ hmem
        obtain ⟨rfl, rfl⟩ := Prod.mk.inj heq₄
        -- a job was started: its target is the one computed from what is held now
        have htarget := hcomputed₃ rfl
        have hleases : ∀ i, (o₃.dhcp i).valid = true → (o₃.dhcp i).lease.address ≠ [] :=
          fun i hvalid => (hheld₃ i).1.leased (.inl hvalid)
        refine ⟨?_, admissible_of_target (hpolicy₃ ▸ hpolicy) hleases htarget, fun i hmode haddress => ?_, hwrites⟩
        · rw [hsame.policy, hsame.observed, hsame.dhcp]
          exact htarget
        · rw [hsame.policy] at hmode
          obtain ⟨hvalid, hlease⟩ := leased_of_target htarget hmode haddress
          rw [hsame.dhcp]
          exact ⟨hvalid, (hheld₃ i).2.ahead hvalid, hlease⟩

theorem expireLease_other {i j : Lan} (hj : j ≠ i) : (expireLease o now i).dhcp j = o.dhcp j := by
  unfold expireLease
  split
  · simp [withDhcp, Function.update_of_ne hj]
  · rfl

theorem unexpired_expireLease {i : Lan} (h : Composed (o.dhcp i)) : Unexpired ((expireLease o now i).dhcp i) now := by
  have hoff : OffWithout (o.dhcp i) := by
    intro hstate
    have hsteady : (o.dhcp i).valid = (o.dhcp i).state.leased := h.steady
    rw [hsteady, hstate]
    rfl
  unfold expireLease
  split
  · simpa using unexpired_step hoff now true
  · rename_i hkept
    refine ⟨fun hvalid => ?_, hoff⟩
    simpa [hvalid] using hkept

/-- After the leases that have run out, those in force have not. -/
theorem inForce_expired (h : Manned o) (now : CoreTick) (j : Lan) :
    LanHolds (InForce now) (expireLease (expireLease o now 0) now 1) j := by
  have hfirst := manned_expireLease h now 0
  have hboth := manned_expireLease hfirst now 1
  refine ⟨⟨(hboth.lans j).client, ?_⟩, (hboth.lans j).opened⟩
  rcases lan_cases j with rfl | rfl
  · rw [expireLease_other (by decide)]
    exact unexpired_expireLease (h.lans 0).client
  · exact unexpired_expireLease (hfirst.lans 1).client

theorem working_expireLease (h : JobWorking o m) (hstale : StaleTold o m) (now : CoreTick) (j : Lan) :
    JobWorking (expireLease o now j) m ∧ StaleTold (expireLease o now j) m ∧
      (expireLease o now j).job = o.job := by
  unfold expireLease
  split
  · exact ⟨h.toJobTold.dirtied rfl rfl rfl h.quiet, hstale, rfl⟩
  · exact ⟨h, hstale, rfl⟩

/-- **A step.** -/
theorem stepWrites_ownerStep (docs : OwnerDocuments) (now : CoreTick) (hmanned : Manned o)
    (h : JobClosed false o m) (hnone : m.applied = [])
    (hpolicy : o.active = true → settingsValidate o.policy.settings = .ok) :
    Prog.Safe writeWorld (fun _ => True) (StepWrites docs now o) (ownerStep docs o now) m := by
  unfold ownerStep
  split
  · exact ⟨trivial, stepWrites_quiet ⟨h.toJobTold, h.quiet, h.stale, fun hout hdone =>
      absurd (hdone.symm.trans hout) (by simp)⟩ hnone rfl rfl⟩
  · rename_i hinactive
    have hactive : o.active = true := by simpa using hinactive
    -- what the step begins with
    obtain ⟨o₀, ho₀⟩ : ∃ o₀, o₀ = { o with ready := false, settled := false } := ⟨_, rfl⟩
    have h₀ : JobWorking o₀ m ∧ StaleTold o₀ m ∧ o₀.job = o.job ∧ o₀.policy = o.policy ∧ o₀.active = o.active := by
      rw [ho₀]
      exact ⟨⟨⟨h.outstanding, h.serial, h.idle, h.cancelled, h.owed, h.obsolete⟩, rfl, rfl⟩, h.stale, rfl, rfl, rfl⟩
    have hmanned₀ : Manned o₀ := by
      rw [ho₀]
      exact ⟨fun j => ⟨(hmanned.lans j).client, (hmanned.lans j).opened⟩, hmanned.active⟩
    obtain ⟨hworking₀, hstale₀, hjob₀, hpolicy₀, hactive₀⟩ := h₀
    obtain ⟨hworking₁, hstale₁, hjob₁⟩ := working_expireLease hworking₀ hstale₀ now 0
    obtain ⟨hworking₂, hstale₂, hjob₂⟩ := working_expireLease hworking₁ hstale₁ now 1
    have hlans₂ := inForce_expired hmanned₀ now
    obtain ⟨hpolicy₁, -, hactive₁, -⟩ := expireLease_same o₀ now 0
    obtain ⟨hpolicy₂, -, hactive₂, -⟩ := expireLease_same (expireLease o₀ now 0) now 1
    simp only
    rw [← ho₀]
    generalize expireLease (expireLease o₀ now 0) now 1 = o₂ at hworking₂ hstale₂ hjob₂ hlans₂ hpolicy₂ hactive₂ ⊢
    replace hjob₂ := hjob₂.trans (hjob₁.trans hjob₀)
    replace hpolicy₂ := hpolicy₂.trans (hpolicy₁.trans hpolicy₀)
    replace hactive₂ := hactive₂.trans (hactive₁.trans hactive₀)
    have hfollows : ∀ (o₃ : NetworkOwner), o₃.job = o₂.job → o₃.policy = o₂.policy → o₃.active = o₂.active →
        ∀ (o' : NetworkOwner) (m' : WriteMonitor), True → StepWrites docs now o₃ o' m' → StepWrites docs now o o' m' := by
      rintro o₃ hjob₃ hpolicy₃ hactive₃ o' m' - ⟨hclosed, hsamePolicy, hsameActive, hhanded⟩
      rw [hjob₃, hjob₂] at hclosed
      exact ⟨hclosed, hsamePolicy.trans (hpolicy₃.trans hpolicy₂), hsameActive.trans (hactive₃.trans hactive₂), hhanded⟩
    split
    · refine safe_writeCall ?_
      rintro ⟨r, observed⟩
      have hseen : m.see .observe (r, observed) = m := rfl
      rw [hseen]
      simp only
      split
      · have hblind : JobWorking { o₂ with observed := observed } m :=
          ⟨⟨hworking₂.outstanding, hworking₂.serial, hworking₂.idle, hworking₂.cancelled, hworking₂.owed,
            hworking₂.obsolete⟩, hworking₂.quiet⟩
        refine Prog.Safe.mono (Prog.Safe.and (closed_ownerBlind hblind hstale₂)
          (keepsClients_ownerBlind (keptBy_true writeWorld _) _ trivial)) ?_
        rintro o' m' - ⟨⟨hclosed, happlied⟩, hsame, -⟩
        exact hfollows { o₂ with observed := observed } rfl rfl rfl o' m' trivial
          (stepWrites_quiet hclosed (happlied.trans hnone) hsame.policy hsame.active)
      · refine Prog.Safe.mono (stepWrites_ownerObserved docs now ?_ hstale₂ hnone ?_ ?_)
          (hfollows { o₂ with observed := observed, nextObserve := now + 250 } rfl rfl rfl)
        · exact ⟨⟨hworking₂.outstanding, hworking₂.serial, hworking₂.idle, hworking₂.cancelled, hworking₂.owed,
            hworking₂.obsolete⟩, hworking₂.quiet⟩
        · exact fun j => ⟨(hlans₂ j).client, (hlans₂ j).opened⟩
        · exact hpolicy₂ ▸ hpolicy hactive
    · exact Prog.Safe.mono (stepWrites_ownerObserved docs now hworking₂ hstale₂ hnone hlans₂
        (hpolicy₂ ▸ hpolicy hactive)) (hfollows o₂ rfl rfl rfl)

/-! ## Policies and stops -/

/-- The interfaces are closed, and the job is left as it is. -/
theorem closeLan_core (o : NetworkOwner) (j : Lan) (m : WriteMonitor) :
    Prog.Safe writeWorld (fun _ => True) (fun o' m' => m' = m ∧ o'.core = o.core) (closeLan o j) m := by
  refine Prog.Safe.mono (lanKeeps_close (clientKept_composed 0) (keptBy_write m j) o rfl) ?_
  rintro o' m' - ⟨hworked, rfl⟩
  exact ⟨rfl, hworked.frame.core⟩

/-- The owner is dirty, and a job has been cancelled, or could not be. -/
theorem JobTold.restarts (h : JobTold o m) (hjob : o'.job = o.job) (hcanceling : o'.canceling = o.canceling)
    (hdirty : o'.dirty = true) (hquiet : o'.ready = false ∧ o'.settled = false)
    (hcancelled : o.job = true → m.owed = true ∨ m.refused = true) : JobClosed o.job o' m :=
  (h.dirtied hjob hcanceling hdirty hquiet).closed hjob.trans fun hout _ => hcancelled (hjob.symm.trans hout)

theorem closed_adoptPolicy (h : JobTold o m) (hcancelled : o.job = true → m.owed = true) (p : NetworkPolicy)
    (now : CoreTick) :
    Prog.Safe writeWorld (fun _ => True)
      (fun r m' => JobClosed o.job r.2 m' ∧ m'.applied = m.applied ∧ r.2.policy = p) (adoptPolicy o p now) m := by
  have hleave : ∀ (o' : NetworkOwner) (j : Lan),
      Prog.Safe writeWorld (fun _ => True) (fun o'' m' => m' = m ∧ o''.core = o'.core) (leaveMode o' p j) m := by
    intro o' j
    unfold leaveMode
    split
    · exact closeLan_core o' j m
    · exact ⟨trivial, rfl, rfl⟩
  refine Prog.Safe.bind (Prog.Safe.mono (hleave o 0) ?_)
  rintro o₁ m₁ - ⟨rfl, hcore₁⟩
  refine Prog.Safe.bind (Prog.Safe.mono (hleave o₁ 1) ?_)
  rintro o₂ m₂ - ⟨rfl, hcore₂⟩
  have same : ∀ {α : Type} (f : NetworkOwner → α), f o₂.core = f o.core :=
    fun f => congrArg f (hcore₂.trans hcore₁)
  refine ⟨trivial, h.restarts ?_ ?_ rfl ⟨rfl, rfl⟩ fun hout => .inl (hcancelled hout), rfl, rfl⟩
  · exact same NetworkOwner.job
  · exact same NetworkOwner.canceling

/-- A job is outstanding, and is cancelled now: so it is told. -/
theorem JobTold.cancels (h : JobTold o m) (hjob : o.job = true) :
    JobTold { o with canceling := true } { m with owed := true, refused := false } := by
  refine ⟨h.outstanding, h.serial, fun hidle => ?_, fun _ _ => rfl, fun _ => .inl ⟨hjob, rfl⟩, fun _ => .inl rfl⟩
  exact absurd (hidle.symm.trans hjob) (by simp)

/-- **A policy.** -/
theorem closed_ownerPolicy (h : JobClosed false o m)
    (hpolicy : o.active = true → settingsValidate o.policy.settings = .ok) (p : NetworkPolicy) (now : CoreTick) :
    Prog.Safe writeWorld (fun _ => True)
      (fun r m' => JobClosed o.job r.2 m' ∧ m'.applied = m.applied ∧
        (r.2.active = true → settingsValidate r.2.policy.settings = .ok)) (ownerPolicy o p now) m := by
  have hkept : ∀ (m' : WriteMonitor), JobTold o m' → StaleTold o m' → JobClosed o.job o m' := fun m' h' hstale =>
    ⟨h', h.quiet, hstale, fun hout hdone => absurd (hdone.symm.trans hout) (by simp)⟩
  unfold ownerPolicy
  split
  · exact ⟨trivial, hkept m h.toJobTold h.stale, rfl, hpolicy⟩
  · rename_i hvalid
    have hadopted : ∀ (o' : NetworkOwner) (m' : WriteMonitor), o'.job = o.job → m'.applied = m.applied →
        JobTold o' m' → (o'.job = true → m'.owed = true) →
        Prog.Safe writeWorld (fun _ => True)
          (fun r m'' => JobClosed o.job r.2 m'' ∧ m''.applied = m.applied ∧
            (r.2.active = true → settingsValidate r.2.policy.settings = .ok)) (adoptPolicy o' p now) m' := by
      intro o' m' hjob hsame h' hcancelled
      refine Prog.Safe.mono (closed_adoptPolicy h' hcancelled p now) ?_
      rintro ⟨r, o''⟩ m'' - ⟨hclosed, hsame', hadopted⟩
      exact ⟨hjob ▸ hclosed, hsame'.trans hsame, fun _ => hadopted ▸ not_not.1 hvalid⟩
    split
    · rename_i hrunning
      simp only [Bool.and_eq_true] at hrunning
      refine safe_writeCall fun r => ?_
      split
      · rename_i hrefused
        have hseen : m.see .cancel r = { m with refused := true } := if_neg hrefused
        rw [hseen]
        refine ⟨trivial, hkept _ ?_ fun _ _ => .inr rfl, rfl, hpolicy⟩
        exact ⟨h.outstanding, h.serial, h.idle, h.cancelled, h.owed, fun _ => .inr rfl⟩
      · rename_i hdone
        have hseen : m.see .cancel r = { m with owed := true, refused := false } := if_pos (not_not.1 hdone)
        rw [hseen]
        exact hadopted { o with canceling := true } _ rfl rfl (h.toJobTold.cancels hrunning.1) fun _ => rfl
    · rename_i hidle
      refine hadopted o m rfl rfl h.toJobTold fun hout => h.cancelled hout ?_
      simpa [hout] using hidle

/-- **A stop.** -/
theorem closed_ownerStop (h : JobClosed false o m) :
    Prog.Safe writeWorld (fun _ => True)
      (fun o' m' => JobClosed o.job o' m' ∧ m'.applied = m.applied ∧ o'.policy = o.policy ∧ o'.active = o.active)
      (ownerStop o) m := by
  refine Prog.Safe.bind (Prog.Safe.mono (closeLan_core o 0 m) ?_)
  rintro o₁ m₁ - ⟨hm₁, hcore₁⟩
  rw [hm₁]
  refine Prog.Safe.bind (Prog.Safe.mono (closeLan_core o₁ 1 m) ?_)
  rintro o₂ m₂ - ⟨hm₂, hcore₂⟩
  rw [hm₂]
  have same : ∀ {α : Type} (f : NetworkOwner → α), f o₂.core = f o.core :=
    fun f => congrArg f (hcore₂.trans hcore₁)
  have hjob : o₂.job = o.job := same NetworkOwner.job
  have hpolicy : o₂.policy = o.policy := same NetworkOwner.policy
  have hactive : o₂.active = o.active := same NetworkOwner.active
  have htold : JobTold o₂ m := h.toJobTold.of_core (hcore₂.trans hcore₁)
  rw [← hjob]
  simp only
  split
  · rename_i hrunning
    simp only [Bool.and_eq_true] at hrunning
    refine safe_writeCall fun r => ?_
    split
    · rename_i hzero
      have hseen : m.see .cancel r = { m with owed := true, refused := false } := if_pos hzero
      rw [hseen]
      exact ⟨trivial, (htold.cancels hrunning.1).restarts rfl rfl rfl ⟨rfl, rfl⟩ fun _ => .inl rfl, rfl, hpolicy,
        hactive⟩
    · rename_i hrefused
      have hseen : m.see .cancel r = { m with refused := true } := if_neg hrefused
      rw [hseen]
      have htold' : JobTold o₂ { m with refused := true } :=
        ⟨htold.outstanding, htold.serial, htold.idle, htold.cancelled, htold.owed, fun _ => .inr rfl⟩
      exact ⟨trivial, htold'.restarts rfl rfl rfl ⟨rfl, rfl⟩ fun _ => .inr rfl, rfl, hpolicy, hactive⟩
  · rename_i hidle
    refine ⟨trivial, htold.restarts rfl rfl rfl ⟨rfl, rfl⟩ fun hout => .inl (htold.cancelled hout ?_), rfl, hpolicy,
      hactive⟩
    simpa [hout] using hidle

end Jobs

/-- The judgement at the end of a call keeps what is told of the job. -/
theorem closed_judge {started : Bool} {o : NetworkOwner} {m : WriteMonitor} (h : JobClosed started o m) :
    JobClosed false o (m.judge started o) := by
  have howed : (m.judge started o).owed = true → m.owed = true ∨ (o.job = false ∧ o.dirty = true) := by
    intro hjudged
    simp only [WriteMonitor.judge, Bool.or_eq_true, Bool.and_eq_true, Bool.not_eq_true'] at hjudged
    rcases hjudged with howed | ⟨⟨hstarted, hdone⟩, hstale⟩
    · exact .inl howed
    · exact .inr ⟨hdone, h.ended hstarted hdone hstale⟩
  have hkept : m.owed = true ∨ m.refused = true →
      (m.judge started o).owed = true ∨ (m.judge started o).refused = true := by
    intro htold
    refine htold.imp (fun howed => ?_) id
    simp [WriteMonitor.judge, howed]
  refine ⟨⟨h.outstanding, h.serial, h.idle, fun hout hcancel => ?_, fun hjudged => ?_, fun hjudged => ?_⟩,
    h.quiet, fun hout hstale => hkept (h.stale hout hstale), (fun hstarted => by cases hstarted)⟩
  · simp [WriteMonitor.judge, h.cancelled hout hcancel]
  · exact (howed hjudged).elim h.owed .inr
  · simp only [WriteMonitor.judge, Bool.or_eq_true, Bool.and_eq_true] at hjudged
    rcases hjudged with hobsolete | ⟨hout, hstale⟩
    · exact hkept (h.obsolete hobsolete)
    · exact hkept (h.stale hout hstale)

/-- A call that hands nothing over. -/
theorem handedOver_none {docs : OwnerDocuments} {o : NetworkOwner} {m m' : WriteMonitor} {now : CoreTick}
    {started : Bool} (hnone : m'.applied = m.begin.applied) :
    ∀ t resolver, (t, resolver) ∈ (m'.judge started o).applied → HandedOver docs o now t resolver := by
  intro t resolver hmem
  have happlied : (t, resolver) ∈ m'.applied := hmem
  rw [hnone] at happlied
  cases happlied

/-- What holds after every call of the owner. -/
structure WritesKept (docs : OwnerDocuments) (o : NetworkOwner) (m : WriteMonitor) (now : CoreTick) : Prop where
  manned : Manned o
  policy : o.active = true → settingsValidate o.policy.settings = .ok
  closed : JobClosed false o m
  handedOver : ∀ t resolver, (t, resolver) ∈ m.applied → HandedOver docs o now t resolver

/-- At the start of a call nothing has been handed over. -/
theorem WritesKept.begin {docs : OwnerDocuments} {o : NetworkOwner} {m : WriteMonitor} {now : CoreTick}
    (h : WritesKept docs o m now) : JobClosed false o m.begin :=
  ⟨⟨h.closed.outstanding, h.closed.serial, h.closed.idle, h.closed.cancelled, h.closed.owed, h.closed.obsolete⟩,
    h.closed.quiet, h.closed.stale, h.closed.ended⟩

theorem writesKept_of_run {docs : OwnerDocuments} {o : NetworkOwner} {m : WriteMonitor} {now : CoreTick}
    (hrun : WriteRun docs o m now) : WritesKept docs o m now := by
  induction hrun with
  | init seed now =>
    refine ⟨manned_init seed, (fun hactive => by cases hactive), ?_, fun t resolver hmem => by cases hmem⟩
    refine ⟨⟨rfl, rfl, fun _ => rfl, (fun hout => by cases hout), (fun howed => by cases howed),
      (fun hobsolete => by cases hobsolete)⟩, fun hsaid => ?_, (fun hout => by cases hout),
      (fun hstarted => by cases hstarted)⟩
    rcases hsaid with hready | hsettled
    · cases hready
    · cases hsettled
  | policy p now hrun h ih =>
    obtain ⟨hclosed, hnone, hpolicy⟩ := ((closed_ownerPolicy ih.begin ih.policy p now).runs h).2 _ rfl
    rw [← ih.closed.outstanding] at hclosed
    exact ⟨((manned_ownerPolicy ih.manned p now _).runs h).2 _ rfl, hpolicy, closed_judge hclosed,
      handedOver_none hnone⟩
  | step now hrun h ih =>
    obtain ⟨hclosed, hpolicy, hactive, hhanded⟩ :=
      ((stepWrites_ownerStep docs now ih.manned ih.begin rfl ih.policy).runs h).2 _ rfl
    rw [← ih.closed.outstanding] at hclosed
    refine ⟨(((manned_ownerStep docs ih.manned now _).runs h).2 _ rfl).1, ?_, closed_judge hclosed, hhanded⟩
    rw [hpolicy, hactive]
    exact ih.policy
  | stop hrun h ih =>
    obtain ⟨hclosed, hnone, hpolicy, hactive⟩ := ((closed_ownerStop ih.begin).runs h).2 _ rfl
    rw [← ih.closed.outstanding] at hclosed
    refine ⟨((manned_ownerStop ih.manned _).runs h).2 _ rfl, ?_, closed_judge hclosed, handedOver_none hnone⟩
    rw [hpolicy, hactive]
    exact ih.policy

/-- **Writes are serialized and admissible** in every run of policies, steps and stops, with
    any results: nothing is handed over while a job is outstanding; what is handed over is
    admissible, of the policy in force, without an expired lease; an obsolete job has been
    cancelled unless it could not be; and after a cancelled job, or one that ended obsolete,
    a new one is started before the owner says it is ready or settled. -/
theorem writesInOrder {docs : OwnerDocuments} {o : NetworkOwner} {m : WriteMonitor} {now : CoreTick}
    (hrun : WriteRun docs o m now) : WritesInOrder docs o m now := by
  have h := writesKept_of_run hrun
  refine ⟨h.closed.serial, h.handedOver, h.closed.obsolete, fun howed => ?_⟩
  have hquiet : ¬ (o.ready = true ∨ o.settled = true) := by
    intro hsaid
    obtain ⟨hidle, hclean⟩ := h.closed.quiet hsaid
    rcases h.closed.owed howed with ⟨hout, -⟩ | ⟨-, hdirty⟩
    · exact absurd (hidle.symm.trans hout) (by simp)
    · exact absurd (hclean.symm.trans hdirty) (by simp)
  simpa using hquiet

/-! ## A job that could not be cancelled -/

/-- 192.168.1.100 is granted to the client of the first interface. -/
def ackFrame : List UInt8 :=
  frameOf [2, 0, 0, 0, 0, 1] (dhcpReply 5 2 [2, 0, 0, 0, 0, 1] 0xC0A80164 0xC0A80101 (leaseOptions 3600))

/-- The first interface has its link up or down and is given a packet; the jobs end and are
    cancelled with what is given. -/
def writeAnswer (received : OwnerReceived) (link : Nat) (poll cancel : Int) : (call : OwnerCall) → call.Result
  | .observe => (0, { lanSeen with lan := fun i => { lanSeen.lan i with link := if i = 0 then link else 0 } })
  | .receive i => if i = 0 then received else .nothing
  | .send _ => true
  | .close _ => ()
  | .poll => poll
  | .cancel => cancel
  | .open _ | .probe _ _ | .apply _ _ => 0

def writeHandle (received : OwnerReceived) (link : Nat) (poll cancel : Int) (call : OwnerCall) (m : WriteMonitor) :
    call.Result × WriteMonitor :=
  (writeAnswer received link poll cancel call, m.see call (writeAnswer received link poll cancel call))

def writeStep (received : OwnerReceived) (link : Nat) (poll cancel : Int) (now : Nat)
    (s : NetworkOwner × WriteMonitor) : NetworkOwner × WriteMonitor :=
  let stepped := (ownerStep lanDocuments s.1 (tick now)).eval (writeHandle received link poll cancel) s.2.begin
  (stepped.1, stepped.2.judge s.2.outstanding stepped.1)

def writePolicy (now : Nat) (s : NetworkOwner × WriteMonitor) : NetworkOwner × WriteMonitor :=
  let adopted := (ownerPolicy s.1 lanPolicy (tick now)).eval (writeHandle .nothing 1 1 0) s.2.begin
  (adopted.1.2, adopted.2.judge s.2.outstanding adopted.1.2)

theorem run_writeStep {s : NetworkOwner × WriteMonitor} {t : CoreTick} (received : OwnerReceived) (link : Nat)
    (poll cancel : Int) (now : Nat) (h : WriteRun lanDocuments s.1 s.2 t) :
    WriteRun lanDocuments (writeStep received link poll cancel now s).1
      (writeStep received link poll cancel now s).2 (tick now) :=
  .step (tick now) h (Prog.runs_eval (fun _ _ => rfl) _ _)

theorem run_writePolicy {s : NetworkOwner × WriteMonitor} {t : CoreTick} (now : Nat)
    (h : WriteRun lanDocuments s.1 s.2 t) :
    WriteRun lanDocuments (writePolicy now s).1 (writePolicy now s).2 (tick now) :=
  .policy lanPolicy (tick now) h (Prog.runs_eval (fun _ _ => rfl) _ _)

/-- The policy is adopted, and a target without addresses handed over; an address is offered. -/
def writeOffered : NetworkOwner × WriteMonitor :=
  writeStep (.packet offerFrame) 1 1 0 0 (writePolicy 0 (ownerInit 1, {}))

/-- The address is granted, and probed three times. -/
def writeProbed : NetworkOwner × WriteMonitor :=
  writeStep .nothing 1 1 0 2007 (writeStep .nothing 1 1 0 1005
    (writeStep .nothing 1 1 0 3 (writeStep (.packet ackFrame) 1 1 0 1 writeOffered)))

/-- The policy is adopted again, and its target, still without addresses, handed over. Then
    the lease is in force, and the job cannot be cancelled. -/
def writeRefused : NetworkOwner × WriteMonitor :=
  writeStep .nothing 1 0 (-1) 4007 (writeStep .nothing 1 1 0 4002 (writePolicy 3997 writeProbed))

/-- The link goes down: the target is without addresses once more, and the job ends. -/
def writeSettled : NetworkOwner × WriteMonitor :=
  writeStep .nothing 0 1 0 4258 (writeStep .nothing 0 1 0 4257 writeRefused)

theorem run_writeOffered : WriteRun lanDocuments writeOffered.1 writeOffered.2 (tick 0) :=
  run_writeStep _ _ _ _ 0 (run_writePolicy 0 (s := (ownerInit 1, {})) (.init 1 (tick 0)))

theorem run_writeSettled : WriteRun lanDocuments writeSettled.1 writeSettled.2 (tick 4258) := by
  have hprobed : WriteRun lanDocuments writeProbed.1 writeProbed.2 (tick 2007) :=
    run_writeStep _ _ _ _ 2007 (run_writeStep _ _ _ _ 1005 (run_writeStep _ _ _ _ 3
      (run_writeStep _ _ _ _ 1 run_writeOffered)))
  have hrefused : WriteRun lanDocuments writeRefused.1 writeRefused.2 (tick 4007) :=
    run_writeStep _ _ _ _ 4007 (run_writeStep _ _ _ _ 4002 (run_writePolicy 3997 hprobed))
  exact run_writeStep _ _ _ _ 4258 (run_writeStep _ _ _ _ 4257 hrefused)

theorem writesInOrder_settled : WritesInOrder lanDocuments writeSettled.1 writeSettled.2 (tick 4258) :=
  writesInOrder run_writeSettled

/-- A job has become obsolete, and could not be cancelled; with no other started since, the
    owner is settled. -/
theorem obsoleteJob_settled :
    ¬ ∀ (docs : OwnerDocuments) (o : NetworkOwner) (m : WriteMonitor) (now : CoreTick),
      docs.arpConflict = arpConflict → docs.payload = framePayload → WriteRun docs o m now →
      m.obsolete = true → o.ready = false ∧ o.settled = false := by
  intro h
  have hsettled := h lanDocuments _ _ _ rfl rfl run_writeSettled (by decide +kernel)
  revert hsettled
  decide +kernel

end FourVrs.Network
