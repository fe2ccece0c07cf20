import FourVrs.Network.OwnerLans

/-!
# A write job that fails

`JobMonitor` watches the write jobs of the owner: whether one has ended with a failure,
and no later one with success. An owner that says it is settled meanwhile takes the
failed job for done. It does so when the interfaces are observed to be as the target asks
for although the job has failed, for the failure leaves nothing to be written behind.

A step is run on its inputs, what its calls return. `inputsShow` is what they say of the
interfaces before the owner compares anything: the observation, and the leases that come
of the packets. `LeftToWrite` is the condition on them under which the failure is
remembered (`remembered_stepOn`), and a step that does not meet it forgets the failure
(`settled_stepOn`). Steps of an owner that has a job outstanding are under no condition.
-/

set_option autoImplicit false

namespace FourVrs.Network

open FourVrs.Core Lib

/-! ## Runs -/

structure JobMonitor where
  /-- A job has ended with a negative result, and no later one with a positive. -/
  failed : Bool := false
  /-- A job was started since. -/
  restarted : Bool := false

def JobMonitor.see (m : JobMonitor) : (call : OwnerCall) → call.Result → JobMonitor
  | .apply _ _, r => if r = 0 then { m with restarted := true } else m
  | .poll, r =>
      if r < 0 then { failed := true, restarted := false }
      else if 0 < r ∧ m.restarted = true then { m with failed := false }
      else m
  | .observe, _ | .open _, _ | .close _, _ | .receive _, _ | .send _, _ | .probe _ _, _ | .cancel, _ => m

/-- The operations return anything. -/
def jobWorld : Prog.World OwnerCall OwnerCall.Result JobMonitor := fun call m r m' => m' = m.see call r

/-- The inputs of a step: what its first, second and each later call returns. -/
abbrev OwnerInputs : Type := Nat → (call : OwnerCall) → call.Result

/-- The answers of a step, the monitor looking on. -/
def OwnerInputs.handle (inputs : OwnerInputs) (call : OwnerCall) (s : JobMonitor × Nat) :
    call.Result × JobMonitor × Nat :=
  (inputs s.2 call, s.1.see call (inputs s.2 call), s.2 + 1)

/-- A step with these inputs: the owner and the monitor after it. -/
def stepOn (docs : OwnerDocuments) (inputs : OwnerInputs) (o : NetworkOwner) (now : CoreTick)
    (m : JobMonitor) : NetworkOwner × JobMonitor :=
  let s := (ownerStep docs o now).eval inputs.handle (m, 0)
  (s.1, s.2.1)

/-- The owner from its start, with policies and steps at any ticks; `allowed` is for the
    monitor and the owner before a step, its tick and its inputs. -/
inductive JobRun (docs : OwnerDocuments)
    (allowed : JobMonitor → NetworkOwner → CoreTick → OwnerInputs → Prop) :
    NetworkOwner → JobMonitor → Prop where
  | init (seed : BitVec 32) : JobRun docs allowed (ownerInit seed) {}
  | policy {o o' : NetworkOwner} {m m' : JobMonitor} {r : Int} (p : NetworkPolicy) (now : CoreTick)
      (hrun : JobRun docs allowed o m)
      (h : Prog.Runs jobWorld (ownerPolicy o p now) m (some (r, o')) m') : JobRun docs allowed o' m'
  | step {o : NetworkOwner} {m : JobMonitor} (now : CoreTick) (inputs : OwnerInputs)
      (hrun : JobRun docs allowed o m) (hallowed : allowed m o now inputs) :
      JobRun docs allowed (stepOn docs inputs o now m).1 (stepOn docs inputs o now m).2

/-! ## What the inputs of a step show -/

/-- Both interfaces served: what is observed of them and what leases their packets leave,
    unless the step ends before. -/
def interfacesShow (docs : OwnerDocuments) (o : NetworkOwner) (now : CoreTick) :
    OwnerProg (Option (NetworkObservation × (Lan → DhcpClient))) := do
  match ← stepLan docs o now 0 with
  | (_, none) => pure none
  | (o, some _) =>
    match ← stepLan docs o now 1 with
    | (_, none) => pure none
    | (o, some _) => pure (some (o.observed, o.dhcp))

/-- The observation is read when it is due, and otherwise the one held. -/
def inputsShow (docs : OwnerDocuments) (o : NetworkOwner) (now : CoreTick) :
    OwnerProg (Option (NetworkObservation × (Lan → DhcpClient))) := do
  let o := { o with ready := false, settled := false }
  if due now o.nextObserve then
    let (r, observed) ← ownerCall .observe
    if r ≠ 0 ∨ observed.unsupported ≠ 0 then pure none
    else interfacesShow docs { o with observed := observed, nextObserve := now + 250 } now
  else interfacesShow docs o now

/-- A lease has run out. -/
def Expires (o : NetworkOwner) (now : CoreTick) : Prop :=
  ∃ i, (o.dhcp i).valid = true ∧ due now (o.dhcp i).expiresAt = true

/-- What a step of an owner without a job has left to write after a failure: the owner is
    dirty, or a lease has run out, or the inputs show the interfaces otherwise than the
    policy and the leases ask for. -/
def LeftToWrite (docs : OwnerDocuments) (m : JobMonitor) (o : NetworkOwner) (now : CoreTick)
    (inputs : OwnerInputs) : Prop :=
  m.failed = true → o.active = true → o.job = false →
    o.dirty = true ∨ Expires o now ∨
    ∀ seen leases, ((inputsShow docs o now).eval inputs.handle (m, 0)).1 = some (seen, leases) →
      ∀ t resolver, computeTarget docs o.policy seen leases = some (t, resolver) →
        observationEqual seen t = false

instance (o : NetworkOwner) (now : CoreTick) : Decidable (Expires o now) :=
  inferInstanceAs (Decidable (∃ _, _ ∧ _))

instance (docs : OwnerDocuments) (m : JobMonitor) (o : NetworkOwner) (now : CoreTick) (inputs : OwnerInputs) :
    Decidable (LeftToWrite docs m o now inputs) :=
  decidable_of_iff
    (m.failed = true → o.active = true → o.job = false → o.dirty = true ∨ Expires o now ∨
      ∀ s ∈ ((inputsShow docs o now).eval inputs.handle (m, 0)).1,
        ∀ r ∈ computeTarget docs o.policy s.1 s.2, observationEqual s.1 r.1 = false)
    ⟨fun h hfailed hactive hidle => (h hfailed hactive hidle).imp id fun h => h.imp id
        fun h seen leases hshow t resolver htarget => h (seen, leases) hshow (t, resolver) htarget,
      fun h hfailed hactive hidle => (h hfailed hactive hidle).imp id fun h => h.imp id
        fun h s hshow r htarget => h s.1 s.2 hshow r.1 r.2 htarget⟩

/-- A failure is remembered. -/
def Remembered (o : NetworkOwner) (m : JobMonitor) : Prop :=
  m.failed = true → o.ready = false ∧ o.settled = false ∧ (o.job = true → m.restarted = true)

/-! ## Steps -/

theorem keptBy_job (m : JobMonitor) (j : Lan) : KeptBy jobWorld (fun m' => m' = m) (OwnerCall.OfLan j) := by
  rintro call r s s' hcall rfl hsee
  cases call with
  | observe | apply | poll | cancel => exact hcall.elim
  | «open» | close | receive | send | probe => exact hsee

section Steps

variable {docs : OwnerDocuments} {o o' : NetworkOwner} {m m' : JobMonitor} {now : CoreTick}

theorem safe_jobCall {α : Type} {post : α → JobMonitor → Prop} {call : OwnerCall}
    {f : call.Result → OwnerProg α}
    (h : ∀ r, Prog.Safe jobWorld (fun _ => True) post (f r) (m.see call r)) :
    Prog.Safe jobWorld (fun _ => True) post (ownerCall call >>= f) m := by
  refine ⟨trivial, ?_⟩
  intro r m' hsee
  rw [hsee]
  exact h r

/-- What a step of the owner has of the job and of its readiness, between its parts. -/
structure Working (o : NetworkOwner) (m : JobMonitor) : Prop where
  quiet : o.ready = false ∧ o.settled = false
  restarted : m.failed = true → o.job = true → m.restarted = true

theorem Working.remembered (h : Working o m) : Remembered o m :=
  fun hfailed => ⟨h.quiet.1, h.quiet.2, h.restarted hfailed⟩

theorem Working.of_core (h : Working o m) (hcore : o'.core = o.core) :
    Working o' m ∧ o'.dirty = o.dirty ∧ o'.job = o.job ∧ o'.policy = o.policy := by
  have same : ∀ {α : Type} (f : NetworkOwner → α), f o'.core = f o.core := fun f => congrArg f hcore
  have hready : o'.ready = o.ready := same NetworkOwner.ready
  have hsettled : o'.settled = o.settled := same NetworkOwner.settled
  have hjob : o'.job = o.job := same NetworkOwner.job
  refine ⟨⟨⟨hready.trans h.quiet.1, hsettled.trans h.quiet.2⟩, fun hfailed hout => ?_⟩,
    same NetworkOwner.dirty, hjob, same NetworkOwner.policy⟩
  exact h.restarted hfailed (hjob.symm.trans hout)

/-- A job that ends leaves none outstanding. -/
theorem working_reapJob (h : Working o m) (now : CoreTick) :
    Prog.Safe jobWorld (fun _ => True) (fun o' m' => Working o' m') (reapJob o now) m := by
  refine safe_jobCall fun r => ?_
  split
  · rename_i hzero
    refine ⟨trivial, ?_⟩
    rw [hzero]
    exact h
  · simp only
    split <;> exact ⟨trivial, h.quiet, fun _ hout => by cases hout⟩

theorem working_watchJob (h : Working o m) (now : CoreTick) :
    Prog.Safe jobWorld (fun _ => True) (fun o' m' => Working o' m') (watchJob o now) m := by
  unfold watchJob
  split
  · refine safe_jobCall fun r => ?_
    split
    · exact ⟨trivial, h.quiet, h.restarted⟩
    · exact working_reapJob (o := { o with canceling := true }) ⟨h.quiet, h.restarted⟩ now
  · exact working_reapJob h now

/-- **The end of a step** that has something left to write after a failure. -/
theorem remembered_settle (h : Working o m) (now : CoreTick) (eligible : Bool)
    (hleft : m.failed = true → o.job = false →
      o.dirty = true ∨ observationEqual o.observed o.target = false) :
    Prog.Safe jobWorld (fun _ => True) (fun o' m' => Remembered o' m') (settle o now eligible) m := by
  unfold settle
  split
  · exact Prog.Safe.mono (working_watchJob h now) fun _ _ _ hworking => hworking.remembered
  rename_i hidle
  split
  · refine safe_jobCall fun r => ?_
    split
    · exact ⟨trivial, fun _ => ⟨h.quiet.1, h.quiet.2, fun hout => absurd hout hidle⟩⟩
    · rename_i hstarted
      refine ⟨trivial, fun _ => ⟨h.quiet.1, h.quiet.2, fun _ => ?_⟩⟩
      simp only [not_not] at hstarted
      rw [hstarted]
      rfl
  split
  · rename_i hequal
    simp only [Bool.and_eq_true, Bool.not_eq_true'] at hequal
    refine ⟨trivial, fun hfailed => ?_⟩
    rcases hleft hfailed (by simpa using hidle) with hdirty | hdiffers
    · exact absurd (hequal.2.symm.trans hdirty) (by simp)
    · exact absurd (hequal.1.symm.trans hdiffers) (by simp)
  · exact ⟨trivial, h.remembered⟩

theorem working_ownerBlind (h : Working o m) :
    Prog.Safe jobWorld (fun _ => True) (fun o' m' => Remembered o' m') (ownerBlind o) m := by
  have hreap : ∀ (o' : NetworkOwner), Working o' m →
      Prog.Safe jobWorld (fun _ => True) (fun o' m' => Remembered o' m') (reapBlind o') m := by
    intro o' h'
    refine safe_jobCall fun r => ?_
    split
    · exact ⟨trivial, fun _ => ⟨h'.quiet.1, h'.quiet.2, fun hout => by cases hout⟩⟩
    · rename_i hzero
      refine ⟨trivial, ?_⟩
      simp only [not_not] at hzero
      rw [hzero]
      exact h'.remembered
  unfold ownerBlind
  simp only
  split
  · exact ⟨trivial, fun hfailed => ⟨h.quiet.1, h.quiet.2, h.restarted hfailed⟩⟩
  split
  · refine safe_jobCall fun r => ?_
    split
    · exact hreap _ ⟨h.quiet, h.restarted⟩
    · exact hreap _ ⟨h.quiet, h.restarted⟩
  · exact hreap _ ⟨h.quiet, h.restarted⟩

/-- A target is what the policy and the leases ask for, or it is chosen without the leases
    and makes the owner dirty. -/
theorem working_chooseTarget (h : Working o m) (docs : OwnerDocuments) (now : CoreTick) :
    Working (chooseTarget docs o now).1 m ∧ (chooseTarget docs o now).1.job = o.job ∧
      (o.dirty = true → (chooseTarget docs o now).1.dirty = true) ∧
      ((chooseTarget docs o now).2.isSome = true → (chooseTarget docs o now).1.dirty = true ∨
        (chooseTarget docs o now).1.observed = o.observed ∧
          computeTarget docs o.policy o.observed o.dhcp =
            some ((chooseTarget docs o now).1.target, (chooseTarget docs o now).1.resolver)) := by
  unfold chooseTarget
  split
  · rename_i htarget
    exact ⟨⟨h.quiet, h.restarted⟩, rfl, id, fun _ => .inr ⟨rfl, htarget⟩⟩
  · have hcore : (giveUpLease (giveUpLease { o with error := 5 } now 0) now 1).core = o.core :=
      (giveUpLease_core _ now 1).trans (giveUpLease_core _ now 0)
    obtain ⟨hworking, hdirty, hjob, _⟩ := h.of_core hcore
    simp only
    split
    · exact ⟨⟨hworking.quiet, hworking.restarted⟩, hjob, fun _ => rfl, fun _ => .inl rfl⟩
    · exact ⟨hworking, hjob, fun hd => hdirty.trans hd, fun hsome => by cases hsome⟩

theorem view_handle (inputs : OwnerInputs) (call : OwnerCall) (s : JobMonitor × Nat) :
    jobWorld call s.1 (inputs.handle call s).1 (inputs.handle call s).2.1 := rfl

/-- Serving an interface is nothing the monitor looks at. -/
theorem served_stepLan (hmanned : Manned o) (j : Lan) (inputs : OwnerInputs) (n : Nat) :
    ∀ r, (stepLan docs o now j).eval inputs.handle (m, n) = r →
      r.1.1.core = o.core ∧ (o.active = true → Manned r.1.1) ∧ r.2.1 = m := by
  rintro r rfl
  obtain ⟨hworked, hm⟩ := Prog.Safe.eval Prod.fst (view_handle inputs) (t := (m, n))
    (lanKeeps_stepLan (clientKept_composed now) (keptBy_job m j) (hmanned.lans j) rfl)
  exact ⟨hworked.frame.core, hworked.owner hmanned, hm⟩

/-- The step from the interfaces on, when what they show leaves something to write. -/
theorem remembered_ownerObserved (hmanned : Manned o) (hactive : o.active = true) (h : Working o m)
    (docs : OwnerDocuments) (now : CoreTick) (inputs : OwnerInputs) (n : Nat)
    (hleft : m.failed = true → o.job = false → o.dirty = true ∨
      ∀ seen leases, ((interfacesShow docs o now).eval inputs.handle (m, n)).1 = some (seen, leases) →
        ∀ t resolver, computeTarget docs o.policy seen leases = some (t, resolver) →
          observationEqual seen t = false) :
    Remembered ((ownerObserved docs o now).eval inputs.handle (m, n)).1
      ((ownerObserved docs o now).eval inputs.handle (m, n)).2.1 := by
  unfold ownerObserved
  unfold interfacesShow at hleft
  rw [Prog.eval_bind] at hleft ⊢
  obtain ⟨hcore₁, hmanned₁, hm₁⟩ := served_stepLan hmanned 0 inputs n _ rfl
  generalize (stepLan docs o now 0).eval inputs.handle (m, n) = r₁ at hleft hcore₁ hmanned₁ hm₁ ⊢
  obtain ⟨⟨o₁, first⟩, m₁, n₁⟩ := r₁
  obtain rfl : m₁ = m := hm₁
  obtain ⟨h₁, hdirty₁, hjob₁, hpolicy₁⟩ := h.of_core hcore₁
  cases first with
  | none => exact h₁.remembered
  | some first =>
    simp only at hleft ⊢
    rw [Prog.eval_bind] at hleft ⊢
    obtain ⟨hcore₂, -, hm₂⟩ := served_stepLan (hmanned₁ hactive) 1 inputs n₁ _ rfl
    generalize (stepLan docs o₁ now 1).eval inputs.handle (m₁, n₁) = r₂ at hleft hcore₂ hm₂ ⊢
    obtain ⟨⟨o₂, second⟩, m₂, n₂⟩ := r₂
    obtain rfl : m₂ = m₁ := hm₂
    obtain ⟨h₂, hdirty₂, hjob₂, hpolicy₂⟩ := h₁.of_core hcore₂
    cases second with
    | none => exact h₂.remembered
    | some second =>
      obtain ⟨h₃, hjob₃, hdirty₃, htarget₃⟩ := working_chooseTarget h₂ docs now
      simp only
      generalize chooseTarget docs o₂ now = chosen at h₃ hjob₃ hdirty₃ htarget₃ ⊢
      obtain ⟨o₃, suits⟩ := chosen
      cases suits with
      | none => exact h₃.remembered
      | some suits =>
        refine Prog.Safe.eval Prod.fst (view_handle inputs) (t := (m₂, n₂)) (remembered_settle h₃ now _ ?_)
        intro hfailed hidle
        rcases htarget₃ rfl with hdirty | ⟨hobserved, htarget⟩
        · exact .inl hdirty
        · have hidle' : o.job = false := by rw [← hjob₁, ← hjob₂, ← hjob₃, hidle]
          rcases hleft hfailed hidle' with hdirty | hdiffers
          · exact .inl (hdirty₃ (hdirty₂.trans (hdirty₁.trans hdirty)))
          · rw [hpolicy₂, hpolicy₁] at htarget
            rw [hobserved]
            exact .inr (hdiffers _ _ rfl _ _ htarget)

theorem expireLease_of_not {j : Lan} (h : ¬ ((o.dhcp j).valid = true ∧ due now (o.dhcp j).expiresAt = true)) :
    expireLease o now j = o := by
  unfold expireLease
  rw [if_neg (by simpa using h)]

/-- Where no lease has run out, the expiry does nothing. -/
theorem expireLeases_of_not (h : ¬ Expires o now) : expireLease (expireLease o now 0) now 1 = o := by
  rw [expireLease_of_not (fun h₀ => h ⟨0, h₀⟩), expireLease_of_not (fun h₁ => h ⟨1, h₁⟩)]

/-- A lease that has run out makes the owner dirty. -/
theorem dirty_expireLeases (h : Expires o now) : (expireLease (expireLease o now 0) now 1).dirty = true := by
  have hdue : ∀ {o : NetworkOwner} {j : Lan}, (o.dhcp j).valid = true ∧ due now (o.dhcp j).expiresAt = true →
      (expireLease o now j).dirty = true := by
    intro o j hj
    unfold expireLease
    rw [if_pos (by simpa using hj)]
  have hkeeps : ∀ {o : NetworkOwner} {j : Lan}, o.dirty = true → (expireLease o now j).dirty = true := by
    intro o j hdirty
    unfold expireLease
    split
    · rfl
    · exact hdirty
  rcases Fin.exists_fin_two.mp h with h₀ | h₁
  · exact hkeeps (hdue h₀)
  · by_cases h₀ : (o.dhcp 0).valid = true ∧ due now (o.dhcp 0).expiresAt = true
    · exact hkeeps (hdue h₀)
    · rw [expireLease_of_not h₀]
      exact hdue h₁

/-- **A step** whose inputs leave something to write, if a job had failed before it and none
    is outstanding. -/
theorem remembered_stepOn (docs : OwnerDocuments) (hmanned : Manned o) (h : Remembered o m)
    (now : CoreTick) (inputs : OwnerInputs) (hleft : LeftToWrite docs m o now inputs) :
    Remembered (stepOn docs inputs o now m).1 (stepOn docs inputs o now m).2 := by
  unfold stepOn ownerStep
  split
  · exact h
  · rename_i hinactive
    have hactive : o.active = true := by simpa using hinactive
    have hquiet : Manned { o with ready := false, settled := false } :=
      ⟨fun j => ⟨(hmanned.lans j).client, (hmanned.lans j).opened⟩, hmanned.active⟩
    have hexpired := manned_expireLease (manned_expireLease hquiet now 0) now 1
    have hstill := (expireLease_same (expireLease { o with ready := false, settled := false } now 0) now 1)
      |>.2.2.1.trans ((expireLease_same { o with ready := false, settled := false } now 0).2.2.1.trans hactive)
    have hlease : ∀ (o' : NetworkOwner) (j : Lan), Working o' m ∧ o'.job = o.job →
        Working (expireLease o' now j) m ∧ (expireLease o' now j).job = o.job := by
      rintro o' j ⟨h', hjob⟩
      unfold expireLease
      split <;> exact ⟨⟨h'.quiet, h'.restarted⟩, hjob⟩
    obtain ⟨hworking, hjob⟩ := hlease _ 1 (hlease { o with ready := false, settled := false } 0
      ⟨⟨⟨rfl, rfl⟩, fun hfailed => (h hfailed).2.2⟩, rfl⟩)
    -- an idle step after a failure is dirty by an expiry, or sees a difference
    have hshows : m.failed = true → o.job = false →
        (expireLease (expireLease { o with ready := false, settled := false } now 0) now 1).dirty = true ∨
          expireLease (expireLease { o with ready := false, settled := false } now 0) now 1 =
              { o with ready := false, settled := false } ∧
            ∀ seen leases, ((inputsShow docs o now).eval inputs.handle (m, 0)).1 = some (seen, leases) →
              ∀ t resolver, computeTarget docs o.policy seen leases = some (t, resolver) →
                observationEqual seen t = false := by
      intro hfailed hidle
      by_cases hexpires : Expires { o with ready := false, settled := false } now
      · exact .inl (dirty_expireLeases hexpires)
      · have hsame := expireLeases_of_not hexpires
        rcases hleft hfailed hactive hidle with hdirty | hexpires' | hdiffers
        · rw [hsame]
          exact .inl hdirty
        · exact absurd hexpires' hexpires
        · exact .inr ⟨hsame, hdiffers⟩
    generalize expireLease (expireLease { o with ready := false, settled := false } now 0) now 1 = o₁
      at hexpired hstill hworking hjob hshows ⊢
    simp only
    split
    -- the observation is due: the step goes on with what it says, or sees nothing
    · rename_i hdue
      simp only [ownerCall, Prog.lift_bind, Prog.eval_call]
      split
      · have hblind : Working { o₁ with observed := (inputs 0 .observe).2 } m :=
          ⟨hworking.quiet, hworking.restarted⟩
        exact Prog.Safe.eval Prod.fst (view_handle inputs) (t := (m, 1)) (working_ownerBlind hblind)
      · rename_i hseen
        refine remembered_ownerObserved
          (o := { o₁ with observed := (inputs 0 .observe).2, nextObserve := now + 250 })
          ?_ hstill ⟨hworking.quiet, hworking.restarted⟩ docs now inputs 1 ?_
        · exact ⟨fun j => ⟨(hexpired.lans j).client, (hexpired.lans j).opened⟩, hexpired.active⟩
        · intro hfailed hidle
          refine (hshows hfailed (hjob.symm.trans hidle)).imp id ?_
          rintro ⟨rfl, hdiffers⟩ seen leases hshow
          refine hdiffers seen leases ?_
          unfold inputsShow
          simp only
          rw [if_pos hdue]
          simp only [ownerCall, Prog.lift_bind, Prog.eval_call]
          rw [if_neg hseen]
          exact hshow
    · rename_i hdue
      refine remembered_ownerObserved hexpired hstill hworking docs now inputs 0 ?_
      intro hfailed hidle
      refine (hshows hfailed (hjob.symm.trans hidle)).imp id ?_
      rintro ⟨rfl, hdiffers⟩ seen leases hshow
      refine hdiffers seen leases ?_
      unfold inputsShow
      simp only
      rw [if_neg hdue]
      exact hshow

/-- From the interfaces on, an owner without a job that is not dirty settles when they show
    what the policy and the leases ask for. -/
theorem settled_ownerObserved (hmanned : Manned o) (hactive : o.active = true) (hidle : o.job = false)
    (hclean : o.dirty = false) (inputs : OwnerInputs) (n : Nat) {seen : NetworkObservation}
    {leases : Lan → DhcpClient} {t : NetworkObservation} {resolver : CText}
    (hshow : ((interfacesShow docs o now).eval inputs.handle (m, n)).1 = some (seen, leases))
    (htarget : computeTarget docs o.policy seen leases = some (t, resolver))
    (hequal : observationEqual seen t = true) :
    ((ownerObserved docs o now).eval inputs.handle (m, n)).1.settled = true ∧
      ((ownerObserved docs o now).eval inputs.handle (m, n)).2.1 = m := by
  unfold ownerObserved
  unfold interfacesShow at hshow
  rw [Prog.eval_bind] at hshow ⊢
  obtain ⟨hcore₁, hmanned₁, hm₁⟩ := served_stepLan hmanned 0 inputs n _ rfl
  generalize (stepLan docs o now 0).eval inputs.handle (m, n) = r₁ at hshow hcore₁ hmanned₁ hm₁ ⊢
  obtain ⟨⟨o₁, first⟩, m₁, n₁⟩ := r₁
  obtain rfl : m₁ = m := hm₁
  cases first with
  | none => cases hshow
  | some first =>
    simp only at hshow ⊢
    rw [Prog.eval_bind] at hshow ⊢
    obtain ⟨hcore₂, -, hm₂⟩ := served_stepLan (hmanned₁ hactive) 1 inputs n₁ _ rfl
    generalize (stepLan docs o₁ now 1).eval inputs.handle (m₁, n₁) = r₂ at hshow hcore₂ hm₂ ⊢
    obtain ⟨⟨o₂, second⟩, m₂, n₂⟩ := r₂
    obtain rfl : m₂ = m₁ := hm₂
    cases second with
    | none => cases hshow
    | some second =>
      obtain ⟨rfl, rfl⟩ := Prod.mk.inj (Option.some.inj hshow)
      have same : ∀ {α : Type} (f : NetworkOwner → α), f o₂.core = f o.core :=
        fun f => congrArg f (hcore₂.trans hcore₁)
      have hpolicy : o₂.policy = o.policy := same NetworkOwner.policy
      have hidle₂ : o₂.job = false := (same NetworkOwner.job).trans hidle
      have hclean₂ : o₂.dirty = false := (same NetworkOwner.dirty).trans hclean
      have hchosen : chooseTarget docs o₂ now = ({ o₂ with target := t, resolver := resolver }, some true) := by
        unfold chooseTarget
        rw [hpolicy, htarget]
      simp only [hchosen]
      unfold settle
      simp [hidle₂, hclean₂, hequal]

/-- **The condition is exact**: where a step leaves nothing to write, the owner is settled
    after it, although the job has failed. -/
theorem settled_stepOn (hmanned : Manned o) (inputs : OwnerInputs)
    (h : ¬ LeftToWrite docs m o now inputs) :
    (stepOn docs inputs o now m).1.settled = true ∧ (stepOn docs inputs o now m).2 = m := by
  unfold LeftToWrite at h
  push Not at h
  obtain ⟨-, hactive, hidle, hclean, hnone, seen, leases, hshow, t, resolver, htarget, hequal⟩ := h
  have hclean : o.dirty = false := by simpa using hclean
  have hequal : observationEqual seen t = true := by simpa using hequal
  unfold stepOn ownerStep
  rw [if_neg (by simp [hactive])]
  simp only
  rw [expireLeases_of_not (o := { o with ready := false, settled := false }) hnone]
  unfold inputsShow at hshow
  simp only at hshow
  split
  · rename_i hdue
    rw [if_pos hdue] at hshow
    simp only [ownerCall, Prog.lift_bind, Prog.eval_call] at hshow ⊢
    split
    · rename_i hbad
      rw [if_pos hbad] at hshow
      cases hshow
    · rename_i hseen
      rw [if_neg hseen] at hshow
      refine settled_ownerObserved
        (o := { o with ready := false, settled := false, observed := (inputs 0 .observe).2,
                       nextObserve := now + 250 })
        ?_ hactive hidle hclean inputs 1 hshow htarget hequal
      exact ⟨fun j => ⟨(hmanned.lans j).client, (hmanned.lans j).opened⟩, hmanned.active⟩
  · rename_i hdue
    rw [if_neg hdue] at hshow
    refine settled_ownerObserved (o := { o with ready := false, settled := false })
      ?_ hactive hidle hclean inputs 0 hshow htarget hequal
    exact ⟨fun j => ⟨(hmanned.lans j).client, (hmanned.lans j).opened⟩, hmanned.active⟩

/-! ## Policies -/

theorem remembered_ownerPolicy (h : Remembered o m) (p : NetworkPolicy) (now : CoreTick) :
    Prog.Safe jobWorld (fun _ => True) (fun r m' => Remembered r.2 m') (ownerPolicy o p now) m := by
  have hleave : ∀ (o' : NetworkOwner) (j : Lan), (o'.job = true → m.failed = true → m.restarted = true) →
      Prog.Safe jobWorld (fun _ => True)
        (fun o'' m' => m' = m ∧ (o''.job = true → m.failed = true → m.restarted = true))
        (leaveMode o' p j) m := by
    intro o' j hjob
    unfold leaveMode
    split
    · refine Prog.Safe.mono (lanKeeps_close (clientKept_composed now) (keptBy_job m j) o' rfl) ?_
      rintro o'' m' - ⟨hworked, rfl⟩
      have hsame : o''.core.job = o'.core.job := congrArg NetworkOwner.job hworked.frame.core
      exact ⟨rfl, fun hout => hjob (hsame.symm.trans hout)⟩
    · exact ⟨trivial, rfl, hjob⟩
  have hadopt : ∀ (o' : NetworkOwner), (o'.job = true → m.failed = true → m.restarted = true) →
      Prog.Safe jobWorld (fun _ => True) (fun r m' => Remembered r.2 m') (adoptPolicy o' p now) m := by
    intro o' hjob
    refine Prog.Safe.bind (Prog.Safe.mono (hleave o' 0 hjob) ?_)
    rintro o₁ m₁ - ⟨rfl, hjob₁⟩
    refine Prog.Safe.bind (Prog.Safe.mono (hleave o₁ 1 hjob₁) ?_)
    rintro o₂ m₂ - ⟨rfl, hjob₂⟩
    exact ⟨trivial, fun hfailed => ⟨rfl, rfl, fun hout => hjob₂ hout hfailed⟩⟩
  unfold ownerPolicy
  split
  · exact ⟨trivial, h⟩
  split
  · refine safe_jobCall fun r => ?_
    split
    · exact ⟨trivial, h⟩
    · exact hadopt _ fun hout hfailed => (h hfailed).2.2 hout
  · exact hadopt o fun hout hfailed => (h hfailed).2.2 hout

end Steps

theorem remembered_of_run {docs : OwnerDocuments} {o : NetworkOwner} {m : JobMonitor}
    (hrun : JobRun docs (LeftToWrite docs) o m) : Manned o ∧ Remembered o m := by
  induction hrun with
  | init seed => exact ⟨manned_init seed, fun hfailed => by cases hfailed⟩
  | policy p now hrun h ih =>
    exact ⟨((manned_ownerPolicy ih.1 p now _).runs h).2 _ rfl,
      ((remembered_ownerPolicy ih.2 p now).runs h).2 _ rfl⟩
  | step now inputs hrun hleft ih =>
    exact ⟨(Prog.Safe.eval Prod.fst (view_handle inputs) (t := (_, 0)) (manned_ownerStep _ ih.1 now _)).1,
      remembered_stepOn _ ih.1 ih.2 now inputs hleft⟩

/-- **A failed write is not mistaken for success** in a run of policies and steps with any
    inputs, as long as every step of an owner that has failed and has no job outstanding has
    something left to write: from the failure on the owner is neither ready nor settled,
    until a later job has been started and has ended well. A step that has nothing left to
    write reports the failure as settled. -/
theorem failedWrite_remembered {docs : OwnerDocuments} {o : NetworkOwner} {m : JobMonitor}
    (hrun : JobRun docs (LeftToWrite docs) o m) :
    (m.failed = true → o.ready = false ∧ o.settled = false) ∧
      ∀ now inputs, ¬ LeftToWrite docs m o now inputs →
        (stepOn docs inputs o now m).2.failed = true ∧ (stepOn docs inputs o now m).1.settled = true := by
  obtain ⟨hmanned, hremembered⟩ := remembered_of_run hrun
  refine ⟨fun hfailed => ⟨(hremembered hfailed).1, (hremembered hfailed).2.1⟩, fun now inputs hnothing => ?_⟩
  obtain ⟨hsettled, hsame⟩ := settled_stepOn hmanned inputs hnothing
  rw [hsame]
  exact ⟨by_contra fun h => hnothing fun hfailed => absurd hfailed h, hsettled⟩

/-! ## A write that fails -/

/-- Two static interfaces, seen as they are said to be, and jobs that start and end so. -/
def jobInputs (seen : NetworkObservation) (result : Int) : OwnerInputs
  | _, .observe => (0, seen)
  | _, .receive _ => .nothing
  | _, .send _ => true
  | _, .close _ => ()
  | _, .poll => result
  | _, .open _ | _, .probe _ _ | _, .apply _ _ | _, .cancel => 0

def jobStep (seen : NetworkObservation) (result : Int) (now : CoreTick) (s : NetworkOwner × JobMonitor) :
    NetworkOwner × JobMonitor :=
  stepOn plainDocuments (jobInputs seen result) s.1 now s.2

def jobHandle (call : OwnerCall) (m : JobMonitor) : call.Result × JobMonitor :=
  (jobInputs (staticSeen 0) 0 0 call, m.see call (jobInputs (staticSeen 0) 0 0 call))

theorem jobRuns {α : Type} (p : OwnerProg α) (m : JobMonitor) :
    Prog.Runs jobWorld p m (some (p.eval jobHandle m).1) (p.eval jobHandle m).2 :=
  Prog.runs_eval (fun _ _ => rfl) p m

def jobAdopted : NetworkOwner × JobMonitor :=
  let s := (ownerPolicy (ownerInit 1) staticPolicy 0).eval jobHandle {}
  (s.1.2, s.2)

theorem run_jobAdopted (allowed : JobMonitor → NetworkOwner → CoreTick → OwnerInputs → Prop) :
    JobRun plainDocuments allowed jobAdopted.1 jobAdopted.2 :=
  .policy staticPolicy 0 (.init 1) (jobRuns (ownerPolicy (ownerInit 1) staticPolicy 0) {})

/-- The interfaces as they are when nothing has been written. -/
def unwrittenSeen : NetworkObservation where
  lan _ := { present := 1, up := 1, link := 1 }

/-- The policy is adopted and its job started, which fails a millisecond later. -/
def jobFailed (seen : NetworkObservation) : NetworkOwner × JobMonitor :=
  jobStep seen (-1) 1 (jobStep seen 0 0 jobAdopted)

/-- Nothing has been written, and after a second there is another job. -/
def jobRetried : NetworkOwner × JobMonitor :=
  jobStep unwrittenSeen 0 1001 (jobStep unwrittenSeen 0 2 (jobFailed unwrittenSeen))

/-- Until the second job has ended the owner does not forget that the first has failed; when
    it has ended well and what it wrote is seen, the owner is ready. -/
theorem failedWrite_unwritten :
    (jobRetried.1.ready = false ∧ jobRetried.1.settled = false) ∧ jobRetried.1.job = true ∧
      (jobStep (staticSeen 0) 0 1003 (jobStep unwrittenSeen 1 1002 jobRetried)).1.ready = true := by
  have hfailed : JobRun plainDocuments (LeftToWrite plainDocuments) (jobFailed unwrittenSeen).1
      (jobFailed unwrittenSeen).2 :=
    .step 1 _ (.step 0 _ (run_jobAdopted _) (by decide +kernel)) (by decide +kernel)
  have hretried : JobRun plainDocuments (LeftToWrite plainDocuments) jobRetried.1 jobRetried.2 :=
    .step 1001 _ (.step 2 _ hfailed (by decide +kernel)) (by decide +kernel)
  exact ⟨(failedWrite_remembered hretried).1 (by decide +kernel), by decide +kernel, by decide +kernel⟩

/-- The interfaces are as the target asks for, and only the resolver file is not: the owner
    is ready at once, though the job for this very policy and target has failed. -/
theorem failedWrite_mistaken :
    ¬ ∀ (docs : OwnerDocuments) (o : NetworkOwner) (m : JobMonitor) (now₁ now₂ : CoreTick)
        (inputs₁ inputs₂ : OwnerInputs),
      JobRun docs (fun _ _ _ _ => True) o m → m.failed = false →
      o.canceling = false → o.jobGeneration = o.generation →
      (stepOn docs inputs₁ o now₁ m).2.failed = true →
      observationEqual (stepOn docs inputs₁ o now₁ m).1.writing (stepOn docs inputs₁ o now₁ m).1.target = true →
      let s := stepOn docs inputs₂ (stepOn docs inputs₁ o now₁ m).1 now₂ (stepOn docs inputs₁ o now₁ m).2
      s.2.failed = true → s.1.ready = false ∧ s.1.settled = false := by
  intro h
  have hsettled := h plainDocuments _ _ 1 2 (jobInputs (staticSeen 0) (-1)) (jobInputs (staticSeen 0) 0)
    (.step 0 (jobInputs (staticSeen 0) 0) (run_jobAdopted _) trivial)
    (by decide +kernel) (by decide +kernel) (by decide +kernel) (by decide +kernel) (by decide +kernel)
    (by decide +kernel)
  revert hsettled
  decide +kernel

end FourVrs.Network
