import FourVrs.Network.Channels

/-!
# The owner knows whether a job is outstanding

`job` of the owner is set by an apply that was accepted and cleared by the result, so it
says whether a result is owed. It applies only when it is clear, and cancels and polls
only when it is set: all calls of the owner process obey `ownerLaw`.
-/

set_option autoImplicit false

namespace FourVrs.Network

open FourVrs.Core Lib

/-- What the process sees of its calls. -/
abbrev ownerSees : Prog.World ServiceCall ServiceCall.Result OwnerView :=
  Prog.seen ChannelsAgree ServiceWorld.owner ownerSide

abbrev ProcessLawful {α : Type} (post : α → OwnerView → Prop) (p : ServiceProg α) (v : OwnerView) : Prop :=
  Prog.Lawful ownerSees ownerLaw post p v

/-- The same for a program of the owner it runs. -/
abbrev OwnerLawful {α : Type} (post : α → OwnerView → Prop) (p : OwnerProg α) (v : OwnerView) : Prop :=
  Prog.Lawful (fun call => ownerSees (.owner call)) (fun call => ownerLaw (.owner call)) post p v

/-! ## Calls -/

/-- The calls that have nothing to do with the guardian. -/
def OwnerCall.Quiet : OwnerCall → Prop
  | .apply _ _ | .poll | .cancel => False
  | .observe | .open _ | .close _ | .receive _ | .send _ | .probe _ _ => True

variable {α : Type} {post : α → OwnerView → Prop} {v : OwnerView}

theorem lawful_quiet {call : OwnerCall} {f : call.Result → OwnerProg α} (hquiet : call.Quiet)
    (h : ∀ r, OwnerLawful post (f r) v) : OwnerLawful post (ownerCall call >>= f) v := by
  rintro r v' ⟨w, w', rfl, rfl, -, hstep⟩
  cases call with
  | apply | poll | cancel => exact hquiet.elim
  | observe | «open» | close | receive | send | probe =>
    cases hstep
    exact ⟨trivial, h r⟩

variable {f : Int → OwnerProg α}

theorem lawful_apply {target : NetworkObservation} {resolver : CText} (hjob : v.job = false)
    (hfails : ∀ r, r ≠ 0 → OwnerLawful post (f r) v)
    (haccepted : ∀ v' : OwnerView, v'.job = true → OwnerLawful post (f 0) v') :
    OwnerLawful post (ownerCall (.apply target resolver) >>= f) v := by
  rintro r v' ⟨w, w', rfl, rfl, -, hstep⟩
  refine ⟨hjob, ?_⟩
  obtain ⟨hr, rfl⟩ | ⟨rfl, -, rfl⟩ := hstep
  · exact hfails r hr
  · exact haccepted _ rfl

theorem lawful_cancel (hjob : v.job = true) (h : ∀ r, OwnerLawful post (f r) v) :
    OwnerLawful post (ownerCall .cancel >>= f) v := by
  rintro r v' ⟨w, w', rfl, rfl, -, hstep⟩
  refine ⟨hjob, ?_⟩
  obtain ⟨-, rfl⟩ | ⟨-, -, rfl⟩ := hstep
  · exact h r
  · exact h r

theorem lawful_poll (hjob : v.job = true) (hnone : OwnerLawful post (f 0) v)
    (hresult : ∀ r v', r ≠ 0 → v'.job = false → OwnerLawful post (f r) v') :
    OwnerLawful post (ownerCall .poll >>= f) v := by
  rintro r v' ⟨w, w', rfl, rfl, hagree, hstep⟩
  refine ⟨hjob, ?_⟩
  obtain ⟨rfl, rfl⟩ | ⟨number, rest, hdown, rfl⟩ | ⟨rfl, -, rfl⟩ := hstep
  · exact hnone
  · exact hresult r _ (hagree.polls hdown).2.1 rfl
  · exact hresult (-1) _ (by decide) rfl

/-! ## The interfaces -/

/-- The program leaves the job as it is, and makes no call about it. -/
abbrev KeepsJob (job : Bool) (v : OwnerView) (p : OwnerProg NetworkOwner) : Prop :=
  OwnerLawful (fun o v' => o.job = job ∧ v' = v) p v

variable {job : Bool}

theorem keepsJob_pure {o : NetworkOwner} (h : o.job = job) : KeepsJob job v (pure o) := ⟨h, rfl⟩

theorem KeepsJob.bind {p : OwnerProg NetworkOwner} {f : NetworkOwner → OwnerProg α}
    (h : KeepsJob job v p) (hf : ∀ o, o.job = job → OwnerLawful post (f o) v) :
    OwnerLawful post (p >>= f) v := by
  refine Prog.Lawful.bind (Prog.Lawful.mono h ?_)
  rintro o v' ⟨hjob, rfl⟩
  exact hf o hjob

theorem keepsJob_closeLan {o : NetworkOwner} (i : Lan) (h : o.job = job) : KeepsJob job v (closeLan o i) := by
  unfold closeLan
  dsimp only
  split
  · exact lawful_quiet trivial fun _ => keepsJob_pure h
  · exact keepsJob_pure h

variable (docs : OwnerDocuments)

theorem takePacket_job (o : NetworkOwner) (now : CoreTick) (i : Lan) (bytes : List UInt8) :
    (takePacket docs o now i bytes).job = o.job := by
  unfold takePacket
  dsimp only
  split
  · rfl
  · split
    · rfl
    · split <;> rfl

variable (now : CoreTick)

variable (i : Lan)

theorem keepsJob_takePackets (packets : Nat) {o : NetworkOwner} (h : o.job = job) :
    KeepsJob job v (takePackets docs now i packets o) := by
  induction packets generalizing o with
  | zero => exact keepsJob_pure h
  | succ packets ih =>
    refine lawful_quiet trivial ?_
    intro received
    cases received with
    | nothing => exact keepsJob_pure h
    | failed => exact keepsJob_closeLan i h
    | packet bytes => exact ih ((takePacket_job docs o now i bytes).trans h)

theorem keepsJob_sendMessage {o : NetworkOwner} (h : o.job = job) :
    KeepsJob job v (sendMessage o now i) := by
  unfold sendMessage
  split
  · refine lawful_quiet trivial ?_
    intro made
    cases made with
    | false | true => exact keepsJob_pure h
  · exact keepsJob_pure h

theorem keepsJob_probeAddress {o : NetworkOwner} (h : o.job = job) :
    KeepsJob job v (probeAddress o now i) := by
  unfold probeAddress
  dsimp only
  split
  · split
    · refine lawful_quiet trivial ?_
      intro r
      split
      · exact keepsJob_pure h
      · exact keepsJob_pure h
    · split
      · exact lawful_quiet trivial fun _ => keepsJob_pure h
      · exact keepsJob_pure h
  · exact keepsJob_pure h

theorem keepsJob_runClient {o : NetworkOwner} (h : o.job = job) :
    KeepsJob job v (runClient docs o now i) := by
  unfold runClient
  refine KeepsJob.bind (keepsJob_takePackets docs now i 4 h) ?_
  intro o h
  refine KeepsJob.bind (keepsJob_sendMessage now i h) ?_
  intro o h
  refine KeepsJob.bind (keepsJob_probeAddress now i h) ?_
  intro o h
  exact keepsJob_pure h

theorem lawful_stepLan {o : NetworkOwner} (h : o.job = job) :
    OwnerLawful (fun r v' => r.1.job = job ∧ v' = v) (stepLan docs o now i) v := by
  unfold stepLan
  split
  · exact ⟨h, rfl⟩
  split
  · split
    · exact ⟨h, rfl⟩
    · refine lawful_quiet trivial ?_
      intro r
      dsimp only
      split
      · exact ⟨h, rfl⟩
      · refine KeepsJob.bind (keepsJob_runClient docs now i (o := withDhcp _ i _) h) ?_
        intro o h
        exact ⟨h, rfl⟩
  · refine KeepsJob.bind (keepsJob_runClient docs now i h) ?_
    intro o h
    exact ⟨h, rfl⟩

/-! ## The step -/

/-- The owner says whether a result is owed to it. -/
def KnowsJob (o : NetworkOwner) (v : OwnerView) : Prop := o.job = v.job

variable {o : NetworkOwner}

theorem lawful_reapJob (h : KnowsJob o v) (hjob : o.job = true) :
    OwnerLawful KnowsJob (reapJob o now) v := by
  refine lawful_poll (h ▸ hjob) h ?_
  intro r v' hr hnone
  rw [if_neg hr]
  dsimp only
  split
  · exact hnone.symm
  · exact hnone.symm

theorem lawful_watchJob (h : KnowsJob o v) (hjob : o.job = true) :
    OwnerLawful KnowsJob (watchJob o now) v := by
  unfold watchJob
  split
  · refine lawful_cancel (h ▸ hjob) ?_
    intro r
    split
    · exact h
    · exact lawful_reapJob now h hjob
  · exact lawful_reapJob now h hjob

theorem lawful_settle (eligible : Bool) (h : KnowsJob o v) :
    OwnerLawful KnowsJob (settle o now eligible) v := by
  unfold settle
  split
  next hjob => exact lawful_watchJob now h hjob
  next hjob =>
    have hsame : o.job = v.job := h
    have hnone : v.job = false := hsame ▸ Bool.eq_false_iff.2 hjob
    split
    · refine lawful_apply hnone ?_ ?_
      · intro r hr
        rw [if_pos hr]
        exact hsame
      · intro v' howed
        rw [if_neg (by simp)]
        exact howed.symm
    · split
      · exact h
      · exact h

theorem chooseTarget_job (o : NetworkOwner) (now : CoreTick) :
    (chooseTarget docs o now).1.job = o.job := by
  have hgive : ∀ (o : NetworkOwner) (i : Lan), (giveUpLease o now i).job = o.job := by
    intro o i
    unfold giveUpLease
    split <;> rfl
  unfold chooseTarget
  split
  · rfl
  · dsimp only
    split
    · exact (hgive _ 1).trans (hgive _ 0)
    · exact (hgive _ 1).trans (hgive _ 0)

theorem lawful_ownerObserved (h : KnowsJob o v) :
    OwnerLawful KnowsJob (ownerObserved docs o now) v := by
  unfold ownerObserved
  refine Prog.Lawful.bind (Prog.Lawful.mono (lawful_stepLan docs now 0 h) ?_)
  rintro ⟨o, first⟩ v' ⟨h, rfl⟩
  cases first with
  | none => exact h
  | some first =>
    refine Prog.Lawful.bind (Prog.Lawful.mono (lawful_stepLan docs now 1 h) ?_)
    rintro ⟨o, second⟩ v' ⟨h, rfl⟩
    cases second with
    | none => exact h
    | some second =>
      have hjob := chooseTarget_job docs o now
      dsimp only
      split
      next heq =>
        rw [heq] at hjob
        exact hjob.trans h
      next heq =>
        rw [heq] at hjob
        exact lawful_settle now _ (hjob.trans h)

theorem lawful_reapBlind (h : KnowsJob o v) (hjob : o.job = true) :
    OwnerLawful KnowsJob (reapBlind o) v := by
  refine lawful_poll (h ▸ hjob) h ?_
  intro r v' hr hnone
  rw [if_pos hr]
  exact hnone.symm

theorem lawful_ownerBlind (h : KnowsJob o v) : OwnerLawful KnowsJob (ownerBlind o) v := by
  unfold ownerBlind
  dsimp only
  split
  · exact h
  next hjob =>
    have hjob : o.job = true := by simpa using hjob
    split
    · refine lawful_cancel (h ▸ hjob) ?_
      intro r
      split
      · exact lawful_reapBlind h hjob
      · exact lawful_reapBlind h hjob
    · exact lawful_reapBlind h hjob

theorem expireLease_job (o : NetworkOwner) (now : CoreTick) (i : Lan) :
    (expireLease o now i).job = o.job := by
  unfold expireLease
  split <;> rfl

theorem lawful_ownerStep (h : KnowsJob o v) :
    OwnerLawful KnowsJob (ownerStep docs o now) v := by
  unfold ownerStep
  split
  · exact h
  · have hexpired : ∀ o : NetworkOwner, KnowsJob o v → KnowsJob (expireLease (expireLease o now 0) now 1) v := by
      intro o h
      exact (expireLease_job _ now 1).trans ((expireLease_job _ now 0).trans h)
    have h' := hexpired { o with ready := false, settled := false } h
    dsimp only
    split
    · refine lawful_quiet trivial ?_
      rintro ⟨r, observed⟩
      dsimp only
      split
      · exact lawful_ownerBlind h'
      · exact lawful_ownerObserved docs now h'
    · exact lawful_ownerObserved docs now h'

/-! ## A policy, and an end -/

variable (p : NetworkPolicy)

theorem keepsJob_leaveMode (i : Lan) (h : o.job = job) : KeepsJob job v (leaveMode o p i) := by
  unfold leaveMode
  split
  · exact keepsJob_closeLan i h
  · exact keepsJob_pure h

theorem lawful_adoptPolicy (now : CoreTick) (h : KnowsJob o v) :
    OwnerLawful (fun r => KnowsJob r.2) (adoptPolicy o p now) v := by
  refine KeepsJob.bind (keepsJob_leaveMode p 0 h) ?_
  intro o h
  refine KeepsJob.bind (keepsJob_leaveMode p 1 h) ?_
  intro o h
  exact h

theorem lawful_ownerPolicy (now : CoreTick) (h : KnowsJob o v) :
    OwnerLawful (fun r => KnowsJob r.2) (ownerPolicy o p now) v := by
  unfold ownerPolicy
  split
  · exact h
  split
  next hjob =>
    have hjob : o.job = true := (Bool.and_eq_true_iff.1 hjob).1
    refine lawful_cancel (h ▸ hjob) ?_
    intro r
    split
    · exact h
    · exact lawful_adoptPolicy p now h
  next => exact lawful_adoptPolicy p now h

theorem lawful_ownerStop (h : KnowsJob o v) : OwnerLawful KnowsJob (ownerStop o) v := by
  refine KeepsJob.bind (keepsJob_closeLan 0 h) ?_
  intro o h
  refine KeepsJob.bind (keepsJob_closeLan 1 h) ?_
  intro o h
  have h : KnowsJob o v := h
  dsimp only
  split
  next hjob =>
    have hjob : o.job = true := (Bool.and_eq_true_iff.1 hjob).1
    refine lawful_cancel (h ▸ hjob) ?_
    intro r
    split
    · exact h
    · exact h
  next => exact h

/-! ## The process -/

/-- The calls of the process besides those of its owner. -/
theorem lawful_service {call : ServiceCall} {f : call.Result → ServiceProg α}
    (hcall : ∀ call', call ≠ .owner call') (h : ∀ r, ProcessLawful post (f r) v) :
    ProcessLawful post (serviceCall call >>= f) v := by
  rintro r v' ⟨w, w', rfl, rfl, -, hstep⟩
  cases call with
  | owner call => exact absurd rfl (hcall call)
  | heartbeat =>
    cases r with
    | false =>
      cases hstep
      exact ⟨trivial, h _⟩
    | true =>
      obtain ⟨-, rfl⟩ := hstep
      exact ⟨trivial, h _⟩
  | stopping | wall | clock | foreignClient | profile | listener | wait | client | accept =>
    cases hstep
    exact ⟨trivial, h r⟩

theorem lawful_ownerProg {β : Type} {mid : β → OwnerView → Prop} {p : OwnerProg β} {f : β → ServiceProg α}
    (h : OwnerLawful mid p v) (hf : ∀ b v', mid b v' → ProcessLawful post (f b) v') :
    ProcessLawful post (ownerProg p >>= f) v :=
  Prog.Lawful.bind (Prog.Lawful.embed (Prog.Lawful.mono h hf))

/-- A turn that goes on does so with an owner that knows its job. -/
def TurnKnowsJob (turn : LoopTurn OwnerProcess) (v : OwnerView) : Prop :=
  ∀ s, turn = .again s → KnowsJob s.owner v

theorem turnKnowsJob_exit {status : Nat} : TurnKnowsJob (.exit status) v := by
  intro s heq
  cases heq

theorem turnKnowsJob_again {s : OwnerProcess} (h : KnowsJob s.owner v) : TurnKnowsJob (.again s) v := by
  rintro s' heq
  cases heq
  exact h

theorem lawful_adoptProfile (candidate : Bool) (now : CoreTick) (h : KnowsJob o v) :
    ProcessLawful (fun r => KnowsJob r.2) (adoptProfile o candidate now) v := by
  refine lawful_service nofun ?_
  intro profile
  cases profile with
  | none => exact h
  | some p => exact lawful_ownerProg (lawful_ownerPolicy p now h) fun _ _ h => h

variable {s : OwnerProcess}

theorem lawful_dropClient (h : KnowsJob s.owner v) :
    ProcessLawful TurnKnowsJob (dropClient s now) v := by
  refine Prog.Lawful.bind (Prog.Lawful.mono (lawful_adoptProfile false now h) ?_)
  rintro ⟨adopted, o⟩ v' h
  cases adopted with
  | false => exact turnKnowsJob_exit
  | true => exact turnKnowsJob_again h

theorem lawful_serveClient (h : KnowsJob s.owner v) :
    ProcessLawful TurnKnowsJob (serveClient s now) v := by
  unfold serveClient
  split
  · exact turnKnowsJob_again h
  · refine lawful_service nofun ?_
    intro event
    cases event with
    | quiet => exact turnKnowsJob_again h
    | lost => exact lawful_dropClient now h
    | command code request =>
      dsimp only
      split
      · refine Prog.Lawful.bind (Prog.Lawful.mono (lawful_adoptProfile _ now h) ?_)
        rintro ⟨adopted, o⟩ v' h
        exact turnKnowsJob_again h
      · split
        · exact lawful_dropClient now h
        · exact turnKnowsJob_again h

theorem lawful_acceptPeer (h : KnowsJob s.owner v) :
    ProcessLawful (fun s => KnowsJob s.owner) (acceptPeer s) v := by
  refine lawful_service nofun ?_
  intro peer
  cases peer with
  | none | query | refused => exact h
  | begin request =>
    dsimp only
    split
    · exact h
    · exact h

theorem lawful_checkOwnership (clientOps : Bool) (wall : CoreTick) (h : KnowsJob s.owner v) :
    ProcessLawful (fun s => KnowsJob s.owner) (checkOwnership clientOps s wall) v := by
  unfold checkOwnership
  split
  · refine lawful_service nofun ?_
    intro foreign
    cases foreign with
    | false => exact h
    | true => exact lawful_ownerProg (lawful_ownerStop h) fun _ _ h => h
  · exact h

theorem lawful_runOwnerStep (h : KnowsJob s.owner v) :
    ProcessLawful TurnKnowsJob (runOwnerStep docs s now) v := by
  refine lawful_ownerProg (lawful_ownerStep docs now h) ?_
  intro o v' h
  refine lawful_service nofun ?_
  intro polled
  cases polled with
  | false => exact turnKnowsJob_exit
  | true =>
    refine Prog.Lawful.bind (Prog.Lawful.mono (lawful_serveClient (s := { s with owner := o }) now h) ?_)
    intro turn v' hturn
    cases turn with
    | exit status => exact turnKnowsJob_exit
    | again s =>
      refine Prog.Lawful.bind (Prog.Lawful.mono (lawful_acceptPeer (hturn s rfl)) ?_)
      intro s v' h
      exact turnKnowsJob_again h

theorem lawful_ownerTurn (clientOps : Bool) (h : KnowsJob s.owner v) :
    ProcessLawful TurnKnowsJob (ownerTurn docs clientOps s) v := by
  have hrest : ∀ (s : OwnerProcess) (wall now : CoreTick), KnowsJob s.owner v → ProcessLawful TurnKnowsJob
      (checkOwnership clientOps s wall >>= fun s => runOwnerStep docs s now) v := by
    intro s wall now h
    refine Prog.Lawful.bind (Prog.Lawful.mono (lawful_checkOwnership clientOps wall h) ?_)
    intro s v' h
    exact lawful_runOwnerStep docs now h
  refine lawful_service nofun ?_
  intro wall
  refine lawful_service nofun ?_
  intro now
  refine lawful_service nofun ?_
  intro stopping
  cases stopping with
  | true => exact turnKnowsJob_exit
  | false =>
    rw [if_neg Bool.false_ne_true]
    split
    · refine lawful_service nofun ?_
      intro sent
      cases sent with
      | false => exact turnKnowsJob_exit
      | true => exact hrest { s with heartbeat := wall + 250 } wall now h
    · exact hrest s wall now h

/-- A new process owes no job, and its view is that of a new channel. -/
theorem lawful_startProcess (seed : BitVec 32) (bootstrap : Bool) :
    ProcessLawful TurnKnowsJob (startProcess seed bootstrap) {} := by
  have hinit : KnowsJob (ownerInit seed) {} := rfl
  have hlisten : ∀ (o : NetworkOwner) (v : OwnerView), KnowsJob o v → ProcessLawful TurnKnowsJob
      (serviceCall .listener >>= fun listens =>
        if listens then serviceCall .wall >>= fun wall => pure (.again { owner := o, heartbeat := wall })
        else pure (.exit 3)) v := by
    intro o v h
    refine lawful_service nofun ?_
    intro listens
    cases listens with
    | false => exact turnKnowsJob_exit
    | true =>
      refine lawful_service nofun ?_
      intro wall
      exact turnKnowsJob_again h
  unfold startProcess
  cases bootstrap with
  | false => exact hlisten _ _ hinit
  | true =>
    refine lawful_service nofun ?_
    intro wall
    refine lawful_service nofun ?_
    intro now
    refine Prog.Lawful.bind (Prog.Lawful.mono (lawful_adoptProfile false now hinit) ?_)
    rintro ⟨adopted, o⟩ v' h
    cases adopted with
    | false => exact turnKnowsJob_exit
    | true => exact hlisten o v' h

end FourVrs.Network
