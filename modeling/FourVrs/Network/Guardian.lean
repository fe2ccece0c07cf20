import FourVrs.Network.OwnerJobs

/-!
# The guardian obeys its law, and what that gives

`Guards` is what the variables of the guardian say of its children and its channel; it
holds between any two parts of a turn. With the owner's discipline it gives the protocol:
one writer at a time, one answer to every apply, no cancel that hits another job, and an
owner started again only after a recovery that has written the confirmed profile.
-/

set_option autoImplicit false

namespace FourVrs.Network

open FourVrs.Core Lib
open Function (update update_of_ne update_self)

/-- What the guardian sees of its calls. -/
abbrev guardianSees : Prog.World GuardianCall GuardianCall.Result GuardianView :=
  Prog.seen ChannelsAgree ServiceWorld.guardian guardianSide

abbrev GuardianLawful {α : Type} (post : α → GuardianView → Prop) (p : GuardianProg α) (v : GuardianView) :
    Prop :=
  Prog.Lawful guardianSees guardianLaw post p v

/-- Every apply taken has been answered, but for that of the job. -/
def Counted (v : GuardianView) : Option Nat → Prop
  | none => v.taken = v.answers.length
  | some child => v.taken = v.answers.length + 1 ∧
      ∃ target resolver, v.children child = some (.writer v.answers.length target resolver)

/-- The first owner, or one after a recovery. -/
def Startable (bootstrap : Bool) (v : GuardianView) : Prop :=
  v.started = false ∧ bootstrap = false ∨ v.reaped = some (.recovery, .exited 0) ∧ bootstrap = true

/-- The guardian knows its children, and how it stands with its owner. -/
structure Guards (g : Guardian) (v : GuardianView) : Prop where
  owner : ∀ child, g.owner = some child → v.children child = some .owner
  job : ∀ child, g.job = some child → ∃ kind, v.children child = some kind ∧ kind.Writes
  children : ∀ child, v.children child ≠ none → g.owner = some child ∨ g.job = some child
  fd : g.fd = g.owner.isSome
  counted : g.stopped = false → g.owner ≠ none → Counted v g.job
  recovering : g.recovering = true → g.owner = none ∧ g.stopped = false ∧
    ∃ child, g.job = some child ∧ v.children child = some .recovery
  left : g.owner = none → g.job ≠ none → g.recovering = false → g.stopped = true
  started : g.owner ≠ none ∨ g.stopped = true → v.started = true
  start : g.alone = true → g.stopped = false → Startable g.bootstrap v

theorem alone_iff {g : Guardian} :
    g.alone = true ↔ g.owner = none ∧ g.job = none ∧ g.recovering = false := by
  simp [Guardian.alone, and_assoc]

variable {g : Guardian} {v : GuardianView} {α : Type} {post : α → GuardianView → Prop}

theorem Guards.none_left (h : Guards g v) (halone : g.alone = true) (child : Nat) : v.children child = none := by
  obtain ⟨howner, hjob, -⟩ := alone_iff.1 halone
  by_contra hchild
  rcases h.children child hchild with heq | heq
  · rw [howner] at heq
    cases heq
  · rw [hjob] at heq
    cases heq

theorem Guards.idle (h : Guards g v) (hjob : g.job = none) : v.idle := by
  intro child kind hchild
  rcases h.children child (by simp [hchild]) with heq | heq
  · rw [h.owner child heq] at hchild
    exact (Option.some.inj hchild).symm
  · rw [hjob] at heq
    cases heq

/-- A signal to a child changes nothing the guardian relies on. -/
theorem Guards.kill (h : Guards g v) (killed : Nat → Bool) : Guards g { v with killed := killed } :=
  { h with }

theorem Guards.stop (h : Guards g v) (howner : g.owner ≠ none) : Guards { g with stopped := true } v where
  owner := h.owner
  job := h.job
  children := h.children
  fd := h.fd
  counted := nofun
  recovering := fun hrecovering => absurd (h.recovering hrecovering).1 howner
  left := fun hnone => absurd hnone howner
  started := fun _ => h.started (.inl howner)
  start := fun halone => absurd (alone_iff.1 halone).1 howner

/-! ## Calls -/

theorem lawful_same {call : GuardianCall} {f : call.Result → GuardianProg α}
    (hcall : match call with | .now | .stopping | .openPair | .poll => True | _ => False)
    (h : ∀ r, GuardianLawful post (f r) v) : GuardianLawful post (guardianCall call >>= f) v := by
  rintro r v' ⟨w, w', rfl, rfl, -, hstep⟩
  cases call with
  | now | stopping | openPair | poll =>
    cases hstep
    exact ⟨trivial, h r⟩
  | forkOwner | receive | forkWriter | kill | wait | answer | close => exact hcall.elim

theorem lawful_kill {child : Nat} {reason : KillReason} {f : Unit → GuardianProg α}
    (hlaw : guardianLaw (.kill child reason) () v)
    (h : ∀ killed : Nat → Bool, (∀ c, v.killed c = true → killed c = true) → killed child = true →
      GuardianLawful post (f ()) { v with killed := killed }) :
    GuardianLawful post (guardianCall (.kill child reason) >>= f) v := by
  rintro r v' ⟨w, w', rfl, rfl, -, hstep⟩
  cases hstep
  refine ⟨hlaw, h _ ?_ (update_self ..)⟩
  intro c hc
  by_cases hne : c = child
  · rw [hne, update_self]
  · rw [update_of_ne hne, hc]

/-- The job, if there is one, is killed. -/
theorem lawful_killJob {reason : KillReason} {f : Unit → GuardianProg α}
    (hlaw : ∀ child, g.job = some child → guardianLaw (.kill child reason) () v)
    (h : ∀ killed : Nat → Bool, (∀ c, v.killed c = true → killed c = true) →
      GuardianLawful post (f ()) { v with killed := killed }) :
    GuardianLawful post (killJob g reason >>= f) v := by
  unfold killJob
  cases hjob : g.job with
  | none => exact h v.killed fun _ hc => hc
  | some child => exact lawful_kill (hlaw child hjob) fun killed hold _ => h killed hold

variable (now : CoreTick) {f : Guardian → GuardianProg α}

theorem lawful_readStopping (h : ∀ stopping, GuardianLawful post (f { g with stopping := stopping }) v) :
    GuardianLawful post (readStopping g >>= f) v :=
  lawful_same trivial fun _ => h _

theorem lawful_fork {writer : Writer} {f : Option Nat → GuardianProg α}
    (hlaw : ∀ r, guardianLaw (.forkWriter writer) r v) (hfails : GuardianLawful post (f none) v)
    (h : ∀ child, v.children child = none →
      GuardianLawful post (f (some child)) (v.fork child (childOf v writer))) :
    GuardianLawful post (guardianCall (.forkWriter writer) >>= f) v := by
  rintro r v' ⟨w, w', rfl, rfl, -, hstep⟩
  refine ⟨hlaw r, ?_⟩
  cases r with
  | none =>
    cases hstep
    exact hfails
  | some child =>
    obtain ⟨hfree, rfl⟩ := hstep
    exact h child hfree

theorem lawful_wait {child : Nat} {f : Option ExitStatus → GuardianProg α}
    (hruns : GuardianLawful post (f none) { v with looked := update v.looked child v.turns })
    (h : ∀ kind status, v.children child = some kind →
      GuardianLawful post (f (some status)) (v.reap child kind status)) :
    GuardianLawful post (guardianCall (.wait child) >>= f) v := by
  rintro r v' ⟨w, w', rfl, rfl, -, hstep⟩
  refine ⟨trivial, ?_⟩
  cases r with
  | none =>
    obtain ⟨-, rfl⟩ := hstep
    exact hruns
  | some status =>
    obtain ⟨kind, turn, hchild, -, rfl⟩ := hstep
    exact h kind status hchild

/-! ## The parts of a turn -/

/-- What holds of a turn that goes on. -/
def Goes (post : Guardian → GuardianView → Prop) (turn : LoopTurn Guardian) (v : GuardianView) : Prop :=
  ∀ g, turn = .again g → post g v

variable {mid last : Guardian → GuardianView → Prop}

theorem goes_exit {status : Nat} : Goes mid (.exit status) v := by
  intro g heq
  cases heq

theorem goes_again (h : mid g v) : Goes mid (.again g) v := by
  rintro g' heq
  cases heq
  exact h

theorem lawful_andThen {p : GuardianProg (LoopTurn Guardian)} {f : Guardian → GuardianProg (LoopTurn Guardian)}
    (h : GuardianLawful (Goes mid) p v) (hf : ∀ g v, mid g v → GuardianLawful (Goes last) (f g) v) :
    GuardianLawful (Goes last) (LoopTurn.andThen p f) v := by
  refine Prog.Lawful.bind (Prog.Lawful.mono h ?_)
  intro turn v' hturn
  cases turn with
  | exit status => exact goes_exit
  | again g => exact hf g v' (hturn g rfl)

theorem lawful_startOwner (h : Guards g v) (hwaits : g.alone = true → g.stopped = false) :
    GuardianLawful (Goes Guards) (startOwner g now) v := by
  unfold startOwner
  split
  next halone =>
    refine lawful_readStopping ?_
    intro stopping
    split
    · exact goes_again { h with }
    · refine lawful_same trivial ?_
      intro opened
      cases opened with
      | false => exact goes_exit
      | true =>
        rintro r v' ⟨w, w', rfl, rfl, -, hstep⟩
        refine ⟨⟨h.none_left halone, h.start halone (hwaits halone)⟩, ?_⟩
        cases r with
        | none => exact goes_exit
        | some child =>
          obtain ⟨hfree, rfl⟩ := hstep
          obtain ⟨-, hjob, hrecovering⟩ := alone_iff.1 halone
          refine goes_again ⟨?_, ?_, ?_, rfl, ?_, ?_, nofun, fun _ => rfl, ?_⟩
          · intro c hc
            cases hc
            exact update_self ..
          · intro c hc
            rw [hjob] at hc
            cases hc
          · intro c hc
            by_cases hne : c = child
            · exact .inl (congrArg some hne.symm)
            · have hold : w.guardian.children c ≠ none := by
                simpa [ServiceWorld.forkOwner, update_of_ne hne] using hc
              exact absurd (h.none_left halone c) hold
          · intro _ _
            show Counted _ g.job
            rw [hjob]
            rfl
          · intro hyes
            rw [hrecovering] at hyes
            cases hyes
          · intro halone'
            exact absurd (alone_iff.1 halone').1 (by simp)
  next => exact goes_again h

theorem lawful_pollOwner {f : Guardian × PollEvents → GuardianProg α} (h : Guards g v)
    (hf : ∀ g events, Guards g v → GuardianLawful post (f (g, events)) v) :
    GuardianLawful post (pollOwner g >>= f) v := by
  refine lawful_same trivial ?_
  intro events
  exact hf _ _ { h with }

theorem lawful_stopOwner (hangup : Bool) (h : Guards g v)
    (hf : ∀ g v, Guards g v → GuardianLawful post (f g) v) :
    GuardianLawful post (stopOwner g now hangup >>= f) v := by
  unfold stopOwner
  cases howner : g.owner with
  | none => exact hf g v h
  | some child =>
    dsimp only
    split
    · exact hf g v h
    · refine Prog.Lawful.bind ?_
      refine lawful_readStopping ?_
      intro stopping
      have hread : Guards { g with stopping := stopping } v := { h with }
      split
      · refine lawful_kill trivial ?_
        intro killed _ _
        refine lawful_killJob (fun _ _ => trivial) ?_
        intro killed' _
        exact hf _ _ ((hread.kill killed').stop (by simp [howner]))
      · exact hf _ _ hread

/-- A cancel is for the job there is. -/
theorem Guards.cancels (h : Guards g v) (hfd : g.fd = true) (hstopped : g.stopped = false) {number child : Nat}
    (hnumber : number + 1 = v.taken) (hjob : g.job = some child) :
    ∃ target resolver, v.children child = some (.writer number target resolver) := by
  have howner : g.owner ≠ none := by
    rw [h.fd] at hfd
    intro hnone
    simp [hnone] at hfd
  have hcounted := h.counted hstopped howner
  rw [hjob] at hcounted
  obtain ⟨htaken, target, resolver, hchild⟩ := hcounted
  have heq : number = v.answers.length := by omega
  rw [heq]
  exact ⟨target, resolver, hchild⟩

/-- An apply is received when all before it have been answered. -/
theorem ChannelsAgree.first {w : ServiceWorld} {number : Nat} {target : NetworkObservation} {resolver : CText}
    {rest : List (Nat × Order)} (h : ChannelsAgree w)
    (hup : w.up = (number, .apply target resolver) :: rest) :
    number = w.guardian.taken ∧ w.guardian.taken ≤ w.guardian.answers.length := by
  have hpending := h.up
  rw [hup] at hpending
  obtain ⟨rfl, hrest⟩ := hpending
  have hle := hrest.le
  have howed := h.owed
  have hpolled := h.polled
  exact ⟨rfl, by omega⟩

/-- The job of the apply just taken. -/
theorem Guards.forkJob (h : Guards g v) (hfd : g.fd = true)
    (hjob : g.job = none) {number child : Nat} (target : NetworkObservation) (resolver : CText)
    (hfree : v.children child = none) (hnumber : number = v.answers.length) (deadline : CoreTick) :
    Guards { g with job := some child, deadline := deadline }
      ({ v.take number (.apply target resolver) with taken := number + 1 }.fork child
        (.writer number target resolver)) := by
  have howner : g.owner ≠ none := by
    rw [h.fd] at hfd
    intro hnone
    simp [hnone] at hfd
  refine ⟨?_, ?_, ?_, h.fd, ?_, ?_, ?_, ?_, ?_⟩
  · intro c hc
    have hchild := h.owner c hc
    have hne : c ≠ child := by
      rintro rfl
      rw [hfree] at hchild
      cases hchild
    exact (update_of_ne hne ..).trans hchild
  · intro c hc
    cases hc
    exact ⟨_, update_self .., trivial⟩
  · intro c hc
    by_cases hne : c = child
    · exact .inr (congrArg some hne.symm)
    · have hold : v.children c ≠ none := by
        simpa [GuardianView.take, update_of_ne hne] using hc
      rcases h.children c hold with heq | heq
      · exact .inl heq
      · rw [hjob] at heq
        cases heq
  · intro _ _
    subst hnumber
    exact ⟨rfl, target, resolver, update_self ..⟩
  · intro hrecovering
    exact absurd (h.recovering hrecovering).1 howner
  · intro hnone
    exact absurd hnone howner
  · intro _
    exact h.started (.inl howner)
  · intro halone
    exact absurd (alone_iff.1 halone).1 howner

theorem lawful_takeOrder (readable : Bool) (h : Guards g v) :
    GuardianLawful (Goes Guards) (takeOrder g now readable) v := by
  unfold takeOrder
  split
  next hopen =>
    simp only [Bool.and_eq_true, Bool.not_eq_true'] at hopen
    obtain ⟨⟨hfd, -⟩, hstopped⟩ := hopen
    rintro r v' ⟨w, w', rfl, rfl, hagree, hstep⟩
    cases r with
    | none =>
      cases hstep
      exact ⟨trivial, goes_again h⟩
    | some order =>
      obtain ⟨number, rest, hup, rfl⟩ := hstep
      cases order with
      | heartbeat => exact ⟨trivial, goes_again { h with }⟩
      | cancel =>
        have hpending := hagree.up
        rw [hup] at hpending
        have htaken : Guards g (w.guardian.take number .cancel) := { h with }
        refine ⟨trivial, lawful_killJob ?_ ?_⟩
        · intro child hjob
          obtain ⟨target, resolver, hchild⟩ := h.cancels hfd hstopped hpending.1 hjob
          exact ⟨number, target, resolver, rfl, hchild⟩
        · intro killed _
          exact goes_again (htaken.kill killed)
      | apply target resolver =>
        obtain ⟨hnumber, hle⟩ := hagree.first hup
        have howner : g.owner ≠ none := by
          rw [h.fd] at hfd
          intro hnone
          simp [hnone] at hfd
        have hcounted := h.counted hstopped howner
        cases hjob : g.job with
        | some child =>
          rw [hjob] at hcounted
          obtain ⟨htaken, -⟩ := hcounted
          omega
        | none =>
          rw [hjob] at hcounted
          have htaken : w.guardian.taken = w.guardian.answers.length := hcounted
          refine ⟨h.idle hjob, lawful_fork ?_ goes_exit ?_⟩
          · intro _
            exact ⟨h.idle hjob, number, rfl, congrArg (· + 1) hnumber.symm⟩
          · intro child hfree
            have hguards := h.forkJob hfd hjob target resolver hfree (hnumber.trans htaken) (now + 1000)
            subst hnumber
            exact goes_again hguards
  next => exact goes_again h

/-- The job has been looked at in this turn. -/
structure Watches (g : Guardian) (v : GuardianView) : Prop extends Guards g v where
  looked : ∀ child, g.job = some child → v.looked child = v.turns

/-- A child is reaped that was the job: `stopped` and the answers follow. -/
theorem Guards.jobGone {child : Nat} {g' : Guardian} {v' : GuardianView} (h : Guards g v)
    (hjob : g.job = some child) (hchildren : v'.children = update v.children child none)
    (hstarted : v'.started = v.started)
    (howner : g'.owner = g.owner) (hnone : g'.job = none) (hfd : g'.fd = g.fd)
    (hrecovering : g'.recovering = false)
    (hcounted : g'.stopped = false → g.owner ≠ none → v'.taken = v'.answers.length)
    (hstopped : g'.stopped = true → g.stopped = true ∨ g.owner ≠ none)
    (hstart : g.owner = none → g'.stopped = false → Startable g'.bootstrap v') : Guards g' v' := by
  refine ⟨?_, ?_, ?_, ?_, ?_, ?_, ?_, ?_, ?_⟩
  · intro c hc
    rw [howner] at hc
    have hchild := h.owner c hc
    have hne : c ≠ child := by
      rintro rfl
      obtain ⟨kind', hkind, hwrites⟩ := h.job c hjob
      rw [hchild] at hkind
      cases hkind
      exact hwrites
    rw [hchildren, update_of_ne hne]
    exact hchild
  · intro c hc
    rw [hnone] at hc
    cases hc
  · intro c hc
    have hne : c ≠ child := by
      rintro rfl
      rw [hchildren, update_self] at hc
      exact hc rfl
    rw [hchildren, update_of_ne hne] at hc
    rcases h.children c hc with heq | heq
    · exact .inl (howner.trans heq)
    · rw [hjob] at heq
      exact absurd (Option.some.inj heq).symm hne
  · rw [hfd, howner]
    exact h.fd
  · intro hno hsome
    rw [hnone]
    exact hcounted hno (howner ▸ hsome)
  · intro hyes
    rw [hrecovering] at hyes
    cases hyes
  · intro _ hsome
    exact absurd hnone hsome
  · intro hwas
    rw [hstarted]
    rw [howner] at hwas
    rcases hwas with hsome | hyes
    · exact h.started (.inl hsome)
    · rcases hstopped hyes with hyes | hsome
      · exact h.started (.inr hyes)
      · exact h.started (.inl hsome)
  · intro halone hno
    exact hstart (howner ▸ (alone_iff.1 halone).1) hno

theorem lawful_jobEnded {child : Nat} {kind : Child} {status : ExitStatus} (h : Guards g v)
    (hjob : g.job = some child) (hkind : v.children child = some kind) :
    GuardianLawful (Goes Watches) (jobEnded g status) (v.reap child kind status) := by
  unfold jobEnded
  dsimp only
  split
  next hrecovering =>
    obtain ⟨-, hstopped, child', hjob', hrecovery⟩ := h.recovering hrecovering
    have hsame : child = child' := Option.some.inj (hjob.symm.trans hjob')
    have hkind' : kind = .recovery := by
      rw [← hsame, hkind] at hrecovery
      exact Option.some.inj hrecovery
    split
    next hstatus =>
      -- the confirmed profile has been written
      subst hkind' hstatus
      refine goes_again ⟨h.jobGone hjob rfl rfl rfl rfl rfl rfl ?_ .inl ?_, nofun⟩
      · intro _ howner
        exact absurd (h.recovering hrecovering).1 howner
      · intro _ _
        exact .inr ⟨rfl, rfl⟩
    next => exact goes_exit
  next hrecovering =>
    have hrecovering : g.recovering = false := Bool.eq_false_iff.2 hrecovering
    split
    next hopen =>
      simp only [Bool.and_eq_true, Bool.not_eq_true'] at hopen
      obtain ⟨hfd, hstopped⟩ := hopen
      have howner : g.owner ≠ none := by
        rw [h.fd] at hfd
        intro hnone
        simp [hnone] at hfd
      have hcounted := h.counted hstopped howner
      rw [hjob] at hcounted
      obtain ⟨htaken, target, resolver, hchild⟩ := hcounted
      rw [hkind] at hchild
      cases hchild
      rintro sent v' ⟨w, w', hw, rfl, -, hstep⟩
      refine ⟨⟨target, resolver, status, rfl, rfl⟩, ?_⟩
      cases sent with
      | false =>
        cases hstep
        rw [hw]
        refine goes_again ⟨h.jobGone hjob rfl rfl rfl rfl rfl hrecovering nofun ?_ ?_, nofun⟩
        · intro _
          exact .inr howner
        · intro hnone
          exact absurd hnone howner
      | true =>
        cases hstep
        rw [hw]
        refine goes_again ⟨h.jobGone hjob rfl rfl rfl rfl rfl hrecovering ?_ .inl ?_, nofun⟩
        · intro _ _
          show v.taken = (v.answers ++ [_]).length
          rw [htaken, List.length_append]
          rfl
        · intro hnone
          exact absurd hnone howner
    next hclosed =>
      refine goes_again ⟨h.jobGone hjob rfl rfl rfl rfl rfl hrecovering ?_ .inl ?_, nofun⟩
      · intro hstopped howner
        have hstopped : g.stopped = false := hstopped
        have hfd : g.fd = true := by
          rw [h.fd]
          exact Option.isSome_iff_ne_none.2 howner
        exact absurd (by simp [hfd, hstopped]) hclosed
      · intro hnone hstopped
        have hstopped : g.stopped = false := hstopped
        have hleft := h.left hnone (by simp [hjob]) hrecovering
        rw [hleft] at hstopped
        cases hstopped

theorem lawful_watchChild (h : Guards g v) :
    GuardianLawful (Goes Watches) (watchChild g now) v := by
  unfold watchChild
  cases hjob : g.job with
  | none =>
    refine goes_again ⟨h, ?_⟩
    intro child heq
    rw [hjob] at heq
    cases heq
  | some child =>
    have hlooks : ∀ v, Guards g v → ∀ rest, rest none = pure (.again g) →
        (∀ status, rest (some status) = jobEnded g status) →
        GuardianLawful (Goes Watches) (guardianCall (.wait child) >>= rest) v := by
      intro v h rest hnone hended
      refine lawful_wait ?_ ?_
      · rw [hnone]
        refine goes_again ⟨{ h with }, ?_⟩
        intro c hc
        rw [hjob] at hc
        cases hc
        exact update_self ..
      · intro kind status hkind
        rw [hended]
        exact lawful_jobEnded h hjob hkind
    dsimp only
    split
    · refine lawful_kill trivial ?_
      intro killed _ _
      exact hlooks _ (h.kill killed) _ rfl fun _ => rfl
    · exact hlooks v h _ rfl fun _ => rfl

/-- An owner to be stopped has been killed. -/
structure Stops (g : Guardian) (v : GuardianView) : Prop extends Watches g v where
  killed : g.stopped = true → ∀ child, g.owner = some child → v.killed child = true

theorem lawful_killStopped {f : Unit → GuardianProg α} (h : Watches g v)
    (hf : ∀ v, Stops g v → GuardianLawful post (f ()) v) : GuardianLawful post (killStopped g >>= f) v := by
  unfold killStopped
  cases howner : g.owner with
  | none =>
    refine hf v ⟨h, ?_⟩
    intro _ child heq
    rw [howner] at heq
    cases heq
  | some child =>
    dsimp only
    split
    · refine Prog.Lawful.bind ?_
      refine lawful_kill trivial ?_
      intro killed _ hkilled
      have hmore : ∀ killed' : Nat → Bool, (∀ c, killed c = true → killed' c = true) →
          GuardianLawful post (f ()) { v with killed := killed' } := by
        intro killed' hold
        refine hf _ ⟨⟨h.toGuards.kill killed', h.looked⟩, ?_⟩
        intro _ c heq
        rw [howner] at heq
        cases heq
        exact hold child hkilled
      unfold killJob
      cases g.job with
      | none => exact hmore killed fun _ hc => hc
      | some job => exact lawful_kill (f := pure) trivial fun killed' hold _ => hmore killed' hold
    next hrunning =>
      refine hf v ⟨h, ?_⟩
      intro hstopped
      exact absurd hstopped hrunning

theorem lawful_reapOwner (h : Stops g v) (hf : ∀ g v, Stops g v → GuardianLawful post (f g) v) :
    GuardianLawful post (reapOwner g >>= f) v := by
  unfold reapOwner
  cases howner : g.owner with
  | none => exact hf g v h
  | some child =>
    refine Prog.Lawful.bind ?_
    refine lawful_wait ?_ ?_
    · refine hf g _ ⟨⟨{ h with }, ?_⟩, h.killed⟩
      intro c hc
      by_cases hne : c = child
      · rw [hne]
        exact update_self ..
      · exact (update_of_ne hne ..).trans (h.looked c hc)
    · intro kind status hkind
      have hgone : ∀ v', v'.children = (v.reap child kind status).children → v'.looked = v.looked →
          v'.turns = v.turns → v'.started = v.started →
          Stops { g with owner := none, stopped := true, fd := false } v' := by
        intro v' hchildren hlooked hturns hstarted
        refine ⟨⟨⟨nofun, ?_, ?_, rfl, nofun, ?_, fun _ _ _ => rfl, ?_, nofun⟩, ?_⟩, nofun⟩
        · intro c hc
          obtain ⟨kind', hkind', hwrites⟩ := h.job c hc
          have hne : c ≠ child := by
            rintro rfl
            rw [h.owner c howner] at hkind'
            cases hkind'
            exact hwrites
          refine ⟨kind', ?_, hwrites⟩
          rw [hchildren, GuardianView.reap_children, update_of_ne hne]
          exact hkind'
        · intro c hc
          have hne : c ≠ child := by
            rintro rfl
            rw [hchildren, GuardianView.reap_children, update_self] at hc
            exact hc rfl
          rw [hchildren, GuardianView.reap_children, update_of_ne hne] at hc
          rcases h.children c hc with heq | heq
          · rw [howner] at heq
            exact absurd (Option.some.inj heq).symm hne
          · exact .inr heq
        · intro hrecovering
          have hnone := (h.recovering hrecovering).1
          rw [howner] at hnone
          cases hnone
        · intro _
          rw [hstarted]
          exact h.started (.inl (by simp [howner]))
        · intro c hc
          rw [hlooked, hturns]
          exact h.looked c hc
      have hrest : ∀ v', Stops { g with owner := none, stopped := true, fd := false } v' →
          GuardianLawful (fun g v => GuardianLawful post (f g) v)
            (killJob { g with owner := none, stopped := true, fd := false } .ownerStopped >>= fun _ =>
              pure { g with owner := none, stopped := true, fd := false }) v' := by
        intro v' hv'
        refine lawful_killJob (fun _ _ => trivial) ?_
        intro killed _
        exact hf _ _ ⟨⟨hv'.toGuards.kill killed, hv'.looked⟩, nofun⟩
      dsimp only
      split
      · rintro r v' ⟨w, w', hw, rfl, -, hstep⟩
        cases hstep
        refine ⟨trivial, hrest _ (hgone _ ?_ ?_ ?_ ?_)⟩ <;> simp [hw, GuardianView.reap]
      · exact hrest _ (hgone _ rfl rfl rfl rfl)

/-- The end of a turn: a recovery has been started if nothing is left to wait for. -/
structure TurnEnds (g : Guardian) (v : GuardianView) : Prop extends Stops g v where
  waits : g.alone = true → g.stopped = false

theorem lawful_startRecovery (h : Stops g v) :
    GuardianLawful (Goes TurnEnds) (startRecovery g now) v := by
  unfold startRecovery
  split
  next hleft =>
    obtain ⟨hstopped, halone⟩ := Bool.and_eq_true_iff.1 hleft
    obtain ⟨howner, hjob, -⟩ := alone_iff.1 halone
    have hnone := h.none_left halone
    have hstarted := h.started (.inr hstopped)
    refine lawful_fork (fun _ => ⟨hnone, hstarted⟩) goes_exit ?_
    intro child hfree
    refine goes_again ⟨⟨⟨⟨?_, ?_, ?_, h.fd, ?_, ?_, ?_, fun _ => hstarted, ?_⟩, ?_⟩, nofun⟩, fun _ => rfl⟩
    · intro c hc
      rw [howner] at hc
      cases hc
    · intro c hc
      cases hc
      exact ⟨.recovery, update_self .., trivial⟩
    · intro c hc
      by_cases hne : c = child
      · exact .inr (congrArg some hne.symm)
      · have hold : v.children c ≠ none := by simpa [update_of_ne hne] using hc
        exact absurd (hnone c) hold
    · intro _ hsome
      exact absurd howner hsome
    · intro _
      exact ⟨howner, rfl, child, rfl, update_self ..⟩
    · intro _ _ hno
      cases hno
    · intro halone'
      exact absurd (alone_iff.1 halone').2.1 (by simp)
    · intro c hc
      cases hc
      exact update_self ..
  next hwaits =>
    refine goes_again ⟨h, ?_⟩
    intro halone
    simpa [halone] using hwaits

theorem lawful_finishTurn (h : TurnEnds g v) : GuardianLawful (Goes TurnEnds) (finishTurn g) v := by
  refine lawful_readStopping ?_
  intro stopping
  dsimp only
  split
  · exact goes_exit
  · exact goes_again ⟨⟨⟨{ h with }, h.looked⟩, h.killed⟩, h.waits⟩

theorem lawful_watchChildren (h : Guards g v) :
    GuardianLawful (Goes TurnEnds) (watchChildren g now) v := by
  refine lawful_andThen (lawful_watchChild now h) ?_
  intro g v h
  refine lawful_killStopped h ?_
  intro v h
  refine lawful_reapOwner h ?_
  intro g v h
  refine lawful_andThen (lawful_startRecovery now h) ?_
  intro g v h
  exact lawful_finishTurn h

/-- A turn of the guardian. -/
theorem lawful_guardianTurn (h : Guards g v) (hwaits : g.alone = true → g.stopped = false) :
    GuardianLawful (Goes TurnEnds) (guardianTurn g) v := by
  refine lawful_same trivial ?_
  intro now
  refine lawful_andThen (lawful_startOwner now h hwaits) ?_
  intro g v h
  refine lawful_pollOwner h ?_
  intro g events h
  refine lawful_stopOwner now events.hangup h ?_
  intro g v h
  refine lawful_andThen (lawful_takeOrder now events.readable h) ?_
  intro g v h
  exact lawful_watchChildren now h

theorem guards_start : Guards {} {} := by
  constructor <;> simp [Startable]

end FourVrs.Network
