import FourVrs.Network.Guardian

/-!
# The service over whole runs

Both loops obey their laws in every turn, so they do in every reachable state, whatever
the jobs, the signals and the failures of either process do in between.

A step is one call of either process with any result the other side may give, the end of a
child, or the end of the guardian. `ServiceInvariant.step` takes them one at a time, and
`guardian_protocol` is read off the invariant. Runs are written as lists of moves
(`ServiceReaches.moves`): what a move does not say, the world answers for itself.
-/

set_option autoImplicit false

namespace FourVrs.Network

open FourVrs.Core Lib
open Function (update update_of_ne update_self)

/-- What every step keeps. -/
structure ServiceInvariant (s : NetworkService) : Prop where
  agree : ChannelsAgree s.world
  guardian : ∀ p, s.guardian = some p → GuardianLawful (Goes TurnEnds) p s.world.guardian
  owner : ∀ p, s.owner = some p → ProcessLawful TurnKnowsJob p s.world.owner
  running : s.owner ≠ none →
    ∃ child, s.world.guardian.children child = some .owner ∧ s.world.ended child = none

theorem serviceInvariant_starts : ServiceInvariant serviceStarts where
  agree := channelsAgree_start
  guardian := by
    rintro p heq
    cases heq
    exact lawful_guardianTurn guards_start fun _ => rfl
  owner := nofun
  running := fun h => absurd rfl h

variable {docs : OwnerDocuments} {clientOps : Bool} {s s' : NetworkService}

/-- A guardian's call leaves the owner's view, unless it forks an owner. -/
theorem owner_guardianSide {seed : BitVec 32} {op : GuardianCall} {r : op.Result} {w w' : ServiceWorld}
    {running : Option (ServiceProg (LoopTurn OwnerProcess))} (h : guardianSide op w r w')
    (howner : ∀ p, running = some p → ProcessLawful TurnKnowsJob p w.owner) :
    ∀ p, ownerAfter seed op r running = some p → ProcessLawful TurnKnowsJob p w'.owner := by
  cases op with
  | now | stopping | openPair | poll | kill | close =>
    cases h
    exact howner
  | forkOwner bootstrap =>
    cases r with
    | none =>
      cases h
      exact howner
    | some child =>
      obtain ⟨-, rfl⟩ := h
      rintro p heq
      cases heq
      exact lawful_startProcess seed bootstrap
  | receive =>
    cases r with
    | none =>
      cases h
      exact howner
    | some order =>
      obtain ⟨number, rest, -, rfl⟩ := h
      exact howner
  | forkWriter writer =>
    cases r with
    | none =>
      cases h
      exact howner
    | some child =>
      obtain ⟨-, rfl⟩ := h
      exact howner
  | wait child =>
    cases r with
    | none =>
      obtain ⟨-, rfl⟩ := h
      exact howner
    | some status =>
      obtain ⟨kind, turn, -, -, rfl⟩ := h
      exact howner
  | answer result =>
    cases r with
    | false =>
      cases h
      exact howner
    | true =>
      cases h
      exact howner

/-- A new child is none of those there are. -/
theorem running_fork {w : ServiceWorld} {child : Nat} (kind : Child)
    (hfree : w.guardian.children child = none)
    (h : ∃ c, w.guardian.children c = some .owner ∧ w.ended c = none) :
    ∃ c, (w.guardian.fork child kind).children c = some .owner ∧ w.ended c = none := by
  obtain ⟨c, hc, hruns⟩ := h
  have hne : c ≠ child := by
    rintro rfl
    rw [hfree] at hc
    cases hc
  exact ⟨c, (update_of_ne hne ..).trans hc, hruns⟩

theorem running_guardianSide {seed : BitVec 32} {op : GuardianCall} {r : op.Result} {w w' : ServiceWorld}
    {running : Option (ServiceProg (LoopTurn OwnerProcess))} (hagree : ChannelsAgree w)
    (h : guardianSide op w r w')
    (hrunning : running ≠ none → ∃ c, w.guardian.children c = some .owner ∧ w.ended c = none) :
    ownerAfter seed op r running ≠ none → ∃ c, w'.guardian.children c = some .owner ∧ w'.ended c = none := by
  cases op with
  | now | stopping | openPair | poll | kill | close =>
    cases h
    exact hrunning
  | forkOwner bootstrap =>
    cases r with
    | none =>
      cases h
      exact hrunning
    | some child =>
      obtain ⟨hfree, rfl⟩ := h
      intro _
      refine ⟨child, update_self .., ?_⟩
      by_contra hended
      exact hagree.ended child hended hfree
  | receive =>
    cases r with
    | none =>
      cases h
      exact hrunning
    | some order =>
      obtain ⟨number, rest, -, rfl⟩ := h
      exact hrunning
  | forkWriter writer =>
    cases r with
    | none =>
      cases h
      exact hrunning
    | some child =>
      obtain ⟨hfree, rfl⟩ := h
      intro hsome
      exact running_fork _ hfree (hrunning hsome)
  | wait child =>
    cases r with
    | none =>
      obtain ⟨-, rfl⟩ := h
      exact hrunning
    | some status =>
      obtain ⟨kind, turn, -, hended, rfl⟩ := h
      intro hsome
      obtain ⟨c, hc, hruns⟩ := hrunning hsome
      have hne : c ≠ child := by
        rintro rfl
        rw [hended] at hruns
        cases hruns
      exact ⟨c, (update_of_ne hne ..).trans hc, (update_of_ne hne ..).trans hruns⟩
  | answer result =>
    cases r with
    | false =>
      cases h
      exact hrunning
    | true =>
      cases h
      exact hrunning

/-- An owner's call leaves the guardian's view. -/
theorem guardian_ownerSide {op : ServiceCall} {r : op.Result} {w w' : ServiceWorld}
    (h : ownerSide op w r w') : w'.guardian = w.guardian ∧ w'.ended = w.ended := by
  cases op with
  | owner call =>
    cases call with
    | apply target resolver | cancel => obtain ⟨-, rfl⟩ | ⟨-, -, rfl⟩ := h <;> exact ⟨rfl, rfl⟩
    | poll =>
      obtain ⟨-, rfl⟩ | ⟨number, rest, -, rfl⟩ | ⟨-, -, rfl⟩ := h
      · exact ⟨rfl, rfl⟩
      · exact ⟨rfl, rfl⟩
      · exact ⟨rfl, rfl⟩
    | observe | «open» | close | receive | send | probe =>
      cases h
      exact ⟨rfl, rfl⟩
  | heartbeat =>
    cases r with
    | false =>
      cases h
      exact ⟨rfl, rfl⟩
    | true =>
      obtain ⟨-, rfl⟩ := h
      exact ⟨rfl, rfl⟩
  | stopping | wall | clock | foreignClient | profile | listener | wait | client | accept =>
    cases h
    exact ⟨rfl, rfl⟩

/-- A child ends in the turn the guardian is in. -/
theorem ChannelsAgree.childEnds {w : ServiceWorld} {child : Nat} {kind : Child} {status : ExitStatus}
    (h : ChannelsAgree w) (hchild : w.guardian.children child = some kind) :
    ChannelsAgree
      { w with ended := update w.ended child (some (status, w.guardian.turns)) } := by
  refine { h with ended := ?_, late := ?_ }
  · intro c hc
    by_cases hne : c = child
    · rw [hne, hchild]
      simp
    · exact h.ended c (by simpa [update_of_ne hne] using hc)
  · intro c status' turn hc
    have hc : update w.ended child (some (status, w.guardian.turns)) c = some (status', turn) := hc
    by_cases hne : c = child
    · rw [hne, update_self] at hc
      cases hc
      rw [hne]
      exact h.looked child
    · exact h.late c status' turn ((update_of_ne hne ..).symm.trans hc)

theorem ServiceInvariant.step (h : ServiceInvariant s) (hstep : ServiceStep docs clientOps s s') :
    ServiceInvariant s' := by
  cases hstep with
  | guardian seed hat hcall =>
    obtain ⟨hlaw, hnext⟩ := (h.guardian _ hat).next h.agree hcall
    refine ⟨h.agree.guardianSide hcall hlaw, ?_, owner_guardianSide hcall h.owner,
      running_guardianSide h.agree hcall h.running⟩
    rintro p heq
    cases heq
    exact hnext
  | @guardianTurn g hat =>
    have hends : TurnEnds g s.world.guardian := h.guardian _ hat g rfl
    refine ⟨{ h.agree with looked := fun child => Nat.le_succ_of_le (h.agree.looked child) }, ?_, h.owner,
      h.running⟩
    rintro p heq
    cases heq
    exact lawful_guardianTurn { hends.toGuards with } hends.waits
  | guardianEnds =>
    exact ⟨{ h.agree with job := nofun }, nofun, h.owner, h.running⟩
  | owner hat hcall =>
    obtain ⟨hlaw, hnext⟩ := (h.owner _ hat).next h.agree hcall
    obtain ⟨hguardian, hended⟩ := guardian_ownerSide hcall
    refine ⟨h.agree.ownerSide hcall hlaw, ?_, ?_, ?_⟩
    · intro p heq
      rw [hguardian]
      exact h.guardian p heq
    · rintro p heq
      cases heq
      exact hnext
    · intro _
      rw [hguardian, hended]
      exact h.running (by simp [hat])
  | ownerTurn hat =>
    have hknows : TurnKnowsJob _ s.world.owner := h.owner _ hat
    refine ⟨h.agree, h.guardian, ?_, fun _ => h.running (by simp [hat])⟩
    rintro p heq
    cases heq
    exact lawful_ownerTurn docs clientOps (hknows _ rfl)
  | @childEnds child kind status hchild hruns hending =>
    refine ⟨h.agree.childEnds hchild, h.guardian, ?_, ?_⟩
    · cases kind with
      | owner => exact nofun
      | writer | recovery => exact h.owner
    · intro hsome
      cases kind with
      | owner => exact absurd rfl hsome
      | writer | recovery =>
        obtain ⟨c, hc, hleft⟩ := h.running hsome
        have hne : c ≠ child := by
          rintro rfl
          rw [hchild] at hc
          cases hc
        exact ⟨c, hc, (update_of_ne hne ..).trans hleft⟩

theorem ServiceInvariant.of_reaches (h : ServiceReaches docs clientOps s) : ServiceInvariant s := by
  induction h with
  | refl => exact serviceInvariant_starts
  | tail _ hstep ih => exact ih.step hstep

/-- The protocol of the owner and its guardian.

    No two processes write network state. Answers are sent in the order of the applies,
    each the result of its own job, and received in that order. Whenever the guardian is
    between two turns and has not killed its owner, every apply its channel has accepted
    has been answered, is on the way, or has its job; and a job that has ended is reaped
    in the next turn. Every call of the guardian obeys its law: what an apply, a cancel,
    an answer, a recovery and a new owner may meet. -/
structure Protocol (s : NetworkService) : Prop where
  oneWriter : ∀ child child' kind kind', s.world.guardian.children child = some kind →
    s.world.guardian.children child' = some kind' → kind.Writes → kind'.Writes → child = child'
  oneAnswer : s.world.guardian.answers.map Prod.fst = List.range s.world.guardian.answers.length
  received : s.world.down = s.world.guardian.answers.drop s.world.owner.polled
  answered : ∀ g, s.guardian = some (.pure (.again g)) → ∀ child,
    s.world.guardian.children child = some .owner → s.world.guardian.killed child = false →
    ∀ number < s.world.owner.accepted, number < s.world.guardian.answers.length ∨
      (∃ target resolver, (number, Order.apply target resolver) ∈ s.world.up) ∨
      ∃ job target resolver, s.world.guardian.children job = some (.writer number target resolver)
  soon : ∀ g, s.guardian = some (.pure (.again g)) → ∀ job kind status turn,
    s.world.guardian.children job = some kind → kind.Writes →
    s.world.ended job = some (status, turn) → s.world.guardian.turns ≤ turn
  law : ∀ op next r w, s.guardian = some (.call op next) → guardianSide op s.world r w →
    guardianLaw op r s.world.guardian
  oneOwner : ∀ bootstrap next, s.guardian = some (.call (.forkOwner bootstrap) next) → s.owner = none

/-- An apply that has been taken is answered, or its job is there. -/
theorem TurnEnds.answered {g : Guardian} {w : ServiceWorld} (h : TurnEnds g w.guardian)
    (hagree : ChannelsAgree w) {child number : Nat} (howner : w.guardian.children child = some .owner)
    (hrunning : w.guardian.killed child = false) (hnumber : number < w.owner.accepted) :
    number < w.guardian.answers.length ∨ (∃ target resolver, (number, Order.apply target resolver) ∈ w.up) ∨
      ∃ job target resolver, w.guardian.children job = some (.writer number target resolver) := by
  have hchild : g.owner = some child := by
    rcases h.children child (by simp [howner]) with heq | heq
    · exact heq
    · obtain ⟨kind, hkind, hwrites⟩ := h.job child heq
      rw [howner] at hkind
      cases hkind
      exact hwrites.elim
  have hstopped : g.stopped = false := by
    by_contra hyes
    have hkilled := h.killed (by simpa using hyes) child hchild
    rw [hrunning] at hkilled
    cases hkilled
  have hcounted := h.counted hstopped (by simp [hchild])
  by_cases htaken : w.guardian.taken ≤ number
  · exact .inr (.inl (hagree.up.mem htaken hnumber))
  · cases hjob : g.job with
    | none =>
      rw [hjob] at hcounted
      have heq : w.guardian.taken = w.guardian.answers.length := hcounted
      exact .inl (by omega)
    | some job =>
      rw [hjob] at hcounted
      obtain ⟨heq, target, resolver, hwriter⟩ := hcounted
      rcases Nat.lt_or_ge number w.guardian.answers.length with hlt | hge
      · exact .inl hlt
      · have hsame : number = w.guardian.answers.length := by omega
        rw [hsame]
        exact .inr (.inr ⟨job, target, resolver, hwriter⟩)

/-- In every run the guardian and the owner keep to the protocol, and a recovery that
    has exited with 0 has written the confirmed profile. -/
theorem guardian_protocol (h : ServiceReaches docs clientOps s) :
    Protocol s ∧ ∀ calls, (runWriter docs .recoverConfirmed).Answers calls 0 →
      ∃ p seen desired resolver, ⟨.profile, some p⟩ ∈ calls ∧ ⟨.observe, some seen⟩ ∈ calls ∧
        confirmedTarget docs p seen = some (desired, resolver) ∧
        ⟨.write desired resolver, (0 : Int)⟩ ∈ calls := by
  have hinv := ServiceInvariant.of_reaches h
  have hlaw : ∀ op next r w, s.guardian = some (.call op next) → guardianSide op s.world r w →
      guardianLaw op r s.world.guardian := by
    intro op next r w hat hcall
    exact ((hinv.guardian _ hat).next hinv.agree hcall).1
  refine ⟨⟨hinv.agree.writer, hinv.agree.numbers, hinv.agree.down, ?_, ?_, hlaw, ?_⟩, ?_⟩
  · intro g hat child howner hrunning number hnumber
    -- the guardian is between two turns, where it has looked at all its children
    have hends : TurnEnds g s.world.guardian := hinv.guardian _ hat g rfl
    exact hends.answered hinv.agree howner hrunning hnumber
  · intro g hat job kind status turn hchild hwrites hended
    have hends : TurnEnds g s.world.guardian := hinv.guardian _ hat g rfl
    have hjob : g.job = some job := by
      rcases hends.children job (by simp [hchild]) with heq | heq
      · rw [hends.owner job heq] at hchild
        cases hchild
        exact hwrites.elim
      · exact heq
    rw [← hends.looked job hjob]
    exact hinv.agree.late job status turn hended
  -- the law of the fork: no child runs when it is made
  · intro bootstrap next hat
    have hnone := (hlaw _ next none s.world hat rfl).1
    by_contra hsome
    obtain ⟨child, hchild, -⟩ := hinv.running hsome
    rw [hnone child] at hchild
    cases hchild
  · intro calls hcalls
    exact written_of_recovered hcalls

/-! ## A run -/

/-- What the guardian's calls return in one of its turns: the time, the next child, and
    what the poll finds. -/
structure GuardianInputs where
  now : Nat
  child : Nat := 0
  events : PollEvents := { failed := false, hangup := false, readable := false }

/-- The world and the owner's program, as the guardian's calls change them. -/
def guardianHandle (inputs : GuardianInputs) :
    (op : GuardianCall) → ServiceWorld × Option (ServiceProg (LoopTurn OwnerProcess)) →
      op.Result × ServiceWorld × Option (ServiceProg (LoopTurn OwnerProcess))
  | .now, s => (tick inputs.now, s)
  | .stopping, s => (false, s)
  | .openPair, s => (true, s)
  | .poll, s => (inputs.events, s)
  | .forkOwner bootstrap, (w, o) =>
      match w.guardian.children inputs.child with
      | some _ => (none, w, o)
      | none => (some inputs.child, w.forkOwner inputs.child, some (startProcess 1 bootstrap))
  | .receive, (w, o) =>
      match w.up with
      | [] => (none, w, o)
      | (number, order) :: rest =>
          (some order, { w with guardian := w.guardian.take number order, up := rest }, o)
  | .forkWriter writer, (w, o) =>
      match w.guardian.children inputs.child with
      | some _ => (none, w, o)
      | none =>
          (some inputs.child,
            { w with guardian := w.guardian.fork inputs.child (childOf w.guardian writer) }, o)
  | .kill child _, (w, o) =>
      ((), { w with guardian := { w.guardian with killed := update w.guardian.killed child true } }, o)
  | .wait child, (w, o) =>
      match w.ended child, w.guardian.children child with
      | some (status, _), some kind =>
          (some status,
            { w with guardian := w.guardian.reap child kind status, ended := update w.ended child none }, o)
      | _, _ =>
          (none,
            { w with guardian :=
                { w.guardian with looked := update w.guardian.looked child w.guardian.turns } }, o)
  | .answer result, (w, o) =>
      (true,
        { w with guardian := { w.guardian with
                                answers := w.guardian.answers ++ [(w.guardian.reapedNumber, result)] }
                 down := w.down ++ [(w.guardian.reapedNumber, result)] }, o)
  | .close, (w, o) => ((), { w with guardian := { w.guardian with channel := false } }, o)

/-- A world that agrees allows that. Only children end, so a wait that finds nothing is
    for a child that runs. -/
theorem guardianSide_handle {w : ServiceWorld} (hagree : ChannelsAgree w) (inputs : GuardianInputs)
    (op : GuardianCall) (o : Option (ServiceProg (LoopTurn OwnerProcess))) :
    guardianSide op w (guardianHandle inputs op (w, o)).1 (guardianHandle inputs op (w, o)).2.1 ∧
      (guardianHandle inputs op (w, o)).2.2 = ownerAfter 1 op (guardianHandle inputs op (w, o)).1 o := by
  cases op with
  | now | stopping | openPair | poll | kill | answer | close => exact ⟨rfl, rfl⟩
  | forkOwner | forkWriter =>
    cases hchild : w.guardian.children inputs.child with
    | some kind | none => simp [guardianHandle, guardianSide, ownerAfter, hchild]
  | receive =>
    cases hup : w.up with
    | nil => simp [guardianHandle, guardianSide, ownerAfter, hup]
    | cons message rest =>
      obtain ⟨number, order⟩ := message
      simp [guardianHandle, guardianSide, ownerAfter, hup]
  | wait child =>
    cases hended : w.ended child with
    | none => simp [guardianHandle, guardianSide, ownerAfter, hended]
    | some ending =>
      obtain ⟨status, turn⟩ := ending
      cases hchild : w.guardian.children child with
      | none => exact absurd hchild (hagree.ended child (by simp [hended]))
      | some kind => simp [guardianHandle, guardianSide, ownerAfter, hended, hchild]

/-- The rest of the guardian's turn, or all of its next one. -/
def NetworkService.guardianRuns (s : NetworkService) (inputs : GuardianInputs) : NetworkService :=
  match s.guardian with
  | none | some (.pure (.exit _)) => s
  | some (.pure (.again g)) =>
      let turned := { s.world.guardian with turns := s.world.guardian.turns + 1 }
      let r := (guardianTurn g).eval (guardianHandle inputs) ({ s.world with guardian := turned }, s.owner)
      { world := r.2.1, guardian := some (.pure r.1), owner := r.2.2 }
  | some p =>
      let r := p.eval (guardianHandle inputs) (s.world, s.owner)
      { world := r.2.1, guardian := some (.pure r.1), owner := r.2.2 }

theorem reaches_guardianCalls (inputs : GuardianInputs) (p : GuardianProg (LoopTurn Guardian))
    (h : ServiceReaches docs clientOps s) (hat : s.guardian = some p) :
    ServiceReaches docs clientOps
      { world := (p.eval (guardianHandle inputs) (s.world, s.owner)).2.1
        guardian := some (.pure (p.eval (guardianHandle inputs) (s.world, s.owner)).1)
        owner := (p.eval (guardianHandle inputs) (s.world, s.owner)).2.2 } := by
  induction p generalizing s with
  | pure turn =>
    obtain ⟨w, _, o⟩ := s
    cases hat
    exact h
  | call op next ih =>
    -- one call is a step, and the invariant of the runs says that its answer is one of the world's
    obtain ⟨hcall, howner⟩ := guardianSide_handle (ServiceInvariant.of_reaches h).agree inputs op s.owner
    have hstep := h.tail (.guardian 1 hat hcall)
    rw [← howner] at hstep
    exact ih _ hstep rfl

theorem ServiceReaches.guardianRuns (h : ServiceReaches docs clientOps s) (inputs : GuardianInputs) :
    ServiceReaches docs clientOps (s.guardianRuns inputs) := by
  obtain ⟨w, guardian, o⟩ := s
  cases guardian with
  | none => exact h
  | some p =>
    cases p with
    | pure turn =>
      cases turn with
      | exit status => exact h
      | again g => exact reaches_guardianCalls inputs _ (h.tail (.guardianTurn rfl)) rfl
    | call op next => exact reaches_guardianCalls inputs _ h rfl

/-- What the owner's calls return in one of its turns: the time, and what its client and a
    new peer have sent. It sees two interfaces without a lease. -/
structure ProcessInputs where
  now : Nat
  client : ClientEvent := .quiet
  peer : PeerEvent := .none

/-- Two interfaces that are there, and a policy that leaves them to their servers. -/
def leasedSeen : NetworkObservation where
  lan _ := { present := 1, up := 1, link := 1 }

def leasedPolicy : NetworkPolicy where
  settings := { lan := fun _ => { mode := .dhcpClient } }

/-- Sends reach an open channel; no packet arrives, and everything else succeeds. -/
def processHandle (inputs : ProcessInputs) : (op : ServiceCall) → ServiceWorld → op.Result × ServiceWorld
  | .owner (.apply target resolver), w =>
      if w.guardian.channel then
        (0, { w.sends w.owner.accepted (.apply target resolver) with
              owner := { w.owner with accepted := w.owner.accepted + 1, job := true } })
      else (1, w)
  | .owner .cancel, w =>
      if w.guardian.channel then (0, w.sends (w.owner.accepted - 1) .cancel) else (1, w)
  | .owner .poll, w =>
      match w.down with
      | [] => (0, w)
      | (_, r) :: rest =>
          (r, { w with owner := { w.owner with polled := w.owner.polled + 1, job := false }, down := rest })
  | .owner .observe, w => ((0, leasedSeen), w)
  | .owner (.receive _), w => (.nothing, w)
  | .owner (.send _), w => (true, w)
  | .owner (.close _), w => ((), w)
  | .owner (.open _), w | .owner (.probe _ _), w => ((0 : Int), w)
  | .heartbeat, w => if w.guardian.channel then (true, w.sends 0 .heartbeat) else (false, w)
  | .wall, w => (tick inputs.now, w)
  | .clock wall, w => (wall, w)
  | .stopping, w | .foreignClient, w => (false, w)
  | .listener, w | .wait, w => (true, w)
  | .profile _, w => (some leasedPolicy, w)
  | .client, w => (inputs.client, w)
  | .accept, w => (inputs.peer, w)

theorem ownerSide_handle (inputs : ProcessInputs) (op : ServiceCall) (w : ServiceWorld) :
    ownerSide op w (processHandle inputs op w).1 (processHandle inputs op w).2 := by
  cases op with
  | owner call =>
    cases call with
    | apply | cancel => cases hchannel : w.guardian.channel <;> simp [processHandle, ownerSide, hchannel]
    | poll =>
      cases hdown : w.down with
      | nil => simp [processHandle, ownerSide, hdown]
      | cons result rest =>
        obtain ⟨number, r⟩ := result
        exact .inr (.inl ⟨number, rest, by simp [processHandle, hdown]⟩)
    | observe | «open» | close | receive | send | probe => rfl
  | heartbeat => cases hchannel : w.guardian.channel <;> simp [processHandle, ownerSide, hchannel]
  | stopping | wall | clock | foreignClient | profile | listener | wait | client | accept => rfl

/-- The rest of the owner's turn, or all of its next one. -/
def NetworkService.ownerRuns (docs : OwnerDocuments) (clientOps : Bool) (s : NetworkService)
    (inputs : ProcessInputs) : NetworkService :=
  match s.owner with
  | none | some (.pure (.exit _)) => s
  | some (.pure (.again o)) =>
      let r := (ownerTurn docs clientOps o).eval (processHandle inputs) s.world
      { s with world := r.2, owner := some (.pure r.1) }
  | some p =>
      let r := p.eval (processHandle inputs) s.world
      { s with world := r.2, owner := some (.pure r.1) }

theorem reaches_ownerCalls (inputs : ProcessInputs) (p : ServiceProg (LoopTurn OwnerProcess))
    (h : ServiceReaches docs clientOps s) (hat : s.owner = some p) :
    ServiceReaches docs clientOps
      { s with world := (p.eval (processHandle inputs) s.world).2
               owner := some (.pure (p.eval (processHandle inputs) s.world).1) } := by
  induction p generalizing s with
  | pure turn =>
    obtain ⟨w, g, _⟩ := s
    cases hat
    exact h
  | call op next ih => exact ih _ (h.tail (.owner hat (ownerSide_handle inputs op s.world))) rfl

theorem ServiceReaches.ownerRuns (h : ServiceReaches docs clientOps s) (inputs : ProcessInputs) :
    ServiceReaches docs clientOps (s.ownerRuns docs clientOps inputs) := by
  obtain ⟨w, g, owner⟩ := s
  cases owner with
  | none => exact h
  | some p =>
    cases p with
    | pure turn =>
      cases turn with
      | exit status => exact h
      | again o =>
        have hturn : ServiceReaches docs clientOps ⟨w, g, some (ownerTurn docs clientOps o)⟩ :=
          h.tail (.ownerTurn rfl)
        exact @reaches_ownerCalls _ _ ⟨w, g, some (ownerTurn docs clientOps o)⟩ inputs _ hturn rfl
    | call op next => exact reaches_ownerCalls inputs _ h rfl

/-- Documents that nothing can be read from. -/
def noDocuments : OwnerDocuments where
  broadcast _ _ := none
  resolver _ _ := none
  payload _ _ := none
  arpConflict _ _ := false

/-- A child that runs ends. -/
def NetworkService.ends (s : NetworkService) (child : Nat) (status : ExitStatus) : NetworkService :=
  match s.world.guardian.children child, s.world.ended child with
  | some kind, none => s.childEnds child kind status
  | _, _ => s

theorem ServiceReaches.ends (h : ServiceReaches docs clientOps s) (child : Nat) {status : ExitStatus}
    (hending : ∀ kind, Ending docs kind status) : ServiceReaches docs clientOps (s.ends child status) := by
  unfold NetworkService.ends
  split
  · rename_i kind hchild hruns
    exact h.tail (.childEnds hchild hruns (hending kind))
  · exact h

/-- The calls of a recovery that writes that policy. -/
def recoveryCalls : List ((op : WriterCall) × op.Result) :=
  [⟨.isolate, (0 : Int)⟩, ⟨.profile, some leasedPolicy⟩, ⟨.observe, some leasedSeen⟩,
    ⟨.write { leasedSeen with lan := fun i => if i = 0 then leasedSeen.lan 0 else leasedSeen.lan 1 } [],
      (0 : Int)⟩]

theorem answers_recoveryCalls : (runWriter noDocuments .recoverConfirmed).Answers recoveryCalls 0 :=
  .call _ (.call _ (.call _ (.call _ (.done _))))

/-- Any child may exit with 0. -/
theorem ending_zero (kind : Child) : Ending noDocuments kind (.exited 0) := by
  cases kind with
  | owner => trivial
  | writer number target resolver =>
    exact ⟨[⟨.isolate, (0 : Int)⟩, ⟨.write target resolver, (0 : Int)⟩], .call _ (.call _ (.done _))⟩
  | recovery => exact ⟨recoveryCalls, answers_recoveryCalls⟩

/-- What happens next: a turn of either loop, a child that is done, or one that is killed. -/
inductive ServiceMove where
  | guardian (inputs : GuardianInputs)
  | owner (inputs : ProcessInputs)
  | done (child : Nat)
  | killed (child : Nat)

def NetworkService.move (s : NetworkService) : ServiceMove → NetworkService
  | .guardian inputs => s.guardianRuns inputs
  | .owner inputs => s.ownerRuns noDocuments true inputs
  | .done child => s.ends child (.exited 0)
  | .killed child => s.ends child .signalled

theorem ServiceReaches.moves (h : ServiceReaches noDocuments true s) (moves : List ServiceMove) :
    ServiceReaches noDocuments true (moves.foldl NetworkService.move s) := by
  induction moves generalizing s with
  | nil => exact h
  | cons move moves ih =>
    refine ih ?_
    cases move with
    | guardian inputs => exact h.guardianRuns inputs
    | owner inputs => exact h.ownerRuns inputs
    | done child => exact h.ends child ending_zero
    | killed child => exact h.ends child fun _ => trivial

/-- What the guardian finds when the owner has sent something. -/
def ownerSent : PollEvents := { failed := false, hangup := false, readable := true }

/-- The owner is forked as 7, a client has it apply its policy, and the job is forked as 8.
    It ends, its result is sent, and the owner has polled it. -/
def jobAnswered : NetworkService :=
  [.guardian { now := 0, child := 7 }, .owner { now := 0 }, .owner { now := 0, peer := .begin 1 },
    .owner { now := 10, client := .command 'A' 1 }, .owner { now := 20 },
    .guardian { now := 20, events := ownerSent }, .guardian { now := 30, child := 8, events := ownerSent },
    .done 8, .guardian { now := 40 }, .owner { now := 40 }].foldl NetworkService.move serviceStarts

/-- Another policy is applied, and another one before its job 9 has ended: it is cancelled. -/
def jobCancelled : NetworkService :=
  [.owner { now := 50, client := .command 'A' 2 }, .owner { now := 60 },
    .guardian { now := 60, child := 9, events := ownerSent }, .owner { now := 70, client := .command 'A' 3 },
    .guardian { now := 70, events := ownerSent }, .killed 9, .guardian { now := 80 },
    .owner { now := 80 }].foldl NetworkService.move jobAnswered

/-- The owner is killed; the guardian has the interfaces put back by 10, and forks another
    owner as 11. -/
def ownerRecovered : NetworkService :=
  [.killed 7, .guardian { now := 90, child := 10, events := { ownerSent with hangup := true } }, .done 10,
    .guardian { now := 100 }, .guardian { now := 110, child := 11 },
    .owner { now := 110 }].foldl NetworkService.move jobCancelled

theorem guardian_protocol_recovered :
    (jobCancelled.world.guardian.answers = [(0, 1), (1, -1)] ∧ jobCancelled.world.owner.polled = 2 ∧
      Protocol jobCancelled) ∧
    ownerRecovered.world.guardian.reaped = some (.recovery, .exited 0) ∧
    ownerRecovered.world.guardian.children 11 = some .owner ∧ Protocol ownerRecovered ∧
    ∃ p seen desired resolver, ⟨.profile, some p⟩ ∈ recoveryCalls ∧
      ⟨.observe, some seen⟩ ∈ recoveryCalls ∧ confirmedTarget noDocuments p seen = some (desired, resolver) ∧
      ⟨.write desired resolver, (0 : Int)⟩ ∈ recoveryCalls := by
  have hstart : ServiceReaches noDocuments true serviceStarts := .refl
  have hanswered : ServiceReaches noDocuments true jobAnswered := hstart.moves _
  have hcancelled : ServiceReaches noDocuments true jobCancelled := hanswered.moves _
  have hrecovered := guardian_protocol (hcancelled.moves _ : ServiceReaches noDocuments true ownerRecovered)
  exact ⟨⟨by decide +kernel, by decide +kernel, (guardian_protocol hcancelled).1⟩, rfl, rfl, hrecovered.1,
    hrecovered.2 recoveryCalls answers_recoveryCalls⟩

end FourVrs.Network
