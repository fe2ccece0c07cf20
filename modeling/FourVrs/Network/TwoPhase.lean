import FourVrs.Lib.History
import FourVrs.Network.Manager

/-!
# A network is kept only when it was confirmed

One trial of a candidate, driven by the supervisor's loop, with any results of the
operations. The history lists the Keep commands the manager accepted and the
operations it called, each with the manager that called it. `Ledger` is the invariant:
what the history must hold for the manager to be in its state.
-/

set_option autoImplicit false

namespace FourVrs.Network

open FourVrs.Core Lib

variable {Settings : Type}

inductive NetworkEvent (Settings : Type) where
  /-- A Keep accepted by `manager`. -/
  | confirmed (manager : NetworkManager)
  /-- An operation called in a step, or in an `apply`, that `manager` entered. -/
  | called (manager : NetworkManager) (now : CoreTick) (call : ManagerCall Settings) (result : Int)

abbrev NetworkHistory (Settings : Type) : Type := List (NetworkEvent Settings)

def recorded (m : NetworkManager) (now : CoreTick) (answer : ManagerAnswer Settings) :
    NetworkEvent Settings :=
  .called m now answer.1 answer.2

/-- The Keep the supervisor hears in a turn, if the manager accepts it. -/
def heardKeep (s : Supervisor) (turn : Turn) : NetworkHistory Settings :=
  let s := supervisorPoll s s.channelAlive turn.polled
  if s.channelAlive && s.manager.clientAlive && turn.received = .command 'K' &&
      (managerConfirm s.manager).1 = 0 then [.confirmed s.manager]
  else []

/-- A trial of the supervisor, from its start to the end of a turn. -/
inductive SupervisorRun (validate : Settings → Int) : Supervisor → NetworkHistory Settings → Prop where
  | start (m : NetworkManager) (candidate : Settings) (now : CoreTick) {s : Supervisor}
      {calls : List (ManagerAnswer Settings)} (hidle : m.state = .idle)
      (h : (supervisorStart validate m candidate now).Answers calls s) :
      SupervisorRun validate s (calls.map (recorded m now))
  | turn {s s' : Supervisor} {history : NetworkHistory Settings} (turn : Turn)
      {calls : List (ManagerAnswer Settings)} (hrun : SupervisorRun validate s history)
      (hrunning : s.running = true) (h : (supervisorTurn s turn).Answers calls s') :
      SupervisorRun validate s' (history ++ heardKeep s turn ++
        calls.map (recorded (supervisorHear s turn).manager turn.now))

/-! ## What the history says -/

/-- The manager takes a Keep only so. -/
def NetworkManager.confirmable (m : NetworkManager) : Prop :=
  m.state = .waitConfirm ∧ m.clientAlive = true ∧ m.bindingsReady = true

/-- A Keep was accepted, and then the network was observed to be as it should. -/
def Authorized (history : NetworkHistory Settings) : Prop :=
  ∃ keeper observer now, keeper.confirmable ∧ observer.state = .waitConfirm ∧
    List.Sublist [.confirmed keeper, .called observer now .poll 1] history

/-- `restore` returned 0. -/
def Restoring (history : NetworkHistory Settings) : Prop :=
  ∃ m now, .called m now .restore 0 ∈ history

/-- The last call was a `poll`, positive, while the restored network was awaited. -/
def Restored (history : NetworkHistory Settings) : Prop :=
  ∃ past m now r, history = past ++ [.called m now .poll r] ∧ m.state = .rollingBack ∧
    (0 < r ∧ r ≠ 2) ∧ Restoring past

/-- `restore` returned 0, `poll` a positive value and `discard` 0, in this order. -/
def Undone (history : NetworkHistory Settings) : Prop :=
  ∃ past m now, Restored past ∧ history = past ++ [.called m now .discard 0]

/-- The last call says that the candidate is durable. -/
def Saved (history : NetworkHistory Settings) : Prop :=
  ∃ past m now, (history = past ++ [.called m now .commit 0] ∧ m.state = .committing) ∨
    (history = past ++ [.called m now .poll 2] ∧ m.state = .rollingBack)

/-- The candidate was staged. -/
def Staged (history : NetworkHistory Settings) : Prop :=
  ∃ m now candidate, .called m now (.stage candidate) 0 ∈ history

/-- What must have happened before an event. -/
def Permitted (past : NetworkHistory Settings) : NetworkEvent Settings → Prop
  | .confirmed m => m.confirmable
  | .called m now call _ =>
      (m.state = .idle ∨ managerBusy m = true) ∧
      (call = .commit → m.state = .committing ∧ m.calledOff now = false ∧ Authorized past) ∧
      (call = .discard → m.state = .rollingBack ∧ Restored past)

/-- What a state stands for. -/
def Means (history : NetworkHistory Settings) : NetworkState → Prop
  | .committing => Authorized history
  | .rollingBack => Restoring history
  | .rollbackBindings | .reverted => Undone history
  | .kept => Saved history
  | _ => True

/-- States a trial whose candidate was staged can be in. -/
def NetworkState.pastStage (state : NetworkState) : Bool :=
  match state with
  | .idle | .failed | .unavailable => false
  | _ => true

/-- **The invariant.** -/
structure Ledger (m : NetworkManager) (history : NetworkHistory Settings) : Prop where
  permitted : Each Permitted history
  requested : managerBusy m = true → m.confirmationRequested = true →
    ∃ keeper, keeper.confirmable ∧ .confirmed keeper ∈ history
  means : Means history m.state
  staged : Staged history → m.state.pastStage = true

variable {history : NetworkHistory Settings}

theorem Authorized.append (h : Authorized history) (more : NetworkHistory Settings) :
    Authorized (history ++ more) := by
  obtain ⟨keeper, observer, now, hkeeper, hobserver, hsub⟩ := h
  exact ⟨keeper, observer, now, hkeeper, hobserver, hsub.trans (List.sublist_append_left _ _)⟩

theorem Restoring.append (h : Restoring history) (more : NetworkHistory Settings) :
    Restoring (history ++ more) := by
  obtain ⟨m, now, hmem⟩ := h
  exact ⟨m, now, List.mem_append_left _ hmem⟩

/-! ## Commands -/

/-- The flags the ledger does not speak of. -/
theorem Ledger.of_same {m m' : NetworkManager} (h : Ledger m history) (hstate : m'.state = m.state)
    (hrequested : m'.confirmationRequested = m.confirmationRequested) : Ledger m' history := by
  have hbusy : managerBusy m' = managerBusy m := by simp [managerBusy, hstate]
  constructor
  · exact h.permitted
  · rw [hbusy, hrequested]
    exact h.requested
  · rw [hstate]
    exact h.means
  · rw [hstate]
    exact h.staged

variable {m : NetworkManager}

theorem Ledger.confirm (h : Ledger m history) (hm : m.confirmable) :
    Ledger { m with confirmationRequested := true } (history ++ [.confirmed m]) where
  permitted := each_append_singleton.2 ⟨h.permitted, hm⟩
  requested := fun _ _ => ⟨m, hm, by simp⟩
  means := by simp [hm.1, Means]
  staged := fun _ => by simp [hm.1, NetworkState.pastStage]

theorem managerConfirm_zero :
    (managerConfirm m).1 = 0 ↔ m.confirmable := by
  unfold managerConfirm NetworkManager.confirmable
  split
  · rename_i h
    simp only [Int.reduceNeg, Int.reduceEq, false_iff]
    intro hm
    simp [hm.1, hm.2.1, hm.2.2] at h
  · rename_i h
    simpa [not_or] using h

theorem supervisorLost_state (s : Supervisor) :
    (supervisorLost s).manager.state = s.manager.state ∧
      (supervisorLost s).manager.confirmationRequested = s.manager.confirmationRequested := by
  unfold supervisorLost
  split <;> exact ⟨rfl, rfl⟩

variable {past : NetworkHistory Settings} {s : Supervisor}

theorem Ledger.lost (h : Ledger s.manager history) : Ledger (supervisorLost s).manager history :=
  h.of_same (supervisorLost_state s).1 (supervisorLost_state s).2

theorem Ledger.poll (h : Ledger s.manager history) (polled : Bool) (result : PollResult) :
    Ledger (supervisorPoll s polled result).manager history := by
  cases result with
  | quiet => exact h
  | hangup =>
    cases polled with
    | true => exact h.lost
    | false => exact h
  | failed => exact h.lost

theorem Ledger.signal (h : Ledger s.manager history) (stopping : Bool) :
    Ledger (supervisorSignal s stopping).manager history := by
  unfold supervisorSignal
  split
  · exact h.of_same rfl rfl
  · exact h

theorem Ledger.announce (h : Ledger s.manager history) (result : SendResult) :
    Ledger (supervisorAnnounce s result).manager history := by
  unfold supervisorAnnounce
  split
  · cases result with
    | sent | again => exact h
    | failed => exact h.lost
  · exact h

/-- Any command but an accepted Keep leaves the state and the request alone. -/
theorem supervisorCommand_same {byte : Char} (h : byte = 'K' → (managerConfirm m).1 ≠ 0) :
    (supervisorCommand m byte).state = m.state ∧
      (supervisorCommand m byte).confirmationRequested = m.confirmationRequested := by
  unfold supervisorCommand
  split
  · rename_i hK
    have hrefused := h hK
    unfold managerConfirm at hrefused ⊢
    split
    · exact ⟨rfl, rfl⟩
    · rename_i haccepted
      rw [if_neg haccepted] at hrefused
      exact absurd rfl hrefused
  split
  · exact ⟨rfl, rfl⟩
  split
  · exact ⟨rfl, rfl⟩
  · split
    · split <;> exact ⟨rfl, rfl⟩
    · exact ⟨rfl, rfl⟩

theorem Ledger.hear (h : Ledger s.manager history) (turn : Turn) :
    Ledger (supervisorHear s turn).manager (history ++ heardKeep s turn) := by
  apply Ledger.signal
  have hpolled := h.poll s.channelAlive turn.polled
  unfold heardKeep supervisorReceive
  generalize supervisorPoll s s.channelAlive turn.polled = s at hpolled
  by_cases hopen : (s.channelAlive && s.manager.clientAlive) = true
  · cases hreceived : turn.received with
    | again => simpa [hopen] using hpolled
    | eof | failed => simpa [hopen] using hpolled.lost
    | command byte =>
      by_cases haccepted : byte = 'K' ∧ (managerConfirm s.manager).1 = 0
      · obtain ⟨rfl, hzero⟩ := haccepted
        have hconfirmable := managerConfirm_zero.1 hzero
        have hmanager : supervisorCommand s.manager 'K' =
            { s.manager with confirmationRequested := true } := by
          obtain ⟨hstate, halive, hready⟩ := hconfirmable
          simp [supervisorCommand, managerConfirm, hstate, halive, hready]
        simpa [hopen, hzero, hmanager] using hpolled.confirm hconfirmable
      · have hrefused : byte = 'K' → (managerConfirm s.manager).1 ≠ 0 :=
          fun hK hzero => haccepted ⟨hK, hzero⟩
        have hsame := supervisorCommand_same hrefused
        have hnone : ¬ (RecvResult.command byte = .command 'K' ∧ (managerConfirm s.manager).1 = 0) := by
          simpa using haccepted
        simp only [hopen, Bool.true_and, Bool.and_eq_true, decide_eq_true_eq, hnone, if_false,
          List.append_nil, if_true]
        exact hpolled.of_same hsame.1 hsame.2
  · simpa [hopen] using hpolled

/-! ## Steps -/

variable {now : CoreTick} {turns : List (Turn × List Int)} {call : ManagerCall Settings}

/-- An operation other than `commit` and `discard` needs a busy manager only. -/
theorem permitted_of_busy (hbusy : managerBusy m = true) (past : NetworkHistory Settings) (now : CoreTick)
    (hcommit : call ≠ .commit) (hdiscard : call ≠ .discard) (r : Int) :
    Permitted past (.called m now call r) :=
  ⟨Or.inr hbusy, fun h => absurd h hcommit, fun h => absurd h hdiscard⟩

theorem permitted_commit (h : Ledger m past) (hstate : m.state = .committing) (hon : m.calledOff now = false)
    (r : Int) : Permitted past (.called m now .commit r) := by
  have hauthorized : Authorized past := by
    have hmeans := h.means
    rwa [hstate] at hmeans
  exact ⟨Or.inr (by simp [managerBusy, hstate]), fun _ => ⟨hstate, hon, hauthorized⟩, by simp⟩

theorem permitted_discard (hstate : m.state = .rollingBack) (hrestored : Restored past) (now : CoreTick)
    (r : Int) :
    Permitted past (.called m now .discard r) :=
  ⟨Or.inr (by simp [managerBusy, hstate]), by simp, fun _ => ⟨hstate, hrestored⟩⟩

/-- `restore` has just been called. -/
theorem ledger_restored {m m' : NetworkManager} {r : Int}
    (hpermitted : Each Permitted (past ++ [.called m now .restore r])) :
    Ledger (restored m' now r) (past ++ [.called m now .restore r]) := by
  by_cases hr : r = 0
  · subst hr
    constructor
    · exact hpermitted
    · intro _ hrequested
      simp [restored] at hrequested
    · exact ⟨m, now, by simp⟩
    · intro _
      simp [restored, NetworkState.pastStage]
  · constructor
    · exact hpermitted
    · intro _ hrequested
      simp [restored, hr] at hrequested
    · simp [restored, hr, Means]
    · intro _
      simp [restored, hr, NetworkState.pastStage]

/-- A state that asks for nothing new. -/
theorem Ledger.move {m m' : NetworkManager} {past more : NetworkHistory Settings}
    (h : Ledger m past) (hpermitted : Each Permitted (past ++ more))
    (hrequested : managerBusy m' = true → m'.confirmationRequested = true →
      managerBusy m = true ∧ m.confirmationRequested = true)
    (hmeans : Means (past ++ more) m'.state) (hstage : m'.state.pastStage = true) :
    Ledger m' (past ++ more) where
  permitted := hpermitted
  requested := by
    intro hbusy hflag
    obtain ⟨keeper, hkeeper, hmem⟩ := h.requested (hrequested hbusy hflag).1 (hrequested hbusy hflag).2
    exact ⟨keeper, hkeeper, List.mem_append_left _ hmem⟩
  means := hmeans
  staged := fun _ => hstage

theorem Ledger.means_of {state : NetworkState} (h : Ledger m past) (hstate : m.state = state) :
    Means past state :=
  hstate ▸ h.means

/-- The restored network is there: the candidate may go. -/
theorem Ledger.discardable (h : Ledger m past) (hstate : m.state = .rollingBack) {polled : Int}
    (hpolled : 0 < polled ∧ polled ≠ 2) (now : CoreTick) (r : Int) :
    Each Permitted (past ++ [.called m now .poll polled, .called m now .discard r]) ∧
      Restored (past ++ [.called m now .poll polled]) := by
  have hbusy : managerBusy m = true := by simp [managerBusy, hstate]
  have hrestoring : Restoring past := h.means_of hstate
  have hrestored : Restored (past ++ [.called m now .poll polled]) :=
    ⟨past, m, now, polled, rfl, hstate, hpolled, hrestoring⟩
  refine ⟨each_append_pair.2 ⟨h.permitted, ?_, ?_⟩, hrestored⟩
  · exact permitted_of_busy hbusy past now (by simp) (by simp) polled
  · exact permitted_discard hstate hrestored now r

variable {validate : Settings → Int} {calls : List (ManagerAnswer Settings)}

/-- **The step lemma.** -/
theorem Ledger.step {m m' : NetworkManager} (h : Ledger m past) (hstep : Stepped m now calls m') :
    Ledger m' (past ++ calls.map (recorded m now)) := by
  have hpoll : ∀ r, managerBusy m = true → Each Permitted (past ++ [.called m now .poll r]) :=
    fun r hbusy => each_append_singleton.2
      ⟨h.permitted, permitted_of_busy hbusy past now (by simp) (by simp) r⟩
  have hcommit : ∀ r, m.state = .committing → m.calledOff now = false →
      Each Permitted (past ++ [.called m now .commit r]) :=
    fun r hstate hon => each_append_singleton.2 ⟨h.permitted, permitted_commit h hstate hon r⟩
  cases hstep with
  | finished hdone => simpa using h
  | cancelled reason r htrial hoff =>
    have hbusy : managerBusy m = true := by
      revert htrial
      cases hstate : m.state <;> simp [NetworkManager.onTrial, managerBusy, hstate]
    exact ledger_restored (each_append_singleton.2
      ⟨h.permitted, permitted_of_busy hbusy past now (by simp) (by simp) r⟩)
  | unfit observed r hstate =>
    have hbusy : managerBusy m = true := by
      rcases hstate with hstate | hstate <;> simp [managerBusy, hstate]
    have hsplit : past ++ [⟨.poll, observed⟩, ⟨.restore, r⟩].map (recorded m now) =
        (past ++ [.called m now .poll observed]) ++ [.called m now .restore r] := by
      simp [recorded]
    rw [hsplit]
    exact ledger_restored (each_append_singleton.2
      ⟨hpoll observed hbusy, permitted_of_busy hbusy _ now (by simp) (by simp) r⟩)
  | applying hstate =>
    have hbusy : managerBusy m = true := by simp [managerBusy, hstate]
    refine h.move (hpoll 0 hbusy) (fun _ hflag => ⟨hbusy, hflag⟩) ?_ ?_
    · simp [hstate, Means]
    · simp [hstate, NetworkState.pastStage]
  | applied r hstate hr =>
    have hbusy : managerBusy m = true := by simp [managerBusy, hstate]
    exact h.move (hpoll r hbusy) (fun _ hflag => ⟨hbusy, hflag⟩) trivial rfl
  | unbound hstate hready => simpa using h
  | bound hstate hready =>
    have hbusy : managerBusy m = true := by simp [managerBusy, hstate]
    refine h.move ?_ (fun _ hflag => ⟨hbusy, hflag⟩) trivial rfl
    simpa using h.permitted
  | unconfirmed hstate =>
    have hbusy : managerBusy m = true := by simp [managerBusy, hstate]
    refine h.move (hpoll 1 hbusy) (fun _ hflag => ⟨hbusy, hflag⟩) ?_ ?_
    · simp [hstate, Means]
    · simp [hstate, NetworkState.pastStage]
  | confirmed hstate hready hrequested =>
    have hbusy : managerBusy m = true := by simp [managerBusy, hstate]
    refine h.move (hpoll 1 hbusy) (fun _ hflag => ⟨hbusy, hflag⟩) ?_ rfl
    -- the Keep is in the past, the observation is the event of this step
    obtain ⟨keeper, hkeeper, hmem⟩ := h.requested hbusy hrequested
    refine ⟨keeper, m, now, hkeeper, hstate, ?_⟩
    have hkeep : List.Sublist [.confirmed keeper] past := List.singleton_sublist.2 hmem
    exact hkeep.append (List.Sublist.refl _)
  | saving hstate hon =>
    have hbusy : managerBusy m = true := by simp [managerBusy, hstate]
    refine h.move (hcommit 1 hstate hon) (fun _ hflag => ⟨hbusy, hflag⟩) ?_ ?_
    · rw [hstate]
      exact (h.means_of hstate).append _
    · simp [hstate, NetworkState.pastStage]
  | saved hstate hon =>
    refine h.move (hcommit 0 hstate hon) (by simp [managerBusy]) ?_ rfl
    exact ⟨past, m, now, Or.inl ⟨rfl, hstate⟩⟩
  | uncertain hstate hon =>
    exact h.move (hcommit (-2) hstate hon) (by simp [managerBusy]) trivial rfl
  | unsaved refused r hstate hon hrefused =>
    have hbusy : managerBusy m = true := by simp [managerBusy, hstate]
    have hsplit : past ++ [⟨.commit, refused⟩, ⟨.restore, r⟩].map (recorded m now) =
        (past ++ [.called m now .commit refused]) ++ [.called m now .restore r] := by
      simp [recorded]
    rw [hsplit]
    exact ledger_restored (each_append_singleton.2
      ⟨hcommit refused hstate hon, permitted_of_busy hbusy _ now (by simp) (by simp) r⟩)
  | savedBefore hstate =>
    have hbusy : managerBusy m = true := by simp [managerBusy, hstate]
    refine h.move (hpoll 2 hbusy) (by simp [managerBusy]) ?_ rfl
    exact ⟨past, m, now, Or.inr ⟨rfl, hstate⟩⟩
  | rollbackFailed r error hstate hr =>
    have hbusy : managerBusy m = true := by simp [managerBusy, hstate]
    exact h.move (hpoll r hbusy) (by simp [managerBusy]) trivial rfl
  | rollingBack hstate =>
    have hbusy : managerBusy m = true := by simp [managerBusy, hstate]
    refine h.move (hpoll 0 hbusy) (fun _ hflag => ⟨hbusy, hflag⟩) ?_ ?_
    · rw [hstate]
      exact (h.means_of hstate).append _
    · simp [hstate, NetworkState.pastStage]
  | undiscarded polled r hstate hpolled hr =>
    obtain ⟨hpermitted, -⟩ := h.discardable hstate hpolled now r
    exact h.move hpermitted (by simp [managerBusy]) trivial rfl
  | discarded polled hstate hpolled =>
    obtain ⟨hpermitted, hrestored⟩ := h.discardable hstate hpolled now 0
    have hundone : Undone (past ++ [⟨.poll, polled⟩, ⟨.discard, 0⟩].map (recorded m now)) :=
      ⟨past ++ [.called m now .poll polled], m, now, hrestored, by simp [recorded]⟩
    have hbusy : managerBusy m = true := by simp [managerBusy, hstate]
    refine h.move hpermitted (fun _ hflag => ⟨hbusy, hflag⟩) ?_ ?_
    · cases hclient : m.clientAlive with
      | true | false => exact hundone
    · cases hclient : m.clientAlive <;> simp [NetworkState.pastStage]
  | reboundFailed hstate =>
    refine h.move ?_ (by simp [managerBusy]) trivial rfl
    simpa using h.permitted
  | rebinding hstate => simpa using h
  | rebound hstate =>
    refine h.move ?_ (by simp [managerBusy]) ?_ rfl
    · simpa using h.permitted
    · have hundone : Undone past := h.means_of hstate
      simpa [Means] using hundone

/-! ## Runs -/

/-- An operation called by `apply`. -/
theorem permitted_of_idle (hidle : m.state = .idle) (past : NetworkHistory Settings) (now : CoreTick)
    (hcommit : call ≠ .commit) (hdiscard : call ≠ .discard) (r : Int) :
    Permitted past (.called m now call r) :=
  ⟨Or.inl hidle, fun h => absurd h hcommit, fun h => absurd h hdiscard⟩

theorem ledger_start {candidate : Settings} (hidle : m.state = .idle)
    (h : (supervisorStart validate m candidate now).Answers calls s) :
    Ledger s.manager (calls.map (recorded m now)) := by
  obtain ⟨first, ⟨result, m'⟩, rest, rfl, happly, hrest⟩ := Prog.answers_bind.1 h
  obtain ⟨rfl, rfl⟩ := Prog.answers_pure.1 hrest
  rw [List.append_nil]
  unfold managerApply at happly
  split at happly
  · -- refused: nothing has changed
    obtain ⟨rfl, heq⟩ := Prog.answers_pure.1 happly
    obtain ⟨rfl, rfl⟩ := Prod.mk.inj heq
    constructor
    · simp
    · intro hbusy
      simp [managerBusy, hidle] at hbusy
    · simp [hidle, Means]
    · rintro ⟨_, _, _, hmem⟩
      simp at hmem
  · simp only [callOp, Prog.lift_bind, Prog.answers_call] at happly
    obtain ⟨r, rest, rfl, happly⟩ := happly
    have hstage : Each Permitted [.called m now (.stage candidate) r] :=
      each_append_singleton.2
        ⟨each_nil, permitted_of_idle hidle [] now (by simp) (by simp) r⟩
    split at happly
    · rename_i hr
      obtain ⟨rfl, heq⟩ := Prog.answers_pure.1 happly
      obtain ⟨rfl, rfl⟩ := Prod.mk.inj heq
      constructor
      · exact hstage
      · intro hbusy
        simp [managerBusy] at hbusy
      · trivial
      · rintro ⟨_, _, _, hmem⟩
        simp [recorded] at hmem
        omega
    · simp only [Prog.answers_call] at happly
      obtain ⟨r', rest', rfl, happly⟩ := happly
      have happlied : Each Permitted
          ([.called m now (.stage candidate) r] ++ [.called m now .apply r']) :=
        each_append_singleton.2
          ⟨hstage, permitted_of_idle hidle _ now (by simp) (by simp) r'⟩
      split at happly
      · obtain ⟨first, m'', rest, rfl, hrollback, hrest⟩ := Prog.answers_bind.1 happly
        obtain ⟨r'', rfl, rfl⟩ := rollback_answers.1 hrollback
        obtain ⟨rfl, heq⟩ := Prog.answers_pure.1 hrest
        obtain ⟨rfl, rfl⟩ := Prod.mk.inj heq
        exact ledger_restored (each_append_singleton.2
          ⟨happlied, permitted_of_idle hidle _ now (by simp) (by simp) r''⟩)
      · obtain ⟨rfl, heq⟩ := Prog.answers_pure.1 happly
        obtain ⟨rfl, rfl⟩ := Prod.mk.inj heq
        constructor
        · exact happlied
        · intro _ hflag
          simp at hflag
        · trivial
        · intro _
          rfl

theorem Ledger.turn {s s' : Supervisor} {turn : Turn} (h : Ledger s.manager history)
    (hturn : (supervisorTurn s turn).Answers calls s') :
    Ledger s'.manager (history ++ heardKeep s turn ++
      calls.map (recorded (supervisorHear s turn).manager turn.now)) := by
  obtain ⟨first, m, rest, rfl, hstep, hrest⟩ := Prog.answers_bind.1 hturn
  have hstepped : Ledger (Supervisor.manager { supervisorHear s turn with manager := m })
      (history ++ heardKeep s turn ++ first.map (recorded (supervisorHear s turn).manager turn.now)) :=
    ((h.hear turn).step (managerStep_answers hstep)).of_same rfl rfl
  have hannounced := hstepped.announce turn.sent
  dsimp only at hrest
  split at hrest
  · obtain ⟨rfl, rfl⟩ := Prog.answers_pure.1 hrest
    simpa using hannounced
  · obtain ⟨rfl, rfl⟩ := Prog.answers_pure.1 hrest
    simpa using hannounced.poll _ turn.waited

theorem ledger_of_run (hrun : SupervisorRun validate s history) :
    Ledger s.manager history := by
  induction hrun with
  | start _ _ _ hidle h => exact ledger_start hidle h
  | turn _ _ _ h ih => exact ih.turn h

/-- **Two phases.** Whatever the client, the clock, the signals and the operations do, the
    candidate is kept only when it is known to be durable; `commit` is called only for a
    confirmed and observed network that nothing calls off, `discard` only once the old
    network is restored and observed; and no operation is called once the trial is over. -/
theorem kept_only_confirmed {validate : Settings → Int} {s : Supervisor}
    {history : NetworkHistory Settings} (hrun : SupervisorRun validate s history) :
    Each Permitted history ∧
      (s.manager.state = .kept → Saved history) ∧
      (s.manager.state = .reverted → Undone history) ∧
      (Staged history → managerBusy s.manager = false →
        s.manager.state = .kept ∨ s.manager.state = .durabilityUncertain ∨
          s.manager.state = .rollbackFailed ∨ s.manager.state = .reverted) := by
  have hledger := ledger_of_run hrun
  refine ⟨hledger.permitted, fun h => hledger.means_of h, fun h => hledger.means_of h, ?_⟩
  intro hstaged hdone
  have hpast := hledger.staged hstaged
  revert hpast hdone
  unfold managerBusy NetworkState.pastStage
  cases s.manager.state <;> simp

/-! ## Trials with given results -/

def replayTurns (s : Supervisor) (history : NetworkHistory Settings) :
    List (Turn × List Int) → Option (Supervisor × NetworkHistory Settings)
  | [] => some (s, history)
  | (turn, results) :: rest =>
      if s.running then
        match Prog.replay (supervisorTurn s turn) results with
        | none => none
        | some (calls, s') =>
            replayTurns s' (history ++ heardKeep s turn ++
              calls.map (recorded (supervisorHear s turn).manager turn.now)) rest
      else none

def replayTrial (validate : Settings → Int) (m : NetworkManager) (candidate : Settings)
    (results : List Int) (turns : List (Turn × List Int)) :
    Option (Supervisor × NetworkHistory Settings) :=
  match (supervisorStart validate m candidate 0).replay results with
  | none => none
  | some (calls, s) => replayTurns s (calls.map (recorded m 0)) turns

theorem run_of_replayTurns {s s' : Supervisor} {history history' : NetworkHistory Settings}
    (hrun : SupervisorRun validate s history) (h : replayTurns s history turns = some (s', history')) :
    SupervisorRun validate s' history' := by
  induction turns generalizing s history with
  | nil =>
    cases h
    exact hrun
  | cons first rest ih =>
    simp only [replayTurns] at h
    split at h
    · rename_i hrunning
      split at h
      · simp at h
      · rename_i hreplay
        exact ih (.turn first.1 hrun hrunning (Prog.answers_of_replay hreplay)) h
    · simp at h

theorem run_of_replayTrial {candidate : Settings} {results : List Int} (hidle : m.state = .idle)
    (h : replayTrial validate m candidate results turns = some (s, history)) :
    SupervisorRun validate s history := by
  unfold replayTrial at h
  split at h
  · simp at h
  · rename_i hreplay
    exact run_of_replayTurns (.start m candidate 0 hidle (Prog.answers_of_replay hreplay)) h

/-- Applied, bound to, confirmed and kept. -/
def keptTrial : Option (Supervisor × NetworkHistory Unit) :=
  replayTrial (fun _ => 0) managerInit () [0, 0]
    [({ now := 1 }, [1]), ({ now := 2, received := .command 'B' }, []),
      ({ now := 3, received := .command 'K' }, [1]), ({ now := 4 }, [0])]

theorem kept_only_confirmed_keptTrial : ∃ s history, keptTrial = some (s, history) ∧
    s.manager.state = .kept ∧ Saved history := by
  cases h : keptTrial with
  | none => exact absurd h (by decide)
  | some result =>
    have hkept : (keptTrial.map fun result => result.1.manager.state) = some .kept := by decide
    rw [h] at hkept
    have hstate : result.1.manager.state = .kept := Option.some.inj hkept
    refine ⟨result.1, result.2, rfl, hstate, ?_⟩
    exact (kept_only_confirmed (run_of_replayTrial (by rfl) h)).2.1 hstate

/-- Called off by the client; the provider then says that the candidate is durable. -/
def unaskedTrial : Option (Supervisor × NetworkHistory Unit) :=
  replayTrial (fun _ => 0) managerInit () [0, 0]
    [({ now := 1, received := .command 'R' }, [0]), ({ now := 2 }, [2])]

def NetworkEvent.isCommit : NetworkEvent Settings → Bool
  | .called _ _ .commit _ => true
  | _ => false

/-- The manager takes the provider's word for it: kept without a commit. -/
theorem kept_without_commit : ¬ ∀ (s : Supervisor) (history : NetworkHistory Unit),
    SupervisorRun (fun _ => 0) s history → s.manager.state = .kept →
      history.any NetworkEvent.isCommit = true := by
  intro hall
  cases h : unaskedTrial with
  | none => exact absurd h (by decide)
  | some result =>
    have hkept : (unaskedTrial.map fun result =>
        (result.1.manager.state, result.2.any NetworkEvent.isCommit)) = some (.kept, false) := by
      decide
    rw [h] at hkept
    obtain ⟨hstate, hcommit⟩ := Prod.mk.inj (Option.some.inj hkept)
    have hasked := hall result.1 result.2 (run_of_replayTrial (by rfl) h) hstate
    rw [hcommit] at hasked
    exact absurd hasked (by decide)

end FourVrs.Network
