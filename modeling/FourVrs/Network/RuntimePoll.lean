import FourVrs.Network.Runtime

/-!
# What a poll of the network changes

The observer is about the observations alone (`ObservedOnly`). The state of the
transaction changes when a frame says so, when the supervisor is gone without a result,
and when a recovery takes too long; a network with no supervisor and no recovery keeps
its state.
-/

set_option autoImplicit false

namespace FourVrs.Network

open FourVrs.Core Config

variable {ω : Type}

/-- The runtimes agree in all but what the observer is about. -/
structure ObservedOnly (r r' : NetworkRuntime) : Prop where
  environment : r'.environment = r.environment
  candidate : r'.candidate = r.candidate
  status : r'.status = r.status
  fd : r'.fd = r.fd
  pid : r'.pid = r.pid
  available : r'.available = r.available
  bindingIndex : r'.bindingIndex = r.bindingIndex
  bindingWait : r'.bindingWait = r.bindingWait
  bindingAck : r'.bindingAck = r.bindingAck
  stopSent : r'.stopSent = r.stopSent
  bindingAffinity : r'.bindingAffinity = r.bindingAffinity
  stopping : r'.stopping = r.stopping
  observationEpoch : r'.observationEpoch = r.observationEpoch
  dynamicIndex : r'.dynamicIndex = r.dynamicIndex
  recovering : r'.recovering = r.recovering
  recoveryDeadline : r'.recoveryDeadline = r.recoveryDeadline

variable (sys : NetworkSystem ω) (r : NetworkRuntime)

theorem ObservedOnly.refl : ObservedOnly r r := by
  constructor <;> rfl

theorem ObservedOnly.trans {r₁ r₂ r₃ : NetworkRuntime} (h : ObservedOnly r₁ r₂)
    (h' : ObservedOnly r₂ r₃) : ObservedOnly r₁ r₃ where
  environment := h'.environment.trans h.environment
  candidate := h'.candidate.trans h.candidate
  status := h'.status.trans h.status
  fd := h'.fd.trans h.fd
  pid := h'.pid.trans h.pid
  available := h'.available.trans h.available
  bindingIndex := h'.bindingIndex.trans h.bindingIndex
  bindingWait := h'.bindingWait.trans h.bindingWait
  bindingAck := h'.bindingAck.trans h.bindingAck
  stopSent := h'.stopSent.trans h.stopSent
  bindingAffinity := h'.bindingAffinity.trans h.bindingAffinity
  stopping := h'.stopping.trans h.stopping
  observationEpoch := h'.observationEpoch.trans h.observationEpoch
  dynamicIndex := h'.dynamicIndex.trans h.dynamicIndex
  recovering := h'.recovering.trans h.recovering
  recoveryDeadline := h'.recoveryDeadline.trans h.recoveryDeadline

theorem observedOnly_acceptObservation (snapshot : ServiceStatus) :
    ObservedOnly r (acceptObservation r snapshot) := by
  unfold acceptObservation
  simp only []
  split
  · split <;> constructor <;> rfl
  · constructor <;> rfl

variable (w : ω)

theorem observedOnly_readObserver :
    ObservedOnly r (readObserver sys r w).1 := by
  unfold readObserver
  split
  · exact .refl r
  split
  · rename_i snapshot _ _
    simp only []
    have hmark : ObservedOnly r { r with observerReceived := true } := by constructor <;> rfl
    split
    · exact hmark.trans (observedOnly_acceptObservation _ snapshot)
    · exact hmark
  · exact .refl r
  · constructor <;> rfl

theorem observedOnly_watchObserver (now : CoreTick) (w : ω) : ObservedOnly r (watchObserver sys r now w).1 := by
  have hexited : ∀ (r : NetworkRuntime) (ok : Bool), ObservedOnly r (observerExited r ok now) := by
    intro r ok
    constructor <;> rfl
  unfold watchObserver
  split
  · split
    · show ObservedOnly r (observerLate r)
      unfold observerLate
      split <;> constructor <;> rfl
    · exact .refl r
  · exact (observedOnly_readObserver sys r _).trans (hexited _ true)
  · exact hexited r false

theorem observedOnly_startObserver (now : CoreTick) (w : ω) : ObservedOnly r (startObserver sys r now w).1 := by
  unfold startObserver
  split <;> constructor <;> rfl

theorem observedOnly_pollObserver :
    ObservedOnly r (pollObserver sys r w).1 := by
  unfold pollObserver
  split
  · simp only []
    split
    · exact (observedOnly_readObserver sys r _).trans (observedOnly_watchObserver sys _ _ _)
    · split
      · exact .refl r
      · exact observedOnly_startObserver sys r _ _
  · exact .refl r

/-- A runtime that is to stop starts no observer. -/
theorem observerPid_pollObserver (hstop : r.stopping = true) (hpid : r.observerPid = false) :
    (pollObserver sys r w).1.observerPid = false := by
  unfold pollObserver
  split
  · simp only []
    rw [if_neg (by simp [hpid]), if_pos (Or.inl hstop)]
    exact hpid
  · exact hpid

/-! ## What has been observed -/

/-- The snapshot a poll takes in: what the observer's pipe holds, which is read once more
    when the observer has exited, unless the epoch it was started in has passed. -/
def snapshotRead (sys : NetworkSystem ω) (r : NetworkRuntime) (w : ω) : Option ServiceStatus :=
  if r.environment.any NetworkEnvironment.readNetwork ∧ r.observerPid ∧
      ¬ (r.observerReceived ∨ r.observerFailed) ∧ r.observerEpoch = r.observationEpoch then
    match sys.readObserver (sys.clock w).2 with
    | (.frame snapshot, _) => some snapshot
    | (.broken, _) => none
    | (.again, w) =>
        match sys.reapObserver w with
        | (.exited true, w) =>
            match (sys.readObserver w).1 with
            | .frame snapshot => some snapshot
            | .again | .broken => none
        | (.running, _) | (.exited false, _) => none
  else none

/-- The second runtime has of the observations what the snapshot taken in, if there is one,
    makes of those of the first. -/
structure Sees (r r' : NetworkRuntime) (seen : Option ServiceStatus) : Prop where
  observed : r'.observed = (seen.map ServiceStatus.observed).getD r.observed
  observedValid : r'.observedValid =
    (seen.map fun s => !r.recovering || snapshotSettled r s).getD r.observedValid

theorem sees_acceptObservation (s : ServiceStatus) :
    Sees r (acceptObservation { r with observerReceived := true } s) (some s) := by
  have hsettled : snapshotSettled { r with observerReceived := true } s = snapshotSettled r s := rfl
  unfold acceptObservation
  simp only [hsettled]
  split
  · rename_i hrec
    split
    · rename_i hkept
      exact ⟨rfl, by simp [hkept.1]⟩
    · exact ⟨rfl, by simp [hrec]⟩
  · rename_i hrec
    exact ⟨rfl, by simp [hrec]⟩

/-- A pipe that has been read to its end, or has failed, is not read again. -/
theorem readObserver_of_done (w : ω) (h : r.observerReceived = true ∨ r.observerFailed = true) :
    readObserver sys r w = (r, w) := by
  unfold readObserver
  rw [if_pos h]

theorem sees_watchObserver_of_done (now : CoreTick) (w : ω)
    (h : r.observerReceived = true ∨ r.observerFailed = true) :
    Sees r (watchObserver sys r now w).1 none := by
  unfold watchObserver
  split
  · split
    · unfold observerLate
      split <;> exact ⟨rfl, rfl⟩
    · exact ⟨rfl, rfl⟩
  · rw [readObserver_of_done sys r _ h]
    exact ⟨rfl, rfl⟩
  · exact ⟨rfl, rfl⟩

/-- A frame read from a pipe that is still open. -/
theorem readObserver_frame {w w' : ω} {s : ServiceStatus}
    (hopen : ¬ (r.observerReceived = true ∨ r.observerFailed = true))
    (hread : sys.readObserver w = (.frame s, w')) :
    (readObserver sys r w).1.observerReceived = true ∧
      Sees r (readObserver sys r w).1 (if r.observerEpoch = r.observationEpoch then some s else none) := by
  unfold readObserver
  rw [if_neg hopen, hread]
  simp only []
  split
  · have hsees := sees_acceptObservation r s
    refine ⟨?_, hsees⟩
    unfold acceptObservation
    simp only []
    split
    · split <;> rfl
    · rfl
  · exact ⟨rfl, rfl, rfl⟩

/-- What an observer that has ended leaves of the observations is what its pipe held. -/
theorem sees_watchObserver_again {w : ω} (now : CoreTick)
    (hopen : ¬ (r.observerReceived = true ∨ r.observerFailed = true)) :
    Sees r (watchObserver sys r now w).1
      (if r.observerEpoch = r.observationEpoch then
        match sys.reapObserver w with
        | (.exited true, w) =>
            match (sys.readObserver w).1 with
            | .frame snapshot => some snapshot
            | .again | .broken => none
        | (.running, _) | (.exited false, _) => none
      else none) := by
  unfold watchObserver
  cases hreap : sys.reapObserver w with
  | mk exit w₁ =>
    cases exit with
    | running =>
      simp only [ite_self]
      split
      · unfold observerLate
        split <;> exact ⟨rfl, rfl⟩
      · exact ⟨rfl, rfl⟩
    | exited ok =>
      cases ok with
      | false =>
        simp only [ite_self]
        exact ⟨rfl, rfl⟩
      | true =>
        simp only []
        cases hread : sys.readObserver w₁ with
        | mk read w₂ =>
          cases read with
          | frame s =>
            obtain ⟨_, hsees⟩ := readObserver_frame sys r hopen hread
            exact ⟨hsees.observed, hsees.observedValid⟩
          | again =>
            simp only [ite_self]
            unfold readObserver
            rw [if_neg hopen, hread]
            exact ⟨rfl, rfl⟩
          | broken =>
            simp only [ite_self]
            unfold readObserver
            rw [if_neg hopen, hread]
            exact ⟨rfl, rfl⟩

theorem sees_pollObserver : Sees r (pollObserver sys r w).1 (snapshotRead sys r w) := by
  have hpassed : ∀ {seen : Option ServiceStatus} {r' r'' : NetworkRuntime}, Sees r r' seen →
      Sees r' r'' none → Sees r r'' seen := by
    intro seen r' r'' h h'
    exact ⟨h'.observed.trans h.observed, h'.observedValid.trans h.observedValid⟩
  unfold pollObserver
  by_cases henv : r.environment.any NetworkEnvironment.readNetwork
  · rw [if_pos henv]
    simp only []
    by_cases hpid : r.observerPid = true
    · rw [if_pos hpid]
      by_cases hopen : r.observerReceived = true ∨ r.observerFailed = true
      · rw [show snapshotRead sys r w = none from if_neg fun h => h.2.2.1 hopen,
          readObserver_of_done sys r _ hopen]
        exact sees_watchObserver_of_done sys r _ _ hopen
      · unfold snapshotRead
        simp only [henv, hpid, hopen, not_false_eq_true, true_and]
        cases hread : sys.readObserver (sys.clock w).2 with
        | mk read w₁ =>
          cases read with
          | frame s =>
            obtain ⟨hreceived, hsees⟩ := readObserver_frame sys r hopen hread
            exact hpassed hsees (sees_watchObserver_of_done sys _ _ _ (.inl hreceived))
          | again =>
            have hsame : readObserver sys r (sys.clock w).2 = (r, w₁) := by
              unfold readObserver
              rw [if_neg hopen, hread]
            rw [hsame]
            exact sees_watchObserver_again sys r _ hopen
          | broken =>
            have hsame : readObserver sys r (sys.clock w).2 = ({ r with observerFailed := true }, w₁) := by
              unfold readObserver
              rw [if_neg hopen, hread]
            rw [hsame]
            simp only [ite_self]
            have hsees := sees_watchObserver_of_done sys { r with observerFailed := true }
              (sys.clock w).1 w₁ (.inr rfl)
            exact ⟨hsees.observed, hsees.observedValid⟩
    · rw [if_neg hpid, show snapshotRead sys r w = none from if_neg fun h => hpid h.2.1]
      split
      · exact ⟨rfl, rfl⟩
      · unfold startObserver
        split <;> exact ⟨rfl, rfl⟩
  · rw [if_neg henv, show snapshotRead sys r w = none from if_neg fun h => henv h.1]
    exact ⟨rfl, rfl⟩

/-! ## The state of the transaction -/

/-- The runtime as a step's poll comes to read the supervisor's status. -/
def pollStatus (sys : NetworkSystem ω) (r : NetworkRuntime) (w : ω) : NetworkRuntime × ω :=
  pollRecovery sys (pollObserver sys r w).1 (pollObserver sys r w).2

theorem networkRuntimePoll_eq :
    networkRuntimePoll sys r w = pollSupervisor sys (pollStatus sys r w).1 (pollStatus sys r w).2 := rfl

/-- The poll takes a status frame. -/
def FrameTaken (sys : NetworkSystem ω) (r : NetworkRuntime) (w : ω) (s : SupervisorStatus) : Prop :=
  (pollStatus sys r w).1.pid = true ∧ (pollStatus sys r w).1.fd = true ∧
    (sys.recvStatus (pollStatus sys r w).2).1 = .frame s

/-- The state a read of the status shows. -/
def shownState : StatusRead → Option NetworkState
  | .frame s => some s.state
  | .fragment => none
  | .none => none

instance (sys : NetworkSystem ω) (r : NetworkRuntime) (w : ω) (state : NetworkState) :
    Decidable (∃ s, FrameTaken sys r w s ∧ s.state = state) :=
  decidable_of_iff ((pollStatus sys r w).1.pid = true ∧ (pollStatus sys r w).1.fd = true ∧
      shownState (sys.recvStatus (pollStatus sys r w).2).1 = some state) <| by
    unfold FrameTaken
    constructor
    · rintro ⟨hpid, hfd, hstate⟩
      cases hread : (sys.recvStatus (pollStatus sys r w).2).1 with
      | frame s =>
        rw [hread] at hstate
        exact ⟨s, ⟨hpid, hfd, rfl⟩, Option.some.inj hstate⟩
      | fragment => simp [hread, shownState] at hstate
      | none => simp [hread, shownState] at hstate
    · rintro ⟨s, ⟨hpid, hfd, hread⟩, hstate⟩
      exact ⟨hpid, hfd, by rw [hread, ← hstate]; rfl⟩

theorem status_takeStatus (s : SupervisorStatus) (w : ω) :
    (takeStatus sys r s w).1.status = s := by
  unfold takeStatus
  simp only []
  split
  · split <;> rfl
  · rfl

/-- How a poll leaves the recovery. -/
theorem pollRecovery_cases :
    (pollRecovery sys r w).1 = r ∨
      r.recovering = true ∧ (pollRecovery sys r w).1 =
        { r with recovering := false, status := { r.status with state := .rollbackFailed } } := by
  unfold pollRecovery
  split
  · rename_i hrec
    simp only []
    split
    · exact .inr ⟨hrec, rfl⟩
    · exact .inl rfl
  · exact .inl rfl

/-- How a poll leaves the state of the transaction. -/
theorem state_networkRuntimePoll :
    (networkRuntimePoll sys r w).1.status.state = r.status.state ∨
      (∃ s, FrameTaken sys r w s ∧ (networkRuntimePoll sys r w).1.status = s) ∨
      (networkRuntimePoll sys r w).1.status.state = .rollbackFailed ∨
      (networkRuntimePoll sys r w).1.status.state = .rollbackBindings := by
  have hstatus : (pollStatus sys r w).1.status.state = r.status.state ∨
      (pollStatus sys r w).1.status.state = .rollbackFailed := by
    have hobserved := (observedOnly_pollObserver sys r w).status
    unfold pollStatus
    rcases pollRecovery_cases sys (pollObserver sys r w).1 (pollObserver sys r w).2 with h | ⟨_, h⟩
    · rw [h, hobserved]
      exact .inl rfl
    · rw [h]
      exact .inr rfl
  have hkeep : ∀ r' : NetworkRuntime, r'.status.state = (pollStatus sys r w).1.status.state →
      r'.status.state = r.status.state ∨
        (∃ s, FrameTaken sys r w s ∧ r'.status = s) ∨ r'.status.state = .rollbackFailed ∨
          r'.status.state = .rollbackBindings := by
    intro r' h
    rw [h]
    rcases hstatus with h | h
    · exact .inl h
    · exact .inr (.inr (.inl h))
  rw [networkRuntimePoll_eq]
  unfold pollSupervisor
  split
  · rename_i hpid
    split
    · rename_i s w' hread
      have hfd : (pollStatus sys r w).1.fd = true := by
        by_contra hfd
        rw [if_neg hfd] at hread
        cases hread
      rw [if_pos hfd] at hread
      exact .inr (.inl ⟨s, ⟨hpid, hfd, congrArg Prod.fst hread⟩, status_takeStatus sys _ s w'⟩)
    · exact hkeep _ rfl
    split
    · unfold supervisorGone
      simp only []
      split
      · exact hkeep _ rfl
      · split
        · exact .inr (.inr (.inr rfl))
        · exact .inr (.inr (.inl rfl))
    · exact hkeep _ rfl
  · exact hkeep _ rfl

/-- Ports follow the addresses of a rollback on behalf of a supervisor or of a recovery,
    unless the runtime is to stop. -/
def Engaged (r : NetworkRuntime) : Prop :=
  r.status.state = .rollbackBindings → r.pid = true ∨ r.recovering = true ∨ r.stopping = true

theorem engaged_networkRuntimePoll (h : Engaged r) : Engaged (networkRuntimePoll sys r w).1 := by
  have hstatus : Engaged (pollStatus sys r w).1 := by
    have hobserved := observedOnly_pollObserver sys r w
    unfold pollStatus
    rcases pollRecovery_cases sys (pollObserver sys r w).1 (pollObserver sys r w).2 with h' | ⟨_, h'⟩
    · rw [h']
      intro hstate
      rw [hobserved.pid, hobserved.recovering, hobserved.stopping]
      exact h (hobserved.status ▸ hstate)
    · rw [h']
      intro hstate
      cases hstate
  rw [networkRuntimePoll_eq]
  unfold pollSupervisor
  split
  · rename_i hpid
    split
    · intro _
      left
      unfold takeStatus
      simp only []
      split
      · split <;> exact hpid
      · exact hpid
    · exact hstatus
    split
    · unfold supervisorGone
      simp only []
      split
      · rename_i hsettled
        intro hstate
        have : (pollStatus sys r w).1.status.state = .rollbackBindings := hstate
        simp [networkRuntimeDisconnect, this, settledState] at hsettled
      split
      · intro _
        exact .inr (.inl rfl)
      · intro hstate
        cases hstate
    · exact hstatus
  · exact hstatus

/-- Without a supervisor and a recovery a poll is about the observer. -/
theorem observedOnly_networkRuntimePoll (hpid : r.pid = false) (hrec : r.recovering = false) :
    (networkRuntimePoll sys r w).1 = (pollObserver sys r w).1 := by
  have hobserved := observedOnly_pollObserver sys r w
  have hrecovery : (pollStatus sys r w).1 = (pollObserver sys r w).1 := by
    unfold pollStatus pollRecovery
    rw [if_neg (by simp [hobserved.recovering, hrec])]
  rw [networkRuntimePoll_eq]
  unfold pollSupervisor
  rw [if_neg (by simp [hrecovery, hobserved.pid, hpid])]
  exact hrecovery

/-! ## A new epoch -/

/-- The poll begins a new epoch of observations: under a service, a frame says that the
    ports are to follow the addresses anew, or the supervisor is gone without a result. -/
def EpochRenewed (sys : NetworkSystem ω) (r : NetworkRuntime) (w : ω) : Prop :=
  (pollStatus sys r w).1.pid = true ∧ (pollStatus sys r w).1.serviced = true ∧
    match if (pollStatus sys r w).1.fd then sys.recvStatus (pollStatus sys r w).2
      else (.none, (pollStatus sys r w).2) with
    | (.frame s, _) => s.state ≠ (pollStatus sys r w).1.status.state ∧ bindingState s.state = true
    | (.fragment, _) => False
    | (.none, w') => (sys.reapSupervisor w').1 = true ∧
        settledState (pollStatus sys r w).1.status.state = false ∧ (pollStatus sys r w).1.stopping = false

instance (sys : NetworkSystem ω) (r : NetworkRuntime) (w : ω) : Decidable (EpochRenewed sys r w) := by
  unfold EpochRenewed
  refine @instDecidableAnd _ _ _ (@instDecidableAnd _ _ _ ?_)
  split <;> infer_instance

theorem sees_pollStatus : Sees r (pollStatus sys r w).1 (snapshotRead sys r w) := by
  have hsees := sees_pollObserver sys r w
  unfold pollStatus
  rcases pollRecovery_cases sys (pollObserver sys r w).1 (pollObserver sys r w).2 with h | ⟨_, h⟩ <;> rw [h]
  · exact hsees
  · exact ⟨hsees.observed, hsees.observedValid⟩

/-- What a poll makes of the observations: a new epoch begins with none that is valid, and
    leaves what was seen last. -/
theorem sees_networkRuntimePoll :
    (networkRuntimePoll sys r w).1.observed = (pollStatus sys r w).1.observed ∧
      (networkRuntimePoll sys r w).1.observedValid =
        if EpochRenewed sys r w then false else (pollStatus sys r w).1.observedValid := by
  rw [networkRuntimePoll_eq]
  unfold pollSupervisor
  by_cases hpid : (pollStatus sys r w).1.pid = true
  · rw [if_pos hpid]
    cases hread : (if (pollStatus sys r w).1.fd = true then sys.recvStatus (pollStatus sys r w).2
        else (.none, (pollStatus sys r w).2)) with
    | mk read w₁ =>
      -- when the epoch is renewed, told for what the channel gave
      have hrenewed : EpochRenewed sys r w ↔ (pollStatus sys r w).1.serviced = true ∧
          match (read, w₁) with
          | (.frame s, _) => s.state ≠ (pollStatus sys r w).1.status.state ∧ bindingState s.state = true
          | (.fragment, _) => False
          | (.none, w') => (sys.reapSupervisor w').1 = true ∧
              settledState (pollStatus sys r w).1.status.state = false ∧
              (pollStatus sys r w).1.stopping = false := by
        unfold EpochRenewed
        rw [hread]
        simp only [hpid, true_and]
      cases read with
      | frame s =>
        unfold takeStatus
        simp only []
        by_cases hbinding : s.state ≠ (pollStatus sys r w).1.status.state ∧ bindingState s.state = true
        · rw [if_pos hbinding]
          by_cases hserviced : (pollStatus sys r w).1.serviced = true
          · rw [if_pos hserviced, if_pos (hrenewed.mpr ⟨hserviced, hbinding⟩)]
            exact ⟨rfl, rfl⟩
          · rw [if_neg hserviced, if_neg fun h => hserviced (hrenewed.mp h).1]
            exact ⟨rfl, rfl⟩
        · rw [if_neg hbinding, if_neg fun h => hbinding (hrenewed.mp h).2]
          exact ⟨rfl, rfl⟩
      | fragment =>
        rw [if_neg fun h => (hrenewed.mp h).2]
        exact ⟨rfl, rfl⟩
      | none =>
        simp only []
        cases hreap : sys.reapSupervisor w₁ with
        | mk gone w₂ =>
          simp only [hreap] at hrenewed
          cases gone with
          | false =>
            rw [if_neg fun h => absurd (hrenewed.mp h).2.1 (by simp)]
            exact ⟨rfl, rfl⟩
          | true =>
            simp only []
            unfold supervisorGone
            simp only []
            by_cases hsettled : settledState (pollStatus sys r w).1.status.state = true
            · rw [if_pos (by exact hsettled), if_neg fun h =>
                absurd (hrenewed.mp h).2.2.1 (by simp [hsettled])]
              exact ⟨rfl, rfl⟩
            · rw [if_neg (by exact hsettled)]
              by_cases hserviced : (pollStatus sys r w).1.serviced = true ∧
                  ¬ (pollStatus sys r w).1.stopping = true
              · rw [if_pos (by exact hserviced), if_pos (hrenewed.mpr ⟨hserviced.1, rfl,
                  by simpa using hsettled, by simpa using hserviced.2⟩)]
                exact ⟨rfl, rfl⟩
              · rw [if_neg (by exact hserviced), if_neg fun h => hserviced
                  ⟨(hrenewed.mp h).1, by simp [(hrenewed.mp h).2.2.2]⟩]
                exact ⟨rfl, rfl⟩
  · rw [if_neg hpid, if_neg fun h => hpid h.1]
    exact ⟨rfl, rfl⟩

end FourVrs.Network
