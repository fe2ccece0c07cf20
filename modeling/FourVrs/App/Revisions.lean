import FourVrs.App.ApplicationFrames
import FourVrs.Gateway.Agreement
import FourVrs.Lib.Runs

/-!
# Revision tokens

A client shows the token of the state it has seen, and its request is taken only if the
token is still that of the state. So a token stands for the selected configuration, the
addresses observed, the state of the network transaction and what has been accepted:
while none of them may have changed unseen, the revision has not been advanced.

`Tracked` is what holds between the calls, `Preserves` what a call does to the state
when it leaves the revision as it is. Both hold of every run.

Two of the four are compared at a step's end with what was recorded before, and can change
behind the record. The state of the network is compared after the poll alone, so a
transaction that begins and fails between two polls shows no change; the calls that keep
pace with it are those of `KeepsPace`. The addresses are compared only while the
observation is valid, though they are taken over, and shown to the clients, in any case;
the calls that do not pass over them are those of `RecordsAddresses`.
-/

set_option autoImplicit false

namespace FourVrs.App

open FourVrs.Core Config Gateway Network Lib

variable {ω σ κ : Type} {device : σ → σ → Prop}

/-! ## Tokens -/

/-- What follows the last dot of a text without one. -/
theorem lastField_append (e d : CText) (hd : ascii '.' ∉ d) :
    ((e ++ ascii '.' :: d).reverse.takeWhile (· ≠ ascii '.')).reverse = d := by
  have hall : ∀ b ∈ d.reverse, (decide (b ≠ ascii '.')) = true := by
    intro b hb
    refine decide_eq_true fun heq => hd ?_
    exact heq ▸ List.mem_reverse.mp hb
  rw [List.reverse_append, List.reverse_cons, List.append_assoc, List.takeWhile_append_of_pos hall]
  simp

theorem dot_notMem_decimalText (n : Nat) : ascii '.' ∉ decimalText n := by
  intro h
  have := isDigit_of_mem_decimalText h
  revert this
  decide

/-- Two states of one token are of one revision. -/
theorem revision_of_token_eq {a b : GatewayApplication ω σ κ device}
    (h : gatewayApplicationRevision a = gatewayApplicationRevision b) : a.revision = b.revision := by
  have hfield := congrArg
    (fun t : CText => (t.reverse.takeWhile (· ≠ ascii '.')).reverse) h
  simp only [gatewayApplicationRevision] at hfield
  rw [lastField_append _ _ (dot_notMem_decimalText _),
    lastField_append _ _ (dot_notMem_decimalText _)] at hfield
  exact decimalText_injective hfield

/-- A token that passes is of the state's revision, which is not the last one. -/
theorem revision_of_check {a b : GatewayApplication ω σ κ device}
    (h : gatewayApplicationRevisionCheck b (gatewayApplicationRevision a) = 0) :
    b.revision = a.revision ∧ b.revision ≠ revisionMax := by
  unfold gatewayApplicationRevisionCheck at h
  split at h
  · cases h
  rename_i hmax
  split at h
  · rename_i heq
    exact ⟨revision_of_token_eq heq, hmax⟩
  · cases h

variable (deps : GatewayApplicationDependencies ω σ κ device) (a : GatewayApplication ω σ κ device)

theorem revision_advance :
    (gatewayApplicationRevisionAdvance a).revision =
      if a.revision = revisionMax then a.revision else a.revision + 1 := by
  unfold gatewayApplicationRevisionAdvance
  split <;> rfl

theorem le_revision_advance :
    a.revision ≤ (gatewayApplicationRevisionAdvance a).revision := by
  rw [revision_advance]
  split <;> omega

/-- An advance shows unless the counter has come to its end. -/
theorem saturated_of_revision_advance {a : GatewayApplication ω σ κ device}
    (h : (gatewayApplicationRevisionAdvance a).revision = a.revision) : a.revision = revisionMax := by
  rw [revision_advance] at h
  split at h
  · assumption
  · omega

theorem revision_advance_le {a : GatewayApplication ω σ κ device} (h : a.revision ≤ revisionMax) :
    (gatewayApplicationRevisionAdvance a).revision ≤ revisionMax := by
  rw [revision_advance]
  split <;> omega

/-- An advance changes nothing but the revision. -/
theorem advance_eq :
    gatewayApplicationRevisionAdvance a =
      { a with revision := (gatewayApplicationRevisionAdvance a).revision } := by
  unfold gatewayApplicationRevisionAdvance
  split <;> rfl

/-! ## What is tracked -/

/-- What is recorded of the state is what the state is. -/
structure Tracked (a : GatewayApplication ω σ κ device) : Prop where
  bounded : a.revision ≤ revisionMax
  configuration : a.revisionConfiguration = a.coordinator.selected
  addresses : a.network.observedValid = true →
    ∀ i, a.revisionAddresses i = (a.network.observed.lan i).address

/-- What a call does to the state when it leaves the revision as it is. -/
structure Preserves (a a' : GatewayApplication ω σ κ device) : Prop where
  monotone : a.revision ≤ a'.revision
  selected : a'.revision = a.revision → a.revision ≠ revisionMax →
    a'.coordinator.selected = a.coordinator.selected
  addresses : a'.revision = a.revision → a.revision ≠ revisionMax →
    a'.revisionAddresses = a.revisionAddresses

theorem Preserves.refl : Preserves a a :=
  ⟨le_refl _, fun _ _ => rfl, fun _ _ => rfl⟩

variable (environment : Option (NetworkEnvironment × NetworkProfile))
  {a₁ a₂ a₃ : GatewayApplication ω σ κ device}

theorem Preserves.trans (h : Preserves a₁ a₂) (h' : Preserves a₂ a₃) : Preserves a₁ a₃ := by
  have hmiddle : a₃.revision = a₁.revision → a₂.revision = a₁.revision ∧ a₃.revision = a₂.revision := by
    intro heq
    have h₁ := h.monotone
    have h₂ := h'.monotone
    omega
  refine ⟨h.monotone.trans h'.monotone, ?_, ?_⟩
  · intro heq hmax
    obtain ⟨h₁, h₂⟩ := hmiddle heq
    exact (h'.selected h₂ (h₁ ▸ hmax)).trans (h.selected h₁ hmax)
  · intro heq hmax
    obtain ⟨h₁, h₂⟩ := hmiddle heq
    exact (h'.addresses h₂ (h₁ ▸ hmax)).trans (h.addresses h₁ hmax)

/-- Applications that differ in nothing that is tracked. -/
structure SameTracks (a a' : GatewayApplication ω σ κ device) : Prop where
  configuration : a'.revisionConfiguration = a.revisionConfiguration
  selected : a'.coordinator.selected = a.coordinator.selected
  addresses : a'.revisionAddresses = a.revisionAddresses
  observed : a'.network.observed = a.network.observed
  observedValid : a'.network.observedValid = a.network.observedValid

/-- A call that touches nothing tracked but may advance the revision. -/
theorem tracked_of_sameTracks {a a' : GatewayApplication ω σ κ device} (h : Tracked a)
    (hsame : SameTracks a a') (hmono : a.revision ≤ a'.revision) (hbound : a'.revision ≤ revisionMax) :
    Tracked a' ∧ Preserves a a' := by
  refine ⟨⟨hbound, ?_, ?_⟩, ⟨hmono, fun _ _ => hsame.selected, fun _ _ => hsame.addresses⟩⟩
  · rw [hsame.configuration, hsame.selected]
    exact h.configuration
  · rw [hsame.observedValid, hsame.addresses, hsame.observed]
    exact h.addresses

/-! ## The step -/

/-- The network as a step has polled it. -/
def polledNetwork (deps : GatewayApplicationDependencies ω σ κ device)
    (a : GatewayApplication ω σ κ device) : GatewayApplication ω σ κ device :=
  recordNetworkState (networkPoll deps (beforeNetwork deps a))

theorem recordNetworkState_frame :
    (recordNetworkState a).network = a.network ∧
      (recordNetworkState a).revisionNetworkState = a.network.status.state ∧
      (recordNetworkState a).revisionConfiguration = a.revisionConfiguration ∧
      (recordNetworkState a).revisionAddresses = a.revisionAddresses ∧
      (recordNetworkState a).transaction = a.transaction ∧
      a.revision ≤ (recordNetworkState a).revision ∧
      (a.revision ≤ revisionMax → (recordNetworkState a).revision ≤ revisionMax) ∧
      ((recordNetworkState a).revision = a.revision → a.revision ≠ revisionMax →
        a.revisionNetworkState = a.network.status.state) := by
  unfold recordNetworkState
  split
  · rename_i hne
    have hle := le_revision_advance { a with revisionNetworkState := a.network.status.state }
    have hbound (h : a.revision ≤ revisionMax) :=
      revision_advance_le (a := { a with revisionNetworkState := a.network.status.state }) h
    have hsaturated := saturated_of_revision_advance
      (a := { a with revisionNetworkState := a.network.status.state })
    rw [advance_eq] at hle hbound hsaturated ⊢
    exact ⟨rfl, rfl, rfl, rfl, rfl, hle, hbound, fun heq hmax => absurd (hsaturated heq) hmax⟩
  · rename_i heq
    exact ⟨rfl, not_not.mp heq, rfl, rfl, rfl, le_refl _, id, fun _ _ => not_not.mp heq⟩

theorem beforeTransaction_eq :
    beforeTransaction deps a = networkFollow deps (polledNetwork deps a) (deps.clock a.world).1 := rfl

/-- What a look at the revision makes of it. -/
theorem observeRevision_frame :
    (observeRevision a).coordinator = a.coordinator ∧ (observeRevision a).network = a.network ∧
      (observeRevision a).revisionNetworkState = a.revisionNetworkState ∧
      (observeRevision a).revisionConfiguration = a.coordinator.selected ∧
      (observeRevision a).revisionAddresses =
        (if a.network.observedValid then fun i => (a.network.observed.lan i).address
          else a.revisionAddresses) ∧
      (observeRevision a).revision =
        (if a.revisionConfiguration ≠ a.coordinator.selected ∨ addressChanged a then
          (gatewayApplicationRevisionAdvance a).revision else a.revision) := by
  unfold observeRevision
  simp only []
  by_cases hchange : a.revisionConfiguration ≠ a.coordinator.selected ∨ addressChanged a = true
  · rw [if_pos hchange, if_pos hchange, advance_eq, revision_advance, revision_advance]
    split <;> exact ⟨rfl, rfl, rfl, rfl, rfl, rfl⟩
  · rw [if_neg hchange, if_neg hchange]
    split <;> exact ⟨rfl, rfl, rfl, rfl, rfl, rfl⟩

/-- A look that does not advance the revision has seen no change. -/
theorem unchanged_of_observeRevision {a : GatewayApplication ω σ κ device}
    (h : (observeRevision a).revision = a.revision) (hmax : a.revision ≠ revisionMax) :
    a.revisionConfiguration = a.coordinator.selected ∧
      (observeRevision a).revisionAddresses = a.revisionAddresses := by
  obtain ⟨_, _, _, _, haddresses, hrevision⟩ := observeRevision_frame a
  have hsame : ¬ (a.revisionConfiguration ≠ a.coordinator.selected ∨ addressChanged a = true) := by
    intro hchange
    rw [if_pos hchange] at hrevision
    exact hmax (saturated_of_revision_advance (hrevision.symm.trans h))
  obtain ⟨hconfiguration, hobserved⟩ := not_or.mp hsame
  refine ⟨not_not.mp hconfiguration, ?_⟩
  rw [haddresses]
  split
  · rename_i hvalid
    funext i
    by_contra hne
    refine hobserved ?_
    simp only [addressChanged, hvalid, Bool.true_and, decide_eq_true_eq]
    exact ⟨i, fun heq => hne heq.symm⟩
  · rfl

variable (server : CString) (controller : GatewayController σ κ device) (now : CoreTick)

theorem processStep_frame :
    (processStep a now).coordinator.selected = a.coordinator.selected ∧
      (processStep a now).network = a.network ∧ (processStep a now).revision = a.revision ∧
      (processStep a now).revisionNetworkState = a.revisionNetworkState ∧
      (processStep a now).revisionConfiguration = a.revisionConfiguration ∧
      (processStep a now).revisionAddresses = a.revisionAddresses ∧
      (processStep a now).transaction = a.transaction := by
  have hshutdown : ∀ c : GatewayCoordinator σ κ device, (beginShutdown c now).selected = c.selected := by
    intro c
    unfold beginShutdown
    simp only []
    split
    · rfl
    · split <;> rfl
  unfold processStep
  split
  · exact ⟨hshutdown _, rfl, rfl, rfl, rfl, rfl, rfl⟩
  all_goals exact ⟨rfl, rfl, rfl, rfl, rfl, rfl, rfl⟩

/-- The application as a step looks at the revision. -/
def beforeObserve (deps : GatewayApplicationDependencies ω σ κ device)
    (a : GatewayApplication ω σ κ device) : GatewayApplication ω σ κ device :=
  sideSteps deps (configTransactionStep deps (beforeTransaction deps a) (deps.clock a.world).1)
    (deps.clock a.world).1

theorem beforeObserve_frame :
    (beforeObserve deps a).network = (beforeTransaction deps a).network ∧
      (beforeObserve deps a).revision = (polledNetwork deps a).revision ∧
      (beforeObserve deps a).revisionNetworkState = (polledNetwork deps a).revisionNetworkState ∧
      (beforeObserve deps a).revisionConfiguration = a.revisionConfiguration ∧
      (beforeObserve deps a).revisionAddresses = a.revisionAddresses := by
  obtain ⟨_, _, hconfiguration, haddresses, _⟩ :=
    recordNetworkState_frame (networkPoll deps (beforeNetwork deps a))
  have hfollow := (followed_networkFollow deps (polledNetwork deps a) (deps.clock a.world).1).side
  have htx := transactionSide_configTransactionStep deps (beforeTransaction deps a) (deps.clock a.world).1
  obtain ⟨w, stop, backlight, time, hside⟩ := sideSteps_eq deps
    (configTransactionStep deps (beforeTransaction deps a) (deps.clock a.world).1) (deps.clock a.world).1
  rw [beforeObserve, hside]
  exact ⟨htx.network, htx.revision.trans hfollow.revision,
    htx.revisionNetworkState.trans hfollow.revisionNetworkState,
    (htx.revisionConfiguration.trans hfollow.revisionConfiguration).trans hconfiguration,
    (htx.revisionAddresses.trans hfollow.revisionAddresses).trans haddresses⟩

theorem le_revision_polledNetwork :
    a.revision ≤ (polledNetwork deps a).revision ∧
      (a.revision ≤ revisionMax → (polledNetwork deps a).revision ≤ revisionMax) := by
  obtain ⟨_, _, _, _, _, hle, hbound, _⟩ :=
    recordNetworkState_frame (networkPoll deps (beforeNetwork deps a))
  exact ⟨hle, hbound⟩

/-- Where the revision stands after a step. -/
theorem revision_step (hrun : a.processState ≠ .stopped) :
    (gatewayApplicationStep deps a).revision = (observeRevision (beforeObserve deps a)).revision ∧
      (beforeObserve deps a).revision ≤ (observeRevision (beforeObserve deps a)).revision := by
  rw [gatewayApplicationStep_eq deps a hrun]
  refine ⟨(processStep_frame _ _).2.2.1, ?_⟩
  rw [(observeRevision_frame _).2.2.2.2.2]
  split
  · exact le_revision_advance _
  · exact le_refl _

theorem tracked_step (h : Tracked a) :
    Tracked (gatewayApplicationStep deps a) ∧ Preserves a (gatewayApplicationStep deps a) := by
  by_cases hrun : a.processState = .stopped
  · unfold gatewayApplicationStep
    rw [if_pos hrun]
    exact ⟨h, .refl a⟩
  · obtain ⟨hrevision, hobserve⟩ := revision_step deps a hrun
    obtain ⟨_, hpoll, _, hconfiguration, haddresses⟩ := beforeObserve_frame deps a
    obtain ⟨hle, hbound⟩ := le_revision_polledNetwork deps a
    obtain ⟨hcoordinator, hnetwork, _, hobserved, hseen, hadvance⟩ :=
      observeRevision_frame (beforeObserve deps a)
    obtain ⟨hselected, hnet, _, _, hconf, haddr, _⟩ :=
      processStep_frame (observeRevision (beforeObserve deps a)) (deps.clock a.world).1
    have hsame : (gatewayApplicationStep deps a).revision = a.revision → a.revision ≠ revisionMax →
        (beforeObserve deps a).revisionConfiguration = (beforeObserve deps a).coordinator.selected ∧
          (observeRevision (beforeObserve deps a)).revisionAddresses =
            (beforeObserve deps a).revisionAddresses := by
      intro heq hmax
      have hstill : (beforeObserve deps a).revision = a.revision := by omega
      exact unchanged_of_observeRevision (by omega) (hstill ▸ hmax)
    rw [gatewayApplicationStep_eq deps a hrun] at hrevision hsame ⊢
    change (processStep (observeRevision (beforeObserve deps a)) _).revision = _ at hrevision
    change Tracked (processStep (observeRevision (beforeObserve deps a)) _) ∧
      Preserves a (processStep (observeRevision (beforeObserve deps a)) _)
    refine ⟨⟨?_, ?_, ?_⟩, ⟨?_, ?_, ?_⟩⟩
    · rw [hrevision, hadvance]
      split
      · exact revision_advance_le (hpoll ▸ hbound h.bounded)
      · exact hpoll ▸ hbound h.bounded
    · rw [hconf, hobserved, hselected, hcoordinator]
    · rw [hnet, hnetwork, haddr, hseen]
      intro hvalid i
      rw [if_pos hvalid]
    · omega
    · intro heq hmax
      rw [hselected, hcoordinator, ← (hsame heq hmax).1, hconfiguration]
      exact h.configuration
    · intro heq hmax
      rw [haddr, (hsame heq hmax).2, haddresses]

/-! ## The requests -/

/-- The request is accepted: a transaction begins, or the clock has been set. -/
def Accepts (deps : GatewayApplicationDependencies ω σ κ device)
    (a : GatewayApplication ω σ κ device) : ApplicationCall → Prop
  | .requestConfiguration config =>
      (gatewayApplicationRequestConfiguration deps a config).1 = 0 ∧
        (gatewayApplicationRequestConfiguration deps a config).2.transaction.state ≠ .unchanged
  | .backlightSet on =>
      (gatewayApplicationBacklightSet deps a on).1 = 0 ∧
        (gatewayApplicationBacklightSet deps a on).2.transaction.state ≠ .unchanged
  | .networkApply settings => (gatewayApplicationNetworkApply deps a settings).1 = 0
  | .systemTimeSet v => clockWasSet (gatewayApplicationSystemTimeSet deps a v).1 = true
  | _ => False

/-- What a request leaves alone, and that it shows when it is accepted. -/
structure Requested (a a' : GatewayApplication ω σ κ device) (accepted : Prop) : Prop where
  same : SameTracks a a'
  monotone : a.revision ≤ a'.revision
  bounded : a.revision ≤ revisionMax → a'.revision ≤ revisionMax
  shows : accepted → a'.revision = a.revision → a.revision = revisionMax

theorem Requested.of_same {a a' : GatewayApplication ω σ κ device} {accepted : Prop}
    (same : SameTracks a a') (hrevision : a'.revision = a.revision) (hnot : ¬ accepted) :
    Requested a a' accepted :=
  ⟨same, hrevision ▸ le_refl _, fun h => hrevision ▸ h, fun h => absurd h hnot⟩

theorem Requested.of_advance {a a' : GatewayApplication ω σ κ device} {accepted : Prop}
    (same : SameTracks a a')
    (hrevision : a'.revision = (gatewayApplicationRevisionAdvance a).revision) :
    Requested a a' accepted :=
  ⟨same, hrevision ▸ le_revision_advance a, fun h => hrevision ▸ revision_advance_le h,
    fun _ heq => saturated_of_revision_advance (hrevision ▸ heq)⟩

theorem requested_requestConfiguration (config : GatewayPersistentConfig) :
    Requested a (gatewayApplicationRequestConfiguration deps a config).2
      ((gatewayApplicationRequestConfiguration deps a config).1 = 0 ∧
        (gatewayApplicationRequestConfiguration deps a config).2.transaction.state ≠ .unchanged) := by
  have hneg : ¬ ((-1 : Int) = 0) := by decide
  have hresult := requestOutcome deps a config
  generalize gatewayApplicationRequestConfiguration deps a config = result at hresult
  cases hresult with
  | refused | rejected => exact .of_same (by constructor <;> rfl) rfl fun h => hneg h.1
  | unchanged => exact .of_same (by constructor <;> rfl) rfl fun h => h.2 rfl
  | accepted w =>
    refine .of_advance ?_ ?_
    · simp only [acceptRequest]
      rw [advance_eq]
      constructor <;> rfl
    · simp only [acceptRequest, GatewayApplication.withTransaction]
      rw [revision_advance, revision_advance]
  | notStaged => exact .of_same (by constructor <;> rfl) rfl fun h => hneg h.1

/-- A request that begins with another one, and then changes nothing tracked. -/
theorem Requested.after {a a' a'' : GatewayApplication ω σ κ device} {accepted accepted' : Prop}
    (h : Requested a a' accepted) (same : SameTracks a' a'') (hrevision : a''.revision = a'.revision)
    (himp : accepted' → accepted) : Requested a a'' accepted' where
  same :=
    ⟨same.configuration.trans h.same.configuration, same.selected.trans h.same.selected,
      same.addresses.trans h.same.addresses, same.observed.trans h.same.observed,
      same.observedValid.trans h.same.observedValid⟩
  monotone := hrevision ▸ h.monotone
  bounded := fun hb => hrevision ▸ h.bounded hb
  shows := fun hacc heq => h.shows (himp hacc) (hrevision ▸ heq)

theorem requested_backlightSet (on : Nat) :
    Requested a (gatewayApplicationBacklightSet deps a on).2
      ((gatewayApplicationBacklightSet deps a on).1 = 0 ∧
        (gatewayApplicationBacklightSet deps a on).2.transaction.state ≠ .unchanged) := by
  unfold gatewayApplicationBacklightSet
  split
  · exact .of_same (by constructor <;> rfl) rfl fun h => absurd h.1 (by simp)
  · simp only []
    have hrequest := requested_requestConfiguration deps a
      { a.coordinator.selected with
        settings := { a.coordinator.selected.settings with backlightOn := on } }
    refine hrequest.after ?_ ?_ ?_
    · split <;> constructor <;> rfl
    · split <;> rfl
    · rintro ⟨h, hstate⟩
      refine ⟨h, fun hunchanged => hstate ?_⟩
      rw [if_pos ⟨h, hunchanged⟩]
      exact hunchanged

theorem requested_networkApply (settings : NetworkSettings) :
    Requested a (gatewayApplicationNetworkApply deps a settings).2
      ((gatewayApplicationNetworkApply deps a settings).1 = 0) := by
  have hneg : ¬ ((-1 : Int) = 0) := by decide
  have hresult := applyOutcome deps a settings
  generalize gatewayApplicationNetworkApply deps a settings = result at hresult
  cases hresult with
  | refused | notStarted => exact .of_same (by constructor <;> rfl) rfl hneg
  | started =>
    refine .of_advance ?_ rfl
    rw [advance_eq]
    constructor <;> rfl

theorem requested_systemTimeSet (v : GatewaySystemTime) :
    Requested a (gatewayApplicationSystemTimeSet deps a v).2
      (clockWasSet (gatewayApplicationSystemTimeSet deps a v).1 = true) := by
  unfold gatewayApplicationSystemTimeSet
  split
  · exact .of_same (by constructor <;> rfl) rfl fun h => absurd h (by simp [clockWasSet])
  split
  · exact .of_same (by constructor <;> rfl) rfl fun h => absurd h (by simp [clockWasSet])
  · simp only []
    split
    · refine .of_advance ?_ ?_
      · rw [advance_eq]
        constructor <;> rfl
      · show (gatewayApplicationRevisionAdvance _).revision = _
        rw [revision_advance, revision_advance]
    · rename_i hnot
      exact .of_same (by constructor <;> rfl) rfl fun h => absurd h hnot

/-- Requests that are nothing to be accepted. -/
theorem requested_ntpTest (enabled : Bool) :
    Requested a (gatewayApplicationNtpTest deps a enabled).2 False := by
  unfold gatewayApplicationNtpTest
  split
  · exact .of_same (by constructor <;> rfl) rfl id
  split
  · exact .of_same (by constructor <;> rfl) rfl id
  split
  · exact .of_same (by constructor <;> rfl) rfl id
  · refine .of_advance ?_ rfl
    simp only []
    rw [advance_eq]
    constructor <;> rfl

theorem requested_requestStop :
    Requested a (gatewayApplicationRequestStop a) False := by
  refine .of_advance ?_ rfl
  unfold gatewayApplicationRequestStop
  rw [advance_eq]
  constructor <;> rfl

theorem requested_setEpoch (epoch : CText) :
    Requested a (setRevisionEpoch a epoch) False := by
  unfold setRevisionEpoch
  refine .of_advance ?_ ?_
  · rw [advance_eq]
    constructor <;> rfl
  · rw [revision_advance, revision_advance]

theorem requested_command :
    Requested a (gatewayApplicationNetworkKeep deps a).2 False ∧
      Requested a (gatewayApplicationNetworkRevert deps a).2 False := by
  refine ⟨?_, .of_same (by constructor <;> rfl) rfl id⟩
  unfold gatewayApplicationNetworkKeep
  split <;> exact .of_same (by constructor <;> rfl) rfl id

variable (call : ApplicationCall)

/-- Every call but a step is a request. -/
theorem requested_of_ne_step (hne : call ≠ .step) :
    Requested a (call.exec deps a) (Accepts deps a call) := by
  cases call with
  | step => exact absurd rfl hne
  | requestConfiguration config => exact requested_requestConfiguration deps a config
  | backlightSet on => exact requested_backlightSet deps a on
  | networkApply settings => exact requested_networkApply deps a settings
  | networkKeep => exact (requested_command deps a).1
  | networkRevert => exact (requested_command deps a).2
  | systemTimeSet v => exact requested_systemTimeSet deps a v
  | ntpTest enabled => exact requested_ntpTest deps a enabled
  | requestStop => exact requested_requestStop a
  | setEpoch epoch => exact requested_setEpoch a epoch

theorem tracked_exec (h : Tracked a) :
    Tracked (call.exec deps a) ∧ Preserves a (call.exec deps a) := by
  by_cases hstep : call = .step
  · subst hstep
    exact tracked_step deps a h
  · have hrequest := requested_of_ne_step deps a call hstep
    exact tracked_of_sameTracks h hrequest.same hrequest.monotone (hrequest.bounded h.bounded)

/-- An accepted request advances the revision, unless the counter is at its end. -/
theorem shows_exec (hacc : Accepts deps a call) (heq : (call.exec deps a).revision = a.revision) :
    a.revision = revisionMax := by
  by_cases hstep : call = .step
  · subst hstep
    exact hacc.elim
  · exact (requested_of_ne_step deps a call hstep).shows hacc heq

/-! ## The state of the network -/

/-- The runtime as the poll of a step finds it. -/
def pollEntry (deps : GatewayApplicationDependencies ω σ κ device)
    (a : GatewayApplication ω σ κ device) : NetworkRuntime × ω :=
  if a.stopRequested then networkRuntimeStop deps.network a.network a.world else (a.network, a.world)

theorem network_networkPoll :
    (networkPoll deps a).network =
      (networkRuntimePoll deps.network (pollEntry deps a).1 (pollEntry deps a).2).1 := rfl

theorem pollEntry_status : (pollEntry deps a).1.status = a.network.status := by
  unfold pollEntry networkRuntimeStop
  split
  · simp only []
    split
    · rfl
    · split <;> rfl
  · rfl

theorem engaged_pollEntry (h : Engaged a.network) : Engaged (pollEntry deps a).1 := by
  unfold pollEntry networkRuntimeStop
  split
  · simp only []
    split
    · exact fun _ => .inr (.inr rfl)
    · split <;> exact fun _ => .inr (.inr rfl)
  · exact h

/-- A step takes a frame with the state that was recorded last, though the state has been
    another since: a transaction has begun. -/
def FrameRepeats (deps : GatewayApplicationDependencies ω σ κ device)
    (a : GatewayApplication ω σ κ device) : Prop :=
  a.network.status.state ≠ a.revisionNetworkState ∧
    ∃ s, FrameTaken deps.network (pollEntry deps (beforeNetwork deps a)).1
        (pollEntry deps (beforeNetwork deps a)).2 s ∧ s.state = a.revisionNetworkState

/-- A step ends a recovery. -/
def RecoveryFinished (deps : GatewayApplicationDependencies ω σ κ device)
    (a : GatewayApplication ω σ κ device) : Prop :=
  RecoveryEnds (polledNetwork deps a) ∧ (deliverSignal deps (polledNetwork deps a)).stopRequested = false

/-- A call after which the recorded state of the network is the state it has. -/
def KeepsPace (deps : GatewayApplicationDependencies ω σ κ device)
    (a : GatewayApplication ω σ κ device) : ApplicationCall → Prop
  | .step => a.processState ≠ .stopped → ¬ FrameRepeats deps a ∧ ¬ RecoveryFinished deps a
  | _ => True

instance (deps : GatewayApplicationDependencies ω σ κ device) (a : GatewayApplication ω σ κ device) :
    Decidable (FrameRepeats deps a) :=
  inferInstanceAs (Decidable (_ ≠ _ ∧ ∃ _, _))

instance (deps : GatewayApplicationDependencies ω σ κ device) (a : GatewayApplication ω σ κ device) :
    Decidable (RecoveryFinished deps a) :=
  inferInstanceAs (Decidable (_ ∧ _))

instance (deps : GatewayApplicationDependencies ω σ κ device) (a : GatewayApplication ω σ κ device) :
    (call : ApplicationCall) → Decidable (KeepsPace deps a call)
  | .step => inferInstanceAs (Decidable (_ → ¬ FrameRepeats deps a ∧ ¬ RecoveryFinished deps a))
  | .requestConfiguration _ | .backlightSet _ | .networkApply _ | .networkKeep | .networkRevert
  | .systemTimeSet _ | .ntpTest _ | .requestStop | .setEpoch _ => inferInstanceAs (Decidable True)

/-- The state recorded last is one the network may have left only by a new transaction. -/
structure Paced (a : GatewayApplication ω σ κ device) : Prop where
  failed : a.revisionNetworkState = .rollbackFailed → a.network.status.state = .rollbackFailed
  bindings : a.revisionNetworkState = .rollbackBindings → a.network.status.state = .rollbackBindings
  engaged : Engaged a.network

/-- A call that leaves the revision leaves the state of the network. -/
structure KeepsState (a a' : GatewayApplication ω σ κ device) : Prop where
  monotone : a.revision ≤ a'.revision
  state : a'.revision = a.revision → a.revision ≠ revisionMax →
    a'.network.status.state = a.network.status.state

theorem KeepsState.refl : KeepsState a a :=
  ⟨le_refl _, fun _ _ => rfl⟩

theorem KeepsState.trans (h : KeepsState a₁ a₂) (h' : KeepsState a₂ a₃) : KeepsState a₁ a₃ := by
  refine ⟨h.monotone.trans h'.monotone, fun heq hmax => ?_⟩
  have h₁ := h.monotone
  have h₂ := h'.monotone
  have hfirst : a₂.revision = a₁.revision := by omega
  exact (h'.state (by omega) (hfirst ▸ hmax)).trans (h.state hfirst hmax)

/-- The network after a step is the one the step has polled, but for what the bindings do. -/
theorem step_network (hrun : a.processState ≠ .stopped) :
    (gatewayApplicationStep deps a).network = (beforeTransaction deps a).network ∧
      (gatewayApplicationStep deps a).revisionNetworkState =
        (networkPoll deps (beforeNetwork deps a)).network.status.state := by
  obtain ⟨hnetwork, _, hrecorded, _⟩ := beforeObserve_frame deps a
  obtain ⟨_, hnet, hrec, _⟩ := observeRevision_frame (beforeObserve deps a)
  obtain ⟨_, hnet', _, hrec', _⟩ :=
    processStep_frame (observeRevision (beforeObserve deps a)) (deps.clock a.world).1
  have hpolled := (recordNetworkState_frame (networkPoll deps (beforeNetwork deps a))).2.1
  rw [gatewayApplicationStep_eq deps a hrun]
  exact ⟨hnet'.trans (hnet.trans hnetwork), hrec'.trans (hrec.trans (hrecorded.trans hpolled))⟩

theorem paced_step (h : Paced a) (hmeets : KeepsPace deps a .step) :
    Paced (gatewayApplicationStep deps a) ∧ KeepsState a (gatewayApplicationStep deps a) := by
  by_cases hrun : a.processState = .stopped
  · unfold gatewayApplicationStep
    rw [if_pos hrun]
    exact ⟨h, .refl a⟩
  · replace hmeets := hmeets hrun
    obtain ⟨hnetwork, hrecorded⟩ := step_network deps a hrun
    have hpolled := recordNetworkState_frame (networkPoll deps (beforeNetwork deps a))
    have hcourse : CourseKept (networkPoll deps (beforeNetwork deps a)).network
        (gatewayApplicationStep deps a).network := by
      have hfollow := followed_networkFollow deps (polledNetwork deps a) (deps.clock a.world).1
      rw [hnetwork, beforeTransaction_eq, ← hpolled.1]
      rcases hfollow.course with hends | hkept
      · exact absurd hends hmeets.2
      · exact hkept
    have hengaged : Engaged (networkPoll deps (beforeNetwork deps a)).network := by
      rw [network_networkPoll]
      exact engaged_networkRuntimePoll _ _ _ (engaged_pollEntry deps (beforeNetwork deps a) h.engaged)
    refine ⟨⟨?_, ?_, ?_⟩, ?_, ?_⟩
    · rw [hrecorded, hcourse.status]
      exact id
    · rw [hrecorded, hcourse.status]
      exact id
    · intro hstate
      rw [hcourse.pid, hcourse.recovering, hcourse.stopping]
      exact hengaged (hcourse.status ▸ hstate)
    · obtain ⟨hrevision, hobserve⟩ := revision_step deps a hrun
      have hbefore := (beforeObserve_frame deps a).2.1
      have hle := (le_revision_polledNetwork deps a).1
      omega
    · intro heq hmax
      obtain ⟨hrevision, hobserve⟩ := revision_step deps a hrun
      have hbefore := (beforeObserve_frame deps a).2.1
      have hle := (le_revision_polledNetwork deps a).1
      have hsame : a.revisionNetworkState = (networkPoll deps (beforeNetwork deps a)).network.status.state :=
        hpolled.2.2.2.2.2.2.2 (show (polledNetwork deps a).revision = a.revision by omega) hmax
      have hentry := pollEntry_status deps (beforeNetwork deps a)
      rw [hcourse.status]
      -- the state differs: what was taken from the channel is what the condition forbids
      by_contra hne
      have hleft : a.network.status.state ≠ a.revisionNetworkState := by
        rw [hsame]
        exact fun h => hne h.symm
      rw [network_networkPoll] at hsame hne
      rcases state_networkRuntimePoll deps.network (pollEntry deps (beforeNetwork deps a)).1
        (pollEntry deps (beforeNetwork deps a)).2 with hs | ⟨s, htaken, hs⟩ | hs | hs
      · exact hne (hs.trans (congrArg SupervisorStatus.state hentry))
      · exact hmeets.1 ⟨hleft, s, htaken, by rw [hsame, hs]⟩
      · exact hleft ((h.failed (hsame.trans hs)).trans (hsame.trans hs).symm)
      · exact hleft ((h.bindings (hsame.trans hs)).trans (hsame.trans hs).symm)

/-- No request but one for a network touches the network. -/
theorem network_of_request (hstep : call ≠ .step) (happly : ∀ settings, call ≠ .networkApply settings) :
    (call.exec deps a).network = a.network ∧
      (call.exec deps a).revisionNetworkState = a.revisionNetworkState := by
  have hrequest : ∀ config : GatewayPersistentConfig,
      (gatewayApplicationRequestConfiguration deps a config).2.network = a.network ∧
        (gatewayApplicationRequestConfiguration deps a config).2.revisionNetworkState =
          a.revisionNetworkState := by
    intro config
    have hresult := requestOutcome deps a config
    generalize gatewayApplicationRequestConfiguration deps a config = result at hresult
    cases hresult with
    | accepted w =>
      simp only [acceptRequest]
      rw [advance_eq]
      exact ⟨rfl, rfl⟩
    | refused | rejected | unchanged | notStaged => exact ⟨rfl, rfl⟩
  cases call with
  | step => exact absurd rfl hstep
  | requestConfiguration config => exact hrequest config
  | backlightSet on =>
    show (gatewayApplicationBacklightSet deps a on).2.network = _ ∧ _
    simp only [ApplicationCall.exec, gatewayApplicationBacklightSet]
    split
    · exact ⟨rfl, rfl⟩
    · split <;> exact hrequest _
  | networkApply settings => exact absurd rfl (happly settings)
  | networkKeep =>
    simp only [ApplicationCall.exec, gatewayApplicationNetworkKeep]
    split <;> exact ⟨rfl, rfl⟩
  | networkRevert => exact ⟨rfl, rfl⟩
  | systemTimeSet v =>
    simp only [ApplicationCall.exec, gatewayApplicationSystemTimeSet]
    split
    · exact ⟨rfl, rfl⟩
    split
    · exact ⟨rfl, rfl⟩
    split
    · rw [advance_eq]
      exact ⟨rfl, rfl⟩
    · exact ⟨rfl, rfl⟩
  | ntpTest enabled =>
    simp only [ApplicationCall.exec, gatewayApplicationNtpTest]
    split
    · exact ⟨rfl, rfl⟩
    split
    · exact ⟨rfl, rfl⟩
    split
    · exact ⟨rfl, rfl⟩
    · rw [advance_eq]
      exact ⟨rfl, rfl⟩
  | requestStop =>
    simp only [ApplicationCall.exec, gatewayApplicationRequestStop]
    rw [advance_eq]
    exact ⟨rfl, rfl⟩
  | setEpoch epoch =>
    simp only [ApplicationCall.exec, setRevisionEpoch]
    rw [advance_eq]
    exact ⟨rfl, rfl⟩

theorem paced_networkApply (settings : NetworkSettings) (h : Paced a) :
    Paced (gatewayApplicationNetworkApply deps a settings).2 ∧
      KeepsState a (gatewayApplicationNetworkApply deps a settings).2 := by
  have hrequest := requested_networkApply deps a settings
  have hresult := applyOutcome deps a settings
  generalize gatewayApplicationNetworkApply deps a settings = result at hresult hrequest
  cases hresult with
  | refused => exact ⟨h, .refl a⟩
  | notStarted => exact ⟨⟨h.failed, h.bindings, h.engaged⟩, le_refl _, fun _ _ => rfl⟩
  | started candidate w _ hstart =>
    simp only [NetworkRuntime.startable, Bool.and_eq_true, Bool.not_eq_true', decide_eq_true_eq] at hstart
    obtain ⟨⟨⟨⟨⟨_, hpid⟩, hrec⟩, hstop⟩, hfailed⟩, _⟩ := hstart
    -- A transaction begins in no state that only a transaction leaves.
    have hbindings : a.network.status.state ≠ .rollbackBindings := by
      intro hstate
      rcases h.engaged hstate with h' | h' | h'
      · exact absurd (h'.symm.trans hpid) (by decide)
      · exact absurd (h'.symm.trans hrec) (by decide)
      · exact absurd (h'.symm.trans hstop) (by decide)
    have hrecorded : (gatewayApplicationRevisionAdvance a).revisionNetworkState = a.revisionNetworkState := by
      rw [advance_eq]
    refine ⟨⟨?_, ?_, ?_⟩, hrequest.monotone, fun heq hmax => absurd (hrequest.shows rfl heq) hmax⟩
    · intro hstate
      exact absurd (h.failed (hrecorded.symm.trans hstate)) hfailed
    · intro hstate
      exact absurd (h.bindings (hrecorded.symm.trans hstate)) hbindings
    · exact fun hstate => by cases hstate

theorem paced_exec (h : Paced a) (hmeets : KeepsPace deps a call) :
    Paced (call.exec deps a) ∧ KeepsState a (call.exec deps a) := by
  by_cases hstep : call = .step
  · subst hstep
    exact paced_step deps a h hmeets
  by_cases happly : ∃ settings, call = .networkApply settings
  · obtain ⟨settings, rfl⟩ := happly
    exact paced_networkApply deps a settings h
  · obtain ⟨hnetwork, hrecorded⟩ := network_of_request deps a call hstep fun settings heq =>
      happly ⟨settings, heq⟩
    refine ⟨⟨?_, ?_, ?_⟩, (requested_of_ne_step deps a call hstep).monotone, fun _ _ => by rw [hnetwork]⟩
    · rw [hrecorded, hnetwork]
      exact h.failed
    · rw [hrecorded, hnetwork]
      exact h.bindings
    · rw [hnetwork]
      exact h.engaged

/-! ## The addresses -/

/-- A step takes in a snapshot with other addresses than were recorded last and leaves no
    valid observation, because the runtime recovers and the service has not settled, or
    because the same poll begins a new epoch: the look at the revision passes over it. -/
def AddressesMissed (deps : GatewayApplicationDependencies ω σ κ device)
    (a : GatewayApplication ω σ κ device) : Prop :=
  ∃ s, s ∈ snapshotRead deps.network (pollEntry deps (beforeNetwork deps a)).1
      (pollEntry deps (beforeNetwork deps a)).2 ∧
    (∃ i, (s.observed.lan i).address ≠ a.revisionAddresses i) ∧
    ((pollEntry deps (beforeNetwork deps a)).1.recovering = true ∧
        snapshotSettled (pollEntry deps (beforeNetwork deps a)).1 s = false ∨
      EpochRenewed deps.network (pollEntry deps (beforeNetwork deps a)).1
        (pollEntry deps (beforeNetwork deps a)).2)

/-- A call after which the recorded addresses are the ones observed. -/
def RecordsAddresses (deps : GatewayApplicationDependencies ω σ κ device)
    (a : GatewayApplication ω σ κ device) : ApplicationCall → Prop
  | .step => a.processState ≠ .stopped → ¬ AddressesMissed deps a
  | _ => True

instance (deps : GatewayApplicationDependencies ω σ κ device) (a : GatewayApplication ω σ κ device) :
    Decidable (AddressesMissed deps a) :=
  inferInstanceAs (Decidable (∃ s, s ∈ _ ∧ _ ∧ _))

instance (deps : GatewayApplicationDependencies ω σ κ device) (a : GatewayApplication ω σ κ device) :
    (call : ApplicationCall) → Decidable (RecordsAddresses deps a call)
  | .step => inferInstanceAs (Decidable (_ → ¬ AddressesMissed deps a))
  | .requestConfiguration _ | .backlightSet _ | .networkApply _ | .networkKeep | .networkRevert
  | .systemTimeSet _ | .ntpTest _ | .requestStop | .setEpoch _ => inferInstanceAs (Decidable True)

/-- The recorded addresses are those observed last, valid or not. -/
def AddressesRecorded (a : GatewayApplication ω σ κ device) : Prop :=
  ∀ i, a.revisionAddresses i = (a.network.observed.lan i).address

theorem pollEntry_observed : (pollEntry deps a).1.observed = a.network.observed := by
  unfold pollEntry networkRuntimeStop
  split
  · simp only []
    split
    · rfl
    · split <;> rfl
  · rfl

/-- What the poll of a step has seen is what the addresses are afterwards. -/
theorem step_observed (hrun : a.processState ≠ .stopped) :
    (gatewayApplicationStep deps a).network.observed = (networkPoll deps (beforeNetwork deps a)).network.observed ∧
      (gatewayApplicationStep deps a).revisionAddresses =
        if (networkPoll deps (beforeNetwork deps a)).network.observedValid then
          fun i => ((networkPoll deps (beforeNetwork deps a)).network.observed.lan i).address
        else a.revisionAddresses := by
  obtain ⟨hnetwork, _, _, _, haddresses⟩ := beforeObserve_frame deps a
  obtain ⟨_, hnet, _, _, hseen, _⟩ := observeRevision_frame (beforeObserve deps a)
  obtain ⟨_, hnet', _, _, _, hseen', _⟩ :=
    processStep_frame (observeRevision (beforeObserve deps a)) (deps.clock a.world).1
  have hpolled := (recordNetworkState_frame (networkPoll deps (beforeNetwork deps a))).1
  have hfollow := followed_networkFollow deps (polledNetwork deps a) (deps.clock a.world).1
  have hobserved : (beforeObserve deps a).network.observed =
      (networkPoll deps (beforeNetwork deps a)).network.observed := by
    rw [hnetwork, beforeTransaction_eq, hfollow.observed, polledNetwork, hpolled]
  have hvalid : (beforeObserve deps a).network.observedValid =
      (networkPoll deps (beforeNetwork deps a)).network.observedValid := by
    rw [hnetwork, beforeTransaction_eq, hfollow.observedValid, polledNetwork, hpolled]
  rw [gatewayApplicationStep_eq deps a hrun]
  refine ⟨(congrArg NetworkRuntime.observed (hnet'.trans hnet)).trans hobserved, ?_⟩
  refine (hseen'.trans hseen).trans ?_
  rw [hvalid, hobserved, haddresses]

theorem addressesRecorded_step (h : AddressesRecorded a) (hmeets : RecordsAddresses deps a .step) :
    AddressesRecorded (gatewayApplicationStep deps a) := by
  by_cases hrun : a.processState = .stopped
  · unfold gatewayApplicationStep
    rw [if_pos hrun]
    exact h
  · obtain ⟨hobserved, haddresses⟩ := step_observed deps a hrun
    intro i
    rw [haddresses, hobserved]
    split
    · rfl
    · rename_i hinvalid
      rw [network_networkPoll] at hinvalid ⊢
      have hmissed := hmeets hrun
      unfold AddressesMissed at hmissed
      have hentry : (pollEntry deps (beforeNetwork deps a)).1.observed = a.network.observed :=
        pollEntry_observed deps (beforeNetwork deps a)
      generalize pollEntry deps (beforeNetwork deps a) = entry at hinvalid hmissed hentry ⊢
      obtain ⟨hpoll, hpollValid⟩ := sees_networkRuntimePoll deps.network entry.1 entry.2
      have hsees := sees_pollStatus deps.network entry.1 entry.2
      rw [hpoll, hsees.observed]
      rw [hpollValid, hsees.observedValid] at hinvalid
      -- Either nothing was seen, or what was seen is as it was recorded.
      cases hread : snapshotRead deps.network entry.1 entry.2 with
      | none => exact hentry ▸ h i
      | some s =>
        by_contra hne
        refine hmissed ⟨s, hread, ⟨i, fun heq => hne heq.symm⟩, ?_⟩
        rw [hread] at hinvalid
        by_cases hrenewed : EpochRenewed deps.network entry.1 entry.2
        · exact .inr hrenewed
        · rw [if_neg hrenewed] at hinvalid
          left
          simpa using hinvalid

theorem addressesRecorded_exec (h : AddressesRecorded a) (hmeets : RecordsAddresses deps a call) :
    AddressesRecorded (call.exec deps a) := by
  by_cases hstep : call = .step
  · subst hstep
    exact addressesRecorded_step deps a h hmeets
  · have hsame := (requested_of_ne_step deps a call hstep).same
    intro i
    rw [hsame.addresses, hsame.observed]
    exact h i

/-! ## Whole runs -/

theorem tracked_init (w : ω) :
    Tracked (gatewayApplicationInit environment server controller now w) where
  bounded := Nat.zero_le _
  configuration := rfl
  addresses := fun h => by cases h

theorem paced_init (w : ω) :
    Paced (gatewayApplicationInit environment server controller now w) where
  failed := fun h => by cases h
  bindings := fun h => by cases h
  engaged := by
    intro h
    cases environment <;> cases h

theorem addressesRecorded_init (w : ω) :
    AddressesRecorded (gatewayApplicationInit environment server controller now w) := by
  intro i
  cases environment <;> rfl

theorem along_true {S C : Type} (exec : S → C → S) (calls : List C) (s : S) :
    Along exec (fun _ _ => True) calls s := by
  induction calls generalizing s with
  | nil => trivial
  | cons call calls ih => exact ⟨trivial, ih _⟩

variable (calls : List ApplicationCall)

theorem tracked_runApplication {a : GatewayApplication ω σ κ device} (h : Tracked a) :
    Tracked (runApplication deps calls a) :=
  (along_true (ApplicationCall.exec deps) calls a).invariant
    (fun a call h _ => (tracked_exec deps a call h).1) h

theorem preserves_runApplication {a : GatewayApplication ω σ κ device} (h : Tracked a) :
    Preserves a (runApplication deps calls a) :=
  (along_true (ApplicationCall.exec deps) calls a).relates .refl .trans
    (fun a call h _ => tracked_exec deps a call h) h

theorem keepsState_runApplication {a : GatewayApplication ω σ κ device}
    (hpace : Along (ApplicationCall.exec deps) (KeepsPace deps) calls a) (h : Paced a) :
    KeepsState a (runApplication deps calls a) :=
  hpace.relates .refl .trans (fun a call h hmeets => paced_exec deps a call h hmeets) h

/-- While the revision stays, nothing is accepted. -/
theorem unaccepted_of_revision_eq {a : GatewayApplication ω σ κ device} (h : Tracked a)
    (heq : (runApplication deps calls a).revision = a.revision) (hmax : a.revision ≠ revisionMax) :
    Along (ApplicationCall.exec deps) (fun a call => ¬ Accepts deps a call) calls a := by
  induction calls generalizing a with
  | nil => trivial
  | cons call calls ih =>
    have hfirst := tracked_exec deps a call h
    have hrest := (preserves_runApplication deps calls hfirst.1).monotone
    have hle := hfirst.2.monotone
    have hcons : (runApplication deps calls (call.exec deps a)).revision = a.revision := heq
    have hsame : (call.exec deps a).revision = a.revision := by omega
    refine ⟨fun hacc => hmax (shows_exec deps a call hacc hsame), ih hfirst.1 ?_ ?_⟩
    · rw [hcons, hsame]
    · rwa [hsame]

/-- What a token that still passes says of the time since it was issued, whatever has been
    done. The addresses observed are the same where the observation is valid. -/
structure TokenHolds (deps : GatewayApplicationDependencies ω σ κ device)
    (calls : List ApplicationCall) (a a' : GatewayApplication ω σ κ device) : Prop where
  selected : a'.coordinator.selected = a.coordinator.selected
  addresses : a.network.observedValid = true → a'.network.observedValid = true →
    ∀ i, (a'.network.observed.lan i).address = (a.network.observed.lan i).address
  unaccepted : Along (ApplicationCall.exec deps) (fun a call => ¬ Accepts deps a call) calls a

/-- **Revision tokens are a sound compare-and-swap.** Whatever a run has done, a token that
    passes later says that the selected configuration is what it was and that nothing has
    been accepted since. It says so of the addresses observed, if no step has passed over
    any, and of the state of the network transaction, if every step has kept pace with it. A
    token is not issued again once the revision has advanced, and at the end of the counter
    no token passes. -/
theorem tokens_of_keepsPace (deps : GatewayApplicationDependencies ω σ κ device)
    (environment : Option (NetworkEnvironment × NetworkProfile)) (server : CString)
    (controller : GatewayController σ κ device) (now : CoreTick) (w : ω)
    (before between : List ApplicationCall) (a₀ a a' : GatewayApplication ω σ κ device)
    (h₀ : a₀ = gatewayApplicationInit environment server controller now w)
    (ha : a = runApplication deps before a₀) (ha' : a' = runApplication deps between a) :
    (gatewayApplicationRevisionCheck a' (gatewayApplicationRevision a) = 0 →
      TokenHolds deps between a a' ∧
        (Along (ApplicationCall.exec deps) (RecordsAddresses deps) (before ++ between) a₀ →
          ∀ i, (a'.network.observed.lan i).address = (a.network.observed.lan i).address) ∧
        (Along (ApplicationCall.exec deps) (KeepsPace deps) (before ++ between) a₀ →
          a'.network.status.state = a.network.status.state)) ∧
    (a'.revision ≠ a.revision →
      ∀ later, gatewayApplicationRevision (runApplication deps later a') ≠ gatewayApplicationRevision a) ∧
    (a.revision = revisionMax → ∀ token, gatewayApplicationRevisionCheck a' token ≠ 0) := by
  have hfirst : Tracked a := by
    rw [ha, h₀]
    exact tracked_runApplication deps before (tracked_init environment server controller now w)
  -- `Preserves` says what an unchanged revision keeps, and it holds across any calls
  have hpreserves : Preserves a a' := by
    rw [ha']
    exact preserves_runApplication deps between hfirst
  have hsecond : Tracked a' := by
    rw [ha']
    exact tracked_runApplication deps between hfirst
  refine ⟨?_, ?_, ?_⟩
  · intro hcheck
    obtain ⟨heq, hend⟩ := revision_of_check hcheck
    have hmax : a.revision ≠ revisionMax := heq ▸ hend
    refine ⟨⟨hpreserves.selected heq hmax, ?_, ?_⟩, ?_, ?_⟩
    · intro hvalid hvalid' i
      rw [← hsecond.addresses hvalid' i, hpreserves.addresses heq hmax, hfirst.addresses hvalid i]
    · exact unaccepted_of_revision_eq deps between hfirst (ha' ▸ heq) hmax
    · intro hseen i
      obtain ⟨hseen₁, hseen₂⟩ := (along_append before between a₀).mp hseen
      -- at both ends what is observed is what the revision was computed from
      have hrecorded : AddressesRecorded a := by
        rw [ha]
        refine hseen₁.invariant (fun a call h hmeets => addressesRecorded_exec deps a call h hmeets) ?_
        rw [h₀]
        exact addressesRecorded_init environment server controller now w
      have hrecorded' : AddressesRecorded a' := by
        rw [ha']
        refine Along.invariant (fun a call h hmeets => addressesRecorded_exec deps a call h hmeets) ?_ hrecorded
        rwa [ha]
      rw [← hrecorded' i, hpreserves.addresses heq hmax, hrecorded i]
    · intro hpace
      obtain ⟨hpace₁, hpace₂⟩ := (along_append before between a₀).mp hpace
      have hpaced : Paced a := by
        rw [ha]
        refine hpace₁.invariant (fun a call h hmeets => (paced_exec deps a call h hmeets).1) ?_
        rw [h₀]
        exact paced_init environment server controller now w
      have hkeeps : KeepsState a a' := by
        rw [ha']
        refine keepsState_runApplication deps between ?_ hpaced
        rwa [ha]
      exact hkeeps.state heq hmax
  · intro hne later heq
    have hlater := (preserves_runApplication deps later hsecond).monotone
    have hle := hpreserves.monotone
    have hrevision := revision_of_token_eq heq
    omega
  · intro hmax token hcheck
    have hle := hpreserves.monotone
    have hbound := hsecond.bounded
    have hend : a'.revision = revisionMax := by omega
    unfold gatewayApplicationRevisionCheck at hcheck
    rw [if_pos hend] at hcheck
    exact absurd hcheck (by decide)

/-! ## A transaction that fails twice, and one that is lost -/

/-- What the observer and one supervisor after the other have to say. -/
structure Script where
  observer : List ObserverRead := []
  supervisors : List (List StatusRead) := []

/-- A system whose answers are read off a script: an observer exits when it has been read, a
    supervisor at the end of its own frames. -/
def scriptedNetwork : NetworkSystem Script where
  clock := fun w => (0, w)
  readObserver := fun w => (w.observer.headD .again, { w with observer := w.observer.tail })
  reapObserver := fun w => (.exited true, w)
  killObserver := id
  startObserver := fun _ w => (.started, w)
  recvStatus := fun w =>
    ((w.supervisors.headD []).headD .none,
      { w with supervisors := (w.supervisors.headD []).tail :: w.supervisors.tail })
  reapSupervisor := fun w =>
    ((w.supervisors.headD []).isEmpty,
      if (w.supervisors.headD []).isEmpty then { w with supervisors := w.supervisors.tail } else w)
  startSupervisor := fun _ w => (true, w)
  send := fun _ w => (true, w)

/-- A gateway with a stored configuration, in a system where everything succeeds. -/
def scriptedDependencies (stored : GatewayPersistentConfig) :
    GatewayApplicationDependencies Script (List Int) (List Int) fun _ _ => False where
  clock := fun w => (0, w)
  stopSignal := fun w => (false, w)
  selectConfiguration := fun w => ((.ok, stored, .active), w)
  provideBindings := fun _ w =>
    (some
      { binding := fun _ =>
          { backendOps := some scriptedBackend, transportOps := some scriptedListener }
        objects := fun _ => ([], []) }, w)
  attachBindings := none
  stageConfiguration := fun _ w => (.ok, w)
  promoteConfiguration := fun w => (.ok, w)
  discardConfiguration := id
  backlightSet := none
  systemTimeGet := fun w => ((.readFailed, ⟨0, 0, 0, 0, 0, 0⟩), w)
  systemTimeSet := fun _ w => (.ok, w)
  ntpStart := none
  ntpPoll := none
  ntpCancel := none
  rtcProbe := none
  rtcSave := none
  network := scriptedNetwork
  documents := { render := fun interfaces _ => some interfaces, resolver := fun resolver _ => some resolver }

/-- Two interfaces of two networks. -/
def twoNetworks : NetworkSettings where
  lan := fun i =>
    { mode := .static, address := if i = 0 then text "10.0.0.1" else text "10.0.1.1"
      netmask := text "255.255.255.0" }

def scriptedApplication (environment : NetworkEnvironment) (w : Script) :
    GatewayApplication Script (List Int) (List Int) fun _ _ => False :=
  gatewayApplicationInit (some (environment, { settings := twoNetworks })) emptyString (scriptedStart [] []) 0 w

/-- All ports disabled. -/
def idleDependencies : GatewayApplicationDependencies Script (List Int) (List Int) fun _ _ => False :=
  scriptedDependencies gatewayPersistentSafeMode

/-- A network without a service and an observer. -/
def localNetwork : NetworkEnvironment := { service := false, readNetwork := false }

/-- The supervisors of two transactions fail. -/
def failingApplication : GatewayApplication Script (List Int) (List Int) fun _ _ => False :=
  scriptedApplication localNetwork
    { supervisors := [[.frame { state := .failed }], [.frame { state := .failed }]] }

/-- The gateway starts, and a network transaction fails. -/
def failedOnce : List ApplicationCall :=
  List.replicate 7 .step ++ [.networkApply twoNetworks, .step]

/-- A network with a service and an observer. -/
def servedNetwork : NetworkEnvironment := { service := true, readNetwork := true }

/-- The supervisor of a transaction is lost. The observer has seen the first interface at
    10.0.0.1 and sees it, before the service has settled again, where it is said here. -/
def lostApplication (address : CText) : GatewayApplication Script (List Int) (List Int) fun _ _ => False :=
  scriptedApplication servedNetwork
    { observer := [text "10.0.0.1", address].map fun first => .frame
        { observed := { lan := fun i => { address := if i = 0 then first else text "10.0.1.1" } } }
      supervisors := [[]] }

/-- The gateway starts, a network transaction ends without a result, and the recovery
    starts its observer. -/
def lostOnce : List ApplicationCall :=
  List.replicate 7 .step ++ [.networkApply twoNetworks, .step, .step]

/-- The token of a network that has failed is good until something happens, and the token of
    one that recovers is good while it is observed where it was. -/
theorem tokens_failedOnce :
    (runApplication idleDependencies [.step, .step]
        (runApplication idleDependencies failedOnce failingApplication)).network.status.state =
      (runApplication idleDependencies failedOnce failingApplication).network.status.state ∧
    ((runApplication idleDependencies [.step, .step]
        (runApplication idleDependencies lostOnce
          (lostApplication (text "10.0.0.1")))).network.observed.lan 0).address =
      ((runApplication idleDependencies lostOnce
        (lostApplication (text "10.0.0.1"))).network.observed.lan 0).address :=
  ⟨((tokens_of_keepsPace idleDependencies _ _ _ _ _ failedOnce [.step, .step] _ _ _ rfl rfl rfl).1
      (by decide +kernel)).2.2 (by decide +kernel),
    ((tokens_of_keepsPace idleDependencies _ _ _ _ _ lostOnce [.step, .step] _ _ _ rfl rfl rfl).1
      (by decide +kernel)).2.1 (by decide +kernel) 0⟩

/-- Once the supervisor is gone, there is another transaction. -/
def failedTwice : List ApplicationCall := failedOnce ++ [.step, .networkApply twoNetworks]

/-- **The change that is none.** The second transaction fails before the network has been in
    any other state at the end of a poll: the token of the network being applied still passes
    once it has failed. And a recovery that is observed at another address, before the
    service has settled, does not advance the revision. -/
theorem token_outlives_failure :
    (gatewayApplicationRevisionCheck
        (runApplication idleDependencies (failedTwice ++ [.step]) failingApplication)
        (gatewayApplicationRevision
          (runApplication idleDependencies failedTwice failingApplication)) = 0 ∧
      (runApplication idleDependencies failedTwice failingApplication).network.status.state = .applying ∧
      (runApplication idleDependencies (failedTwice ++ [.step])
        failingApplication).network.status.state = .failed) ∧
    gatewayApplicationRevisionCheck
        (runApplication idleDependencies (lostOnce ++ [.step]) (lostApplication (text "10.0.0.9")))
        (gatewayApplicationRevision
          (runApplication idleDependencies lostOnce (lostApplication (text "10.0.0.9")))) = 0 ∧
      ((runApplication idleDependencies lostOnce
        (lostApplication (text "10.0.0.9"))).network.observed.lan 0).address = text "10.0.0.1" ∧
      ((runApplication idleDependencies (lostOnce ++ [.step])
        (lostApplication (text "10.0.0.9"))).network.observed.lan 0).address = text "10.0.0.9" := by
  decide +kernel

end FourVrs.App
