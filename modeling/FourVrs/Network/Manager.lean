import FourVrs.Core.Deadline
import FourVrs.Lib.Prog

/-!
# The network manager and its supervisor
(`network/gateway_network_manager.c`, `network/gateway_network_supervisor.c`)

The manager takes a candidate network through trial and confirmation: staged,
applied, bound to, kept or reverted. What it does to the network it does through six
operations, so its functions are programs that call them. The supervisor is the loop
of the process that owns the manager; it hears one command of its client in a turn.

`GatewayNetworkSettings` is the type `Settings`, and its validation a parameter.
Tracing is left out.
-/

set_option autoImplicit false

namespace FourVrs.Network

open FourVrs.Core Lib

def networkConfirmMs : CoreTick := 60000
def networkApplyMs : CoreTick := 30000
def networkRollbackMs : CoreTick := 30000
def networkCommitMs : CoreTick := 3000

/-- `gateway_network_state_t`. -/
inductive NetworkState where
  | unavailable | idle | applying | waitBindings | waitConfirm | committing | rollingBack
  | rollbackBindings | kept | reverted | failed | rollbackFailed | durabilityUncertain
  deriving DecidableEq, Repr, Inhabited

/-- `gateway_network_rollback_reason_t`. -/
inductive RollbackReason where
  | none | peer | revert | deadline | stage | apply | observation | commit
  deriving DecidableEq, Repr, Inhabited

structure NetworkManager where
  state : NetworkState
  deadline : CoreDeadline
  clientAlive : Bool
  confirmationRequested : Bool
  rollbackRequested : Bool
  bindingsReady : Bool
  generation : BitVec 32
  rollbackReason : RollbackReason
  errorCode : Int
  deriving DecidableEq, Repr, Inhabited

/-- `gateway_network_manager_ops_t`; each operation returns an `int`. -/
inductive ManagerCall (Settings : Type) where
  | stage (candidate : Settings)
  | apply | poll | commit | restore | discard
  deriving DecidableEq, Repr

variable {Settings : Type}

abbrev ManagerProg (Settings α : Type) : Type := Prog (ManagerCall Settings) (fun _ => Int) α

/-- A call and what it returned. -/
abbrev ManagerAnswer (Settings : Type) : Type := (_ : ManagerCall Settings) × Int

def callOp (call : ManagerCall Settings) : ManagerProg Settings Int := .lift call

/-! ## The manager -/

def managerInit : NetworkManager :=
  { (default : NetworkManager) with state := .idle }

variable (m : NetworkManager)

def managerBusy : Bool :=
  match m.state with
  | .applying | .waitBindings | .waitConfirm | .committing | .rollingBack | .rollbackBindings => true
  | _ => false

/-- What `rollback` makes of the manager, `restore` having returned `r`. -/
def restored (now : CoreTick) (r : Int) : NetworkManager :=
  let m := { m with confirmationRequested := false, rollbackRequested := false, bindingsReady := false }
  if r ≠ 0 then { m with errorCode := r, state := .rollbackFailed }
  else { m with state := .rollingBack, deadline := coreDeadlineAfter now networkRollbackMs }

def rollback (now : CoreTick) : ManagerProg Settings NetworkManager := do
  let r ← callOp .restore
  pure (restored m now r)

def managerApply (validate : Settings → Int) (m : NetworkManager) (candidate : Settings)
    (now : CoreTick) : ManagerProg Settings (Int × NetworkManager) := do
  if managerBusy m ∨ m.state = .rollbackFailed ∨ m.state = .durabilityUncertain ∨
      validate candidate ≠ 0 then pure (-1, m)
  else
    let m := { m with confirmationRequested := false, rollbackRequested := false, bindingsReady := false,
                      clientAlive := true, rollbackReason := .none, errorCode := 0 }
    let r ← callOp (.stage candidate)
    if r ≠ 0 then pure (-1, { m with rollbackReason := .stage, errorCode := r, state := .failed })
    else
      let m := { m with generation := m.generation + 1 }
      let r ← callOp .apply
      if r ≠ 0 then
        let m ← rollback { m with rollbackReason := .apply, errorCode := r } now
        pure (-1, m)
      else pure (0, { m with state := .applying, deadline := coreDeadlineAfter now networkApplyMs })

def managerConfirm : Int × NetworkManager :=
  if m.state ≠ .waitConfirm ∨ ¬ m.clientAlive ∨ ¬ m.bindingsReady then (-1, m)
  else (0, { m with confirmationRequested := true })

def managerRevert : NetworkManager :=
  { m with rollbackRequested := true }

/-- A trial that can still be called off. -/
def NetworkManager.onTrial : Bool :=
  match m.state with
  | .applying | .waitBindings | .waitConfirm | .committing => true
  | _ => false

/-- The client is gone, a revert is pending or the deadline has expired. -/
def NetworkManager.calledOff (now : CoreTick) : Bool :=
  !m.clientAlive || m.rollbackRequested || coreDeadlineExpired m.deadline now

def managerStep (now : CoreTick) : ManagerProg Settings NetworkManager :=
  if m.onTrial && m.calledOff now then
    rollback { m with rollbackReason :=
      if !m.clientAlive then .peer else if m.rollbackRequested then .revert else .deadline } now
  else
    match m.state with
    | .applying => do
      let r ← callOp .poll
      if r < 0 then rollback { m with rollbackReason := .observation, errorCode := r } now
      else if r > 0 then pure { m with state := .waitBindings }
      else pure m
    | .waitBindings =>
      if m.bindingsReady then
        pure { m with state := .waitConfirm, deadline := coreDeadlineAfter now networkConfirmMs }
      else pure m
    | .waitConfirm => do
      let r ← callOp .poll
      if r ≠ 1 ∨ ¬ m.bindingsReady then
        rollback { m with rollbackReason := .observation, errorCode := r } now
      else if m.confirmationRequested then
        pure { m with state := .committing, deadline := coreDeadlineAfter now networkCommitMs }
      else pure m
    | .committing => do
      let r ← callOp .commit
      if r = 1 then pure m
      else
        let m := if r ≠ 0 then { m with rollbackReason := .commit, errorCode := r } else m
        if r = -2 then pure { m with state := .durabilityUncertain }
        else if r ≠ 0 then rollback m now
        else pure { m with state := .kept }
    | .rollingBack => do
      let r ← callOp .poll
      if r = 2 then pure { m with state := .kept }
      else if r < 0 ∨ coreDeadlineExpired m.deadline now then
        pure { m with errorCode := if r < 0 then r else -1, state := .rollbackFailed }
      else if r > 0 then
        let r ← callOp .discard
        if r ≠ 0 then pure { m with errorCode := r, state := .rollbackFailed }
        else pure { m with state := if m.clientAlive then .rollbackBindings else .reverted }
      else pure m
    | .rollbackBindings =>
      if m.bindingsReady ∨ ¬ m.clientAlive then pure { m with state := .reverted }
      else if coreDeadlineExpired m.deadline now then
        pure { m with errorCode := -1, state := .rollbackFailed }
      else pure m
    | _ => pure m

/-! ## The supervisor -/

/-- What `poll` says of the client's end; `failed` is any error but `EINTR`. -/
inductive PollResult where
  | quiet | hangup | failed
  deriving DecidableEq, Repr

/-- What `recv` returns; `again` stands for `EAGAIN`, `EWOULDBLOCK` and `EINTR`. -/
inductive RecvResult where
  | again | eof | failed
  | command (byte : Char)
  deriving DecidableEq, Repr

/-- What `send` returns; `again` also stands for a short count. -/
inductive SendResult where
  | sent | again | failed
  deriving DecidableEq, Repr

/-- What the supervisor is told in one turn of its loop. -/
structure Turn where
  polled : PollResult := .quiet
  received : RecvResult := .again
  stopping : Bool := false
  now : CoreTick
  sent : SendResult := .sent
  waited : PollResult := .quiet
  deriving DecidableEq, Repr

structure Supervisor where
  manager : NetworkManager
  channelAlive : Bool
  announced : NetworkState
  /-- The loop has not been left. -/
  running : Bool
  deriving DecidableEq, Repr

variable (s : Supervisor)

/-- `LOST`. -/
def supervisorLost : Supervisor :=
  if s.channelAlive then
    { s with channelAlive := false, manager := { s.manager with clientAlive := false } }
  else s

/-- A poll of the client's end, or of no descriptor. -/
def supervisorPoll (polled : Bool) : PollResult → Supervisor
  | .quiet => s
  | .hangup => if polled then supervisorLost s else s
  | .failed => supervisorLost s

def supervisorCommand (byte : Char) : NetworkManager :=
  if byte = 'K' then (managerConfirm m).2
  else if byte = 'R' then managerRevert m
  else if byte = 'D' then { m with clientAlive := false }
  else if byte = 'B' then
    if m.state = .waitBindings ∨ m.state = .rollbackBindings then { m with bindingsReady := true } else m
  else managerRevert m

def supervisorReceive (received : RecvResult) : Supervisor :=
  if s.channelAlive && s.manager.clientAlive then
    match received with
    | .again => s
    | .eof | .failed => supervisorLost s
    | .command byte => { s with manager := supervisorCommand s.manager byte }
  else s

def supervisorSignal (stopping : Bool) : Supervisor :=
  if stopping && s.manager.clientAlive then
    { s with manager := managerRevert { s.manager with clientAlive := false } }
  else s

/-- All that comes before the manager's step. -/
def supervisorHear (turn : Turn) : Supervisor :=
  supervisorSignal (supervisorReceive (supervisorPoll s s.channelAlive turn.polled) turn.received)
    turn.stopping

/-- The status is sent when the state is news. -/
def supervisorAnnounce (result : SendResult) : Supervisor :=
  if s.channelAlive && s.manager.state ≠ s.announced then
    match result with
    | .sent => { s with announced := s.manager.state }
    | .again => s
    | .failed => supervisorLost s
  else s

def supervisorTurn (turn : Turn) : ManagerProg Settings Supervisor := do
  let s := supervisorHear s turn
  let m ← managerStep s.manager turn.now
  let s := supervisorAnnounce { s with manager := m } turn.sent
  if !managerBusy s.manager then pure { s with running := false }
  else pure (supervisorPoll s s.manager.clientAlive turn.waited)

def supervisorStart (validate : Settings → Int) (m : NetworkManager) (candidate : Settings)
    (now : CoreTick) : ManagerProg Settings Supervisor := do
  let (_, m) ← managerApply validate m candidate now
  pure { manager := m, channelAlive := true, announced := .unavailable, running := true }

/-! ## What a step can do -/

/-- The steps of the manager, with the calls they make. -/
inductive Stepped (m : NetworkManager) (now : CoreTick) :
    List (ManagerAnswer Settings) → NetworkManager → Prop where
  | finished (h : managerBusy m = false) : Stepped m now [] m
  | cancelled (reason : RollbackReason) (r : Int) (htrial : m.onTrial = true)
      (hoff : m.calledOff now = true) :
      Stepped m now [⟨.restore, r⟩] (restored { m with rollbackReason := reason } now r)
  | unfit (observed r : Int) (hstate : m.state = .applying ∨ m.state = .waitConfirm) :
      Stepped m now [⟨.poll, observed⟩, ⟨.restore, r⟩]
        (restored { m with rollbackReason := .observation, errorCode := observed } now r)
  | applying (hstate : m.state = .applying) : Stepped m now [⟨.poll, 0⟩] m
  | applied (r : Int) (hstate : m.state = .applying) (hr : 0 < r) :
      Stepped m now [⟨.poll, r⟩] { m with state := .waitBindings }
  | unbound (hstate : m.state = .waitBindings) (hready : m.bindingsReady = false) : Stepped m now [] m
  | bound (hstate : m.state = .waitBindings) (hready : m.bindingsReady = true) :
      Stepped m now []
        { m with state := .waitConfirm, deadline := coreDeadlineAfter now networkConfirmMs }
  | unconfirmed (hstate : m.state = .waitConfirm) : Stepped m now [⟨.poll, 1⟩] m
  | confirmed (hstate : m.state = .waitConfirm) (hready : m.bindingsReady = true)
      (hrequested : m.confirmationRequested = true) :
      Stepped m now [⟨.poll, 1⟩]
        { m with state := .committing, deadline := coreDeadlineAfter now networkCommitMs }
  | saving (hstate : m.state = .committing) (hon : m.calledOff now = false) :
      Stepped m now [⟨.commit, 1⟩] m
  | saved (hstate : m.state = .committing) (hon : m.calledOff now = false) :
      Stepped m now [⟨.commit, 0⟩] { m with state := .kept }
  | uncertain (hstate : m.state = .committing) (hon : m.calledOff now = false) :
      Stepped m now [⟨.commit, -2⟩]
        { m with rollbackReason := .commit, errorCode := -2, state := .durabilityUncertain }
  | unsaved (refused r : Int) (hstate : m.state = .committing) (hon : m.calledOff now = false)
      (hrefused : refused ≠ 0 ∧ refused ≠ 1 ∧ refused ≠ -2) :
      Stepped m now [⟨.commit, refused⟩, ⟨.restore, r⟩]
        (restored { m with rollbackReason := .commit, errorCode := refused } now r)
  | savedBefore (hstate : m.state = .rollingBack) :
      Stepped m now [⟨.poll, 2⟩] { m with state := .kept }
  | rollbackFailed (r error : Int) (hstate : m.state = .rollingBack) (hr : r ≠ 2) :
      Stepped m now [⟨.poll, r⟩] { m with errorCode := error, state := .rollbackFailed }
  | rollingBack (hstate : m.state = .rollingBack) : Stepped m now [⟨.poll, 0⟩] m
  | undiscarded (polled r : Int) (hstate : m.state = .rollingBack) (hpolled : 0 < polled ∧ polled ≠ 2)
      (hr : r ≠ 0) :
      Stepped m now [⟨.poll, polled⟩, ⟨.discard, r⟩]
        { m with errorCode := r, state := .rollbackFailed }
  | discarded (polled : Int) (hstate : m.state = .rollingBack) (hpolled : 0 < polled ∧ polled ≠ 2) :
      Stepped m now [⟨.poll, polled⟩, ⟨.discard, 0⟩]
        { m with state := if m.clientAlive then .rollbackBindings else .reverted }
  | reboundFailed (hstate : m.state = .rollbackBindings) :
      Stepped m now [] { m with errorCode := -1, state := .rollbackFailed }
  | rebinding (hstate : m.state = .rollbackBindings) : Stepped m now [] m
  | rebound (hstate : m.state = .rollbackBindings) : Stepped m now [] { m with state := .reverted }

theorem rollback_answers {m m' : NetworkManager} {now : CoreTick}
    {calls : List (ManagerAnswer Settings)} :
    (rollback m now).Answers calls m' ↔ ∃ r, calls = [⟨.restore, r⟩] ∧ m' = restored m now r := by
  simp [rollback, callOp, Prog.lift_bind]

/-- **What a step can do.** The cases are those of the source, guards included. -/
theorem managerStep_answers {m m' : NetworkManager} {now : CoreTick}
    {calls : List (ManagerAnswer Settings)} (h : (managerStep m now).Answers calls m') :
    Stepped m now calls m' := by
  unfold managerStep at h
  split at h
  · rename_i hoff
    obtain ⟨r, rfl, rfl⟩ := rollback_answers.1 h
    rw [Bool.and_eq_true] at hoff
    exact .cancelled _ r hoff.1 hoff.2
  rename_i hnot
  split at h
  case h_1 hstate =>
    simp only [callOp, Prog.lift_bind, Prog.answers_call] at h
    obtain ⟨r, rest, rfl, h⟩ := h
    split at h
    · obtain ⟨r', rfl, rfl⟩ := rollback_answers.1 h
      exact .unfit r r' (Or.inl hstate)
    split at h
    · obtain ⟨rfl, rfl⟩ := Prog.answers_pure.1 h
      exact .applied r hstate (by assumption)
    · obtain ⟨rfl, rfl⟩ := Prog.answers_pure.1 h
      obtain rfl : r = 0 := by omega
      exact .applying hstate
  case h_2 hstate =>
    split at h
    · obtain ⟨rfl, rfl⟩ := Prog.answers_pure.1 h
      exact .bound hstate (by assumption)
    · rename_i hready
      obtain ⟨rfl, rfl⟩ := Prog.answers_pure.1 h
      exact .unbound hstate (by simpa using hready)
  case h_3 hstate =>
    simp only [callOp, Prog.lift_bind, Prog.answers_call] at h
    obtain ⟨r, rest, rfl, h⟩ := h
    split at h
    · obtain ⟨r', rfl, rfl⟩ := rollback_answers.1 h
      exact .unfit r r' (Or.inr hstate)
    · rename_i hfit
      rw [not_or, not_not, not_not] at hfit
      obtain ⟨rfl, hready⟩ := hfit
      split at h
      · obtain ⟨rfl, rfl⟩ := Prog.answers_pure.1 h
        exact .confirmed hstate hready (by assumption)
      · obtain ⟨rfl, rfl⟩ := Prog.answers_pure.1 h
        exact .unconfirmed hstate
  case h_4 hstate =>
    -- the guard has let the commit through
    have hon : m.calledOff now = false := by
      simpa [NetworkManager.onTrial, hstate] using hnot
    simp only [callOp, Prog.lift_bind, Prog.answers_call] at h
    obtain ⟨r, rest, rfl, h⟩ := h
    split at h
    · obtain ⟨rfl, rfl⟩ := Prog.answers_pure.1 h
      subst r
      exact .saving hstate hon
    rename_i hdone
    split at h
    · obtain ⟨rfl, rfl⟩ := Prog.answers_pure.1 h
      subst r
      exact .uncertain hstate hon
    · rename_i hcertain
      by_cases hr : r = 0
      · subst r
        obtain ⟨rfl, rfl⟩ := Prog.answers_pure.1 h
        exact .saved hstate hon
      · simp only [ne_eq, hr, not_false_eq_true, if_true] at h
        obtain ⟨r', rfl, rfl⟩ := rollback_answers.1 h
        exact .unsaved r r' hstate hon ⟨hr, hdone, hcertain⟩
  case h_5 hstate =>
    simp only [callOp, Prog.lift_bind, Prog.answers_call] at h
    obtain ⟨r, rest, rfl, h⟩ := h
    split at h
    · obtain ⟨rfl, rfl⟩ := Prog.answers_pure.1 h
      subst r
      exact .savedBefore hstate
    rename_i hr
    split at h
    · obtain ⟨rfl, rfl⟩ := Prog.answers_pure.1 h
      exact .rollbackFailed r _ hstate hr
    · rename_i hwait
      rw [not_or] at hwait
      split at h
      · rename_i hpositive
        simp only [Prog.answers_call] at h
        obtain ⟨r', rest, rfl, h⟩ := h
        split at h
        · obtain ⟨rfl, rfl⟩ := Prog.answers_pure.1 h
          exact .undiscarded r r' hstate ⟨hpositive, hr⟩ (by assumption)
        · rename_i hdiscarded
          obtain ⟨rfl, rfl⟩ := Prog.answers_pure.1 h
          obtain rfl := not_not.1 hdiscarded
          exact .discarded r hstate ⟨hpositive, hr⟩
      · obtain ⟨rfl, rfl⟩ := Prog.answers_pure.1 h
        obtain rfl : r = 0 := by omega
        exact .rollingBack hstate
  case h_6 hstate =>
    split at h
    · obtain ⟨rfl, rfl⟩ := Prog.answers_pure.1 h
      exact .rebound hstate
    split at h
    · obtain ⟨rfl, rfl⟩ := Prog.answers_pure.1 h
      exact .reboundFailed hstate
    · obtain ⟨rfl, rfl⟩ := Prog.answers_pure.1 h
      exact .rebinding hstate
  case h_7 =>
    obtain ⟨rfl, rfl⟩ := Prog.answers_pure.1 h
    refine .finished ?_
    unfold managerBusy
    split <;> simp_all

end FourVrs.Network
