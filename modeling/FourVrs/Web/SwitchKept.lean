import FourVrs.Web.SessionKept
import FourVrs.Web.Switch

/-!
# What the service keeps of a switch

The log says of a switch what the service keeps of it (`SwitchTold`), and of the session and
the process what they are (`WebInv`). Every part of a step keeps this; within a step, the
service also follows the selected protocol, and a process for another one is being stopped or
still sends its response (`Serving`).
-/

set_option autoImplicit false

namespace FourVrs.Web

open FourVrs.Core Config App Lib
open Prog (Always)

/-! ## The switch and the log -/

/-- `switch_pending`, `switch_failed`, `switch_from` and `switch_at` are what the log says. -/
inductive SwitchTold (log : WebLog) : Bool → Bool → Nat → CoreTick → Prop where
  | settled (before : Nat) (at' : CoreTick) (h : Settled log) : SwitchTold log false false before at'
  | pending {since before : Nat} {later : WebLog} {failed : Bool} (h : Pending log since before later)
      (hfailed : failed = true ↔ ∃ f ∈ later, f.2.Fails) : SwitchTold log true failed before (tick since)

section Told

variable {log later : WebLog} {pending failed : Bool} {before since : Nat} {at' : CoreTick}

theorem Settled.snoc {e : Nat × WebEvent} (h : Settled log) (hbegins : ¬ e.2.Begins) : Settled (log ++ [e]) := by
  intro hsince
  rcases since_append_singleton.1 hsince with hsince | ⟨hsince, _⟩
  · exact hbegins hsince
  · exact h hsince

theorem settled_snoc_settles {e : Nat × WebEvent} (h : e.2.Settles) (log : WebLog) : Settled (log ++ [e]) := by
  intro hsince
  rcases since_append_singleton.1 hsince with ⟨before, heq⟩ | ⟨_, hends⟩
  · rw [heq] at h
    exact h
  · exact hends h

theorem Pending.snoc {e : Nat × WebEvent} (h : Pending log since before later) (hsettles : ¬ e.2.Settles) :
    Pending (log ++ [e]) since before (later ++ [e]) := by
  obtain ⟨past, rfl, hpast, hlater⟩ := h
  refine ⟨past, by simp, hpast, fun f hf => ?_⟩
  rcases List.mem_append.1 hf with hf | hf
  · exact hlater f hf
  · exact (List.mem_singleton.1 hf) ▸ hsettles

/-- A pending switch is not settled. -/
theorem Pending.not_settled (h : Pending log since before later) : ¬ Settled log := by
  obtain ⟨past, rfl, _, hlater⟩ := h
  exact fun hsettled => hsettled ⟨past, _, later, rfl, ⟨before, rfl⟩, hlater⟩

/-- The log says of one switch that it is pending. -/
theorem Pending.unique {since' before' : Nat} {later' : WebLog} (h : Pending log since before later)
    (h' : Pending log since' before' later') : since = since' ∧ before = before' ∧ later = later' := by
  obtain ⟨past, rfl, hpast, hlater⟩ := h
  obtain ⟨past', heq, hpast', hlater'⟩ := h'
  -- otherwise the past of one of the two is not settled
  rcases List.append_eq_append_iff.1 heq with ⟨as, rfl, has⟩ | ⟨as, rfl, has⟩
  · cases as with
    | nil =>
      cases has
      exact ⟨rfl, rfl, rfl⟩
    | cons e as =>
      cases has
      refine absurd ⟨past, _, as, rfl, ⟨before, rfl⟩, fun e he => hlater e ?_⟩ hpast'
      simp [he]
  · cases as with
    | nil =>
      cases has
      exact ⟨rfl, rfl, rfl⟩
    | cons e as =>
      cases has
      refine absurd ⟨past', _, as, rfl, ⟨before', rfl⟩, fun e he => hlater' e ?_⟩ hpast
      simp [he]

/-- An event that neither begins nor settles anything, and is no failure. -/
theorem SwitchTold.snoc {e : Nat × WebEvent} (h : SwitchTold log pending failed before at')
    (hbegins : pending = false → ¬ e.2.Begins) (hsettles : ¬ e.2.Settles) (hfails : ¬ e.2.Fails) :
    SwitchTold (log ++ [e]) pending failed before at' := by
  cases h with
  | settled before at' h => exact .settled before at' (h.snoc (hbegins rfl))
  | pending h hfailed =>
    refine .pending (h.snoc hsettles) (hfailed.trans ?_)
    simp [or_and_right, exists_or, hfails]

/-- A failure is taken for one of the switch, if one is pending. -/
theorem SwitchTold.fails {e : Nat × WebEvent} (h : SwitchTold log pending failed before at')
    (hbegins : ¬ e.2.Begins) (hsettles : ¬ e.2.Settles) (hfails : pending = true → e.2.Fails) :
    SwitchTold (log ++ [e]) pending (failed || pending) before at' := by
  cases h with
  | settled before at' h => exact .settled before at' (h.snoc hbegins)
  | pending h hfailed =>
    refine .pending (h.snoc hsettles) ⟨fun _ => ⟨e, by simp, hfails rfl⟩, fun _ => ?_⟩
    rw [Bool.or_true]

theorem SwitchTold.begins (h : SwitchTold log false failed before at') (now : Nat) (from' : Nat) :
    SwitchTold (log ++ [(now, .changed from' true)]) true failed from' (tick now) := by
  cases h with
  | settled before at' h => exact .pending ⟨log, rfl, h, by simp⟩ (by simp)

end Told

/-! ## The invariant -/

/-- The event may follow these. -/
structure Allowed (past : WebLog) (e : Nat × WebEvent) : Prop where
  authorizes : Authorizes past e
  asks : AsksSettled past e
  undoes : Undoes past e

/-- The invariant of the service; `start` is where its log was. -/
structure WebInv (start : WebLog) (w : WebGateway) : Prop where
  told : SwitchTold w.log w.switchPending w.switchFailed w.switchFrom w.switchAt
  session : w.security.token ≠ [] → SessionSince w.log w.security.token
  connected : w.peer = true → w.pid = true ∧ w.stopping = false ∧ LastConnected w.log w.launchProtocol
  stopped : w.stopping = true → w.pid = true ∧ w.listener = false
  outgoing : w.outgoing = true → w.peer = true
  uninitialized : w.initialized = false → w.switchPending = false ∧ w.pid = false
  allowed : Each Allowed w.log
  grown : start <+: w.log

/-- Within a step: the selected protocol has been observed. -/
structure Watching (world : WebWorld) (start : WebLog) (w : WebGateway) : Prop extends WebInv start w where
  selected : w.initialized = true → w.protocolSeen = world.selected.settings.webProtocol
  own : world.exit.isSome = true → w.pid = true → w.switchPending = true → w.launchProtocol = w.protocolSeen
  timed : ∀ e ∈ w.log, e.1 ≤ world.at'

/-- And a process for another one is stopped, unless its response is being sent. -/
structure Serving (world : WebWorld) (start : WebLog) (w : WebGateway) : Prop extends Watching world start w where
  running : w.initialized = true
  served : w.pid = true → w.stopping = false → w.launchProtocol = w.protocolSeen ∨ w.outgoing = true

/-- What the invariant is about. -/
def WebGateway.core (w : WebGateway) : WebGateway where
  initialized := w.initialized
  security := { token := w.security.token }
  protocolSeen := w.protocolSeen
  launchProtocol := w.launchProtocol
  switchFrom := w.switchFrom
  switchPending := w.switchPending
  switchFailed := w.switchFailed
  switchAt := w.switchAt
  pid := w.pid
  peer := w.peer
  listener := w.listener
  stopping := w.stopping
  outgoing := w.outgoing
  log := w.log

section Invariant

variable {world : WebWorld} {start : WebLog} {w w' : WebGateway}

theorem webInv_core : WebInv start w.core ↔ WebInv start w := by
  constructor
  all_goals
    intro h
    exact ⟨h.told, h.session, h.connected, h.stopped, h.outgoing, h.uninitialized, h.allowed, h.grown⟩

theorem watching_core : Watching world start w.core ↔ Watching world start w := by
  constructor
  · intro h
    exact ⟨webInv_core.1 h.toWebInv, h.selected, h.own, h.timed⟩
  · intro h
    exact ⟨webInv_core.2 h.toWebInv, h.selected, h.own, h.timed⟩

theorem serving_core : Serving world start w.core ↔ Serving world start w := by
  constructor
  · intro h
    exact ⟨watching_core.1 h.toWatching, h.running, h.served⟩
  · intro h
    exact ⟨watching_core.2 h.toWatching, h.running, h.served⟩

theorem WebInv.congr (h : WebInv start w) (heq : w'.core = w.core) : WebInv start w' :=
  webInv_core.1 (heq ▸ webInv_core.2 h)

theorem Watching.congr (h : Watching world start w) (heq : w'.core = w.core) : Watching world start w' :=
  watching_core.1 (heq ▸ watching_core.2 h)

theorem Serving.congr (h : Serving world start w) (heq : w'.core = w.core) : Serving world start w' :=
  serving_core.1 (heq ▸ serving_core.2 h)

theorem WebInv.regrade {start' : WebLog} (h : WebInv start w) (hgrown : start' <+: w.log) : WebInv start' w :=
  { h with grown := hgrown }

theorem Watching.regrade {start' : WebLog} (h : Watching world start w) (hgrown : start' <+: w.log) :
    Watching world start' w :=
  { h with toWebInv := h.toWebInv.regrade hgrown }

/-! ### The session -/

variable {s : WebSecurity}

theorem WebInv.keeps (h : WebInv start w) (hkept : SessionKept w.security s) :
    WebInv start { w with security := s } where
  __ := h
  session htoken := by
    show SessionSince w.log s.token
    rw [hkept htoken]
    exact h.session (hkept htoken ▸ htoken)

theorem Watching.keeps (h : Watching world start w) (hkept : SessionKept w.security s) :
    Watching world start { w with security := s } :=
  { h with toWebInv := h.toWebInv.keeps hkept }

theorem Serving.keeps (h : Serving world start w) (hkept : SessionKept w.security s) :
    Serving world start { w with security := s } :=
  { h with toWatching := h.toWatching.keeps hkept }

/-! ### Events -/

/-- Neither a switch nor a connection. -/
def WebEvent.Plain (event : WebEvent) : Prop :=
  ¬ event.Changes ∧ ∀ launched selected, event ≠ .connected launched selected

theorem WebInv.notes {e : Nat × WebEvent} {pending failed : Bool} (h : WebInv start w) (hplain : e.2.Plain)
    (hallowed : Allowed w.log e) (hpending : pending = true → w.switchPending = true)
    (htold : SwitchTold (w.log ++ [e]) pending failed w.switchFrom w.switchAt) :
    WebInv start { w with log := w.log ++ [e], switchPending := pending, switchFailed := failed } where
  told := htold
  session htoken := (h.session htoken).snoc hplain.1
  connected hpeer := by
    obtain ⟨hpid, hstopping, hlast⟩ := h.connected hpeer
    exact ⟨hpid, hstopping, hlast.snoc fun ⟨launched, selected, heq⟩ => hplain.2 launched selected heq⟩
  stopped := h.stopped
  outgoing := h.outgoing
  uninitialized hinit := by
    obtain ⟨hnone, hpid⟩ := h.uninitialized hinit
    refine ⟨?_, hpid⟩
    by_contra hne
    simp [hpending (by simpa using hne)] at hnone
  allowed := each_append_singleton.2 ⟨h.allowed, hallowed⟩
  grown := h.grown.trans (List.prefix_append _ _)

theorem timed_snoc {log : WebLog} {e : Nat × WebEvent} {now : Nat} (h : ∀ f ∈ log, f.1 ≤ now) (he : e.1 ≤ now) :
    ∀ f ∈ log ++ [e], f.1 ≤ now := by
  intro f hf
  rcases List.mem_append.1 hf with hf | hf
  · exact h f hf
  · exact (List.mem_singleton.1 hf) ▸ he

variable {e : WebEvent}

theorem Watching.notes {pending failed : Bool} (h : Watching world start w) (hplain : e.Plain)
    (hallowed : Allowed w.log (world.at', e)) (hpending : pending = true → w.switchPending = true)
    (htold : SwitchTold (w.log ++ [(world.at', e)]) pending failed w.switchFrom w.switchAt) :
    Watching world start
      { w with log := w.log ++ [(world.at', e)], switchPending := pending, switchFailed := failed } where
  toWebInv := h.toWebInv.notes hplain hallowed hpending htold
  selected := h.selected
  own hexit hpid hp := h.own hexit hpid (hpending hp)
  timed := timed_snoc h.timed (Nat.le_refl _)

theorem Serving.notes {pending failed : Bool} (h : Serving world start w) (hplain : e.Plain)
    (hallowed : Allowed w.log (world.at', e)) (hpending : pending = true → w.switchPending = true)
    (htold : SwitchTold (w.log ++ [(world.at', e)]) pending failed w.switchFrom w.switchAt) :
    Serving world start
      { w with log := w.log ++ [(world.at', e)], switchPending := pending, switchFailed := failed } :=
  ⟨h.toWatching.notes hplain hallowed hpending htold, h.running, h.served⟩

/-- An event that says nothing of the switch. -/
theorem Serving.note (h : Serving world start w) (hplain : e.Plain) (hsettles : ¬ e.Settles)
    (hfails : ¬ e.Fails) (hallowed : Allowed w.log (world.at', e)) : Serving world start (w.note world e) := by
  refine (h.notes hplain hallowed id (h.told.snoc (fun _ ⟨before, heq⟩ => ?_) hsettles hfails)).congr rfl
  exact hplain.1 ⟨before, true, heq⟩

/-! ### The process is stopped -/

theorem WebInv.closes (h : WebInv start w) (hkept : SessionKept w.security s) :
    WebInv start { w with peer := false, outgoing := false, security := s } where
  __ := h.keeps hkept
  connected := nofun
  outgoing := nofun

/-- `stop_service`. -/
theorem Watching.stops (h : Watching world start w) (hinit : w.initialized = true)
    (hkept : SessionKept w.security s) :
    Serving world start
      { w with
        peer := false, outgoing := false, security := s, stopping := w.pid || w.stopping, listener := false } where
  __ := h
  toWebInv :=
    { h.toWebInv.closes hkept with
      stopped := fun hstopping => by
        refine ⟨?_, rfl⟩
        cases hpid : w.pid with
        | true => rfl
        | false =>
          have hstop : w.stopping = true := by simpa [hpid] using hstopping
          exact hpid ▸ (h.stopped hstop).1
      connected := nofun }
  running := hinit
  served hpid hstopping := by
    have hnone : w.pid = false := (Bool.or_eq_false_iff.1 hstopping).1
    exact absurd hpid (by simp [hnone])

end Invariant

/-! ## The parts of a step -/

section Steps

variable {world : WebWorld} {start : WebLog} {w : WebGateway}

theorem always_closePeer {post : WebGateway → Prop} (w : WebGateway)
    (h : ∀ security authPending, SessionKept w.security security →
      post { w with peer := false, incoming := false, outgoing := false, security, authPending }) :
    Always post (closePeer w) := by
  unfold closePeer
  split
  · exact Always.bind ((sessionKept_cancelPending (.refl _)).mono fun security hkept => h security false hkept)
  · exact h w.security w.authPending (.refl _)

theorem always_stopService (h : Watching world start w) (hinit : w.initialized = true) :
    Always (Serving world start) (stopService world w) := by
  refine Always.bind (always_closePeer _ fun security authPending hkept => ?_)
  have hsecurity : SessionKept w.security security := by
    split at hkept
    · exact hkept
    · exact hkept
  refine (h.stops hinit hsecurity).congr ?_
  cases hpid : w.pid with
  | true => cases hstopping : w.stopping <;> simp [WebGateway.core, hpid, hstopping]
  | false => simp [WebGateway.core, hpid]

/-! ### The switch -/

/-- The sessions end with a switch. -/
theorem WebInv.changes {e : WebEvent} {pending : Bool} {before : Nat} {at' : CoreTick} {security : WebSecurity}
    (h : WebInv start w) (hchanges : e.Changes) (hsecurity : security.token = []) (hinit : w.initialized = true)
    (seen : Nat) (htold : SwitchTold (w.log ++ [(world.at', e)]) pending w.switchFailed before at') :
    WebInv start
      { w with
        log := w.log ++ [(world.at', e)], protocolSeen := seen, security
        switchPending := pending, switchFrom := before, switchAt := at' } := by
  obtain ⟨from', connected, rfl⟩ := hchanges
  exact
    { told := htold
      session := fun htoken => absurd hsecurity htoken
      connected := fun hpeer => by
        obtain ⟨hpid, hstopping, hlast⟩ := h.connected hpeer
        exact ⟨hpid, hstopping, hlast.snoc fun ⟨_, _, heq⟩ => nomatch heq⟩
      stopped := h.stopped
      outgoing := h.outgoing
      uninitialized := fun hno => by
        have hno : w.initialized = false := hno
        simp [hinit] at hno
      allowed := each_append_singleton.2 ⟨h.allowed, nofun, nofun, nofun⟩
      grown := h.grown.trans (List.prefix_append _ _) }

/-- The selected protocol is observed, and a switch with it. -/
theorem watching_observeSwitch (h : WebInv start w) (hsteps : Attributed world w)
    (htimed : ∀ e ∈ w.log, e.1 ≤ world.at') : Always (Watching world start) (observeSwitch world w) := by
  unfold observeSwitch
  by_cases hchanged : w.initialized = true ∧ w.protocolSeen ≠ world.selected.settings.webProtocol
  · rw [if_pos hchanged]
    refine Always.bind ((ended_cancel _).mono fun security hsecurity => ?_)
    have htimed := timed_snoc htimed (e := (world.at', .changed w.protocolSeen (w.peer && !w.stopping))) (Nat.le_refl _)
    by_cases hbegins : (!w.switchPending) = true ∧ (w.peer && !w.stopping) = true
    · -- the switch begins
      have hnone : w.switchPending = false := by simpa using hbegins.1
      obtain ⟨hpeer, hstopping⟩ : w.peer = true ∧ w.stopping = false := by simpa using hbegins.2
      have htold : SwitchTold (w.log ++ [(world.at', .changed w.protocolSeen (w.peer && !w.stopping))]) true
          w.switchFailed w.protocolSeen world.now := by
        rw [hbegins.2]
        exact (hnone ▸ h.told).begins world.at' w.protocolSeen
      have hinv := h.changes ⟨_, _, rfl⟩ hsecurity hchanged.1 world.selected.settings.webProtocol htold
      show Watching world start (WebGateway.note world _ _)
      rw [if_pos hbegins]
      exact (Watching.mk hinv (fun _ => rfl) (fun hexit hpid _ => hsteps.own hexit hpid (.inr ⟨hpeer, hchanged.2⟩))
        htimed).congr rfl
    · have hsame : ¬ (w.switchPending = false ∧ (w.peer && !w.stopping) = true) := by simpa using hbegins
      have htold := h.told.snoc (e := (world.at', .changed w.protocolSeen (w.peer && !w.stopping)))
        (fun hnone ⟨_, heq⟩ => hsame ⟨hnone, by injection heq⟩) id id
      have hinv := h.changes ⟨_, _, rfl⟩ hsecurity hchanged.1 world.selected.settings.webProtocol htold
      show Watching world start (WebGateway.note world _ _)
      rw [if_neg hbegins]
      exact (Watching.mk hinv (fun _ => rfl) (fun hexit hpid hpending => hsteps.own hexit hpid (.inl hpending))
        htimed).congr rfl
  · rw [if_neg hchanged]
    have hseen : w.initialized = true → w.protocolSeen = world.selected.settings.webProtocol := by
      intro hinit
      by_contra hne
      exact hchanged ⟨hinit, hne⟩
    refine ⟨h, hseen, fun hexit hpid hpending => ?_, htimed⟩
    have hinit : w.initialized = true := by
      by_contra hno
      simp [(h.uninitialized (by simpa using hno)).1] at hpending
    rw [hseen hinit]
    exact hsteps.own hexit hpid (.inl hpending)

theorem Pending.mem {log later : WebLog} {since before : Nat} (h : Pending log since before later) :
    (since, WebEvent.changed before true) ∈ log := by
  obtain ⟨past, rfl, _, _⟩ := h
  simp

theorem Undoes.of_told {pending failed : Bool} {before : Nat} {at' : CoreTick}
    (h : SwitchTold w.log pending failed before at') (hpending : pending = true)
    (hdue : failed = true ∨ 65000 ≤ coreElapsed at' world.now) (htimed : ∀ e ∈ w.log, e.1 ≤ world.at')
    (selected : GatewayPersistentConfig) (accepted : Bool) :
    Undoes w.log (world.at', .restore selected (restored selected before) accepted) := by
  intro selected config accepted heq
  cases heq
  cases h with
  | settled => cases hpending
  | @pending since _ later _ h hfailed =>
    refine ⟨since, _, later, h, rfl, ?_⟩
    rcases hdue with hdue | hdue
    · exact .inl (hfailed.1 hdue)
    · exact .inr (le_of_coreElapsed (htimed _ h.mem) hdue)

theorem WebEvent.plain_restore (selected config : GatewayPersistentConfig) (accepted : Bool) :
    (WebEvent.restore selected config accepted).Plain :=
  ⟨nofun, nofun⟩

theorem watching_undoSwitch (h : Watching world start w) : Watching world start (undoSwitch world w) := by
  unfold undoSwitch
  split
  · next hdue =>
    have hallowed : Allowed w.log (world.at', .restore world.selected (restored world.selected w.switchFrom)
        world.restoreAccepted) :=
      ⟨nofun, nofun, .of_told h.told hdue.1 hdue.2 h.timed _ _⟩
    have hplain := WebEvent.plain_restore world.selected (restored world.selected w.switchFrom) world.restoreAccepted
    show Watching world start (if world.restoreAccepted = true then _ else _)
    split
    · next haccepted =>
      have hsettled : Settled (w.log ++ [(world.at', .restore world.selected (restored world.selected w.switchFrom)
          world.restoreAccepted)]) :=
        settled_snoc_settles (e := (world.at', .restore _ _ _)) haccepted w.log
      exact (h.notes hplain hallowed (by simp) (.settled _ _ hsettled)).congr rfl
    · next haccepted => exact (h.notes hplain hallowed id (h.told.snoc (fun _ => nofun) haccepted id)).congr rfl
  · exact h

theorem serving_stopMismatched (h : Watching world start w) (hinit : w.initialized = true) :
    Always (Serving world start) (stopMismatched world w) := by
  unfold stopMismatched
  split
  · exact Always.bind ((always_stopService h hinit).mono fun w h => h.congr rfl)
  · next hmatched =>
    refine ⟨h, hinit, fun hpid hstopping => ?_⟩
    by_contra hserved
    have hother := not_or.1 hserved
    exact hmatched ⟨hpid, by simp [hstopping], hother.1, by simpa using hother.2⟩

/-! ### The random numbers -/

theorem serving_rngStop (h : Serving world start w) : Always (Serving world start) (rngStop w) :=
  Always.bind ((sessionKept_cancel _).mono fun security hkept => (h.keeps (s := security) hkept).congr rfl)

theorem serving_rngReap (h : Serving world start w) : Always (Serving world start) (rngReap world w) := by
  unfold rngReap
  split
  · split
    · exact h
    · have hreaped : Serving world start { w with rngPid := false } := h.congr rfl
      refine Always.bind ((serving_rngStop hreaped).mono fun w h => ?_)
      refine Always.bind ((always_stopService h.toWatching h.running).mono fun w h => ?_)
      exact h.congr (by simp only [WebGateway.core])
  · exact h

theorem serving_rngLaunch (h : Serving world start w) : Serving world start (rngLaunch world w) := by
  unfold rngLaunch
  split
  · split
    · exact h.congr rfl
    · exact h.congr (by simp only [WebGateway.core])
  · exact h

theorem serving_rngCheck (h : Serving world start w) : Always (Serving world start) (rngCheck world w) := by
  unfold rngCheck
  split
  · refine Always.bind ((serving_rngStop h).mono fun w h => always_stopService ?_ h.running)
    exact h.toWatching.congr rfl
  · exact h

/-! ### The web process -/

/-- A process that is gone, and whose connection is closed. -/
theorem Serving.gone {s : WebSecurity} (h : Serving world start w) (hkept : SessionKept w.security s) :
    Serving world start
      { w with pid := false, stopping := false, peer := false, outgoing := false, security := s } where
  __ := h
  told := h.told
  session := (h.toWebInv.keeps hkept).session
  connected := nofun
  stopped := nofun
  outgoing := nofun
  uninitialized hinit := ⟨(h.uninitialized hinit).1, rfl⟩
  own _ := nofun
  served := nofun

theorem serving_reapStopped (h : Serving world start w) : Serving world start (reapStopped world w) := by
  unfold reapStopped
  split
  · next hgone =>
    -- what is being stopped has no connection
    have hpeer : w.peer = false := by
      by_contra hpeer
      simp [(h.connected (by simpa using hpeer)).2.1] at hgone
    have hout : w.outgoing = false := by
      by_contra hout
      simp [h.outgoing (by simpa using hout)] at hpeer
    exact (h.gone (.refl w.security)).congr (by simp [WebGateway.core, hpeer, hout])
  · exact h

theorem retryAfterExit_core (world : WebWorld) (w : WebGateway) (how : WorkerEnd) :
    (retryAfterExit world w how).core = { w with stopping := false }.core := by
  unfold retryAfterExit
  split
  · rfl
  · next hstopping =>
    have hstop : w.stopping = false := by simpa using hstopping
    split
    · simp [WebGateway.core, hstop]
    · simp [WebGateway.core, hstop]

theorem WebEvent.plain_exited (launched selected : Nat) : (WebEvent.exited launched selected).Plain :=
  ⟨fun ⟨_, _, heq⟩ => (nomatch heq), nofun⟩

theorem serving_reapExited (h : Serving world start w) : Always (Serving world start) (reapExited world w) := by
  unfold reapExited
  split
  · next hpid =>
    split
    · exact h
    · next how hexit =>
      refine Always.bind (always_closePeer _ fun security authPending hkept => ?_)
      have hkept : SessionKept w.security security := hkept
      have hgone := h.gone (s := security) hkept
      have htold := h.told.fails (e := (world.at', .exited w.launchProtocol w.protocolSeen)) (fun ⟨_, heq⟩ => nomatch heq)
        id (h.own (by simp [hexit]) hpid)
      exact (hgone.notes (WebEvent.plain_exited _ _) ⟨nofun, nofun, nofun⟩ id htold).congr
        (retryAfterExit_core world _ how)
  · exact h

/-- A process is launched, or none: it is for the protocol that is selected. -/
theorem Serving.launches (h : Serving world start w) (hpid : w.pid = false) (pid listener : Bool) :
    Serving world start { w with launchProtocol := w.protocolSeen, pid, listener } := by
  have hpeer : w.peer = true → False := fun hpeer => by simp [(h.connected hpeer).1] at hpid
  exact
    { h with
      connected := fun hp => (hpeer hp).elim
      stopped := fun hs => by simp [(h.stopped hs).1] at hpid
      uninitialized := fun hno => by
        have hno : w.initialized = false := hno
        simp [h.running] at hno
      own := fun _ _ _ => rfl
      served := fun _ _ => .inl rfl }

/-- The process connects, and a switch is settled. -/
theorem Serving.connects (h : Serving world start w) (hpid : w.pid = true) (hstopping : w.stopping = false)
    (hlaunched : w.launchProtocol = w.protocolSeen) :
    Serving world start
      { w with
        log := w.log ++ [(world.at', .connected w.launchProtocol w.protocolSeen)], peer := true
        switchPending := false, switchFailed := false } where
  told := .settled _ _ (settled_snoc_settles (e := (world.at', .connected _ _)) hlaunched w.log)
  session htoken := (h.session htoken).snoc fun ⟨_, _, heq⟩ => nomatch heq
  connected _ := ⟨hpid, hstopping, .begun ⟨w.protocolSeen, rfl⟩ w.log⟩
  stopped := h.stopped
  outgoing _ := rfl
  uninitialized hno := by
    have hno : w.initialized = false := hno
    simp [h.running] at hno
  allowed := each_append_singleton.2 ⟨h.allowed, nofun, nofun, nofun⟩
  grown := h.grown.trans (List.prefix_append _ _)
  selected := h.selected
  own _ _ := nofun
  timed := timed_snoc h.timed (Nat.le_refl _)
  running := h.running
  served _ _ := .inl hlaunched

theorem serving_followAddresses (h : Serving world start w) : Always (Serving world start)
    (followAddresses world w) := by
  unfold followAddresses
  split
  · refine Always.bind ((always_stopService h.toWatching h.running).mono fun w h => ?_)
    exact h.congr (by simp only [WebGateway.core])
  · exact h

theorem serving_attachRng (h : Serving world start w) : Always (Serving world start) (attachRng world w) := by
  unfold attachRng
  split
  · exact h
  · split
    · exact serving_rngStop h
    · exact h.congr rfl

theorem serving_forkService (h : Serving world start w) (hpid : w.pid = false) :
    Serving world start (forkService world w).2 := by
  unfold forkService
  split
  · exact (h.launches hpid true w.listener).congr rfl
  · exact (h.launches hpid w.pid w.listener).congr (by simp only [WebGateway.core])

theorem WebEvent.plain_denied : WebEvent.denied.Plain := ⟨fun ⟨_, _, heq⟩ => (nomatch heq), nofun⟩

theorem serving_launchService (h : Serving world start w) :
    Always (fun a => Serving world start a.2) (launchService world w) := by
  unfold launchService
  split
  · next hlaunch =>
    have hpid : w.pid = false := by simpa using hlaunch.1
    split
    · exact h
    split
    · -- no clock: the switch has failed
      have htold := h.told.fails (e := (world.at', .denied)) (fun ⟨_, heq⟩ => nomatch heq) id fun _ => trivial
      exact (h.notes WebEvent.plain_denied ⟨nofun, nofun, nofun⟩ id htold).congr rfl
    split
    · exact h.congr (by simp only [WebGateway.core])
    · have hlistening : Serving world start { w with listener := true } := by
        have hstopping : w.stopping = true → False := fun hs => by simp [(h.stopped hs).1] at hpid
        exact { h with stopped := fun hs => (hstopping hs).elim }
      show Always _ (if (!w.rngAttaching) = true then _ else _)
      split
      · exact Always.bind ((serving_attachRng hlistening).mono fun w h => h)
      · exact serving_forkService hlistening hpid
  · exact h

/-! ### Requests of the panel -/

theorem always_local {post : WebGateway → Prop} (action : Nat) (hinit : w.initialized = true)
    (h : ∀ security, SessionKept w.security security → post { w with security, recoveryPrompt := false }) :
    Always post (webGatewayLocal world action w) := by
  unfold webGatewayLocal
  rw [if_pos hinit]
  show Always post (webSecurityLocal w.security action world.now >>= fun a =>
    Pure.pure { w with security := a.2, recoveryPrompt := false })
  exact Always.bind ((sessionKept_local w.security action world.now).mono fun a hkept => h a.2 hkept)

theorem confirmSwitch_eq (h : w.launchProtocol = w.protocolSeen) :
    confirmSwitch w = { w with switchPending := false, switchFailed := false } :=
  if_pos h

theorem serving_takePeer (h : Serving world start w) (hpid : w.pid = true) (hlistener : w.listener = true)
    (hpeer : w.peer = false) : Always (Serving world start) (takePeer world w) := by
  have hstopping : w.stopping = false := by
    by_contra hs
    simp [(h.stopped (by simpa using hs)).2] at hlistener
  have hlaunched : w.launchProtocol = w.protocolSeen := by
    rcases h.served hpid hstopping with hlaunched | hout
    · exact hlaunched
    · simp [h.outgoing hout] at hpeer
  have htaken : Serving world start (confirmSwitch ({ w with peer := true, peerAt := world.now, webState := 2 }.note
      world (.connected w.launchProtocol w.protocolSeen))) := by
    refine (h.connects hpid hstopping hlaunched).congr ?_
    rw [confirmSwitch_eq]
    · rfl
    · exact hlaunched
  show Always _ (if _ then _ else _)
  split
  · have hissued : Serving world start { confirmSwitch _ with autoCodeIssued := true } := htaken.congr rfl
    exact always_local 1 hissued.running fun security hkept => (hissued.keeps (s := security) hkept).congr rfl
  · exact htaken

theorem serving_acceptPeer (h : Serving world start w) : Always (Serving world start) (acceptPeer world w) := by
  unfold acceptPeer
  split
  · next haccept => exact serving_takePeer h haccept.2.2.2 haccept.1 (by simpa using haccept.2.2.1)
  · exact h

theorem serving_stopSilent (h : Serving world start w) : Always (Serving world start) (stopSilent world w) := by
  unfold stopSilent
  split
  · exact always_stopService h.toWatching h.running
  · exact h

/-! ### Requests -/

/-- A response waits. -/
theorem WebInv.answers (h : WebInv start w) (hpeer : w.peer = true) : WebInv start (answered w) :=
  { h with outgoing := fun _ => hpeer }

theorem webInv_authBegun {security : WebSecurity} (h : WebInv start w) (hpeer : w.peer = true) (r : Nat)
    (hkept : SessionKept w.security security) : WebInv start (authBegun w r security) := by
  unfold authBegun
  split
  · exact (h.keeps hkept).congr rfl
  · exact (h.keeps hkept).answers hpeer

/-- Only the settings of the web have a protocol. -/
theorem webCandidate_webProtocol {c config : GatewayPersistentConfig} {op : WebOp}
    (h : webCandidate c op = some config) (hother : config.settings.webProtocol ≠ c.settings.webProtocol) :
    ∃ fields, op = .web fields := by
  cases op with
  | web fields => exact ⟨fields, rfl⟩
  | port id port =>
    cases h
    exact absurd rfl hother
  | backlight on =>
    cases h
    exact absurd rfl hother
  | ntp enabled interval server =>
    cases h
    exact absurd rfl hother
  | read | logout | control | password current password again => cases h

theorem SwitchTold.settled_of {log : WebLog} {pending failed : Bool} {before : Nat} {at' : CoreTick}
    (h : SwitchTold log pending failed before at') (hnone : pending = false) : Settled log := by
  cases h with
  | settled before at' h => exact h
  | pending => cases hnone

/-- What is asked for with another protocol is asked for when nothing is left to settle. -/
theorem asksSettled (h : Serving world start w) (hpeer : w.peer = true) (hout : w.outgoing = false) {op : WebOp}
    (hopen : op.locked w = false) {config : GatewayPersistentConfig}
    (hcandidate : webCandidate world.selected op = some config) :
    AsksSettled w.log (world.at', .asked config world.selected.settings.webProtocol) := by
  intro config' selected heq hother
  cases heq
  obtain ⟨fields, rfl⟩ := webCandidate_webProtocol hcandidate hother
  obtain ⟨hpid, hstopping, hlast⟩ := h.connected hpeer
  refine ⟨h.told.settled_of hopen, ?_⟩
  -- the process that asks is one for the selected protocol
  rcases h.served hpid hstopping with hlaunched | hdrains
  · rw [← h.selected h.running, ← hlaunched]
    exact hlast
  · simp [hdrains] at hout

theorem WebEvent.plain_asked (config : GatewayPersistentConfig) (selected : Nat) :
    (WebEvent.asked config selected).Plain :=
  ⟨fun ⟨_, _, heq⟩ => (nomatch heq), nofun⟩

theorem WebEvent.plain_authorized (token : Text) : (WebEvent.authorized token).Plain :=
  ⟨fun ⟨_, _, heq⟩ => (nomatch heq), nofun⟩

theorem WebEvent.plain_session (token : Text) : (WebEvent.session token).Plain :=
  ⟨fun ⟨_, _, heq⟩ => (nomatch heq), nofun⟩

theorem serving_askConfiguration (h : Serving world start w) (hpeer : w.peer = true) (hout : w.outgoing = false)
    (op : WebOp) : Serving world start (askConfiguration world w op) := by
  unfold askConfiguration
  split
  · exact h
  · next hopen =>
    split
    · exact h
    · next config hcandidate =>
      have hasks := asksSettled h hpeer hout (by simpa using hopen) hcandidate
      exact h.note (WebEvent.plain_asked _ _) id id ⟨nofun, hasks, nofun⟩

theorem askConfiguration_peer (world : WebWorld) (w : WebGateway) (op : WebOp) :
    (askConfiguration world w op).peer = w.peer := by
  unfold askConfiguration
  split
  · rfl
  · split
    · rfl
    · rfl

theorem webInv_webOperation (h : Serving world start w) (hpeer : w.peer = true) (hout : w.outgoing = false)
    (op : WebOp) : Always (WebInv start) (webOperation world w op) := by
  unfold webOperation
  split
  · refine Always.bind ((sessionKept_change _ _ _ _ _).mono fun a hkept => ?_)
    exact webInv_authBegun h.toWebInv hpeer a.1 hkept
  · exact (serving_askConfiguration h hpeer hout _).answers ((askConfiguration_peer world w _).trans hpeer)

theorem requestRecovery_core (world : WebWorld) (w : WebGateway) : (requestRecovery world w).core = w.core := by
  unfold requestRecovery
  split
  · rfl
  split
  · rfl
  · split
    · rfl
    · rfl

theorem webInv_webGatewayRequest (h : Serving world start w) (hpeer : w.peer = true) (hout : w.outgoing = false)
    (request : WebRequest) : Always (WebInv start) (webGatewayRequest world w request) := by
  cases request with
  | plain => exact h.answers hpeer
  | recover =>
    have hcore := requestRecovery_core world w
    exact (h.toWebInv.congr hcore).answers ((congrArg WebGateway.peer hcore).trans hpeer)
  | begin enroll code password =>
    refine Always.bind ((sessionKept_begin _ _ _ _ _).mono fun a hkept => ?_)
    exact webInv_authBegun h.toWebInv hpeer a.1 hkept
  | shown token csrf stale op =>
    refine Always.bind ((sessionKept_authorized _ _ _ _ _).mono fun a ⟨hkept, hshown⟩ => ?_)
    have hserving := h.keeps (s := a.2) hkept
    show Always (WebInv start) (if (!a.1) = true then _ else _)
    split
    · exact hserving.answers hpeer
    · next hshows =>
      obtain ⟨htoken, heq⟩ := hshown (by simpa using hshows)
      have hauthorizes : Authorizes w.log (world.at', .authorized token) := by
        intro token' htoken'
        cases htoken'
        exact heq ▸ hserving.session htoken
      have hnoted := hserving.note (WebEvent.plain_authorized token) id id ⟨hauthorizes, nofun, nofun⟩
      split
      · exact (hnoted.keeps (s := clearSession a.2) (.ended rfl)).answers hpeer
      · split
        · exact hnoted.answers hpeer
        · exact webInv_webOperation hnoted hpeer hout _

/-! ### The exchange -/

theorem webInv_closePeer (h : WebInv start w) : Always (WebInv start) (closePeer w) :=
  always_closePeer w fun security _ hkept => (h.closes (s := security) hkept).congr rfl

theorem webInv_sendReply (h : WebInv start w) : Always (WebInv start) (sendReply world w) := by
  have hwaits : Always (WebInv start) (if 60000 < coreElapsed w.peerAt world.now then closePeer w else pure w) := by
    split
    · exact webInv_closePeer h
    · exact h
  unfold sendReply
  split
  · exact webInv_closePeer h
  · have hsent : WebInv start { w with outgoing := false } := { h with outgoing := nofun }
    exact hsent.congr rfl
  · exact hwaits
  · exact hwaits

theorem webInv_receiveRequest (h : Serving world start w) (hpeer : w.peer = true) (hout : w.outgoing = false) :
    Always (WebInv start) (receiveRequest world w) := by
  obtain ⟨at', hbegun⟩ : ∃ at', (if w.incoming then w else { w with peerAt := world.now }) = { w with peerAt := at' } := by
    split
    · exact ⟨w.peerAt, rfl⟩
    · exact ⟨world.now, rfl⟩
  unfold receiveRequest
  rw [hbegun]
  split
  · exact webInv_closePeer h.toWebInv
  · exact webInv_closePeer h.toWebInv
  · split
    · exact webInv_closePeer h.toWebInv
    · exact h.toWebInv
  · exact h.toWebInv.congr rfl
  · exact webInv_closePeer (h.toWebInv.congr rfl)
  · refine Always.bind ((webInv_webGatewayRequest ?_ ?_ ?_ _).mono fun w h => h.congr rfl)
    · exact h.congr rfl
    · exact hpeer
    · exact hout

/-- A session is opened by the answer to a password, or none. -/
theorem serving_noteSession {security : WebSecurity} {r : Nat} (h : Serving world start w)
    (hpoll : r = 200 ∨ SessionKept w.security security) :
    Serving world start (noteSession world r { w with security }) := by
  unfold noteSession
  split
  · have hnoted := h.note (WebEvent.plain_session security.token) id id ⟨nofun, nofun, nofun⟩
    have hsince : SessionSince (w.log ++ [(world.at', .session security.token)]) security.token :=
      since_append_singleton.2 (.inl rfl)
    exact { hnoted with session := fun _ => hsince }
  · next hno => exact h.keeps (hpoll.resolve_left hno)

theorem noteSession_peer (world : WebWorld) (r : Nat) (w : WebGateway) : (noteSession world r w).peer = w.peer := by
  unfold noteSession
  split
  · rfl
  · rfl

theorem webInv_finishAuth (h : Serving world start w) (hpeer : w.peer = true) :
    Always (WebInv start) (finishAuth world w) := by
  refine Always.bind ((sessionKept_poll _ _).mono fun a hpoll => ?_)
  have hnoted := serving_noteSession h hpoll
  show Always (WebInv start) (if a.1 = 0 then _ else _)
  split
  · exact hnoted.toWebInv
  · apply webInv_sendReply
    exact (hnoted.toWebInv.answers ((noteSession_peer world a.1 _).trans hpeer)).congr rfl

theorem webInv_exchange (h : Serving world start w) : Always (WebInv start) (exchange world w) := by
  unfold exchange
  split
  · exact h.toWebInv
  · next hno =>
    have hpeer : w.peer = true := by simpa using hno
    split
    · exact webInv_finishAuth h hpeer
    · split
      · exact webInv_sendReply h.toWebInv
      · next hout => exact webInv_receiveRequest h hpeer (by simpa using hout)

/-! ### The step -/

theorem webInv_disableService (h : Serving world start w) : Always (WebInv start) (disableService world w) := by
  refine Always.bind ((serving_rngStop h).mono fun w h => ?_)
  split
  · exact h.toWebInv.congr rfl
  · have hhidden : Serving world start { w with recoveryPrompt := false } := h.congr rfl
    refine Always.bind ((always_stopService hhidden.toWatching h.running).mono fun w h => ?_)
    exact h.toWebInv.congr rfl

theorem webInv_launchAndServe (h : Serving world start w) : Always (WebInv start) (launchAndServe world w) := by
  refine Always.bind ((serving_followAddresses h).mono fun w h => ?_)
  refine Always.bind ((serving_launchService h).mono fun a h => ?_)
  show Always (WebInv start) (if a.1 then _ else _)
  split
  · refine Always.bind ((serving_acceptPeer h).mono fun w h => ?_)
    exact Always.bind ((serving_stopSilent h).mono fun w h => webInv_exchange h)
  · exact h.toWebInv

theorem serving_showServing (h : Serving world start w) : Serving world start (showServing w) := by
  unfold showServing
  split
  · exact h.congr rfl
  · exact h

theorem serving_stopOffline (h : Serving world start w) : Always (Serving world start) (stopOffline world w) := by
  unfold stopOffline
  split
  · exact always_stopService h.toWatching h.running
  · exact h

theorem webInv_serveStep (h : Serving world start w) : Always (WebInv start) (serveStep world w) := by
  unfold serveStep
  split
  · exact h.toWebInv
  · refine Always.bind ((sessionKept_tick (.refl _) _).mono fun security hkept => ?_)
    refine Always.bind ((serving_reapExited ((h.keeps (s := security) hkept).congr ?_)).mono fun w h => ?_)
    · rfl
    · split
      · exact h.toWebInv
      · split
        · exact Always.bind ((serving_stopOffline h).mono fun w h => h.toWebInv.congr rfl)
        · exact webInv_launchAndServe h

/-- What there was before the credentials were read is gone, but for the log. -/
theorem webInv_init (h : Each Allowed w.log) (hsettled : Settled w.log) (hgrown : start <+: w.log) :
    Always (fun a => WebInv start a.2) (webGatewayInit world w) := by
  have hfresh {initialized : Bool} {security : WebSecurity} (htoken : security.token = []) :
      WebInv start
        { initialized, security
          protocolSeen := world.selected.settings.webProtocol
          webState := w.webState, recoveryPrompt := w.recoveryPrompt, log := w.log } :=
    ⟨.settled _ _ hsettled, fun hne => absurd htoken hne, nofun, nofun, nofun, fun _ => ⟨rfl, rfl⟩, h, hgrown⟩
  unfold webGatewayInit
  split
  · exact hfresh rfl
  · exact Always.bind ((ended_init _).mono fun a htoken => hfresh htoken)

theorem webInv_retryInit (h : Watching world start w) (hinit : w.initialized = false) :
    Always (WebInv start) (retryInit world w) := by
  unfold retryInit
  split
  · have hsettled := h.told.settled_of (h.uninitialized hinit).1
    refine Always.bind ((webInv_init h.allowed hsettled h.grown).mono fun a h => ?_)
    show WebInv start (if a.1 then _ else _)
    split
    · exact h
    · exact h.congr (by simp only [WebGateway.core])
  · exact h.toWebInv.congr rfl

theorem stopMismatched_eq (h : WebInv start w) (hinit : w.initialized = false) : stopMismatched world w = pure w := by
  unfold stopMismatched
  rw [if_neg]
  simp [(h.uninitialized hinit).2]

theorem webInv_serviceStep (h : Watching world start w) : Always (WebInv start) (serviceStep world w) := by
  unfold serviceStep
  cases hinit : w.initialized with
  | false =>
    rw [stopMismatched_eq h.toWebInv hinit]
    show Always (WebInv start) (if (!w.initialized) = true then _ else _)
    rw [if_pos (by simp [hinit])]
    exact webInv_retryInit h hinit
  | true =>
    refine Always.bind ((serving_stopMismatched h hinit).mono fun w h => ?_)
    rw [if_neg (by simp [h.running])]
    refine Always.bind ((serving_rngReap h).mono fun w h => ?_)
    refine Always.bind ((serving_rngCheck (serving_rngLaunch h)).mono fun w h => ?_)
    have hreaped := serving_reapStopped h
    show Always (WebInv start) (if (!world.enabled) = true then _ else _)
    split
    · exact webInv_disableService hreaped
    · split
      · exact hreaped.toWebInv.congr rfl
      · exact webInv_serveStep (serving_showServing hreaped)

/-- A step. -/
theorem webInv_webGatewayStep (h : WebInv start w) (hsteps : Attributed world w)
    (htimed : ∀ e ∈ w.log, e.1 ≤ world.at') : Always (WebInv start) (webGatewayStep world w) :=
  Always.bind ((watching_observeSwitch h hsteps htimed).mono fun _ h => webInv_serviceStep (watching_undoSwitch h))

theorem webInv_local (h : WebInv start w) (action : Nat) : Always (WebInv start)
    (webGatewayLocal world action w) := by
  cases hinit : w.initialized with
  | true => exact always_local action hinit fun security hkept => (h.keeps (s := security) hkept).congr rfl
  | false =>
    unfold webGatewayLocal
    rw [if_neg (by simp [hinit])]
    have hsettled := h.told.settled_of (h.uninitialized hinit).1
    refine Always.bind ((webInv_init h.allowed hsettled h.grown).mono fun a h => ?_)
    show Always (WebInv start) (if a.1 then _ else _)
    split
    · refine Always.bind ((sessionKept_local _ _ _).mono fun b hkept => ?_)
      exact (h.keeps (s := b.2) hkept).congr rfl
    · exact h

end Steps

/-! ## Runs -/

theorem WebRun.inv {w : WebGateway} (hrun : WebRun Attributed w) : WebInv [] w := by
  induction hrun with
  | @init world done w calls state prompt h =>
    have hinit : Always (fun a => WebInv [] a.2)
        (webGatewayInit world { webState := state, recoveryPrompt := prompt }) :=
      webInv_init each_nil not_since_nil List.nil_prefix
    exact hinit.answers h
  | step _ hlater hsteps h ih => exact (webInv_webGatewayStep ih hsteps hlater).answers h
  | panel _ action h ih => exact (webInv_local ih action).answers h

section Again

variable {world : WebWorld} {w : WebGateway}

/-- What a step observes settles nothing. -/
theorem observeSwitch_log (world : WebWorld) (w : WebGateway) :
    Always (fun w' => ∃ seen, w'.log = w.log ++ seen ∧ ∀ e ∈ seen, ¬ e.2.Settles ∧ ¬ e.2.Fails)
      (observeSwitch world w) := by
  unfold observeSwitch
  by_cases hchanged : w.initialized = true ∧ w.protocolSeen ≠ world.selected.settings.webProtocol
  · rw [if_pos hchanged]
    refine Always.bind ((ended_cancel _).mono fun security _ => ?_)
    refine ⟨[(world.at', .changed w.protocolSeen (w.peer && !w.stopping))], ?_, ?_⟩
    · show WebGateway.log (if (!w.switchPending) = true ∧ _ then _ else w) ++ _ = _
      split
      · rfl
      · rfl
    · intro e he
      rw [List.mem_singleton.1 he]
      exact ⟨id, id⟩
  · rw [if_neg hchanged]
    exact ⟨[], by simp, nofun⟩

theorem Pending.append {log later : WebLog} {since before : Nat} (h : Pending log since before later) (seen : WebLog)
    (hseen : ∀ e ∈ seen, ¬ e.2.Settles) : Pending (log ++ seen) since before (later ++ seen) := by
  obtain ⟨past, rfl, hpast, hlater⟩ := h
  refine ⟨past, by simp, hpast, fun e he => ?_⟩
  rcases List.mem_append.1 he with he | he
  · exact hlater e he
  · exact hseen e he

/-- What the service keeps of the switch that the log says is pending. -/
theorem SwitchTold.of_pending {log later : WebLog} {pending failed : Bool} {since before before' : Nat}
    {at' : CoreTick}
    (h : SwitchTold log pending failed before' at') (hpending : Pending log since before later) :
    pending = true ∧ before' = before ∧ at' = tick since ∧ (failed = true ↔ ∃ f ∈ later, f.2.Fails) := by
  cases h with
  | settled _ _ h => exact absurd h hpending.not_settled
  | pending h hfailed =>
    obtain ⟨rfl, rfl, rfl⟩ := h.unique hpending
    exact ⟨rfl, rfl, rfl, hfailed⟩

/-- A switch that is due is asked to be undone. -/
theorem undoSwitch_due {before : Nat} (hpending : w.switchPending = true) (hfrom : w.switchFrom = before)
    (hdue : w.switchFailed = true ∨ 65000 ≤ coreElapsed w.switchAt world.now) :
    (undoSwitch world w).log =
      w.log ++ [(world.at', .restore world.selected (restored world.selected before) world.restoreAccepted)] := by
  unfold undoSwitch
  rw [if_pos ⟨hpending, hdue⟩, ← hfrom]
  show (if world.restoreAccepted = true then _ else _ : WebGateway).log = _
  split
  · rfl
  · rfl

theorem asks_again {since before : Nat} {later : WebLog} (h : WebInv [] w) (hsteps : Attributed world w)
    (htimed : ∀ e ∈ w.log, e.1 ≤ world.at') (hpending : Pending w.log since before later)
    (hdue : (∃ f ∈ later, f.2.Fails) ∨ since + 65000 ≤ world.at') :
    (webGatewayStep world w).Always fun w' => ∃ new, w'.log = w.log ++ new ∧
      (world.at', .restore world.selected (restored world.selected before) world.restoreAccepted) ∈ new := by
  have hobserved := (watching_observeSwitch h hsteps htimed).and (observeSwitch_log world w)
  refine Always.bind (hobserved.mono fun w₁ ⟨hwatching, seen, hlog, hseen⟩ => ?_)
  have hpending₁ : Pending w₁.log since before (later ++ seen) :=
    hlog ▸ hpending.append seen fun e he => (hseen e he).1
  obtain ⟨hp, hfrom, hat, hfailed⟩ := hwatching.told.of_pending hpending₁
  have hdue₁ : w₁.switchFailed = true ∨ 65000 ≤ coreElapsed w₁.switchAt world.now := by
    rcases hdue with ⟨f, hf, hfails⟩ | hdue
    · exact .inl (hfailed.2 ⟨f, by simp [hf], hfails⟩)
    · refine .inr (BitVec.le_def.2 ?_)
      rw [hat, WebWorld.now, toNat_coreElapsed (htimed _ hpending.mem) (hsteps.prompt _ _ _ hpending)]
      show 65000 ≤ world.at' - since
      omega
  have hundone := undoSwitch_due hp hfrom hdue₁
  have hwatching₂ : Watching world (undoSwitch world w₁).log (undoSwitch world w₁) :=
    (watching_undoSwitch hwatching).regrade (List.prefix_refl _)
  refine (webInv_serviceStep hwatching₂).mono fun w' hinv => ?_
  obtain ⟨rest, hrest⟩ := hinv.grown
  refine ⟨seen ++ [(world.at', .restore world.selected (restored world.selected before) world.restoreAccepted)] ++ rest,
    ?_, by simp⟩
  rw [← hrest, hundone, hlog]
  simp

end Again

end FourVrs.Web
