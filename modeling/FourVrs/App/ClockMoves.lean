import FourVrs.App.Helper

/-!
# How the trust in the clock moves

What is trusted of the clock is a small machine: the trust, the trust before the attempt, and
whether a cancelled helper is still to be reaped. `ClockMove` is what one move does and leaves
in the log, `ClockInv` what of the log stands behind the trust: a synchronization that nothing
has spoiled since, or a time set by hand that no helper has replaced.
-/

set_option autoImplicit false

namespace FourVrs.App

open FourVrs.Core Config Gateway Network Lib

/-! ## The log -/

/-- A call of a function that is about the clock, or a mark. -/
inductive ClockEvent where
  /-- A mark: a call of the application begins. -/
  | call
  /-- A mark: it has taken other NTP settings. -/
  | settings
  | start (result : Int)
  | poll (result : Int)
  | cancel
  /-- The calendar is read back. -/
  | readBack (valid : Bool)
  /-- The clock is set by hand. -/
  | setClock (result : GatewaySystemTimeResult)
  /-- The hardware clock is written. -/
  | saveRtc
  deriving DecidableEq

def ClockEvent.helperCall : ClockEvent → Option HelperCall
  | .start r => some (.start r)
  | .poll r => some (.poll r)
  | .cancel => some .cancel
  | .setClock _ => some .setClock
  | .call | .settings | .readBack _ | .saveRtc => none

def helperAfter (log : List ClockEvent) : Option Helper := Helper.after (log.filterMap ClockEvent.helperCall)

/-- The event ends what a synchronization has earned: the clock is set by hand, other settings are
    taken, or an attempt fails or times out. A helper that was cancelled fails no more. -/
def Spoils (log : List ClockEvent) : ClockEvent → Prop
  | .settings => True
  | .setClock result => clockWasSet result = true
  | .start r => r ≠ 0
  | .poll r => r < 0 ∧ helperAfter log = some .running
  | .cancel => log.getLast? = some (.poll 0) ∧ helperAfter log = some .running
  | .readBack valid => valid = false
  | .call | .saveRtc => False

/-- A helper that was never cancelled has reported success, the calendar read back was valid, and
    nothing has spoiled it since. -/
def Earned (log : List ClockEvent) : Prop :=
  ∃ past r since, log = past ++ .poll r :: .readBack true :: since ∧ helperAfter past = some .running ∧ 0 < r ∧
    ∀ before e rest, since = before ++ e :: rest → ¬ Spoils (past ++ .poll r :: .readBack true :: before) e

/-- The clock was set by hand, and no helper has reported success since. -/
def ManualStands (log : List ClockEvent) : Prop :=
  ∃ past result since, log = past ++ .setClock result :: since ∧ clockWasSet result = true ∧
    ∀ valid, .readBack valid ∉ since

variable {log : List ClockEvent} {e : ClockEvent}

theorem helperAfter_snoc (log : List ClockEvent) (e : ClockEvent) :
    helperAfter (log ++ [e]) = (helperAfter log).bind fun h => (e.helperCall.elim (some h) h.next) := by
  unfold helperAfter
  rw [List.filterMap_append]
  cases hcall : e.helperCall with
  | none => simp [hcall]
  | some call =>
    have hone : [e].filterMap ClockEvent.helperCall = [call] := by simp [hcall]
    rw [hone, Helper.after_snoc]
    rfl

theorem Earned.snoc (h : Earned log) (he : ¬ Spoils log e) : Earned (log ++ [e]) := by
  obtain ⟨past, r, since, rfl, hrunning, hr, hclean⟩ := h
  refine ⟨past, r, since ++ [e], by simp, hrunning, hr, ?_⟩
  intro before e' rest heq
  -- the event is the new one, or one of those before it
  rcases List.eq_nil_or_concat rest with rfl | ⟨rest', last, rfl⟩
  · obtain ⟨rfl, hcons⟩ := List.append_inj' heq rfl
    cases hcons
    exact he
  · have heq' : since ++ [e] = (before ++ e' :: rest') ++ [last] := by simpa using heq
    exact hclean before e' rest' (List.append_inj' heq' rfl).1

theorem earned_success {r : Int} (hrunning : helperAfter log = some .running) (hr : 0 < r) :
    Earned (log ++ [.poll r, .readBack true]) :=
  ⟨log, r, [], rfl, hrunning, hr, fun before e rest heq => by simp at heq⟩

theorem manualStands_snoc :
    ManualStands (log ++ [e]) ↔
      (∃ result, e = .setClock result ∧ clockWasSet result = true) ∨
        ManualStands log ∧ ∀ valid, e ≠ .readBack valid := by
  constructor
  · rintro ⟨past, result, since, heq, hset, hquiet⟩
    rcases List.eq_nil_or_concat since with rfl | ⟨since', last, rfl⟩
    · obtain ⟨-, hcons⟩ := List.append_inj' heq rfl
      cases hcons
      exact Or.inl ⟨result, rfl, hset⟩
    · have heq' : log ++ [e] = (past ++ .setClock result :: since') ++ [last] := by simpa using heq
      obtain ⟨rfl, hcons⟩ := List.append_inj' heq' rfl
      cases hcons
      refine Or.inr ⟨⟨past, result, since', rfl, hset, fun valid hmem => hquiet valid ?_⟩, ?_⟩
      · simp [hmem]
      · rintro valid rfl
        exact hquiet valid (by simp)
  · rintro (⟨result, rfl, hset⟩ | ⟨⟨past, result, since, rfl, hset, hquiet⟩, he⟩)
    · exact ⟨log, result, [], rfl, hset, by simp⟩
    · refine ⟨past, result, since ++ [e], by simp, hset, fun valid hmem => ?_⟩
      rcases List.mem_append.mp hmem with hmem | hmem
      · exact hquiet valid hmem
      · exact he valid (List.mem_singleton.mp hmem).symm

/-! ## The moves -/

/-- What of the time the trust is about. -/
structure ClockState where
  trust : GatewayTimeTrust
  before : GatewayTimeTrust
  terminating : Bool

def clockState (t : ApplicationTime) : ClockState := ⟨t.trust, t.trustBeforeSync, t.ntpTerminating⟩

def ClockState.helper (s : ClockState) : Helper :=
  if s.terminating then .cancelled else if s.trust = .syncing then .running else .none

/-- What was synchronized under other settings is a holdover. -/
def heldOver (trust : GatewayTimeTrust) : GatewayTimeTrust := if trust = .synced then .holdover else trust

/-- What one move does, and what it leaves in the log. -/
inductive ClockMove : ClockState → List ClockEvent → ClockState → Prop
  | keep (s : ClockState) : ClockMove s [] s
  /-- Settings are taken; they may be those that were there. -/
  | adopt (s : ClockState) (marks : List ClockEvent) (hmarks : marks = [] ∨ marks = [.settings])
      (hnone : s.trust ≠ .syncing) : ClockMove s marks { s with trust := heldOver s.trust }
  | adoptCancel (s : ClockState) (marks : List ClockEvent) (hmarks : marks = [] ∨ marks = [.settings])
      (hsync : s.trust = .syncing) : ClockMove s (marks ++ [.cancel]) ⟨heldOver s.before, s.before, true⟩
  /-- The gateway ends. -/
  | stop (s : ClockState) (hsync : s.trust = .syncing) : ClockMove s [.cancel] ⟨s.before, s.before, true⟩
  | reap (s : ClockState) (r : Int) (hterm : s.terminating = true) :
      ClockMove s [.poll r] { s with terminating := decide (r = 0) }
  | wait (s : ClockState) (hsync : s.trust = .syncing) : ClockMove s [.poll 0] s
  | timeout (s : ClockState) (hsync : s.trust = .syncing) :
      ClockMove s [.poll 0, .cancel] ⟨trustAfterFailure s.before, s.before, true⟩
  | fail (s : ClockState) (r : Int) (hr : r < 0) (hsync : s.trust = .syncing) :
      ClockMove s [.poll r] { s with trust := trustAfterFailure s.before }
  | invalid (s : ClockState) (r : Int) (hr : 0 < r) (hsync : s.trust = .syncing) :
      ClockMove s [.poll r, .readBack false] { s with trust := .error, before := .unsynced }
  | succeed (s : ClockState) (r : Int) (hr : 0 < r) (hsync : s.trust = .syncing) :
      ClockMove s [.poll r, .readBack true] { s with trust := .synced }
  /-- The network is not there when the next synchronization is due. -/
  | defer (s : ClockState) (hsynced : s.trust = .synced) : ClockMove s [] { s with trust := .holdover }
  | start (s : ClockState) (hnone : s.trust ≠ .syncing) (hterm : s.terminating = false) :
      ClockMove s [.start 0] { s with trust := .syncing, before := s.trust }
  | startFail (s : ClockState) (r : Int) (hr : r ≠ 0) (hnone : s.trust ≠ .syncing) (hterm : s.terminating = false) :
      ClockMove s [.start r] { s with trust := trustAfterFailure s.trust, before := s.trust }
  | setByHand (s : ClockState) (result : GatewaySystemTimeResult) (hset : clockWasSet result = true)
      (hnone : s.trust ≠ .syncing) (hterm : s.terminating = false) :
      ClockMove s [.setClock result] { s with trust := .manual }
  | notSet (s : ClockState) (result : GatewaySystemTimeResult) (hset : clockWasSet result = false)
      (hnone : s.trust ≠ .syncing) (hterm : s.terminating = false) : ClockMove s [.setClock result] s
  | save (s : ClockState) : ClockMove s [.saveRtc] s

/-! ## The invariant -/

/-- The time that was set by hand is trusted, or will be when the attempt fails. -/
def ClockState.Manual (s : ClockState) : Prop := s.trust = .manual ∨ s.trust = .syncing ∧ s.before = .manual

structure ClockInv (log : List ClockEvent) (s : ClockState) : Prop where
  helper : helperAfter log = some s.helper
  exclusive : s.terminating = true → s.trust ≠ .syncing
  before : s.before ≠ .syncing
  synced : s.trust = .synced ∨ s.trust = .syncing ∧ s.before = .synced → Earned log
  manual : ManualStands log ↔ s.Manual

theorem heldOver_ne_synced (trust : GatewayTimeTrust) : heldOver trust ≠ .synced := by
  cases trust <;> decide

@[simp] theorem heldOver_eq_manual {trust : GatewayTimeTrust} : heldOver trust = .manual ↔ trust = .manual := by
  cases trust <;> decide

@[simp] theorem heldOver_eq_syncing {trust : GatewayTimeTrust} : heldOver trust = .syncing ↔ trust = .syncing := by
  cases trust <;> decide

theorem trustAfterFailure_ne_synced (trust : GatewayTimeTrust) : trustAfterFailure trust ≠ .synced := by
  cases trust <;> decide

@[simp] theorem trustAfterFailure_eq_manual {trust : GatewayTimeTrust} :
    trustAfterFailure trust = .manual ↔ trust = .manual := by
  cases trust <;> decide

/-- An event that is neither a setting by hand nor a calendar read back. -/
theorem manualStands_snoc_other (hset : ∀ result, e = .setClock result → clockWasSet result = false)
    (hread : ∀ valid, e ≠ .readBack valid) : ManualStands (log ++ [e]) ↔ ManualStands log := by
  rw [manualStands_snoc]
  constructor
  · rintro (⟨result, he, hok⟩ | ⟨hstands, -⟩)
    · rw [hset result he] at hok
      cases hok
    · exact hstands
  · exact fun hstands => Or.inr ⟨hstands, hread⟩

variable {s s' : ClockState} {more : List ClockEvent}

theorem ClockInv.running (h : ClockInv log s) (hsync : s.trust = .syncing) :
    s.terminating = false ∧ helperAfter log = some .running := by
  have hterm : s.terminating = false := by
    by_contra hterm
    exact h.exclusive (by simpa using hterm) hsync
  exact ⟨hterm, by rw [h.helper]; simp [ClockState.helper, hterm, hsync]⟩

theorem ClockInv.idle (h : ClockInv log s) (hnone : s.trust ≠ .syncing) (hterm : s.terminating = false) :
    helperAfter log = some .none := by
  rw [h.helper]
  simp [ClockState.helper, hterm, hnone]

/-- A mark changes nothing. -/
theorem ClockInv.mark (h : ClockInv log s) (hcall : e.helperCall = none) (hspoils : ¬ Spoils log e)
    (hread : ∀ valid, e ≠ .readBack valid) : ClockInv (log ++ [e]) s where
  helper := by
    rw [helperAfter_snoc, hcall, h.helper]
    rfl
  exclusive := h.exclusive
  before := h.before
  synced hsynced := (h.synced hsynced).snoc hspoils
  manual := by
    rw [manualStands_snoc_other ?_ hread]
    · exact h.manual
    · rintro result rfl
      cases hcall

/-- No helper runs any more. -/
theorem ClockInv.ended (hhelper : helperAfter log = some s.helper) (htrust : s.trust ≠ .syncing)
    (hbefore : s.before ≠ .syncing) (hsynced : s.trust = .synced → Earned log)
    (hmanual : ManualStands log ↔ s.trust = .manual) : ClockInv log s where
  helper := hhelper
  exclusive _ := htrust
  before := hbefore
  synced := by
    rintro (h | ⟨h, -⟩)
    · exact hsynced h
    · exact absurd h htrust
  manual := by
    rw [hmanual]
    exact ⟨Or.inl, fun h => h.resolve_right fun h => htrust h.1⟩

/-- Settings are taken. -/
theorem ClockInv.marks (h : ClockInv log s) {marks : List ClockEvent} (hmarks : marks = [] ∨ marks = [.settings]) :
    helperAfter (log ++ marks) = some s.helper ∧ (ManualStands (log ++ marks) ↔ s.Manual) := by
  rcases hmarks with rfl | rfl
  · rw [List.append_nil]
    exact ⟨h.helper, h.manual⟩
  · refine ⟨?_, ?_⟩
    · rw [helperAfter_snoc, h.helper]
      rfl
    · rw [manualStands_snoc_other (by rintro result ⟨⟩) (by rintro valid ⟨⟩)]
      exact h.manual

/-- A helper that ran has been polled. -/
theorem helperAfter_polled {r : Int} (hrunning : helperAfter log = some .running) :
    helperAfter (log ++ [.poll r]) = some (if r = 0 then .running else .none) := by
  rw [helperAfter_snoc, hrunning]
  rfl

theorem manualStands_polled (r : Int) : ManualStands (log ++ [.poll r]) ↔ ManualStands log :=
  manualStands_snoc_other (by rintro result ⟨⟩) (by rintro valid ⟨⟩)

theorem manualStands_cancelled : ManualStands (log ++ [.cancel]) ↔ ManualStands log :=
  manualStands_snoc_other (by rintro result ⟨⟩) (by rintro valid ⟨⟩)

/-- A helper that reports success ends what was set by hand. -/
theorem manualStands_answered (r : Int) (valid : Bool) : ¬ ManualStands (log ++ [.poll r, .readBack valid]) := by
  have hsplit : log ++ [.poll r, .readBack valid] = (log ++ [.poll r]) ++ [.readBack valid] := by simp
  rw [hsplit, manualStands_snoc]
  rintro (⟨result, ⟨⟩, -⟩ | ⟨-, hread⟩)
  exact hread valid rfl

/-- What a calendar that is read back leaves of the helper: none. -/
theorem helperAfter_answered {r : Int} (hrunning : helperAfter log = some .running) (hr : 0 < r) (valid : Bool) :
    helperAfter (log ++ [.poll r, .readBack valid]) = some .none := by
  have hsplit : log ++ [.poll r, .readBack valid] = (log ++ [.poll r]) ++ [.readBack valid] := by simp
  rw [hsplit, helperAfter_snoc, helperAfter_polled hrunning, if_neg (by omega)]
  rfl

/-- **The step lemma**: a move keeps what stands behind the trust. A cancel that follows a poll is a
    timeout; the others come first in their call. -/
theorem ClockInv.move (h : ClockInv log s) (hmove : ClockMove s more s')
    (hfirst : more.head? = some .cancel → log.getLast? ≠ some (.poll 0)) : ClockInv (log ++ more) s' := by
  -- one case for each move; a move that leaves no helper running is `ended`
  cases hmove with
  | keep =>
    rw [List.append_nil]
    exact h
  | adopt _ hmarks hnone =>
    obtain ⟨hhelper, hmanual⟩ := h.marks hmarks
    refine .ended ?_ (by simpa using hnone) h.before (fun hs => absurd hs (heldOver_ne_synced _)) ?_
    · rw [hhelper]
      simp [ClockState.helper, hnone]
    · rw [hmanual]
      simp [ClockState.Manual, hnone]
  | adoptCancel marks hmarks hsync =>
    obtain ⟨hhelper, hmanual⟩ := h.marks hmarks
    obtain ⟨hterm, -⟩ := h.running hsync
    rw [← List.append_assoc]
    refine .ended ?_ (by simpa using h.before) h.before (fun hs => absurd hs (heldOver_ne_synced _)) ?_
    · rw [helperAfter_snoc, hhelper]
      simp [ClockState.helper, hterm, hsync, ClockEvent.helperCall, Helper.next]
    · rw [manualStands_cancelled, hmanual]
      simp [ClockState.Manual, hsync]
  | stop hsync =>
    obtain ⟨hterm, hrunning⟩ := h.running hsync
    refine .ended ?_ h.before h.before ?_ ?_
    · rw [helperAfter_snoc, hrunning]
      rfl
    · intro hsynced
      -- only a cancel right after the answer 0 would spoil the trust, and `hfirst` excludes it
      exact (h.synced (Or.inr ⟨hsync, hsynced⟩)).snoc fun hspoils => hfirst rfl hspoils.1
    · rw [manualStands_cancelled, h.manual]
      simp [ClockState.Manual, hsync]
  -- the exit of a helper that was cancelled says nothing about the time
  | reap r hterm =>
    have hnone := h.exclusive hterm
    have hcancelled : helperAfter log = some .cancelled := by
      rw [h.helper]
      simp [ClockState.helper, hterm]
    refine .ended ?_ hnone h.before ?_ ?_
    · rw [helperAfter_snoc, hcancelled]
      by_cases hr : r = 0
      · simp [ClockState.helper, ClockEvent.helperCall, Helper.next, hr]
      · simp [ClockState.helper, ClockEvent.helperCall, Helper.next, hr, hnone]
    · intro hsynced
      refine (h.synced (Or.inl hsynced)).snoc ?_
      rintro ⟨-, hrunning⟩
      rw [hcancelled] at hrunning
      cases hrunning
    · rw [manualStands_polled, h.manual]
      simp [ClockState.Manual, hnone]
  | wait hsync =>
    obtain ⟨hterm, hrunning⟩ := h.running hsync
    refine ⟨?_, h.exclusive, h.before, ?_, ?_⟩
    · rw [helperAfter_polled hrunning, ← h.helper, hrunning, if_pos rfl]
    · intro hsynced
      refine (h.synced hsynced).snoc ?_
      rintro ⟨hr, -⟩
      exact absurd hr (by decide)
    · rw [manualStands_polled, h.manual]
  | timeout hsync =>
    obtain ⟨hterm, hrunning⟩ := h.running hsync
    -- two events in one move: the poll that found it running, then the cancel
    have hsplit : log ++ [.poll 0, .cancel] = (log ++ [.poll 0]) ++ [.cancel] := by simp
    rw [hsplit]
    refine .ended ?_ (trustAfterFailure_ne _) h.before (fun hs => absurd hs (trustAfterFailure_ne_synced _)) ?_
    · rw [helperAfter_snoc, helperAfter_polled hrunning]
      rfl
    · rw [manualStands_cancelled, manualStands_polled, h.manual]
      simp [ClockState.Manual, hsync]
  | fail r hr hsync =>
    obtain ⟨hterm, hrunning⟩ := h.running hsync
    refine .ended ?_ (trustAfterFailure_ne _) h.before (fun hs => absurd hs (trustAfterFailure_ne_synced _)) ?_
    · rw [helperAfter_polled hrunning, if_neg (by omega)]
      simp [ClockState.helper, hterm, trustAfterFailure_ne]
    · rw [manualStands_polled, h.manual]
      simp [ClockState.Manual, hsync]
  | invalid r hr hsync =>
    obtain ⟨hterm, hrunning⟩ := h.running hsync
    refine .ended ?_ (by simp) (by simp) (by simp) ?_
    · rw [helperAfter_answered hrunning hr]
      simp [ClockState.helper, hterm]
    · simp [manualStands_answered]
  | succeed r hr hsync =>
    obtain ⟨hterm, hrunning⟩ := h.running hsync
    refine .ended ?_ (by simp) h.before (fun _ => earned_success hrunning hr) ?_
    · rw [helperAfter_answered hrunning hr]
      simp [ClockState.helper, hterm]
    · simp [manualStands_answered]
  | defer hsynced =>
    rw [List.append_nil]
    refine .ended ?_ (by simp) h.before (by simp) ?_
    · rw [h.helper]
      simp [ClockState.helper, hsynced]
    · rw [h.manual]
      simp [ClockState.Manual, hsynced]
  | start hnone hterm =>
    have hidle := h.idle hnone hterm
    refine ⟨?_, ?_, hnone, ?_, ?_⟩
    · rw [helperAfter_snoc, hidle]
      simp [ClockState.helper, ClockEvent.helperCall, Helper.next, hterm]
    · intro hon
      exact absurd (hterm.symm.trans hon) (by decide)
    · rintro (hs | ⟨-, hs⟩)
      · cases hs
      · exact (h.synced (Or.inl hs)).snoc fun hspoils => hspoils rfl
    · rw [manualStands_snoc_other (by rintro result ⟨⟩) (by rintro valid ⟨⟩), h.manual]
      simp [ClockState.Manual, hnone]
  | startFail r hr hnone hterm =>
    have hidle := h.idle hnone hterm
    refine .ended ?_ (trustAfterFailure_ne _) hnone (fun hs => absurd hs (trustAfterFailure_ne_synced _)) ?_
    · rw [helperAfter_snoc, hidle]
      simp [ClockState.helper, ClockEvent.helperCall, Helper.next, hterm, hr, trustAfterFailure_ne]
    · rw [manualStands_snoc_other (by rintro result ⟨⟩) (by rintro valid ⟨⟩), h.manual]
      simp [ClockState.Manual, hnone]
  | setByHand result hset hnone hterm =>
    have hidle := h.idle hnone hterm
    refine .ended ?_ (by simp) h.before (by simp) ?_
    · rw [helperAfter_snoc, hidle]
      simp [ClockState.helper, ClockEvent.helperCall, Helper.next, hterm]
    · rw [manualStands_snoc]
      simp [hset]
  | notSet result hset hnone hterm =>
    have hidle := h.idle hnone hterm
    refine .ended ?_ hnone h.before ?_ ?_
    · rw [helperAfter_snoc, hidle]
      simp [ClockState.helper, ClockEvent.helperCall, Helper.next, hterm, hnone]
    · intro hsynced
      refine (h.synced (Or.inl hsynced)).snoc ?_
      intro hspoils
      exact absurd (hset.symm.trans hspoils) (by decide)
    · rw [manualStands_snoc_other (by rintro result' ⟨⟩; exact hset) (by rintro valid ⟨⟩), h.manual]
      simp [ClockState.Manual, hnone]
  | save => exact h.mark rfl id (by rintro valid ⟨⟩)

/-- The moves of one call: a cancel does not follow a poll of a move before. -/
inductive ClockMoves (s : ClockState) : List ClockEvent → ClockState → Prop
  | nil : ClockMoves s [] s
  | snoc {events more : List ClockEvent} {s' s'' : ClockState} (h : ClockMoves s events s')
      (hmove : ClockMove s' more s'') (hfirst : more.head? = some .cancel → events = []) :
      ClockMoves s (events ++ more) s''

variable {events : List ClockEvent} {s'' : ClockState}

theorem ClockMoves.one (hmove : ClockMove s more s') : ClockMoves s more s' :=
  ClockMoves.nil.snoc hmove fun _ => rfl

theorem ClockMoves.append (h : ClockMoves s events s') (h' : ClockMoves s' more s'')
    (hfirst : more.head? ≠ some .cancel) : ClockMoves s (events ++ more) s'' := by
  induction h' with
  | nil =>
    rw [List.append_nil]
    exact h
  | @snoc inner more _ _ h'' hmove hcancel ih =>
    rw [← List.append_assoc]
    cases inner with
    | nil =>
      rw [List.append_nil]
      have hinner := ih nofun
      rw [List.append_nil] at hinner
      exact hinner.snoc hmove fun hhead => absurd hhead hfirst
    | cons first inner =>
      refine (ih (by simpa using hfirst)).snoc hmove fun hhead => ?_
      cases hcancel hhead

theorem ClockInv.moves (h : ClockInv log s) (hmoves : ClockMoves s more s') : ClockInv (log ++ .call :: more) s' := by
  have hcall : ClockInv (log ++ [.call]) s := h.mark rfl id (by rintro valid ⟨⟩)
  have happend : ∀ more, log ++ .call :: more = (log ++ [.call]) ++ more := by simp
  rw [happend]
  induction hmoves with
  | nil =>
    rw [List.append_nil]
    exact hcall
  | snoc _ hmove hfirst ih =>
    rw [← List.append_assoc]
    refine ih.move hmove fun hcancel => ?_
    rw [hfirst hcancel, List.append_nil]
    simp

end FourVrs.App
