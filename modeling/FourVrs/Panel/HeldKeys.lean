import FourVrs.Lib.History
import FourVrs.Panel.Runs

/-!
# Held keys in a run

A key that is reported without a press goes back to a press of the same key. `Armed` is what
the armed flag stands for, `Clocked` what the times of the held key stand for; the keys
themselves leave both alone, or let go of everything when a stop is refused.
-/

set_option autoImplicit false

namespace FourVrs.Panel

open FourVrs.Core Lib

/-! ## What a step sees -/

namespace PanelMoment

/-- The keys a step has sampled as held: 1 is F2 alone, 2 is F4 alone. -/
def held (m : PanelMoment) : Nat :=
  if m.ready.keypadAvailable ∧ ¬m.world.event < 0 ∧ m.ready.hasKeyState then (m.world.sample.map heldKeys).getD 0 else 0

/-- The key the queue had a press of. -/
def pressed (m : PanelMoment) : Option Nat :=
  if m.ready.keypadAvailable ∧ 0 < m.world.event then some m.world.raw else none

def poll (m : PanelMoment) : PanelPoll := panelPoll m.world m.ready

/-- The key that is reported without a press, and how many steps it stands for. -/
def reported (m : PanelMoment) : Option (Nat × Nat) :=
  if m.ready.keypadAvailable ∧ ¬0 < m.world.event ∧ 0 < m.poll.event then
    some (m.poll.raw, m.poll.panel.repeatCount)
  else none

/-- The key is held alone where repeats are allowed, in this context. -/
structure Holds (m : PanelMoment) (keys : Nat) (context : BitVec 32) : Prop where
  held : m.held = keys
  context : repeatContext m.ready = context
  allowed : repeatAllowed m.ready = true

end PanelMoment

/-- Since when these keys have been sampled as held in every step. -/
def heldSince (keys : Nat) (history : List PanelMoment) : Option Nat :=
  history.foldl (fun since m => if m.held = keys then some (since.getD m.at') else none) none

/-- The keypad's code of a key that is held alone. -/
def keyCode (keys : Nat) : Nat := if keys = 1 then 1 else 3

/-- A press of the key, and since then nothing but this key in this context. -/
def HeldFromPress (history : List PanelMoment) (keys : Nat) (context : BitVec 32) : Prop :=
  ∃ before press between, history = before ++ press :: between ∧ press.pressed = some (keyCode keys) ∧
    ∀ m ∈ press :: between, m.Holds keys context

/-- What is to hold of a key that is reported without a press. -/
structure HeldReport (past : List PanelMoment) (m : PanelMoment) (raw count : Nat) : Prop where
  key : raw = 1 ∧ m.held = 1 ∨ raw = 3 ∧ m.held = 2
  holds : m.Holds m.held (repeatContext m.ready)
  pressed : HeldFromPress past m.held (repeatContext m.ready)
  times : ∃ since, heldSince m.held (past ++ [m]) = some since ∧ since + 500 ≤ m.at' ∧
    (count = 1 ∨ count = 10 ∧ repeatNumeric m.ready = true ∧ since + 5000 < m.at') ∧
    ∀ m' ∈ past, m'.reported ≠ none → m'.at' + 100 ≤ m.at' ∨
      repeatNumeric m.ready = false ∧ since + 5000 < m.at' ∧ m'.at' + 10 ≤ m.at'

/-! ## `key_repeat_scaled` -/

/-- A key is only remembered while it is not blocked. -/
structure KeyRepeat.Sound (s : KeyRepeat) : Prop where
  mask : s.mask ≤ 2
  free : s.mask ≠ 0 → s.initialized = true ∧ s.blocked = false

/-- A key that has just gone down. -/
def freshKey (now : CoreTick) (keys : Nat) (context : BitVec 32) : KeyRepeat :=
  { pressedAt := now, emittedAt := now, context, mask := keys, initialized := true }

variable {s : KeyRepeat} {now : CoreTick} {keys : Nat} {context : BitVec 32} {allowed numeric : Bool}

/-- **What a sample does**: let go or block, take up a key, or go on with it. -/
theorem keyRepeatScaled_cases (h : s.Sound) :
    ((keyRepeatScaled s now keys context allowed numeric).1 = 0 ∧
      (keyRepeatScaled s now keys context allowed numeric).2.mask = 0 ∧
        (keys = 0 ∨ (keyRepeatScaled s now keys context allowed numeric).2.blocked = true)) ∨
    (keys ≠ 0 ∧ keys ≤ 2 ∧ allowed = true ∧ keys ≠ s.mask ∧
      keyRepeatScaled s now keys context allowed numeric = (stepOf keys, freshKey now keys context)) ∨
    (keys ≠ 0 ∧ keys ≤ 2 ∧ allowed = true ∧ keys = s.mask ∧ context = s.context ∧
      keyRepeatScaled s now keys context allowed numeric = repeatHeld s now keys numeric) := by
  unfold keyRepeatScaled keyRepeatEntered
  split
  · refine Or.inl ⟨rfl, rfl, ?_⟩
    by_cases hkeys : keys = 0
    · exact Or.inl hkeys
    · exact Or.inr (by simpa using hkeys)
  · rename_i hentered
    simp only [not_or, ne_eq, not_not, Bool.not_eq_true', Bool.not_eq_false, Nat.not_lt] at hentered
    obtain ⟨hcontext, hallowed, hle⟩ := hentered
    split
    · rename_i hkeys
      exact Or.inl ⟨rfl, rfl, Or.inl hkeys⟩
    rename_i hkeys
    split
    · rename_i hblocked
      refine Or.inl ⟨rfl, ?_, Or.inr hblocked⟩
      have hblocked : s.blocked = true := by
        unfold enterContext at hblocked
        split at hblocked <;> exact hblocked
      have hmask : s.mask = 0 := by
        by_contra hmask
        exact absurd (h.free hmask).2 (by simp [hblocked])
      unfold enterContext
      split <;> exact hmask
    · rename_i hfree
      have hsame : (enterContext s context).mask = s.mask := by
        unfold enterContext
        split <;> rfl
      split
      · rename_i hnew
        rw [hsame] at hnew
        refine Or.inr (Or.inl ⟨hkeys, hle, hallowed, hnew, ?_⟩)
        have hinitialized : (enterContext s context).initialized = true := by
          unfold enterContext
          split
          · assumption
          · rfl
        simp only [freshKey, hinitialized, ← hcontext, Bool.not_eq_true] at hfree ⊢
        simp [hfree]
      · rename_i hold
        rw [hsame, not_not] at hold
        have hinitialized := (h.free (hold ▸ hkeys)).1
        have hentered : enterContext s context = s := by simp [enterContext, hinitialized]
        rw [hentered] at hcontext
        refine Or.inr (Or.inr ⟨hkeys, hle, hallowed, hold, hcontext, ?_⟩)
        rw [hentered]

/-- A held key is silent, or makes a step when its interval is over. -/
theorem repeatHeld_cases (s : KeyRepeat) (now : CoreTick) (keys : Nat) (numeric : Bool) :
    repeatHeld s now keys numeric = (0, s) ∨
      (repeatInterval s now numeric ≤ coreElapsed s.emittedAt now ∧
        (repeatHeld s now keys numeric).1.natAbs = (if numeric && longHeld s now then 10 else 1) ∧
        (repeatHeld s now keys numeric).2 = { s with emittedAt := now, started := true }) := by
  unfold repeatHeld
  split
  · exact Or.inl rfl
  · rename_i hover
    refine Or.inr ⟨BitVec.not_lt.mp hover, ?_, rfl⟩
    unfold stepOf
    split <;> split <;> rfl

/-! ## The invariant -/

/-- What the armed flag stands for. -/
def Armed (history : List PanelMoment) (p : GatewayPanel) : Prop :=
  p.repeatArmed = true → p.repeat.mask ≠ 0 ∧ HeldFromPress history p.repeat.mask p.repeat.context

/-- What the times of the held key stand for. -/
structure Clock (history : List PanelMoment) (s : KeyRepeat) (first pressed emitted : Nat) : Prop where
  pressedAt : s.pressedAt = tick pressed
  emittedAt : s.emittedAt = tick emitted
  since : heldSince s.mask history = some first
  first_le : first ≤ pressed
  pressed_le : pressed ≤ emitted
  waiting : s.started = false → emitted = pressed
  started : s.started = true → pressed + 500 ≤ emitted
  reports : ∀ m ∈ history, m.reported ≠ none → m.at' ≤ emitted
  past : ∃ m ∈ history, emitted ≤ m.at'

def Clocked (history : List PanelMoment) (s : KeyRepeat) : Prop :=
  s.mask ≠ 0 → ∃ first pressed emitted, Clock history s first pressed emitted

structure Holding (history : List PanelMoment) (p : GatewayPanel) : Prop where
  sound : p.repeat.Sound
  armed : Armed history p
  clocked : Clocked history p.repeat
  unsampled : p.hasKeyState = false → p.repeatArmed = false ∧ p.repeat.mask = 0

variable {history : List PanelMoment} {m : PanelMoment} {p p' : GatewayPanel} {w : PanelWorld}

theorem heldSince_append (keys : Nat) (history : List PanelMoment) (m : PanelMoment) :
    heldSince keys (history ++ [m]) =
      if m.held = keys then some ((heldSince keys history).getD m.at') else none := by
  simp [heldSince]

theorem heldSince_le {since : Nat} (h : heldSince keys history = some since) {next : Nat}
    (hlater : ∀ m ∈ history, m.at' ≤ next) : since ≤ next := by
  induction history using List.reverseRecOn generalizing since with
  | nil => cases h
  | append_singleton history m ih =>
    rw [heldSince_append] at h
    split at h
    · cases h
      have hm := hlater m (List.mem_append_right _ (List.mem_singleton_self _))
      cases hsince : heldSince keys history with
      | none => exact hm
      | some since => exact ih hsince fun m hm => hlater m (List.mem_append_left _ hm)
    · cases h

/-- Nothing is held. -/
theorem holding_released (hmask : p.repeat.mask = 0) (harmed : p.repeatArmed = false) : Holding history p where
  sound := ⟨by simp [hmask], fun h => absurd hmask h⟩
  armed h := absurd (harmed.symm.trans h) (by simp)
  clocked h := absurd hmask h
  unsampled _ := ⟨harmed, hmask⟩

/-- The held key is as it was, or let go of. -/
structure SameKeys (p p' : GatewayPanel) : Prop where
  held : p'.repeat = p.repeat ∧ p'.repeatArmed = p.repeatArmed ∨
    p'.repeat = keyRepeatInit ∧ p'.repeatArmed = false
  hasKeyState : p'.hasKeyState = p.hasKeyState
  keypadAvailable : p'.keypadAvailable = p.keypadAvailable

theorem Holding.same (h : Holding history p) (hsame : SameKeys p p') : Holding history p' := by
  rcases hsame.held with ⟨hrepeat, harmed⟩ | ⟨hrepeat, harmed⟩
  · refine ⟨hrepeat ▸ h.sound, ?_, hrepeat ▸ h.clocked, ?_⟩
    · unfold Armed
      rw [hrepeat, harmed]
      exact h.armed
    · rw [hrepeat, harmed, hsame.hasKeyState]
      exact h.unsampled
  · exact holding_released (by rw [hrepeat]; rfl) harmed

theorem SameKeys.of_eq (hrepeat : p'.repeat = p.repeat) (harmed : p'.repeatArmed = p.repeatArmed)
    (hstate : p'.hasKeyState = p.hasKeyState) (hkeypad : p'.keypadAvailable = p.keypadAvailable) : SameKeys p p' :=
  ⟨Or.inl ⟨hrepeat, harmed⟩, hstate, hkeypad⟩

theorem SameKeys.refl (p : GatewayPanel) : SameKeys p p := .of_eq rfl rfl rfl rfl

theorem SameKeys.trans {p'' : GatewayPanel} (h : SameKeys p p') (h' : SameKeys p' p'') : SameKeys p p'' where
  held := by
    rcases h'.held with ⟨hrepeat, harmed⟩ | hgone
    · rcases h.held with ⟨hrepeat', harmed'⟩ | ⟨hrepeat', harmed'⟩
      · exact Or.inl ⟨hrepeat.trans hrepeat', harmed.trans harmed'⟩
      · exact Or.inr ⟨hrepeat.trans hrepeat', harmed.trans harmed'⟩
    · exact Or.inr hgone
  hasKeyState := h'.hasKeyState.trans h.hasKeyState
  keypadAvailable := h'.keypadAvailable.trans h.keypadAvailable

/-! ## The keys leave the held key alone -/

theorem sameKeys_stopResult (p : GatewayPanel) (error : Nat) : SameKeys p (gatewayPanelStopResult p error) :=
  ⟨Or.inr ⟨rfl, rfl⟩, rfl, rfl⟩

theorem sameKeys_openMenuItem (p : GatewayPanel) (item : MenuItem) : SameKeys p (openMenuItem p item) := by
  cases item <;> exact .of_eq rfl rfl rfl rfl

theorem sameKeys_menuKey (p : GatewayPanel) (k : PanelKey) : SameKeys p (menuKey p k) := by
  cases k with
  | f3 => exact sameKeys_openMenuItem p _
  | f1 | f2 | f4 => exact .of_eq rfl rfl rfl rfl
  | f5 => exact .refl p

theorem sameKeys_systemTimeKey (p : GatewayPanel) (k : PanelKey) : SameKeys p (systemTimeKey w p k) := by
  cases k with
  | f5 =>
    unfold systemTimeKey
    dsimp only
    split <;> exact .of_eq rfl rfl rfl rfl
  | f1 | f2 => exact .of_eq rfl rfl rfl rfl
  | f3 => exact .refl p
  | f4 => exact .of_eq rfl rfl rfl rfl

theorem sameKeys_timeEditKey (p : GatewayPanel) (k : PanelKey) : SameKeys p (timeEditKey w p k) := by
  cases k with
  | f3 =>
    unfold timeEditKey
    dsimp only
    split <;> exact .of_eq rfl rfl rfl rfl
  | f1 => exact .of_eq rfl rfl rfl rfl
  | f2 | f4 | f5 => exact .refl p

theorem sameKeys_configFieldsKey (p : GatewayPanel) (k : PanelKey) : SameKeys p (configFieldsKey w p k) := by
  cases k with
  | f3 =>
    unfold configFieldsKey
    dsimp only
    split
    · split <;> exact .of_eq rfl rfl rfl rfl
    · split <;> exact .of_eq rfl rfl rfl rfl
  | f5 =>
    unfold configFieldsKey
    dsimp only
    split <;> exact .of_eq rfl rfl rfl rfl
  | f1 => exact .refl p
  | f2 | f4 => exact .of_eq rfl rfl rfl rfl

theorem sameKeys_viewKey (p : GatewayPanel) (k : PanelKey) : SameKeys p (viewKey w p k) := by
  unfold viewKey
  split
  · cases k <;> exact .of_eq rfl rfl rfl rfl
  · cases k <;> exact .of_eq rfl rfl rfl rfl
  · cases k <;> exact .of_eq rfl rfl rfl rfl
  · exact sameKeys_configFieldsKey p k
  · unfold editFieldKey
    split
    · exact .of_eq rfl rfl rfl rfl
    · split <;> exact .of_eq rfl rfl rfl rfl
    · exact .refl p
  · split <;> exact .of_eq rfl rfl rfl rfl
  · split <;> exact .of_eq rfl rfl rfl rfl
  · unfold startupEventsKey
    split
    · exact .of_eq rfl rfl rfl rfl
    · split <;> exact .of_eq rfl rfl rfl rfl
    · exact .refl p
  · -- a stop that is refused lets go of the key
    unfold shutdownConfirmKey
    split
    · split
      · exact sameKeys_stopResult p 1
      · exact .of_eq rfl rfl rfl rfl
    · exact .refl p
  · exact .refl p

theorem sameKeys_key (p : GatewayPanel) (k : PanelKey) : SameKeys p (key w p k) := by
  unfold key
  split
  · split <;> exact .of_eq rfl rfl rfl rfl
  · exact .refl p
  · exact .refl p
  · exact .refl p
  · cases k <;> exact .of_eq rfl rfl rfl rfl
  · cases k <;> exact .of_eq rfl rfl rfl rfl
  · exact sameKeys_systemTimeKey p k
  · exact sameKeys_timeEditKey p k
  · cases k <;> exact .of_eq rfl rfl rfl rfl
  · split <;> exact .of_eq rfl rfl rfl rfl
  · split
    · exact .of_eq rfl rfl rfl rfl
    · exact sameKeys_menuKey p k
  · split
    · exact .of_eq rfl rfl rfl rfl
    · exact sameKeys_viewKey p k

theorem sameKeys_networkKey {q : GatewayPanel} {k : PanelKey} (hq : networkKey w p k = some q) : SameKeys p q := by
  unfold networkKey at hq
  split at hq
  · split at hq
    · cases hq
      exact .of_eq rfl rfl rfl rfl
    · cases hq
  · cases hq
    unfold networkPageKey
    split
    · exact .of_eq rfl rfl rfl rfl
    · exact .of_eq rfl rfl rfl rfl
    · exact .refl p
    · exact .of_eq rfl rfl rfl rfl
    · split <;> exact .of_eq rfl rfl rfl rfl
  · cases hq
    unfold networkEditKey
    split
    · exact .of_eq rfl rfl rfl rfl
    · exact .of_eq rfl rfl rfl rfl
    · exact .refl p
    · exact .refl p
    · split <;> exact .of_eq rfl rfl rfl rfl
  · cases hq
    cases k <;> exact .of_eq rfl rfl rfl rfl
  · cases hq
    split <;> exact .of_eq rfl rfl rfl rfl
  · cases hq

theorem sameKeys_ntpKey {q : GatewayPanel} {k : PanelKey} (hq : ntpKey w p k = some q) : SameKeys p q := by
  unfold ntpKey at hq
  split at hq
  · cases hq
    cases k <;> exact .of_eq rfl rfl rfl rfl
  · cases hq
    unfold ntpEditKey
    split
    · exact .of_eq rfl rfl rfl rfl
    · exact .refl p
    · exact .refl p
    · unfold ntpNext
      split
      · exact .of_eq rfl rfl rfl rfl
      · split
        · exact .of_eq rfl rfl rfl rfl
        · split <;> exact .of_eq rfl rfl rfl rfl
    · split
      · exact .of_eq rfl rfl rfl rfl
      · split <;> exact .of_eq rfl rfl rfl rfl
  · cases hq
    cases k <;> exact .of_eq rfl rfl rfl rfl
  · cases hq
    split <;> exact .of_eq rfl rfl rfl rfl
  · cases hq

theorem sameKeys_specialKey {q : GatewayPanel} {k : PanelKey} (hq : specialKey w p k = some q) : SameKeys p q := by
  unfold specialKey at hq
  split at hq
  · cases hq
    cases k <;> exact .of_eq rfl rfl rfl rfl
  · cases hq
    cases k <;> exact .of_eq rfl rfl rfl rfl
  · unfold systemKey at hq
    split at hq
    · cases hq
      exact .of_eq rfl rfl rfl rfl
    · cases hq
      exact .of_eq rfl rfl rfl rfl
    · split at hq
      · cases hq
        exact .of_eq rfl rfl rfl rfl
      split at hq
      · cases hq
        exact .of_eq rfl rfl rfl rfl
      · cases hq
    · cases hq
      exact .of_eq rfl rfl rfl rfl
    split at hq
    · cases hq
      exact .of_eq rfl rfl rfl rfl
    · cases hq
  · exact sameKeys_ntpKey hq

theorem sameKeys_webSave (p : GatewayPanel) (item : WebItem) : SameKeys p (webSave w p item).1 := by
  unfold webSave
  split
  · exact .of_eq rfl rfl rfl rfl
  · dsimp only
    split
    · exact .of_eq rfl rfl rfl rfl
    · unfold webSaved
      dsimp only
      split
      · dsimp only
        split <;> exact .of_eq rfl rfl rfl rfl
      · exact .of_eq rfl rfl rfl rfl

theorem sameKeys_webItemKey (p : GatewayPanel) (item : WebItem) : SameKeys p (webItemKey w p item).1 := by
  unfold webItemKey
  split
  · exact .of_eq rfl rfl rfl rfl
  · split
    · dsimp only
      split <;> exact .of_eq rfl rfl rfl rfl
    · exact .refl p
  · split
    · exact .refl p
    · exact sameKeys_webSave p _

theorem sameKeys_webKey {q : Pressed} {k : PanelKey} (hq : webKey w p k = some q) : SameKeys p q.1 := by
  unfold webKey at hq
  split at hq
  · cases hq
  split at hq
  · cases hq
    exact .of_eq rfl rfl rfl rfl
  split at hq
  · cases hq
    exact .refl p
  split at hq
  · cases hq
    exact .of_eq rfl rfl rfl rfl
  split at hq
  · cases hq
    exact .of_eq rfl rfl rfl rfl
  split at hq
  · cases hq
    unfold webRecoverKey
    split
    · dsimp only
      split <;> exact .of_eq rfl rfl rfl rfl
    · exact .refl p
  split at hq
  · cases hq
    exact .refl p
  · cases hq
    cases k with
    | f3 => exact sameKeys_webItemKey p _
    | f1 => exact .refl p
    | f2 | f4 | f5 => exact .of_eq rfl rfl rfl rfl

theorem sameKeys_pressKey (p : GatewayPanel) (k : PanelKey) : SameKeys p (pressKey w p k).1 := by
  unfold pressKey
  split
  · exact sameKeys_key p k
  split
  · rename_i hweb
    exact sameKeys_webKey hweb
  · cases hnetwork : networkKey w p k with
    | some q => exact sameKeys_networkKey hnetwork
    | none =>
      cases hspecial : specialKey w p k with
      | some q => exact sameKeys_specialKey hspecial
      | none => exact sameKeys_key p k

theorem sameKeys_pressRepeated (k : PanelKey) (count : Nat) (p : GatewayPanel) :
    SameKeys p (pressRepeated w k count p).1 := by
  induction count generalizing p with
  | zero => exact .refl p
  | succ count ih =>
    unfold pressRepeated
    dsimp only
    split
    · exact sameKeys_pressKey p k
    · exact (sameKeys_pressKey p k).trans (ih _)

/-! ## The poll -/

theorem HeldFromPress.extend (h : HeldFromPress history keys context) (hm : m.Holds keys context) :
    HeldFromPress (history ++ [m]) keys context := by
  obtain ⟨before, press, between, rfl, hpress, hholds⟩ := h
  refine ⟨before, press, between ++ [m], by simp, hpress, ?_⟩
  intro m' hm'
  rw [← List.cons_append] at hm'
  rcases List.mem_append.mp hm' with hm' | hm'
  · exact hholds m' hm'
  · rw [List.mem_singleton.mp hm']
    exact hm

theorem heldFromPress_now (hm : m.Holds keys context) (hpress : m.pressed = some (keyCode keys)) :
    HeldFromPress (history ++ [m]) keys context := by
  refine ⟨history, m, [], rfl, hpress, ?_⟩
  intro m' hm'
  rw [List.mem_singleton.mp hm']
  exact hm

theorem keyCode_of_pressMatches {raw : Nat} (h : pressMatches raw keys = true) : raw = keyCode keys := by
  simp only [pressMatches, decide_eq_true_eq] at h
  rcases h with ⟨rfl, rfl⟩ | ⟨rfl, rfl⟩ <;> rfl

section clock

variable {first pressed emitted : Nat}

theorem Clock.emitted_le (h : Clock history s first pressed emitted) (hlater : ∀ m' ∈ history, m'.at' ≤ m.at') :
    emitted ≤ m.at' := by
  obtain ⟨m', hm', hle⟩ := h.past
  exact Nat.le_trans hle (hlater m' hm')

/-- A step in which the held key is silent. -/
theorem Clock.silent (h : Clock history s first pressed emitted) (hheld : m.held = s.mask)
    (hnone : m.reported = none) : Clock (history ++ [m]) s first pressed emitted where
  pressedAt := h.pressedAt
  emittedAt := h.emittedAt
  since := by rw [heldSince_append, if_pos hheld, h.since]; rfl
  first_le := h.first_le
  pressed_le := h.pressed_le
  waiting := h.waiting
  started := h.started
  reports m' hm' hreported := by
    rcases List.mem_append.mp hm' with hm' | hm'
    · exact h.reports m' hm' hreported
    · rw [List.mem_singleton.mp hm'] at hreported
      exact absurd hnone hreported
  past := by
    obtain ⟨m', hm', hle⟩ := h.past
    exact ⟨m', List.mem_append_left _ hm', hle⟩

/-- Five seconds that the tick shows have gone by. -/
theorem Clock.long (h : Clock history s first pressed emitted) (hle : pressed ≤ m.at')
    (hlong : longHeld s (tick m.at') = true) : pressed + 5000 < m.at' := by
  simp only [longHeld, decide_eq_true_eq, h.pressedAt] at hlong
  have hnext : (5001 : CoreTick) ≤ coreElapsed (tick pressed) (tick m.at') := by
    rw [BitVec.le_def]
    exact BitVec.lt_def.mp hlong
  exact le_of_coreElapsed hle hnext

/-- What it takes for a held key to make a step. -/
theorem Clock.interval (h : Clock history s first pressed emitted) (hle : emitted ≤ m.at')
    (hover : repeatInterval s (tick m.at') numeric ≤ coreElapsed s.emittedAt (tick m.at')) :
    pressed + 500 ≤ m.at' ∧ (emitted + 100 ≤ m.at' ∨
      numeric = false ∧ pressed + 5000 < m.at' ∧ emitted + 10 ≤ m.at') := by
  rw [h.emittedAt] at hover
  have hnext := le_of_coreElapsed hle hover
  cases hstarted : s.started with
  | false =>
    have hwait : (repeatInterval s (tick m.at') numeric).toNat = 500 := by simp [repeatInterval, hstarted]
    have hsame := h.waiting hstarted
    omega
  | true =>
    have hlate := h.started hstarted
    refine ⟨by omega, ?_⟩
    cases hfast : longHeld s (tick m.at') && !numeric with
    | false =>
      have hwait : (repeatInterval s (tick m.at') numeric).toNat = 100 := by
        simp [repeatInterval, hstarted, hfast]
      omega
    | true =>
      have hwait : (repeatInterval s (tick m.at') numeric).toNat = 10 := by
        simp [repeatInterval, hstarted, hfast]
      simp only [Bool.and_eq_true, Bool.not_eq_true'] at hfast
      exact Or.inr ⟨hfast.2, h.long (Nat.le_trans h.pressed_le hle) hfast.1, by omega⟩

/-- A step in which the held key is reported, or would be if it were armed. -/
theorem Clock.emit (h : Clock history s first pressed emitted) (hheld : m.held = s.mask)
    (hlater : ∀ m' ∈ history, m'.at' ≤ m.at') (hlong : pressed + 500 ≤ m.at') :
    Clock (history ++ [m]) { s with emittedAt := tick m.at', started := true } first pressed m.at' where
  pressedAt := h.pressedAt
  emittedAt := rfl
  since := by rw [heldSince_append, if_pos hheld, h.since]; rfl
  first_le := h.first_le
  pressed_le := by omega
  waiting hstarted := absurd hstarted (by simp)
  started _ := hlong
  reports m' hm' _ := by
    rcases List.mem_append.mp hm' with hm' | hm'
    · exact hlater m' hm'
    · rw [List.mem_singleton.mp hm']
  past := ⟨m, List.mem_append_right _ (List.mem_singleton_self m), Nat.le_refl _⟩

/-- A key that has gone down starts the clock. -/
theorem clock_fresh (hheld : m.held = keys) (hlater : ∀ m' ∈ history, m'.at' ≤ m.at') :
    ∃ first, Clock (history ++ [m]) (freshKey (tick m.at') keys context) first m.at' m.at' := by
  have hsince := heldSince_append keys history m
  rw [if_pos hheld] at hsince
  refine ⟨_, rfl, rfl, hsince, ?_, Nat.le_refl _, fun _ => rfl, fun h => absurd h (by simp [freshKey]), ?_, ?_⟩
  · cases hbefore : heldSince keys history with
    | none => exact Nat.le_refl _
    | some since => exact heldSince_le hbefore hlater
  · intro m' hm' _
    rcases List.mem_append.mp hm' with hm' | hm'
    · exact hlater m' hm'
    · rw [List.mem_singleton.mp hm']
  · exact ⟨m, List.mem_append_right _ (List.mem_singleton_self m), Nat.le_refl _⟩

end clock

/-- What the held key does in a step with a sample. -/
def PanelMoment.stepped (m : PanelMoment) : Int × KeyRepeat :=
  keyRepeatScaled m.ready.repeat m.world.uptime m.held (repeatContext m.ready) (repeatAllowed m.ready)
    (repeatNumeric m.ready)

/-- The armed key goes on. -/
structure GoesOn (m : PanelMoment) : Prop where
  free : m.stepped.2.blocked = false
  armed : m.ready.repeatArmed = true
  held : m.held ≠ 0 ∧ m.held = m.ready.repeat.mask

/-- What a poll leaves and reports when there is a sample. -/
structure PolledSample (m : PanelMoment) : Prop where
  «repeat» : m.poll.panel.repeat = m.stepped.2
  armed : m.poll.panel.repeatArmed = true → GoesOn m ∨
    m.stepped.2.blocked = false ∧ repeatAllowed m.ready = true ∧ m.held ≠ 0 ∧ m.pressed = some (keyCode m.held)
  hasKeyState : m.poll.panel.hasKeyState = true
  reported : ∀ raw count, m.reported = some (raw, count) →
    GoesOn m ∧ m.stepped.1 ≠ 0 ∧ raw = keyCode m.held ∧ count = m.stepped.1.natAbs

theorem polledSample {mask : Nat} (hkeypad : m.ready.keypadAvailable = true) (hevent : ¬m.world.event < 0)
    (hstate : m.ready.hasKeyState = true) (hsample : m.world.sample = some mask) : PolledSample m := by
  have hheld : m.held = heldKeys mask := by simp [PanelMoment.held, hkeypad, hevent, hstate, hsample]
  have hpoll : m.poll = pollSampled m.world { m.ready with repeatCount := 1 } m.held := by
    simp [PanelMoment.poll, panelPoll, hevent, hstate, hsample, hheld]
  have hgoes : (m.ready.repeatArmed && !(decide (m.held = 0 ∨ m.held ≠ m.ready.repeat.mask) || m.stepped.2.blocked)) = true →
      GoesOn m := by
    intro harmed
    simp only [Bool.and_eq_true, Bool.not_eq_true', Bool.or_eq_false_iff, decide_eq_false_iff_not, not_or, ne_eq,
      not_not] at harmed
    exact ⟨harmed.2.2, harmed.1, harmed.2.1⟩
  -- a press of its own comes before any repeat
  by_cases hpressed : 0 < m.world.event
  · have hcode : m.pressed = some m.world.raw := by simp [PanelMoment.pressed, hkeypad, hpressed]
    have hnone : m.reported = none := by simp [PanelMoment.reported, hpressed]
    refine ⟨?_, ?_, ?_, ?_⟩
    · rw [hpoll, pollSampled, if_pos hpressed]
      rfl
    · rw [hpoll, pollSampled, if_pos hpressed]
      intro harmed
      rcases Bool.or_eq_true _ _ ▸ harmed with harmed | harms
      · exact Or.inl (hgoes harmed)
      · simp only [Bool.and_eq_true, Bool.not_eq_true'] at harms
        obtain ⟨⟨hfree, hallowed⟩, hmatches⟩ := harms
        have hkeys : m.held ≠ 0 := by
          simp only [pressMatches, decide_eq_true_eq] at hmatches
          omega
        exact Or.inr ⟨hfree, hallowed, hkeys, by rw [hcode, keyCode_of_pressMatches hmatches]⟩
    · rw [hpoll, pollSampled, if_pos hpressed]
      exact hstate
    · intro raw count hreported
      rw [hnone] at hreported
      cases hreported
  by_cases hstep : m.stepped.1 ≠ 0 ∧
    (m.ready.repeatArmed && !(decide (m.held = 0 ∨ m.held ≠ m.ready.repeat.mask) || m.stepped.2.blocked)) = true
  · have hpoll' : m.poll = { event := 1, raw := keyCode m.held
                             panel := { m.ready with
                               «repeat» := m.stepped.2, repeatArmed := true, repeatCount := m.stepped.1.natAbs } } := by
      rw [hpoll, pollSampled, if_neg hpressed]
      exact (if_pos hstep).trans (by rw [← hstep.2]; rfl)
    refine ⟨by rw [hpoll'], fun _ => Or.inl (hgoes hstep.2), by rw [hpoll']; exact hstate, ?_⟩
    intro raw count hreported
    simp only [PanelMoment.reported, hkeypad, hpressed, hpoll', not_false_eq_true, true_and, Int.zero_lt_one,
      if_true, Option.some.injEq, Prod.mk.injEq] at hreported
    exact ⟨hgoes hstep.2, hstep.1, hreported.1.symm, hreported.2.symm⟩
  · have hpoll' : m.poll = { event := 0, raw := m.world.raw
                             panel := { m.ready with
                               «repeat» := m.stepped.2, repeatCount := 1, repeatArmed := m.ready.repeatArmed &&
                                 !(decide (m.held = 0 ∨ m.held ≠ m.ready.repeat.mask) || m.stepped.2.blocked) } } := by
      rw [hpoll, pollSampled, if_neg hpressed]
      exact if_neg hstep
    refine ⟨by rw [hpoll'], ?_, by rw [hpoll']; exact hstate, ?_⟩
    · rw [hpoll']
      exact fun harmed => Or.inl (hgoes harmed)
    · intro raw count hreported
      simp [PanelMoment.reported, hpoll'] at hreported

/-- What a step keeps, and what is to hold of its report. -/
def Kept (history : List PanelMoment) (m : PanelMoment) : Prop :=
  Holding (history ++ [m]) m.poll.panel ∧ ∀ raw count, m.reported = some (raw, count) → HeldReport history m raw count

/-- The key was let go of, or is blocked. -/
theorem kept_released (hp : PolledSample m) (hstep : m.stepped.1 = 0) (hmask : m.stepped.2.mask = 0)
    (hwhy : m.held = 0 ∨ m.stepped.2.blocked = true) : Kept history m := by
  have harmed : m.poll.panel.repeatArmed = false := by
    by_contra harmed
    rcases hp.armed (by simpa using harmed) with hgoes | ⟨hfree, -, hkeys, -⟩
    · rcases hwhy with hkeys | hblocked
      · exact hgoes.held.1 hkeys
      · exact absurd (hgoes.free.symm.trans hblocked) (by simp)
    · rcases hwhy with hkeys' | hblocked
      · exact hkeys hkeys'
      · exact absurd (hfree.symm.trans hblocked) (by simp)
  refine ⟨holding_released (by rw [hp.repeat]; exact hmask) harmed, ?_⟩
  intro raw count hreported
  exact absurd hstep (hp.reported raw count hreported).2.1

/-- A key has gone down: it is armed if the queue has its press. -/
theorem kept_fresh (hp : PolledSample m) (hlater : ∀ m' ∈ history, m'.at' ≤ m.at') (hle : m.held ≤ 2)
    (hallowed : repeatAllowed m.ready = true) (hnew : m.held ≠ m.ready.repeat.mask)
    (hstep : m.stepped.2 = freshKey (tick m.at') m.held (repeatContext m.ready)) : Kept history m := by
  have hrepeat : m.poll.panel.repeat = freshKey (tick m.at') m.held (repeatContext m.ready) := hp.repeat.trans hstep
  refine ⟨⟨?_, ?_, ?_, ?_⟩, ?_⟩
  · rw [hrepeat]
    exact ⟨hle, fun _ => ⟨rfl, rfl⟩⟩
  · intro harmed
    rw [hrepeat]
    rcases hp.armed harmed with hgoes | ⟨-, -, hkeys, hpress⟩
    · exact absurd hgoes.held.2 hnew
    · exact ⟨hkeys, heldFromPress_now ⟨rfl, rfl, hallowed⟩ hpress⟩
  · intro _
    rw [hrepeat]
    obtain ⟨first, hclock⟩ : ∃ first, Clock (history ++ [m])
        (freshKey (tick m.at') m.held (repeatContext m.ready)) first m.at' m.at' := clock_fresh rfl hlater
    exact ⟨first, _, _, hclock⟩
  · intro hstate
    rw [hp.hasKeyState] at hstate
    cases hstate
  · intro raw count hreported
    exact absurd (hp.reported raw count hreported).1.held.2 hnew

/-- What is held on stays armed, or is armed now. -/
theorem armed_held (h : Armed history m.ready) (hp : PolledSample m) (hallowed : repeatAllowed m.ready = true)
    (hheld : m.held = m.ready.repeat.mask) (hcontext : repeatContext m.ready = m.ready.repeat.context)
    (hmask : m.poll.panel.repeat.mask = m.held) (hkept : m.poll.panel.repeat.context = repeatContext m.ready) :
    Armed (history ++ [m]) m.poll.panel := by
  intro harmed
  rw [hmask, hkept]
  have hholds : m.Holds m.held (repeatContext m.ready) := ⟨rfl, rfl, hallowed⟩
  rcases hp.armed harmed with hgoes | ⟨-, -, hkeys, hpress⟩
  · have hfrom := (h hgoes.armed).2
    rw [← hheld, ← hcontext] at hfrom
    exact ⟨hgoes.held.1, hfrom.extend hholds⟩
  · exact ⟨hkeys, heldFromPress_now hholds hpress⟩

/-- The key is held on: it is silent, or makes a step when its interval is over. -/
theorem kept_held (h : Holding history m.ready) (hp : PolledSample m) (hlater : ∀ m' ∈ history, m'.at' ≤ m.at')
    (hkeys : m.held ≠ 0) (hle : m.held ≤ 2) (hallowed : repeatAllowed m.ready = true)
    (hheld : m.held = m.ready.repeat.mask) (hcontext : repeatContext m.ready = m.ready.repeat.context)
    (hstep : m.stepped = repeatHeld m.ready.repeat (tick m.at') m.held (repeatNumeric m.ready)) :
    Kept history m := by
  obtain ⟨first, pressed, emitted, hclock⟩ := h.clocked (hheld ▸ hkeys)
  have hemitted := hclock.emitted_le hlater
  have hunsampled : m.poll.panel.hasKeyState = false → m.poll.panel.repeatArmed = false ∧ m.poll.panel.repeat.mask = 0 :=
    fun hstate => absurd (hp.hasKeyState.symm.trans hstate) (by simp)
  -- the key is held on: nothing is due yet, or a repeat is
  rcases repeatHeld_cases m.ready.repeat (tick m.at') m.held (repeatNumeric m.ready) with
    hsilent | ⟨hover, hcount, hemit⟩
  · rw [hsilent] at hstep
    have hrepeat : m.poll.panel.repeat = m.ready.repeat := by rw [hp.repeat, hstep]
    have hnone : m.reported = none := by
      cases hreported : m.reported with
      | none => rfl
      | some report => exact absurd (congrArg Prod.fst hstep) (hp.reported report.1 report.2 hreported).2.1
    refine ⟨⟨?_, ?_, ?_, hunsampled⟩, ?_⟩
    · rw [hrepeat]
      exact h.sound
    · exact armed_held h.armed hp hallowed hheld hcontext (by rw [hrepeat, hheld]) (by rw [hrepeat, hcontext])
    · rw [hrepeat]
      exact fun _ => ⟨first, pressed, emitted, hclock.silent hheld hnone⟩
    · intro raw count hreported
      rw [hnone] at hreported
      cases hreported
  · have hrepeat : m.poll.panel.repeat = { m.ready.repeat with emittedAt := tick m.at', started := true } := by
      rw [hp.repeat, hstep, hemit]
    obtain ⟨hlong, hnext⟩ := hclock.interval hemitted hover
    refine ⟨⟨?_, ?_, ?_, hunsampled⟩, ?_⟩
    · rw [hrepeat]
      exact ⟨h.sound.mask, h.sound.free⟩
    · exact armed_held h.armed hp hallowed hheld hcontext (by rw [hrepeat, hheld]) (by rw [hrepeat, hcontext])
    · rw [hrepeat]
      exact fun _ => ⟨first, pressed, m.at', hclock.emit hheld hlater hlong⟩
    · intro raw count hreported
      obtain ⟨hgoes, -, hraw, htimes⟩ := hp.reported raw count hreported
      have hfrom := (h.armed hgoes.armed).2
      rw [← hheld, ← hcontext] at hfrom
      -- since when it has been held, this moment included
      have hsince := heldSince_append m.held history m
      rw [if_pos rfl, hheld, hclock.since] at hsince
      refine ⟨?_, ⟨rfl, rfl, hallowed⟩, hfrom, first, ?_, ?_, ?_, ?_⟩
      · have hcases : m.held = 1 ∨ m.held = 2 := by omega
        rcases hcases with hone | htwo
        · exact Or.inl ⟨by rw [hraw, hone]; rfl, hone⟩
        · exact Or.inr ⟨by rw [hraw, htwo]; rfl, htwo⟩
      · rw [hheld]
        exact hsince
      · have hfirst := hclock.first_le
        omega
      · rw [hstep, hcount] at htimes
        split at htimes
        · rename_i hscaled
          rw [Bool.and_eq_true] at hscaled
          have hpast := hclock.long (Nat.le_trans hclock.pressed_le hemitted) hscaled.2
          have hfirst := hclock.first_le
          exact Or.inr ⟨htimes, hscaled.1, by omega⟩
        · exact Or.inl htimes
      · intro m' hm' hreported'
        have hbefore := hclock.reports m' hm' hreported'
        have hfirst := hclock.first_le
        rcases hnext with hnext | ⟨hnumeric, hpast, hnext⟩
        · exact Or.inl (by omega)
        · exact Or.inr ⟨hnumeric, by omega, by omega⟩

/-- What the queue had is no report of its own. -/
theorem reported_eq_none (h : m.poll.event = m.world.event) : m.reported = none := by
  unfold PanelMoment.reported
  rw [h, if_neg]
  exact fun hreported => hreported.2.1 hreported.2.2

/-- **One poll**: what is reported is a key that is held since its press. -/
theorem kept_poll (h : Holding history m.ready) (hlater : ∀ m' ∈ history, m'.at' ≤ m.at')
    (hclock : m.world.uptime = tick m.at') (hkeypad : m.ready.keypadAvailable = true) (hevent : ¬m.world.event < 0) :
    Kept history m := by
  cases hstate : m.ready.hasKeyState with
  | false =>
    obtain ⟨harmed, hmask⟩ := h.unsampled hstate
    have hpoll : m.poll = { event := m.world.event, raw := m.world.raw, panel := { m.ready with repeatCount := 1 } } := by
      simp [PanelMoment.poll, panelPoll, hstate]
    refine ⟨by rw [hpoll]; exact holding_released hmask harmed, ?_⟩
    intro raw count hreported
    rw [reported_eq_none (by rw [hpoll])] at hreported
    cases hreported
  | true =>
    cases hsample : m.world.sample with
    | none =>
      have hpoll : m.poll = { event := m.world.event, raw := m.world.raw
                              panel := { m.ready with repeatCount := 1, «repeat» := keyRepeatInit, repeatArmed := false } } := by
        simp [PanelMoment.poll, panelPoll, hstate, hevent, hsample]
      refine ⟨by rw [hpoll]; exact holding_released rfl rfl, ?_⟩
      intro raw count hreported
      rw [reported_eq_none (by rw [hpoll])] at hreported
      cases hreported
    | some mask =>
      have hp := polledSample hkeypad hevent hstate hsample
      have hcases : _ ∨ _ ∨ _ := @keyRepeatScaled_cases _ m.world.uptime m.held (repeatContext m.ready)
        (repeatAllowed m.ready) (repeatNumeric m.ready) h.sound
      rcases hcases with ⟨hstep, hmask, hwhy⟩ | ⟨-, hle, hallowed, hnew, hstep⟩ |
        ⟨hkeys, hle, hallowed, hheld, hcontext, hstep⟩
      · exact kept_released hp hstep hmask hwhy
      · refine kept_fresh hp hlater hle hallowed hnew ?_
        rw [PanelMoment.stepped, hstep, hclock]
      · refine kept_held h hp hlater hkeys hle hallowed hheld hcontext ?_
        rw [PanelMoment.stepped, hstep, hclock]

/-! ## The step -/

theorem sameKeys_panelReady (w : PanelWorld) (p : GatewayPanel) : SameKeys p (panelReady w p) := by
  have hprompt : ∀ p, SameKeys p (webPrompt w p) := by
    intro p
    have hended : SameKeys p (endPrompt w p) := by
      unfold endPrompt
      split <;> exact .of_eq rfl rfl rfl rfl
    refine hended.trans ?_
    unfold webPrompt
    dsimp only
    split
    · exact .refl _
    · split <;> split <;> exact .of_eq rfl rfl rfl rfl
  have hresult : ∀ p, SameKeys p (webTransactionResult w p) := by
    intro p
    unfold webTransactionResult
    split
    · exact .refl p
    split
    · exact .of_eq rfl rfl rfl rfl
    · split
      · exact .of_eq rfl rfl rfl rfl
      · split <;> exact .of_eq rfl rfl rfl rfl
  unfold panelReady
  dsimp only
  have hhome : SameKeys p (if p.view = .startup ∧ w.startupOver then { p with view := .home } else p) := by
    split <;> exact .of_eq rfl rfl rfl rfl
  split
  · exact hhome
  · exact hhome.trans ((hresult _).trans (hprompt _))

/-- After the keys a step only shows the panel. -/
theorem sameKeys_shown (w : PanelWorld) (p : GatewayPanel) :
    SameKeys p (drawScreen w (makeScreen (stoppingView w p))) := by
  have hview : SameKeys p (stoppingView w p) := by
    unfold stoppingView
    split <;> exact .of_eq rfl rfl rfl rfl
  have hscreen : ∀ p, SameKeys p (makeScreen p) := by
    intro p
    unfold makeScreen
    split <;> exact .of_eq rfl rfl rfl rfl
  have hdrawn : ∀ p, SameKeys p (drawScreen w p) := by
    intro p
    unfold drawScreen
    split
    · exact .refl p
    · split
      · exact .of_eq rfl rfl rfl rfl
      · split <;> exact .of_eq rfl rfl rfl rfl
  exact hview.trans ((hscreen _).trans (hdrawn _))

theorem poll_of_failed (h : m.world.event < 0) : m.poll.event = m.world.event := by
  simp [PanelMoment.poll, panelPoll, h]

/-- What was polled goes to the keys, which leave the held key alone. -/
theorem sameKeys_panelKeys (hopen : (panelKeys m.world m.ready).1.keypadAvailable = true) :
    m.ready.keypadAvailable = true ∧ ¬m.world.event < 0 ∧ SameKeys m.poll.panel (panelKeys m.world m.ready).1 := by
  unfold panelKeys at hopen ⊢
  split at hopen
  · rename_i hkeypad
    dsimp only at hopen
    split at hopen
    · cases hopen
    · rename_i hpoll
      have hevent : ¬m.world.event < 0 := by
        intro hevent
        refine hpoll ?_
        have hfailed := poll_of_failed hevent
        rw [PanelMoment.poll] at hfailed
        rw [hfailed]
        exact hevent
      refine ⟨hkeypad, hevent, ?_⟩
      rw [if_pos hkeypad]
      dsimp only
      rw [if_neg hpoll]
      split
      · split
        · exact sameKeys_pressRepeated _ _ _
        · exact .refl _
      · exact .refl _
  · rename_i hkeypad
    exact absurd hopen hkeypad

/-- **The step lemma**: while the keypad is read, what is held goes back to a press. -/
theorem holding_step (h : m.before.keypadAvailable = true → Holding history m.before)
    (hlater : ∀ m' ∈ history, m'.at' ≤ m.at') (hclock : m.world.uptime = tick m.at') :
    ((gatewayPanelStep m.world m.before).1.keypadAvailable = true →
      Holding (history ++ [m]) (gatewayPanelStep m.world m.before).1) ∧
    ∀ raw count, m.reported = some (raw, count) → HeldReport history m raw count := by
  have hready := sameKeys_panelReady m.world m.before
  have hshown := sameKeys_shown m.world (panelKeys m.world m.ready).1
  have hkept : m.ready.keypadAvailable = true → ¬m.world.event < 0 → Kept history m := by
    intro hkeypad hevent
    exact kept_poll ((h (hready.keypadAvailable.symm.trans hkeypad)).same hready) hlater hclock hkeypad hevent
  refine ⟨?_, ?_⟩
  · intro hopen
    obtain ⟨hkeypad, hevent, hkeys⟩ := sameKeys_panelKeys (hshown.keypadAvailable.symm.trans hopen)
    exact ((hkept hkeypad hevent).1.same hkeys).same hshown
  · intro raw count hreported
    have hkeypad : m.ready.keypadAvailable = true := by
      by_contra hkeypad
      simp [PanelMoment.reported, hkeypad] at hreported
    have hevent : ¬m.world.event < 0 := by
      intro hevent
      rw [reported_eq_none (poll_of_failed hevent)] at hreported
      cases hreported
    exact (hkept hkeypad hevent).2 raw count hreported

/-- **The run lemma**: what is held goes back to a press, and so does every report. -/
theorem holding_run (hrun : PanelRun history p) :
    (p.keypadAvailable = true → Holding history p) ∧
      Each (fun past m => ∀ raw count, m.reported = some (raw, count) → HeldReport past m raw count) history := by
  induction hrun with
  | init display keypad hasKeyState => exact ⟨fun _ => holding_released rfl rfl, each_nil⟩
  | step w next hrun hlater hclock ih =>
    have hstep := @holding_step _ { at' := next, world := w, before := _ } ih.1 hlater hclock
    exact ⟨hstep.1, each_append_singleton.mpr ⟨ih.2, hstep.2⟩⟩
  | stopResult error hrun ih =>
    exact ⟨fun _ => holding_released rfl rfl, ih.2⟩

/-- **Held keys never act beyond what was pressed**: a key that is reported without a press is
held since its press, alone and in one place, and its reports are an interval apart. -/
theorem heldKeys_fromPress (hrun : PanelRun history p) :
    Each (fun past m => ∀ raw count, m.reported = some (raw, count) → HeldReport past m raw count) history :=
  (holding_run hrun).2

/-- F4 is down. -/
def f4Down (next : Nat) (event : Int) : PanelWorld :=
  { pressing 3 with uptime := tick next, event := event, sample := some 8 }

/-- F4 goes down in the menu, after F2. -/
def menuPress : PanelMoment := { at' := 0, world := f4Down 0 1, before := (pressedAll [2, 1]).2 }

/-- Half a second later it is still down. -/
def menuHeld : PanelMoment :=
  { at' := 500, world := f4Down 500 0, before := (gatewayPanelStep menuPress.world menuPress.before).1 }

theorem heldKeys_fromPress_menu :
    menuHeld.reported = some (3, 1) ∧ HeldReport ((pressedAll [2, 1]).1 ++ [menuPress]) menuHeld 3 1 := by
  have hreported : menuHeld.reported = some (3, 1) := by decide +kernel
  have hopened := panelRun_pressedAll [2, 1]
  have hpressed := PanelRun.step menuPress.world 0 hopened.1 (fun m hm => Nat.le_of_eq (hopened.2 m hm)) rfl
  have hheld := PanelRun.step menuHeld.world 500 hpressed (by
    intro m hm
    rcases List.mem_append.mp hm with hm | hm
    · rw [hopened.2 m hm]
      decide
    · rw [List.mem_singleton.mp hm]
      decide) rfl
  exact ⟨hreported, heldKeys_fromPress hheld ((pressedAll [2, 1]).1 ++ [menuPress]) menuHeld [] rfl 3 1 hreported⟩

end FourVrs.Panel
