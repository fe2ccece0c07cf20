import FourVrs.Config.Files
import FourVrs.Config.RoundTrip

/-!
# A start finds a configuration that was saved

At any moment the configuration in force is under its name, or nothing is there and the one before
it is the backup. `Selecting` says so of what the names hold, and every call of a save keeps it: the
name in force is given up only when its file becomes the backup, and taken again by the staged file
alone. So however often a save fails or is cut short, a start finds one of those that were saved.
-/

set_option autoImplicit false

namespace FourVrs.Config

open Lib Lib.Directory

variable {longMax : Nat} {p q s : GatewayPersistentConfig → Prop} {m : ConfigNames} {d : ConfigDirectory}

/-- The file is one of a configuration with `p`. -/
def Holds (longMax : Nat) (p : GatewayPersistentConfig → Prop) (file : Option (List UInt8)) : Prop :=
  ∃ c, loaded longMax (onDisk file) = .ok c ∧ p c

def Selecting (longMax : Nat) (p : GatewayPersistentConfig → Prop) (m : ConfigNames) : Prop :=
  Holds longMax p (m .active) ∨ m .active = none ∧ Holds longMax p (m .backup)

/-- A start takes a configuration with `p`, and takes it from a file. -/
def Starts (longMax : Nat) (p : GatewayPersistentConfig → Prop) (m : ConfigNames) : Prop :=
  ∃ c src, selected longMax m = (.ok, c, src) ∧ (src = .active ∨ src = .backup) ∧ p c

/-- What the file of `c` is read as. -/
def ReadAs (longMax : Nat) (c c' : GatewayPersistentConfig) : Prop :=
  ∃ out, gatewayConfigEncode c gatewayConfigMaxBytes = .ok out ∧ gatewayConfigDecode longMax out = .ok c'

theorem loaded_absent : loaded longMax (onDisk none) = .error .absent := rfl

theorem Holds.mono {file : Option (List UInt8)} (h : Holds longMax p file) (hpq : ∀ c, p c → q c) :
    Holds longMax q file := by
  obtain ⟨c, hc, hp⟩ := h
  exact ⟨c, hc, hpq c hp⟩

variable {c : GatewayPersistentConfig}

theorem Holds.of_loaded {file : Option (List UInt8)} (h : Holds longMax p file)
    (hc : loaded longMax (onDisk file) = .ok c) : p c := by
  obtain ⟨c', hc', hp⟩ := h
  rw [hc] at hc'
  exact Except.ok.inj hc' ▸ hp

theorem Selecting.mono (h : Selecting longMax p m) (hpq : ∀ c, p c → q c) : Selecting longMax q m :=
  h.imp (Holds.mono · hpq) (And.imp_right (Holds.mono · hpq))

theorem Selecting.starts (h : Selecting longMax p m) : Starts longMax p m := by
  unfold Starts
  simp only [selected, gatewayConfigStartupSelect, configCall, Prog.lift_bind, Prog.eval_call]
  rcases h with ⟨c, hc, hp⟩ | ⟨hnone, c, hc, hp⟩
  · exact ⟨c, .active, by simp [hc], .inl rfl, hp⟩
  · exact ⟨c, .backup, by simp [hnone, loaded_absent, hc], .inr rfl, hp⟩

/-- What decodes was read, and was there to read. -/
theorem read_of_loaded {file : Option (List UInt8)} {r : FileRead} (hr : r = .failed ∨ r = onDisk file)
    (hc : loaded longMax r = .ok c) :
    ∃ bytes, r = onDisk file ∧ file = some bytes := by
  rcases hr with rfl | rfl
  · exact absurd hc (by simp [loaded])
  · cases file with
    | none => exact absurd hc (by simp [loaded_absent])
    | some bytes => exact ⟨bytes, rfl, rfl⟩

/-- What is read under the name in force is what a start takes. -/
theorem Selecting.holds (h : Selecting longMax p m) (hc : loaded longMax (onDisk (m .active)) = .ok c) :
    Holds longMax p (m .active) := by
  rcases h with h | ⟨hnone, _⟩
  · exact h
  · rw [hnone, loaded_absent] at hc
    exact absurd hc (by simp)

/-! ## The changes of a save -/

theorem Selecting.staged (v : Option (List UInt8)) (h : Selecting longMax p m) :
    Selecting longMax p (applyChange m [(.staged, v)]) := by
  simpa [Selecting] using h

theorem selecting_publish {bytes : List UInt8} (h : Holds longMax p (some bytes)) (m : ConfigNames) :
    Selecting longMax p (applyChange m [(.active, some bytes), (.staged, none)]) :=
  .inl (by simpa using h)

theorem selecting_retire {bytes : List UInt8} (h : Holds longMax p (some bytes)) (m : ConfigNames) :
    Selecting longMax p (applyChange m [(.backup, some bytes), (.active, none)]) :=
  .inr (by simpa using h)

/-! ## The functions -/

/-- What `gateway_config_promote` returns says which configuration a start takes: one with `q` as
    before, or one with `p` of the staged file. -/
def Promoted (longMax : Nat) (q p : GatewayPersistentConfig → Prop) (r : GatewayConfigResult)
    (d : ConfigDirectory) : Prop :=
  (r = .ok → Always (Selecting longMax p) d) ∧
    (r ≠ .ok → r ≠ .durabilityUncertain → Always (Selecting longMax q) d) ∧
    (r = .unchanged → Holds longMax p (d.view .active))

theorem always_selecting (h : Always (Selecting longMax q) d) (hqs : ∀ c, q c → s c) :
    Always (Selecting longMax s) d :=
  h.mono fun _ hm => hm.mono hqs

/-- A failure leaves things as they are. -/
theorem promoted_failed {r : GatewayConfigResult} (hq : Always (Selecting longMax q) d)
    (hok : r ≠ .ok) (hunchanged : r ≠ .unchanged) : Promoted longMax q p r d :=
  ⟨fun h => absurd h hok, fun _ _ => hq, fun h => absurd h hunchanged⟩

theorem safe_publishStaged {bytes : List UInt8} (hq : Always (Selecting longMax q) d)
    (hview : d.view .staged = some bytes) (hstaged : Holds longMax p (some bytes)) (hqs : ∀ c, q c → s c)
    (hps : ∀ c, p c → s c) :
    Prog.Safe configWorld (Always (Selecting longMax s)) (Promoted longMax q p) publishStaged d := by
  unfold publishStaged configCall
  refine ⟨always_selecting hq hqs, fun renamed d₁ h₁ => ?_⟩
  rcases h₁ with ⟨bytes', hbytes', rfl, rfl⟩ | ⟨rfl, rfl⟩
  · obtain rfl : bytes = bytes' := Option.some.inj (hview.symm.trans hbytes')
    have heither : Always (Selecting longMax s) (d.change [(.active, some bytes), (.staged, none)]) :=
      (always_selecting hq hqs).change fun m _ => selecting_publish (hstaged.mono hps) m
    refine ⟨heither, fun synced d₂ h₂ => ?_⟩
    rcases h₂ with ⟨rfl, rfl⟩ | ⟨rfl, rfl⟩
    · refine ⟨heither.sync, fun _ => ?_, by simp, by simp⟩
      refine always_of_settled rfl ?_
      rw [view_sync, view_change]
      exact selecting_publish hstaged _
    · exact ⟨heither, by simp [Promoted]⟩
  · exact ⟨always_selecting hq hqs, promoted_failed hq (by simp) (by simp)⟩

theorem safe_gatewayConfigPromote (hq : Always (Selecting longMax q) d)
    (hstaged : ∀ c, loaded longMax (onDisk (d.view .staged)) = .ok c → p c) (hqs : ∀ c, q c → s c)
    (hps : ∀ c, p c → s c) :
    Prog.Safe configWorld (Always (Selecting longMax s)) (Promoted longMax q p)
      (gatewayConfigPromote longMax) d := by
  simp only [gatewayConfigPromote, configCall, Prog.lift_bind]
  refine ⟨always_selecting hq hqs, fun r d₁ h₁ => ?_⟩
  obtain ⟨rfl, h₁⟩ := h₁
  beta_reduce
  cases hstagedRead : loaded longMax r with
  | error e =>
    exact ⟨always_selecting hq hqs, promoted_failed hq (by simp) (by simp)⟩
  | ok staged =>
    obtain ⟨bytes, rfl, hbytes⟩ := read_of_loaded h₁ hstagedRead
    have hholds : Holds longMax p (d₁.view .staged) := ⟨staged, hstagedRead, hstaged staged hstagedRead⟩
    refine ⟨always_selecting hq hqs, fun r d₂ h₂ => ?_⟩
    obtain ⟨rfl, h₂⟩ := h₂
    beta_reduce
    cases hactiveRead : loaded longMax r with
    | error e => exact safe_publishStaged hq hbytes (hbytes ▸ hholds) hqs hps
    | ok active =>
      obtain ⟨old, rfl, hold⟩ := read_of_loaded h₂ hactiveRead
      dsimp only
      by_cases hsame : active = staged
      · subst hsame
        rw [if_pos rfl]
        refine ⟨always_selecting hq hqs, fun r d₃ h₃ => ?_⟩
        have hactive : Holds longMax p (d₂.view .active) := ⟨active, hactiveRead, hstaged active hstagedRead⟩
        rcases h₃ with ⟨_, rfl⟩ | ⟨_, rfl⟩
        · have hkept : Always (Selecting longMax q) (d₂.change [(.staged, none)]) :=
            hq.change fun m hm => hm.staged none
          exact ⟨always_selecting hkept hqs, by simp, fun _ _ => hkept, fun _ => by simpa using hactive⟩
        · exact ⟨always_selecting hq hqs, by simp, fun _ _ => hq, fun _ => hactive⟩
      · rw [if_neg hsame]
        refine ⟨always_selecting hq hqs, fun retired d₃ h₃ => ?_⟩
        have hactive : Holds longMax q (d₂.view .active) := hq.view.holds hactiveRead
        rcases h₃ with ⟨moved, hmoved, rfl, rfl⟩ | ⟨rfl, rfl⟩
        · obtain rfl : old = moved := Option.some.inj (hold.symm.trans hmoved)
          have hretired : Always (Selecting longMax q) (d₂.change [(.backup, some old), (.active, none)]) :=
            hq.change fun m _ => selecting_retire (hold ▸ hactive) m
          exact safe_publishStaged hretired (by simpa using hbytes) (hbytes ▸ hholds) hqs hps
        · exact ⟨always_selecting hq hqs, promoted_failed hq (by simp) (by simp)⟩

/-- What is staged is the file of `c`. -/
def Staged (longMax : Nat) (c : GatewayPersistentConfig) (d : ConfigDirectory) : Prop :=
  ∀ c', loaded longMax (onDisk (d.view .staged)) = .ok c' → ReadAs longMax c c'

theorem encode_error {cap : Nat} {r : GatewayConfigResult} (h : gatewayConfigEncode c cap = .error r) :
    r ≠ .ok ∧ r ≠ .unchanged := by
  unfold gatewayConfigEncode at h
  repeat' split at h
  all_goals (cases h <;> simp)

theorem safe_gatewayConfigStage (c : GatewayPersistentConfig) (hq : Always (Selecting longMax q) d)
    (hqs : ∀ c, q c → s c) :
    Prog.Safe configWorld (Always (Selecting longMax s))
      (fun r d' => Always (Selecting longMax q) d' ∧
        (r = .ok ∧ Staged longMax c d' ∨ r ≠ .ok ∧ r ≠ .unchanged)) (gatewayConfigStage c) d := by
  unfold gatewayConfigStage configCall
  cases hencode : gatewayConfigEncode c gatewayConfigMaxBytes with
  | error r => exact ⟨always_selecting hq hqs, hq, .inr (encode_error hencode)⟩
  | ok out =>
    refine ⟨always_selecting hq hqs, fun filled d' h => ?_⟩
    have hfilled : ∀ bytes, Always (Selecting longMax q) (d.change [(.staged, some bytes)]) :=
      fun bytes => hq.change fun m hm => hm.staged _
    rcases h with ⟨rfl, rfl⟩ | ⟨rfl, rfl | ⟨junk, rfl⟩⟩
    · refine ⟨always_selecting (hfilled out) hqs, hfilled out, .inl ⟨rfl, fun c' hc' => ⟨out, hencode, ?_⟩⟩⟩
      have hlength : ¬ gatewayConfigMaxBytes < out.length := by
        have := (encode_ok hencode).2.2
        omega
      simpa [onDisk, loaded, hlength] using hc'
    · exact ⟨always_selecting hq hqs, hq, .inr ⟨by simp, by simp⟩⟩
    · exact ⟨always_selecting (hfilled junk) hqs, hfilled junk, .inr ⟨by simp, by simp⟩⟩

/-- What a promotion of `c` that returns `r`, or is cut short, makes of a start that would have taken
    `old`. -/
structure SaveOutcome (longMax : Nat) (old c : GatewayPersistentConfig) (r : Option GatewayConfigResult)
    (d : ConfigDirectory) : Prop where
  either : Always (Starts longMax fun x => x = old ∨ ReadAs longMax c x) d
  saved : r = some .ok → Always (Starts longMax (ReadAs longMax c)) d
  refused : ∀ e, r = some e → e ≠ .ok → e ≠ .durabilityUncertain → Always (Starts longMax (· = old)) d
  unchanged : r = some .unchanged → ReadAs longMax c old

theorem file_of_writable (hvalid : Encodes c) (hw : Writable c) (htidy : c.tidy = c) :
    ∃ out, gatewayConfigEncode c gatewayConfigMaxBytes = .ok out ∧
      loaded ulongMax (onDisk (some out)) = .ok c := by
  obtain ⟨out, hout⟩ := encode_fits hvalid hw
  have hlength : ¬ gatewayConfigMaxBytes < out.length := by
    have := (encode_ok hout).2.2
    omega
  have hread := decode_encode (le_refl ulongMax) hout hw
  rw [htidy] at hread
  refine ⟨out, hout, ?_⟩
  simpa [onDisk, loaded, hlength] using hread

theorem defaults_file : ∃ out, gatewayConfigEncode gatewayPersistentDefaults gatewayConfigMaxBytes = .ok out ∧
    loaded ulongMax (onDisk (some out)) = .ok gatewayPersistentDefaults := by
  refine file_of_writable ((encodable_iff _).mp (by decide +kernel)) ?_ rfl
  unfold Writable
  decide

theorem safeMode_file : ∃ out, gatewayConfigEncode gatewayPersistentSafeMode gatewayConfigMaxBytes = .ok out ∧
    loaded ulongMax (onDisk (some out)) = .ok gatewayPersistentSafeMode := by
  refine file_of_writable ((encodable_iff _).mp (by decide +kernel)) ?_ rfl
  unfold Writable
  decide

theorem defaults_ne_safeMode : gatewayPersistentDefaults ≠ gatewayPersistentSafeMode := by decide +kernel

/-- A directory with one file, the one in force. -/
def inForce (out : List UInt8) : ConfigDirectory where
  base := fun name => if name = .active then some out else none
  pending := []

theorem view_staged (out new : List UInt8) :
    ((inForce out).change [(.staged, some new)]).view .active = some out ∧
      ((inForce out).change [(.staged, some new)]).view .staged = some new := by
  rw [view_change]
  exact ⟨rfl, rfl⟩

/-- Every call succeeds that can. -/
def plainConfig : (call : ConfigCall) → ConfigDirectory → call.Result × ConfigDirectory
  | .load name, d => (onDisk (d.view name), d)
  | .fill bytes, d => (true, d.change [(.staged, some bytes)])
  | .rename old new, d =>
      match d.view old with
      | some bytes => (true, d.change [(new, some bytes), (old, none)])
      | none => (false, d)
  | .unlink name, d => (true, d.change [(name, none)])
  | .syncDirectory, d => (true, d.sync)

theorem configWorld_plain (call : ConfigCall) (d : ConfigDirectory) :
    configWorld call d (plainConfig call d).1 (plainConfig call d).2 := by
  cases call with
  | load name => exact ⟨rfl, .inr rfl⟩
  | fill bytes => exact .inl ⟨rfl, rfl⟩
  | rename old new => cases hold : d.view old <;> simp [plainConfig, configWorld, hold]
  | unlink name | syncDirectory => exact .inl ⟨rfl, rfl⟩

theorem stage_eval {out : List UInt8} (h : gatewayConfigEncode c gatewayConfigMaxBytes = .ok out)
    (d : ConfigDirectory) :
    (gatewayConfigStage c).eval plainConfig d = (.ok, d.change [(.staged, some out)]) := by
  simp [gatewayConfigStage, h, configCall, plainConfig]

variable {old : GatewayPersistentConfig} {out new : List UInt8}

/-- The file in force becomes the backup. -/
def retired (d : ConfigDirectory) (out : List UInt8) : ConfigDirectory :=
  d.change [(.backup, some out), (.active, none)]

/-- And what was staged is in force. -/
def published (d : ConfigDirectory) (out new : List UInt8) : ConfigDirectory :=
  ((retired d out).change [(.active, some new), (.staged, none)]).sync

theorem promote_eval (hactive : d.view .active = some out) (hstaged : d.view .staged = some new)
    (hold : loaded longMax (onDisk (some out)) = .ok old) (hnew : loaded longMax (onDisk (some new)) = .ok c)
    (hne : old ≠ c) :
    (gatewayConfigPromote longMax).eval plainConfig d = (.ok, published d out new) := by
  simp [gatewayConfigPromote, publishStaged, configCall, plainConfig, published, retired, hactive, hstaged,
    hold, hnew, hne]

/-- Cut short after three calls, it has done the first half. -/
theorem promote_retires (hactive : d.view .active = some out) (hstaged : d.view .staged = some new)
    (hold : loaded longMax (onDisk (some out)) = .ok old) (hnew : loaded longMax (onDisk (some new)) = .ok c)
    (hne : old ≠ c) (f : GatewayConfigResult → ConfigProg Bool) :
    (gatewayConfigPromote longMax).evalFor plainConfig 3 d = retired d out ∧
      (gatewayConfigPromote longMax >>= f).evalFor plainConfig 3 d = retired d out := by
  simp [gatewayConfigPromote, publishStaged, configCall, plainConfig, retired, hactive, hstaged, hold, hnew,
    hne, Prog.evalFor]

/-- What is asked of the store. -/
inductive SaveOp where
  | stage (c : GatewayPersistentConfig)
  | promote
  | discard

/-- The operation; what it returns says that the staged file may be promoted. -/
def SaveOp.prog (longMax : Nat) : SaveOp → ConfigProg Bool
  | .stage c => do
      let r ← gatewayConfigStage c
      pure (decide (r = .ok))
  | .promote => do
      let _ ← gatewayConfigPromote longMax
      pure false
  | .discard => do
      gatewayConfigDiscardStaged
      pure false

def SaveOp.asks : SaveOp → List GatewayPersistentConfig
  | .stage c => [c]
  | .promote | .discard => []

structure SaveMoment where
  dir : ConfigDirectory
  /-- The last operation staged a file and succeeded. -/
  ready : Bool
  /-- What has been staged, or was begun to be. -/
  asked : List GatewayPersistentConfig

/-- An operation runs to its end or is cut short, or the machine crashes. Only what has been staged
    is promoted. -/
inductive SaveStep (longMax : Nat) (s : SaveMoment) : SaveMoment → Prop where
  | ran {op : SaveOp} {ready dir} (hop : op = .promote → s.ready = true)
      (h : Prog.Runs configWorld (op.prog longMax) s.dir (some ready) dir) :
      SaveStep longMax s ⟨dir, ready, s.asked ++ op.asks⟩
  | cut {op : SaveOp} {dir} (hop : op = .promote → s.ready = true)
      (h : Prog.Runs configWorld (op.prog longMax) s.dir none dir) :
      SaveStep longMax s ⟨dir, false, s.asked ++ op.asks⟩
  | crash {dir} (h : Crash List.Sublist s.dir dir) : SaveStep longMax s ⟨dir, false, s.asked⟩

/-- The first configuration, or one that was asked for as its file is read. -/
def Offered (longMax : Nat) (first : GatewayPersistentConfig) (asked : List GatewayPersistentConfig)
    (c : GatewayPersistentConfig) : Prop :=
  c = first ∨ ∃ c₀ ∈ asked, ReadAs longMax c₀ c

/-- What the store keeps to: a start finds one that was offered, and so does a promotion. -/
def SaveInv (longMax : Nat) (first : GatewayPersistentConfig) (s : SaveMoment) : Prop :=
  Always (Selecting longMax (Offered longMax first s.asked)) s.dir ∧
    (s.ready = true → ∃ c ∈ s.asked, Staged longMax c s.dir)

theorem safe_prog (op : SaveOp) (hq : Always (Selecting longMax q) d)
    (hready : op = .promote → ∀ c, loaded longMax (onDisk (d.view .staged)) = .ok c → q c)
    (hqs : ∀ c, q c → s c) (hps : ∀ c ∈ op.asks, ∀ c', ReadAs longMax c c' → s c') :
    Prog.Safe configWorld (Always (Selecting longMax s))
      (fun ready d' => ready = true → ∃ c ∈ op.asks, Staged longMax c d') (op.prog longMax) d := by
  cases op with
  | stage c =>
    refine Prog.Safe.bind ((safe_gatewayConfigStage c hq hqs).mono fun r d' hsafe h => ⟨hsafe, fun hready => ?_⟩)
    obtain ⟨-, ⟨-, hstaged⟩ | ⟨hok, -⟩⟩ := h
    · exact ⟨c, by simp [SaveOp.asks], hstaged⟩
    · exact absurd (of_decide_eq_true hready) hok
  | promote =>
    have hpromote := safe_gatewayConfigPromote hq (hready rfl) hqs hqs
    exact Prog.Safe.bind (hpromote.mono fun r d' hsafe _ => ⟨hsafe, by simp⟩)
  | discard =>
    refine ⟨always_selecting hq hqs, fun r d' h => ?_⟩
    rcases h with ⟨_, rfl⟩ | ⟨_, rfl⟩
    · exact ⟨(always_selecting hq hqs).change fun m hm => hm.staged none, by simp⟩
    · exact ⟨always_selecting hq hqs, by simp⟩

variable {first : GatewayPersistentConfig} {a b : SaveMoment}

theorem Offered.append {asked : List GatewayPersistentConfig} (h : Offered longMax first asked c)
    (more : List GatewayPersistentConfig) :
    Offered longMax first (asked ++ more) c :=
  h.imp_right fun ⟨c₀, hc₀, hread⟩ => ⟨c₀, List.mem_append_left _ hc₀, hread⟩

theorem SaveInv.step (h : SaveInv longMax first a) (hstep : SaveStep longMax a b) : SaveInv longMax first b := by
  obtain ⟨hq, hready⟩ := h
  have hstaged : a.ready = true → ∀ c, loaded longMax (onDisk (a.dir.view .staged)) = .ok c →
      Offered longMax first a.asked c := by
    intro hr c hc
    obtain ⟨c₀, hc₀, hread⟩ := hready hr
    exact .inr ⟨c₀, hc₀, hread c hc⟩
  have hsafe (op : SaveOp) (hop : op = .promote → a.ready = true) :=
    safe_prog op hq (fun h => hstaged (hop h)) (fun _ h => h.append op.asks)
      fun c hc c' hread => .inr ⟨c, List.mem_append_right _ hc, hread⟩
  cases hstep with
  | @ran op ready d hop hrun =>
    obtain ⟨hkept, hpost⟩ := (hsafe op hop).runs hrun
    refine ⟨hkept, fun hr => ?_⟩
    obtain ⟨c, hc, hstaged⟩ := hpost ready rfl hr
    exact ⟨c, List.mem_append_right _ hc, hstaged⟩
  | @cut op d hop hrun => exact ⟨((hsafe op hop).runs hrun).1, by simp⟩
  | crash hcrash => exact ⟨hq.crash hcrash, by simp⟩

/-- **A start finds a configuration that was saved.** From a directory that holds one under the name
    in force, however often the store is asked, fails, is cut short and crashes, a start takes that
    configuration or one that was asked for since, and takes it from a file. -/
theorem start_finds_saved {d : ConfigDirectory} (hsettled : d.pending = [])
    (hfirst : loaded longMax (onDisk (d.view .active)) = .ok first)
    (hrun : Relation.ReflTransGen (SaveStep longMax) ⟨d, false, []⟩ b) :
    Starts longMax (Offered longMax first b.asked) b.dir.view := by
  have hinv : SaveInv longMax first b := by
    induction hrun with
    | refl => exact ⟨always_of_settled hsettled (.inl ⟨first, hfirst, .inl rfl⟩), by simp⟩
    | tail _ hstep ih => exact ih.step hstep
  exact hinv.1.view.starts

/-! ### A run -/

/-- The operation in a world where every call succeeds that can. -/
def SaveMoment.after (longMax : Nat) (s : SaveMoment) (op : SaveOp) : SaveMoment where
  dir := ((op.prog longMax).eval plainConfig s.dir).2
  ready := ((op.prog longMax).eval plainConfig s.dir).1
  asked := s.asked ++ op.asks

theorem step_after (s : SaveMoment) (op : SaveOp) (hop : op = .promote → s.ready = true) :
    SaveStep longMax s (s.after longMax op) :=
  .ran hop (Prog.runs_eval configWorld_plain _ _)

theorem after_stage (s : SaveMoment) (h : gatewayConfigEncode c gatewayConfigMaxBytes = .ok out) :
    s.after longMax (.stage c) = ⟨s.dir.change [(.staged, some out)], true, s.asked ++ [c]⟩ := by
  have heval : ((SaveOp.stage c).prog longMax).eval plainConfig s.dir =
      (true, s.dir.change [(.staged, some out)]) := by
    rw [SaveOp.prog, Prog.eval_bind, stage_eval h]
    rfl
  rw [SaveMoment.after, heval]
  rfl

theorem after_promote (s : SaveMoment) (hactive : s.dir.view .active = some out)
    (hstaged : s.dir.view .staged = some new) (hold : loaded longMax (onDisk (some out)) = .ok old)
    (hnew : loaded longMax (onDisk (some new)) = .ok c) (hne : old ≠ c) :
    s.after longMax .promote = ⟨published s.dir out new, false, s.asked⟩ := by
  rw [SaveMoment.after, SaveOp.prog, Prog.eval_bind, promote_eval hactive hstaged hold hnew hne]
  simp [SaveOp.asks]

/-- The safe mode is saved; then the defaults are staged again, their promotion is cut short when
    nothing is in force, and the machine crashes with the staged file lost. -/
theorem start_finds_saved_crash : ∃ b : SaveMoment,
    b.asked = [gatewayPersistentSafeMode, gatewayPersistentDefaults] ∧ b.dir.view .active = none ∧
    Starts ulongMax (Offered ulongMax gatewayPersistentDefaults b.asked) b.dir.view := by
  obtain ⟨out, hout, hread⟩ := defaults_file
  obtain ⟨new, hnew, hreadNew⟩ := safeMode_file
  obtain ⟨hactive, hwaits⟩ := view_staged out new
  have hstaged : SaveStep ulongMax ⟨inForce out, false, []⟩ _ :=
    step_after _ (.stage gatewayPersistentSafeMode) (by simp)
  rw [after_stage _ hnew] at hstaged
  have hsaved : SaveStep ulongMax
      ⟨(inForce out).change [(.staged, some new)], true, [gatewayPersistentSafeMode]⟩ _ :=
    step_after _ .promote fun _ => rfl
  rw [after_promote _ hactive hwaits hread hreadNew defaults_ne_safeMode] at hsaved
  -- now the safe mode is in force
  obtain ⟨d, hd⟩ : ∃ d, d = published ((inForce out).change [(.staged, some new)]) out new := ⟨_, rfl⟩
  have hnow : (d.change [(.staged, some out)]).view .active = some new := by simp [hd, published]
  rw [← hd] at hsaved
  have hagain : SaveStep ulongMax ⟨d, false, [gatewayPersistentSafeMode]⟩ _ :=
    step_after _ (.stage gatewayPersistentDefaults) (by simp)
  rw [after_stage _ hout] at hagain
  have hcut := Prog.runs_evalFor configWorld_plain 3 (SaveOp.promote.prog ulongMax)
    (d.change [(.staged, some out)])
  rw [SaveOp.prog, (promote_retires hnow (by simp) hreadNew hread defaults_ne_safeMode.symm _).2] at hcut
  have hrun := (((Relation.ReflTransGen.single hstaged).tail hsaved).tail hagain).tail
    (@SaveStep.cut _ _ .promote _ (fun _ => rfl) hcut)
  have hcrash : Crash List.Sublist (retired (d.change [(.staged, some out)]) new)
      { base := applyChanges d.base [[(.backup, some new), (.active, none)]], pending := [] } :=
    .mk _ (by simp [hd, published, retired, change, sync])
  have hfirst : loaded ulongMax (onDisk ((inForce out).view .active)) = .ok gatewayPersistentDefaults := hread
  exact ⟨_, rfl, rfl, start_finds_saved rfl hfirst (hrun.tail (.crash hcrash))⟩

end FourVrs.Config
