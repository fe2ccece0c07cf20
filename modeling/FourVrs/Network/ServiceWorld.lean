import FourVrs.Network.Service

/-!
# Owner, guardian and jobs together

The processes and the two channels between them. A message carries a number that no
process sees: an apply its own, a cancel that of the apply it is sent for, a result that
of the apply whose job it reports. Everything happens in any order: the calls of the two
loops, jobs that end or are killed, and either process failing at any call.

A send may fail, and a receive find nothing; a receive on an open channel does not fail
otherwise.
-/

set_option autoImplicit false

namespace FourVrs.Network

open Lib
open Function (update)

/-! ## The jobs -/

inductive WriterCall where
  | isolate
  | profile
  | observe
  | write (target : NetworkObservation) (resolver : CText)

abbrev WriterCall.Result : WriterCall → Type
  | .isolate | .write _ _ => Int
  | .profile => Option NetworkPolicy
  | .observe => Option NetworkObservation

abbrev WriterProg (α : Type) : Type := Prog WriterCall WriterCall.Result α

def writerCall (call : WriterCall) : WriterProg call.Result := .lift call

variable (docs : OwnerDocuments)

/-- An interface as the confirmed profile has it, with no lease. -/
def confirmedLan (p : NetworkPolicy) (seen : NetworkObservation) (i : Lan) : Option LanObservation :=
  match (p.settings.lan i).mode with
  | .static => (docs.broadcast p i).map fun broadcast =>
      { seen.lan i with address := (p.settings.lan i).address, netmask := (p.settings.lan i).netmask,
                        broadcast := broadcast }
  | .dhcpClient => some { seen.lan i with address := [], netmask := [], broadcast := [] }

/-- What `recover_confirmed` writes. -/
def confirmedTarget (p : NetworkPolicy) (seen : NetworkObservation) :
    Option (NetworkObservation × CText) := do
  let lan0 ← confirmedLan docs p seen 0
  let lan1 ← confirmedLan docs p seen 1
  let route := p.settings.defaultLan
  let routed := decide (route ≠ 0 ∧ (p.settings.lan (lanOfNumber route)).mode = .static)
  let desired : NetworkObservation :=
    { seen with
      lan := fun i => if i = 0 then lan0 else lan1
      defaultLan := if routed then route else 0
      defaultRoutes := if routed then 1 else 0
      gateway := if routed then (p.settings.lan (lanOfNumber route)).gateway else []
      dns := if p.settings.automaticDns ≠ 0 then fun _ => [] else p.settings.dns }
  if p.settings.automaticDns ≠ 0 then
    (docs.resolver p.resolver fun _ => []).map fun resolver => (desired, resolver)
  else some (desired, p.resolver)

/-- `recover_confirmed`. -/
def recoverConfirmed : WriterProg Int := do
  match ← writerCall .profile with
  | none => pure (-1)
  | some p =>
    match ← writerCall .observe with
    | none => pure (-1)
    | some seen =>
      match confirmedTarget docs p seen with
      | none => pure (-1)
      | some (desired, resolver) => writerCall (.write desired resolver)

/-- What a job does, up to its exit status. -/
def runWriter : Writer → WriterProg Nat
  | .apply target resolver => do
      if (← writerCall .isolate) ≠ 0 then pure 17
      else
        let r ← writerCall (.write target resolver)
        pure (if r ≠ 0 then 1 else 0)
  | .recoverConfirmed => do
      if (← writerCall .isolate) ≠ 0 then pure 20
      else
        let r ← recoverConfirmed docs
        pure (if r ≠ 0 then 1 else 0)

/-- A recovery that exits with 0 has written the confirmed profile. -/
theorem written_of_recovered {docs : OwnerDocuments} {calls : List ((op : WriterCall) × op.Result)}
    (h : (runWriter docs .recoverConfirmed).Answers calls 0) :
    ∃ p seen desired resolver, ⟨.profile, some p⟩ ∈ calls ∧ ⟨.observe, some seen⟩ ∈ calls ∧
      confirmedTarget docs p seen = some (desired, resolver) ∧
      ⟨.write desired resolver, (0 : Int)⟩ ∈ calls := by
  obtain ⟨isolated, rest, rfl, hrun⟩ := Prog.answers_call.1 h
  clear h
  change Prog.Answers (if isolated ≠ 0 then pure 20 else
    recoverConfirmed docs >>= fun r => pure (if r ≠ 0 then 1 else 0)) rest 0 at hrun
  split at hrun
  · simp at hrun
  · obtain ⟨work, result, last, rfl, hwork, hlast⟩ := Prog.answers_bind.1 hrun
    have hresult : result = 0 := by
      by_contra hne
      simp [hne] at hlast
    subst hresult
    obtain ⟨profile, rest, rfl, hread⟩ := Prog.answers_call.1 hwork
    cases profile with
    | none => exact absurd (Prog.answers_pure.1 hread).2 (by decide)
    | some p =>
      obtain ⟨observed, rest, rfl, hseen⟩ := Prog.answers_call.1 hread
      cases observed with
      | none => exact absurd (Prog.answers_pure.1 hseen).2 (by decide)
      | some seen =>
        have hwrite : Prog.Answers (match confirmedTarget docs p seen with
            | none => pure (-1)
            | some (desired, resolver) => writerCall (.write desired resolver)) rest 0 := hseen
        cases htarget : confirmedTarget docs p seen with
        | none =>
          rw [htarget] at hwrite
          exact absurd (Prog.answers_pure.1 hwrite).2 (by decide)
        | some target =>
          obtain ⟨desired, resolver⟩ := target
          rw [htarget] at hwrite
          obtain ⟨r, rest, rfl, hdone⟩ := Prog.answers_call.1 hwrite
          cases hdone
          exact ⟨p, seen, desired, resolver, by simp, by simp, htarget, by simp⟩

/-! ## The world -/

/-- What a child of the guardian is. -/
inductive Child where
  | owner
  | writer (number : Nat) (target : NetworkObservation) (resolver : CText)
  | recovery

/-- The processes that write network state. -/
def Child.Writes : Child → Prop
  | .owner => False
  | .writer _ _ _ | .recovery => True

/-- What only the guardian's calls change: its children, what it has received and answered
    on the channel of the owner it has, and in which of its turns it last looked at a child. -/
structure GuardianView where
  children : Nat → Option Child := fun _ => none
  killed : Nat → Bool := fun _ => false
  looked : Nat → Nat := fun _ => 0
  turns : Nat := 0
  channel : Bool := false
  taken : Nat := 0
  message : Option (Nat × Order) := none
  answers : List (Nat × Int) := []
  reaped : Option (Child × ExitStatus) := none
  started : Bool := false

variable (v : GuardianView)

/-- What only the owner's calls change: the applies its channel has accepted, the results
    it has polled, and whether one is owed to it. -/
structure OwnerView where
  accepted : Nat := 0
  polled : Nat := 0
  job : Bool := false

/-- A child that has ended has its status, and the turn the guardian was in. -/
structure ServiceWorld where
  guardian : GuardianView := {}
  owner : OwnerView := {}
  up : List (Nat × Order) := []
  down : List (Nat × Int) := []
  ended : Nat → Option (ExitStatus × Nat) := fun _ => none

/-- A new child. -/
def GuardianView.fork (child : Nat) (kind : Child) : GuardianView :=
  { v with
    children := update v.children child (some kind)
    killed := update v.killed child false
    looked := update v.looked child v.turns }

@[simp] theorem GuardianView.fork_children (v : GuardianView) (child : Nat) (kind : Child) :
    (v.fork child kind).children = update v.children child (some kind) := rfl

/-- A new owner has a new channel. -/
def ServiceWorld.forkOwner (w : ServiceWorld) (child : Nat) : ServiceWorld :=
  { w with
    guardian := { w.guardian.fork child .owner with
                  channel := true, taken := 0, message := none, answers := [], started := true }
    owner := {}
    up := []
    down := [] }

/-- The job of the apply taken last, or the recovery. -/
def childOf : Writer → Child
  | .apply target resolver => .writer (v.taken - 1) target resolver
  | .recoverConfirmed => .recovery

def Order.applies : Order → Nat
  | .apply _ _ => 1
  | .heartbeat | .cancel => 0

def GuardianView.take (number : Nat) (order : Order) : GuardianView :=
  { v with message := some (number, order), taken := v.taken + order.applies }

def GuardianView.reap (child : Nat) (kind : Child) (status : ExitStatus) : GuardianView :=
  { v with children := update v.children child none, reaped := some (kind, status) }

@[simp] theorem GuardianView.reap_children (v : GuardianView) (child : Nat) (kind : Child)
    (status : ExitStatus) :
    (v.reap child kind status).children = update v.children child none := rfl

/-- The number of the apply whose job was reaped last. -/
def GuardianView.reapedNumber : Nat :=
  match v.reaped with
  | some (.writer number _ _, _) => number
  | _ => 0

/-- What a call of the guardian returns and does. -/
def guardianSide : Prog.World GuardianCall GuardianCall.Result ServiceWorld
  | .now, w, _, w' | .stopping, w, _, w' | .openPair, w, _, w' | .poll, w, _, w' => w' = w
  | .forkOwner _, w, r, w' =>
      match r with
      | none => w' = w
      | some child => w.guardian.children child = none ∧ w' = w.forkOwner child
  | .receive, w, r, w' =>
      match r with
      | none => w' = w
      | some order => ∃ number rest, w.up = (number, order) :: rest ∧
          w' = { w with guardian := w.guardian.take number order, up := rest }
  | .forkWriter writer, w, r, w' =>
      match r with
      | none => w' = w
      | some child => w.guardian.children child = none ∧
          w' = { w with guardian := w.guardian.fork child (childOf w.guardian writer) }
  | .kill child _, w, _, w' =>
      w' = { w with guardian :=
              { w.guardian with killed := update w.guardian.killed child true } }
  | .wait child, w, r, w' =>
      match r with
      | none => w.ended child = none ∧
          w' = { w with guardian :=
                  { w.guardian with looked := update w.guardian.looked child w.guardian.turns } }
      | some status => ∃ kind turn, w.guardian.children child = some kind ∧
          w.ended child = some (status, turn) ∧
          w' = { w with guardian := w.guardian.reap child kind status
                        ended := update w.ended child none }
  | .answer result, w, sent, w' =>
      if sent then
        w' = { w with
               guardian := { w.guardian with
                              answers := w.guardian.answers ++ [(w.guardian.reapedNumber, result)] }
               down := w.down ++ [(w.guardian.reapedNumber, result)] }
      else w' = w
  | .close, w, _, w' => w' = { w with guardian := { w.guardian with channel := false } }

/-- The owner sends while the channel is open. -/
def ServiceWorld.sends (w : ServiceWorld) (number : Nat) (order : Order) : ServiceWorld :=
  { w with up := w.up ++ [(number, order)] }

/-- What a call of the owner process returns and does. What its clients, its store and
    the network answer is anything. -/
def ownerSide : Prog.World ServiceCall ServiceCall.Result ServiceWorld
  | .owner (.apply target resolver), w, r, w' =>
      r ≠ 0 ∧ w' = w ∨
      r = 0 ∧ w.guardian.channel = true ∧
        w' = { w.sends w.owner.accepted (.apply target resolver) with
               owner := { w.owner with accepted := w.owner.accepted + 1, job := true } }
  | .owner .cancel, w, r, w' =>
      r ≠ 0 ∧ w' = w ∨
      r = 0 ∧ w.guardian.channel = true ∧ w' = w.sends (w.owner.accepted - 1) .cancel
  | .owner .poll, w, r, w' =>
      r = 0 ∧ w' = w ∨
      (∃ number rest, w.down = (number, r) :: rest ∧
        w' = { w with owner := { w.owner with polled := w.owner.polled + 1, job := false }
                      down := rest }) ∨
      r = -1 ∧ w.guardian.channel = false ∧ w' = { w with owner := { w.owner with job := false } }
  | .heartbeat, w, sent, w' =>
      if sent then w.guardian.channel = true ∧ w' = w.sends 0 .heartbeat else w' = w
  | _, w, _, w' => w' = w

/-! ## The system -/

/-- The world and what is left of the turn of either loop. -/
structure NetworkService where
  world : ServiceWorld := {}
  guardian : Option (GuardianProg (LoopTurn Guardian)) := none
  owner : Option (ServiceProg (LoopTurn OwnerProcess)) := none

def serviceStarts : NetworkService := { guardian := some (guardianTurn {}) }

/-- A fork of the owner starts its program. -/
def ownerAfter (seed : BitVec 32) : (op : GuardianCall) → op.Result →
    Option (ServiceProg (LoopTurn OwnerProcess)) → Option (ServiceProg (LoopTurn OwnerProcess))
  | .forkOwner bootstrap, some _, _ => some (startProcess seed bootstrap)
  | _, _, running => running

/-- The process is gone, and its end of the channel with it. -/
def NetworkService.loseGuardian (s : NetworkService) : NetworkService :=
  { s with world := { s.world with guardian := { s.world.guardian with channel := false } }
           guardian := none }

/-- How a child can end by itself or by a signal. -/
def Ending : Child → ExitStatus → Prop
  | _, .signalled => True
  | .owner, .exited _ => True
  | .writer _ target resolver, .exited code =>
      ∃ calls, (runWriter docs (.apply target resolver)).Answers calls code
  | .recovery, .exited code => ∃ calls, (runWriter docs .recoverConfirmed).Answers calls code

def NetworkService.childEnds (s : NetworkService) (child : Nat) (kind : Child) (status : ExitStatus) :
    NetworkService :=
  { s with
    world := { s.world with
               ended := update s.world.ended child (some (status, s.world.guardian.turns)) }
    owner := match kind with
      | .owner => none
      | .writer _ _ _ | .recovery => s.owner }

inductive ServiceStep (docs : OwnerDocuments) (clientOps : Bool) : NetworkService → NetworkService → Prop where
  | guardian {s : NetworkService} {op : GuardianCall} {next : op.Result → GuardianProg (LoopTurn Guardian)}
      {r : op.Result} {w : ServiceWorld} (seed : BitVec 32) (hat : s.guardian = some (.call op next))
      (h : guardianSide op s.world r w) :
      ServiceStep docs clientOps s
        { world := w, guardian := some (next r), owner := ownerAfter seed op r s.owner }
  | guardianTurn {s : NetworkService} {g : Guardian} (hat : s.guardian = some (.pure (.again g))) :
      ServiceStep docs clientOps s
        { s with world := { s.world with guardian :=
                              { s.world.guardian with turns := s.world.guardian.turns + 1 } }
                 guardian := some (guardianTurn g) }
  | guardianEnds (s : NetworkService) : ServiceStep docs clientOps s s.loseGuardian
  | owner {s : NetworkService} {op : ServiceCall} {next : op.Result → ServiceProg (LoopTurn OwnerProcess)}
      {r : op.Result} {w : ServiceWorld} (hat : s.owner = some (.call op next))
      (h : ownerSide op s.world r w) :
      ServiceStep docs clientOps s { s with world := w, owner := some (next r) }
  | ownerTurn {s : NetworkService} {o : OwnerProcess} (hat : s.owner = some (.pure (.again o))) :
      ServiceStep docs clientOps s { s with owner := some (ownerTurn docs clientOps o) }
  | childEnds {s : NetworkService} {child : Nat} {kind : Child} {status : ExitStatus}
      (hchild : s.world.guardian.children child = some kind) (hruns : s.world.ended child = none)
      (h : Ending docs kind status) : ServiceStep docs clientOps s (s.childEnds child kind status)

/-- What the service can come to. -/
def ServiceReaches (clientOps : Bool) (s : NetworkService) : Prop :=
  Relation.ReflTransGen (ServiceStep docs clientOps) serviceStarts s

end FourVrs.Network
