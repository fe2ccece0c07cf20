import FourVrs.Network.StoreLogic

/-!
# A commit of the network profile is atomic

`commit.guard` makes the five files one decision: while it is there, `boot` returns the
old profile, whatever has become of the others, and once it is gone the new one.
`Committing` is the invariant of a store that is anywhere in this: the old profile in
force, the guard on the disk for certain, or the new one written for certain. It is
stated over what the names *may* hold, so it survives a crash.

`confirm` learns the old profile from `boot`, and `boot` takes a `confirmed` it cannot
read for one that is corrupt: it returns `good` instead. That is an older profile, and
`confirm` then makes it the one in force. `SoundReads` leaves these reads out.
-/

set_option autoImplicit false

namespace FourVrs.Network

open Lib

variable {C N : List UInt8} {released : Prop} {d d' : StoreDirectory}

/-- The old profile is in force without the guard. -/
def Intact (C : List UInt8) (d : StoreDirectory) : Prop :=
  ∀ v, d.May .confirmed v → snapshotOf v = some C ∨
    snapshotOf v = none ∧ ∀ w, d.May .good w → snapshotOf w = some C

/-- The guard is on the disk. -/
def Guarded (C : List UInt8) (d : StoreDirectory) : Prop :=
  ∀ v, d.May .commitGuard v → snapshotOf v = some C

/-- The new profile is in force without the guard, or the old one again. -/
def Released (C N : List UInt8) (d : StoreDirectory) : Prop :=
  (∀ v, d.May .confirmed v → snapshotOf v = some C ∨ snapshotOf v = some N) ∧
    ∀ v, d.May .candidate v → v = none

/-- A store that holds `C`, or `N` once the guard may have been `released`. -/
structure Committing (C N : List UInt8) (released : Prop) (d : StoreDirectory) : Prop where
  guard : ∀ v, d.May .commitGuard v → v = none ∨ snapshotOf v = some C
  candidate : ∀ v, d.May .candidate v → v = none ∨ snapshotOf v = some N
  phase : Intact C d ∨ Guarded C d ∨ released ∧ Released C N d

/-- Fewer possibilities: the names the invariant looks at may hold no more. -/
def Narrows (d d' : StoreDirectory) : Prop :=
  ∀ name, name ≠ .writeTmp → ∀ v, d'.May name v → d.May name v

theorem Committing.narrows (h : Committing C N released d) (hn : Narrows d d') :
    Committing C N released d' where
  guard v hv := h.guard v (hn _ (by simp) v hv)
  candidate v hv := h.candidate v (hn _ (by simp) v hv)
  phase := by
    rcases h.phase with hintact | hguarded | ⟨hr, hconfirmed, hcandidate⟩
    · refine .inl fun v hv => (hintact v (hn _ (by simp) v hv)).imp_right fun hgood => ?_
      exact ⟨hgood.1, fun w hw => hgood.2 w (hn _ (by simp) w hw)⟩
    · exact .inr (.inl fun v hv => hguarded v (hn _ (by simp) v hv))
    · refine .inr (.inr ⟨hr, fun v hv => hconfirmed v (hn _ (by simp) v hv), fun v hv => ?_⟩)
      exact hcandidate v (hn _ (by simp) v hv)

theorem Narrows.of_scratched (h : Scratched d d') : Narrows d d' :=
  fun _ hname _ hv => (h.may hname).mp hv

theorem Narrows.of_sync (d : StoreDirectory) : Narrows d d.sync := fun _ _ _ hv => hv.of_sync

/-- A crash that keeps any of the pending changes. -/
abbrev StoreCrash : StoreDirectory → StoreDirectory → Prop :=
  Directory.Crash fun kept all => List.Sublist kept all

theorem Narrows.of_crash (h : StoreCrash d d') : Narrows d d' :=
  fun _ _ _ hv => hv.of_crash (fun _ _ hkept => hkept.subset) h

/-! ## What boot returns -/

/-- The calls answered without a fault. -/
def answer : (call : StoreCall) → StoreDirectory → call.Result × StoreDirectory
  | .lstat name, d => (if d.view name = none then .absent else .present, d)
  | .openRead name, d => (decide (d.view name ≠ none), d)
  | .transferIn name, d => (d.view name, d)
  | .close _, d => (true, d)
  | .fill file, d => (true, d.change [(.writeTmp, some file)])
  | .rename name, d =>
      match d.view .writeTmp with
      | some file => (true, d.change (publish name file))
      | none => (false, d)
  | .unlink name, d => if d.view name = none then (.absent, d) else (.ok, d.change [(name, none)])
  | .syncDirectory, d => (true, d.sync)

/-- `gateway_network_store_boot`, as the next start calls it. -/
def bootOf (d : StoreDirectory) : StoreResult × List UInt8 :=
  ((storeBoot snapshotMax).eval answer d).1

/-- `gateway_network_store_read`, likewise. -/
def readOf (d : StoreDirectory) (name : StoreFile) : StoreResult × List UInt8 :=
  match d.view name with
  | none => (.absent, [])
  | some file =>
      match decodeRecord snapshotMax file with
      | none => (.invalid, [])
      | some data => (.ok, data)

theorem eval_storeRead (d : StoreDirectory) (name : StoreFile) :
    (storeRead name snapshotMax).eval answer d = (readOf d name, d) := by
  unfold storeRead readOf
  cases hview : d.view name with
  | none => simp [lstat, answer, hview]
  | some file =>
    cases hdecode : decodeRecord snapshotMax file <;>
      simp [lstat, openRead, transferIn, close, answer, hview, hdecode]

variable {data : List UInt8} {name : StoreFile}

theorem readOf_eq_ok :
    readOf d name = (.ok, data) ↔ d.snapshot name = some data := by
  unfold readOf StoreDirectory.snapshot snapshotOf
  cases d.view name with
  | none => simp
  | some file => cases hdecode : decodeRecord snapshotMax file <;> simp [hdecode]

theorem bootOf_eq (d : StoreDirectory) :
    bootOf d =
      if (readOf d .commitGuard).1 ≠ .absent then readOf d .commitGuard
      else if (readOf d .confirmed).1 = .ok then readOf d .confirmed
      else readOf d .good := by
  unfold bootOf storeBoot
  rw [Prog.eval_bind, eval_storeRead]
  split
  · rfl
  · rw [Prog.eval_bind, eval_storeRead]
    split
    · rfl
    · rw [eval_storeRead]

theorem readOf_absent : (readOf d name).1 = .absent ↔ d.view name = none := by
  unfold readOf
  cases d.view name with
  | none => simp
  | some file => cases hdecode : decodeRecord snapshotMax file <;> simp [hdecode]

theorem bootOf_of_guard (h : d.snapshot .commitGuard = some data) :
    bootOf d = (.ok, data) := by
  rw [bootOf_eq, readOf_eq_ok.mpr h]
  simp

theorem bootOf_of_confirmed (hguard : d.view .commitGuard = none) (h : d.snapshot .confirmed = some data) :
    bootOf d = (.ok, data) := by
  rw [bootOf_eq, readOf_eq_ok.mpr h, readOf_absent.mpr hguard]
  simp

theorem bootOf_of_good (hguard : d.view .commitGuard = none) (hconfirmed : d.snapshot .confirmed = none)
    (h : d.snapshot .good = some data) :
    bootOf d = (.ok, data) := by
  have hne : (readOf d .confirmed).1 ≠ .ok := by
    intro hok
    have heq : readOf d .confirmed = (.ok, (readOf d .confirmed).2) := by rw [← hok]
    rw [readOf_eq_ok, hconfirmed] at heq
    exact absurd heq (by simp)
  rw [bootOf_eq, readOf_absent.mpr hguard, if_neg (by simp), if_neg hne, readOf_eq_ok.mpr h]

/-- The old profile, or the new one and no guard. -/
theorem Committing.bootOf (h : Committing C N released d) :
    bootOf d = (.ok, C) ∨ released ∧ d.view .commitGuard = none ∧ bootOf d = (.ok, N) := by
  rcases h.guard _ (d.may_view _) with hguard | hguard
  · rcases h.phase with hintact | hguarded | ⟨hr, hconfirmed, -⟩
    · refine .inl ?_
      rcases hintact _ (d.may_view _) with hc | ⟨hc, hgood⟩
      · exact bootOf_of_confirmed hguard hc
      · exact bootOf_of_good hguard hc (hgood _ (d.may_view _))
    · exact .inl (bootOf_of_guard (hguarded _ (d.may_view _)))
    · rcases hconfirmed _ (d.may_view _) with hc | hn
      · exact .inl (bootOf_of_confirmed hguard hc)
      · exact .inr ⟨hr, hguard, bootOf_of_confirmed hguard hn⟩
  · exact .inl (bootOf_of_guard hguard)

theorem Committing.bootOf_of_guarded (h : Committing C N released d)
    (hguard : d.view .commitGuard ≠ none) : FourVrs.Network.bootOf d = (.ok, C) :=
  bootOf_of_guard ((h.guard _ (d.may_view _)).resolve_left hguard)

/-! ## The steps of a commit -/

theorem snapshotOf_encodeRecord (hne : data.length ≠ 0) (hmax : data.length ≤ snapshotMax) :
    snapshotOf (some (encodeRecord data)) = some data :=
  decodeRecord_encodeRecord hne hmax hmax

theorem length_of_snapshot {file : Option (List UInt8)} (h : snapshotOf file = some data) :
    data.length ≠ 0 ∧ data.length ≤ snapshotMax := by
  obtain ⟨bytes, -, hdecode⟩ := Option.bind_eq_some_iff.mp h
  have hlength := length_of_decodeRecord hdecode
  exact ⟨hlength.1, hlength.2.1⟩

/-- Writing the old profile, under whatever name, is always safe. -/
theorem Committing.published_old (h : Committing C N released d)
    (hC : snapshotOf (some (encodeRecord C)) = some C) (hname : name ≠ .candidate) :
    Committing C N released (d.published name C) := by
  have hmay : ∀ {other v}, other ≠ StoreFile.writeTmp → (d.published name C).May other v →
      d.May other v ∨ other = name ∧ snapshotOf v = some C := by
    intro other v hother hv
    rcases (may_published hother).mp hv with hv | ⟨heq, rfl⟩
    · exact .inl hv
    · exact .inr ⟨heq, hC⟩
  refine ⟨fun v hv => ?_, fun v hv => ?_, ?_⟩
  · rcases hmay (by simp) hv with hv | ⟨-, hv⟩
    · exact h.guard v hv
    · exact .inr hv
  · rcases hmay (by simp) hv with hv | ⟨heq, -⟩
    · exact h.candidate v hv
    · exact absurd heq.symm hname
  · rcases h.phase with hintact | hguarded | ⟨hr, hconfirmed, hcandidate⟩
    · refine .inl fun v hv => ?_
      have hgood : snapshotOf v = none → (∀ w, d.May .good w → snapshotOf w = some C) →
          ∀ w, (d.published name C).May .good w → snapshotOf w = some C := by
        intro _ hgood w hw
        rcases hmay (by simp) hw with hw | ⟨-, hw⟩
        · exact hgood w hw
        · exact hw
      rcases hmay (by simp) hv with hv | ⟨-, hv⟩
      · exact (hintact v hv).imp_right fun hc => ⟨hc.1, hgood hc.1 hc.2⟩
      · exact .inl hv
    · refine .inr (.inl fun v hv => ?_)
      rcases hmay (by simp) hv with hv | ⟨-, hv⟩
      · exact hguarded v hv
      · exact hv
    · refine .inr (.inr ⟨hr, fun v hv => ?_, fun v hv => ?_⟩)
      · rcases hmay (by simp) hv with hv | ⟨-, hv⟩
        · exact hconfirmed v hv
        · exact .inl hv
      · rcases hmay (by simp) hv with hv | ⟨heq, -⟩
        · exact hcandidate v hv
        · exact absurd heq.symm hname

/-- Writing the new one as confirmed is, under the guard. -/
theorem Committing.published_new (h : Committing C N released d) (hguarded : Guarded C d) :
    Committing C N released (d.published .confirmed N) := by
  have hguarded' : Guarded C (d.published .confirmed N) := by
    intro v hv
    rcases (may_published (by simp)).mp hv with hv | ⟨heq, -⟩
    · exact hguarded v hv
    · exact absurd heq (by simp)
  refine ⟨fun v hv => .inr (hguarded' v hv), fun v hv => ?_, .inr (.inl hguarded')⟩
  rcases (may_published (by simp)).mp hv with hv | ⟨heq, -⟩
  · exact h.candidate v hv
  · exact absurd heq (by simp)

theorem may_removed {name other : StoreFile} {v : Option (List UInt8)} :
    (d.change [(name, none)]).May other v ↔ d.May other v ∨ other = name ∧ v = none := by
  rw [Directory.may_change]
  simp

theorem may_other {name other : StoreFile} {v : Option (List UInt8)} (hother : other ≠ name)
    (hv : (d.change [(name, none)]).May other v) : d.May other v :=
  (may_removed.mp hv).resolve_right fun h => hother h.1

theorem Committing.removed_candidate (h : Committing C N released d) :
    Committing C N released (d.change [(.candidate, none)]) := by
  have hnone : ∀ v, (d.change [(.candidate, none)]).May .candidate v → d.May .candidate v ∨ v = none :=
    fun v hv => (may_removed.mp hv).imp_right And.right
  refine ⟨fun v hv => h.guard v (may_other (by simp) hv), fun v hv => ?_, ?_⟩
  · rcases hnone v hv with hv | hv
    · exact h.candidate v hv
    · exact .inl hv
  · rcases h.phase with hintact | hguarded | ⟨hr, hconfirmed, hcandidate⟩
    · refine .inl fun v hv => (hintact v (may_other (by simp) hv)).imp_right fun hc => ?_
      exact ⟨hc.1, fun w hw => hc.2 w (may_other (by simp) hw)⟩
    · exact .inr (.inl fun v hv => hguarded v (may_other (by simp) hv))
    · refine .inr (.inr ⟨hr, fun v hv => hconfirmed v (may_other (by simp) hv), fun v hv => ?_⟩)
      rcases hnone v hv with hv | hv
      · exact hcandidate v hv
      · exact hv

/-- Removing the guard decides, for whatever profile the others say by then. -/
theorem Committing.removed_guard (h : Committing C N released d)
    (hphase : Intact C d ∨ released ∧ Released C N d) :
    Committing C N released (d.change [(.commitGuard, none)]) := by
  refine ⟨fun v hv => ?_, fun v hv => h.candidate v (may_other (by simp) hv), ?_⟩
  · rcases may_removed.mp hv with hv | ⟨-, hv⟩
    · exact h.guard v hv
    · exact .inl hv
  · rcases hphase with hintact | ⟨hr, hconfirmed, hcandidate⟩
    · refine .inl fun v hv => (hintact v (may_other (by simp) hv)).imp_right fun hc => ?_
      exact ⟨hc.1, fun w hw => hc.2 w (may_other (by simp) hw)⟩
    · exact .inr (.inr ⟨hr, fun v hv => hconfirmed v (may_other (by simp) hv),
        fun v hv => hcandidate v (may_other (by simp) hv)⟩)

/-! ## `confirm` and `abort_commit` -/

/-- A commit that is through. -/
structure Done (N : List UInt8) (d : StoreDirectory) : Prop where
  settled : d.pending = []
  guard : d.view .commitGuard = none
  candidate : d.view .candidate = none
  confirmed : d.snapshot .confirmed = some N

/-- A failing read of `confirmed` does no harm in this state: nothing is to be
    committed, or `good` holds the same snapshot or none. -/
def HarmlessRead (d : StoreDirectory) : Prop :=
  ∀ x y z, d.snapshot .confirmed = some x → d.snapshot .good = some y →
    d.snapshot .candidate = some z → y = x

section

variable {allowed : StoreFaults}
  (hreads : ∀ d, ReadMayFail allowed d .confirmed → HarmlessRead d)
  (hrelease : ∀ d, allowed (.unlink .commitGuard) d .ok → released)

theorem safe_write_old (h : Committing C N released d)
    (hC : snapshotOf (some (encodeRecord C)) = some C) {name : StoreFile}
    (hname : name ≠ .candidate) (htmp : name ≠ .writeTmp)
    {post : StoreResult → StoreDirectory → Prop}
    (herror : ∀ r d', r ≠ .ok → Committing C N released d' → post r d')
    (hok : Committing C N released (d.published name C).sync → post .ok (d.published name C).sync) :
    Prog.Safe (storeWorld allowed) (Committing C N released) post (storeWrite name C) d := by
  have hpublished := h.published_old hC hname
  have hsynced := hpublished.narrows (Narrows.of_sync _)
  obtain ⟨hne, hmax⟩ := length_of_snapshot hC
  refine safe_storeWrite htmp hne hmax (fun d' hd' => ?_) ?_ ?_
  · have hd' := h.narrows (Narrows.of_scratched hd')
    exact ⟨hd', herror _ _ (by simp) hd'⟩
  · exact ⟨hpublished, herror _ _ (by simp) hpublished⟩
  · exact ⟨hsynced, hok hsynced⟩

/-- With a candidate to commit, `boot` finds the old profile. -/
theorem Committing.mayBoot (hreads : ∀ d, ReadMayFail allowed d .confirmed → HarmlessRead d)
    (h : Committing C N released d) {x z : List UInt8} (hboot : MayBoot allowed d x)
    (hcandidate : d.snapshot .candidate = some z) :
    x = C ∧ z = N ∧ (Intact C d ∨ Guarded C d) := by
  have hpresent : d.view .candidate ≠ none := by
    intro hnone
    simp [StoreDirectory.snapshot, snapshotOf, hnone] at hcandidate
  have hz : z = N := by
    have hN := (h.candidate _ (d.may_view _)).resolve_left hpresent
    exact Option.some.inj (hcandidate.symm.trans hN)
  have hphase : Intact C d ∨ Guarded C d := by
    rcases h.phase with hintact | hguarded | ⟨-, -, hnone⟩
    · exact .inl hintact
    · exact .inr hguarded
    · exact absurd (hnone _ (d.may_view _)) hpresent
  refine ⟨?_, hz, hphase⟩
  rcases hboot with hguard | ⟨hnone, hboot⟩
  · rcases h.guard _ (d.may_view _) with hnone | hC
    · simp [StoreDirectory.snapshot, snapshotOf, hnone] at hguard
    · exact Option.some.inj (hguard.symm.trans hC)
  · have hintact : Intact C d := by
      refine hphase.resolve_right fun hguarded => ?_
      have hC := hguarded _ (d.may_view _)
      simp [snapshotOf, hnone] at hC
    have hC : d.snapshot .confirmed = some C ∨
        d.snapshot .confirmed = none ∧ d.snapshot .good = some C :=
      (hintact _ (d.may_view _)).imp_right fun hc => ⟨hc.1, hc.2 _ (d.may_view _)⟩
    rcases hboot with hconfirmed | ⟨hfault, hgood⟩
    · rcases hC with hC | ⟨hC, -⟩
      · exact Option.some.inj (hconfirmed.symm.trans hC)
      · exact absurd (hconfirmed.symm.trans hC) (by simp)
    · rcases hC with hC | ⟨-, hC⟩
      · exact hreads d (hfault C hC) C x z hC hgood hcandidate
      · exact Option.some.inj (hgood.symm.trans hC)

include hrelease in
theorem safe_releaseGuard (h : Committing C N released d)
    (hC : snapshotOf (some (encodeRecord C)) = some C) (hsettled : d.pending = [])
    (hcandidate : d.view .candidate = none) (hconfirmed : d.snapshot .confirmed = some N) :
    Prog.Safe (storeWorld allowed) (Committing C N released) (fun r d' => r = .ok → Done N d')
      (releaseGuard C) d := by
  unfold releaseGuard
  refine Prog.Safe.bind (Prog.Safe.lift h ?_)
  rintro r d' ⟨⟨rfl, -, rfl⟩ | ⟨rfl, -, rfl⟩ | ⟨rfl, rfl⟩, hallowed⟩
  · have hreleased : Released C N d := by
      refine ⟨fun v hv => .inr ?_, fun v hv => ?_⟩
      · rw [(Directory.may_of_settled hsettled).mp hv]
        exact hconfirmed
      · rw [(Directory.may_of_settled hsettled).mp hv]
        exact hcandidate
    have hremoved := h.removed_guard (.inr ⟨hrelease _ hallowed, hreleased⟩)
    refine ⟨hremoved, Prog.Safe.bind (Prog.Safe.lift hremoved ?_)⟩
    rintro synced d' ⟨⟨rfl, rfl⟩ | ⟨rfl, rfl⟩, -⟩
    · have hsynced := hremoved.narrows (Narrows.of_sync _)
      refine ⟨hsynced, hsynced, fun _ => ⟨rfl, ?_, ?_, ?_⟩⟩
      · simp
      · simpa using hcandidate
      · simpa [StoreDirectory.snapshot] using hconfirmed
    · -- the removal may not last: put the guard back, as far as that works
      refine ⟨hremoved, Prog.Safe.bind ?_⟩
      refine safe_write_old hremoved hC (by simp) (by simp) ?_ ?_
      · exact fun r d' _ hd' => ⟨hd', fun hr => absurd hr (by simp)⟩
      · exact fun hd' => ⟨hd', fun hr => absurd hr (by simp)⟩
  · exact ⟨h, h, fun hr => absurd hr (by simp)⟩
  · exact ⟨h, h, fun hr => absurd hr (by simp)⟩

theorem guarded_of_settled (hsettled : d.pending = [])
    (h : d.snapshot .commitGuard = some C) : Guarded C d := by
  intro v hv
  rw [(Directory.may_of_settled hsettled).mp hv]
  exact h

theorem snapshot_published_sync {data : List UInt8} (hdata : snapshotOf (some (encodeRecord data)) = some data)
    {name other : StoreFile} (hother : other ≠ .writeTmp) :
    StoreDirectory.snapshot (d.published name data).sync other =
      if other = name then some data else d.snapshot other := by
  unfold StoreDirectory.snapshot
  rw [Directory.view_sync, view_published hother]
  split
  · exact hdata
  · rfl

/-- A program that stops with an error wherever the invariant holds. -/
theorem safe_stop {r : StoreResult} (hr : r ≠ .ok) (h : Committing C N released d) :
    Prog.Safe (storeWorld allowed) (Committing C N released) (fun r d' => r = .ok → Done N d')
      (pure r) d :=
  ⟨h, fun he => absurd he hr⟩

theorem safe_storeDiscard (h : Committing C N released d)
    {post : StoreResult → StoreDirectory → Prop}
    (herror : ∀ r d', r ≠ .ok → Committing C N released d' → post r d')
    (hok : ∀ d' : StoreDirectory, Committing C N released d' → d'.pending = [] →
      d'.view .candidate = none → d'.snapshot .confirmed = d.snapshot .confirmed → post .ok d') :
    Prog.Safe (storeWorld allowed) (Committing C N released) post storeDiscard d := by
  have hsync : ∀ d' : StoreDirectory, Committing C N released d' → d'.view .candidate = none →
      d'.view .confirmed = d.view .confirmed →
      Prog.Safe (storeWorld allowed) (Committing C N released) post
        (do if !(← syncDirectory) then pure .uncertain else pure .ok) d' := by
    intro d' hd' hcandidate hconfirmed
    refine Prog.Safe.bind (Prog.Safe.lift hd' ?_)
    rintro synced d'' ⟨⟨rfl, rfl⟩ | ⟨rfl, rfl⟩, -⟩
    · have hsynced := hd'.narrows (Narrows.of_sync _)
      exact ⟨hsynced, hsynced, hok _ hsynced rfl hcandidate (congrArg snapshotOf hconfirmed)⟩
    · exact ⟨hd', hd', herror _ _ (by simp) hd'⟩
  unfold storeDiscard
  refine Prog.Safe.bind (Prog.Safe.lift h ?_)
  rintro r d' ⟨⟨rfl, -, rfl⟩ | ⟨rfl, habsent, rfl⟩ | ⟨rfl, rfl⟩, -⟩
  · have hremoved := h.removed_candidate
    exact ⟨hremoved, hsync _ hremoved (by simp) (by simp)⟩
  · exact ⟨h, hsync _ h habsent rfl⟩
  · exact ⟨h, h, herror _ _ (by simp) h⟩

include hrelease in
theorem safe_replaceConfirmed (h : Committing C N released d) (hguarded : Guarded C d)
    (hC : snapshotOf (some (encodeRecord C)) = some C)
    (hN : snapshotOf (some (encodeRecord N)) = some N) :
    Prog.Safe (storeWorld allowed) (Committing C N released) (fun r d' => r = .ok → Done N d')
      (replaceConfirmed C N) d := by
  obtain ⟨hne, hmax⟩ := length_of_snapshot hN
  have hpublished := h.published_new hguarded
  have hsynced := hpublished.narrows (Narrows.of_sync _)
  unfold replaceConfirmed
  refine Prog.Safe.bind (safe_storeWrite (by simp) hne hmax (fun d' hd' => ?_) ?_ ?_)
  · have hd' := h.narrows (Narrows.of_scratched hd')
    exact ⟨hd', safe_stop (by simp) hd'⟩
  · exact ⟨hpublished, safe_stop (by simp) hpublished⟩
  refine ⟨hsynced, ?_⟩
  have hconfirmed : StoreDirectory.snapshot (d.published .confirmed N).sync .confirmed = some N :=
    (snapshot_published_sync hN (by simp)).trans (if_pos rfl)
  rw [if_neg (by simp)]
  refine Prog.Safe.bind (safe_storeDiscard hsynced (fun r d' hr hd' => ?_) ?_)
  · rw [if_pos hr]
    exact safe_stop hr hd'
  · intro d' hd' hsettled hcandidate heq
    rw [if_neg (by simp)]
    exact safe_releaseGuard hrelease hd' hC hsettled hcandidate (heq.trans hconfirmed)

include hrelease in
/-- From the guard on, every failure leaves the old profile, and the end the new one. -/
theorem safe_publishCandidate (h : Committing C N released d)
    (hC : snapshotOf (some (encodeRecord C)) = some C)
    (hN : snapshotOf (some (encodeRecord N)) = some N) :
    Prog.Safe (storeWorld allowed) (Committing C N released) (fun r d' => r = .ok → Done N d')
      (publishCandidate C N) d := by
  unfold publishCandidate
  refine Prog.Safe.bind (safe_write_old h hC (by simp) (by simp) (fun r d' hr hd' => ?_) fun h₁ => ?_)
  · rw [if_pos hr]
    exact safe_stop hr hd'
  rw [if_neg (by simp)]
  refine Prog.Safe.bind (safe_write_old h₁ hC (by simp) (by simp) (fun r d' hr hd' => ?_) fun h₂ => ?_)
  · rw [if_pos hr]
    exact safe_stop hr hd'
  rw [if_neg (by simp)]
  refine safe_replaceConfirmed hrelease h₂ ?_ hC hN
  refine guarded_of_settled rfl ((snapshot_published_sync hC (by simp)).trans ?_)
  rw [if_neg (by simp)]
  exact (snapshot_published_sync hC (by simp)).trans (if_pos rfl)

theorem MayBoot.length {x : List UInt8} (h : MayBoot allowed d x) :
    x.length ≠ 0 ∧ x.length ≤ snapshotMax := by
  rcases h with h | ⟨-, h | ⟨-, h⟩⟩ <;> exact length_of_snapshot h

include hreads hrelease in
/-- **A commit, with any other faults, cut anywhere.** -/
theorem safe_storeConfirm (h : Committing C N released d) :
    Prog.Safe (storeWorld allowed) (Committing C N released) (fun r d' => r = .ok → Done N d')
      storeConfirm d := by
  unfold storeConfirm
  refine Prog.Safe.bind (safe_storeBoot h ?_ fun r hr => ?_)
  · intro x hboot
    rw [if_neg (by simp)]
    refine Prog.Safe.bind (safe_storeRead h ?_ ?_ ?_)
    · intro z hz
      obtain ⟨rfl, rfl, -⟩ := h.mayBoot hreads hboot hz
      obtain ⟨hne, hmax⟩ := hboot.length
      obtain ⟨hne', hmax'⟩ := length_of_snapshot hz
      rw [if_neg (by simp)]
      exact safe_publishCandidate hrelease h (snapshotOf_encodeRecord hne hmax)
        (snapshotOf_encodeRecord hne' hmax')
    · exact fun _ => safe_stop (by simp) h
    · rintro r (rfl | rfl) _ <;> exact safe_stop (by simp) h
  · rw [if_pos hr]
    exact safe_stop hr h

/-- The old profile is in force, and nothing is pending. -/
structure Reverted (C : List UInt8) (d : StoreDirectory) : Prop where
  settled : d.pending = []
  boots : bootOf d = (.ok, C)

/-- **An abort, with any faults, cut anywhere.** -/
theorem safe_storeAbortCommit (h : Committing C N released d) :
    Prog.Safe (storeWorld allowed) (Committing C N released)
      (fun r d' => d.view .commitGuard ≠ none → r = .ok → Reverted C d') storeAbortCommit d := by
  have hstop : ∀ {r : StoreResult} {d' : StoreDirectory}, r ≠ .ok → Committing C N released d' →
      Prog.Safe (storeWorld allowed) (Committing C N released)
        (fun r d' => d.view .commitGuard ≠ none → r = .ok → Reverted C d') (pure r) d' :=
    fun hr hd' => ⟨hd', fun _ he => absurd he hr⟩
  unfold storeAbortCommit
  refine Prog.Safe.bind (safe_storeRead h ?_ ?_ ?_)
  · intro x hx
    obtain ⟨hne, hmax⟩ := length_of_snapshot hx
    have hxC : x = C := by
      rcases h.guard _ (d.may_view _) with hnone | hC
      · simp [StoreDirectory.snapshot, snapshotOf, hnone] at hx
      · exact Option.some.inj (hx.symm.trans hC)
    subst hxC
    have hencode := snapshotOf_encodeRecord hne hmax
    rw [if_neg (by simp), if_neg (by simp)]
    refine Prog.Safe.bind (safe_write_old h hencode (by simp) (by simp) (fun r d' hr hd' => ?_)
      fun h₁ => ?_)
    · rw [if_pos hr]
      exact hstop hr hd'
    · rw [if_neg (by simp)]
      have hconfirmed : StoreDirectory.snapshot (d.published .confirmed x).sync .confirmed = some x :=
        (snapshot_published_sync hencode (by simp)).trans (if_pos rfl)
      have hintact : Intact x (d.published .confirmed x).sync := by
        intro v hv
        rw [(Directory.may_of_settled rfl).mp hv]
        exact .inl hconfirmed
      refine Prog.Safe.bind (Prog.Safe.lift h₁ ?_)
      rintro r d' ⟨⟨rfl, -, rfl⟩ | ⟨rfl, -, rfl⟩ | ⟨rfl, rfl⟩, -⟩
      · have hremoved := h₁.removed_guard (.inl hintact)
        refine ⟨hremoved, Prog.Safe.bind (Prog.Safe.lift hremoved ?_)⟩
        rintro synced d' ⟨⟨rfl, rfl⟩ | ⟨rfl, rfl⟩, -⟩
        · have hsynced := hremoved.narrows (Narrows.of_sync _)
          refine ⟨hsynced, hsynced, fun _ _ => ⟨rfl, bootOf_of_confirmed (by simp) ?_⟩⟩
          simpa [StoreDirectory.snapshot] using hconfirmed
        · exact ⟨hremoved, hstop (by simp) hremoved⟩
      · exact ⟨h₁, hstop (by simp) h₁⟩
      · exact ⟨h₁, hstop (by simp) h₁⟩
  · exact fun habsent => ⟨h, fun hguard => absurd habsent hguard⟩
  · rintro r (rfl | rfl) _ <;> exact hstop (by simp) h

/-- Once through, a commit is left alone: there is nothing to commit or to abort. -/
theorem safe_storeConfirm_done (h : Done N d) :
    Prog.Safe (storeWorld allowed) (· = d) (fun r _ => r ≠ .ok) storeConfirm d := by
  unfold storeConfirm
  refine Prog.Safe.bind (safe_storeBoot rfl ?_ fun r hr => ?_)
  · intro x _
    rw [if_neg (by simp)]
    refine Prog.Safe.bind (safe_storeRead rfl ?_ ?_ ?_)
    · intro z hz
      simp [StoreDirectory.snapshot, snapshotOf, h.candidate] at hz
    · exact fun _ => ⟨rfl, by simp⟩
    · rintro r (rfl | rfl) _ <;> exact ⟨rfl, by simp⟩
  · rw [if_pos hr]
    exact ⟨rfl, hr⟩

theorem safe_storeAbortCommit_done (h : Done N d) :
    Prog.Safe (storeWorld allowed) (· = d) (fun _ _ => True) storeAbortCommit d := by
  unfold storeAbortCommit
  refine Prog.Safe.bind (safe_storeRead rfl ?_ ?_ ?_)
  · intro z hz
    simp [StoreDirectory.snapshot, snapshotOf, h.guard] at hz
  · exact fun _ => ⟨rfl, trivial⟩
  · rintro r (rfl | rfl) _ <;> exact ⟨rfl, trivial⟩

end

/-! ## Runs -/

/-- What happens to a store: the two functions, to their end or cut by a crash, `boot`
    and crashes in between. -/
inductive StoreOp (allowed : StoreFaults) (d : StoreDirectory) : StoreDirectory → Prop where
  | confirmed {r : StoreResult} {d' : StoreDirectory}
      (h : Prog.Runs (storeWorld allowed) storeConfirm d (some r) d') : StoreOp allowed d d'
  | confirmCut {d' d'' : StoreDirectory} (h : Prog.Runs (storeWorld allowed) storeConfirm d none d')
      (hcrash : StoreCrash d' d'') : StoreOp allowed d d''
  | aborted {r : StoreResult} {d' : StoreDirectory}
      (h : Prog.Runs (storeWorld allowed) storeAbortCommit d (some r) d') : StoreOp allowed d d'
  | abortCut {d' d'' : StoreDirectory}
      (h : Prog.Runs (storeWorld allowed) storeAbortCommit d none d') (hcrash : StoreCrash d' d'') :
      StoreOp allowed d d''
  | booted {o : Option (StoreResult × List UInt8)} {d' : StoreDirectory}
      (h : Prog.Runs (storeWorld allowed) (storeBoot snapshotMax) d o d') : StoreOp allowed d d'
  | crashed {d' : StoreDirectory} (hcrash : StoreCrash d d') : StoreOp allowed d d'

abbrev StoreRun (allowed : StoreFaults) : StoreDirectory → StoreDirectory → Prop :=
  Relation.ReflTransGen (StoreOp allowed)

theorem storeBoot_keeps {allowed : StoreFaults} {o : Option (StoreResult × List UInt8)}
    (h : Prog.Runs (storeWorld allowed) (storeBoot snapshotMax) d o d') : d' = d := by
  have hsafe : Prog.Safe (storeWorld allowed) (· = d) (fun _ _ => True) (storeBoot snapshotMax) d :=
    safe_storeBoot rfl (fun _ _ => trivial) fun _ _ => trivial
  exact (hsafe.runs h).1

section

variable {allowed : StoreFaults}
  (hreads : ∀ d, ReadMayFail allowed d .confirmed → HarmlessRead d)
  (hrelease : ∀ d, allowed (.unlink .commitGuard) d .ok → released)

include hreads hrelease in
theorem Committing.op (h : Committing C N released d) (hop : StoreOp allowed d d') :
    Committing C N released d' := by
  cases hop with
  | confirmed hrun => exact ((safe_storeConfirm hreads hrelease h).runs hrun).1
  | confirmCut hrun hcrash =>
    exact ((safe_storeConfirm hreads hrelease h).runs hrun).1.narrows (Narrows.of_crash hcrash)
  | aborted hrun => exact ((safe_storeAbortCommit h).runs hrun).1
  | abortCut hrun hcrash =>
    exact ((safe_storeAbortCommit h).runs hrun).1.narrows (Narrows.of_crash hcrash)
  | booted hrun => exact storeBoot_keeps hrun ▸ h
  | crashed hcrash => exact h.narrows (Narrows.of_crash hcrash)

include hreads hrelease in
theorem Committing.run (h : Committing C N released d) (hrun : StoreRun allowed d d') :
    Committing C N released d' := by
  induction hrun with
  | refl => exact h
  | tail _ hop ih => exact ih.op hreads hrelease hop

theorem Done.crash (h : Done N d) (hcrash : StoreCrash d d') : d' = d :=
  Directory.crash_of_settled (fun _ _ hkept => hkept.subset) h.settled hcrash

theorem Done.run (h : Done N d) (hrun : StoreRun allowed d d') : d' = d := by
  induction hrun with
  | refl => rfl
  | tail _ hop ih =>
    subst ih
    cases hop with
    | confirmed hrun => exact ((safe_storeConfirm_done h).runs hrun).1
    | confirmCut hrun hcrash =>
      obtain rfl := ((safe_storeConfirm_done h).runs hrun).1
      exact h.crash hcrash
    | aborted hrun => exact ((safe_storeAbortCommit_done h).runs hrun).1
    | abortCut hrun hcrash =>
      obtain rfl := ((safe_storeAbortCommit_done h).runs hrun).1
      exact h.crash hcrash
    | booted hrun => exact storeBoot_keeps hrun
    | crashed hcrash => exact h.crash hcrash

end

theorem snapshot_of_bootOf (hguard : d.view .commitGuard = none) (h : bootOf d = (.ok, C)) :
    d.snapshot .confirmed = some C ∨ d.snapshot .confirmed = none ∧ d.snapshot .good = some C := by
  rw [bootOf_eq, readOf_absent.mpr hguard, if_neg (by simp)] at h
  split at h
  · exact .inl (readOf_eq_ok.mp h)
  · rename_i hne
    refine .inr ⟨?_, readOf_eq_ok.mp h⟩
    rw [Option.eq_none_iff_forall_ne_some]
    intro x hx
    exact hne (by rw [readOf_eq_ok.mpr hx])

/-- A store with a candidate staged is where a commit starts. -/
theorem committing_of_staged {faults : StoreFaults} (hguard : d.view .commitGuard = none)
    (hboot : bootOf d = (.ok, C))
    (hstaged : Prog.Runs (storeWorld faults) (storeWrite .candidate N) d (some .ok) d') :
    Committing C N released d' := by
  by_cases hlength : N.length = 0 ∨ N.length > snapshotMax
  · -- no such candidate can be staged
    have hinvalid : storeWrite .candidate N = pure .invalid := by
      unfold storeWrite
      rw [if_pos (by tauto)]
    rw [hinvalid] at hstaged
    cases hstaged
  · rw [not_or, not_lt] at hlength
    have hwritten : d' = (d.published .candidate N).sync := by
      have hsafe : Prog.Safe (storeWorld faults) (fun _ => True)
          (fun r d' => r = .ok → d' = (d.published .candidate N).sync) (storeWrite .candidate N) d :=
        safe_storeWrite (by simp) hlength.1 hlength.2 (fun _ _ => ⟨trivial, fun h => absurd h (by simp)⟩)
          ⟨trivial, fun h => absurd h (by simp)⟩ ⟨trivial, fun _ => rfl⟩
      exact (hsafe.runs hstaged).2 _ rfl rfl
    have hview : ∀ {other}, other ≠ StoreFile.writeTmp → other ≠ .candidate →
        d'.view other = d.view other := by
      intro other htmp hcandidate
      rw [hwritten, Directory.view_sync, view_published htmp, if_neg hcandidate]
    have hcandidate : d'.view .candidate = some (encodeRecord N) := by
      rw [hwritten, Directory.view_sync, view_published (by simp), if_pos rfl]
    have hsettled : d'.pending = [] := by
      rw [hwritten]
      rfl
    refine ⟨fun v hv => ?_, fun v hv => ?_, .inl fun v hv => ?_⟩ <;>
      rw [(Directory.may_of_settled hsettled).mp hv]
    · exact .inl ((hview (by simp) (by simp)).trans hguard)
    · rw [hcandidate]
      exact .inr (snapshotOf_encodeRecord hlength.1 hlength.2)
    · rw [hview (by simp) (by simp)]
      refine (snapshot_of_bootOf hguard hboot).imp_right fun hc => ⟨hc.1, fun w hw => ?_⟩
      rw [(Directory.may_of_settled hsettled).mp hw, hview (by simp) (by simp)]
      exact hc.2

/-- Any fault is allowed but a harmful one of a read of `confirmed`. -/
def SoundReads : StoreFaults :=
  fun call d r => call.reads = some .confirmed → call.failed r = true → HarmlessRead d

/-- Besides, no removal of the guard takes effect. -/
def KeepsGuard : StoreFaults
  | .unlink .commitGuard, _, r => r ≠ .ok
  | call, d, r => SoundReads call d r

theorem harmless_of_soundReads (d : StoreDirectory) (h : ReadMayFail SoundReads d .confirmed) :
    HarmlessRead d := by
  obtain ⟨call, r, hreads, hfailed, hallowed⟩ := h
  exact hallowed hreads hfailed

theorem harmless_of_keepsGuard (d : StoreDirectory) (h : ReadMayFail KeepsGuard d .confirmed) :
    HarmlessRead d := by
  obtain ⟨call, r, hreads, hfailed, hallowed⟩ := h
  cases call with
  | unlink name => exact absurd hreads (by simp [StoreCall.reads])
  | _ => exact hallowed hreads hfailed

/-- **The commit is atomic.** Stage a candidate `N` in a store that boots to `C` without
    a guard. However often confirming and aborting are tried after that, fail and are
    cut by crashes, the store boots to `C` or `N`, and to `N` only without the guard; a
    confirm that succeeds is final; one that fails and leaves the guard has changed
    nothing, and with the guard there an abort that succeeds has `C` back for good. As
    long as no removal of the guard takes effect, the store boots to `C`. -/
theorem crashAtomic_of_soundReads {faults : StoreFaults} {d₀ : StoreDirectory}
    (hguard : d₀.view .commitGuard = none) (hboot : bootOf d₀ = (.ok, C))
    (hstaged : Prog.Runs (storeWorld faults) (storeWrite .candidate N) d₀ (some .ok) d) :
    (∀ d', StoreRun SoundReads d d' →
      (bootOf d' = (.ok, C) ∨ bootOf d' = (.ok, N)) ∧
      (bootOf d' = (.ok, N) → N ≠ C → d'.view .commitGuard = none) ∧
      (∀ d₁, Prog.Runs (storeWorld SoundReads) storeConfirm d' (some .ok) d₁ →
        ∀ d₂, StoreRun SoundReads d₁ d₂ → bootOf d₂ = (.ok, N)) ∧
      (∀ r d₁, Prog.Runs (storeWorld SoundReads) storeConfirm d' (some r) d₁ → r ≠ .ok →
        d₁.view .commitGuard ≠ none → bootOf d₁ = (.ok, C)) ∧
      (d'.view .commitGuard ≠ none →
        ∀ d₁, Prog.Runs (storeWorld SoundReads) storeAbortCommit d' (some .ok) d₁ →
        ∀ d₂, d₂ = d₁ ∨ StoreCrash d₁ d₂ → bootOf d₂ = (.ok, C))) ∧
    ∀ d', StoreRun KeepsGuard d d' → bootOf d' = (.ok, C) := by
  constructor
  · intro d' hrun
    have hstart : Committing C N True d := committing_of_staged hguard hboot hstaged
    -- `Committing` carries both values through every cut, fault and crash
    have h := hstart.run harmless_of_soundReads (fun _ _ => trivial) hrun
    have hconfirm := safe_storeConfirm harmless_of_soundReads (fun _ _ => trivial) h
    refine ⟨?_, ?_, ?_, ?_, ?_⟩
    · exact h.bootOf.imp_right fun hn => hn.2.2
    · intro hn hne
      rcases h.bootOf with hc | ⟨-, hnone, -⟩
      · exact absurd (congrArg Prod.snd (hn.symm.trans hc)) hne
      · exact hnone
    · intro d₁ hrun₁ d₂ hrun₂
      have hdone : Done N d₁ := (hconfirm.runs hrun₁).2 _ rfl rfl
      rw [hdone.run hrun₂]
      exact bootOf_of_confirmed hdone.guard hdone.confirmed
    · intro r d₁ hrun₁ _ hpresent
      exact (hconfirm.runs hrun₁).1.bootOf_of_guarded hpresent
    · intro hpresent d₁ hrun₁ d₂ hd₂
      have hreverted := ((safe_storeAbortCommit h).runs hrun₁).2 _ rfl hpresent rfl
      rcases hd₂ with rfl | hcrash
      · exact hreverted.boots
      · rw [Directory.crash_of_settled (fun _ _ hkept => hkept.subset) hreverted.settled hcrash]
        exact hreverted.boots
  · intro d' hrun
    -- with the guard never taken off, the second value is not released at all
    have hstart : Committing C N False d := committing_of_staged hguard hboot hstaged
    have h := hstart.run harmless_of_keepsGuard (fun _ hallowed => hallowed rfl) hrun
    exact h.bootOf.resolve_right fun hn => hn.1

/-! ## Two stores -/

theorem storeStep_answer (call : StoreCall) (d : StoreDirectory) :
    StoreStep call d (answer call d).1 (answer call d).2 := by
  cases call with
  | lstat name => exact ⟨rfl, .inr rfl⟩
  | openRead name => exact ⟨rfl, of_decide_eq_true⟩
  | transferIn name => exact ⟨rfl, .inr rfl⟩
  | close name => rfl
  | fill file => exact .inl ⟨rfl, rfl⟩
  | rename name =>
    cases hview : d.view .writeTmp with
    | none | some file => simp [StoreStep, answer, hview]
  | unlink name => by_cases hview : d.view name = none <;> simp [StoreStep, answer, hview]
  | syncDirectory => exact .inl ⟨rfl, rfl⟩

theorem soundReads_answer (call : StoreCall) (d : StoreDirectory) :
    SoundReads call d (answer call d).1 := by
  intro hreads hfailed x y z hx
  -- only what is not there cannot be read
  have hview : d.view .confirmed ≠ none := by
    intro hnone
    simp [StoreDirectory.snapshot, snapshotOf, hnone] at hx
  cases call with
  | lstat name =>
    obtain rfl := Option.some.inj hreads
    simp [StoreCall.failed, answer, hview] at hfailed
  | openRead name =>
    obtain rfl := Option.some.inj hreads
    simp [StoreCall.failed, answer, hview] at hfailed
  | transferIn name =>
    obtain rfl := Option.some.inj hreads
    simp [StoreCall.failed, answer, hview] at hfailed
  | close name => simp [StoreCall.failed, answer] at hfailed
  | fill file | rename name | unlink name | syncDirectory => exact absurd hreads (by simp [StoreCall.reads])

/-- The profile 1 in force, and 2 the one before it. -/
def secondProfile : StoreDirectory where
  base
    | .confirmed => some (encodeRecord [1])
    | .good => some (encodeRecord [2])
    | .candidate | .commitGuard | .writeTmp => none
  pending := []

/-- The same with 3 for a candidate. -/
def thirdStaged : StoreDirectory := ((storeWrite .candidate [3]).eval answer secondProfile).2

/-- One commit without faults. -/
theorem crashAtomic_thirdStaged :
    (storeConfirm.eval answer thirdStaged).1 = .ok ∧
      ∀ d₂, StoreRun SoundReads (storeConfirm.eval answer thirdStaged).2 d₂ → bootOf d₂ = (.ok, [3]) :=
  have hworld : ∀ call d, storeWorld SoundReads call d (answer call d).1 (answer call d).2 :=
    fun call d => ⟨storeStep_answer call d, soundReads_answer call d⟩
  have hstaged := Prog.runs_eval hworld (storeWrite .candidate [3]) secondProfile
  have hconfirm := Prog.runs_eval hworld storeConfirm thirdStaged
  have hok : (storeConfirm.eval answer thirdStaged).1 = .ok := by decide +kernel
  have hboot : bootOf secondProfile = (.ok, [1]) := by decide +kernel
  ⟨hok, ((crashAtomic_of_soundReads (by decide +kernel) hboot hstaged).1 thirdStaged .refl).2.2.1 _
    (hok ▸ hconfirm)⟩

/-- Calls answered, but `confirmed` cannot be looked up. -/
def answerBlind : (call : StoreCall) → StoreDirectory → call.Result × StoreDirectory
  | .lstat .confirmed, d => (.failed, d)
  | call, d => answer call d

/-- **The wrong old profile.** The store boots to 1. The commit of 3 cannot read
    `confirmed`, takes 2 for the profile in force and writes it into the guard; a crash
    after that, and the store boots to 2. -/
theorem crashAtomic_fails_on_blind_read :
    bootOf secondProfile = (.ok, [1]) ∧ secondProfile.view .commitGuard = none ∧
      Prog.Runs (storeWorld fun _ _ _ => True) (storeWrite .candidate [3]) secondProfile (some .ok)
        thirdStaged ∧
      ∃ d, StoreRun (fun _ _ _ => True) thirdStaged d ∧ bootOf d = (.ok, [2]) := by
  have hstep : ∀ call d, StoreStep call d (answerBlind call d).1 (answerBlind call d).2 := by
    intro call d
    unfold answerBlind
    split
    · exact ⟨rfl, .inl rfl⟩
    · exact storeStep_answer _ d
  have hok : ((storeWrite .candidate [3]).eval answer secondProfile).1 = .ok := by decide +kernel
  have hworld : ∀ call d, storeWorld (fun _ _ _ => True) call d (answer call d).1 (answer call d).2 :=
    fun call d => ⟨storeStep_answer call d, trivial⟩
  have hblind : ∀ call d,
      storeWorld (fun _ _ _ => True) call d (answerBlind call d).1 (answerBlind call d).2 :=
    fun call d => ⟨hstep call d, trivial⟩
  have hstaged := Prog.runs_eval hworld (storeWrite .candidate [3]) secondProfile
  have hcut := Prog.runs_evalFor hblind 13 storeConfirm thirdStaged
  refine ⟨by decide +kernel, by decide +kernel, hok ▸ hstaged, _,
    .single (.confirmCut hcut (.mk _ (List.Sublist.refl _))), ?_⟩
  decide +kernel

end FourVrs.Network
