import FourVrs.Network.Store

/-!
# What the functions of the store do

One rule for each of `storeRead`, `storeWrite` and `storeBoot`, for any invariant and
any choice of the faults allowed: what a caller proves about their results and about
the directories they pass through.
-/

set_option autoImplicit false

namespace FourVrs.Network

open Lib

variable {allowed : StoreFaults} {I : StoreDirectory → Prop} {d : StoreDirectory}

/-- The snapshot in a file, if there is a valid one. -/
def snapshotOf (file : Option (List UInt8)) : Option (List UInt8) :=
  file.bind (decodeRecord snapshotMax)

def StoreDirectory.snapshot (d : StoreDirectory) (name : StoreFile) : Option (List UInt8) :=
  snapshotOf (d.view name)

/-- A call that reads the file is allowed to fail. -/
def ReadMayFail (allowed : StoreFaults) (d : StoreDirectory) (name : StoreFile) : Prop :=
  ∃ call r, StoreCall.reads call = some name ∧ call.failed r = true ∧ allowed call d r

variable {name : StoreFile} {post : StoreResult × List UInt8 → StoreDirectory → Prop}

theorem safe_storeRead (hinv : I d) (hok : ∀ data, d.snapshot name = some data → post (.ok, data) d)
    (habsent : d.view name = none → post (.absent, []) d) (hfail : ∀ r, r = .io ∨ r = .invalid →
      (∀ data, d.snapshot name = some data → ReadMayFail allowed d name) → post (r, []) d) :
    Prog.Safe (storeWorld allowed) I post (storeRead name snapshotMax) d := by
  unfold storeRead
  refine Prog.Safe.bind (Prog.Safe.lift hinv ?_)
  rintro presence d' ⟨⟨rfl, hpresence⟩, hallowed⟩
  refine ⟨hinv, ?_⟩
  cases presence with
  | failed => exact ⟨hinv, hfail .io (.inl rfl) fun _ _ => ⟨.lstat name, .failed, rfl, rfl, hallowed⟩⟩
  | absent =>
    refine ⟨hinv, habsent ?_⟩
    by_contra hne
    simp [hne] at hpresence
  | present =>
    refine Prog.Safe.bind (Prog.Safe.lift hinv ?_)
    rintro opened d' ⟨⟨rfl, -⟩, hallowed⟩
    refine ⟨hinv, ?_⟩
    cases opened with
    | false =>
      exact ⟨hinv, hfail .io (.inl rfl) fun _ _ => ⟨.openRead name, false, rfl, rfl, hallowed⟩⟩
    | true =>
      refine Prog.Safe.bind (Prog.Safe.lift hinv ?_)
      rintro file d' ⟨⟨rfl, hfile⟩, hallowed⟩
      refine ⟨hinv, ?_⟩
      split
      · rename_i hnone
        refine ⟨hinv, hfail .invalid (.inr rfl) fun data hdata => ?_⟩
        -- a valid file that does not decode has not been read
        rcases hfile with rfl | rfl
        · exact ⟨.transferIn name, none, rfl, rfl, hallowed⟩
        · exact absurd (hnone.symm.trans hdata) (by simp)
      · rename_i data hdata
        have hsnapshot : d'.snapshot name = some data := by
          rcases hfile with rfl | rfl
          · exact absurd hdata (by simp)
          · exact hdata
        refine Prog.Safe.bind (Prog.Safe.lift hinv ?_)
        rintro closed d' ⟨rfl, hallowed⟩
        refine ⟨hinv, ?_⟩
        cases closed with
        | false =>
          exact ⟨hinv, hfail .io (.inl rfl) fun _ _ => ⟨.close name, false, rfl, rfl, hallowed⟩⟩
        | true => exact ⟨hinv, hok data hsnapshot⟩

/-- What `boot` may return in `d`, with its reads allowed to fail. -/
def MayBoot (allowed : StoreFaults) (d : StoreDirectory) (data : List UInt8) : Prop :=
  d.snapshot .commitGuard = some data ∨
    d.view .commitGuard = none ∧
      (d.snapshot .confirmed = some data ∨
        (∀ x, d.snapshot .confirmed = some x → ReadMayFail allowed d .confirmed) ∧
          d.snapshot .good = some data)

theorem safe_storeBoot (hinv : I d) (hok : ∀ data, MayBoot allowed d data → post (.ok, data) d)
    (hother : ∀ r, r ≠ .ok → post (r, []) d) :
    Prog.Safe (storeWorld allowed) I post (storeBoot snapshotMax) d := by
  unfold storeBoot
  refine Prog.Safe.bind (safe_storeRead hinv ?_ ?_ ?_)
  · intro data hdata
    exact ⟨hinv, hok data (.inl hdata)⟩
  · intro habsent
    refine Prog.Safe.bind (safe_storeRead hinv ?_ ?_ ?_)
    · intro data hdata
      exact ⟨hinv, hok data (.inr ⟨habsent, .inl hdata⟩)⟩
    · intro hconfirmed
      refine safe_storeRead hinv ?_ ?_ ?_
      · intro data hdata
        refine hok data (.inr ⟨habsent, .inr ⟨fun x hx => ?_, hdata⟩⟩)
        simp [StoreDirectory.snapshot, snapshotOf, hconfirmed] at hx
      · exact fun _ => hother .absent (by simp)
      · rintro r (rfl | rfl) _ <;> exact hother _ (by simp)
    · rintro r (rfl | rfl) hfault <;> refine safe_storeRead hinv ?_ ?_ ?_
      all_goals first
        | exact fun data hdata => hok data (.inr ⟨habsent, .inr ⟨hfault, hdata⟩⟩)
        | exact fun _ => hother .absent (by simp)
        | (rintro r (rfl | rfl) _ <;> exact hother _ (by simp))
  · rintro r (rfl | rfl) _ <;> exact ⟨hinv, hother _ (by simp)⟩

/-- The directory after a write that has not got to its rename. -/
def Scratched (d d' : StoreDirectory) : Prop :=
  d' = d ∨ ∃ content, d' = d.change [(.writeTmp, content)]

/-- The directory once a write has renamed its file. -/
def StoreDirectory.published (d : StoreDirectory) (name : StoreFile) (data : List UInt8) :
    StoreDirectory :=
  (d.change [(.writeTmp, some (encodeRecord data))]).change (publish name (encodeRecord data))

variable {data : List UInt8}

theorem safe_storeWrite {post : StoreResult → StoreDirectory → Prop} (hname : name ≠ .writeTmp)
    (hne : data.length ≠ 0) (hmax : data.length ≤ snapshotMax)
    (hscratched : ∀ d', Scratched d d' → I d' ∧ post .io d')
    (huncertain : I (d.published name data) ∧ post .uncertain (d.published name data))
    (hok : I (d.published name data).sync ∧ post .ok (d.published name data).sync) :
    Prog.Safe (storeWorld allowed) I post (storeWrite name data) d := by
  have hd := hscratched d (.inl rfl)
  unfold storeWrite
  rw [if_neg (by simp only [not_or]; exact ⟨hne, not_lt.mpr hmax, hname⟩)]
  refine Prog.Safe.bind (Prog.Safe.lift hd.1 ?_)
  rintro filled d' ⟨⟨rfl, rfl⟩ | ⟨rfl, hjunk⟩, -⟩
  · have hfilled := hscratched _ (.inr ⟨some (encodeRecord data), rfl⟩)
    refine ⟨hfilled.1, Prog.Safe.bind (Prog.Safe.lift hfilled.1 ?_)⟩
    rintro renamed d' ⟨⟨file, hfile, rfl, rfl⟩ | ⟨rfl, rfl⟩, -⟩
    · have hrecord : file = encodeRecord data := by simpa using hfile.symm
      subst hrecord
      refine ⟨huncertain.1, Prog.Safe.bind (Prog.Safe.lift huncertain.1 ?_)⟩
      rintro synced d' ⟨⟨rfl, rfl⟩ | ⟨rfl, rfl⟩, -⟩
      · exact ⟨hok.1, hok⟩
      · exact ⟨huncertain.1, huncertain⟩
    · exact ⟨hfilled.1, hfilled⟩
  · have hd' : Scratched d d' := by
      rcases hjunk with rfl | ⟨junk, rfl⟩
      · exact .inl rfl
      · exact .inr ⟨some junk, rfl⟩
    exact ⟨(hscratched d' hd').1, hscratched d' hd'⟩

/-! ## What the names may hold after a write -/

theorem Scratched.may {d' : StoreDirectory} (h : Scratched d d') (hname : name ≠ .writeTmp)
    {v : Option (List UInt8)} : d'.May name v ↔ d.May name v := by
  rcases h with rfl | ⟨content, rfl⟩
  · rfl
  · rw [Directory.may_change]
    simp [hname]

theorem may_published {other : StoreFile} (hother : other ≠ .writeTmp) {v : Option (List UInt8)} :
    (d.published name data).May other v ↔
      d.May other v ∨ other = name ∧ v = some (encodeRecord data) := by
  unfold StoreDirectory.published
  rw [Directory.may_change, Directory.may_change]
  simp [publish, hother]

theorem view_published {other : StoreFile} (hother : other ≠ .writeTmp) :
    (d.published name data).view other =
      if other = name then some (encodeRecord data) else d.view other := by
  unfold StoreDirectory.published
  rw [Directory.view_change, Directory.view_change]
  simp [publish, Function.update_apply, hother]

end FourVrs.Network
