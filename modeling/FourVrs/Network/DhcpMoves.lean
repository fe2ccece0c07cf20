import FourVrs.Network.Dhcp

/-!
# What the DHCP client can do

A step of the client and a message it is given end in one of a few ways. `DhcpMove` and
`DhcpTaken` list them, for a client whose `valid` agrees with its state; what holds of a
run of the client is shown of each of them.
-/

set_option autoImplicit false

namespace FourVrs.Network

open FourVrs.Core Config

/-- The states of a client that uses its address. -/
def DhcpState.leased (state : DhcpState) : Bool :=
  match state with
  | .bound | .renewing | .rebinding => true
  | _ => false

/-- The lease is in force exactly in these states. -/
def Steady (d : DhcpClient) : Prop := d.valid = d.state.leased

/-- The client starts over: it forgets the lease and asks for offers. -/
def dhcpRestart (d : DhcpClient) (now nextSend : CoreTick) (retries error : Nat) : DhcpClient :=
  { dhcpInvalidate d with state := .selecting, started := now, xid := d.xid + 1, sendType := 1,
                          nextSend := nextSend, retries := retries, error := error }

/-- What a request to prolong the lease begins with. -/
def dhcpProlong (d : DhcpClient) (state : DhcpState) (now nextSend : CoreTick) (retries : Nat) : DhcpClient :=
  { d with state := state, started := now, haveRequest := false, xid := d.xid + 1, sendType := 3,
           nextSend := nextSend, retries := retries }

/-- The ways of `gateway_dhcp_step`. -/
inductive DhcpMove (d : DhcpClient) (now : CoreTick) (link : Bool) : DhcpClient → Prop where
  | rests (h : d.state = .off ∨ d.state = .backoff ∧ due now d.nextSend = false ∨
      (d.state = .probing ∨ d.state = .bound) ∧ due now d.expiresAt = false) : DhcpMove d now link d
  | unlinked (hon : d.state ≠ .off) (h : link = false) :
      DhcpMove d now link
        { dhcpInvalidate d with state := .backoff, nextSend := now + 1000, sendType := 0 }
  | restarts (nextSend : CoreTick) (retries error : Nat)
      (h : (d.state.leased = true ∨ d.state = .probing) ∧ due now d.expiresAt = true ∨
        d.state = .backoff ∧ due now d.nextSend = true) :
      DhcpMove d now link (dhcpRestart d now nextSend retries error)
  | gaveUp (h : d.state = .selecting ∨ d.state = .requesting) (hlate : 30000 ≤ now - d.started) :
      DhcpMove d now link { d with state := .backoff, nextSend := now + 10000, sendType := 0, error := 1 }
  | prolongs (state : DhcpState) (nextSend : CoreTick) (retries : Nat) (h : d.state = .bound)
      (hstate : state = .renewing ∨ state = .rebinding) (hahead : due now d.expiresAt = false) :
      DhcpMove d now link (dhcpProlong d state now nextSend retries)
  | rebinds (nextSend : CoreTick) (retries : Nat) (h : d.state = .renewing)
      (hahead : due now d.expiresAt = false) :
      DhcpMove d now link
        { d with state := .rebinding, sendType := 3, nextSend := nextSend, retries := retries }
  | waits (sendType : Nat) (nextSend : CoreTick) (retries : Nat) (h : d.state.listens = true)
      (hsend : sendType = d.sendType ∨ sendType = if d.state = .selecting then 1 else 3)
      (hahead : d.valid = true → due now d.expiresAt = false)
      (hearly : d.valid = false → now - d.started < 30000) :
      DhcpMove d now link { d with sendType := sendType, nextSend := nextSend, retries := retries }

theorem due_self (now : CoreTick) : due now now = true := by
  simp [due, coreTickHalfRange]

theorem dhcpSchedule_eq (d : DhcpClient) (now : CoreTick) :
    ∃ sendType nextSend retries,
      dhcpSchedule d now = { d with sendType := sendType, nextSend := nextSend, retries := retries } ∧
        (sendType = d.sendType ∨ sendType = if d.state = .selecting then 1 else 3) := by
  unfold dhcpSchedule
  split
  · exact ⟨_, _, _, rfl, .inr rfl⟩
  · exact ⟨d.sendType, d.nextSend, d.retries, rfl, .inl rfl⟩

variable {d : DhcpClient} {now : CoreTick}

theorem dhcpSchedule_due (h : due now d.nextSend = true) :
    ∃ nextSend retries,
      dhcpSchedule d now =
        { d with sendType := if d.state = .selecting then 1 else 3, nextSend := nextSend
                 retries := retries } := by
  unfold dhcpSchedule
  rw [if_pos h]
  exact ⟨_, _, rfl⟩

/-- A client that has just begun to select sends at once. -/
theorem dhcpActive_selecting (hstate : d.state = .selecting) (hvalid : d.valid = false)
    (hstarted : d.started = now) (hnext : due now d.nextSend = true) :
    ∃ nextSend retries,
      dhcpActive d now = { d with sendType := 1, nextSend := nextSend, retries := retries } := by
  have hrenew : dhcpRenew d now = d := by simp [dhcpRenew, hvalid, hstate]
  obtain ⟨nextSend, retries, hsend⟩ := dhcpSchedule_due hnext
  have hactive : dhcpActive d now = dhcpSchedule d now := by
    unfold dhcpActive
    simp [hrenew, hstate, hvalid, hstarted]
  refine ⟨nextSend, retries, ?_⟩
  rw [hactive, hsend, if_pos hstate]

theorem restarts_expired :
    ∃ nextSend retries, dhcpActive { dhcpInvalidate d with
        state := .selecting, started := now, nextSend := now, retries := 0, xid := d.xid + 1, error := 3 } now =
      dhcpRestart d now nextSend retries 3 := by
  obtain ⟨nextSend, retries, h⟩ := @dhcpActive_selecting { dhcpInvalidate d with
    state := .selecting, started := now, nextSend := now, retries := 0, xid := d.xid + 1, error := 3 }
    now rfl rfl rfl (due_self now)
  exact ⟨nextSend, retries, h⟩

theorem restarts_backoff (hnext : due now d.nextSend = true) :
    ∃ nextSend retries, dhcpActive { dhcpInvalidate d with
        state := .selecting, started := now, retries := 0, xid := d.xid + 1 } now =
      dhcpRestart d now nextSend retries d.error := by
  obtain ⟨nextSend, retries, h⟩ := @dhcpActive_selecting { dhcpInvalidate d with
    state := .selecting, started := now, retries := 0, xid := d.xid + 1 } now rfl rfl rfl hnext
  exact ⟨nextSend, retries, h⟩

/-- The moves of a client that is asking or has a lease that has not run out. -/
theorem move_active (hsteady : Steady d) (link : Bool) (hstate : d.state.listens = true ∨ d.state = .bound)
    (hahead : d.valid = true → due now d.expiresAt = false) :
    DhcpMove d now link (dhcpActive d now) := by
  unfold Steady at hsteady
  -- a bound client may be due to rebind or to renew; the others wait for an answer
  by_cases hbound : d.state = .bound
  · have hvalid : d.valid = true := by rw [hsteady, hbound]; rfl
    by_cases hrebind : due now d.rebindAt = true
    · obtain ⟨nextSend, retries, hsend⟩ := @dhcpSchedule_due (dhcpProlong d .rebinding now now 0) now
        (due_self now)
      have hactive : dhcpActive d now = dhcpProlong d .rebinding now nextSend retries := by
        have hrenew : dhcpRenew d now =
            { dhcpProlong d .rebinding now now 0 with sendType := d.sendType } := by
          simp [dhcpRenew, hvalid, hrebind, hbound, dhcpProlong]
        unfold dhcpActive
        simp only [hrenew, dhcpProlong, hvalid]
        rw [if_neg (by simp), if_neg (by simp)]
        simpa [dhcpSchedule, dhcpProlong, due_self] using hsend
      rw [hactive]
      exact .prolongs _ _ _ hbound (.inr rfl) (hahead hvalid)
    by_cases hrenewal : due now d.renewAt = true
    · obtain ⟨nextSend, retries, hsend⟩ := @dhcpSchedule_due (dhcpProlong d .renewing now now 0) now
        (due_self now)
      have hactive : dhcpActive d now = dhcpProlong d .renewing now nextSend retries := by
        have hrenew : dhcpRenew d now =
            { dhcpProlong d .renewing now now 0 with sendType := d.sendType } := by
          simp [dhcpRenew, hrebind, hbound, hrenewal, dhcpProlong]
        unfold dhcpActive
        simp only [hrenew, dhcpProlong, hvalid]
        rw [if_neg (by simp), if_neg (by simp)]
        simpa [dhcpSchedule, dhcpProlong, due_self] using hsend
      rw [hactive]
      exact .prolongs _ _ _ hbound (.inl rfl) (hahead hvalid)
    · have hactive : dhcpActive d now = d := by
        have hrenew : dhcpRenew d now = d := by simp [dhcpRenew, hrebind, hrenewal]
        unfold dhcpActive
        simp [hrenew, hbound]
      rw [hactive]
      exact .rests (.inr (.inr ⟨.inr hbound, hahead hvalid⟩))
  · have hlistens := hstate.resolve_right hbound
    by_cases hrebind : (d.valid && due now d.rebindAt && d.state ≠ .rebinding) = true
    · simp only [Bool.and_eq_true, decide_eq_true_eq] at hrebind
      -- of the states with a lease only RENEWING has not been asked this
      have hrenewing : d.state = .renewing := by
        have hleased : d.state.leased = true := by rw [← hsteady, hrebind.1.1]
        cases hs : d.state <;> rw [hs] at hleased hrebind hbound <;> simp_all [DhcpState.leased]
      obtain ⟨nextSend, retries, hsend⟩ := @dhcpSchedule_due
        { d with state := .rebinding, nextSend := now, retries := 0 } now (due_self now)
      have hactive : dhcpActive d now =
          { d with state := .rebinding, sendType := 3, nextSend := nextSend, retries := retries } := by
        have hrenew : dhcpRenew d now = { d with state := .rebinding, nextSend := now, retries := 0 } := by
          simp [dhcpRenew, hrebind, hrenewing]
        unfold dhcpActive
        simp only [hrenew]
        rw [if_neg (by simp), if_neg (by simp [hrebind.1.1])]
        simpa using hsend
      rw [hactive]
      exact .rebinds _ _ hrenewing (hahead hrebind.1.1)
    · have hrenew : dhcpRenew d now = d := by
        unfold dhcpRenew
        rw [if_neg hrebind, if_neg (by simp [hbound])]
      unfold dhcpActive
      simp only [hrenew, if_neg hbound]
      split
      · rename_i hlate
        simp only [Bool.and_eq_true, Bool.not_eq_true', decide_eq_true_eq] at hlate
        refine .gaveUp ?_ hlate.2
        have hleased : d.state.leased = false := by rw [← hsteady, hlate.1]
        cases hs : d.state <;> rw [hs] at hleased hlistens <;>
          simp_all [DhcpState.leased, DhcpState.listens]
      · rename_i hearly
        obtain ⟨sendType, nextSend, retries, hsend, htype⟩ := dhcpSchedule_eq d now
        rw [hsend]
        refine .waits sendType nextSend retries hlistens htype hahead fun hvalid => ?_
        simpa [hvalid] using hearly

/-- **What a step can do.** -/
theorem dhcpStep_moves (hsteady : Steady d) (now : CoreTick) (link : Bool) :
    DhcpMove d now link (dhcpStep d now link) := by
  unfold dhcpStep
  by_cases hoff : d.state = .off
  · rw [if_pos hoff]
    exact .rests (.inl hoff)
  · rw [if_neg hoff]
    cases link with
    | false => exact .unlinked hoff rfl
    | true =>
      simp only [Bool.not_true, Bool.false_eq_true, if_false]
      by_cases hexpired : ((d.valid || d.state = .probing) && due now d.expiresAt) = true
      · have hexpire : dhcpExpire d now = { dhcpInvalidate d with
            state := .selecting, started := now, nextSend := now, retries := 0, xid := d.xid + 1
            error := 3 } := if_pos hexpired
        obtain ⟨nextSend, retries, hrestart⟩ := @restarts_expired d now
        rw [hexpire]
        simp only [reduceCtorEq, decide_false, Bool.false_and, Bool.false_eq_true, if_false]
        rw [hrestart]
        refine .restarts _ _ _ (.inl ?_)
        simpa [← show d.valid = d.state.leased from hsteady] using hexpired
      · have hexpire : dhcpExpire d now = d := if_neg hexpired
        rw [hexpire]
        by_cases hbackoff : d.state = .backoff
        · by_cases hnext : due now d.nextSend = true
          · obtain ⟨nextSend, retries, hrestart⟩ := restarts_backoff hnext
            simp only [hbackoff, hnext, decide_true, Bool.not_true, Bool.and_false, Bool.false_eq_true,
              if_false, if_true, reduceCtorEq]
            rw [hrestart]
            exact .restarts _ _ _ (.inr ⟨hbackoff, hnext⟩)
          · rw [if_pos (by simp [hbackoff, hnext])]
            exact .rests (.inr (.inl ⟨hbackoff, Bool.eq_false_iff.mpr hnext⟩))
        · simp only [hbackoff, decide_false, Bool.false_and, Bool.false_eq_true, if_false]
          by_cases hprobing : d.state = .probing
          · rw [if_pos hprobing]
            refine .rests (.inr (.inr ⟨.inl hprobing, ?_⟩))
            simpa [hprobing] using hexpired
          · rw [if_neg hprobing]
            refine move_active hsteady true ?_ fun hvalid => ?_
            · cases hs : d.state <;> simp_all [DhcpState.listens]
            · simpa [hvalid] using hexpired

/-! ## Messages -/

theorem be32_lt (bytes : List UInt8) : be32 bytes < 2 ^ 32 := by
  unfold be32
  match bytes with
  | [] => decide
  | [a] => have := a.toNat_lt; simp; omega
  | [a, b] => have := a.toNat_lt; have := b.toNat_lt; simp; omega
  | [a, b, c] => have := a.toNat_lt; have := b.toNat_lt; have := c.toNat_lt; simp; omega
  | a :: b :: c :: d :: _ =>
    have := a.toNat_lt
    have := b.toNat_lt
    have := c.toNat_lt
    have := d.toNat_lt
    simp
    omega

/-- The rule of the option loop: what every option keeps, the loop keeps. -/
theorem dhcpOptions_rule {P : DhcpOptions → Prop}
    (hstep : ∀ o o' code value, P o → dhcpOption o code value = some o' →
      P { o' with seen := code :: o.seen }) {o r : DhcpOptions} {bytes : List UInt8} (h : P o)
    (hread : dhcpOptions o bytes = some r) : P r := by
  induction o, bytes using dhcpOptions.induct with
  | case1 o => simp [dhcpOptions] at hread
  | case2 o rest ih =>
    rw [dhcpOptions] at hread
    exact ih h hread
  | case3 o rest =>
    rw [dhcpOptions] at hread
    cases hread
    exact h
  | case4 o code hzero hend =>
    rw [dhcpOptions] at hread
    · cases hread
    · exact hzero
    · exact hend
  | case5 o code len rest hzero hend hlong =>
    rw [dhcpOptions, if_pos hlong] at hread
    · cases hread
    · exact hzero
    · exact hend
  | case6 o code len rest hzero hend hfits hrefused =>
    rw [dhcpOptions, if_neg hfits, hrefused] at hread
    · cases hread
    · exact hzero
    · exact hend
  | case7 o code len rest hzero hend hfits o' htaken htwice =>
    rw [dhcpOptions, if_neg hfits, htaken] at hread
    · simp only [if_pos htwice] at hread
      cases hread
    · exact hzero
    · exact hend
  | case8 o code len rest hzero hend hfits o' htaken honce ih =>
    rw [dhcpOptions, if_neg hfits, htaken] at hread
    · simp only [if_neg honce] at hread
      exact ih (hstep o o' code _ h htaken) hread
    · exact hzero
    · exact hend

theorem server_dhcpOptions {o : DhcpOptions} {bytes : List UInt8}
    (hread : dhcpOptions {} bytes = some o) : o.server < 2 ^ 32 := by
  refine dhcpOptions_rule (P := fun o => o.server < 2 ^ 32) ?_ (by decide) hread
  intro o o' code value h htaken
  unfold dhcpOption at htaken
  simp only at htaken ⊢
  split at htaken <;> first
    | (split at htaken <;> first | (cases htaken; exact h) | (cases htaken; exact be32_lt value) | cases htaken)
    | (cases htaken; exact h)
    | cases htaken

/-- A message the client reads to the end of its options. -/
structure DhcpHeard (d : DhcpClient) (p : List UInt8) (o : DhcpOptions) : Prop where
  forClient : dhcpForClient d p = true
  listens : d.state.listens = true
  options : dhcpOptions {} (p.drop 240) = some o
  named : o.seen.contains 53 = true ∧ o.seen.contains 54 = true
  server : o.server ≠ 0 ∧ o.server / 2 ^ 24 < 224 ∧ o.server / 2 ^ 24 ≠ 127
  /-- The server that was chosen, or that granted the lease. -/
  chosen : d.state = .requesting ∨ d.state = .renewing → o.server = d.server.toNat

/-- What the checks of a grant have found. -/
structure DhcpGranted (d : DhcpClient) (ip : Nat) (o : DhcpOptions) (now : CoreTick) (g : DhcpGrant) :
    Prop where
  seen : o.seen.contains 1 = true ∧ o.seen.contains 51 = true
  lifetime : 4 ≤ o.lifetime ∧ g.lease.lifetime = min o.lifetime 1728000
  renewal : g.t1 = dhcpTimer o.t1 (g.lease.lifetime / 2) g.lease.lifetime
  rebinding : g.t2 = dhcpTimer o.t2 (g.lease.lifetime * 7 / 8) g.lease.lifetime
  timers : 0 < g.t1 ∧ g.t1 < g.t2 ∧ g.t2 < g.lease.lifetime
  fresh : (now - leaseBase d now).toNat < g.lease.lifetime * 1000
  address : ip ≠ 0 ∧ g.lease.address = ipv4Format (BitVec.ofNat 32 ip)
  same : d.state = .requesting → g.lease.address = d.lease.address
  netmask : g.lease.netmask = o.netmask
  valid : settingsValidate (leaseSettings g.lease) = .ok
  server : g.server = BitVec.ofNat 32 o.server

theorem granted_of_grant {ip : Nat} {o : DhcpOptions} {g : DhcpGrant} (h : dhcpGrant d ip o now = some g) :
    DhcpGranted d ip o now g := by
  unfold dhcpGrant at h
  split at h
  · cases h
  · rename_i hseen
    simp only at h
    split at h
    · cases h
    rename_i htimers
    split at h
    · cases h
    rename_i hfresh
    split at h
    · cases h
    rename_i hsame
    split at h
    · cases h
    · rename_i hvalid
      cases h
      simp only [not_or, not_not, Bool.and_eq_true, Nat.not_lt] at hseen htimers hfresh hvalid
      refine ⟨hseen.1, ⟨hseen.2.1, rfl⟩, rfl, rfl, ?_, ?_, ⟨hseen.2.2, rfl⟩, ?_, rfl, hvalid, rfl⟩
      · simp only
        omega
      · simpa using hfresh
      · intro hrequesting
        by_contra hother
        exact hsame ⟨hrequesting, hother⟩

/-- The ways of `gateway_dhcp_receive`. -/
inductive DhcpTakes (d : DhcpClient) (p : List UInt8) (now : CoreTick) : Int × DhcpClient → Prop where
  | refused : DhcpTakes d p now (-1, d)
  | expired (hvalid : d.valid = true) (hdue : due now d.expiresAt = true) :
      DhcpTakes d p now (-1, dhcpStep d now true)
  | refusal (o : DhcpOptions) (h : DhcpHeard d p o) (hstate : d.state ≠ .selecting) :
      DhcpTakes d p now
        (0, { dhcpInvalidate d with state := .backoff, nextSend := now + 1000, sendType := 0, error := 4 })
  | offer (o : DhcpOptions) (g : DhcpGrant) (h : DhcpHeard d p o) (hstate : d.state = .selecting)
      (hgranted : DhcpGranted d (be32 (p.drop 16)) o now g) :
      DhcpTakes d p now
        (0, { d with lease := g.lease, server := g.server, state := .requesting, haveRequest := false
                     sendType := 3, nextSend := now + 1000, retries := 0 })
  | acknowledged (o : DhcpOptions) (g : DhcpGrant) (h : DhcpHeard d p o) (hstate : d.state ≠ .selecting)
      (hahead : d.valid = true → due now d.expiresAt = false)
      (hgranted : DhcpGranted d (be32 (p.drop 16)) o now g) :
      DhcpTakes d p now (1, dhcpAcknowledge d g now)

/-- **What a message can do.** -/
theorem dhcpReceive_takes (d : DhcpClient) (p : List UInt8) (now : CoreTick) :
    DhcpTakes d p now (dhcpReceive d p now) := by
  unfold dhcpReceive
  split
  · exact .refused
  · rename_i hheader
    simp only [not_or, not_not] at hheader
    split
    · rename_i hexpired
      simp only [Bool.and_eq_true] at hexpired
      exact .expired hexpired.1 hexpired.2
    rename_i hahead
    split
    · exact .refused
    · rename_i o hoptions
      unfold dhcpAnswer
      split
      · exact .refused
      · rename_i hserver
        simp only [not_or, not_not, Bool.and_eq_true, Nat.not_le] at hserver
        split
        · exact .refused
        · rename_i hchosen
          have hheard : DhcpHeard d p o := by
            refine ⟨hheader.1, hheader.2, hoptions, hserver.1, hserver.2, fun hstate => ?_⟩
            by_contra hother
            exact hchosen ⟨hstate, hother⟩
          split
          · rename_i hrefusal
            exact .refusal o hheard hrefusal.2
          split
          · exact .refused
          split
          · exact .refused
          · rename_i g hgrant
            have hgranted := granted_of_grant hgrant
            split
            · rename_i hselecting
              exact .offer o g hheard hselecting hgranted
            · rename_i hselecting
              refine .acknowledged o g hheard hselecting (fun hvalid => ?_) hgranted
              simpa [hvalid] using hahead

end FourVrs.Network
