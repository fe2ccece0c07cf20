import FourVrs.Network.DhcpLease

/-!
# Offers and their times

An offer names a lifetime and may name the times of renewal and rebinding. The client cuts
the lifetime to twenty days, and puts a share of it for each time that is missing or is not
within it, one by one: the two times it then has need not be in the order of those it was
given. `TimersAgree` says for which offers they are.
-/

set_option autoImplicit false

namespace FourVrs.Network

open FourVrs.Core Config Lib

/-- A reply of the kind `type` that is in order but for its times. -/
structure ReplyInOrder (d : DhcpClient) (p : List UInt8) (o : DhcpOptions) (type : Nat) : Prop where
  forClient : dhcpForClient d p = true
  options : dhcpOptions {} (p.drop 240) = some o
  kind : o.type = type
  named : o.seen.contains 53 = true ∧ o.seen.contains 54 = true
  server : o.server ≠ 0 ∧ o.server / 2 ^ 24 < 224 ∧ o.server / 2 ^ 24 ≠ 127
  given : o.seen.contains 1 = true ∧ o.seen.contains 51 = true
  address : be32 (p.drop 16) ≠ 0
  settings : settingsValidate (leaseSettings
    { address := ipv4Format (BitVec.ofNat 32 (be32 (p.drop 16))), netmask := o.netmask
      gateway := o.gateway, dns := o.dns }) = .ok

/-- The times a server gives are consistent; one that is 0 is not given. -/
structure ConsistentTimes (o : DhcpOptions) : Prop where
  lifetime : 4 ≤ o.lifetime
  renewal : o.t1 < o.lifetime
  rebinding : o.t2 < o.lifetime
  order : o.t1 ≠ 0 → o.t2 ≠ 0 → o.t1 < o.t2

/-- The lifetime the client goes by. -/
def cutLifetime (o : DhcpOptions) : Nat := min o.lifetime 1728000

/-- The share that stands for a missing rebinding time is after the renewal time that is
    given, and the share that stands for a missing renewal time before the rebinding time
    that is. -/
def TimersAgree (o : DhcpOptions) : Prop :=
  ¬ (cutLifetime o * 7 / 8 ≤ o.t1 ∧ o.t1 < cutLifetime o ∧ (o.t2 = 0 ∨ cutLifetime o ≤ o.t2)) ∧
    ¬ (o.t1 = 0 ∧ 0 < o.t2 ∧ o.t2 ≤ cutLifetime o / 2)

instance (o : DhcpOptions) : Decidable (TimersAgree o) := inferInstanceAs (Decidable (_ ∧ _))

/-- The times of the client are in order exactly for these. -/
theorem dhcpTimer_order_iff {o : DhcpOptions} (h : ConsistentTimes o) :
    (0 < dhcpTimer o.t1 (cutLifetime o / 2) (cutLifetime o) ∧
      dhcpTimer o.t1 (cutLifetime o / 2) (cutLifetime o) <
        dhcpTimer o.t2 (cutLifetime o * 7 / 8) (cutLifetime o) ∧
      dhcpTimer o.t2 (cutLifetime o * 7 / 8) (cutLifetime o) < cutLifetime o) ↔ TimersAgree o := by
  obtain ⟨hlifetime, hrenewal, hrebinding, horder⟩ := h
  have hlong : 4 ≤ cutLifetime o := by
    unfold cutLifetime
    omega
  unfold dhcpTimer TimersAgree
  split
  · -- the renewal time is a share
    split <;> omega
  · split <;> omega

section Replies

variable {d : DhcpClient} {p : List UInt8} {o : DhcpOptions}

/-- What the checks of the times leave of a reply that is in order otherwise. -/
theorem dhcpGrant_isSome_iff {type : Nat} (now : CoreTick) (h : ReplyInOrder d p o type) (htimes : ConsistentTimes o)
    (hsame : d.state = .requesting → d.lease.address = ipv4Format (BitVec.ofNat 32 (be32 (p.drop 16)))) :
    (dhcpGrant d (be32 (p.drop 16)) o now).isSome = true ↔
      TimersAgree o ∧ (now - leaseBase d now).toNat < cutLifetime o * 1000 := by
  have hseen : ¬ (¬ (o.seen.contains 1 && o.seen.contains 51) = true ∨ o.lifetime < 4 ∨
      be32 (p.drop 16) = 0) := by
    have := htimes.lifetime
    simp only [h.given.1, h.given.2, Bool.and_self, not_true, false_or, not_or, Nat.not_lt]
    exact ⟨this, h.address⟩
  have hother : ¬ (d.state = .requesting ∧
      ipv4Format (BitVec.ofNat 32 (be32 (p.drop 16))) ≠ d.lease.address) :=
    fun hc => hc.2 (hsame hc.1).symm
  have hsettings := h.settings
  rw [← dhcpTimer_order_iff htimes]
  unfold dhcpGrant cutLifetime
  simp only [if_neg hseen, if_neg hother]
  generalize (now - leaseBase d now).toNat = elapsed
  split
  · simp only [Option.isSome_none, Bool.false_eq_true, false_iff]
    omega
  rename_i hfits
  split
  · simp only [Option.isSome_none, Bool.false_eq_true, false_iff]
    omega
  · rename_i hsoon
    have hvalid : ¬ settingsValidate (leaseSettings
        { address := ipv4Format (BitVec.ofNat 32 (be32 (p.drop 16))), netmask := o.netmask
          broadcast := ipv4Format
            (BitVec.ofNat 32 (be32 (p.drop 16)) ||| ~~~(ipv4Parse o.netmask).getD 0)
          gateway := o.gateway, dns := o.dns, lifetime := min o.lifetime 1728000 }) ≠ .ok := by
      simpa [leaseSettings] using hsettings
    simp only [if_neg hvalid, Option.isSome_some, true_iff]
    omega

/-- A reply that is in order comes to its checks. -/
theorem dhcpReceive_inOrder {type : Nat} (now : CoreTick) (h : ReplyInOrder d p o type)
    (hlistens : d.state.listens = true)
    (hvalid : d.valid = false)
    (hserver : d.state = .requesting ∨ d.state = .renewing → o.server = d.server.toNat)
    (htype : type = if d.state = .selecting then 2 else 5) :
    dhcpReceive d p now =
      match dhcpGrant d (be32 (p.drop 16)) o now with
      | none => (-1, d)
      | some g =>
          if d.state = .selecting then
            (0, { d with lease := g.lease, server := g.server, state := .requesting, haveRequest := false,
                         sendType := 3, nextSend := now + 1000, retries := 0 })
          else (1, dhcpAcknowledge d g now) := by
  have hheader : ¬ (¬ dhcpForClient d p = true ∨ ¬ d.state.listens = true) := by
    simp [h.forClient, hlistens]
  have hnamed : ¬ (¬ (o.seen.contains 53 && o.seen.contains 54) = true ∨ o.server = 0 ∨
      o.server / 2 ^ 24 ≥ 224 ∨ o.server / 2 ^ 24 = 127) := by
    simp only [h.named.1, h.named.2, Bool.and_self, not_true, false_or, not_or, Nat.not_le]
    exact h.server
  have hchosen : ¬ ((d.state = .requesting ∨ d.state = .renewing) ∧ o.server ≠ d.server.toNat) :=
    fun hc => hc.2 (hserver hc.1)
  have hrefusal : ¬ (o.type = 6 ∧ d.state ≠ .selecting) := by
    rintro ⟨hsix, hstate⟩
    rw [if_neg hstate, ← h.kind, hsix] at htype
    cases htype
  have hkind : ¬ (d.state = .selecting ∧ o.type ≠ 2 ∨ d.state ≠ .selecting ∧ o.type ≠ 5) := by
    rw [h.kind, htype]
    split <;> simp [*]
  have hahead : ¬ (d.valid && due now d.expiresAt) = true := by simp [hvalid]
  unfold dhcpReceive
  simp only [if_neg hheader, if_neg hahead, h.options]
  unfold dhcpAnswer
  cases dhcpGrant d (be32 (p.drop 16)) o now <;>
    simp only [if_neg hnamed, if_neg hchosen, if_neg hrefusal, if_neg hkind]

end Replies

/-- A selecting client takes the offer exactly when the times agree. -/
theorem offer_taken_iff {w : DhcpWatch} (hkept : w.Kept) (hstate : w.client.state = .selecting)
    {p : List UInt8} {o : DhcpOptions} (h : ReplyInOrder w.client p o 2) (htimes : ConsistentTimes o)
    (now : Nat) : (watchCall w (now, .receive p)).client.state = .requesting ↔ TimersAgree o := by
  have hvalid : w.client.valid = false :=
    (show w.client.valid = w.client.state.leased from hkept.steady).trans (by rw [hstate]; rfl)
  have hreceive := dhcpReceive_inOrder (tick now) h (by rw [hstate]; rfl) hvalid
    (fun hs => by rcases hs with hs | hs <;> rw [hstate] at hs <;> cases hs) (by rw [if_pos hstate])
  -- the lease counts from this very tick
  have hbase : leaseBase w.client (tick now) = tick now := by
    unfold leaseBase
    rw [if_neg (by simp [hkept.selecting hstate])]
  have hgrant := dhcpGrant_isSome_iff (tick now) h htimes
    (fun hs => by rw [hstate] at hs; cases hs)
  have hfresh : (tick now - leaseBase w.client (tick now)).toNat < cutLifetime o * 1000 := by
    have := htimes.lifetime
    rw [hbase, BitVec.sub_self]
    unfold cutLifetime
    show 0 < _
    omega
  rw [and_iff_left hfresh] at hgrant
  rw [← hgrant]
  show (dhcpReceive w.client p (tick now)).2.state = .requesting ↔ _
  rw [hreceive]
  cases dhcpGrant w.client (be32 (p.drop 16)) o (tick now) with
  | none | some g => simp [hstate]

/-- A requesting client takes the acknowledgement of the offer exactly when the times
    agree and the lease has not run out since it was asked for; its timers are in order. -/
theorem ack_taken_iff {w : DhcpWatch} (hkept : w.Kept) (hstate : w.client.state = .requesting)
    {p : List UInt8} {o : DhcpOptions} (h : ReplyInOrder w.client p o 5) (htimes : ConsistentTimes o)
    (hoffer : w.offered = some (o.server, be32 (p.drop 16))) (now : Nat) :
    ((DhcpCall.receive p).exec w.client (tick now)).1 = 1 ∧
        (∃ g, (watchCall w (now, .receive p)).granted = some g ∧
          LeaseTimers (watchCall w (now, .receive p)).client g) ↔
      TimersAgree o ∧ (tick now - leaseBase w.client (tick now)).toNat < cutLifetime o * 1000 := by
  have hvalid : w.client.valid = false :=
    (show w.client.valid = w.client.state.leased from hkept.steady).trans (by rw [hstate]; rfl)
  obtain ⟨offer, hoffered, hchosen⟩ := hkept.offered hstate
  obtain rfl := Option.some.inj (hoffered.symm.trans hoffer)
  have hreceive := dhcpReceive_inOrder (tick now) h (by rw [hstate]; rfl) hvalid
    (fun _ => hchosen.1.symm) (by rw [hstate]; rfl)
  rw [← dhcpGrant_isSome_iff (tick now) h htimes fun _ => hchosen.2.2]
  have hresult : ((DhcpCall.receive p).exec w.client (tick now)).1 = 1 ↔
      (dhcpGrant w.client (be32 (p.drop 16)) o (tick now)).isSome = true := by
    show (dhcpReceive w.client p (tick now)).1 = 1 ↔ _
    rw [hreceive]
    cases dhcpGrant w.client (be32 (p.drop 16)) o (tick now) with
    | none => simp
    | some g => simp [hstate]
  rw [hresult]
  refine ⟨And.left, fun hgranted => ⟨hgranted, ?_⟩⟩
  have hkept' := kept_watchCall hkept (now, .receive p)
  refine hkept'.timers (.inr ?_)
  show (dhcpReceive w.client p (tick now)).2.state = .probing
  rw [hreceive]
  obtain ⟨g, hg⟩ := Option.isSome_iff_exists.mp hgranted
  simp [hg, hstate, dhcpAcknowledge, hvalid]

/-- **Which consistent offers are usable.** A client that has come to select, by whatever
    calls, takes an offer that is in order and whose times are consistent exactly when
    `TimersAgree`; one that requests what it was offered takes the acknowledgement, with
    its timers in order, exactly when they do and it comes before the lease has run out. -/
theorem offerUsable_iff (start : Nat) (calls : List (Nat × DhcpCall)) (now : Nat) (p : List UInt8)
    (o : DhcpOptions) (htimes : ConsistentTimes o) :
    ((runDhcp start calls).client.state = .selecting → ReplyInOrder (runDhcp start calls).client p o 2 →
      ((watchCall (runDhcp start calls) (now, .receive p)).client.state = .requesting ↔ TimersAgree o)) ∧
    ((runDhcp start calls).client.state = .requesting → ReplyInOrder (runDhcp start calls).client p o 5 →
      (runDhcp start calls).offered = some (o.server, be32 (p.drop 16)) →
      (((DhcpCall.receive p).exec (runDhcp start calls).client (tick now)).1 = 1 ∧
          (∃ g, (watchCall (runDhcp start calls) (now, .receive p)).granted = some g ∧
            LeaseTimers (watchCall (runDhcp start calls) (now, .receive p)).client g) ↔
        TimersAgree o ∧
          (tick now - leaseBase (runDhcp start calls).client (tick now)).toNat < cutLifetime o * 1000)) := by
  have hkept := kept_runDhcp start calls
  exact ⟨fun hstate h => offer_taken_iff hkept hstate h htimes now,
    fun hstate h hoffer => ack_taken_iff hkept hstate h htimes hoffer now⟩

/-! ## Two offers -/

theorem dhcpOptions_messageOptions {p : List UInt8} (h : (dhcpOptions {} (p.drop 240)).isSome = true) :
    dhcpOptions {} (p.drop 240) = some (messageOptions p) := by
  obtain ⟨o, ho⟩ := Option.isSome_iff_exists.mp h
  rw [messageOptions, ho]
  rfl

/-- 192.168.1.100 from 192.168.1.1, with half the lifetime for the renewal and seven
    eighths for the rebinding. -/
def offerOf (lifetime : Nat) : List UInt8 :=
  dhcpReply 2 7 [2, 0, 0, 0, 0, 1] 0xC0A80164 0xC0A80101
    (leaseOptions lifetime ++ [58, 4] ++ put32 (lifetime / 2) ++ [59, 4] ++ put32 (lifetime * 7 / 8))

def selectingCalls : List (Nat × DhcpCall) := [(0, .start [2, 0, 0, 0, 0, 1] 7), (0, .step true)]

/-- Ten days. -/
theorem offerUsable_tenDays :
    (watchCall (runDhcp 0 selectingCalls) (10, .receive (offerOf 864000))).client.state = .requesting :=
  ((offerUsable_iff 0 selectingCalls 10 (offerOf 864000) (messageOptions (offerOf 864000))
    ⟨by decide +kernel, by decide +kernel, by decide +kernel, by decide +kernel⟩).1 (by decide +kernel)
      ⟨by decide +kernel, dhcpOptions_messageOptions (by decide +kernel), by decide +kernel,
        by decide +kernel, by decide +kernel, by decide +kernel, by decide +kernel, by decide +kernel⟩).mpr
    (by decide +kernel)

/-- Thirty-six days are cut to twenty; half of thirty-six is within them, but not before
    the share that stands for the rebinding time. -/
theorem offerUsable_thirtySixDays :
    ¬ ∀ (start : Nat) (calls : List (Nat × DhcpCall)) (now : Nat) (p : List UInt8) (o : DhcpOptions),
      (runDhcp start calls).client.state = .selecting → ReplyInOrder (runDhcp start calls).client p o 2 →
      ConsistentTimes o → 0 < o.t1 → 0 < o.t2 →
      (watchCall (runDhcp start calls) (now, .receive p)).client.state = .requesting := by
  intro h
  have hrefused := h 0 selectingCalls 10 (offerOf 3110400) (messageOptions (offerOf 3110400))
    (by decide +kernel)
    ⟨by decide +kernel, dhcpOptions_messageOptions (by decide +kernel), by decide +kernel,
      by decide +kernel, by decide +kernel, by decide +kernel, by decide +kernel, by decide +kernel⟩
    ⟨by decide +kernel, by decide +kernel, by decide +kernel, by decide +kernel⟩
    (by decide +kernel) (by decide +kernel)
  revert hrefused
  decide +kernel

end FourVrs.Network
