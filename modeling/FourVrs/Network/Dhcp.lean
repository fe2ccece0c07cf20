import FourVrs.Core.Deadline
import FourVrs.Network.Settings

/-!
# The DHCP client (`network/gateway_dhcp_client.c`)

One client for each interface: it selects an offer, requests and probes the address,
and renews the lease. Sending and receiving are the owner's. What a lease is good for is
`valid` and `expiresAt`: `Unexpired` says that they agree with the clock, and every
function of the client keeps them so.
-/

set_option autoImplicit false

namespace FourVrs.Network

open FourVrs.Core Config

/-- `gateway_dhcp_lease_t`. -/
structure DhcpLease where
  address : CText := []
  netmask : CText := []
  broadcast : CText := []
  gateway : CText := []
  dns : Fin 2 → CText := fun _ => []
  lifetime : Nat := 0
  deriving Inhabited

inductive DhcpState where
  | off | selecting | requesting | probing | bound | renewing | rebinding | backoff
  deriving DecidableEq, Repr, Inhabited

structure DhcpClient where
  state : DhcpState := .off
  lease : DhcpLease := {}
  mac : List UInt8 := List.replicate 6 0
  xid : BitVec 32 := 0
  server : BitVec 32 := 0
  requestedAt : CoreTick := 0
  haveRequest : Bool := false
  started : CoreTick := 0
  renewAt : CoreTick := 0
  rebindAt : CoreTick := 0
  expiresAt : CoreTick := 0
  nextSend : CoreTick := 0
  retries : Nat := 0
  sendType : Nat := 0
  valid : Bool := false
  changed : Bool := false
  probes : Nat := 0
  error : Nat := 0
  deriving Inhabited

/-! ## The functions of the client -/

def dhcpInvalidate (d : DhcpClient) : DhcpClient :=
  { d with changed := d.changed || d.valid, valid := false, haveRequest := false, lease := {} }

def dhcpStart (mac : List UInt8) (xid : BitVec 32) (now : CoreTick) : DhcpClient :=
  { mac := mac, xid := if xid = 0 then 1 else xid, state := .selecting, started := now, nextSend := now }

def dhcpStop (d : DhcpClient) : DhcpClient :=
  { dhcpInvalidate d with state := .off, sendType := 0, xid := d.xid + 1 }

def dhcpConflict (d : DhcpClient) (now : CoreTick) : DhcpClient :=
  { d with valid := false, changed := true, error := 2, sendType := 4, state := .backoff,
           nextSend := now + 10000 }

/-- The lease has run out. -/
def dhcpExpire (d : DhcpClient) (now : CoreTick) : DhcpClient :=
  if (d.valid || d.state = .probing) && due now d.expiresAt then
    { dhcpInvalidate d with state := .selecting, started := now, nextSend := now, retries := 0,
                            xid := d.xid + 1, error := 3 }
  else d

/-- The timers of a lease in force. -/
def dhcpRenew (d : DhcpClient) (now : CoreTick) : DhcpClient :=
  if d.valid && due now d.rebindAt && d.state ≠ .rebinding then
    let d := if d.state = .bound then { d with xid := d.xid + 1, started := now, haveRequest := false }
      else d
    { d with state := .rebinding, nextSend := now, retries := 0 }
  else if d.state = .bound && due now d.renewAt then
    { d with state := .renewing, started := now, haveRequest := false, nextSend := now, retries := 0,
             xid := d.xid + 1 }
  else d

/-- The next message, when it is time. -/
def dhcpSchedule (d : DhcpClient) (now : CoreTick) : DhcpClient :=
  if due now d.nextSend then
    let delay := if d.retries < 4 then 1000 * 2 ^ d.retries else 16000
    { d with sendType := if d.state = .selecting then 1 else 3,
             nextSend := now + BitVec.ofNat 32 delay + (d.xid &&& 255),
             retries := if d.retries < 4 then d.retries + 1 else d.retries }
  else d

/-- `gateway_dhcp_step` once the client is neither off, waiting nor probing. -/
def dhcpActive (d : DhcpClient) (now : CoreTick) : DhcpClient :=
  let d := dhcpRenew d now
  if d.state = .bound then d
  else if !d.valid && decide (30000 ≤ now - d.started) then
    { d with state := .backoff, nextSend := now + 10000, sendType := 0, error := 1 }
  else dhcpSchedule d now

/-- `gateway_dhcp_step`. -/
def dhcpStep (d : DhcpClient) (now : CoreTick) (link : Bool) : DhcpClient :=
  if d.state = .off then d
  else if !link then
    { dhcpInvalidate d with state := .backoff, nextSend := now + 1000, sendType := 0 }
  else
    let d := dhcpExpire d now
    if d.state = .backoff && !due now d.nextSend then d
    else
      let d := if d.state = .backoff then
          { dhcpInvalidate d with state := .selecting, started := now, retries := 0, xid := d.xid + 1 }
        else d
      if d.state = .probing then d else dhcpActive d now

/-- `gateway_dhcp_probed`. -/
def dhcpProbed (d : DhcpClient) (now : CoreTick) : Int × DhcpClient :=
  if d.state ≠ .probing then (-1, d)
  else if due now d.expiresAt then (-1, dhcpStep d now true)
  else (0, { d with state := .bound, valid := true, changed := true })

/-- What `gateway_dhcp_packet` does to the client when it makes a message. -/
def dhcpPacketMade (d : DhcpClient) (now : CoreTick) : DhcpClient :=
  let d := if d.sendType = 3 && !d.haveRequest then { d with requestedAt := now, haveRequest := true }
    else d
  { d with sendType := 0 }

/-! ## What is received -/

/-- The options of a message. -/
structure DhcpOptions where
  type : Nat := 0
  server : Nat := 0
  lifetime : Nat := 0
  t1 : Nat := 0
  t2 : Nat := 0
  netmask : CText := []
  gateway : CText := []
  dns : Fin 2 → CText := fun _ => []
  /-- The codes of the options met. -/
  seen : List UInt8 := []

def be32 (bytes : List UInt8) : Nat :=
  (bytes.take 4).foldl (fun n b => 256 * n + b.toNat) 0

def addressText (bytes : List UInt8) : CText := ipv4Format (BitVec.ofNat 32 (be32 bytes))

/-- One option; `none` refuses the message. -/
def dhcpOption (o : DhcpOptions) (code : UInt8) (value : List UInt8) : Option DhcpOptions :=
  let addresses := decide (value ≠ []) && decide (value.length % 4 = 0)
  match code.toNat with
  | 53 => if value.length = 1 then some { o with type := (value.headD 0).toNat } else none
  | 54 => if value.length = 4 then some { o with server := be32 value } else none
  | 1 => if value.length = 4 then some { o with netmask := addressText value } else none
  | 3 => if addresses then some { o with gateway := addressText value } else none
  | 6 =>
      if addresses then
        let second := if 8 ≤ value.length then addressText (value.drop 4) else o.dns 1
        some { o with dns := fun i => if i = 0 then addressText value else second }
      else none
  | 51 => if value.length = 4 then some { o with lifetime := be32 value } else none
  | 58 => if value.length = 4 then some { o with t1 := be32 value } else none
  | 59 => if value.length = 4 then some { o with t2 := be32 value } else none
  | 33 | 121 | 249 | 52 => none
  | _ => some o

/-- The codes that may come only once. -/
def dhcpSingle (code : UInt8) : Bool :=
  [53, 54, 1, 3, 6, 51, 58, 59].contains code

theorem length_drop_lt (code len : UInt8) (rest : List UInt8) (k : Nat) :
    (rest.drop k).length < (code :: len :: rest).length := by
  rw [List.length_drop, List.length_cons, List.length_cons]
  omega

/-- The option loop of `gateway_dhcp_receive`, to the end mark. -/
def dhcpOptions (o : DhcpOptions) (bytes : List UInt8) : Option DhcpOptions :=
  match bytes with
  | [] => none
  | 0 :: rest => dhcpOptions o rest
  | 255 :: _ => some o
  | [_] => none
  | code :: len :: rest =>
      if len.toNat > rest.length then none
      else
        match dhcpOption o code (rest.take len.toNat) with
        | none => none
        | some o' =>
            if dhcpSingle code && o.seen.contains code then none
            else dhcpOptions { o' with seen := code :: o.seen } (rest.drop len.toNat)
  termination_by bytes.length
  decreasing_by
    · exact Nat.lt_succ_self _
    · exact length_drop_lt code len rest len.toNat

/-- The header a reply to this client has. -/
def dhcpForClient (d : DhcpClient) (p : List UInt8) : Bool :=
  decide (241 ≤ p.length) && decide (p.length ≤ 1500) && p.take 3 = [2, 1, 6] &&
    decide (be32 (p.drop 4) = d.xid.toNat) && (p.drop 28).take 6 = d.mac.take 6 &&
    decide (be32 (p.drop 236) = 0x63825363)

def DhcpState.listens (state : DhcpState) : Bool :=
  match state with
  | .selecting | .requesting | .renewing | .rebinding => true
  | _ => false

/-- The lease an offer or an acknowledgement grants, with its times. -/
structure DhcpGrant where
  lease : DhcpLease
  server : BitVec 32
  t1 : Nat
  t2 : Nat

/-- The settings a lease is checked as. -/
def leaseSettings (lease : DhcpLease) : NetworkSettings where
  lan i :=
    if i = 0 then { address := lease.address, netmask := lease.netmask, gateway := lease.gateway }
    else { mode := .dhcpClient }
  dns := lease.dns

/-- A renewal time, or the share of the lifetime it stands for. -/
def dhcpTimer (given share lifetime : Nat) : Nat :=
  if given = 0 ∨ given ≥ lifetime then share else given

/-- `lease_base`: delayed replies do not extend the lease. -/
def leaseBase (d : DhcpClient) (now : CoreTick) : CoreTick :=
  if d.haveRequest then d.requestedAt else now

/-- The checks of `gateway_dhcp_receive` on what the options grant. -/
def dhcpGrant (d : DhcpClient) (ip : Nat) (o : DhcpOptions) (now : CoreTick) : Option DhcpGrant :=
  if ¬ (o.seen.contains 1 && o.seen.contains 51) ∨ o.lifetime < 4 ∨ ip = 0 then none
  else
    let lifetime := min o.lifetime 1728000
    let t1 := dhcpTimer o.t1 (lifetime / 2) lifetime
    let t2 := dhcpTimer o.t2 (lifetime * 7 / 8) lifetime
    let address := ipv4Format (BitVec.ofNat 32 ip)
    let mask := ((ipv4Parse o.netmask).getD 0)
    let lease : DhcpLease :=
      { address := address, netmask := o.netmask, gateway := o.gateway, dns := o.dns, lifetime := lifetime,
        broadcast := ipv4Format (BitVec.ofNat 32 ip ||| ~~~mask) }
    if t1 = 0 ∨ t1 ≥ t2 ∨ t2 ≥ lifetime then none
    else if (now - leaseBase d now).toNat ≥ lifetime * 1000 then none
    else if d.state = .requesting ∧ address ≠ d.lease.address then none
    else if settingsValidate (leaseSettings lease) ≠ .ok then none
    else some { lease := lease, server := BitVec.ofNat 32 o.server, t1 := t1, t2 := t2 }

/-- What an acknowledgement makes of the client. -/
def dhcpAcknowledge (d : DhcpClient) (g : DhcpGrant) (now : CoreTick) : DhcpClient :=
  let base := leaseBase d now
  let d :=
    if d.valid ∧ d.lease.address = g.lease.address ∧ d.lease.netmask = g.lease.netmask then
      { d with state := .bound }
    else { d with state := .probing, valid := false, probes := 0, nextSend := now }
  { d with changed := true, lease := g.lease, server := g.server, sendType := 0, error := 0,
           renewAt := base + BitVec.ofNat 32 (g.t1 * 1000),
           rebindAt := base + BitVec.ofNat 32 (g.t2 * 1000),
           expiresAt := base + BitVec.ofNat 32 (g.lease.lifetime * 1000) }

/-- `gateway_dhcp_receive` once the options are read. -/
def dhcpAnswer (d : DhcpClient) (ip : Nat) (o : DhcpOptions) (now : CoreTick) : Int × DhcpClient :=
  if ¬ (o.seen.contains 53 && o.seen.contains 54) ∨ o.server = 0 ∨ o.server / 2 ^ 24 ≥ 224 ∨
      o.server / 2 ^ 24 = 127 then (-1, d)
  else if (d.state = .requesting ∨ d.state = .renewing) ∧ o.server ≠ d.server.toNat then (-1, d)
  else if o.type = 6 ∧ d.state ≠ .selecting then
    (0, { dhcpInvalidate d with state := .backoff, nextSend := now + 1000, sendType := 0, error := 4 })
  else if (d.state = .selecting ∧ o.type ≠ 2) ∨ (d.state ≠ .selecting ∧ o.type ≠ 5) then (-1, d)
  else
    match dhcpGrant d ip o now with
    | none => (-1, d)
    | some g =>
        if d.state = .selecting then
          (0, { d with lease := g.lease, server := g.server, state := .requesting, haveRequest := false,
                       sendType := 3, nextSend := now + 1000, retries := 0 })
        else (1, dhcpAcknowledge d g now)

/-- `gateway_dhcp_receive`. -/
def dhcpReceive (d : DhcpClient) (p : List UInt8) (now : CoreTick) : Int × DhcpClient :=
  if ¬ dhcpForClient d p ∨ ¬ d.state.listens then (-1, d)
  else if d.valid && due now d.expiresAt then (-1, dhcpStep d now true)
  else
    match dhcpOptions {} (p.drop 240) with
    | none => (-1, d)
    | some o => dhcpAnswer d (be32 (p.drop 16)) o now

/-! ## Leases in force -/

/-- A lease in force has not run out, and a client that is off has none. -/
structure Unexpired (d : DhcpClient) (now : CoreTick) : Prop where
  ahead : d.valid = true → due now d.expiresAt = false
  off : d.state = .off → d.valid = false

/-- What holds of a client at any tick. -/
def OffWithout (d : DhcpClient) : Prop := d.state = .off → d.valid = false

variable {d : DhcpClient}

theorem unexpired_of_invalid (h : d.valid = false) (now : CoreTick) :
    Unexpired d now where
  ahead := by simp [h]
  off := fun _ => h

theorem unexpired_stop (d : DhcpClient) (now : CoreTick) : Unexpired (dhcpStop d) now :=
  unexpired_of_invalid rfl now

theorem unexpired_conflict (d : DhcpClient) (now : CoreTick) : Unexpired (dhcpConflict d now) now :=
  unexpired_of_invalid rfl now

variable {now : CoreTick}

/-- The timers touch neither the lease nor its end, and turn nothing off. -/
theorem unexpired_active (h : Unexpired d now) (hstate : d.state ≠ .off) : Unexpired (dhcpActive d now) now := by
  have hrenew : (dhcpRenew d now).valid = d.valid ∧ (dhcpRenew d now).expiresAt = d.expiresAt ∧
      (dhcpRenew d now).state ≠ .off := by
    unfold dhcpRenew
    split
    · split <;> simp
    · split
      · simp
      · exact ⟨rfl, rfl, hstate⟩
  obtain ⟨hvalid, hexpires, hon⟩ := hrenew
  have hrenewed : Unexpired (dhcpRenew d now) now := by
    constructor
    · rw [hvalid, hexpires]
      exact h.ahead
    · intro hoff
      exact absurd hoff hon
  unfold dhcpActive
  dsimp only
  split
  · exact hrenewed
  split
  · constructor
    · exact hrenewed.ahead
    · intro hoff
      simp at hoff
  · unfold dhcpSchedule
    split
    · exact ⟨hrenewed.ahead, hrenewed.off⟩
    · exact hrenewed

theorem unexpired_expire (h : OffWithout d) :
    Unexpired (dhcpExpire d now) now := by
  unfold dhcpExpire
  split
  · exact unexpired_of_invalid rfl now
  · rename_i hnot
    constructor
    · intro hvalid
      simpa [hvalid] using hnot
    · exact h

theorem dhcpExpire_state (h : d.state ≠ .off) :
    (dhcpExpire d now).state ≠ .off := by
  unfold dhcpExpire
  split
  · simp
  · exact h

/-- A step leaves no expired lease. -/
theorem unexpired_step (h : OffWithout d) (now : CoreTick) (link : Bool) :
    Unexpired (dhcpStep d now link) now := by
  unfold dhcpStep
  split
  · rename_i hstate
    exact unexpired_of_invalid (h hstate) now
  · rename_i hon
    have hexpired : Unexpired (dhcpExpire d now) now := unexpired_expire h
    split
    · exact unexpired_of_invalid rfl now
    · dsimp only
      split
      · exact hexpired
      split
      · split
        · exact unexpired_of_invalid rfl now
        · exact unexpired_active (unexpired_of_invalid rfl now) (by simp)
      · split
        · exact hexpired
        · exact unexpired_active hexpired (dhcpExpire_state hon)

theorem unexpired_probed (h : Unexpired d now) :
    Unexpired (dhcpProbed d now).2 now := by
  unfold dhcpProbed
  split
  · exact h
  split
  · exact unexpired_step h.off now true
  · rename_i hnot
    constructor
    · intro _
      simpa using hnot
    · intro hoff
      simp at hoff

theorem unexpired_packetMade (h : Unexpired d now) (at' : CoreTick) :
    Unexpired (dhcpPacketMade d at') now := by
  unfold dhcpPacketMade
  dsimp only
  split
  · exact ⟨h.ahead, h.off⟩
  · exact ⟨h.ahead, h.off⟩

/-- Leases are cut to twenty days, so that their end stays ahead of the tick they are
    granted at. -/
theorem due_grant {now base : CoreTick} {lifetime : Nat} (hmax : lifetime ≤ 1728000)
    (hahead : (now - base).toNat < lifetime * 1000) :
    due now (base + BitVec.ofNat 32 (lifetime * 1000)) = false := by
  have hword : lifetime * 1000 < 2 ^ 32 := by omega
  unfold due coreTickHalfRange
  rw [decide_eq_false_iff_not, BitVec.not_lt, BitVec.le_def]
  rw [BitVec.toNat_sub] at hahead
  simp only [BitVec.toNat_sub, BitVec.toNat_add, BitVec.toNat_ofNat, Nat.mod_eq_of_lt hword]
  omega

theorem unexpired_acknowledge {ip : Nat} {o : DhcpOptions} {g : DhcpGrant}
    (hg : dhcpGrant d ip o now = some g) : Unexpired (dhcpAcknowledge d g now) now := by
  have hlease : g.lease.lifetime ≤ 1728000 ∧
      (now - leaseBase d now).toNat < g.lease.lifetime * 1000 := by
    unfold dhcpGrant at hg
    split at hg
    · simp at hg
    · dsimp only at hg
      split at hg
      · simp at hg
      split at hg
      · simp at hg
      rename_i hlate
      split at hg
      · simp at hg
      split at hg
      · simp at hg
      · obtain rfl := Option.some.inj hg
        exact ⟨min_le_right _ _, not_le.1 hlate⟩
  unfold dhcpAcknowledge
  dsimp only
  constructor
  · intro _
    exact due_grant hlease.1 hlease.2
  · intro hoff
    split at hoff <;> simp at hoff

theorem unexpired_receive (h : Unexpired d now) (p : List UInt8) :
    Unexpired (dhcpReceive d p now).2 now := by
  unfold dhcpReceive
  split
  · exact h
  split
  · exact unexpired_step h.off now true
  split
  · exact h
  · unfold dhcpAnswer
    split
    · exact h
    split
    · exact h
    split
    · exact unexpired_of_invalid rfl now
    split
    · exact h
    split
    · exact h
    rename_i g hg
    split
    · constructor
      · exact h.ahead
      · intro hoff
        simp at hoff
    · exact unexpired_acknowledge hg

end FourVrs.Network
