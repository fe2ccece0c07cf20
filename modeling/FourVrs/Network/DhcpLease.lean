import FourVrs.Lib.Runs
import FourVrs.Network.Addresses
import FourVrs.Network.DhcpMoves
import FourVrs.Network.DhcpWire

/-!
# Leases of the DHCP client

A run of the client is a list of its calls with their times, which count without end; the
ticks the client is given wrap. `DhcpWatch` remembers beside the client what the lease is
about: when the first REQUEST of the exchange was built, what was offered, and what the
last acknowledgement granted. `Kept` holds at any times; how long a lease is used
(`Current`) needs steps that do not come half the range of the ticks apart.
-/

set_option autoImplicit false

namespace FourVrs.Network

open FourVrs.Core Config Lib

/-! ## Runs -/

inductive DhcpCall where
  | start (mac : List UInt8) (xid : BitVec 32)
  | stop
  | step (link : Bool)
  | receive (p : List UInt8)
  | conflict
  | probed
  | packet (cap : Nat)

/-- A call, with 0 for the result of a function that has none. -/
def DhcpCall.exec (call : DhcpCall) (d : DhcpClient) (now : CoreTick) : Int × DhcpClient :=
  match call with
  | .start mac xid => (0, dhcpStart mac xid now)
  | .stop => (0, dhcpStop d)
  | .step link => (0, dhcpStep d now link)
  | .receive p => dhcpReceive d p now
  | .conflict => (0, dhcpConflict d now)
  | .probed => dhcpProbed d now
  | .packet cap => (0, (dhcpPacket d cap now).2)

/-- The options of a message. -/
def messageOptions (p : List UInt8) : DhcpOptions := (dhcpOptions {} (p.drop 240)).getD {}

/-- What an acknowledgement has granted, from `base` on. -/
structure LeaseGrant where
  base : Nat
  lifetime : Nat
  server : Nat

/-- Twenty days at most, in milliseconds. -/
def LeaseGrant.term (g : LeaseGrant) : Nat := min g.lifetime 1728000 * 1000

structure DhcpWatch where
  client : DhcpClient := {}
  now : Nat
  /-- The last start or step. -/
  stepped : Nat
  /-- The first REQUEST built with the transaction id. -/
  asked : Option Nat := none
  /-- The server and the address of the offer that was taken. -/
  offered : Option (Nat × Nat) := none
  granted : Option LeaseGrant := none

/-- Requests count anew with a new transaction id. -/
def askedWith (asked : Option Nat) (d d' : DhcpClient) : Option Nat :=
  if d'.xid = d.xid then asked else none

/-- A REQUEST is built when one is to be sent and there is room for it. -/
def askedAfter (w : DhcpWatch) (call : DhcpCall) (d' : DhcpClient) (now : Nat) : Option Nat :=
  match call with
  | .start _ _ => none
  | .packet cap =>
      if w.client.sendType = 3 ∧ 300 ≤ cap then w.asked.or (some now) else w.asked
  | _ => askedWith w.asked w.client d'

/-- The grant of an acknowledgement: it counts from the first REQUEST, or from now. -/
def grantAfter (w : DhcpWatch) (call : DhcpCall) (result : Int) (now : Nat) : Option LeaseGrant :=
  match call with
  | .receive p =>
      if result = 1 then
        some { base := w.asked.getD now, lifetime := (messageOptions p).lifetime
               server := (messageOptions p).server }
      else w.granted
  | _ => w.granted

def offerAfter (w : DhcpWatch) (call : DhcpCall) (result : Int) : Option (Nat × Nat) :=
  match call with
  | .receive p =>
      if result = 0 ∧ w.client.state = .selecting then some ((messageOptions p).server, be32 (p.drop 16))
      else w.offered
  | _ => w.offered

def steppedAfter (w : DhcpWatch) (call : DhcpCall) (now : Nat) : Nat :=
  match call with
  | .start _ _ | .step _ => now
  | _ => w.stepped

def watchCall (w : DhcpWatch) (c : Nat × DhcpCall) : DhcpWatch :=
  let r := c.2.exec w.client (tick c.1)
  { client := r.2, now := c.1, stepped := steppedAfter w c.2 c.1, asked := askedAfter w c.2 r.2 c.1
    offered := offerAfter w c.2 r.1, granted := grantAfter w c.2 r.1 c.1 }

/-- The client after a run, which begins with one that is off. -/
def runDhcp (start : Nat) (calls : List (Nat × DhcpCall)) : DhcpWatch :=
  calls.foldl watchCall { now := start, stepped := start }

/-- Less than half the range of the ticks lies between a call and the next. -/
def Closely (w : DhcpWatch) (c : Nat × DhcpCall) : Prop := w.now ≤ c.1 ∧ c.1 < w.now + 2 ^ 31

/-- And between a step, or the start, and every call up to the next one. -/
def InTime (w : DhcpWatch) (c : Nat × DhcpCall) : Prop := w.now ≤ c.1 ∧ c.1 < w.stepped + 2 ^ 31

instance (w : DhcpWatch) (c : Nat × DhcpCall) : Decidable (Closely w c) :=
  inferInstanceAs (Decidable (_ ∧ _))

instance (w : DhcpWatch) (c : Nat × DhcpCall) : Decidable (InTime w c) :=
  inferInstanceAs (Decidable (_ ∧ _))

/-! ## What holds at any times -/

/-- The timers of a lease, told from its base. -/
structure LeaseTimers (d : DhcpClient) (g : LeaseGrant) : Prop where
  renewal : (d.renewAt - tick g.base).toNat < (d.rebindAt - tick g.base).toNat
  rebinding : (d.rebindAt - tick g.base).toNat < (d.expiresAt - tick g.base).toNat
  half : (d.expiresAt - tick g.base).toNat < 2 ^ 31
  expires : d.expiresAt = tick (g.base + g.term)
  server : d.server.toNat = g.server

/-- The first REQUEST is remembered. -/
def RecallsRequest (d : DhcpClient) (asked : Option Nat) : Prop :=
  if d.haveRequest then asked.map tick = some d.requestedAt else asked = none

/-- The offer the client asks for. -/
def Chosen (d : DhcpClient) (offer : Nat × Nat) : Prop :=
  d.server.toNat = offer.1 ∧ offer.2 < 2 ^ 32 ∧ d.lease.address = ipv4Format (BitVec.ofNat 32 offer.2)

structure Kept (d : DhcpClient) (asked : Option Nat) (offered : Option (Nat × Nat))
    (granted : Option LeaseGrant) : Prop where
  steady : Steady d
  asks : d.sendType = 3 → d.state.listens = true ∧ d.state ≠ .selecting
  remembers : d.state.listens = true → RecallsRequest d asked
  selecting : d.state = .selecting → d.haveRequest = false
  offered : d.state = .requesting → ∃ offer, offered = some offer ∧ Chosen d offer
  timers : d.valid = true ∨ d.state = .probing → ∃ g, granted = some g ∧ LeaseTimers d g

/-- A client that neither uses an address nor asks for one. -/
theorem kept_idle {d : DhcpClient} (hvalid : d.valid = false)
    (hstate : d.state = .off ∨ d.state = .backoff) (hsend : d.sendType ≠ 3) (asked : Option Nat)
    (offered : Option (Nat × Nat)) (granted : Option LeaseGrant) : Kept d asked offered granted where
  steady := by
    unfold Steady
    rcases hstate with h | h <;> rw [hvalid, h] <;> rfl
  asks := fun h => absurd h hsend
  remembers := fun h => by rcases hstate with hs | hs <;> rw [hs] at h <;> cases h
  selecting := fun h => by rcases hstate with hs | hs <;> rw [hs] at h <;> cases h
  offered := fun h => by rcases hstate with hs | hs <;> rw [hs] at h <;> cases h
  timers := fun h => by
    rcases h with h | h
    · exact absurd (hvalid.symm.trans h) (by simp)
    · rcases hstate with hs | hs <;> rw [hs] at h <;> cases h

theorem xid_ne (xid : BitVec 32) : xid + 1 ≠ xid := by
  intro h
  have hnat := congrArg BitVec.toNat h
  rw [BitVec.toNat_add, show (1 : BitVec 32).toNat = 1 from rfl] at hnat
  omega

theorem askedWith_same {d d' : DhcpClient} (h : d'.xid = d.xid) (asked : Option Nat) :
    askedWith asked d d' = asked := if_pos h

theorem askedWith_next {d d' : DhcpClient} (h : d'.xid = d.xid + 1) (asked : Option Nat) :
    askedWith asked d d' = none := if_neg (h ▸ xid_ne d.xid)

section Step

variable {d d' : DhcpClient} {asked asked' : Option Nat} {offered : Option (Nat × Nat)}
  {granted : Option LeaseGrant}

theorem kept_move (h : Kept d asked offered granted) {now : CoreTick} {link : Bool}
    (hmove : DhcpMove d now link d') (hsame : d'.xid = d.xid → asked' = asked)
    (hnext : d'.xid = d.xid + 1 → asked' = none) : Kept d' asked' offered granted := by
  cases hmove with
  | rests =>
    obtain rfl := hsame rfl
    exact h
  | unlinked hon hlink => exact kept_idle rfl (.inr rfl) (by simp) _ _ _
  | restarts nextSend retries error hcause =>
    -- nothing has been asked since the new exchange began
    obtain rfl := hnext rfl
    exact
      { steady := rfl
        asks := fun hsend => by cases hsend
        remembers := fun _ => rfl
        selecting := fun _ => rfl
        offered := fun hstate => by cases hstate
        timers := fun hcase => by rcases hcase with hcase | hcase <;> cases hcase }
  | gaveUp hstate hlate =>
    refine kept_idle ?_ (.inr rfl) (by simp) _ _ _
    have hsteady : d.valid = d.state.leased := h.steady
    rcases hstate with hs | hs <;> rw [hs] at hsteady <;> exact hsteady
  | prolongs state nextSend retries hbound hstate hahead =>
    obtain rfl := hnext rfl
    have hvalid : d.valid = true := (show d.valid = d.state.leased from h.steady).trans (by rw [hbound]; rfl)
    obtain ⟨g, hg, htimers⟩ := h.timers (.inl hvalid)
    have hnot : state ≠ .selecting ∧ state ≠ .requesting ∧ state.listens = true ∧ state.leased = true := by
      rcases hstate with rfl | rfl <;> simp [DhcpState.listens, DhcpState.leased]
    exact
      { steady := hvalid.trans hnot.2.2.2.symm
        asks := fun _ => ⟨hnot.2.2.1, hnot.1⟩
        remembers := fun _ => rfl
        selecting := fun hs => absurd hs hnot.1
        offered := fun hs => absurd hs hnot.2.1
        timers := fun _ => ⟨g, hg, htimers.renewal, htimers.rebinding, htimers.half, htimers.expires,
          htimers.server⟩ }
  -- the state is new and the lease is not, so its timers stay
  | rebinds nextSend retries hrenewing hahead =>
    have hvalid : d.valid = true :=
      (show d.valid = d.state.leased from h.steady).trans (by rw [hrenewing]; rfl)
    obtain ⟨g, hg, htimers⟩ := h.timers (.inl hvalid)
    have hremembers := h.remembers (by rw [hrenewing]; rfl)
    obtain rfl := hsame rfl
    exact
      { steady := hvalid
        asks := fun _ => ⟨rfl, by simp⟩
        remembers := fun _ => hremembers
        selecting := fun hs => by cases hs
        offered := fun hs => by cases hs
        timers := fun _ => ⟨g, hg, htimers.renewal, htimers.rebinding, htimers.half, htimers.expires,
          htimers.server⟩ }
  | waits sendType nextSend retries hlistens hsend hahead hearly =>
    obtain rfl := hsame rfl
    refine
      { steady := h.steady
        asks := fun hthree => ⟨hlistens, ?_⟩
        remembers := h.remembers
        selecting := h.selecting
        offered := h.offered
        timers := fun hcase => ?_ }
    · rcases hsend with rfl | rfl
      · exact (h.asks hthree).2
      · intro hs
        simp only at hs hthree
        rw [if_pos hs] at hthree
        cases hthree
    · obtain ⟨g, hg, htimers⟩ := h.timers hcase
      exact ⟨g, hg, htimers.renewal, htimers.rebinding, htimers.half, htimers.expires, htimers.server⟩

/-- The base of an acknowledgement is the first REQUEST, or the tick it comes at. -/
theorem leaseBase_asked (hremembers : RecallsRequest d asked) (now : Nat) :
    leaseBase d (tick now) = tick (asked.getD now) := by
  unfold RecallsRequest at hremembers
  unfold leaseBase
  split at hremembers
  · rename_i hhave
    obtain ⟨r, rfl, hr⟩ := Option.map_eq_some_iff.mp hremembers
    rw [if_pos hhave]
    exact hr.symm
  · rename_i hnone
    rw [if_neg hnone, hremembers]
    rfl

theorem toNat_tick_sub (base : Nat) {ms : Nat} (h : ms < 2 ^ 32) :
    (tick (base + ms) - tick base).toNat = ms := by
  unfold tick
  simp only [BitVec.toNat_sub, BitVec.toNat_ofNat]
  omega

/-- What an acknowledgement makes of the timers. -/
theorem timers_acknowledge {o : DhcpOptions} {g : DhcpGrant} {ip now : Nat}
    (hremembers : RecallsRequest d asked) (hg : DhcpGranted d ip o (tick now) g) (hserver : o.server < 2 ^ 32) :
    LeaseTimers (dhcpAcknowledge d g (tick now))
      { base := asked.getD now, lifetime := o.lifetime, server := o.server } := by
  have hbase := leaseBase_asked hremembers now
  have hlifetime : g.lease.lifetime ≤ 1728000 := hg.lifetime.2 ▸ Nat.min_le_right _ _
  obtain ⟨-, htimers, hends⟩ := hg.timers
  have hrenew : (dhcpAcknowledge d g (tick now)).renewAt = tick (asked.getD now + g.t1 * 1000) := by
    rw [← tick_add, ← hbase]
    rfl
  have hrebind : (dhcpAcknowledge d g (tick now)).rebindAt = tick (asked.getD now + g.t2 * 1000) := by
    rw [← tick_add, ← hbase]
    rfl
  have hexpires : (dhcpAcknowledge d g (tick now)).expiresAt =
      tick (asked.getD now + g.lease.lifetime * 1000) := by
    rw [← tick_add, ← hbase]
    rfl
  refine ⟨?_, ?_, ?_, ?_, ?_⟩
  · rw [hrenew, hrebind, toNat_tick_sub _ (by omega), toNat_tick_sub _ (by omega)]
    omega
  · rw [hrebind, hexpires, toNat_tick_sub _ (by omega), toNat_tick_sub _ (by omega)]
    omega
  · rw [hexpires, toNat_tick_sub _ (by omega)]
    omega
  · rw [hexpires, hg.lifetime.2]
    rfl
  · show g.server.toNat = o.server
    rw [hg.server, BitVec.toNat_ofNat, Nat.mod_eq_of_lt hserver]

theorem dhcpAcknowledge_xid (d : DhcpClient) (g : DhcpGrant) (now : CoreTick) :
    (dhcpAcknowledge d g now).xid = d.xid := by
  unfold dhcpAcknowledge
  simp only
  split <;> rfl

theorem dhcpAcknowledge_state (d : DhcpClient) (g : DhcpGrant) (now : CoreTick) :
    (dhcpAcknowledge d g now).state = .bound ∧ (dhcpAcknowledge d g now).valid = true ∧ d.valid = true ∧
        d.lease.address = g.lease.address ∧ d.lease.netmask = g.lease.netmask ∨
      (dhcpAcknowledge d g now).state = .probing ∧ (dhcpAcknowledge d g now).valid = false := by
  unfold dhcpAcknowledge
  simp only
  split
  · rename_i hsame
    exact .inl ⟨rfl, hsame.1, hsame⟩
  · exact .inr ⟨rfl, rfl⟩

end Step

section Calls

variable {d : DhcpClient} {asked : Option Nat} {offered : Option (Nat × Nat)}
  {granted : Option LeaseGrant}

theorem DhcpHeard.messageOptions {p : List UInt8} {o : DhcpOptions} (h : DhcpHeard d p o) :
    messageOptions p = o := by
  unfold FourVrs.Network.messageOptions
  rw [h.options]
  rfl

theorem DhcpHeard.server_lt {p : List UInt8} {o : DhcpOptions} (h : DhcpHeard d p o) :
    o.server < 2 ^ 32 :=
  server_dhcpOptions h.options

theorem kept_receive (h : Kept d asked offered granted) (p : List UInt8) (now : Nat)
    {r : Int × DhcpClient} (htakes : DhcpTakes d p (tick now) r) {asked' : Option Nat}
    (hsame : r.2.xid = d.xid → asked' = asked) (hnext : r.2.xid = d.xid + 1 → asked' = none) :
    Kept r.2 asked'
      (if r.1 = 0 ∧ d.state = .selecting then some ((messageOptions p).server, be32 (p.drop 16))
        else offered)
      (if r.1 = 1 then
        some { base := asked.getD now, lifetime := (messageOptions p).lifetime
               server := (messageOptions p).server }
      else granted) := by
  cases htakes with
  | refused =>
    obtain rfl := hsame rfl
    exact h
  | expired hvalid hdue =>
    exact kept_move h (dhcpStep_moves h.steady (tick now) true) hsame hnext
  | refusal o hheard hstate => exact kept_idle rfl (.inr rfl) (by simp) _ _ _
  -- an offer comes before the first REQUEST, so nothing has been asked yet
  | offer o g hheard hstate hgranted =>
    have hvalid : d.valid = false := (show d.valid = d.state.leased from h.steady).trans (by rw [hstate]; rfl)
    have hasked : asked = none := by
      have hremembers := h.remembers hheard.listens
      simpa [RecallsRequest, h.selecting hstate] using hremembers
    obtain rfl := hsame rfl
    simp only [true_and, if_pos hstate, hheard.messageOptions, show ¬ (0 : Int) = 1 by decide, if_false]
    exact
      { steady := hvalid
        asks := fun _ => ⟨rfl, by simp⟩
        remembers := fun _ => hasked
        selecting := fun hs => by cases hs
        offered := fun _ => ⟨_, rfl, by
          show g.server.toNat = o.server
          rw [hgranted.server, BitVec.toNat_ofNat, Nat.mod_eq_of_lt hheard.server_lt], be32_lt _,
          hgranted.address.2⟩
        timers := fun hcase => by
          rcases hcase with hcase | hcase
          · exact absurd (hvalid.symm.trans hcase) (by simp)
          · cases hcase }
  | acknowledged o g hheard hstate hahead hgranted =>
    have htimers := timers_acknowledge (h.remembers hheard.listens) hgranted hheard.server_lt
    obtain rfl := hsame (dhcpAcknowledge_xid d g _)
    simp only [if_false, if_true, hheard.messageOptions,
      show ¬ ((1 : Int) = 0 ∧ d.state = .selecting) from fun h => absurd h.1 (by decide)]
    have hcases := dhcpAcknowledge_state d g (tick now)
    have hnot : (dhcpAcknowledge d g (tick now)).state ≠ .selecting ∧
        (dhcpAcknowledge d g (tick now)).state ≠ .requesting ∧
        (dhcpAcknowledge d g (tick now)).state.listens = false := by
      rcases hcases with hc | hc <;> rw [hc.1] <;> simp [DhcpState.listens]
    exact
      { steady := by
          unfold Steady
          rcases hcases with hc | hc
          · rw [hc.1, hc.2.1]
            rfl
          · rw [hc.1, hc.2]
            rfl
        asks := fun hsend => by cases hsend
        remembers := fun hlistens => absurd hlistens (by simp [hnot.2.2])
        selecting := fun hs => absurd hs hnot.1
        offered := fun hs => absurd hs hnot.2.1
        timers := fun _ => ⟨_, rfl, htimers⟩ }

theorem kept_packet (h : Kept d asked offered granted) (cap now : Nat) :
    Kept (dhcpPacket d cap (tick now)).2
      (if d.sendType = 3 ∧ 300 ≤ cap then asked.or (some now) else asked) offered granted := by
  unfold dhcpPacket
  by_cases hnone : d.sendType = 0 ∨ cap < 300
  · rw [if_pos hnone, if_neg (by omega)]
    exact h
  · simp only [not_or, Nat.not_lt] at hnone
    rw [if_neg (by omega)]
    have hmade : ∀ requestedAt haveRequest asked',
        (d.state.listens = true →
          RecallsRequest { d with requestedAt := requestedAt, haveRequest := haveRequest } asked') →
        (d.state = .selecting → haveRequest = false) →
        Kept { d with requestedAt := requestedAt, haveRequest := haveRequest, sendType := 0 } asked'
          offered granted := by
      intro requestedAt haveRequest asked' hremembers hselecting
      refine ⟨h.steady, (fun hsend => by cases hsend), hremembers, hselecting, h.offered, fun hcase => ?_⟩
      obtain ⟨g, hg, htimers⟩ := h.timers hcase
      exact ⟨g, hg, htimers.renewal, htimers.rebinding, htimers.half, htimers.expires, htimers.server⟩
    unfold dhcpPacketMade
    by_cases hfirst : d.sendType = 3 ∧ d.haveRequest = false
    · simp only [hfirst.1, hfirst.2, decide_true, Bool.not_false, Bool.and_self, if_true, true_and,
        if_pos hnone.2]
      refine hmade (tick now) true _ (fun hlistens => ?_) fun hs => absurd hs (h.asks hfirst.1).2
      have hnone' : asked = none := by simpa [RecallsRequest, hfirst.2] using h.remembers hlistens
      simp [RecallsRequest, hnone']
    · have hsame : (decide (d.sendType = 3) && !d.haveRequest) = false := by
        simpa using hfirst
      simp only [hsame, Bool.false_eq_true, if_false]
      refine hmade d.requestedAt d.haveRequest _ (fun hlistens => ?_) h.selecting
      have hremembers := h.remembers hlistens
      split
      · rename_i hasks
        have hhave : d.haveRequest = true := by simpa [hasks.1] using hsame
        simp only [RecallsRequest, hhave, if_true] at hremembers ⊢
        obtain ⟨t, rfl, ht⟩ := Option.map_eq_some_iff.mp hremembers
        simpa using ht
      · exact hremembers

theorem kept_probed (h : Kept d asked offered granted) (now : Nat) :
    Kept (dhcpProbed d (tick now)).2 (askedWith asked d (dhcpProbed d (tick now)).2)
      offered granted := by
  unfold dhcpProbed
  split
  · simpa [askedWith] using h
  · rename_i hprobing
    simp only [ne_eq, not_not] at hprobing
    split
    · exact kept_move h (dhcpStep_moves h.steady (tick now) true) (fun h => askedWith_same h _)
        fun h => askedWith_next h _
    · simp only [askedWith, if_true]
      obtain ⟨g, hg, htimers⟩ := h.timers (.inr hprobing)
      exact
        { steady := rfl
          asks := fun hsend => absurd (h.asks hsend).1 (by rw [hprobing]; simp [DhcpState.listens])
          remembers := fun hlistens => by cases hlistens
          selecting := fun hs => by cases hs
          offered := fun hs => by cases hs
          timers := fun _ => ⟨g, hg, htimers.renewal, htimers.rebinding, htimers.half, htimers.expires,
            htimers.server⟩ }

end Calls

/-- What the watched client keeps. -/
def DhcpWatch.Kept (w : DhcpWatch) : Prop :=
  FourVrs.Network.Kept w.client w.asked w.offered w.granted

/-- **Every call keeps it**, whenever it comes. -/
theorem kept_watchCall {w : DhcpWatch} (h : w.Kept) (c : Nat × DhcpCall) : (watchCall w c).Kept := by
  obtain ⟨now, call⟩ := c
  cases call with
  | start mac xid =>
    exact
      { steady := rfl
        asks := fun hsend => by cases hsend
        remembers := fun _ => rfl
        selecting := fun _ => rfl
        offered := fun hs => by cases hs
        timers := fun hcase => by rcases hcase with hcase | hcase <;> cases hcase }
  | stop => exact kept_idle rfl (.inl rfl) (by show 0 ≠ 3; decide) _ _ _
  | step link =>
    exact kept_move h (dhcpStep_moves h.steady (tick now) link) (fun h => askedWith_same h _)
      fun h => askedWith_next h _
  | receive p =>
    exact kept_receive h p now (dhcpReceive_takes w.client p (tick now)) (fun h => askedWith_same h _)
      fun h => askedWith_next h _
  | conflict => exact kept_idle rfl (.inr rfl) (by show 4 ≠ 3; decide) _ _ _
  | probed => exact kept_probed h now
  | packet cap => exact kept_packet h cap now

theorem kept_init (start : Nat) : DhcpWatch.Kept { now := start, stepped := start } :=
  kept_idle rfl (.inl rfl) (by show 0 ≠ 3; decide) _ _ _

theorem kept_runDhcp (start : Nat) (calls : List (Nat × DhcpCall)) : (runDhcp start calls).Kept := by
  unfold runDhcp
  generalize hw : ({ now := start, stepped := start } : DhcpWatch) = w
  have h : w.Kept := hw ▸ kept_init start
  clear hw
  induction calls generalizing w with
  | nil => exact h
  | cons c calls ih => exact ih (watchCall w c) (kept_watchCall h c)

/-! ## What holds while steps come in time -/

theorem toNat_sub_tick {now since : Nat} (hle : since ≤ now) (hlt : now < since + 2 ^ 32) :
    (tick now - tick since).toNat = now - since := by
  unfold tick
  simp only [BitVec.toNat_sub, BitVec.toNat_ofNat]
  omega

theorem LeaseGrant.term_lt (g : LeaseGrant) : g.term < 2 ^ 31 := by
  have hmin : min g.lifetime 1728000 ≤ 1728000 := Nat.min_le_right _ _
  unfold LeaseGrant.term
  omega

/-- The times of the client and of its lease. -/
structure Current (d : DhcpClient) (asked : Option Nat) (granted : Option LeaseGrant)
    (now stepped : Nat) : Prop where
  order : stepped ≤ now
  askedBy : ∀ r, asked = some r → r ≤ now
  asking : d.state = .selecting ∨ d.state = .requesting →
    ∃ since, d.started = tick since ∧ since ≤ now ∧ stepped < since + 30000 ∧
      ∀ r, asked = some r → since ≤ r
  leased : d.valid = true ∨ d.state = .probing →
    ∀ g, granted = some g → g.base ≤ now ∧ stepped < g.base + g.term
  prolonging : d.state = .renewing ∨ d.state = .rebinding →
    ∀ g, granted = some g → ∀ r, asked = some r → g.base ≤ r

/-- A client that neither uses an address nor asks for one has no times to keep. -/
theorem current_idle {d : DhcpClient} (hvalid : d.valid = false)
    (hstate : d.state = .off ∨ d.state = .backoff) {asked : Option Nat} {granted : Option LeaseGrant}
    {now stepped : Nat} (horder : stepped ≤ now) (hasked : ∀ r, asked = some r → r ≤ now) :
    Current d asked granted now stepped where
  order := horder
  askedBy := hasked
  asking := fun h => by rcases hstate with hs | hs <;> rcases h with h | h <;> rw [hs] at h <;> cases h
  leased := fun h => by
    rcases h with h | h
    · exact absurd (hvalid.symm.trans h) (by simp)
    · rcases hstate with hs | hs <;> rw [hs] at h <;> cases h
  prolonging := fun h => by rcases hstate with hs | hs <;> rcases h with h | h <;> rw [hs] at h <;> cases h

section Times

variable {d d' : DhcpClient} {asked asked' : Option Nat} {offered : Option (Nat × Nat)}
  {granted : Option LeaseGrant} {now stepped time : Nat}

/-- A lease in force, or about to be, has not run out at a tick that says so. -/
theorem Current.ahead (h : Current d asked granted now stepped) (hkept : Kept d asked offered granted)
    (hnow : now ≤ time) (htime : time < stepped + 2 ^ 31) (hcase : d.valid = true ∨ d.state = .probing)
    (hdue : due (tick time) d.expiresAt = false) :
    ∀ g, granted = some g → g.base ≤ time ∧ time < g.base + g.term := by
  intro g hg
  obtain ⟨g', hg', htimers⟩ := hkept.timers hcase
  obtain rfl := Option.some.inj (hg.symm.trans hg')
  obtain ⟨hbase, hstepped⟩ := h.leased hcase g hg
  have hterm := g.term_lt
  rw [htimers.expires] at hdue
  have hiff := @due_tick_iff time (g.base + g.term) (by omega) (by omega)
  refine ⟨by omega, ?_⟩
  by_contra hover
  exact absurd (hiff.mpr (Nat.not_lt.mp hover)) (by simp [hdue])

/-- A move of the client, in a step or at the end of its lease. -/
theorem current_move (h : Current d asked granted now stepped) (hkept : Kept d asked offered granted)
    (hnow : now ≤ time) (htime : time < stepped + 2 ^ 31) {link : Bool}
    (hmove : DhcpMove d (tick time) link d') (hsame : d'.xid = d.xid → asked' = asked)
    (hnext : d'.xid = d.xid + 1 → asked' = none) {stepped' : Nat}
    (hstepped : stepped' = time ∨ stepped' = stepped) : Current d' asked' granted time stepped' := by
  have horder : stepped' ≤ time := by
    have := h.order
    omega
  have hasked : ∀ r, asked = some r → r ≤ time := fun r hr => (h.askedBy r hr).trans hnow
  -- a lease that has not expired ends after this step, whatever the move is
  have hleased : (d.valid = true ∨ d.state = .probing → due (tick time) d.expiresAt = false) →
      d.valid = true ∨ d.state = .probing →
      ∀ g, granted = some g → g.base ≤ time ∧ stepped' < g.base + g.term := by
    intro hahead hcase g hg
    obtain ⟨hbase, hterm⟩ := h.ahead hkept hnow htime hcase (hahead hcase) g hg
    have := (h.leased hcase g hg).2
    omega
  cases hmove with
  | rests hcase =>
    obtain rfl := hsame rfl
    rcases hcase with hoff | ⟨hbackoff, -⟩ | ⟨hstate, hahead⟩
    · refine current_idle ?_ (.inl hoff) horder hasked
      exact (show d.valid = d.state.leased from hkept.steady).trans (by rw [hoff]; rfl)
    · refine current_idle ?_ (.inr hbackoff) horder hasked
      exact (show d.valid = d.state.leased from hkept.steady).trans (by rw [hbackoff]; rfl)
    · refine ⟨horder, hasked, fun hs => ?_, hleased fun _ => hahead, fun hs => ?_⟩
      · rcases hstate with hc | hc <;> rcases hs with hs | hs <;> rw [hc] at hs <;> cases hs
      · rcases hstate with hc | hc <;> rcases hs with hs | hs <;> rw [hc] at hs <;> cases hs
  | unlinked hon hlink =>
    obtain rfl := hsame rfl
    exact current_idle rfl (.inr rfl) horder hasked
  | restarts nextSend retries error hcause =>
    -- a new question: no request of it has been sent
    obtain rfl := hnext rfl
    refine ⟨horder, nofun, fun _ => ⟨time, rfl, le_refl _, by omega, nofun⟩, fun hcase => ?_, fun hs => ?_⟩
    · rcases hcase with hcase | hcase <;> cases hcase
    · rcases hs with hs | hs <;> cases hs
  | gaveUp hstate hlate =>
    obtain rfl := hsame rfl
    refine current_idle ?_ (.inr rfl) horder hasked
    have hsteady : d.valid = d.state.leased := hkept.steady
    rcases hstate with hs | hs <;> rw [hs] at hsteady <;> exact hsteady
  | prolongs state nextSend retries hbound hstate hahead =>
    obtain rfl := hnext rfl
    have hvalid : d.valid = true :=
      (show d.valid = d.state.leased from hkept.steady).trans (by rw [hbound]; rfl)
    refine ⟨horder, nofun, fun hs => ?_, fun _ => hleased (fun _ => hahead) (.inl hvalid), fun _ _ _ => nofun⟩
    rcases hstate with rfl | rfl <;> rcases hs with hs | hs <;> cases hs
  | rebinds nextSend retries hrenewing hahead =>
    obtain rfl := hsame rfl
    have hvalid : d.valid = true :=
      (show d.valid = d.state.leased from hkept.steady).trans (by rw [hrenewing]; rfl)
    refine ⟨horder, hasked, fun hs => ?_, fun _ => hleased (fun _ => hahead) (.inl hvalid),
      fun _ => h.prolonging (.inl hrenewing)⟩
    rcases hs with hs | hs <;> cases hs
  | waits sendType nextSend retries hlistens hsend hahead hearly =>
    obtain rfl := hsame rfl
    refine ⟨horder, hasked, fun hs => ?_, fun hcase => hleased (fun hcase => ?_) hcase, h.prolonging⟩
    · obtain ⟨since, hstarted, hsince, hfirst, hafter⟩ := h.asking hs
      refine ⟨since, hstarted, hsince.trans hnow, ?_, hafter⟩
      have hvalid : d.valid = false := by
        have hsteady : d.valid = d.state.leased := hkept.steady
        rcases hs with hs | hs <;> rw [hs] at hsteady <;> exact hsteady
      have hwithin := hearly hvalid
      rw [hstarted, BitVec.lt_def, toNat_sub_tick (by omega) (by omega)] at hwithin
      have hmax : (30000 : CoreTick).toNat = 30000 := rfl
      omega
    · rcases hcase with hvalid | hprobing
      · exact hahead hvalid
      · rw [hprobing] at hlistens
        cases hlistens

/-- The tick an acknowledgement comes at is within what it grants. -/
theorem current_acknowledge (h : Current d asked granted now stepped)
    (hkept : Kept d asked offered granted) (hnow : now ≤ time) (htime : time < stepped + 2 ^ 31)
    {o : DhcpOptions} {g : DhcpGrant} {ip : Nat} (hlistens : d.state.listens = true)
    (hstate : d.state ≠ .selecting) (hahead : d.valid = true → due (tick time) d.expiresAt = false)
    (hg : DhcpGranted d ip o (tick time) g) (server : Nat) :
    Current (dhcpAcknowledge d g (tick time)) asked
      (some { base := asked.getD time, lifetime := o.lifetime, server := server }) time stepped := by
  have hasked : ∀ r, asked = some r → r ≤ time := fun r hr => (h.askedBy r hr).trans hnow
  have hbase : asked.getD time ≤ time := by
    cases hr : asked with
    | none => exact le_refl _
    | some r => exact hasked r hr
  -- the exchange began less than the range of the ticks ago
  have hrecent : time < asked.getD time + 2 ^ 32 := by
    cases hr : asked with
    | none => exact Nat.lt_add_of_pos_right (by decide)
    | some r =>
      show time < r + 2 ^ 32
      by_cases hrequesting : d.state = .requesting
      · obtain ⟨since, -, -, hfirst, hafter⟩ := h.asking (.inr hrequesting)
        have := hafter r hr
        omega
      · have hprolonging : d.state = .renewing ∨ d.state = .rebinding := by
          cases hs : d.state <;> simp_all [DhcpState.listens]
        have hvalid : d.valid = true :=
          (show d.valid = d.state.leased from hkept.steady).trans
            (by rcases hprolonging with hs | hs <;> rw [hs] <;> rfl)
        obtain ⟨granted', hgranted, -⟩ := hkept.timers (.inl hvalid)
        have hterm := granted'.term_lt
        have hwithin := h.ahead hkept hnow htime (.inl hvalid) (hahead hvalid) granted' hgranted
        have := h.prolonging hprolonging granted' hgranted r hr
        omega
  have hfresh : time < asked.getD time + min o.lifetime 1728000 * 1000 := by
    have hgranted := hg.fresh
    rw [leaseBase_asked (hkept.remembers hlistens) time, toNat_sub_tick hbase hrecent, hg.lifetime.2]
      at hgranted
    omega
  have hcases := dhcpAcknowledge_state d g (tick time)
  refine ⟨h.order.trans hnow, hasked, fun hs => ?_, fun _ granted' hgranted => ?_, fun hs => ?_⟩
  · rcases hcases with hc | hc <;> rcases hs with hs | hs <;> rw [hc.1] at hs <;> cases hs
  · cases hgranted
    have := h.order
    exact ⟨hbase, show stepped < asked.getD time + min o.lifetime 1728000 * 1000 by omega⟩
  · rcases hcases with hc | hc <;> rcases hs with hs | hs <;> rw [hc.1] at hs <;> cases hs

theorem Current.later (h : Current d asked granted now stepped) (hnow : now ≤ time) :
    Current d asked granted time stepped where
  order := h.order.trans hnow
  askedBy := fun r hr => (h.askedBy r hr).trans hnow
  asking := fun hs => by
    obtain ⟨since, hstarted, hsince, hfirst, hafter⟩ := h.asking hs
    exact ⟨since, hstarted, hsince.trans hnow, hfirst, hafter⟩
  leased := fun hcase g hg => by
    obtain ⟨hbase, hstepped⟩ := h.leased hcase g hg
    exact ⟨hbase.trans hnow, hstepped⟩
  prolonging := h.prolonging

theorem current_receive (h : Current d asked granted now stepped) (hkept : Kept d asked offered granted)
    (hnow : now ≤ time) (htime : time < stepped + 2 ^ 31) (p : List UInt8) {r : Int × DhcpClient}
    (htakes : DhcpTakes d p (tick time) r) (hsame : r.2.xid = d.xid → asked' = asked)
    (hnext : r.2.xid = d.xid + 1 → asked' = none) :
    Current r.2 asked'
      (if r.1 = 1 then
        some { base := asked.getD time, lifetime := (messageOptions p).lifetime
               server := (messageOptions p).server }
      else granted) time stepped := by
  cases htakes with
  | refused =>
    obtain rfl := hsame rfl
    exact h.later hnow
  | expired hvalid hdue =>
    exact current_move h hkept hnow htime (dhcpStep_moves hkept.steady (tick time) true) hsame hnext
      (.inr rfl)
  | refusal o hheard hstate =>
    obtain rfl := hsame rfl
    exact current_idle rfl (.inr rfl) (h.order.trans hnow) fun r hr => (h.askedBy r hr).trans hnow
  | offer o g hheard hstate hgranted =>
    obtain rfl := hsame rfl
    have hvalid : d.valid = false :=
      (show d.valid = d.state.leased from hkept.steady).trans (by rw [hstate]; rfl)
    obtain ⟨since, hstarted, hsince, hfirst, hafter⟩ := h.asking (.inl hstate)
    refine ⟨h.order.trans hnow, fun r hr => (h.askedBy r hr).trans hnow,
      fun _ => ⟨since, hstarted, hsince.trans hnow, hfirst, hafter⟩, fun hcase => ?_, fun hs => ?_⟩
    · rcases hcase with hcase | hcase
      · exact absurd (hvalid.symm.trans hcase) (by simp)
      · cases hcase
    · rcases hs with hs | hs <;> cases hs
  | acknowledged o g hheard hstate hahead hgranted =>
    obtain rfl := hsame (dhcpAcknowledge_xid d g _)
    simp only [if_true, hheard.messageOptions]
    exact current_acknowledge h hkept hnow htime hheard.listens hstate hahead hgranted o.server

theorem current_probed (h : Current d asked granted now stepped) (hkept : Kept d asked offered granted)
    (hnow : now ≤ time) (htime : time < stepped + 2 ^ 31) :
    Current (dhcpProbed d (tick time)).2 (askedWith asked d (dhcpProbed d (tick time)).2) granted time
      stepped := by
  unfold dhcpProbed
  split
  · simpa [askedWith] using h.later hnow
  · rename_i hprobing
    simp only [ne_eq, not_not] at hprobing
    split
    · exact current_move h hkept hnow htime (dhcpStep_moves hkept.steady (tick time) true)
        (fun h => askedWith_same h _) (fun h => askedWith_next h _) (.inr rfl)
    · have hlater := h.later hnow
      simp only [askedWith, if_true]
      refine ⟨hlater.order, hlater.askedBy, fun hs => ?_, fun _ => hlater.leased (.inr hprobing), fun hs => ?_⟩
      · rcases hs with hs | hs <;> cases hs
      · rcases hs with hs | hs <;> cases hs

theorem dhcpPacket_fields (d : DhcpClient) (cap : Nat) (now : CoreTick) :
    (dhcpPacket d cap now).2.state = d.state ∧ (dhcpPacket d cap now).2.valid = d.valid ∧
      (dhcpPacket d cap now).2.started = d.started := by
  unfold dhcpPacket dhcpPacketMade
  split
  · exact ⟨rfl, rfl, rfl⟩
  · simp only
    split <;> exact ⟨rfl, rfl, rfl⟩

/-- A REQUEST that is built now is no earlier than what it belongs to. -/
theorem current_packet (h : Current d asked granted now stepped) (hkept : Kept d asked offered granted)
    (hnow : now ≤ time) (cap : Nat) :
    Current (dhcpPacket d cap (tick time)).2
      (if d.sendType = 3 ∧ 300 ≤ cap then asked.or (some time) else asked) granted time stepped := by
  obtain ⟨hstate, hvalid, hstarted⟩ := dhcpPacket_fields d cap (tick time)
  have hlater := h.later hnow
  have hcases : ∀ r, (if d.sendType = 3 ∧ 300 ≤ cap then asked.or (some time) else asked) = some r →
      asked = some r ∨ r = time := by
    intro r hr
    split at hr
    · cases hasked : asked with
      | none =>
        rw [hasked] at hr
        exact .inr (Option.some.inj hr).symm
      | some r' =>
        rw [hasked] at hr
        exact .inl hr
    · exact .inl hr
  refine ⟨hlater.order, fun r hr => ?_, fun hs => ?_, fun hcase => ?_, fun hs g hg r hr => ?_⟩
  · rcases hcases r hr with hr | rfl
    · exact hlater.askedBy r hr
    · exact le_refl r
  · rw [hstate] at hs
    obtain ⟨since, hsince, hle, hfirst, hafter⟩ := hlater.asking hs
    refine ⟨since, hstarted.trans hsince, hle, hfirst, fun r hr => ?_⟩
    rcases hcases r hr with hr | rfl
    · exact hafter r hr
    · exact hle
  · rw [hstate, hvalid] at hcase
    exact hlater.leased hcase
  · rw [hstate] at hs
    rcases hcases r hr with hr | rfl
    · exact h.prolonging hs g hg r hr
    · have hleased : d.valid = true :=
        (show d.valid = d.state.leased from hkept.steady).trans
          (by rcases hs with hs | hs <;> rw [hs] <;> rfl)
      exact (hlater.leased (.inl hleased) g hg).1

end Times

def DhcpWatch.Current (w : DhcpWatch) : Prop :=
  FourVrs.Network.Current w.client w.asked w.granted w.now w.stepped

/-- **Every call that comes in time keeps the times.** -/
theorem current_watchCall {w : DhcpWatch} (hkept : w.Kept) (h : w.Current) {c : Nat × DhcpCall}
    (htime : InTime w c) : (watchCall w c).Current := by
  obtain ⟨now, call⟩ := c
  obtain ⟨hnow, hsoon⟩ := htime
  simp only at hnow hsoon
  have hasked : ∀ r, w.asked = some r → r ≤ now := fun r hr => (h.askedBy r hr).trans hnow
  cases call with
  | start mac xid =>
    refine ⟨le_refl _, nofun, fun _ => ⟨now, rfl, le_refl _, Nat.lt_add_of_pos_right (by decide), nofun⟩,
      fun hcase => ?_, fun hs => ?_⟩
    · rcases hcase with hcase | hcase <;> cases hcase
    · rcases hs with hs | hs <;> cases hs
  | stop =>
    refine current_idle rfl (.inl rfl) (h.order.trans hnow) ?_
    rw [show (watchCall w (now, .stop)).asked = none from askedWith_next rfl _]
    exact nofun
  | step link =>
    exact current_move h hkept hnow hsoon (dhcpStep_moves hkept.steady (tick now) link)
      (fun h => askedWith_same h _) (fun h => askedWith_next h _) (.inl rfl)
  | receive p =>
    exact current_receive h hkept hnow hsoon p (dhcpReceive_takes w.client p (tick now))
      (fun h => askedWith_same h _) fun h => askedWith_next h _
  | conflict =>
    refine current_idle rfl (.inr rfl) (h.order.trans hnow) ?_
    rw [show (watchCall w (now, .conflict)).asked = w.asked from askedWith_same rfl _]
    exact hasked
  | probed => exact current_probed h hkept hnow hsoon
  | packet cap => exact current_packet h hkept hnow cap

theorem current_init (start : Nat) :
    DhcpWatch.Current { now := start, stepped := start } :=
  current_idle rfl (.inl rfl) (le_refl _) nofun

/-- A run whose calls all come in time keeps the times. -/
theorem current_runDhcp {start : Nat} {calls : List (Nat × DhcpCall)}
    (h : Along watchCall InTime calls { now := start, stepped := start }) :
    (runDhcp start calls).Kept ∧ (runDhcp start calls).Current := by
  have hstep : ∀ (w : DhcpWatch) (c : Nat × DhcpCall), (w.Kept ∧ w.Current) → InTime w c →
      (watchCall w c).Kept ∧ (watchCall w c).Current :=
    fun _ c hinv htime => ⟨kept_watchCall hinv.1 c, current_watchCall hinv.1 hinv.2 htime⟩
  exact Along.invariant hstep h ⟨kept_init start, current_init start⟩

/-! ## Lease safety -/

/-- What holds of a lease in force at any time. -/
structure LeaseInForce (w : DhcpWatch) : Prop where
  state : w.client.valid = true →
    w.client.state = .bound ∨ w.client.state = .renewing ∨ w.client.state = .rebinding
  timers : w.client.valid = true → ∃ g, w.granted = some g ∧ LeaseTimers w.client g

/-- The acknowledgement `p` is meant for what the client asks for. -/
structure AckMatches (w : DhcpWatch) (p : List UInt8) : Prop where
  xid : be32 (p.drop 4) = w.client.xid.toNat
  mac : (p.drop 28).take 6 = w.client.mac.take 6
  offered : w.client.state = .requesting →
    w.offered = some ((messageOptions p).server, be32 (p.drop 16))
  renewing : w.client.state = .renewing →
    ∃ g, w.granted = some g ∧ (messageOptions p).server = g.server

/-- How a call may bring a lease into force. -/
structure LeaseChange (w : DhcpWatch) (c : Nat × DhcpCall) : Prop where
  begins : w.client.valid = false → (watchCall w c).client.valid = true →
    c.2 = .probed ∧ w.client.state = .probing
  /-- What an acknowledgement leaves in force has the address and the mask it had. -/
  keeps : (c.2.exec w.client (tick c.1)).1 = 1 → (watchCall w c).client.valid = true →
    w.client.valid = true ∧ (watchCall w c).client.lease.address = w.client.lease.address ∧
      (watchCall w c).client.lease.netmask = w.client.lease.netmask
  matched : ∀ p, c.2 = .receive p → (c.2.exec w.client (tick c.1)).1 = 1 → AckMatches w p

theorem leaseInForce_of_kept {w : DhcpWatch} (h : w.Kept) : LeaseInForce w where
  state := fun hvalid => by
    have hleased : w.client.state.leased = true :=
      (show w.client.valid = w.client.state.leased from h.steady).symm.trans hvalid
    cases hs : w.client.state <;> simp_all [DhcpState.leased]
  timers := fun hvalid => h.timers (.inl hvalid)

/-- A move brings no lease into force. -/
theorem valid_move {d d' : DhcpClient} {now : CoreTick} {link : Bool} (h : DhcpMove d now link d')
    (hvalid : d'.valid = true) : d.valid = true := by
  cases h with
  | unlinked | restarts => cases hvalid
  | _ => exact hvalid

theorem begins_watchCall {w : DhcpWatch} (h : w.Kept) (c : Nat × DhcpCall)
    (hbefore : w.client.valid = false) (hafter : (watchCall w c).client.valid = true) :
    c.2 = .probed ∧ w.client.state = .probing := by
  obtain ⟨now, call⟩ := c
  have hnot : ∀ {P : Prop}, w.client.valid = true → P := fun hvalid =>
    absurd (hbefore.symm.trans hvalid) (by simp)
  cases call with
  | start mac xid | stop => cases hafter
  | step link => exact hnot (valid_move (dhcpStep_moves h.steady (tick now) link) hafter)
  | receive p =>
    have htakes := dhcpReceive_takes w.client p (tick now)
    replace hafter : (dhcpReceive w.client p (tick now)).2.valid = true := hafter
    generalize dhcpReceive w.client p (tick now) = r at htakes hafter
    cases htakes with
    | refused => exact hnot hafter
    | expired hvalid hdue => exact hnot hvalid
    | refusal => cases hafter
    | offer => exact hnot hafter
    | acknowledged o g hheard hstate hahead hgranted =>
      rcases dhcpAcknowledge_state w.client g (tick now) with hc | hc
      · exact hnot hc.2.2.1
      · exact absurd (hc.2.symm.trans hafter) (by simp)
  | conflict => cases hafter
  | probed =>
    refine ⟨rfl, ?_⟩
    by_contra hother
    replace hafter : (dhcpProbed w.client (tick now)).2.valid = true := hafter
    unfold dhcpProbed at hafter
    rw [if_pos hother] at hafter
    exact hnot hafter
  | packet cap =>
    exact hnot ((dhcpPacket_fields w.client cap (tick now)).2.1.symm.trans hafter)

/-- Only a message that is taken has the result 1. -/
theorem acknowledged_of_result {w : DhcpWatch} {c : Nat × DhcpCall}
    (hresult : (c.2.exec w.client (tick c.1)).1 = 1) :
    ∃ p o g, c.2 = .receive p ∧ DhcpHeard w.client p o ∧ w.client.state ≠ .selecting ∧
      DhcpGranted w.client (be32 (p.drop 16)) o (tick c.1) g ∧
      (watchCall w c).client = dhcpAcknowledge w.client g (tick c.1) := by
  obtain ⟨now, call⟩ := c
  cases call with
  | receive p =>
    have htakes := dhcpReceive_takes w.client p (tick now)
    have hclient : (watchCall w (now, .receive p)).client = (dhcpReceive w.client p (tick now)).2 := rfl
    replace hresult : (dhcpReceive w.client p (tick now)).1 = 1 := hresult
    rw [hclient]
    generalize dhcpReceive w.client p (tick now) = r at htakes hresult
    cases htakes with
    | acknowledged o g hheard hstate hahead hgranted =>
      exact ⟨p, o, g, rfl, hheard, hstate, hgranted, rfl⟩
    | _ => cases hresult
  | probed =>
    replace hresult : (dhcpProbed w.client (tick now)).1 = 1 := hresult
    unfold dhcpProbed at hresult
    split at hresult
    · cases hresult
    · split at hresult <;> cases hresult
  | _ => cases hresult

theorem leaseChange_of_kept {w : DhcpWatch} (h : w.Kept) (c : Nat × DhcpCall) : LeaseChange w c where
  begins := begins_watchCall h c
  keeps := by
    intro hresult hvalid
    obtain ⟨p, o, g, -, -, -, -, hclient⟩ := acknowledged_of_result hresult
    have hlease : (dhcpAcknowledge w.client g (tick c.1)).lease = g.lease := rfl
    rw [hclient] at hvalid ⊢
    rcases dhcpAcknowledge_state w.client g (tick c.1) with hc | hc
    · rw [hlease]
      exact ⟨hc.2.2.1, hc.2.2.2.1.symm, hc.2.2.2.2.symm⟩
    · exact absurd (hc.2.symm.trans hvalid) (by simp)
  matched := by
    intro p hcall hresult
    obtain ⟨p', o, g, hcall', hheard, hstate, hgranted, -⟩ := acknowledged_of_result hresult
    obtain rfl := DhcpCall.receive.inj (hcall.symm.trans hcall')
    have hheader := hheard.forClient
    simp only [dhcpForClient, Bool.and_eq_true, decide_eq_true_eq] at hheader
    refine ⟨hheader.1.1.2, hheader.1.2, fun hrequesting => ?_, fun hrenewing => ?_⟩
    · obtain ⟨offer, hoffer, hchosen⟩ := h.offered hrequesting
      -- one server, and one address, for its text is the text of the offer
      have hserver : o.server = offer.1 := (hheard.chosen (.inl hrequesting)).trans hchosen.1
      have haddress : be32 (p.drop 16) = offer.2 := by
        have htext := hgranted.address.2.symm.trans ((hgranted.same hrequesting).trans hchosen.2.2)
        have hword := congrArg BitVec.toNat (ipv4Format_injective htext)
        rwa [BitVec.toNat_ofNat, BitVec.toNat_ofNat, Nat.mod_eq_of_lt (be32_lt _),
          Nat.mod_eq_of_lt hchosen.2.1] at hword
      rw [hoffer, hheard.messageOptions, hserver, haddress]
    · have hvalid : w.client.valid = true :=
        (show w.client.valid = w.client.state.leased from h.steady).trans (by rw [hrenewing]; rfl)
      obtain ⟨granted, hg, htimers⟩ := h.timers (.inl hvalid)
      refine ⟨granted, hg, ?_⟩
      rw [hheard.messageOptions, hheard.chosen (.inr hrenewing), htimers.server]

theorem withinLease_of_current {w : DhcpWatch} (hkept : w.Kept) (h : w.Current)
    (hvalid : w.client.valid = true) (hstepped : w.stepped = w.now) :
    ∃ g, w.granted = some g ∧ g.base ≤ w.now ∧ w.now < g.base + g.term := by
  obtain ⟨g, hg, -⟩ := hkept.timers (.inl hvalid)
  obtain ⟨hbase, hterm⟩ := h.leased (.inl hvalid) g hg
  exact ⟨g, hg, hbase, hstepped ▸ hterm⟩

/-- **Lease safety.** In every run, whenever its calls come, a lease in force has its
    timers in order and less than half the range of the ticks after its base; it comes
    into force when its address has been probed, and an acknowledgement that leaves it in
    force names the same address and mask; every acknowledgement that is taken matches
    the request. Where the calls come in time, a step with the link up leaves in force
    only what less than its term, twenty days at most, has gone by of. -/
theorem leaseSafety (start : Nat) (calls : List (Nat × DhcpCall)) :
    LeaseInForce (runDhcp start calls) ∧ (∀ c, LeaseChange (runDhcp start calls) c) ∧
      ∀ now, Along watchCall InTime (calls ++ [(now, .step true)]) { now := start, stepped := start } →
        (runDhcp start (calls ++ [(now, .step true)])).client.valid = true →
        ∃ g, (runDhcp start (calls ++ [(now, .step true)])).granted = some g ∧
          g.base ≤ now ∧ now < g.base + g.term := by
  have hkept := kept_runDhcp start calls
  refine ⟨leaseInForce_of_kept hkept, leaseChange_of_kept hkept, fun now htimes hvalid => ?_⟩
  obtain ⟨hkept', hcurrent⟩ := current_runDhcp htimes
  have hrun : runDhcp start (calls ++ [(now, .step true)]) =
      watchCall (runDhcp start calls) (now, .step true) := List.foldl_append ..
  have hends := withinLease_of_current hkept' hcurrent hvalid (by rw [hrun]; rfl)
  have hnow : (runDhcp start (calls ++ [(now, .step true)])).now = now := by
    rw [hrun]
    rfl
  rwa [hnow] at hends

/-! ## Two runs -/

/-- A reply of a server to the client. -/
def dhcpReply (type : Nat) (xid : BitVec 32) (mac : List UInt8) (ip server : Nat) (options : List UInt8) :
    List UInt8 :=
  [2, 1, 6, 0] ++ put32 xid.toNat ++ List.replicate 8 0 ++ put32 ip ++ List.replicate 8 0 ++ mac ++
    List.replicate 202 0 ++ put32 0x63825363 ++ [53, 1, UInt8.ofNat type, 54, 4] ++ put32 server ++
    options ++ [255]

/-- The netmask 255.255.255.0 and a lifetime. -/
def leaseOptions (lifetime : Nat) : List UInt8 := [1, 4, 255, 255, 255, 0, 51, 4] ++ put32 lifetime

/-- 192.168.1.100 from 192.168.1.1, asked for and granted for twenty days. -/
def boundCalls : List (Nat × DhcpCall) :=
  let mac : List UInt8 := [2, 0, 0, 0, 0, 1]
  let reply (type : Nat) := dhcpReply type 7 mac 0xC0A80164 0xC0A80101 (leaseOptions 1728000)
  [(0, .start mac 7), (0, .step true), (0, .packet 300), (10, .receive (reply 2)), (10, .packet 300),
    (20, .receive (reply 5)), (30, .probed)]

theorem leaseSafety_bound :
    (runDhcp 0 boundCalls).client.valid = true ∧
      ∃ g, (runDhcp 0 (boundCalls ++ [(1000, .step true)])).granted = some g ∧
        g.base ≤ 1000 ∧ 1000 < g.base + g.term := by
  refine ⟨by decide +kernel, (leaseSafety 0 boundCalls).2.2 1000 ?_ (by decide +kernel)⟩
  decide +kernel

/-- No call of the run is half the range of the ticks after the one before it, but nothing
    steps the client while the ticks wrap: the step then finds them where they were. -/
theorem leaseSafety_unstepped :
    ¬ ∀ (start : Nat) (calls : List (Nat × DhcpCall)) (now : Nat),
      Along watchCall Closely (calls ++ [(now, .step true)]) { now := start, stepped := start } →
      (runDhcp start (calls ++ [(now, .step true)])).client.valid = true →
      ∃ g, (runDhcp start (calls ++ [(now, .step true)])).granted = some g ∧ now < g.base + g.term := by
  intro h
  obtain ⟨g, hg, hterm⟩ := h 0 (boundCalls ++ [(2 ^ 31, .packet 0), (2 ^ 32 - 1, .packet 0)])
    (2 ^ 32 + 50) (by decide +kernel) (by decide +kernel)
  have hbound := g.term_lt
  have hbase : g.base = 10 := by
    have hbases : (runDhcp 0 (boundCalls ++ [(2 ^ 31, .packet 0), (2 ^ 32 - 1, .packet 0)] ++
      [(2 ^ 32 + 50, .step true)])).granted.map LeaseGrant.base = some 10 := by decide +kernel
    rw [hg] at hbases
    exact Option.some.inj hbases
  omega

end FourVrs.Network
