import FourVrs.Network.Addresses
import FourVrs.Network.DhcpMoves
import FourVrs.Network.Readiness

/-!
# The interfaces of the owner

What a step of the owner does to an interface, in any world: it works on one interface
after the other and leaves the other as it is, and a client that is not off has its socket
open. `KeptBy` is for what the calls change beside: those of an interface, or those of a
job, keep it.
-/

set_option autoImplicit false

namespace FourVrs.Network

open FourVrs.Core Lib
open Function (update update_of_ne)

/-! ## Clients -/

/-- What holds of a client at any time: while it backs off it has a DECLINE to send, or
    nothing, and a lease it uses or probes has an address. -/
structure Composed (d : DhcpClient) : Prop where
  steady : Steady d
  declines : d.state = .backoff → d.sendType = 0 ∨ d.sendType = 4
  leased : d.valid = true ∨ d.state = .probing → d.lease.address ≠ []

section Clients

variable {d d' : DhcpClient} {now : CoreTick}

/-- A client without a lease that does not back off. -/
theorem composed_asking (hsteady : Steady d) (hstate : d.state = .selecting ∨ d.state = .requesting) :
    Composed d := by
  have hvalid : d.valid = d.state.leased := hsteady
  refine ⟨hsteady, fun hs => ?_, fun hlease => ?_⟩
  · rcases hstate with h | h <;> rw [h] at hs <;> cases hs
  · rcases hstate with h | h <;> rw [h] at hvalid hlease <;> rcases hlease with hl | hl
    · exact absurd (hvalid.symm.trans hl) (by decide)
    · cases hl
    · exact absurd (hvalid.symm.trans hl) (by decide)
    · cases hl

/-- One that backs off, or is off. -/
theorem composed_idle (hvalid : d.valid = false) (hstate : d.state = .backoff ∨ d.state = .off)
    (hsend : d.sendType = 0 ∨ d.sendType = 4) : Composed d := by
  refine ⟨?_, fun _ => hsend, fun hlease => ?_⟩
  · unfold Steady
    rcases hstate with h | h <;> rw [hvalid, h] <;> rfl
  · rcases hlease with hl | hl
    · exact absurd (hvalid.symm.trans hl) (by simp)
    · rcases hstate with h | h <;> rw [h] at hl <;> cases hl

/-- One with its lease in force. -/
theorem composed_leased (hsteady : Steady d) (hvalid : d.valid = true) (haddress : d.lease.address ≠ []) :
    Composed d := by
  refine ⟨hsteady, fun hs => ?_, fun _ => haddress⟩
  have hleased : d.valid = d.state.leased := hsteady
  rw [hvalid, hs] at hleased
  cases hleased

theorem composed_move (h : Composed d) {link : Bool} (hmove : DhcpMove d now link d') : Composed d' := by
  have hsteady : d.valid = d.state.leased := h.steady
  cases hmove with
  | rests => exact h
  | unlinked => exact composed_idle rfl (.inl rfl) (.inl rfl)
  | restarts => exact composed_asking rfl (.inl rfl)
  | gaveUp hstate =>
    refine composed_idle ?_ (.inl rfl) (.inl rfl)
    rcases hstate with hs | hs <;> rw [hs] at hsteady <;> exact hsteady
  | prolongs state nextSend retries hbound hstate =>
    rw [hbound] at hsteady
    refine composed_leased ?_ hsteady (h.leased (.inl hsteady))
    rcases hstate with rfl | rfl <;> exact hsteady
  | rebinds nextSend retries hrenewing =>
    rw [hrenewing] at hsteady
    exact composed_leased hsteady hsteady (h.leased (.inl hsteady))
  | waits sendType nextSend retries hlistens =>
    refine ⟨hsteady, fun hs => ?_, h.leased⟩
    replace hs : d.state = .backoff := hs
    rw [hs] at hlistens
    cases hlistens

theorem composed_step (h : Composed d) (now : CoreTick) (link : Bool) : Composed (dhcpStep d now link) :=
  composed_move h (dhcpStep_moves h.steady now link)

theorem composed_receive (h : Composed d) (p : List UInt8) (now : CoreTick) :
    Composed (dhcpReceive d p now).2 := by
  have htakes := dhcpReceive_takes d p now
  generalize dhcpReceive d p now = r at htakes
  cases htakes with
  | refused => exact h
  | expired => exact composed_step h now true
  | refusal => exact composed_idle rfl (.inl rfl) (.inl rfl)
  | offer o g hheard hstate =>
    have hsteady : d.valid = d.state.leased := h.steady
    rw [hstate] at hsteady
    exact composed_asking hsteady (.inr rfl)
  | acknowledged o g hheard hstate hahead hgranted =>
    have haddress : g.lease.address ≠ [] := hgranted.address.2 ▸ ipv4Format_ne_nil _
    unfold dhcpAcknowledge
    simp only
    split
    · rename_i hsame
      exact composed_leased hsame.1 hsame.1 haddress
    · exact ⟨rfl, (fun hs => by cases hs), fun _ => haddress⟩

theorem composed_probed (h : Composed d) (now : CoreTick) : Composed (dhcpProbed d now).2 := by
  unfold dhcpProbed
  split
  · exact h
  · rename_i hprobing
    simp only [ne_eq, not_not] at hprobing
    split
    · exact composed_step h now true
    · exact composed_leased rfl rfl (h.leased (.inr hprobing))

theorem composed_packetMade (h : Composed d) (now : CoreTick) : Composed (dhcpPacketMade d now) := by
  unfold dhcpPacketMade
  simp only
  split
  · exact ⟨h.steady, fun _ => .inl rfl, h.leased⟩
  · exact ⟨h.steady, fun _ => .inl rfl, h.leased⟩

end Clients

/-- What the functions of the client keep at a tick. -/
structure ClientKept (P : DhcpClient → Prop) (now : CoreTick) : Prop where
  start : ∀ mac xid, P (dhcpStart mac xid now)
  stop : ∀ d, P (dhcpStop d)
  step : ∀ d link, P d → P (dhcpStep d now link)
  receive : ∀ d p, P d → P (dhcpReceive d p now).2
  conflict : ∀ d, P d → P (dhcpConflict d now)
  made : ∀ d, P d → P (dhcpPacketMade d now)
  probed : ∀ d, P d → P (dhcpProbed d now).2
  /-- The counters and marks of the owner are no part of it. -/
  marks : ∀ d changed probes, P d → P { d with changed := changed, probes := probes }

theorem clientKept_composed (now : CoreTick) : ClientKept Composed now where
  start _ _ := composed_asking rfl (.inl rfl)
  stop _ := composed_idle rfl (.inr rfl) (.inl rfl)
  step _ link h := composed_step h now link
  receive _ p h := composed_receive h p now
  conflict _ _ := composed_idle rfl (.inl rfl) (.inr rfl)
  made _ h := composed_packetMade h now
  probed _ h := composed_probed h now
  marks _ _ _ h := ⟨h.steady, h.declines, h.leased⟩

/-! ## Interfaces -/

/-- `P` holds of the client of an interface, whose socket is open unless the client is off. -/
structure LanHolds (P : DhcpClient → Prop) (o : NetworkOwner) (i : Lan) : Prop where
  client : P (o.dhcp i)
  opened : (o.dhcp i).state ≠ .off → o.opened i = true

abbrev LanManned (o : NetworkOwner) (i : Lan) : Prop := LanHolds Composed o i

/-- One interface has been worked on, and the other is as it was. -/
structure LanWorked (P : DhcpClient → Prop) (i : Lan) (o o' : NetworkOwner) : Prop where
  frame : LanFrame i o o'
  opened : ∀ j, j ≠ i → o'.opened j = o.opened j
  manned : LanHolds P o' i

theorem LanWorked.after {P : DhcpClient → Prop} {i : Lan} {o o' o'' : NetworkOwner}
    (hframe : LanFrame i o o') (hopened : ∀ j, j ≠ i → o'.opened j = o.opened j)
    (h : LanWorked P i o' o'') : LanWorked P i o o'' where
  frame := hframe.trans h.frame
  opened j hj := (h.opened j hj).trans (hopened j hj)
  manned := h.manned

/-- The calls of an interface. -/
def OwnerCall.OfLan (j : Lan) : OwnerCall → Prop
  | .open k | .close k | .receive k | .send k | .probe k _ => k = j
  | .observe | .apply _ _ | .poll | .cancel => False

/-- The calls of a write job. -/
def OwnerCall.OfJob : OwnerCall → Prop
  | .apply _ _ | .poll | .cancel => True
  | .observe | .open _ | .close _ | .receive _ | .send _ | .probe _ _ => False

/-- What some of the calls keep. -/
def KeptBy {σ : Type} (world : Prog.World OwnerCall OwnerCall.Result σ) (K : σ → Prop)
    (calls : OwnerCall → Prop) : Prop :=
  ∀ (call : OwnerCall) (r : call.Result) (s s' : σ), calls call → K s → world call s r s' → K s'

section Interfaces

variable {σ : Type} {world : Prog.World OwnerCall OwnerCall.Result σ} {K : σ → Prop} {j : Lan} {s : σ}
  {o : NetworkOwner} {now : CoreTick} {docs : OwnerDocuments} {P : DhcpClient → Prop}

theorem KeptBy.call {calls : OwnerCall → Prop} (hK : KeptBy world K calls) {α : Type}
    {post : α → σ → Prop} {call : OwnerCall} {f : call.Result → OwnerProg α} (hcall : calls call) (hs : K s)
    (h : ∀ r s', K s' → Prog.Safe world (fun _ => True) post (f r) s') :
    Prog.Safe world (fun _ => True) post (ownerCall call >>= f) s :=
  ⟨trivial, fun r s' hstep => h r s' (hK call r s s' hcall hs hstep)⟩

/-- The program works on interface `j` and keeps `K`. -/
abbrev LanKeeps (world : Prog.World OwnerCall OwnerCall.Result σ) (K : σ → Prop)
    (P : DhcpClient → Prop) (j : Lan) (o : NetworkOwner) (p : OwnerProg NetworkOwner) (s : σ) : Prop :=
  Prog.Safe world (fun _ => True) (fun o' s' => LanWorked P j o o' ∧ K s') p s

theorem lanKeeps_pure {o' : NetworkOwner} (h : LanWorked P j o o') (hs : K s) :
    LanKeeps world K P j o (pure o') s := ⟨trivial, h, hs⟩

theorem LanKeeps.after {o' : NetworkOwner} {p : OwnerProg NetworkOwner} (hframe : LanFrame j o o')
    (hopened : ∀ k, k ≠ j → o'.opened k = o.opened k) (h : LanKeeps world K P j o' p s) :
    LanKeeps world K P j o p s := by
  refine Prog.Safe.mono h ?_
  rintro o'' s' - ⟨hworked, hs'⟩
  exact ⟨hworked.after hframe hopened, hs'⟩

theorem LanKeeps.bind {p : OwnerProg NetworkOwner} {f : NetworkOwner → OwnerProg NetworkOwner}
    (h : LanKeeps world K P j o p s)
    (hf : ∀ o' s', LanHolds P o' j → K s' → LanKeeps world K P j o' (f o') s') :
    LanKeeps world K P j o (p >>= f) s := by
  refine Prog.Safe.bind (Prog.Safe.mono h ?_)
  rintro o' s' - ⟨hworked, hs'⟩
  exact (hf o' s' hworked.manned hs').after hworked.frame hworked.opened

/-- A client that goes on with its socket as it is. -/
theorem lanWorked_client (h : LanHolds P o j) {d : DhcpClient} (hd : P d)
    (hoff : d.state ≠ .off → (o.dhcp j).state ≠ .off) {o' : NetworkOwner}
    (hframe : LanFrame j (withDhcp o j d) o') (hopened : o'.opened = o.opened)
    (hdhcp : o'.dhcp j = d) : LanWorked P j o o' where
  frame := (lanFrame_withDhcp j o d).trans hframe
  opened k _ := by rw [hopened]
  manned := by
    refine ⟨hdhcp ▸ hd, fun hstate => ?_⟩
    rw [hopened]
    rw [hdhcp] at hstate
    exact h.opened (hoff hstate)

theorem lanKeeps_close (hP : ClientKept P now) (hK : KeptBy world K (OwnerCall.OfLan j)) (o : NetworkOwner)
    (hs : K s) :
    LanKeeps world K P j o (closeLan o j) s := by
  have hstopped : LanWorked P j o { withDhcp o j (dhcpStop (o.dhcp j)) with
      opened := update o.opened j false } := by
    refine ⟨⟨rfl, (lanFrame_withDhcp j o _).others⟩, fun k hk => ?_, ?_, fun hstate => ?_⟩
    · simp [update_of_ne hk]
    · simpa [withDhcp] using hP.stop (o.dhcp j)
    · simp [withDhcp, dhcpStop] at hstate
  unfold closeLan
  simp only
  split
  · exact hK.call rfl hs fun _ _ hs' => lanKeeps_pure hstopped hs'
  · exact lanKeeps_pure hstopped hs

theorem lanManned_takePacket (docs : OwnerDocuments) (hP : ClientKept P now) (h : LanHolds P o j)
    (hopened : o.opened j = true) (bytes : List UInt8) :
    LanWorked P j o (takePacket docs o now j bytes) ∧ (takePacket docs o now j bytes).opened = o.opened := by
  have hclient : ∀ (d : DhcpClient) (o' : NetworkOwner), P d → LanFrame j (withDhcp o j d) o' →
      o'.opened = o.opened → o'.dhcp j = d → LanWorked P j o o' := by
    intro d o' hd hframe hsame hdhcp
    exact ⟨(lanFrame_withDhcp j o d).trans hframe, fun k _ => by rw [hsame],
      ⟨hdhcp ▸ hd, fun _ => hsame ▸ hopened⟩⟩
  unfold takePacket
  simp only
  split
  · exact ⟨hclient _ _ (hP.conflict _ h.client) (.refl j _) rfl (withDhcp_dhcp _ _ _), rfl⟩
  split
  · exact ⟨⟨.refl j o, fun _ _ => rfl, h⟩, rfl⟩
  · rename_i payload _
    have hreceived := hP.receive _ payload h.client
    split
    · exact ⟨hclient _ _ hreceived ⟨rfl, fun _ _ => rfl⟩ rfl (withDhcp_dhcp _ _ _), rfl⟩
    · exact ⟨hclient _ _ hreceived (.refl j _) rfl (withDhcp_dhcp _ _ _), rfl⟩

theorem lanKeeps_takePackets (hP : ClientKept P now) (hK : KeptBy world K (OwnerCall.OfLan j)) (packets : Nat)
    (h : LanHolds P o j)
    (hopened : o.opened j = true) (hs : K s) :
    LanKeeps world K P j o (takePackets docs now j packets o) s := by
  induction packets generalizing o s with
  | zero => exact lanKeeps_pure ⟨.refl j o, fun _ _ => rfl, h⟩ hs
  | succ packets ih =>
    refine hK.call rfl hs fun r s' hs' => ?_
    cases r with
    | nothing => exact lanKeeps_pure ⟨.refl j o, fun _ _ => rfl, h⟩ hs'
    | failed =>
      have hframe : LanFrame j o { o with error := 3 } := ⟨rfl, fun _ _ => rfl⟩
      exact (lanKeeps_close (j := j) hP hK _ hs').after hframe fun _ _ => rfl
    | packet bytes =>
      obtain ⟨hworked, hsame⟩ := lanManned_takePacket docs hP h hopened bytes
      exact (ih hworked.manned (hsame ▸ hopened) hs').after hworked.frame hworked.opened

theorem lanKeeps_sendMessage (hP : ClientKept P now) (hK : KeptBy world K (OwnerCall.OfLan j))
    (h : LanHolds P o j) (hs : K s) :
    LanKeeps world K P j o (sendMessage o now j) s := by
  have hsame : LanWorked P j o o := ⟨.refl j o, fun _ _ => rfl, h⟩
  unfold sendMessage
  split
  · refine hK.call rfl hs fun made s' hs' => ?_
    cases made with
    | false => exact lanKeeps_pure hsame hs'
    | true =>
      refine lanKeeps_pure (lanWorked_client h (hP.made _ h.client) ?_ (.refl j _) rfl
        (withDhcp_dhcp _ _ _)) hs'
      unfold dhcpPacketMade
      simp only
      split <;> exact id
  · exact lanKeeps_pure hsame hs

theorem lanKeeps_probeAddress (hP : ClientKept P now) (hK : KeptBy world K (OwnerCall.OfLan j))
    (h : LanHolds P o j) (hs : K s) :
    LanKeeps world K P j o (probeAddress o now j) s := by
  unfold probeAddress
  simp only
  split
  · rename_i hprobing
    have hon : ∀ d : DhcpClient, d.state ≠ .off → (o.dhcp j).state ≠ .off := by
      intro d _
      simp [hprobing.1]
    split
    · refine hK.call rfl hs fun r s' hs' => ?_
      split
      · exact lanKeeps_pure (lanWorked_client h (hP.conflict _ h.client) (hon _)
          ⟨rfl, fun _ _ => rfl⟩ rfl (withDhcp_dhcp _ _ _)) hs'
      · refine lanKeeps_pure (lanWorked_client h ?_ (hon _) ⟨rfl, fun _ _ => rfl⟩ rfl
          (withDhcp_dhcp _ _ _)) hs'
        exact hP.marks _ _ _ h.client
    · have hprobed := hP.probed _ h.client
      split
      · rename_i d heq
        rw [heq] at hprobed
        exact hK.call rfl hs fun _ s' hs' =>
          lanKeeps_pure (lanWorked_client h hprobed (hon _) (.refl j _) rfl (withDhcp_dhcp _ _ _)) hs'
      · rename_i d _ heq
        rw [heq] at hprobed
        exact lanKeeps_pure (lanWorked_client h hprobed (hon _) (.refl j _) rfl (withDhcp_dhcp _ _ _)) hs
  · exact lanKeeps_pure ⟨.refl j o, fun _ _ => rfl, h⟩ hs

/-- The end of the work on an interface: the change has been seen. -/
theorem lanWorked_seen (hP : ClientKept P now) (h : LanHolds P o j) :
    LanWorked P j o (withDhcp o j { o.dhcp j with changed := false }) :=
  lanWorked_client (d := { o.dhcp j with changed := false }) h
    (hP.marks _ _ _ h.client) id (.refl j _) rfl (withDhcp_dhcp _ _ _)

theorem lanKeeps_runClient (hP : ClientKept P now) (hK : KeptBy world K (OwnerCall.OfLan j)) (h : LanHolds P o j)
    (hopened : o.opened j = true) (hs : K s) : LanKeeps world K P j o (runClient docs o now j) s := by
  have hstep : LanFrame j o (withDhcp o j (dhcpStep (o.dhcp j) now ((o.observed.lan j).link ≠ 0))) :=
    lanFrame_withDhcp j o _
  have hstepped : LanHolds P (withDhcp o j (dhcpStep (o.dhcp j) now ((o.observed.lan j).link ≠ 0))) j :=
    ⟨by rw [withDhcp_dhcp]; exact hP.step _ _ h.client, fun _ => hopened⟩
  unfold runClient
  refine LanKeeps.after hstep (fun _ _ => rfl) ?_
  refine LanKeeps.bind (lanKeeps_takePackets hP hK 4 hstepped hopened hs) ?_
  intro o' s' h' hs'
  refine LanKeeps.bind (lanKeeps_sendMessage hP hK h' hs') ?_
  intro o' s' h' hs'
  refine LanKeeps.bind (lanKeeps_probeAddress hP hK h' hs') ?_
  intro o' s' h' hs'
  exact lanKeeps_pure (lanWorked_seen hP h') hs'

/-- **One interface**, in a step that may end with it. -/
theorem lanKeeps_stepLan (hP : ClientKept P now) (hK : KeptBy world K (OwnerCall.OfLan j)) (h : LanHolds P o j)
    (hs : K s) :
    Prog.Safe world (fun _ => True) (fun r s' => LanWorked P j o r.1 ∧ K s') (stepLan docs o now j) s := by
  have hsame : LanWorked P j o o := ⟨.refl j o, fun _ _ => rfl, h⟩
  have hrun : ∀ (o' : NetworkOwner) (s' : σ), LanFrame j o o' → (∀ k, k ≠ j → o'.opened k = o.opened k) →
      LanHolds P o' j → o'.opened j = true → K s' →
      Prog.Safe world (fun _ => True) (fun r s' => LanWorked P j o r.1 ∧ K s')
        (do let o ← runClient docs o' now j
            pure (o, some (o.dhcp j).valid)) s' := by
    intro o' s' hframe hothers hmanned hopened hs'
    refine Prog.Safe.bind (Prog.Safe.mono (lanKeeps_runClient hP hK hmanned hopened hs') ?_)
    rintro o'' s'' - ⟨hworked, hs''⟩
    exact ⟨trivial, hworked.after hframe hothers, hs''⟩
  unfold stepLan
  split
  · exact ⟨trivial, hsame, hs⟩
  split
  · split
    · exact ⟨trivial, hsame, hs⟩
    · refine hK.call rfl hs fun r s' hs' => ?_
      split
      · exact ⟨trivial, ⟨⟨by simp only [NetworkOwner.core], fun _ _ => rfl⟩, fun _ _ => rfl,
          ⟨h.client, h.opened⟩⟩, hs'⟩
      · have hopen : LanFrame j o
            { o with opened := update o.opened j true, nextXid := o.nextXid + 1 } :=
          ⟨by simp only [NetworkOwner.core], fun _ _ => rfl⟩
        refine hrun _ s' (hopen.trans (lanFrame_withDhcp j _ _)) ?_ ?_ (by simp [withDhcp]) hs'
        · intro k hk
          simp [withDhcp, update_of_ne hk]
        · refine ⟨?_, fun _ => by simp [withDhcp]⟩
          rw [withDhcp_dhcp]
          exact hP.start _ _
  · rename_i hopened
    exact hrun o s (.refl j o) (fun _ _ => rfl) h (by simpa using hopened) hs

end Interfaces

/-! ## The owner -/

/-- The owner keeps its clients as they are. -/
structure SameClients (o o' : NetworkOwner) : Prop where
  dhcp : o'.dhcp = o.dhcp
  opened : o'.opened = o.opened
  policy : o'.policy = o.policy
  observed : o'.observed = o.observed
  active : o'.active = o.active
  stopping : o'.stopping = o.stopping

/-- What holds of an owner at any time. -/
structure Manned (o : NetworkOwner) : Prop where
  lans : ∀ j, LanManned o j
  active : ∀ j, (o.dhcp j).state ≠ .off → o.active = true

theorem SameClients.refl (o : NetworkOwner) : SameClients o o := ⟨rfl, rfl, rfl, rfl, rfl, rfl⟩

theorem SameClients.manned {o o' : NetworkOwner} (hsame : SameClients o o') (h : Manned o) : Manned o' where
  lans j := by
    refine ⟨?_, fun hstate => ?_⟩
    · rw [hsame.dhcp]
      exact (h.lans j).client
    · rw [hsame.dhcp] at hstate
      rw [hsame.opened]
      exact (h.lans j).opened hstate
  active j hstate := by
    rw [hsame.dhcp] at hstate
    rw [hsame.active]
    exact h.active j hstate

section Owner

variable {σ : Type} {world : Prog.World OwnerCall OwnerCall.Result σ} {K : σ → Prop} {i : Lan} {s : σ}
  {o o' : NetworkOwner} {now : CoreTick} {docs : OwnerDocuments}

theorem LanFrame.same (h : LanFrame i o o') :
    o'.policy = o.policy ∧ o'.observed = o.observed ∧ o'.active = o.active ∧ o'.stopping = o.stopping := by
  have same : ∀ {α : Type} (f : NetworkOwner → α), f o'.core = f o.core := fun f => congrArg f h.core
  exact ⟨same NetworkOwner.policy, same NetworkOwner.observed, same NetworkOwner.active,
    same NetworkOwner.stopping⟩

theorem LanWorked.lans {P : DhcpClient → Prop} (hworked : LanWorked P i o o') (h : ∀ j, LanHolds P o j) :
    ∀ j, LanHolds P o' j := by
  intro j
  by_cases hj : j = i
  · rw [hj]
    exact hworked.manned
  · refine ⟨?_, fun hstate => ?_⟩
    · rw [hworked.frame.others j hj]
      exact (h j).client
    · rw [hworked.frame.others j hj] at hstate
      rw [hworked.opened j hj]
      exact (h j).opened hstate

/-- An interface has been worked on: so is the owner. -/
theorem LanWorked.owner (hworked : LanWorked Composed i o o') (h : Manned o) (hactive : o.active = true) :
    Manned o' := by
  exact ⟨hworked.lans h.lans, fun _ _ => hworked.frame.same.2.2.1.trans hactive⟩

/-- Giving a lease back touches the client of a lease alone. -/
theorem giveUpLease_client (o : NetworkOwner) (now : CoreTick) (i j : Lan) :
    (giveUpLease o now i).dhcp j = o.dhcp j ∨
      ((o.dhcp j).valid = true ∨ (o.dhcp j).state = .probing) ∧
        (giveUpLease o now i).dhcp j = dhcpConflict (o.dhcp j) now := by
  unfold giveUpLease
  split
  · rename_i hlease
    by_cases hj : j = i
    · obtain rfl := hj
      exact .inr ⟨hlease.2, withDhcp_dhcp _ _ _⟩
    · exact .inl (by simp [withDhcp, update_of_ne hj])
  · exact .inl rfl

theorem giveUpLease_same (o : NetworkOwner) (now : CoreTick) (i : Lan) :
    (giveUpLease o now i).opened = o.opened ∧ (giveUpLease o now i).policy = o.policy ∧
      (giveUpLease o now i).observed = o.observed ∧ (giveUpLease o now i).active = o.active ∧
      (giveUpLease o now i).stopping = o.stopping := by
  unfold giveUpLease
  split <;> exact ⟨rfl, rfl, rfl, rfl, rfl⟩

theorem giveUpLease_core (o : NetworkOwner) (now : CoreTick) (i : Lan) :
    (giveUpLease o now i).core = o.core := by
  unfold giveUpLease
  split <;> rfl

theorem manned_giveUpLease (h : Manned o) (now : CoreTick) (i : Lan) : Manned (giveUpLease o now i) := by
  obtain ⟨hopened, -, -, hactive, -⟩ := giveUpLease_same o now i
  have hon : ∀ j, (o.dhcp j).valid = true ∨ (o.dhcp j).state = .probing → (o.dhcp j).state ≠ .off := by
    intro j hlease hoff
    have hsteady : (o.dhcp j).valid = (o.dhcp j).state.leased := (h.lans j).client.steady
    rw [hoff] at hsteady hlease
    rcases hlease with hvalid | hprobing
    · exact absurd (hsteady.symm.trans hvalid) (by decide)
    · cases hprobing
  refine ⟨fun j => ?_, fun j hstate => ?_⟩
  · rcases giveUpLease_client o now i j with hclient | ⟨hlease, hclient⟩
    · refine ⟨hclient ▸ (h.lans j).client, fun hstate => ?_⟩
      rw [hclient] at hstate
      rw [hopened]
      exact (h.lans j).opened hstate
    · refine ⟨hclient ▸ (clientKept_composed now).conflict _ (h.lans j).client, fun _ => ?_⟩
      rw [hopened]
      exact (h.lans j).opened (hon j hlease)
  · rw [hactive]
    rcases giveUpLease_client o now i j with hclient | ⟨hlease, hclient⟩
    · rw [hclient] at hstate
      exact h.active j hstate
    · exact h.active j (hon j hlease)

/-- The clients after the target has been chosen: those of the leases have been given back,
    or none. -/
theorem chooseTarget_clients (docs : OwnerDocuments) (o : NetworkOwner) (now : CoreTick) :
    SameClients o (chooseTarget docs o now).1 ∨
      SameClients (giveUpLease (giveUpLease { o with error := 5 } now 0) now 1)
        (chooseTarget docs o now).1 := by
  unfold chooseTarget
  split
  · exact .inl ⟨rfl, rfl, rfl, rfl, rfl, rfl⟩
  · right
    simp only
    split
    · exact ⟨rfl, rfl, rfl, rfl, rfl, rfl⟩
    · exact .refl _

theorem manned_chooseTarget (docs : OwnerDocuments) (h : Manned o) (now : CoreTick) :
    Manned (chooseTarget docs o now).1 := by
  rcases chooseTarget_clients docs o now with hsame | hsame
  · exact hsame.manned h
  · refine hsame.manned (manned_giveUpLease (manned_giveUpLease ?_ now 0) now 1)
    exact ⟨fun j => ⟨(h.lans j).client, (h.lans j).opened⟩, h.active⟩

/-- Each client after the target has been chosen. -/
theorem chooseTarget_holds {P : DhcpClient → Prop} (hP : ClientKept P now) (docs : OwnerDocuments)
    (h : ∀ j, P (o.dhcp j)) (j : Lan) : P ((chooseTarget docs o now).1.dhcp j) := by
  have hgive : ∀ (o' : NetworkOwner) (i : Lan), (∀ j, P (o'.dhcp j)) → ∀ j, P ((giveUpLease o' now i).dhcp j) := by
    intro o' i h' j
    rcases giveUpLease_client o' now i j with hclient | ⟨-, hclient⟩
    · exact hclient ▸ h' j
    · exact hclient ▸ hP.conflict _ (h' j)
  rcases chooseTarget_clients docs o now with hsame | hsame
  · rw [hsame.dhcp]
    exact h j
  · rw [hsame.dhcp]
    exact hgive _ 1 (hgive { o with error := 5 } 0 h) j

theorem chooseTarget_same (docs : OwnerDocuments) (o : NetworkOwner) (now : CoreTick) :
    (chooseTarget docs o now).1.policy = o.policy ∧ (chooseTarget docs o now).1.active = o.active ∧
      (chooseTarget docs o now).1.stopping = o.stopping := by
  rcases chooseTarget_clients docs o now with hsame | hsame
  · exact ⟨hsame.policy, hsame.active, hsame.stopping⟩
  · obtain ⟨-, hpolicy₀, -, hactive₀, hstop₀⟩ := giveUpLease_same { o with error := 5 } now 0
    obtain ⟨-, hpolicy₁, -, hactive₁, hstop₁⟩ := giveUpLease_same (giveUpLease { o with error := 5 } now 0) now 1
    exact ⟨hsame.policy.trans (hpolicy₁.trans hpolicy₀), hsame.active.trans (hactive₁.trans hactive₀),
      hsame.stopping.trans (hstop₁.trans hstop₀)⟩

/-- A target that is chosen is that of the policy and of the leases that are left. -/
theorem chooseTarget_computed (docs : OwnerDocuments) (o : NetworkOwner) (now : CoreTick)
    (h : (chooseTarget docs o now).2.isSome = true) :
    computeTarget docs (chooseTarget docs o now).1.policy (chooseTarget docs o now).1.observed
      (chooseTarget docs o now).1.dhcp =
      some ((chooseTarget docs o now).1.target, (chooseTarget docs o now).1.resolver) := by
  revert h
  unfold chooseTarget
  split
  · rename_i t resolver htarget
    exact fun _ => htarget
  · simp only
    split
    · rename_i t resolver htarget
      exact fun _ => htarget
    · intro hsome
      cases hsome

/-- The program leaves the clients alone. -/
abbrev KeepsClients (world : Prog.World OwnerCall OwnerCall.Result σ) (K : σ → Prop) (o : NetworkOwner)
    (p : OwnerProg NetworkOwner) (s : σ) : Prop :=
  Prog.Safe world (fun _ => True) (fun o' s' => SameClients o o' ∧ K s') p s

theorem keepsClients_reapJob (hK : KeptBy world K OwnerCall.OfJob) (hsame : SameClients o o') (hs : K s) :
    KeepsClients world K o (reapJob o' now) s := by
  refine hK.call trivial hs fun r s' hs' => ?_
  split
  · exact ⟨trivial, hsame, hs'⟩
  · simp only
    split <;> exact ⟨trivial, ⟨hsame.dhcp, hsame.opened, hsame.policy, hsame.observed, hsame.active,
      hsame.stopping⟩, hs'⟩

/-- The end of a step. -/
theorem keepsClients_settle (hK : KeptBy world K OwnerCall.OfJob) (o : NetworkOwner) (now : CoreTick)
    (eligible : Bool)
    (hs : K s) : KeepsClients world K o (settle o now eligible) s := by
  have hset : SameClients o o := .refl o
  unfold settle
  split
  · unfold watchJob
    split
    · refine hK.call trivial hs fun r s' hs' => ?_
      split
      · exact ⟨trivial, ⟨rfl, rfl, rfl, rfl, rfl, rfl⟩, hs'⟩
      · exact keepsClients_reapJob hK ⟨rfl, rfl, rfl, rfl, rfl, rfl⟩ hs'
    · exact keepsClients_reapJob hK hset hs
  split
  · refine hK.call trivial hs fun r s' hs' => ?_
    split <;> exact ⟨trivial, ⟨rfl, rfl, rfl, rfl, rfl, rfl⟩, hs'⟩
  · split
    · exact ⟨trivial, ⟨rfl, rfl, rfl, rfl, rfl, rfl⟩, hs⟩
    · exact ⟨trivial, hset, hs⟩

theorem keepsClients_ownerBlind (hK : KeptBy world K OwnerCall.OfJob) (o : NetworkOwner) (hs : K s) :
    KeepsClients world K o (ownerBlind o) s := by
  have hreap : ∀ (o' : NetworkOwner) (s' : σ), SameClients o o' → K s' →
      KeepsClients world K o (reapBlind o') s' := by
    intro o' s' hsame hs'
    refine hK.call trivial hs' fun r s'' hs'' => ?_
    split
    · exact ⟨trivial, ⟨hsame.dhcp, hsame.opened, hsame.policy, hsame.observed, hsame.active,
        hsame.stopping⟩, hs''⟩
    · exact ⟨trivial, hsame, hs''⟩
  unfold ownerBlind
  simp only
  split
  · exact ⟨trivial, ⟨rfl, rfl, rfl, rfl, rfl, rfl⟩, hs⟩
  split
  · refine hK.call trivial hs fun r s' hs' => ?_
    split
    · exact hreap _ s' ⟨rfl, rfl, rfl, rfl, rfl, rfl⟩ hs'
    · exact hreap _ s' ⟨rfl, rfl, rfl, rfl, rfl, rfl⟩ hs'
  · exact hreap _ s ⟨rfl, rfl, rfl, rfl, rfl, rfl⟩ hs

/-- All calls keep what is always true. -/
theorem keptBy_true (world : Prog.World OwnerCall OwnerCall.Result σ) (calls : OwnerCall → Prop) :
    KeptBy world (fun _ => True) calls := fun _ _ _ _ _ _ _ => trivial

theorem manned_stepLan (h : Manned o) (hactive : o.active = true) (j : Lan) (s : σ) :
    Prog.Safe world (fun _ => True)
      (fun r _ => Manned r.1 ∧ r.1.active = true ∧ r.1.stopping = o.stopping) (stepLan docs o now j) s := by
  refine Prog.Safe.mono
    (lanKeeps_stepLan (clientKept_composed now) (keptBy_true world _) (h.lans j) trivial) ?_
  rintro r s' - ⟨hworked, -⟩
  obtain ⟨-, -, hsame, hstopping⟩ := hworked.frame.same
  exact ⟨hworked.owner h hactive, hsame.trans hactive, hstopping⟩

theorem manned_ownerObserved (h : Manned o) (hactive : o.active = true) (s : σ) :
    Prog.Safe world (fun _ => True) (fun o' _ => Manned o' ∧ o'.stopping = o.stopping)
      (ownerObserved docs o now) s := by
  refine Prog.Safe.bind (Prog.Safe.mono (manned_stepLan h hactive 0 s) ?_)
  rintro ⟨o₁, first⟩ s₁ - ⟨h₁, hactive₁, hstop₁⟩
  cases first with
  | none => exact ⟨trivial, h₁, hstop₁⟩
  | some first =>
    refine Prog.Safe.bind (Prog.Safe.mono (manned_stepLan h₁ hactive₁ 1 s₁) ?_)
    rintro ⟨o₂, second⟩ s₂ - ⟨h₂, -, hstop₂⟩
    cases second with
    | none => exact ⟨trivial, h₂, hstop₂.trans hstop₁⟩
    | some second =>
      have h₃ := manned_chooseTarget docs h₂ now
      have hstop₃ := (chooseTarget_same docs o₂ now).2.2.trans (hstop₂.trans hstop₁)
      simp only
      split
      · rename_i o₃ heq
        rw [heq] at h₃ hstop₃
        exact ⟨trivial, h₃, hstop₃⟩
      · rename_i o₃ suits heq
        rw [heq] at h₃ hstop₃
        refine Prog.Safe.mono (keepsClients_settle (keptBy_true world _) o₃ now _ trivial) ?_
        rintro o₄ s₄ - ⟨hsame, -⟩
        exact ⟨hsame.manned h₃, hsame.stopping.trans hstop₃⟩

/-- A lease that has run out is not that of a client that is off. -/
theorem manned_expireLease (h : Manned o) (now : CoreTick) (j : Lan) : Manned (expireLease o now j) := by
  unfold expireLease
  split
  · rename_i hexpired
    simp only [Bool.and_eq_true] at hexpired
    have hsteady : (o.dhcp j).valid = (o.dhcp j).state.leased := (h.lans j).client.steady
    have hon : (o.dhcp j).state ≠ .off := by
      intro hoff
      rw [hoff] at hsteady
      exact absurd (hsteady.symm.trans hexpired.1) (by decide)
    refine ⟨fun k => ?_, fun k _ => h.active j hon⟩
    by_cases hk : k = j
    · obtain rfl := hk
      refine ⟨?_, fun _ => (h.lans k).opened hon⟩
      simpa using composed_step (h.lans k).client now true
    · refine ⟨?_, fun hstate => ?_⟩
      · simpa [withDhcp, update_of_ne hk] using (h.lans k).client
      · refine (h.lans k).opened ?_
        simpa [withDhcp, update_of_ne hk] using hstate
  · exact h

theorem expireLease_same (o : NetworkOwner) (now : CoreTick) (j : Lan) :
    (expireLease o now j).policy = o.policy ∧ (expireLease o now j).observed = o.observed ∧
      (expireLease o now j).active = o.active ∧ (expireLease o now j).opened = o.opened ∧
      (expireLease o now j).stopping = o.stopping := by
  unfold expireLease
  split <;> exact ⟨rfl, rfl, rfl, rfl, rfl⟩

theorem manned_ownerStep (docs : OwnerDocuments) (h : Manned o) (now : CoreTick) (s : σ) :
    Prog.Safe world (fun _ => True) (fun o' _ => Manned o' ∧ o'.stopping = o.stopping)
      (ownerStep docs o now) s := by
  unfold ownerStep
  split
  · exact ⟨trivial, h, rfl⟩
  · rename_i hactive
    have hactive : o.active = true := by simpa using hactive
    have hquiet : Manned { o with ready := false, settled := false } :=
      ⟨fun j => ⟨(h.lans j).client, (h.lans j).opened⟩, h.active⟩
    have hexpired := manned_expireLease (manned_expireLease hquiet now 0) now 1
    obtain ⟨-, -, hactive₀, -, hstop₀⟩ := expireLease_same { o with ready := false, settled := false } now 0
    obtain ⟨-, -, hactive₁, -, hstop₁⟩ :=
      expireLease_same (expireLease { o with ready := false, settled := false } now 0) now 1
    have hstill := hactive₁.trans (hactive₀.trans hactive)
    have hstop := hstop₁.trans hstop₀
    simp only
    split
    · refine (keptBy_true world fun _ => True).call trivial trivial ?_
      rintro ⟨r, observed⟩ s' -
      have hseen : ∀ (observed : NetworkObservation) (nextObserve : CoreTick),
          Manned { expireLease (expireLease { o with ready := false, settled := false } now 0) now 1 with
            observed := observed, nextObserve := nextObserve } := fun _ _ =>
        ⟨fun j => ⟨(hexpired.lans j).client, (hexpired.lans j).opened⟩, hexpired.active⟩
      simp only
      split
      · refine Prog.Safe.mono (keepsClients_ownerBlind (keptBy_true world _) _ trivial) ?_
        rintro o' s'' - ⟨hsame, -⟩
        exact ⟨hsame.manned (hseen observed _), hsame.stopping.trans hstop⟩
      · refine Prog.Safe.mono (manned_ownerObserved (hseen observed _) hstill s') ?_
        exact fun o' _ _ hpost => ⟨hpost.1, hpost.2.trans hstop⟩
    · refine Prog.Safe.mono (manned_ownerObserved hexpired hstill s) ?_
      exact fun o' _ _ hpost => ⟨hpost.1, hpost.2.trans hstop⟩

/-! ## Policies and runs -/

theorem lans_leaveMode (h : ∀ j, LanManned o j) (p : NetworkPolicy) (j : Lan) (s : σ) :
    Prog.Safe world (fun _ => True) (fun o' _ => ∀ k, LanManned o' k) (leaveMode o p j) s := by
  unfold leaveMode
  split
  · refine Prog.Safe.mono (lanKeeps_close (clientKept_composed 0) (keptBy_true world _) o trivial) ?_
    rintro o' s' - ⟨hworked, -⟩
    exact hworked.lans h
  · exact ⟨trivial, h⟩

theorem manned_ownerPolicy (h : Manned o) (p : NetworkPolicy) (now : CoreTick) (s : σ) :
    Prog.Safe world (fun _ => True) (fun r _ => Manned r.2) (ownerPolicy o p now) s := by
  have hadopt : ∀ (o' : NetworkOwner) (s' : σ), (∀ j, LanManned o' j) →
      Prog.Safe world (fun _ => True) (fun r _ => Manned r.2) (adoptPolicy o' p now) s' := by
    intro o' s' h'
    refine Prog.Safe.bind (Prog.Safe.mono (lans_leaveMode h' p 0 s') ?_)
    rintro o₁ s₁ - h₁
    refine Prog.Safe.bind (Prog.Safe.mono (lans_leaveMode h₁ p 1 s₁) ?_)
    rintro o₂ s₂ - h₂
    exact ⟨trivial, fun j => ⟨(h₂ j).client, (h₂ j).opened⟩, fun _ _ => rfl⟩
  unfold ownerPolicy
  split
  · exact ⟨trivial, h⟩
  split
  · refine (keptBy_true world fun _ => True).call trivial trivial fun r s' _ => ?_
    split
    · exact ⟨trivial, h⟩
    · exact hadopt _ s' fun j => ⟨(h.lans j).client, (h.lans j).opened⟩
  · exact hadopt o s h.lans

theorem manned_closeLan (h : Manned o) (i : Lan) (s : σ) :
    Prog.Safe world (fun _ => True) (fun o' _ => Manned o') (closeLan o i) s := by
  have hclosed : Manned { withDhcp o i (dhcpStop (o.dhcp i)) with
      opened := update o.opened i false } := by
    refine ⟨fun j => ?_, fun j hstate => ?_⟩
    · by_cases hj : j = i
      · obtain rfl := hj
        exact ⟨by simpa using (clientKept_composed 0).stop (o.dhcp j), fun hstate => by simp [withDhcp, dhcpStop] at hstate⟩
      · exact ⟨by simpa [withDhcp, update_of_ne hj] using (h.lans j).client, fun hstate => by
          simpa [update_of_ne hj] using (h.lans j).opened (by
            simpa [withDhcp, update_of_ne hj] using hstate)⟩
    · by_cases hj : j = i
      · obtain rfl := hj
        simp [withDhcp, dhcpStop] at hstate
      · exact h.active j (by simpa [withDhcp, update_of_ne hj] using hstate)
  unfold closeLan
  simp only
  split
  · exact (keptBy_true world fun _ => True).call trivial trivial fun _ _ _ => ⟨trivial, hclosed⟩
  · exact ⟨trivial, hclosed⟩

theorem manned_ownerStop (h : Manned o) (s : σ) :
    Prog.Safe world (fun _ => True) (fun o' _ => Manned o') (ownerStop o) s := by
  refine Prog.Safe.bind (Prog.Safe.mono (manned_closeLan h 0 s) ?_)
  rintro o₁ s₁ - h₁
  refine Prog.Safe.bind (Prog.Safe.mono (manned_closeLan h₁ 1 s₁) ?_)
  rintro o₂ s₂ - h₂
  have hstopped : ∀ canceling ready settled dirty generation stopping, Manned { o₂ with
      canceling := canceling, ready := ready, settled := settled, dirty := dirty
      generation := generation, stopping := stopping } := fun _ _ _ _ _ _ =>
    ⟨fun j => ⟨(h₂.lans j).client, (h₂.lans j).opened⟩, h₂.active⟩
  simp only
  split
  · refine (keptBy_true world fun _ => True).call trivial trivial fun r s' _ => ?_
    split
    · exact ⟨trivial, hstopped true false false true (o₂.generation + 1) true⟩
    · exact ⟨trivial, hstopped o₂.canceling false false true (o₂.generation + 1) true⟩
  · exact ⟨trivial, hstopped o₂.canceling false false true (o₂.generation + 1) true⟩

/-- An owner that is not stopping adopts a policy and goes on. -/
theorem running_ownerPolicy (h : o.stopping = false) (p : NetworkPolicy)
    (now : CoreTick) (s : σ) :
    Prog.Safe world (fun _ => True) (fun r _ => r.2.stopping = false) (ownerPolicy o p now) s := by
  have hadopt : ∀ (o' : NetworkOwner) (s' : σ),
      Prog.Safe world (fun _ => True) (fun r _ => r.2.stopping = false) (adoptPolicy o' p now) s' := by
    intro o' s'
    refine Prog.Safe.bind (Prog.Safe.mono (Prog.safe_true _ _) fun o₁ s₁ _ _ => ?_)
    refine Prog.Safe.bind (Prog.Safe.mono (Prog.safe_true _ _) fun o₂ s₂ _ _ => ?_)
    exact ⟨trivial, rfl⟩
  unfold ownerPolicy
  split
  · exact ⟨trivial, h⟩
  split
  · refine (keptBy_true world fun _ => True).call trivial trivial fun r s' _ => ?_
    split
    · exact ⟨trivial, h⟩
    · exact hadopt _ s'
  · exact hadopt o s

end Owner

theorem manned_init (seed : BitVec 32) : Manned (ownerInit seed) where
  lans _ := ⟨composed_idle rfl (.inr rfl) (.inl rfl), fun hstate => absurd rfl hstate⟩
  active _ hstate := absurd rfl hstate

/-- **Every owner is manned**, and runs, whenever its steps come. -/
theorem manned_of_run {docs : OwnerDocuments} {allowed : OwnerMonitor → Nat → Prop} {o : NetworkOwner}
    {m : OwnerMonitor} {t : Nat} (hrun : OwnerRun docs allowed o m t) : Manned o ∧ o.stopping = false := by
  induction hrun with
  | init seed now => exact ⟨manned_init seed, rfl⟩
  | policy p now hrun hnow h ih =>
    exact ⟨((manned_ownerPolicy ih.1 p (tick now) _).runs h).2 _ rfl,
      ((running_ownerPolicy ih.2 p (tick now) _).runs h).2 _ rfl⟩
  | step now hrun hnow hallowed h ih =>
    obtain ⟨hmanned, hstopping⟩ := ((manned_ownerStep docs ih.1 (tick now) _).runs h).2 _ rfl
    exact ⟨hmanned, hstopping.trans ih.2⟩

end FourVrs.Network
