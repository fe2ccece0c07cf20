import FourVrs.Lib.Prog
import FourVrs.Network.Dhcp

/-!
# The network owner (`network/gateway_network_owner.c`)

One process owns the two interfaces. In each step it observes them, runs the DHCP
clients, computes the target its policy and the leases ask for, and starts a job that
writes the target when the interfaces are not as they should be. What it does to the
world it does through operations, so a step is a program that calls them.

The documents of a profile are texts here; `OwnerDocuments` stands for what the owner
asks of them, and for the frames a packet socket delivers.
-/

set_option autoImplicit false

namespace FourVrs.Network

open FourVrs.Core Lib

/-- `gateway_lan_observation_t`. -/
structure LanObservation where
  present : Nat := 0
  up : Nat := 0
  link : Nat := 0
  mac : List UInt8 := []
  address : CText := []
  netmask : CText := []
  broadcast : CText := []
  deriving DecidableEq, Inhabited

/-- `gateway_network_observation_t`. -/
structure NetworkObservation where
  lan : Lan → LanObservation := fun _ => {}
  unsupported : Nat := 0
  defaultLan : Nat := 0
  defaultRoutes : Nat := 0
  gateway : CText := []
  dns : Fin 2 → CText := fun _ => []
  deriving Inhabited

/-- What the owner uses of `gateway_network_profile_t`. -/
structure NetworkPolicy where
  settings : NetworkSettings := {}
  interfaces : CText := []
  resolver : CText := []
  deriving Inhabited

structure OwnerDocuments where
  /-- `gateway_network_profile_broadcast`. -/
  broadcast : NetworkPolicy → Lan → Option CText
  /-- `gateway_network_resolver`. -/
  resolver : CText → (Fin 2 → CText) → Option CText
  /-- What `gateway_dhcp_frame` hands on to `gateway_dhcp_receive`. -/
  payload : DhcpClient → List UInt8 → Option (List UInt8)
  /-- `gateway_dhcp_arp_conflict`. -/
  arpConflict : DhcpClient → List UInt8 → Bool

/-- `gateway_network_owner_ops_t`. -/
inductive OwnerCall where
  | observe
  | open (lan : Lan)
  | close (lan : Lan)
  | receive (lan : Lan)
  | send (lan : Lan)
  | probe (lan : Lan) (announce : Bool)
  | apply (target : NetworkObservation) (resolver : CText)
  | poll
  | cancel

inductive OwnerReceived where
  | nothing | failed
  | packet (bytes : List UInt8)

/-- `observe` also writes an observation, whatever it returns; `send` may make a message. -/
abbrev OwnerCall.Result : OwnerCall → Type
  | .observe => Int × NetworkObservation
  | .receive _ => OwnerReceived
  | .send _ => Bool
  | .close _ => Unit
  | .open _ | .probe _ _ | .apply _ _ | .poll | .cancel => Int

abbrev OwnerProg (α : Type) : Type := Prog OwnerCall OwnerCall.Result α

def ownerCall (call : OwnerCall) : OwnerProg call.Result := .lift call

structure NetworkOwner where
  policy : NetworkPolicy := {}
  dhcp : Lan → DhcpClient := fun _ => {}
  observed : NetworkObservation := {}
  target : NetworkObservation := {}
  writing : NetworkObservation := {}
  resolver : CText := []
  nextObserve : CoreTick := 0
  retryAt : CoreTick := 0
  probeAt : Lan → CoreTick := fun _ => 0
  jobDeadline : CoreTick := 0
  opened : Lan → Bool := fun _ => false
  generation : BitVec 32 := 0
  jobGeneration : BitVec 32 := 0
  job : Bool := false
  canceling : Bool := false
  dirty : Bool := false
  ready : Bool := false
  settled : Bool := false
  error : Nat := 0
  active : Bool := false
  nextXid : BitVec 32
  stopping : Bool := false

/-- `gateway_network_owner_init`. -/
def ownerInit (seed : BitVec 32) : NetworkOwner := { nextXid := if seed = 0 then 1 else seed }

/-- `equal`. -/
def observationEqual (a b : NetworkObservation) : Bool :=
  let lan (i : Lan) : Bool :=
    decide ((a.lan i).up = (b.lan i).up ∧ (a.lan i).address = (b.lan i).address ∧
      (a.lan i).netmask = (b.lan i).netmask ∧ (a.lan i).broadcast = (b.lan i).broadcast)
  lan 0 && lan 1 && decide (a.defaultLan = b.defaultLan ∧ a.gateway = b.gateway ∧
    a.dns 0 = b.dns 0 ∧ a.dns 1 = b.dns 1)

/-! ## The policy -/

variable (o : NetworkOwner) (docs : OwnerDocuments)

def withDhcp (i : Lan) (d : DhcpClient) : NetworkOwner :=
  { o with dhcp := Function.update o.dhcp i d }

/-- The client of an interface is stopped and its socket closed. -/
def closeLan (i : Lan) : OwnerProg NetworkOwner := do
  let o := withDhcp o i (dhcpStop (o.dhcp i))
  if o.opened i then
    let _ ← ownerCall (.close i)
    pure { o with opened := Function.update o.opened i false }
  else pure { o with opened := Function.update o.opened i false }

/-- An interface whose mode the new policy changes. -/
def leaveMode (p : NetworkPolicy) (i : Lan) : OwnerProg NetworkOwner :=
  if ¬ o.active ∨ (p.settings.lan i).mode ≠ (o.policy.settings.lan i).mode then closeLan o i else pure o

def adoptPolicy (p : NetworkPolicy) (now : CoreTick) : OwnerProg (Int × NetworkOwner) := do
  let o ← leaveMode o p 0
  let o ← leaveMode o p 1
  pure (0, { o with policy := p, active := true, stopping := false, ready := false, settled := false,
                    error := 0, dirty := true, generation := o.generation + 1, nextObserve := now,
                    retryAt := now })

/-- `gateway_network_owner_policy`. -/
def ownerPolicy (p : NetworkPolicy) (now : CoreTick) : OwnerProg (Int × NetworkOwner) := do
  if settingsValidate p.settings ≠ .ok then pure (-1, o)
  else if o.job && !o.canceling then
    let r ← ownerCall .cancel
    if r ≠ 0 then pure (-1, o) else adoptPolicy { o with canceling := true } p now
  else adoptPolicy o p now

/-! ## The target -/

/-- The addresses an interface should have. -/
def targetLan (policy : NetworkPolicy) (d : DhcpClient) (i : Lan) (seen : LanObservation) :
    Option LanObservation :=
  if seen.present = 0 then none
  else
    match (policy.settings.lan i).mode with
    | .static =>
        (docs.broadcast policy i).map fun broadcast =>
          { seen with up := 1, address := (policy.settings.lan i).address,
                      netmask := (policy.settings.lan i).netmask, broadcast := broadcast }
    | .dhcpClient =>
        if d.valid then
          some { seen with up := 1, address := d.lease.address, netmask := d.lease.netmask,
                           broadcast := d.lease.broadcast }
        else some { seen with up := 1, address := [], netmask := [], broadcast := [] }

/-- The router of the default route, if the policy has one. -/
def targetGateway (policy : NetworkPolicy) (dhcp : Lan → DhcpClient) : CText :=
  let route := policy.settings.defaultLan
  if route = 0 then []
  else
    let i := lanOfNumber route
    match (policy.settings.lan i).mode with
    | .static => (policy.settings.lan i).gateway
    | .dhcpClient => if (dhcp i).valid then (dhcp i).lease.gateway else []

def targetDns (policy : NetworkPolicy) (dhcp : Lan → DhcpClient) : Fin 2 → CText :=
  if policy.settings.automaticDns ≠ 0 then
    let source := if policy.settings.dnsLan ≠ 0 then policy.settings.dnsLan else policy.settings.defaultLan
    if source ≠ 0 ∧ (dhcp (lanOfNumber source)).valid then (dhcp (lanOfNumber source)).lease.dns
    else fun _ => []
  else policy.settings.dns

/-- The resolver document of the target. -/
def targetResolver (policy : NetworkPolicy) (dhcp : Lan → DhcpClient) : Option CText :=
  if policy.settings.automaticDns ≠ 0 then docs.resolver policy.resolver (targetDns policy dhcp)
  else some policy.resolver

/-- The settings a target is checked as. -/
def targetSettings (t : NetworkObservation) : NetworkSettings where
  lan i :=
    let gateway := if t.defaultLan ≠ 0 ∧ lanOfNumber t.defaultLan = i then t.gateway else []
    if (t.lan i).address ≠ [] then
      { address := (t.lan i).address, netmask := (t.lan i).netmask, gateway := gateway }
    else { mode := .dhcpClient, gateway := gateway }
  defaultLan := t.defaultLan
  dns := t.dns

/-- `target`. What a failed one leaves in the owner is never read. -/
def computeTarget (policy : NetworkPolicy) (observed : NetworkObservation) (dhcp : Lan → DhcpClient) :
    Option (NetworkObservation × CText) := do
  let lan0 ← targetLan docs policy (dhcp 0) 0 (observed.lan 0)
  let lan1 ← targetLan docs policy (dhcp 1) 1 (observed.lan 1)
  let gateway := targetGateway policy dhcp
  let t : NetworkObservation :=
    { lan := fun i => if i = 0 then lan0 else lan1
      unsupported := 0
      defaultLan := if gateway ≠ [] then policy.settings.defaultLan else 0
      defaultRoutes := if gateway ≠ [] then 1 else 0
      gateway := gateway
      dns := targetDns policy dhcp }
  let resolver ← targetResolver docs policy dhcp
  if settingsValidate (targetSettings t) ≠ .ok then none else some (t, resolver)

/-! ## One interface -/

/-- A packet of an interface. -/
def takePacket (o : NetworkOwner) (now : CoreTick) (i : Lan) (bytes : List UInt8) : NetworkOwner :=
  let d := o.dhcp i
  if docs.arpConflict d bytes then withDhcp o i (dhcpConflict d now)
  else
    match docs.payload d bytes with
    | none => o
    | some payload =>
        let (r, d) := dhcpReceive d payload now
        let o := withDhcp o i d
        if r > 0 ∧ d.state = .probing then
          { o with probeAt := Function.update o.probeAt i (now + d.xid % 1000) }
        else o

/-- At most so many packets of an interface. -/
def takePackets (docs : OwnerDocuments) (now : CoreTick) (i : Lan) : Nat → NetworkOwner → OwnerProg NetworkOwner
  | 0, o => pure o
  | packets + 1, o => do
      match ← ownerCall (.receive i) with
      | .nothing => pure o
      | .failed => closeLan { o with error := 3 } i
      | .packet bytes => takePackets docs now i packets (takePacket docs o now i bytes)

/-- The message the client has to send, if any. -/
def sendMessage (now : CoreTick) (i : Lan) : OwnerProg NetworkOwner := do
  if (o.dhcp i).sendType ≠ 0 then
    let made ← ownerCall (.send i)
    pure (if made then withDhcp o i (dhcpPacketMade (o.dhcp i) now) else o)
  else pure o

/-- The ARP probes of a new address. -/
def probeAddress (now : CoreTick) (i : Lan) : OwnerProg NetworkOwner := do
  let d := o.dhcp i
  if d.state = .probing ∧ due now (o.probeAt i) then
    if d.probes < 3 then
      let r ← ownerCall (.probe i false)
      if r ≠ 0 then pure (withDhcp { o with error := 4 } i (dhcpConflict d now))
      else
        let wait : CoreTick := if d.probes + 1 = 3 then 2000 else 1000 + d.xid % 1000
        pure (withDhcp { o with probeAt := Function.update o.probeAt i (now + wait) } i
          { d with probes := d.probes + 1 })
    else
      match dhcpProbed d now with
      | (0, d) => do
          let _ ← ownerCall (.probe i true)
          pure (withDhcp o i d)
      | (_, d) => pure (withDhcp o i d)
  else pure o

/-- An interface with an open socket. -/
def runClient (o : NetworkOwner) (now : CoreTick) (i : Lan) : OwnerProg NetworkOwner := do
  let o := withDhcp o i (dhcpStep (o.dhcp i) now ((o.observed.lan i).link ≠ 0))
  let o ← takePackets docs now i 4 o
  let o ← sendMessage o now i
  let o ← probeAddress o now i
  pure (withDhcp o i { o.dhcp i with changed := false })

/-- The body of the loop over the interfaces: whether the interface may be ready, or
    `none` when the step ends here. -/
def stepLan (o : NetworkOwner) (now : CoreTick) (i : Lan) : OwnerProg (NetworkOwner × Option Bool) := do
  if (o.policy.settings.lan i).mode ≠ .dhcpClient ∨ o.stopping then pure (o, some true)
  else if !o.opened i then
    if !due now o.retryAt then pure (o, some false)
    else
      let r ← ownerCall (.open i)
      if r ≠ 0 then pure ({ o with error := 2, retryAt := now + 1000 }, none)
      else
        let o := { o with opened := Function.update o.opened i true, nextXid := o.nextXid + 1 }
        let o ← runClient docs (withDhcp o i (dhcpStart (o.observed.lan i).mac o.nextXid now)) now i
        pure (o, some (o.dhcp i).valid)
  else
    let o ← runClient docs o now i
    pure (o, some (o.dhcp i).valid)

/-! ## The step -/

/-- An interface whose lease can be given back. -/
def giveUpLease (now : CoreTick) (i : Lan) : NetworkOwner :=
  if (o.policy.settings.lan i).mode = .dhcpClient ∧ ((o.dhcp i).valid ∨ (o.dhcp i).state = .probing) then
    withDhcp o i (dhcpConflict (o.dhcp i) now)
  else o

/-- The target, without the leases if it does not work with them: whether it did. -/
def chooseTarget (o : NetworkOwner) (now : CoreTick) : NetworkOwner × Option Bool :=
  match computeTarget docs o.policy o.observed o.dhcp with
  | some (t, resolver) => ({ o with target := t, resolver := resolver }, some true)
  | none =>
      let o := giveUpLease (giveUpLease { o with error := 5 } now 0) now 1
      match computeTarget docs o.policy o.observed o.dhcp with
      | some (t, resolver) => ({ o with target := t, resolver := resolver, dirty := true }, some false)
      | none => (o, none)

/-- The writer no longer writes what is wanted. -/
def staleJob : Bool :=
  o.jobGeneration ≠ o.generation || !observationEqual o.writing o.target

/-- A job that has ended is reaped. -/
def reapJob (now : CoreTick) : OwnerProg NetworkOwner := do
  let r ← ownerCall .poll
  if r = 0 then pure o
  else
    let reaped := { o with job := false, dirty := o.canceling || staleJob o, nextObserve := now }
    if !o.canceling && decide (r < 0) then pure { reaped with error := 7, retryAt := now + 1000 }
    else pure { reaped with canceling := false }

/-- A write job is outstanding. -/
def watchJob (now : CoreTick) : OwnerProg NetworkOwner := do
  if (staleJob o || due now o.jobDeadline) && !o.canceling then
    let r ← ownerCall .cancel
    if r ≠ 0 then pure { o with error := 6 } else reapJob { o with canceling := true } now
  else reapJob o now

/-- The end of the step, with the target known and all interfaces `eligible` or not. -/
def settle (now : CoreTick) (eligible : Bool) : OwnerProg NetworkOwner := do
  if o.job then watchJob o now
  else if (o.dirty || !observationEqual o.observed o.target) && due now o.retryAt then
    let r ← ownerCall (.apply o.target o.resolver)
    if r ≠ 0 then pure { o with error := 8, retryAt := now + 1000 }
    else pure { o with writing := o.target, jobGeneration := o.generation, job := true, dirty := false,
                       jobDeadline := now + 1000 }
  else if observationEqual o.observed o.target && !o.dirty then
    pure { o with error := 0, ready := eligible, settled := true }
  else pure o

/-- The step once the interfaces are observed. -/
def ownerObserved (o : NetworkOwner) (now : CoreTick) : OwnerProg NetworkOwner := do
  match ← stepLan docs o now 0 with
  | (o, none) => pure o
  | (o, some first) =>
    match ← stepLan docs o now 1 with
    | (o, none) => pure o
    | (o, some second) =>
      match chooseTarget docs o now with
      | (o, none) => pure o
      | (o, some suits) =>
          let routed := o.policy.settings.defaultLan = 0 || o.target.defaultLan ≠ 0
          let named := o.policy.settings.automaticDns = 0 || o.target.dns 0 ≠ []
          settle o now (first && second && suits && routed && named)

/-- A job that has ended is reaped, with the interfaces not observed. -/
def reapBlind : OwnerProg NetworkOwner := do
  let r ← ownerCall .poll
  if r ≠ 0 then pure { o with job := false, canceling := false, dirty := true } else pure o

/-- The step when they are not. -/
def ownerBlind : OwnerProg NetworkOwner := do
  let o := { o with error := 1 }
  if !o.job then pure o
  else if !o.canceling then
    let r ← ownerCall .cancel
    reapBlind (if r = 0 then { o with canceling := true } else o)
  else reapBlind o

/-- A lease that has run out, whatever is observed. -/
def expireLease (now : CoreTick) (i : Lan) : NetworkOwner :=
  if (o.dhcp i).valid && due now (o.dhcp i).expiresAt then
    { withDhcp o i (dhcpStep (o.dhcp i) now true) with dirty := true }
  else o

/-- `gateway_network_owner_step`. -/
def ownerStep (o : NetworkOwner) (now : CoreTick) : OwnerProg NetworkOwner := do
  if !o.active then pure o
  else
    let o := expireLease (expireLease { o with ready := false, settled := false } now 0) now 1
    if due now o.nextObserve then
      let (r, observed) ← ownerCall .observe
      let o := { o with observed := observed }
      if r ≠ 0 ∨ observed.unsupported ≠ 0 then ownerBlind o
      else ownerObserved docs { o with nextObserve := now + 250 } now
    else ownerObserved docs o now

/-- `gateway_network_owner_stop`. -/
def ownerStop : OwnerProg NetworkOwner := do
  let o ← closeLan o 0
  let o ← closeLan o 1
  let stopped (o : NetworkOwner) : NetworkOwner :=
    { o with ready := false, settled := false, stopping := true, dirty := true,
             generation := o.generation + 1 }
  if o.job && !o.canceling then
    let r ← ownerCall .cancel
    pure (stopped (if r = 0 then { o with canceling := true } else o))
  else pure (stopped o)

end FourVrs.Network
